import GroutCni.Cni.Handler
import GroutCni.Wire.Bytes
import Mathlib.Data.List.Forall2

/-!
# Gateways

`gatewaysFor` makes one gateway for each address family of an IPAM result, from the first
address of that family.  A gateway that the IPAM plugin has not given is the network address
plus one; it lies in the subnet unless the mask has no zero (`gatewaysFor_iff`).
-/

namespace GroutCni

open Wire

/-! ### Masks -/

/-- The bytes of a mask that have ones followed by at least one zero. -/
def partialBytes : List UInt8 := [0x00, 0x80, 0xc0, 0xe0, 0xf0, 0xf8, 0xfc, 0xfe]

/-- A mask consists of ones, or its last byte ends with a zero. -/
theorem cidrMask_succ (ones n : Nat) :
  ∃ init last, cidrMask ones (n + 1) = init ++ [last] ∧
    ((∀ b ∈ init ++ [last], b = 0xff) ∨ last ∈ partialBytes)
  := by
  have hbytes : ∀ ones < 8, ~~~(0xff >>> UInt8.ofNat ones) ∈ partialBytes := by decide
  induction n generalizing ones with
  | zero =>
      rw [cidrMask]
      split
      case isTrue => exact ⟨[], 0xff, rfl, .inl fun b hb => List.mem_singleton.mp hb⟩
      case isFalse h => exact ⟨[], _, rfl, .inr (hbytes ones (Nat.lt_of_not_le h))⟩
  | succ n ih =>
      rw [cidrMask]
      split
      case isTrue h =>
        obtain ⟨init, last, heq, hlast⟩ := ih (ones - 8)
        refine ⟨0xff :: init, last, by rw [heq, List.cons_append], ?_⟩
        rcases hlast with hfull | hlast
        · refine .inl ?_
          intro b hb
          rcases List.mem_cons.mp hb with rfl | hb
          · rfl
          · exact hfull b hb
        · exact .inr hlast
      case isFalse =>
        refine ⟨~~~(0xff >>> UInt8.ofNat ones) :: List.replicate n 0, 0, ?_, .inr (by decide)⟩
        rw [cidrMask_zero, List.replicate_succ', List.cons_append]

/-- Masking an address of the mask's length. -/
theorem maskIP_of_length {ip : IP} {mask : IPMask} (h : ip.length = mask.length) :
  maskIP ip mask = some (List.zipWith (· &&& ·) ip mask)
  := by
  have hmask : effectiveMask ip mask = mask := if_neg (by omega)
  have hip : effectiveIP ip mask = ip := if_neg (by omega)
  unfold maskIP
  dsimp only
  rw [hmask, hip, if_pos h]

/-- Masking twice is masking once. -/
theorem zipWith_and_zipWith_and (ip mask : List UInt8) :
  List.zipWith (· &&& ·) (List.zipWith (· &&& ·) ip mask) mask
    = List.zipWith (· &&& ·) ip mask
  := by
  induction ip generalizing mask with
  | nil => rfl
  | cons b ip ih =>
      cases mask with
      | nil => rfl
      | cons m mask => simp [ih, UInt8.and_assoc]

/-- A masked address of the mask's length is its own network address. -/
theorem zipWith_and_of_maskIP {ip network : IP} {mask : IPMask}
    (h : maskIP ip mask = some network) (hlen : network.length = mask.length) :
  List.zipWith (· &&& ·) network mask = network
  := by
  unfold maskIP at h
  dsimp only at h
  split at h
  case isFalse => cases h
  case isTrue =>
    cases h
    have hmask : effectiveMask ip mask = mask := by
      apply if_neg
      intro hcond
      -- The network address would have four bytes.
      rw [effectiveMask, if_pos hcond, List.length_zipWith, List.length_drop] at hlen
      omega
    rw [hmask]
    apply zipWith_and_zipWith_and

/-! ### The address after the network address -/

/-- An address as a number. -/
def addrNumber (ip : IP) : Nat := ofLE ip.reverse

theorem addrNumber_concat (init : IP) (b : UInt8) :
  addrNumber (init ++ [b]) = b.toNat + 256 * addrNumber init
  := by
  rw [addrNumber, List.reverse_append, List.reverse_singleton, List.singleton_append, ofLE,
    ← addrNumber]

/-- Where the mask has a zero, adding one does not change the masked byte. -/
theorem add_one_and {b m : UInt8} (hm : m ∈ partialBytes) (hb : b &&& m = b) :
  (b + 1) &&& m = b ∧ (b + 1).toNat = b.toNat + 1
  := by
  -- the mask ends with a zero, so a masked byte is even and adding one sets its last bit
  have hlow : 1 &&& m = 0 := by
    have hall : partialBytes.all (fun m => 1 &&& m == 0) = true := by decide
    exact beq_iff_eq.mp (List.all_eq_true.mp hall m hm)
  have heven : b &&& 1 = 0 := by
    rw [← hb, UInt8.and_assoc, UInt8.and_comm m, hlow, UInt8.and_zero]
  have hnext : ∀ b : UInt8, b &&& 1 = 0 → b + 1 = b ||| 1 ∧ (b + 1).toNat = b.toNat + 1 :=
    forall_byte (by decide +kernel)
  obtain ⟨hor, hnat⟩ := hnext b heven
  refine ⟨?_, hnat⟩
  have hdistrib : (b ||| 1) &&& m = (b &&& m) ||| (1 &&& m) := by
    apply UInt8.toBitVec_inj.mp
    ext i hi
    simp [Bool.and_or_distrib_right]
  rw [hor, hdistrib, hb, hlow, UInt8.or_zero]

/-- Where the mask has no zero, adding one changes the byte. -/
theorem add_one_and_full :
  ∀ b : UInt8, (b + 1) &&& 0xff ≠ b
  := forall_byte (by decide +kernel)

/-- The network address of an address with a mask of ones and zeros, and the address that is
derived from it: the next one.  It lies in the subnet unless the mask has no zero. -/
theorem derived_iff {ip network : IP} {mask : IPMask} {ones n : Nat}
    (hmask : mask = cidrMask ones (n + 1)) (h : maskIP ip mask = some network)
    (hlen : network.length = mask.length) :
  ∃ gw, incrementLast network = some gw ∧
    (addrNumber gw = addrNumber network + 1 ∧ maskIP gw mask = some network
      ↔ ∃ b ∈ mask, b ≠ 0xff)
  := by
  obtain ⟨minit, m, hcidr, hlast⟩ := cidrMask_succ ones n
  rw [← hmask] at hcidr
  subst hcidr
  have hand := zipWith_and_of_maskIP h hlen
  have hne : network ≠ [] := by
    rintro rfl
    simp at hlen
  obtain ⟨init, b, rfl⟩ := (List.eq_nil_or_concat' network).resolve_left hne
  have hinit : init.length = minit.length := by simpa using hlen
  rw [List.zipWith_append hinit] at hand
  obtain ⟨hand, hb⟩ := List.append_inj' hand rfl
  rw [List.zipWith_cons_cons, List.zipWith_nil_left, List.cons.injEq] at hb
  refine ⟨init ++ [b + 1], ?_, ?_⟩
  · simp [incrementLast]
  · have hgw : maskIP (init ++ [b + 1]) (minit ++ [m]) = some (init ++ [(b + 1) &&& m]) := by
      rw [maskIP_of_length (by simp [hinit]), List.zipWith_append hinit, hand]
      rfl
    rw [hgw, addrNumber_concat, addrNumber_concat, Option.some.injEq, List.append_right_inj,
      List.cons.injEq]
    rcases hlast with hfull | hbytes
    · obtain rfl : m = 0xff := hfull m (by simp)
      constructor
      · rintro ⟨-, hsame, -⟩
        exact absurd hsame (add_one_and_full b)
      · rintro ⟨x, hx, hxne⟩
        exact absurd (hfull x hx) hxne
    · obtain ⟨hsame, hnext⟩ := add_one_and hbytes hb.1
      rw [hsame, hnext]
      constructor
      · intro _
        refine ⟨m, by simp, ?_⟩
        rintro rfl
        revert hbytes
        decide
      · intro _
        exact ⟨by omega, rfl, rfl⟩

/-! ### One gateway for each family -/

/-- The address is an IPv4 address. -/
def IPConfig.isV4 (ip : IPConfig) : Bool := (to4 ip.address.ip).isSome

/-- The first address of each family, in the order in which the families occur. -/
def firstOfFamilies (ips : List IPConfig) : List IPConfig :=
  ips.eraseDupsBy fun a b => a.isV4 == b.isV4

theorem mem_of_mem_firstOfFamilies {ips : List IPConfig} {ip : IPConfig}
    (h : ip ∈ firstOfFamilies ips) :
  ip ∈ ips
  := by
  -- The recursion is on the list without the family of its first address.
  induction hn : ips.length using Nat.strong_induction_on generalizing ips with
  | _ n ih =>
      cases ips with
      | nil => cases h
      | cons first ips =>
          rw [firstOfFamilies, List.eraseDupsBy_cons, ← firstOfFamilies] at h
          rcases List.mem_cons.mp h with rfl | h
          · exact List.mem_cons_self
          · apply List.mem_cons_of_mem
            apply List.mem_of_mem_filter
            apply ih _ _ h rfl
            rw [← hn, List.length_cons]
            exact Nat.lt_succ_of_le (List.length_filter_le _ _)

/-- What `gatewaysFor` makes of an address. -/
def gatewayNet (ip : IPConfig) : IPNet :=
  { ip := (gatewayOf ip).getD [], mask := ip.address.mask }

/-- The family of the address has not been seen. -/
def unseen (seen4 seen6 : Bool) (ip : IPConfig) : Bool :=
  !(ip.isV4 && seen4 || !ip.isV4 && seen6)

/-- After an address, those of its family are seen. -/
theorem unseen_or (seen4 seen6 : Bool) (ip ip' : IPConfig) :
  unseen (seen4 || ip.isV4) (seen6 || !ip.isV4) ip'
    = (decide ((ip'.isV4 == ip.isV4) = false) && unseen seen4 seen6 ip')
  := by
  unfold unseen
  cases ip.isV4 <;> cases ip'.isV4 <;> cases seen4 <;> cases seen6 <;> rfl

/-- An address of a family that has not been seen is the first of its family. -/
theorem firstOfFamilies_unseen_cons {seen4 seen6 : Bool} {ip : IPConfig} {ips : List IPConfig}
    (h : unseen seen4 seen6 ip = true) :
  firstOfFamilies ((ip :: ips).filter (unseen seen4 seen6))
    = ip :: firstOfFamilies (ips.filter (unseen (seen4 || ip.isV4) (seen6 || !ip.isV4)))
  := by
  have hfilter : ips.filter (unseen (seen4 || ip.isV4) (seen6 || !ip.isV4))
      = (ips.filter (unseen seen4 seen6)).filter
        fun ip' => decide ((ip'.isV4 == ip.isV4) = false) := by
    rw [List.filter_filter]
    exact congrArg (List.filter · ips) (funext (unseen_or seen4 seen6 ip))
  rw [List.filter_cons_of_pos h, firstOfFamilies, List.eraseDupsBy_cons, ← hfilter,
    ← firstOfFamilies]

/-- The loop takes the first address of each family that has not been seen, and panics if there
is no gateway for one of them. -/
theorem gatewaysFrom_map_some (ips : List IPConfig) (seen4 seen6 : Bool) :
  gatewaysFrom seen4 seen6 (ips.map some)
    = if (firstOfFamilies (ips.filter (unseen seen4 seen6))).all
          fun ip => (gatewayOf ip).isSome then
        some ((firstOfFamilies (ips.filter (unseen seen4 seen6))).map gatewayNet)
      else none
  := by
  induction ips generalizing seen4 seen6 with
  | nil => rfl
  | cons ip ips ih =>
      rw [List.map_cons, gatewaysFrom]
      by_cases hseen : unseen seen4 seen6 ip = true
      · have hcond : ¬((to4 ip.address.ip).isSome && seen4 ||
            !(to4 ip.address.ip).isSome && seen6) = true :=
          Bool.eq_false_iff.mp ((Bool.not_eq_true' _).mp hseen)
        rw [if_neg hcond, firstOfFamilies_unseen_cons hseen, List.all_cons]
        cases hgw : gatewayOf ip with
        | none => rfl
        | some gw =>
            have hnet : gatewayNet ip = { ip := gw, mask := ip.address.mask } := by
              rw [gatewayNet, hgw, Option.getD_some]
            have hrest := ih (seen4 || ip.isV4) (seen6 || !ip.isV4)
            split at hrest
            case isTrue hall =>
              rw [Option.isSome_some, Bool.true_and, if_pos hall, List.map_cons, hnet]
              exact congrArg (Option.bind · _) hrest
            case isFalse hall =>
              rw [Option.isSome_some, Bool.true_and, if_neg hall]
              exact congrArg (Option.bind · _) hrest
      · have hcond : ((to4 ip.address.ip).isSome && seen4 ||
            !(to4 ip.address.ip).isSome && seen6) = true :=
          Bool.not_eq_false _ |>.mp fun hfalse => hseen ((Bool.not_eq_true' _).mpr hfalse)
        rw [if_pos hcond, List.filter_cons_of_neg hseen]
        exact ih _ _

/-- `gatewaysFor` on entries that are there. -/
theorem gatewaysFor_map_some {result : Result} {ips : List IPConfig}
    (h : result.ips = ips.map some) :
  gatewaysFor result
    = if (firstOfFamilies ips).all fun ip => (gatewayOf ip).isSome then
        some ((firstOfFamilies ips).map gatewayNet)
      else none
  := by
  have hall : ips.filter (unseen false false) = ips := by
    apply List.filter_eq_self.mpr
    intro ip _
    simp [unseen]
  rw [gatewaysFor, h, gatewaysFrom_map_some, hall]

/-! ### Results that do not panic -/

/-- The address can be masked to an address that has a last byte: it has the length of the mask,
or it is an IPv4 address in 4 bytes with a mask in 16 bytes or the other way round. -/
def IPNet.Maskable (n : IPNet) : Prop :=
  n.ip.length = n.mask.length ∧ n.ip ≠ [] ∨
  n.ip.length = 4 ∧ n.mask.length = 16 ∧ (n.mask.take 12).all (· == 0xff) = true ∨
  n.ip.length = 16 ∧ n.ip.take 12 = v4InV6Prefix ∧ n.mask.length = 4

instance (n : IPNet) : Decidable n.Maskable :=
  inferInstanceAs (Decidable (_ ∨ _ ∨ _))

theorem IPNet.WellFormed.maskable {n : IPNet} (h : n.WellFormed) :
  n.Maskable
  := by
  rcases h with ⟨h4, hm⟩ | ⟨hi, hm⟩
  · obtain ⟨x, hx⟩ := Option.isSome_iff_exists.mp h4
    obtain ⟨hlen, rfl | ⟨hlen', hmapped, -⟩⟩ := to4_eq_some hx
    · exact .inl ⟨hlen.trans hm.symm, List.ne_nil_of_length_pos (by omega)⟩
    · exact .inr (.inr ⟨hlen', hmapped, hm⟩)
  · exact .inl ⟨hi.trans hm.symm, List.ne_nil_of_length_pos (by omega)⟩

/-- Masking and adding one succeeds for an address of the mask's length that has a byte. -/
theorem isSome_incrementLast_zipWith {ip : IP} {mask : IPMask} (h : ip.length = mask.length) :
  (incrementLast (List.zipWith (· &&& ·) ip mask)).isSome = true ↔ ip ≠ []
  := by
  have hnil : List.zipWith (· &&& ·) ip mask = [] ↔ ip = [] := by
    rw [← List.length_eq_zero_iff, ← List.length_eq_zero_iff, List.length_zipWith, h,
      Nat.min_self]
  rw [incrementLast, Option.isSome_map, List.getLast?_isSome, ne_eq, ne_eq, hnil]

theorem isSome_incrementLast_maskIP (n : IPNet) :
  ((maskIP n.ip n.mask).bind incrementLast).isSome = true ↔ n.Maskable
  := by
  unfold maskIP
  dsimp only
  by_cases hmask : n.mask.length = 16 ∧ n.ip.length = 4 ∧ (n.mask.take 12).all (· == 0xff) = true
  · -- the last four bytes of the mask are used
    have heff : effectiveMask n.ip n.mask = n.mask.drop 12 := if_pos hmask
    obtain ⟨hm, hi, hff⟩ := hmask
    have hip : effectiveIP n.ip (n.mask.drop 12) = n.ip := if_neg (by omega)
    have hlen : n.ip.length = (n.mask.drop 12).length := by rw [List.length_drop, hm, hi]
    have hne : n.ip ≠ [] := List.ne_nil_of_length_pos (by omega)
    rw [heff, hip, if_pos hlen, Option.bind_some, isSome_incrementLast_zipWith hlen]
    simp [IPNet.Maskable, hne, hi, hm, hff]
  have heff : effectiveMask n.ip n.mask = n.mask := if_neg hmask
  by_cases hmapped : n.mask.length = 4 ∧ n.ip.length = 16 ∧ n.ip.take 12 = v4InV6Prefix
  · -- the last four bytes of the address are used
    have hip : effectiveIP n.ip n.mask = n.ip.drop 12 := if_pos hmapped
    obtain ⟨hm, hi, hv4⟩ := hmapped
    have hlen : (n.ip.drop 12).length = n.mask.length := by rw [List.length_drop, hm, hi]
    have hne : n.ip.drop 12 ≠ [] := List.ne_nil_of_length_pos (by omega)
    rw [heff, hip, if_pos hlen, Option.bind_some, isSome_incrementLast_zipWith hlen]
    simp only [IPNet.Maskable, ne_eq, hne, hi, hm, hv4, and_self, or_true, not_false_eq_true]
  have hip : effectiveIP n.ip n.mask = n.ip := if_neg hmapped
  have hmaskable : n.Maskable ↔ n.ip.length = n.mask.length ∧ n.ip ≠ [] := by
    constructor
    · rintro (hlen | ⟨hi, hm, hff⟩ | ⟨hi, hv4, hm⟩)
      · exact hlen
      · exact absurd ⟨hm, hi, hff⟩ hmask
      · exact absurd ⟨hm, hi, hv4⟩ hmapped
    · exact .inl
  rw [heff, hip, hmaskable]
  by_cases hlen : n.ip.length = n.mask.length
  · rw [if_pos hlen, Option.bind_some, isSome_incrementLast_zipWith hlen, and_iff_right hlen]
  · simp [hlen]

/-- There is a gateway for an entry unless none is given and its address cannot be masked. -/
theorem isSome_gatewayOf_iff (ip : IPConfig) :
  (gatewayOf ip).isSome = true ↔ (ip.gateway = none → ip.address.Maskable)
  := by
  unfold gatewayOf
  cases ip.gateway with
  | some gw => simp
  | none =>
      dsimp only
      rw [isSome_incrementLast_maskIP]
      simp

/-- The functions that build the answer to an ADD complete on the result: no entry is nil, and
the first address of a family, if no gateway is given for it, can be masked. -/
def Result.Completes (result : Result) : Prop :=
  ∃ ips : List IPConfig, result.ips = ips.map some ∧
    ∀ ip ∈ firstOfFamilies ips, ip.gateway = none → ip.address.Maskable

/-- Entries that are not nil. -/
theorem exists_eq_map_some {ipcs : List (Option IPConfig)} (h : none ∉ ipcs) :
  ∃ ips : List IPConfig, ipcs = ips.map some
  := by
  induction ipcs with
  | nil => exact ⟨[], rfl⟩
  | cons ipc ipcs ih =>
      rw [List.mem_cons, not_or] at h
      obtain ⟨hipc, hipcs⟩ := h
      obtain ⟨ip, rfl⟩ := Option.ne_none_iff_exists'.mp (Ne.symm hipc)
      obtain ⟨ips, rfl⟩ := ih hipcs
      exact ⟨ip :: ips, rfl⟩

/-- The loop goes over all entries, and panics at one that is nil. -/
theorem gatewaysFrom_of_none_mem {ipcs : List (Option IPConfig)} (h : none ∈ ipcs)
    (seen4 seen6 : Bool) :
  gatewaysFrom seen4 seen6 ipcs = none
  := by
  induction ipcs generalizing seen4 seen6 with
  | nil => cases h
  | cons ipc ipcs ih =>
      cases ipc with
      | none => rfl
      | some ip =>
          have hrest := ih (List.mem_of_ne_of_mem (by simp) h)
          rw [gatewaysFrom]
          split
          · exact hrest _ _
          · rw [hrest]
            cases gatewayOf ip <;> rfl

/-- `gatewaysFor` completes exactly on these results. -/
theorem gatewaysFor_ne_none_iff (result : Result) :
  gatewaysFor result ≠ none ↔ result.Completes
  := by
  have hmap : ∀ ips : List IPConfig, result.ips = ips.map some → (gatewaysFor result ≠ none ↔
      ∀ ip ∈ firstOfFamilies ips, ip.gateway = none → ip.address.Maskable) := by
    intro ips hips
    rw [gatewaysFor_map_some hips]
    simp only [ne_eq, ite_eq_right_iff, reduceCtorEq, imp_false, not_not, List.all_eq_true,
      isSome_gatewayOf_iff]
  constructor
  · intro h
    obtain ⟨ips, hips⟩ := exists_eq_map_some fun hnil => h (gatewaysFrom_of_none_mem hnil _ _)
    exact ⟨ips, hips, (hmap ips hips).mp h⟩
  · rintro ⟨ips, hips, h⟩
    exact (hmap ips hips).mpr h

/-- Pointing the entries at the interface completes if no entry is nil. -/
theorem pointAtInterface_map_some (ips : List IPConfig) :
  pointAtInterface (ips.map some) = some (ips.map fun ip => some { ip with interface := some 0 })
  := by
  unfold pointAtInterface
  induction ips with
  | nil => rfl
  | cons ip ips ih => simp [List.mapM_cons, ih]

theorem Result.Completes.podResult_ne_none {result : Result} (h : result.Completes)
    (args : CmdArgs) :
  podResult args result ≠ none
  := by
  obtain ⟨ips, hips, -⟩ := h
  simp [podResult, hips, pointAtInterface_map_some]

theorem Result.Completes.vhostResult_ne_none {result : Result} (h : result.Completes)
    (args : CmdArgs) (socketPath : GoString) :
  vhostResult args result socketPath ≠ none
  := by
  obtain ⟨ips, hips, -⟩ := h
  simp [vhostResult, hips, pointAtInterface_map_some]

/-! ### Gateways that are right -/

/-- The address is given in CIDR notation: an IPv4 address, in 4 or 16 bytes, with a mask of
up to 32 ones, or an IPv6 address with a mask of up to 128 ones. -/
def IPNet.IsCIDR (n : IPNet) : Prop :=
  (to4 n.ip).isSome = true ∧ (∃ ones ≤ 32, n.mask = cidrMask ones 4) ∨
  to4 n.ip = none ∧ n.ip.length = 16 ∧ ∃ ones ≤ 128, n.mask = cidrMask ones 16

/-- The gateway for an address: it has the mask of the address, and is the gateway that is
given for it, or else the network address plus one, which lies in the subnet. -/
structure IsGatewayOf (ip : IPConfig) (gw : IPNet) : Prop where
  mask : gw.mask = ip.address.mask
  given : ∀ g ∈ ip.gateway, gw.ip = g
  derived : ip.gateway = none → ∃ network,
    maskIP ip.address.ip ip.address.mask = some network ∧
    addrNumber gw.ip = addrNumber network + 1 ∧
    maskIP gw.ip ip.address.mask = some network

theorem IPNet.IsCIDR.wellFormed {n : IPNet} (h : n.IsCIDR) :
  n.WellFormed
  := by
  rcases h with ⟨h4, ones, -, hmask⟩ | ⟨-, hlen, ones, -, hmask⟩
  · exact .inl ⟨h4, by rw [hmask, length_cidrMask]⟩
  · exact .inr ⟨hlen, by rw [hmask, length_cidrMask]⟩

/-- What is derived from an address lies in its subnet unless the mask has no zero. -/
theorem IPNet.IsCIDR.derived_iff {n : IPNet} (h : n.IsCIDR) :
  ∃ network gw, maskIP n.ip n.mask = some network ∧ incrementLast network = some gw ∧
    (addrNumber gw = addrNumber network + 1 ∧ maskIP gw n.mask = some network
      ↔ ∃ b ∈ n.mask, b ≠ 0xff)
  := by
  obtain ⟨network, hnetwork, hlen⟩ := h.wellFormed.maskIP
  obtain ⟨ones, k, hmask⟩ : ∃ ones k, n.mask = cidrMask ones (k + 1) := by
    rcases h with ⟨-, ones, -, hmask⟩ | ⟨-, -, ones, -, hmask⟩
    · exact ⟨ones, 3, hmask⟩
    · exact ⟨ones, 15, hmask⟩
  obtain ⟨gw, hgw, hiff⟩ := GroutCni.derived_iff hmask hnetwork hlen
  exact ⟨network, gw, hnetwork, hgw, hiff⟩

/-- An address has the right gateway unless none is given and its mask has no zero. -/
theorem isGatewayOf_iff {ip : IPConfig} (h : ip.address.IsCIDR) :
  IsGatewayOf ip (gatewayNet ip) ↔ (ip.gateway = none → ∃ b ∈ ip.address.mask, b ≠ 0xff)
  := by
  obtain ⟨network, gw, hnetwork, hgw, hiff⟩ := h.derived_iff
  cases hgiven : ip.gateway with
  | some g =>
      have hip : (gatewayNet ip).ip = g := by
        rw [gatewayNet, gatewayOf, hgiven]
        rfl
      constructor
      · intro _ hnone
        cases hnone
      · intro _
        refine ⟨rfl, ?_, ?_⟩
        · intro g' hg'
          rw [hgiven, Option.mem_some_iff] at hg'
          exact hip.trans hg'
        · intro hnone
          rw [hgiven] at hnone
          cases hnone
  | none =>
      have hip : (gatewayNet ip).ip = gw := by
        rw [gatewayNet, gatewayOf, hgiven]
        dsimp only
        rw [hnetwork, Option.bind_some, hgw, Option.getD_some]
      constructor
      · intro hgateway _
        obtain ⟨network', hnetwork', hnumber, hsubnet⟩ := hgateway.derived hgiven
        rw [hnetwork, Option.some.injEq] at hnetwork'
        subst hnetwork'
        rw [hip] at hnumber hsubnet
        exact hiff.mp ⟨hnumber, hsubnet⟩
      · intro hmask
        obtain ⟨hnumber, hsubnet⟩ := hiff.mpr (hmask rfl)
        refine ⟨rfl, ?_, ?_⟩
        · intro g hg
          rw [hgiven] at hg
          cases hg
        · intro _
          rw [hip]
          exact ⟨network, hnetwork, hnumber, hsubnet⟩

/-- For every IPAM result with addresses in CIDR notation, `gatewaysFor` makes the right
gateway for the first address of each family, in the order of the families, exactly if none of
these addresses both has no gateway and a mask without a zero. -/
theorem gatewaysFor_iff {result : Result} {ips : List IPConfig}
    (hips : result.ips = ips.map some) (hcidr : ∀ ip ∈ ips, ip.address.IsCIDR) :
  (∃ gws, gatewaysFor result = some gws ∧ List.Forall₂ IsGatewayOf (firstOfFamilies ips) gws) ↔
    ∀ ip ∈ firstOfFamilies ips, ip.gateway = none → ∃ b ∈ ip.address.mask, b ≠ 0xff
  := by
  have hgws : gatewaysFor result = some ((firstOfFamilies ips).map gatewayNet) := by
    rw [gatewaysFor_map_some hips, if_pos]
    apply List.all_eq_true.mpr
    intro ip hip
    apply (isSome_gatewayOf_iff ip).mpr
    intro _
    exact (hcidr ip (mem_of_mem_firstOfFamilies hip)).wellFormed.maskable
  have hforall : (∃ gws, gatewaysFor result = some gws ∧
      List.Forall₂ IsGatewayOf (firstOfFamilies ips) gws)
      ↔ ∀ ip ∈ firstOfFamilies ips, IsGatewayOf ip (gatewayNet ip) := by
    rw [hgws]
    simp [List.forall₂_map_right_iff, List.forall₂_same]
  rw [hforall]
  constructor
  · intro h ip hip
    exact (isGatewayOf_iff (hcidr ip (mem_of_mem_firstOfFamilies hip))).mp (h ip hip)
  · intro h ip hip
    exact (isGatewayOf_iff (hcidr ip (mem_of_mem_firstOfFamilies hip))).mpr (h ip hip)

/-- Two IPv4 addresses, the first with a mask of 31 ones, and an IPv6 address; none has a
gateway. -/
def dualStack : List IPConfig :=
  [{ address := ⟨[10, 0, 0, 5], cidrMask 31 4⟩ }, { address := ⟨[10, 0, 1, 7], cidrMask 32 4⟩ },
    { address := ⟨0xfd :: List.replicate 15 7, cidrMask 64 16⟩ }]

/-- The gateways of `dualStack`: the second IPv4 address, whose mask has no zero, is not the
first of its family. -/
theorem gatewaysFor_dualStack :
  (firstOfFamilies dualStack).length = 2 ∧
    ∃ gws, gatewaysFor { ips := dualStack.map some } = some gws ∧
      List.Forall₂ IsGatewayOf (firstOfFamilies dualStack) gws
  := by
  have hcidr : ∀ ip ∈ dualStack, ip.address.IsCIDR := by
    intro ip hip
    simp only [dualStack, List.mem_cons, List.not_mem_nil, or_false] at hip
    rcases hip with rfl | rfl | rfl
    · exact .inl ⟨rfl, 31, by decide, rfl⟩
    · exact .inl ⟨rfl, 32, by decide, rfl⟩
    · exact .inr ⟨by decide, rfl, 64, by decide, rfl⟩
  exact ⟨by decide +kernel, (gatewaysFor_iff rfl hcidr).mpr (by decide +kernel)⟩

/-- A single address without a gateway, with a mask of 32 ones: what is derived is the address
of another host, outside of the subnet. -/
theorem gatewaysFor_host_mask :
  gatewaysFor { ips := [some { address := ⟨[10, 0, 0, 5], cidrMask 32 4⟩ }] }
      = some [⟨[10, 0, 0, 6], cidrMask 32 4⟩] ∧
    maskIP [10, 0, 0, 6] (cidrMask 32 4) ≠ maskIP [10, 0, 0, 5] (cidrMask 32 4)
  := by decide +kernel

end GroutCni
