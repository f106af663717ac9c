import GroutCni.Api.Stream
import GroutCni.Api.Client
import GroutCni.Cni.Names

/-!
# The layout of an interface

What `InterfaceAdd` sends is found again at its offsets, and all other bytes are zero.  In
particular an entry of an interface list that begins like the payload is decoded to the
interface that was asked for (`interfaceAdd_codec`).
-/

namespace GroutCni

open Wire Api

/-! ### Reading buffers -/

section

variable {b : Bytes} {off n : Nat}

theorem uint16At_of_slice {x : UInt16} (h : slice b off 2 = toLE 2 x.toNat) :
  uint16At b off = x
  := by
  rw [uint16At, h, ofLE_toLE x.toNat_lt, UInt16.ofNat_toNat]

theorem uint32At_of_slice {x : UInt32} (h : slice b off 4 = toLE 4 x.toNat) :
  uint32At b off = x
  := by
  rw [uint32At, h, uint32At_toLE]

theorem getD_of_slice {x : UInt8} (h : slice b off 1 = [x]) :
  b.getD off 0 = x
  := by
  have hget : (slice b off 1)[0]? = some x := by
    rw [h]
    rfl
  rw [getElem?_slice, if_pos Nat.one_pos, Nat.add_zero] at hget
  rw [List.getD_eq_getElem?_getD, hget, Option.getD_some]

/-- A string in a buffer is read up to its NUL. -/
theorem cString_slice {name : GoString} (hname : 0 ∉ name) (hlen : name.length < n)
    (hslice : slice b off name.length = name) (hnul : b[off + name.length]? = some 0) :
  cString (slice b off n) = name
  := by
  obtain ⟨m, rfl⟩ := Nat.exists_eq_add_of_lt hlen
  obtain ⟨hlt, hget⟩ := List.getElem?_eq_some_iff.mp hnul
  have hrest : slice b (off + name.length) (m + 1)
      = 0 :: slice b (off + name.length + 1) m := by
    rw [slice, List.drop_eq_getElem_cons hlt, hget, List.take_succ_cons, ← slice]
  have hall : ∀ c ∈ name, decide (c ≠ 0) = true := by
    intro c hc
    apply decide_eq_true
    rintro rfl
    exact hname hc
  rw [Nat.add_assoc, slice_add, hslice, hrest, cString, List.takeWhile_append_of_pos hall]
  simp

end

/-! ### The payload of `InterfaceAdd` -/

/-- The fields of the interface itself, with those that are left out when they are zero. -/
def allFields (req : InterfaceAddRequest) : List Field :=
  [u16 offIfaceID grIfaceIDUndef, u8 offIfaceType req.type, u16 offIfaceFlags grIfaceFlagUp,
    u16 offIfaceDomain req.domainID, u16 offIfaceMTU req.mtu,
    ⟨offIfaceName, req.name.take ifNameSize⟩]

theorem ifaceFields_sublist (req : InterfaceAddRequest) :
  (ifaceFields req).Sublist (allFields req)
  := by
  have hopt : ∀ (c : Prop) [Decidable c] (f : Field),
      (if c then [f] else []).Sublist [f] := by
    intro c _ f
    split
    · apply List.Sublist.refl
    · apply List.nil_sublist
  exact (((List.Sublist.refl _).append (hopt _ _)).append (hopt _ _)).append
    (List.Sublist.refl _)

/-- What is left out is zero. -/
theorem eq_zero_of_not_mem_ifaceFields {req : InterfaceAddRequest} {f : Field}
    (hf : f ∈ allFields req) (hout : f ∉ ifaceFields req) :
  f.data = List.replicate f.data.length 0
  := by
  have hopt : ∀ (off : Nat) (x : UInt16), u16 off x ∉ (if x ≠ 0 then [u16 off x] else []) →
      (u16 off x).data = List.replicate (u16 off x).data.length 0 := by
    intro off x h
    split at h
    case isTrue => exact absurd List.mem_cons_self h
    case isFalse hx =>
      obtain rfl := not_not.mp hx
      rfl
  unfold ifaceFields at hout
  simp only [List.mem_append, not_or] at hout
  obtain ⟨⟨⟨hbase, hdomain⟩, hmtu⟩, hname⟩ := hout
  simp only [allFields, List.mem_cons, List.not_mem_nil, or_false] at hf
  rcases hf with rfl | rfl | rfl | rfl | rfl | rfl
  · exact absurd (by simp) hbase
  · exact absurd (by simp) hbase
  · exact absurd (by simp) hbase
  · exact hopt _ _ hdomain
  · exact hopt _ _ hmtu
  · exact absurd (by simp) hname

/-- The fields of the interface itself are apart and lie before the info section. -/
theorem allFields_apart (req : InterfaceAddRequest) :
  (allFields req).Pairwise Field.Apart ∧
    ∀ f ∈ allFields req, f.off + f.data.length ≤ offIfaceInfo
  := by
  have hname : (req.name.take 16).length ≤ 16 := by
    rw [List.length_take]
    omega
  constructor
  · simp [allFields, Field.Apart, u16, u8, offIfaceID, offIfaceType, offIfaceFlags,
      offIfaceDomain, offIfaceMTU, offIfaceName]
  · simp only [allFields, u16, u8, List.mem_cons, List.not_mem_nil, or_false, forall_eq_or_imp,
      forall_eq, length_toLE, List.length_singleton, offIfaceID, offIfaceType, offIfaceFlags,
      offIfaceDomain, offIfaceMTU, offIfaceName, ifNameSize, offIfaceInfo]
    omega

/-- The info section of each type of interface. -/
inductive IsInfo (req : InterfaceAddRequest) : List Field → Prop
  | bridge (h : req.type = InterfaceType.bridge) :
      IsInfo req [⟨offIfaceInfo + offBridgeInfoMAC, bridgeMAC req.name⟩]
  | vxlan {vxlan : VXLANConfig} {ip4 : IP} (h : req.type = InterfaceType.vxlan)
      (hvxlan : req.vxlan = some vxlan) (hip4 : to4 vxlan.localAddr = some ip4) :
      IsInfo req
        [u32 (offIfaceInfo + offVxlanVNI) vxlan.vni,
          u16 (offIfaceInfo + offVxlanEncapVRF) vxlan.encapVRFID,
          u16 (offIfaceInfo + offVxlanDstPort) vxlan.dstPort,
          u8 (offIfaceInfo + offVxlanLocal + offL3AddrAF) afIP4,
          ⟨offIfaceInfo + offVxlanLocal + offL3AddrIPv4, ip4⟩]
  | port (hbridge : req.type ≠ InterfaceType.bridge) (hvxlan : req.type ≠ InterfaceType.vxlan)
      (hlen : (devargs req).length < portDevargsSize) :
      IsInfo req [⟨offPortDevargs, devargs req⟩]

theorem isInfo_of_infoFields {req : InterfaceAddRequest} {info : List Field}
    (h : infoFields req = .ok info) :
  IsInfo req info
  := by
  unfold infoFields at h
  split at h
  case isTrue hbridge =>
    cases h
    exact .bridge hbridge
  case isFalse hbridge =>
    split at h
    case isTrue htype =>
      unfold vxlanFields putL3AddrIPv4 at h
      split at h
      case h_1 => cases h
      case h_2 vxlan hvxlan =>
        cases hip4 : to4 vxlan.localAddr with
        | none =>
            rw [hip4] at h
            cases h
        | some ip4 =>
            rw [hip4] at h
            cases h
            exact .vxlan htype hvxlan hip4
    case isFalse htype =>
      unfold portFields at h
      split at h
      case isTrue => cases h
      case isFalse hlen =>
        cases h
        rw [List.take_of_length_le (Nat.le_of_not_le hlen)]
        exact .port hbridge htype (Nat.lt_of_not_le hlen)

theorem infoSize_port {type : InterfaceType} (hbridge : type ≠ InterfaceType.bridge)
    (hvxlan : type ≠ InterfaceType.vxlan) :
  infoSize type = portInfoSize
  := by
  rw [infoSize, if_neg hbridge, if_neg hvxlan]

/-- The fields of an info section are apart and lie in it. -/
theorem IsInfo.apart {req : InterfaceAddRequest} {info : List Field} (h : IsInfo req info) :
  info.Pairwise Field.Apart ∧
    ∀ f ∈ info, offIfaceInfo ≤ f.off ∧ f.off + f.data.length ≤ ifaceSize + infoSize req.type
  := by
  cases h with
  | bridge htype =>
      refine ⟨List.pairwise_singleton _ _, ?_⟩
      have hsize : ifaceSize + infoSize req.type = 432 := by rw [htype]; rfl
      have hmac : (bridgeMAC req.name).length = 6 := rfl
      simp [hsize, hmac, offIfaceInfo, offBridgeInfoMAC]
  | vxlan htype hvxlan hip4 =>
      have hsize : ifaceSize + infoSize req.type = 328 := by rw [htype]; rfl
      have hlen := length_of_to4 hip4
      constructor
      · simp [List.pairwise_cons, Field.Apart, u32, u16, u8, hlen, offIfaceInfo, offVxlanVNI,
          offVxlanEncapVRF, offVxlanDstPort, offVxlanLocal, offL3AddrAF, offL3AddrIPv4]
      · simp [hsize, u32, u16, u8, hlen, offIfaceInfo, offVxlanVNI,
          offVxlanEncapVRF, offVxlanDstPort, offVxlanLocal, offL3AddrAF, offL3AddrIPv4]
  | port hbridge hvxlan hlen =>
      refine ⟨List.pairwise_singleton _ _, ?_⟩
      have hsize : ifaceSize + infoSize req.type = 466 := by
        rw [infoSize_port hbridge hvxlan]
        rfl
      rw [hsize, portDevargsSize] at *
      simp only [List.mem_singleton, forall_eq, offPortDevargs, offIfaceInfo, portInfoBaseSize]
      omega

/-- What `InterfaceAdd` sends: fields that are apart, in a buffer of zeros that they fit in. -/
structure IsPayload (req : InterfaceAddRequest) (info : List Field) (payload : Bytes) : Prop where
  isInfo : IsInfo req info
  eq : payload = fill (ifaceSize + infoSize req.type) (ifaceFields req ++ info)
  apart : (allFields req ++ info).Pairwise Field.Apart
  fits : ∀ f ∈ allFields req ++ info,
    f.off + f.data.length ≤ ifaceSize + infoSize req.type

theorem isPayload_of_interfaceAddPayload {req : InterfaceAddRequest} {payload : Bytes}
    (h : interfaceAddPayload req = .ok payload) :
  ∃ info, IsPayload req info payload
  := by
  unfold interfaceAddPayload at h
  split at h
  case h_1 => cases h
  case h_2 info hinfo =>
    cases h
    have his := isInfo_of_infoFields hinfo
    obtain ⟨hbase, hbefore⟩ := allFields_apart req
    obtain ⟨hapart, hin⟩ := his.apart
    refine ⟨info, his, rfl, ?_, ?_⟩
    · apply List.pairwise_append.mpr
      refine ⟨hbase, hapart, ?_⟩
      intro f hf g hg
      exact .inl ((hbefore f hf).trans (hin g hg).1)
    · intro f hf
      rcases List.mem_append.mp hf with hf | hf
      · exact (hbefore f hf).trans (Nat.le_add_right _ _)
      · exact (hin f hf).2

namespace IsPayload

variable {req : InterfaceAddRequest} {info : List Field} {payload : Bytes}

theorem length (h : IsPayload req info payload) :
  payload.length = ifaceSize + infoSize req.type
  := by
  rw [h.eq, length_fill]

/-- A field is found at its offset. -/
theorem slice {f : Field} (h : IsPayload req info payload) (hf : f ∈ allFields req ++ info) :
  Wire.slice payload f.off f.data.length = f.data
  := by
  rw [h.eq]
  apply slice_fill_of_sublist ((ifaceFields_sublist req).append_right _) h.apart hf (h.fits f hf)
  intro hout
  rw [List.mem_append, not_or] at hout
  rcases List.mem_append.mp hf with hf | hf
  · exact eq_zero_of_not_mem_ifaceFields hf hout.1
  · exact absurd hf hout.2

/-- A byte of no field is zero. -/
theorem zero {i : Nat} (h : IsPayload req info payload) (hi : i < payload.length)
    (hout : ∀ f ∈ allFields req ++ info, ¬f.Covers i) :
  payload[i]? = some 0
  := by
  rw [h.length] at hi
  rw [h.eq]
  apply getElem?_fill_of_not_covers hi
  intro f hf
  exact hout f (((ifaceFields_sublist req).append_right _).subset hf)

theorem uint16At {off : Nat} {x : UInt16} (h : IsPayload req info payload)
    (hf : u16 off x ∈ allFields req ++ info) :
  GroutCni.uint16At payload off = x
  := by
  have hslice := h.slice hf
  dsimp only [u16] at hslice
  rw [length_toLE] at hslice
  exact uint16At_of_slice hslice

theorem uint32At {off : Nat} {x : UInt32} (h : IsPayload req info payload)
    (hf : u32 off x ∈ allFields req ++ info) :
  GroutCni.uint32At payload off = x
  := by
  have hslice := h.slice hf
  dsimp only [u32] at hslice
  rw [length_toLE] at hslice
  exact uint32At_of_slice hslice

theorem getD {off : Nat} {x : UInt8} (h : IsPayload req info payload)
    (hf : u8 off x ∈ allFields req ++ info) :
  payload.getD off 0 = x
  := getD_of_slice (h.slice hf)

end IsPayload

/-! ### The bytes that are used -/

/-- The offset and the length of everything in the payload that may differ from zero. -/
def usedRanges (req : InterfaceAddRequest) : List (Nat × Nat) :=
  [(offIfaceType, 1), (offIfaceFlags, 2), (offIfaceMTU, 2), (offIfaceDomain, 2),
    (offIfaceName, req.name.length)] ++
  if req.type = InterfaceType.bridge then [(offIfaceInfo + offBridgeInfoMAC, 6)]
  else if req.type = InterfaceType.vxlan then
    [(offIfaceInfo + offVxlanVNI, 4), (offIfaceInfo + offVxlanEncapVRF, 2),
      (offIfaceInfo + offVxlanDstPort, 2), (offIfaceInfo + offVxlanLocal + offL3AddrAF, 1),
      (offIfaceInfo + offVxlanLocal + offL3AddrIPv4, 4)]
  else [(offPortDevargs, (devargs req).length)]

section

variable {req : InterfaceAddRequest} {info : List Field} {payload : Bytes}

/-- The fields of the info section are used. -/
theorem IsInfo.mem_usedRanges (h : IsInfo req info) {f : Field} (hf : f ∈ info) :
  (f.off, f.data.length) ∈ usedRanges req
  := by
  apply List.mem_append_right
  cases h with
  | bridge htype =>
      obtain rfl := List.mem_singleton.mp hf
      rw [if_pos htype]
      exact List.mem_singleton.mpr rfl
  | vxlan htype hvxlan hip4 =>
      have hlen := length_of_to4 hip4
      rw [if_neg (by rw [htype]; decide), if_pos htype]
      simp only [List.mem_cons, List.not_mem_nil, or_false] at hf
      rcases hf with rfl | rfl | rfl | rfl | rfl
      all_goals simp [u32, u16, u8, hlen]
  | port hbridge hvxlan hlen =>
      obtain rfl := List.mem_singleton.mp hf
      rw [if_neg hbridge, if_neg hvxlan]
      exact List.mem_singleton.mpr rfl

/-- The fields of the interface itself are used, except for its id. -/
theorem mem_usedRanges_of_mem_allFields (hname : req.name.length ≤ ifNameSize) {f : Field}
    (hf : f ∈ allFields req) (hid : f ≠ u16 offIfaceID grIfaceIDUndef) :
  (f.off, f.data.length) ∈ usedRanges req
  := by
  apply List.mem_append_left
  rw [allFields, List.take_of_length_le hname] at hf
  simp only [List.mem_cons, List.not_mem_nil, or_false] at hf
  rcases hf with rfl | rfl | rfl | rfl | rfl | rfl
  · exact absurd rfl hid
  all_goals simp [u16, u8]

/-- All other bytes are zero. -/
theorem IsPayload.eq_zero {i : Nat} (h : IsPayload req info payload)
    (hname : req.name.length ≤ ifNameSize) (hi : i < payload.length)
    (hout : ∀ r ∈ usedRanges req, ¬(r.1 ≤ i ∧ i < r.1 + r.2)) :
  payload[i]? = some 0
  := by
  by_cases hid : (u16 offIfaceID grIfaceIDUndef).Covers i
  · have hslice : Wire.slice payload offIfaceID 2 = List.replicate 2 0 :=
      h.slice (f := u16 offIfaceID grIfaceIDUndef) (by simp [allFields])
    have hlt : i < 2 := by
      have hcov := hid.2
      simpa [u16, offIfaceID] using hcov
    have hget := congrArg (·[i]?) hslice
    simp only [getElem?_slice, List.getElem?_replicate, if_pos hlt, offIfaceID, Nat.zero_add]
      at hget
    exact hget
  · apply h.zero hi
    intro f hf hcov
    have hne : f ≠ u16 offIfaceID grIfaceIDUndef := by
      rintro rfl
      exact hid hcov
    rcases List.mem_append.mp hf with hf | hf
    · exact hout _ (mem_usedRanges_of_mem_allFields hname hf hne) hcov
    · exact hout _ (h.isInfo.mem_usedRanges hf) hcov

end

/-! ### Decoding -/

/-- The entry of a list begins like the payload, except for bytes after the NUL that ends the
name. -/
structure SameIface (name : GoString) (payload entry : Bytes) : Prop where
  length_le : ifaceSize ≤ entry.length
  agree : ∀ i < ifaceSize, ¬(offIfaceName + name.length < i ∧ i < offIfaceName + ifNameSize) →
    entry[i]? = payload[i]?

/-- Entries that begin like the payload are read like it, up to the NUL that ends the name. -/
theorem SameIface.slice {name : GoString} {payload entry : Bytes} {off n : Nat}
    (h : SameIface name payload entry) (hname : name.length ≤ 15)
    (hle : off + n ≤ offIfaceName + name.length + 1) :
  Wire.slice entry off n = Wire.slice payload off n
  := by
  have hsize : ifaceSize = 292 := rfl
  have hoff : offIfaceName = 20 := rfl
  apply slice_congr
  intro i hi hlt
  apply h.agree i (by omega)
  omega

section

variable {req : InterfaceAddRequest} {info : List Field} {payload entry : Bytes}

/-- The name ends with a NUL. -/
theorem IsPayload.name_nul (h : IsPayload req info payload) (hname : req.name.length ≤ 15) :
  payload[offIfaceName + req.name.length]? = some 0
  := by
  have hoff : offIfaceName = 20 := rfl
  have hsize : ifaceSize = 292 := rfl
  apply h.zero
  · rw [h.length]
    omega
  · intro f hf hcov
    rcases List.mem_append.mp hf with hf | hf
    · simp only [allFields, List.mem_cons, List.not_mem_nil, or_false] at hf
      rcases hf with rfl | rfl | rfl | rfl | rfl | rfl
      all_goals
        simp only [Field.Covers, u16, u8, length_toLE, List.length_singleton, List.length_take,
          offIfaceID, offIfaceType, offIfaceFlags, offIfaceDomain, offIfaceMTU, offIfaceName]
          at hcov
        omega
    · have hinfo : 292 ≤ f.off := (h.isInfo.apart.2 f hf).1
      have hle := hcov.1
      omega

/-- The entry is decoded to the interface that was asked for. -/
theorem IsPayload.decodeInterface (h : IsPayload req info payload) (hname : IsIfaceName req.name)
    (hentry : SameIface req.name payload entry) :
  Api.decodeInterface entry = some ⟨grIfaceIDUndef, req.type, req.name, req.domainID⟩
  := by
  have hslice : ∀ {off n : Nat}, off + n ≤ offIfaceName + req.name.length + 1 →
      Wire.slice entry off n = Wire.slice payload off n :=
    fun hle => hentry.slice hname.1 hle
  have hbefore : ∀ {off n : Nat}, off + n ≤ offIfaceName →
      Wire.slice entry off n = Wire.slice payload off n :=
    fun hle => hslice (by omega)
  have hid : GroutCni.uint16At entry offIfaceID = grIfaceIDUndef := by
    rw [GroutCni.uint16At, hbefore (by decide), ← GroutCni.uint16At]
    exact h.uint16At (by simp [allFields])
  have htype : entry.getD offIfaceType 0 = req.type := by
    apply getD_of_slice
    rw [hbefore (by decide)]
    exact h.slice (f := u8 offIfaceType req.type) (by simp [allFields])
  have hdomain : GroutCni.uint16At entry offIfaceDomain = req.domainID := by
    rw [GroutCni.uint16At, hbefore (by decide), ← GroutCni.uint16At]
    exact h.uint16At (by simp [allFields])
  have hcString : cString (Wire.slice entry offIfaceName ifNameSize) = req.name := by
    have htake : req.name.take ifNameSize = req.name :=
      List.take_of_length_le (hname.1.trans (by decide))
    have hget : entry[offIfaceName + req.name.length]? = some 0 := by
      have hoff : offIfaceName = 20 := rfl
      have hsize : ifaceSize = 292 := rfl
      have hlen := hname.1
      rw [hentry.agree _ (by omega) (by omega), h.name_nul hname.1]
    apply cString_slice hname.2 (Nat.lt_of_le_of_lt hname.1 (by decide)) _ hget
    rw [hslice (by omega)]
    have hf := h.slice (f := ⟨offIfaceName, req.name.take ifNameSize⟩) (by simp [allFields])
    rw [htake] at hf
    exact hf
  rw [Api.decodeInterface, if_neg (Nat.not_lt.mpr hentry.length_le), hid, htype, hdomain, hcString]

/-- The devargs are read from the info section, up to a NUL. -/
def DevargsReadBack (payload : Bytes) (args : GoString) : Prop :=
  cString (slice payload offPortDevargs portDevargsSize) = args ∧
    payload[offPortDevargs + args.length]? = some 0

/-- What was asked for is read from the info section. -/
def InfoReadBack (req : InterfaceAddRequest) (payload : Bytes) : Prop :=
  if req.type = InterfaceType.bridge then
    slice payload (offIfaceInfo + offBridgeInfoMAC) 6 = bridgeMAC req.name
  else if req.type = InterfaceType.vxlan then
    ∃ vxlan, req.vxlan = some vxlan ∧
      uint32At payload (offIfaceInfo + offVxlanVNI) = vxlan.vni ∧
      uint16At payload (offIfaceInfo + offVxlanEncapVRF) = vxlan.encapVRFID ∧
      uint16At payload (offIfaceInfo + offVxlanDstPort) = vxlan.dstPort ∧
      payload.getD (offIfaceInfo + offVxlanLocal + offL3AddrAF) 0 = afIP4 ∧
      some (slice payload (offIfaceInfo + offVxlanLocal + offL3AddrIPv4) 4)
        = to4 vxlan.localAddr
  else if req.vhostUserPath = [] then
    DevargsReadBack payload (lit "net_tap_" ++ vdevID req.name ++ lit ",iface=" ++ req.name)
  else
    DevargsReadBack payload
      (lit "net_vhost_" ++ vdevID req.name ++ lit ",iface=" ++ req.vhostUserPath)

/-- The devargs of a port contain no NUL if neither its name nor its socket path does. -/
theorem zero_not_mem_devargs (hname : 0 ∉ req.name) (hpath : 0 ∉ req.vhostUserPath) :
  0 ∉ devargs req
  := by
  have hvdev : 0 ∉ vdevID req.name := by
    intro h
    have hcond := (List.mem_filter.mp h).2
    revert hcond
    decide
  unfold devargs vhostDevargs tapDevargs
  split
  · simp only [List.mem_append, not_or]
    exact ⟨⟨⟨by decide, hvdev⟩, by decide⟩, hpath⟩
  · simp only [List.mem_append, not_or]
    exact ⟨⟨⟨by decide, hvdev⟩, by decide⟩, hname⟩

theorem IsPayload.infoReadBack (h : IsPayload req info payload) (hname : 0 ∉ req.name)
    (hpath : 0 ∉ req.vhostUserPath) :
  InfoReadBack req payload
  := by
  have hmem : ∀ {f : Field}, f ∈ info → f ∈ allFields req ++ info :=
    fun hf => List.mem_append_right _ hf
  have his := h.isInfo
  unfold InfoReadBack
  cases his with
  | bridge htype =>
      rw [if_pos htype]
      exact h.slice (hmem List.mem_cons_self)
  | @vxlan vxlan ip4 htype hvxlan hip4 =>
      rw [if_neg (by rw [htype]; decide), if_pos htype]
      refine ⟨vxlan, hvxlan, h.uint32At (hmem (by simp)), h.uint16At (hmem (by simp)),
        h.uint16At (hmem (by simp)), h.getD (hmem (by simp)), ?_⟩
      have hslice := h.slice (hmem (f := ⟨offIfaceInfo + offVxlanLocal + offL3AddrIPv4, ip4⟩)
        (by simp))
      rw [length_of_to4 hip4] at hslice
      rw [hslice, hip4]
  | port hbridge hvxlan hlen =>
      rw [if_neg hbridge, if_neg hvxlan]
      have hnul : payload[offPortDevargs + (devargs req).length]? = some 0 := by
        have hoff : offPortDevargs = 306 := rfl
        have hmax : portDevargsSize = 128 := rfl
        have hsize : ifaceSize + portInfoSize = 466 := rfl
        apply h.zero
        · rw [h.length, infoSize_port hbridge hvxlan]
          omega
        · intro f hf hcov
          rcases List.mem_append.mp hf with hf | hf
          · have hbase : f.off + f.data.length ≤ 292 := (allFields_apart req).2 f hf
            have hlt := hcov.2
            omega
          · obtain rfl := List.mem_singleton.mp hf
            exact Nat.lt_irrefl _ hcov.2
      have hdevargs : DevargsReadBack payload (devargs req) := by
        refine ⟨cString_slice (zero_not_mem_devargs hname hpath) hlen ?_ hnul, hnul⟩
        exact h.slice (hmem List.mem_cons_self)
      by_cases hvhost : req.vhostUserPath = []
      · rw [if_pos hvhost]
        rw [devargs, if_neg (not_not.mpr hvhost)] at hdevargs
        exact hdevargs
      · rw [if_neg hvhost]
        rw [devargs, if_pos hvhost] at hdevargs
        exact hdevargs

end

/-- The size of the payload for a type of interface. -/
def payloadSize (type : InterfaceType) : Nat :=
  if type = InterfaceType.bridge then 432
  else if type = InterfaceType.vxlan then 328
  else 466

theorem payloadSize_eq (type : InterfaceType) :
  ifaceSize + infoSize type = payloadSize type
  := by
  unfold infoSize payloadSize
  split
  · rfl
  · split
    · rfl
    · rfl

/-- Names of bridges and ports fit into an interface, and what `InterfaceAdd` sends for a name
that fits is read back: it has the size for its type, an entry of an interface list that begins
like it is decoded to the interface that was asked for, its other fields are found at their
offsets, and the bytes outside of all fields are zero. -/
theorem interfaceAdd_codec :
  (∀ network : GoString, 0 ∉ network → IsIfaceName (bridgeNameFor network)) ∧
  (∀ (raw : RawConf) (conf : PluginConf), loadConfig (.ok raw) = .ok conf → 0 ∉ raw.name →
    0 ∉ raw.bridge → IsIfaceName conf.bridge) ∧
  (∀ containerID ifName : GoString, IsIfaceName (groutPortName containerID ifName)) ∧
  ∀ (req : InterfaceAddRequest) (payload : Bytes), IsIfaceName req.name →
    0 ∉ req.vhostUserPath → interfaceAddPayload req = .ok payload →
    payload.length = payloadSize req.type ∧
      (∀ entry : Bytes, SameIface req.name payload entry →
        decodeInterface entry = some ⟨grIfaceIDUndef, req.type, req.name, req.domainID⟩) ∧
      uint16At payload offIfaceMTU = req.mtu ∧
      uint16At payload offIfaceFlags = grIfaceFlagUp ∧
      InfoReadBack req payload ∧
      ∀ i < payload.length, (∀ r ∈ usedRanges req, ¬(r.1 ≤ i ∧ i < r.1 + r.2)) →
        payload[i]? = some 0
  := by
  refine ⟨fun network h => isIfaceName_bridgeNameFor h, fun raw conf h => isIfaceName_bridge h,
    fun containerID ifName => isIfaceName_portName ⟨containerID, ifName⟩, ?_⟩
  intro req payload hname hpath hpayload
  obtain ⟨info, h⟩ := isPayload_of_interfaceAddPayload hpayload
  have hsize := h.length
  rw [payloadSize_eq] at hsize
  refine ⟨hsize, fun entry hentry => h.decodeInterface hname hentry,
    h.uint16At (by simp [allFields]), h.uint16At (by simp [allFields]),
    h.infoReadBack hname.2 hpath, ?_⟩
  intro i hi hout
  exact h.eq_zero (hname.1.trans (by decide)) hi hout

/-- The payload for a bridge, as an entry of a list, and the devargs in the payload for a
vhost-user port. -/
theorem interfaceAdd_codec_bridge :
  (∃ payload, interfaceAddPayload ⟨lit "br-blue", InterfaceType.bridge, 0, 1500, [], none⟩
      = .ok payload ∧
    decodeInterface payload
      = some ⟨grIfaceIDUndef, InterfaceType.bridge, lit "br-blue", 0⟩) ∧
  ∃ payload, interfaceAddPayload
      ⟨lit "grk-1f", InterfaceType.port, 1, 1500, lit "/run/grout/a.sock", none⟩ = .ok payload ∧
    cString (slice payload 306 128) = lit "net_vhost_grk1f,iface=/run/grout/a.sock"
  := by
  constructor
  · refine ⟨_, rfl, ?_⟩
    have h := interfaceAdd_codec.2.2.2 ⟨lit "br-blue", InterfaceType.bridge, 0, 1500, [], none⟩ _
      (by decide) (by decide) rfl
    apply h.2.1
    refine ⟨?_, fun i hi hout => rfl⟩
    rw [h.1]
    decide
  · refine ⟨_, rfl, ?_⟩
    have h := interfaceAdd_codec.2.2.2
      ⟨lit "grk-1f", InterfaceType.port, 1, 1500, lit "/run/grout/a.sock", none⟩ _
      (by decide) (by decide) rfl
    have hinfo := h.2.2.2.2.1
    rw [InfoReadBack, if_neg (by decide), if_neg (by decide), if_neg (by decide)] at hinfo
    rw [show lit "net_vhost_grk1f,iface=/run/grout/a.sock" = lit "net_vhost_" ++
      vdevID (lit "grk-1f") ++ lit ",iface=" ++ lit "/run/grout/a.sock" by decide +kernel]
    exact hinfo.1

end GroutCni
