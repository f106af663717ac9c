import GroutCni.Cni.Netns

/-!
# The hardware address of a pod

`podMACFromResult` makes the hardware address of a pod from the first IPv4 address of the IPAM
result or, if there is none, from the first IPv6 address.  It is the last four bytes of that
address that matter (`podMACFromResult_eq`): two pods with different IPv4 addresses get different
hardware addresses, and pods with IPv6 addresses do unless the last four bytes agree
(`podMAC_ne_iff`).
-/

namespace GroutCni

/-! ### The forms of an address -/

section

variable {ip x : IP}

/-- The last four bytes of an address. -/
def lastFour (ip : IP) : List UInt8 := ip.drop (ip.length - 4)

theorem lastFour_of_to4 (h : to4 ip = some x) :
  lastFour ip = x
  := by
  unfold lastFour
  obtain ⟨hx, rfl | ⟨hlen, -, hdrop⟩⟩ := to4_eq_some h
  · rw [hx]
    rfl
  · rw [hlen, hdrop]

theorem lastFour_of_to16 (h : to16 ip = some x) :
  lastFour ip = x.drop 12
  := by
  unfold lastFour
  obtain ⟨hx, ⟨hlen, rfl⟩ | rfl⟩ := to16_eq_some h
  · rw [hlen]
    rfl
  · rw [hx]

/-- The last four bytes of a valid address. -/
theorem length_lastFour (h : (to16 ip).isSome = true) :
  (lastFour ip).length = 4
  := by
  obtain ⟨x, hx⟩ := Option.isSome_iff_exists.mp h
  rw [lastFour_of_to16 hx, List.length_drop, length_of_to16 hx]

/-- IPv4 addresses of the same four bytes are equal, whatever their forms. -/
theorem ipEqual_of_to4 {ip' : IP} (h : to4 ip = some x) (h' : to4 ip' = some x) :
  ipEqual ip ip' = true
  := by
  obtain ⟨hx, rfl | ⟨hlen, hmapped, hdrop⟩⟩ := to4_eq_some h
  · obtain ⟨-, rfl | ⟨hlen', hmapped', hdrop'⟩⟩ := to4_eq_some h'
    · simp [ipEqual]
    · simp [ipEqual, hx, hlen', hmapped', hdrop']
  · obtain ⟨-, rfl | ⟨hlen', hmapped', hdrop'⟩⟩ := to4_eq_some h'
    · simp [ipEqual, hx, hlen, hmapped, hdrop]
    · have heq : ip = ip' := by
        rw [← List.take_append_drop 12 ip, ← List.take_append_drop 12 ip', hmapped, hmapped',
          hdrop, hdrop']
      simp [ipEqual, heq]

end

/-! ### The address that is used -/

/-- The addresses of the entries that are not nil. -/
def Result.addresses (result : Result) : List IP :=
  result.ips.filterMap fun ipc => ipc.map fun ipc => ipc.address.ip

/-- The address that the hardware address is made from: the first IPv4 address, or else the
first valid one. -/
def Result.macSource (result : Result) : Option IP :=
  (result.addresses.find? fun ip => (to4 ip).isSome).or
    (result.addresses.find? fun ip => (to16 ip).isSome)

theorem firstAddress_eq (f : IP → Option IP) (result : Result) :
  firstAddress f result.ips = (result.addresses.find? fun ip => (f ip).isSome).bind f
  := by
  unfold firstAddress Result.addresses
  induction result.ips with
  | nil => rfl
  | cons ipc ips ih =>
      cases ipc with
      | none => exact ih
      | some ipc =>
          cases hf : f ipc.address.ip with
          | none => simp [hf, ih]
          | some x => simp [hf]

/-- The first address that `f` converts. -/
theorem exists_of_find? {f : IP → Option IP} {ips : List IP} {ip : IP}
    (h : (ips.find? fun ip => (f ip).isSome) = some ip) :
  ip ∈ ips ∧ ∃ x, f ip = some x
  := by
  constructor
  · exact List.mem_of_find?_eq_some h
  · apply Option.isSome_iff_exists.mp
    simpa using List.find?_some h

/-- If `f` converts an address, there is a first one. -/
theorem exists_find? {f : IP → Option IP} {ips : List IP}
    (h : ∃ ip ∈ ips, (f ip).isSome = true) :
  ∃ ip, (ips.find? fun ip => (f ip).isSome) = some ip
  := by
  apply Option.isSome_iff_exists.mp
  simpa using h

theorem podMACFromResult_eq (result : Result) :
  podMACFromResult result = result.macSource.map fun ip => [0x02, 0x00] ++ lastFour ip
  := by
  unfold podMACFromResult Result.macSource
  rw [firstAddress_eq, firstAddress_eq]
  cases h4 : result.addresses.find? fun ip => (to4 ip).isSome with
  | some ip =>
      obtain ⟨-, x, hx⟩ := exists_of_find? h4
      rw [Option.bind_some, hx, Option.some_or, Option.map_some, lastFour_of_to4 hx]
  | none =>
      rw [Option.bind_none, Option.none_or]
      cases h16 : result.addresses.find? fun ip => (to16 ip).isSome with
      | none => rfl
      | some ip =>
          obtain ⟨-, x, hx⟩ := exists_of_find? h16
          dsimp only
          rw [Option.bind_some, hx, Option.map_some, Option.map_some, lastFour_of_to16 hx]

/-- The address that is used is a valid address of the result. -/
theorem Result.macSource_spec {result : Result} {ip : IP} (h : result.macSource = some ip) :
  ip ∈ result.addresses ∧ (to16 ip).isSome = true
  := by
  unfold macSource at h
  rcases Option.or_eq_some_iff.mp h with h4 | ⟨-, h16⟩
  · obtain ⟨hmem, hip⟩ := exists_of_find? h4
    exact ⟨hmem, isSome_to16_of_to4 (Option.isSome_iff_exists.mpr hip)⟩
  · obtain ⟨hmem, hip⟩ := exists_of_find? h16
    exact ⟨hmem, Option.isSome_iff_exists.mpr hip⟩

/-- A result with a valid address has one to use. -/
theorem Result.exists_macSource {result : Result}
    (h : ∃ ip ∈ result.addresses, (to16 ip).isSome = true) :
  ∃ ip, result.macSource = some ip
  := by
  obtain ⟨ip, h16⟩ := exists_find? h
  apply Option.isSome_iff_exists.mp
  rw [macSource, h16, Option.isSome_or, Option.isSome_some, Bool.or_true]

/-- If there is an IPv4 address, one is used. -/
theorem Result.exists_macSource_v4 {result : Result}
    (h : ∃ ip ∈ result.addresses, (to4 ip).isSome = true) :
  ∃ ip x, result.macSource = some ip ∧ to4 ip = some x
  := by
  obtain ⟨ip, h4⟩ := exists_find? h
  obtain ⟨-, x, hx⟩ := exists_of_find? h4
  exact ⟨ip, x, by rw [macSource, h4, Option.some_or], hx⟩

/-! ### The indexing of the source -/

/-- Four bytes of an address, read one by one; nothing when an index is out of range. -/
def fourAt (ip : IP) (i : Nat) : Option (List UInt8) := do
  let a ← ip[i]?
  let b ← ip[i + 1]?
  let c ← ip[i + 2]?
  let d ← ip[i + 3]?
  return [a, b, c, d]

/-- `podMACFromResult` as it reads the bytes of an address; nothing when it panics. -/
def podMACIndexed (result : Result) : Option (Option (List UInt8)) :=
  match firstAddress to4 result.ips with
  | some ip4 => (fourAt ip4 0).map fun bytes => some ([0x02, 0x00] ++ bytes)
  | none =>
      match firstAddress to16 result.ips with
      | some ip6 => (fourAt ip6 12).map fun bytes => some ([0x02, 0x00] ++ bytes)
      | none => some none

theorem fourAt_eq {ip : IP} {i : Nat} (h : ip.length = i + 4) :
  fourAt ip i = some (ip.drop i)
  := by
  have hdrop : (ip.drop i).length = 4 := by
    rw [List.length_drop, h]
    omega
  obtain ⟨a, b, c, d, hbytes⟩ := List.length_eq_four.mp hdrop
  have hget : ∀ k, ip[i + k]? = [a, b, c, d][k]? := by
    intro k
    rw [← List.getElem?_drop, hbytes]
  have h0 : ip[i]? = some a := hget 0
  simp [fourAt, h0, hget, hbytes]

theorem exists_of_firstAddress {f : IP → Option IP} {ips : List (Option IPConfig)} {x : IP}
    (h : firstAddress f ips = some x) :
  ∃ ip, f ip = some x
  := by
  obtain ⟨ipc, -, hipc⟩ := List.exists_of_findSome?_eq_some h
  obtain ⟨ip, -, hip⟩ := Option.bind_eq_some_iff.mp hipc
  exact ⟨ip.address.ip, hip⟩

/-- `podMACFromResult` reads no byte that is not there. -/
theorem podMACIndexed_eq (result : Result) :
  podMACIndexed result = some (podMACFromResult result)
  := by
  unfold podMACIndexed podMACFromResult
  cases h4 : firstAddress to4 result.ips with
  | some ip4 =>
      obtain ⟨ip, hip⟩ := exists_of_firstAddress h4
      dsimp only
      rw [fourAt_eq (length_of_to4 hip)]
      rfl
  | none =>
      cases h16 : firstAddress to16 result.ips with
      | none => rfl
      | some ip6 =>
          obtain ⟨ip, hip⟩ := exists_of_firstAddress h16
          dsimp only
          rw [fourAt_eq (length_of_to16 hip)]
          rfl

/-! ### Distinct hardware addresses -/

/-- A hardware address that is locally administered and not of a group: in its first byte the
second bit is set and the first is not. -/
def IsLocalUnicast (mac : List UInt8) : Prop :=
  mac.length = 6 ∧ ∃ b ∈ mac.head?, b &&& 0x01 = 0 ∧ b &&& 0x02 = 0x02

/-- No valid address of the one result is equal to one of the other. -/
def Result.NoneInCommon (r₁ r₂ : Result) : Prop :=
  ∀ a ∈ r₁.addresses, ∀ b ∈ r₂.addresses, (to16 a).isSome = true → (to16 b).isSome = true →
    ipEqual a b = false

instance (r₁ r₂ : Result) : Decidable (r₁.NoneInCommon r₂) :=
  inferInstanceAs (Decidable (∀ a ∈ r₁.addresses, ∀ b ∈ r₂.addresses, _))

/-- The hardware address of a result with a valid address. -/
theorem exists_podMAC {result : Result} (h : ∃ ip ∈ result.addresses, (to16 ip).isSome = true) :
  ∃ ip, result.macSource = some ip ∧
    podMACFromResult result = some ([0x02, 0x00] ++ lastFour ip) ∧
    IsLocalUnicast ([0x02, 0x00] ++ lastFour ip)
  := by
  obtain ⟨ip, hip⟩ := Result.exists_macSource h
  refine ⟨ip, hip, by rw [podMACFromResult_eq, hip, Option.map_some], ?_, ?_⟩
  · rw [List.length_append, length_lastFour (Result.macSource_spec hip).2]
    rfl
  · exact ⟨0x02, rfl, by decide, by decide⟩

/-- IPv4 addresses that are used for two results with none in common differ. -/
theorem Result.NoneInCommon.lastFour_ne {r₁ r₂ : Result} (h : r₁.NoneInCommon r₂) {ip₁ ip₂ x y : IP}
    (h₁ : r₁.macSource = some ip₁) (hx : to4 ip₁ = some x)
    (h₂ : r₂.macSource = some ip₂) (hy : to4 ip₂ = some y) :
  lastFour ip₁ ≠ lastFour ip₂
  := by
  intro heq
  rw [lastFour_of_to4 hx, lastFour_of_to4 hy] at heq
  subst heq
  obtain ⟨hmem₁, hvalid₁⟩ := Result.macSource_spec h₁
  obtain ⟨hmem₂, hvalid₂⟩ := Result.macSource_spec h₂
  have hne := h ip₁ hmem₁ ip₂ hmem₂ hvalid₁ hvalid₂
  rw [ipEqual_of_to4 hx hy] at hne
  cases hne

/-- Two results that each have a valid address, and none in common: the hardware addresses made
from them are locally administered and not of a group, and they differ exactly if the last four
bytes of the addresses that are used differ.  They do if both results have an IPv4 address. -/
theorem podMAC_ne_iff {r₁ r₂ : Result} (h₁ : ∃ ip ∈ r₁.addresses, (to16 ip).isSome = true)
    (h₂ : ∃ ip ∈ r₂.addresses, (to16 ip).isSome = true) (hnone : r₁.NoneInCommon r₂) :
  ∃ mac₁ mac₂, podMACFromResult r₁ = some mac₁ ∧ podMACFromResult r₂ = some mac₂ ∧
    IsLocalUnicast mac₁ ∧ IsLocalUnicast mac₂ ∧
    (mac₁ ≠ mac₂ ↔ r₁.macSource.map lastFour ≠ r₂.macSource.map lastFour) ∧
    ((∃ ip ∈ r₁.addresses, (to4 ip).isSome = true) →
      (∃ ip ∈ r₂.addresses, (to4 ip).isSome = true) → mac₁ ≠ mac₂)
  := by
  obtain ⟨ip₁, hip₁, hmac₁, hlocal₁⟩ := exists_podMAC h₁
  obtain ⟨ip₂, hip₂, hmac₂, hlocal₂⟩ := exists_podMAC h₂
  have hiff : [0x02, 0x00] ++ lastFour ip₁ ≠ [0x02, 0x00] ++ lastFour ip₂ ↔
      r₁.macSource.map lastFour ≠ r₂.macSource.map lastFour := by
    rw [hip₁, hip₂, Option.map_some, Option.map_some, ne_eq, List.append_right_inj, ne_eq,
      Option.some.injEq]
  refine ⟨_, _, hmac₁, hmac₂, hlocal₁, hlocal₂, hiff, ?_⟩
  intro hv4₁ hv4₂
  obtain ⟨a, x, ha, hx⟩ := Result.exists_macSource_v4 hv4₁
  obtain ⟨b, y, hb, hy⟩ := Result.exists_macSource_v4 hv4₂
  apply hiff.mpr
  rw [ha, hb]
  intro heq
  exact hnone.lastFour_ne ha hx hb hy (Option.some.inj heq)

/-- A result with nil entries and an IPv6 address before its IPv4 address in 16 bytes, and one
with another IPv4 address. -/
theorem podMAC_ne_dual :
  podMACFromResult { ips := [none, some { address := ⟨0xfd :: List.replicate 15 7, []⟩ },
      some { address := ⟨v4InV6Prefix ++ [10, 0, 0, 5], cidrMask 24 4⟩ }] } ≠
    podMACFromResult { ips := [some { address := ⟨[10, 0, 0, 6], cidrMask 24 4⟩ }, none] }
  := by
  have hnone : Result.NoneInCommon
      { ips := [none, some { address := ⟨0xfd :: List.replicate 15 7, []⟩ },
        some { address := ⟨v4InV6Prefix ++ [10, 0, 0, 5], cidrMask 24 4⟩ }] }
      { ips := [some { address := ⟨[10, 0, 0, 6], cidrMask 24 4⟩ }, none] } := by decide
  obtain ⟨mac₁, mac₂, hmac₁, hmac₂, -, -, -, hne⟩ :=
    podMAC_ne_iff (by decide) (by decide) hnone
  rw [hmac₁, hmac₂]
  intro heq
  exact hne (by decide) (by decide) (Option.some.inj heq)

/-- Two addresses of one IPv6 subnet of 64 bits, `fd00::a:0:5` and `fd00::b:0:5`: they have the
same last four bytes, and the pods get one hardware address. -/
theorem podMAC_clash :
  ∃ r₁ r₂ : Result, (∃ ip ∈ r₁.addresses, (to16 ip).isSome = true) ∧
    (∃ ip ∈ r₂.addresses, (to16 ip).isSome = true) ∧ r₁.NoneInCommon r₂ ∧
    podMACFromResult r₁ = podMACFromResult r₂ ∧
    podMACFromResult r₁ = some [0x02, 0x00, 0x00, 0x00, 0x00, 0x05]
  := by
  refine ⟨{ ips := [some { address :=
      ⟨[0xfd, 0, 0, 0, 0, 0, 0, 0, 0, 0, 0, 0x0a, 0, 0, 0, 5], cidrMask 64 16⟩ }] },
    { ips := [some { address :=
      ⟨[0xfd, 0, 0, 0, 0, 0, 0, 0, 0, 0, 0, 0x0b, 0, 0, 0, 5], cidrMask 64 16⟩ }] }, ?_⟩
  decide

end GroutCni
