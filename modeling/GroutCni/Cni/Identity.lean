import GroutCni.Api.Client
import GroutCni.Cni.PortName
import Mathlib.Data.List.TFAE

/-!
# The identity of an attachment

An attachment is hashed, and the port name, the id of its DPDK device and the path of its vhost
socket are made from the digest.  Of the digest only the first 55 bits are kept, and from there
on nothing is lost (`portName_identity`).
-/

namespace GroutCni

/-- The string that is hashed for an attachment. -/
def Attachment.hashed (a : Attachment) : GoString := a.containerID ++ 0 :: a.ifName

/-- The NUL byte ends the container id. -/
theorem Attachment.hashed_inj {a b : Attachment} (ha : 0 ∉ a.containerID)
    (hb : 0 ∉ b.containerID) (h : a.hashed = b.hashed) :
  a = b
  := by
  have htake : ∀ c : Attachment, 0 ∉ c.containerID →
      c.hashed.takeWhile (· != 0) = c.containerID := by
    intro c hc
    have hne : ∀ x ∈ c.containerID, (x != 0) = true := by
      intro x hx
      have hx0 : x ≠ 0 := fun h0 => hc (h0 ▸ hx)
      simpa using hx0
    rw [hashed, List.takeWhile_append_of_pos hne]
    simp
  have hid : a.containerID = b.containerID := by
    rw [← htake a ha, ← htake b hb, h]
  have hif : a.ifName = b.ifName := by
    rw [hashed, hashed, hid] at h
    simpa using List.append_cancel_left h
  obtain ⟨id₁, if₁⟩ := a
  obtain ⟨id₂, if₂⟩ := b
  simp only at hid hif
  rw [hid, hif]

/-! ### What follows the prefix -/

/-- The characters of a port name after the prefix. -/
def portSuffix (sum : GoString) : GoString :=
  ((Base32.encodeToString sum).map toLower).take 11

/-- The characters a to z and 2 to 7. -/
def IsSuffixChar (c : UInt8) : Prop :=
  (0x61 ≤ c ∧ c ≤ 0x7a) ∨ (0x32 ≤ c ∧ c ≤ 0x37)

instance (c : UInt8) : Decidable (IsSuffixChar c) :=
  inferInstanceAs (Decidable (_ ∨ _))

/-- The characters after the prefix are in ASCII and in lower case, and `vdevID` keeps them. -/
theorem isSuffixChar_spec {c : UInt8} (h : IsSuffixChar c) :
  (c < 0x80 ∧ toLower c = c) ∧
    ((0x61 ≤ c ∧ c ≤ 0x7a) ∨ (0x30 ≤ c ∧ c ≤ 0x39))
  := by
  revert h
  revert c
  apply forall_byte
  decide +kernel

section

variable {sum : GoString}

theorem length_flatMap_bits (sum : GoString) :
  (sum.flatMap Base32.bits).length = 8 * sum.length
  := by
  simp [List.length_flatMap, Base32.bits, Nat.mul_comm]

/-- The suffix has the characters of the first 55 bits. -/
theorem portSuffix_eq (h : sum.length = 32) :
  portSuffix sum = (Base32.quintets ((sum.flatMap Base32.bits).take 55)).map fun q =>
    toLower (Base32.symbol q)
  := by
  have hlen : 5 * 11 ≤ (sum.flatMap Base32.bits).length := by
    rw [length_flatMap_bits, h]
    decide
  rw [portSuffix, Base32.encodeToString, List.map_map, ← List.map_take,
    Base32.take_quintets hlen]
  rfl

theorem isSuffixChar_symbol {q : List Bool} (h : q.length = 5) :
  IsSuffixChar (toLower (Base32.symbol q))
  := by
  apply Base32.forall_group (p := fun q => IsSuffixChar (toLower (Base32.symbol q))) _ h
  decide

theorem isSuffixChar_of_mem {c : UInt8} (hc : c ∈ portSuffix sum) :
  IsSuffixChar c
  := by
  obtain ⟨b, hb, rfl⟩ := List.mem_map.mp (List.mem_of_mem_take hc)
  obtain ⟨q, hq, rfl⟩ := List.mem_map.mp hb
  exact isSuffixChar_symbol (Base32.length_of_mem_quintets hq)

/-- The suffix still holds the bits it was made from. -/
theorem flatten_group_portSuffix (h : sum.length = 32) :
  ((portSuffix sum).map Base32.group).flatten = (sum.flatMap Base32.bits).take 55
  := by
  have hgroups : (portSuffix sum).map Base32.group =
      Base32.quintets ((sum.flatMap Base32.bits).take 55) := by
    rw [portSuffix_eq h, List.map_map]
    nth_rewrite 2 [← List.map_id (Base32.quintets _)]
    apply List.map_congr_left
    intro q hq
    exact Base32.group_toLower_symbol (Base32.length_of_mem_quintets hq)
  rw [hgroups]
  apply Base32.flatten_quintets
  rw [List.length_take, length_flatMap_bits, h]
  decide

/-- The suffix has 11 characters. -/
theorem length_portSuffix (h : sum.length = 32) :
  (portSuffix sum).length = 11
  := by
  have hbits := congrArg List.length (flatten_group_portSuffix h)
  rw [List.length_take, length_flatMap_bits, h] at hbits
  have hgroups : ((portSuffix sum).map Base32.group).flatten.length =
      5 * (portSuffix sum).length := by
    simp [List.length_flatten, Function.comp_def, Base32.group, Nat.mul_comm]
  omega

/-! ### The device id -/

/-- `vdevID` strips the hyphen of the prefix and keeps the rest. -/
theorem vdevID_portSuffix (sum : GoString) :
  Api.vdevID (portPrefix ++ portSuffix sum) = lit "grk" ++ portSuffix sum
  := by
  have hprefix : (portPrefix.all fun b => decide (b < 0x80 ∧ toLower b = b)) = true := by decide
  have hlower : toLowerString (portPrefix ++ portSuffix sum) = portPrefix ++ portSuffix sum := by
    apply toLowerString_eq_self
    intro b hb
    rcases List.mem_append.mp hb with hb | hb
    · exact of_decide_eq_true (List.all_eq_true.mp hprefix b hb)
    · exact (isSuffixChar_spec (isSuffixChar_of_mem hb)).1
  rw [Api.vdevID, hlower, List.filter_append]
  congr 1
  apply List.filter_eq_self.mpr
  intro b hb
  exact decide_eq_true (isSuffixChar_spec (isSuffixChar_of_mem hb)).2

end

/-- The port name of an attachment, for any digest. -/
def Attachment.portNameWith (sum256 : GoString → GoString) (a : Attachment) : GoString :=
  groutPortNameWith sum256 a.containerID a.ifName

theorem portNameWith_eq (sum256 : GoString → GoString) (a : Attachment) :
  a.portNameWith sum256 = portPrefix ++ portSuffix (sum256 a.hashed)
  := rfl

/-- The strings that are hashed for two attachments are equal only if the attachments are.  For
any digest of 32 bytes, the first 55 bits of the digests are equal exactly if the port names are,
if the device ids are, and if the vhost socket paths are.  A port name is the prefix and 11
characters. -/
theorem portName_identity (sum256 : GoString → GoString) (hsum : ∀ s, (sum256 s).length = 32)
    (sock : GoString) {a b : Attachment} (ha : 0 ∉ a.containerID) (hb : 0 ∉ b.containerID) :
  (a.hashed = b.hashed → a = b) ∧
  List.TFAE [
    ((sum256 a.hashed).flatMap Base32.bits).take 55 =
      ((sum256 b.hashed).flatMap Base32.bits).take 55,
    a.portNameWith sum256 = b.portNameWith sum256,
    Api.vdevID (a.portNameWith sum256) = Api.vdevID (b.portNameWith sum256),
    vhostSocketPath sock (a.portNameWith sum256) =
      vhostSocketPath sock (b.portNameWith sum256)] ∧
  ∀ c : Attachment, ∃ suffix, c.portNameWith sum256 = portPrefix ++ suffix ∧
    suffix.length = 11 ∧ ∀ x ∈ suffix, IsSuffixChar x
  := by
  refine ⟨Attachment.hashed_inj ha hb, ?_, ?_⟩
  · simp only [portNameWith_eq]
    tfae_have 1 → 2 := by
      intro h
      rw [portSuffix_eq (hsum _), portSuffix_eq (hsum _), h]
    tfae_have 2 → 3 := congrArg Api.vdevID
    tfae_have 3 → 1 := by
      intro h
      rw [vdevID_portSuffix, vdevID_portSuffix] at h
      rw [← flatten_group_portSuffix (hsum _), ← flatten_group_portSuffix (hsum _),
        List.append_cancel_left h]
    tfae_have 2 → 4 := congrArg (vhostSocketPath sock)
    tfae_have 4 → 2 := by
      apply eq_of_vhostSocketPath
      · exact slash_not_mem_portNameWith sum256 a.containerID a.ifName
      · exact slash_not_mem_portNameWith sum256 b.containerID b.ifName
    tfae_finish
  · intro c
    use portSuffix (sum256 c.hashed)
    refine ⟨portNameWith_eq sum256 c, length_portSuffix (hsum _), ?_⟩
    intro x hx
    exact isSuffixChar_of_mem hx

/-- Two interfaces of one container, with SHA-256. -/
theorem portName_identity_net1_net2 :
  ({ containerID := lit "c1", ifName := lit "net1" } : Attachment).portName ≠
      ({ containerID := lit "c1", ifName := lit "net2" } : Attachment).portName ∧
    vhostSocketPath (lit "/run/grout.sock")
        ({ containerID := lit "c1", ifName := lit "net1" } : Attachment).portName ≠
      vhostSocketPath (lit "/run/grout.sock")
        ({ containerID := lit "c1", ifName := lit "net2" } : Attachment).portName
  := by
  have htfae := (portName_identity Sha256.sum256 Sha256.length_sum256 (lit "/run/grout.sock")
    (a := { containerID := lit "c1", ifName := lit "net1" })
    (b := { containerID := lit "c1", ifName := lit "net2" }) (by decide) (by decide)).2.1
  have hbits : ((Sha256.sum256 (lit "c1" ++ 0 :: lit "net1")).flatMap Base32.bits).take 55 ≠
      ((Sha256.sum256 (lit "c1" ++ 0 :: lit "net2")).flatMap Base32.bits).take 55 := by
    decide +kernel
  unfold Attachment.portName groutPortName
  constructor
  · exact fun h => hbits ((htfae.out 0 1).mpr h)
  · exact fun h => hbits ((htfae.out 0 3).mpr h)

end GroutCni
