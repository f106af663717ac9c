import GroutCni.Go.Basic

/-!
# Addresses

`IP`, `IPMask` and `IPNet` of Go's `net`, with `To4`, `To16`, `Mask` and `Size`.  Addresses and
masks are byte strings of any length; a nil address is the empty one.
-/

namespace GroutCni

/-- `net.IP`. -/
abbrev IP : Type := List UInt8

/-- `net.IPMask`. -/
abbrev IPMask : Type := List UInt8

/-- `net.IPNet`. -/
structure IPNet where
  ip : IP
  mask : IPMask
  deriving DecidableEq

/-- The first 12 bytes of an IPv4 address in its 16-byte form. -/
def v4InV6Prefix : IP := [0, 0, 0, 0, 0, 0, 0, 0, 0, 0, 0xff, 0xff]

/-- `IP.To4`. -/
def to4 (ip : IP) : Option IP :=
  if ip.length = 4 then some ip
  else if ip.length = 16 ∧ ip.take 12 = v4InV6Prefix then some (ip.drop 12)
  else none

/-- `IP.To16`. -/
def to16 (ip : IP) : Option IP :=
  if ip.length = 4 then some (v4InV6Prefix ++ ip)
  else if ip.length = 16 then some ip
  else none

/-- An IPv4 address is given in its four bytes or in its 16-byte form. -/
theorem to4_eq_some {ip x : IP} (h : to4 ip = some x) :
  x.length = 4 ∧ (ip = x ∨ ip.length = 16 ∧ ip.take 12 = v4InV6Prefix ∧ ip.drop 12 = x)
  := by
  unfold to4 at h
  split at h
  case isTrue hlen =>
    cases h
    exact ⟨hlen, .inl rfl⟩
  case isFalse =>
    split at h
    case isTrue hmapped =>
      cases h
      exact ⟨by rw [List.length_drop, hmapped.1], .inr ⟨hmapped.1, hmapped.2, rfl⟩⟩
    case isFalse => cases h

theorem to16_eq_some {ip x : IP} (h : to16 ip = some x) :
  x.length = 16 ∧ (ip.length = 4 ∧ x = v4InV6Prefix ++ ip ∨ ip = x)
  := by
  unfold to16 at h
  split at h
  case isTrue hlen =>
    cases h
    exact ⟨by rw [List.length_append, hlen]; rfl, .inl ⟨hlen, rfl⟩⟩
  case isFalse =>
    split at h
    case isTrue hlen =>
      cases h
      exact ⟨hlen, .inr rfl⟩
    case isFalse => cases h

theorem length_of_to4 {ip x : IP} (h : to4 ip = some x) :
  x.length = 4
  := (to4_eq_some h).1

theorem length_of_to16 {ip x : IP} (h : to16 ip = some x) :
  x.length = 16
  := (to16_eq_some h).1

/-- An IPv4 address is a valid address. -/
theorem isSome_to16_of_to4 {ip : IP} (h : (to4 ip).isSome = true) :
  (to16 ip).isSome = true
  := by
  obtain ⟨x, hx⟩ := Option.isSome_iff_exists.mp h
  unfold to16
  obtain ⟨hlen, rfl | ⟨hlen', -, -⟩⟩ := to4_eq_some hx
  · rw [if_pos hlen]
    rfl
  · rw [if_neg (by omega), if_pos hlen']
    rfl

/-- The mask that `IP.Mask` applies to an address of the given length. -/
def effectiveMask (ip : IP) (mask : IPMask) : IPMask :=
  if mask.length = 16 ∧ ip.length = 4 ∧ (mask.take 12).all (· == 0xff) then mask.drop 12
  else mask

/-- The address that `IP.Mask` applies a mask to. -/
def effectiveIP (ip : IP) (mask : IPMask) : IP :=
  if mask.length = 4 ∧ ip.length = 16 ∧ ip.take 12 = v4InV6Prefix then ip.drop 12 else ip

/-- `IP.Mask`; nil when the lengths do not match. -/
def maskIP (ip : IP) (mask : IPMask) : Option IP :=
  let mask := effectiveMask ip mask
  let ip := effectiveIP ip mask
  if ip.length = mask.length then some (List.zipWith (· &&& ·) ip mask) else none

/-- The number of ones at the start of a mask, if all other bits are zero. -/
def simpleMaskLength : IPMask → Option Nat
  | [] => some 0
  | 0xff :: mask => (simpleMaskLength mask).map (8 + ·)
  | v :: mask =>
      if mask.all (· == 0) then
        ([0x00, 0x80, 0xc0, 0xe0, 0xf0, 0xf8, 0xfc, 0xfe] : List UInt8).idxOf? v
      else none

/-- `IPMask.Size`: the number of ones, zero if the mask is not of that form. -/
def maskSize (mask : IPMask) : Nat := (simpleMaskLength mask).getD 0

/-- `net.CIDRMask`: a mask of the given number of ones and bytes. -/
def cidrMask : Nat → Nat → IPMask
  | _, 0 => []
  | ones, n + 1 =>
      if 8 ≤ ones then 0xff :: cidrMask (ones - 8) n
      else ~~~(0xff >>> UInt8.ofNat ones) :: cidrMask 0 n

theorem cidrMask_zero (n : Nat) :
  cidrMask 0 n = List.replicate n 0
  := by
  induction n with
  | zero => rfl
  | succ n ih =>
      rw [cidrMask, if_neg (by decide), ih]
      rfl

@[simp]
theorem length_cidrMask (ones n : Nat) :
  (cidrMask ones n).length = n
  := by
  induction n generalizing ones with
  | zero => rfl
  | succ n ih =>
      rw [cidrMask]
      split
      · rw [List.length_cons, ih]
      · rw [List.length_cons, ih]

theorem simpleMaskLength_cidrMask {ones n : Nat} (h : ones ≤ 8 * n) :
  simpleMaskLength (cidrMask ones n) = some ones
  := by
  induction n generalizing ones with
  | zero =>
      obtain rfl : ones = 0 := Nat.le_zero.mp h
      rfl
  | succ n ih =>
      rw [cidrMask]
      split
      case isTrue hbyte =>
        rw [simpleMaskLength, ih (by omega), Option.map_some]
        congr 1
        omega
      case isFalse hbyte =>
        have hrest : (cidrMask 0 n).all (· == 0) = true := by
          rw [cidrMask_zero]
          simp
        have hbytes : ∀ k < 8, ~~~((0xff : UInt8) >>> UInt8.ofNat k) ≠ 0xff ∧
            ([0x00, 0x80, 0xc0, 0xe0, 0xf0, 0xf8, 0xfc, 0xfe] : List UInt8).idxOf?
              (~~~(0xff >>> UInt8.ofNat k)) = some k := by decide
        obtain ⟨hne, hidx⟩ := hbytes ones (Nat.lt_of_not_le hbyte)
        rw [simpleMaskLength, if_pos hrest, hidx]
        exact hne

/-- The size of a mask of ones and zeros is the number of the ones. -/
theorem maskSize_cidrMask {ones n : Nat} (h : ones ≤ 8 * n) :
  maskSize (cidrMask ones n) = ones
  := by
  rw [maskSize, simpleMaskLength_cidrMask h, Option.getD_some]

/-- An address as CIDR notation gives it: an IPv4 address, in 4 or 16 bytes, with a mask of
4 bytes, or an address of 16 bytes with a mask of 16 bytes. -/
def IPNet.WellFormed (n : IPNet) : Prop :=
  (to4 n.ip).isSome ∧ n.mask.length = 4 ∨ n.ip.length = 16 ∧ n.mask.length = 16

instance (n : IPNet) : Decidable n.WellFormed :=
  inferInstanceAs (Decidable (_ ∨ _))

/-- Masking a well-formed address gives an address of the mask's length. -/
theorem IPNet.WellFormed.maskIP {n : IPNet} (h : n.WellFormed) :
  ∃ ip, GroutCni.maskIP n.ip n.mask = some ip ∧ ip.length = n.mask.length
  := by
  rcases h with ⟨h4, hm⟩ | ⟨hi, hm⟩
  · have hmask : effectiveMask n.ip n.mask = n.mask := by simp [effectiveMask, hm]
    have hip : (effectiveIP n.ip n.mask).length = 4 := by
      unfold to4 at h4
      split at h4
      case isTrue hl => simp [effectiveIP, hl]
      case isFalse hl =>
        split at h4
        case isTrue hl' => simp [effectiveIP, hm, hl']
        case isFalse => simp at h4
    refine ⟨List.zipWith (· &&& ·) (effectiveIP n.ip n.mask) n.mask, ?_, ?_⟩
    · simp [GroutCni.maskIP, hmask, hip, hm]
    · simp [hip, hm]
  · refine ⟨List.zipWith (· &&& ·) n.ip n.mask, ?_, ?_⟩
    · simp [GroutCni.maskIP, effectiveMask, effectiveIP, hi, hm]
    · simp [hi, hm]

end GroutCni
