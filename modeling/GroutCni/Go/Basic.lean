import Mathlib.Data.List.Basic

/-!
# Strings, errors and outcomes of Go code

A Go string is a sequence of bytes.  An error is kept as the call that made it: the format
and the operands of `fmt.Errorf`, with the wrapped error apart.  A function that may panic
returns an `Outcome`.
-/

namespace GroutCni

/-- A Go string: a sequence of bytes. -/
abbrev GoString : Type := List UInt8

instance : LawfulBEq GoString := inferInstanceAs (LawfulBEq (List UInt8))

/-- The bytes of a string literal. -/
def lit (s : String) : GoString := s.toUTF8.data.toList

/-- An operand of a formatting verb. -/
inductive FmtArg where
  | str (s : GoString)
  | num (n : Int)
  /-- The text of an address with its mask, `IPNet.String`. -/
  | cidr (ip mask : List UInt8)
  /-- The text of an address, `IP.String`. -/
  | ip (ip : List UInt8)
  deriving DecidableEq

/-- An error value. -/
inductive GoError where
  /-- An error made by code outside the plugin. -/
  | other (text : String)
  /-- `fmt.Errorf(format, args...)`. -/
  | errorf (format : String) (args : List FmtArg)
  /-- `fmt.Errorf(format, args..., err)`, where the format ends in `%w`. -/
  | wrapf (format : String) (args : List FmtArg) (err : GoError)
  deriving DecidableEq

/-- How a call that may panic ends. -/
inductive Outcome (α : Type) where
  | ok (a : α)
  | error (e : GoError)
  | panic
  deriving DecidableEq

/-- The call returned an error. -/
def Outcome.isError {α : Type} : Outcome α → Bool
  | .error _ => true
  | _ => false

theorem Outcome.exists_of_isError {α : Type} {r : Outcome α} (h : r.isError = true) :
  ∃ e, r = .error e
  := by
  cases r with
  | error e => exact ⟨e, rfl⟩
  | _ => cases h

/-- `strings.HasPrefix`. -/
def hasPrefix (s p : GoString) : Bool := p.isPrefixOf s

theorem hasPrefix_iff {s p : GoString} :
  hasPrefix s p = true ↔ p <+: s
  := List.isPrefixOf_iff_prefix

/-- `strings.ToLower` on ASCII. -/
def toLower (b : UInt8) : UInt8 :=
  if 0x41 ≤ b ∧ b ≤ 0x5a then b + 0x20 else b

/-- `strings.ToLower`, as far as its result is ASCII: besides the letters A to Z, only the
characters U+0130 and U+212A have a lower case in ASCII. -/
def toLowerString : GoString → GoString
  | 0xc4 :: 0xb0 :: s => 0x69 :: toLowerString s
  | 0xe2 :: 0x84 :: 0xaa :: s => 0x6b :: toLowerString s
  | b :: s => toLower b :: toLowerString s
  | [] => []

/-- To show something of every byte is to show it of the numbers below 256. -/
theorem forall_byte {p : UInt8 → Prop} (h : ∀ n < 256, p (UInt8.ofNat n)) (b : UInt8) :
  p b
  := by
  have hb := h b.toNat b.toNat_lt
  rw [UInt8.ofNat_toNat] at hb
  exact hb

/-- A string in ASCII without upper case is its own lower case. -/
theorem toLowerString_eq_self {s : GoString} (h : ∀ b ∈ s, b < 0x80 ∧ toLower b = b) :
  toLowerString s = s
  := by
  fun_induction toLowerString s with
  | case1 s ih => exact absurd (h 0xc4 (by simp)).1 (by decide)
  | case2 s ih => exact absurd (h 0xe2 (by simp)).1 (by decide)
  | case3 b s _ _ ih =>
      rw [(h b (by simp)).2, ih fun c hc => h c (List.mem_cons_of_mem b hc)]
  | case4 => rfl

end GroutCni
