import GroutCni.Go.Basic
import Mathlib.Data.List.GetD

/-!
# SHA-256 and base32

`Sha256.sum256` is `sha256.Sum256` of Go's `crypto/sha256`, and `Base32.encodeToString` the
standard encoding of `encoding/base32` without padding.
-/

namespace GroutCni

namespace Sha256

/-- The round constants. -/
def roundConstants : List UInt32 :=
  [0x428a2f98, 0x71374491, 0xb5c0fbcf, 0xe9b5dba5, 0x3956c25b, 0x59f111f1, 0x923f82a4,
   0xab1c5ed5, 0xd807aa98, 0x12835b01, 0x243185be, 0x550c7dc3, 0x72be5d74, 0x80deb1fe,
   0x9bdc06a7, 0xc19bf174, 0xe49b69c1, 0xefbe4786, 0x0fc19dc6, 0x240ca1cc, 0x2de92c6f,
   0x4a7484aa, 0x5cb0a9dc, 0x76f988da, 0x983e5152, 0xa831c66d, 0xb00327c8, 0xbf597fc7,
   0xc6e00bf3, 0xd5a79147, 0x06ca6351, 0x14292967, 0x27b70a85, 0x2e1b2138, 0x4d2c6dfc,
   0x53380d13, 0x650a7354, 0x766a0abb, 0x81c2c92e, 0x92722c85, 0xa2bfe8a1, 0xa81a664b,
   0xc24b8b70, 0xc76c51a3, 0xd192e819, 0xd6990624, 0xf40e3585, 0x106aa070, 0x19a4c116,
   0x1e376c08, 0x2748774c, 0x34b0bcb5, 0x391c0cb3, 0x4ed8aa4a, 0x5b9cca4f, 0x682e6ff3,
   0x748f82ee, 0x78a5636f, 0x84c87814, 0x8cc70208, 0x90befffa, 0xa4506ceb, 0xbef9a3f7,
   0xc67178f2]

/-- The initial hash value. -/
def initial : List UInt32 :=
  [0x6a09e667, 0xbb67ae85, 0x3c6ef372, 0xa54ff53a, 0x510e527f, 0x9b05688c, 0x1f83d9ab,
   0x5be0cd19]

/-- Rotation to the right. -/
def rotr (x n : UInt32) : UInt32 := (x >>> n) ||| (x <<< (32 - n))

/-- The message followed by a one bit, zeros, and its length in bits as 8 bytes. -/
def pad (msg : GoString) : GoString :=
  msg ++ (0x80 :: List.replicate ((119 - msg.length % 64) % 64) 0 : GoString) ++
    (List.range 8).map fun i => ((msg.length * 8) >>> (8 * (7 - i))).toUInt8

/-- A word from its bytes, the most significant first. -/
def word (b : GoString) : UInt32 := b.foldl (fun acc x => acc <<< 8 ||| x.toUInt32) 0

/-- The first `m` pieces of `n` bytes. -/
def chunks (n : Nat) : Nat → GoString → List GoString
  | 0, _ => []
  | m + 1, l => l.take n :: chunks n m (l.drop n)

/-- Extend a message schedule by `n` words; the schedule has its last word first. -/
def schedule : Nat → List UInt32 → List UInt32
  | 0, w => w
  | n + 1, w =>
      let w2 := w.getD 1 0
      let w7 := w.getD 6 0
      let w15 := w.getD 14 0
      let w16 := w.getD 15 0
      let s0 := rotr w15 7 ^^^ rotr w15 18 ^^^ (w15 >>> 3)
      let s1 := rotr w2 17 ^^^ rotr w2 19 ^^^ (w2 >>> 10)
      schedule n ((w16 + s0 + w7 + s1) :: w)

/-- One round with its constant and its word of the schedule. -/
def round : List UInt32 → UInt32 × UInt32 → List UInt32
  | [a, b, c, d, e, f, g, h], (k, w) =>
      let s1 := rotr e 6 ^^^ rotr e 11 ^^^ rotr e 25
      let ch := (e &&& f) ^^^ (~~~e &&& g)
      let t1 := h + s1 + ch + k + w
      let s0 := rotr a 2 ^^^ rotr a 13 ^^^ rotr a 22
      let maj := (a &&& b) ^^^ (a &&& c) ^^^ (b &&& c)
      [t1 + (s0 + maj), a, b, c, d + t1, e, f, g]
  | h, _ => h

/-- The hash value after a block of 64 bytes. -/
def block (h : List UInt32) (b : GoString) : List UInt32 :=
  let w := (schedule 48 ((chunks 4 16 b).map word).reverse).reverse
  List.zipWith (· + ·) h ((roundConstants.zip w).foldl round h)

/-- `sha256.Sum256`. -/
def sum256 (msg : GoString) : GoString :=
  let p := pad msg
  ((chunks 64 (p.length / 64) p).foldl block initial).flatMap fun (w : UInt32) =>
    [(w >>> 24).toUInt8, (w >>> 16).toUInt8, (w >>> 8).toUInt8, w.toUInt8]

-- The digest of "abc" given in the standard.
example :
  sum256 (lit "abc") =
    [0xba, 0x78, 0x16, 0xbf, 0x8f, 0x01, 0xcf, 0xea, 0x41, 0x41, 0x40, 0xde, 0x5d, 0xae, 0x22,
     0x23, 0xb0, 0x03, 0x61, 0xa3, 0x96, 0x17, 0x7a, 0x9c, 0xb4, 0x10, 0xff, 0x61, 0xf2, 0x00,
     0x15, 0xad]
  := by decide +kernel

theorem length_round {h : List UInt32} (hlen : h.length = 8) (kw : UInt32 × UInt32) :
  (round h kw).length = 8
  := by
  obtain ⟨k, w⟩ := kw
  fun_cases round h (k, w) with
  | case1 => rfl
  | case2 => exact hlen

theorem length_block {h : List UInt32} (hlen : h.length = 8) (b : GoString) :
  (block h b).length = 8
  := by
  have hrounds : ((roundConstants.zip
      (schedule 48 ((chunks 4 16 b).map word).reverse).reverse).foldl round h).length = 8 := by
    apply List.foldlRecOn (motive := fun h : List UInt32 => h.length = 8) _ _ hlen
    exact fun h hlen kw _ => length_round hlen kw
  rw [block, List.length_zipWith, hlen, hrounds, Nat.min_self]

/-- A digest has 32 bytes. -/
theorem length_sum256 (msg : GoString) :
  (sum256 msg).length = 32
  := by
  have hblocks : ((chunks 64 ((pad msg).length / 64) (pad msg)).foldl block initial).length = 8 :=
      by
    apply List.foldlRecOn (motive := fun h : List UInt32 => h.length = 8) _ _ rfl
    exact fun h hlen b _ => length_block hlen b
  simp [sum256, List.length_flatMap, hblocks]

end Sha256

namespace Base32

/-- The standard alphabet. -/
def alphabet : GoString := lit "ABCDEFGHIJKLMNOPQRSTUVWXYZ234567"

/-- The bits of a byte, the most significant first. -/
def bits (b : UInt8) : List Bool := (List.range 8).map fun i => b.toNat.testBit (7 - i)

/-- The bits in groups of five, the last group filled up with zeros. -/
def quintets : List Bool → List (List Bool)
  | a :: b :: c :: d :: e :: l => [a, b, c, d, e] :: quintets l
  | [] => []
  | l => [(l ++ List.replicate 5 false).take 5]

/-- The character of a group of five bits. -/
def symbol (q : List Bool) : UInt8 :=
  alphabet.getD (q.foldl (fun n b => 2 * n + b.toNat) 0) 0

/-- `base32.StdEncoding.WithPadding(base32.NoPadding).EncodeToString`. -/
def encodeToString (src : GoString) : GoString := (quintets (src.flatMap bits)).map symbol

-- "foobar" is one of the test vectors of the standard.
example :
  encodeToString (lit "foobar") = lit "MZXW6YTBOI"
  := by decide +kernel

/-- A character of the encoding is one of the alphabet, or zero. -/
theorem symbol_mem (q : List Bool) :
  symbol q ∈ 0 :: alphabet
  := by
  unfold symbol
  by_cases h : q.foldl (fun n b => 2 * n + b.toNat) 0 < alphabet.length
  · rw [List.getD_eq_getElem _ _ h]
    apply List.mem_cons_of_mem
    apply List.getElem_mem
  · rw [List.getD_eq_default _ _ (Nat.le_of_not_lt h)]
    apply List.mem_cons_self

/-! ### Regrouping -/

theorem length_of_mem_quintets {l q : List Bool} (h : q ∈ quintets l) :
  q.length = 5
  := by
  fun_induction quintets l with
  | case1 a b c d e l ih =>
      rcases List.mem_cons.mp h with rfl | h
      · rfl
      · exact ih h
  | case2 => cases h
  | case3 l =>
      obtain rfl := List.mem_singleton.mp h
      rw [List.length_take, List.length_append, List.length_replicate]
      omega

theorem exists_cons_five {l : List Bool} (h : 5 ≤ l.length) :
  ∃ a b c d e l', l = a :: b :: c :: d :: e :: l'
  := by
  rcases l with _ | ⟨a, _ | ⟨b, _ | ⟨c, _ | ⟨d, _ | ⟨e, l⟩⟩⟩⟩⟩
  case cons.cons.cons.cons.cons => exact ⟨a, b, c, d, e, l, rfl⟩
  all_goals simp at h

/-- The first groups are those of the first bits. -/
theorem take_quintets {l : List Bool} {n : Nat} (h : 5 * n ≤ l.length) :
  (quintets l).take n = quintets (l.take (5 * n))
  := by
  induction n generalizing l with
  | zero => rfl
  | succ n ih =>
      obtain ⟨a, b, c, d, e, l, rfl⟩ := exists_cons_five (l := l) (by omega)
      have hl : 5 * n ≤ l.length := by
        simp only [List.length_cons] at h
        omega
      rw [Nat.mul_succ, quintets, List.take_succ_cons, ih hl]
      rfl

/-- Full groups hold the bits, in their order. -/
theorem flatten_quintets {l : List Bool} (h : 5 ∣ l.length) :
  (quintets l).flatten = l
  := by
  fun_induction quintets l with
  | case1 a b c d e l ih =>
      have hl : 5 ∣ l.length := by
        simp only [List.length_cons] at h
        omega
      rw [List.flatten_cons, ih hl]
      rfl
  | case2 => rfl
  | case3 l hfive hnil =>
      have hshort : l.length < 5 := by
        apply Nat.lt_of_not_le
        intro hle
        obtain ⟨a, b, c, d, e, l', rfl⟩ := exists_cons_five hle
        exact hfive a b c d e l' rfl
      have hzero : l.length = 0 := Nat.eq_zero_of_dvd_of_lt h hshort
      exact absurd (List.length_eq_zero_iff.mp hzero) hnil

/-- The group of five bits of a character in lower case. -/
def group (c : UInt8) : List Bool :=
  (List.range 5).map fun i => ((alphabet.map toLower).idxOf c).testBit (4 - i)

/-- What holds of each character that stands for five bits holds of all groups. -/
theorem forall_group {p : List Bool → Prop} (h : ∀ a b c d e : Bool, p [a, b, c, d, e])
    {q : List Bool} (hq : q.length = 5) :
  p q
  := by
  obtain ⟨a, b, c, d, e, l, rfl⟩ := exists_cons_five (Nat.le_of_eq hq.symm)
  obtain rfl : l = [] := by simpa using hq
  apply h

/-- A character in lower case still determines its group. -/
theorem group_toLower_symbol {q : List Bool} (h : q.length = 5) :
  group (toLower (symbol q)) = q
  := by
  apply forall_group (p := fun q => group (toLower (symbol q)) = q) _ h
  decide +kernel

end Base32

end GroutCni
