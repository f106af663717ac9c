import Mathlib.Algebra.Order.Ring.Nat
import Mathlib.Data.List.Basic
import Mathlib.Data.List.Pairwise

/-!
# Bytes and buffers

Numbers are written in little-endian order with `toLE` and read with `ofLE`.  A buffer is a
list of bytes: `copyAt` writes into it at an offset and leaves its length as it is, and
`slice` reads from it.  `fill` makes a buffer from fields that are written one after another;
if the fields are apart, each is found where it was written and all other bytes are zero.
-/

namespace Wire

/-- A string of bytes. -/
abbrev Bytes : Type := List UInt8

/-! ### Little-endian numbers -/

/-- The `w` bytes of a number, the least significant first. -/
def toLE : Nat → Nat → Bytes
  | 0, _ => []
  | w + 1, n => UInt8.ofNat n :: toLE w (n / 256)

/-- The number with the given bytes, the least significant first. -/
def ofLE : Bytes → Nat
  | [] => 0
  | b :: bs => b.toNat + 256 * ofLE bs

@[simp]
theorem length_toLE (w n : Nat) :
  (toLE w n).length = w
  := by
  induction w generalizing n with
  | zero => rfl
  | succ w ih => simp [toLE, ih]

/-- A number that fits is read back as it was written. -/
theorem ofLE_toLE {w n : Nat} (h : n < 256 ^ w) :
  ofLE (toLE w n) = n
  := by
  induction w generalizing n with
  | zero =>
      rw [Nat.pow_zero, Nat.lt_one_iff] at h
      exact h.symm
  | succ w ih =>
      have hdiv : n / 256 < 256 ^ w := by
        apply Nat.div_lt_of_lt_mul
        rwa [Nat.pow_succ, Nat.mul_comm] at h
      rw [toLE, ofLE, ih hdiv, UInt8.toNat_ofNat']
      exact Nat.mod_add_div n 256

/-- Bytes that are read are those that would be written. -/
theorem toLE_ofLE (bs : Bytes) :
  toLE bs.length (ofLE bs) = bs
  := by
  induction bs with
  | nil => rfl
  | cons b bs ih =>
      have hb : b.toNat < 256 := b.toNat_lt
      have hhead : UInt8.ofNat (b.toNat + 256 * ofLE bs) = b := by
        apply UInt8.toNat_inj.mp
        rw [UInt8.toNat_ofNat']
        omega
      have htail : (b.toNat + 256 * ofLE bs) / 256 = ofLE bs := by omega
      rw [List.length_cons, toLE, ofLE, hhead, htail, ih]

theorem ofLE_lt (bs : Bytes) :
  ofLE bs < 256 ^ bs.length
  := by
  induction bs with
  | nil => decide
  | cons b bs ih =>
      have hb : b.toNat < 256 := b.toNat_lt
      rw [ofLE, List.length_cons, Nat.pow_succ]
      omega

/-! ### Buffers -/

/-- The `n` bytes from the offset on, or as many as there are. -/
def slice (b : Bytes) (off n : Nat) : Bytes :=
  (b.drop off).take n

/-- The buffer with bytes copied into it from the offset on, as far as they fit. -/
def copyAt (b : Bytes) (off : Nat) (src : Bytes) : Bytes :=
  b.take off ++ (src.take (b.length - off) ++ b.drop (off + src.length))

theorem getElem?_slice (b : Bytes) (off n i : Nat) :
  (slice b off n)[i]? = if i < n then b[off + i]? else none
  := by
  rw [slice, List.getElem?_take, List.getElem?_drop]

theorem slice_append_left {a : Bytes} (b : Bytes) {off n : Nat} (h : off + n ≤ a.length) :
  slice (a ++ b) off n = slice a off n
  := by
  rw [slice, List.drop_append_of_le_length (by omega), List.take_append_of_le_length, ← slice]
  rw [List.length_drop]
  omega

theorem slice_append_right {a : Bytes} (b : Bytes) {off n : Nat} (h : a.length ≤ off) :
  slice (a ++ b) off n = slice b (off - a.length) n
  := by
  rw [slice, List.drop_append, List.drop_eq_nil_of_le h, List.nil_append, ← slice]

/-- A slice in two parts. -/
theorem slice_add (b : Bytes) (off m n : Nat) :
  slice b off (m + n) = slice b off m ++ slice b (off + m) n
  := by
  rw [slice, List.take_add, List.drop_drop, ← slice, ← slice]

/-- A slice of a slice. -/
theorem slice_slice (b : Bytes) {off n i m : Nat} (h : i + m ≤ n) :
  slice (slice b off n) i m = slice b (off + i) m
  := by
  rw [slice, slice, slice, List.drop_take, List.drop_drop, List.take_take,
    Nat.min_eq_left (by omega)]

/-- Strings that agree in a range have the same slice there. -/
theorem slice_congr {a b : Bytes} {off n : Nat}
    (h : ∀ i, off ≤ i → i < off + n → a[i]? = b[i]?) :
  slice a off n = slice b off n
  := by
  apply List.ext_getElem?
  intro i
  rw [getElem?_slice, getElem?_slice]
  split
  case isTrue hi => exact h _ (Nat.le_add_right _ _) (Nat.add_lt_add_left hi _)
  case isFalse => rfl

/-- All of a string is its own slice. -/
theorem slice_self {b : Bytes} {n : Nat} (h : b.length = n) :
  slice b 0 n = b
  := by
  rw [slice, List.drop_zero, List.take_of_length_le h.le]

@[simp]
theorem length_copyAt (b : Bytes) (off : Nat) (src : Bytes) :
  (copyAt b off src).length = b.length
  := by
  simp only [copyAt, List.length_append, List.length_take, List.length_drop]
  omega

/-- A write changes the bytes of its range that are in the buffer. -/
theorem getElem?_copyAt (b : Bytes) (off : Nat) (src : Bytes) (i : Nat) :
  (copyAt b off src)[i]?
    = if off ≤ i ∧ i < off + src.length ∧ i < b.length then src[i - off]? else b[i]?
  := by
  rcases Nat.lt_or_ge i off with hlt | hge
  · rw [if_neg (by omega), copyAt, List.getElem?_append]
    split
    case isTrue => rw [List.getElem?_take, if_pos hlt]
    case isFalse h =>
      -- The offset is beyond the buffer.
      rw [List.length_take] at h
      rw [List.getElem?_eq_none (l := b) (by omega)]
      apply List.getElem?_eq_none
      simp only [List.length_append, List.length_take, List.length_drop]
      omega
  · rcases Nat.lt_or_ge i b.length with hb | hb
    · have hoff : (b.take off).length = off := by
        rw [List.length_take]
        omega
      rw [copyAt, List.getElem?_append_right (by omega), hoff, List.getElem?_append]
      split
      case isTrue h =>
        rw [List.length_take] at h
        rw [List.getElem?_take, if_pos (by omega), if_pos (by omega)]
      case isFalse h =>
        rw [List.length_take] at h
        rw [if_neg (by omega), List.getElem?_drop, List.length_take]
        congr 1
        omega
    · rw [if_neg (by omega), List.getElem?_eq_none (by rw [length_copyAt]; exact hb),
        List.getElem?_eq_none hb]

/-- A write that ends before an offset is a write into what comes before it. -/
theorem take_copyAt {b : Bytes} {off n : Nat} {src : Bytes} (h : off + src.length ≤ n) :
  (copyAt b off src).take n = copyAt (b.take n) off src
  := by
  apply List.ext_getElem?
  intro i
  rw [List.getElem?_take, getElem?_copyAt, getElem?_copyAt, List.length_take, List.getElem?_take]
  split
  case isTrue hi =>
    congr 1
    simp only [lt_min_iff, hi, true_and]
  case isFalse hi =>
    rw [if_neg (by omega)]

/-- A write from an offset on leaves what comes before it. -/
theorem take_copyAt_of_le {b : Bytes} {off n : Nat} (src : Bytes) (h : n ≤ off) :
  (copyAt b off src).take n = b.take n
  := by
  apply List.ext_getElem?
  intro i
  rw [List.getElem?_take, getElem?_copyAt, List.getElem?_take]
  split
  case isTrue hi => rw [if_neg (by omega)]
  case isFalse => rfl

/-! ### Fields -/

/-- Bytes with the offset at which they are written. -/
structure Field where
  off : Nat
  data : Bytes

/-- The byte at the index is one of the field's. -/
def Field.Covers (f : Field) (i : Nat) : Prop :=
  f.off ≤ i ∧ i < f.off + f.data.length

instance (f : Field) (i : Nat) : Decidable (f.Covers i) :=
  inferInstanceAs (Decidable (_ ∧ _))

/-- No byte belongs to both fields. -/
def Field.Apart (f g : Field) : Prop :=
  f.off + f.data.length ≤ g.off ∨ g.off + g.data.length ≤ f.off

instance : Std.Symm Field.Apart := ⟨fun _ _ h => h.symm⟩

/-- The buffer with the fields written into it, one after another. -/
def write (b : Bytes) (fs : List Field) : Bytes :=
  fs.foldl (fun b f => copyAt b f.off f.data) b

/-- A buffer of zeros with the fields written into it. -/
def fill (size : Nat) (fs : List Field) : Bytes :=
  write (List.replicate size 0) fs

@[simp]
theorem length_write (b : Bytes) (fs : List Field) :
  (write b fs).length = b.length
  := by
  induction fs generalizing b with
  | nil => rfl
  | cons f fs ih => rw [write, List.foldl_cons, ← write, ih, length_copyAt]

@[simp]
theorem length_fill (size : Nat) (fs : List Field) :
  (fill size fs).length = size
  := by
  rw [fill, length_write, List.length_replicate]

/-- Bytes that belong to no field are left. -/
theorem getElem?_write_of_not_covers {fs : List Field} {i : Nat} (b : Bytes)
    (h : ∀ f ∈ fs, ¬ f.Covers i) :
  (write b fs)[i]? = b[i]?
  := by
  induction fs generalizing b with
  | nil => rfl
  | cons f fs ih =>
      have hf := h f List.mem_cons_self
      rw [write, List.foldl_cons, ← write, ih _ fun g hg => h g (List.mem_cons_of_mem _ hg),
        getElem?_copyAt, if_neg]
      rintro ⟨hle, hlt, -⟩
      exact hf ⟨hle, hlt⟩

/-- A byte of a field that is apart from those written later is found in the buffer. -/
theorem getElem?_write {fs : List Field} {f : Field} {i : Nat} (b : Bytes)
    (hapart : fs.Pairwise Field.Apart) (hf : f ∈ fs) (hi : f.Covers i) (hb : i < b.length) :
  (write b fs)[i]? = f.data[i - f.off]?
  := by
  induction fs generalizing b with
  | nil => cases hf
  | cons g fs ih =>
      obtain ⟨hg, hfs⟩ := List.pairwise_cons.mp hapart
      rw [write, List.foldl_cons, ← write]
      rcases List.mem_cons.mp hf with rfl | hf
      · rw [getElem?_write_of_not_covers, getElem?_copyAt, if_pos ⟨hi.1, hi.2, hb⟩]
        intro g hgfs hcov
        have h := hg g hgfs
        unfold Field.Apart at h
        unfold Field.Covers at hi hcov
        omega
      · exact ih _ hfs hf (by rw [length_copyAt]; exact hb)

section

variable {size : Nat} {fs : List Field}

/-- A field of a buffer is found where it was written. -/
theorem slice_fill {f : Field} (hapart : fs.Pairwise Field.Apart) (hf : f ∈ fs)
    (hfit : f.off + f.data.length ≤ size) :
  slice (fill size fs) f.off f.data.length = f.data
  := by
  apply List.ext_getElem?
  intro i
  rw [getElem?_slice]
  split
  case isTrue hi =>
    have hcov : f.Covers (f.off + i) := ⟨by omega, by omega⟩
    have hlen : f.off + i < (List.replicate size (0 : UInt8)).length := by
      rw [List.length_replicate]
      omega
    rw [fill, getElem?_write _ hapart hf hcov hlen, Nat.add_sub_cancel_left]
  case isFalse hi => exact (List.getElem?_eq_none (by omega)).symm

/-- A byte of a buffer that belongs to no field is zero. -/
theorem getElem?_fill_of_not_covers {i : Nat} (hi : i < size) (h : ∀ f ∈ fs, ¬ f.Covers i) :
  (fill size fs)[i]? = some 0
  := by
  rw [fill, getElem?_write_of_not_covers _ h, List.getElem?_replicate, if_pos hi]

/-- Fields of zeros may be left out. -/
theorem slice_fill_of_sublist {all : List Field} {f : Field} (hsub : fs.Sublist all)
    (hapart : all.Pairwise Field.Apart) (hf : f ∈ all) (hfit : f.off + f.data.length ≤ size)
    (hzero : f ∉ fs → f.data = List.replicate f.data.length 0) :
  slice (fill size fs) f.off f.data.length = f.data
  := by
  by_cases hmem : f ∈ fs
  · exact slice_fill (hapart.sublist hsub) hmem hfit
  · have hout : ∀ g ∈ fs, g.Apart f := by
      intro g hg
      have hne : g ≠ f := fun heq => hmem (heq ▸ hg)
      exact hapart.forall (hsub.subset hg) hf hne
    apply List.ext_getElem?
    intro i
    rw [getElem?_slice, hzero hmem, List.getElem?_replicate, List.length_replicate]
    split
    case isTrue hi =>
      apply getElem?_fill_of_not_covers (by omega)
      intro g hg hcov
      have happart := hout g hg
      unfold Field.Apart at happart
      unfold Field.Covers at hcov
      omega
    case isFalse => rfl

end

/-! ### The beginning of a buffer -/

theorem take_write {fs : List Field} {n : Nat} (b : Bytes)
    (h : ∀ f ∈ fs, f.off + f.data.length ≤ n) :
  (write b fs).take n = write (b.take n) fs
  := by
  induction fs generalizing b with
  | nil => rfl
  | cons f fs ih =>
      rw [write, List.foldl_cons, ← write, ih _ fun g hg => h g (List.mem_cons_of_mem _ hg),
        take_copyAt (h f List.mem_cons_self)]
      rfl

theorem take_write_of_le {fs : List Field} {n : Nat} (b : Bytes) (h : ∀ f ∈ fs, n ≤ f.off) :
  (write b fs).take n = b.take n
  := by
  induction fs generalizing b with
  | nil => rfl
  | cons f fs ih =>
      rw [write, List.foldl_cons, ← write, ih _ fun g hg => h g (List.mem_cons_of_mem _ hg),
        take_copyAt_of_le _ (h f List.mem_cons_self)]

/-- What comes before an offset is filled by the fields before it. -/
theorem take_fill_append {fs gs : List Field} {size n : Nat} (hn : n ≤ size)
    (hfs : ∀ f ∈ fs, f.off + f.data.length ≤ n) (hgs : ∀ g ∈ gs, n ≤ g.off) :
  (fill size (fs ++ gs)).take n = fill n fs
  := by
  have happend : fill size (fs ++ gs) = write (fill size fs) gs := List.foldl_append
  rw [happend, take_write_of_le _ hgs, fill, take_write _ hfs, List.take_replicate,
    Nat.min_eq_left hn, fill]

end Wire
