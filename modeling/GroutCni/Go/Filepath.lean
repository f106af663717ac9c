import GroutCni.Go.Basic
import Mathlib.Data.List.TakeWhile

/-!
# Paths

`clean`, `dir` and `join` of Go's `path/filepath` on Unix.  A path cleaned after a last
component `c` ends in that component (`base_clean`), so joining is injective in the last
component.
-/

namespace GroutCni.Filepath

/-- The separator `/`. -/
def slash : UInt8 := 0x2f

/-- The component `.`. -/
def dot : GoString := [0x2e]

/-- The component `..`. -/
def dotdot : GoString := [0x2e, 0x2e]

/-- The components of a path: what stands between the slashes. -/
def components : GoString → List GoString
  | [] => [[]]
  | b :: s =>
      if b = slash then [] :: components s
      else
        match components s with
        | [] => [[b]]
        | c :: cs => (b :: c) :: cs

/-- Add a component to a cleaned path, the last component first. -/
def push (rooted : Bool) (stack : List GoString) (c : GoString) : List GoString :=
  if c = [] ∨ c = dot then stack
  else if c = dotdot then
    match stack with
    | [] => if rooted then [] else [dotdot]
    | top :: rest => if top = dotdot then dotdot :: top :: rest else rest
  else c :: stack

/-- `strings.Join(elems, "/")`. -/
def joinSlash : List GoString → GoString
  | [] => []
  | [e] => e
  | e :: es => e ++ slash :: joinSlash es

/-- `filepath.Clean`. -/
def clean (path : GoString) : GoString :=
  let rooted := path.head? == some slash
  let out := joinSlash ((components path).foldl (push rooted) []).reverse
  if rooted then slash :: out
  else if out = [] then dot
  else out

/-- `filepath.Dir`: the path up to its last slash, cleaned. -/
def dir (path : GoString) : GoString :=
  clean (path.reverse.dropWhile (· != slash)).reverse

/-- `filepath.Join`: the elements from the first that is not empty, joined and cleaned. -/
def join (elems : List GoString) : GoString :=
  match elems.dropWhile List.isEmpty with
  | [] => []
  | es => clean (joinSlash es)

/-- The part of a path after its last slash. -/
def base (path : GoString) : GoString := (path.reverse.takeWhile (· != slash)).reverse

theorem components_ne_nil :
  ∀ s : GoString, components s ≠ []
  | [] => by simp [components]
  | b :: s => by
      unfold components
      split
      · simp
      · split <;> simp

/-- A string without a slash is its own only component. -/
theorem components_of_not_mem :
  ∀ {c : GoString}, slash ∉ c → components c = [c]
  | [], _ => rfl
  | b :: c, h => by
      have hb : b ≠ slash := by
        rintro rfl
        simp at h
      have hc : slash ∉ c := by
        intro hmem
        exact h (List.mem_cons_of_mem b hmem)
      simp [components, hb, components_of_not_mem hc]

/-- The components around a slash are those before it and those after it. -/
theorem components_append (c : GoString) :
  ∀ p : GoString, components (p ++ slash :: c) = components p ++ components c
  | [] => by simp [components]
  | b :: p => by
      have ih := components_append c p
      by_cases hb : b = slash
      · simp [components, hb, ih]
      · obtain ⟨x, xs, hx⟩ := List.exists_cons_of_ne_nil (components_ne_nil p)
        simp [components, hb, ih, hx]

theorem ne_slash_of_mem_reverse {c : GoString} (hc : slash ∉ c) :
  ∀ b ∈ c.reverse, (b != slash) = true
  := by
  intro b hb
  have hne : b ≠ slash := by
    rintro rfl
    exact hc (List.mem_reverse.mp hb)
  simpa using hne

theorem base_append {x c : GoString} (hc : slash ∉ c) :
  base (x ++ slash :: c) = c
  := by
  have h : (x ++ slash :: c).reverse = c.reverse ++ slash :: x.reverse := by simp
  rw [base, h, List.takeWhile_append_of_pos (ne_slash_of_mem_reverse hc)]
  simp

theorem base_of_not_mem {c : GoString} (hc : slash ∉ c) :
  base c = c
  := by
  rw [base, List.takeWhile_eq_self_iff.mpr (ne_slash_of_mem_reverse hc), List.reverse_reverse]

/-- A path joined from components ends in the last of them. -/
theorem joinSlash_snoc (c : GoString) :
  ∀ cs : List GoString,
    joinSlash (cs ++ [c]) = c ∨ ∃ x, joinSlash (cs ++ [c]) = x ++ slash :: c
  | [] => .inl rfl
  | [d] => .inr ⟨d, rfl⟩
  | d :: d' :: cs => by
      have hcons : joinSlash (d :: d' :: cs ++ [c]) = d ++ slash :: joinSlash (d' :: cs ++ [c]) :=
        rfl
      right
      rw [hcons]
      rcases joinSlash_snoc c (d' :: cs) with h | ⟨x, h⟩
      · use d
        rw [h]
      · use d ++ slash :: x
        rw [h, List.append_assoc, List.cons_append]

/-- A path cleaned after a proper last component ends in that component. -/
theorem base_clean {p c : GoString} (hslash : slash ∉ c) (hnil : c ≠ []) (hdot : c ≠ dot)
    (hdotdot : c ≠ dotdot) :
  base (clean (p ++ slash :: c)) = c
  := by
  have hcomp : components (p ++ slash :: c) = components p ++ [c] := by
    rw [components_append, components_of_not_mem hslash]
  have hpush : ∀ (rooted : Bool) (stack : List GoString), push rooted stack c = c :: stack := by
    intro rooted stack
    simp [push, hnil, hdot, hdotdot]
  unfold clean
  simp only [hcomp, List.foldl_append, List.foldl_cons, List.foldl_nil, hpush,
    List.reverse_cons]
  generalize hstack : (List.foldl (push _) [] (components p)).reverse = stack
  have hsnoc := joinSlash_snoc c stack
  have hne : joinSlash (stack ++ [c]) ≠ [] := by
    rcases hsnoc with h | ⟨x, h⟩
    · rw [h]
      exact hnil
    · simp [h]
  split
  · rcases hsnoc with h | ⟨x, h⟩
    · rw [h]
      apply base_append (x := []) hslash
    · rw [h]
      apply base_append (x := slash :: x) hslash
  · rcases hsnoc with h | ⟨x, h⟩
    · rw [h]
      apply base_of_not_mem hslash
    · rw [h]
      apply base_append hslash

/-- A cleaned path is not empty. -/
theorem clean_ne_nil (path : GoString) :
  clean path ≠ []
  := by
  simp only [clean]
  split
  · simp
  · split
    · simp [dot]
    · assumption

/-- The path joined under a directory ends in its last element. -/
theorem base_join_dir {path d c : GoString} (hslash : slash ∉ c) (hnil : c ≠ [])
    (hdot : c ≠ dot) (hdotdot : c ≠ dotdot) :
  base (join [dir path, d, c]) = c
  := by
  obtain ⟨b, bs, hd⟩ := List.exists_cons_of_ne_nil (clean_ne_nil
    (path.reverse.dropWhile (· != slash)).reverse)
  have hjoin : join [dir path, d, c] = clean ((dir path ++ slash :: d) ++ slash :: c) := by
    simp [join, dir, hd, joinSlash]
  rw [hjoin]
  apply base_clean hslash hnil hdot hdotdot

/-! ### The bytes of a path -/

theorem mem_of_mem_components {b : UInt8} {c : GoString} :
  ∀ {s : GoString}, c ∈ components s → b ∈ c → b ∈ s
  | [], hc, hb => by
      rw [List.mem_singleton.mp hc] at hb
      exact hb
  | x :: s, hc, hb => by
      unfold components at hc
      split at hc
      · rcases List.mem_cons.mp hc with rfl | hc
        · cases hb
        · exact List.mem_cons_of_mem x (mem_of_mem_components hc hb)
      · split at hc
        case h_1 hnil => exact absurd hnil (components_ne_nil s)
        case h_2 d ds hcons =>
          rcases List.mem_cons.mp hc with rfl | hc
          · rcases List.mem_cons.mp hb with rfl | hb
            · exact List.mem_cons_self
            · exact List.mem_cons_of_mem x
                (mem_of_mem_components (hcons ▸ List.mem_cons_self) hb)
          · exact List.mem_cons_of_mem x
              (mem_of_mem_components (hcons ▸ List.mem_cons_of_mem d hc) hb)

theorem mem_joinSlash {b : UInt8} :
  ∀ {cs : List GoString}, b ∈ joinSlash cs → b = slash ∨ ∃ c ∈ cs, b ∈ c
  | [], h => by cases h
  | [c], h => .inr ⟨c, List.mem_cons_self, h⟩
  | c :: d :: cs, h => by
      rcases List.mem_append.mp h with h | h
      · exact .inr ⟨c, List.mem_cons_self, h⟩
      · rcases List.mem_cons.mp h with rfl | h
        · exact .inl rfl
        · apply (mem_joinSlash h).imp_right
          rintro ⟨e, he, hb⟩
          exact ⟨e, List.mem_cons_of_mem c he, hb⟩

/-- What is on the stack has been pushed, or is `..`. -/
theorem mem_foldl_push {rooted : Bool} {c : GoString} (cs stack : List GoString)
    (h : c ∈ cs.foldl (push rooted) stack) :
  c ∈ stack ∨ c ∈ cs ∨ c = dotdot
  := by
  induction cs generalizing stack with
  | nil => exact .inl h
  | cons d cs ih =>
      have hpush : ∀ x ∈ push rooted stack d, x ∈ stack ∨ x = d ∨ x = dotdot := by
        intro x hx
        unfold push at hx
        split at hx
        · exact .inl hx
        · split at hx
          · split at hx
            · split at hx
              · cases hx
              · exact .inr (.inr (List.mem_singleton.mp hx))
            · split at hx
              · rcases List.mem_cons.mp hx with rfl | hx
                · exact .inr (.inr rfl)
                · exact .inl hx
              · exact .inl (List.mem_cons_of_mem _ hx)
          · rcases List.mem_cons.mp hx with rfl | hx
            · exact .inr (.inl rfl)
            · exact .inl hx
      rcases ih _ h with h | h | h
      · rcases hpush c h with h | rfl | h
        · exact .inl h
        · exact .inr (.inl List.mem_cons_self)
        · exact .inr (.inr h)
      · exact .inr (.inl (List.mem_cons_of_mem d h))
      · exact .inr (.inr h)

/-- Cleaning a path adds no bytes but slashes and dots. -/
theorem mem_clean {b : UInt8} {path : GoString} (h : b ∈ clean path) :
  b ∈ path ∨ b = slash ∨ b = 0x2e
  := by
  have hjoin : ∀ {rooted : Bool},
      b ∈ joinSlash ((components path).foldl (push rooted) []).reverse →
        b ∈ path ∨ b = slash ∨ b = 0x2e := by
    intro rooted hb
    rcases mem_joinSlash hb with hb | ⟨c, hc, hb⟩
    · exact .inr (.inl hb)
    · rcases mem_foldl_push _ _ (List.mem_reverse.mp hc) with hc | hc | rfl
      · cases hc
      · exact .inl (mem_of_mem_components hc hb)
      · exact .inr (.inr (by simpa [dotdot] using hb))
  unfold clean at h
  dsimp only at h
  split at h
  · rcases List.mem_cons.mp h with rfl | h
    · exact .inr (.inl rfl)
    · exact hjoin h
  · split at h
    · exact .inr (.inr (List.mem_singleton.mp h))
    · exact hjoin h

theorem mem_dir {b : UInt8} {path : GoString} (h : b ∈ dir path) :
  b ∈ path ∨ b = slash ∨ b = 0x2e
  := by
  apply (mem_clean h).imp_left
  intro hb
  exact List.mem_reverse.mp ((List.dropWhile_sublist _).subset (List.mem_reverse.mp hb))

theorem mem_join {b : UInt8} {elems : List GoString} (h : b ∈ join elems) :
  (∃ e ∈ elems, b ∈ e) ∨ b = slash ∨ b = 0x2e
  := by
  unfold join at h
  split at h
  · cases h
  · rcases mem_clean h with hb | hb
    · rcases mem_joinSlash hb with hb | ⟨e, he, hb⟩
      · exact .inr (.inl hb)
      · exact .inl ⟨e, (List.dropWhile_sublist _).subset he, hb⟩
    · exact .inr hb

end GroutCni.Filepath
