import GroutCni.Effect.Interp
import Mathlib.Logic.Relation

/-!
# Programs among others

A pool is a state with the programs that run on it.  Programs start and stop at any time, each
performs one operation at a time, and between any two operations others may change the state as
`E` allows.  Nothing keeps the programs out of each other's way: a program may act on what it
read long ago.

`Pool.Stable.of_steps` is the rule for such programs.  What holds of the state must be kept by
the others, and by every operation that the programs perform; in return a program may rely on it
for the answers it gets.
-/

namespace Effect

open Program

section

variable {ι Op α S : Type} {Res : Op → Type}

/-- A state, and what is left of the programs that run on it. -/
structure Pool (ι : Type) {Op : Type} (Res : Op → Type) (α S : Type) where
  shared : S
  running : List (ι × Program Res α) := []

namespace Pool

/-- One thing that happens to a pool: the others change the state, the program of an `i` that
satisfies `C` starts, a program stops, or a program performs its next operation. -/
inductive Step (E : S → S → Prop) (C : ι → Prop) (body : ι → Program Res α)
    (T : ι → Behaviour Res S) : Pool ι Res α S → Pool ι Res α S → Prop
  | others {p : Pool ι Res α S} {s' : S} : E p.shared s' → Step E C body T p ⟨s', p.running⟩
  | start {p : Pool ι Res α S} {i : ι} : C i →
      Step E C body T p ⟨p.shared, (i, body i) :: p.running⟩
  | stop {s : S} {x : ι × Program Res α} (l₁ l₂ : List (ι × Program Res α)) :
      Step E C body T ⟨s, l₁ ++ x :: l₂⟩ ⟨s, l₁ ++ l₂⟩
  | perform {s s' : S} {i : ι} {o : Op} {k : Res o → Program Res α} {r : Res o}
      (l₁ l₂ : List (ι × Program Res α)) : T i s o r s' →
      Step E C body T ⟨s, l₁ ++ (i, .call o k) :: l₂⟩ ⟨s', l₁ ++ (i, k r) :: l₂⟩

/-- Any number of things happen to a pool. -/
abbrev Steps (E : S → S → Prop) (C : ι → Prop) (body : ι → Program Res α)
    (T : ι → Behaviour Res S) : Pool ι Res α S → Pool ι Res α S → Prop :=
  Relation.ReflTransGen (Step E C body T)

/-- `I` holds of the state, and what is left of each program performs only operations that
satisfy `P`, if their answers satisfy `A`. -/
structure Stable (I : S → Prop) (C : ι → Prop) (P : ι → Op → Prop)
    (A : ι → (o : Op) → Res o → Prop) (p : Pool ι Res α S) : Prop where
  shared : I p.shared
  running : ∀ x ∈ p.running, C x.1 ∧ x.2.Meets (P x.1) (A x.1) fun _ => True

variable {E : S → S → Prop} {C : ι → Prop} {body : ι → Program Res α} {T : ι → Behaviour Res S}
  {I : S → Prop} {P : ι → Op → Prop} {A : ι → (o : Op) → Res o → Prop} {p p' : Pool ι Res α S}

/-- One step keeps a pool stable. -/
theorem Stable.step (h : p.Stable I C P A) (hE : ∀ s s', E s s' → I s → I s')
    (hbody : ∀ i, C i → (body i).Meets (P i) (A i) fun _ => True)
    (hT : ∀ i s o r s', C i → P i o → T i s o r s' → I s → A i o r ∧ I s')
    (hstep : Step E C body T p p') :
  p'.Stable I C P A
  := by
  cases hstep with
  | others he => exact ⟨hE _ _ he h.shared, h.running⟩
  | start hi => exact ⟨h.shared, List.forall_mem_cons.mpr ⟨⟨hi, hbody _ hi⟩, h.running⟩⟩
  | stop l₁ l₂ =>
      constructor
      · exact h.shared
      · intro y hy
        apply h.running y
        rw [List.mem_append] at hy ⊢
        exact hy.imp_right (List.mem_cons_of_mem _)
  | @perform s s' i o k r l₁ l₂ ht =>
      obtain ⟨hi, ho, hk⟩ := h.running (i, .call o k) (by simp)
      obtain ⟨hA, hI⟩ := hT i s o r s' hi ho ht h.shared
      constructor
      · exact hI
      · intro y hy
        rw [List.mem_append, List.mem_cons] at hy
        rcases hy with hy | rfl | hy
        · exact h.running y (List.mem_append_left _ hy)
        · exact ⟨hi, hk r hA⟩
        · exact h.running y (List.mem_append_right _ (List.mem_cons_of_mem _ hy))

/-- A pool stays stable whatever happens to it. -/
theorem Stable.of_steps (h : p.Stable I C P A) (hE : ∀ s s', E s s' → I s → I s')
    (hbody : ∀ i, C i → (body i).Meets (P i) (A i) fun _ => True)
    (hT : ∀ i s o r s', C i → P i o → T i s o r s' → I s → A i o r ∧ I s')
    (hsteps : Steps E C body T p p') :
  p'.Stable I C P A
  := by
  induction hsteps with
  | refl => exact h
  | tail _ hstep ih => exact ih.step hE hbody hT hstep

end Pool

end

end Effect
