import GroutCni.Effect.Interp

/-!
# Simulation

Two programs over different signatures match if they perform related operations one after
another, and go on alike whenever the answers are related.  If the operations of one behaviour
are simulated by those of another, then a run of a program is simulated by a run of every
program that it matches (`Matches.run`), also where the run is cut short (`Matches.reach`).

A handler is a behaviour with one answer for each operation, so matching programs on handlers
are a special case (`Matches.interp`).
-/

namespace Effect

open Program

section

variable {Op Op' : Type} {Res : Op → Type} {Res' : Op' → Type} {α α' β β' : Type} {S S' : Type}

/-- Which operations of two signatures are related, and which of their answers. -/
structure Coupling (Res : Op → Type) (Res' : Op' → Type) where
  op : Op → Op' → Prop
  ans : (o : Op) → (o' : Op') → Res o → Res' o' → Prop

/-- The programs perform related operations, and return values related by `Q` if they are given
related answers. -/
inductive Matches (K : Coupling Res Res') (Q : α → α' → Prop) :
    Program Res α → Program Res' α' → Prop
  | ret {a : α} {a' : α'} : Q a a' → Matches K Q (.ret a) (.ret a')
  | call {o : Op} {o' : Op'} {k : Res o → Program Res α} {k' : Res' o' → Program Res' α'} :
      K.op o o' → (∀ r r', K.ans o o' r r' → Matches K Q (k r) (k' r')) →
      Matches K Q (.call o k) (.call o' k')

/-- Every step of `T` with an operation is a step of `T'` with each related operation. -/
def Simulates (K : Coupling Res Res') (R : S → S' → Prop) (T : Behaviour Res S)
    (T' : Behaviour Res' S') : Prop :=
  ∀ ⦃s s' o o' r s₁⦄, K.op o o' → R s s' → T s o r s₁ →
    ∃ r' s₁', T' s' o' r' s₁' ∧ K.ans o o' r r' ∧ R s₁ s₁'

namespace Matches

variable {K : Coupling Res Res'} {Q : α → α' → Prop} {p : Program Res α} {p' : Program Res' α'}

theorem bind {Q' : β → β' → Prop} {f : α → Program Res β} {f' : α' → Program Res' β'}
    (hp : Matches K Q p p') (hf : ∀ a a', Q a a' → Matches K Q' (f a) (f' a')) :
  Matches K Q' (p >>= f) (p' >>= f')
  := by
  induction hp with
  | ret ha => exact hf _ _ ha
  | call ho _ ih => exact .call ho ih

section

variable {T : Behaviour Res S} {T' : Behaviour Res' S'} {R : S → S' → Prop} {s s₁ : S} {s' : S'}

/-- Where a run is cut short, the run that simulates it may be cut short. -/
theorem reach {q : Program Res α} (hp : Matches K Q p p') (hT : Simulates K R T T')
    (hs : R s s') (h : Reach T p s q s₁) :
  ∃ q' s₁', Reach T' p' s' q' s₁' ∧ Matches K Q q q' ∧ R s₁ s₁'
  := by
  induction h generalizing p' s' with
  | refl p s => exact ⟨p', s', .refl p' s', hp, hs⟩
  | call ht _ ih =>
      cases hp with
      | call ho hk =>
          obtain ⟨r', s₂', ht', hr, hnext⟩ := hT ho hs ht
          obtain ⟨q', s₁', hreach, hq, hend⟩ := ih (hk _ _ hr) hnext
          exact ⟨q', s₁', .call ht' hreach, hq, hend⟩

/-- A run is simulated by a run of a matching program. -/
theorem run {a : α} (hp : Matches K Q p p') (hT : Simulates K R T T') (hs : R s s')
    (h : Run T p s a s₁) :
  ∃ a' s₁', Run T' p' s' a' s₁' ∧ Q a a' ∧ R s₁ s₁'
  := by
  obtain ⟨q', s₁', hreach, hq, hend⟩ := hp.reach hT hs h.reach
  cases hq with
  | ret ha => exact ⟨_, s₁', hreach.run rfl, ha, hend⟩

end

end Matches

/-! ### Operations that are programs -/

/-- Perform a program in the place of each operation. -/
def Program.expand (f : (o : Op) → Program Res' (Res o)) : Program Res α → Program Res' α
  | .ret a => .ret a
  | .call o k => f o >>= fun r => (k r).expand f

/-- If the programs for each operation match, then so do the programs that perform them. -/
theorem Matches.expand {Op'' : Type} {Res'' : Op'' → Type} {K : Coupling Res' Res''}
    {f : (o : Op) → Program Res' (Res o)} {f' : (o : Op) → Program Res'' (Res o)}
    (hf : ∀ o, Matches K Eq (f o) (f' o)) (p : Program Res α) :
  Matches K Eq (p.expand f) (p.expand f')
  := by
  induction p with
  | ret a => exact .ret rfl
  | call o k ih =>
      apply (hf o).bind
      rintro r _ rfl
      exact ih r

/-! ### One program at two levels -/

section

variable {P : Op → Prop} {p : Program Res α} {T : Behaviour Res S} {T' : Behaviour Res S'}
  {R : S → S' → Prop} {s s₁ : S} {s' : S'}

/-- Every program performs operations. -/
theorem Program.uses_true (p : Program Res α) :
  p.Uses fun _ => True
  := by
  induction p with
  | ret a => trivial
  | call o k ih => exact ⟨trivial, ih⟩

/-- If the operations that a program performs are simulated, then so is the program, also where
it is cut short. -/
theorem Program.Uses.reach_simulated {q : Program Res α} (hp : p.Uses P)
    (hT : ∀ ⦃s s' o r s₁⦄, P o → R s s' → T s o r s₁ → ∃ s₁', T' s' o r s₁' ∧ R s₁ s₁')
    (hs : R s s') (h : Reach T p s q s₁) :
  ∃ s₁', Reach T' p s' q s₁' ∧ R s₁ s₁'
  := by
  induction h generalizing s' with
  | refl p s => exact ⟨s', .refl p s', hs⟩
  | call ht _ ih =>
      obtain ⟨s₂', ht', hnext⟩ := hT hp.1 hs ht
      obtain ⟨s₁', hreach, hend⟩ := ih (hp.2 _) hnext
      exact ⟨s₁', .call ht' hreach, hend⟩

/-- If the operations that a program performs are simulated, then so is the program. -/
theorem Program.Uses.run_simulated {a : α} (hp : p.Uses P)
    (hT : ∀ ⦃s s' o r s₁⦄, P o → R s s' → T s o r s₁ → ∃ s₁', T' s' o r s₁' ∧ R s₁ s₁')
    (hs : R s s') (h : Run T p s a s₁) :
  ∃ s₁', Run T' p s' a s₁' ∧ R s₁ s₁'
  := by
  obtain ⟨s₁', hreach, hend⟩ := hp.reach_simulated hT hs h.reach
  exact ⟨s₁', hreach.run rfl, hend⟩

end

/-! ### Handlers -/

/-- The behaviour of a handler. -/
def Handler.behaviour (h : Handler Res S) : Behaviour Res S :=
  fun s o r s' => h s o = (r, s')

theorem run_behaviour_iff {h : Handler Res S} {p : Program Res α} {s s₁ : S} {a : α} :
  Run h.behaviour p s a s₁ ↔ p.interp h s = (a, s₁)
  := by
  constructor
  · intro hrun
    induction hrun with
    | ret a s => rfl
    | call ht _ ih =>
        rw [Program.interp, ht]
        exact ih
  · intro hinterp
    induction p generalizing s with
    | ret b =>
        cases hinterp
        exact .ret _ _
    | call o k ih => exact .call rfl (ih _ hinterp)

/-- Matching programs on handlers return related values and leave related states. -/
theorem Matches.interp {K : Coupling Res Res'} {Q : α → α' → Prop} {p : Program Res α}
    {p' : Program Res' α'} {h : Handler Res S} {h' : Handler Res' S'} {R : S → S' → Prop}
    (hp : Matches K Q p p')
    (hR : ∀ s s' o o', K.op o o' → R s s' →
      K.ans o o' (h s o).1 (h' s' o').1 ∧ R (h s o).2 (h' s' o').2)
    {s : S} {s' : S'} (hs : R s s') :
  Q (p.interp h s).1 (p'.interp h' s').1 ∧ R (p.interp h s).2 (p'.interp h' s').2
  := by
  have hsim : Simulates K R h.behaviour h'.behaviour := by
    intro s s' o o' r s₁ ho hs ht
    obtain ⟨hans, hnext⟩ := hR s s' o o' ho hs
    rw [ht] at hans hnext
    exact ⟨_, _, rfl, hans, hnext⟩
  obtain ⟨a', s₁', hrun, ha, hend⟩ := hp.run hsim hs (run_behaviour_iff.mpr rfl)
  rw [run_behaviour_iff.mp hrun]
  exact ⟨ha, hend⟩

end

end Effect
