import GroutCni.Effect.Fault

/-!
# Running a program on a handler

A handler answers every operation in every state.  `Program.interp` runs a program on a
handler.  Two handlers that answer alike in related states run a program alike
(`Program.Meets.interp`), and what a program returns is determined by what was answered to its
own operations (`Program.feed_of_interp`).
-/

namespace Effect

/-- A handler answers an operation and leaves a new state. -/
abbrev Handler {Op : Type} (Res : Op → Type) (S : Type) : Type :=
  S → (o : Op) → Res o × S

section

variable {Op : Type} {Res : Op → Type} {α β : Type} {S S' : Type}

namespace Program

/-- Run a program on a handler. -/
def interp (h : Handler Res S) : Program Res α → S → α × S
  | .ret a, s => (a, s)
  | .call o k, s => (k (h s o).1).interp h (h s o).2

/-- Run a program on a list of answers, one for each of its operations: `out o a` is what the
operation `o` returns for the answer `a`. -/
def feed {A : Type} (out : (o : Op) → A → Res o) : Program Res α → List A → Option α
  | .ret a, [] => some a
  | .ret _, _ :: _ => none
  | .call _ _, [] => none
  | .call o k, a :: as => (k (out o a)).feed out as

theorem interp_bind (h : Handler Res S) (p : Program Res α) (f : α → Program Res β) (s : S) :
  (p >>= f).interp h s = (f (p.interp h s).1).interp h (p.interp h s).2
  := by
  induction p generalizing s with
  | ret a => rfl
  | call o k ih => exact ih _ _

/-- The program performs only operations that satisfy `P`, and if their answers satisfy `A`
then what it returns satisfies `Q`. -/
def Meets (P : Op → Prop) (A : (o : Op) → Res o → Prop) (Q : α → Prop) : Program Res α → Prop
  | .ret a => Q a
  | .call o k => P o ∧ ∀ r, A o r → (k r).Meets P A Q

section

variable {P : Op → Prop} {A : (o : Op) → Res o → Prop}

theorem Meets.bind {Q : α → Prop} {Q' : β → Prop} {p : Program Res α} {f : α → Program Res β}
    (hp : p.Meets P A Q) (hf : ∀ a, Q a → (f a).Meets P A Q') :
  (p >>= f).Meets P A Q'
  := by
  induction p with
  | ret a => exact hf a hp
  | call o k ih => exact ⟨hp.1, fun r hr => ih r (hp.2 r hr)⟩

/-- A program that performs only operations that satisfy `P`. -/
theorem Uses.meets {p : Program Res α} (h : p.Uses P) :
  p.Meets P A fun _ => True
  := by
  induction p with
  | ret a => trivial
  | call o k ih => exact ⟨h.1, fun r _ => ih r (h.2 r)⟩

/-- Where all answers satisfy `A`, what is returned satisfies `Q`. -/
theorem Meets.returned {Q : α → Prop} {T : Behaviour Res S} {p : Program Res α}
    (hp : p.Meets P A Q) (hT : ∀ s o r s', T s o r s' → A o r) {s s' : S} {a : α}
    (h : Run T p s a s') :
  Q a
  := by
  induction h with
  | ret a s => exact hp
  | call ht _ ih => exact ih (hp.2 _ (hT _ _ _ _ ht))

/-- Where all answers satisfy `A`, what is logged satisfies `P`. -/
theorem Meets.run {Q : α → Prop} {T : Behaviour Res S} {p : Program Res α}
    (hp : p.Meets P A Q) (hT : ∀ s o r s', T s o r s' → A o r)
    {s s' : S × List (Event Res)} {a : α} (h : Run (logged T) p s a s') :
  ∀ e ∈ s'.2, e ∈ s.2 ∨ P e.1
  := by
  induction h with
  | ret a s => exact fun e he => .inl he
  | call ht _ ih =>
      intro e he
      rcases ih (hp.2 _ (hT _ _ _ _ ht.1)) e he with he | he
      · rw [ht.2, List.mem_append, List.mem_singleton] at he
        rcases he with he | rfl
        · exact .inl he
        · exact .inr hp.1
      · exact .inr he

/-- Handlers that answer alike in related states run a program alike. -/
theorem Meets.interp {Q : α → Prop} {h : Handler Res S} {h' : Handler Res S'}
    {R : S → S' → Prop} {p : Program Res α} (hp : p.Meets P A Q)
    (hR : ∀ s s' o, P o → R s s' →
      A o (h s o).1 ∧ (h s o).1 = (h' s' o).1 ∧ R (h s o).2 (h' s' o).2)
    {s : S} {s' : S'} (hs : R s s') :
  Q (p.interp h s).1 ∧ (p.interp h s).1 = (p.interp h' s').1 ∧
    R (p.interp h s).2 (p.interp h' s').2
  := by
  induction p generalizing s s' with
  | ret a => exact ⟨hp, rfl, hs⟩
  | call o k ih =>
      obtain ⟨hA, hr, hnext⟩ := hR s s' o hp.1 hs
      rw [Program.interp, Program.interp, ← hr]
      exact ih _ (hp.2 _ hA) hnext

end

/-- Whatever it is answered, the program returns a value that satisfies `Q`. -/
abbrev Returns (Q : α → Prop) (p : Program Res α) : Prop :=
  p.Meets (fun _ => True) (fun _ _ => True) Q

theorem returns_true (p : Program Res α) :
  p.Returns fun _ => True
  := by
  induction p with
  | ret a => trivial
  | call o k ih => exact ⟨trivial, fun r _ => ih r⟩

/-- A program that ends in a fixed value returns that value. -/
theorem returns_bind_pure {Q : β → Prop} {b : β} (p : Program Res α) (h : Q b) :
  (p >>= fun _ => pure b).Returns Q
  := by
  apply (returns_true p).bind
  intro _ _
  exact h

theorem Returns.run {Q : α → Prop} {T : Behaviour Res S} {p : Program Res α}
    (hp : p.Returns Q) {s s' : S} {a : α} (h : Run T p s a s') :
  Q a
  := Meets.returned hp (fun _ _ _ _ _ => trivial) h

/-- If the handler logs what it answers, the log grows by the answers to the operations of the
program, and these determine what the program returns. -/
theorem feed_of_interp {A : Type} {h : Handler Res S} {out : (o : Op) → A → Res o}
    {log : S → List A}
    (hlog : ∀ s o, ∃ a, (h s o).1 = out o a ∧ log (h s o).2 = log s ++ [a])
    (p : Program Res α) (s : S) :
  ∃ as, log (p.interp h s).2 = log s ++ as ∧ p.feed out as = some (p.interp h s).1
  := by
  induction p generalizing s with
  | ret a => exact ⟨[], (List.append_nil _).symm, rfl⟩
  | call o k ih =>
      obtain ⟨a, hr, hnext⟩ := hlog s o
      obtain ⟨as, has, hfeed⟩ := ih (h s o).1 (h s o).2
      refine ⟨a :: as, ?_, ?_⟩
      · rw [interp, has, hnext, List.append_assoc, List.singleton_append]
      · rw [interp, feed, ← hr]
        exact hfeed

end Program

end

end Effect
