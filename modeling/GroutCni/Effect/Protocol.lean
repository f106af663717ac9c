import GroutCni.Effect.Trace

/-!
# Protocols

A protocol says which operations are allowed in a phase, and which phase follows an answer.
A program follows it if it performs only allowed operations, whatever it is answered
(`Program.Follows`).  The protocol then accepts the log of every run of the program, also of one
that is cut short (`Program.Follows.reach`).
-/

namespace Effect

open Program

section

variable {Op : Type} {Res : Op → Type} {Φ α β S : Type}

/-- Which operations are allowed in a phase, and the phase after each answer. -/
abbrev Protocol (Res : Op → Type) (Φ : Type) : Type :=
  Φ → (o : Op) → Option (Res o → Φ)

/-- The phase after the operations of a log, if all of them were allowed. -/
def Protocol.run (δ : Protocol Res Φ) (φ : Φ) : List (Event Res) → Option Φ
  | [] => some φ
  | ⟨o, r⟩ :: log => (δ φ o).bind fun next => Protocol.run δ (next r) log

/-- The program performs only operations that are allowed, and returns in a phase that satisfies
`Q`. -/
def Program.Follows (δ : Protocol Res Φ) (Q : α → Φ → Prop) : Program Res α → Φ → Prop
  | .ret a, φ => Q a φ
  | .call o k, φ => ∃ next, δ φ o = some next ∧ ∀ r, (k r).Follows δ Q (next r)

variable {δ : Protocol Res Φ} {φ : Φ}

theorem Protocol.run_append (log log' : List (Event Res)) :
  δ.run φ (log ++ log') = (δ.run φ log).bind fun φ' => δ.run φ' log'
  := by
  induction log generalizing φ with
  | nil => rfl
  | cons e log ih =>
      obtain ⟨o, r⟩ := e
      dsimp only [List.cons_append, Protocol.run]
      cases δ φ o with
      | none => rfl
      | some next => exact ih

theorem Program.Follows.bind {Q : α → Φ → Prop} {Q' : β → Φ → Prop} {p : Program Res α}
    {f : α → Program Res β} (hp : p.Follows δ Q φ)
    (hf : ∀ a φ', Q a φ' → (f a).Follows δ Q' φ') :
  (p >>= f).Follows δ Q' φ
  := by
  induction p generalizing φ with
  | ret a => exact hf a φ hp
  | call o k ih =>
      obtain ⟨next, hnext, hk⟩ := hp
      exact ⟨next, hnext, fun r => ih r (hk r)⟩

/-- The protocol accepts the log of a run of a program that follows it; what is left of the
program follows it from there. -/
theorem Program.Follows.reach {T : Behaviour Res S} {Q : α → Φ → Prop} {p q : Program Res α}
    {s s' : S × List (Event Res)} (hp : p.Follows δ Q φ)
    (h : Reach (logged T) p s q s') {φ₀ : Φ} (hlog : δ.run φ₀ s.2 = some φ) :
  ∃ φ', δ.run φ₀ s'.2 = some φ' ∧ q.Follows δ Q φ'
  := by
  induction h generalizing φ with
  | refl p s => exact ⟨φ, hlog, hp⟩
  | @call o k s s₁ s' r q ht _ ih =>
      obtain ⟨next, hnext, hk⟩ := hp
      apply ih (hk r)
      rw [ht.2, Protocol.run_append, hlog]
      dsimp only [Option.bind, Protocol.run]
      rw [hnext]

end

end Effect
