import GroutCni.Effect.Program
import Mathlib.Data.List.Basic

/-!
# Calls that may fail

An operation `o` of a fallible signature answers a value of type `Val o` or an error.
`Faulty eff P` lets a call succeed with one of the effects `eff` allows, fail and change
nothing, or be lost: take effect although the caller sees an error.  The policy `P` says
which of the three may happen to which operation.

`logged T` records every operation with its answer.  `exec` runs a program on a list of
choices, one for each operation, and is sound for any behaviour that allows the choices.
-/

namespace Effect

open Program

/-- What may happen to a call: it succeeds, it fails and changes nothing, or it takes
effect although an error is reported. -/
inductive Fault where
  | none
  | fail
  | lost
  deriving DecidableEq

/-- Which faults may happen to which operation. -/
abbrev Policy (Op : Type) : Type :=
  Op → Fault → Bool

/-- Every call succeeds. -/
def Policy.allOk {Op : Type} : Policy Op
  | _, .none => true
  | _, _ => false

/-- Any call may fail, and a call that fails changes nothing. -/
def Policy.mayFail {Op : Type} : Policy Op
  | _, .lost => false
  | _, _ => true

/-- Any call may succeed, fail or be lost. -/
def Policy.mayLose {Op : Type} : Policy Op :=
  fun _ _ => true

section

variable {Op E S α C : Type} {Val : Op → Type} {Res : Op → Type}

/-- The behaviour of calls with the effects `eff` under the faults of `P`. -/
def Faulty (eff : Behaviour Val S) (P : Policy Op) : Behaviour (fun o => Except E (Val o)) S
  | s, o, .ok v, s' => P o .none = true ∧ eff s o v s'
  | s, o, .error _, s' => (P o .fail = true ∧ s' = s) ∨ (P o .lost = true ∧ ∃ v, eff s o v s')

variable {eff : Behaviour Val S} {P P' : Policy Op}

/-- A call with any answer leaves the state as it was or has one of its effects. -/
theorem Faulty.eq_or_eff {s s' : S} {o : Op} {r : Except E (Val o)}
    (h : Faulty eff P s o r s') :
  s' = s ∨ ∃ v, eff s o v s'
  := by
  cases r with
  | ok v => exact .inr ⟨v, h.2⟩
  | error e =>
      rcases h with ⟨-, rfl⟩ | ⟨-, hv⟩
      · exact .inl rfl
      · exact .inr hv

/-! ### What holds after a success -/

/-- An operation with the answer it got. -/
abbrev Event (Res : Op → Type) : Type :=
  (o : Op) × Res o

/-- The behaviour `T` with a log of the operations performed and their answers. -/
def logged (T : Behaviour Res S) : Behaviour Res (S × List (Event Res)) :=
  fun s o r s' => T s.1 o r s'.1 ∧ s'.2 = s.2 ++ [⟨o, r⟩]

/-- A run with a log is a run. -/
theorem Run.forget {T : Behaviour Res S} {p : Program Res α} {s s' : S × List (Event Res)}
    {a : α} (h : Run (logged T) p s a s') :
  Run T p s.1 a s'.1
  := by
  induction h with
  | ret a s => apply Run.ret
  | call ht _ ih => apply Run.call ht.1 ih

/-- A log only grows. -/
theorem Run.log_prefix {T : Behaviour Res S} {p : Program Res α}
    {s s' : S × List (Event Res)} {a : α} (h : Run (logged T) p s a s') :
  s.2 <+: s'.2
  := by
  induction h with
  | ret a s => apply List.prefix_refl
  | call ht _ ih =>
      apply List.IsPrefix.trans _ ih
      rw [ht.2]
      apply List.prefix_append

/-! ### Running a program on choices -/

/-- Perform the first operations of a program, one for each choice: `act c s o` is the
answer and the state the choice `c` gives the operation `o` in the state `s`. -/
def advance (act : C → S → (o : Op) → Option (Res o × S)) :
    List C → Program Res α → S → Option (Program Res α × S)
  | [], p, s => some (p, s)
  | _ :: _, .ret _, _ => none
  | c :: cs, .call o k, s =>
      match act c s o with
      | some (r, s') => advance act cs (k r) s'
      | none => none

/-- Run a program to its end, with one choice for each operation. -/
def exec (act : C → S → (o : Op) → Option (Res o × S)) (cs : List C) (p : Program Res α)
    (s : S) : Option (α × S) :=
  match advance act cs p s with
  | some (.ret a, s') => some (a, s')
  | _ => none

variable {T : Behaviour Res S} {act : C → S → (o : Op) → Option (Res o × S)}

/-- Choices that `T` allows advance a program as `T` does. -/
theorem advance_sound (hact : ∀ c s o r s', act c s o = some (r, s') → T s o r s') :
  ∀ {cs : List C} {p q : Program Res α} {s s' : S},
    advance act cs p s = some (q, s') → Reach T p s q s'
  | [], p, q, s, s', h => by
      obtain ⟨rfl, rfl⟩ : p = q ∧ s = s' := by simpa [advance] using h
      apply Reach.refl
  | c :: cs, .ret a, q, s, s', h => by simp [advance] at h
  | c :: cs, .call o k, q, s, s', h => by
      simp only [advance] at h
      split at h
      case h_1 r s₁ hr => exact .call (hact _ _ _ _ _ hr) (advance_sound hact h)
      case h_2 => cases h

/-- A run that comes to a returned value is complete. -/
theorem Reach.run {p q : Program Res α} {s s' : S} (h : Reach T p s q s') {a : α}
    (hq : q = .ret a) :
  Run T p s a s'
  := by
  induction h with
  | refl p s =>
      subst hq
      apply Run.ret
  | call ht _ ih => apply Run.call ht (ih hq)

/-- What `exec` computes is a run. -/
theorem exec_sound (hact : ∀ c s o r s', act c s o = some (r, s') → T s o r s')
    {cs : List C} {p : Program Res α} {s s' : S} {a : α}
    (h : exec act cs p s = some (a, s')) :
  Run T p s a s'
  := by
  unfold exec at h
  split at h
  case h_1 b s₁ hadv =>
    obtain ⟨rfl, rfl⟩ : b = a ∧ s₁ = s' := by simpa using h
    exact (advance_sound hact hadv).run rfl
  case h_2 => cases h

/-- The choices of `act`, with a log. -/
def loggedAct (act : C → S → (o : Op) → Option (Res o × S)) (c : C)
    (s : S × List (Event Res)) (o : Op) : Option (Res o × (S × List (Event Res))) :=
  (act c s.1 o).map fun x => (x.1, (x.2, s.2 ++ [⟨o, x.1⟩]))

/-- Choices that `T` allows are allowed with a log. -/
theorem loggedAct_sound (hact : ∀ c s o r s', act c s o = some (r, s') → T s o r s') (c : C)
    (s : S × List (Event Res)) (o : Op) (r : Res o) (s' : S × List (Event Res))
    (h : loggedAct act c s o = some (r, s')) :
  logged T s o r s'
  := by
  obtain ⟨⟨r₁, s₁⟩, hr, heq⟩ := Option.map_eq_some_iff.mp h
  cases heq
  exact ⟨hact _ _ _ _ _ hr, rfl⟩

/-- If performing the first operations of a program leads to where `check` succeeds, a run may
be cut short there. -/
theorem advance_exists (hact : ∀ c s o r s', act c s o = some (r, s') → T s o r s')
    {cs : List C} {p : Program Res α} {s : S} {check : Program Res α × S → Bool}
    (h : (advance act cs p s).any check = true) :
  ∃ q s', Reach T p s q s' ∧ check (q, s') = true
  := by
  cases hx : advance act cs p s with
  | none => simp [hx] at h
  | some x =>
      rw [hx] at h
      exact ⟨x.1, x.2, advance_sound hact hx, h⟩

/-- If running a program on choices ends in a state where `check` succeeds, it has such a
run. -/
theorem exec_exists (hact : ∀ c s o r s', act c s o = some (r, s') → T s o r s')
    {cs : List C} {p : Program Res α} {s : S} {check : α × S → Bool}
    (h : (exec act cs p s).any check = true) :
  ∃ a s', Run T p s a s' ∧ check (a, s') = true
  := by
  cases hx : exec act cs p s with
  | none => simp [hx] at h
  | some x =>
      rw [hx] at h
      exact ⟨x.1, x.2, exec_sound hact hx, h⟩

end

end Effect
