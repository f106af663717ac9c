import Mathlib.Logic.Basic

/-!
# Programs over a signature of operations

`Program Res α` is a program that performs operations `o : Op`, reads an answer of
type `Res o` after each of them, and returns a value of type `α`.  A behaviour
`T : Behaviour Res S` says which answers an operation may get in a state of type `S`, and
which state it leaves.  `Run T p s a s'` is a complete run of `p`, `Reach T p s q s'` a run
cut short when `q` is left to do.

`wp T p Q s` says that every complete run of `p` from `s` ends in `Q`, and
`wpc T C p Q s` says moreover that `C` holds wherever a run of `p` from `s` is cut short.
-/

namespace Effect

/-- A program that performs operations of the signature `Res` and returns an `α`. -/
inductive Program {Op : Type} (Res : Op → Type) (α : Type) where
  | ret (a : α)
  | call (o : Op) (k : Res o → Program Res α)

/-- `T s o r s'`: performed in the state `s`, the operation `o` may answer `r` and leave
the state `s'`. -/
abbrev Behaviour {Op : Type} (Res : Op → Type) (S : Type) : Type :=
  S → (o : Op) → Res o → S → Prop

section

variable {Op : Type} {Res : Op → Type} {α β γ : Type} {S : Type}

namespace Program

/-- Run `p`, then `f` on its result. -/
def bind : Program Res α → (α → Program Res β) → Program Res β
  | .ret a, f => f a
  | .call o k, f => .call o fun r => (k r).bind f

instance : Monad (Program Res) where
  pure := .ret
  bind := .bind

/-- Perform one operation and return its answer. -/
def perform (o : Op) : Program Res (Res o) :=
  .call o .ret

@[simp]
theorem call_bind (o : Op) (k : Res o → Program Res α) (f : α → Program Res β) :
  (Program.call o k >>= f) = .call o fun r => k r >>= f
  := rfl

/-- Every operation that `p` may perform satisfies `P`. -/
def Uses (P : Op → Prop) : Program Res α → Prop
  | .ret _ => True
  | .call o k => P o ∧ ∀ r, (k r).Uses P

theorem Uses.bind {P : Op → Prop} {p : Program Res α} {f : α → Program Res β}
    (hp : p.Uses P) (hf : ∀ a, (f a).Uses P) :
  (p >>= f).Uses P
  := by
  induction p with
  | ret a => apply hf
  | call o k ih => exact ⟨hp.1, fun r => ih r (hp.2 r)⟩

theorem Uses.mono {P P' : Op → Prop} {p : Program Res α} (hp : p.Uses P)
    (hP : ∀ o, P o → P' o) :
  p.Uses P'
  := by
  induction p with
  | ret a => trivial
  | call o k ih => exact ⟨hP o hp.1, fun r => ih r (hp.2 r)⟩

end Program

open Program

/-! ### Runs -/

/-- `Run T p s a s'`: from the state `s` the program `p` may return `a` in the state
`s'`. -/
inductive Run (T : Behaviour Res S) : Program Res α → S → α → S → Prop
  | ret (a : α) (s : S) : Run T (.ret a) s a s
  | call {o : Op} {k : Res o → Program Res α} {s s' s'' : S} {r : Res o} {a : α} :
      T s o r s' → Run T (k r) s' a s'' → Run T (.call o k) s a s''

/-- `Reach T p s q s'`: from the state `s` the program `p` may perform some operations
and come to the state `s'` with the program `q` left to run. -/
inductive Reach (T : Behaviour Res S) : Program Res α → S → Program Res α → S → Prop
  | refl (p : Program Res α) (s : S) : Reach T p s p s
  | call {o : Op} {k : Res o → Program Res α} {s s' s'' : S} {r : Res o}
      {q : Program Res α} :
      T s o r s' → Reach T (k r) s' q s'' → Reach T (.call o k) s q s''

variable {T T' : Behaviour Res S}

/-- A complete run comes to the point where nothing is left to do. -/
theorem Run.reach {p : Program Res α} {s s' : S} {a : α} (h : Run T p s a s') :
  Reach T p s (.ret a) s'
  := by
  induction h with
  | ret a s => apply Reach.refl
  | call ht _ ih => apply Reach.call ht ih

/-- A run cut short may go on. -/
theorem Reach.trans {p q r : Program Res α} {s s' s'' : S} (h : Reach T p s q s')
    (h' : Reach T q s' r s'') :
  Reach T p s r s''
  := by
  induction h with
  | refl p s => exact h'
  | call ht _ ih => apply Reach.call ht (ih h')

/-- A run of `p` followed by `f` is a run of `p` and then a run of `f` on its result. -/
theorem Run.bind_iff {p : Program Res α} {f : α → Program Res β} {s s'' : S} {b : β} :
  Run T (p >>= f) s b s'' ↔ ∃ a s', Run T p s a s' ∧ Run T (f a) s' b s''
  := by
  constructor
  · intro h
    induction p generalizing s with
    | ret a => exact ⟨a, s, .ret a s, h⟩
    | call o k ih =>
        rw [call_bind] at h
        cases h with
        | call ht hk =>
            obtain ⟨a, s', hp, hf⟩ := ih _ hk
            exact ⟨a, s', .call ht hp, hf⟩
  · rintro ⟨a, s', hp, hf⟩
    induction hp with
    | ret a s => exact hf
    | call ht _ ih => exact .call ht (ih hf)

/-! ### Weakest preconditions -/

/-- Every complete run of the program from the state ends in `Q`, and wherever a run is cut
short `C` holds. -/
def wpc (T : Behaviour Res S) (C : S → Prop) : Program Res α → (α → S → Prop) → S → Prop
  | .ret a, Q, s => C s ∧ Q a s
  | .call o k, Q, s => C s ∧ ∀ r s', T s o r s' → wpc T C (k r) Q s'

/-- Every complete run of the program from the state ends in `Q`. -/
def wp (T : Behaviour Res S) (p : Program Res α) (Q : α → S → Prop) (s : S) : Prop :=
  wpc T (fun _ => True) p Q s

variable {C C' : S → Prop}

theorem wpc_call (o : Op) (k : Res o → Program Res α) (Q : α → S → Prop) (s : S) :
  wpc T C (.call o k) Q s ↔ C s ∧ ∀ r s', T s o r s' → wpc T C (k r) Q s'
  := Iff.rfl

/-- `C` holds in the state before the first operation. -/
theorem wpc.crash {p : Program Res α} {Q : α → S → Prop} {s : S} (h : wpc T C p Q s) :
  C s
  := by
  cases p with
  | ret a => exact h.1
  | call o k => exact h.1

theorem wpc_bind (p : Program Res α) (f : α → Program Res β) (Q : β → S → Prop) (s : S) :
  wpc T C (p >>= f) Q s ↔ wpc T C p (fun a => wpc T C (f a) Q) s
  := by
  induction p generalizing s with
  | ret a =>
      constructor
      · intro h
        exact ⟨h.crash, h⟩
      · intro h
        exact h.2
  | call o k ih =>
      simp only [call_bind, wpc_call, ih]

/-- `wpc T C p Q s` is that every complete run of `p` from `s` ends in `Q`, and that `C`
holds wherever such a run is cut short. -/
theorem wpc_iff {p : Program Res α} {Q : α → S → Prop} {s : S} :
  wpc T C p Q s ↔ (∀ q s', Reach T p s q s' → C s') ∧ ∀ a s', Run T p s a s' → Q a s'
  := by
  induction p generalizing s with
  | ret a =>
      constructor
      · rintro ⟨hC, hQ⟩
        constructor
        · intro q s' h
          cases h
          exact hC
        · intro b s' h
          cases h
          exact hQ
      · rintro ⟨hC, hQ⟩
        exact ⟨hC _ _ (.refl _ s), hQ _ _ (.ret a s)⟩
  | call o k ih =>
      constructor
      · rintro ⟨hC, hk⟩
        constructor
        · intro q s' h
          cases h with
          | refl => exact hC
          | call ht h => exact ((ih _).mp (hk _ _ ht)).1 _ _ h
        · intro b s' h
          cases h with
          | call ht h => exact ((ih _).mp (hk _ _ ht)).2 _ _ h
      · rintro ⟨hC, hQ⟩
        refine ⟨hC _ _ (.refl _ s), fun r s' ht => (ih r).mpr ⟨?_, ?_⟩⟩
        · intro q s'' h
          exact hC _ _ (.call ht h)
        · intro b s'' h
          exact hQ _ _ (.call ht h)

/-- What `wpc` promises of complete runs holds of a given run. -/
theorem Run.wpc {p : Program Res α} {Q : α → S → Prop} {s s' : S} {a : α}
    (h : Run T p s a s') (hwpc : Effect.wpc T C p Q s) :
  Q a s'
  := (wpc_iff.mp hwpc).2 a s' h

/-- What `wpc` promises of runs cut short holds of a given one. -/
theorem Reach.wpc {p q : Program Res α} {Q : α → S → Prop} {s s' : S}
    (h : Reach T p s q s') (hwpc : Effect.wpc T C p Q s) :
  C s'
  := (wpc_iff.mp hwpc).1 q s' h

/-- Both postconditions may be weakened. -/
theorem wpc_mono {p : Program Res α} {Q Q' : α → S → Prop} {s : S} (h : wpc T C p Q s)
    (hC : ∀ s', C s' → C' s') (hQ : ∀ a s', Q a s' → Q' a s') :
  wpc T C' p Q' s
  := by
  apply wpc_iff.mpr
  constructor
  · intro q s' hr
    apply hC _ (hr.wpc h)
  · intro a s' hr
    apply hQ _ _ (hr.wpc h)

@[simp]
theorem wp_bind (p : Program Res α) (f : α → Program Res β) (Q : β → S → Prop) (s : S) :
  wp T (p >>= f) Q s ↔ wp T p (fun a => wp T (f a) Q) s
  := wpc_bind p f Q s

/-- `wp T p Q s` is that every complete run of `p` from `s` ends in `Q`. -/
theorem wp_iff_run {p : Program Res α} {Q : α → S → Prop} {s : S} :
  wp T p Q s ↔ ∀ a s', Run T p s a s' → Q a s'
  := by
  simp [wp, wpc_iff]

/-- What `wp` promises holds of a given run. -/
theorem Run.wp {p : Program Res α} {Q : α → S → Prop} {s s' : S} {a : α}
    (h : Run T p s a s') (hwp : Effect.wp T p Q s) :
  Q a s'
  := wp_iff_run.mp hwp a s' h

/-- A postcondition may be weakened. -/
theorem wp_mono {p : Program Res α} {Q Q' : α → S → Prop} {s : S}
    (h : wp T p Q s) (hQ : ∀ a s', Q a s' → Q' a s') :
  wp T p Q' s
  := wpc_mono h (fun _ hs => hs) hQ

/-- If every operation that `p` performs keeps `I`, then `I` holds throughout `p`. -/
theorem Program.Uses.wpc {P : Op → Prop} {I : S → Prop} {p : Program Res α}
    (hp : p.Uses P) (hI : ∀ s o r s', P o → T s o r s' → I s → I s') {s : S} (hs : I s) :
  Effect.wpc T I p (fun _ => I) s
  := by
  induction p generalizing s with
  | ret a => exact ⟨hs, hs⟩
  | call o k ih => exact ⟨hs, fun r s' ht => ih r (hp.2 r) (hI s o r s' hp.1 ht hs)⟩

end

end Effect
