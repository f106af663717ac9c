import GroutCni.Effect.Interp

/-!
# Traces

`Trace T p s a es s'` is a complete run of `p` with the list `es` of the operations it
performs and their answers.  A run of the behaviour `logged T` is a trace appended to the log
(`run_logged_iff`).  The trace of one program after another is the trace of the first followed
by that of the second (`Trace.bind_iff`), so traces are taken apart as programs are.
-/

namespace Effect

open Program

section

variable {Op S α β : Type} {Res : Op → Type} {T : Behaviour Res S}

/-- `Trace T p s a es s'`: from the state `s` the program `p` may perform the operations `es`
with the answers recorded there, and return `a` in the state `s'`. -/
inductive Trace (T : Behaviour Res S) : Program Res α → S → α → List (Event Res) → S → Prop
  | ret (a : α) (s : S) : Trace T (.ret a) s a [] s
  | call {o : Op} {k : Res o → Program Res α} {s s' s'' : S} {r : Res o} {a : α}
      {es : List (Event Res)} :
      T s o r s' → Trace T (k r) s' a es s'' → Trace T (.call o k) s a (⟨o, r⟩ :: es) s''

/-- A run with a log is a trace. -/
theorem run_logged_iff {p : Program Res α} {s s' : S} {a : α} {log log' : List (Event Res)} :
  Run (logged T) p (s, log) a (s', log') ↔ ∃ es, log' = log ++ es ∧ Trace T p s a es s'
  := by
  induction p generalizing s log with
  | ret b =>
      constructor
      · intro h
        cases h
        exact ⟨[], by simp, .ret _ _⟩
      · rintro ⟨es, rfl, h⟩
        cases h
        rw [List.append_nil]
        apply Run.ret
  | call o k ih =>
      constructor
      · intro h
        rcases h with _ | @⟨_, _, _, ⟨s₁, log₁⟩, _, r, _, ⟨ht, rfl⟩, h⟩
        obtain ⟨es, rfl, hes⟩ := (ih r).mp h
        exact ⟨⟨o, r⟩ :: es, by simp, .call ht hes⟩
      · rintro ⟨es, rfl, h⟩
        cases h with
        | @call _ _ _ s₁ _ r _ es ht h =>
            have hstep : logged T (s, log) o r (s₁, log ++ [⟨o, r⟩]) := ⟨ht, rfl⟩
            exact .call hstep ((ih r).mpr ⟨es, by simp, h⟩)

/-- Every run has a trace. -/
theorem Run.exists_trace {p : Program Res α} {s s' : S} {a : α} (h : Run T p s a s') :
  ∃ es, Trace T p s a es s'
  := by
  induction h with
  | ret a s => exact ⟨[], .ret a s⟩
  | call ht _ ih =>
      obtain ⟨es, hes⟩ := ih
      exact ⟨_ :: es, .call ht hes⟩

theorem trace_ret {s s' : S} {a b : α} {es : List (Event Res)} :
  Trace T (.ret b) s a es s' ↔ a = b ∧ es = [] ∧ s' = s
  := by
  constructor
  · intro h
    cases h
    exact ⟨rfl, rfl, rfl⟩
  · rintro ⟨rfl, rfl, rfl⟩
    apply Trace.ret

/-- The trace of a program after another is the trace of the one, then that of the other. -/
theorem Trace.bind_iff {p : Program Res α} {f : α → Program Res β} {s s'' : S} {b : β}
    {es : List (Event Res)} :
  Trace T (p >>= f) s b es s''
    ↔ ∃ a es₁ s' es₂, Trace T p s a es₁ s' ∧ Trace T (f a) s' b es₂ s'' ∧ es = es₁ ++ es₂
  := by
  constructor
  · intro h
    induction p generalizing s es with
    | ret a => exact ⟨a, [], s, es, .ret a s, h, rfl⟩
    | call o k ih =>
        rw [call_bind] at h
        cases h with
        | call ht h =>
            obtain ⟨a, es₁, s', es₂, hp, hf, rfl⟩ := ih _ h
            exact ⟨a, _ :: es₁, s', es₂, .call ht hp, hf, rfl⟩
  · rintro ⟨a, es₁, s', es₂, hp, hf, rfl⟩
    induction hp with
    | ret a s => exact hf
    | call ht _ ih => exact .call ht (ih hf)

/-- A trace of an operation and what follows it starts with that operation. -/
theorem trace_perform_bind {o : Op} {k : Res o → Program Res α} {s s'' : S} {a : α}
    {es : List (Event Res)} :
  Trace T (Program.perform o >>= k) s a es s''
    ↔ ∃ r es' s', T s o r s' ∧ Trace T (k r) s' a es' s'' ∧ es = ⟨o, r⟩ :: es'
  := by
  constructor
  · intro h
    rcases h with _ | @⟨_, _, _, s', _, r, _, es', ht, h⟩
    exact ⟨r, es', s', ht, h, rfl⟩
  · rintro ⟨r, es', s', ht, h, rfl⟩
    exact .call ht h

/-- The trace of an operation whose answer is ignored. -/
theorem trace_ignored {o : Op} {s s' : S} {a b : α} {es : List (Event Res)}
    (h : Trace T (Program.perform o >>= fun _ => .ret b) s a es s') :
  a = b ∧ ∃ r, T s o r s' ∧ es = [⟨o, r⟩]
  := by
  obtain ⟨r, es', s₁, ht, hret, rfl⟩ := trace_perform_bind.mp h
  obtain ⟨rfl, rfl, rfl⟩ := trace_ret.mp hret
  exact ⟨rfl, r, ht, rfl⟩

/-- If every operation that `p` performs extends `R`, then `R` relates the states before and
after `p` along its trace. -/
theorem Program.Uses.trace {P : Op → Prop} {R : S → List (Event Res) → S → Prop}
    {p : Program Res α} (hp : p.Uses P) (hnil : ∀ s, R s [] s)
    (hcons : ∀ s o r s' es s'', P o → T s o r s' → R s' es s'' → R s (⟨o, r⟩ :: es) s'')
    {s s' : S} {a : α} {es : List (Event Res)} (h : Trace T p s a es s') :
  R s es s'
  := by
  induction h with
  | ret a s => apply hnil
  | call ht _ ih => exact hcons _ _ _ _ _ _ hp.1 ht (ih (hp.2 _))

/-- If the answers along a trace satisfy `A`, what is returned satisfies `Q`. -/
theorem Program.Meets.traced {P : Op → Prop} {A : (o : Op) → Res o → Prop} {Q : α → Prop}
    {p : Program Res α} (hp : p.Meets P A Q) {s s' : S} {a : α} {es : List (Event Res)}
    (h : Trace T p s a es s') (hA : ∀ e ∈ es, A e.1 e.2) :
  Q a
  := by
  induction h with
  | ret a s => exact hp
  | call _ _ ih =>
      apply ih (hp.2 _ (hA _ List.mem_cons_self))
      intro e he
      exact hA e (List.mem_cons_of_mem _ he)

end

end Effect
