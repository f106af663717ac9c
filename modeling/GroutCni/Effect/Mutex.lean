import GroutCni.Effect.Simulation
import Mathlib.Logic.Function.Basic
import Mathlib.Logic.Relation

/-!
# Operations behind a mutex

`Threads.Step T` lets any number of programs take turns on a shared state, one operation at a
time.  `Mutex.Step` is one level below: an operation is code that takes many steps, between which
the others take theirs, and nothing but a mutex keeps the code of two operations apart.

Behind a mutex an operation is a single step: wherever programs have come to behind a mutex,
they may have come to without one, if each operation is a complete run of its code
(`Mutex.Refines.of_steps`).
-/

namespace Effect

open Program

section

variable {ι Op Op' α α' S S' : Type} {Res : Op → Type} {Res' : Op' → Type}

/-! ### Programs that take turns -/

/-- A shared state, and what is left of the programs. -/
structure Threads (ι : Type) {Op : Type} (Res : Op → Type) (α S : Type) where
  shared : S
  rest : ι → Program Res α

/-- One program performs one operation. -/
inductive Threads.Step [DecidableEq ι] (T : Behaviour Res S) :
    Threads ι Res α S → Threads ι Res α S → Prop
  | perform {a : Threads ι Res α S} {i : ι} {o : Op} {k : Res o → Program Res α} {r : Res o}
      {s' : S} : a.rest i = .call o k → T a.shared o r s' →
      Step T a ⟨s', Function.update a.rest i (k r)⟩

/-- Any number of steps. -/
abbrev Threads.Steps [DecidableEq ι] (T : Behaviour Res S) :
    Threads ι Res α S → Threads ι Res α S → Prop :=
  Relation.ReflTransGen (Threads.Step T)

/-- The threads of one level match those of the other, and so do their states. -/
structure Threads.Related (K : Coupling Res Res') (Q : α → α' → Prop) (R : S → S' → Prop)
    (a : Threads ι Res α S) (a' : Threads ι Res' α' S') : Prop where
  shared : R a.shared a'.shared
  rest : ∀ i, Matches K Q (a.rest i) (a'.rest i)

/-- If the operations are simulated, then so are programs that take turns. -/
theorem Threads.Related.of_steps [DecidableEq ι] {K : Coupling Res Res'} {Q : α → α' → Prop}
    {R : S → S' → Prop} {T : Behaviour Res S} {T' : Behaviour Res' S'}
    {a a₁ : Threads ι Res α S} {a' : Threads ι Res' α' S'} (hrel : Threads.Related K Q R a a')
    (hT : Simulates K R T T') (h : Threads.Steps T a a₁) :
  ∃ a₁', Threads.Steps T' a' a₁' ∧ Threads.Related K Q R a₁ a₁'
  := by
  induction h with
  | refl => exact ⟨a', .refl, hrel⟩
  | tail _ hstep ih =>
      obtain ⟨a₁', hsteps, hshared, hrest⟩ := ih
      cases hstep with
      | @perform i o k r s₂ hi ht =>
          have hmatch := hrest i
          rw [hi] at hmatch
          generalize hi' : a₁'.rest i = q at hmatch
          cases hmatch with
          | @call _ o' _ k' ho hk =>
              obtain ⟨r', s₂', ht', hr, hnext⟩ := hT ho hshared ht
              refine ⟨_, hsteps.tail (.perform hi' ht'), hnext, ?_⟩
              intro j
              by_cases hj : j = i
              · subst hj
                simpa using hk r r' hr
              · simpa [hj] using hrest j

/-! ### Code -/

/-- The code of operations: where it begins, what a step of it does, and what it returns. -/
structure Code {Op : Type} (Res : Op → Type) (S : Type) where
  Point : Op → Type
  enter : (o : Op) → Point o
  step : {o : Op} → Point o × S → Point o × S → Prop
  result : {o : Op} → Point o → Option (Res o)

namespace Code

/-- The code of the operation may come from its beginning to a point. -/
def Reaches (C : Code Res S) {o : Op} (s : S) (l : C.Point o) (s' : S) : Prop :=
  Relation.ReflTransGen C.step (C.enter o, s) (l, s')

/-- What an operation does if nothing happens between the steps of its code. -/
def behaviour (C : Code Res S) : Behaviour Res S :=
  fun s o r s' => ∃ l : C.Point o, C.Reaches s l s' ∧ C.result l = some r

end Code

/-! ### The mutex -/

/-- A program is outside of the code of its operations, or inside and has to go on with `k` once
it knows the result. -/
inductive Thread (C : Code Res S) (α : Type) where
  | outside (p : Program Res α)
  | inside {o : Op} (k : Res o → Program Res α) (l : C.Point o)

/-- A shared state, who has locked the mutex, and where the programs are. -/
structure Mutex (ι : Type) {Op : Type} {Res : Op → Type} {S : Type} (C : Code Res S)
    (α : Type) where
  shared : S
  holder : Option ι
  thread : ι → Thread C α

namespace Mutex

variable {C : Code Res S}

/-- Nobody has locked the mutex. -/
def start (C : Code Res S) (s : S) (p : ι → Program Res α) : Mutex ι C α where
  shared := s
  holder := none
  thread i := .outside (p i)

/-- One program locks the mutex before an operation, takes a step in the code of the operation,
or unlocks the mutex when the code returns. -/
inductive Step [DecidableEq ι] : Mutex ι C α → Mutex ι C α → Prop
  | lock {c : Mutex ι C α} {i : ι} {o : Op} {k : Res o → Program Res α} :
      c.thread i = .outside (.call o k) → c.holder = none →
      Step c ⟨c.shared, some i, Function.update c.thread i (.inside k (C.enter o))⟩
  | code {c : Mutex ι C α} {i : ι} {o : Op} {k : Res o → Program Res α} {l l' : C.Point o}
      {s' : S} : c.thread i = .inside k l → C.step (l, c.shared) (l', s') →
      Step c ⟨s', c.holder, Function.update c.thread i (.inside k l')⟩
  | unlock {c : Mutex ι C α} {i : ι} {o : Op} {k : Res o → Program Res α} {l : C.Point o}
      {r : Res o} : c.thread i = .inside k l → C.result l = some r →
      Step c ⟨c.shared, none, Function.update c.thread i (.outside (k r))⟩

/-- Any number of steps. -/
abbrev Steps [DecidableEq ι] : Mutex ι C α → Mutex ι C α → Prop :=
  Relation.ReflTransGen Step

/-- What is done behind the mutex, without the mutex: the code that is running has not yet
done anything. -/
structure Refines (c : Mutex ι C α) (a : Threads ι Res α S) : Prop where
  outside : ∀ i, c.holder ≠ some i → c.thread i = .outside (a.rest i)
  free : c.holder = none → c.shared = a.shared
  held : ∀ i, c.holder = some i → ∃ (o : Op) (k : Res o → Program Res α) (l : C.Point o),
    c.thread i = .inside k l ∧ a.rest i = .call o k ∧ C.Reaches a.shared l c.shared

theorem refines_start (s : S) (p : ι → Program Res α) :
  (start C s p).Refines ⟨s, p⟩
  := by
  constructor
  · intro i _
    rfl
  · intro _
    rfl
  · rintro i ⟨⟩

variable {c c' : Mutex ι C α} {a : Threads ι Res α S}

/-- A program that is inside the code of an operation has locked the mutex. -/
theorem Refines.holder_of_inside (h : c.Refines a) {i : ι} {o : Op} {k : Res o → Program Res α}
    {l : C.Point o} (hi : c.thread i = .inside k l) :
  c.holder = some i
  := by
  by_contra hne
  rw [h.outside i hne] at hi
  cases hi

variable [DecidableEq ι]

theorem Refines.lock (h : c.Refines a) {i : ι} {o : Op} {k : Res o → Program Res α}
    (hi : c.thread i = .outside (.call o k)) (hfree : c.holder = none) :
  Refines ⟨c.shared, some i, Function.update c.thread i (.inside k (C.enter o))⟩ a
  := by
  have hrest : a.rest i = .call o k := by
    have hout := hi.symm.trans (h.outside i (by simp [hfree]))
    injection hout with heq
    exact heq.symm
  constructor
  · intro j hj
    have hji : j ≠ i := fun heq => hj (by rw [heq])
    simpa [hji] using h.outside j (by simp [hfree])
  · intro hnone
    cases hnone
  · intro j hj
    cases hj
    refine ⟨o, k, C.enter o, by simp, hrest, ?_⟩
    rw [h.free hfree]
    exact .refl

theorem Refines.code (h : c.Refines a) {i : ι} {o : Op} {k : Res o → Program Res α}
    {l l' : C.Point o} {s' : S} (hi : c.thread i = .inside k l)
    (hstep : C.step (l, c.shared) (l', s')) :
  Refines ⟨s', c.holder, Function.update c.thread i (.inside k l')⟩ a
  := by
  have hholder := h.holder_of_inside hi
  constructor
  · intro j hj
    have hji : j ≠ i := fun heq => hj (by rw [heq]; exact hholder)
    simpa [hji] using h.outside j hj
  · intro hnone
    rw [hholder] at hnone
    cases hnone
  · intro j hj
    have hji : i = j := by simpa [hholder] using hj
    subst hji
    obtain ⟨o', k₁, l₁, hinside, hrest, hreach⟩ := h.held i hholder
    rw [hi] at hinside
    cases hinside
    exact ⟨o, k, l', by simp, hrest, hreach.tail hstep⟩

/-- When the code of an operation returns, the operation is performed. -/
theorem Refines.unlock (h : c.Refines a) {i : ι} {o : Op} {k : Res o → Program Res α}
    {l : C.Point o} {r : Res o} (hi : c.thread i = .inside k l) (hr : C.result l = some r) :
  ∃ a', Threads.Step C.behaviour a a' ∧
    Refines ⟨c.shared, none, Function.update c.thread i (.outside (k r))⟩ a'
  := by
  have hholder := h.holder_of_inside hi
  obtain ⟨o', k₁, l₁, hinside, hrest, hreach⟩ := h.held i hholder
  rw [hi] at hinside
  cases hinside
  refine ⟨_, .perform hrest ⟨l, hreach, hr⟩, ?_, ?_, ?_⟩
  · intro j _
    by_cases hj : j = i
    · subst hj
      simp
    · simpa [hj] using h.outside j (by rw [hholder]; simpa using Ne.symm hj)
  · intro _
    rfl
  · rintro j ⟨⟩

/-- One step behind the mutex is at most one step without it. -/
theorem Refines.step (h : c.Refines a) (hstep : Step c c') :
  ∃ a', Threads.Steps C.behaviour a a' ∧ c'.Refines a'
  := by
  cases hstep with
  | lock hi hfree => exact ⟨a, .refl, h.lock hi hfree⟩
  | code hi hstep => exact ⟨a, .refl, h.code hi hstep⟩
  | unlock hi hr =>
      obtain ⟨a', hstep, hrefines⟩ := h.unlock hi hr
      exact ⟨a', .single hstep, hrefines⟩

/-- Behind a mutex operations are single steps, in any interleaving. -/
theorem Refines.of_steps (h : c.Refines a) (hsteps : Steps c c') :
  ∃ a', Threads.Steps C.behaviour a a' ∧ c'.Refines a'
  := by
  induction hsteps with
  | refl => exact ⟨a, .refl, h⟩
  | tail _ hstep ih =>
      obtain ⟨a₁, hsteps, hrefines⟩ := ih
      obtain ⟨a', hnext, hrefines'⟩ := hrefines.step hstep
      exact ⟨a', hsteps.trans hnext, hrefines'⟩

/-- A program may perform an operation while nobody has locked the mutex. -/
theorem Steps.perform {i : ι} {o : Op} {k : Res o → Program Res α} {r : Res o} {s' : S}
    (hi : c.thread i = .outside (.call o k)) (hfree : c.holder = none)
    (ht : C.behaviour c.shared o r s') :
  Steps c ⟨s', none, Function.update c.thread i (.outside (k r))⟩
  := by
  obtain ⟨l, hreaches, hresult⟩ := ht
  have hinside : ∀ x : C.Point o × S, Relation.ReflTransGen C.step (C.enter o, c.shared) x →
      Steps c ⟨x.2, some i, Function.update c.thread i (.inside k x.1)⟩ := by
    intro x hx
    induction hx with
    | refl => exact .single (.lock hi hfree)
    | @tail x y _ hstep ih =>
        have hnext := ih.tail (.code (Function.update_self i (.inside k x.1) c.thread) hstep)
        rwa [Function.update_idem] at hnext
  have hend := (hinside _ hreaches).tail
    (.unlock (Function.update_self i (.inside k l) c.thread) hresult)
  rwa [Function.update_idem] at hend

end Mutex

end

end Effect
