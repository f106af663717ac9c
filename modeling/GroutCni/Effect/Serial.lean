import GroutCni.Effect.Lock
import Mathlib.Data.List.Nodup
import Mathlib.Logic.Function.Basic

/-!
# Guarded programs taking turns

`Config.Step T` lets any number of programs take turns, one operation at a time, with a
lock file that at most one of them holds.  Nothing but the shape of the programs keeps an
operation on the shared state inside the lock.

`serial_of_steps` says that programs guarded by one lock, interleaved in any way, end as if
those that acquired the lock ran one after another, in the order in which they acquired
it, and that the others only report an error about the lock.  `holder_of_op` says that the
next operation on the shared state is the lock holder's.
-/

namespace Effect

open Program

section

variable {ι Path Op E S α : Type} {Res : Op → Type}

/-- A shared state, the holder of every lock, what is left of every program, and the
programs that have acquired a lock, in the order in which they did. -/
structure Config (ι Path E : Type) {Op : Type} (Res : Op → Type) (α S : Type) where
  shared : S
  holder : Path → Option ι
  rest : ι → Program (LockRes Path E Res) α
  order : List ι

/-- Programs guarded by one lock. -/
structure Tasks (ι Path E : Type) {Op : Type} (Res : Op → Type) (α : Type) where
  path : Path
  onOpen : ι → E → α
  onAcquire : ι → E → α
  body : ι → Program Res α

namespace Tasks

variable (G : Tasks ι Path E Res α)

/-- The program of the task `i`. -/
def program (i : ι) : Program (LockRes Path E Res) α :=
  guarded G.path (G.onOpen i) (G.onAcquire i) (G.body i)

/-- Every task is about to start and nobody holds the lock. -/
def start (s : S) : Config ι Path E Res α S where
  shared := s
  holder _ := none
  rest := G.program
  order := []

/-- `G.Serial T s l s'`: the bodies of the tasks of `l`, run one after another from the
state `s`, may return the values of `l` and end in the state `s'`. -/
inductive Serial (T : Behaviour Res S) (s : S) : List (ι × α) → S → Prop
  | nil : Serial T s [] s
  | snoc {l : List (ι × α)} {s' s'' : S} {i : ι} {a : α} :
      Serial T s l s' → Run T (G.body i) s' a s'' → Serial T s (l ++ [(i, a)]) s''

/-- What may be left of the task `i` while it does not hold the lock, when the tasks of
`order` have acquired the lock and those of `done` have returned. -/
inductive Quiet (order : List ι) (done : List (ι × α)) (i : ι) :
    Program (LockRes Path E Res) α → Prop
  | start : i ∉ order → Quiet order done i (G.program i)
  | waiting : i ∉ order → Quiet order done i (waiting G.path (G.onAcquire i) (G.body i))
  | gaveUp (e : E) : i ∉ order →
      Quiet order done i (.call (.closeFile G.path) fun _ => .ret (G.onAcquire i e))
  | failed (e : E) {a : α} : i ∉ order → a = G.onOpen i e ∨ a = G.onAcquire i e →
      Quiet order done i (.ret a)
  | closing {a : α} : (i, a) ∈ done →
      Quiet order done i (.call (.closeFile G.path) fun _ => .ret a)
  | finished {a : α} : (i, a) ∈ done → Quiet order done i (.ret a)

/-- The tasks of `done` have run one after another and left the state `mid`.  If a task
holds the lock, it has come from `mid` to the shared state on its own; every other task is
quiet. -/
structure Inv (T : Behaviour Res S) (s : S) (c : Config ι Path E Res α S)
    (done : List (ι × α)) (mid : S) : Prop where
  serial : G.Serial T s done mid
  nodup : c.order.Nodup
  quiet : ∀ i, c.holder G.path ≠ some i → G.Quiet c.order done i (c.rest i)
  free : c.holder G.path = none → c.order = done.map Prod.fst ∧ c.shared = mid
  held : ∀ i, c.holder G.path = some i → c.order = done.map Prod.fst ++ [i] ∧
    ∃ q, c.rest i = inside G.path q ∧ Reach T (G.body i) mid q c.shared

/-! ### Tasks that do not hold the lock -/

variable {G : Tasks ι Path E Res α} {T : Behaviour Res S} {order : List ι}
  {done : List (ι × α)} {i j : ι} {q : Program (LockRes Path E Res) α}

theorem Quiet.snoc_order (h : G.Quiet order done j q) (hij : j ≠ i) :
  G.Quiet (order ++ [i]) done j q
  := by
  have hmem : j ∉ order → j ∉ order ++ [i] := by
    intro hj
    simp [hj, hij]
  cases h with
  | start hj => apply Quiet.start (hmem hj)
  | waiting hj => apply Quiet.waiting (hmem hj)
  | gaveUp e hj => apply Quiet.gaveUp e (hmem hj)
  | failed e hj ha => apply Quiet.failed e (hmem hj) ha
  | closing hd => apply Quiet.closing hd
  | finished hd => apply Quiet.finished hd

theorem Quiet.snoc_done (h : G.Quiet order done j q) (x : ι × α) :
  G.Quiet order (done ++ [x]) j q
  := by
  cases h with
  | start hj => apply Quiet.start hj
  | waiting hj => apply Quiet.waiting hj
  | gaveUp e hj => apply Quiet.gaveUp e hj
  | failed e hj ha => apply Quiet.failed e hj ha
  | closing hd => apply Quiet.closing (List.mem_append_left _ hd)
  | finished hd => apply Quiet.finished (List.mem_append_left _ hd)

/-- A quiet task does not touch the shared state. -/
theorem Quiet.not_op (h : G.Quiet order done i q) {o : Op}
    {k : Res o → Program (LockRes Path E Res) α} :
  q ≠ .call (.op o) k
  := by
  cases h <;> rintro ⟨⟩

/-- A quiet task does not release the lock. -/
theorem Quiet.not_release (h : G.Quiet order done i q) {path : Path}
    {k : Unit → Program (LockRes Path E Res) α} :
  q ≠ .call (.release path) k
  := by
  cases h <;> rintro ⟨⟩

/-- A task that holds the lock releases it or performs an operation of its body. -/
theorem inside_eq_call {path : Path} {p : Program Res α} {o : LockOp Path Op}
    {k : LockRes Path E Res o → Program (LockRes Path E Res) α}
    (h : inside path p = .call o k) :
  o = .release path ∨ ∃ o', o = .op o'
  := by
  cases p with
  | ret a =>
      cases h
      exact .inl rfl
  | call o' k' =>
      cases h
      exact .inr ⟨o', rfl⟩

variable {s mid : S} {c c' : Config ι Path E Res α S}

/-- The holder of the lock is not at an operation on the lock other than releasing it. -/
theorem Inv.not_held (h : G.Inv T s c done mid) {o : LockOp Path Op}
    {k : LockRes Path E Res o → Program (LockRes Path E Res) α} (hr : c.rest i = .call o k)
    (hrel : o ≠ .release G.path) (hop : ∀ o', o ≠ .op o') :
  c.holder G.path ≠ some i
  := by
  intro hi
  obtain ⟨-, p, hp, -⟩ := h.held i hi
  rw [hr] at hp
  rcases inside_eq_call hp.symm with rfl | ⟨o', rfl⟩
  · exact hrel rfl
  · exact hop o' rfl

/-- Before the first step the invariant holds. -/
theorem inv_start (s : S) :
  G.Inv T s (G.start s) [] s
  := by
  constructor
  · apply Serial.nil
  · apply List.nodup_nil
  · intro j _
    apply Quiet.start List.not_mem_nil
  · intro _
    exact ⟨rfl, rfl⟩
  · rintro j ⟨⟩

end Tasks

variable [DecidableEq ι] [DecidableEq Path]

namespace Config

/-- The program `i` has `q` left to run. -/
def set (c : Config ι Path E Res α S) (i : ι) (q : Program (LockRes Path E Res) α) :
    Config ι Path E Res α S :=
  { c with rest := Function.update c.rest i q }

/-- The holders once the program `i` lets go of the lock `path`, if it holds it. -/
def drop (c : Config ι Path E Res α S) (i : ι) (path : Path) : Path → Option ι :=
  if c.holder path = some i then Function.update c.holder path none else c.holder

/-- One program performs one operation.  A lock is acquired only while nobody holds it, and
waiting for it may end in an error. -/
inductive Step (T : Behaviour Res S) :
    Config ι Path E Res α S → Config ι Path E Res α S → Prop
  | openFile {c : Config ι Path E Res α S} {i : ι} {path : Path}
      {k : Except E Unit → Program (LockRes Path E Res) α} (r : Except E Unit)
      (h : c.rest i = .call (.openFile path) k) : Step T c (c.set i (k r))
  | acquire {c : Config ι Path E Res α S} {i : ι} {path : Path}
      {k : Except E Unit → Program (LockRes Path E Res) α}
      (h : c.rest i = .call (.acquire path) k) (hfree : c.holder path = none) :
      Step T c { c.set i (k (.ok ())) with
        holder := Function.update c.holder path (some i), order := c.order ++ [i] }
  | timeout {c : Config ι Path E Res α S} {i : ι} {path : Path}
      {k : Except E Unit → Program (LockRes Path E Res) α} (e : E)
      (h : c.rest i = .call (.acquire path) k) : Step T c (c.set i (k (.error e)))
  | release {c : Config ι Path E Res α S} {i : ι} {path : Path}
      {k : Unit → Program (LockRes Path E Res) α}
      (h : c.rest i = .call (.release path) k) :
      Step T c { c.set i (k ()) with holder := c.drop i path }
  | closeFile {c : Config ι Path E Res α S} {i : ι} {path : Path}
      {k : Unit → Program (LockRes Path E Res) α}
      (h : c.rest i = .call (.closeFile path) k) :
      Step T c { c.set i (k ()) with holder := c.drop i path }
  | op {c : Config ι Path E Res α S} {i : ι} {o : Op}
      {k : Res o → Program (LockRes Path E Res) α} {r : Res o} {s' : S}
      (h : c.rest i = .call (.op o) k) (ht : T c.shared o r s') :
      Step T c { c.set i (k r) with shared := s' }

/-- Any number of steps. -/
inductive Steps (T : Behaviour Res S) :
    Config ι Path E Res α S → Config ι Path E Res α S → Prop
  | refl (c : Config ι Path E Res α S) : Steps T c c
  | tail {c c' c'' : Config ι Path E Res α S} :
      Steps T c c' → Step T c' c'' → Steps T c c''

end Config

namespace Tasks

variable {G : Tasks ι Path E Res α} {T : Behaviour Res S} {done : List (ι × α)} {i : ι}
  {q : Program (LockRes Path E Res) α} {s mid : S} {c c' : Config ι Path E Res α S}

/-! ### What one step does -/

omit [DecidableEq Path] in
/-- A quiet task may move to any other quiet point. -/
theorem Inv.set_quiet (h : G.Inv T s c done mid) (hi : c.holder G.path ≠ some i)
    (hq : G.Quiet c.order done i q) :
  G.Inv T s (c.set i q) done mid
  := by
  constructor
  · apply h.serial
  · apply h.nodup
  · intro j hj
    by_cases hij : j = i
    · subst hij
      simpa [Config.set] using hq
    · simpa [Config.set, hij] using h.quiet j hj
  · apply h.free
  · intro j hj
    have hij : j ≠ i := by
      rintro rfl
      apply hi hj
    simpa [Config.set, hij] using h.held j hj

omit [DecidableEq Path] in
theorem Inv.openFile (h : G.Inv T s c done mid) {path : Path}
    {k : Except E Unit → Program (LockRes Path E Res) α} (r : Except E Unit)
    (hr : c.rest i = .call (.openFile path) k) :
  G.Inv T s (c.set i (k r)) done mid
  := by
  have hi := h.not_held hr (by simp) (by simp)
  apply h.set_quiet hi
  have hq := h.quiet i hi
  rw [hr] at hq
  cases hq with
  | start hmem =>
      cases r with
      | error e => apply Quiet.failed e hmem (.inl rfl)
      | ok u => apply Quiet.waiting hmem

omit [DecidableEq Path] in
theorem Inv.timeout (h : G.Inv T s c done mid) {path : Path}
    {k : Except E Unit → Program (LockRes Path E Res) α} (e : E)
    (hr : c.rest i = .call (.acquire path) k) :
  G.Inv T s (c.set i (k (.error e))) done mid
  := by
  have hi := h.not_held hr (by simp) (by simp)
  apply h.set_quiet hi
  have hq := h.quiet i hi
  rw [hr] at hq
  cases hq with
  | waiting hmem => apply Quiet.gaveUp e hmem

theorem Inv.acquire (h : G.Inv T s c done mid) {path : Path}
    {k : Except E Unit → Program (LockRes Path E Res) α}
    (hr : c.rest i = .call (.acquire path) k) (hfree : c.holder path = none) :
  G.Inv T s { c.set i (k (.ok ())) with
    holder := Function.update c.holder path (some i), order := c.order ++ [i] } done mid
  := by
  have hi := h.not_held hr (by simp) (by simp)
  have hq := h.quiet i hi
  rw [hr] at hq
  cases hq with
  | waiting hmem =>
      obtain ⟨horder, hshared⟩ := h.free hfree
      constructor
      · apply h.serial
      · simpa [List.nodup_append, hmem] using ⟨h.nodup, fun a ha hai => hmem (hai ▸ ha)⟩
      · intro j hj
        have hij : j ≠ i := by
          rintro rfl
          simp at hj
        have hjq := h.quiet j (by simp [hfree])
        simpa [Config.set, hij] using hjq.snoc_order hij
      · simp
      · intro j hj
        have hij : i = j := by simpa using hj
        subst hij
        refine ⟨by rw [horder], G.body i, ?_, ?_⟩
        · simp [Config.set]
        · rw [Config.set, ← hshared]
          apply Reach.refl

theorem Inv.release (h : G.Inv T s c done mid) {path : Path}
    {k : Unit → Program (LockRes Path E Res) α}
    (hr : c.rest i = .call (.release path) k) :
  ∃ a, G.Inv T s { c.set i (k ()) with holder := c.drop i path } (done ++ [(i, a)]) c.shared
  := by
  have hi : c.holder G.path = some i := by
    by_contra hi
    exact (h.quiet i hi).not_release hr
  obtain ⟨horder, p, hp, hreach⟩ := h.held i hi
  rw [hr] at hp
  cases p with
  | call o k' => cases hp
  | ret a =>
      cases hp
      use a
      have hdrop : c.drop i G.path = Function.update c.holder G.path none := by
        simp [Config.drop, hi]
      constructor
      · exact .snoc h.serial (hreach.run rfl)
      · apply h.nodup
      · intro j _
        by_cases hij : j = i
        · subst hij
          simpa [Config.set] using Quiet.closing (by simp)
        · have hjq := h.quiet j (by simpa [hi] using Ne.symm hij)
          simpa [Config.set, hij] using hjq.snoc_done (i, a)
      · intro _
        simp [Config.set, horder]
      · simp [hdrop]

theorem Inv.closeFile (h : G.Inv T s c done mid) {path : Path}
    {k : Unit → Program (LockRes Path E Res) α}
    (hr : c.rest i = .call (.closeFile path) k) :
  G.Inv T s { c.set i (k ()) with holder := c.drop i path } done mid
  := by
  have hi := h.not_held hr (by simp) (by simp)
  have hq := h.quiet i hi
  rw [hr] at hq
  have hdrop : c.drop i G.path = c.holder := by
    simp [Config.drop, hi]
  cases hq with
  | gaveUp e hmem =>
      rw [hdrop]
      apply h.set_quiet hi
      apply Quiet.failed e hmem (.inr rfl)
  | closing hd =>
      rw [hdrop]
      apply h.set_quiet hi
      apply Quiet.finished hd

omit [DecidableEq ι] [DecidableEq Path] in
/-- The next operation on the shared state is the lock holder's. -/
theorem Inv.holder_of_op (h : G.Inv T s c done mid) {o : Op}
    {k : Res o → Program (LockRes Path E Res) α} (hr : c.rest i = .call (.op o) k) :
  c.holder G.path = some i
  := by
  by_contra hi
  exact (h.quiet i hi).not_op hr

omit [DecidableEq Path] in
theorem Inv.op (h : G.Inv T s c done mid) {o : Op}
    {k : Res o → Program (LockRes Path E Res) α} {r : Res o} {s' : S}
    (hr : c.rest i = .call (.op o) k) (ht : T c.shared o r s') :
  G.Inv T s { c.set i (k r) with shared := s' } done mid
  := by
  have hi := h.holder_of_op hr
  obtain ⟨horder, p, hp, hreach⟩ := h.held i hi
  rw [hr] at hp
  cases p with
  | ret a => cases hp
  | call o' k' =>
      cases hp
      constructor
      · apply h.serial
      · apply h.nodup
      · intro j hj
        have hij : j ≠ i := by
          rintro rfl
          exact hj hi
        simpa [Config.set, hij] using h.quiet j hj
      · intro hfree
        rw [Config.set, hi] at hfree
        cases hfree
      · intro j hj
        have hij : i = j := by simpa [Config.set, hi] using hj
        subst hij
        refine ⟨horder, k' r, ?_, ?_⟩
        · simp only [Config.set, Function.update_self]
          rfl
        · apply hreach.trans
          exact .call ht (.refl _ _)

/-- One step keeps the invariant; a step that releases the lock adds the task to those
that have returned. -/
theorem Inv.step (h : G.Inv T s c done mid) (hstep : Config.Step T c c') :
  ∃ done' mid', G.Inv T s c' done' mid'
  := by
  cases hstep with
  | openFile r hr => exact ⟨_, _, h.openFile r hr⟩
  | acquire hr hfree => exact ⟨_, _, h.acquire hr hfree⟩
  | timeout e hr => exact ⟨_, _, h.timeout e hr⟩
  | release hr =>
      obtain ⟨a, ha⟩ := h.release hr
      exact ⟨_, _, ha⟩
  | closeFile hr => exact ⟨_, _, h.closeFile hr⟩
  | op hr ht => exact ⟨_, _, h.op hr ht⟩

/-! ### Whole interleavings -/

/-- The invariant holds throughout every interleaving. -/
theorem inv_of_steps (h : Config.Steps T (G.start s) c) :
  ∃ done mid, G.Inv T s c done mid
  := by
  induction h with
  | refl => exact ⟨_, _, inv_start s⟩
  | tail _ hstep ih =>
      obtain ⟨done, mid, hinv⟩ := ih
      apply hinv.step hstep

/-- In every interleaving the next operation on the shared state is the lock holder's. -/
theorem holder_of_op (h : Config.Steps T (G.start s) c) {o : Op}
    {k : Res o → Program (LockRes Path E Res) α} (hr : c.rest i = .call (.op o) k) :
  c.holder G.path = some i
  := by
  obtain ⟨done, mid, hinv⟩ := inv_of_steps h
  apply hinv.holder_of_op hr

/-- Once all tasks have returned, those that acquired the lock have returned and left the
shared state as if they had run one after another, in the order in which they acquired it;
each of the others has returned an error about the lock. -/
theorem serial_of_steps (h : Config.Steps T (G.start s) c) {res : ι → α}
    (hres : ∀ i, c.rest i = .ret (res i)) :
  G.Serial T s (c.order.map fun i => (i, res i)) c.shared ∧ c.order.Nodup ∧
    ∀ i, i ∉ c.order → ∃ e, res i = G.onOpen i e ∨ res i = G.onAcquire i e
  := by
  obtain ⟨done, mid, hinv⟩ := inv_of_steps h
  have hfree : c.holder G.path = none := by
    by_contra hheld
    obtain ⟨i, hi⟩ := Option.ne_none_iff_exists'.mp hheld
    obtain ⟨-, p, hp, -⟩ := hinv.held i hi
    rw [hres i] at hp
    cases p <;> cases hp
  obtain ⟨horder, hshared⟩ := hinv.free hfree
  have hquiet : ∀ i, G.Quiet c.order done i (.ret (res i)) := by
    intro i
    rw [← hres i]
    apply hinv.quiet i (by simp [hfree])
  have hdone : c.order.map (fun i => (i, res i)) = done := by
    have hval : ∀ x ∈ done, (x.1, res x.1) = x := by
      rintro ⟨i, a⟩ hia
      have hmem : i ∈ c.order := by
        rw [horder]
        exact List.mem_map_of_mem hia
      have hnodup := hinv.nodup
      rw [horder] at hnodup
      rcases hquiet i with _ | _ | _ | ⟨_, hnot, _⟩ | _ | hd
      · exact absurd hmem hnot
      · exact List.inj_on_of_nodup_map hnodup hd hia rfl
    rw [horder, List.map_map]
    apply Eq.trans (List.map_congr_left hval)
    apply List.map_id
  refine ⟨?_, hinv.nodup, ?_⟩
  · rw [hdone, hshared]
    apply hinv.serial
  · intro i hi
    have hq := hquiet i
    cases hq with
    | failed e _ ha => exact ⟨e, ha⟩
    | finished hd =>
        rw [horder] at hi
        exact absurd (List.mem_map_of_mem hd) hi

end Tasks

end

end Effect
