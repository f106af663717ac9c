import GroutCni.Effect.Protocol
import GroutCni.Effect.Serial

/-!
# A lock that is waited for by a goroutine

`Flock.Step` is the lock of `Config.Step` as it is made from `flock(2)`: acquiring it starts a
goroutine that calls `flock` and sends what it returns, and the program takes what is sent or,
after some time, gives up.  A goroutine that nobody listens to may still be granted the lock; the
lock is then held by the open file until the file is closed.

The program acquires the lock where it receives the grant, and not where the kernel makes it.
With this the fine machine refines the one in which the lock is acquired in one step
(`Flock.refines_of_steps`), and the lock of a program that has closed its file is not held
(`Flock.owner_eq_none`).
-/

namespace Effect

open Program

/-- The goroutine that waits for a lock. -/
inductive Waiter (Path E : Type) where
  /-- Not started yet. -/
  | absent
  /-- Started, and about to call `flock`. -/
  | spawned (path : Path)
  /-- In `flock`. -/
  | blocked (path : Path)
  /-- The lock was granted, and this was sent. -/
  | granted (path : Path)
  /-- The call failed, and the error was sent. -/
  | failed (e : E)
  /-- Still about to call `flock` or in it, after the program has given up. -/
  | unheard (path : Path)
  /-- At its end. -/
  | done

/-- The programs, the files that they have opened, the goroutines that wait for locks, and for
every lock the program whose file holds it. -/
structure Flock (ι Path E : Type) {Op : Type} (Res : Op → Type) (α S : Type) where
  shared : S
  owner : Path → Option ι
  isOpen : ι × Path → Bool
  waiter : ι → Waiter Path E
  rest : ι → Program (LockRes Path E Res) α
  order : List ι

section

variable {ι Path Op E S α : Type} {Res : Op → Type} [DecidableEq ι] [DecidableEq Path]

/-- What becomes of the goroutine when the program gives up. -/
def Waiter.leave : Waiter Path E → Waiter Path E
  | .spawned path => .unheard path
  | .blocked path => .unheard path
  | .unheard path => .unheard path
  | .absent => .absent
  | _ => .done

/-- The program waits for what the goroutine sends. -/
def Waiter.heard : Waiter Path E → Bool
  | .spawned _ | .blocked _ | .granted _ | .failed _ => true
  | _ => false

namespace Flock

/-- The program `i` has `q` left to run. -/
def set (f : Flock ι Path E Res α S) (i : ι) (q : Program (LockRes Path E Res) α) :
    Flock ι Path E Res α S :=
  { f with rest := Function.update f.rest i q }

/-- The goroutine of the program `i` goes on. -/
def wait (f : Flock ι Path E Res α S) (i : ι) (w : Waiter Path E) : Flock ι Path E Res α S :=
  { f with waiter := Function.update f.waiter i w }

/-- The owners once the file of the program `i` lets go of the lock `path`, if it holds it. -/
def drop (f : Flock ι Path E Res α S) (i : ι) (path : Path) : Path → Option ι :=
  if f.owner path = some i then Function.update f.owner path none else f.owner

/-- Who still has a lock after the program `i` has let go of the lock `path`. -/
theorem drop_eq_some_iff {owner : Path → Option ι} {i j : ι} {path path' : Path} :
  (if owner path = some i then Function.update owner path none else owner) path' = some j
    ↔ owner path' = some j ∧ ¬(path' = path ∧ j = i)
  := by
  by_cases hpath : path' = path
  · subst hpath
    by_cases howner : owner path' = some i
    · rw [if_pos howner, Function.update_self, howner]
      simp [eq_comm]
    · rw [if_neg howner]
      constructor
      · intro h
        refine ⟨h, ?_⟩
        rintro ⟨-, rfl⟩
        exact howner h
      · exact And.left
  · split
    · simp [hpath]
    · simp [hpath]

/-- One step of a program, of a goroutine, or of the kernel.  `failed` is the error of a program
whose call of `flock` failed, and `timedOut` that of one that gave up. -/
inductive Step (T : Behaviour Res S) (failed : E → E) (timedOut : E) :
    Flock ι Path E Res α S → Flock ι Path E Res α S → Prop
  | openFile {f : Flock ι Path E Res α S} {i : ι} {path : Path}
      {k : Except E Unit → Program (LockRes Path E Res) α} (r : Except E Unit)
      (h : f.rest i = .call (.openFile path) k) :
      Step T failed timedOut f { f.set i (k r) with
        isOpen := Function.update f.isOpen (i, path) (r.isOk || f.isOpen (i, path)) }
  | spawn {f : Flock ι Path E Res α S} {i : ι} {path : Path}
      {k : Except E Unit → Program (LockRes Path E Res) α}
      (h : f.rest i = .call (.acquire path) k) (hw : f.waiter i = .absent) :
      Step T failed timedOut f (f.wait i (.spawned path))
  | call {f : Flock ι Path E Res α S} {i : ι} {path : Path} (hw : f.waiter i = .spawned path) :
      Step T failed timedOut f (f.wait i (.blocked path))
  | grant {f : Flock ι Path E Res α S} {i : ι} {path : Path} (hw : f.waiter i = .blocked path)
      (hopen : f.isOpen (i, path) = true) (hfree : f.owner path = none) :
      Step T failed timedOut f { f.wait i (.granted path) with
        owner := Function.update f.owner path (some i) }
  | fail {f : Flock ι Path E Res α S} {i : ι} {path : Path} (e : E)
      (hw : f.waiter i = .spawned path ∨ f.waiter i = .blocked path) :
      Step T failed timedOut f (f.wait i (.failed e))
  | receive {f : Flock ι Path E Res α S} {i : ι} {path : Path}
      {k : Except E Unit → Program (LockRes Path E Res) α}
      (h : f.rest i = .call (.acquire path) k) (hw : f.waiter i = .granted path) :
      Step T failed timedOut f { (f.set i (k (.ok ()))).wait i .done with order := f.order ++ [i] }
  | receiveError {f : Flock ι Path E Res α S} {i : ι} {path : Path}
      {k : Except E Unit → Program (LockRes Path E Res) α} {e : E}
      (h : f.rest i = .call (.acquire path) k) (hw : f.waiter i = .failed e) :
      Step T failed timedOut f ((f.set i (k (.error (failed e)))).wait i .done)
  | timeout {f : Flock ι Path E Res α S} {i : ι} {path : Path}
      {k : Except E Unit → Program (LockRes Path E Res) α}
      (h : f.rest i = .call (.acquire path) k) (hw : f.waiter i ≠ .absent) :
      Step T failed timedOut f ((f.set i (k (.error timedOut))).wait i (f.waiter i).leave)
  -- The lock goes to a file that is still open, although nobody listens.
  | grantUnheard {f : Flock ι Path E Res α S} {i : ι} {path : Path}
      (hw : f.waiter i = .unheard path) (hopen : f.isOpen (i, path) = true)
      (hfree : f.owner path = none) :
      Step T failed timedOut f { f.wait i .done with
        owner := Function.update f.owner path (some i) }
  -- The call fails, or the lock goes to a file that has been closed and is gone with the call.
  | endUnheard {f : Flock ι Path E Res α S} {i : ι} {path : Path}
      (hw : f.waiter i = .unheard path) : Step T failed timedOut f (f.wait i .done)
  | release {f : Flock ι Path E Res α S} {i : ι} {path : Path}
      {k : Unit → Program (LockRes Path E Res) α} (h : f.rest i = .call (.release path) k) :
      Step T failed timedOut f { f.set i (k ()) with owner := f.drop i path }
  | closeFile {f : Flock ι Path E Res α S} {i : ι} {path : Path}
      {k : Unit → Program (LockRes Path E Res) α} (h : f.rest i = .call (.closeFile path) k) :
      Step T failed timedOut f { f.set i (k ()) with
        owner := f.drop i path, isOpen := Function.update f.isOpen (i, path) false }
  | op {f : Flock ι Path E Res α S} {i : ι} {o : Op}
      {k : Res o → Program (LockRes Path E Res) α} {r : Res o} {s' : S}
      (h : f.rest i = .call (.op o) k) (ht : T f.shared o r s') :
      Step T failed timedOut f { f.set i (k r) with shared := s' }

/-- Any number of steps. -/
inductive Steps (T : Behaviour Res S) (failed : E → E) (timedOut : E) :
    Flock ι Path E Res α S → Flock ι Path E Res α S → Prop
  | refl (f : Flock ι Path E Res α S) : Steps T failed timedOut f f
  | tail {f f' f'' : Flock ι Path E Res α S} :
      Steps T failed timedOut f f' → Step T failed timedOut f' f'' → Steps T failed timedOut f f''

/-- Every program is about to start, and nothing is open. -/
def start (rest : ι → Program (LockRes Path E Res) α) (s : S) : Flock ι Path E Res α S where
  shared := s
  owner _ := none
  isOpen _ := false
  waiter _ := .absent
  rest := rest
  order := []

variable {T : Behaviour Res S} {failed : E → E} {timedOut : E} {f f' : Flock ι Path E Res α S}
  {c : Config ι Path E Res α S}

/-! ### Refinement -/

/-- The machine where the lock is acquired in one step is in the corresponding state.  Whoever
holds the lock there owns it here, and has received the grant; a grant that has been sent is one
for a program that waits for it. -/
structure Refines (f : Flock ι Path E Res α S) (c : Config ι Path E Res α S) : Prop where
  shared : c.shared = f.shared
  rest : c.rest = f.rest
  order : c.order = f.order
  holder : ∀ path i, c.holder path = some i → f.owner path = some i ∧ f.waiter i = .done
  granted : ∀ path i, f.waiter i = .granted path → f.owner path = some i
  selecting : ∀ i, (f.waiter i).heard = true → ∃ path k, f.rest i = .call (.acquire path) k

namespace Refines

variable {i j : ι} {path : Path}

omit [DecidableEq ι] [DecidableEq Path] in
/-- A program that is not at `acquire` does not wait. -/
theorem not_heard (h : f.Refines c) {o : LockOp Path Op}
    {k : LockRes Path E Res o → Program (LockRes Path E Res) α} (hr : f.rest i = .call o k)
    (ho : ∀ path, o ≠ .acquire path) :
  (f.waiter i).heard = false
  := by
  cases hheard : (f.waiter i).heard with
  | false => rfl
  | true =>
      obtain ⟨path, k', hr'⟩ := h.selecting i hheard
      rw [hr] at hr'
      cases hr'
      exact absurd rfl (ho path)

omit [DecidableEq ι] [DecidableEq Path] in
/-- While a program waits for the lock that it was granted, nobody holds it. -/
theorem holder_eq_none (h : f.Refines c) (hw : f.waiter i = .granted path) :
  c.holder path = none
  := by
  cases hholder : c.holder path with
  | none => rfl
  | some j =>
      obtain ⟨howner, hdone⟩ := h.holder path j hholder
      rw [h.granted path i hw] at howner
      cases howner
      rw [hw] at hdone
      cases hdone

omit [DecidableEq Path] in
/-- A goroutine goes on. -/
theorem wait (h : f.Refines c) {w : Waiter Path E} (hdone : f.waiter i = .done → w = .done)
    (hgranted : ∀ path, w = .granted path → f.owner path = some i)
    (hheard : w.heard = true → ∃ path k, f.rest i = .call (.acquire path) k) :
  (f.wait i w).Refines c
  where
  shared := h.shared
  rest := h.rest
  order := h.order
  holder := by
    intro path j hj
    obtain ⟨howner, hwaiter⟩ := h.holder path j hj
    refine ⟨howner, ?_⟩
    by_cases hij : j = i
    · subst hij
      simpa [Flock.wait] using hdone hwaiter
    · simpa [Flock.wait, hij] using hwaiter
  granted := by
    intro path j hj
    by_cases hij : j = i
    · subst hij
      exact hgranted path (by simpa [Flock.wait] using hj)
    · exact h.granted path j (by simpa [Flock.wait, hij] using hj)
  selecting := by
    intro j hj
    by_cases hij : j = i
    · subst hij
      exact hheard (by simpa [Flock.wait] using hj)
    · exact h.selecting j (by simpa [Flock.wait, hij] using hj)

omit [DecidableEq Path] in
/-- A program that does not wait goes on. -/
theorem set (h : f.Refines c) (q : Program (LockRes Path E Res) α)
    (hi : (f.waiter i).heard = false) :
  (f.set i q).Refines (c.set i q)
  where
  shared := h.shared
  rest := by
    dsimp only [Config.set, Flock.set]
    rw [h.rest]
  order := h.order
  holder := h.holder
  granted := h.granted
  selecting := by
    intro j hj
    have hij : j ≠ i := by
      rintro rfl
      rw [show (f.set j q).waiter j = f.waiter j from rfl, hi] at hj
      cases hj
    simpa [Flock.set, hij] using h.selecting j hj

omit [DecidableEq ι] in
/-- The kernel grants a lock that is free. -/
theorem own (h : f.Refines c) (hfree : f.owner path = none) (i : ι) :
  Refines { f with owner := Function.update f.owner path (some i) } c
  where
  shared := h.shared
  rest := h.rest
  order := h.order
  holder := by
    intro path' j hj
    obtain ⟨howner, hwaiter⟩ := h.holder path' j hj
    have hne : path' ≠ path := by
      rintro rfl
      rw [hfree] at howner
      cases howner
    exact ⟨by simpa [hne] using howner, hwaiter⟩
  granted := by
    intro path' j hj
    have howner := h.granted path' j hj
    have hne : path' ≠ path := by
      rintro rfl
      rw [hfree] at howner
      cases howner
    simpa [hne] using howner
  selecting := h.selecting

omit [DecidableEq ι] in
/-- A program that has received the grant holds the lock. -/
theorem hold (h : f.Refines c) (howner : f.owner path = some i) (hw : f.waiter i = .done) :
  f.Refines { c with holder := Function.update c.holder path (some i) }
  where
  shared := h.shared
  rest := h.rest
  order := h.order
  holder := by
    intro path' j hj
    by_cases hpath : path' = path
    · subst hpath
      have hij : i = j := by simpa using hj
      subst hij
      exact ⟨howner, hw⟩
    · exact h.holder path' j (by simpa [hpath] using hj)
  granted := h.granted
  selecting := h.selecting

/-- A program that does not wait lets go of a lock. -/
theorem letGo (h : f.Refines c) (hi : (f.waiter i).heard = false) (path : Path) :
  Refines { f with owner := f.drop i path } { c with holder := c.drop i path }
  where
  shared := h.shared
  rest := h.rest
  order := h.order
  holder := by
    intro path' j hj
    obtain ⟨hj, hne⟩ := drop_eq_some_iff.mp hj
    obtain ⟨howner, hwaiter⟩ := h.holder path' j hj
    exact ⟨drop_eq_some_iff.mpr ⟨howner, hne⟩, hwaiter⟩
  granted := by
    intro path' j hj
    apply drop_eq_some_iff.mpr
    refine ⟨h.granted path' j hj, ?_⟩
    rintro ⟨-, rfl⟩
    have hgranted : f.waiter j = .granted path' := hj
    rw [hgranted] at hi
    cases hi
  selecting := h.selecting

omit [DecidableEq ι] [DecidableEq Path] in
theorem files (h : f.Refines c) (isOpen : ι × Path → Bool) :
  Refines { f with isOpen } c
  := ⟨h.shared, h.rest, h.order, h.holder, h.granted, h.selecting⟩

omit [DecidableEq ι] [DecidableEq Path] in
theorem enter (h : f.Refines c) (i : ι) :
  Refines { f with order := f.order ++ [i] } { c with order := c.order ++ [i] }
  := by
  refine ⟨h.shared, h.rest, ?_, h.holder, h.granted, h.selecting⟩
  rw [h.order]

omit [DecidableEq ι] [DecidableEq Path] in
theorem share (h : f.Refines c) (s : S) :
  Refines { f with shared := s } { c with shared := s }
  := ⟨rfl, h.rest, h.order, h.holder, h.granted, h.selecting⟩

omit [DecidableEq Path] in
/-- A program gives up, or receives an error. -/
theorem giveUp (h : f.Refines c) {w : Waiter Path E} (q : Program (LockRes Path E Res) α)
    (hheard : w.heard = false) (hdone : f.waiter i = .done → w = .done) :
  ((f.set i q).wait i w).Refines (c.set i q)
  := by
  have hwait : (f.wait i w).Refines c := by
    apply h.wait hdone
    · rintro path rfl
      cases hheard
    · intro htrue
      rw [hheard] at htrue
      cases htrue
  apply hwait.set q
  simpa [Flock.wait] using hheard

/-- A step of the fine machine is a step of the other machine, or leaves it where it is. -/
theorem step (h : f.Refines c) (hstep : Step T failed timedOut f f') :
  ∃ c', (c' = c ∨ Config.Step T c c') ∧ f'.Refines c'
  := by
  have hrest : ∀ {i : ι} {q : Program (LockRes Path E Res) α}, f.rest i = q → c.rest i = q := by
    intro i q hq
    rw [h.rest, hq]
  cases hstep with
  | @openFile i path k r hr =>
      have hset := h.set (k r) (h.not_heard hr (by simp))
      exact ⟨_, .inr (.openFile r (hrest hr)), hset.files _⟩
  | @spawn i path k hr hw =>
      refine ⟨c, .inl rfl, h.wait ?_ (by simp) fun _ => ⟨path, k, hr⟩⟩
      simp [hw]
  | @call i path hw =>
      refine ⟨c, .inl rfl, h.wait ?_ (by simp) fun _ => h.selecting i ?_⟩
      · simp [hw]
      · rw [hw]
        rfl
  | @grant i path hw hopen hfree =>
      refine ⟨c, .inl rfl, (h.own hfree i).wait ?_ ?_ fun _ => h.selecting i ?_⟩
      · simp [hw]
      · rintro path' ⟨⟩
        exact Function.update_self _ _ _
      · rw [hw]
        rfl
  | @fail i path e hw =>
      refine ⟨c, .inl rfl, h.wait ?_ (by simp) fun _ => h.selecting i ?_⟩
      · rcases hw with hw | hw <;> simp [hw]
      · rcases hw with hw | hw <;> rw [hw] <;> rfl
  | @receive i path k hr hw =>
      -- This is where the program acquires the lock.
      have hfree := h.holder_eq_none hw
      have howner := h.granted path i hw
      have hset := h.giveUp (i := i) (w := .done) (k (.ok ())) rfl fun _ => rfl
      have hhold := hset.hold howner (Function.update_self _ _ _)
      exact ⟨_, .inr (.acquire (hrest hr) hfree), hhold.enter i⟩
  | @receiveError i path k e hr hw =>
      exact ⟨_, .inr (.timeout _ (hrest hr)), h.giveUp _ rfl fun _ => rfl⟩
  | @timeout i path k hr hw =>
      refine ⟨_, .inr (.timeout _ (hrest hr)), h.giveUp _ ?_ ?_⟩
      · cases f.waiter i <;> rfl
      · intro hdone
        rw [hdone]
        rfl
  | @grantUnheard i path hw hopen hfree =>
      exact ⟨c, .inl rfl, (h.own hfree i).wait (fun _ => rfl) (by simp)
        fun hheard => by cases hheard⟩
  | @endUnheard i path hw =>
      exact ⟨c, .inl rfl, h.wait (fun _ => rfl) (by simp) fun hheard => by cases hheard⟩
  | @release i path k hr =>
      have hheard := h.not_heard hr (by simp)
      exact ⟨_, .inr (.release (hrest hr)), (h.letGo hheard path).set (k ()) hheard⟩
  | @closeFile i path k hr =>
      have hheard := h.not_heard hr (by simp)
      exact ⟨_, .inr (.closeFile (hrest hr)), ((h.letGo hheard path).set (k ()) hheard).files _⟩
  | @op i o k r s' hr ht =>
      have hset := h.set (k r) (h.not_heard hr (by simp))
      exact ⟨_, .inr (.op (hrest hr) (h.shared ▸ ht)), hset.share s'⟩

end Refines

/-- Every interleaving of the fine machine is one of the machine where the lock is acquired in one
step. -/
theorem refines_of_steps {rest : ι → Program (LockRes Path E Res) α} {s : S}
    (h : Steps T failed timedOut (Flock.start rest s) f) :
  ∃ c, Config.Steps T ⟨s, fun _ => none, rest, []⟩ c ∧ f.Refines c
  := by
  induction h with
  | refl =>
      refine ⟨_, .refl _, rfl, rfl, rfl, ?_, ?_, ?_⟩
      · intro path i hi
        cases hi
      · intro path i hi
        cases hi
      · intro i hi
        cases hi
  | tail _ hstep ih =>
      obtain ⟨c, hsteps, hrefines⟩ := ih
      obtain ⟨c', rfl | hcstep, hrefines'⟩ := hrefines.step hstep
      · exact ⟨c', hsteps, hrefines'⟩
      · exact ⟨c', hsteps.tail hcstep, hrefines'⟩

/-! ### Files that are closed -/

/-- Whether the file `path` is open, along the operations of a program. -/
def file (path : Path) : Protocol (LockRes Path E Res) Bool
  | isOpen, .openFile p => some fun r => if p = path then r.isOk || isOpen else isOpen
  | isOpen, .closeFile p => some fun _ => if p = path then false else isOpen
  | isOpen, _ => some fun _ => isOpen

/-- The owner of the lock has its file open, and every program closes the file if it is open. -/
structure Tidy (path : Path) (f : Flock ι Path E Res α S) : Prop where
  opened : ∀ i, f.owner path = some i → f.isOpen (i, path) = true
  closes : ∀ i, (f.rest i).Follows (file path) (fun _ isOpen => isOpen = false)
    (f.isOpen (i, path))

namespace Tidy

variable {i : ι} {path : Path}

/-- A program goes on, and the state of its file with it. -/
theorem closes_set (h : f.Tidy path) {o : LockOp Path Op}
    {k : LockRes Path E Res o → Program (LockRes Path E Res) α} (hr : f.rest i = .call o k)
    (r : LockRes Path E Res o) {isOpen : ι × Path → Bool}
    (hother : ∀ j, j ≠ i → isOpen (j, path) = f.isOpen (j, path))
    (hnext : ∀ next, file path (f.isOpen (i, path)) o = some next → isOpen (i, path) = next r)
    (j : ι) :
  (Function.update f.rest i (k r) j).Follows (file path) (fun _ isOpen => isOpen = false)
    (isOpen (j, path))
  := by
  by_cases hij : j = i
  · subst hij
    have hfollows := h.closes j
    rw [hr] at hfollows
    obtain ⟨next, hfile, hk⟩ := hfollows
    rw [Function.update_self, hnext next hfile]
    exact hk r
  · rw [Function.update_of_ne hij, hother j hij]
    exact h.closes j

/-- A program goes on, and its file stays as it is. -/
theorem set (h : f.Tidy path) {o : LockOp Path Op}
    {k : LockRes Path E Res o → Program (LockRes Path E Res) α} (hr : f.rest i = .call o k)
    (r : LockRes Path E Res o)
    (ho : (file path : Protocol (LockRes Path E Res) Bool) (f.isOpen (i, path)) o
      = some fun _ => f.isOpen (i, path)) :
  (f.set i (k r)).Tidy path
  := by
  refine ⟨h.opened, h.closes_set hr r (fun _ _ => rfl) ?_⟩
  intro next hnext
  rw [ho] at hnext
  cases hnext
  rfl

omit [DecidableEq ι] in
/-- The lock goes to a file that is open. -/
theorem own (h : f.Tidy path) {path' : Path} (hopen : f.isOpen (i, path') = true) :
  Tidy path { f with owner := Function.update f.owner path' (some i) }
  := by
  refine ⟨?_, h.closes⟩
  intro j hj
  by_cases hpath : path = path'
  · subst hpath
    have hij : i = j := by simpa using hj
    exact hij ▸ hopen
  · exact h.opened j (by simpa [hpath] using hj)

/-- One step keeps files tidy. -/
theorem step (h : f.Tidy path) (hstep : Step T failed timedOut f f') :
  f'.Tidy path
  := by
  cases hstep with
  | @openFile i path' k r hr =>
      constructor
      · intro j hj
        have hopen := h.opened j hj
        by_cases hij : (j, path) = (i, path')
        · cases hij
          simp [hopen]
        · simpa [hij] using hopen
      · apply h.closes_set hr r
        · intro j hij
          simp [hij]
        · intro next hnext
          cases hnext
          by_cases hpath : path' = path
          · simp [hpath]
          · simp [hpath, Ne.symm hpath]
  | spawn hr hw => exact ⟨h.opened, h.closes⟩
  | call hw => exact ⟨h.opened, h.closes⟩
  | grant hw hopen hfree =>
      have hown := h.own hopen
      exact ⟨hown.opened, hown.closes⟩
  | fail e hw => exact ⟨h.opened, h.closes⟩
  | @receive i path' k hr hw =>
      have hset := h.set hr (.ok ()) rfl
      exact ⟨hset.opened, hset.closes⟩
  | @receiveError i path' k e hr hw =>
      have hset := h.set hr (.error (failed e)) rfl
      exact ⟨hset.opened, hset.closes⟩
  | @timeout i path' k hr hw =>
      have hset := h.set hr (.error timedOut) rfl
      exact ⟨hset.opened, hset.closes⟩
  | grantUnheard hw hopen hfree =>
      have hown := h.own hopen
      exact ⟨hown.opened, hown.closes⟩
  | endUnheard hw => exact ⟨h.opened, h.closes⟩
  | @release i path' k hr =>
      have hset := h.set hr () rfl
      refine ⟨?_, hset.closes⟩
      intro j hj
      exact h.opened j (drop_eq_some_iff.mp hj).1
  | @closeFile i path' k hr =>
      constructor
      · intro j hj
        obtain ⟨hj, hne⟩ := drop_eq_some_iff.mp hj
        have hij : (j, path) ≠ (i, path') := by
          rintro ⟨⟩
          exact hne ⟨rfl, rfl⟩
        simpa [hij] using h.opened j hj
      · apply h.closes_set hr ()
        · intro j hij
          simp [hij]
        · intro next hnext
          cases hnext
          by_cases hpath : path' = path
          · simp [hpath]
          · simp [hpath, Ne.symm hpath]
  | @op i o k r s' hr ht =>
      have hset := h.set hr r rfl
      exact ⟨hset.opened, hset.closes⟩

end Tidy

/-- Once all programs have returned, nobody owns the lock. -/
theorem owner_eq_none {rest : ι → Program (LockRes Path E Res) α} {s : S} {path : Path}
    (hrest : ∀ i, (rest i).Follows (file path) (fun _ isOpen => isOpen = false) false)
    (h : Steps T failed timedOut (Flock.start rest s) f) {res : ι → α}
    (hres : ∀ i, f.rest i = .ret (res i)) :
  f.owner path = none
  := by
  have htidy : f.Tidy path := by
    clear hres
    induction h with
    | refl =>
        refine ⟨?_, hrest⟩
        intro i hi
        cases hi
    | tail _ hstep ih => exact ih.step hstep
  cases howner : f.owner path with
  | none => rfl
  | some i =>
      have hclosed := htidy.closes i
      rw [hres i, htidy.opened i howner] at hclosed
      exact Bool.noConfusion hclosed

end Flock

/-- A guarded program closes its lock file. -/
theorem guarded_follows (path : Path) (onOpen onAcquire : E → α) (body : Program Res α) :
  (guarded path onOpen onAcquire body).Follows (Flock.file path) (fun _ isOpen => isOpen = false)
    false
  := by
  have hinside : (inside (E := E) path body).Follows (Flock.file path)
      (fun _ isOpen => isOpen = false) true := by
    induction body with
    | ret a => exact ⟨_, rfl, fun _ => ⟨_, rfl, fun _ => if_pos rfl⟩⟩
    | call o k ih => exact ⟨_, rfl, ih⟩
  have hwaiting : (waiting path onAcquire body).Follows (Flock.file path)
      (fun _ isOpen => isOpen = false) true := by
    refine ⟨_, rfl, ?_⟩
    rintro (e | u)
    · exact ⟨_, rfl, fun _ => if_pos rfl⟩
    · exact hinside
  refine ⟨_, rfl, ?_⟩
  rintro (e | u)
  · exact if_pos rfl
  · dsimp only
    rw [if_pos rfl]
    exact hwaiting

end

end Effect
