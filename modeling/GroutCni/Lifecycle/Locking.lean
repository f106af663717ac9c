import GroutCni.Effect.Flock
import GroutCni.Lifecycle.Concurrency

/-!
# Concurrent calls and `FileLock`

`FileLock.Lock` waits for `flock(2)` in a goroutine and gives up after a while.  The goroutine of a
call that has given up may still be granted the lock; the call then closes the lock file without
knowing it.  Calls remain serializable with such a lock, and none of them leaves the lock held
(`fileLock_serializable`).
-/

namespace GroutCni

open Effect

/-- The error of `Lock` when the call of `flock` has failed. -/
def lockFailed (err : GoError) : GoError := .wrapf "acquiring exclusive lock: %w" [] err

/-- The error of `Lock` after `lockAcquireTimeout`. -/
def lockTimedOut : GoError :=
  .errorf "timed out waiting for lock after %v" [.str (lit "1m0s")]

section

variable {ι : Type} [DecidableEq ι] {P : Policy Op} {calls : ι → Call} {sock : GoString} {w : World}

/-- Every call is about to start, and no lock file is open. -/
def startLocking (calls : ι → Call) (w : World) : Flock ι GoString GoError Op.Res Reply World :=
  Flock.start (fun i => (calls i).program) w

/-- Calls for one grout instance, each with its goroutine that waits for the lock, interleaved in
any way: a call that performs an operation owns the lock, and when all calls have returned, nobody
owns it, those that received the lock have run one after another, and the others have failed and
had no effect. -/
theorem fileLock_serializable (hsock : ∀ i, (calls i).conf.groutSocketPath = sock)
    {f : Flock ι GoString GoError Op.Res Reply World}
    (h : Flock.Steps (Env P) lockFailed lockTimedOut (startLocking calls w) f) :
  (∀ i o k, f.rest i = .call (.op o) k → f.owner (lockPathForSocket sock) = some i) ∧
  ∀ res : ι → Reply, (∀ i, f.rest i = .ret (res i)) →
    f.owner (lockPathForSocket sock) = none ∧ f.order.Nodup ∧
    Sequential P calls w (f.order.map fun i => (i, res i)) f.shared ∧
    ∀ i, i ∉ f.order → ∃ err, res i = .error (.wrapf "creating lock: %w" [] err) ∨
      res i = .error (.wrapf "acquiring lock: %w" [] err)
  := by
  have hprogram : ∀ i, (calls i).program = (tasksOf sock calls).program i := by
    intro i
    rw [(calls i).program_eq, locked, hsock i]
    rfl
  obtain ⟨c, hsteps, hrefines⟩ := Flock.refines_of_steps h
  have htasks : Config.Steps (Env P) ((tasksOf sock calls).start w) c := by
    rw [← startCalls_eq hsock]
    exact hsteps
  refine ⟨?_, ?_⟩
  · intro i o k hr
    rw [← hrefines.rest] at hr
    exact (hrefines.holder _ i (Tasks.holder_of_op htasks hr)).1
  · intro res hres
    have hclosed : f.owner (lockPathForSocket sock) = none := by
      apply Flock.owner_eq_none _ h hres
      intro i
      rw [hprogram]
      exact guarded_follows _ _ _ _
    have hres' : ∀ i, c.rest i = .ret (res i) := by
      intro i
      rw [hrefines.rest, hres i]
    obtain ⟨hserial, hnodup, hrefused⟩ := Tasks.serial_of_steps htasks hres'
    rw [hrefines.order, hrefines.shared] at hserial
    rw [hrefines.order] at hnodup hrefused
    exact ⟨hclosed, hnodup, sequential_of_serial hserial, hrefused⟩

end

/-- DELs for two pods. -/
def twoDels : Bool → Call
  | true => ⟨.del, sharedTap, pod "a"⟩
  | false => ⟨.del, sharedTap, pod "b"⟩

/-- A node with nothing but the reservation of a pod. -/
def reservedFor (args : CmdArgs) : World :=
  { World.initial with reservations := [reservationOf sharedTap args] }

/-- Two DELs: one receives the lock and releases the reservation of its pod, while the other gives
up, is granted the lock when the first has closed its file, and closes its own. -/
theorem fileLock_serializable_unheard :
  ∃ f : Flock Bool GoString GoError Op.Res Reply World,
    Flock.Steps (Env Policy.allOk) lockFailed lockTimedOut
      (startLocking twoDels (reservedFor (pod "a"))) f ∧
    f.rest true = .ret (.ok none) ∧
    f.rest false = .ret (.error (.wrapf "acquiring lock: %w" [] lockTimedOut)) ∧
    f.owner (lockPathForSocket sharedTap.groutSocketPath) = none ∧ f.order = [true] ∧
    Sequential Policy.allOk twoDels (reservedFor (pod "a")) [(true, .ok none)] f.shared ∧
    f.shared.reservations = []
  := by
  have hlist : Env Policy.allOk (reservedFor (pod "a")) (.interfaceList {}) (.ok [])
      (reservedFor (pod "a")) :=
    World.act_sound {} _ _ _ _ rfl
  have hdel : Env Policy.allOk (reservedFor (pod "a")) (.ipamDel sharedTap (pod "a")) (.ok ())
      World.initial := by
    constructor
    · rfl
    · simp [World.Effect, reservedFor, World.initial]
  have hstart : Flock.Steps (Env Policy.allOk) lockFailed lockTimedOut
      (startLocking twoDels (reservedFor (pod "a"))) _ := .refl _
  have hopen := (hstart.tail (.openFile (i := true) (.ok ()) rfl)).tail
    (.openFile (i := false) (.ok ()) rfl)
  have hreceived := (((hopen.tail (.spawn (i := true) rfl rfl)).tail (.call (i := true) rfl)).tail
    (.grant (i := true) rfl rfl rfl)).tail (.receive (i := true) rfl rfl)
  have htimeout := ((hreceived.tail (.spawn (i := false) rfl rfl)).tail
    (.call (i := false) rfl)).tail (.timeout (i := false) rfl (by rintro ⟨⟩))
  have hperformed := (htimeout.tail (.op (i := true) rfl hlist)).tail (.op (i := true) rfl hdel)
  have hreleased := (hperformed.tail (.release (i := true) rfl)).tail (.closeFile (i := true) rfl)
  have hunheard := (hreleased.tail (.grantUnheard (i := false) rfl rfl rfl)).tail
    (.closeFile (i := false) rfl)
  have hsock : ∀ i, (twoDels i).conf.groutSocketPath = sharedTap.groutSocketPath := by
    rintro (_ | _) <;> rfl
  obtain ⟨howner, -, hserial, -⟩ := (fileLock_serializable hsock hunheard).2
    (fun i => if i then .ok none else .error (.wrapf "acquiring lock: %w" [] lockTimedOut))
    (by rintro (_ | _) <;> rfl)
  exact ⟨_, hunheard, rfl, rfl, howner, rfl, hserial, rfl⟩

end GroutCni
