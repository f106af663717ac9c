import GroutCni.Effect.Schedule
import GroutCni.Node.Script

/-!
# Concurrent calls

Calls for one grout instance take turns, one operation at a time.  The lock of the instance
makes them serializable (`calls_serializable`): what the holder of the lock does is not
interrupted, and in the end those that acquired the lock have run one after another.
-/

namespace GroutCni

open Effect

section

variable {ι : Type} {P : Policy Op} {calls : ι → Call} {sock : GoString} {w w' : World}

/-- The calls in progress, and the node they share. -/
abbrev Progress (ι : Type) : Type :=
  Config ι GoString GoError Op.Res Reply World

/-- Every call is about to start, and no lock is held. -/
def startCalls (calls : ι → Call) (w : World) : Progress ι where
  shared := w
  holder _ := none
  rest i := (calls i).program
  order := []

/-- The calls of `l` one after another, each on its own and with the lock free, return the
replies of `l` and leave the node `w'`. -/
inductive Sequential (P : Policy Op) (calls : ι → Call) (w : World) :
    List (ι × Reply) → World → Prop
  | nil : Sequential P calls w [] w
  | snoc {l : List (ι × Reply)} {w' w'' : World} {i : ι} {r : Reply} :
      Sequential P calls w l w' → Run (Solo (Env P) false) (calls i).program w' r w'' →
      Sequential P calls w (l ++ [(i, r)]) w''

/-- The calls as tasks guarded by the lock of a grout instance. -/
def tasksOf (sock : GoString) (calls : ι → Call) : Tasks ι GoString GoError Op.Res Reply where
  path := lockPathForSocket sock
  onOpen _ err := .error (.wrapf "creating lock: %w" [] err)
  onAcquire _ err := .error (.wrapf "acquiring lock: %w" [] err)
  body i := (calls i).body

/-- The handlers of the calls for one grout instance take the same lock. -/
theorem startCalls_eq (hsock : ∀ i, (calls i).conf.groutSocketPath = sock) (w : World) :
  startCalls calls w = (tasksOf sock calls).start w
  := by
  unfold startCalls Tasks.start
  congr 1
  funext i
  rw [(calls i).program_eq, locked, hsock i]
  rfl

/-- Bodies that run one after another are handlers that do. -/
theorem sequential_of_serial {l : List (ι × Reply)}
    (h : (tasksOf sock calls).Serial (Env P) w l w') :
  Sequential P calls w l w'
  := by
  induction h with
  | nil => exact .nil
  | @snoc _ _ _ i _ _ hrun ih =>
      apply ih.snoc
      rw [(calls i).program_eq]
      exact locked_run hrun

variable [DecidableEq ι]

/-- Calls for one grout instance are serializable, however their operations are interleaved
and whichever of them fail.  Every operation is performed by the holder of the lock, and the
holder has run on its own since it acquired the lock.  Once all calls have returned, those
that acquired the lock have run one after another, in the order in which they acquired it,
and the others have failed and had no effect. -/
theorem calls_serializable (hsock : ∀ i, (calls i).conf.groutSocketPath = sock)
    {c : Progress ι} (h : Config.Steps (Env P) (startCalls calls w) c) :
  (∀ i o k, c.rest i = .call (.op o) k → c.holder (lockPathForSocket sock) = some i) ∧
  (∀ i, c.holder (lockPathForSocket sock) = some i → ∃ l mid q,
    c.order = l.map Prod.fst ++ [i] ∧ Sequential P calls w l mid ∧
    Reach (Env P) (calls i).body mid q c.shared ∧
    c.rest i = inside (lockPathForSocket sock) q) ∧
  (c.shared.grout.ifaces.map (·.name)).Nodup ∧
  ∀ res : ι → Reply, (∀ i, c.rest i = .ret (res i)) →
    c.order.Nodup ∧ Sequential P calls w (c.order.map fun i => (i, res i)) c.shared ∧
    ∀ i, i ∉ c.order → ∃ err, res i = .error (.wrapf "creating lock: %w" [] err) ∨
      res i = .error (.wrapf "acquiring lock: %w" [] err)
  := by
  rw [startCalls_eq hsock] at h
  refine ⟨?_, ?_, c.shared.grout.names_nodup, ?_⟩
  · intro i o k hrest
    exact Tasks.holder_of_op h hrest
  · intro i hi
    obtain ⟨l, mid, hinv⟩ := Tasks.inv_of_steps h
    obtain ⟨horder, q, hrest, hreach⟩ := hinv.held i hi
    exact ⟨l, mid, q, horder, sequential_of_serial hinv.serial, hreach, hrest⟩
  · intro res hres
    obtain ⟨hserial, hnodup, hrefused⟩ := Tasks.serial_of_steps h hres
    exact ⟨hnodup, sequential_of_serial hserial, hrefused⟩

end

/-- Two ADDs and a DEL for one bridge. -/
def twoAddsOneDel : Fin 3 → Call
  | 0 => ⟨.add, sharedTap, pod "a"⟩
  | 1 => ⟨.add, sharedVirtio, pod "b"⟩
  | 2 => ⟨.del, sharedTap, pod "a"⟩

/-- The ADDs acquire the lock one after the other while the DEL times out: they make one
bridge with two members, as they do when they run one after another. -/
theorem calls_serializable_twoAddsOneDel :
  ∃ (c : Progress (Fin 3)) (res : Fin 3 → Reply),
    Config.Steps (Env Policy.allOk) (startCalls twoAddsOneDel World.initial) c ∧
    c.order = [1, 0] ∧ c.shared.grout.ifaces.length = 3 ∧
    Sequential Policy.allOk twoAddsOneDel World.initial [(1, res 1), (0, res 0)] c.shared ∧
    ∃ err, res 2 = .error err
  := by
  have hplay : ((startCalls twoAddsOneDel World.initial).play (World.act Policy.allOk)
      [⟨0, none, {}⟩, ⟨1, none, {}⟩, ⟨1, none, {}⟩, ⟨1, none, oneAddress 20⟩, ⟨2, none, {}⟩,
        ⟨1, none, {}⟩, ⟨1, none, { id := 1 }⟩, ⟨2, some (.other "timed out"), {}⟩,
        ⟨1, none, {}⟩, ⟨1, none, {}⟩, ⟨1, none, { id := 2 }⟩, ⟨1, none, {}⟩, ⟨0, none, {}⟩,
        ⟨0, none, oneAddress 10⟩, ⟨1, none, {}⟩, ⟨0, none, {}⟩, ⟨0, none, {}⟩, ⟨2, none, {}⟩,
        ⟨0, none, { id := 3 }⟩, ⟨0, none, {}⟩, ⟨0, none, {}⟩]).any
      (fun c => c.order = [1, 0] ∧ c.shared.grout.ifaces.length = 3 ∧
        ∀ i, (c.value? i).isSome = true) = true := by
    decide +kernel
  obtain ⟨c, hsteps, hcheck⟩ := Config.play_exists World.act_sound hplay
  obtain ⟨horder, hlen, hdone⟩ := of_decide_eq_true hcheck
  have hres : ∀ i, c.rest i = .ret ((c.value? i).get (hdone i)) := fun i =>
    Config.rest_of_value? (Option.some_get (hdone i)).symm
  have hsock : ∀ i, (twoAddsOneDel i).conf.groutSocketPath = defaultSocketPath := by decide
  obtain ⟨-, -, -, hserial⟩ := calls_serializable hsock hsteps
  obtain ⟨-, hseq, hrefused⟩ := hserial _ hres
  rw [horder] at hseq hrefused
  obtain ⟨err, herr⟩ := hrefused 2 (by decide)
  exact ⟨c, fun i => (c.value? i).get (hdone i), hsteps, horder, hlen, hseq,
    herr.elim (fun h => ⟨_, h⟩) fun h => ⟨_, h⟩⟩

end GroutCni
