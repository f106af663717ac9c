import GroutCni.Api.Client
import GroutCni.Cni.Config
import GroutCni.Cni.Handler
import GroutCni.Effect.Protocol

/-!
# The binary

`Dial` and the commands of the binary: each loads the configuration, connects to grout, runs its
handler, and closes the connection.  Whatever fails, and also where a handler panics, a command
keeps to `lifecycle` (`command_lifecycle`): the operations of a handler are performed on a
connection that grout has accepted and under the lock, and nothing is held when the command
exits.
-/

namespace GroutCni

open Effect

/-! ### Operations -/

/-- What the binary does: the operations on its connection, what it prints, and the operations of
a handler. -/
inductive MainOp where
  | connect (socketPath : GoString)
  | hello
  | close
  | print (result : Option Result)
  | handler (o : LockOp GoString Op)

/-- The answers to the operations of the binary. -/
def MainOp.Res : MainOp → Type
  | .connect _ => Except GoError Unit
  | .hello => Except GoError Unit
  | .close => Except GoError Unit
  | .print _ => Except GoError Unit
  | .handler o => LockRes GoString GoError Op.Res o

/-- Programs of the binary. -/
abbrev MainProg (α : Type) : Type := Program MainOp.Res α

/-- A handler as a part of the binary. -/
def ofHandler {α : Type} : LockedProg α → MainProg α
  | .ret a => .ret a
  | .call o k => .call (.handler o) fun r => ofHandler (k r)

/-- `net.Dial`. -/
def netDial (socketPath : GoString) : MainProg (Except GoError Unit) :=
  Program.perform (MainOp.connect socketPath)

/-- The handshake of the client. -/
def greet : MainProg (Except GoError Unit) :=
  Program.perform MainOp.hello

/-- `Close` of the client. -/
def closeClient : MainProg (Except GoError Unit) :=
  Program.perform MainOp.close

/-- `Print` of a result. -/
def printResult (result : Option Result) : MainProg (Except GoError Unit) :=
  Program.perform (MainOp.print result)

/-- The error that a command returns; `coded` is made by `types.NewError`. -/
inductive CmdError where
  | plain (err : GoError)
  | coded (code : Nat) (format : String) (args : List FmtArg) (err : GoError)

/-- How a command ends. -/
inductive Exit where
  | success
  | failure (err : CmdError)
  | panic

/-- `ErrPluginNotAvailable`. -/
def errPluginNotAvailable : Nat := 50

/-! ### Commands -/

/-- `Dial`. -/
def dial (socketPath : GoString) : MainProg (Except GoError Unit) := do
  match ← netDial socketPath with
  | .error err => return .error (.wrapf "connecting to grout: %w" [] err)
  | .ok () =>
  match ← greet with
  | .error err =>
      let _ ← closeClient
      return .error (.wrapf "grout handshake: %w" [] err)
  | .ok () => return .ok ()

/-- The error of a handler, as it is. -/
def returnReply : Reply → MainProg Exit
  | .ok _ => return .success
  | .error err => return .failure (.plain err)
  | .panic => return .panic

/-- The result of an ADD is printed. -/
def printReply : Reply → MainProg Exit
  | .ok result => do
      match ← printResult result with
      | .error err => return .failure (.plain err)
      | .ok () => return .success
  | .error err => return .failure (.plain (.wrapf "CNI ADD: %w" [] err))
  | .panic => return .panic

/-- A command: its handler on a new connection.  The connection is closed when the command
returns, and also when the handler panics. -/
def runHandler (parsed : Except GoError RawConf) (handler : PluginConf → LockedProg Reply)
    (finish : Reply → MainProg Exit) : MainProg Exit := do
  match loadConfig parsed with
  | .error err => return .failure (.plain (.wrapf "loading config: %w" [] err))
  | .ok conf =>
  match ← dial conf.groutSocketPath with
  | .error err => return .failure (.plain (.wrapf "connecting to grout: %w" [] err))
  | .ok () =>
  let reply ← ofHandler (handler conf)
  let exit ← finish reply
  let _ ← closeClient
  return exit

/-- `cmdAdd`. -/
def cmdAdd (parsed : Except GoError RawConf) (args : CmdArgs) : MainProg Exit :=
  runHandler parsed (handleAdd · args) printReply

/-- `cmdDel`. -/
def cmdDel (parsed : Except GoError RawConf) (args : CmdArgs) : MainProg Exit :=
  runHandler parsed (handleDel · args) returnReply

/-- `cmdCheck`. -/
def cmdCheck (parsed : Except GoError RawConf) (args : CmdArgs) : MainProg Exit :=
  runHandler parsed (handleCheck · args) returnReply

/-- `cmdGC`. -/
def cmdGC (parsed : Except GoError RawConf) (args : CmdArgs) : MainProg Exit :=
  runHandler parsed (handleGC · args) returnReply

/-- `cmdStatus`. -/
def cmdStatus (parsed : Except GoError RawConf) : MainProg Exit := do
  match loadConfig parsed with
  | .error err => return .failure (.plain (.wrapf "loading config: %w" [] err))
  | .ok conf =>
  match ← dial conf.groutSocketPath with
  | .error err =>
      return .failure (.coded errPluginNotAvailable "grout not reachable at %s: %v"
        [.str conf.groutSocketPath] err)
  | .ok () =>
  let _ ← closeClient
  return .success

/-- What the binary is invoked for. -/
inductive Verb where
  | handle (command : Command)
  | status
  deriving DecidableEq

/-- One invocation of the binary. -/
structure Invocation where
  verb : Verb
  parsed : Except GoError RawConf
  args : CmdArgs

/-- The functions that `main` registers. -/
def Invocation.program : Invocation → MainProg Exit
  | ⟨.handle .add, parsed, args⟩ => cmdAdd parsed args
  | ⟨.handle .del, parsed, args⟩ => cmdDel parsed args
  | ⟨.handle .check, parsed, args⟩ => cmdCheck parsed args
  | ⟨.handle .gc, parsed, args⟩ => cmdGC parsed args
  | ⟨.status, parsed, _⟩ => cmdStatus parsed

/-- What is made of the reply of a handler. -/
def Command.finish : Command → Reply → MainProg Exit
  | .add => printReply
  | _ => returnReply

theorem Invocation.program_handle (command : Command) (parsed : Except GoError RawConf)
    (args : CmdArgs) :
  Invocation.program ⟨.handle command, parsed, args⟩
    = runHandler parsed (fun conf => Call.program ⟨command, conf, args⟩) command.finish
  := by
  cases command <;> rfl

/-! ### The life of a command -/

/-- What a command holds. -/
inductive Stage where
  /-- Nothing. -/
  | offline
  /-- A connection that grout has not accepted. -/
  | connected
  /-- A connection that grout has refused. -/
  | refused
  /-- A connection that grout has accepted. -/
  | online
  /-- Also the lock file. -/
  | opened
  /-- Also the lock. -/
  | locked
  /-- Also the lock file, but not the lock any more. -/
  | unlocked
  deriving DecidableEq

/-- The stage after an answer. -/
def Stage.after {α : Type} (ok failed : Stage) : Except GoError α → Stage
  | .ok _ => ok
  | .error _ => failed

/-- Which operations a command may perform at each stage. -/
def lifecycle : Protocol MainOp.Res Stage
  | .offline, .connect _ => some (Stage.after .connected .offline)
  | .connected, .hello => some (Stage.after .online .refused)
  | .refused, .close => some fun _ => .offline
  | .online, .close => some fun _ => .offline
  | .online, .print _ => some fun _ => .online
  | .online, .handler (.openFile _) => some (Stage.after .opened .online)
  | .opened, .handler (.acquire _) => some (Stage.after .locked .unlocked)
  | .locked, .handler (.op _) => some fun _ => .locked
  | .locked, .handler (.release _) => some fun _ => .unlocked
  | .unlocked, .handler (.closeFile _) => some fun _ => .online
  | _, _ => none

theorem dial_follows (socketPath : GoString) :
  (dial socketPath).Follows lifecycle
    (fun r stage => stage = Stage.after .online .offline r) .offline
  := by
  refine ⟨_, rfl, ?_⟩
  rintro (err | ⟨⟩)
  · rfl
  · refine ⟨_, rfl, ?_⟩
    rintro (err | ⟨⟩)
    · exact ⟨_, rfl, fun _ => rfl⟩
    · rfl

theorem inside_follows (path : GoString) (q : Prog Reply) :
  (ofHandler (inside path q)).Follows lifecycle (fun _ stage => stage = .online) .locked
  := by
  induction q with
  | ret r => exact ⟨_, rfl, fun _ => ⟨_, rfl, fun _ => rfl⟩⟩
  | call o k ih => exact ⟨_, rfl, ih⟩

theorem program_follows (call : Call) :
  (ofHandler call.program).Follows lifecycle (fun _ stage => stage = .online) .online
  := by
  rw [call.program_eq]
  refine ⟨_, rfl, ?_⟩
  rintro (err | ⟨⟩)
  · rfl
  · refine ⟨_, rfl, ?_⟩
    rintro (err | ⟨⟩)
    · exact ⟨_, rfl, fun _ => rfl⟩
    · exact inside_follows _ call.body

theorem finish_follows (command : Command) (reply : Reply) :
  (command.finish reply).Follows lifecycle (fun _ stage => stage = .online) .online
  := by
  have hreturn : (returnReply reply).Follows lifecycle (fun _ stage => stage = .online)
      .online := by
    cases reply <;> rfl
  cases command with
  | add =>
      cases reply with
      | ok result =>
          refine ⟨_, rfl, ?_⟩
          rintro (err | ⟨⟩)
          · rfl
          · rfl
      | error err => rfl
      | panic => rfl
  | del | check | gc => exact hreturn

theorem Invocation.follows (i : Invocation) :
  i.program.Follows lifecycle (fun _ stage => stage = .offline) .offline
  := by
  obtain ⟨command | _, parsed, args⟩ := i
  · rw [Invocation.program_handle]
    unfold runHandler
    cases loadConfig parsed with
    | error err => rfl
    | ok conf =>
        apply (dial_follows conf.groutSocketPath).bind
        rintro (err | ⟨⟩) _ rfl
        · rfl
        · apply (program_follows _).bind
          rintro reply _ rfl
          apply (finish_follows command reply).bind
          rintro exit _ rfl
          exact ⟨_, rfl, fun _ => rfl⟩
  · unfold Invocation.program cmdStatus
    dsimp only
    cases loadConfig parsed with
    | error err => rfl
    | ok conf =>
        apply (dial_follows conf.groutSocketPath).bind
        rintro (err | ⟨⟩) _ rfl
        · rfl
        · exact ⟨_, rfl, fun _ => rfl⟩

/-- Whatever it is answered and wherever it is cut short, an invocation of the binary has kept to
its lifecycle; and when it exits, it holds nothing. -/
theorem command_lifecycle (i : Invocation) {S : Type} {T : Behaviour MainOp.Res S} {s s' : S}
    {q : MainProg Exit} {log : List (Event MainOp.Res)}
    (h : Reach (logged T) i.program (s, []) q (s', log)) :
  ∃ stage, lifecycle.run .offline log = some stage ∧ ∀ exit, q = .ret exit → stage = .offline
  := by
  obtain ⟨stage, hlog, hq⟩ := i.follows.reach h rfl
  refine ⟨stage, hlog, ?_⟩
  rintro exit rfl
  exact hq

/-- The log of a DEL that does not get the lock. -/
def lockedOut (sock : GoString) : List (Event MainOp.Res) :=
  [⟨.connect sock, .ok ()⟩, ⟨.hello, .ok ()⟩,
    ⟨.handler (.openFile (lockPathForSocket sock)), .ok ()⟩,
    ⟨.handler (.acquire (lockPathForSocket sock)), .error (.other "timeout")⟩,
    ⟨.handler (.closeFile (lockPathForSocket sock)), ()⟩, ⟨.close, .ok ()⟩]

/-- The log of a DEL that finds no port and releases the reservation. -/
def nothingToDelete (conf : PluginConf) (args : CmdArgs) : List (Event MainOp.Res) :=
  [⟨.connect conf.groutSocketPath, .ok ()⟩, ⟨.hello, .ok ()⟩,
    ⟨.handler (.openFile (lockPathForSocket conf.groutSocketPath)), .ok ()⟩,
    ⟨.handler (.acquire (lockPathForSocket conf.groutSocketPath)), .ok ()⟩,
    ⟨.handler (.op (.interfaceList {})), .ok []⟩, ⟨.handler (.op (.ipamDel conf args)), .ok ()⟩,
    ⟨.handler (.release (lockPathForSocket conf.groutSocketPath)), ()⟩,
    ⟨.handler (.closeFile (lockPathForSocket conf.groutSocketPath)), ()⟩, ⟨.close, .ok ()⟩]

/-- A DEL that does not get the lock closes the lock file and its connection; one that does lists
the interfaces and releases the reservation before it releases the lock. -/
theorem command_lifecycle_lockedOut :
  lifecycle.run .offline (lockedOut defaultSocketPath) = some .offline ∧
  ∃ conf, loadConfig (.ok { name := lit "net", ipamType := lit "host-local" }) = .ok conf ∧
    lifecycle.run .offline
      (nothingToDelete conf { containerID := lit "c", ifName := lit "net1" }) = some .offline
  := by
  let i : Invocation := ⟨.handle .del, .ok { name := lit "net", ipamType := lit "host-local" },
    { containerID := lit "c", ifName := lit "net1" }⟩
  let T : Behaviour MainOp.Res Unit := fun _ _ _ _ => True
  have hcall : ∀ {o : MainOp} {k : o.Res → MainProg Exit} {q : MainProg Exit} (r : o.Res)
      {log log' : List (Event MainOp.Res)},
      Reach (logged T) (k r) ((), log ++ [⟨o, r⟩]) q ((), log') →
        Reach (logged T) (.call o k) ((), log) q ((), log') := by
    intro o k q r log log' h
    have ht : logged T ((), log) o r ((), log ++ [⟨o, r⟩]) := ⟨trivial, rfl⟩
    exact .call ht h
  have hlifecycle : ∀ exit {log}, Reach (logged T) i.program ((), []) (.ret exit) ((), log) →
      lifecycle.run .offline log = some .offline := by
    intro exit log hreach
    obtain ⟨stage, hlog, hstage⟩ := command_lifecycle i hreach
    rw [hlog, hstage exit rfl]
  refine ⟨?_, _, rfl, ?_⟩
  · apply hlifecycle (.failure (.plain (.wrapf "acquiring lock: %w" [] (.other "timeout"))))
    apply hcall (o := .connect _) (.ok ())
    apply hcall (o := .hello) (.ok ())
    apply hcall (o := .handler (.openFile _)) (.ok ())
    apply hcall (o := .handler (.acquire _)) (.error (.other "timeout"))
    apply hcall (o := .handler (.closeFile _)) ()
    apply hcall (o := .close) (.ok ())
    exact .refl _ _
  · apply hlifecycle .success
    apply hcall (o := .connect _) (.ok ())
    apply hcall (o := .hello) (.ok ())
    apply hcall (o := .handler (.openFile _)) (.ok ())
    apply hcall (o := .handler (.acquire _)) (.ok ())
    apply hcall (o := .handler (.op (.interfaceList {}))) (.ok [])
    apply hcall (o := .handler (.op (.ipamDel _ _))) (.ok ())
    apply hcall (o := .handler (.release _)) ()
    apply hcall (o := .handler (.closeFile _)) ()
    apply hcall (o := .close) (.ok ())
    exact .refl _ _

end GroutCni
