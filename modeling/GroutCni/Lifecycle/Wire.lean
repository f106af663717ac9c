import GroutCni.Cni.Main
import GroutCni.Node.History
import GroutCni.Node.Script
import GroutCni.Handlers.OverWire
import GroutCni.Handlers.Reference

/-!
# Histories over the wire

A history over the wire is a sequence of invocations of the binary, each with a connection of its
own that may be refused, fail in the handshake, or break at any byte; of invocations that are
killed; and of restarts of grout.  It refines a history of the node in which any call may fail or
be lost (`wireHistory_refines`): an invocation that does not come to its handler changes nothing,
and one that does is a call of the node.
-/

namespace GroutCni

open Effect Wire Api

section

variable {σ : Type}

/-! ### Commands over the wire -/

/-- A client with a new connection. -/
def Client.dialled (s : σ) (writes bytes : Nat) : Client (Line (σ × Bytes)) :=
  ⟨0, ⟨(s, []), writes, bytes⟩, []⟩

/-- A client without a connection: nothing gets through. -/
def Client.offline (s : σ) : Client (Line (σ × Bytes)) := Client.dialled s 0 0

/-- The operations of the binary over the wire. -/
def CommandWire (srv : Server σ) (T : Behaviour Op.Res σ) :
    Behaviour MainOp.Res (Client (Line (σ × Bytes)))
  | c, .connect _, r, c' =>
      (∃ err, r = .error err) ∧ c' = c ∨
        r = .ok () ∧ ∃ writes bytes, c' = Client.dialled c.server writes bytes
  | c, .hello, r, c' => Api.hello.interp (Client.handler srv.peer.cut) c = (r, c')
  | c, .close, _, c' => c' = Client.offline c.server
  | c, .print _, _, c' => c' = c
  | c, .handler o, r, c' => Solo (OverWire srv T) true c o r c'

/-- The operations of the binary on the node. -/
def CommandNode (P : Policy Op) : Behaviour MainOp.Res World
  | w, .handler o, r, w' => Solo (Env P) true w o r w'
  | w, .connect _, _, w' => w' = w
  | w, .hello, _, w' => w' = w
  | w, .close, _, w' => w' = w
  | w, .print _, _, w' => w' = w

/-- The messages of an operation say what it asks for. -/
def MainOp.WireSafe : MainOp → Prop
  | .handler (.op o) => o.WireSafe
  | _ => True

variable {srv : Server σ} {T : Behaviour Op.Res σ} {P : Policy Op} {view : σ → World}
  {c c' : Client (Line (σ × Bytes))} {w : World}

theorem Client.dialled_idle (s : σ) (writes bytes : Nat) :
  (Client.dialled s writes bytes).Idle
  := ⟨rfl, .inr rfl⟩

/-- The handshake changes nothing. -/
theorem Client.Shows.hello (h : Realizes srv T P view) (hc : c.Shows view w)
    {r : Except GoError Unit} (hstep : Api.hello.interp (Client.handler srv.peer.cut) c = (r, c')) :
  c'.Shows view w
  := by
  obtain ⟨r', w₁, hrun, rfl, hidle, rfl⟩ :=
    (program_matches .hello).run (messages_simulated h) ⟨hc.idle, rfl⟩
      (run_behaviour_iff.mpr hstep)
  obtain ⟨r'', henv, -⟩ := run_tell hrun
  have hview : view c'.server = view c.server := by
    rcases henv.eq_or_eff with hsame | ⟨v, hv⟩
    · exact hsame
    · exact hv
  refine ⟨hidle, ?_⟩
  rw [hview]
  exact hc.shown

/-- An operation of the binary over the wire is one on the node. -/
theorem CommandWire.step (h : Realizes srv T P view) (hP : Faults Policy.mayLose P) {o : MainOp}
    {r : o.Res} (hsafe : o.WireSafe) (hc : c.Shows view w) (hstep : CommandWire srv T c o r c') :
  ∃ w', CommandNode P w o r w' ∧ c'.Shows view w'
  := by
  cases o with
  | connect socketPath =>
      rcases hstep with ⟨-, rfl⟩ | ⟨-, writes, bytes, rfl⟩
      · exact ⟨w, rfl, hc⟩
      · exact ⟨w, rfl, Client.dialled_idle _ _ _, hc.shown⟩
  | hello => exact ⟨w, rfl, hc.hello h hstep⟩
  | close =>
      cases hstep
      exact ⟨w, rfl, Client.dialled_idle _ _ _, hc.shown⟩
  | print result =>
      cases hstep
      exact ⟨w, rfl, hc⟩
  | handler o =>
      cases o with
      | openFile path | acquire path =>
          obtain ⟨rfl, hr⟩ := hstep
          exact ⟨w, ⟨rfl, hr⟩, hc⟩
      | release path | closeFile path =>
          cases hstep
          exact ⟨w, rfl, hc⟩
      | op o => exact OverWire.step h hP hsafe hc hstep

/-! ### What an invocation sends -/

/-- The call that an invocation makes, if its configuration is accepted. -/
def Invocation.call? : Invocation → Option Call
  | ⟨.handle command, parsed, args⟩ =>
      (loadConfig parsed).toOption.map fun conf => ⟨command, conf, args⟩
  | ⟨.status, _, _⟩ => none

theorem dial_uses {Q : MainOp → Prop} {socketPath : GoString} (hconnect : Q (.connect socketPath))
    (hhello : Q .hello) (hclose : Q .close) :
  (dial socketPath).Uses Q
  := by
  refine ⟨hconnect, ?_⟩
  rintro (err | ⟨⟩)
  · trivial
  · refine ⟨hhello, ?_⟩
    rintro (err | ⟨⟩)
    · exact ⟨hclose, fun _ => trivial⟩
    · trivial

theorem finish_uses {Q : MainOp → Prop} (hprint : ∀ result, Q (.print result))
    (command : Command) (reply : Reply) :
  (command.finish reply).Uses Q
  := by
  have hreturn : (returnReply reply).Uses Q := by
    cases reply <;> trivial
  cases command with
  | add =>
      cases reply with
      | ok result =>
          refine ⟨hprint result, ?_⟩
          rintro (err | ⟨⟩)
          · trivial
          · trivial
      | error err => trivial
      | panic => trivial
  | del | check | gc => exact hreturn

theorem inside_uses {path : GoString} {q : Prog Reply} (h : q.Uses Op.WireSafe) :
  (ofHandler (inside path q)).Uses MainOp.WireSafe
  := by
  induction q with
  | ret r => exact ⟨trivial, fun _ => ⟨trivial, fun _ => trivial⟩⟩
  | call o k ih => exact ⟨h.1, fun r => ih r (h.2 r)⟩

theorem program_uses {call : Call} (h : call.Sendable) :
  (ofHandler call.program).Uses MainOp.WireSafe
  := by
  rw [call.program_eq]
  refine ⟨trivial, ?_⟩
  rintro (err | ⟨⟩)
  · trivial
  · refine ⟨trivial, ?_⟩
    rintro (err | ⟨⟩)
    · exact ⟨trivial, fun _ => trivial⟩
    · exact inside_uses ((body_performs call).mono fun _ => h.wireSafe)

theorem Invocation.uses {i : Invocation} (h : ∀ call ∈ i.call?, call.Sendable) :
  i.program.Uses MainOp.WireSafe
  := by
  obtain ⟨command | _, parsed, args⟩ := i
  · rw [Invocation.program_handle]
    unfold runHandler
    cases hconf : loadConfig parsed with
    | error err => trivial
    | ok conf =>
        have hcall : Call.Sendable ⟨command, conf, args⟩ := by
          apply h
          rw [Invocation.call?, hconf]
          rfl
        apply (dial_uses (by trivial) (by trivial) (by trivial)).bind
        rintro (err | ⟨⟩)
        · trivial
        · apply (program_uses hcall).bind
          intro reply
          apply (finish_uses (fun _ => trivial) command reply).bind
          intro exit
          exact ⟨trivial, fun _ => trivial⟩
  · unfold Invocation.program cmdStatus
    dsimp only
    cases loadConfig parsed with
    | error err => trivial
    | ok conf =>
        apply (dial_uses (by trivial) (by trivial) (by trivial)).bind
        rintro (err | ⟨⟩)
        · trivial
        · exact ⟨trivial, fun _ => trivial⟩

end

/-! ### Commands on the node -/

/-- The exits that a command may make of the reply of its handler. -/
def Command.Exits (command : Command) (reply : Reply) (exit : Exit) : Prop :=
  match reply with
  | .ok _ => exit = .success ∨ command = .add ∧ ∃ err, exit = .failure err
  | .error _ => ∃ err, exit = .failure err
  | .panic => exit = .panic

section

variable {P : Policy Op} {w w' : World}

/-- The node has not changed, or the handler of the invocation has come so far. -/
def Invocation.Reached (P : Policy Op) (i : Invocation) (w w' : World) : Prop :=
  w' = w ∨ ∃ call ∈ i.call?, ∃ q, Reach (Solo (Env P) true) call.program w q w'

/-- The invocation has failed or is about the status, and the node has not changed; or its handler
has run. -/
def Invocation.Exited (P : Policy Op) (i : Invocation) (w : World) (exit : Exit) (w' : World) :
    Prop :=
  w' = w ∧ (i.verb = .status ∨ ∃ err, exit = .failure err) ∨
    ∃ call ∈ i.call?, ∃ r, Run (Solo (Env P) true) call.program w r w' ∧
      call.command.Exits r exit

/-- A handler in the binary runs as it does on its own. -/
theorem wpc_ofHandler {α : Type} {C : World → Prop} {p : LockedProg α} {Q : α → World → Prop}
    (hC : ∀ q w', Reach (Solo (Env P) true) p w q w' → C w')
    (hQ : ∀ a w', Run (Solo (Env P) true) p w a w' → Q a w') :
  wpc (CommandNode P) C (ofHandler p) Q w
  := by
  have h : wpc (Solo (Env P) true) C p Q w := wpc_iff.mpr ⟨hC, hQ⟩
  clear hC hQ
  induction p generalizing w with
  | ret a => exact h
  | call o k ih => exact ⟨h.1, fun r w' ht => ih r (h.2 r w' ht)⟩

/-- A part of the binary that runs no handler changes nothing. -/
theorem wpc_of_no_handler {α : Type} {C : World → Prop} {p : MainProg α}
    (hp : p.Uses fun o => ∀ h, o ≠ .handler h) (hC : C w) :
  wpc (CommandNode P) C p (fun _ w' => w' = w) w
  := by
  have hkeep := hp.wpc (T := CommandNode P) (I := fun w' => w' = w) (s := w) ?_ rfl
  · apply wpc_mono hkeep
    · rintro _ rfl
      exact hC
    · intro _ _ h
      exact h
  · rintro _ o r w' ho hstep rfl
    cases o with
    | handler o => exact absurd rfl (ho o)
    | _ => exact hstep

theorem wpc_dial {C : World → Prop} (socketPath : GoString) (hC : C w) :
  wpc (CommandNode P) C (dial socketPath) (fun _ w' => w' = w) w
  := by
  apply wpc_of_no_handler _ hC
  exact dial_uses (by simp) (by simp) (by simp)

/-- What a command makes of a reply. -/
theorem wpc_finish {C : World → Prop} (command : Command) (reply : Reply) (hC : C w) :
  wpc (CommandNode P) C (command.finish reply)
    (fun exit w' => w' = w ∧ command.Exits reply exit) w
  := by
  have hreturn : wpc (CommandNode P) C (returnReply reply)
      (fun exit w' => w' = w ∧ command.Exits reply exit) w := by
    cases reply with
    | ok result => exact ⟨hC, rfl, .inl rfl⟩
    | error err => exact ⟨hC, rfl, _, rfl⟩
    | panic => exact ⟨hC, rfl, rfl⟩
  cases command with
  | add =>
      cases reply with
      | ok result =>
          refine ⟨hC, ?_⟩
          rintro (err | ⟨⟩) _ rfl
          · exact ⟨hC, rfl, .inr ⟨rfl, _, rfl⟩⟩
          · exact ⟨hC, rfl, .inl rfl⟩
      | error err => exact ⟨hC, rfl, _, rfl⟩
      | panic => exact ⟨hC, rfl, rfl⟩
  | del | check | gc => exact hreturn

/-- Closing the connection changes nothing. -/
theorem wpc_close {α : Type} {C : World → Prop} {Q : α → World → Prop} {a : α} (hC : C w)
    (hQ : Q a w) :
  wpc (CommandNode P) C (closeClient >>= fun _ => pure a) Q w
  := by
  refine ⟨hC, ?_⟩
  rintro _ _ rfl
  exact ⟨hC, hQ⟩

/-- On the node, an invocation does nothing or runs its handler. -/
theorem wpc_program (i : Invocation) :
  wpc (CommandNode P) (i.Reached P w) i.program (i.Exited P w) w
  := by
  have hstart : i.Reached P w w := .inl rfl
  obtain ⟨command | _, parsed, args⟩ := i
  · rw [Invocation.program_handle]
    unfold runHandler
    cases hconf : loadConfig parsed with
    | error err => exact ⟨hstart, .inl ⟨rfl, .inr ⟨_, rfl⟩⟩⟩
    | ok conf =>
        have hcall : (⟨command, conf, args⟩ : Call)
            ∈ Invocation.call? ⟨.handle command, parsed, args⟩ := by
          rw [Invocation.call?, hconf]
          rfl
        apply (wpc_bind _ _ _ _).mpr
        apply wpc_mono (wpc_dial conf.groutSocketPath hstart) fun _ h => h
        rintro (err | ⟨⟩) w₁ hw <;> rw [hw]
        · exact ⟨hstart, .inl ⟨rfl, .inr ⟨_, rfl⟩⟩⟩
        · apply (wpc_bind _ _ _ _).mpr
          apply wpc_ofHandler
          · intro q w' hreach
            exact .inr ⟨_, hcall, q, hreach⟩
          · intro reply w' hrun
            have hC : Invocation.Reached P ⟨.handle command, parsed, args⟩ w w' :=
              .inr ⟨_, hcall, _, hrun.reach⟩
            apply (wpc_bind _ _ _ _).mpr
            apply wpc_mono (wpc_finish command reply hC) fun _ h => h
            rintro exit _ ⟨rfl, hexit⟩
            exact wpc_close hC (.inr ⟨_, hcall, reply, hrun, hexit⟩)
  · unfold Invocation.program cmdStatus
    dsimp only
    cases loadConfig parsed with
    | error err => exact ⟨hstart, .inl ⟨rfl, .inl rfl⟩⟩
    | ok conf =>
        apply (wpc_bind _ _ _ _).mpr
        apply wpc_mono (wpc_dial conf.groutSocketPath hstart) fun _ h => h
        rintro (err | ⟨⟩) _ rfl
        · exact ⟨hstart, .inl ⟨rfl, .inl rfl⟩⟩
        · exact wpc_close hstart (.inl ⟨rfl, .inl rfl⟩)

end

/-! ### Histories -/

/-- What happens over the wire. -/
inductive WireEvent where
  | exited (i : Invocation) (exit : Exit)
  | killed (i : Invocation)
  | restarted

/-- The invocation of an event. -/
def WireEvent.invocation? : WireEvent → Option Invocation
  | .exited i _ => some i
  | .killed i => some i
  | .restarted => none

/-- An event over the wire and the events of the node that it stands for: none if the invocation
did not come to its handler. -/
inductive WireEvent.Stands : WireEvent → List NodeEvent → Prop
  | status {i : Invocation} {exit : Exit} : i.verb = .status → Stands (.exited i exit) []
  | failed {i : Invocation} {err : CmdError} : Stands (.exited i (.failure err)) []
  | returned {i : Invocation} {exit : Exit} {call : Call} {r : Reply} : call ∈ i.call? →
      call.command.Exits r exit → Stands (.exited i exit) [.returned call r]
  | unhandled {i : Invocation} : Stands (.killed i) []
  | killed {i : Invocation} {call : Call} : call ∈ i.call? → Stands (.killed i) [.killed call]
  | restarted : Stands .restarted [.restarted]

section

variable {σ : Type}

/-- One event over the wire. -/
inductive WireStep (srv : Server σ) (T : Behaviour Op.Res σ) (restart : σ → σ → Prop) :
    σ → WireEvent → σ → Prop
  | exited {i : Invocation} {exit : Exit} {s : σ} {c : Client (Line (σ × Bytes))} :
      Run (CommandWire srv T) i.program (Client.offline s) exit c →
      WireStep srv T restart s (.exited i exit) c.server
  | killed {i : Invocation} {q : MainProg Exit} {s : σ} {c : Client (Line (σ × Bytes))} :
      Reach (CommandWire srv T) i.program (Client.offline s) q c →
      WireStep srv T restart s (.killed i) c.server
  | restarted {s s' : σ} : restart s s' → WireStep srv T restart s .restarted s'

/-- From `s₀` the events may lead to `s`. -/
inductive WireHistory (srv : Server σ) (T : Behaviour Op.Res σ) (restart : σ → σ → Prop) (s₀ : σ) :
    List WireEvent → σ → Prop
  | start : WireHistory srv T restart s₀ [] s₀
  | step {es : List WireEvent} {e : WireEvent} {s s' : σ} :
      WireHistory srv T restart s₀ es s → WireStep srv T restart s e s' →
      WireHistory srv T restart s₀ (es ++ [e]) s'

variable {srv : Server σ} {T : Behaviour Op.Res σ} {P : Policy Op} {view : σ → World}
  {restart : σ → σ → Prop} {w : World}

/-- An event over the wire is what it stands for on the node. -/
theorem WireStep.refines (h : Realizes srv T P view) (hP : Faults Policy.mayLose P)
    (hrestart : ∀ s s', restart s s' → ∃ links, view s' = { (view s).restart with links })
    {s s' : σ} {e : WireEvent} (hs : Shown (view s) w)
    (hsend : ∀ i ∈ e.invocation?, ∀ call ∈ i.call?, call.Sendable)
    (hstep : WireStep srv T restart s e s') :
  ∃ es w', e.Stands es ∧ Shown (view s') w' ∧
    (es = [] ∧ w' = w ∨ ∃ e', es = [e'] ∧ NodeStep (fun _ => P) w e' w')
  := by
  have hoffline : (Client.offline s).Shows view w := ⟨Client.dialled_idle _ _ _, hs⟩
  cases hstep with
  | @exited i exit _ c hrun =>
      obtain ⟨w', hrun', hc⟩ := (Invocation.uses (hsend i rfl)).run_simulated
        (fun _ _ _ _ _ hsafe hc hstep => hstep.step h hP hsafe hc) hoffline hrun
      rcases hrun'.wpc (wpc_program i) with
        ⟨rfl, hstatus | ⟨err, rfl⟩⟩ | ⟨call, hcall, r, hr, hexit⟩
      · exact ⟨[], w', .status hstatus, hc.shown, .inl ⟨rfl, rfl⟩⟩
      · exact ⟨[], w', .failed, hc.shown, .inl ⟨rfl, rfl⟩⟩
      · exact ⟨_, w', .returned hcall hexit, hc.shown, .inr ⟨_, rfl, .returned hr⟩⟩
  | @killed i q _ c hreach =>
      obtain ⟨w', hreach', hc⟩ := (Invocation.uses (hsend i rfl)).reach_simulated
        (fun _ _ _ _ _ hsafe hc hstep => hstep.step h hP hsafe hc) hoffline hreach
      rcases hreach'.wpc (wpc_program i) with rfl | ⟨call, hcall, q', hq⟩
      · exact ⟨[], w', .unhandled, hc.shown, .inl ⟨rfl, rfl⟩⟩
      · exact ⟨_, w', .killed hcall, hc.shown, .inr ⟨_, rfl, .killed hq⟩⟩
  | restarted hr =>
      obtain ⟨links, hview⟩ := hrestart s s' hr
      refine ⟨_, { w.restart with links }, .restarted, ?_, .inr ⟨_, rfl, .restarted w links⟩⟩
      rw [hview]
      exact ⟨⟨rfl, fun x => by simp [World.restart, Grout.empty]⟩, hs.reservations, hs.sockets, rfl⟩

/-- A history over the wire refines a history of the node in which any call may fail or be
lost. -/
theorem wireHistory_refines (h : Realizes srv T P view) (hP : Faults Policy.mayLose P)
    (hrestart : ∀ s s', restart s s' → ∃ links, view s' = { (view s).restart with links })
    {s₀ s : σ} {w₀ : World} {es : List WireEvent} (hs : Shown (view s₀) w₀)
    (hsend : ∀ e ∈ es, ∀ i ∈ e.invocation?, ∀ call ∈ i.call?, call.Sendable)
    (hes : WireHistory srv T restart s₀ es s) :
  ∃ ess w, List.Forall₂ WireEvent.Stands es ess ∧
    History (fun _ => P) Discipline.any w₀ ess.flatten w ∧ Shown (view s) w
  := by
  induction hes with
  | start => exact ⟨[], w₀, .nil, .start, hs⟩
  | @step es e s s' _ hstep ih =>
      obtain ⟨ess, w, hstands, hhistory, hshown⟩ :=
        ih fun e he => hsend e (List.mem_append_left _ he)
      obtain ⟨es', w', hstand, hshown', hnode⟩ := hstep.refines h hP hrestart hshown
        (hsend e (by simp))
      refine ⟨ess ++ [es'], w', ?_, ?_, hshown'⟩
      · exact List.rel_append hstands (.cons hstand .nil)
      · rw [List.flatten_append, List.flatten_singleton]
        rcases hnode with ⟨rfl, rfl⟩ | ⟨e', rfl, hnode⟩
        · rw [List.append_nil]
          exact hhistory
        · exact .step hhistory trivial hnode

end

/-! ### A node over the wire -/

/-- An operation of a node turns out as chosen, if its interfaces can still be listed. -/
def Node.act (x : Choice) (n : Node) (o : Op) : Option (o.Res × Node) :=
  (n.world.act Policy.mayLose x o).bind fun y =>
    if h : ∀ i ∈ y.2.grout.ifaces, IsIfaceName i.name then some (y.1, ⟨y.2, h⟩) else none

theorem Node.act_sound {x : Choice} {n n' : Node} {o : Op} {r : o.Res}
    (h : n.act x o = some (r, n')) :
  Env Policy.mayLose n.world o r n'.world
  := by
  obtain ⟨y, hact, hy⟩ := Option.bind_eq_some_iff.mp h
  split at hy
  case isTrue =>
    cases hy
    exact World.act_sound _ _ _ _ _ hact
  case isFalse => cases hy

/-- The client performs the grout operations, and the others turn out as chosen. -/
def OverWire.act (x : Choice) (c : Client (Line (Node × Bytes))) (o : Op) :
    Option (o.Res × Client (Line (Node × Bytes))) :=
  match o.method with
  | some p => some (p.interp (Client.handler (serverOf nodeService).peer.cut) c)
  | none => (c.server.act x o).map fun y => (y.1, c.withServer y.2)

theorem OverWire.act_sound {x : Choice} {c c' : Client (Line (Node × Bytes))} {o : Op} {r : o.Res}
    (h : OverWire.act x c o = some (r, c')) :
  OverWire (serverOf nodeService) (Node.Other Policy.mayLose) c o r c'
  := by
  unfold OverWire
  unfold OverWire.act at h
  cases hmethod : o.method with
  | some p =>
      rw [hmethod] at h
      exact Option.some.inj h
  | none =>
      rw [hmethod] at h
      obtain ⟨y, hact, hy⟩ := Option.map_eq_some_iff.mp h
      cases hy
      exact ⟨y.2, ⟨isGrout_of_method hmethod, Node.act_sound hact⟩, rfl⟩

/-- What becomes of an operation of the binary on a node: connections last, and the operations that
do not go over the wire turn out as chosen. -/
def CommandWire.act (x : Choice) (c : Client (Line (Node × Bytes))) :
    (o : MainOp) → Option (o.Res × Client (Line (Node × Bytes)))
  | .connect _ => some (.ok (), Client.dialled c.server 64 4096)
  | .hello => some (Api.hello.interp (Client.handler (serverOf nodeService).peer.cut) c)
  | .close => some (.ok (), Client.offline c.server)
  | .print _ => some (.ok (), c)
  | .handler (.openFile _) => some (.ok (), c)
  | .handler (.acquire _) => some (.ok (), c)
  | .handler (.release _) => some ((), c)
  | .handler (.closeFile _) => some ((), c)
  | .handler (.op o) => OverWire.act x c o

theorem CommandWire.act_sound (x : Choice) (c : Client (Line (Node × Bytes))) (o : MainOp)
    (r : o.Res) (c' : Client (Line (Node × Bytes))) (h : CommandWire.act x c o = some (r, c')) :
  CommandWire (serverOf nodeService) (Node.Other Policy.mayLose) c o r c'
  := by
  cases o with
  | connect socketPath =>
      cases h
      exact .inr ⟨rfl, 64, 4096, rfl⟩
  | hello => exact Option.some.inj h
  | close | print =>
      cases h
      rfl
  | handler o =>
      cases o with
      | openFile | acquire =>
          cases h
          exact ⟨rfl, .inr rfl⟩
      | release | closeFile =>
          cases h
          rfl
      | op o => exact OverWire.act_sound h

/-- Grout restarts. -/
def Node.restart (n : Node) : Node where
  world := n.world.restart
  names := by
    intro i hi
    cases hi

/-- An ADD for a pod on a network with the defaults. -/
def addOf (containerID : String) : Invocation where
  verb := .handle .add
  parsed := .ok { name := lit "net", ipamType := lit "host-local" }
  args := pod containerID

theorem addOf_sendable (containerID : String) :
  ∀ call ∈ (addOf containerID).call?, call.Sendable
  := by
  rintro call ⟨⟩
  constructor
  · have hbridge : IsIfaceName (bridgeNameFor (lit "net")) := by decide +kernel
    exact hbridge
  · have hpath : ∀ b ∈ defaultSocketPath, b ≠ 0 ∧ b ≠ 44 := by decide +kernel
    exact hpath

/-- An ADD exits, grout restarts, and another ADD is killed when it has made its port. -/
theorem wireHistory_refines_killed :
  ∃ n₁ n₂ ess w,
    WireStep (serverOf nodeService) (Node.Other Policy.mayLose)
      (fun n n' => n' = n.restart) Node.initial (.exited (addOf "a") .success) n₁ ∧
    n₁.world.grout.ifaces.length = 2 ∧
    WireStep (serverOf nodeService) (Node.Other Policy.mayLose)
      (fun n n' => n' = n.restart) n₁.restart (.killed (addOf "b")) n₂ ∧
    n₂.world.grout.ifaces.length = 2 ∧
    List.Forall₂ WireEvent.Stands
      [.exited (addOf "a") .success, .restarted, .killed (addOf "b")] ess ∧
    History (fun _ => Policy.mayLose) Discipline.any World.initial (List.flatten ess) w ∧
    Shown n₂.world w
  := by
  have hexec : (exec CommandWire.act
      [{}, {}, {}, {}, oneAddress 10, {}, {}, {}, {}, {}, {}, {}, {}] (addOf "a").program
      (Client.offline Node.initial)).any (fun x => decide (
    (match x.1 with | .success => true | _ => false) = true ∧
    x.2.server.world.grout.ifaces.length = 2 ∧
    (advance CommandWire.act [{}, {}, {}, {}, oneAddress 11, {}, {}, {}, {}] (addOf "b").program
      (Client.offline x.2.server.restart)).any (fun y =>
        y.2.server.world.grout.ifaces.length = 2) = true)) = true := by
    decide +kernel
  obtain ⟨exit, c₁, hrun, hcheck⟩ := exec_exists CommandWire.act_sound hexec
  obtain ⟨hexit, hlen₁, hadvance⟩ := of_decide_eq_true hcheck
  obtain ⟨q, c₂, hreach, hlen₂⟩ := advance_exists CommandWire.act_sound hadvance
  obtain rfl : exit = .success := by
    cases exit <;> first | rfl | cases hexit
  have hadd : WireStep (serverOf nodeService) (Node.Other Policy.mayLose)
      (fun n n' => n' = n.restart) Node.initial (.exited (addOf "a") .success) c₁.server :=
    .exited hrun
  have hkilled : WireStep (serverOf nodeService) (Node.Other Policy.mayLose)
      (fun n n' => n' = n.restart) c₁.server.restart (.killed (addOf "b")) c₂.server :=
    .killed hreach
  have hwire : WireHistory (serverOf nodeService) (Node.Other Policy.mayLose)
      (fun n n' => n' = n.restart) Node.initial
      [.exited (addOf "a") .success, .restarted, .killed (addOf "b")] c₂.server :=
    .step (.step (.step .start hadd) (.restarted rfl)) hkilled
  have hinitial : Shown Node.initial.world World.initial :=
    ⟨⟨rfl, fun x => by simp [Node.initial, World.initial, Grout.empty]⟩, rfl, rfl, rfl⟩
  obtain ⟨ess, w, hstands, hhistory, hshown⟩ := wireHistory_refines
    (nodeServer_realizes Policy.mayLose) ⟨fun _ _ _ _ _ => rfl, fun _ => rfl⟩
    (fun n n' h => ⟨n.world.links, by rw [h]; rfl⟩) hinitial
    (by
      intro e he i hi
      simp only [List.mem_cons, List.not_mem_nil, or_false] at he
      rcases he with rfl | rfl | rfl
      · cases hi
        exact addOf_sendable "a"
      · cases hi
      · cases hi
        exact addOf_sendable "b")
    hwire
  exact ⟨c₁.server, c₂.server, ess, w, hadd, hlen₁, hkilled, of_decide_eq_true hlen₂, hstands,
    hhistory, hshown⟩

end GroutCni
