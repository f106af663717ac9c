import GroutCni.Api.Connection
import GroutCni.Cni.Identity
import GroutCni.Handlers.OverClient
import GroutCni.Handlers.Performs
import GroutCni.Node.Messages

/-!
# Handlers over a connection that breaks

`OverWire` lets the client perform the grout operations of a handler over a connection that may
break after any write and at any byte of an answer.  If the server behind it does what messages
say (`Realizes`), then a handler over the wire does only what it may do on the node when any call
may fail or be lost (`overWire_run`, `overWire_reach`): everything that is proved of the handlers
under these faults holds of the bytes.
-/

namespace GroutCni

open Effect Wire Api

/-! ### What a call sends -/

/-- What a call sends says what it asks for: the name of the bridge fits into its field, and the
path of grout's socket has no byte that ends a path in devargs. -/
structure Call.Sendable (c : Call) : Prop where
  bridge : IsIfaceName c.conf.bridge
  socket : ∀ b ∈ c.conf.groutSocketPath, b ≠ 0 ∧ b ≠ 0x2c

/-- No character of a port name ends a path in devargs. -/
theorem portName_bytes (a : Attachment) :
  ∀ b ∈ a.portName, b ≠ 0 ∧ b ≠ 0x2c
  := by
  intro b hb
  refine ⟨fun h => (isIfaceName_portName a).2 (h ▸ hb), ?_⟩
  rintro rfl
  have hname : a.portName = portPrefix ++ portSuffix (Sha256.sum256 a.hashed) := by
    unfold Attachment.portName groutPortName
    exact portNameWith_eq Sha256.sum256 a
  rw [hname] at hb
  rcases List.mem_append.mp hb with hb | hb
  · revert hb
    decide
  · have hchar : IsSuffixChar 0x2c := isSuffixChar_of_mem hb
    revert hchar
    decide

/-- The path of a vhost-user socket has no byte that ends a path in devargs, if the path of
grout's socket has none. -/
theorem vhostSocketPath_bytes {sock : GoString} (hsock : ∀ b ∈ sock, b ≠ 0 ∧ b ≠ 0x2c)
    (a : Attachment) :
  ∀ b ∈ vhostSocketPath sock a.portName, b ≠ 0 ∧ b ≠ 0x2c
  := by
  intro b hb
  have hplain : b = Filepath.slash ∨ b = 0x2e → b ≠ 0 ∧ b ≠ 0x2c := by
    rintro (rfl | rfl) <;> decide
  rcases Filepath.mem_join hb with ⟨e, he, hbe⟩ | hb
  · simp only [List.mem_cons, List.not_mem_nil, or_false] at he
    rcases he with rfl | rfl | rfl
    · rcases Filepath.mem_dir hbe with hbe | hbe
      · exact hsock b hbe
      · exact hplain hbe
    · have hlit : ∀ b ∈ lit "vhost", b ≠ 0 ∧ b ≠ 0x2c := by decide +kernel
      exact hlit b hbe
    · rcases List.mem_append.mp hbe with hbe | hbe
      · exact portName_bytes a b hbe
      · have hlit : ∀ b ∈ lit ".sock", b ≠ 0 ∧ b ≠ 0x2c := by decide +kernel
        exact hlit b hbe
  · exact hplain hb

/-- The messages of a call say what it asks for. -/
theorem Call.Sendable.wireSafe {c : Call} (h : c.Sendable) {o : Op} (ho : c.Performs o) :
  o.WireSafe
  := by
  cases ho with
  | addBridge conf args =>
      refine ⟨h.bridge, ?_, ?_⟩
      · intro b hb
        cases hb
      · intro hne
        exact absurd rfl hne
  | addPort conf args bridgeID =>
      refine ⟨isIfaceName_portName args.attachment, ?_, fun _ => rfl⟩
      intro b hb
      unfold portRequest at hb
      dsimp only at hb
      split at hb
      · cases hb
      · exact vhostSocketPath_bytes h.socket args.attachment b hb
  | netlink hnet =>
      cases o with
      | interfaceAdd req => exact hnet.1.elim
      | _ => trivial
  | _ => trivial

/-! ### The node behind the bytes -/

/-- What becomes of a message that is answered: it does what it says, or it is refused. -/
def Message.Answered (m : Message) (w : World) : m.Ans → World → Prop
  | .ok v, w' => Message.Effect w m v w'
  | .error _, w' => w' = w

section

variable {σ : Type}

/-- The server is the grout of a node: it answers every request that is read as a message, and
does what the message says or refuses it.  The other operations of the plugin do to the node what
they may do under the faults of `P`. -/
structure Realizes (srv : Server σ) (T : Behaviour Op.Res σ) (P : Policy Op) (view : σ → World) :
    Prop where
  answer : ∀ s req m, parse req.type req.payload = some m →
    ∃ r : m.Ans, m.Conveys r (srv.answer s req).1 ∧
      m.Answered (view s) r (view (srv.answer s req).2)
  other : ∀ s o r s', o.isGrout = false → T s o r s' → Env P (view s) o r (view s')

/-- The client of a node that has changed otherwise. -/
def Client.withServer (c : Client (Line (σ × Bytes))) (s : σ) : Client (Line (σ × Bytes)) :=
  { c with peer := { c.peer with peer := (s, c.peer.peer.2) } }

/-- The operations of the plugin on a node whose grout is reached over a connection that breaks:
the client performs the grout operations, and the others behave as `T` says. -/
def OverWire (srv : Server σ) (T : Behaviour Op.Res σ) :
    Behaviour Op.Res (Client (Line (σ × Bytes))) := fun c o r c' =>
  match o.method with
  | some p => p.interp (Client.handler srv.peer.cut) c = (r, c')
  | none => ∃ s', T c.server o r s' ∧ c' = c.withServer s'

variable {srv : Server σ} {T : Behaviour Op.Res σ} {P : Policy Op} {view : σ → World}
  {c c' : Client (Line (σ × Bytes))} {w : World}

/-- A message over a connection that breaks gets its answer, fails, or is lost. -/
theorem messages_simulated (h : Realizes srv T P view) :
  Simulates wireCoupling (fun c w => c.Idle ∧ w = view c.server)
    (Client.handler srv.peer.cut).behaviour (MessageEnv Policy.mayLose)
  := by
  rintro c _ o m r c' hop ⟨hidle, rfl⟩ hstep
  obtain ⟨a, hconveys, hanswered⟩ := h.answer c.server ⟨c.reqID + 1, o.type, o.payload⟩ m hop.2
  obtain ⟨hnext, ⟨hans, hserver⟩ | ⟨err, hans, hserver⟩⟩ := hidle.exchange hop hconveys hstep
  · refine ⟨m.reported a, _, ?_, hans, hnext, rfl⟩
    rw [hserver]
    cases a with
    | ok v => exact ⟨rfl, hanswered⟩
    | error status => exact .inl ⟨rfl, hanswered⟩
  · refine ⟨.error err, _, ?_, hans, hnext, rfl⟩
    rcases hserver with hserver | hserver
    · rw [hserver]
      exact .inl ⟨rfl, rfl⟩
    · rw [hserver]
      cases a with
      | ok v => exact .inr ⟨rfl, v, hanswered⟩
      | error status => exact .inl ⟨rfl, hanswered⟩

/-- The method of an operation sends what the operation means. -/
theorem method_matches {o : Op} {p : Api.ClientProg o.Res} (h : o.method = some p) :
  ∃ q, o.meaning = some q ∧ Matches wireCoupling Eq p q
  := by
  cases o with
  | interfaceList req =>
      cases h
      exact ⟨_, rfl, program_matches (.interfaceList req)⟩
  | interfaceAdd req =>
      cases h
      exact ⟨_, rfl, program_matches (.interfaceAdd req)⟩
  | interfaceDel id =>
      cases h
      exact ⟨_, rfl, program_matches (.interfaceDel id)⟩
  | addressAdd req =>
      cases h
      exact ⟨_, rfl, program_matches (.addressAdd req)⟩
  | ip4AddrFlush id =>
      cases h
      exact ⟨_, rfl, ip4AddrFlush_matches id⟩
  | ip6AddrFlush id =>
      cases h
      exact ⟨_, rfl, ip6AddrFlush_matches id⟩
  | _ => cases h

theorem isGrout_of_method {o : Op} (h : o.method = none) :
  o.isGrout = false
  := by
  cases o <;> first | rfl | cases h

/-- The node behind the connection, as the plugin sees it. -/
structure Client.Shows (view : σ → World) (c : Client (Line (σ × Bytes))) (w : World) : Prop where
  idle : c.Idle
  shown : Shown (view c.server) w

/-- An operation over the wire is an operation on the node. -/
theorem OverWire.step (h : Realizes srv T P view) (hP : Faults Policy.mayLose P) {o : Op}
    {r : o.Res} (hsafe : o.WireSafe) (hc : c.Shows view w) (hstep : OverWire srv T c o r c') :
  ∃ w', Env P w o r w' ∧ c'.Shows view w'
  := by
  unfold OverWire at hstep
  cases hmethod : o.method with
  | some p =>
      rw [hmethod] at hstep
      obtain ⟨q, hq, hmatches⟩ := method_matches hmethod
      obtain ⟨r', w₁, hrun, rfl, hidle, rfl⟩ :=
        hmatches.run (messages_simulated h) ⟨hc.idle, rfl⟩ (run_behaviour_iff.mpr hstep)
      obtain ⟨w', henv, hshown⟩ := run_meaning hP hq hsafe hc.shown hrun
      exact ⟨w', henv, hidle, hshown⟩
  | none =>
      rw [hmethod] at hstep
      obtain ⟨s', ht, rfl⟩ := hstep
      have hother := isGrout_of_method hmethod
      obtain ⟨w', henv, hshown⟩ := hc.shown.other hother (h.other _ _ _ _ hother ht)
      exact ⟨w', henv, ⟨hc.idle.input, hc.idle.received⟩, hshown⟩

/-! ### Handlers over the wire -/

variable {call : Call}

/-- The body of a handler over the wire does what it may do on the node. -/
theorem overWire_run (h : Realizes srv T P view) (hP : Faults Policy.mayLose P)
    (hcall : call.Sendable) (hc : c.Shows view w) {r : Reply}
    (hrun : Run (OverWire srv T) call.body c r c') :
  ∃ w', Run (Env P) call.body w r w' ∧ c'.Shows view w'
  := by
  apply ((body_performs call).mono fun _ => hcall.wireSafe).run_simulated _ hc hrun
  intro c w o r c' hsafe hc hstep
  exact hstep.step h hP hsafe hc

/-- Where a handler over the wire is cut short, it has done what it may have done on the node. -/
theorem overWire_reach (h : Realizes srv T P view) (hP : Faults Policy.mayLose P)
    (hcall : call.Sendable) (hc : c.Shows view w) {q : Prog Reply}
    (hreach : Reach (OverWire srv T) call.body c q c') :
  ∃ w', Reach (Env P) call.body w q w' ∧ c'.Shows view w'
  := by
  apply ((body_performs call).mono fun _ => hcall.wireSafe).reach_simulated _ hc hreach
  intro c w o r c' hsafe hc hstep
  exact hstep.step h hP hsafe hc

end

end GroutCni
