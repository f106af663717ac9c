import GroutCni.Api.Rendering
import GroutCni.Effect.Mutex

/-!
# Goroutines that share a client

`request` and `requestStream` write a header and a payload and read headers and payloads, one at
a time; the mutex of the client is all that keeps the requests of two goroutines apart.
`Client.advance` is one step of their code, and `Client.code` the code between locking and
unlocking the mutex.  Left alone, the code does what `Client.handler` says (`behaviour_code`).

Any number of goroutines may share a client: wherever they have come to, each of them has got
what it gets when the service handles one message after another (`goroutines_linearizable`).
-/

namespace GroutCni

open Effect Wire Api

/-! ### The code behind the mutex -/

/-- Where a goroutine is in `request` or `requestStream`. -/
inductive ClientPoint (o : RpcOp) where
  /-- The mutex is locked. -/
  | locked
  /-- `nextID` has returned. -/
  | numbered (id : UInt32)
  /-- The header of the request is written. -/
  | headerWritten (id : UInt32)
  /-- A response is to be read, after some items. -/
  | reading (id : UInt32) (items : List Bytes)
  /-- The header of a response is read, and its payload is to be read. -/
  | headerRead (id : UInt32) (items : List Bytes) (hdr : ResponseHeader)
  /-- The mutex is to be unlocked. -/
  | returning (r : o.Res)

/-- What a request makes of a response: `request` returns, and `requestStream` reads on until a
response is empty. -/
def ClientPoint.respond (id : UInt32) (items : List Bytes) (hdr : ResponseHeader)
    (payload : Bytes) : (o : RpcOp) → ClientPoint o
  | .request _ _ resp =>
      match checkHeader id hdr with
      | .error err => .returning (.error err)
      | .ok () => .returning (resp.decode payload)
  | .requestStream _ _ =>
      match checkHeader id hdr with
      | .error err => .returning (.error err)
      | .ok () =>
          if hdr.payloadLen = 0 then .returning (.ok items) else .reading id (items ++ [payload])

section

variable {σ : Type} {o : RpcOp}

/-- One step of the code; at most one read or write. -/
def Client.advance (P : Peer σ) {o : RpcOp} (c : Client σ) :
    ClientPoint o → Option (ClientPoint o × Client σ)
  | .locked => some (.numbered (c.reqID + 1), { c with reqID := c.reqID + 1 })
  | .numbered id =>
      match c.write P (RequestHeader.bytes ⟨id, o.type, UInt32.ofNat o.payload.length⟩) with
      | (.error err, c) =>
          some (.returning (.error (.wrapf "writing request header: %w" [] err)), c)
      | (.ok (), c) => some (.headerWritten id, c)
  | .headerWritten id =>
      if o.payload.length > 0 then
        match c.write P o.payload with
        | (.error err, c) =>
            some (.returning (.error (.wrapf "writing request payload: %w" [] err)), c)
        | (.ok (), c) => some (.reading id [], c)
      else some (.reading id [], c)
  | .reading id items =>
      match readFull headerSize c.input with
      | (.error err, input) =>
          some (.returning (.error (.wrapf "reading response header: %w" [] err)),
            { c with input })
      | (.ok b, input) =>
      let hdr := ResponseHeader.ofBytes b
      if hdr.payloadLen.toNat > maxMsgLen then
        some (.returning
          (.error (.errorf "response payload too large: %d" [.num hdr.payloadLen.toNat])),
          { c with input })
      else if hdr.payloadLen > 0 then some (.headerRead id items hdr, { c with input })
      else some (.respond id items hdr [] o, { c with input })
  | .headerRead id items hdr =>
      match readFull hdr.payloadLen.toNat c.input with
      | (.error err, input) =>
          some (.returning (.error (.wrapf "reading response payload: %w" [] err)),
            { c with input })
      | (.ok payload, input) => some (.respond id items hdr payload o, { c with input })
  | .returning _ => none

/-- What the code returns. -/
def ClientPoint.result : ClientPoint o → Option o.Res
  | .returning r => some r
  | _ => none

/-- The code of `request` and `requestStream` between locking and unlocking the mutex. -/
def Client.code (P : Peer σ) : Code RpcOp.Res (Client σ) where
  Point := ClientPoint
  enter _ := .locked
  step x y := x.2.advance P x.1 = some y
  result := ClientPoint.result

/-! ### The code left alone -/

/-- The code comes from a point to its end, if nothing else happens. -/
def Client.Returns (P : Peer σ) (x : ClientPoint o × Client σ) (y : o.Res × Client σ) : Prop :=
  Relation.ReflTransGen (Client.code P).step x (.returning y.1, y.2)

variable {P : Peer σ} {c c' : Client σ} {l l' : ClientPoint o} {y : o.Res × Client σ}

theorem returns_returning {r : o.Res} :
  Client.Returns P (.returning r, c) y ↔ y = (r, c)
  := by
  constructor
  · intro h
    rcases h.cases_head with heq | ⟨z, hstep, -⟩
    · cases heq
      rfl
    · cases hstep
  · rintro rfl
    exact .refl

/-- The next step of the code is the only one. -/
theorem returns_of_advance (h : c.advance P l = some (l', c')) :
  Client.Returns P (l, c) y ↔ Client.Returns P (l', c') y
  := by
  constructor
  · intro hreturns
    rcases hreturns.cases_head with heq | ⟨z, hstep, hrest⟩
    · cases heq
      cases h
    · cases h.symm.trans hstep
      exact hrest
  · intro hreturns
    exact .head h hreturns

/-- A response takes bytes. -/
theorem length_lt_of_readResponse {s rest payload : Bytes} {hdr : ResponseHeader}
    (h : readResponse s = (.ok (hdr, payload), rest)) :
  rest.length < s.length
  := by
  obtain ⟨rfl, -, -⟩ := readResponse_ok_iff.mp h
  have hlen : hdr.bytes.length = headerSize := length_headerBytes _ _ _
  simp only [List.length_append, hlen, headerSize]
  omega

/-- With fuel for every byte, the loop of `requestStream` does not depend on the fuel. -/
theorem readItems_fuel {id : UInt32} {fuel fuel' : Nat} {items : List Bytes} {s : Bytes}
    (h : s.length < fuel) (h' : s.length < fuel') :
  readItems id fuel items s = readItems id fuel' items s
  := by
  induction fuel generalizing fuel' items s with
  | zero => cases h
  | succ fuel ih =>
      obtain ⟨fuel', rfl⟩ := Nat.exists_eq_succ_of_ne_zero (Nat.ne_of_gt (Nat.zero_lt_of_lt h'))
      rw [readItems, readItems]
      rcases hread : readResponse s with ⟨err | ⟨hdr, payload⟩, rest⟩
      · rfl
      · dsimp only
        have hlt := length_lt_of_readResponse hread
        split
        · rfl
        · split
          · rfl
          · exact ih (by omega) (by omega)

/-- What the operation makes of the bytes that have arrived, after some items. -/
def Api.RpcOp.receive (id : UInt32) (items : List Bytes) : (o : RpcOp) → Bytes → o.Res × Bytes
  | .request _ _ resp, s =>
      match readResponse s with
      | (.error err, s) => (.error err, s)
      | (.ok (hdr, payload), s) =>
      match checkHeader id hdr with
      | .error err => (.error err, s)
      | .ok () => (resp.decode payload, s)
  | .requestStream _ _, s => readItems id (s.length + 1) items s

theorem receive_error {id : UInt32} {items : List Bytes} {s rest : Bytes} {err : GoError}
    (h : readResponse s = (.error err, rest)) (o : RpcOp) :
  o.receive id items s = (.error err, rest)
  := by
  cases o with
  | request type payload resp => rw [RpcOp.receive, h]
  | requestStream type payload =>
      rw [RpcOp.receive, readItems, h]
      rfl

/-- After a response, the code returns or reads on. -/
theorem respond_cases (id : UInt32) (items : List Bytes) {hdr : ResponseHeader}
    {s payload rest : Bytes} (h : readResponse s = (.ok (hdr, payload), rest)) (o : RpcOp) :
  (∃ r, ClientPoint.respond id items hdr payload o = .returning r ∧
    o.receive id items s = (r, rest)) ∨
  ∃ items', ClientPoint.respond id items hdr payload o = .reading id items' ∧
    o.receive id items s = o.receive id items' rest
  := by
  cases o with
  | request type payload' resp =>
      rw [RpcOp.receive, h, ClientPoint.respond]
      dsimp only
      cases checkHeader id hdr with
      | error err => exact .inl ⟨_, rfl, rfl⟩
      | ok _ => exact .inl ⟨_, rfl, rfl⟩
  | requestStream type payload' =>
      rw [RpcOp.receive, readItems, h, ClientPoint.respond]
      dsimp only
      cases checkHeader id hdr with
      | error err => exact .inl ⟨_, rfl, rfl⟩
      | ok _ =>
          dsimp only
          split
          · exact .inl ⟨_, rfl, rfl⟩
          · refine .inr ⟨_, rfl, ?_⟩
            exact readItems_fuel (length_lt_of_readResponse h) (Nat.lt_succ_self _)

/-- From where it reads, the code makes what it should of the bytes that have arrived. -/
theorem returns_reading {id : UInt32} {items : List Bytes} :
  Client.Returns P (.reading id items, c) y
    ↔ y = ((o.receive id items c.input).1, { c with input := (o.receive id items c.input).2 })
  := by
  -- The loop goes on only after a response, which takes bytes.
  induction hn : c.input.length using Nat.strong_induction_on generalizing c items with
  | _ n ih =>
  subst hn
  have hrespond : ∀ hdr payload rest, readResponse c.input = (.ok (hdr, payload), rest) →
      (Client.Returns P (.respond id items hdr payload o, { c with input := rest }) y
        ↔ y = ((o.receive id items c.input).1,
          { c with input := (o.receive id items c.input).2 })) := by
    intro hdr payload rest hread
    rcases respond_cases id items hread o with
      ⟨r, hr, hreceive⟩ | ⟨items', hr, hreceive⟩
    · rw [hr, hreceive, returns_returning]
    · rw [hr, hreceive]
      exact ih _ (length_lt_of_readResponse hread) rfl
  have herror : ∀ err rest, readResponse c.input = (.error err, rest) →
      (Client.Returns P (.returning (.error err), { c with input := rest }) y
        ↔ y = ((o.receive id items c.input).1,
          { c with input := (o.receive id items c.input).2 })) := by
    intro err rest hread
    rw [returns_returning, receive_error hread]
  rcases hread : readFull headerSize c.input with ⟨err | b, rest⟩
  · rw [returns_of_advance (by rw [Client.advance, hread])]
    apply herror
    rw [readResponse, hread]
  · by_cases hlarge : (ResponseHeader.ofBytes b).payloadLen.toNat > maxMsgLen
    · rw [returns_of_advance (by rw [Client.advance, hread]; exact if_pos hlarge)]
      apply herror
      rw [readResponse, hread]
      exact if_pos hlarge
    · by_cases hpos : (ResponseHeader.ofBytes b).payloadLen > 0
      · rw [returns_of_advance (by
          rw [Client.advance, hread]
          exact (if_neg hlarge).trans (if_pos hpos))]
        rcases hread' : readFull (ResponseHeader.ofBytes b).payloadLen.toNat rest with
          ⟨err | payload, rest'⟩
        · rw [returns_of_advance (by rw [Client.advance, hread'])]
          apply herror
          rw [readResponse, hread]
          dsimp only
          rw [if_neg hlarge, if_pos hpos, hread']
        · rw [returns_of_advance (by rw [Client.advance, hread'])]
          apply hrespond
          rw [readResponse, hread]
          dsimp only
          rw [if_neg hlarge, if_pos hpos, hread']
      · rw [returns_of_advance (by
          rw [Client.advance, hread]
          exact (if_neg hlarge).trans (if_neg hpos))]
        apply hrespond
        rw [readResponse, hread]
        exact (if_neg hlarge).trans (if_neg hpos)

theorem write_reqID (P : Peer σ) (c : Client σ) (b : Bytes) :
  (c.write P b).2.reqID = c.reqID
  := by
  unfold Client.write
  split
  · rfl
  · rfl

/-- What the client does, in terms of what it makes of the bytes that have arrived. -/
theorem handler_eq (P : Peer σ) (c : Client σ) (o : RpcOp) :
  Client.handler P c o =
    match c.send P o.type o.payload with
    | (.error err, c) => (.error err, c)
    | (.ok (), c) =>
        ((o.receive c.reqID [] c.input).1, { c with input := (o.receive c.reqID [] c.input).2 })
  := by
  cases o with
  | request type payload resp =>
      dsimp only [Client.handler, RpcOp.type, RpcOp.payload]
      unfold Client.request
      rcases c.send P type payload with ⟨err | ⟨⟩, c₁⟩
      · rfl
      · dsimp only [RpcOp.receive]
        rcases readResponse c₁.input with ⟨err | ⟨hdr, answer⟩, rest⟩
        · rfl
        · dsimp only
          cases checkHeader c₁.reqID hdr with
          | error err => rfl
          | ok _ => rfl
  | requestStream type payload =>
      dsimp only [Client.handler, RpcOp.type, RpcOp.payload]
      unfold Client.requestStream
      rcases c.send P type payload with ⟨err | ⟨⟩, c₁⟩
      · rfl
      · rfl

/-- Left alone, the code does what the client does. -/
theorem returns_locked :
  Client.Returns P (.locked, c) y ↔ y = Client.handler P c o
  := by
  rw [returns_of_advance rfl, handler_eq, Client.send, Client.writeRequest]
  rcases hheader : Client.write P { c with reqID := c.reqID + 1 } (RequestHeader.bytes
    ⟨c.reqID + 1, o.type, UInt32.ofNat o.payload.length⟩) with ⟨err | ⟨⟩, c₁⟩
  · rw [returns_of_advance (by rw [Client.advance, hheader]), returns_returning]
  · have hid₁ : c₁.reqID = c.reqID + 1 := by
      have hwrite := write_reqID P { c with reqID := c.reqID + 1 } (RequestHeader.bytes
        ⟨c.reqID + 1, o.type, UInt32.ofNat o.payload.length⟩)
      rw [hheader] at hwrite
      exact hwrite
    rw [returns_of_advance (by rw [Client.advance, hheader])]
    dsimp only
    by_cases hpos : o.payload.length > 0
    · rw [if_pos hpos]
      rcases hpayload : c₁.write P o.payload with ⟨err | ⟨⟩, c₂⟩
      · rw [returns_of_advance (by rw [Client.advance, if_pos hpos, hpayload]), returns_returning]
      · have hid₂ : c₂.reqID = c.reqID + 1 := by
          have hwrite := write_reqID P c₁ o.payload
          rw [hpayload] at hwrite
          exact hwrite.trans hid₁
        rw [returns_of_advance (by rw [Client.advance, if_pos hpos, hpayload]), returns_reading]
        dsimp only
        rw [hid₂]
    · rw [if_neg hpos, returns_of_advance (by rw [Client.advance, if_neg hpos]), returns_reading]
      dsimp only
      rw [hid₁]

theorem behaviour_code (P : Peer σ) :
  (Client.code P).behaviour = (Client.handler P).behaviour
  := by
  funext c o r c'
  apply propext
  constructor
  · rintro ⟨l, hreaches, hresult⟩
    cases l with
    | returning r' =>
        cases hresult
        exact (returns_locked (y := (r, c')).mp hreaches).symm
    | _ => cases hresult
  · intro h
    exact ⟨.returning r, returns_locked (y := (r, c')).mpr h.symm, rfl⟩

end

/-! ### The goroutines -/

section

variable {σ τ ι α : Type} {srv : Server σ} {svc : Service τ} {R : σ → τ → Prop}

/-- The connection is in step with the service: nothing is on its way, and the server is where
the service is. -/
structure Client.InStepWith (R : σ → τ → Prop) (c : Client (σ × Bytes)) (u : τ) : Prop where
  server : R c.peer.1 u
  received : c.peer.2 = []
  input : c.input = []

/-- A request over a connection that is in step is a message to the service. -/
theorem Serves.simulates (h : Serves srv svc R) :
  Simulates wireCoupling (Client.InStepWith R) (Client.code srv.peer).behaviour
    svc.handler.behaviour
  := by
  rw [behaviour_code]
  rintro c u o m r c₁ ⟨hproper, hparse⟩ hc ht
  have hstep : c.InStep ⟨c.peer.1, c.reqID, []⟩ := ⟨rfl, rfl, hc.received, hc.input⟩
  obtain ⟨hr, hnext⟩ := hstep.handler srv hproper
  rw [ht] at hr hnext
  obtain ⟨hconveys, hR⟩ := h c.peer.1 u ⟨c.reqID + 1, o.type, o.payload⟩ m hc.server hparse
  refine ⟨_, _, rfl, .inl ⟨_, _, hr, hconveys, rfl⟩, ?_, hnext.received, hnext.input⟩
  rw [hnext.server]
  exact hR

/-- What goroutines do on the service itself explains where they are on the client: outside of
the client each of them has the same left to do, and while nobody has locked the mutex the
connection is in step with the service. -/
structure Explains (R : σ → τ → Prop) (a : Threads ι Message.Res α τ)
    (c : Mutex ι (Client.code srv.peer) α) : Prop where
  outside : ∀ i p, c.thread i = .outside p → Matches wireCoupling Eq p (a.rest i)
  free : c.holder = none → c.shared.InStepWith R a.shared

/-- The requests of the goroutines are single steps that match their messages. -/
def Linked (R : σ → τ → Prop) (a : Threads ι Message.Res α τ)
    (c : Mutex ι (Client.code srv.peer) α) : Prop :=
  ∃ m, c.Refines m ∧ Threads.Related wireCoupling Eq (Client.InStepWith R) m a

variable {a : Threads ι Message.Res α τ} {c c' : Mutex ι (Client.code srv.peer) α}

theorem Linked.explains (h : Linked R a c) :
  Explains R a c
  := by
  obtain ⟨m, hrefines, hshared, hrest⟩ := h
  constructor
  · intro i p hi
    have hholder : c.holder ≠ some i := by
      intro heq
      obtain ⟨o, k, l, hinside, -⟩ := hrefines.held i heq
      rw [hi] at hinside
      cases hinside
    have hout := hi.symm.trans (hrefines.outside i hholder)
    injection hout with heq
    rw [heq]
    exact hrest i
  · intro hfree
    rw [hrefines.free hfree]
    exact hshared

theorem Linked.of_steps [DecidableEq ι] (hlinked : Linked R a c) (h : Serves srv svc R)
    (hsteps : Mutex.Steps c c') :
  ∃ a', Threads.Steps svc.handler.behaviour a a' ∧ Linked R a' c'
  := by
  obtain ⟨m, hrefines, hrelated⟩ := hlinked
  obtain ⟨m', hm, hrefines'⟩ := hrefines.of_steps hsteps
  obtain ⟨a', ha, hrelated'⟩ := hrelated.of_steps h.simulates hm
  exact ⟨a', ha, m', hrefines', hrelated'⟩

/-- Let any number of goroutines call the methods of one client, whatever they make of the
results, and take the steps of `request` and `requestStream` in any order that the mutex allows.
Wherever they have come to, there is an order of their messages that explains it when the service
handles one message after another; and wherever they come to from there, an order that goes on
from that one does. -/
theorem goroutines_linearizable [DecidableEq ι] (h : Serves srv svc R) {s : σ} {u : τ}
    (hR : R s u) (reqID : UInt32) (p : ι → Program ClientCall.Res α)
    (hc : Mutex.Steps
      (.start _ ⟨reqID, (s, []), []⟩ fun i => (p i).expand ClientCall.program) c)
    (hc' : Mutex.Steps c c') :
  ∃ a a', Threads.Steps svc.handler.behaviour ⟨u, fun i => (p i).expand ClientCall.meaning⟩ a ∧
    Explains R a c ∧ Threads.Steps svc.handler.behaviour a a' ∧ Explains R a' c'
  := by
  have hstart : Linked R ⟨u, fun i => (p i).expand ClientCall.meaning⟩
      (.start (Client.code srv.peer) ⟨reqID, (s, []), []⟩
        fun i => (p i).expand ClientCall.program) := by
    refine ⟨_, Mutex.refines_start _ _, ⟨hR, rfl, rfl⟩, ?_⟩
    intro i
    exact .expand program_matches (p i)
  obtain ⟨a, ha, hlinked⟩ := hstart.of_steps h hc
  obtain ⟨a', ha', hlinked'⟩ := hlinked.of_steps h hc'
  exact ⟨a, a', ha, hlinked.explains, ha', hlinked'.explains⟩

end

/-- One goroutine greets the server, and the other asks for the interfaces. -/
def greetOrList : Bool → Program ClientCall.Res (Except GoError Unit)
  | true => .call .hello fun r => .ret r
  | false => .call (.interfaceList {}) fun _ => .ret (.ok ())

/-- One goroutine has greeted the server, and the other is about to send its request. -/
theorem goroutines_linearizable_two :
  ∃ (c : Mutex Bool (Client.code (serverOf nameService).peer) (Except GoError Unit)) (r : _)
    (a : Threads Bool Message.Res (Except GoError Unit) (List GoString)),
    c.holder = some false ∧ c.thread true = .outside (.ret r) ∧ a.rest true = .ret r ∧
    Threads.Steps nameService.handler.behaviour
      ⟨[], fun i => (greetOrList i).expand ClientCall.meaning⟩ a
  := by
  let C := Client.code (serverOf nameService).peer
  let start : Mutex Bool C (Except GoError Unit) :=
    .start C ⟨0, ([], []), []⟩ fun i => (greetOrList i).expand ClientCall.program
  obtain ⟨o, k, hgreet⟩ : ∃ o k, (greetOrList true).expand ClientCall.program = .call o k :=
    ⟨_, _, rfl⟩
  obtain ⟨o', k', hlist⟩ : ∃ o k, (greetOrList false).expand ClientCall.program = .call o k :=
    ⟨_, _, rfl⟩
  have hdone : ∀ r, ∃ r', k r = .ret r' := by
    cases hgreet
    intro r
    exact ⟨_, rfl⟩
  have hthread : start.thread true = .outside (.call o k) := congrArg Thread.outside hgreet
  obtain ⟨⟨r, s'⟩, hhandler⟩ : ∃ y, Client.handler (serverOf nameService).peer start.shared o = y :=
    ⟨_, rfl⟩
  have hbehaviour : C.behaviour start.shared o r s' := by
    rw [behaviour_code]
    exact hhandler
  obtain ⟨r', hr'⟩ := hdone r
  let greeted : Mutex Bool C (Except GoError Unit) :=
    ⟨s', none, Function.update start.thread true (.outside (k r))⟩
  let listing : Mutex Bool C (Except GoError Unit) :=
    ⟨s', some false, Function.update greeted.thread false (.inside k' (C.enter o'))⟩
  have hgreeted : Mutex.Steps start greeted := Mutex.Steps.perform hthread rfl hbehaviour
  have hlocked : Mutex.Steps greeted listing :=
    .single (.lock (congrArg Thread.outside hlist) rfl)
  obtain ⟨a₀, a, ha₀, -, ha, hexplains⟩ := goroutines_linearizable
    (serverOf_serves nameService_renders) rfl 0 greetOrList hgreeted hlocked
  have hreturned : listing.thread true = .outside (.ret r') := by
    simp [listing, greeted, hr']
  have hmatch := hexplains.outside true (.ret r') hreturned
  refine ⟨listing, r', a, rfl, hreturned, ?_, ha₀.trans ha⟩
  generalize a.rest true = q at hmatch
  cases hmatch with
  | ret h => rw [h]

end GroutCni
