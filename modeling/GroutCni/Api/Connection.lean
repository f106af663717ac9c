import GroutCni.Api.Rendering

/-!
# Connections that break

`Peer.cut` is a peer over a connection that breaks: only some writes get through, and only some
of the bytes that the peer sends arrive.  A request over such a connection gets its answer, or it
fails, and then the server may have performed it or not (`Client.Idle.handler`): a part of an
answer is never taken for an answer.  A program that calls the methods of the client therefore
returns what it may return on a service where messages may fail or be lost (`calls_unreliable`).
-/

namespace GroutCni

open Effect Wire Api

/-- A connection: the other end, how many writes get through to it, and how many bytes of its
answers arrive. -/
structure Line (σ : Type) where
  peer : σ
  writes : Nat
  bytes : Nat

/-- The peer over a connection that breaks. -/
def Peer.cut {σ : Type} (P : Peer σ) : Peer (Line σ) where
  write := fun l data =>
    if l.writes = 0 then (.error (.other "broken pipe"), l)
    else
      match P.write l.peer data with
      | (.error err, s) => (.error err, ⟨s, l.writes - 1, l.bytes⟩)
      | (.ok out, s) => (.ok (out.take l.bytes), ⟨s, l.writes - 1, l.bytes - out.length⟩)

/-! ### Parts of answers -/

/-- A read that finds too few bytes takes them all. -/
theorem readFull_error {n : Nat} {b : Bytes} (h : b.length < n) :
  ∃ err, readFull n b = (.error err, [])
  := by
  unfold readFull
  rw [if_neg (Nat.not_le.mpr h)]
  split
  · exact ⟨_, rfl⟩
  · exact ⟨_, rfl⟩

theorem length_frame (id status : UInt32) (payload : Bytes) :
  (frame id status payload).length = headerSize + payload.length
  := by
  rw [frame, List.length_append, ResponseHeader.bytes, length_headerBytes]

/-- A part of a response is not a response. -/
theorem readResponse_take {id status : UInt32} {payload : Bytes} {k : Nat}
    (hmax : payload.length ≤ maxMsgLen) (hk : k < (frame id status payload).length) :
  ∃ err, readResponse ((frame id status payload).take k) = (.error err, [])
  := by
  rw [length_frame] at hk
  have hhdr : (ResponseHeader.bytes ⟨id, status, UInt32.ofNat payload.length⟩).length
      = headerSize := length_headerBytes _ _ _
  rcases Nat.lt_or_ge k headerSize with hlt | hge
  · have hlen : ((frame id status payload).take k).length < headerSize := by
      rw [List.length_take]
      omega
    obtain ⟨err, herr⟩ := readFull_error hlen
    rw [readResponse, herr]
    exact ⟨_, rfl⟩
  · have htake : (frame id status payload).take k
        = ResponseHeader.bytes ⟨id, status, UInt32.ofNat payload.length⟩
          ++ payload.take (k - headerSize) := by
      rw [frame, List.take_append, hhdr, List.take_of_length_le (by omega)]
    have hread : readFull headerSize ((frame id status payload).take k)
        = (.ok (ResponseHeader.bytes ⟨id, status, UInt32.ofNat payload.length⟩),
          payload.take (k - headerSize)) := readFull_ok_iff.mpr ⟨htake, hhdr⟩
    have hlen := toNat_ofNat_length hmax
    have hpos : UInt32.ofNat payload.length > 0 := by
      rw [gt_iff_lt, UInt32.lt_iff_toNat_lt, hlen]
      exact Nat.lt_of_le_of_lt (Nat.zero_le (k - headerSize)) (by omega)
    have hshort : (payload.take (k - headerSize)).length < payload.length := by
      rw [List.length_take]
      omega
    obtain ⟨err, herr⟩ := readFull_error hshort
    rw [readResponse, hread]
    dsimp only
    rw [ResponseHeader.ofBytes_bytes, hlen, if_neg (by omega), if_pos hpos, herr]
    exact ⟨_, rfl⟩

/-- A part of a list is not a list: the loop of `requestStream` goes through the items that
arrived, and then fails. -/
theorem readItems_take (id : UInt32) {items : List Bytes} {last : PlainAnswer}
    (hitems : ∀ p ∈ items, IsItem p) {k fuel : Nat} (acc : List Bytes)
    (hk : k < ((items.map (frame id 0)).flatten ++ frame id last.status last.payload).length)
    (hfuel : k < fuel) :
  ∃ err, readItems id fuel acc
    (((items.map (frame id 0)).flatten ++ frame id last.status last.payload).take k)
      = (.error err, [])
  := by
  induction items generalizing k fuel acc with
  | nil =>
      obtain ⟨fuel, rfl⟩ := Nat.exists_eq_add_of_lt (Nat.zero_lt_of_lt hfuel)
      rw [List.map_nil, List.flatten_nil, List.nil_append] at hk ⊢
      obtain ⟨err, herr⟩ := readResponse_take last.length_le hk
      refine ⟨err, ?_⟩
      rw [Nat.zero_add, readItems, herr]
  | cons item items ih =>
      obtain ⟨fuel, rfl⟩ := Nat.exists_eq_add_of_lt (Nat.zero_lt_of_lt hfuel)
      obtain ⟨hpos, hmax⟩ := hitems item List.mem_cons_self
      rw [List.map_cons, List.flatten_cons, List.append_assoc] at hk ⊢
      rw [Nat.zero_add] at hfuel ⊢
      rcases Nat.lt_or_ge k (frame id 0 item).length with hlt | hge
      · obtain ⟨err, herr⟩ : ∃ err, readResponse ((frame id 0 item).take k) = (.error err, []) :=
          readResponse_take hmax hlt
        refine ⟨err, ?_⟩
        rw [List.take_append_of_le_length hlt.le, readItems, herr]
      · have hlen := length_frame id 0 item
        rw [List.take_append, List.take_of_length_le hge, readItems, readResponse_frame _ _ _ hmax]
        have hne : UInt32.ofNat item.length ≠ 0 := by
          intro hzero
          have hback := toNat_ofNat_length hmax
          rw [hzero] at hback
          exact absurd hback (Nat.ne_of_lt hpos)
        dsimp only [checkHeader]
        rw [if_neg (not_not_intro rfl), if_neg (not_not_intro rfl), if_neg hne]
        rw [List.length_append] at hk
        exact ih (fun p hp => hitems p (List.mem_cons_of_mem _ hp)) _ (by omega) (by omega)

/-- The last response of a list. -/
def ListAnswer.lastAnswer (a : ListAnswer) : PlainAnswer :=
  a.failure.getD ⟨0, [], Nat.zero_le _⟩

theorem ListAnswer.last_eq (a : ListAnswer) (id : UInt32) :
  a.last id = frame id a.lastAnswer.status a.lastAnswer.payload
  := by
  unfold ListAnswer.last ListAnswer.lastAnswer
  cases a.failure <;> rfl

/-- A part of a list is not a list. -/
theorem readStream_take (id : UInt32) (a : ListAnswer) {k : Nat}
    (hk : k < ((Answer.list a).bytes id).length) :
  ∃ err, readStream id (((Answer.list a).bytes id).take k) = (.error err, [])
  := by
  rw [Answer.bytes, a.last_eq] at hk ⊢
  unfold readStream
  apply readItems_take id a.isItem [] hk
  rw [List.length_take]
  omega

/-! ### One request -/

/-- What `request` makes of the bytes that arrive. -/
def readAnswer (id : UInt32) (resp : Resp) (input : Bytes) : Except GoError resp.Val × Bytes :=
  match readResponse input with
  | (.error err, input) => (.error err, input)
  | (.ok (hdr, payload), input) =>
  match checkHeader id hdr with
  | .error err => (.error err, input)
  | .ok () => (resp.decode payload, input)

theorem request_of_send {σ : Type} {P : Peer σ} {c c₁ : Client σ} {type : UInt32}
    {payload : Bytes} (resp : Resp) (h : c.send P type payload = (.ok (), c₁)) :
  c.request P type payload resp
    = ((readAnswer c₁.reqID resp c₁.input).1,
      { c₁ with input := (readAnswer c₁.reqID resp c₁.input).2 })
  := by
  unfold Client.request readAnswer
  rw [h]
  dsimp only
  rcases readResponse c₁.input with ⟨err | ⟨hdr, answer⟩, rest⟩
  · rfl
  · dsimp only
    cases checkHeader c₁.reqID hdr with
    | error err => rfl
    | ok _ => rfl

/-- All of an answer is read. -/
theorem readAnswer_bytes (id : UInt32) (resp : Resp) (a : PlainAnswer) :
  readAnswer id resp ((Answer.plain a).bytes id) = (a.outcome resp, [])
  := by
  have hread := readResponse_frame id a.status [] a.length_le
  rw [List.append_nil] at hread
  unfold readAnswer
  dsimp only [Answer.bytes]
  rw [hread]
  dsimp only [checkHeader]
  rw [if_neg (not_not_intro rfl)]
  by_cases hstatus : a.status ≠ 0
  · have hout : a.outcome resp = .error (.errorf "grout error: status %d" [.num a.status.toNat]) :=
      if_pos hstatus
    rw [if_pos hstatus, hout]
  · have hout : a.outcome resp = resp.decode a.payload := if_neg hstatus
    rw [if_neg hstatus, hout]

/-- A part of an answer is not an answer. -/
theorem readAnswer_take {id : UInt32} (resp : Resp) {a : PlainAnswer} {k : Nat}
    (hk : k < ((Answer.plain a).bytes id).length) :
  ∃ err, readAnswer id resp (((Answer.plain a).bytes id).take k) = (.error err, [])
  := by
  obtain ⟨err, herr⟩ := readResponse_take a.length_le hk
  refine ⟨err, ?_⟩
  unfold readAnswer
  dsimp only [Answer.bytes]
  rw [herr]

section

variable {σ : Type} {srv : Server σ} {c : Client (Line (σ × Bytes))}

/-- The client has read all that arrived, and if more writes get through then the server waits
for a request. -/
structure Client.Idle (c : Client (Line (σ × Bytes))) : Prop where
  input : c.input = []
  received : c.peer.writes = 0 ∨ c.peer.peer.2 = []

/-- The server of a client. -/
def Client.server (c : Client (Line (σ × Bytes))) : σ := c.peer.peer.1

/-- A request is sent, and a part of its answer arrives; or it is not sent, and the server has
not performed it. -/
theorem Client.Idle.send (h : c.Idle) (srv : Server σ) {type : UInt32} {payload : Bytes}
    (hlen : payload.length < 2 ^ 32) (hpos : 0 < payload.length) :
  (∃ err c', c.send srv.peer.cut type payload = (.error err, c') ∧ c'.Idle ∧
    c'.server = c.server) ∨
  ∃ line : Line (σ × Bytes),
    c.send srv.peer.cut type payload = (.ok (), ⟨c.reqID + 1, line,
      ((srv.answer c.server ⟨c.reqID + 1, type, payload⟩).1.bytes (c.reqID + 1)).take
        c.peer.bytes⟩) ∧
    line.peer = ((srv.answer c.server ⟨c.reqID + 1, type, payload⟩).2, [])
  := by
  obtain ⟨reqID, ⟨⟨s, b⟩, writes, bytes⟩, input⟩ := c
  obtain ⟨rfl, hreceived⟩ := h
  have hhdr : takeRequest (RequestHeader.bytes ⟨reqID + 1, type, .ofNat payload.length⟩)
      = none := by
    apply takeRequest_header
    rw [UInt32.toNat_ofNat_of_lt' hlen]
    exact hpos
  unfold Client.send Client.writeRequest Client.write Peer.cut Client.server
  dsimp only at hreceived ⊢
  cases writes with
  | zero =>
      -- Not even the header gets through.
      exact .inl ⟨_, _, rfl, ⟨rfl, .inl rfl⟩, rfl⟩
  | succ writes =>
      obtain rfl : b = [] := hreceived.resolve_left (Nat.succ_ne_zero _)
      rw [if_neg (Nat.succ_ne_zero _), peer_write_incomplete hhdr]
      dsimp only
      rw [if_pos hpos, List.take_nil, List.append_nil]
      cases writes with
      | zero =>
          -- The header gets through, but not the payload.
          exact .inl ⟨_, _, rfl, ⟨rfl, .inl rfl⟩, rfl⟩
      | succ writes =>
          rw [if_neg (by simp), peer_write_complete rfl (takeRequest_bytes (reqID + 1) type hlen)]
          exact .inr ⟨⟨(_, []), _, _⟩, rfl, rfl⟩

/-- What a request over a connection that breaks comes to: it gets its answer, or it fails, and
then the server has performed it or not. -/
structure Exchanged {α : Type} (srv : Server σ) (c : Client (Line (σ × Bytes))) (req : Request)
    (full : Answer → Except GoError α) (out : Except GoError α × Client (Line (σ × Bytes))) :
    Prop where
  idle : out.2.Idle
  result : out.1 = full (srv.answer c.server req).1 ∧
      out.2.server = (srv.answer c.server req).2 ∨
    (∃ err, out.1 = .error err) ∧
      (out.2.server = c.server ∨ out.2.server = (srv.answer c.server req).2)

/-- A request is exchanged if the answer is read as a whole, and a part of it is refused. -/
theorem Client.Idle.exchanged {α : Type} {type : UInt32} {payload : Bytes}
    {full : Answer → Except GoError α} {out : Except GoError α × Client (Line (σ × Bytes))}
    (h : c.Idle) (hlen : payload.length < 2 ^ 32) (hpos : 0 < payload.length)
    (read : Bytes → Except GoError α × Bytes)
    (herr : ∀ err c', c.send srv.peer.cut type payload = (.error err, c') →
      out = (.error err, c'))
    (hok : ∀ c₁, c.send srv.peer.cut type payload = (.ok (), c₁) → c₁.reqID = c.reqID + 1 →
      out = ((read c₁.input).1, { c₁ with input := (read c₁.input).2 }))
    (hfull : ∀ a, (srv.answer c.server ⟨c.reqID + 1, type, payload⟩).1 = a →
      read (a.bytes (c.reqID + 1)) = (full a, []))
    (hpart : ∀ a, (srv.answer c.server ⟨c.reqID + 1, type, payload⟩).1 = a →
      ∀ k < (a.bytes (c.reqID + 1)).length,
        ∃ err, read ((a.bytes (c.reqID + 1)).take k) = (.error err, [])) :
  Exchanged srv c ⟨c.reqID + 1, type, payload⟩ full out
  := by
  rcases h.send srv hlen hpos with ⟨err, c', hsend, hidle, hserver⟩ | ⟨line, hsend, hline⟩
  · rw [herr err c' hsend]
    exact ⟨hidle, .inr ⟨⟨err, rfl⟩, .inl hserver⟩⟩
  · have hserver : line.peer.1 = (srv.answer c.server ⟨c.reqID + 1, type, payload⟩).2 := by
      rw [hline]
    have hidle : ∀ id, Client.Idle ⟨id, line, []⟩ := by
      intro id
      refine ⟨rfl, .inr ?_⟩
      rw [hline]
    rw [hok _ hsend rfl]
    dsimp only
    generalize ha : (srv.answer c.server ⟨c.reqID + 1, type, payload⟩).1 = a at *
    rcases Nat.lt_or_ge c.peer.bytes (a.bytes (c.reqID + 1)).length with hlt | hge
    · obtain ⟨err, hread⟩ := hpart a rfl _ hlt
      rw [hread]
      exact ⟨hidle _, .inr ⟨⟨err, rfl⟩, .inr hserver⟩⟩
    · rw [List.take_of_length_le hge, hfull a rfl]
      refine ⟨hidle _, .inl ⟨?_, hserver⟩⟩
      rw [ha]

/-- Over a connection that breaks, a request gets its answer or fails. -/
theorem Client.Idle.handler (h : c.Idle) (srv : Server σ) {o : RpcOp} (ho : Proper o)
    (hpos : 0 < o.payload.length) :
  Exchanged srv c ⟨c.reqID + 1, o.type, o.payload⟩ (outcome o) (Client.handler srv.peer.cut c o)
  := by
  obtain ⟨hlen, hkind⟩ := ho
  cases o with
  | request type payload resp =>
      dsimp only [RpcOp.type, RpcOp.payload, Client.handler] at hlen hpos ⊢
      have htype : isListType type = false := hkind
      have hplain : ∀ a, (srv.answer c.server ⟨c.reqID + 1, type, payload⟩).1 = a →
          ∃ p, a = .plain p := by
        rintro a rfl
        rw [Server.answer, htype]
        exact ⟨_, rfl⟩
      apply h.exchanged hlen hpos (readAnswer (c.reqID + 1) resp)
      · intro err c' hsend
        rw [Client.request, hsend]
      · intro c₁ hsend hid
        rw [request_of_send resp hsend, hid]
      · intro a ha
        obtain ⟨p, rfl⟩ := hplain a ha
        exact readAnswer_bytes _ resp p
      · intro a ha k hk
        obtain ⟨p, rfl⟩ := hplain a ha
        exact readAnswer_take resp hk
  | requestStream type payload =>
      dsimp only [RpcOp.type, RpcOp.payload, Client.handler] at hlen hpos ⊢
      have htype : isListType type = true := hkind
      have hlist : ∀ a, (srv.answer c.server ⟨c.reqID + 1, type, payload⟩).1 = a →
          ∃ l, a = .list l := by
        rintro a rfl
        rw [Server.answer, htype]
        exact ⟨_, rfl⟩
      apply h.exchanged hlen hpos (readStream (c.reqID + 1))
      · intro err c' hsend
        rw [Client.requestStream, hsend]
      · intro c₁ hsend hid
        rw [Client.requestStream, hsend]
        dsimp only
        rw [hid]
      · intro a ha
        obtain ⟨l, rfl⟩ := hlist a ha
        exact readStream_bytes _ l
      · intro a ha k hk
        obtain ⟨l, rfl⟩ := hlist a ha
        exact readStream_take _ l hk

/-- A request that is read as a message is not empty. -/
theorem length_pos_of_parse {type : UInt32} {payload : Bytes} {m : Message}
    (h : parse type payload = some m) :
  0 < payload.length
  := by
  unfold parse at h
  split at h
  · cases h
  · split at h
    · cases h
    case isFalse kind _ hlen =>
      have hpos : 0 < kind.size payload := by
        cases kind with
        | addrAdd f | addrDel f | routeAdd f | routeDel f => cases f <;> exact Nat.succ_pos _
        | ifaceAdd => exact Nat.add_pos_left (by decide) _
        | _ => exact Nat.succ_pos _
      omega

/-- A message over a connection that breaks gets its answer or fails. -/
theorem Client.Idle.exchange (h : c.Idle) {o : RpcOp} {m : Message} (hop : wireCoupling.op o m)
    {a : m.Ans} {r : o.Res} {c' : Client (Line (σ × Bytes))}
    (hconveys : m.Conveys a (srv.answer c.server ⟨c.reqID + 1, o.type, o.payload⟩).1)
    (hstep : Client.handler srv.peer.cut c o = (r, c')) :
  c'.Idle ∧
  (wireCoupling.ans o m r (m.reported a) ∧
      c'.server = (srv.answer c.server ⟨c.reqID + 1, o.type, o.payload⟩).2 ∨
    ∃ err, wireCoupling.ans o m r (.error err) ∧ (c'.server = c.server ∨
      c'.server = (srv.answer c.server ⟨c.reqID + 1, o.type, o.payload⟩).2))
  := by
  obtain ⟨hnext, hresult⟩ := h.handler srv hop.1 (length_pos_of_parse hop.2)
  rw [hstep] at hnext hresult
  refine ⟨hnext, ?_⟩
  rcases hresult with ⟨hr, hserver⟩ | ⟨⟨err, hr⟩, hserver⟩
  · exact .inl ⟨.inl ⟨_, a, hr, hconveys, rfl⟩, hserver⟩
  · exact .inr ⟨err, .inr ⟨err, hr, rfl⟩, hserver⟩

end

/-! ### Programs over a connection that breaks -/

section

variable {σ τ : Type} {srv : Server σ} {svc : Service τ} {R : σ → τ → Prop}

/-- A service that is reached over a connection that breaks: a message is answered, or it fails,
and then the service has answered it or not. -/
def Service.Unreliable (svc : Service τ) : Behaviour Message.Res τ := fun u m r u' =>
  r = m.reported (svc u m).1 ∧ u' = (svc u m).2 ∨
    (∃ err, r = .error err) ∧ (u' = u ∨ u' = (svc u m).2)

/-- Calls of methods on a service that is reached over a connection that breaks. -/
def Service.UnreliableCalls (svc : Service τ) : Behaviour ClientCall.Res τ := fun u call r u' =>
  Run svc.Unreliable call.meaning u r u'

/-- A message over a connection that breaks is one to an unreliable service. -/
theorem Serves.unreliable (h : Serves srv svc R) :
  Simulates wireCoupling (fun c u => c.Idle ∧ R c.server u)
    (Client.handler srv.peer.cut).behaviour svc.Unreliable
  := by
  rintro c u o m r c' hop ⟨hidle, hR⟩ hstep
  obtain ⟨hconveys, hR'⟩ := h c.server u ⟨c.reqID + 1, o.type, o.payload⟩ m hR hop.2
  obtain ⟨hnext, ⟨hans, hserver⟩ | ⟨err, hans, hserver⟩⟩ := hidle.exchange hop hconveys hstep
  · refine ⟨_, _, .inl ⟨rfl, rfl⟩, hans, hnext, ?_⟩
    rw [hserver]
    exact hR'
  · rcases hserver with hserver | hserver
    · exact ⟨_, u, .inr ⟨⟨err, rfl⟩, .inl rfl⟩, hans, hnext, hserver ▸ hR⟩
    · exact ⟨_, _, .inr ⟨⟨err, rfl⟩, .inr rfl⟩, hans, hnext, hserver ▸ hR'⟩

/-- Over a connection that breaks after any write or at any byte of an answer, a program that
calls the methods of the client returns what it may return on the unreliable service, and the
server is in the state that it leaves. -/
theorem calls_unreliable {α : Type} (h : Serves srv svc R) {s : σ} {u : τ} (hR : R s u)
    (reqID : UInt32) (writes bytes : Nat) (p : Program ClientCall.Res α) :
  let out := p.interp (Client.calls srv.peer.cut) ⟨reqID, ⟨(s, []), writes, bytes⟩, []⟩
  ∃ u', Run svc.UnreliableCalls p u out.1 u' ∧ R out.2.server u'
  := by
  let Q : Client (Line (σ × Bytes)) → τ → Prop := fun c u => c.Idle ∧ R c.server u
  have hcall : ∀ ⦃c : Client (Line (σ × Bytes))⦄ ⦃u : τ⦄ ⦃call : ClientCall⦄ ⦃r c'⦄, True → Q c u →
      (Client.calls srv.peer.cut).behaviour c call r c' →
        ∃ u', svc.UnreliableCalls u call r u' ∧ Q c' u' := by
    intro c u call r c' _ hQ hstep
    obtain ⟨r', u', hrun, rfl, hQ'⟩ :=
      (program_matches call).run h.unreliable hQ (run_behaviour_iff.mpr hstep)
    exact ⟨u', hrun, hQ'⟩
  intro out
  have hrun : Run (Client.calls srv.peer.cut).behaviour p ⟨reqID, ⟨(s, []), writes, bytes⟩, []⟩
      out.1 out.2 := run_behaviour_iff.mpr rfl
  have hstart : Q ⟨reqID, ⟨(s, []), writes, bytes⟩, []⟩ u := ⟨⟨rfl, .inr rfl⟩, hR⟩
  obtain ⟨u', hrun', hQ'⟩ := p.uses_true.run_simulated hcall hstart hrun
  exact ⟨u', hrun', hQ'.2⟩

end

/-- The connection breaks within the answer to an add request: the interface is added although the
call fails. -/
theorem calls_unreliable_lost :
  ∃ r, r.toOption = none ∧ Run nameService.UnreliableCalls
    (Program.perform (ClientCall.interfaceAdd { name := lit "p0", type := .tap })) [] r [lit "p0"]
  := by
  let p : Program ClientCall.Res (Except GoError UInt16) :=
    Program.perform (ClientCall.interfaceAdd { name := lit "p0", type := .tap })
  let out := p.interp (Client.calls (serverOf nameService).peer.cut) ⟨0, ⟨([], []), 2, 3⟩, []⟩
  have hfailed : out.1.toOption = none := by decide +kernel
  have hserver : out.2.server = [lit "p0"] := by decide +kernel
  obtain ⟨u', hrun, rfl⟩ := calls_unreliable (serverOf_serves nameService_renders) rfl 0 2 3 p
  refine ⟨out.1, hfailed, ?_⟩
  rw [← hserver]
  exact hrun

end GroutCni
