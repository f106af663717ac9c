import GroutCni.Api.Client
import GroutCni.Api.Stream

/-!
# Servers

A `Server` takes one request after another and answers each with its id: a list request with
a list, any other request with one response.  `Server.peer` is such a server at the other end
of a connection, and `Server.rpc` is what it means to the methods of the client: the answer to
a request, without bytes.

When the client and the server are in step, each request reads its own answer and leaves them
in step (`Client.InStep.handler`).
-/

namespace GroutCni

open Effect Wire

/-! ### Servers -/

/-- A request as the server sees it. -/
structure Request where
  id : UInt32
  type : UInt32
  payload : Bytes

/-- One response. -/
structure PlainAnswer where
  status : UInt32
  payload : Bytes
  length_le : payload.length ≤ maxMsgLen

/-- A list: items, and then an empty response or one that reports a failure. -/
structure ListAnswer where
  items : List Bytes
  isItem : ∀ p ∈ items, IsItem p
  failure : Option PlainAnswer
  status_ne_zero : ∀ f ∈ failure, f.status ≠ 0

/-- The answer to a request. -/
inductive Answer where
  | plain (a : PlainAnswer)
  | list (a : ListAnswer)

/-- The types of the requests that are answered with a list. -/
def isListType (type : UInt32) : Bool :=
  type = typeIfaceList ∨ type = typeFloodList

/-- A server: its answers, which may depend on everything that it has been asked before. -/
structure Server (σ : Type) where
  plain : σ → Request → PlainAnswer × σ
  list : σ → Request → ListAnswer × σ

/-- The last response of a list. -/
def ListAnswer.last (a : ListAnswer) (id : UInt32) : Bytes :=
  match a.failure with
  | none => frame id 0 []
  | some f => frame id f.status f.payload

/-- An answer on the wire. -/
def Answer.bytes (id : UInt32) : Answer → Bytes
  | .plain a => frame id a.status a.payload
  | .list a => (a.items.map (frame id 0)).flatten ++ a.last id

/-- The first request among the bytes that a server has received, if it is complete. -/
def takeRequest (b : Bytes) : Option (Request × Bytes) :=
  if b.length < headerSize then none
  else if b.length < headerSize + (uint32At b 8).toNat then none
  else some (⟨uint32At b 0, uint32At b 4, slice b headerSize (uint32At b 8).toNat⟩,
    b.drop (headerSize + (uint32At b 8).toNat))

namespace Server

variable {σ : Type} (srv : Server σ)

/-- The answer to a request. -/
def answer (s : σ) (req : Request) : Answer × σ :=
  if isListType req.type then ((.list (srv.list s req).1), (srv.list s req).2)
  else (.plain (srv.plain s req).1, (srv.plain s req).2)

/-- Answer the complete requests among the bytes received; the bytes after them are kept. -/
def serve : Nat → σ → Bytes → Bytes × (σ × Bytes)
  | 0, s, b => ([], (s, b))
  | fuel + 1, s, b =>
      match takeRequest b with
      | none => ([], (s, b))
      | some (req, b) =>
          let (a, s) := srv.answer s req
          let (out, rest) := serve fuel s b
          (a.bytes req.id ++ out, rest)

/-- The server at the other end of a connection. -/
def peer : Peer (σ × Bytes) where
  write := fun (s, b) data =>
    let (out, rest) := srv.serve (b ++ data).length s (b ++ data)
    (.ok out, rest)

end Server

/-! ### Requests -/

namespace Client

variable {σ : Type}

/-- The client performs the operations of the methods. -/
def handler (P : Peer σ) : Handler Api.RpcOp.Res (Client σ) := fun c o =>
  match o with
  | .request type payload resp => c.request P type payload resp
  | .requestStream type payload => c.requestStream P type payload

end Client

/-! ### Requests without bytes -/

/-- A server with the id of the last request and a log of its answers. -/
structure Rpc (σ : Type) where
  server : σ
  reqID : UInt32
  answered : List Answer

/-- What `request` returns for one response. -/
def PlainAnswer.outcome (a : PlainAnswer) (resp : Resp) : Except GoError resp.Val :=
  if a.status ≠ 0 then .error (.errorf "grout error: status %d" [.num a.status.toNat])
  else resp.decode a.payload

/-- What `requestStream` returns for a list. -/
def ListAnswer.outcome (a : ListAnswer) : Except GoError (List Bytes) :=
  match a.failure with
  | none => .ok a.items
  | some f => .error (.errorf "grout error: status %d" [.num f.status.toNat])

/-- What an operation returns for an answer. -/
def outcome : (o : Api.RpcOp) → Answer → o.Res
  | .request _ _ resp, .plain a => a.outcome resp
  | .requestStream _ _, .list a => a.outcome
  -- A server does not answer so.
  | .request _ _ _, .list _ => .error (.other "a list")
  | .requestStream _ _, .plain _ => .error (.other "not a list")

namespace Server

variable {σ : Type} (srv : Server σ)

/-- What the server means to the methods: an operation gets the answer to its request. -/
def rpc : Handler Api.RpcOp.Res (Rpc σ) := fun t o =>
  let (a, s) := srv.answer t.server ⟨t.reqID + 1, o.type, o.payload⟩
  (outcome o a, ⟨s, t.reqID + 1, t.answered ++ [a]⟩)

end Server

/-- The client and the server are in step: the server waits for a request, and nothing is left
to read. -/
structure Client.InStep {σ : Type} (c : Client (σ × Bytes)) (t : Rpc σ) : Prop where
  reqID : c.reqID = t.reqID
  server : c.peer.1 = t.server
  received : c.peer.2 = []
  input : c.input = []

/-- The operation reads a list. -/
def Api.RpcOp.isStream : Api.RpcOp → Bool
  | .request _ _ _ => false
  | .requestStream _ _ => true

/-- The request is of a type that is answered as the operation expects, and its length fits
into the header. -/
def Proper (o : Api.RpcOp) : Prop :=
  o.payload.length < 2 ^ 32 ∧ isListType o.type = o.isStream

/-! ### One request -/

section

variable {σ : Type} {srv : Server σ}

theorem uint32At_append {a b : Bytes} {off : Nat} (h : off + 4 ≤ a.length) :
  uint32At (a ++ b) off = uint32At a off
  := by
  rw [uint32At, uint32At, slice_append_left _ h]

/-- A request on the wire. -/
theorem takeRequest_bytes (id type : UInt32) {payload : Bytes} (h : payload.length < 2 ^ 32) :
  takeRequest (RequestHeader.bytes ⟨id, type, UInt32.ofNat payload.length⟩ ++ payload)
    = some (⟨id, type, payload⟩, [])
  := by
  have hhdr : (RequestHeader.bytes ⟨id, type, UInt32.ofNat payload.length⟩).length
      = headerSize := length_headerBytes _ _ _
  have hsize : headerSize = 12 := rfl
  obtain ⟨hid, htype, hlen⟩ := uint32At_headerBytes id type (UInt32.ofNat payload.length)
  have hpayload : (UInt32.ofNat payload.length).toNat = payload.length :=
    UInt32.toNat_ofNat_of_lt' h
  unfold takeRequest
  rw [uint32At_append (by omega), uint32At_append (by omega), uint32At_append (by omega),
    RequestHeader.bytes, hid, htype, hlen, hpayload]
  rw [RequestHeader.bytes] at hhdr
  rw [if_neg (by rw [List.length_append]; omega), if_neg (by rw [List.length_append]; omega),
    slice_append_right _ hhdr.le, hhdr, Nat.sub_self, slice_self rfl, List.drop_eq_nil_of_le]
  rw [List.length_append]
  omega

/-- A header alone is not a complete request if it announces a payload. -/
theorem takeRequest_header {hdr : RequestHeader} (h : 0 < hdr.payloadLen.toNat) :
  takeRequest hdr.bytes = none
  := by
  have hlen := (uint32At_headerBytes hdr.id hdr.type hdr.payloadLen).2.2
  unfold takeRequest
  rw [RequestHeader.bytes, hlen, length_headerBytes, if_neg (Nat.lt_irrefl _),
    if_pos (Nat.lt_add_of_pos_right h)]

theorem serve_nil (fuel : Nat) (s : σ) :
  srv.serve fuel s [] = ([], (s, []))
  := by
  cases fuel with
  | zero => rfl
  | succ fuel => rfl

/-- An incomplete request is kept. -/
theorem peer_write_incomplete {s : σ} {data : Bytes} (h : takeRequest data = none) :
  srv.peer.write (s, []) data = (.ok [], (s, data))
  := by
  unfold Server.peer
  dsimp only
  rw [List.nil_append]
  cases data.length with
  | zero => rfl
  | succ fuel => rw [Server.serve, h]

/-- A request that is complete now is answered. -/
theorem peer_write_complete {s : σ} {b data all : Bytes} {req : Request} (hall : b ++ data = all)
    (h : takeRequest all = some (req, [])) :
  srv.peer.write (s, b) data
    = (.ok ((srv.answer s req).1.bytes req.id), ((srv.answer s req).2, []))
  := by
  have hlen : all.length ≠ 0 := by
    intro hzero
    rw [List.eq_nil_of_length_eq_zero hzero] at h
    cases h
  obtain ⟨fuel, hfuel⟩ := Nat.exists_eq_succ_of_ne_zero hlen
  unfold Server.peer
  dsimp only
  rw [hall, hfuel, Server.serve, h]
  dsimp only
  rw [serve_nil]
  dsimp only
  rw [List.append_nil]

/-- In step, a request is sent as a whole, and the bytes of its answer arrive. -/
theorem Client.InStep.send {c : Client (σ × Bytes)} {t : Rpc σ} (h : c.InStep t)
    (srv : Server σ) (type : UInt32) {payload : Bytes} (hlen : payload.length < 2 ^ 32) :
  c.send srv.peer type payload
    = (.ok (), ⟨t.reqID + 1,
        ((srv.answer t.server ⟨t.reqID + 1, type, payload⟩).2, []),
        (srv.answer t.server ⟨t.reqID + 1, type, payload⟩).1.bytes (t.reqID + 1)⟩)
  := by
  obtain ⟨reqID, ⟨s, b⟩, input⟩ := c
  obtain ⟨rfl, rfl, rfl, rfl⟩ := h
  have htake := takeRequest_bytes (t.reqID + 1) type hlen
  unfold Client.send Client.writeRequest Client.write
  dsimp only
  by_cases hpos : payload.length > 0
  · have hhdr : takeRequest (RequestHeader.bytes ⟨t.reqID + 1, type, .ofNat payload.length⟩)
        = none := by
      apply takeRequest_header
      rw [UInt32.toNat_ofNat_of_lt' hlen]
      exact hpos
    rw [peer_write_incomplete hhdr]
    dsimp only
    rw [if_pos hpos, peer_write_complete rfl htake]
    rfl
  · obtain rfl := List.eq_nil_of_length_eq_zero (Nat.eq_zero_of_not_pos hpos)
    rw [List.append_nil] at htake
    rw [peer_write_complete (List.nil_append _) htake]
    rfl

/-- In step, `request` reads the answer and nothing else. -/
theorem Client.InStep.request {c : Client (σ × Bytes)} {t : Rpc σ} (h : c.InStep t)
    {type : UInt32} {payload : Bytes} {resp : Resp} (hlen : payload.length < 2 ^ 32)
    (htype : isListType type = false) :
  (c.request srv.peer type payload resp).1 = (srv.rpc t (.request type payload resp)).1 ∧
    (c.request srv.peer type payload resp).2.InStep (srv.rpc t (.request type payload resp)).2
  := by
  have hsend := h.send srv type hlen
  have hanswer : srv.answer t.server ⟨t.reqID + 1, type, payload⟩
      = (.plain (srv.plain t.server ⟨t.reqID + 1, type, payload⟩).1,
        (srv.plain t.server ⟨t.reqID + 1, type, payload⟩).2) := by
    rw [Server.answer, htype]
    rfl
  rw [hanswer] at hsend
  unfold Client.request Server.rpc Api.RpcOp.type Api.RpcOp.payload
  dsimp only
  rw [hsend, hanswer]
  generalize srv.plain t.server ⟨t.reqID + 1, type, payload⟩ = a
  obtain ⟨⟨status, answer, hmax⟩, s⟩ := a
  have hread := readResponse_frame (t.reqID + 1) status [] hmax
  rw [List.append_nil] at hread
  dsimp only [Answer.bytes]
  rw [hread]
  dsimp only [checkHeader]
  rw [if_neg (not_not_intro rfl)]
  by_cases hstatus : status ≠ 0
  · have hout : PlainAnswer.outcome ⟨status, answer, hmax⟩ resp
        = .error (.errorf "grout error: status %d" [.num status.toNat]) := if_pos hstatus
    rw [if_pos hstatus]
    exact ⟨hout.symm, rfl, rfl, rfl, rfl⟩
  · have hout : PlainAnswer.outcome ⟨status, answer, hmax⟩ resp = resp.decode answer :=
      if_neg hstatus
    rw [if_neg hstatus]
    exact ⟨hout.symm, rfl, rfl, rfl, rfl⟩

/-- The last response of a list ends the loop. -/
theorem readItems_last (id : UInt32) (a : ListAnswer) (fuel : Nat) :
  readItems id (fuel + 1) a.items (a.last id) = (a.outcome, [])
  := by
  obtain ⟨items, hitems, failure, hfail⟩ := a
  cases failure with
  | none =>
      have hend : readItems id (fuel + 1) items (frame id 0 [] ++ []) = (.ok items, []) :=
        readItems_end fuel
      rw [List.append_nil] at hend
      exact hend
  | some f =>
      have hread := readResponse_frame id f.status [] f.length_le
      rw [List.append_nil] at hread
      dsimp only [ListAnswer.last, ListAnswer.outcome]
      rw [readItems, hread]
      dsimp only [checkHeader]
      rw [if_neg (not_not_intro rfl), if_pos (hfail f rfl)]

/-- Reading a list takes all of it. -/
theorem readStream_bytes (id : UInt32) (a : ListAnswer) :
  readStream id ((Answer.list a).bytes id) = (a.outcome, [])
  := by
  obtain ⟨fuel, hfuel⟩ : ∃ fuel, readStream id ((a.items.map (frame id 0)).flatten ++ a.last id)
      = readItems id (fuel + 1) a.items (a.last id) := readStream_items a.isItem
  rw [Answer.bytes, hfuel, readItems_last]

/-- In step, `requestStream` reads the answer and nothing else. -/
theorem Client.InStep.requestStream {c : Client (σ × Bytes)} {t : Rpc σ} (h : c.InStep t)
    {type : UInt32} {payload : Bytes} (hlen : payload.length < 2 ^ 32)
    (htype : isListType type = true) :
  (c.requestStream srv.peer type payload).1 = (srv.rpc t (.requestStream type payload)).1 ∧
    (c.requestStream srv.peer type payload).2.InStep
      (srv.rpc t (.requestStream type payload)).2
  := by
  have hsend := h.send srv type hlen
  have hanswer : srv.answer t.server ⟨t.reqID + 1, type, payload⟩
      = (.list (srv.list t.server ⟨t.reqID + 1, type, payload⟩).1,
        (srv.list t.server ⟨t.reqID + 1, type, payload⟩).2) := by
    rw [Server.answer, htype]
    rfl
  rw [hanswer] at hsend
  unfold Client.requestStream Server.rpc Api.RpcOp.type Api.RpcOp.payload
  dsimp only
  rw [hsend, hanswer]
  dsimp only
  rw [readStream_bytes]
  exact ⟨rfl, rfl, rfl, rfl, rfl⟩

/-- In step, an operation gets the answer to its request, and the client stays in step. -/
theorem Client.InStep.handler {c : Client (σ × Bytes)} {t : Rpc σ} {o : Api.RpcOp}
    (srv : Server σ) (ho : Proper o) (h : c.InStep t) :
  (Client.handler srv.peer c o).1 = (srv.rpc t o).1 ∧
    (Client.handler srv.peer c o).2.InStep (srv.rpc t o).2
  := by
  obtain ⟨hlen, hkind⟩ := ho
  cases o with
  | request type payload resp => exact h.request hlen hkind
  | requestStream type payload => exact h.requestStream hlen hkind

end

end GroutCni
