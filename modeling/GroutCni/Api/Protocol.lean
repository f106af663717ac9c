import GroutCni.Go.Basic
import GroutCni.Wire.Bytes

/-!
# The wire protocol

Requests and responses of `pkg/groutapi/protocol.go`, and the two ways in which the client
sends a request: `request` reads one response, `requestStream` reads responses up to an empty
one.

A `Client` holds the bytes that have arrived and not been read.  What arrives is up to the
peer: each write is passed to it, and may fail or make it send bytes.  When a read finds fewer
bytes than it needs, no more will come.
-/

namespace GroutCni

open Wire

/-- `maxMsgLen`. -/
def maxMsgLen : Nat := 128 * 1024

/-- `apiVersion`. -/
def apiVersion : UInt32 := 3

/-! ### Message types -/

/-- `GR_MSG_TYPE(module, id)`. -/
def msgType (module id : UInt32) : UInt32 := module <<< 16 ||| id

/-- `moduleMain`. -/
def moduleMain : UInt32 := 0xcafe

/-- `moduleInfra`. -/
def moduleInfra : UInt32 := 0xacdc

/-- `moduleIP4`. -/
def moduleIP4 : UInt32 := 0xf00d

/-- `moduleIP6`. -/
def moduleIP6 : UInt32 := 0xfeed

/-- `moduleL2`. -/
def moduleL2 : UInt32 := 0xbabe

/-- `TypeHello`. -/
def typeHello : UInt32 := msgType moduleMain 0x1981

/-- `TypeIfaceAdd`. -/
def typeIfaceAdd : UInt32 := msgType moduleInfra 0x0001

/-- `TypeIfaceDel`. -/
def typeIfaceDel : UInt32 := msgType moduleInfra 0x0002

/-- `TypeIfaceList`. -/
def typeIfaceList : UInt32 := msgType moduleInfra 0x0004

/-- `TypeIP4RouteAdd`. -/
def typeIP4RouteAdd : UInt32 := msgType moduleIP4 0x0001

/-- `TypeIP4RouteDel`. -/
def typeIP4RouteDel : UInt32 := msgType moduleIP4 0x0002

/-- `TypeIP4AddrAdd`. -/
def typeIP4AddrAdd : UInt32 := msgType moduleIP4 0x0005

/-- `TypeIP4AddrDel`. -/
def typeIP4AddrDel : UInt32 := msgType moduleIP4 0x0006

/-- `TypeIP4AddrFlush`. -/
def typeIP4AddrFlush : UInt32 := msgType moduleIP4 0x0008

/-- `TypeIP6RouteAdd`. -/
def typeIP6RouteAdd : UInt32 := msgType moduleIP6 0x0001

/-- `TypeIP6RouteDel`. -/
def typeIP6RouteDel : UInt32 := msgType moduleIP6 0x0002

/-- `TypeIP6AddrAdd`. -/
def typeIP6AddrAdd : UInt32 := msgType moduleIP6 0x0005

/-- `TypeIP6AddrDel`. -/
def typeIP6AddrDel : UInt32 := msgType moduleIP6 0x0006

/-- `TypeIP6AddrFlush`. -/
def typeIP6AddrFlush : UInt32 := msgType moduleIP6 0x0008

/-- `TypeFloodAdd`. -/
def typeFloodAdd : UInt32 := msgType moduleL2 0x0007

/-- `TypeFloodDel`. -/
def typeFloodDel : UInt32 := msgType moduleL2 0x0008

/-- `TypeFloodList`. -/
def typeFloodList : UInt32 := msgType moduleL2 0x0009

/-! ### Headers -/

/-- The size of a header on the wire. -/
def headerSize : Nat := 12

/-- `RequestHeader`. -/
structure RequestHeader where
  id : UInt32
  type : UInt32
  payloadLen : UInt32
  deriving DecidableEq

/-- `ResponseHeader`. -/
structure ResponseHeader where
  forID : UInt32
  status : UInt32
  payloadLen : UInt32
  deriving DecidableEq

/-- Three numbers of four bytes, as `binary.Write` writes a header. -/
def headerBytes (a b c : UInt32) : Bytes :=
  toLE 4 a.toNat ++ (toLE 4 b.toNat ++ toLE 4 c.toNat)

/-- The number of four bytes at an offset, `byteOrder.Uint32`. -/
def uint32At (b : Bytes) (off : Nat) : UInt32 := UInt32.ofNat (ofLE (slice b off 4))

/-- The number of two bytes at an offset, `byteOrder.Uint16`. -/
def uint16At (b : Bytes) (off : Nat) : UInt16 := UInt16.ofNat (ofLE (slice b off 2))

/-- A request header on the wire. -/
def RequestHeader.bytes (hdr : RequestHeader) : Bytes :=
  headerBytes hdr.id hdr.type hdr.payloadLen

/-- A response header on the wire. -/
def ResponseHeader.bytes (hdr : ResponseHeader) : Bytes :=
  headerBytes hdr.forID hdr.status hdr.payloadLen

/-- The response header that `binary.Read` makes of bytes. -/
def ResponseHeader.ofBytes (b : Bytes) : ResponseHeader :=
  ⟨uint32At b 0, uint32At b 4, uint32At b 8⟩

/-! ### Reading -/

/-- `io.ReadFull`: the first `n` bytes, and the bytes left.  A read that finds fewer takes
them all and fails. -/
def readFull (n : Nat) (s : Bytes) : Except GoError Bytes × Bytes :=
  if n ≤ s.length then (.ok (s.take n), s.drop n)
  else if s = [] then (.error (.other "EOF"), [])
  else (.error (.other "unexpected EOF"), [])

/-- `readResponse`. -/
def readResponse (s : Bytes) : Except GoError (ResponseHeader × Bytes) × Bytes :=
  match readFull headerSize s with
  | (.error err, s) => (.error (.wrapf "reading response header: %w" [] err), s)
  | (.ok b, s) =>
  let hdr := ResponseHeader.ofBytes b
  if hdr.payloadLen.toNat > maxMsgLen then
    (.error (.errorf "response payload too large: %d" [.num hdr.payloadLen.toNat]), s)
  else if hdr.payloadLen > 0 then
    match readFull hdr.payloadLen.toNat s with
    | (.error err, s) => (.error (.wrapf "reading response payload: %w" [] err), s)
    | (.ok payload, s) => (.ok (hdr, payload), s)
  else (.ok (hdr, []), s)

/-- What `request` and `requestStream` check of each response. -/
def checkHeader (id : UInt32) (hdr : ResponseHeader) : Except GoError Unit :=
  if hdr.forID ≠ id then
    .error (.errorf "response ID mismatch: got %d, want %d" [.num hdr.forID.toNat, .num id.toNat])
  else if hdr.status ≠ 0 then
    .error (.errorf "grout error: status %d" [.num hdr.status.toNat])
  else .ok ()

/-- The loop of `requestStream`, with the items read so far.  Every response takes bytes, so
as many rounds as there are bytes are enough. -/
def readItems (id : UInt32) : Nat → List Bytes → Bytes → Except GoError (List Bytes) × Bytes
  | 0, _, s => (.error (.wrapf "reading response header: %w" [] (.other "EOF")), s)
  | fuel + 1, items, s =>
      match readResponse s with
      | (.error err, s) => (.error err, s)
      | (.ok (hdr, payload), s) =>
      match checkHeader id hdr with
      | .error err => (.error err, s)
      | .ok () =>
      if hdr.payloadLen = 0 then (.ok items, s)
      else readItems id fuel (items ++ [payload]) s

/-- What `requestStream` makes of the bytes that arrive. -/
def readStream (id : UInt32) (s : Bytes) : Except GoError (List Bytes) × Bytes :=
  readItems id (s.length + 1) [] s

/-! ### The client -/

/-- The other end of a connection: what it sends when bytes are written to it, unless the
write fails. -/
structure Peer (σ : Type) where
  write : σ → Bytes → Except GoError Bytes × σ

/-- `Client`, with the state of its peer and the bytes that have arrived. -/
structure Client (σ : Type) where
  reqID : UInt32
  peer : σ
  input : Bytes

/-- What `request` decodes a response into: nothing, or the id of an interface. -/
inductive Resp where
  | nil
  | ifaceID
  deriving DecidableEq

/-- The value that is decoded. -/
def Resp.Val : Resp → Type
  | .nil => Unit
  | .ifaceID => UInt16

/-- The value before anything is decoded. -/
def Resp.zero : (resp : Resp) → resp.Val
  | .nil => ()
  | .ifaceID => (0 : UInt16)

/-- `binary.Read` of a payload. -/
def Resp.read : (resp : Resp) → Bytes → Except GoError resp.Val
  | .nil, _ => .ok ()
  | .ifaceID, payload =>
      match readFull 2 payload with
      | (.error err, _) => .error err
      | (.ok b, _) => .ok (uint16At b 0)

/-- The end of `request`: decode the payload, unless it is empty or nothing is expected. -/
def Resp.decode (resp : Resp) (payload : Bytes) : Except GoError resp.Val :=
  if resp ≠ .nil ∧ payload.length > 0 then
    match resp.read payload with
    | .error err => .error (.wrapf "decoding response: %w" [] err)
    | .ok v => .ok v
  else .ok resp.zero

namespace Client

variable {σ : Type}

/-- `conn.Write`: the peer takes the bytes, and what it sends arrives. -/
def write (P : Peer σ) (c : Client σ) (b : Bytes) : Except GoError Unit × Client σ :=
  match P.write c.peer b with
  | (.error err, peer) => (.error err, { c with peer })
  | (.ok sent, peer) => (.ok (), { c with peer, input := c.input ++ sent })

/-- `writeRequest`. -/
def writeRequest (P : Peer σ) (c : Client σ) (id type : UInt32) (payload : Bytes) :
    Except GoError Unit × Client σ :=
  let hdr : RequestHeader := ⟨id, type, UInt32.ofNat payload.length⟩
  match c.write P hdr.bytes with
  | (.error err, c) => (.error (.wrapf "writing request header: %w" [] err), c)
  | (.ok (), c) =>
  if payload.length > 0 then
    match c.write P payload with
    | (.error err, c) => (.error (.wrapf "writing request payload: %w" [] err), c)
    | (.ok (), c) => (.ok (), c)
  else (.ok (), c)

/-- `nextID` and `writeRequest`, with which both kinds of requests begin. -/
def send (P : Peer σ) (c : Client σ) (type : UInt32) (payload : Bytes) :
    Except GoError Unit × Client σ :=
  writeRequest P { c with reqID := c.reqID + 1 } (c.reqID + 1) type payload

/-- `request`. -/
def request (P : Peer σ) (c : Client σ) (type : UInt32) (payload : Bytes) (resp : Resp) :
    Except GoError resp.Val × Client σ :=
  match c.send P type payload with
  | (.error err, c) => (.error err, c)
  | (.ok (), c) =>
  match readResponse c.input with
  | (.error err, input) => (.error err, { c with input })
  | (.ok (hdr, respPayload), input) =>
  match checkHeader c.reqID hdr with
  | .error err => (.error err, { c with input })
  | .ok () => (resp.decode respPayload, { c with input })

/-- `requestStream`. -/
def requestStream (P : Peer σ) (c : Client σ) (type : UInt32) (payload : Bytes) :
    Except GoError (List Bytes) × Client σ :=
  match c.send P type payload with
  | (.error err, c) => (.error err, c)
  | (.ok (), c) =>
  let (items, input) := readStream c.reqID c.input
  (items, { c with input })

end Client

end GroutCni
