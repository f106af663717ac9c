import GroutCni.Api.Protocol
import GroutCni.Api.Types
import GroutCni.Effect.Interp

/-!
# The methods of the client

The methods of `pkg/groutapi/client.go`.  A method makes the payload of its request, sends it
with `request` or `requestStream`, and decodes what comes back: it is a program over these two
operations.  The payloads have the layouts of grout's C structures.
-/

namespace GroutCni.Api

open Effect Wire

/-! ### Requests -/

/-- The operations of the methods. -/
inductive RpcOp where
  | request (type : UInt32) (payload : Bytes) (resp : Resp)
  | requestStream (type : UInt32) (payload : Bytes)

namespace RpcOp

/-- The value an operation returns when it succeeds. -/
def Val : RpcOp → Type
  | .request _ _ resp => resp.Val
  | .requestStream _ _ => List Bytes

/-- What an operation returns. -/
abbrev Res (o : RpcOp) : Type := Except GoError o.Val

/-- The message type of a request. -/
def type : RpcOp → UInt32
  | .request type _ _ => type
  | .requestStream type _ => type

/-- The payload of a request. -/
def payload : RpcOp → Bytes
  | .request _ payload _ => payload
  | .requestStream _ payload => payload

end RpcOp

/-- Programs that send requests. -/
abbrev ClientProg (α : Type) : Type := Program RpcOp.Res α

/-- Send a request and read one response. -/
def request (type : UInt32) (payload : Bytes) (resp : Resp) :
    ClientProg (Except GoError resp.Val) :=
  @Program.perform RpcOp RpcOp.Res (.request type payload resp)

/-- Send a request and read a list. -/
def requestStream (type : UInt32) (payload : Bytes) : ClientProg (Except GoError (List Bytes)) :=
  @Program.perform RpcOp RpcOp.Res (.requestStream type payload)

/-- Send a request from which nothing is read, and wrap its error. -/
def requestNil (type : UInt32) (payload : Bytes) (format : String) (args : List FmtArg) :
    ClientProg (Except GoError Unit) := do
  match ← (request type payload .nil : ClientProg (Except GoError Unit)) with
  | .error err => return .error (.wrapf format args err)
  | .ok _ => return .ok ()

/-! ### Layouts -/

/-- `ifNameSize`. -/
def ifNameSize : Nat := 16

/-- `ifDescSize`. -/
def ifDescSize : Nat := 256

/-- `portDevargsSize`. -/
def portDevargsSize : Nat := 128

/-- `portDriverSize`. -/
def portDriverSize : Nat := 32

/-- `ifaceBaseSize`. -/
def ifaceBaseSize : Nat := 20

/-- `ifaceSize`. -/
def ifaceSize : Nat := ifaceBaseSize + ifNameSize + ifDescSize

/-- `portInfoBaseSize`. -/
def portInfoBaseSize : Nat := 14

/-- `portInfoSize`. -/
def portInfoSize : Nat := portInfoBaseSize + portDevargsSize + portDriverSize

/-- `bridgeMaxMembers`. -/
def bridgeMaxMembers : Nat := 64

/-- `bridgeInfoBase`. -/
def bridgeInfoBase : Nat := 12

/-- `bridgeInfoSize`. -/
def bridgeInfoSize : Nat := bridgeInfoBase + bridgeMaxMembers * 2

/-- `offBridgeInfoMAC`. -/
def offBridgeInfoMAC : Nat := 4

/-- `l3AddrSize`. -/
def l3AddrSize : Nat := 20

/-- `offL3AddrAF`. -/
def offL3AddrAF : Nat := 0

/-- `offL3AddrIPv4`. -/
def offL3AddrIPv4 : Nat := 4

/-- `afIP4`. -/
def afIP4 : UInt8 := 2

/-- `ip6AddrReqSize`. -/
def ip6AddrReqSize : Nat := 22

/-- `offIP6IfaceID`. -/
def offIP6IfaceID : Nat := 0

/-- `offIP6Addr`. -/
def offIP6Addr : Nat := 2

/-- `offIP6Prefix`. -/
def offIP6Prefix : Nat := 18

/-- `offIP6Flag`. -/
def offIP6Flag : Nat := 20

/-- `ip6RouteAddReqSize`. -/
def ip6RouteAddReqSize : Nat := 44

/-- `offIP6RteVRF`. -/
def offIP6RteVRF : Nat := 0

/-- `offIP6RteDest`. -/
def offIP6RteDest : Nat := 2

/-- `offIP6RteDestPfx`. -/
def offIP6RteDestPfx : Nat := 18

/-- `offIP6RteNH`. -/
def offIP6RteNH : Nat := 19

/-- `offIP6RteOrigin`. -/
def offIP6RteOrigin : Nat := 40

/-- `offIP6RteExistOK`. -/
def offIP6RteExistOK : Nat := 41

/-- `ip6RouteDelReqSize`. -/
def ip6RouteDelReqSize : Nat := 20

/-- `offIP6RteDelMissing`. -/
def offIP6RteDelMissing : Nat := 19

/-- `vxlanInfoSize`. -/
def vxlanInfoSize : Nat := 36

/-- `offVxlanVNI`. -/
def offVxlanVNI : Nat := 0

/-- `offVxlanEncapVRF`. -/
def offVxlanEncapVRF : Nat := 4

/-- `offVxlanDstPort`. -/
def offVxlanDstPort : Nat := 6

/-- `offVxlanLocal`. -/
def offVxlanLocal : Nat := 8

/-- `floodEntrySize`. -/
def floodEntrySize : Nat := 28

/-- `floodReqSize`. -/
def floodReqSize : Nat := 32

/-- `offFloodType`. -/
def offFloodType : Nat := 0

/-- `offFloodVRFID`. -/
def offFloodVRFID : Nat := 2

/-- `offFloodVTEPVNI`. -/
def offFloodVTEPVNI : Nat := 4

/-- `offFloodVTEPAddr`. -/
def offFloodVTEPAddr : Nat := 8

/-- `floodTypeVTEP`. -/
def floodTypeVTEP : UInt8 := 1

/-- `offIfaceID`. -/
def offIfaceID : Nat := 0

/-- `offIfaceType`. -/
def offIfaceType : Nat := 2

/-- `offIfaceFlags`. -/
def offIfaceFlags : Nat := 4

/-- `offIfaceMTU`. -/
def offIfaceMTU : Nat := 8

/-- `offIfaceDomain`. -/
def offIfaceDomain : Nat := 12

/-- `offIfaceName`. -/
def offIfaceName : Nat := 20

/-- `offIfaceInfo`. -/
def offIfaceInfo : Nat := 292

/-- `offPortDevargs`. -/
def offPortDevargs : Nat := offIfaceInfo + portInfoBaseSize

/-- `grIfaceIDUndef`. -/
def grIfaceIDUndef : UInt16 := 0

/-- `grIfaceFlagUp`. -/
def grIfaceFlagUp : UInt16 := 1

/-- `grVRFDefaultID`. -/
def grVRFDefaultID : UInt16 := 1

/-- A byte at an offset. -/
def u8 (off : Nat) (x : UInt8) : Field := ⟨off, [x]⟩

/-- A number of two bytes at an offset, `byteOrder.PutUint16`. -/
def u16 (off : Nat) (x : UInt16) : Field := ⟨off, toLE 2 x.toNat⟩

/-- A number of four bytes at an offset, `byteOrder.PutUint32`. -/
def u32 (off : Nat) (x : UInt32) : Field := ⟨off, toLE 4 x.toNat⟩

/-- A byte that is set to one if the flag is set. -/
def flag (off : Nat) (b : Bool) : List Field := if b then [u8 off 1] else []

/-- The VRF of a request, the default one if it is zero. -/
def vrfOrDefault (vrfID : UInt16) : UInt16 := if vrfID = 0 then grVRFDefaultID else vrfID

/-- `putL3AddrIPv4`, for an address that begins at an offset. -/
def putL3AddrIPv4 (off : Nat) (ip : IP) : Except GoError (List Field) :=
  match to4 ip with
  | none => .error (.errorf "not an IPv4 address: %s" [.ip ip])
  | some ip4 => .ok [u8 (off + offL3AddrAF) afIP4, ⟨off + offL3AddrIPv4, ip4⟩]

/-- `l3AddrIPv4`. -/
def l3AddrIPv4 (buf : Bytes) : Option IP :=
  if buf.getD offL3AddrAF 0 ≠ afIP4 then none
  else some (slice buf offL3AddrIPv4 4)

/-! ### Interfaces -/

/-- `hello`. -/
def hello : ClientProg (Except GoError Unit) :=
  request typeHello (fill (4 + 128) [u32 0 apiVersion, ⟨4, lit "grout-k-cni"⟩]) .nil

/-- `cString`. -/
def cString (b : Bytes) : GoString := b.takeWhile (· ≠ 0)

/-- The entry of an interface list, unless it is too short. -/
def decodeInterface (data : Bytes) : Option InterfaceInfo :=
  if data.length < ifaceSize then none
  else some {
    id := uint16At data offIfaceID
    type := data.getD offIfaceType 0
    name := cString (slice data offIfaceName ifNameSize)
    domain := uint16At data offIfaceDomain }

/-- `InterfaceList`. -/
def interfaceList (req : InterfaceListRequest) :
    ClientProg (Except GoError (List InterfaceInfo)) := do
  match ← requestStream typeIfaceList [req.type] with
  | .error err => return .error (.wrapf "interface list: %w" [] err)
  | .ok items => return .ok (items.filterMap decodeInterface)

/-- `fnv.New64a` and `Sum64`. -/
def fnv64a (data : GoString) : UInt64 :=
  data.foldl (fun h b => (h ^^^ b.toUInt64) * 1099511628211) 14695981039346656037

/-- `bridgeMAC`. -/
def bridgeMAC (name : GoString) : Bytes :=
  let s := fnv64a name
  [0x02, s.toUInt8, (s >>> 8).toUInt8, (s >>> 16).toUInt8, (s >>> 24).toUInt8,
    (s >>> 32).toUInt8]

/-- `vdevID`. -/
def vdevID (name : GoString) : GoString :=
  (toLowerString name).filter fun r => (0x61 ≤ r ∧ r ≤ 0x7a) ∨ (0x30 ≤ r ∧ r ≤ 0x39)

/-- `tapDevargs`. -/
def tapDevargs (name : GoString) : GoString :=
  lit "net_tap_" ++ vdevID name ++ lit ",iface=" ++ name

/-- `vhostDevargs`. -/
def vhostDevargs (name socketPath : GoString) : GoString :=
  lit "net_vhost_" ++ vdevID name ++ lit ",iface=" ++ socketPath

/-- The devargs of a port: a TAP, or a vhost-user port if there is a socket path. -/
def devargs (req : InterfaceAddRequest) : GoString :=
  if req.vhostUserPath ≠ [] then vhostDevargs req.name req.vhostUserPath
  else tapDevargs req.name

/-- The `gr_iface` base of an add request. -/
def ifaceFields (req : InterfaceAddRequest) : List Field :=
  [u16 offIfaceID grIfaceIDUndef, u8 offIfaceType req.type, u16 offIfaceFlags grIfaceFlagUp] ++
    (if req.domainID ≠ 0 then [u16 offIfaceDomain req.domainID] else []) ++
    (if req.mtu ≠ 0 then [u16 offIfaceMTU req.mtu] else []) ++
    [⟨offIfaceName, req.name.take ifNameSize⟩]

/-- The size of the info section of an add request. -/
def infoSize (type : InterfaceType) : Nat :=
  if type = InterfaceType.bridge then bridgeInfoSize
  else if type = InterfaceType.vxlan then vxlanInfoSize
  else portInfoSize

/-- The info section of a VXLAN interface. -/
def vxlanFields (req : InterfaceAddRequest) : Except GoError (List Field) :=
  match req.vxlan with
  | none =>
      .error (.errorf "interface add %q: VXLAN config required for a VXLAN interface"
        [.str req.name])
  | some vxlan =>
  match putL3AddrIPv4 (offIfaceInfo + offVxlanLocal) vxlan.localAddr with
  | .error err => .error (.wrapf "interface add %q: VXLAN local address: %w" [.str req.name] err)
  | .ok addr =>
      .ok ([u32 (offIfaceInfo + offVxlanVNI) vxlan.vni,
        u16 (offIfaceInfo + offVxlanEncapVRF) vxlan.encapVRFID,
        u16 (offIfaceInfo + offVxlanDstPort) vxlan.dstPort] ++ addr)

/-- The info section of a port. -/
def portFields (req : InterfaceAddRequest) : Except GoError (List Field) :=
  if (devargs req).length ≥ portDevargsSize then
    .error (.errorf "interface add %q: devargs too long (%d >= %d)"
      [.str req.name, .num (devargs req).length, .num portDevargsSize])
  else .ok [⟨offPortDevargs, (devargs req).take portDevargsSize⟩]

/-- The info section of an add request. -/
def infoFields (req : InterfaceAddRequest) : Except GoError (List Field) :=
  if req.type = InterfaceType.bridge then
    .ok [⟨offIfaceInfo + offBridgeInfoMAC, bridgeMAC req.name⟩]
  else if req.type = InterfaceType.vxlan then vxlanFields req
  else portFields req

/-- The payload that `InterfaceAdd` sends, unless it rejects the request. -/
def interfaceAddPayload (req : InterfaceAddRequest) : Except GoError Bytes :=
  match infoFields req with
  | .error err => .error err
  | .ok info => .ok (fill (ifaceSize + infoSize req.type) (ifaceFields req ++ info))

/-- `InterfaceAdd`; returns the id of the interface. -/
def interfaceAdd (req : InterfaceAddRequest) : ClientProg (Except GoError UInt16) := do
  match interfaceAddPayload req with
  | .error err => return .error err
  | .ok payload =>
  match ← (request typeIfaceAdd payload .ifaceID : ClientProg (Except GoError UInt16)) with
  | .error err => return .error (.wrapf "interface add %q: %w" [.str req.name] err)
  | .ok ifaceID => return .ok ifaceID

/-- `InterfaceDel`. -/
def interfaceDel (ifaceID : UInt16) : ClientProg (Except GoError Unit) :=
  requestNil typeIfaceDel (fill 2 [u16 0 ifaceID]) "interface del %d: %w" [.num ifaceID.toNat]

/-! ### Addresses -/

/-- An IPv4 address on an interface, with a flag. -/
def ip4AddrPayload (ifaceID : UInt16) (ip4 : IP) (ones : UInt8) (ok : Bool) : Bytes :=
  fill 16 ([u16 0 ifaceID, ⟨4, ip4.take 4⟩, u8 8 ones] ++ flag 12 ok)

/-- An IPv6 address on an interface, with a flag. -/
def ip6AddrPayload (ifaceID : UInt16) (ip6 : IP) (ones : UInt8) (ok : Bool) : Bytes :=
  fill ip6AddrReqSize ([u16 offIP6IfaceID ifaceID, ⟨offIP6Addr, ip6.take 16⟩,
    u8 offIP6Prefix ones] ++ flag offIP6Flag ok)

/-- `AddressAdd` and `AddressDel`: a request of the type for the family of the address. -/
def addressRequest (type4 type6 : UInt32) (ifaceID : UInt16) (address : IPNet) (ok : Bool)
    (format invalid : String) : ClientProg (Except GoError Unit) :=
  let ones := UInt8.ofNat (maskSize address.mask)
  match to4 address.ip with
  | some ip4 =>
      requestNil type4 (ip4AddrPayload ifaceID ip4 ones ok) format
        [.cidr address.ip address.mask, .num ifaceID.toNat]
  | none =>
  match to16 address.ip with
  | none => return .error (.errorf invalid [.ip address.ip])
  | some ip6 =>
      requestNil type6 (ip6AddrPayload ifaceID ip6 ones ok) format
        [.cidr address.ip address.mask, .num ifaceID.toNat]

/-- `AddressAdd`. -/
def addressAdd (req : AddressAddRequest) : ClientProg (Except GoError Unit) :=
  addressRequest typeIP4AddrAdd typeIP6AddrAdd req.ifaceID req.address req.existOK
    "address add %s on iface %d: %w" "address add: invalid IP address: %s"

/-- `AddressDel`. -/
def addressDel (req : AddressDelRequest) : ClientProg (Except GoError Unit) :=
  addressRequest typeIP4AddrDel typeIP6AddrDel req.ifaceID req.address req.missingOK
    "address del %s on iface %d: %w" "address del: invalid IP address: %s"

/-- The IPv4 half of `AddressFlush`. -/
def ip4AddrFlush (ifaceID : UInt16) : ClientProg (Except GoError Unit) :=
  request typeIP4AddrFlush (fill 2 [u16 0 ifaceID]) .nil

/-- The IPv6 half of `AddressFlush`. -/
def ip6AddrFlush (ifaceID : UInt16) : ClientProg (Except GoError Unit) :=
  request typeIP6AddrFlush (fill 2 [u16 0 ifaceID]) .nil

/-- `AddressFlush`. -/
def addressFlush (ifaceID : UInt16) : ClientProg (Except GoError Unit) := do
  match ← ip4AddrFlush ifaceID with
  | .error err =>
      return .error (.wrapf "IPv4 address flush on iface %d: %w" [.num ifaceID.toNat] err)
  | .ok _ =>
  match ← ip6AddrFlush ifaceID with
  | .error err =>
      return .error (.wrapf "IPv6 address flush on iface %d: %w" [.num ifaceID.toNat] err)
  | .ok _ => return .ok ()

/-! ### Routes -/

/-- The origin of a route, `GR_NH_ORIGIN_STATIC`. -/
def originStatic : UInt8 := 4

/-- The payload of `RouteAdd` for an IPv4 destination. -/
def ip4RouteAddPayload (vrfID : UInt16) (dest : IP) (ones : UInt8) (nh : IP) (ok : Bool) : Bytes :=
  fill 24 ([u16 0 vrfID, ⟨4, dest.take 4⟩, u8 8 ones, ⟨12, nh.take 4⟩, u8 20 originStatic] ++
    flag 21 ok)

/-- The payload of `RouteAdd` for an IPv6 destination. -/
def ip6RouteAddPayload (vrfID : UInt16) (dest : IP) (ones : UInt8) (nh : IP) (ok : Bool) : Bytes :=
  fill ip6RouteAddReqSize ([u16 offIP6RteVRF vrfID, ⟨offIP6RteDest, dest.take 16⟩,
    u8 offIP6RteDestPfx ones, ⟨offIP6RteNH, nh.take 16⟩, u8 offIP6RteOrigin originStatic] ++
    flag offIP6RteExistOK ok)

/-- `RouteAdd`. -/
def routeAdd (req : RouteAddRequest) : ClientProg (Except GoError Unit) :=
  let ones := UInt8.ofNat (maskSize req.destination.mask)
  let vrfID := vrfOrDefault req.vrfID
  let args : List FmtArg := [.cidr req.destination.ip req.destination.mask, .ip req.nextHop]
  match to4 req.destination.ip with
  | some dest =>
      match to4 req.nextHop with
      | none =>
          return .error (.errorf "route add: IPv4 destination with non-IPv4 next hop: %s"
            [.ip req.nextHop])
      | some nh =>
          requestNil typeIP4RouteAdd (ip4RouteAddPayload vrfID dest ones nh req.existOK)
            "route add %s via %s: %w" args
  | none =>
  match to16 req.destination.ip with
  | none => return .error (.errorf "route add: invalid destination: %s" [.ip req.destination.ip])
  | some dest =>
  match to16 req.nextHop with
  | none => return .error (.errorf "route add: invalid next hop: %s" [.ip req.nextHop])
  | some nh =>
      requestNil typeIP6RouteAdd (ip6RouteAddPayload vrfID dest ones nh req.existOK)
        "route add %s via %s: %w" args

/-- The payload of `RouteDel` for an IPv4 destination. -/
def ip4RouteDelPayload (vrfID : UInt16) (dest : IP) (ones : UInt8) (ok : Bool) : Bytes :=
  fill 16 ([u16 0 vrfID, ⟨4, dest.take 4⟩, u8 8 ones] ++ flag 12 ok)

/-- The payload of `RouteDel` for an IPv6 destination. -/
def ip6RouteDelPayload (vrfID : UInt16) (dest : IP) (ones : UInt8) (ok : Bool) : Bytes :=
  fill ip6RouteDelReqSize ([u16 offIP6RteVRF vrfID, ⟨offIP6RteDest, dest.take 16⟩,
    u8 offIP6RteDestPfx ones] ++ flag offIP6RteDelMissing ok)

/-- `RouteDel`. -/
def routeDel (req : RouteDelRequest) : ClientProg (Except GoError Unit) :=
  let ones := UInt8.ofNat (maskSize req.destination.mask)
  let vrfID := vrfOrDefault req.vrfID
  let args : List FmtArg := [.cidr req.destination.ip req.destination.mask]
  match to4 req.destination.ip with
  | some dest =>
      requestNil typeIP4RouteDel (ip4RouteDelPayload vrfID dest ones req.missingOK)
        "route del %s: %w" args
  | none =>
  match to16 req.destination.ip with
  | none => return .error (.errorf "route del: invalid destination: %s" [.ip req.destination.ip])
  | some dest =>
      requestNil typeIP6RouteDel (ip6RouteDelPayload vrfID dest ones req.missingOK)
        "route del %s: %w" args

/-! ### Flooding -/

/-- `encodeFloodEntry`. -/
def encodeFloodEntry (vrfID : UInt16) (vni : UInt32) (addr : IP) : Except GoError (List Field) :=
  match putL3AddrIPv4 offFloodVTEPAddr addr with
  | .error err => .error err
  | .ok fields =>
      .ok ([u8 offFloodType floodTypeVTEP, u16 offFloodVRFID vrfID, u32 offFloodVTEPVNI vni] ++
        fields)

/-- `FloodAdd` and `FloodDel`: a request of the type for an entry of a flood list. -/
def floodRequest (type : UInt32) (vrfID : UInt16) (vni : UInt32) (addr : IP) (ok : Bool)
    (format : String) : ClientProg (Except GoError Unit) :=
  let args : List FmtArg := [.num vni.toNat, .ip addr]
  match encodeFloodEntry (vrfOrDefault vrfID) vni addr with
  | .error err => return .error (.wrapf format args err)
  | .ok fields => requestNil type (fill floodReqSize (fields ++ flag floodEntrySize ok)) format args

/-- `FloodAdd`. -/
def floodAdd (req : FloodAddRequest) : ClientProg (Except GoError Unit) :=
  floodRequest typeFloodAdd req.vrfID req.vni req.addr req.existOK
    "flood add vni %d addr %s: %w"

/-- `FloodDel`. -/
def floodDel (req : FloodDelRequest) : ClientProg (Except GoError Unit) :=
  floodRequest typeFloodDel req.vrfID req.vni req.addr req.missingOK
    "flood del vni %d addr %s: %w"

/-- The entry of a flood list, unless it is too short. -/
def decodeFloodEntry (data : Bytes) : Option FloodVTEPInfo :=
  if data.length < floodEntrySize then none
  else some {
    vni := uint32At data offFloodVTEPVNI
    addr := l3AddrIPv4 (slice data offFloodVTEPAddr l3AddrSize) }

/-- `FloodList`. -/
def floodList (req : FloodListRequest) : ClientProg (Except GoError (List FloodVTEPInfo)) := do
  let payload := fill 4 [u8 offFloodType floodTypeVTEP, u16 offFloodVRFID (vrfOrDefault req.vrfID)]
  match ← requestStream typeFloodList payload with
  | .error err => return .error (.wrapf "flood list: %w" [] err)
  | .ok items => return .ok (items.filterMap decodeFloodEntry)

end GroutCni.Api
