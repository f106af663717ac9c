import GroutCni.Api.Prefixes
import GroutCni.Api.Session
import GroutCni.Effect.Simulation

/-!
# Messages

A `Message` is what a request says to grout once its bytes are read with the C structures that
`pkg/groutapi/client.go` cites: `parse` reads a payload at the offsets of the structure for its
type.  `ClientCall.meaning` is what a method of the client means in terms of messages, without
bytes.  Every request of a method is read back as the message that is meant
(`ClientCall.program_matches`).
-/

namespace GroutCni

open Effect Wire Api

/-! ### Messages -/

/-- The part of `gr_iface` that depends on the type of the interface. -/
inductive IfaceInfo where
  | bridge (mac : Bytes)
  | vxlan (vni : UInt32) (encapVRFID dstPort : UInt16) (localAddr : Option IP)
  | port (devargs : GoString)
  deriving DecidableEq

/-- `gr_iface`, as an add request has it. -/
structure Iface where
  type : InterfaceType
  flags : UInt16
  mtu : UInt16
  domain : UInt16
  name : GoString
  info : IfaceInfo
  deriving DecidableEq

/-- An address with the length of its prefix. -/
structure Subnet where
  addr : IP
  len : UInt8
  deriving DecidableEq

/-- `gr_flood_entry`. -/
structure FloodEntry where
  type : UInt8
  vrfID : UInt16
  vni : UInt32
  addr : Option IP
  deriving DecidableEq

/-- What a request says to grout. -/
inductive Message where
  | hello (version : UInt32) (name : GoString)
  | ifaceList (type : InterfaceType)
  | ifaceAdd (iface : Iface)
  | ifaceDel (id : UInt16)
  | addrAdd (f : Family) (id : UInt16) (net : Subnet) (existOK : Bool)
  | addrDel (f : Family) (id : UInt16) (net : Subnet) (missingOK : Bool)
  | addrFlush (f : Family) (id : UInt16)
  | routeAdd (f : Family) (vrfID : UInt16) (dest : Subnet) (nextHop : IP) (origin : UInt8)
      (existOK : Bool)
  | routeDel (f : Family) (vrfID : UInt16) (dest : Subnet) (missingOK : Bool)
  | floodAdd (entry : FloodEntry) (existOK : Bool)
  | floodDel (entry : FloodEntry) (missingOK : Bool)
  | floodList (type : UInt8) (vrfID : UInt16)
  deriving DecidableEq

namespace Message

/-- The value with which grout answers a message. -/
def Val : Message → Type
  | .ifaceList _ => List InterfaceInfo
  | .ifaceAdd _ => UInt16
  | .floodList _ _ => List FloodVTEPInfo
  | _ => Unit

/-- What sending a message returns. -/
abbrev Res (m : Message) : Type := Except GoError m.Val

/-- The message is answered with a list. -/
def isList : Message → Bool
  | .ifaceList _ => true
  | .floodList _ _ => true
  | _ => false

end Message

/-- Programs that send messages. -/
abbrev MessageProg (α : Type) : Type := Program Message.Res α

/-! ### Reading requests -/

/-- The kinds of messages. -/
inductive Kind where
  | hello
  | ifaceList
  | ifaceAdd
  | ifaceDel
  | addrAdd (f : Family)
  | addrDel (f : Family)
  | addrFlush (f : Family)
  | routeAdd (f : Family)
  | routeDel (f : Family)
  | floodAdd
  | floodDel
  | floodList

/-- The message types. -/
def kinds : List (UInt32 × Kind) :=
  [(typeHello, .hello), (typeIfaceAdd, .ifaceAdd), (typeIfaceDel, .ifaceDel),
    (typeIfaceList, .ifaceList), (typeIP4RouteAdd, .routeAdd .v4), (typeIP4RouteDel, .routeDel .v4),
    (typeIP4AddrAdd, .addrAdd .v4), (typeIP4AddrDel, .addrDel .v4),
    (typeIP4AddrFlush, .addrFlush .v4), (typeIP6RouteAdd, .routeAdd .v6),
    (typeIP6RouteDel, .routeDel .v6), (typeIP6AddrAdd, .addrAdd .v6),
    (typeIP6AddrDel, .addrDel .v6), (typeIP6AddrFlush, .addrFlush .v6), (typeFloodAdd, .floodAdd),
    (typeFloodDel, .floodDel), (typeFloodList, .floodList)]

/-- A flag in a payload. -/
def flagAt (b : Bytes) (off : Nat) : Bool := b.getD off 0 ≠ 0

/-- An address with the length of its prefix, in a message of the family. -/
def subnetAt (f : Family) (b : Bytes) : Subnet where
  addr := slice b f.offAddr f.width
  len := b.getD f.offLen 0

/-- The info section of an interface of the given type. -/
def infoAt (type : InterfaceType) (b : Bytes) : IfaceInfo :=
  if type = InterfaceType.bridge then .bridge (slice b (offIfaceInfo + offBridgeInfoMAC) 6)
  else if type = InterfaceType.vxlan then
    .vxlan (uint32At b (offIfaceInfo + offVxlanVNI)) (uint16At b (offIfaceInfo + offVxlanEncapVRF))
      (uint16At b (offIfaceInfo + offVxlanDstPort))
      (l3AddrIPv4 (slice b (offIfaceInfo + offVxlanLocal) l3AddrSize))
  else .port (cString (slice b offPortDevargs portDevargsSize))

/-- The interface of an add request. -/
def ifaceAt (b : Bytes) : Iface where
  type := b.getD offIfaceType 0
  flags := uint16At b offIfaceFlags
  mtu := uint16At b offIfaceMTU
  domain := uint16At b offIfaceDomain
  name := cString (slice b offIfaceName ifNameSize)
  info := infoAt (b.getD offIfaceType 0) b

/-- The entry of a flood request. -/
def floodEntryAt (b : Bytes) : FloodEntry where
  type := b.getD offFloodType 0
  vrfID := uint16At b offFloodVRFID
  vni := uint32At b offFloodVTEPVNI
  addr := l3AddrIPv4 (slice b offFloodVTEPAddr l3AddrSize)

/-- The size of the C structure that is read. -/
def Kind.size : Kind → Bytes → Nat
  | .hello, _ => 132
  | .ifaceList, _ => 1
  | .ifaceAdd, b => ifaceSize + infoSize (b.getD offIfaceType 0)
  | .ifaceDel, _ => 2
  | .addrAdd .v4, _ => 16
  | .addrAdd .v6, _ => ip6AddrReqSize
  | .addrDel .v4, _ => 16
  | .addrDel .v6, _ => ip6AddrReqSize
  | .addrFlush _, _ => 2
  | .routeAdd .v4, _ => 24
  | .routeAdd .v6, _ => ip6RouteAddReqSize
  | .routeDel .v4, _ => 16
  | .routeDel .v6, _ => ip6RouteDelReqSize
  | .floodAdd, _ => floodReqSize
  | .floodDel, _ => floodReqSize
  | .floodList, _ => 4

/-- The C structure of each kind of messages. -/
def Kind.read : Kind → Bytes → Message
  | .hello, b => .hello (uint32At b 0) (cString (slice b 4 128))
  | .ifaceList, b => .ifaceList (b.getD 0 0)
  | .ifaceAdd, b => .ifaceAdd (ifaceAt b)
  | .ifaceDel, b => .ifaceDel (uint16At b 0)
  | .addrAdd .v4, b => .addrAdd .v4 (uint16At b 0) (subnetAt .v4 b) (flagAt b 12)
  | .addrAdd .v6, b => .addrAdd .v6 (uint16At b 0) (subnetAt .v6 b) (flagAt b offIP6Flag)
  | .addrDel .v4, b => .addrDel .v4 (uint16At b 0) (subnetAt .v4 b) (flagAt b 12)
  | .addrDel .v6, b => .addrDel .v6 (uint16At b 0) (subnetAt .v6 b) (flagAt b offIP6Flag)
  | .addrFlush f, b => .addrFlush f (uint16At b 0)
  | .routeAdd .v4, b =>
      .routeAdd .v4 (uint16At b 0) (subnetAt .v4 b) (slice b 12 4) (b.getD 20 0) (flagAt b 21)
  | .routeAdd .v6, b =>
      .routeAdd .v6 (uint16At b 0) (subnetAt .v6 b) (slice b offIP6RteNH 16)
        (b.getD offIP6RteOrigin 0) (flagAt b offIP6RteExistOK)
  | .routeDel .v4, b => .routeDel .v4 (uint16At b 0) (subnetAt .v4 b) (flagAt b 12)
  | .routeDel .v6, b =>
      .routeDel .v6 (uint16At b 0) (subnetAt .v6 b) (flagAt b offIP6RteDelMissing)
  | .floodAdd, b => .floodAdd (floodEntryAt b) (flagAt b floodEntrySize)
  | .floodDel, b => .floodDel (floodEntryAt b) (flagAt b floodEntrySize)
  | .floodList, b => .floodList (b.getD offFloodType 0) (uint16At b offFloodVRFID)

/-- The message of a request; none if the type is unknown or the payload is too short. -/
def parse (type : UInt32) (payload : Bytes) : Option Message :=
  match kinds.lookup type with
  | none => none
  | some kind => if payload.length < kind.size payload then none else some (kind.read payload)

end GroutCni
