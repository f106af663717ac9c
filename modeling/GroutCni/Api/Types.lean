import GroutCni.Go.Net

/-!
# Requests and answers of the grout API

The types of `pkg/groutapi/types.go`.
-/

namespace GroutCni

/-- `InterfaceType`: the type of a grout interface, a byte on the wire. -/
abbrev InterfaceType : Type := UInt8

namespace InterfaceType

/-- `InterfaceTypeUndef`. -/
def undef : InterfaceType := 0

/-- `InterfaceTypePort`. -/
def port : InterfaceType := 2

/-- `InterfaceTypeTAP`: a TAP is a port with `net_tap` devargs. -/
def tap : InterfaceType := 2

/-- `InterfaceTypeBridge`. -/
def bridge : InterfaceType := 6

/-- `InterfaceTypeVXLAN`. -/
def vxlan : InterfaceType := 7

end InterfaceType

/-- `VXLANConfig`. -/
structure VXLANConfig where
  vni : UInt32
  encapVRFID : UInt16
  dstPort : UInt16
  localAddr : IP
  deriving DecidableEq

/-- `InterfaceAddRequest`.  A `domainID` other than zero makes the new interface a member of
the bridge with that id; a `vhostUserPath` makes it a vhost-user port. -/
structure InterfaceAddRequest where
  name : GoString
  type : InterfaceType
  domainID : UInt16 := 0
  mtu : UInt16 := 0
  vhostUserPath : GoString := []
  vxlan : Option VXLANConfig := none
  deriving DecidableEq

/-- `InterfaceListRequest`; the type zero asks for all interfaces. -/
structure InterfaceListRequest where
  type : InterfaceType := InterfaceType.undef
  deriving DecidableEq

/-- `InterfaceInfo`.  The domain is the bridge the interface is a member of, zero if none. -/
structure InterfaceInfo where
  id : UInt16
  type : InterfaceType
  name : GoString
  domain : UInt16
  deriving DecidableEq

/-- `AddressAddRequest`. -/
structure AddressAddRequest where
  ifaceID : UInt16
  address : IPNet
  existOK : Bool
  deriving DecidableEq

/-- `AddressDelRequest`. -/
structure AddressDelRequest where
  ifaceID : UInt16
  address : IPNet
  missingOK : Bool
  deriving DecidableEq

/-- `RouteAddRequest`.  The id of an interface that it also has is not sent. -/
structure RouteAddRequest where
  vrfID : UInt16
  destination : IPNet
  nextHop : IP
  existOK : Bool
  deriving DecidableEq

/-- `RouteDelRequest`. -/
structure RouteDelRequest where
  vrfID : UInt16
  destination : IPNet
  missingOK : Bool
  deriving DecidableEq

/-- `FloodAddRequest`. -/
structure FloodAddRequest where
  vrfID : UInt16
  vni : UInt32
  addr : IP
  existOK : Bool
  deriving DecidableEq

/-- `FloodDelRequest`. -/
structure FloodDelRequest where
  vrfID : UInt16
  vni : UInt32
  addr : IP
  missingOK : Bool
  deriving DecidableEq

/-- `FloodListRequest`. -/
structure FloodListRequest where
  vrfID : UInt16
  deriving DecidableEq

/-- `FloodVTEPInfo`; the address is nil if it is not an IPv4 address. -/
structure FloodVTEPInfo where
  vni : UInt32
  addr : Option IP
  deriving DecidableEq

end GroutCni
