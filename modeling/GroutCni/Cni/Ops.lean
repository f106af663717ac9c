import GroutCni.Api.Types
import GroutCni.Cni.Types
import GroutCni.Effect.Lock

/-!
# The operations of the plugin

Everything the plugin does to the node is one of the operations `Op`: a call of an IPAM
plugin, a call of a grout API method, a file system operation, or a netlink operation.
Each answers a value or an error.  `Prog` are the programs that perform them, and
`LockedProg` those that also take the lock of the plugin.
-/

namespace GroutCni

open Effect

/-- What netlink reports of a link: whether it is administratively up, and its hardware
address as a string. -/
structure Link where
  up : Bool
  mac : GoString
  deriving DecidableEq

/-- An operation on the node.  Links are named within a network namespace; the empty path is
the namespace of the host. -/
inductive Op where
  | ipamAdd (conf : PluginConf) (args : CmdArgs)
  | ipamDel (conf : PluginConf) (args : CmdArgs)
  | ipamGC (conf : PluginConf) (args : CmdArgs)
  | interfaceList (req : InterfaceListRequest)
  | interfaceAdd (req : InterfaceAddRequest)
  | interfaceDel (ifaceID : UInt16)
  | addressAdd (req : AddressAddRequest)
  | ip4AddrFlush (ifaceID : UInt16)
  | ip6AddrFlush (ifaceID : UInt16)
  | mkdirAll (path : GoString)
  | remove (path : GoString)
  | stat (path : GoString)
  | getNS (netns : GoString)
  | nsDo (netns : GoString)
  | linkByName (netns name : GoString)
  | linkSetNsFd (name netns : GoString)
  | linkSetDown (netns name : GoString)
  | linkSetName (netns name newName : GoString)
  | linkSetMTU (netns name : GoString) (mtu : Int)
  | linkSetHardwareAddr (netns name : GoString) (mac : List UInt8)
  | configureIface (netns name : GoString) (result : Result)
  | addrList (netns name : GoString)

namespace Op

/-- The value an operation answers when it succeeds.  Removing a file and looking for one
answer whether the file existed. -/
def Val : Op → Type
  | .ipamAdd _ _ => RawResult
  | .ipamDel _ _ => Unit
  | .ipamGC _ _ => Unit
  | .interfaceList _ => List InterfaceInfo
  | .interfaceAdd _ => UInt16
  | .interfaceDel _ => Unit
  | .addressAdd _ => Unit
  | .ip4AddrFlush _ => Unit
  | .ip6AddrFlush _ => Unit
  | .mkdirAll _ => Unit
  | .remove _ => Bool
  | .stat _ => Bool
  | .getNS _ => Unit
  | .nsDo _ => Unit
  | .linkByName _ _ => Link
  | .linkSetNsFd _ _ => Unit
  | .linkSetDown _ _ => Unit
  | .linkSetName _ _ _ => Unit
  | .linkSetMTU _ _ _ => Unit
  | .linkSetHardwareAddr _ _ _ => Unit
  | .configureIface _ _ _ => Unit
  | .addrList _ _ => List (Option IPNet)

/-- The answer to an operation. -/
abbrev Res (o : Op) : Type := Except GoError o.Val

/-- The operations on links and network namespaces. -/
def IsNetlink : Op → Prop
  | .getNS _ | .nsDo _ | .linkByName _ _ | .linkSetNsFd _ _ | .linkSetDown _ _
  | .linkSetName _ _ _ | .linkSetMTU _ _ _ | .linkSetHardwareAddr _ _ _
  | .configureIface _ _ _ | .addrList _ _ => True
  | _ => False

/-- The link that an operation is there to change, by its network namespace and its name. -/
def target? : Op → Option (GoString × GoString)
  | .linkSetNsFd name _ => some ([], name)
  | .linkSetDown netns name | .linkSetName netns name _ | .linkSetMTU netns name _
  | .linkSetHardwareAddr netns name _ | .configureIface netns name _ => some (netns, name)
  | _ => none

/-- The operations that a CHECK performs: netlink operations, listing interfaces, and looking
for a file. -/
def IsInspection (o : Op) : Prop :=
  o.IsNetlink ∨ (∃ req, o = .interfaceList req) ∨ ∃ path, o = .stat path

/-- The calls of grout API methods. -/
def isGrout : Op → Bool
  | .interfaceList _ | .interfaceAdd _ | .interfaceDel _ | .addressAdd _ | .ip4AddrFlush _
  | .ip6AddrFlush _ => true
  | _ => false

end Op

/-- Programs that perform the operations of the plugin. -/
abbrev Prog (α : Type) : Type := Program Op.Res α

/-- Programs that perform the operations of the plugin and take its lock. -/
abbrev LockedProg (α : Type) : Type := Program (LockRes GoString GoError Op.Res) α

/-- Perform one operation. -/
def perform (o : Op) : Prog (Except GoError o.Val) := @Program.perform Op Op.Res o

/-- Programs that begin with one operation and then go on as it succeeds or fails. -/
theorem uses_perform_bind {α : Type} {P : Op → Prop} {o : Op} {k : Op.Res o → Prog α}
    (ho : P o) (hok : ∀ v, (k (.ok v)).Uses P) (herr : ∀ e, (k (.error e)).Uses P) :
  (perform o >>= k).Uses P
  := by
  constructor
  · exact ho
  · rintro (e | v)
    · apply herr
    · apply hok

/-- `Client.InterfaceList`. -/
def interfaceList (req : InterfaceListRequest) : Prog (Except GoError (List InterfaceInfo)) :=
  perform (.interfaceList req)

/-- `Client.InterfaceAdd`. -/
def interfaceAdd (req : InterfaceAddRequest) : Prog (Except GoError UInt16) :=
  perform (.interfaceAdd req)

/-- `Client.InterfaceDel`. -/
def interfaceDel (ifaceID : UInt16) : Prog (Except GoError Unit) :=
  perform (.interfaceDel ifaceID)

/-- `Client.AddressAdd`. -/
def addressAdd (req : AddressAddRequest) : Prog (Except GoError Unit) :=
  perform (.addressAdd req)

/-- `Client.AddressFlush`: one request for each address family. -/
def addressFlush (ifaceID : UInt16) : Prog (Except GoError Unit) := do
  match ← (perform (.ip4AddrFlush ifaceID) : Prog (Except GoError Unit)) with
  | .error err =>
      return .error (.wrapf "IPv4 address flush on iface %d: %w" [.num ifaceID.toNat] err)
  | .ok _ =>
  match ← (perform (.ip6AddrFlush ifaceID) : Prog (Except GoError Unit)) with
  | .error err =>
      return .error (.wrapf "IPv6 address flush on iface %d: %w" [.num ifaceID.toNat] err)
  | .ok _ => return .ok ()

theorem addressFlush_uses {P : Op → Prop} {ifaceID : UInt16} (h4 : P (.ip4AddrFlush ifaceID))
    (h6 : P (.ip6AddrFlush ifaceID)) :
  (addressFlush ifaceID).Uses P
  := by
  apply uses_perform_bind h4 _ (fun _ => by trivial)
  intro _
  apply uses_perform_bind h6 (fun _ => by trivial) (fun _ => by trivial)

end GroutCni
