import GroutCni.Go.Net

/-!
# Results, arguments and configurations of the plugin

The CNI types the handlers work on.  Of a result that is not in the 1.0.0 format only what
`types100.NewResultFromResult` makes of it is kept.
-/

namespace GroutCni

/-- `types100.IPConfig`.  The interface is an index into the interfaces of the result. -/
structure IPConfig where
  interface : Option Int := none
  address : IPNet
  gateway : Option IP := none
  deriving DecidableEq

/-- `types100.Interface`. -/
structure Interface where
  name : GoString
  mac : GoString := []
  sandbox : GoString := []
  socketPath : GoString := []
  deriving DecidableEq

/-- `types.Route`. -/
structure Route where
  dst : IPNet
  gw : Option IP := none
  deriving DecidableEq

/-- `types.DNS`. -/
structure DNS where
  nameservers : List GoString := []
  domain : GoString := []
  search : List GoString := []
  options : List GoString := []
  deriving DecidableEq

/-- `types100.Result`.  An entry of the IP list may be nil. -/
structure Result where
  cniVersion : GoString := []
  interfaces : List Interface := []
  ips : List (Option IPConfig) := []
  routes : List Route := []
  dns : DNS := {}
  deriving DecidableEq

/-- A `types.Result` of any version, as `types100.NewResultFromResult` sees it: it converts
to the 1.0.0 format or is refused. -/
structure RawResult where
  to100 : Except GoError Result

/-- `convertResult`. -/
def convertResult (result : RawResult) : Except GoError Result :=
  match result.to100 with
  | .error err => .error (.wrapf "converting result to 1.0.0 format: %w" [] err)
  | .ok cniResult => .ok cniResult

/-- `types.GCAttachment`; an attachment of a container to a network. -/
structure Attachment where
  containerID : GoString
  ifName : GoString
  deriving DecidableEq

/-- `skel.CmdArgs`. -/
structure CmdArgs where
  containerID : GoString
  netns : GoString := []
  ifName : GoString
  deriving DecidableEq

/-- The attachment a call is about. -/
def CmdArgs.attachment (args : CmdArgs) : Attachment :=
  ⟨args.containerID, args.ifName⟩

/-- The interface types a network may ask for. -/
inductive PodInterfaceType where
  | tap
  | virtio
  deriving DecidableEq

/-- `PluginConf`, after `LoadConfig`.  `prevResult` is what `version.ParsePrevResult` makes
of the raw previous result, when there is one. -/
structure PluginConf where
  name : GoString
  ipamType : GoString := []
  groutSocketPath : GoString
  bridge : GoString
  mtu : Int := 0
  interfaceType : PodInterfaceType := .tap
  logLevel : GoString := []
  validAttachments : List Attachment := []
  prevResult : Option (Except GoError (Option RawResult)) := none

end GroutCni
