import GroutCni.Cni.Netns
import GroutCni.Cni.PortName

/-!
# The handlers

The ADD, DEL, CHECK and GC handlers of `pkg/cni/handler.go`.  The body of a handler is a
program over the operations of the plugin, and `locked` runs it under the lock of the grout
instance.  A `Call` is one invocation of the plugin, and `Call.program` its handler.
-/

namespace GroutCni

open Effect

/-! ### Reading the interface list -/

/-- `findBridgeID`. -/
def findBridgeID (ifaces : List InterfaceInfo) (name : GoString) : Option UInt16 :=
  (ifaces.find? fun iface => iface.name = name ∧ iface.type = InterfaceType.bridge).map (·.id)

/-- `findByName`. -/
def findByName (ifaces : List InterfaceInfo) (name : GoString) : Option UInt16 :=
  (ifaces.find? fun iface => iface.name = name).map (·.id)

/-- The decimal digits of a number. -/
def decimal (n : Nat) : GoString := (Nat.toDigits 10 n).map fun c => UInt8.ofNat c.toNat

/-- One tuple of `summarizeIfaces`. -/
def summarizeIface (iface : InterfaceInfo) : GoString :=
  iface.name ++ lit "(id=" ++ decimal iface.id.toNat ++ lit ",type=" ++
    decimal iface.type.toNat ++ lit ",domain=" ++ decimal iface.domain.toNat ++ lit ")"

/-- `summarizeIfaces`. -/
def summarizeIfaces (ifaces : List InterfaceInfo) : GoString :=
  (lit ", ").intercalate (ifaces.map summarizeIface)

/-! ### The bridge of a network -/

/-- The part of `ensureBridge` after a failed create.  The create may have failed because an
interface of that name exists, so list again and take the interface by its name alone. -/
def findAfterConflict (ifaces : List InterfaceInfo) (name : GoString) (err : GoError) :
    Prog (Except GoError UInt16) := do
  match ← interfaceList {} with
  | .error _ =>
      return .error (.wrapf "creating bridge (interfaces seen: %s): %w"
        [.str (summarizeIfaces ifaces)] err)
  | .ok ifaces2 =>
  match findByName ifaces2 name with
  | some id => return .ok id
  | none =>
      return .error (.wrapf "creating bridge (interfaces seen: %s): %w"
        [.str (summarizeIfaces ifaces2)] err)

/-- `ensureBridge`. -/
def ensureBridge (name : GoString) : Prog (Except GoError UInt16) := do
  match ← interfaceList {} with
  | .error err => return .error (.wrapf "listing interfaces: %w" [] err)
  | .ok ifaces =>
  match findBridgeID ifaces name with
  | some id => return .ok id
  | none =>
  match ← interfaceAdd { name, type := InterfaceType.bridge } with
  | .ok id => return .ok id
  | .error err => findAfterConflict ifaces name err

/-- The first host address of a subnet: `gw[len(gw)-1]++`, which panics on the nil address. -/
def incrementLast (ip : IP) : Option IP :=
  ip.getLast?.map fun b => ip.dropLast ++ [b + 1]

/-- The gateway of one address of an IPAM result. -/
def gatewayOf (ip : IPConfig) : Option IP :=
  match ip.gateway with
  | some gw => some gw
  | none => (maskIP ip.address.ip ip.address.mask).bind incrementLast

/-- The loop of `gatewaysFor`, with the address families seen so far. -/
def gatewaysFrom (seen4 seen6 : Bool) : List (Option IPConfig) → Option (List IPNet)
  | [] => some []
  | none :: _ => none
  | some ip :: ips =>
      let isV4 := (to4 ip.address.ip).isSome
      if isV4 && seen4 || !isV4 && seen6 then gatewaysFrom seen4 seen6 ips
      else do
        let gw ← gatewayOf ip
        let gws ← gatewaysFrom (seen4 || isV4) (seen6 || !isV4) ips
        some ({ ip := gw, mask := ip.address.mask } :: gws)

/-- `gatewaysFor`; nothing when it panics. -/
def gatewaysFor (result : Result) : Option (List IPNet) :=
  gatewaysFrom false false result.ips

/-- The loop of `HandleAdd` that assigns the gateway addresses to the bridge. -/
def assignGateways (bridgeID : UInt16) : List IPNet → Prog (Except GoError Unit)
  | [] => return .ok ()
  | gw :: gws => do
      match ← addressAdd { ifaceID := bridgeID, address := gw, existOK := true } with
      | .error err => return .error err
      | .ok _ => assignGateways bridgeID gws

/-- `gcBridgeIfEmpty` looks at the listed interfaces in order: it gives up at the first that
carries the id and is not a bridge, or that has the id as its domain. -/
def bridgeCollectable (bridgeID : UInt16) (bridgeFound : Bool) : List InterfaceInfo → Bool
  | [] => bridgeFound
  | iface :: ifaces =>
      if iface.id = bridgeID ∧ iface.type ≠ InterfaceType.bridge then false
      else if iface.domain = bridgeID then false
      else bridgeCollectable bridgeID (bridgeFound || iface.id == bridgeID) ifaces

/-- `gcBridgeIfEmpty`. -/
def gcBridgeIfEmpty (bridgeID : UInt16) : Prog Unit := do
  match ← interfaceList {} with
  | .error _ => return ()
  | .ok ifaces =>
  if bridgeCollectable bridgeID false ifaces then
    let _ ← addressFlush bridgeID
    let _ ← interfaceDel bridgeID
    return ()
  else return ()

/-! ### IPAM -/

/-- `delegateIPAMAdd`. -/
def delegateIPAMAdd (conf : PluginConf) (args : CmdArgs) : Prog (Except GoError RawResult) := do
  match ← (perform (.ipamAdd conf args) : Prog (Except GoError RawResult)) with
  | .error err => return .error (.wrapf "invoking IPAM plugin %q: %w" [.str conf.ipamType] err)
  | .ok result => return .ok result

/-- `ipamDel`, with `delegateIPAMDel`: a failure is only logged. -/
def ipamDel (conf : PluginConf) (args : CmdArgs) : Prog Unit := do
  let _ ← perform (.ipamDel conf args)
  return ()

/-- `gcIPAM`, with `delegateIPAMGC`: a failure is only logged. -/
def gcIPAM (conf : PluginConf) (args : CmdArgs) : Prog Unit := do
  let _ ← perform (.ipamGC conf args)
  return ()

/-! ### ADD -/

/-- Point every address at the interface with index zero; nothing when an entry is nil. -/
def pointAtInterface (ips : List (Option IPConfig)) : Option (List (Option IPConfig)) :=
  ips.mapM fun ipc => ipc.map fun ipc => some { ipc with interface := some 0 }

/-- `vhostResult`; nothing when it panics. -/
def vhostResult (args : CmdArgs) (ipamResult : Result) (socketPath : GoString) :
    Option Result := do
  let ips ← pointAtInterface ipamResult.ips
  return { ipamResult with interfaces := [{ name := args.ifName, socketPath }], ips }

/-- `podResult`; nothing when it panics. -/
def podResult (args : CmdArgs) (ipamResult : Result) : Option Result := do
  let ips ← pointAtInterface ipamResult.ips
  return { ipamResult with interfaces := [{ name := args.ifName, sandbox := args.netns }], ips }

/-- The socket path of a network's port. -/
def PluginConf.socketPath (conf : PluginConf) (portName : GoString) : GoString :=
  vhostSocketPath conf.groutSocketPath portName

/-- The request that makes the port of an attachment a member of the bridge. -/
def portRequest (conf : PluginConf) (args : CmdArgs) (bridgeID : UInt16) :
    InterfaceAddRequest where
  name := groutPortName args.containerID args.ifName
  type := InterfaceType.tap
  domainID := bridgeID
  mtu := UInt16.ofInt conf.mtu
  vhostUserPath :=
    match conf.interfaceType with
    | .tap => []
    | .virtio => conf.socketPath (groutPortName args.containerID args.ifName)

/-- The part of `HandleAdd` that makes the directory of the vhost-user socket, when there is
one. -/
def makeSocketDir (conf : PluginConf) (sockPath : GoString) : Prog (Except GoError Unit) :=
  match conf.interfaceType with
  | .tap => return .ok ()
  | .virtio => perform (.mkdirAll (Filepath.dir sockPath))

/-- The part of `HandleAdd` that creates the port. -/
def addPort (conf : PluginConf) (args : CmdArgs) (bridgeID : UInt16) :
    Prog (Except GoError UInt16) := do
  let addReq := portRequest conf args bridgeID
  match ← makeSocketDir conf addReq.vhostUserPath with
  | .error err => return .error (.wrapf "creating vhost socket dir: %w" [] err)
  | .ok _ =>
  match ← interfaceAdd addReq with
  | .error err => return .error (.wrapf "grout interface add: %w" [] err)
  | .ok ifaceID => return .ok ifaceID

/-- The part of `HandleAdd` that moves a TAP into the pod and configures it there. -/
def setupPod (conf : PluginConf) (args : CmdArgs) (podRes : Result) :
    Prog (Except GoError Result) := do
  let tapName := groutPortName args.containerID args.ifName
  match ← moveLinkToNamespace tapName args.netns with
  | .error err => return .error (.wrapf "moving TAP to pod namespace: %w" [] err)
  | .ok _ =>
  match ← configurePodInterface args.netns tapName args.ifName conf.mtu podRes with
  | .error err => return .error (.wrapf "configuring pod interface: %w" [] err)
  | .ok podRes => return .ok podRes

/-- `cleanupAfterAddFailure`. -/
def cleanupAfterAddFailure (conf : PluginConf) (args : CmdArgs) (ifaceID : UInt16) :
    Prog Unit := do
  let _ ← interfaceDel ifaceID
  ipamDel conf args

/-- What a handler returns when it succeeds: the result of an ADD, nothing otherwise. -/
abbrev Reply : Type := Outcome (Option Result)

/-- The part of `HandleAdd` after the port has been created. -/
def finishAdd (conf : PluginConf) (args : CmdArgs) (cniResult : Result) (ifaceID : UInt16) :
    Prog Reply := do
  match conf.interfaceType with
  | .virtio =>
      match vhostResult args cniResult
          (conf.socketPath (groutPortName args.containerID args.ifName)) with
      | none => return .panic
      | some podRes => return .ok (some podRes)
  | .tap =>
      match podResult args cniResult with
      | none => return .panic
      | some podRes =>
      if args.netns = [] then return .ok (some podRes)
      else
      match ← setupPod conf args podRes with
      | .error err =>
          cleanupAfterAddFailure conf args ifaceID
          return .error err
      | .ok podRes => return .ok (some podRes)

/-- The part of `HandleAdd` after the bridge has been found or created. -/
def attachTo (conf : PluginConf) (args : CmdArgs) (cniResult : Result) (bridgeID : UInt16) :
    Prog Reply := do
  match gatewaysFor cniResult with
  | none => return .panic
  | some gws =>
  match ← assignGateways bridgeID gws with
  | .error err =>
      ipamDel conf args
      return .error (.wrapf "grout bridge address add: %w" [] err)
  | .ok _ =>
  match ← addPort conf args bridgeID with
  | .error err =>
      ipamDel conf args
      return .error err
  | .ok ifaceID => finishAdd conf args cniResult ifaceID

/-- The part of `HandleAdd` from the bridge on. -/
def attach (conf : PluginConf) (args : CmdArgs) (cniResult : Result) : Prog Reply := do
  match ← ensureBridge conf.bridge with
  | .error err =>
      ipamDel conf args
      return .error (.wrapf "ensuring grout bridge %q: %w" [.str conf.bridge] err)
  | .ok bridgeID => attachTo conf args cniResult bridgeID

/-- The body of `HandleAdd`. -/
def handleAddBody (conf : PluginConf) (args : CmdArgs) : Prog Reply := do
  match ← delegateIPAMAdd conf args with
  | .error err => return .error (.wrapf "IPAM add: %w" [] err)
  | .ok result =>
  match convertResult result with
  | .error err => return .error (.wrapf "converting IPAM result: %w" [] err)
  | .ok cniResult => attach conf args cniResult

/-! ### DEL -/

/-- `removeVhostSocket`: a failure is only logged. -/
def removeVhostSocket (groutSocketPath portName : GoString) : Prog Unit := do
  let _ ← perform (.remove (vhostSocketPath groutSocketPath portName))
  return ()

/-- The part of `HandleDel` for a port that was found. -/
def deletePort (conf : PluginConf) (name : GoString) (port : InterfaceInfo) : Prog Unit := do
  let _ ← interfaceDel port.id
  removeVhostSocket conf.groutSocketPath name
  if port.domain ≠ 0 then gcBridgeIfEmpty port.domain

/-- The body of `HandleDel`. -/
def handleDelBody (conf : PluginConf) (args : CmdArgs) : Prog Reply := do
  let name := groutPortName args.containerID args.ifName
  match ← interfaceList {} with
  | .error err => return .error (.wrapf "listing interfaces: %w" [] err)
  | .ok ifaces =>
  match findPortByName ifaces name with
  | some port => deletePort conf name port
  | none => pure ()
  ipamDel conf args
  return .ok none

/-! ### CHECK -/

/-- `expectedPodIPs`. -/
def expectedPodIPs (conf : PluginConf) : Except GoError (List IPNet) :=
  match conf.prevResult with
  | none => .ok []
  | some (.error err) => .error (.wrapf "parsing prevResult: %w" [] err)
  | some (.ok none) => .ok []
  | some (.ok (some prevResult)) =>
      match prevResult.to100 with
      | .error err => .error (.wrapf "converting prevResult to 1.0.0 format: %w" [] err)
      | .ok result => .ok ((result.ips.filterMap id).map (·.address))

/-- The body of `HandleCheck`. -/
def handleCheckBody (conf : PluginConf) (args : CmdArgs) : Prog Reply := do
  let name := groutPortName args.containerID args.ifName
  match ← interfaceList {} with
  | .error err => return .error (.wrapf "listing interfaces: %w" [] err)
  | .ok ifaces =>
  match findPortByName ifaces name with
  | none =>
      return .error
        (.errorf "grout port %q for container %s ifname %s is missing (grout lost state)"
          [.str name, .str args.containerID, .str args.ifName])
  | some _ =>
  match conf.interfaceType with
  | .virtio =>
      if ← fileExists (conf.socketPath name) then return .ok none
      else
        return .error (.errorf "vhost-user socket %q for grout port %q is missing"
          [.str (conf.socketPath name), .str name])
  | .tap =>
  if args.netns = [] then return .ok none
  else
  match expectedPodIPs conf with
  | .error err => return .error (.wrapf "determining expected pod addresses: %w" [] err)
  | .ok expectedIPs =>
  match ← verifyPodInterface args.netns args.ifName expectedIPs with
  | .error err => return .error (.wrapf "verifying pod interface %q: %w" [.str args.ifName] err)
  | .ok _ => return .ok none

/-! ### GC -/

/-- A port on the bridge that is not of a valid attachment. -/
def isStale (bridgeID : UInt16) (valid : List GoString) (iface : InterfaceInfo) : Bool :=
  iface.domain == bridgeID && hasPrefix iface.name portPrefix && !valid.contains iface.name

/-- The reap loop of `HandleGC`; returns whether a port was reaped. -/
def reapLoop (conf : PluginConf) (bridgeID : UInt16) (valid : List GoString) (reaped : Bool) :
    List InterfaceInfo → Prog Bool
  | [] => return reaped
  | iface :: ifaces => do
      if isStale bridgeID valid iface then
        match ← interfaceDel iface.id with
        | .error _ => reapLoop conf bridgeID valid reaped ifaces
        | .ok _ =>
            removeVhostSocket conf.groutSocketPath iface.name
            reapLoop conf bridgeID valid true ifaces
      else reapLoop conf bridgeID valid reaped ifaces

/-- The port names of the attachments that the runtime considers valid. -/
def PluginConf.validNames (conf : PluginConf) : List GoString :=
  conf.validAttachments.map fun a => groutPortName a.containerID a.ifName

/-- The body of `HandleGC`. -/
def handleGCBody (conf : PluginConf) (args : CmdArgs) : Prog Reply := do
  match ← interfaceList {} with
  | .error err => return .error (.wrapf "GC: listing interfaces: %w" [] err)
  | .ok ifaces =>
  match findBridgeID ifaces conf.bridge with
  | none =>
      gcIPAM conf args
      return .ok none
  | some bridgeID =>
      let reaped ← reapLoop conf bridgeID conf.validNames false ifaces
      if reaped then gcBridgeIfEmpty bridgeID
      gcIPAM conf args
      return .ok none

/-! ### The operations that parts of the handlers perform -/

section

variable {P : Op → Prop} {conf : PluginConf} {args : CmdArgs} {bridgeID : UInt16}

theorem ipamDel_uses (h : P (.ipamDel conf args)) :
  (ipamDel conf args).Uses P
  := ⟨h, fun _ => trivial⟩

theorem assignGateways_uses (h : ∀ req, P (.addressAdd req)) (gws : List IPNet) :
  (assignGateways bridgeID gws).Uses P
  := by
  induction gws with
  | nil => trivial
  | cons gw gws ih =>
      apply uses_perform_bind (h _) _ (fun _ => by trivial)
      intro _
      exact ih

theorem addPort_uses (hdir : ∀ path, P (.mkdirAll path))
    (hadd : P (.interfaceAdd (portRequest conf args bridgeID))) :
  (addPort conf args bridgeID).Uses P
  := by
  apply Program.Uses.bind
  · unfold makeSocketDir
    split
    · trivial
    · exact ⟨hdir _, fun _ => trivial⟩
  · rintro (_ | _)
    · trivial
    · apply uses_perform_bind hadd (fun _ => by trivial) (fun _ => by trivial)

theorem removeVhostSocket_uses (h : ∀ path, P (.remove path)) (sock name : GoString) :
  (removeVhostSocket sock name).Uses P
  := ⟨h _, fun _ => trivial⟩

end

/-! ### Calls -/

/-- A handler: its body under the lock of the grout instance. -/
def locked (conf : PluginConf) (body : Prog Reply) : LockedProg Reply :=
  guarded (lockPathForSocket conf.groutSocketPath)
    (fun err => .error (.wrapf "creating lock: %w" [] err))
    (fun err => .error (.wrapf "acquiring lock: %w" [] err)) body

/-- `HandleAdd`. -/
def handleAdd (conf : PluginConf) (args : CmdArgs) : LockedProg Reply :=
  locked conf (handleAddBody conf args)

/-- `HandleDel`. -/
def handleDel (conf : PluginConf) (args : CmdArgs) : LockedProg Reply :=
  locked conf (handleDelBody conf args)

/-- `HandleCheck`. -/
def handleCheck (conf : PluginConf) (args : CmdArgs) : LockedProg Reply :=
  locked conf (handleCheckBody conf args)

/-- `HandleGC`. -/
def handleGC (conf : PluginConf) (args : CmdArgs) : LockedProg Reply :=
  locked conf (handleGCBody conf args)

/-- The commands of the plugin. -/
inductive Command where
  | add
  | del
  | check
  | gc
  deriving DecidableEq

/-- One invocation of the plugin. -/
structure Call where
  command : Command
  conf : PluginConf
  args : CmdArgs

/-- The body of the handler of a call. -/
def Call.body : Call → Prog Reply
  | ⟨.add, conf, args⟩ => handleAddBody conf args
  | ⟨.del, conf, args⟩ => handleDelBody conf args
  | ⟨.check, conf, args⟩ => handleCheckBody conf args
  | ⟨.gc, conf, args⟩ => handleGCBody conf args

/-- The handler of a call. -/
def Call.program : Call → LockedProg Reply
  | ⟨.add, conf, args⟩ => handleAdd conf args
  | ⟨.del, conf, args⟩ => handleDel conf args
  | ⟨.check, conf, args⟩ => handleCheck conf args
  | ⟨.gc, conf, args⟩ => handleGC conf args

theorem Call.program_eq (c : Call) :
  c.program = locked c.conf c.body
  := by
  rcases c with ⟨_ | _, conf, args⟩ <;> rfl

/-- A handler on its own runs its body, or returns an error and changes nothing. -/
theorem run_locked {S : Type} {T : Behaviour Op.Res S} {fails : Bool} {conf : PluginConf}
    {body : Prog Reply} {s s' : S} {r : Reply}
    (h : Run (Solo T fails) (locked conf body) s r s') :
  Run T body s r s' ∨ s' = s ∧ ∃ e, r = .error e
  := by
  rcases run_guarded.mp h with h | ⟨-, rfl, e, rfl | rfl⟩
  · exact .inl h
  · exact .inr ⟨rfl, _, rfl⟩
  · exact .inr ⟨rfl, _, rfl⟩

/-- A handler on its own may run its body. -/
theorem locked_run {S : Type} {T : Behaviour Op.Res S} {fails : Bool} {conf : PluginConf}
    {body : Prog Reply} {s s' : S} {r : Reply} (h : Run T body s r s') :
  Run (Solo T fails) (locked conf body) s r s'
  := run_guarded.mpr (.inl h)

/-- A handler on its own may be cut short where its body may. -/
theorem locked_reach {S : Type} {T : Behaviour Op.Res S} {fails : Bool} {conf : PluginConf}
    {body q : Prog Reply} {s s' : S} (h : Reach T body s q s') :
  Reach (Solo T fails) (locked conf body) s
    (inside (lockPathForSocket conf.groutSocketPath) q) s'
  := guarded_reach h

end GroutCni
