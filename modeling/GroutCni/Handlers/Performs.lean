import GroutCni.Handlers.Add

/-!
# What a call performs

`Call.Performs` lists the operations that a call may perform, whatever it is answered.
-/

namespace GroutCni

open Effect

/-- Only an ADD changes links: that of its port, which it moves into the pod and renames. -/
def Call.Configures (c : Call) (link : GoString × GoString) : Prop :=
  c.command = .add ∧ (link.1 = [] ∨ link.1 = c.args.netns) ∧
    (link.2 = c.args.attachment.portName ∨ link.2 = c.args.ifName)

/-- The netlink operations of a call. -/
def Call.Netlink (c : Call) (o : Op) : Prop :=
  o.IsNetlink ∧ ∀ link ∈ o.target?, c.Configures link

/-- The operations that a call may perform. -/
inductive Call.Performs : Call → Op → Prop
  | list {c : Call} (req : InterfaceListRequest) : Performs c (.interfaceList req)
  | netlink {c : Call} {o : Op} : c.Netlink o → Performs c o
  | ipamAdd (conf : PluginConf) (args : CmdArgs) :
      Performs ⟨.add, conf, args⟩ (.ipamAdd conf args)
  | addBridge (conf : PluginConf) (args : CmdArgs) :
      Performs ⟨.add, conf, args⟩
        (.interfaceAdd { name := conf.bridge, type := InterfaceType.bridge })
  | addPort (conf : PluginConf) (args : CmdArgs) (bridgeID : UInt16) :
      Performs ⟨.add, conf, args⟩ (.interfaceAdd (portRequest conf args bridgeID))
  | addAddress (conf : PluginConf) (args : CmdArgs) (bridgeID : UInt16) (gw : IPNet) :
      Performs ⟨.add, conf, args⟩ (.addressAdd ⟨bridgeID, gw, true⟩)
  | mkdir (conf : PluginConf) (args : CmdArgs) (path : GoString) :
      Performs ⟨.add, conf, args⟩ (.mkdirAll path)
  | rollback (conf : PluginConf) (args : CmdArgs) (id : UInt16) :
      Performs ⟨.add, conf, args⟩ (.interfaceDel id)
  | ipamDel {c : Call} : c.command = .add ∨ c.command = .del →
      Performs c (.ipamDel c.conf c.args)
  | delete {c : Call} (id : UInt16) : c.command = .del ∨ c.command = .gc →
      Performs c (.interfaceDel id)
  | flush4 {c : Call} (id : UInt16) : c.command = .del ∨ c.command = .gc →
      Performs c (.ip4AddrFlush id)
  | flush6 {c : Call} (id : UInt16) : c.command = .del ∨ c.command = .gc →
      Performs c (.ip6AddrFlush id)
  | remove {c : Call} (name : GoString) : c.command = .del ∨ c.command = .gc →
      Performs c (.remove (vhostSocketPath c.conf.groutSocketPath name))
  | stat {c : Call} (path : GoString) : c.command = .check → Performs c (.stat path)
  | ipamGC (conf : PluginConf) (args : CmdArgs) :
      Performs ⟨.gc, conf, args⟩ (.ipamGC conf args)

section

variable {conf : PluginConf} {args : CmdArgs}

/-! ### Links -/

/-- Looking changes no link. -/
theorem Call.Netlink.look {c : Call} {o : Op} (h : o.IsNetlink) (ht : o.target? = none) :
  c.Netlink o
  := by
  refine ⟨h, ?_⟩
  rw [ht]
  rintro _ ⟨⟩

theorem Call.Netlink.change {o : Op} {link : GoString × GoString} (h : o.IsNetlink)
    (ht : o.target? = some link) (hlink : Configures ⟨.add, conf, args⟩ link) :
  Call.Netlink ⟨.add, conf, args⟩ o
  := by
  refine ⟨h, ?_⟩
  rw [ht]
  rintro _ ⟨⟩
  exact hlink

theorem moveLinkToNamespace_netlink :
  (moveLinkToNamespace args.attachment.portName args.netns).Uses
    (Call.Netlink ⟨.add, conf, args⟩)
  := by
  apply uses_perform_bind (.look trivial rfl) _ fun _ => by trivial
  intro _
  apply uses_perform_bind (.look trivial rfl) _ fun _ => by trivial
  intro _
  apply uses_perform_bind _ (fun _ => by trivial) fun _ => by trivial
  exact .change trivial rfl ⟨rfl, .inl rfl, .inl rfl⟩

theorem renameLink_netlink :
  (renameLink args.netns args.attachment.portName args.ifName).Uses
    (Call.Netlink ⟨.add, conf, args⟩)
  := by
  unfold renameLink
  split
  · trivial
  apply uses_perform_bind (.change trivial rfl ⟨rfl, .inr rfl, .inl rfl⟩) _ fun _ => by trivial
  intro _
  apply uses_perform_bind (.change trivial rfl ⟨rfl, .inr rfl, .inl rfl⟩) _ fun _ => by trivial
  intro _
  apply uses_perform_bind (.look trivial rfl) (fun _ => by trivial) fun _ => by trivial

theorem setLinkMTU_netlink (mtu : Int) :
  (setLinkMTU args.netns args.ifName mtu).Uses (Call.Netlink ⟨.add, conf, args⟩)
  := by
  unfold setLinkMTU
  split
  · apply uses_perform_bind _ (fun _ => by trivial) fun _ => by trivial
    exact .change trivial rfl ⟨rfl, .inr rfl, .inr rfl⟩
  · trivial

theorem setLinkMAC_netlink (result : Result) :
  (setLinkMAC args.netns args.ifName result).Uses (Call.Netlink ⟨.add, conf, args⟩)
  := by
  unfold setLinkMAC
  split
  · trivial
  · apply uses_perform_bind _ (fun _ => by trivial) fun _ => by trivial
    exact .change trivial rfl ⟨rfl, .inr rfl, .inr rfl⟩

theorem configurePodInterface_netlink (mtu : Int) (result : Result) :
  (configurePodInterface args.netns args.attachment.portName args.ifName mtu result).Uses
    (Call.Netlink ⟨.add, conf, args⟩)
  := by
  apply uses_perform_bind (.look trivial rfl) _ fun _ => by trivial
  intro _
  apply uses_perform_bind (.look trivial rfl) _ fun _ => by trivial
  intro _
  apply uses_perform_bind (.look trivial rfl) _ fun _ => by trivial
  intro _
  apply renameLink_netlink.bind
  rintro (_ | _)
  · trivial
  apply (setLinkMTU_netlink _).bind
  rintro (_ | _)
  · trivial
  apply (setLinkMAC_netlink _).bind
  rintro (_ | _)
  · trivial
  apply uses_perform_bind (.change trivial rfl ⟨rfl, .inr rfl, .inr rfl⟩) _ fun _ => by trivial
  intro _
  apply uses_perform_bind (.look trivial rfl) (fun _ => by trivial) fun _ => by trivial

/-- Setting up the pod changes no link but that of the port. -/
theorem setupPod_netlink (podRes : Result) :
  (setupPod conf args podRes).Uses (Call.Netlink ⟨.add, conf, args⟩)
  := by
  apply moveLinkToNamespace_netlink.bind
  rintro (_ | _)
  · trivial
  apply (configurePodInterface_netlink _ _).bind
  rintro (_ | _)
  · trivial
  · trivial

/-- Checking the link in the pod changes no link. -/
theorem verifyPodInterface_netlink {c : Call} (netnsPath podIfName : GoString)
    (expectedIPs : List IPNet) :
  (verifyPodInterface netnsPath podIfName expectedIPs).Uses c.Netlink
  := by
  apply uses_perform_bind (.look trivial rfl) _ fun _ => by trivial
  intro _
  apply uses_perform_bind (.look trivial rfl) _ fun _ => by trivial
  intro _
  apply uses_perform_bind (.look trivial rfl) _ fun _ => by trivial
  intro link
  dsimp only
  split
  · trivial
  split
  · trivial
  apply uses_perform_bind (.look trivial rfl) _ fun _ => by trivial
  intro addrs
  dsimp only
  split
  · trivial
  · trivial

/-! ### ADD -/

theorem ensureBridge_performs :
  (ensureBridge conf.bridge).Uses (Call.Performs ⟨.add, conf, args⟩)
  := by
  apply uses_perform_bind (.list {}) _ fun _ => by trivial
  intro ifaces
  dsimp only
  split
  · trivial
  · apply uses_perform_bind (.addBridge conf args) fun _ => by trivial
    intro err
    apply uses_perform_bind (.list {}) _ fun _ => by trivial
    intro ifaces2
    dsimp only
    split
    · trivial
    · trivial

theorem finishAdd_performs (cniResult : Result) (ifaceID : UInt16) :
  (finishAdd conf args cniResult ifaceID).Uses (Call.Performs ⟨.add, conf, args⟩)
  := by
  have hipam : (ipamDel conf args).Uses (Call.Performs ⟨.add, conf, args⟩) :=
    ipamDel_uses (.ipamDel (.inl rfl))
  unfold finishAdd
  split
  · split
    · trivial
    · trivial
  · split
    · trivial
    · split
      · trivial
      · apply Program.Uses.bind ((setupPod_netlink _).mono fun _ => .netlink)
        rintro (err | podRes)
        · apply Program.Uses.bind
          · exact uses_perform_bind (.rollback conf args ifaceID) (fun _ => hipam) fun _ => hipam
          · intro _
            trivial
        · trivial

theorem attachTo_performs (cniResult : Result) (bridgeID : UInt16) :
  (attachTo conf args cniResult bridgeID).Uses (Call.Performs ⟨.add, conf, args⟩)
  := by
  have hipam : (ipamDel conf args).Uses (Call.Performs ⟨.add, conf, args⟩) :=
    ipamDel_uses (.ipamDel (.inl rfl))
  have hgateways : ∀ gws, (assignGateways bridgeID gws).Uses
      (Call.Performs ⟨.add, conf, args⟩) := by
    intro gws
    induction gws with
    | nil => trivial
    | cons gw gws ih =>
        apply uses_perform_bind (.addAddress conf args bridgeID gw) _ fun _ => by trivial
        intro _
        exact ih
  unfold attachTo
  split
  · trivial
  · apply Program.Uses.bind (hgateways _)
    rintro (err | _)
    · exact hipam.bind fun _ => by trivial
    · apply Program.Uses.bind (addPort_uses (.mkdir conf args) (.addPort conf args bridgeID))
      rintro (err | ifaceID)
      · exact hipam.bind fun _ => by trivial
      · exact finishAdd_performs cniResult ifaceID

theorem handleAddBody_performs :
  (handleAddBody conf args).Uses (Call.Performs ⟨.add, conf, args⟩)
  := by
  have hadd : (delegateIPAMAdd conf args).Uses (Call.Performs ⟨.add, conf, args⟩) :=
    uses_perform_bind (.ipamAdd conf args) (fun _ => by trivial) fun _ => by trivial
  apply hadd.bind
  rintro (err | result)
  · trivial
  · dsimp only
    split
    · trivial
    · apply ensureBridge_performs.bind
      rintro (err | bridgeID)
      · exact (ipamDel_uses (.ipamDel (.inl rfl))).bind fun _ => by trivial
      · exact attachTo_performs _ bridgeID

end

section

variable {c : Call}

/-! ### DEL and GC -/

theorem gcBridgeIfEmpty_performs (h : c.command = .del ∨ c.command = .gc) (bridgeID : UInt16) :
  (gcBridgeIfEmpty bridgeID).Uses c.Performs
  := by
  apply uses_perform_bind (.list {}) _ fun _ => by trivial
  intro ifaces
  dsimp only
  split
  · apply Program.Uses.bind (addressFlush_uses (.flush4 bridgeID h) (.flush6 bridgeID h))
    intro _
    exact uses_perform_bind (.delete bridgeID h) (fun _ => by trivial) fun _ => by trivial
  · trivial

theorem removeVhostSocket_performs (h : c.command = .del ∨ c.command = .gc) (name : GoString) :
  (removeVhostSocket c.conf.groutSocketPath name).Uses c.Performs
  := ⟨.remove name h, fun _ => trivial⟩

theorem deletePort_performs (h : c.command = .del) (name : GoString) (port : InterfaceInfo) :
  (deletePort c.conf name port).Uses c.Performs
  := by
  constructor
  · exact .delete port.id (.inl h)
  · intro _
    apply (removeVhostSocket_performs (.inl h) name).bind
    intro _
    split
    · exact gcBridgeIfEmpty_performs (.inl h) port.domain
    · trivial

theorem handleDelBody_performs (h : c.command = .del) :
  (handleDelBody c.conf c.args).Uses c.Performs
  := by
  have hipam : (ipamDel c.conf c.args).Uses c.Performs := ipamDel_uses (.ipamDel (.inr h))
  apply uses_perform_bind (.list {}) _ fun _ => by trivial
  intro ifaces
  dsimp only
  split
  · apply (deletePort_performs h _ _).bind
    intro _
    exact hipam.bind fun _ => by trivial
  · exact hipam.bind fun _ => by trivial

theorem reapLoop_performs (h : c.command = .gc) (bridgeID : UInt16) (valid : List GoString)
    (reaped : Bool) (ifaces : List InterfaceInfo) :
  (reapLoop c.conf bridgeID valid reaped ifaces).Uses c.Performs
  := by
  induction ifaces generalizing reaped with
  | nil => trivial
  | cons iface ifaces ih =>
      unfold reapLoop
      split
      · apply uses_perform_bind (.delete iface.id (.inr h))
        · intro _
          exact (removeVhostSocket_performs (.inr h) _).bind fun _ => ih true
        · intro _
          exact ih reaped
      · exact ih reaped

theorem handleGCBody_performs (h : c.command = .gc) :
  (handleGCBody c.conf c.args).Uses c.Performs
  := by
  have hipam : (gcIPAM c.conf c.args).Uses c.Performs := by
    obtain ⟨command, conf, args⟩ := c
    cases h
    exact ⟨.ipamGC conf args, fun _ => trivial⟩
  apply uses_perform_bind (.list {}) _ fun _ => by trivial
  intro ifaces
  dsimp only
  split
  · exact hipam.bind fun _ => by trivial
  · apply (reapLoop_performs h _ _ _ _).bind
    intro reaped
    split
    · apply (gcBridgeIfEmpty_performs (.inr h) _).bind
      intro _
      exact hipam.bind fun _ => by trivial
    · exact hipam.bind fun _ => by trivial

/-! ### CHECK -/

theorem handleCheckBody_performs (h : c.command = .check) :
  (handleCheckBody c.conf c.args).Uses c.Performs
  := by
  apply uses_perform_bind (.list {}) _ fun _ => by trivial
  intro ifaces
  dsimp only
  split
  · trivial
  split
  · apply Program.Uses.bind
    · exact uses_perform_bind (.stat _ h) (fun _ => by trivial) fun _ => by trivial
    · intro found
      split
      · trivial
      · trivial
  · split
    · trivial
    split
    · trivial
    apply ((verifyPodInterface_netlink _ _ _).mono fun _ => .netlink).bind
    rintro (_ | _)
    · trivial
    · trivial

end

/-- A call performs only what is listed, whatever it is answered. -/
theorem body_performs (c : Call) :
  c.body.Uses c.Performs
  := by
  obtain ⟨command, conf, args⟩ := c
  cases command with
  | add => exact handleAddBody_performs
  | del => exact handleDelBody_performs (c := ⟨.del, conf, args⟩) rfl
  | gc => exact handleGCBody_performs (c := ⟨.gc, conf, args⟩) rfl
  | check => exact handleCheckBody_performs (c := ⟨.check, conf, args⟩) rfl

end GroutCni
