import GroutCni.Handlers.Event
import GroutCni.Lifecycle.Refinement

/-!
# Garbage collection and the attachments of other networks

A GC is told the valid attachments of its network, but it reaps the members of the bridge of
its network.  It spares the live attachments of every network as long as no live attachment
of another network is on that bridge (`gc_spares_live`), whichever calls fail or are killed.
Networks that share a bridge, as those of `deploy/nad-mixed.yaml` do, lose ports
(`gc_reaps_live_of_shared_bridge`).
-/

namespace GroutCni

open Effect

/-- The attachments that the runtime considers live after an event: an ADD that succeeds adds
its attachment and a DEL that succeeds removes it. -/
def NodeEvent.live (live : List Live) : NodeEvent → List Live
  | .returned ⟨.add, conf, args⟩ (.ok _) => ⟨conf, args.attachment⟩ :: live
  | .returned ⟨.del, _, args⟩ (.ok _) => live.filter fun l => l.attachment ≠ args.attachment
  | _ => live

/-- The attachments that the runtime considers live after a history. -/
def liveAfter (es : List NodeEvent) : List Live :=
  es.foldl NodeEvent.live []

/-- What the runtime does: an ADD is for an attachment that is not live, and a GC is told
exactly the live attachments of its network. -/
def RuntimeRules : Discipline := fun es _ e _ =>
  ∀ c ∈ e.call?,
    (c.command = .add → ∀ l ∈ liveAfter es, l.attachment ≠ c.args.attachment) ∧
    (c.command = .gc →
      (∀ a ∈ c.conf.validAttachments, ∃ l ∈ liveAfter es,
        l.conf.name = c.conf.name ∧ l.attachment = a) ∧
      ∀ l ∈ liveAfter es, l.conf.name = c.conf.name → l.attachment ∈ c.conf.validAttachments)

/-- When a GC is made, no live attachment of another network is on the bridge. -/
def OwnBridge : Discipline := fun es _ e _ =>
  ∀ c ∈ e.call?, c.command = .gc →
    ∀ l ∈ liveAfter es, l.conf.bridge = c.conf.bridge → l.conf.name = c.conf.name

instance (es : List NodeEvent) (w : World) (e : NodeEvent) (w' : World) :
    Decidable (RuntimeRules es w e w') :=
  inferInstanceAs (Decidable (∀ c ∈ e.call?, _))

instance (es : List NodeEvent) (w : World) (e : NodeEvent) (w' : World) :
    Decidable (OwnBridge es w e w') :=
  inferInstanceAs (Decidable (∀ c ∈ e.call?, _))

/-- A port of a live attachment and its socket are there after an event if they were there
before. -/
def Spared (l : Live) (w w' : World) : Prop :=
  (∀ i ∈ w.grout.ifaces, i.name = l.attachment.portName → i ∈ w'.grout.ifaces) ∧
    (l.conf.socketPath l.attachment.portName ∈ w.sockets →
      l.conf.socketPath l.attachment.portName ∈ w'.sockets)

instance (l : Live) (w w' : World) : Decidable (Spared l w w') :=
  inferInstanceAs (Decidable (_ ∧ _))

/-- The ports of live attachments are members of the bridges of their networks. -/
def MembersOfOwnBridge (live : List Live) (g : Grout) : Prop :=
  ∀ l ∈ live, ∀ i ∈ g.ifaces, i.name = l.attachment.portName →
    i.type = InterfaceType.port ∧ ∃ b ∈ g.ifaces, b.name = l.conf.bridge ∧ i.domain = b.id

/-- The members with the prefix of the plugin are ports of attachments of the ADDs. -/
def MembersAreNamed (calls : List Call) (g : Grout) : Prop :=
  ∀ i ∈ g.ifaces, hasPrefix i.name portPrefix = true → i.domain ≠ 0 →
    ∃ c ∈ calls, c.command = .add ∧ i.name = c.args.attachment.portName

/-- No ADD has a bridge with the name of the port of an ADD or of a DEL. -/
def BridgesNotPorts (calls : List Call) : Prop :=
  ∀ c ∈ calls, c.command = .add → ∀ c' ∈ calls, c'.command = .add ∨ c'.command = .del →
    c.conf.bridge ≠ c'.args.attachment.portName

instance (calls : List Call) : Decidable (BridgesNotPorts calls) :=
  inferInstanceAs (Decidable (∀ c ∈ calls, _))

theorem BridgesNotPorts.of_append {calls new : List Call} (h : BridgesNotPorts (calls ++ new)) :
  BridgesNotPorts calls
  := fun c hc hadd c' hc' => h c (List.mem_append_left _ hc) hadd c' (List.mem_append_left _ hc')

theorem Live.StemsFrom.bridge_ne {l : Live} {calls : List Call} {c : Call}
    (h : l.StemsFrom calls) (hbp : BridgesNotPorts calls) (hc : c ∈ calls)
    (hcommand : c.command = .add ∨ c.command = .del) :
  l.conf.bridge ≠ c.args.attachment.portName
  := by
  obtain ⟨c', hc', hadd, hconf, -⟩ := h
  rw [← hconf]
  exact hbp c' hc' hadd c hc hcommand

theorem Live.StemsFrom.portName_ne {l : Live} {calls : List Call} {c : Call}
    (h : l.StemsFrom calls) (hbp : BridgesNotPorts calls) (hc : c ∈ calls)
    (hadd : c.command = .add) :
  c.conf.bridge ≠ l.attachment.portName
  := by
  obtain ⟨c', hc', hadd', -, hatt⟩ := h
  rw [← hatt]
  exact hbp c hc hadd c' hc' (.inl hadd')

/-! ### What an event keeps -/

theorem liveAfter_snoc (es : List NodeEvent) (e : NodeEvent) :
  liveAfter (es ++ [e]) = e.live (liveAfter es)
  := by
  simp [liveAfter]

/-- An attachment that is live after an event was live before or has just been added. -/
theorem NodeEvent.mem_live {live : List Live} {e : NodeEvent} {l : Live} (h : l ∈ e.live live) :
  l ∈ live ∨ ∃ conf args, e.call? = some ⟨.add, conf, args⟩ ∧ e.Succeeded ∧
    l = ⟨conf, args.attachment⟩
  := by
  rcases e with ⟨⟨_ | _, conf, args⟩, _ | _ | _⟩ | _ | _
  case returned.add.ok =>
    rcases List.mem_cons.mp h with rfl | h
    · exact .inr ⟨conf, args, rfl, ⟨_, _, rfl⟩, rfl⟩
    · exact .inl h
  case returned.del.ok => exact .inl (List.mem_of_mem_filter h)
  all_goals exact .inl h

theorem mem_liveAfter {es : List NodeEvent} {l : Live} (h : l ∈ liveAfter es) :
  l.StemsFrom (callsOf es)
  := by
  apply mem_foldl_live _ h
  intro live e l hl
  apply (NodeEvent.mem_live hl).imp_right
  rintro ⟨conf, args, hc, -, rfl⟩
  exact ⟨_, Option.mem_toList.mpr hc, rfl, rfl, rfl⟩

/-- What a GC takes for stale is the port of an attachment. -/
theorem MembersAreNamed.portName_of_stale {calls : List Call} {conf : PluginConf} {w : World}
    {i : InterfaceInfo} (h : MembersAreNamed calls w.grout) (hi : i ∈ w.grout.ifaces)
    (hstale : StaleAt conf w i) :
  ∃ a : Attachment, i.name = a.portName
  := by
  obtain ⟨b, hb, -, -, hstale⟩ := hstale
  obtain ⟨hdom, hprefix, -⟩ := isStale_iff.mp hstale
  obtain ⟨c, -, -, hic⟩ := h i hi hprefix (hdom ▸ w.grout.id_ne_zero b hb)
  exact ⟨c.args.attachment, hic⟩

/-- Every event keeps that members with the prefix are ports of attachments of the ADDs. -/
theorem MembersAreNamed.step {calls : List Call} {w w' : World} {e : NodeEvent}
    (h : MembersAreNamed calls w.grout) (hs : StepShape w e w') :
  MembersAreNamed (calls ++ e.call?.toList) w'.grout
  := by
  have hold : ∀ i ∈ w.grout.ifaces, hasPrefix i.name portPrefix = true → i.domain ≠ 0 →
      ∃ c ∈ calls ++ e.call?.toList, c.command = .add ∧
        i.name = c.args.attachment.portName := by
    intro i hi hp hd
    obtain ⟨c, hc, hca⟩ := h i hi hp hd
    exact ⟨c, List.mem_append_left _ hc, hca⟩
  cases hs with
  | add he hadd _ =>
      intro i hi hp hd
      rcases hadd.mem_cases hi with hi | hi | hi
      · exact hold i hi hp hd
      · exact absurd (hadd.bridge i hi).2.2 hd
      · exact ⟨_, List.mem_append_right _ (by rw [he]; exact List.mem_cons_self), rfl,
          (hadd.port i hi).1⟩
  | del he hdel => exact fun i hi => hold i (hdel.ifaces hi)
  | check he hw =>
      subst hw
      exact hold
  | gc he hgc => exact fun i hi => hold i (hgc.ifaces hi)
  | restarted he hw =>
      subst hw
      intro i hi
      cases hi

/-- Removing interfaces other than bridges of live attachments keeps ports members of their
own bridges. -/
theorem MembersOfOwnBridge.pruned {live : List Live} {stale : InterfaceInfo → Prop}
    {careful : Prop} {sock : GoString} {w w' : World} (h : MembersOfOwnBridge live w.grout)
    (hp : Pruned stale careful sock w w')
    (hstale : ∀ l ∈ live, ∀ b ∈ w.grout.ifaces, b.name = l.conf.bridge → ¬ stale b) :
  MembersOfOwnBridge live w'.grout
  := by
  intro l hl i hi hname
  obtain ⟨htype, b, hb, hbname, hbid⟩ := h l hl i (hp.ifaces hi) hname
  refine ⟨htype, b, ?_, hbname, hbid⟩
  by_contra hgone
  rcases hp.removed b hb hgone with hs | ⟨-, hmem⟩
  · exact hstale l hl b hb hbname hs
  · exact hmem i hi hbid

/-- Adding the bridge and the port of an attachment that is not live keeps the ports of live
attachments members of their own bridges. -/
theorem MembersOfOwnBridge.added {live : List Live} {conf : PluginConf} {args : CmdArgs}
    {b p : Option InterfaceInfo} {w w' : World} (h : MembersOfOwnBridge live w.grout)
    (hadd : AddStage conf args w b p w')
    (hports : ∀ l ∈ live, l.attachment.portName ≠ args.attachment.portName)
    (hbridge : ∀ l ∈ live, conf.bridge ≠ l.attachment.portName) :
  MembersOfOwnBridge live w'.grout
  := by
  intro l hl i hi hname
  rcases hadd.mem_cases hi with hi | hi | hi
  · obtain ⟨htype, b', hb', hb'l⟩ := h l hl i hi hname
    exact ⟨htype, b', hadd.mem hb', hb'l⟩
  · exact absurd ((hadd.bridge i hi).1.symm.trans hname) (hbridge l hl)
  · exact absurd (hname.symm.trans (hadd.port i hi).1) (hports l hl)

/-- The port that an ADD has made is a member of the bridge of its network. -/
theorem AddStage.memberOfOwnBridge {conf : PluginConf} {args : CmdArgs}
    {b : Option InterfaceInfo} {p i : InterfaceInfo} {w w' : World}
    (hadd : AddStage conf args w b (some p) w') (hi : i ∈ w'.grout.ifaces)
    (hname : i.name = args.attachment.portName) :
  i.type = InterfaceType.port ∧ ∃ b ∈ w'.grout.ifaces, b.name = conf.bridge ∧ i.domain = b.id
  := by
  obtain ⟨hpname, hptype, j, hj, hjname, hjid⟩ := hadd.port p rfl
  rw [w'.grout.eq_of_name hi hadd.mem_port (hname.trans hpname.symm)]
  exact ⟨hptype, j, hadd.mem_bridge hj, hjname, hjid⟩

/-- The port of an ADD that succeeded is a member of the bridge of its network. -/
theorem StepShape.memberOfOwnBridge {conf : PluginConf} {args : CmdArgs} {i : InterfaceInfo}
    {w w' : World} {e : NodeEvent} (hs : StepShape w e w')
    (hcall : e.call? = some ⟨.add, conf, args⟩) (hok : e.Succeeded) (hi : i ∈ w'.grout.ifaces)
    (hname : i.name = args.attachment.portName) :
  i.type = InterfaceType.port ∧ ∃ b ∈ w'.grout.ifaces, b.name = conf.bridge ∧ i.domain = b.id
  := by
  cases hs with
  | @add _ _ b p he hadd hp =>
      cases he.symm.trans hcall
      obtain ⟨p, rfl⟩ := Option.ne_none_iff_exists'.mp (hp hok)
      exact hadd.memberOfOwnBridge hi hname
  | del he => cases he.symm.trans hcall
  | check he => cases he.symm.trans hcall
  | gc he => cases he.symm.trans hcall
  | restarted he =>
      subst he
      cases hcall

/-- Every event that follows the rules of the runtime keeps the ports of attachments that were
live members of their own bridges. -/
theorem MembersOfOwnBridge.kept {es : List NodeEvent} {w w' : World} {e : NodeEvent}
    (h : MembersOfOwnBridge (liveAfter es) w.grout) (hnamed : MembersAreNamed (callsOf es) w.grout)
    (hinj : PortNamesInj (callsOf es ++ e.call?.toList))
    (hbp : BridgesNotPorts (callsOf es ++ e.call?.toList))
    (hrules : RuntimeRules es w e w') (hs : StepShape w e w') :
  MembersOfOwnBridge (liveAfter es) w'.grout
  := by
  have hlive : ∀ l ∈ liveAfter es, l.StemsFrom (callsOf es ++ e.call?.toList) := by
    intro l hl
    exact (mem_liveAfter hl).append _
  have hcall : ∀ {c}, e.call? = some c → c ∈ callsOf es ++ e.call?.toList := by
    intro c hc
    exact List.mem_append_right _ (Option.mem_toList.mpr hc)
  cases hs with
  | add he hadd _ =>
      apply h.added hadd
      · intro l hl hname
        apply (hrules _ he).1 rfl l hl
        exact (hlive l hl).eq_of_portName hinj (hcall he) List.mem_cons_self hname
      · intro l hl
        exact (hlive l hl).portName_ne hbp (hcall he) rfl
  | del he hdel =>
      apply h.pruned hdel
      intro l hl b _ hbname hstale
      apply (hlive l hl).bridge_ne hbp (hcall he) (.inr rfl)
      rw [← hbname, hstale]
  | check he hw =>
      subst hw
      exact h
  | gc he hgc =>
      apply h.pruned hgc
      rintro l hl b hb hbname ⟨b₀, hb₀, -, -, hstale⟩
      obtain ⟨hdom, hprefix, -⟩ := isStale_iff.mp hstale
      obtain ⟨c', hc', hadd, hbc⟩ :=
        hnamed b hb hprefix (hdom ▸ w.grout.id_ne_zero b₀ hb₀)
      apply (hlive l hl).bridge_ne hbp (List.mem_append_left _ hc') (.inl hadd)
      rw [← hbname, hbc]
  | restarted he hw =>
      subst hw
      intro l _ i hi
      cases hi

/-- Every event that follows the rules of the runtime keeps the ports of live attachments
members of their own bridges. -/
theorem MembersOfOwnBridge.step {es : List NodeEvent} {w w' : World} {e : NodeEvent}
    (h : MembersOfOwnBridge (liveAfter es) w.grout) (hnamed : MembersAreNamed (callsOf es) w.grout)
    (hinj : PortNamesInj (callsOf (es ++ [e]))) (hbp : BridgesNotPorts (callsOf (es ++ [e])))
    (hrules : RuntimeRules es w e w') (hs : StepShape w e w') :
  MembersOfOwnBridge (liveAfter (es ++ [e])) w'.grout
  := by
  rw [callsOf_snoc] at hinj hbp
  intro l hl i hi hname
  rw [liveAfter_snoc] at hl
  rcases NodeEvent.mem_live hl with hl | ⟨conf, args, hcall, hok, rfl⟩
  · exact h.kept hnamed hinj hbp hrules hs l hl i hi hname
  · exact hs.memberOfOwnBridge hcall hok hi hname

/-! ### A GC spares live attachments -/

/-- In every history, members with the prefix are ports of attachments of the ADDs. -/
theorem History.membersAreNamed {P : Call → Policy Op} {A : Discipline} {w₀ w : World}
    {es : List NodeEvent} (h : History P A w₀ es w)
    (hstart : ∀ i ∈ w₀.grout.ifaces, hasPrefix i.name portPrefix = false) :
  MembersAreNamed (callsOf es) w.grout
  := by
  induction h with
  | start =>
      intro i hi hp
      rw [hstart i hi] at hp
      cases hp
  | step _ _ hs ih =>
      rw [callsOf_snoc]
      exact ih.step hs.shape

/-- In every history that follows the rules of the runtime, the ports of live attachments are
members of their own bridges. -/
theorem History.membersOfOwnBridge {P : Call → Policy Op} {w₀ w : World} {es : List NodeEvent}
    (h : History P RuntimeRules w₀ es w)
    (hstart : ∀ i ∈ w₀.grout.ifaces, hasPrefix i.name portPrefix = false)
    (hinj : PortNamesInj (callsOf es)) (hbp : BridgesNotPorts (callsOf es)) :
  MembersOfOwnBridge (liveAfter es) w.grout
  := by
  induction h with
  | start =>
      intro l hl
      cases hl
  | step h hA hs ih =>
      have hown := ih (callsOf_snoc _ _ ▸ hinj).of_append (callsOf_snoc _ _ ▸ hbp).of_append
      exact hown.step (h.membersAreNamed hstart) hinj hbp hA hs.shape

/-- The port of a live attachment is not stale for a GC if no other network is on the
bridge. -/
theorem not_staleAt_of_live {es : List NodeEvent} {w w' : World} {e : NodeEvent}
    {conf : PluginConf} {args : CmdArgs} {l : Live} {i : InterfaceInfo}
    (hown : MembersOfOwnBridge (liveAfter es) w.grout) (he : e.call? = some ⟨.gc, conf, args⟩)
    (hrules : RuntimeRules es w e w') (hbridge : OwnBridge es w e w') (hl : l ∈ liveAfter es)
    (hi : i ∈ w.grout.ifaces) (hname : i.name = l.attachment.portName) :
  ¬ StaleAt conf w i
  := by
  rintro ⟨b₀, hb₀, hb₀name, -, hstale⟩
  obtain ⟨hdom, -, hvalid⟩ := isStale_iff.mp hstale
  obtain ⟨-, b, hb, hbname, hbid⟩ := hown l hl i hi hname
  have hbb : b = b₀ := w.grout.eq_of_id hb hb₀ (hbid.symm.trans hdom)
  have hnet : l.conf.name = conf.name := by
    apply hbridge _ he rfl l hl
    rw [← hbname, hbb, hb₀name]
  have hmem : l.attachment ∈ conf.validAttachments := ((hrules _ he).2 rfl).2 l hl hnet
  apply hvalid
  rw [hname]
  exact List.mem_map_of_mem (f := fun a => groutPortName a.containerID a.ifName) hmem

/-- A GC, ended or killed, spares the ports and sockets of all live attachments if no live
attachment of another network is on the bridge. -/
theorem gc_spares_live {P : Call → Policy Op} {w₀ w w' : World} {es : List NodeEvent}
    {e : NodeEvent} {conf : PluginConf} {args : CmdArgs}
    (hstart : ∀ i ∈ w₀.grout.ifaces, hasPrefix i.name portPrefix = false)
    (h : History P RuntimeRules w₀ es w) (hinj : PortNamesInj (callsOf es))
    (hbp : BridgesNotPorts (callsOf es)) (he : e.call? = some ⟨.gc, conf, args⟩)
    (hs : NodeStep P w e w') (hrules : RuntimeRules es w e w') (hbridge : OwnBridge es w e w') :
  ∀ l ∈ liveAfter es, Spared l w w'
  := by
  have hown := h.membersOfOwnBridge hstart hinj hbp
  have hnamed := h.membersAreNamed hstart
  have hnot : ∀ l ∈ liveAfter es, ∀ i ∈ w.grout.ifaces, i.name = l.attachment.portName →
      ¬ StaleAt conf w i :=
    fun l hl i hi hname => not_staleAt_of_live hown he hrules hbridge hl hi hname
  cases hs.shape with
  | gc he' hgc =>
      cases he'.symm.trans he
      intro l hl
      constructor
      · intro i hi hname
        by_contra hgone
        rcases hgc.removed i hi hgone with hstale | ⟨htype, -⟩
        · exact hnot l hl i hi hname hstale
        · rw [(hown l hl i hi hname).1] at htype
          revert htype
          decide
      · intro hsock
        by_contra hgone
        obtain ⟨i, hi, hstale, hpath, -⟩ := hgc.unlinked _ hsock hgone
        obtain ⟨a, hia⟩ := hnamed.portName_of_stale hi hstale
        rw [hia] at hpath
        have hname : i.name = l.attachment.portName := by
          rw [hia, vhostSocketPath_inj hpath]
        exact hnot l hl i hi hname hstale
  | add he' => cases he'.symm.trans he
  | del he' => cases he'.symm.trans he
  | check he' => cases he'.symm.trans he
  | restarted he' =>
      subst he'
      cases he

/-- A GC of one network spares the port of another network on another bridge. -/
theorem gc_spares_live_of_other_bridge :
  ∃ es w e w', History (fun _ => Policy.allOk) RuntimeRules World.initial es w ∧
    NodeStep (fun _ => Policy.allOk) w e w' ∧ (liveAfter es).length = 2 ∧
    ∀ l ∈ liveAfter es, Spared l w w'
  := by
  have hplay : (World.initial.play (fun _ => Policy.allOk) RuntimeRules []
      [.call ⟨.add, sharedTap, pod "a"⟩ [oneAddress 10, {}, { id := 1 }, {}, { id := 2 }],
        .call ⟨.add, { sharedVirtio with bridge := lit "br-other" }, pod "b"⟩
          [oneAddress 20, {}, { id := 3 }, {}, {}, { id := 4 }]]).any
      (fun x => (x.2.playStep (fun _ => Policy.allOk)
        (.call ⟨.gc, { sharedTap with validAttachments := [(pod "a").attachment] }, pod ""⟩
          [{}, {}])).any fun y =>
        (y.1.call?.map (·.command) = some .gc ∧ (liveAfter x.1).length = 2 ∧
          PortNamesInj (callsOf x.1) ∧ BridgesNotPorts (callsOf x.1) ∧
          RuntimeRules x.1 x.2 y.1 y.2 ∧ OwnBridge x.1 x.2 y.1 y.2 : Bool)) = true := by
    decide +kernel
  obtain ⟨es, w, e, w', h, hs, hcheck⟩ := World.play_exists_step hplay
  obtain ⟨hgc, hlen, hinj, hbp, hrules, hbridge⟩ := of_decide_eq_true hcheck
  obtain ⟨⟨cmd, conf, args⟩, hc, rfl⟩ := Option.map_eq_some_iff.mp hgc
  have hspared := gc_spares_live (by intro i hi; cases hi) h hinj hbp hc hs hrules hbridge
  exact ⟨es, w, e, w', h, hs, hlen, hspared⟩

/-- On the networks of `deploy/nad-mixed.yaml`, a GC of one network reaps the port and the
socket of a live attachment of the other. -/
theorem gc_reaps_live_of_shared_bridge :
  ∃ es w e w', History (fun _ => Policy.allOk) RuntimeRules World.initial es w ∧
    NodeStep (fun _ => Policy.allOk) w e w' ∧ RuntimeRules es w e w' ∧
    e.call?.map (·.command) = some .gc ∧ PortNamesInj (callsOf es) ∧
    BridgesNotPorts (callsOf es) ∧ ∃ l ∈ liveAfter es,
      (∃ i ∈ w.grout.ifaces, i.name = l.attachment.portName ∧ i ∉ w'.grout.ifaces) ∧
      l.conf.socketPath l.attachment.portName ∈ w.sockets ∧
      l.conf.socketPath l.attachment.portName ∉ w'.sockets
  := by
  have hplay : (World.initial.play (fun _ => Policy.allOk) RuntimeRules []
      [.call ⟨.add, sharedTap, pod "a"⟩ [oneAddress 10, {}, { id := 1 }, {}, { id := 2 }],
        .call ⟨.add, sharedVirtio, pod "b"⟩ [oneAddress 20, {}, {}, {}, { id := 3 }]]).any
      (fun x => (x.2.playStep (fun _ => Policy.allOk)
        (.call ⟨.gc, { sharedTap with validAttachments := [(pod "a").attachment] }, pod ""⟩
          [{}, {}, {}, {}, {}])).any fun y =>
        (RuntimeRules x.1 x.2 y.1 y.2 ∧ y.1.call?.map (·.command) = some .gc ∧
          PortNamesInj (callsOf x.1) ∧ BridgesNotPorts (callsOf x.1) ∧ ∃ l ∈ liveAfter x.1,
            (∃ i ∈ x.2.grout.ifaces, i.name = l.attachment.portName ∧ i ∉ y.2.grout.ifaces) ∧
            l.conf.socketPath l.attachment.portName ∈ x.2.sockets ∧
            l.conf.socketPath l.attachment.portName ∉ y.2.sockets : Bool)) = true := by
    decide +kernel
  obtain ⟨es, w, e, w', h, hs, hcheck⟩ := World.play_exists_step hplay
  exact ⟨es, w, e, w', h, hs, of_decide_eq_true hcheck⟩

end GroutCni
