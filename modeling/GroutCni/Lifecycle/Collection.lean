import GroutCni.Handlers.Event
import GroutCni.Handlers.Filling
import GroutCni.Lifecycle.Recovery

/-!
# Bridges without members

A DEL collects the bridge of a port that it has found, and a GC collects the bridge of ports
that it has reaped.  Neither collects a bridge that has no members to begin with, so the
bridge that an ADD has made before it failed stays for good.  If ADDs that find no bridge are not
killed, and nothing fails after they have made one, the bridge goes with its last member
(`memberless_bridge_collected`).
-/

namespace GroutCni

open Effect

/-- No interface has an interface of the name as its domain. -/
def Memberless (name : GoString) (g : Grout) : Prop :=
  ∀ b ∈ g.ifaces, b.name = name → ∀ i ∈ g.ifaces, i.domain ≠ b.id

instance (name : GoString) (g : Grout) : Decidable (Memberless name g) :=
  inferInstanceAs (Decidable (∀ b ∈ g.ifaces, _))

/-! ### A bridge without members stays -/

section

variable {conf : PluginConf} {g g' : Grout} {name : GoString}

theorem Memberless.mono (h : Memberless name g) (hsub : ∀ i ∈ g'.ifaces, i ∈ g.ifaces) :
  Memberless name g'
  := fun b hb hname i hi => h b (hsub b hb) hname i (hsub i hi)

/-- DELs of other ports leave a bridge without members. -/
theorem Memberless.mem_afterDels (h : Memberless name g) {b : InterfaceInfo}
    (hb : b ∈ g.ifaces) (hname : b.name = name) {names : List GoString}
    (hnames : ∀ n ∈ names, n ≠ name) :
  b ∈ (g.afterDels names).ifaces
  := by
  induction names generalizing g with
  | nil => exact hb
  | cons n names ih =>
      have hsub : ∀ i ∈ (g.afterDel n).ifaces, i ∈ g.ifaces :=
        fun i hi => (Grout.mem_of_mem_afterDel hi).1
      apply ih (h.mono hsub) _ (fun m hm => hnames m (List.mem_cons_of_mem _ hm))
      apply Grout.mem_afterDel hb
      · rw [hname]
        exact (hnames n List.mem_cons_self).symm
      · intro port hport _
        exact h b hb hname port hport

/-- A GC finds nothing to reap on a bridge without members, and does nothing. -/
theorem Memberless.afterGC_eq (h : Memberless conf.bridge g) :
  g.afterGC conf = g
  := by
  unfold Grout.afterGC
  split
  case h_1 => rfl
  case h_2 bridgeID hfound =>
    obtain ⟨b, hb, hname, -, rfl⟩ := findBridgeID_some hfound
    apply if_pos
    rw [Grout.stalePorts, hfound]
    apply List.filter_eq_nil_iff.mpr
    intro i hi hstale
    exact h b hb hname i hi (isStale_iff.mp hstale).1

end

/-! ### Runs in which bridges are filled -/

/-- Any call of an ADD may fail or be lost, the other handlers' calls succeed. -/
def faultyAdds (c : Call) : Policy Op :=
  match c.command with
  | .add => Policy.mayLose
  | _ => Policy.allOk

/-- Only ADDs are killed. -/
def OnlyAddsKilled : Discipline := fun _ _ e _ =>
  match e with
  | .killed c => c.command = .add
  | _ => True

/-- An ADD that finds no interface of the name of the bridge is not killed, none of its calls fails
after the `InterfaceAdd` of the bridge, and it does not panic on the IPAM result. -/
def UndisturbedOnceMade (bridge : GoString) : Discipline := fun _ w e w' =>
  ∀ c ∈ e.call?, c.command = .add → c.conf.bridge = bridge → NoneNamed bridge w.grout →
    ∃ r log, e = .returned c r ∧
      Run (Solo (logged (Env (faultyAdds c))) true) c.program (w, []) r (w', log) ∧
      (∀ x ∈ afterBridge bridge log, x.2.isOk = true) ∧
      ∀ raw, .ok raw ∈ ipamAnswers log → RawResult.Completes raw

/-- Only ADDs are killed, and those that find no bridge are undisturbed once they have made it. -/
def BridgesFilled (bridge : GoString) : Discipline := fun es w e w' =>
  OnlyAddsKilled es w e w' ∧ UndisturbedOnceMade bridge es w e w'

/-- An interface of the name is a bridge with a member, and no bridge is a member. -/
structure Filled (bridge : GoString) (g : Grout) : Prop where
  member : ∀ b ∈ g.ifaces, b.name = bridge →
    b.type = InterfaceType.bridge ∧ ∃ m ∈ g.ifaces, m.domain = b.id
  flat : ∀ b ∈ g.ifaces, b.type = InterfaceType.bridge → b.domain = 0

namespace Filled

variable {bridge : GoString} {g : Grout}

/-- Members of one bridge are deleted and the bridge is collected. -/
theorem prune (h : Filled bridge g) {ids : List UInt16} {bridgeID : UInt16}
    (hids : ∀ i ∈ g.ifaces, i.id ∈ ids → i.domain = bridgeID) :
  Filled bridge ((g.deleteAll ids).collect bridgeID)
  := by
  constructor
  · intro b hb hname
    obtain ⟨hbd, hcoll⟩ := Grout.mem_collect.mp hb
    have hbg := (Grout.mem_deleteAll.mp hbd).1
    obtain ⟨htype, m, hm, hmd⟩ := h.member b hbg hname
    refine ⟨htype, ?_⟩
    by_cases hid : b.id = bridgeID
    · -- The bridge has not been collected, so it has a member left.
      have hnot : ¬ (g.deleteAll ids).Collectable bridgeID := fun hc => hcoll ⟨hc, hid⟩
      obtain ⟨m', hm', hm'd⟩ := Grout.exists_member hbd htype (hid ▸ hnot)
      exact ⟨m', Grout.mem_collect.mpr ⟨hm', fun hc => hnot hc.1⟩, hm'd⟩
    · have hmdel : m ∈ (g.deleteAll ids).ifaces := by
        apply Grout.mem_deleteAll.mpr ⟨hm, ?_⟩
        intro hmid
        exact hid (hmd.symm.trans (hids m hm hmid))
      refine ⟨m, Grout.mem_collect.mpr ⟨hmdel, ?_⟩, hmd⟩
      -- The member is not a bridge, so it is not what has been collected.
      rintro ⟨⟨⟨k, hk, hkid, hktype⟩, -⟩, hmid⟩
      obtain rfl := g.eq_of_id (Grout.mem_deleteAll.mp hk).1 hm (hkid.trans hmid.symm)
      exact g.id_ne_zero b hbg (hmd.symm.trans (h.flat k hm hktype))
  · intro b hb
    exact h.flat b (Grout.mem_deleteAll.mp (Grout.mem_collect.mp hb).1).1

theorem afterDel (h : Filled bridge g) (name : GoString) :
  Filled bridge (g.afterDel name)
  := by
  unfold Grout.afterDel
  split
  case h_1 => exact h
  case h_2 port hfound =>
    rw [Grout.withoutPort_eq, Grout.delete_eq_deleteAll]
    apply h.prune
    intro i hi hid
    rw [g.eq_of_id hi (findPortByName_some hfound).1 (List.mem_singleton.mp hid)]

theorem afterGC (h : Filled bridge g) (conf : PluginConf) :
  Filled bridge (g.afterGC conf)
  := by
  unfold Grout.afterGC
  split
  case h_1 => exact h
  case h_2 bridgeID hfound =>
    split
    case isTrue => exact h
    case isFalse =>
      apply h.prune
      intro i hi hid
      exact (isStale_iff.mp ((Grout.id_mem_stalePorts hfound hi).mp hid)).1

/-- A new interface that has not the name of the port is the bridge. -/
theorem mem_bridge_of_new {conf : PluginConf} {args : CmdArgs} {b p : Option InterfaceInfo}
    {w w' : World} (hadd : AddStage conf args w b p w')
    (hport : args.attachment.portName ≠ bridge) {x : InterfaceInfo} (hx : x ∈ w'.grout.ifaces)
    (hname : x.name = bridge) (hnew : x ∉ w.grout.ifaces) :
  x ∈ b
  := by
  rcases hadd.mem_cases hx with hx | hx | hx
  · exact absurd hx hnew
  · exact hx
  · exact absurd ((hadd.port x hx).1.symm.trans hname) hport

/-- If an ADD that finds no interface of the name creates its port or leaves none, a new interface
of the name has a member. -/
theorem exists_member_of_new {conf : PluginConf} {args : CmdArgs} {b p : Option InterfaceInfo}
    {w w' : World} (hadd : AddStage conf args w b p w')
    (hport : args.attachment.portName ≠ bridge)
    (hdone : conf.bridge = bridge → NoneNamed bridge w.grout →
      p ≠ none ∨ NoneNamed bridge w'.grout)
    {x : InterfaceInfo} (hx : x ∈ w'.grout.ifaces) (hname : x.name = bridge)
    (hnew : x ∉ w.grout.ifaces) :
  ∃ m ∈ w'.grout.ifaces, m.domain = x.id
  := by
  have hconf : conf.bridge = bridge :=
    (hadd.bridge x (mem_bridge_of_new hadd hport hx hname hnew)).1.symm.trans hname
  have hnone : NoneNamed bridge w.grout := by
    intro i hi hiname
    rw [w'.grout.eq_of_name hx (hadd.mem hi) (hname.trans hiname.symm)] at hnew
    exact hnew hi
  rcases hdone hconf hnone with hp | hnone'
  · obtain ⟨i, rfl⟩ := Option.ne_none_iff_exists'.mp hp
    obtain ⟨-, -, j, hj, hjname, hdomain⟩ := hadd.port i rfl
    refine ⟨i, hadd.mem_port, ?_⟩
    rw [w'.grout.eq_of_name hx (hadd.mem_bridge hj) (hname.trans (hconf.symm.trans hjname.symm))]
    exact hdomain
  · exact absurd hname (hnone' x hx)

/-- An ADD that, if it finds no interface of the name, creates its port or leaves none. -/
theorem add {conf : PluginConf} {args : CmdArgs} {b p : Option InterfaceInfo} {w w' : World}
    (h : Filled bridge w.grout) (hadd : AddStage conf args w b p w')
    (hport : args.attachment.portName ≠ bridge)
    (hdone : conf.bridge = bridge → NoneNamed bridge w.grout →
      p ≠ none ∨ NoneNamed bridge w'.grout) :
  Filled bridge w'.grout
  := by
  constructor
  · intro x hx hname
    by_cases hxw : x ∈ w.grout.ifaces
    · obtain ⟨htype, m, hm, hmd⟩ := h.member x hxw hname
      exact ⟨htype, m, hadd.mem hm, hmd⟩
    · exact ⟨(hadd.bridge x (mem_bridge_of_new hadd hport hx hname hxw)).2.1,
        exists_member_of_new hadd hport hdone hx hname hxw⟩
  · intro x hx htype
    rcases hadd.mem_cases hx with hx | hx | hx
    · exact h.flat x hx htype
    · exact (hadd.bridge x hx).2.2
    · exact absurd ((hadd.port x hx).2.1.symm.trans htype) (by decide)

/-- An ADD that is undisturbed once it has made the bridge succeeds or leaves no interface of its
name. -/
theorem succeeds_or_noneNamed_of_undisturbed {es : List NodeEvent} {w w' : World} {e : NodeEvent}
    {conf : PluginConf} {args : CmdArgs} (hA : UndisturbedOnceMade bridge es w e w')
    (he : e.call? = some ⟨.add, conf, args⟩) (hconf : conf.bridge = bridge)
    (hnone : NoneNamed bridge w.grout) :
  e.Succeeded ∨ NoneNamed bridge w'.grout
  := by
  obtain ⟨r, log, rfl, hrun, hok, hraw⟩ := hA _ he rfl hconf hnone
  subst hconf
  rcases run_locked hrun with hrun | ⟨hw, -⟩
  · rcases succeeds_or_noneNamed hnone hrun hok hraw with ⟨x, rfl⟩ | hnone'
    · exact .inl ⟨_, x, rfl⟩
    · exact .inr hnone'
  · cases hw
    exact .inr hnone

/-- Every event keeps the bridge filled, if ADDs that find none are undisturbed once they have made
it. -/
theorem step {es : List NodeEvent} {w w' : World} {e : NodeEvent}
    (h : Filled bridge w.grout) (hs : NodeStep faultyAdds w e w')
    (hA : BridgesFilled bridge es w e w')
    (hports : ∀ c ∈ e.call?, c.command = .add → c.args.attachment.portName ≠ bridge) :
  Filled bridge w'.grout
  := by
  have hrun : ∀ {c}, e.call? = some c → c.command ≠ .add →
      w' = w ∨ ∃ r, Run (Env (faultyAdds c)) c.body w r w' := by
    intro c hc hadd
    rcases NodeEvent.call?_eq_some.mp hc with ⟨r, rfl⟩ | rfl
    · rcases hs.run with hr | ⟨hw, -⟩
      · exact .inr ⟨r, hr⟩
      · exact .inl hw
    · exact absurd hA.1 hadd
  cases hs.shape with
  | add he hadd hport =>
      apply h.add hadd (hports _ he rfl)
      intro hconf hnone
      exact (succeeds_or_noneNamed_of_undisturbed hA.2 he hconf hnone).imp_left hport
  | @del conf args he _ =>
      rcases hrun he (by simp) with rfl | ⟨r, hr⟩
      · exact h
      · obtain ⟨-, links, rfl⟩ := Run.wp (T := Env Policy.allOk) hr (wp_handleDelBody conf args w)
        exact h.afterDel _
  | check he hw =>
      subst hw
      exact h
  | @gc conf args he _ =>
      rcases hrun he (by simp) with rfl | ⟨r, hr⟩
      · exact h
      · obtain ⟨-, links, rfl⟩ := Run.wp (T := Env Policy.allOk) hr (wp_handleGCBody conf args w)
        exact h.afterGC conf
  | restarted he hw =>
      subst hw
      constructor <;> intro b hb <;> cases hb

end Filled

/-- In a run whose ADDs that find no bridge are undisturbed once they have made it, an interface of
the name is a bridge with a member. -/
theorem History.filled {bridge : GoString} {w₀ w : World} {es : List NodeEvent}
    (h : History faultyAdds (BridgesFilled bridge) w₀ es w)
    (hstart : Filled bridge w₀.grout)
    (hports : ∀ c ∈ callsOf es, c.command = .add → c.args.attachment.portName ≠ bridge) :
  Filled bridge w.grout
  := by
  induction h with
  | start => exact hstart
  | step _ hA hs ih =>
      rw [callsOf_snoc] at hports
      apply (ih fun c hc => hports c (List.mem_append_left _ hc)).step hs hA
      intro c hc
      exact hports c (List.mem_append_right _ (Option.mem_toList.mpr hc))

/-- DELs and a GC without valid attachments leave a bridge without members where it is. -/
theorem Memberless.noneNamed_iff {conf : PluginConf} {dels : List CmdArgs} {w w₁ : World}
    (h : Memberless conf.bridge w.grout)
    (hnames : ∀ args ∈ dels, args.attachment.portName ≠ conf.bridge)
    (hdels : Dels conf dels w w₁) :
  NoneNamed conf.bridge (w₁.grout.afterGC { conf with validAttachments := [] })
    ↔ NoneNamed conf.bridge w.grout
  := by
  have hsub : ∀ i ∈ w₁.grout.ifaces, i ∈ w.grout.ifaces := by
    intro i hi
    rw [hdels.grout_eq] at hi
    exact Grout.mem_of_mem_afterDels hi
  have hgc : w₁.grout.afterGC { conf with validAttachments := [] } = w₁.grout :=
    Memberless.afterGC_eq (h.mono hsub)
  rw [hgc]
  constructor
  · intro hnone i hi hname
    apply hnone i _ hname
    rw [hdels.grout_eq]
    apply h.mem_afterDels hi hname
    intro n hn
    obtain ⟨args, hargs, rfl⟩ := List.mem_map.mp hn
    exact hnames args hargs
  · intro hnone i hi
    exact hnone i (hsub i hi)

/-- When the bridge of a network has no members, DELs and a GC without valid attachments leave
no interface of its name only if there is none already.  This is so in every run in which
ADDs that find no interface of the name are not killed, no call of theirs fails after the
`InterfaceAdd` of the bridge, and they do not panic on the IPAM result. -/
theorem memberless_bridge_collected {conf : PluginConf} {dels : List CmdArgs} {gcArgs : CmdArgs}
    {w w₁ w' : World} {r : Reply} (hempty : Memberless conf.bridge w.grout)
    (hnames : ∀ args ∈ dels, args.attachment.portName ≠ conf.bridge)
    (hdels : Dels conf dels w w₁)
    (hgc : Run (Solo (Env Policy.allOk) false)
      (handleGC { conf with validAttachments := [] } gcArgs) w₁ r w') :
  (NoneNamed conf.bridge w'.grout ↔ NoneNamed conf.bridge w.grout) ∧
  ∀ {w₀ : World} {es : List NodeEvent},
    (∀ i ∈ w₀.grout.ifaces, i.name ≠ conf.bridge ∧
      (i.type = InterfaceType.bridge → i.domain = 0)) →
    (∀ c ∈ callsOf es, c.command = .add → c.args.attachment.portName ≠ conf.bridge) →
    History faultyAdds (BridgesFilled conf.bridge) w₀ es w → NoneNamed conf.bridge w'.grout
  := by
  obtain ⟨-, links, rfl⟩ := run_handleGC_allOk hgc
  have hiff := hempty.noneNamed_iff hnames hdels
  refine ⟨hiff, ?_⟩
  intro w₀ es hstart hports h
  have hstart' : Filled conf.bridge w₀.grout := by
    constructor
    · intro b hb hname
      exact absurd hname (hstart b hb).1
    · intro b hb
      exact (hstart b hb).2
  have hfilled := h.filled hstart' hports
  apply hiff.mpr
  intro b hb hname
  obtain ⟨-, m, hm, hmd⟩ := hfilled.member b hb hname
  exact hempty b hb hname m hm hmd

/-- The discipline for an ADD whose log is known. -/
theorem bridgesFilled_of_log {conf : PluginConf} {args : CmdArgs} {es : List NodeEvent}
    {w w' : World} {r : Reply} {log : Log}
    (h : Run (logged (Env Policy.mayLose)) (handleAddBody conf args) (w, []) r (w', log))
    (hok : ∀ x ∈ afterBridge conf.bridge log, x.2.isOk = true) (hwell : WellFormedAnswers log) :
  BridgesFilled conf.bridge es w (.returned ⟨.add, conf, args⟩ r) w'
  := by
  refine ⟨trivial, ?_⟩
  rintro _ ⟨⟩ _ _ _
  refine ⟨r, log, rfl, locked_run h, hok, ?_⟩
  intro raw hraw result hresult
  apply (hwell _ hraw raw rfl result ?_).completes
  rw [hresult]
  rfl

/-- An ADD fails before it makes the bridge, a pod comes, an ADD for another fails, and the first
pod goes: the bridge is gone. -/
theorem memberless_bridge_collected_last_pod :
  ∃ es w w₁ r w', History faultyAdds (BridgesFilled sharedTap.bridge) World.initial es w ∧
    es.length = 4 ∧ Memberless sharedTap.bridge w.grout ∧
    Dels sharedTap [pod "a", pod "b", pod "c"] w w₁ ∧
    Run (Solo (Env Policy.allOk) false)
      (handleGC { sharedTap with validAttachments := [] } (pod "")) w₁ r w' ∧
    NoneNamed sharedTap.bridge w'.grout
  := by
  have hexec : (exec (loggedAct (World.act Policy.mayLose))
      [oneAddress 30, { fault := .fail }, {}] (handleAddBody sharedTap (pod "c"))
      (World.initial, [])).any (fun x₁ : Reply × World × Log => decide (
    (∀ x ∈ afterBridge sharedTap.bridge x₁.2.2, x.2.isOk = true) ∧ WellFormedAnswers x₁.2.2 ∧
    (exec (loggedAct (World.act Policy.mayLose))
      [oneAddress 10, {}, { id := 1 }, {}, { id := 2 }] (handleAddBody sharedTap (pod "a"))
      (x₁.2.1, [])).any (fun x₂ : Reply × World × Log => decide (
    (∀ x ∈ afterBridge sharedTap.bridge x₂.2.2, x.2.isOk = true) ∧ WellFormedAnswers x₂.2.2 ∧
      ¬ NoneNamed sharedTap.bridge x₂.2.1.grout ∧
    (exec (World.act Policy.mayLose) [oneAddress 20, {}, {}, { fault := .fail }, {}]
      (handleAddBody sharedTap (pod "b")) x₂.2.1).any (fun x₃ : Reply × World =>
    (exec (World.act Policy.allOk) [{}, {}, {}, {}, {}, {}, {}, {}]
      (handleDelBody sharedTap (pod "a")) x₃.2).any (fun x₄ : Reply × World => decide (
    Memberless sharedTap.bridge x₄.2.grout ∧
    (exec (World.act Policy.allOk) [{}, {}] (handleDelBody sharedTap (pod "a")) x₄.2).any (fun y₁ =>
    (exec (World.act Policy.allOk) [{}, {}] (handleDelBody sharedTap (pod "b")) y₁.2).any (fun y₂ =>
    (exec (World.act Policy.allOk) [{}, {}] (handleDelBody sharedTap (pod "c")) y₂.2).any (fun y₃ =>
    (exec (World.act Policy.allOk) [{}, {}]
      (handleGCBody { sharedTap with validAttachments := [] } (pod "")) y₃.2).isSome)))
      = true))) = true)) = true)) = true := by
    decide +kernel
  obtain ⟨r₁, ⟨w₁, log₁⟩, h₁, hexec⟩ := exec_exists (loggedAct_sound World.act_sound) hexec
  obtain ⟨hok₁, hwell₁, hexec⟩ := of_decide_eq_true hexec
  obtain ⟨r₂, ⟨w₂, log₂⟩, h₂, hexec⟩ := exec_exists (loggedAct_sound World.act_sound) hexec
  obtain ⟨hok₂, hwell₂, hthere, hexec⟩ := of_decide_eq_true hexec
  obtain ⟨r₃, w₃, h₃, hexec⟩ := exec_exists World.act_sound hexec
  obtain ⟨r₄, w₄, h₄, hexec⟩ := exec_exists World.act_sound hexec
  obtain ⟨hempty, hexec⟩ := of_decide_eq_true hexec
  obtain ⟨_, v₁, hdel₁, hexec⟩ := exec_exists World.act_sound hexec
  obtain ⟨_, v₂, hdel₂, hexec⟩ := exec_exists World.act_sound hexec
  obtain ⟨_, v₃, hdel₃, hexec⟩ := exec_exists World.act_sound hexec
  obtain ⟨⟨r, w'⟩, hgc⟩ := Option.isSome_iff_exists.mp hexec
  have hadds : History faultyAdds (BridgesFilled sharedTap.bridge) World.initial
      [.returned ⟨.add, sharedTap, pod "c"⟩ r₁, .returned ⟨.add, sharedTap, pod "a"⟩ r₂] w₂ :=
    .step (.step .start (bridgesFilled_of_log h₁ hok₁ hwell₁) (.returned (locked_run h₁.forget)))
      (bridgesFilled_of_log h₂ hok₂ hwell₂) (.returned (locked_run h₂.forget))
  have hfailed : ∀ es, BridgesFilled sharedTap.bridge es w₂
      (.returned ⟨.add, sharedTap, pod "b"⟩ r₃) w₃ := by
    -- The ADD that fails finds the bridge.
    refine fun es => ⟨trivial, ?_⟩
    rintro _ ⟨⟩ - - hnone
    exact absurd hnone hthere
  have hdel : ∀ es, BridgesFilled sharedTap.bridge es w₃
      (.returned ⟨.del, sharedTap, pod "a"⟩ r₄) w₄ := by
    refine fun es => ⟨trivial, ?_⟩
    rintro _ ⟨⟩ ⟨⟩
  have hhistory : History faultyAdds (BridgesFilled sharedTap.bridge) World.initial
      [.returned ⟨.add, sharedTap, pod "c"⟩ r₁, .returned ⟨.add, sharedTap, pod "a"⟩ r₂,
        .returned ⟨.add, sharedTap, pod "b"⟩ r₃, .returned ⟨.del, sharedTap, pod "a"⟩ r₄] w₄ :=
    .step (.step hadds (hfailed _) (.returned (locked_run h₃))) (hdel _)
      (.returned (locked_run h₄))
  have hdels : Dels sharedTap [pod "a", pod "b", pod "c"] w₄ v₃ :=
    .cons (locked_run hdel₁) (.cons (locked_run hdel₂) (.cons (locked_run hdel₃) (.nil v₃)))
  have hgc : Run (Solo (Env Policy.allOk) false)
      (handleGC { sharedTap with validAttachments := [] } (pod "")) v₃ r w' :=
    locked_run (exec_sound World.act_sound hgc)
  have hports : ∀ c ∈ ([⟨.add, sharedTap, pod "c"⟩, ⟨.add, sharedTap, pod "a"⟩,
      ⟨.add, sharedTap, pod "b"⟩, ⟨.del, sharedTap, pod "a"⟩] : List Call),
      c.command = .add → c.args.attachment.portName ≠ sharedTap.bridge := by
    decide +kernel
  have hnone : NoneNamed sharedTap.bridge w'.grout := by
    refine (memberless_bridge_collected hempty (by decide +kernel) hdels hgc).2 ?_ ?_ hhistory
    · intro i hi
      cases hi
    · exact hports
  exact ⟨_, w₄, v₃, r, w', hhistory, rfl, hempty, hdels, hgc, hnone⟩

/-- An ADD fails after it has made the bridge: the bridge and its gateway address stay after a
DEL of the attachment and a GC. -/
theorem memberless_bridge_leaked :
  ∃ r₀ w w₁ r w', History faultyAdds OnlyAddsKilled World.initial
      [.returned ⟨.add, sharedTap, pod "a"⟩ r₀] w ∧
    Memberless sharedTap.bridge w.grout ∧ Dels sharedTap [pod "a"] w w₁ ∧
    Run (Solo (Env Policy.allOk) false)
      (handleGC { sharedTap with validAttachments := [] } (pod "")) w₁ r w' ∧
    (∃ b ∈ w'.grout.ifaces, b.name = sharedTap.bridge) ∧ w'.grout.addrs.length = 1
  := by
  have hexec : (exec (World.act Policy.mayLose)
      [oneAddress 10, {}, { id := 1 }, {}, { fault := .fail }, {}]
      (handleAddBody sharedTap (pod "a")) World.initial).any
      (fun x => Memberless sharedTap.bridge x.2.grout ∧
        (exec (World.act Policy.allOk) [{}, {}] (handleDelBody sharedTap (pod "a")) x.2).any
          (fun y => (exec (World.act Policy.allOk) [{}, {}]
            (handleGCBody { sharedTap with validAttachments := [] } (pod "")) y.2).any
            fun z => (∃ b ∈ z.2.grout.ifaces, b.name = sharedTap.bridge) ∧
              z.2.grout.addrs.length = 1)
          = true) = true := by
    decide +kernel
  obtain ⟨r₀, w, hadd, hcheck⟩ := exec_exists World.act_sound hexec
  obtain ⟨hempty, hexec⟩ := of_decide_eq_true hcheck
  obtain ⟨r₁, w₁, hdel, hexec⟩ := exec_exists World.act_sound hexec
  obtain ⟨r, w', hgc, hcheck⟩ := exec_exists World.act_sound hexec
  have hhistory : History faultyAdds OnlyAddsKilled World.initial
      [.returned ⟨.add, sharedTap, pod "a"⟩ r₀] w :=
    .step .start trivial (.returned (locked_run hadd))
  exact ⟨r₀, w, w₁, r, w', hhistory, hempty, .cons (locked_run hdel) (.nil w₁), locked_run hgc,
    of_decide_eq_true hcheck⟩

end GroutCni
