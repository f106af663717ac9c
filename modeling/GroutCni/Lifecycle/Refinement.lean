import GroutCni.Handlers.Add
import GroutCni.Handlers.Check
import GroutCni.Handlers.Exact
import GroutCni.Node.Script
import Mathlib.Data.List.Induction
import Mathlib.Tactic.MkIffOfInductiveProp

/-!
# The interface table refines the live attachments

The plugin keeps no state of its own: the interface table of grout is all there is.  As long
as every call succeeds, the table is determined by the live attachments: it consists of the
interfaces that were there before, one port for each live attachment, and one bridge for
each bridge name that a live attachment's network has (`Refines`).
-/

namespace GroutCni

open Effect

/-- A live attachment, with the configuration of its network. -/
structure Live where
  conf : PluginConf
  attachment : Attachment

/-- The interface is the port of the attachment: a member of the bridge of its network. -/
def Live.IsPort (l : Live) (g : Grout) (i : InterfaceInfo) : Prop :=
  i.name = l.attachment.portName ∧ i.type = InterfaceType.port ∧
    ∃ b ∈ g.ifaces, b.name = l.conf.bridge ∧ b.type = InterfaceType.bridge ∧ i.domain = b.id

/-- The interface is the bridge of the attachment's network. -/
def Live.IsBridge (l : Live) (i : InterfaceInfo) : Prop :=
  i.name = l.conf.bridge ∧ i.type = InterfaceType.bridge ∧ i.domain = 0

/-- The table consists of the foreign interfaces, one port for each live attachment, and one
bridge for each bridge name of a live attachment. -/
@[mk_iff]
structure Refines (foreign : List InterfaceInfo) (live : List Live) (g : Grout) : Prop where
  kept : ∀ i ∈ foreign, i ∈ g.ifaces
  port : ∀ l ∈ live, ∃ i ∈ g.ifaces, l.IsPort g i
  only : ∀ i ∈ g.ifaces, i ∈ foreign ∨ (∃ l ∈ live, l.IsPort g i) ∨ ∃ l ∈ live, l.IsBridge i

instance (l : Live) (g : Grout) (i : InterfaceInfo) : Decidable (l.IsPort g i) :=
  inferInstanceAs (Decidable (_ ∧ _ ∧ _))

instance (l : Live) (i : InterfaceInfo) : Decidable (l.IsBridge i) :=
  inferInstanceAs (Decidable (_ ∧ _ ∧ _))

instance (foreign : List InterfaceInfo) (live : List Live) (g : Grout) :
    Decidable (Refines foreign live g) :=
  decidable_of_iff' _ (refines_iff foreign live g)

/-- Interfaces that the plugin has nothing to do with: none has the prefix of its ports, and
domains of theirs are ids of theirs. -/
@[mk_iff]
structure Foreign (foreign : List InterfaceInfo) : Prop where
  noPrefix : ∀ i ∈ foreign, hasPrefix i.name portPrefix = false
  domain : ∀ i ∈ foreign, i.domain ≠ 0 → ∃ j ∈ foreign, j.id = i.domain

instance (foreign : List InterfaceInfo) : Decidable (Foreign foreign) :=
  decidable_of_iff' _ (foreign_iff foreign)

section

variable {foreign : List InterfaceInfo} {live live' : List Live} {g : Grout}
  {l : Live} {i : InterfaceInfo}

theorem Live.IsPort.not_isBridge (h : l.IsPort g i) :
  i.type ≠ InterfaceType.bridge
  := by
  rw [h.2.1]
  decide

theorem Live.IsPort.not_foreign (h : l.IsPort g i) (hf : Foreign foreign) :
  i ∉ foreign
  := by
  intro hi
  have hp := hf.noPrefix i hi
  rw [h.1, hasPrefix_portName] at hp
  cases hp

/-- A port stays the port of its attachment as long as its bridge stays. -/
theorem Live.IsPort.of_bridge {g' : Grout} (h : l.IsPort g i)
    (hb : ∀ b ∈ g.ifaces, b.type = InterfaceType.bridge → i.domain = b.id → b ∈ g'.ifaces) :
  l.IsPort g' i
  := by
  obtain ⟨hname, htype, b, hbg, hbname, hbtype, hbid⟩ := h
  exact ⟨hname, htype, b, hb b hbg hbtype hbid, hbname, hbtype, hbid⟩

/-- A bridge of the table that is not foreign is the bridge of a live attachment. -/
theorem Refines.isBridge (h : Refines foreign live g) (hi : i ∈ g.ifaces) (hf : i ∉ foreign)
    (htype : i.type = InterfaceType.bridge) :
  ∃ l ∈ live, l.IsBridge i
  := by
  rcases h.only i hi with hif | ⟨l, -, hl⟩ | hb
  · exact absurd hif hf
  · exact absurd htype hl.not_isBridge
  · exact hb

section

variable {b₀ : InterfaceInfo}

/-- A bridge `b₀` that has a member is the bridge of a live attachment, as the member can only
be the port of one. -/
theorem isBridge_of_member (hf : Foreign foreign) (hkept : ∀ i ∈ foreign, i ∈ g.ifaces)
    (honly : ∀ i ∈ g.ifaces, i ∈ foreign ∨ (∃ l ∈ live, l.IsPort g i) ∨
      (∃ l ∈ live, l.IsBridge i) ∨ i = b₀)
    (hb₀ : b₀ ∈ g.ifaces) (hb₀f : b₀ ∉ foreign) (htype : b₀.type = InterfaceType.bridge)
    (hdom : b₀.domain = 0) {m : InterfaceInfo} (hm : m ∈ g.ifaces) (hmd : m.domain = b₀.id) :
  ∃ l ∈ live, l.IsBridge b₀
  := by
  have hid := g.id_ne_zero b₀ hb₀
  rcases honly m hm with hmf | ⟨l, hl, -, -, b, hb, hbname, -, hbid⟩ | ⟨l, -, hb⟩ | rfl
  · obtain ⟨j, hj, hji⟩ := hf.domain m hmf (hmd ▸ hid)
    rw [g.eq_of_id (hkept j hj) hb₀ (hji.trans hmd)] at hj
    exact absurd hj hb₀f
  · rw [g.eq_of_id hb hb₀ (hbid.symm.trans hmd)] at hbname
    exact ⟨l, hl, hbname, htype, hdom⟩
  · exact absurd (hmd.symm.trans hb.2.2) hid
  · exact absurd (hmd.symm.trans hdom) hid

/-- If the table is as it should be except that the bridge `b₀` may have lost its last
member, it is as it should be once the bridge is collected. -/
theorem Refines.of_collect (hf : Foreign foreign)
    (hkept : ∀ i ∈ foreign, i ∈ g.ifaces) (hport : ∀ l ∈ live, ∃ i ∈ g.ifaces, l.IsPort g i)
    (honly : ∀ i ∈ g.ifaces, i ∈ foreign ∨ (∃ l ∈ live, l.IsPort g i) ∨
      (∃ l ∈ live, l.IsBridge i) ∨ i = b₀)
    (hb₀ : b₀ ∈ g.ifaces) (hb₀f : b₀ ∉ foreign) (htype : b₀.type = InterfaceType.bridge)
    (hdom : b₀.domain = 0) :
  Refines foreign live (g.collect b₀.id)
  := by
  unfold Grout.collect
  split
  case isTrue hcoll =>
    -- The bridge of a port stays: it is not `b₀`, which has no members.
    have hstay : ∀ {l i}, i ∈ g.ifaces → Live.IsPort l g i → l.IsPort (g.delete b₀.id) i := by
      intro l i hi hip
      apply hip.of_bridge
      intro b hb _ hbid
      apply (Grout.mem_delete_id hb₀).mpr ⟨hb, ?_⟩
      rintro rfl
      exact hcoll.2 i hi hbid
    constructor
    · intro i hi
      apply (Grout.mem_delete_id hb₀).mpr ⟨hkept i hi, ?_⟩
      rintro rfl
      exact hb₀f hi
    · intro l hl
      obtain ⟨i, hi, hip⟩ := hport l hl
      refine ⟨i, (Grout.mem_delete_id hb₀).mpr ⟨hi, ?_⟩, hstay hi hip⟩
      rintro rfl
      exact hip.not_isBridge htype
    · intro i hi
      obtain ⟨hi, hne⟩ := (Grout.mem_delete_id hb₀).mp hi
      rcases honly i hi with hif | ⟨l, hl, hip⟩ | hib | hib
      · exact .inl hif
      · exact .inr (.inl ⟨l, hl, hstay hi hip⟩)
      · exact .inr (.inr hib)
      · exact absurd hib hne
  case isFalse hcoll =>
    refine ⟨hkept, hport, ?_⟩
    intro i hi
    rcases honly i hi with hif | hip | hib | rfl
    · exact .inl hif
    · exact .inr (.inl hip)
    · exact .inr (.inr hib)
    · obtain ⟨m, hm, hmd⟩ := Grout.exists_member hi htype hcoll
      exact .inr (.inr (isBridge_of_member hf hkept honly hi hb₀f htype hdom hm hmd))

end

/-- Ports of live attachments are deleted and their bridge is collected: what is left refines
the attachments that are left. -/
theorem Refines.prune {b₀ : InterfaceInfo} {ids : List UInt16} {dropped : Live → Prop}
    (h : Refines foreign live g) (hf : Foreign foreign) (hb₀ : b₀ ∈ g.ifaces)
    (hb₀f : b₀ ∉ foreign) (htype : b₀.type = InterfaceType.bridge)
    (hlive : ∀ l, l ∈ live' ↔ l ∈ live ∧ ¬ dropped l)
    (hon : ∀ l ∈ live, dropped l → l.conf.bridge = b₀.name)
    (hids : ∀ i ∈ g.ifaces, i.id ∈ ids ↔ ∃ l ∈ live, l.IsPort g i ∧ dropped l)
    (hname : ∀ l ∈ live, ∀ l' ∈ live, l.attachment.portName = l'.attachment.portName →
      dropped l → dropped l') :
  Refines foreign live' ((g.deleteAll ids).collect b₀.id)
  := by
  have hkeep : ∀ {b}, b ∈ g.ifaces → b.type = InterfaceType.bridge →
      b ∈ (g.deleteAll ids).ifaces := by
    intro b hb hbt
    apply Grout.mem_deleteAll.mpr ⟨hb, ?_⟩
    intro hid
    obtain ⟨l, -, hl, -⟩ := (hids b hb).mp hid
    exact hl.not_isBridge hbt
  have hstay : ∀ {l i}, Live.IsPort l g i → l.IsPort (g.deleteAll ids) i := by
    intro l i hip
    apply hip.of_bridge
    intro b hb hbtype _
    exact hkeep hb hbtype
  obtain ⟨l₀, -, -, -, hdom⟩ := h.isBridge hb₀ hb₀f htype
  apply Refines.of_collect hf _ _ _ (hkeep hb₀ htype) hb₀f htype hdom
  · intro i hi
    apply Grout.mem_deleteAll.mpr ⟨h.kept i hi, ?_⟩
    intro hid
    obtain ⟨l, -, hl, -⟩ := (hids i (h.kept i hi)).mp hid
    exact hl.not_foreign hf hi
  · intro l hl
    obtain ⟨hl, hld⟩ := (hlive l).mp hl
    obtain ⟨i, hi, hport⟩ := h.port l hl
    refine ⟨i, Grout.mem_deleteAll.mpr ⟨hi, ?_⟩, hstay hport⟩
    intro hid
    obtain ⟨l₂, hl₂, hport₂, hd₂⟩ := (hids i hi).mp hid
    exact hld (hname l₂ hl₂ l hl (hport₂.1.symm.trans hport.1) hd₂)
  · intro i hi
    obtain ⟨hi, hid⟩ := Grout.mem_deleteAll.mp hi
    rcases h.only i hi with hif | ⟨l, hl, hport⟩ | ⟨l, hl, hbridge⟩
    · exact .inl hif
    · refine .inr (.inl ⟨l, (hlive l).mpr ⟨hl, ?_⟩, hstay hport⟩)
      intro hd
      exact hid ((hids i hi).mpr ⟨l, hl, hport, hd⟩)
    · by_cases hd : dropped l
      · have hi₀ : i.name = b₀.name := hbridge.1.trans (hon l hl hd)
        exact .inr (.inr (.inr (g.eq_of_name hi hb₀ hi₀)))
      · exact .inr (.inr (.inl ⟨l, (hlive l).mpr ⟨hl, hd⟩, hbridge⟩))

/-- If no live attachment is dropped, the same attachments are live. -/
theorem Refines.of_none_dropped {dropped : Live → Prop} (h : Refines foreign live g)
    (hlive : ∀ l, l ∈ live' ↔ l ∈ live ∧ ¬ dropped l) (hnone : ∀ l ∈ live, ¬ dropped l) :
  Refines foreign live' g
  := by
  have hsame : ∀ l, l ∈ live' ↔ l ∈ live := by
    intro l
    rw [hlive]
    exact and_iff_left_of_imp (hnone l)
  constructor
  · exact h.kept
  · intro l hl
    apply h.port l ((hsame l).mp hl)
  · simpa only [hsame] using h.only

/-- Live attachments with one port name have one bridge. -/
theorem Refines.bridge_eq (h : Refines foreign live g) {l l' : Live} (hl : l ∈ live)
    (hl' : l' ∈ live) (hname : l.attachment.portName = l'.attachment.portName) :
  l.conf.bridge = l'.conf.bridge
  := by
  obtain ⟨i, hi, hin, -, b, hb, hbn, -, hbd⟩ := h.port l hl
  obtain ⟨i', hi', hin', -, b', hb', hbn', -, hbd'⟩ := h.port l' hl'
  have hii : i = i' := g.eq_of_name hi hi' (hin.trans (hname.trans hin'.symm))
  have hbb : b = b' := g.eq_of_id hb hb' (by rw [← hbd, ← hbd', hii])
  rw [← hbn, ← hbn', hbb]

/-- A successful ADD makes its attachment live. -/
theorem Refines.add {conf : PluginConf} {args : CmdArgs} {w w' : World}
    {b : Option InterfaceInfo} (h : Refines foreign live w.grout)
    (hadd : AddStage conf args w b (some i) w') (hforeign : ∀ i ∈ foreign, i.name ≠ conf.bridge)
    (hports : ∀ l ∈ live, conf.bridge ≠ l.attachment.portName) :
  Refines foreign (⟨conf, args.attachment⟩ :: live) w'.grout
  := by
  have hstay : ∀ {l i}, Live.IsPort l w.grout i → l.IsPort w'.grout i := by
    intro l i hip
    apply hip.of_bridge
    intro b hb _ _
    exact hadd.mem hb
  obtain ⟨hiname, hty, j, hj, hjname, hjid⟩ := hadd.port i rfl
  -- The interface that `ensureBridge` found by its name is a bridge.
  have hjtype : j.type = InterfaceType.bridge := by
    rcases List.mem_append.mp hj with hjw | hjb
    · rcases h.only j hjw with hjf | ⟨l, hl, hport⟩ | ⟨l, -, hbridge⟩
      · exact absurd hjname (hforeign j hjf)
      · exact absurd (hjname.symm.trans hport.1) (hports l hl)
      · exact hbridge.2.1
    · exact (hadd.bridge j (Option.mem_toList.mp hjb)).2.1
  have hport : Live.IsPort ⟨conf, args.attachment⟩ w'.grout i :=
    ⟨hiname, hty, j, hadd.mem_bridge hj, hjname, hjtype, hjid⟩
  constructor
  · intro k hk
    exact hadd.mem (h.kept k hk)
  · intro l hl
    rcases List.mem_cons.mp hl with rfl | hl
    · exact ⟨i, hadd.mem_port, hport⟩
    · obtain ⟨k, hk, hkp⟩ := h.port l hl
      exact ⟨k, hadd.mem hk, hstay hkp⟩
  · intro k hk
    rcases hadd.mem_cases hk with hk | hk | hk
    · rcases h.only k hk with hkf | ⟨l, hl, hkp⟩ | ⟨l, hl, hkb⟩
      · exact .inl hkf
      · exact .inr (.inl ⟨l, List.mem_cons_of_mem _ hl, hstay hkp⟩)
      · exact .inr (.inr ⟨l, List.mem_cons_of_mem _ hl, hkb⟩)
    · exact .inr (.inr ⟨_, List.mem_cons_self, hadd.bridge k hk⟩)
    · cases hk
      exact .inr (.inl ⟨_, List.mem_cons_self, hport⟩)

/-- A DEL ends its attachment, live or not. -/
theorem Refines.del (h : Refines foreign live g) (hf : Foreign foreign) {a : Attachment}
    (hinj : ∀ l ∈ live, l.attachment.portName = a.portName → l.attachment = a)
    (hforeign : ∀ i ∈ foreign, ∀ l ∈ live, i.name ≠ l.conf.bridge)
    (hports : ∀ l ∈ live, l.conf.bridge ≠ a.portName) :
  Refines foreign (live.filter fun l => l.attachment ≠ a) (g.afterDel a.portName)
  := by
  have hlive : ∀ l, l ∈ live.filter (fun l => l.attachment ≠ a)
      ↔ l ∈ live ∧ ¬ l.attachment = a := by simp
  unfold Grout.afterDel
  split
  case h_1 hnone =>
    -- There is no port, so the attachment was not live.
    apply h.of_none_dropped hlive
    rintro l hl rfl
    obtain ⟨i, hi, hport⟩ := h.port l hl
    exact findPortByName_none.mp hnone i hi hport.1
  case h_2 port hfound =>
    obtain ⟨hp, hpname⟩ := findPortByName_some hfound
    obtain ⟨l₀, hl₀, hport⟩ : ∃ l ∈ live, l.IsPort g port := by
      rcases h.only port hp with hpf | hport | ⟨l, hl, hb⟩
      · have hpre := hf.noPrefix port hpf
        rw [hpname, hasPrefix_portName] at hpre
        cases hpre
      · exact hport
      · exact absurd (hb.1.symm.trans hpname) (hports l hl)
    have hl₀a : l₀.attachment = a := hinj l₀ hl₀ (hport.1.symm.trans hpname)
    obtain ⟨b₀, hb₀, hbname, hbtype, hbid⟩ := hport.2.2
    have hdom : port.domain ≠ 0 := hbid ▸ g.id_ne_zero b₀ hb₀
    rw [Grout.withoutPort, if_pos hdom, hbid, Grout.delete_eq_deleteAll]
    apply h.prune hf hb₀ _ hbtype hlive
    · intro l hl hla
      rw [hbname]
      apply h.bridge_eq hl hl₀
      rw [hla, hl₀a]
    · intro i hi
      rw [List.mem_singleton]
      constructor
      · intro hid
        rw [g.eq_of_id hi hp hid]
        exact ⟨l₀, hl₀, hport, hl₀a⟩
      · rintro ⟨l, -, hip, hla⟩
        rw [g.eq_of_name hi hp (hip.1.trans (hla ▸ hpname.symm))]
    · rintro l - l' hl' hname rfl
      exact hinj l' hl' hname.symm
    · intro hb₀f
      exact hforeign b₀ hb₀f l₀ hl₀ hbname

/-- The stale ports of a network are the ports of the live attachments on its bridge that are
not valid. -/
theorem Refines.mem_stalePorts (h : Refines foreign live g) (hf : Foreign foreign)
    {conf : PluginConf}
    (hvalid : ∀ l ∈ live, ∀ a ∈ conf.validAttachments, l.attachment.portName = a.portName →
      l.attachment = a)
    {b₀ : InterfaceInfo} (hb₀ : b₀ ∈ g.ifaces) (hname : b₀.name = conf.bridge)
    (hfound : findBridgeID g.ifaces conf.bridge = some b₀.id) (hi : i ∈ g.ifaces) :
  i.id ∈ (g.stalePorts conf).map (·.id) ↔ ∃ l ∈ live,
    l.IsPort g i ∧ (l.conf.bridge = conf.bridge ∧ l.attachment ∉ conf.validAttachments)
  := by
  rw [Grout.id_mem_stalePorts hfound hi, isStale_iff]
  constructor
  · rintro ⟨hdom, hpre, hv⟩
    rcases h.only i hi with hif | ⟨l, hl, hport⟩ | ⟨l, -, hb⟩
    · rw [hf.noPrefix i hif] at hpre
      cases hpre
    · obtain ⟨b, hb, hbn, -, hbd⟩ := hport.2.2
      have hbb : b = b₀ := g.eq_of_id hb hb₀ (hbd.symm.trans hdom)
      refine ⟨l, hl, hport, ?_, ?_⟩
      · rw [← hbn, hbb, hname]
      · intro ha
        apply hv
        rw [hport.1]
        exact List.mem_map_of_mem (f := fun a => groutPortName a.containerID a.ifName) ha
    · exact absurd (hdom.symm.trans hb.2.2) (g.id_ne_zero b₀ hb₀)
  · rintro ⟨l, hl, ⟨hin, -, b, hb, hbn, -, hbd⟩, hlb, hlv⟩
    have hbb : b = b₀ := g.eq_of_name hb hb₀ (by rw [hbn, hlb, hname])
    refine ⟨by rw [hbd, hbb], by rw [hin, hasPrefix_portName], ?_⟩
    intro hv
    obtain ⟨a, ha, han⟩ := List.mem_map.mp hv
    apply hlv
    rw [hvalid l hl a ha (hin.symm.trans han.symm)]
    exact ha

/-- A GC ends the attachments on the bridge of its network that are not valid. -/
theorem Refines.gc (h : Refines foreign live g) (hf : Foreign foreign) {conf : PluginConf}
    (hinj : ∀ l ∈ live, ∀ l' ∈ live, l.attachment.portName = l'.attachment.portName →
      l.attachment = l'.attachment)
    (hvalid : ∀ l ∈ live, ∀ a ∈ conf.validAttachments, l.attachment.portName = a.portName →
      l.attachment = a)
    (hforeign : ∀ i ∈ foreign, i.name ≠ conf.bridge) :
  Refines foreign (live.filter fun l =>
    l.conf.bridge ≠ conf.bridge ∨ l.attachment ∈ conf.validAttachments) (g.afterGC conf)
  := by
  have hlive : ∀ l, l ∈ live.filter (fun l =>
        l.conf.bridge ≠ conf.bridge ∨ l.attachment ∈ conf.validAttachments)
      ↔ l ∈ live ∧ ¬ (l.conf.bridge = conf.bridge ∧ l.attachment ∉ conf.validAttachments) := by
    intro l
    simp [imp_iff_not_or]
  unfold Grout.afterGC
  split
  case h_1 hnone =>
    -- There is no bridge, so no attachment to it was live.
    apply h.of_none_dropped hlive
    rintro l hl ⟨hbridge, -⟩
    obtain ⟨i, -, -, -, b, hb, hbname, hbtype, -⟩ := h.port l hl
    exact findBridgeID_none.mp hnone b hb (hbname.trans hbridge) hbtype
  case h_2 bridgeID hfound =>
    obtain ⟨b₀, hb₀, hname, htype, rfl⟩ := findBridgeID_some hfound
    have hids := fun i hi => h.mem_stalePorts hf hvalid hb₀ hname hfound (i := i) hi
    split
    case isTrue hnil =>
      apply h.of_none_dropped hlive
      intro l hl hd
      obtain ⟨i, hi, hport⟩ := h.port l hl
      have := (hids i hi).mpr ⟨l, hl, hport, hd⟩
      simp [hnil] at this
    case isFalse =>
      apply h.prune hf hb₀ _ htype hlive _ hids
      · intro l hl l' hl' hll ⟨hb, hv⟩
        rw [← h.bridge_eq hl hl' hll, ← hinj l hl l' hl' hll]
        exact ⟨hb, hv⟩
      · intro hb₀f
        exact hforeign b₀ hb₀f hname
      · intro l hl hd
        exact hd.1.trans hname.symm

end

/-! ### Runs of successful calls -/

/-- What a successful call does to the live attachments.  A GC ends the attachments on the
bridge of its network that are not valid. -/
def Live.after (live : List Live) (c : Call) : List Live :=
  match c.command with
  | .add => ⟨c.conf, c.args.attachment⟩ :: live
  | .del => live.filter fun l => l.attachment ≠ c.args.attachment
  | .check => live
  | .gc => live.filter fun l =>
      l.conf.bridge ≠ c.conf.bridge ∨ l.attachment ∈ c.conf.validAttachments

/-- The live attachments after an event. -/
def NodeEvent.attached (live : List Live) : NodeEvent → List Live
  | .returned c (.ok _) => Live.after live c
  | _ => live

/-- The live attachments after a run. -/
def attached (es : List NodeEvent) : List Live :=
  es.foldl NodeEvent.attached []

/-- Every call succeeds, and an ADD is for an attachment that is not live. -/
def AllSucceed : Discipline := fun es _ e _ =>
  match e with
  | .returned c (.ok _) =>
      c.command = .add → ∀ l ∈ attached es, l.attachment ≠ c.args.attachment
  | _ => False

instance (es : List NodeEvent) (w : World) (e : NodeEvent) (w' : World) :
    Decidable (AllSucceed es w e w') :=
  match e with
  | .returned _ (.ok _) => inferInstanceAs (Decidable (_ → _))
  | .returned _ (.error _) => isFalse id
  | .returned _ .panic => isFalse id
  | .killed _ => isFalse id
  | .restarted => isFalse id

/-- The port names of the attachments of the calls are different. -/
def PortNamesInj (calls : List Call) : Prop :=
  ∀ c ∈ calls, ∀ a ∈ c.attachments, ∀ c' ∈ calls, ∀ a' ∈ c'.attachments,
    a.portName = a'.portName → a = a'

instance (calls : List Call) : Decidable (PortNamesInj calls) :=
  inferInstanceAs (Decidable (∀ c ∈ calls, _))

/-- The run starts from foreign interfaces, none of which has the name of a network's
bridge, and the attachments of the run have different port names. -/
@[mk_iff]
structure Admissible (foreign : List InterfaceInfo) (calls : List Call) : Prop where
  isForeign : Foreign foreign
  notBridge : ∀ i ∈ foreign, ∀ c ∈ calls, i.name ≠ c.conf.bridge
  portName_inj : PortNamesInj calls

instance (foreign : List InterfaceInfo) (calls : List Call) :
    Decidable (Admissible foreign calls) :=
  decidable_of_iff' _ (admissible_iff foreign calls)

/-- No DEL is for an attachment whose port has the name of the bridge of an ADD. -/
def DelsSpareBridges (calls : List Call) : Prop :=
  ∀ c ∈ calls, c.command = .add → ∀ c' ∈ calls, c'.command = .del →
    c.conf.bridge ≠ c'.args.attachment.portName

instance (calls : List Call) : Decidable (DelsSpareBridges calls) :=
  inferInstanceAs (Decidable (∀ c ∈ calls, _))

theorem attached_snoc (es : List NodeEvent) (e : NodeEvent) :
  attached (es ++ [e]) = e.attached (attached es)
  := by
  simp [attached]

theorem PortNamesInj.of_append {calls new : List Call} (h : PortNamesInj (calls ++ new)) :
  PortNamesInj calls
  := fun c hc a ha c' hc' =>
    h c (List.mem_append_left _ hc) a ha c' (List.mem_append_left _ hc')

theorem Admissible.of_append {foreign : List InterfaceInfo} {calls new : List Call}
    (h : Admissible foreign (calls ++ new)) :
  Admissible foreign calls
  := by
  constructor
  · exact h.isForeign
  · intro i hi c hc
    exact h.notBridge i hi c (List.mem_append_left _ hc)
  · exact h.portName_inj.of_append

theorem DelsSpareBridges.of_append {calls new : List Call} (h : DelsSpareBridges (calls ++ new)) :
  DelsSpareBridges calls
  := fun c hc hadd c' hc' => h c (List.mem_append_left _ hc) hadd c' (List.mem_append_left _ hc')

/-- The attachment is that of an ADD with its configuration. -/
def Live.StemsFrom (l : Live) (calls : List Call) : Prop :=
  ∃ c ∈ calls, c.command = .add ∧ c.conf = l.conf ∧ c.args.attachment = l.attachment

theorem Call.attachment_mem {c : Call} (h : c.command = .add) :
  c.args.attachment ∈ c.attachments
  := by
  unfold Call.attachments
  rw [h]
  exact List.mem_cons_self

namespace Live.StemsFrom

variable {foreign : List InterfaceInfo} {l : Live} {c : Call} {calls : List Call} {a : Attachment}

theorem append (h : l.StemsFrom calls) (new : List Call) :
  l.StemsFrom (calls ++ new)
  := by
  obtain ⟨c, hc, hcl⟩ := h
  exact ⟨c, List.mem_append_left _ hc, hcl⟩

theorem eq_of_portName (h : l.StemsFrom calls) (hinj : PortNamesInj calls) (hc : c ∈ calls)
    (ha : a ∈ c.attachments) (hname : l.attachment.portName = a.portName) :
  l.attachment = a
  := by
  obtain ⟨c', hc', hadd, -, hatt⟩ := h
  apply hinj c' hc' _ _ c hc a ha hname
  rw [← hatt]
  exact Call.attachment_mem hadd

theorem bridge_ne_of_del (h : l.StemsFrom calls) (hdels : DelsSpareBridges calls) (hc : c ∈ calls)
    (hdel : c.command = .del) :
  l.conf.bridge ≠ c.args.attachment.portName
  := by
  obtain ⟨c', hc', hadd, hconf, -⟩ := h
  rw [← hconf]
  exact hdels c' hc' hadd c hc hdel

theorem notBridge (h : l.StemsFrom calls) (hadm : Admissible foreign calls) {i : InterfaceInfo}
    (hi : i ∈ foreign) :
  i.name ≠ l.conf.bridge
  := by
  obtain ⟨c', hc', -, hconf, -⟩ := h
  rw [← hconf]
  exact hadm.notBridge i hi c' hc'

end Live.StemsFrom

/-- If every event leaves attachments that were live before or adds that of its call, then
all attachments stem from calls. -/
theorem mem_foldl_live {f : List Live → NodeEvent → List Live}
    (hf : ∀ live e, ∀ l ∈ f live e, l ∈ live ∨ l.StemsFrom e.call?.toList)
    {es : List NodeEvent} {l : Live} (h : l ∈ es.foldl f []) :
  l.StemsFrom (callsOf es)
  := by
  induction es using List.reverseRecOn with
  | nil => cases h
  | append_singleton es e ih =>
      rw [List.foldl_append] at h
      rw [callsOf_snoc]
      rcases hf _ e l h with hl | ⟨c, hc, hcl⟩
      · exact (ih hl).append _
      · exact ⟨c, List.mem_append_right _ hc, hcl⟩

/-- A live attachment stems from an ADD. -/
theorem mem_attached {es : List NodeEvent} {l : Live} (h : l ∈ attached es) :
  l.StemsFrom (callsOf es)
  := by
  apply mem_foldl_live _ h
  rintro live (⟨⟨_ | _, conf, args⟩, _ | _ | _⟩ | _ | _) l hl
  case returned.add.ok =>
    rcases List.mem_cons.mp hl with rfl | hl
    · exact .inr ⟨_, List.mem_cons_self, rfl, rfl, rfl⟩
    · exact .inl hl
  case returned.del.ok => exact .inl (List.mem_of_mem_filter hl)
  case returned.gc.ok => exact .inl (List.mem_of_mem_filter hl)
  all_goals exact .inl hl

/-- One successful call. -/
theorem Refines.call {foreign : List InterfaceInfo} {live : List Live} {calls : List Call}
    {c : Call} {x : Option Result} {w w' : World} (h : Refines foreign live w.grout)
    (hadm : Admissible foreign calls) (hdels : DelsSpareBridges calls) (hc : c ∈ calls)
    (hlive : ∀ l ∈ live, l.StemsFrom calls)
    (hrun : Run (Env Policy.allOk) c.body w (.ok x) w') :
  Refines foreign (Live.after live c) w'.grout
  := by
  obtain ⟨cmd, conf, args⟩ := c
  cases cmd with
  | add =>
      rcases hrun.wpc (wpc_handleAddBody conf args w) with ⟨_, ⟨⟩, -⟩ | ⟨_, _, b, i, _, hadd, -⟩
      apply h.add hadd
      · intro i hi
        exact hadm.notBridge i hi _ hc
      · -- An ADD that finds a port of the name of its bridge does not succeed.
        intro l hl hbridge
        obtain ⟨port, hport, hname, htype, -⟩ := h.port l hl
        have hfound := hrun.wp (wp_handleAddBody_bridge conf args w) rfl port hport
          (hname.trans hbridge.symm)
        exact absurd (htype.symm.trans hfound) (by decide)
  | del =>
      obtain ⟨-, links, rfl⟩ := hrun.wp (wp_handleDelBody conf args w)
      apply h.del hadm.isForeign
      · intro l hl
        exact (hlive l hl).eq_of_portName hadm.portName_inj hc List.mem_cons_self
      · intro i hi l hl
        exact (hlive l hl).notBridge hadm hi
      · intro l hl
        exact (hlive l hl).bridge_ne_of_del hdels hc rfl
  | check =>
      obtain ⟨links, rfl⟩ := hrun.wpc (wpc_handleCheckBody conf args w)
      exact h
  | gc =>
      obtain ⟨-, links, rfl⟩ := hrun.wp (wp_handleGCBody conf args w)
      apply h.gc hadm.isForeign
      · intro l hl l' hl'
        obtain ⟨c', hc', hadd, -, hatt⟩ := hlive l' hl'
        rw [← hatt]
        exact (hlive l hl).eq_of_portName hadm.portName_inj hc' (Call.attachment_mem hadd)
      · intro l hl a ha
        exact (hlive l hl).eq_of_portName hadm.portName_inj hc ha
      · intro i hi
        exact hadm.notBridge i hi _ hc

/-- As long as every call succeeds, the interface table refines the live attachments. -/
theorem history_refines {w₀ w : World} {es : List NodeEvent}
    (h : History (fun _ => Policy.allOk) AllSucceed w₀ es w)
    (hadm : Admissible w₀.grout.ifaces (callsOf es)) (hdels : DelsSpareBridges (callsOf es)) :
  Refines w₀.grout.ifaces (attached es) w.grout
  := by
  induction h with
  | start =>
      constructor
      · exact fun i hi => hi
      · simp [attached]
      · exact fun i hi => .inl hi
  | @step es w w' e _ hA hs ih =>
      rw [callsOf_snoc] at hadm hdels
      have ih := ih hadm.of_append hdels.of_append
      rcases e with ⟨c, x | _ | _⟩ | _ | _
      case returned.error => exact hA.elim
      case returned.panic => exact hA.elim
      case killed => exact hA.elim
      case restarted => exact hA.elim
      rw [attached_snoc]
      apply ih.call hadm hdels (List.mem_append_right _ List.mem_cons_self) _ hs.run_ok
      intro l hl
      exact (mem_attached hl).append _

/-- Two pods on one bridge come, one of them is collected as garbage and the other goes. -/
theorem history_refines_shared_bridge :
  ∃ es w, History (fun _ => Policy.allOk) AllSucceed World.initial es w ∧
    (callsOf es).length = 4 ∧ Refines [] (attached es) w.grout
  := by
  have hplay : (World.initial.play (fun _ => Policy.allOk) AllSucceed []
      [.call ⟨.add, sharedTap, pod "a"⟩ [oneAddress 10, {}, { id := 1 }, {}, { id := 2 }],
        .call ⟨.add, sharedVirtio, pod "b"⟩ [oneAddress 20, {}, {}, {}, { id := 3 }],
        .call ⟨.gc, { sharedVirtio with validAttachments := [(pod "a").attachment] }, pod ""⟩
          [{}, {}, {}, {}, {}],
        .call ⟨.del, sharedTap, pod "a"⟩ [{}, {}, {}, {}, {}, {}, {}, {}]]).any
      (fun x => (callsOf x.1).length = 4 ∧ Admissible [] (callsOf x.1) ∧
        DelsSpareBridges (callsOf x.1)) = true := by
    decide +kernel
  obtain ⟨es, w, h, hcheck⟩ := World.play_exists hplay
  obtain ⟨hlen, hadm, hdels⟩ := of_decide_eq_true hcheck
  exact ⟨es, w, h, hlen, history_refines h hadm hdels⟩

/-- If the bridge of a network has the name of a port and no gateway, a DEL of an attachment with
that port name deletes the bridge under a live attachment. -/
theorem history_not_refines_bridge_named_as_port :
  ∃ es w, History (fun _ => Policy.allOk) AllSucceed World.initial es w ∧
    Admissible [] (callsOf es) ∧ ¬ Refines [] (attached es) w.grout
  := by
  have hplay : (World.initial.play (fun _ => Policy.allOk) AllSucceed []
      [.call ⟨.add, { sharedTap with bridge := (pod "z").attachment.portName }, pod "a"⟩
          [{}, {}, { id := 1 }, { id := 2 }],
        .call ⟨.del, { sharedTap with bridge := (pod "z").attachment.portName }, pod "z"⟩
          [{}, {}, {}, {}]]).any
      (fun x => Admissible [] (callsOf x.1) ∧ ¬ Refines [] (attached x.1) x.2.grout)
      = true := by
    decide +kernel
  obtain ⟨es, w, h, hcheck⟩ := World.play_exists hplay
  exact ⟨es, w, h, of_decide_eq_true hcheck⟩

end GroutCni
