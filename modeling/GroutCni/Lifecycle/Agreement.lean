import GroutCni.Handlers.Exact
import GroutCni.Node.Script

/-!
# GC agrees with DEL

A GC reaps stale ports from one list of the interfaces and looks at the bridge once, at the
end.  DELs list the interfaces anew and look at the bridge after each port.  When every call
succeeds they come to the same (`gc_agrees_with_dels`): as long as there is a stale port left,
the bridge has a member.
-/

namespace GroutCni

open Effect

/-- The names are different, and each is that of a member of the bridge. -/
structure MembersNamed (g : Grout) (bridgeID : UInt16) (names : List GoString) : Prop where
  nodup : names.Nodup
  member : ∀ name ∈ names, ∃ i ∈ g.ifaces, i.name = name ∧ i.domain = bridgeID

section

variable {g : Grout} {bridgeID : UInt16} {names : List GoString} {name : GoString}

/-- A DEL of a member does not collect the bridge when there is another member. -/
theorem Grout.afterDel_eq_delete {port other : InterfaceInfo} (hport : port ∈ g.ifaces)
    (hother : other ∈ g.ifaces) (hname : other.name ≠ port.name)
    (hdom : other.domain = port.domain) :
  g.afterDel port.name = g.delete port.id
  := by
  rw [Grout.afterDel_of_mem hport]
  apply if_neg
  rintro ⟨-, hempty⟩
  apply hempty other _ hdom
  apply Grout.mem_delete.mpr ⟨hother, ?_⟩
  intro hid
  exact hname ((g.id_eq_iff_name_eq hother hport).mp hid)

/-- A DEL of one member leaves the others. -/
theorem MembersNamed.tail (h : MembersNamed g bridgeID (name :: names)) :
  MembersNamed (g.afterDel name) bridgeID names
  := by
  obtain ⟨hnot, hnodup⟩ := List.nodup_cons.mp h.nodup
  obtain ⟨port, hport, rfl, hdom⟩ := h.member name List.mem_cons_self
  refine ⟨hnodup, ?_⟩
  intro n hn
  obtain ⟨i, hi, rfl, hid⟩ := h.member n (List.mem_cons_of_mem _ hn)
  have hne : i.name ≠ port.name := fun heq => hnot (heq ▸ hn)
  refine ⟨i, ?_, rfl, hid⟩
  rw [Grout.afterDel_eq_delete hport hi hne (hid.trans hdom.symm)]
  apply Grout.mem_delete.mpr ⟨hi, ?_⟩
  intro heq
  exact hne ((g.id_eq_iff_name_eq hi hport).mp heq)

/-- DELs of members, one after another, delete them and collect the bridge at the last. -/
theorem MembersNamed.afterDels_eq (h : MembersNamed g bridgeID names) (hne : names ≠ [])
    {ids : List UInt16} (hids : ∀ i ∈ g.ifaces, i.id ∈ ids ↔ i.name ∈ names) :
  g.afterDels names = (g.deleteAll ids).collect bridgeID
  := by
  induction names generalizing g with
  | nil => exact absurd rfl hne
  | cons name names ih =>
      obtain ⟨port, hport, rfl, hdom⟩ := h.member name List.mem_cons_self
      cases names with
      | nil =>
          have hdel : g.delete port.id = g.deleteAll ids := by
            rw [Grout.delete_eq_deleteAll]
            apply g.deleteAll_congr
            intro i hi
            rw [hids i hi, List.mem_singleton, List.mem_singleton, g.id_eq_iff_name_eq hi hport]
          rw [Grout.afterDels, List.foldl_cons, List.foldl_nil, Grout.afterDel_of_mem hport, hdom,
            hdel]
      | cons m names =>
          obtain ⟨other, hother, hname, hodom⟩ :=
            h.member m (List.mem_cons_of_mem _ List.mem_cons_self)
          have hne' : other.name ≠ port.name := by
            rintro heq
            apply (List.nodup_cons.mp h.nodup).1
            rw [← heq, hname]
            exact List.mem_cons_self
          have hstep : g.afterDel port.name = g.delete port.id :=
            Grout.afterDel_eq_delete hport hother hne' (hodom.trans hdom.symm)
          have htail := h.tail
          rw [hstep] at htail
          have hdel : (g.delete port.id).deleteAll ids = g.deleteAll ids := by
            rw [Grout.delete_deleteAll]
            apply g.deleteAll_congr
            intro i hi
            rw [List.mem_cons, g.id_eq_iff_name_eq hi hport, hids i hi]
            simp
          rw [Grout.afterDels, List.foldl_cons, hstep]
          change (g.delete port.id).afterDels (m :: names) = _
          rw [ih htail (by simp), hdel]
          intro i hi
          obtain ⟨hi, hid⟩ := Grout.mem_delete.mp hi
          rw [hids i hi, List.mem_cons, ← g.id_eq_iff_name_eq hi hport, or_iff_right hid]

/-- DELs of members remove their sockets. -/
theorem Dels.sockets_eq {conf : PluginConf} {dels : List CmdArgs} {w w' : World}
    (h : Dels conf dels w w')
    (hmembers : MembersNamed w.grout bridgeID (dels.map (·.attachment.portName))) :
  w'.sockets = w.sockets.filter fun s =>
    s ∉ (dels.map (·.attachment.portName)).map conf.socketPath
  := by
  induction h with
  | nil w => simp
  | cons hdel _ ih =>
      obtain ⟨-, links, rfl⟩ := run_handleDel_allOk hdel
      obtain ⟨port, hport, hname, -⟩ := hmembers.member _ List.mem_cons_self
      dsimp only at hname ih
      rw [ih hmembers.tail, ← hname, World.socketsAfterDel_of_mem hport, List.filter_filter]
      apply List.filter_congr
      intro s _
      rw [Bool.and_comm]
      simp [hname]

end

/-- The stale ports of a network are members of its bridge. -/
theorem Grout.membersNamed_stalePorts {g : Grout} {conf : PluginConf} {bridgeID : UInt16}
    {names : List GoString} (hfound : findBridgeID g.ifaces conf.bridge = some bridgeID)
    (hstale : names.Perm ((g.stalePorts conf).map (·.name))) :
  MembersNamed g bridgeID names
  := by
  constructor
  · apply hstale.nodup_iff.mpr
    exact g.names_nodup.sublist ((g.stalePorts_sublist conf).map _)
  · intro name hname
    obtain ⟨i, hi, rfl⟩ := List.mem_map.mp (hstale.subset hname)
    obtain ⟨hi, hstale⟩ := (Grout.mem_stalePorts hfound).mp hi
    exact ⟨i, hi, rfl, (isStale_iff.mp hstale).1⟩

/-- DELs of the stale ports leave the tables that a GC leaves. -/
theorem Grout.afterDels_stalePorts {g : Grout} {conf : PluginConf} {names : List GoString}
    (hstale : names.Perm ((g.stalePorts conf).map (·.name))) :
  g.afterDels names = g.afterGC conf
  := by
  unfold Grout.afterGC
  split
  case h_1 hnone =>
    rw [Grout.stalePorts, hnone] at hstale
    rw [hstale.eq_nil]
    rfl
  case h_2 bridgeID hfound =>
    split
    case isTrue hnil =>
      rw [hnil] at hstale
      rw [hstale.eq_nil]
      rfl
    case isFalse hne =>
      apply (Grout.membersNamed_stalePorts hfound hstale).afterDels_eq
      · rintro rfl
        exact hne (List.map_eq_nil_iff.mp hstale.symm.eq_nil)
      · intro i hi
        have hsub := (g.stalePorts_sublist conf).subset
        rw [hstale.mem_iff, Grout.mem_map_id hsub hi, Grout.mem_map_name hsub hi]

/-- What DELs of the stale ports leave is what a GC leaves. -/
theorem Dels.eq_afterGC {conf : PluginConf} {dels : List CmdArgs} {w w' : World}
    (h : Dels conf dels w w')
    (hstale : (dels.map (·.attachment.portName)).Perm
      ((w.grout.stalePorts conf).map (·.name))) :
  w'.grout = w.grout.afterGC conf ∧ w'.sockets = w.socketsAfterGC conf
  := by
  constructor
  · rw [h.grout_eq, Grout.afterDels_stalePorts hstale]
  · have hpaths : ((dels.map (·.attachment.portName)).map conf.socketPath).Perm
        ((w.grout.stalePorts conf).map fun i => conf.socketPath i.name) := by
      simpa [Function.comp_def] using hstale.map conf.socketPath
    have hsockets : w'.sockets = w.sockets.filter fun s =>
        s ∉ (dels.map (·.attachment.portName)).map conf.socketPath := by
      cases hfound : findBridgeID w.grout.ifaces conf.bridge with
      | none =>
          -- There is nothing to delete, so the bridge does not matter.
          rw [Grout.stalePorts, hfound] at hstale
          apply @Dels.sockets_eq 0 _ _ _ _ h
          rw [hstale.eq_nil]
          exact ⟨List.nodup_nil, by simp⟩
      | some bridgeID => exact h.sockets_eq (Grout.membersNamed_stalePorts hfound hstale)
    rw [hsockets]
    apply List.filter_congr
    intro s _
    exact decide_eq_decide.mpr (not_congr hpaths.mem_iff)

/-- When every call succeeds, a GC leaves the tables and the sockets that DELs leave, one for
each stale port, and the DELs may come in any order. -/
theorem gc_agrees_with_dels {conf : PluginConf} {gcArgs : CmdArgs} {dels : List CmdArgs}
    {w wGC wDel : World} {r : Reply}
    (hgc : Run (Solo (Env Policy.allOk) false) (handleGC conf gcArgs) w r wGC)
    (hstale : (dels.map fun args => groutPortName args.containerID args.ifName).Perm
      ((w.grout.stalePorts conf).map (·.name)))
    (hdels : Dels conf dels w wDel) :
  (wGC.grout = wDel.grout ∧ wGC.sockets = wDel.sockets) ∧
  ∀ dels' wDel', dels'.Perm dels → Dels conf dels' w wDel' →
    wDel'.grout = wDel.grout ∧ wDel'.sockets = wDel.sockets
  := by
  obtain ⟨-, links, rfl⟩ := run_handleGC_allOk hgc
  have hdel := hdels.eq_afterGC hstale
  refine ⟨⟨hdel.1.symm, hdel.2.symm⟩, ?_⟩
  intro dels' wDel' hperm hdels'
  have hdel' := hdels'.eq_afterGC ((hperm.map _).trans hstale)
  exact ⟨hdel'.1.trans hdel.1.symm, hdel'.2.trans hdel.2.symm⟩

/-- Two stale ports on one bridge, deleted in another order than grout lists them. -/
theorem gc_agrees_with_dels_two_ports :
  ∃ w rGC wGC wDel, w.grout.ifaces.length = 3 ∧ w.sockets.length = 1 ∧
    Run (Solo (Env Policy.allOk) false) (handleGC sharedTap (pod "")) w rGC wGC ∧
    Dels sharedTap [pod "b", pod "a"] w wDel ∧
    wGC.grout = wDel.grout ∧ wGC.sockets = wDel.sockets
  := by
  have hplay : (World.initial.play (fun _ => Policy.allOk) Discipline.any []
      [.call ⟨.add, sharedTap, pod "a"⟩ [oneAddress 10, {}, { id := 1 }, {}, { id := 2 }],
        .call ⟨.add, sharedVirtio, pod "b"⟩ [oneAddress 20, {}, {}, {}, { id := 3 }]]).any
      (fun x => x.2.grout.ifaces.length = 3 ∧ x.2.sockets.length = 1 ∧
        ([pod "b", pod "a"].map fun args => groutPortName args.containerID args.ifName).Perm
          ((x.2.grout.stalePorts sharedTap).map (·.name)) ∧
        (exec (World.act Policy.allOk) [{}, {}, {}, {}, {}, {}, {}, {}, {}, {}]
          (handleGCBody sharedTap (pod "")) x.2).isSome ∧
        (exec (World.act Policy.allOk) [{}, {}, {}, {}, {}]
          (handleDelBody sharedTap (pod "b")) x.2).any
          (fun y => (exec (World.act Policy.allOk) [{}, {}, {}, {}, {}, {}, {}, {}]
            (handleDelBody sharedTap (pod "a")) y.2).isSome) = true) = true := by
    decide +kernel
  obtain ⟨es, w, -, hcheck⟩ := World.play_exists hplay
  obtain ⟨hifaces, hsockets, hstale, hgc, hdel⟩ := of_decide_eq_true hcheck
  obtain ⟨⟨rGC, wGC⟩, hgc⟩ := Option.isSome_iff_exists.mp hgc
  obtain ⟨r₁, w₁, hdel₁, hdel⟩ := exec_exists World.act_sound hdel
  obtain ⟨⟨r₂, wDel⟩, hdel₂⟩ := Option.isSome_iff_exists.mp hdel
  have hgc : Run (Solo (Env Policy.allOk) false) (handleGC sharedTap (pod "")) w rGC wGC :=
    locked_run (exec_sound World.act_sound hgc)
  have hdels : Dels sharedTap [pod "b", pod "a"] w wDel :=
    .cons (locked_run hdel₁) (.cons (locked_run (exec_sound World.act_sound hdel₂)) (.nil wDel))
  obtain ⟨hagree, -⟩ := gc_agrees_with_dels hgc hstale hdels
  exact ⟨w, rGC, wGC, wDel, hifaces, hsockets, hgc, hdels, hagree⟩

end GroutCni
