import GroutCni.Handlers.Listing
import GroutCni.Node.World

/-!
# DEL and GC when every call succeeds

When no call fails, the tables that `HandleDel` and `HandleGC` leave are functions of the
tables they find (`Grout.afterDel` and `Grout.afterGC`), whatever the order in which grout
lists its interfaces.
-/

namespace GroutCni

open Effect

/-- The tables without a port, and without its bridge if that was the last member. -/
def Grout.withoutPort (g : Grout) (port : InterfaceInfo) : Grout :=
  if port.domain ≠ 0 then (g.delete port.id).collect port.domain else g.delete port.id

/-- The tables after a DEL of the port with the given name. -/
def Grout.afterDel (g : Grout) (name : GoString) : Grout :=
  match findPortByName g.ifaces name with
  | none => g
  | some port => g.withoutPort port

/-- The socket files after a DEL: that of the port is gone if the port was found. -/
def World.socketsAfterDel (w : World) (conf : PluginConf) (name : GoString) : List GoString :=
  match findPortByName w.grout.ifaces name with
  | none => w.sockets
  | some _ => w.sockets.filter (· ≠ conf.socketPath name)

/-- The stale ports of a network: members of its bridge that are not valid. -/
def Grout.stalePorts (g : Grout) (conf : PluginConf) : List InterfaceInfo :=
  match findBridgeID g.ifaces conf.bridge with
  | none => []
  | some bridgeID => g.ifaces.filter (isStale bridgeID conf.validNames)

/-- The tables after a GC. -/
def Grout.afterGC (g : Grout) (conf : PluginConf) : Grout :=
  match findBridgeID g.ifaces conf.bridge with
  | none => g
  | some bridgeID =>
      if g.stalePorts conf = [] then g
      else (g.deleteAll ((g.stalePorts conf).map (·.id))).collect bridgeID

/-- The socket files after a GC: those of stale ports are gone. -/
def World.socketsAfterGC (w : World) (conf : PluginConf) : List GoString :=
  w.sockets.filter fun s => s ∉ (w.grout.stalePorts conf).map fun i => conf.socketPath i.name

/-! ### Stale ports -/

theorem Grout.stalePorts_sublist (g : Grout) (conf : PluginConf) :
  (g.stalePorts conf).Sublist g.ifaces
  := by
  unfold Grout.stalePorts
  split
  · apply List.nil_sublist
  · exact List.filter_sublist

/-- The stale ports of a network that has a bridge. -/
theorem Grout.mem_stalePorts {g : Grout} {conf : PluginConf} {bridgeID : UInt16}
    {i : InterfaceInfo} (hfound : findBridgeID g.ifaces conf.bridge = some bridgeID) :
  i ∈ g.stalePorts conf ↔ i ∈ g.ifaces ∧ isStale bridgeID conf.validNames i = true
  := by
  rw [Grout.stalePorts, hfound, List.mem_filter]

/-- The stale ports may be looked for by their ids. -/
theorem Grout.id_mem_stalePorts {g : Grout} {conf : PluginConf} {bridgeID : UInt16}
    {i : InterfaceInfo} (hfound : findBridgeID g.ifaces conf.bridge = some bridgeID)
    (hi : i ∈ g.ifaces) :
  i.id ∈ (g.stalePorts conf).map (·.id) ↔ isStale bridgeID conf.validNames i = true
  := by
  rw [Grout.mem_map_id (g.stalePorts_sublist conf).subset hi, Grout.mem_stalePorts hfound,
    and_iff_right hi]

/-! ### What is left after a DEL -/

section

variable {g : Grout} {name : GoString} {i : InterfaceInfo}

/-- A domain of zero is not that of a bridge, so the case need not be told apart. -/
theorem Grout.withoutPort_eq (g : Grout) (port : InterfaceInfo) :
  g.withoutPort port = (g.delete port.id).collect port.domain
  := by
  unfold withoutPort
  split
  case isTrue => rfl
  case isFalse h =>
    rw [not_not.mp h]
    exact (Grout.collect_zero _).symm

theorem Grout.afterDel_of_mem {port : InterfaceInfo} (hport : port ∈ g.ifaces) :
  g.afterDel port.name = (g.delete port.id).collect port.domain
  := by
  rw [Grout.afterDel, findPortByName_of_mem hport, ← Grout.withoutPort_eq]

theorem World.socketsAfterDel_of_mem {w : World} {conf : PluginConf} {port : InterfaceInfo}
    (hport : port ∈ w.grout.ifaces) :
  w.socketsAfterDel conf port.name = w.sockets.filter (· ≠ conf.socketPath port.name)
  := by
  rw [World.socketsAfterDel, findPortByName_of_mem hport]

/-- After a DEL no interface has the name of the port. -/
theorem Grout.mem_of_mem_afterDel (h : i ∈ (g.afterDel name).ifaces) :
  i ∈ g.ifaces ∧ i.name ≠ name
  := by
  unfold Grout.afterDel at h
  split at h
  case h_1 hnone => exact ⟨h, findPortByName_none.mp hnone i h⟩
  case h_2 port hfound =>
    obtain ⟨hport, hname⟩ := findPortByName_some hfound
    rw [Grout.withoutPort_eq] at h
    obtain ⟨hi, hid⟩ := Grout.mem_delete.mp (Grout.mem_collect.mp h).1
    refine ⟨hi, ?_⟩
    intro hin
    exact hid (congrArg _ (g.eq_of_name hi hport (hin.trans hname.symm)))

/-- A DEL leaves the interfaces that are neither the port nor the bridge of the port. -/
theorem Grout.mem_afterDel (hi : i ∈ g.ifaces) (hname : i.name ≠ name)
    (hdom : ∀ port ∈ g.ifaces, port.name = name → port.domain ≠ i.id) :
  i ∈ (g.afterDel name).ifaces
  := by
  unfold Grout.afterDel
  split
  case h_1 => exact hi
  case h_2 port hfound =>
    obtain ⟨hport, hpname⟩ := findPortByName_some hfound
    rw [Grout.withoutPort_eq]
    apply Grout.mem_collect.mpr
    constructor
    · apply Grout.mem_delete.mpr ⟨hi, ?_⟩
      intro hid
      exact hname (g.eq_of_id hi hport hid ▸ hpname)
    · rintro ⟨-, hid⟩
      exact hdom port hport hpname hid.symm

/-- An interface that a DEL leaves keeps its addresses. -/
theorem Grout.mem_afterDel_addrs (hi : i ∈ (g.afterDel name).ifaces) (addr : IPNet) :
  (i.id, addr) ∈ (g.afterDel name).addrs ↔ (i.id, addr) ∈ g.addrs
  := by
  unfold Grout.afterDel at hi ⊢
  split
  case h_1 => rfl
  case h_2 port hfound =>
    simp only [hfound, Grout.withoutPort_eq] at hi
    obtain ⟨hdel, hcoll⟩ := Grout.mem_collect.mp hi
    obtain ⟨-, hid⟩ := Grout.mem_delete.mp hdel
    rw [Grout.withoutPort_eq, Grout.mem_collect_addrs, Grout.mem_delete_addrs]
    simp only [hid, hcoll, ne_eq, not_false_eq_true, and_true]

end

/-! ### The handlers -/

section

variable {α : Type} {o : Op} {w : World} {conf : PluginConf}

/-- When every call succeeds, only the successful answers count. -/
theorem wp_perform_allOk {Q : Except GoError o.Val → World → Prop}
    (h : ∀ v w', World.Effect w o v w' → Q (.ok v) w') :
  wp (Env Policy.allOk) (perform o) Q w
  := by
  apply wpc_perform trivial
  · intro v w' hv
    exact ⟨trivial, h v w' hv⟩
  · intro hf
    cases hf
  · intro hl
    cases hl

theorem wp_interfaceList_allOk {Q : Except GoError (List InterfaceInfo) → World → Prop}
    (h : ∀ ifaces, ifaces.Perm w.grout.ifaces → Q (.ok ifaces) w) :
  wp (Env Policy.allOk) (interfaceList {}) Q w
  := by
  apply wp_perform_allOk (o := .interfaceList {})
  rintro ifaces _ ⟨hperm, rfl⟩
  exact h ifaces hperm

theorem wp_interfaceDel_allOk {id : UInt16} {Q : Except GoError Unit → World → Prop}
    (h : ∀ links, Q (.ok ()) { w with grout := w.grout.delete id, links }) :
  wp (Env Policy.allOk) (interfaceDel id) Q w
  := by
  apply wp_perform_allOk (o := .interfaceDel id)
  rintro _ _ ⟨-, links, rfl⟩
  exact h links

/-- The bridge is collected if it has no members. -/
theorem wp_gcBridgeIfEmpty {id : UInt16} :
  wp (Env Policy.allOk) (gcBridgeIfEmpty id)
    (fun _ w' => ∃ links, w' = { w with grout := w.grout.collect id, links }) w
  := by
  unfold gcBridgeIfEmpty
  rw [wp_bind]
  apply wp_interfaceList_allOk
  intro ifaces hperm
  dsimp only
  split
  case isTrue hcoll =>
    rw [bridgeCollectable_perm hperm] at hcoll
    rw [wp_bind]
    apply wpc_addressFlush trivial
    intro _ p
    refine ⟨trivial, ?_⟩
    rw [wp_bind]
    apply wp_interfaceDel_allOk
    intro links
    refine ⟨trivial, links, ?_⟩
    rw [Grout.flush_delete, Grout.collect, if_pos hcoll]
  case isFalse hcoll =>
    rw [bridgeCollectable_perm hperm] at hcoll
    refine ⟨trivial, w.links, ?_⟩
    rw [Grout.collect, if_neg hcoll]

theorem wp_removeVhostSocket {sock name : GoString} :
  wp (Env Policy.allOk) (removeVhostSocket sock name)
    (fun _ w' => w' = { w with sockets := w.sockets.filter (· ≠ vhostSocketPath sock name) }) w
  := by
  unfold removeVhostSocket
  rw [wp_bind]
  apply wp_perform_allOk
  rintro _ _ ⟨-, rfl⟩
  exact ⟨trivial, rfl⟩

theorem wp_ipamDel_bind {args : CmdArgs} {α : Type} {k : Unit → Prog α} {Q : α → World → Prop}
    (h : wp (Env Policy.allOk) (k ()) Q
      { w with reservations := w.reservations.filter (· ≠ reservationOf conf args) }) :
  wp (Env Policy.allOk) (ipamDel conf args >>= k) Q w
  := by
  unfold ipamDel
  rw [wp_bind, wp_bind]
  apply wp_perform_allOk
  rintro _ _ rfl
  exact ⟨trivial, h⟩

theorem wp_gcIPAM_bind {args : CmdArgs} {α : Type} {k : Unit → Prog α} {Q : α → World → Prop}
    (h : wp (Env Policy.allOk) (k ()) Q { w with reservations := w.keptReservations conf }) :
  wp (Env Policy.allOk) (gcIPAM conf args >>= k) Q w
  := by
  unfold gcIPAM
  rw [wp_bind, wp_bind]
  apply wp_perform_allOk
  rintro _ _ rfl
  exact ⟨trivial, h⟩

theorem wp_deletePort {name : GoString} {port : InterfaceInfo} :
  wp (Env Policy.allOk) (deletePort conf name port)
    (fun _ w' => ∃ links, w' = { w with
      grout := w.grout.withoutPort port
      sockets := w.sockets.filter (· ≠ conf.socketPath name)
      links }) w
  := by
  unfold deletePort
  rw [wp_bind]
  apply wp_interfaceDel_allOk
  intro links
  rw [wp_bind]
  apply wp_mono wp_removeVhostSocket
  rintro _ _ rfl
  unfold Grout.withoutPort
  split
  · apply wp_mono wp_gcBridgeIfEmpty
    rintro _ _ ⟨links', rfl⟩
    exact ⟨links', rfl⟩
  · exact ⟨trivial, links, rfl⟩

/-- What a DEL leaves when every call succeeds. -/
theorem wp_handleDelBody (conf : PluginConf) (args : CmdArgs) (w : World) :
  wp (Env Policy.allOk) (handleDelBody conf args)
    (fun r w' => r = .ok none ∧ ∃ links, w' =
      { grout := w.grout.afterDel args.attachment.portName
        reservations := w.reservations.filter (· ≠ reservationOf conf args)
        sockets := w.socketsAfterDel conf args.attachment.portName
        links }) w
  := by
  unfold handleDelBody
  dsimp only
  rw [wp_bind]
  apply wp_interfaceList_allOk
  intro ifaces hperm
  dsimp only
  rw [show groutPortName args.containerID args.ifName = args.attachment.portName from rfl,
    findPortByName_perm hperm]
  cases hfound : findPortByName w.grout.ifaces args.attachment.portName with
  | some port =>
      simp only [Grout.afterDel, World.socketsAfterDel, hfound]
      rw [wp_bind]
      apply wp_mono wp_deletePort
      rintro _ _ ⟨links, rfl⟩
      apply wp_ipamDel_bind
      exact ⟨trivial, rfl, links, rfl⟩
  | none =>
      simp only [Grout.afterDel, World.socketsAfterDel, hfound]
      apply wp_ipamDel_bind
      exact ⟨trivial, rfl, w.links, rfl⟩

/-- The reap loop deletes the stale interfaces of the list and removes their sockets. -/
theorem wp_reapLoop (conf : PluginConf) (bridgeID : UInt16) (valid : List GoString)
    (reaped : Bool) (ifaces : List InterfaceInfo) (w : World) :
  wp (Env Policy.allOk) (reapLoop conf bridgeID valid reaped ifaces)
    (fun r w' => r = (reaped || ifaces.any (isStale bridgeID valid)) ∧ ∃ links, w' = { w with
      grout := w.grout.deleteAll ((ifaces.filter (isStale bridgeID valid)).map (·.id))
      sockets := w.sockets.filter fun s =>
        s ∉ (ifaces.filter (isStale bridgeID valid)).map fun i => conf.socketPath i.name
      links }) w
  := by
  induction ifaces generalizing reaped w with
  | nil =>
      refine ⟨trivial, by simp, w.links, ?_⟩
      simp [Grout.deleteAll_nil]
  | cons i ifaces ih =>
      unfold reapLoop
      split
      case isTrue hi =>
        rw [wp_bind]
        apply wp_interfaceDel_allOk
        intro links
        dsimp only
        rw [wp_bind]
        apply wp_mono wp_removeVhostSocket
        rintro _ _ rfl
        apply wp_mono (ih true _)
        rintro _ _ ⟨rfl, links, rfl⟩
        refine ⟨by simp [hi], links, ?_⟩
        simp only [List.filter_cons_of_pos hi, List.map_cons, Grout.delete_deleteAll,
          List.filter_filter]
        congr 1
        apply List.filter_congr
        intro s _
        rw [Bool.and_comm]
        simp [PluginConf.socketPath]
      case isFalse hi =>
        apply wp_mono (ih reaped w)
        rintro _ _ ⟨rfl, links, rfl⟩
        refine ⟨by simp [hi], links, ?_⟩
        rw [List.filter_cons_of_neg hi]

/-- A list of the interfaces may come in another order than they are in the table, but only
the set of stale ports matters. -/
theorem wp_reapLoop_listed {conf : PluginConf} {bridgeID : UInt16}
    {ifaces : List InterfaceInfo} {w : World} (hperm : ifaces.Perm w.grout.ifaces)
    (hfound : findBridgeID w.grout.ifaces conf.bridge = some bridgeID) :
  wp (Env Policy.allOk) (reapLoop conf bridgeID conf.validNames false ifaces)
    (fun r w' => (r = true ↔ w.grout.stalePorts conf ≠ []) ∧ ∃ links, w' = { w with
      grout := w.grout.deleteAll ((w.grout.stalePorts conf).map (·.id))
      sockets := w.socketsAfterGC conf
      links }) w
  := by
  have hstale : (ifaces.filter (isStale bridgeID conf.validNames)).Perm
      (w.grout.stalePorts conf) := by
    rw [Grout.stalePorts, hfound]
    apply hperm.filter
  apply wp_mono (wp_reapLoop conf bridgeID conf.validNames false ifaces w)
  rintro _ _ ⟨rfl, links, rfl⟩
  constructor
  · rw [← List.length_pos_iff, ← hstale.length_eq, List.length_pos_iff]
    simp
  · refine ⟨links, ?_⟩
    congr 1
    · apply w.grout.deleteAll_congr
      intro _ _
      exact (hstale.map _).mem_iff
    · apply List.filter_congr
      intro s _
      apply decide_eq_decide.mpr (not_congr (hstale.map _).mem_iff)

/-- What a GC leaves when every call succeeds. -/
theorem wp_handleGCBody (conf : PluginConf) (args : CmdArgs) (w : World) :
  wp (Env Policy.allOk) (handleGCBody conf args)
    (fun r w' => r = .ok none ∧ ∃ links, w' =
      { grout := w.grout.afterGC conf
        reservations := w.keptReservations conf
        sockets := w.socketsAfterGC conf
        links }) w
  := by
  unfold handleGCBody
  rw [wp_bind]
  apply wp_interfaceList_allOk
  intro ifaces hperm
  dsimp only
  rw [findBridgeID_perm hperm]
  cases hfound : findBridgeID w.grout.ifaces conf.bridge with
  | none =>
      have hstale : w.grout.stalePorts conf = [] := by rw [Grout.stalePorts, hfound]
      dsimp only
      apply wp_gcIPAM_bind
      refine ⟨trivial, rfl, w.links, ?_⟩
      simp [Grout.afterGC, World.socketsAfterGC, hfound, hstale]
  | some bridgeID =>
      dsimp only
      rw [wp_bind]
      apply wp_mono (wp_reapLoop_listed hperm hfound)
      rintro reaped _ ⟨hreaped, links, rfl⟩
      rw [Grout.afterGC, hfound]
      split
      case isTrue h =>
        rw [wp_bind]
        apply wp_mono wp_gcBridgeIfEmpty
        rintro _ _ ⟨links', rfl⟩
        apply wp_gcIPAM_bind
        refine ⟨trivial, rfl, links', ?_⟩
        simp [hreaped.mp h, World.keptReservations]
      case isFalse h =>
        have hnil : w.grout.stalePorts conf = [] := by
          by_contra hne
          exact h (hreaped.mpr hne)
        apply wp_gcIPAM_bind
        refine ⟨trivial, rfl, links, ?_⟩
        simp [hnil, Grout.deleteAll_nil, World.keptReservations]

end

/-- An ADD in which no call fails succeeds only if an interface of the name of its bridge is a
bridge: another one would take the name. -/
theorem wp_handleAddBody_bridge (conf : PluginConf) (args : CmdArgs) (w : World) :
  wp (Env Policy.allOk) (handleAddBody conf args)
    (fun r _ => ∀ {x}, r = .ok x → ∀ i ∈ w.grout.ifaces, i.name = conf.bridge →
      i.type = InterfaceType.bridge) w
  := by
  by_cases hbridges : ∀ i ∈ w.grout.ifaces, i.name = conf.bridge → i.type = InterfaceType.bridge
  · rw [wp_iff_run]
    intro r w' _ x _
    exact hbridges
  · have hnone : findBridgeID w.grout.ifaces conf.bridge = none := by
      apply findBridgeID_none.mpr
      push Not at hbridges
      obtain ⟨i, hi, hname, htype⟩ := hbridges
      intro j hj hjname
      rw [w.grout.eq_of_name hj hi (hjname.trans hname.symm)]
      exact htype
    unfold handleAddBody delegateIPAMAdd
    rw [wp_bind, wp_bind]
    apply wp_perform_allOk (o := .ipamAdd conf args)
    rintro result _ rfl
    refine ⟨trivial, ?_⟩
    dsimp only
    split
    · exact ⟨trivial, by rintro _ ⟨⟩⟩
    unfold attach ensureBridge
    rw [wp_bind, wp_bind]
    apply wp_interfaceList_allOk
    intro ifaces hperm
    dsimp only
    rw [findBridgeID_perm hperm, hnone]
    dsimp only
    rw [wp_bind]
    apply wp_perform_allOk (o := .interfaceAdd _)
    rintro id _ ⟨grout, links, hg, rfl⟩
    push Not at hbridges
    obtain ⟨i, hi, hname, -⟩ := hbridges
    refine absurd ?_ (Grout.insert?_eq_some.mp hg).1.1
    exact List.mem_map.mpr ⟨i, hi, hname⟩

/-! ### Calls on their own -/

section

variable {conf : PluginConf} {args : CmdArgs} {w w' : World} {r : Reply}

/-- The tables after a DEL of each of the ports, one after another. -/
def Grout.afterDels (g : Grout) (names : List GoString) : Grout :=
  names.foldl Grout.afterDel g

/-- A DEL for each of the arguments, one after another, in which every call succeeds. -/
inductive Dels (conf : PluginConf) : List CmdArgs → World → World → Prop
  | nil (w : World) : Dels conf [] w w
  | cons {args : CmdArgs} {rest : List CmdArgs} {r : Reply} {w w₁ w' : World} :
      Run (Solo (Env Policy.allOk) false) (handleDel conf args) w r w₁ →
      Dels conf rest w₁ w' → Dels conf (args :: rest) w w'

/-- A DEL that gets the lock and all of whose calls succeed. -/
theorem run_handleDel_allOk
    (h : Run (Solo (Env Policy.allOk) false) (handleDel conf args) w r w') :
  r = .ok none ∧ ∃ links, w' =
    { grout := w.grout.afterDel args.attachment.portName
      reservations := w.reservations.filter (· ≠ reservationOf conf args)
      sockets := w.socketsAfterDel conf args.attachment.portName
      links }
  := by
  rcases run_guarded.mp h with h | ⟨⟨⟩, -⟩
  exact h.wp (wp_handleDelBody conf args w)

/-- A GC that gets the lock and all of whose calls succeed. -/
theorem run_handleGC_allOk
    (h : Run (Solo (Env Policy.allOk) false) (handleGC conf args) w r w') :
  r = .ok none ∧ ∃ links, w' =
    { grout := w.grout.afterGC conf
      reservations := w.keptReservations conf
      sockets := w.socketsAfterGC conf
      links }
  := by
  rcases run_guarded.mp h with h | ⟨⟨⟩, -⟩
  exact h.wp (wp_handleGCBody conf args w)

theorem Dels.grout_eq {argss : List CmdArgs} (h : Dels conf argss w w') :
  w'.grout = w.grout.afterDels (argss.map (·.attachment.portName))
  := by
  induction h with
  | nil w => rfl
  | cons hdel _ ih =>
      obtain ⟨-, links, rfl⟩ := run_handleDel_allOk hdel
      exact ih

/-- DELs leave no new interfaces. -/
theorem Grout.mem_of_mem_afterDels {g : Grout} {names : List GoString} {i : InterfaceInfo}
    (h : i ∈ (g.afterDels names).ifaces) :
  i ∈ g.ifaces
  := by
  induction names generalizing g with
  | nil => exact h
  | cons name names ih => exact (Grout.mem_of_mem_afterDel (ih h)).1

end

end GroutCni
