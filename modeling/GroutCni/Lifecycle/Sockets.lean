import GroutCni.Lifecycle.Isolation
import GroutCni.Lifecycle.Recovery

/-!
# Ports and their sockets

A DEL decides from the interface table whether there is a socket to remove.  After a restart
of grout the port is gone, and a DEL leaves its socket (`handleDel_absent_iff`).  If the
delete call for the port fails, a DEL removes the socket of a port that is still there; a GC
does not (`port_keeps_socket`).
-/

namespace GroutCni

open Effect

/-! ### A DEL in which every call succeeds -/

/-- A DEL in which every call succeeds removes the port and the reservation of its attachment.
It leaves nothing if the port was there or the socket was not. -/
theorem handleDel_absent_iff {conf : PluginConf} {args : CmdArgs} {w w' : World} {r : Reply}
    (h : Run (Solo (Env Policy.allOk) false) (handleDel conf args) w r w') :
  r = .ok none ∧
  (∀ i ∈ w'.grout.ifaces, i.name ≠ groutPortName args.containerID args.ifName) ∧
  reservationOf conf args ∉ w'.reservations ∧
  (Absent conf args w' ↔
    (∃ i ∈ w.grout.ifaces, i.name = groutPortName args.containerID args.ifName) ∨
      conf.socketPath (groutPortName args.containerID args.ifName) ∉ w.sockets)
  := by
  obtain ⟨hr, links, rfl⟩ := run_handleDel_allOk h
  have hport : ∀ i ∈ (w.grout.afterDel args.attachment.portName).ifaces,
      i.name ≠ args.attachment.portName := fun i hi => (Grout.mem_of_mem_afterDel hi).2
  have hres : reservationOf conf args
      ∉ w.reservations.filter (· ≠ reservationOf conf args) := by simp
  refine ⟨hr, hport, hres, ?_⟩
  have hsock : conf.socketPath args.attachment.portName
        ∉ w.socketsAfterDel conf args.attachment.portName
      ↔ (∃ i ∈ w.grout.ifaces, i.name = args.attachment.portName) ∨
        conf.socketPath args.attachment.portName ∉ w.sockets := by
    cases hfound : findPortByName w.grout.ifaces args.attachment.portName with
    | none =>
        have hnone : ¬ ∃ i ∈ w.grout.ifaces, i.name = args.attachment.portName := by
          rintro ⟨i, hi, hname⟩
          exact findPortByName_none.mp hfound i hi hname
        rw [World.socketsAfterDel, hfound, or_iff_right hnone]
    | some port =>
        obtain ⟨hp, hname⟩ := findPortByName_some hfound
        rw [← hname, World.socketsAfterDel_of_mem hp]
        simpa using .inl ⟨port, hp, rfl⟩
  constructor
  · intro habsent
    exact hsock.mp habsent.socket
  · intro hcond
    exact ⟨hport, hres, hsock.mpr hcond⟩

/-- A pod with a vhost-user socket comes and goes: its socket is removed. -/
theorem handleDel_absent_after_add :
  ∃ w r w', sharedVirtio.socketPath (pod "a").attachment.portName ∈ w.sockets ∧
    Run (Solo (Env Policy.allOk) false) (handleDel sharedVirtio (pod "a")) w r w' ∧
    Absent sharedVirtio (pod "a") w'
  := by
  have hexec : (exec (World.act Policy.allOk)
      [oneAddress 10, {}, { id := 1 }, {}, {}, { id := 2 }]
      (handleAddBody sharedVirtio (pod "a")) World.initial).any
      (fun x => sharedVirtio.socketPath (pod "a").attachment.portName ∈ x.2.sockets ∧
        (∃ i ∈ x.2.grout.ifaces, i.name = (pod "a").attachment.portName) ∧
        (exec (World.act Policy.allOk) [{}, {}, {}, {}, {}, {}, {}, {}]
          (handleDelBody sharedVirtio (pod "a")) x.2).isSome = true) = true := by
    decide +kernel
  obtain ⟨r₀, w, -, hcheck⟩ := exec_exists World.act_sound hexec
  obtain ⟨hsock, hport, hdel⟩ := of_decide_eq_true hcheck
  obtain ⟨⟨r, w'⟩, hdel⟩ := Option.isSome_iff_exists.mp hdel
  have hrun : Run (Solo (Env Policy.allOk) false) (handleDel sharedVirtio (pod "a")) w r w' :=
    locked_run (exec_sound World.act_sound hdel)
  exact ⟨w, r, w', hsock, hrun, (handleDel_absent_iff hrun).2.2.2.mpr (.inl hport)⟩

/-- Grout restarts while a pod with a vhost-user socket is there: a DEL leaves the socket. -/
theorem handleDel_leaves_socket_after_restart :
  ∃ r₀ w r w', History (fun _ => Policy.allOk) Discipline.any World.initial
      [.returned ⟨.add, sharedVirtio, pod "a"⟩ r₀, .restarted] w ∧
    Run (Solo (Env Policy.allOk) false) (handleDel sharedVirtio (pod "a")) w r w' ∧
    r = .ok none ∧ sharedVirtio.socketPath (pod "a").attachment.portName ∈ w'.sockets
  := by
  have hexec : (exec (World.act Policy.allOk)
      [oneAddress 10, {}, { id := 1 }, {}, {}, { id := 2 }]
      (handleAddBody sharedVirtio (pod "a")) World.initial).any
      (fun x => (exec (World.act Policy.allOk) [{}, {}] (handleDelBody sharedVirtio (pod "a"))
        x.2.restart).any fun y =>
          sharedVirtio.socketPath (pod "a").attachment.portName ∈ y.2.sockets) = true := by
    decide +kernel
  obtain ⟨r₀, w₁, hadd, hdel⟩ := exec_exists World.act_sound hexec
  obtain ⟨r, w', hdel, hsock⟩ := exec_exists World.act_sound hdel
  have hhistory : History (fun _ => Policy.allOk) Discipline.any World.initial
      [.returned ⟨.add, sharedVirtio, pod "a"⟩ r₀] w₁ :=
    .step .start trivial (.returned (locked_run hadd))
  exact ⟨r₀, w₁.restart, r, w', hhistory.step trivial (.restarted w₁ w₁.links), locked_run hdel,
    (hdel.wp (wp_handleDelBody _ _ _)).1, of_decide_eq_true hsock⟩

/-! ### Calls that fail -/

/-- Calls of grout may fail, and a call that fails changes nothing. -/
def groutMayFail : Policy Op
  | _, .none => true
  | o, .fail => o.isGrout
  | _, .lost => false

/-- The id whose delete call has failed, if the operation is one. -/
def failedDelete? : Event Op.Res → Option UInt16
  | ⟨.interfaceDel id, .error _⟩ => some id
  | _ => none

/-- The ids whose delete calls have failed. -/
def failedDeletes (log : List (Event Op.Res)) : List UInt16 :=
  log.filterMap failedDelete?

theorem failedDeletes_snoc (log : List (Event Op.Res)) (e : Event Op.Res) :
  failedDeletes (log ++ [e]) = failedDeletes log ++ (failedDelete? e).toList
  := by
  rw [failedDeletes, List.filterMap_append]
  cases h : failedDelete? e <;> simp [failedDeletes, h]

/-- A port that is there after a call has its socket if it had it before. -/
def KeepsSockets (conf : PluginConf) (w w' : World) : Prop :=
  ∀ a : Attachment, (∃ i ∈ w'.grout.ifaces, i.name = a.portName) →
    conf.socketPath a.portName ∈ w.sockets → conf.socketPath a.portName ∈ w'.sockets

section

variable {conf : PluginConf} {args : CmdArgs}
  {s s' s₀ : World × List (Event Op.Res)} {port : InterfaceInfo} {id : UInt16}

/-- The interfaces, the sockets and the failed delete calls are the same. -/
structure Unchanged (s s' : World × List (Event Op.Res)) : Prop where
  ifaces : s'.1.grout.ifaces = s.1.grout.ifaces
  sockets : s'.1.sockets = s.1.sockets
  failed : failedDeletes s'.2 = failedDeletes s.2

/-- The operations that leave the interfaces and the sockets. -/
def Op.IsQuiet : Op → Prop
  | .interfaceList _ | .ip4AddrFlush _ | .ip6AddrFlush _ | .ipamDel _ _ => True
  | _ => False

theorem Unchanged.refl (s : World × List (Event Op.Res)) :
  Unchanged s s
  := ⟨rfl, rfl, rfl⟩

theorem Unchanged.trans (h : Unchanged s₀ s) (h' : Unchanged s s') :
  Unchanged s₀ s'
  := ⟨h'.ifaces.trans h.ifaces, h'.sockets.trans h.sockets, h'.failed.trans h.failed⟩

theorem Unchanged.of_op {P : Policy Op} {o : Op} {r : o.Res} (ho : o.IsQuiet)
    (h : logged (Env P) s o r s') :
  Unchanged s s'
  := by
  obtain ⟨hT, hlog⟩ := h
  have hfailed : failedDelete? ⟨o, r⟩ = none := by
    cases o <;> first | exact ho.elim | rfl
  have hworld : s'.1.grout.ifaces = s.1.grout.ifaces ∧ s'.1.sockets = s.1.sockets := by
    rcases hT.eq_or_eff with heq | ⟨v, hv⟩
    · rw [heq]
      exact ⟨rfl, rfl⟩
    · cases o with
      | interfaceList => exact ⟨by rw [hv.2], by rw [hv.2]⟩
      | ip4AddrFlush | ip6AddrFlush | ipamDel =>
          rw [show s'.1 = _ from hv]
          exact ⟨rfl, rfl⟩
      | _ => exact ho.elim
  refine ⟨hworld.1, hworld.2, ?_⟩
  rw [hlog, failedDeletes_snoc, hfailed]
  exact List.append_nil _

/-- Quiet operations change nothing. -/
theorem wp_quiet {α : Type} {P : Policy Op} {p : Prog α} (hp : p.Uses Op.IsQuiet)
    (hs : Unchanged s₀ s) :
  wp (logged (Env P)) p (fun _ => Unchanged s₀) s
  := by
  refine wpc_mono (hp.wpc ?_ hs) (fun _ _ => trivial) (fun _ _ h => h)
  intro s o r s' ho h hs
  exact hs.trans (.of_op ho h)

/-- A delete call fails and changes nothing, or deletes the id. -/
theorem logged_interfaceDel {r : Except GoError Unit}
    (h : logged (Env groutMayFail) s (.interfaceDel id) r s') :
  s'.1.sockets = s.1.sockets ∧
  ((s'.1.grout.ifaces = s.1.grout.ifaces ∧ failedDeletes s'.2 = failedDeletes s.2 ++ [id]) ∨
    (s'.1.grout.ifaces = (s.1.grout.delete id).ifaces ∧
      failedDeletes s'.2 = failedDeletes s.2))
  := by
  obtain ⟨hdel, hlog⟩ := h
  rw [hlog, failedDeletes_snoc]
  cases r with
  | error e =>
      rcases hdel with ⟨-, hs⟩ | ⟨⟨⟩, -⟩
      rw [hs]
      exact ⟨rfl, .inl ⟨rfl, rfl⟩⟩
  | ok _ =>
      obtain ⟨-, -, links, hs⟩ := hdel
      rw [hs]
      exact ⟨rfl, .inr ⟨rfl, List.append_nil _⟩⟩

/-- Removing a socket succeeds. -/
theorem wp_removeVhostSocket_logged {sock name : GoString} :
  wp (logged (Env groutMayFail)) (removeVhostSocket sock name)
    (fun _ s' => s'.1.grout = s.1.grout ∧ failedDeletes s'.2 = failedDeletes s.2 ∧
      s'.1.sockets = s.1.sockets.filter (· ≠ vhostSocketPath sock name)) s
  := by
  unfold removeVhostSocket
  rw [wp_bind]
  refine ⟨trivial, ?_⟩
  rintro (e | existed) s' ⟨hrem, hlog⟩
  · rcases hrem with ⟨⟨⟩, -⟩ | ⟨⟨⟩, -⟩
  · obtain ⟨-, -, hs⟩ := hrem
    refine ⟨trivial, trivial, ?_⟩
    dsimp only
    rw [hs, hlog, failedDeletes_snoc]
    exact ⟨rfl, List.append_nil _, rfl⟩

/-- What collecting a bridge may do: it removes nothing while the bridge has a member, and a
delete call that fails is one for an interface of the table. -/
structure Collected (id : UInt16) (s s' : World × List (Event Op.Res)) : Prop where
  sockets : s'.1.sockets = s.1.sockets
  ifaces : s'.1.grout.ifaces ⊆ s.1.grout.ifaces
  kept : (∃ i ∈ s.1.grout.ifaces, i.domain = id) → s'.1.grout.ifaces = s.1.grout.ifaces
  failed : failedDeletes s.2 ⊆ failedDeletes s'.2
  failed_mem : ∀ x ∈ failedDeletes s'.2, x ∈ failedDeletes s.2 ∨
    ∃ i ∈ s.1.grout.ifaces, i.id = x

theorem Unchanged.collected (h : Unchanged s s') (id : UInt16) :
  Collected id s s'
  where
  sockets := h.sockets
  ifaces := by rw [h.ifaces]; exact List.Subset.refl _
  kept _ := h.ifaces
  failed := by rw [h.failed]; exact List.Subset.refl _
  failed_mem x hx := .inl (h.failed ▸ hx)

/-- The delete call for a bridge without members. -/
theorem Unchanged.collected_del (h : Unchanged s₀ s) (hcoll : s₀.1.grout.Collectable id)
    {r : Except GoError Unit} (hdel : logged (Env groutMayFail) s (.interfaceDel id) r s') :
  Collected id s₀ s'
  := by
  obtain ⟨⟨i, hi, hid, -⟩, hempty⟩ := hcoll
  obtain ⟨hsockets, hcases⟩ := logged_interfaceDel hdel
  have hkept : (∃ j ∈ s₀.1.grout.ifaces, j.domain = id) →
      s'.1.grout.ifaces = s₀.1.grout.ifaces := by
    rintro ⟨j, hj, hjd⟩
    exact absurd hjd (hempty j hj)
  rcases hcases with ⟨hifaces, hfailed⟩ | ⟨hifaces, hfailed⟩
  · rw [h.ifaces] at hifaces
    rw [h.failed] at hfailed
    constructor
    · rw [hsockets, h.sockets]
    · rw [hifaces]
      exact List.Subset.refl _
    · exact hkept
    · rw [hfailed]
      exact List.subset_append_left _ _
    · intro x hx
      rw [hfailed] at hx
      apply (List.mem_append.mp hx).imp_right
      intro hx
      exact ⟨i, hi, hid.trans (List.mem_singleton.mp hx).symm⟩
  · rw [h.failed] at hfailed
    constructor
    · rw [hsockets, h.sockets]
    · rw [hifaces, ← h.ifaces]
      exact List.filter_sublist.subset
    · exact hkept
    · rw [hfailed]
      exact List.Subset.refl _
    · intro x hx
      exact .inl (hfailed ▸ hx)

theorem wp_gcBridgeIfEmpty_logged (id : UInt16) (s : World × List (Event Op.Res)) :
  wp (logged (Env groutMayFail)) (gcBridgeIfEmpty id) (fun _ => Collected id s) s
  := by
  unfold gcBridgeIfEmpty
  rw [wp_bind]
  refine ⟨trivial, ?_⟩
  rintro (e | ifaces) s₁ hlist
  all_goals have h₁ := Unchanged.of_op (by trivial) hlist
  · exact ⟨trivial, trivial, h₁.collected id⟩
  refine ⟨trivial, ?_⟩
  dsimp only
  split
  case isFalse => exact ⟨trivial, h₁.collected id⟩
  case isTrue hcoll =>
    rw [bridgeCollectable_perm hlist.1.2.1] at hcoll
    rw [wp_bind]
    apply wp_mono (wp_quiet (addressFlush_uses trivial trivial) h₁)
    intro _ s₂ h₂
    rw [wp_bind]
    refine ⟨trivial, ?_⟩
    intro r s₃ hdel
    exact ⟨trivial, trivial, h₂.collected_del hcoll hdel⟩

/-- What deleting a port in a DEL may do: its socket is removed, and either the delete call
has failed and the port is there, or the port is gone. -/
structure PortDeleted (conf : PluginConf) (port : InterfaceInfo)
    (s s' : World × List (Event Op.Res)) : Prop where
  sockets : s'.1.sockets = s.1.sockets.filter (· ≠ conf.socketPath port.name)
  outcome : (port ∈ s'.1.grout.ifaces ∧ port.id ∈ failedDeletes s'.2) ∨
    (s'.1.grout.ifaces ⊆ (s.1.grout.delete port.id).ifaces ∧ port.id ∉ failedDeletes s'.2)

theorem wp_deletePort_logged (hport : port ∈ s.1.grout.ifaces) (hs : failedDeletes s.2 = []) :
  wp (logged (Env groutMayFail)) (deletePort conf port.name port)
    (fun _ => PortDeleted conf port s) s
  := by
  unfold deletePort
  rw [wp_bind]
  refine ⟨trivial, ?_⟩
  intro r s₁ hdel
  refine ⟨trivial, ?_⟩
  obtain ⟨hsockets₁, hcases⟩ := logged_interfaceDel hdel
  rw [hs] at hcases
  rw [wp_bind]
  apply wp_mono wp_removeVhostSocket_logged
  rintro _ s₂ ⟨hgrout₂, hfailed₂, hsockets₂⟩
  have hrest : ∀ s₃, Collected port.domain s₂ s₃ → PortDeleted conf port s s₃ := by
    intro s₃ h₃
    refine ⟨by rw [h₃.sockets, hsockets₂, hsockets₁]; rfl, ?_⟩
    rcases hcases with ⟨hifaces, hfailed⟩ | ⟨hifaces, hfailed⟩
    · left
      have hport₂ : port ∈ s₂.1.grout.ifaces := by rwa [hgrout₂, hifaces]
      constructor
      · rwa [h₃.kept ⟨port, hport₂, rfl⟩]
      · apply h₃.failed
        rw [hfailed₂, hfailed]
        exact List.mem_singleton_self _
    · right
      rw [← hifaces, ← hgrout₂]
      refine ⟨h₃.ifaces, ?_⟩
      intro hx
      rcases h₃.failed_mem _ hx with hx | ⟨i, hi, hid⟩
      · rw [hfailed₂, hfailed] at hx
        cases hx
      · rw [hgrout₂, hifaces] at hi
        exact (Grout.mem_delete.mp hi).2 hid
  split
  · exact wp_mono (wp_gcBridgeIfEmpty_logged _ _) fun _ => hrest
  · exact ⟨trivial, hrest _ ((Unchanged.refl _).collected _)⟩

/-- A DEL deletes the port of its attachment, if it finds it, and changes nothing else. -/
theorem wp_handleDelBody_logged (conf : PluginConf) (args : CmdArgs) (w : World) :
  wp (logged (Env groutMayFail)) (handleDelBody conf args)
    (fun _ s' => Unchanged (w, []) s' ∨ ∃ port ∈ w.grout.ifaces,
      port.name = args.attachment.portName ∧ PortDeleted conf port (w, []) s') (w, [])
  := by
  have hquiet : (ipamDel conf args).Uses Op.IsQuiet := ipamDel_uses trivial
  unfold handleDelBody
  dsimp only
  rw [wp_bind]
  refine ⟨trivial, ?_⟩
  rintro (e | ifaces) ⟨w₁, log₁⟩ hlist
  all_goals have h₁ := Unchanged.of_op (by trivial) hlist
  · exact ⟨trivial, trivial, .inl h₁⟩
  obtain ⟨⟨-, hperm, rfl⟩, -⟩ := hlist
  refine ⟨trivial, ?_⟩
  dsimp only
  split
  case h_2 =>
    rw [wp_bind]
    apply wp_mono (wp_quiet hquiet h₁)
    intro _ s₂ h₂
    exact ⟨trivial, .inl h₂⟩
  case h_1 port hfound =>
    obtain ⟨hport, hname⟩ := findPortByName_some hfound
    have hport : port ∈ w₁.grout.ifaces := hperm.subset hport
    rw [wp_bind, ← hname]
    apply wp_mono (wp_deletePort_logged (s := (w₁, log₁)) hport h₁.failed)
    intro _ s₂ h₂
    rw [wp_bind]
    apply wp_mono (wp_quiet hquiet (.refl s₂))
    intro _ s₃ h₃
    refine ⟨trivial, .inr ⟨port, hport, hname, ?_, ?_⟩⟩
    · rw [h₃.sockets, h₂.sockets]
    · rw [h₃.ifaces, h₃.failed]
      exact h₂.outcome

/-- The delete call for a port with a socket has failed. -/
def DeleteFailed (conf : PluginConf) (args : CmdArgs) (w : World) (log : List (Event Op.Res)) :
    Prop :=
  conf.socketPath (groutPortName args.containerID args.ifName) ∈ w.sockets ∧
    ∃ port ∈ w.grout.ifaces, port.name = groutPortName args.containerID args.ifName ∧
      port.id ∈ failedDeletes log

theorem Unchanged.keepsSockets_iff {w : World} (h : Unchanged (w, []) s) :
  KeepsSockets conf w s.1 ↔ ¬ DeleteFailed conf args w s.2
  := by
  constructor
  · rintro - ⟨-, port, -, -, hfailed⟩
    rw [h.failed] at hfailed
    cases hfailed
  · intro _ a _ hsock
    rwa [h.sockets]

theorem PortDeleted.keepsSockets_iff {w : World} (h : PortDeleted conf port (w, []) s)
    (hport : port ∈ w.grout.ifaces) (hname : port.name = args.attachment.portName) :
  KeepsSockets conf w s.1 ↔ ¬ DeleteFailed conf args w s.2
  := by
  have hremoved : conf.socketPath args.attachment.portName ∉ s.1.sockets := by
    rw [h.sockets, hname]
    simp
  have hother : ∀ {a : Attachment}, conf.socketPath a.portName ∈ w.sockets →
      conf.socketPath a.portName ≠ conf.socketPath args.attachment.portName →
      conf.socketPath a.portName ∈ s.1.sockets := by
    intro a hsock hne
    rw [h.sockets, hname]
    simpa using ⟨hsock, hne⟩
  rcases h.outcome with ⟨hthere, hfailed⟩ | ⟨hgone, hfailed⟩
  · constructor
    · rintro hkeeps ⟨hsock, -⟩
      exact hremoved (hkeeps args.attachment ⟨port, hthere, hname⟩ hsock)
    · intro hnot a _ hsock
      apply hother hsock
      intro heq
      rw [heq] at hsock
      exact hnot ⟨hsock, port, hport, hname, hfailed⟩
  · constructor
    · rintro - ⟨-, port', hport', hname', hfailed'⟩
      rw [w.grout.eq_of_name hport' hport (hname'.trans hname.symm)] at hfailed'
      exact hfailed hfailed'
    · rintro - a ⟨i, hi, hia⟩ hsock
      apply hother hsock
      intro heq
      obtain ⟨hiw, hid⟩ := Grout.mem_delete.mp (hgone hi)
      have hin : i.name = port.name := by
        rw [hia, hname, vhostSocketPath_inj heq]
      exact hid (congrArg _ (w.grout.eq_of_name hiw hport hin))

/-- A GC removes the socket of a port only after the port. -/
theorem Pruned.keepsSockets {calls : List Call} {w w' : World}
    (h : Pruned (StaleAt conf w) True conf.groutSocketPath w w')
    (hnamed : MembersAreNamed calls w.grout) :
  KeepsSockets conf w w'
  := by
  rintro a ⟨j, hj, hja⟩ hsock
  by_contra hgone
  obtain ⟨i, hi, hstale, hpath, hremoved⟩ := h.unlinked _ hsock hgone
  obtain ⟨a', hia⟩ := hnamed.portName_of_stale hi hstale
  rw [hia] at hpath
  have hij : i = j := by
    apply w.grout.eq_of_name hi (h.ifaces hj)
    rw [hia, hja, vhostSocketPath_inj hpath]
  exact hremoved trivial (hij ▸ hj)

end

/-- From every reachable state and whichever calls of grout fail, a GC removes the socket of a
port only if the port is gone.  A DEL does so unless the delete call for its port fails. -/
theorem port_keeps_socket {P : Call → Policy Op} {A : Discipline} {w₀ w w' : World}
    {es : List NodeEvent} {conf : PluginConf} {args : CmdArgs} {log : List (Event Op.Res)}
    {r : Reply} (hstart : ∀ i ∈ w₀.grout.ifaces, hasPrefix i.name portPrefix = false)
    (h : History P A w₀ es w) :
  (Run (Solo (logged (Env groutMayFail)) true) (handleDel conf args) (w, []) r (w', log) →
    (KeepsSockets conf w w' ↔ ¬ DeleteFailed conf args w log)) ∧
  (Run (Solo (logged (Env groutMayFail)) true) (handleGC conf args) (w, []) r (w', log) →
    KeepsSockets conf w w')
  := by
  constructor
  · intro hdel
    rcases run_locked hdel with hdel | ⟨heq, -⟩
    · rcases hdel.wp (wp_handleDelBody_logged conf args w) with hsame | ⟨port, hport, hname, hp⟩
      · exact hsame.keepsSockets_iff
      · exact hp.keepsSockets_iff hport hname
    · cases heq
      exact (Unchanged.refl (w, [])).keepsSockets_iff
  · intro hgc
    rcases run_locked hgc with hgc | ⟨heq, -⟩
    · have hpruned := hgc.forget.wpc (wpc_handleGCBody conf args w)
      exact hpruned.keepsSockets (h.membersAreNamed hstart)
    · cases heq
      intro a _ hsock
      exact hsock

/-- The delete call for a stale port fails in a GC: the port keeps its socket. -/
theorem port_keeps_socket_gc_delete_fails :
  ∃ es w r w' log, History (fun _ => Policy.allOk) Discipline.any World.initial es w ∧
    Run (Solo (logged (Env groutMayFail)) true) (handleGC sharedVirtio (pod "")) (w, []) r
      (w', log) ∧
    (failedDeletes log).length = 1 ∧
    sharedVirtio.socketPath (pod "a").attachment.portName ∈ w'.sockets
  := by
  have hplay : (World.initial.play (fun _ => Policy.allOk) Discipline.any []
      [.call ⟨.add, sharedVirtio, pod "a"⟩
        [oneAddress 10, {}, { id := 1 }, {}, {}, { id := 2 }]]).any
      (fun x => sharedVirtio.socketPath (pod "a").attachment.portName ∈ x.2.sockets ∧
        (exec (loggedAct (World.act groutMayFail)) [{}, { fault := .fail }, {}]
          (handleGCBody sharedVirtio (pod "")) (x.2, [])).any
          (fun y => (failedDeletes y.2.2).length = 1 ∧
            ∃ i ∈ y.2.1.grout.ifaces, i.name = (pod "a").attachment.portName) = true)
      = true := by
    decide +kernel
  obtain ⟨es, w, hw, hcheck⟩ := World.play_exists hplay
  obtain ⟨hsock, hexec⟩ := of_decide_eq_true hcheck
  obtain ⟨r, ⟨w', log⟩, hgc, hcheck⟩ := exec_exists (loggedAct_sound World.act_sound) hexec
  obtain ⟨hfailed, hport⟩ := of_decide_eq_true hcheck
  have hgc : Run (Solo (logged (Env groutMayFail)) true) (handleGC sharedVirtio (pod ""))
      (w, []) r (w', log) := locked_run hgc
  have hkeeps := (port_keeps_socket (by intro i hi; cases hi) hw).2 hgc
  exact ⟨es, w, r, w', log, hw, hgc, hfailed, hkeeps _ hport hsock⟩

/-- The delete call for the port fails in a DEL: the DEL succeeds, the port is there and its
socket is gone. -/
theorem del_removes_socket_of_port :
  ∃ es w r w' log, History (fun _ => Policy.allOk) Discipline.any World.initial es w ∧
    Run (Solo (logged (Env groutMayFail)) true) (handleDel sharedVirtio (pod "a")) (w, []) r
      (w', log) ∧
    (∃ i ∈ w'.grout.ifaces, i.name = (pod "a").attachment.portName) ∧
    sharedVirtio.socketPath (pod "a").attachment.portName ∈ w.sockets ∧
    sharedVirtio.socketPath (pod "a").attachment.portName ∉ w'.sockets
  := by
  have hplay : (World.initial.play (fun _ => Policy.allOk) Discipline.any []
      [.call ⟨.add, sharedVirtio, pod "a"⟩
        [oneAddress 10, {}, { id := 1 }, {}, {}, { id := 2 }]]).any
      (fun x => (exec (loggedAct (World.act groutMayFail))
          [{}, { fault := .fail }, {}, {}, {}]
          (handleDelBody sharedVirtio (pod "a")) (x.2, [])).any
          (fun y => (∃ i ∈ y.2.1.grout.ifaces, i.name = (pod "a").attachment.portName) ∧
            sharedVirtio.socketPath (pod "a").attachment.portName ∈ x.2.sockets ∧
            sharedVirtio.socketPath (pod "a").attachment.portName ∉ y.2.1.sockets))
      = true := by
    decide +kernel
  obtain ⟨es, w, hw, hexec⟩ := World.play_exists hplay
  obtain ⟨r, ⟨w', log⟩, hdel, hcheck⟩ := exec_exists (loggedAct_sound World.act_sound) hexec
  exact ⟨es, w, r, w', log, hw, locked_run hdel, of_decide_eq_true hcheck⟩

end GroutCni
