import GroutCni.Handlers.Listing
import GroutCni.Node.World

/-!
# What a DEL or a GC may remove

Wherever a run of `HandleDel` or `HandleGC` ends or is cut short, and whichever calls fail or
are lost, the node is `Pruned`: of the interface table only stale ports and bridges without
members are gone, and of the socket files only those of stale ports.
-/

namespace GroutCni

open Effect

/-- The node has come from `w₀` to `w` by removing interfaces, addresses and socket files.
Of the interfaces only stale ones and bridges without members are gone.  Of the socket
files only those of stale interfaces are gone and, if `careful` is set, only after the
interface itself. -/
structure Pruned (stale : InterfaceInfo → Prop) (careful : Prop) (sock : GoString)
    (w₀ w : World) : Prop where
  ifaces : w.grout.ifaces ⊆ w₀.grout.ifaces
  removed : ∀ i ∈ w₀.grout.ifaces, i ∉ w.grout.ifaces →
    stale i ∨ i.type = InterfaceType.bridge ∧ ∀ j ∈ w.grout.ifaces, j.domain ≠ i.id
  sockets : w.sockets ⊆ w₀.sockets
  unlinked : ∀ s ∈ w₀.sockets, s ∉ w.sockets →
    ∃ i ∈ w₀.grout.ifaces, stale i ∧ s = vhostSocketPath sock i.name ∧
      (careful → i ∉ w.grout.ifaces)

namespace Pruned

variable {stale : InterfaceInfo → Prop} {careful : Prop} {sock : GoString} {w₀ w : World}

/-- Nothing has been removed at the start. -/
theorem start (stale : InterfaceInfo → Prop) (careful : Prop) (sock : GoString) (w : World) :
  Pruned stale careful sock w w
  where
  ifaces := List.Subset.refl _
  removed _ hi hi' := absurd hi hi'
  sockets := List.Subset.refl _
  unlinked _ hs hs' := absurd hs hs'

/-- Reservations and links do not matter, and neither do addresses. -/
theorem congr (h : Pruned stale careful sock w₀ w) {w' : World}
    (hifaces : w'.grout.ifaces = w.grout.ifaces) (hsockets : w'.sockets = w.sockets) :
  Pruned stale careful sock w₀ w'
  where
  ifaces := by rw [hifaces]; exact h.ifaces
  removed := by rw [hifaces]; exact h.removed
  sockets := by rw [hsockets]; exact h.sockets
  unlinked := by rw [hifaces, hsockets]; exact h.unlinked

/-- An interface may be deleted if it is stale or a bridge without members. -/
theorem delete (h : Pruned stale careful sock w₀ w) {id : UInt16} {links : List LinkState}
    (hid : ∀ i ∈ w.grout.ifaces, i.id = id →
      stale i ∨ i.type = InterfaceType.bridge ∧ ∀ j ∈ w.grout.ifaces, j.domain ≠ id) :
  Pruned stale careful sock w₀ { w with grout := w.grout.delete id, links }
  := by
  have hsub : (w.grout.delete id).ifaces ⊆ w.grout.ifaces :=
    List.filter_sublist.subset
  constructor
  · exact List.Subset.trans hsub h.ifaces
  · intro i hi hgone
    by_cases hiw : i ∈ w.grout.ifaces
    · have hii : i.id = id := by
        by_contra hne
        apply hgone
        simpa using ⟨hiw, hne⟩
      rcases hid i hiw hii with hs | ⟨htype, hdom⟩
      · exact .inl hs
      · rw [hii]
        exact .inr ⟨htype, fun j hj => hdom j (hsub hj)⟩
    · apply (h.removed i hi hiw).imp_right
      rintro ⟨htype, hdom⟩
      exact ⟨htype, fun j hj => hdom j (hsub hj)⟩
  · exact h.sockets
  · intro s hs hgone
    obtain ⟨i, hi, hstale, hpath, hcareful⟩ := h.unlinked s hs hgone
    exact ⟨i, hi, hstale, hpath, fun hc hmem => hcareful hc (hsub hmem)⟩

/-- The socket file of a stale interface may be removed. -/
theorem unlink (h : Pruned stale careful sock w₀ w) {i : InterfaceInfo}
    (hi : i ∈ w₀.grout.ifaces) (hstale : stale i) (hcareful : careful → i ∉ w.grout.ifaces) :
  Pruned stale careful sock w₀
    { w with sockets := w.sockets.filter (· ≠ vhostSocketPath sock i.name) }
  := by
  constructor
  · exact h.ifaces
  · exact h.removed
  · exact List.Subset.trans List.filter_sublist.subset h.sockets
  · intro s hs hgone
    by_cases hsw : s ∈ w.sockets
    · refine ⟨i, hi, hstale, ?_, hcareful⟩
      by_contra hne
      apply hgone
      simpa using ⟨hsw, hne⟩
    · apply h.unlinked s hs hsw

end Pruned

/-! ### The parts of a DEL and of a GC -/

section

variable {P : Policy Op} {stale : InterfaceInfo → Prop} {careful : Prop} {conf : PluginConf}
  {w₀ w : World}

/-- Collecting an empty bridge only removes a bridge without members. -/
theorem wpc_gcBridgeIfEmpty {sock : GoString} (h : Pruned stale careful sock w₀ w)
    (id : UInt16) :
  wpc (Env P) (Pruned stale careful sock w₀) (gcBridgeIfEmpty id)
    (fun _ => Pruned stale careful sock w₀) w
  := by
  unfold gcBridgeIfEmpty
  rw [wpc_bind]
  apply wpc_interfaceList h
  · intro ifaces hperm
    dsimp only
    split
    case isTrue hcoll =>
      obtain ⟨-, hall⟩ := bridgeCollectable_iff.mp hcoll
      have hdel : ∀ p links, Pruned stale careful sock w₀
          { w with grout := (w.grout.flush id p).delete id, links } := by
        intro p links
        rw [Grout.flush_delete]
        apply h.delete
        intro i hi hid
        exact .inr ⟨(hall i (hperm.symm.subset hi)).1 hid,
          fun j hj => (hall j (hperm.symm.subset hj)).2⟩
      rw [wpc_bind]
      apply wpc_addressFlush h
      intro _ p
      have hflush : Pruned stale careful sock w₀ { w with grout := w.grout.flush id p } :=
        h.congr rfl rfl
      refine ⟨hflush, ?_⟩
      rw [wpc_bind]
      apply wpc_interfaceDel hflush
      · intro links
        exact ⟨hdel p links, hdel p links, hdel p links⟩
      · intro _ _
        exact ⟨hflush, hflush⟩
      · intro _ _ links
        exact ⟨hdel p links, hdel p links⟩
    case isFalse => exact ⟨h, h⟩
  · intro _
    exact ⟨h, h⟩

/-- Removing the socket of a stale interface. -/
theorem wpc_removeVhostSocket {sock : GoString} (h : Pruned stale careful sock w₀ w)
    {i : InterfaceInfo} (hi : i ∈ w₀.grout.ifaces) (hstale : stale i)
    (hcareful : careful → i ∉ w.grout.ifaces) :
  wpc (Env P) (Pruned stale careful sock w₀) (removeVhostSocket sock i.name)
    (fun _ => Pruned stale careful sock w₀) w
  := by
  have h' := h.unlink hi hstale hcareful
  unfold removeVhostSocket
  rw [wpc_bind]
  apply wpc_perform h
  · rintro _ _ ⟨-, rfl⟩
    exact ⟨h', h', h'⟩
  · intro _ _
    exact ⟨h, h⟩
  · rintro _ _ _ _ ⟨-, rfl⟩
    exact ⟨h', h'⟩

/-- Deleting a stale interface of the table. -/
theorem Pruned.deleteStale {sock : GoString} (h : Pruned stale careful sock w₀ w)
    {i : InterfaceInfo} (hi : i ∈ w₀.grout.ifaces) (hstale : stale i) (links : List LinkState) :
  Pruned stale careful sock w₀ { w with grout := w.grout.delete i.id, links }
  := by
  apply h.delete
  intro j hj hji
  rw [w₀.grout.eq_of_id (h.ifaces hj) hi hji]
  exact .inl hstale

/-- The last step of a DEL or a GC releases reservations and removes no interface. -/
theorem wpc_pruned_ipam {sock : GoString} (h : Pruned stale careful sock w₀ w) {α : Type}
    (a : α) {o : Op}
    (ho : ∀ v w', World.Effect w o v w' → ∃ rs, w' = { w with reservations := rs }) :
  wpc (Env P) (Pruned stale careful sock w₀) (.call o fun _ => .ret a)
    (fun _ => Pruned stale careful sock w₀) w
  := by
  refine ⟨h, ?_⟩
  intro r w' hr
  rcases hr.eq_or_eff with rfl | ⟨v, hv⟩
  · exact ⟨h, h⟩
  · obtain ⟨rs, rfl⟩ := ho v w' hv
    exact ⟨h.congr rfl rfl, h.congr rfl rfl⟩

/-! ### DEL -/

/-- Deleting the port of an attachment. -/
theorem wpc_deletePort {port : InterfaceInfo} (h : Pruned stale False conf.groutSocketPath w₀ w)
    (hport : port ∈ w₀.grout.ifaces) (hstale : stale port) :
  wpc (Env P) (Pruned stale False conf.groutSocketPath w₀) (deletePort conf port.name port)
    (fun _ => Pruned stale False conf.groutSocketPath w₀) w
  := by
  have hrest : ∀ {w}, Pruned stale False conf.groutSocketPath w₀ w →
      wpc (Env P) (Pruned stale False conf.groutSocketPath w₀) (do
        removeVhostSocket conf.groutSocketPath port.name
        if port.domain ≠ 0 then gcBridgeIfEmpty port.domain)
      (fun _ => Pruned stale False conf.groutSocketPath w₀) w := by
    intro w h
    rw [wpc_bind]
    apply wpc_mono (wpc_removeVhostSocket h hport hstale False.elim) (fun _ hw => hw)
    intro _ w' h'
    split
    · exact wpc_gcBridgeIfEmpty h' port.domain
    · exact ⟨h', h'⟩
  unfold deletePort
  rw [wpc_bind]
  apply wpc_interfaceDel h
  · intro links
    have h' := h.deleteStale hport hstale links
    exact ⟨h', hrest h'⟩
  · intro _ _
    exact hrest h
  · intro _ _ links
    exact hrest (h.deleteStale hport hstale links)

/-- A DEL removes the port of its attachment, its socket, and a bridge without members. -/
theorem wpc_handleDelBody (conf : PluginConf) (args : CmdArgs) (w : World) :
  wpc (Env P) (Pruned (·.name = args.attachment.portName) False conf.groutSocketPath w)
    (handleDelBody conf args)
    (fun _ => Pruned (·.name = args.attachment.portName) False conf.groutSocketPath w) w
  := by
  have h := Pruned.start (·.name = args.attachment.portName) False conf.groutSocketPath w
  unfold handleDelBody
  dsimp only
  rw [wpc_bind]
  apply wpc_interfaceList h
  · intro ifaces hperm
    dsimp only
    split
    case h_1 port hfound =>
      obtain ⟨hport, hname⟩ := findPortByName_some hfound
      rw [wpc_bind, ← hname]
      apply wpc_mono (wpc_deletePort h (hperm.subset hport) hname) (fun _ hw => hw)
      intro _ w' h'
      exact wpc_pruned_ipam h' _ fun _ _ hv => ⟨_, hv⟩
    case h_2 => exact wpc_pruned_ipam h _ fun _ _ hv => ⟨_, hv⟩
  · intro _
    exact ⟨h, h⟩

/-! ### GC -/

/-- The ports a GC may remove: members of the bridge that are not valid. -/
def StaleAt (conf : PluginConf) (w : World) (i : InterfaceInfo) : Prop :=
  ∃ b ∈ w.grout.ifaces, b.name = conf.bridge ∧ b.type = InterfaceType.bridge ∧
    isStale b.id conf.validNames i = true

/-- The reap loop removes stale interfaces, and sockets of interfaces that are gone. -/
theorem wpc_reapLoop {bridgeID : UInt16} {valid : List GoString}
    (hstale : ∀ i, isStale bridgeID valid i = true → stale i)
    (h : Pruned stale True conf.groutSocketPath w₀ w) (reaped : Bool) {ifaces : List InterfaceInfo}
    (hifaces : ifaces ⊆ w₀.grout.ifaces) :
  wpc (Env P) (Pruned stale True conf.groutSocketPath w₀)
    (reapLoop conf bridgeID valid reaped ifaces)
    (fun _ => Pruned stale True conf.groutSocketPath w₀) w
  := by
  induction ifaces generalizing w reaped with
  | nil => exact ⟨h, h⟩
  | cons i ifaces ih =>
      have hi : i ∈ w₀.grout.ifaces := hifaces List.mem_cons_self
      have hrest : ifaces ⊆ w₀.grout.ifaces := fun j hj => hifaces (List.mem_cons_of_mem _ hj)
      unfold reapLoop
      split
      case isTrue hi' =>
        rw [wpc_bind]
        apply wpc_interfaceDel h
        · intro links
          have h' := h.deleteStale hi (hstale i hi') links
          refine ⟨h', ?_⟩
          dsimp only
          rw [wpc_bind]
          apply wpc_mono (wpc_removeVhostSocket h' hi (hstale i hi') fun _ => by simp)
            (fun _ hw => hw)
          intro _ w'' h''
          exact ih h'' true hrest
        · intro _ _
          exact ih h reaped hrest
        · intro _ _ links
          exact ih (h.deleteStale hi (hstale i hi') links) reaped hrest
      case isFalse => exact ih h reaped hrest

/-- A GC removes members of the bridge that are not valid, their sockets, and a bridge
without members. -/
theorem wpc_handleGCBody (conf : PluginConf) (args : CmdArgs) (w : World) :
  wpc (Env P) (Pruned (StaleAt conf w) True conf.groutSocketPath w) (handleGCBody conf args)
    (fun _ => Pruned (StaleAt conf w) True conf.groutSocketPath w) w
  := by
  have h := Pruned.start (StaleAt conf w) True conf.groutSocketPath w
  unfold handleGCBody
  rw [wpc_bind]
  apply wpc_interfaceList h
  · intro ifaces hperm
    dsimp only
    split
    case h_1 => exact wpc_pruned_ipam h _ fun _ _ hv => ⟨_, hv⟩
    case h_2 bridgeID hfound =>
      obtain ⟨b, hb, hname, htype, rfl⟩ := findBridgeID_some hfound
      have hstale : ∀ i, isStale b.id conf.validNames i = true → StaleAt conf w i :=
        fun i hi => ⟨b, hperm.subset hb, hname, htype, hi⟩
      rw [wpc_bind]
      apply wpc_mono (wpc_reapLoop hstale h false hperm.subset) (fun _ hw => hw)
      intro reaped w' h'
      split
      · rw [wpc_bind]
        apply wpc_mono (wpc_gcBridgeIfEmpty h' b.id) (fun _ hw => hw)
        intro _ w'' h''
        exact wpc_pruned_ipam h'' _ fun _ _ hv => ⟨_, hv⟩
      · exact wpc_pruned_ipam h' _ fun _ _ hv => ⟨_, hv⟩
  · intro _
    exact ⟨h, h⟩

end

end GroutCni
