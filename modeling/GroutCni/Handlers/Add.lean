import GroutCni.Cni.Gateways
import GroutCni.Effect.Interp
import GroutCni.Handlers.Listing
import GroutCni.Node.World

/-!
# How far an ADD has come

Wherever a run of `HandleAdd` ends or is cut short, the node is at an `AddStage`: grout has
gained at most the bridge of the network and the port of the attachment, and nothing else
has changed but addresses of the bridge, the socket of the port and the reservation of the
attachment.
-/

namespace GroutCni

open Effect

/-- The node has come from `w₀` to `w` in an ADD that has added the bridge `b` and the port
`p`, if any. -/
structure AddStage (conf : PluginConf) (args : CmdArgs) (w₀ : World)
    (b p : Option InterfaceInfo) (w : World) : Prop where
  ifaces : w.grout.ifaces = w₀.grout.ifaces ++ b.toList ++ p.toList
  bridge : ∀ i ∈ b, i.name = conf.bridge ∧ i.type = InterfaceType.bridge ∧ i.domain = 0
  port : ∀ i ∈ p, i.name = args.attachment.portName ∧ i.type = InterfaceType.port ∧
    ∃ j ∈ w₀.grout.ifaces ++ b.toList, j.name = conf.bridge ∧ i.domain = j.id
  addrs_old : ∀ x ∈ w₀.grout.addrs, x ∈ w.grout.addrs
  addrs_new : ∀ x ∈ w.grout.addrs, x ∈ w₀.grout.addrs ∨
    ∃ j ∈ w₀.grout.ifaces ++ b.toList, j.name = conf.bridge ∧ j.id = x.1
  sockets : w.sockets = w₀.sockets ∨ p ≠ none ∧ conf.interfaceType = .virtio ∧
    w.sockets = w₀.sockets.insert (conf.socketPath args.attachment.portName)
  reservations : ∀ r, r ≠ reservationOf conf args →
    (r ∈ w.reservations ↔ r ∈ w₀.reservations)

/-- The node is at some stage of an ADD. -/
def Adding (conf : PluginConf) (args : CmdArgs) (w₀ w : World) : Prop :=
  ∃ b p, AddStage conf args w₀ b p w

namespace AddStage

variable {conf : PluginConf} {args : CmdArgs} {w₀ w w' : World} {b p : Option InterfaceInfo}

/-- Nothing has been added at the start. -/
theorem start (conf : PluginConf) (args : CmdArgs) (w : World) :
  AddStage conf args w none none w
  where
  ifaces := by simp
  bridge := by simp
  port := by simp
  addrs_old _ hx := hx
  addrs_new _ hx := .inl hx
  sockets := .inl rfl
  reservations _ _ := Iff.rfl

/-- Links do not matter. -/
theorem setLinks (h : AddStage conf args w₀ b p w) (links : List LinkState) :
  AddStage conf args w₀ b p { w with links }
  := { h with }

/-- The reservation of the attachment does not matter. -/
theorem setReservations (h : AddStage conf args w₀ b p w) (rs : List Reservation)
    (hrs : ∀ r, r ≠ reservationOf conf args → (r ∈ rs ↔ r ∈ w.reservations)) :
  AddStage conf args w₀ b p { w with reservations := rs }
  := { h with reservations := fun r hr => (hrs r hr).trans (h.reservations r hr) }

/-- Nothing that was there before is gone. -/
theorem mem (h : AddStage conf args w₀ b p w) {i : InterfaceInfo} (hi : i ∈ w₀.grout.ifaces) :
  i ∈ w.grout.ifaces
  := by
  rw [h.ifaces]
  exact List.mem_append_left _ (List.mem_append_left _ hi)

theorem mem_bridge (h : AddStage conf args w₀ b p w) {i : InterfaceInfo}
    (hi : i ∈ w₀.grout.ifaces ++ b.toList) :
  i ∈ w.grout.ifaces
  := by
  rw [h.ifaces]
  exact List.mem_append_left _ hi

theorem mem_port {i : InterfaceInfo} (h : AddStage conf args w₀ b (some i) w) :
  i ∈ w.grout.ifaces
  := by
  rw [h.ifaces]
  exact List.mem_append_right _ (List.mem_singleton_self i)

/-- An interface was there before, is the bridge, or is the port. -/
theorem mem_cases (h : AddStage conf args w₀ b p w) {i : InterfaceInfo}
    (hi : i ∈ w.grout.ifaces) :
  i ∈ w₀.grout.ifaces ∨ i ∈ b ∨ i ∈ p
  := by
  rw [h.ifaces] at hi
  simpa [or_assoc] using hi

/-- An interface that was there before and is not the bridge has the addresses it had. -/
theorem addrs_eq (h : AddStage conf args w₀ b p w) {i : InterfaceInfo}
    (hi : i ∈ w₀.grout.ifaces) (hname : i.name ≠ conf.bridge) (addr : IPNet) :
  (i.id, addr) ∈ w.grout.addrs ↔ (i.id, addr) ∈ w₀.grout.addrs
  := by
  constructor
  · intro hx
    rcases h.addrs_new _ hx with hx | ⟨j, hj, hjname, hjid⟩
    · exact hx
    · rw [w.grout.eq_of_id (h.mem_bridge hj) (h.mem hi) hjid] at hjname
      exact absurd hjname hname
  · apply h.addrs_old

/-- The bridge is added. -/
theorem addBridge (h : AddStage conf args w₀ none none w) {i : InterfaceInfo} {g : Grout}
    (links : List LinkState)
    (hi : i.name = conf.bridge ∧ i.type = InterfaceType.bridge ∧ i.domain = 0)
    (hg : w.grout.insert? i = some g) :
  AddStage conf args w₀ (some i) none { w with grout := g, links }
  := by
  obtain ⟨-, hifaces, haddrs⟩ := Grout.insert?_eq_some.mp hg
  constructor
  · simpa [h.ifaces] using hifaces
  · rintro _ ⟨⟩
    exact hi
  · simp
  · simpa [haddrs] using h.addrs_old
  · intro x hx
    rw [show _ = _ from haddrs] at hx
    apply (h.addrs_new x hx).imp_right
    rintro ⟨j, hj, hjx⟩
    exact ⟨j, by simpa using .inl (by simpa using hj), hjx⟩
  · simpa using h.sockets
  · exact h.reservations

/-- The port is added. -/
theorem addPort (h : AddStage conf args w₀ b none w) {j : InterfaceInfo} {id : UInt16}
    {g : Grout} (links : List LinkState) (hj : j ∈ w.grout.ifaces)
    (hname : j.name = conf.bridge)
    (hg : w.grout.insert? ((portRequest conf args j.id).info id) = some g) :
  AddStage conf args w₀ b (some ((portRequest conf args j.id).info id))
    { w with grout := g, links, sockets := w.socketsWith (portRequest conf args j.id) }
  := by
  obtain ⟨-, hifaces, haddrs⟩ := Grout.insert?_eq_some.mp hg
  have hj' : j ∈ w₀.grout.ifaces ++ b.toList := by simpa [h.ifaces] using hj
  constructor
  · simpa [h.ifaces] using hifaces
  · exact h.bridge
  · rintro _ ⟨⟩
    exact ⟨rfl, rfl, j, hj', hname, rfl⟩
  · simpa [haddrs] using h.addrs_old
  · simpa [haddrs] using h.addrs_new
  · have hsock : w.sockets = w₀.sockets := by simpa using h.sockets
    simp only [World.socketsWith, hsock]
    split
    case isTrue => exact .inl rfl
    case isFalse hp =>
      refine .inr ⟨by simp, ?_⟩
      unfold portRequest at hp ⊢
      cases hty : conf.interfaceType with
      | tap => simp [hty] at hp
      | virtio => exact ⟨rfl, by rfl⟩
  · exact h.reservations

/-- An address is assigned to the bridge. -/
theorem assign (h : AddStage conf args w₀ b none w) {j : InterfaceInfo} {addr : IPNet}
    {g : Grout} (hj : j ∈ w.grout.ifaces) (hname : j.name = conf.bridge)
    (hg : w.grout.assign? j.id addr = some g) :
  AddStage conf args w₀ b none { w with grout := g }
  := by
  obtain ⟨hifaces, haddrs⟩ := Grout.assign?_eq_some hg
  have hj' : j ∈ w₀.grout.ifaces ++ b.toList := by simpa [h.ifaces] using hj
  constructor
  · rw [← h.ifaces]
    exact hifaces
  · exact h.bridge
  · simp
  · intro x hx
    simp only [haddrs]
    apply List.mem_insert_of_mem (h.addrs_old x hx)
  · intro x hx
    simp only [haddrs] at hx
    rcases List.mem_insert_iff.mp hx with rfl | hx
    · exact .inr ⟨j, hj', hname, rfl⟩
    · apply h.addrs_new x hx
  · exact h.sockets
  · exact h.reservations

/-- The port of a TAP is deleted again. -/
theorem deletePort {i : InterfaceInfo} (h : AddStage conf args w₀ b (some i) w)
    (htap : conf.interfaceType = .tap) (links : List LinkState) :
  AddStage conf args w₀ b none { w with grout := w.grout.delete i.id, links }
  := by
  have hids : (w₀.grout.ifaces ++ b.toList ++ [i]).map (·.id) |>.Nodup := by
    simpa [h.ifaces] using w.grout.ids_nodup
  have hne : ∀ j ∈ w₀.grout.ifaces ++ b.toList, j.id ≠ i.id := by
    rw [List.map_append, List.nodup_append] at hids
    intro j hj
    apply hids.2.2 _ (List.mem_map_of_mem hj)
    simp
  constructor
  · have hkeep : (w₀.grout.ifaces ++ b.toList).filter (fun j => j.id ≠ i.id)
        = w₀.grout.ifaces ++ b.toList := by
      apply List.filter_eq_self.mpr
      simpa using hne
    rw [Grout.delete_ifaces, h.ifaces, List.filter_append, hkeep]
    simp
  · exact h.bridge
  · simp
  · intro x hx
    apply List.mem_filter.mpr ⟨h.addrs_old x hx, ?_⟩
    obtain ⟨j, hj, hjx⟩ := List.mem_map.mp (w₀.grout.owned x hx)
    have := hne j (List.mem_append_left _ hj)
    simpa [← hjx] using this
  · intro x hx
    apply h.addrs_new x (List.mem_of_mem_filter hx)
  · simpa [htap] using h.sockets
  · exact h.reservations

end AddStage

/-! ### What an ADD returns -/

/-- From the bridge on, an ADD returns an error, panics in `gatewaysFor`, or ends in
`finishAdd`. -/
theorem attach_returns {Q : Reply → Prop} {conf : PluginConf} {args : CmdArgs} {result : Result}
    (herr : ∀ err, Q (.error err)) (hpanic : gatewaysFor result = none → Q .panic)
    (hfinish : ∀ ifaceID, (finishAdd conf args result ifaceID).Returns Q) :
  (attach conf args result).Returns Q
  := by
  apply (Program.returns_true _).bind
  rintro (_ | bridgeID) -
  · apply Program.returns_bind_pure
    apply herr
  dsimp only
  unfold attachTo
  split
  case h_1 hnone => exact hpanic hnone
  apply (Program.returns_true _).bind
  rintro (_ | _) -
  · apply Program.returns_bind_pure
    apply herr
  apply (Program.returns_true _).bind
  rintro (_ | ifaceID) -
  · apply Program.returns_bind_pure
    apply herr
  apply hfinish

/-! ### The parts of an ADD -/

section

variable {P : Policy Op} {conf : PluginConf} {args : CmdArgs} {w₀ w : World}
  {b p : Option InterfaceInfo}

section

variable {C : World → Prop} {Q : Except GoError UInt16 → World → Prop} {name : GoString}

/-- After a failed create, an interface of the name may be found in the table as it is. -/
theorem wpc_findAfterConflict (ifaces : List InterfaceInfo) (err : GoError) (hC : C w)
    (hfound : ∀ i ∈ w.grout.ifaces, i.name = name → Q (.ok i.id) w)
    (herr : ∀ e, Q (.error e) w) :
  wpc (Env P) C (findAfterConflict ifaces name err) Q w
  := by
  unfold findAfterConflict
  rw [wpc_bind]
  apply wpc_interfaceList hC
  · intro ifaces2 hperm
    dsimp only
    split
    case h_1 id hid =>
      obtain ⟨i, hi, hname, rfl⟩ := findByName_some hid
      exact ⟨hC, hfound i (hperm.subset hi) hname⟩
    case h_2 => exact ⟨hC, herr _⟩
  · intro e
    exact ⟨hC, herr _⟩

/-- An interface of the name is found or the bridge is made; if the create is lost, an interface
of the name may be found afterwards. -/
theorem wpc_ensureBridge (hC : C w)
    (hfound : ∀ i ∈ w.grout.ifaces, i.name = name → Q (.ok i.id) w)
    (herr : ∀ e, Q (.error e) w)
    (hmade : ∀ id grout links,
      w.grout.insert? ⟨id, InterfaceType.bridge, name, 0⟩ = some grout →
      C { w with grout, links } ∧ Q (.ok id) { w with grout, links })
    (hlost : P (.interfaceAdd { name, type := InterfaceType.bridge }) .lost = true →
      ∀ id grout links, w.grout.insert? ⟨id, InterfaceType.bridge, name, 0⟩ = some grout →
      (∀ i ∈ grout.ifaces, i.name = name → Q (.ok i.id) { w with grout, links }) ∧
      ∀ e, Q (.error e) { w with grout, links }) :
  wpc (Env P) C (ensureBridge name) Q w
  := by
  unfold ensureBridge
  rw [wpc_bind]
  apply wpc_interfaceList hC
  · intro ifaces hperm
    dsimp only
    split
    case h_1 id hid =>
      obtain ⟨i, hi, hname, -, rfl⟩ := findBridgeID_some hid
      exact ⟨hC, hfound i (hperm.subset hi) hname⟩
    case h_2 =>
      rw [wpc_bind]
      apply wpc_interfaceAdd hC
      · intro id grout links hg
        obtain ⟨hC', hQ⟩ := hmade id grout links hg
        exact ⟨hC', hC', hQ⟩
      · intro e
        exact wpc_findAfterConflict ifaces e hC hfound herr
      · intro hl e id grout links hg
        obtain ⟨hfound', herr'⟩ := hlost hl id grout links hg
        exact wpc_findAfterConflict ifaces e (hmade id grout links hg).1 hfound' herr'
  · intro e
    exact ⟨hC, herr _⟩

end

/-- What is known when `ensureBridge` returns: at most the bridge has been added, and the id
returned is that of an interface of its name. -/
def BridgeReady (conf : PluginConf) (args : CmdArgs) (w₀ : World) (r : Except GoError UInt16)
    (w : World) : Prop :=
  ∃ b, AddStage conf args w₀ b none w ∧
    ∀ id, r = .ok id → ∃ j ∈ w.grout.ifaces, j.name = conf.bridge ∧ j.id = id

theorem BridgeReady.error (h : AddStage conf args w₀ b none w) (e : GoError) :
  BridgeReady conf args w₀ (.error e) w
  := ⟨b, h, by simp⟩

theorem BridgeReady.ok (h : AddStage conf args w₀ b none w) {j : InterfaceInfo}
    (hj : j ∈ w.grout.ifaces) (hname : j.name = conf.bridge) :
  BridgeReady conf args w₀ (.ok j.id) w
  := by
  refine ⟨b, h, ?_⟩
  rintro _ ⟨⟩
  exact ⟨j, hj, hname, rfl⟩

/-- `ensureBridge` adds at most the bridge, and returns the id of an interface of its
name. -/
theorem wpc_ensureBridge_ready (h : AddStage conf args w₀ none none w) :
  wpc (Env P) (Adding conf args w₀) (ensureBridge conf.bridge) (BridgeReady conf args w₀) w
  := by
  apply wpc_ensureBridge ⟨_, _, h⟩
  · intro i hi hname
    exact .ok h hi hname
  · intro e
    exact .error h e
  · intro id grout links hg
    have h' := h.addBridge links ⟨rfl, rfl, rfl⟩ hg
    exact ⟨⟨_, _, h'⟩, .ok h' (Grout.mem_insert? hg) rfl⟩
  · intro _ id grout links hg
    have h' := h.addBridge links ⟨rfl, rfl, rfl⟩ hg
    exact ⟨fun i hi hname => .ok h' hi hname, fun e => .error h' e⟩

/-- Releasing the reservation changes nothing else. -/
theorem wpc_ipamDel (h : AddStage conf args w₀ b p w) :
  wpc (Env P) (Adding conf args w₀) (ipamDel conf args)
    (fun _ w' => AddStage conf args w₀ b p w') w
  := by
  have h' := h.setReservations (w.reservations.filter (· ≠ reservationOf conf args))
    (by simp +contextual)
  unfold ipamDel
  rw [wpc_bind]
  apply wpc_perform ⟨_, _, h⟩
  · rintro _ _ rfl
    exact ⟨⟨_, _, h'⟩, ⟨_, _, h'⟩, h'⟩
  · intro _ _
    exact ⟨⟨_, _, h⟩, h⟩
  · rintro _ _ _ _ rfl
    exact ⟨⟨_, _, h'⟩, h'⟩

/-- The loop over the gateways keeps the addresses it finds and, if it comes to its end,
assigns every gateway. -/
theorem wpc_assignGateways (h : AddStage conf args w₀ b none w) {j : InterfaceInfo}
    (hj : j ∈ w.grout.ifaces) (hname : j.name = conf.bridge) (gws : List IPNet) :
  wpc (Env P) (Adding conf args w₀) (assignGateways j.id gws)
    (fun r w' => AddStage conf args w₀ b none w' ∧ w'.grout.ifaces = w.grout.ifaces ∧
      (∀ x ∈ w.grout.addrs, x ∈ w'.grout.addrs) ∧
      (r = .ok () → ∀ gw ∈ gws, (j.id, gw) ∈ w'.grout.addrs)) w
  := by
  induction gws generalizing w with
  | nil => exact ⟨⟨_, _, h⟩, h, rfl, by simp⟩
  | cons gw gws ih =>
      unfold assignGateways
      rw [wpc_bind]
      apply wpc_addressAdd ⟨_, _, h⟩
      · intro g hg
        obtain ⟨hifaces, haddrs⟩ := Grout.assign?_eq_some hg
        have h' := h.assign hj hname hg
        refine ⟨⟨_, _, h'⟩, ?_⟩
        apply wpc_mono (ih h' (by rwa [hifaces])) (fun _ hw => hw)
        rintro r w' ⟨hw', hw'i, hold, hnew⟩
        refine ⟨hw', by rw [hw'i, hifaces], ?_, ?_⟩
        · intro x hx
          apply hold
          simp only [haddrs]
          apply List.mem_insert_of_mem hx
        · intro hr x hx
          rcases List.mem_cons.mp hx with rfl | hx
          · apply hold
            simp [haddrs]
          · apply hnew hr x hx
      · intro e
        exact ⟨⟨_, _, h⟩, h, rfl, by simp⟩
      · intro _ e g hg
        obtain ⟨hifaces, haddrs⟩ := Grout.assign?_eq_some hg
        have h' := h.assign hj hname hg
        refine ⟨⟨_, _, h'⟩, h', hifaces, ?_, by simp⟩
        intro x hx
        simp only [haddrs]
        apply List.mem_insert_of_mem hx

/-- No call is lost, and no delete call fails. -/
def CleanRollback (P : Policy Op) : Prop :=
  (∀ o, P o .lost = false) ∧ ∀ id, P (.interfaceDel id) .fail = false

/-- What is known when the part of an ADD that creates the port returns.  If it fails, the
port is there only if a call was lost. -/
def PortReady (P : Policy Op) (conf : PluginConf) (args : CmdArgs) (w₀ : World)
    (b : Option InterfaceInfo) (bridgeID : UInt16) : Except GoError UInt16 → World → Prop
  | .ok id, w => ∃ i, AddStage conf args w₀ b (some i) w ∧ i.id = id ∧ i.domain = bridgeID
  | .error _, w => ∃ p, AddStage conf args w₀ b p w ∧ (CleanRollback P → p = none)

theorem wpc_makeSocketDir (h : AddStage conf args w₀ b p w) (sockPath : GoString) :
  wpc (Env P) (Adding conf args w₀) (makeSocketDir conf sockPath) (fun _ w' => w' = w) w
  := by
  unfold makeSocketDir
  split
  · exact ⟨⟨_, _, h⟩, rfl⟩
  · apply wpc_perform (o := .mkdirAll (Filepath.dir sockPath)) ⟨_, _, h⟩
    · rintro _ _ rfl
      exact ⟨⟨_, _, h⟩, rfl⟩
    · intro _ _
      rfl
    · rintro _ _ _ _ rfl
      rfl

/-- The part of an ADD that creates the port adds it as a member of the bridge. -/
theorem wpc_addPort (h : AddStage conf args w₀ b none w) {j : InterfaceInfo}
    (hj : j ∈ w.grout.ifaces) (hname : j.name = conf.bridge) :
  wpc (Env P) (Adding conf args w₀) (addPort conf args j.id)
    (fun r w' => w'.grout.addrs = w.grout.addrs ∧ PortReady P conf args w₀ b j.id r w') w
  := by
  unfold addPort
  rw [wpc_bind]
  apply wpc_mono (wpc_makeSocketDir h _) (fun _ hw => hw)
  rintro (e | _) _ rfl
  · exact ⟨⟨_, _, h⟩, rfl, _, h, fun _ => rfl⟩
  dsimp only
  rw [wpc_bind]
  apply wpc_interfaceAdd ⟨_, _, h⟩
  · intro id g links hg
    have h' := h.addPort links hj hname hg
    exact ⟨⟨_, _, h'⟩, ⟨_, _, h'⟩, (Grout.insert?_eq_some.mp hg).2.2, _, h', rfl, rfl⟩
  · intro e
    exact ⟨⟨_, _, h⟩, rfl, _, h, fun _ => rfl⟩
  · intro hl e id g links hg
    have h' := h.addPort links hj hname hg
    refine ⟨⟨_, _, h'⟩, (Grout.insert?_eq_some.mp hg).2.2, _, h', ?_⟩
    intro hclean
    simp [hclean.1] at hl

theorem setupPod_uses (conf : PluginConf) (args : CmdArgs) (podRes : Result) :
  (setupPod conf args podRes).Uses Op.IsNetlink
  := by
  apply (moveLinkToNamespace_uses _ _).bind
  rintro (_ | _)
  · trivial
  apply (configurePodInterface_uses _ _ _ _ _).bind
  rintro (_ | _) <;> trivial

/-- The rollback of a TAP removes the port, unless a call fails or is lost. -/
theorem wpc_cleanupAfterAddFailure {i : InterfaceInfo}
    (h : AddStage conf args w₀ b (some i) w) (htap : conf.interfaceType = .tap) :
  wpc (Env P) (Adding conf args w₀) (cleanupAfterAddFailure conf args i.id)
    (fun _ w' => ∃ p, AddStage conf args w₀ b p w' ∧ (CleanRollback P → p = none)) w
  := by
  have hrelease : ∀ {p w}, AddStage conf args w₀ b p w → (CleanRollback P → p = none) →
      wpc (Env P) (Adding conf args w₀) (ipamDel conf args)
        (fun _ w' => ∃ p, AddStage conf args w₀ b p w' ∧ (CleanRollback P → p = none)) w :=
    fun h hp => wpc_mono (wpc_ipamDel h) (fun _ hw => hw) (fun _ _ h' => ⟨_, h', hp⟩)
  unfold cleanupAfterAddFailure
  rw [wpc_bind]
  apply wpc_interfaceDel ⟨_, _, h⟩
  · intro links
    have h' := h.deletePort htap links
    exact ⟨⟨_, _, h'⟩, hrelease h' fun _ => rfl⟩
  · intro hf e
    apply hrelease h
    intro hclean
    simp [hclean.2] at hf
  · intro _ e links
    exact hrelease (h.deletePort htap links) fun _ => rfl

/-! ### Results that do not panic -/

/-- Every entry of the IP list is there and has a well-formed address. -/
def Result.WellFormed (result : Result) : Prop :=
  ∀ ipc ∈ result.ips, ∃ ip, ipc = some ip ∧ ip.address.WellFormed

instance (result : Result) : Decidable result.WellFormed :=
  decidable_of_iff (∀ ipc ∈ result.ips, ∃ ip ∈ ipc, ip.address.WellFormed) Iff.rfl

theorem Result.WellFormed.completes {result : Result} (h : result.WellFormed) :
  result.Completes
  := by
  have hnil : none ∉ result.ips := by
    intro hmem
    obtain ⟨ip, hip, -⟩ := h none hmem
    cases hip
  obtain ⟨ips, hips⟩ := exists_eq_map_some hnil
  refine ⟨ips, hips, ?_⟩
  intro ip hip _
  have hmem : some ip ∈ result.ips := by
    rw [hips]
    exact List.mem_map_of_mem (mem_of_mem_firstOfFamilies hip)
  obtain ⟨ip', heq, hwell⟩ := h (some ip) hmem
  cases heq
  exact hwell.maskable

/-! ### The whole ADD -/

/-- What is known when an ADD returns, given the IPAM result and the id of the bridge: after
an error the port is there only if a call failed or was lost in the rollback; after a success
the port is there, and the bridge it is a member of holds the gateways. -/
def AddDone (P : Policy Op) (conf : PluginConf) (args : CmdArgs) (w₀ : World)
    (cniResult : Result) (bridgeID : UInt16) : Reply → World → Prop
  | .ok _, w => ∃ b i gws, AddStage conf args w₀ b (some i) w ∧ i.domain = bridgeID ∧
      gatewaysFor cniResult = some gws ∧ ∀ gw ∈ gws, (bridgeID, gw) ∈ w.grout.addrs
  | .error _, w => ∃ b p, AddStage conf args w₀ b p w ∧ (CleanRollback P → p = none)
  | .panic, w => Adding conf args w₀ w ∧ ¬ cniResult.WellFormed

/-- What is known when the port has been created and the ADD returns. -/
theorem wpc_finishAdd {i : InterfaceInfo} (h : AddStage conf args w₀ b (some i) w)
    (cniResult : Result) :
  wpc (Env P) (Adding conf args w₀) (finishAdd conf args cniResult i.id)
    (fun r w' =>
      match r with
      | .ok _ => AddStage conf args w₀ b (some i) w' ∧ w'.grout = w.grout
      | .error _ => ∃ p, AddStage conf args w₀ b p w' ∧ (CleanRollback P → p = none)
      | .panic => Adding conf args w₀ w' ∧ ¬ cniResult.WellFormed) w
  := by
  have hw : Adding conf args w₀ w := ⟨_, _, h⟩
  unfold finishAdd
  split
  case h_1 =>
    split
    case h_1 hnone => exact ⟨hw, hw, fun hwf => hwf.completes.vhostResult_ne_none _ _ hnone⟩
    case h_2 => exact ⟨hw, h, rfl⟩
  case h_2 htap =>
    split
    case h_1 hnone => exact ⟨hw, hw, fun hwf => hwf.completes.podResult_ne_none _ hnone⟩
    case h_2 podRes _ =>
      split
      · exact ⟨hw, h, rfl⟩
      have hpod : wpc (Env P)
          (fun w' => AddStage conf args w₀ b (some i) w' ∧ w'.grout = w.grout)
          (setupPod conf args podRes) (fun _ w' => _) w :=
        wpc_netlink (setupPod_uses conf args podRes)
          (fun w' links hw' => ⟨hw'.1.setLinks links, hw'.2⟩) ⟨h, rfl⟩
      rw [wpc_bind]
      apply wpc_mono hpod (fun w' hw' => ⟨_, _, hw'.1⟩)
      rintro (e | podRes') w' ⟨h', hgrout⟩
      · dsimp only
        rw [wpc_bind]
        apply wpc_mono (wpc_cleanupAfterAddFailure h' htap) (fun _ hw => hw)
        rintro _ w'' ⟨p, h'', hp⟩
        exact ⟨⟨_, _, h''⟩, p, h'', hp⟩
      · exact ⟨⟨_, _, h'⟩, h', hgrout⟩

/-- An ADD that gives up releases the reservation. -/
theorem wpc_release {cniResult : Result} (h : AddStage conf args w₀ b p w)
    (hp : CleanRollback P → p = none) (bridgeID : UInt16) (err : GoError) :
  wpc (Env P) (Adding conf args w₀) (do ipamDel conf args; return .error err)
    (AddDone P conf args w₀ cniResult bridgeID) w
  := by
  rw [wpc_bind]
  apply wpc_mono (wpc_ipamDel h) (fun _ hw => hw)
  intro _ w' h'
  exact ⟨⟨_, _, h'⟩, _, _, h', hp⟩

/-- What is known when the part of an ADD after the bridge returns. -/
theorem wpc_attachTo (h : AddStage conf args w₀ b none w) {j : InterfaceInfo}
    (hj : j ∈ w.grout.ifaces) (hname : j.name = conf.bridge) (cniResult : Result) :
  wpc (Env P) (Adding conf args w₀) (attachTo conf args cniResult j.id)
    (AddDone P conf args w₀ cniResult j.id) w
  := by
  unfold attachTo
  split
  case h_1 hnone => exact ⟨⟨_, _, h⟩, ⟨_, _, h⟩, fun hwf =>
    (gatewaysFor_ne_none_iff _).mpr hwf.completes hnone⟩
  case h_2 gws hgws =>
    rw [wpc_bind]
    apply wpc_mono (wpc_assignGateways h hj hname gws) (fun _ hw => hw)
    rintro (err | _) w₁ ⟨h₁, hifaces, -, hnew⟩
    · exact wpc_release h₁ (fun _ => rfl) _ _
    dsimp only
    rw [wpc_bind]
    apply wpc_mono (wpc_addPort h₁ (by rwa [hifaces]) hname) (fun _ hw => hw)
    rintro (err | ifaceID) w₂ ⟨haddrs, hport⟩
    · obtain ⟨p, h₂, hp⟩ := hport
      exact wpc_release h₂ hp _ _
    · obtain ⟨i, h₂, rfl, hdom⟩ := hport
      apply wpc_mono (wpc_finishAdd h₂ cniResult) (fun _ hw => hw)
      rintro (_ | _ | _) w₃ hw₃
      · obtain ⟨h₃, hgrout⟩ := hw₃
        refine ⟨b, i, gws, h₃, hdom, hgws, ?_⟩
        intro gw hgw
        rw [hgrout, haddrs]
        exact hnew rfl gw hgw
      · obtain ⟨p, h₃, hp⟩ := hw₃
        exact ⟨b, p, h₃, hp⟩
      · exact hw₃

/-- What is known when the part of an ADD from the bridge on returns. -/
theorem wpc_attach (h : AddStage conf args w₀ none none w) (cniResult : Result) :
  wpc (Env P) (Adding conf args w₀) (attach conf args cniResult)
    (fun r w' => ∃ bridgeID, AddDone P conf args w₀ cniResult bridgeID r w') w
  := by
  unfold attach
  rw [wpc_bind]
  apply wpc_mono (wpc_ensureBridge_ready h) (fun _ hw => hw)
  rintro (err | bridgeID) w₁ ⟨b, h₁, hready⟩
  · apply wpc_mono (wpc_release h₁ (fun _ => rfl) 0 _) (fun _ hw => hw)
    intro r w' hw'
    exact ⟨0, hw'⟩
  · obtain ⟨j, hj, hname, rfl⟩ := hready bridgeID rfl
    apply wpc_mono (wpc_attachTo h₁ hj hname cniResult) (fun _ hw => hw)
    intro r w' hw'
    exact ⟨j.id, hw'⟩

/-- The node wherever a run of the body of `HandleAdd` is cut short, and when it returns. -/
theorem wpc_handleAddBody (conf : PluginConf) (args : CmdArgs) (w : World) :
  wpc (Env P) (Adding conf args w) (handleAddBody conf args)
    (fun r w' => (∃ e, r = .error e ∧ AddStage conf args w none none w') ∨
      ∃ cniResult bridgeID, AddDone P conf args w cniResult bridgeID r w') w
  := by
  have h := AddStage.start conf args w
  have h' := h.setReservations (w.reservations.insert (reservationOf conf args))
    (by simp +contextual)
  unfold handleAddBody delegateIPAMAdd
  rw [wpc_bind, wpc_bind]
  apply wpc_perform (o := .ipamAdd conf args) ⟨_, _, h⟩
  · rintro result _ rfl
    refine ⟨⟨_, _, h'⟩, ⟨_, _, h'⟩, ?_⟩
    dsimp only
    split
    case h_1 => exact ⟨⟨_, _, h'⟩, .inl ⟨_, rfl, h'⟩⟩
    case h_2 cniResult _ =>
      apply wpc_mono (wpc_attach h' cniResult) (fun _ hw => hw)
      intro r w' hw'
      exact .inr ⟨cniResult, hw'⟩
  · intro _ e
    exact ⟨⟨_, _, h⟩, ⟨_, _, h⟩, .inl ⟨_, rfl, h⟩⟩
  · rintro _ e _ _ rfl
    exact ⟨⟨_, _, h'⟩, ⟨_, _, h'⟩, .inl ⟨_, rfl, h'⟩⟩

end

end GroutCni
