import GroutCni.Handlers.Add
import GroutCni.Handlers.Exact
import GroutCni.Node.Script

/-!
# A DEL undoes an ADD

An ADD that succeeds, whatever happens to its calls, and a DEL after it leave the node as it was,
if the bridge of the network was not there before (`add_del_restores`).  If it was there, the DEL
also deletes it where the port was its only member, and otherwise leaves the gateways on it.
-/

namespace GroutCni

open Effect

/-- Every interface is on its own or a member of an interface of the table. -/
def Grout.DomainsExist (g : Grout) : Prop :=
  ∀ i ∈ g.ifaces, i.domain ≠ 0 → ∃ j ∈ g.ifaces, j.id = i.domain

instance (g : Grout) : Decidable g.DomainsExist :=
  inferInstanceAs (Decidable (∀ _ ∈ _, _))

section

variable {conf : PluginConf} {args : CmdArgs} {w₀ w : World} {b : Option InterfaceInfo}
  {i j : InterfaceInfo}

/-- Without the port, the table is as before, with the bridge. -/
theorem AddStage.delete_port (h : AddStage conf args w₀ b (some i) w) :
  (w.grout.delete i.id).ifaces = w₀.grout.ifaces ++ b.toList
  := by
  have hnodup := w.grout.ids_nodup
  rw [h.ifaces, List.map_append, List.nodup_append] at hnodup
  obtain ⟨-, -, hdisjoint⟩ := hnodup
  rw [Grout.delete_ifaces, h.ifaces, List.filter_append, List.filter_eq_self.mpr]
  · simp
  · intro k hk
    have hne : k.id ≠ i.id := hdisjoint _ (List.mem_map_of_mem hk) _ (by simp)
    simpa using hne

/-- The bridge that the port is a member of was there before or has been added. -/
theorem AddStage.bridge_cases (h : AddStage conf args w₀ b (some i) w) :
  (b = none ∧ ∃ j ∈ w₀.grout.ifaces, j.name = conf.bridge ∧ i.domain = j.id) ∨
  ∃ j, b = some j ∧ i.domain = j.id ∧ ∀ k ∈ w₀.grout.ifaces, k.name ≠ conf.bridge
  := by
  obtain ⟨-, -, j, hj, hname, hdomain⟩ := h.port i rfl
  -- The bridge is added only if no interface has its name.
  have hfresh : ∀ k, b = some k → ∀ k' ∈ w₀.grout.ifaces, k'.name ≠ conf.bridge := by
    rintro k rfl k' hk' hname'
    have hnodup := w.grout.names_nodup
    rw [h.ifaces, List.map_append, List.map_append] at hnodup
    have hdisjoint := (List.nodup_append.mp (List.nodup_append.mp hnodup).1).2.2
    apply hdisjoint _ (List.mem_map_of_mem hk') k.name (by simp)
    rw [hname', (h.bridge k rfl).1]
  cases b with
  | none => exact .inl ⟨rfl, j, by simpa using hj, hname, hdomain⟩
  | some k =>
      rcases List.mem_append.mp hj with hj | hj
      · exact absurd hname (hfresh k rfl j hj)
      · cases List.mem_singleton.mp hj
        exact .inr ⟨j, rfl, hdomain, hfresh j rfl⟩

/-- The same interfaces with the same addresses. -/
structure Grout.Same (g g' : Grout) : Prop where
  ifaces : g'.ifaces = g.ifaces
  addrs : ∀ x, x ∈ g'.addrs ↔ x ∈ g.addrs

/-- The port and the bridge are gone, and nothing else is. -/
theorem AddStage.undone_new (h : AddStage conf args w₀ (some j) (some i) w)
    (hdomain : i.domain = j.id) (hdomains : w₀.grout.DomainsExist)
    (hfresh : ∀ k ∈ w₀.grout.ifaces, k.name ≠ conf.bridge) :
  w₀.grout.Same ((w.grout.delete i.id).collect i.domain)
  := by
  obtain ⟨hname, htype, hdomain₀⟩ := h.bridge j rfl
  have hifaces : (w.grout.delete i.id).ifaces = w₀.grout.ifaces ++ [j] := h.delete_port
  have hj : j ∈ (w.grout.delete i.id).ifaces := by
    rw [hifaces]
    exact List.mem_append_right _ (List.mem_singleton_self j)
  have hids : ∀ k ∈ w₀.grout.ifaces, k.id ≠ j.id := by
    intro k hk hid
    have hk' : k ∈ (w.grout.delete i.id).ifaces := by
      rw [hifaces]
      exact List.mem_append_left _ hk
    rw [(w.grout.delete i.id).eq_of_id hk' hj hid] at hk
    exact hfresh j hk hname
  have hid₀ : j.id ≠ 0 := (w.grout.delete i.id).id_ne_zero j hj
  have hcollectable : (w.grout.delete i.id).Collectable j.id := by
    refine ⟨⟨j, hj, rfl, htype⟩, ?_⟩
    rw [hifaces, List.forall_mem_append, List.forall_mem_singleton, hdomain₀]
    refine ⟨?_, hid₀.symm⟩
    intro k hk hkj
    obtain ⟨m, hm, hmk⟩ := hdomains k hk (hkj ▸ hid₀)
    exact hids m hm (hmk.trans hkj)
  rw [hdomain, Grout.collect, if_pos hcollectable]
  constructor
  · rw [Grout.delete_ifaces, hifaces, List.filter_append, List.filter_eq_self.mpr]
    · simp
    · intro k hk
      simpa using hids k hk
  · intro x
    rw [Grout.mem_delete_addrs, Grout.mem_delete_addrs]
    constructor
    · rintro ⟨⟨hx, -⟩, hxj⟩
      rcases h.addrs_new x hx with hx | ⟨k, hk, hkname, hkx⟩
      · exact hx
      · rcases List.mem_append.mp hk with hk | hk
        · exact absurd hkname (hfresh k hk)
        · cases List.mem_singleton.mp hk
          exact absurd hkx.symm hxj
    · intro hx
      obtain ⟨k, hk, hkx⟩ := List.mem_map.mp (w₀.grout.owned x hx)
      have hk' : k ∈ (w.grout.delete i.id).ifaces := by
        rw [hifaces]
        exact List.mem_append_left _ hk
      refine ⟨⟨h.addrs_old x hx, ?_⟩, ?_⟩
      · rw [← hkx]
        exact (Grout.mem_delete.mp hk').2
      · rw [← hkx]
        exact hids k hk

theorem Grout.collect_ifaces_congr {g g' : Grout} (h : g.ifaces = g'.ifaces) (id : UInt16) :
  (g.collect id).ifaces = (g'.collect id).ifaces
  := by
  have hiff : g.Collectable id ↔ g'.Collectable id := by
    unfold Grout.Collectable
    rw [h]
  unfold Grout.collect
  by_cases hc : g.Collectable id
  · rw [if_pos hc, if_pos (hiff.mp hc), Grout.delete_ifaces, Grout.delete_ifaces, h]
  · rw [if_neg hc, if_neg (mt hiff.mpr hc), h]

/-- The port is gone, and so is the bridge if it has no members left; only the bridge may have
new addresses. -/
theorem AddStage.undone_old (h : AddStage conf args w₀ none (some i) w)
    (hj : j ∈ w₀.grout.ifaces) (hname : j.name = conf.bridge) (hdomain : i.domain = j.id) :
  ((w.grout.delete i.id).collect i.domain).ifaces = (w₀.grout.collect j.id).ifaces ∧
    ∀ x, x.1 ≠ j.id →
      (x ∈ ((w.grout.delete i.id).collect i.domain).addrs ↔ x ∈ w₀.grout.addrs)
  := by
  have hifaces : (w.grout.delete i.id).ifaces = w₀.grout.ifaces := by simpa using h.delete_port
  rw [hdomain]
  refine ⟨Grout.collect_ifaces_congr hifaces j.id, ?_⟩
  intro x hxj
  rw [Grout.mem_collect_addrs, Grout.mem_delete_addrs]
  constructor
  · rintro ⟨⟨hx, -⟩, -⟩
    rcases h.addrs_new x hx with hx | ⟨k, hk, hkname, hkx⟩
    · exact hx
    · have hk' : k ∈ w₀.grout.ifaces := by simpa using hk
      rw [w₀.grout.eq_of_name hk' hj (hkname.trans hname.symm)] at hkx
      exact absurd hkx.symm hxj
  · intro hx
    obtain ⟨k, hk, hkx⟩ := List.mem_map.mp (w₀.grout.owned x hx)
    rw [← hifaces] at hk
    refine ⟨⟨h.addrs_old x hx, ?_⟩, fun hc => hxj hc.2⟩
    rw [← hkx]
    exact (Grout.mem_delete.mp hk).2

end

/-- Let an ADD succeed, whatever happened to its calls, and let a DEL of the same attachment
follow, all of whose calls succeed.  The socket files and the reservations are as before, if
there were none of the attachment.  If the bridge was not there before, neither the interfaces
nor their addresses have changed.  If it was, it is gone if it had no members, the other
interfaces are as before, and so are their addresses. -/
theorem add_del_restores {P : Policy Op} {fails : Bool} {conf : PluginConf} {args : CmdArgs}
    {w w₁ w₂ : World} {res : Option Result} {r : Reply}
    (hadd : Run (Solo (Env P) fails) (handleAdd conf args) w (.ok res) w₁)
    (hdel : Run (Solo (Env Policy.allOk) false) (handleDel conf args) w₁ r w₂)
    (hdomains : w.grout.DomainsExist)
    (hsocket : conf.socketPath args.attachment.portName ∉ w.sockets)
    (hreserved : reservationOf conf args ∉ w.reservations) :
  r = .ok none ∧ w₂.sockets = w.sockets ∧ (∀ x, x ∈ w₂.reservations ↔ x ∈ w.reservations) ∧
    ((∀ j ∈ w.grout.ifaces, j.name ≠ conf.bridge) → w.grout.Same w₂.grout) ∧
    ∀ j ∈ w.grout.ifaces, j.name = conf.bridge →
      w₂.grout.ifaces = (w.grout.collect j.id).ifaces ∧
        ∀ x, x.1 ≠ j.id → (x ∈ w₂.grout.addrs ↔ x ∈ w.grout.addrs)
  := by
  have hbody : Run (Env P) (handleAddBody conf args) w (.ok res) w₁ := by
    rcases run_locked hadd with h | ⟨-, e, ⟨⟩⟩
    exact h
  obtain ⟨b, i, h⟩ : ∃ b i, AddStage conf args w b (some i) w₁ := by
    rcases hbody.wpc (wpc_handleAddBody conf args w) with ⟨e, ⟨⟩, -⟩ | ⟨_, _, b, i, _, h, -⟩
    exact ⟨b, i, h⟩
  obtain ⟨rfl, links, rfl⟩ := run_handleDel_allOk hdel
  have hname : i.name = args.attachment.portName := (h.port i rfl).1
  have hafter : w₁.grout.afterDel args.attachment.portName
      = (w₁.grout.delete i.id).collect i.domain := by
    rw [← hname]
    exact Grout.afterDel_of_mem h.mem_port
  refine ⟨rfl, ?_, ?_, ?_, ?_⟩
  · dsimp only
    rw [← hname, World.socketsAfterDel_of_mem h.mem_port, hname]
    rcases h.sockets with hs | ⟨-, -, hs⟩
    · rw [hs, List.filter_eq_self.mpr]
      intro s hs
      simpa using ne_of_mem_of_not_mem hs hsocket
    · rw [hs, List.insert_of_not_mem hsocket, List.filter_cons_of_neg (by simp),
        List.filter_eq_self.mpr]
      intro s hs
      simpa using ne_of_mem_of_not_mem hs hsocket
  · intro x
    dsimp only
    rw [List.mem_filter, decide_eq_true_iff]
    constructor
    · rintro ⟨hx, hne⟩
      exact (h.reservations x hne).mp hx
    · intro hx
      have hne := ne_of_mem_of_not_mem hx hreserved
      exact ⟨(h.reservations x hne).mpr hx, hne⟩
  · intro hfresh
    dsimp only
    rw [hafter]
    rcases h.bridge_cases with ⟨-, j, hj, hjname, -⟩ | ⟨j, rfl, hdomain, -⟩
    · exact absurd hjname (hfresh j hj)
    · exact h.undone_new hdomain hdomains hfresh
  · intro j hj hjname
    dsimp only
    rw [hafter]
    rcases h.bridge_cases with ⟨rfl, k, hk, hkname, hdomain⟩ | ⟨k, -, -, hfresh⟩
    · rw [w.grout.eq_of_name hk hj (hkname.trans hjname.symm)] at hdomain
      exact h.undone_old hj hjname hdomain
    · exact absurd hjname (hfresh j hj)

/-- On a new node: the answer to the creation of the bridge is lost, and the bridge is found. -/
theorem add_del_restores_lost_bridge :
  ∃ res w₁ r w₂,
    Run (Solo (Env Policy.mayLose) false) (handleAdd sharedVirtio (pod "a")) World.initial
      (.ok res) w₁ ∧
    Run (Solo (Env Policy.allOk) false) (handleDel sharedVirtio (pod "a")) w₁ r w₂ ∧
    w₁.grout.ifaces.length = 2 ∧ w₁.sockets ≠ [] ∧
    World.initial.grout.Same w₂.grout ∧ w₂.sockets = []
  := by
  have hexec : (exec (World.act Policy.mayLose)
      [oneAddress 10, {}, { fault := .lost, id := 1 }, {}, {}, {}, { id := 2 }]
      (handleAddBody sharedVirtio (pod "a")) World.initial).any
      (fun x => x.1.isError = false ∧ x.1 ≠ .panic ∧ x.2.grout.ifaces.length = 2 ∧
        x.2.sockets ≠ [] ∧ (exec (World.act Policy.allOk) [{}, {}, {}, {}, {}, {}, {}, {}]
          (handleDelBody sharedVirtio (pod "a")) x.2).isSome = true) = true := by
    decide +kernel
  obtain ⟨reply, w₁, hadd, hcheck⟩ := exec_exists World.act_sound hexec
  obtain ⟨hne, hnp, hifaces, hsockets, hdel⟩ := of_decide_eq_true hcheck
  obtain ⟨⟨r, w₂⟩, hdel⟩ := Option.isSome_iff_exists.mp hdel
  cases reply with
  | error e => cases hne
  | panic => exact absurd rfl hnp
  | ok res =>
      have hadd : Run (Solo (Env Policy.mayLose) false) (handleAdd sharedVirtio (pod "a"))
          World.initial (.ok res) w₁ := locked_run hadd
      have hdel : Run (Solo (Env Policy.allOk) false) (handleDel sharedVirtio (pod "a")) w₁ r w₂ :=
        locked_run (exec_sound World.act_sound hdel)
      obtain ⟨-, hsock, -, hsame, -⟩ := add_del_restores hadd hdel (by decide) (by decide)
        (by decide)
      exact ⟨res, w₁, r, w₂, hadd, hdel, hifaces, hsockets, hsame (by decide), hsock⟩

end GroutCni
