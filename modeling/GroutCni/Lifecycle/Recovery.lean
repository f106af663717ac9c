import GroutCni.Handlers.Add
import GroutCni.Handlers.Exact
import GroutCni.Node.Script

/-!
# DEL after an interrupted ADD

However an ADD ends, be it killed between two operations, failed, or failed with calls that
took effect nevertheless, a DEL whose calls succeed leaves nothing of the attachment and
everything else but the bridge of the network as it was before the ADD (`del_recovers_add`).
-/

namespace GroutCni

open Effect

/-- The attachment of a call has no port, no reservation and no socket. -/
@[mk_iff]
structure Absent (conf : PluginConf) (args : CmdArgs) (w : World) : Prop where
  port : ∀ i ∈ w.grout.ifaces, i.name ≠ groutPortName args.containerID args.ifName
  reservation : reservationOf conf args ∉ w.reservations
  socket : conf.socketPath (groutPortName args.containerID args.ifName) ∉ w.sockets

instance (conf : PluginConf) (args : CmdArgs) (w : World) : Decidable (Absent conf args w) :=
  decidable_of_iff' _ (absent_iff conf args w)

/-- Both tables have the same interfaces, with the same addresses, but for the name. -/
def SameExcept (name : GoString) (g g' : Grout) : Prop :=
  ∀ i : InterfaceInfo, i.name ≠ name → (i ∈ g'.ifaces ↔ i ∈ g.ifaces) ∧
    (i ∈ g.ifaces → ∀ addr, (i.id, addr) ∈ g'.addrs ↔ (i.id, addr) ∈ g.addrs)

namespace AddStage

variable {conf : PluginConf} {args : CmdArgs} {w w₁ : World} {b p : Option InterfaceInfo}
  {i : InterfaceInfo}

/-- If the attachment had no port, the bridge is the only domain that an interface with the
name of the port may have. -/
theorem domain_ne (h : AddStage conf args w b p w₁)
    (habsent : ∀ j ∈ w.grout.ifaces, j.name ≠ args.attachment.portName) {port : InterfaceInfo}
    (hport : port ∈ w₁.grout.ifaces) (hpname : port.name = args.attachment.portName)
    (hi : i ∈ w₁.grout.ifaces) (hname : i.name ≠ conf.bridge) :
  port.domain ≠ i.id
  := by
  intro hdom
  rcases h.mem_cases hport with hport | hport | hport
  · exact habsent port hport hpname
  -- The bridge has the name of the port: it is not a member of anything.
  · rw [(h.bridge port hport).2.2] at hdom
    exact w₁.grout.id_ne_zero i hi hdom.symm
  · obtain ⟨-, -, j, hj, hjname, hjid⟩ := h.port port hport
    rw [w₁.grout.eq_of_id (h.mem_bridge hj) hi (hjid.symm.trans hdom)] at hjname
    exact hname hjname

/-- Deleting the port by its name brings the table back, but for the bridge. -/
theorem sameExcept_afterDel (h : AddStage conf args w b p w₁)
    (habsent : ∀ j ∈ w.grout.ifaces, j.name ≠ args.attachment.portName) :
  SameExcept conf.bridge w.grout (w₁.grout.afterDel args.attachment.portName)
  := by
  intro i hname
  have hmem : i ∈ w.grout.ifaces →
      i ∈ (w₁.grout.afterDel args.attachment.portName).ifaces := by
    intro hi
    apply Grout.mem_afterDel (h.mem hi) (habsent i hi)
    intro port hport hpname
    exact h.domain_ne habsent hport hpname (h.mem hi) hname
  constructor
  · constructor
    · intro hi
      obtain ⟨hi, hne⟩ := Grout.mem_of_mem_afterDel hi
      rcases h.mem_cases hi with hi | hi | hi
      · exact hi
      · exact absurd (h.bridge i hi).1 hname
      · exact absurd (h.port i hi).1 hne
    · exact hmem
  · intro hi addr
    rw [Grout.mem_afterDel_addrs (hmem hi), h.addrs_eq hi hname]

/-- A DEL removes the socket that the ADD may have made: if there is one, so is the port. -/
theorem socket_afterDel (h : AddStage conf args w b p w₁)
    (habsent : conf.socketPath args.attachment.portName ∉ w.sockets) :
  conf.socketPath args.attachment.portName
    ∉ w₁.socketsAfterDel conf args.attachment.portName
  := by
  unfold World.socketsAfterDel
  split
  case h_1 hnone =>
    rcases h.sockets with hs | ⟨hp, -, -⟩
    · rw [hs]
      exact habsent
    · obtain ⟨port, rfl⟩ := Option.ne_none_iff_exists'.mp hp
      exact absurd (h.port port rfl).1 (findPortByName_none.mp hnone port h.mem_port)
  case h_2 => simp

end AddStage

/-- However an ADD was cut short, a DEL in which every call succeeds leaves nothing of the
attachment, and every interface but the bridge of the network as it was before the ADD. -/
theorem del_recovers_add {P : Policy Op} {conf : PluginConf} {args args' : CmdArgs}
    {w w₁ w₂ : World} {q : LockedProg Reply} {r : Reply} (habsent : Absent conf args w)
    (hadd : Reach (Solo (Env P) true) (handleAdd conf args) w q w₁)
    (hargs : args'.attachment = args.attachment)
    (hdel : Run (Solo (Env Policy.allOk) false) (handleDel conf args') w₁ r w₂) :
  r = .ok none ∧ Absent conf args w₂ ∧ SameExcept conf.bridge w.grout w₂.grout
  := by
  obtain ⟨q', hadd⟩ := reach_guarded hadd
  obtain ⟨b, p, hstage⟩ := hadd.wpc (wpc_handleAddBody conf args w)
  obtain ⟨hr, links, rfl⟩ := run_handleDel_allOk hdel
  rw [reservationOf, hargs]
  refine ⟨hr, ⟨?_, ?_, ?_⟩, ?_⟩
  · intro i hi
    exact (Grout.mem_of_mem_afterDel hi).2
  · simp [reservationOf]
  · exact hstage.socket_afterDel habsent.socket
  · exact hstage.sameExcept_afterDel habsent.port

/-- An ADD is killed after grout has made a vhost-user port and reported an error: a DEL
cleans up. -/
theorem del_recovers_add_killed :
  ∃ q w₁ r w₂, Reach (Solo (Env Policy.mayLose) true) (handleAdd sharedVirtio (pod "a"))
      World.initial q w₁ ∧ w₁.grout.ifaces.length = 2 ∧ w₁.sockets.length = 1 ∧
    Run (Solo (Env Policy.allOk) false) (handleDel sharedVirtio (pod "a")) w₁ r w₂ ∧
    Absent sharedVirtio (pod "a") w₂ ∧ SameExcept sharedVirtio.bridge Grout.empty w₂.grout
  := by
  have hadv : (advance (World.act Policy.mayLose)
      [oneAddress 10, {}, { id := 1 }, {}, {}, { fault := .lost, id := 2 }]
      (handleAddBody sharedVirtio (pod "a")) World.initial).any
      (fun x => x.2.grout.ifaces.length = 2 ∧ x.2.sockets.length = 1 ∧
        (exec (World.act Policy.allOk) [{}, {}, {}, {}, {}, {}, {}, {}]
          (handleDelBody sharedVirtio (pod "a")) x.2).any (fun _ => true) = true) = true := by
    decide +kernel
  obtain ⟨q, w₁, hreach, hcheck⟩ := advance_exists World.act_sound hadv
  obtain ⟨hifaces, hsockets, hexec⟩ := of_decide_eq_true hcheck
  obtain ⟨r, w₂, hrun, -⟩ := exec_exists World.act_sound hexec
  have hadd : Reach (Solo (Env Policy.mayLose) true) (handleAdd sharedVirtio (pod "a"))
      World.initial _ w₁ := locked_reach hreach
  have hdel : Run (Solo (Env Policy.allOk) false) (handleDel sharedVirtio (pod "a")) w₁ r w₂ :=
    locked_run hrun
  obtain ⟨-, habsent, hsame⟩ := del_recovers_add (by decide +kernel) hadd rfl hdel
  exact ⟨_, w₁, r, w₂, hadd, hifaces, hsockets, hdel, habsent, hsame⟩

end GroutCni
