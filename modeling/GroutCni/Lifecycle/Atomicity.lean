import GroutCni.Handlers.AddLog
import GroutCni.Node.Script

/-!
# ADD is all or nothing

Whichever steps of `HandleAdd` fail, as long as a failed call changes nothing and the
rollback can delete the port: after an error grout has at most gained the bridge of the
network, and after a success it has gained the port, as a member of the bridge, and the
bridge holds the gateway addresses (`handleAdd_allOrNothing`).
-/

namespace GroutCni

open Effect

/-- A run of the part of an ADD from the bridge on succeeds only after `ensureBridge` has, and
then makes the port a member of what it returned. -/
theorem run_logged_attach {P : Policy Op} {conf : PluginConf} {args : CmdArgs}
    {cniResult : Result} {w₀ w w' : World} {log log' : List (Event Op.Res)} {r : Reply}
    (h : Run (logged (Env P)) (attach conf args cniResult) (w, log) r (w', log'))
    (hstage : AddStage conf args w₀ none none w) :
  ∃ bridgeID, AddDone P conf args w₀ cniResult bridgeID r w' ∧
    ∀ x, r = .ok x → ∃ s, Run (logged (Env P)) (ensureBridge conf.bridge) (w, log)
      (.ok bridgeID) s ∧ s.2 <+: log'
  := by
  unfold attach at h
  obtain ⟨ans, ⟨w₁, log₁⟩, hbridge, hrest⟩ := Run.bind_iff.mp h
  obtain ⟨b, hstage₁, hready⟩ := hbridge.forget.wpc (wpc_ensureBridge_ready hstage)
  cases ans with
  | error err =>
      refine ⟨0, hrest.forget.wpc (wpc_release hstage₁ (fun _ => rfl) 0 _), ?_⟩
      rintro x rfl
      rcases hrest with _ | ⟨-, hrest⟩
      cases hrest
  | ok bridgeID =>
      obtain ⟨j, hj, hname, rfl⟩ := hready bridgeID rfl
      refine ⟨j.id, hrest.forget.wpc (wpc_attachTo hstage₁ hj hname cniResult), ?_⟩
      intro x _
      exact ⟨_, hbridge, hrest.log_prefix⟩

/-- What an ADD may have done to the tables of grout, given its log: the tables of `g` have
become those of `g'`. -/
def AllOrNothing (P : Policy Op) (conf : PluginConf) (args : CmdArgs) (g g' : Grout)
    (log : List (Event Op.Res)) : Reply → Prop
  | .error _ => ∃ b : Option InterfaceInfo, g'.ifaces = g.ifaces ++ b.toList ∧
      ∀ i ∈ b, i.name = conf.bridge ∧ i.type = InterfaceType.bridge
  | .ok _ => ∃ (b : Option InterfaceInfo) (i j : InterfaceInfo),
      g'.ifaces = g.ifaces ++ b.toList ++ [i] ∧
      (∀ i ∈ b, i.name = conf.bridge ∧ i.type = InterfaceType.bridge) ∧
      i.name = groutPortName args.containerID args.ifName ∧ i.type = InterfaceType.port ∧
      i.domain = j.id ∧ j ∈ g'.ifaces ∧ j.name = conf.bridge ∧
      (∃ s s', Run (logged (Env P)) (ensureBridge conf.bridge) s (.ok j.id) s' ∧
        s.1.grout = g ∧ s'.2 <+: log) ∧
      ∃ raw cniResult gws, .ok raw ∈ ipamAnswers log ∧
        convertResult raw = .ok cniResult ∧ gatewaysFor cniResult = some gws ∧
        ∀ gw ∈ gws, (j.id, gw) ∈ g'.addrs
  | .panic => False

/-- Calling the IPAM plugin does not touch grout. -/
theorem AddStage.of_ipamAdd {P : Policy Op} {conf : PluginConf} {args : CmdArgs} {w w' : World}
    {r : Except GoError RawResult} (h : Env P w (.ipamAdd conf args) r w') :
  AddStage conf args w none none w' ∧ w'.grout = w.grout
  := by
  have hstart := AddStage.start conf args w
  rcases h.eq_or_eff with rfl | ⟨v, rfl⟩
  · exact ⟨hstart, rfl⟩
  · exact ⟨hstart.setReservations _ (by simp +contextual), rfl⟩

/-- If no call is lost and no delete call fails, an ADD is all or nothing.  It does not panic
on a result with well-formed addresses. -/
theorem handleAdd_allOrNothing {P : Policy Op} (hP : CleanRollback P) {conf : PluginConf}
    {args : CmdArgs} {w w' : World} {log : List (Event Op.Res)} {r : Reply}
    (h : Run (Solo (logged (Env P)) true) (handleAdd conf args) (w, []) r (w', log))
    (hwf : WellFormedAnswers log) :
  AllOrNothing P conf args w.grout w'.grout log r
  := by
  rcases run_locked h with h | ⟨hw, err, rfl⟩
  · rcases run_logged_handleAddBody h with
      ⟨e, hT, -, err, rfl⟩ | ⟨raw, e, hT, -, -, err, rfl⟩ | ⟨raw, cniResult, w₁, hT, hconv, hrun⟩
    · exact ⟨none, by simp [(AddStage.of_ipamAdd hT).2], by simp⟩
    · exact ⟨none, by simp [(AddStage.of_ipamAdd hT).2], by simp⟩
    · obtain ⟨hstage, hgrout⟩ := AddStage.of_ipamAdd hT
      have hlog : .ok raw ∈ ipamAnswers log :=
        (hrun.log_prefix.filterMap _).subset List.mem_cons_self
      obtain ⟨bridgeID, hdone, hbridge⟩ := run_logged_attach hrun hstage
      cases r with
      | ok x =>
          obtain ⟨b, i, gws, hadd, rfl, hgws, haddrs⟩ := hdone
          obtain ⟨hname, htype, j, hj, hjname, hjid⟩ := hadd.port i rfl
          obtain ⟨s, hs, hlog'⟩ := hbridge x rfl
          rw [hjid] at hs haddrs
          exact ⟨b, i, j, by simpa using hadd.ifaces,
            fun i hi => ⟨(hadd.bridge i hi).1, (hadd.bridge i hi).2.1⟩, hname, htype, hjid,
            hadd.mem_bridge hj, hjname, ⟨_, s, hs, hgrout, hlog'⟩, raw, cniResult, gws, hlog,
            hconv, hgws, haddrs⟩
      | error e =>
          obtain ⟨b, p, hadd, hp⟩ := hdone
          obtain rfl := hp hP
          exact ⟨b, by simpa using hadd.ifaces,
            fun i hi => ⟨(hadd.bridge i hi).1, (hadd.bridge i hi).2.1⟩⟩
      | panic => exact hdone.2 (hwf _ hlog raw rfl cniResult (by rw [hconv]; rfl))
  · cases hw
    exact ⟨none, by simp, by simp⟩

/-- Any call but a delete call may fail, and a call that fails changes nothing. -/
def anyButDelete : Policy Op
  | _, .lost => false
  | .interfaceDel _, .fail => false
  | _, _ => true

theorem anyButDelete_cleanRollback :
  CleanRollback anyButDelete
  := by
  constructor
  · intro o
    cases o <;> rfl
  · intro id
    rfl

/-- The TAP cannot be moved into the pod: the ADD fails, and only the bridge stays. -/
theorem handleAdd_allOrNothing_move_fails :
  ∃ r w' log, Run (Solo (logged (Env anyButDelete)) true)
      (handleAdd sharedTap (podIn "a" "/run/netns/a")) (World.initial, []) r (w', log) ∧
    (∃ e, r = .error e) ∧ w'.grout.ifaces.length = 1 ∧
    AllOrNothing anyButDelete sharedTap (podIn "a" "/run/netns/a") Grout.empty w'.grout log r
  := by
  have hexec : (exec (loggedAct (World.act anyButDelete))
      [oneAddress 10, {}, { id := 1 }, {}, { id := 2 }, { fault := .fail }, {}, {}]
      (handleAddBody sharedTap (podIn "a" "/run/netns/a")) (World.initial, [])).any
      (fun x => x.1.isError = true ∧ x.2.1.grout.ifaces.length = 1 ∧ WellFormedAnswers x.2.2)
      = true := by
    decide +kernel
  obtain ⟨r, ⟨w', log⟩, hrun, hcheck⟩ := exec_exists (loggedAct_sound World.act_sound) hexec
  obtain ⟨herr, hlen, hwf⟩ := of_decide_eq_true hcheck
  have hadd : Run (Solo (logged (Env anyButDelete)) true)
      (handleAdd sharedTap (podIn "a" "/run/netns/a")) (World.initial, []) r (w', log) :=
    locked_run hrun
  exact ⟨r, w', log, hadd, Outcome.exists_of_isError herr, hlen,
    handleAdd_allOrNothing anyButDelete_cleanRollback hadd hwf⟩

end GroutCni
