import GroutCni.Handlers.AddLog
import GroutCni.Node.Script

/-!
# ADD and its reservation

An ADD that fails after it has reserved an address releases the reservation once, whichever
step fails and whatever the node answers, with one exception: if the result of the IPAM
plugin cannot be converted, it is not released (`handleAdd_balanced_iff`).
-/

namespace GroutCni

open Effect

/-- The reservation is released once if the IPAM plugin has made one and the ADD returns an
error; it is not released if there is none or the ADD succeeds. -/
def Balanced (conf : PluginConf) (args : CmdArgs) (r : Reply) (log : List (Event Op.Res)) :
    Prop :=
  ((∃ raw, .ok raw ∈ ipamAnswers log) → (∃ e, r = .error e) →
    ipamDelCalls log = [(conf, args)]) ∧
  ((∀ raw, .ok raw ∉ ipamAnswers log) ∨ (∃ x, r = .ok x) → ipamDelCalls log = [])

/-- The operation does not call the IPAM plugin. -/
def Op.NotIpam : Op → Prop
  | .ipamAdd _ _ | .ipamDel _ _ | .ipamGC _ _ => False
  | _ => True

theorem Op.IsNetlink.notIpam {o : Op} (h : o.IsNetlink) :
  o.NotIpam
  := by
  cases o <;> trivial

theorem Op.NotIpam.event {o : Op} (h : o.NotIpam) (r : o.Res) :
  ipamAnswer? ⟨o, r⟩ = none ∧ ipamDelCall? ⟨o, r⟩ = none
  := by
  cases o <;> first | exact ⟨rfl, rfl⟩ | exact h.elim

theorem findAfterConflict_notIpam (ifaces : List InterfaceInfo) (name : GoString)
    (err : GoError) :
  (findAfterConflict ifaces name err).Uses Op.NotIpam
  := by
  apply uses_perform_bind (by trivial) _ (fun _ => by trivial)
  intro ifaces2
  dsimp only
  split <;> trivial

theorem ensureBridge_notIpam (name : GoString) :
  (ensureBridge name).Uses Op.NotIpam
  := by
  apply uses_perform_bind (by trivial) _ (fun _ => by trivial)
  intro ifaces
  dsimp only
  split
  · trivial
  · apply uses_perform_bind (by trivial) (fun _ => by trivial)
    intro err
    exact findAfterConflict_notIpam ifaces name err

section

variable {S : Type} {T : Behaviour Op.Res S} {conf : PluginConf} {args : CmdArgs}
  {answers : List (Except GoError RawResult)} {released : List (PluginConf × CmdArgs)}
  {s : S × List (Event Op.Res)}

/-- The log has these answers of the IPAM plugin and these releases. -/
def LogHas (answers : List (Except GoError RawResult)) (released : List (PluginConf × CmdArgs))
    (s : S × List (Event Op.Res)) : Prop :=
  ipamAnswers s.2 = answers ∧ ipamDelCalls s.2 = released

/-- A program that does not call the IPAM plugin leaves its answers and releases. -/
theorem wp_notIpam {α : Type} {p : Prog α} (hp : p.Uses Op.NotIpam)
    (hs : LogHas answers released s) :
  wp (logged T) p (fun _ => LogHas answers released) s
  := by
  refine wpc_mono (hp.wpc ?_ hs) (fun _ _ => trivial) (fun _ _ h => h)
  rintro s o r s' ho ⟨-, hlog⟩ ⟨ha, hr⟩
  obtain ⟨hans, hdel⟩ := ho.event r
  rw [LogHas, hlog]
  rw [ipamAnswers_snoc, ipamDelCalls_snoc, hans, hdel, ha, hr]
  exact ⟨List.append_nil _, List.append_nil _⟩

/-- `ipamDel` releases the reservation. -/
theorem wp_ipamDel_logged (hs : LogHas answers [] s) :
  wp (logged T) (ipamDel conf args) (fun _ => LogHas answers [(conf, args)]) s
  := by
  unfold ipamDel
  rw [wp_bind]
  refine ⟨trivial, ?_⟩
  rintro r s' ⟨-, hlog⟩
  refine ⟨trivial, trivial, ?_⟩
  change LogHas _ _ s'
  rw [LogHas, hlog]
  rw [ipamAnswers_snoc, ipamDelCalls_snoc, hs.1, hs.2]
  exact ⟨List.append_nil _, rfl⟩

/-- The releases of an ADD that has made a reservation: one if it returns an error. -/
def Settled (conf : PluginConf) (args : CmdArgs) (answers : List (Except GoError RawResult)) :
    Reply → S × List (Event Op.Res) → Prop
  | .error _ => LogHas answers [(conf, args)]
  | _ => LogHas answers []

theorem wp_release_logged (hs : LogHas answers [] s) (err : GoError) :
  wp (logged T) (do ipamDel conf args; return .error err) (Settled conf args answers) s
  := by
  rw [wp_bind]
  apply wp_mono (wp_ipamDel_logged hs)
  intro _ s' hs'
  exact ⟨trivial, hs'⟩

/-- The end of an ADD releases the reservation once if it returns an error. -/
theorem wp_finishAdd_logged (hs : LogHas answers [] s) (cniResult : Result)
    (ifaceID : UInt16) :
  wp (logged T) (finishAdd conf args cniResult ifaceID) (Settled conf args answers) s
  := by
  unfold finishAdd
  split
  · split <;> exact ⟨trivial, hs⟩
  split
  · exact ⟨trivial, hs⟩
  split
  · exact ⟨trivial, hs⟩
  rw [wp_bind]
  apply wp_mono (wp_notIpam ((setupPod_uses _ _ _).mono fun _ => Op.IsNetlink.notIpam) hs)
  rintro (err | podRes) s₁ hs₁
  · dsimp only
    unfold cleanupAfterAddFailure
    rw [wp_bind, wp_bind]
    apply wp_mono (wp_notIpam (p := interfaceDel ifaceID) ⟨trivial, fun _ => trivial⟩ hs₁)
    intro _ s₂ hs₂
    apply wp_mono (wp_ipamDel_logged hs₂)
    intro _ s₃ hs₃
    exact ⟨trivial, hs₃⟩
  · exact ⟨trivial, hs₁⟩

/-- An ADD that has made a reservation releases it once if it returns an error. -/
theorem wp_attach_logged (hs : LogHas answers [] s) (cniResult : Result) :
  wp (logged T) (attach conf args cniResult) (Settled conf args answers) s
  := by
  unfold attach
  rw [wp_bind]
  apply wp_mono (wp_notIpam (ensureBridge_notIpam _) hs)
  rintro (err | bridgeID) s₁ hs₁
  · exact wp_release_logged hs₁ _
  dsimp only
  unfold attachTo
  split
  · exact ⟨trivial, hs₁⟩
  rw [wp_bind]
  apply wp_mono (wp_notIpam (assignGateways_uses (fun _ => trivial) _) hs₁)
  rintro (err | _) s₂ hs₂
  · exact wp_release_logged hs₂ _
  dsimp only
  rw [wp_bind]
  apply wp_mono (wp_notIpam (addPort_uses (fun _ => trivial) trivial) hs₂)
  rintro (err | ifaceID) s₃ hs₃
  · exact wp_release_logged hs₃ _
  · exact wp_finishAdd_logged hs₃ cniResult ifaceID

/-- The reservation is balanced unless the IPAM plugin has answered a result that cannot be
converted. -/
theorem handleAdd_balanced_iff {s s' : S} {log : List (Event Op.Res)} {r : Reply}
    (h : Run (Solo (logged T) true) (handleAdd conf args) (s, []) r (s', log)) :
  Balanced conf args r log
    ↔ ¬ ∃ raw e, .ok raw ∈ ipamAnswers log ∧ convertResult raw = .error e
  := by
  rcases run_locked h with h | ⟨hs, err, rfl⟩
  · rcases run_logged_handleAddBody h with ⟨e, -, hlog, err, rfl⟩ |
      ⟨raw, e, -, hconv, hlog, err, rfl⟩ | ⟨raw, cniResult, s₁, -, hconv, hrun⟩
    · have hans : ipamAnswers log = [.error e] := by rw [hlog]; rfl
      have hdel : ipamDelCalls log = [] := by rw [hlog]; rfl
      simp [Balanced, hans, hdel]
    · have hans : ipamAnswers log = [.ok raw] := by rw [hlog]; rfl
      have hdel : ipamDelCalls log = [] := by rw [hlog]; rfl
      simp [Balanced, hans, hdel, hconv]
    · have hs₁ : LogHas [.ok raw] [] (s₁, [⟨.ipamAdd conf args, .ok raw⟩]) := ⟨rfl, rfl⟩
      have hsettled := hrun.wp (wp_attach_logged hs₁ cniResult)
      cases r with
      | ok x =>
          obtain ⟨hans, hdel⟩ : ipamAnswers log = [.ok raw] ∧ ipamDelCalls log = [] := hsettled
          simp [Balanced, hans, hdel, hconv]
      | error err =>
          obtain ⟨hans, hdel⟩ : ipamAnswers log = [.ok raw] ∧
            ipamDelCalls log = [(conf, args)] := hsettled
          simp [Balanced, hans, hdel, hconv]
      | panic =>
          obtain ⟨hans, hdel⟩ : ipamAnswers log = [.ok raw] ∧ ipamDelCalls log = [] := hsettled
          simp [Balanced, hans, hdel, hconv]
  · cases hs
    simp [Balanced, ipamAnswers, ipamDelCalls]

end

/-- The interface list cannot be read after the reservation: it is released. -/
theorem handleAdd_balanced_list_fails :
  ∃ r w' log, Run (Solo (logged (Env Policy.mayFail)) true) (handleAdd sharedTap (pod "a"))
      (World.initial, []) r (w', log) ∧
    (ipamAnswers log).length = 1 ∧ (∃ e, r = .error e) ∧ Balanced sharedTap (pod "a") r log
  := by
  have hexec : (exec (loggedAct (World.act Policy.mayFail))
      [oneAddress 10, { fault := .fail }, {}] (handleAddBody sharedTap (pod "a"))
      (World.initial, [])).any
      (fun x : Reply × World × List (Event Op.Res) => x.1.isError = true ∧
        (ipamAnswers x.2.2).length = 1 ∧ ∀ ans ∈ ipamAnswers x.2.2, ∀ raw ∈ ans.toOption,
          (convertResult raw).toOption.isSome = true) = true := by
    decide +kernel
  obtain ⟨r, ⟨w', log⟩, hrun, hcheck⟩ := exec_exists (loggedAct_sound World.act_sound) hexec
  obtain ⟨herr, hlen, hconv⟩ := of_decide_eq_true hcheck
  have hadd : Run (Solo (logged (Env Policy.mayFail)) true) (handleAdd sharedTap (pod "a"))
      (World.initial, []) r (w', log) := locked_run hrun
  refine ⟨r, w', log, hadd, hlen, Outcome.exists_of_isError herr, ?_⟩
  apply (handleAdd_balanced_iff hadd).mpr
  rintro ⟨raw, e, hraw, he⟩
  have hsome := hconv _ hraw raw rfl
  rw [he] at hsome
  cases hsome

/-- The result of the IPAM plugin cannot be converted: the reservation is not released. -/
theorem handleAdd_not_balanced_conversion_fails :
  ∃ r w' log, Run (Solo (logged (Env Policy.allOk)) true) (handleAdd sharedTap (pod "a"))
      (World.initial, []) r (w', log) ∧
    reservationOf sharedTap (pod "a") ∈ w'.reservations ∧
    ¬ Balanced sharedTap (pod "a") r log
  := by
  have hexec : (exec (loggedAct (World.act Policy.allOk))
      [{ result := ⟨.error (.other "unsupported version")⟩ }]
      (handleAddBody sharedTap (pod "a")) (World.initial, [])).any
      (fun x : Reply × World × List (Event Op.Res) => x.1.isError = true ∧
        reservationOf sharedTap (pod "a") ∈ x.2.1.reservations ∧
        (ipamDelCalls x.2.2).length = 0 ∧ ∃ ans ∈ ipamAnswers x.2.2, ans.toOption.isSome = true)
      = true := by
    decide +kernel
  obtain ⟨r, ⟨w', log⟩, hrun, hcheck⟩ := exec_exists (loggedAct_sound World.act_sound) hexec
  obtain ⟨herr, hres, hdel, ans, hans, hok⟩ := of_decide_eq_true hcheck
  refine ⟨r, w', log, locked_run hrun, hres, ?_⟩
  intro hbal
  cases ans with
  | error e => cases hok
  | ok raw =>
      have hone := hbal.1 ⟨raw, hans⟩ (Outcome.exists_of_isError herr)
      rw [show (ipamDelCalls log).length = 1 from congrArg List.length hone] at hdel
      cases hdel

end GroutCni
