import GroutCni.Cni.Mac
import GroutCni.Effect.Trace
import GroutCni.Lifecycle.Reservation

/-!
# IPAM results on which ADD panics

`gatewaysFor`, `podResult` and `vhostResult` read the entries of the IP list without a check that
they are there, and `gatewaysFor` adds one to the last byte of an address that may have none.  An
ADD panics on such a result and keeps the reservation; on all others it ends in a result, or in an
error after it has released the reservation (`handleAdd_ends_iff`).
-/

namespace GroutCni

open Effect

section

variable {conf : PluginConf} {args : CmdArgs} {raw : RawResult} {result : Result}

/-- The functions of `HandleAdd` that read the IPAM result complete. -/
structure FunctionsComplete (args : CmdArgs) (result : Result) : Prop where
  gatewaysFor : gatewaysFor result ≠ none
  podResult : podResult args result ≠ none
  vhostResult : ∀ socketPath, vhostResult args result socketPath ≠ none
  podMACFromResult : podMACIndexed result ≠ none

/-- Whatever the node is and does, an ADD to which the IPAM plugin answers this result ends in a
result, or in an error after it has released the reservation. -/
def AddEnds (conf : PluginConf) (args : CmdArgs) (raw : RawResult) : Prop :=
  ∀ (S : Type) (T : Behaviour Op.Res S) (s s' : S) (log : List (Event Op.Res)) (r : Reply),
    Run (Solo (logged T) true) (handleAdd conf args) (s, []) r (s', log) →
    .ok raw ∈ ipamAnswers log →
    (∃ podRes, r = .ok (some podRes)) ∨ (∃ err, r = .error err) ∧ ipamDelCalls log = [(conf, args)]

theorem functionsComplete_iff (args : CmdArgs) (result : Result) :
  FunctionsComplete args result ↔ result.Completes
  := by
  constructor
  · intro h
    exact (gatewaysFor_ne_none_iff result).mp h.gatewaysFor
  · intro h
    exact {
      gatewaysFor := (gatewaysFor_ne_none_iff result).mpr h
      podResult := h.podResult_ne_none args
      vhostResult := h.vhostResult_ne_none args
      podMACFromResult := by simp [podMACIndexed_eq] }

/-! ### Where the functions complete -/

/-- A result or an error. -/
def Answered (r : Reply) : Prop := (∃ podRes, r = .ok (some podRes)) ∨ ∃ err, r = .error err

theorem answered_error (err : GoError) :
  Answered (.error err)
  := .inr ⟨err, rfl⟩

theorem finishAdd_answered (h : result.Completes) (ifaceID : UInt16) :
  (finishAdd conf args result ifaceID).Returns Answered
  := by
  unfold finishAdd
  split
  · split
    case h_1 hnone => exact absurd hnone (h.vhostResult_ne_none _ _)
    case h_2 podRes _ => exact .inl ⟨podRes, rfl⟩
  · split
    case h_1 hnone => exact absurd hnone (h.podResult_ne_none _)
    case h_2 podRes _ =>
      split
      · exact .inl ⟨podRes, rfl⟩
      · apply (Program.returns_true _).bind
        rintro (err | podRes) -
        · apply Program.returns_bind_pure
          apply answered_error
        · exact .inl ⟨podRes, rfl⟩

theorem attach_answered (h : result.Completes) :
  (attach conf args result).Returns Answered
  := by
  apply attach_returns
  · apply answered_error
  · intro hnone
    exact absurd hnone ((gatewaysFor_ne_none_iff result).mpr h)
  · apply finishAdd_answered h

/-- On a result on which the functions complete, an ADD ends as it should. -/
theorem Result.Completes.addEnds (hconv : convertResult raw = .ok result) (h : result.Completes) :
  AddEnds conf args raw
  := by
  intro S T s s' log r hrun hraw
  rcases run_locked hrun with hbody | ⟨hs, err, rfl⟩
  · rcases run_logged_handleAddBody hbody with ⟨e, -, hlog, -⟩ | ⟨raw', e, -, hconv', hlog, -⟩ |
      ⟨raw', result', s₁, -, hconv', hattach⟩
    · have hans : ipamAnswers log = [.error e] := by rw [hlog]; rfl
      simp [hans] at hraw
    · have hans : ipamAnswers log = [.ok raw'] := by rw [hlog]; rfl
      obtain rfl : raw = raw' := by simpa [hans] using hraw
      rw [hconv] at hconv'
      cases hconv'
    · have hs₁ : LogHas [.ok raw'] [] (s₁, [⟨.ipamAdd conf args, .ok raw'⟩]) := ⟨rfl, rfl⟩
      have hsettled := hattach.wp (wp_attach_logged hs₁ result')
      have hans : ipamAnswers log = [.ok raw'] := by
        cases r <;> exact hsettled.1
      obtain rfl : raw = raw' := by simpa [hans] using hraw
      rw [hconv] at hconv'
      cases hconv'
      rcases (attach_answered h).run hattach with hok | ⟨err, rfl⟩
      · exact .inl hok
      · exact .inr ⟨⟨err, rfl⟩, hsettled.2⟩
  · cases hs
    cases hraw

/-! ### Where `gatewaysFor` panics -/

/-- The operations of an ADD that makes the bridge and then panics. -/
def panicLog (conf : PluginConf) (args : CmdArgs) (raw : RawResult) : List (Event Op.Res) :=
  [⟨.ipamAdd conf args, .ok raw⟩, ⟨.interfaceList {}, .ok []⟩,
    ⟨.interfaceAdd { name := conf.bridge, type := InterfaceType.bridge },
      .ok (1 : UInt16)⟩]

/-- On a new node the bridge is made. -/
theorem trace_ensureBridge (w : World) (hw : w.grout = Grout.empty) (name : GoString) :
  ∃ grout, Trace (Env Policy.allOk) (ensureBridge name) w (.ok 1)
    [⟨.interfaceList {}, .ok []⟩,
      ⟨.interfaceAdd { name, type := InterfaceType.bridge }, .ok (1 : UInt16)⟩] { w with grout }
  := by
  have hfresh : w.grout.Fresh
      (({ name, type := InterfaceType.bridge } : InterfaceAddRequest).info 1) := by
    rw [hw]
    exact ⟨List.not_mem_nil, List.not_mem_nil, show (1 : UInt16) ≠ 0 by decide⟩
  refine ⟨w.grout.insert _ hfresh, ?_⟩
  apply trace_perform_bind.mpr
  refine ⟨.ok [], _, w, ⟨rfl, ?_, rfl⟩, ?_, rfl⟩
  · rw [World.listed, hw]
    exact .refl _
  · apply trace_perform_bind.mpr
    refine ⟨.ok (1 : UInt16), [], _, ⟨rfl, w.grout.insert _ hfresh, w.links, ?_, rfl⟩, ?_, rfl⟩
    · exact dif_pos hfresh
    · apply Trace.ret

/-- If `gatewaysFor` panics, an ADD on a new node panics though no operation fails, and the
reservation is kept. -/
theorem exists_run_panic (conf : PluginConf) (args : CmdArgs)
    (hconv : convertResult raw = .ok result) (hgw : gatewaysFor result = none) :
  ∃ w', Run (Solo (logged (Env Policy.allOk)) true) (handleAdd conf args) (World.initial, [])
      .panic (w', panicLog conf args raw) ∧
    reservationOf conf args ∈ w'.reservations
  := by
  let w : World := { World.initial with reservations := [reservationOf conf args] }
  obtain ⟨grout, hensure⟩ := trace_ensureBridge w rfl conf.bridge
  have hattach : Trace (Env Policy.allOk) (attach conf args result) w .panic
      (panicLog conf args raw).tail { w with grout } := by
    apply Trace.bind_iff.mpr
    refine ⟨_, _, _, [], hensure, ?_, rfl⟩
    dsimp only
    rw [attachTo, hgw]
    apply Trace.ret
  have hbody : Trace (Env Policy.allOk) (handleAddBody conf args) World.initial .panic
      (panicLog conf args raw) { w with grout } := by
    apply Trace.bind_iff.mpr
    refine ⟨.ok raw, [⟨.ipamAdd conf args, .ok raw⟩], w, _, ?_, ?_, rfl⟩
    · apply trace_perform_bind.mpr
      exact ⟨.ok raw, [], w, ⟨rfl, rfl⟩, .ret _ _, rfl⟩
    · dsimp only
      rw [hconv]
      exact hattach
  refine ⟨{ w with grout }, ?_, List.mem_singleton.mpr rfl⟩
  apply locked_run
  exact run_logged_iff.mpr ⟨_, rfl, hbody⟩

/-- An ADD does not end as it should exactly if `gatewaysFor` panics. -/
theorem addEnds_iff (hconv : convertResult raw = .ok result) :
  AddEnds conf args raw ↔ result.Completes
  := by
  constructor
  · intro h
    apply (gatewaysFor_ne_none_iff result).mp
    intro hgw
    obtain ⟨w', hrun, -⟩ := exists_run_panic conf args hconv hgw
    rcases h _ _ _ _ _ _ hrun (List.mem_singleton.mpr rfl) with ⟨_, hr⟩ | ⟨⟨_, hr⟩, -⟩
    · cases hr
    · cases hr
  · exact Result.Completes.addEnds hconv

end

/-- For every IPAM result that is accepted: the functions that read it complete exactly if no
entry is nil and the first address of each family has a gateway or can be masked, and an ADD with
this result ends in a result, or in an error after it has released the reservation, under the same
condition. -/
theorem handleAdd_ends_iff {raw : RawResult} {result : Result}
    (h : convertResult raw = .ok result) (conf : PluginConf) (args : CmdArgs) :
  (FunctionsComplete args result ↔ result.Completes) ∧
    (AddEnds conf args raw ↔ result.Completes)
  := ⟨functionsComplete_iff args result, addEnds_iff h⟩

/-- An ADD with two IPv4 addresses and an IPv6 address, none of which has a gateway. -/
theorem handleAdd_ends_dualStack :
  FunctionsComplete (pod "a") { ips := dualStack.map some } ∧
    AddEnds sharedTap (pod "a") ⟨.ok { ips := dualStack.map some }⟩
  := by
  have hcompletes : ({ ips := dualStack.map some } : Result).Completes :=
    ⟨dualStack, rfl, by decide +kernel⟩
  have hconv : convertResult ⟨.ok { ips := dualStack.map some }⟩
      = .ok { ips := dualStack.map some } := rfl
  obtain ⟨hfunctions, hadd⟩ := handleAdd_ends_iff hconv sharedTap (pod "a")
  exact ⟨hfunctions.mpr hcompletes, hadd.mpr hcompletes⟩

/-- The IPAM plugin answers an IP list with a null entry: `gatewaysFor` dereferences it, though
`podMACFromResult` would have skipped it.  The ADD panics and the reservation is kept. -/
theorem handleAdd_panics_null_entry :
  gatewaysFor { ips := [none] } = none ∧
  podMACIndexed { ips := [none] } = some none ∧
  ∃ w' log, Run (Solo (logged (Env Policy.allOk)) true) (handleAdd sharedTap (pod "a"))
      (World.initial, []) .panic (w', log) ∧
    ipamDelCalls log = [] ∧ reservationOf sharedTap (pod "a") ∈ w'.reservations
  := by
  have hconv : convertResult ⟨.ok { ips := [none] }⟩ = .ok { ips := [none] } := rfl
  obtain ⟨w', hrun, hres⟩ := exists_run_panic sharedTap (pod "a") hconv rfl
  exact ⟨rfl, rfl, w', _, hrun, rfl, hres⟩

end GroutCni
