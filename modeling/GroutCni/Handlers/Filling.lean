import GroutCni.Handlers.Failing

/-!
# An ADD that makes its bridge

If no call of an ADD fails after the `InterfaceAdd` of its bridge, and the ADD does not panic on the
IPAM result, then it succeeds or leaves no interface of the name of the bridge
(`succeeds_or_noneNamed`).
-/

namespace GroutCni

open Effect

/-- No interface has the name. -/
def NoneNamed (name : GoString) (g : Grout) : Prop :=
  ∀ i ∈ g.ifaces, i.name ≠ name

instance (name : GoString) (g : Grout) : Decidable (NoneNamed name g) :=
  inferInstanceAs (Decidable (∀ i ∈ g.ifaces, _))

/-- The operation is the `InterfaceAdd` of the bridge. -/
def makesBridge (bridge : GoString) : Event Op.Res → Bool
  | ⟨.interfaceAdd req, _⟩ => req.name = bridge ∧ req.type = InterfaceType.bridge
  | _ => false

/-- The operations after the `InterfaceAdd` of the bridge. -/
def afterBridge (bridge : GoString) (log : Log) : Log :=
  (log.dropWhile fun e => !makesBridge bridge e).tail

/-- An ADD does not panic on what the IPAM plugin has answered. -/
def RawResult.Completes (raw : RawResult) : Prop :=
  ∀ result, convertResult raw = .ok result → result.Completes

/-! ### Where no operation fails -/

/-- If none of its operations fails, the program returns a value that satisfies `Q`. -/
abbrev ReturnsIfOk {α : Type} (Q : α → Prop) (p : Prog α) : Prop :=
  p.Meets (fun _ => True) (fun _ r => r.isOk = true) Q

/-- A value, and not an error. -/
def IsOk {α : Type} (r : Except GoError α) : Prop :=
  ∃ a, r = .ok a

section

variable {conf : PluginConf} {args : CmdArgs} {result : Result} {netns name podIfName : GoString}

theorem returnsIfOk_perform_bind {α : Type} {Q : α → Prop} {o : Op} {k : Op.Res o → Prog α}
    (h : ∀ v, ReturnsIfOk Q (k (.ok v))) :
  ReturnsIfOk Q (perform o >>= k)
  := by
  refine ⟨trivial, ?_⟩
  rintro (e | v) hr
  · cases hr
  · exact h v

theorem assignGateways_ok (bridgeID : UInt16) (gws : List IPNet) :
  ReturnsIfOk IsOk (assignGateways bridgeID gws)
  := by
  induction gws with
  | nil => exact ⟨(), rfl⟩
  | cons gw gws ih =>
      apply returnsIfOk_perform_bind
      intro _
      exact ih

theorem addPort_ok (bridgeID : UInt16) :
  ReturnsIfOk IsOk (addPort conf args bridgeID)
  := by
  have hdir : ReturnsIfOk IsOk
      (makeSocketDir conf (portRequest conf args bridgeID).vhostUserPath) := by
    unfold makeSocketDir
    split
    · exact ⟨(), rfl⟩
    · apply returnsIfOk_perform_bind
      intro _
      exact ⟨(), rfl⟩
  apply hdir.bind
  rintro _ ⟨_, rfl⟩
  apply returnsIfOk_perform_bind
  intro id
  exact ⟨id, rfl⟩

theorem renameLink_ok :
  ReturnsIfOk IsOk (renameLink netns name podIfName)
  := by
  unfold renameLink
  split
  · exact ⟨(), rfl⟩
  · apply returnsIfOk_perform_bind
    intro _
    apply returnsIfOk_perform_bind
    intro _
    apply returnsIfOk_perform_bind
    intro _
    exact ⟨(), rfl⟩

theorem setLinkMTU_ok (mtu : Int) :
  ReturnsIfOk IsOk (setLinkMTU netns name mtu)
  := by
  unfold setLinkMTU
  split
  · apply returnsIfOk_perform_bind
    intro _
    exact ⟨(), rfl⟩
  · exact ⟨(), rfl⟩

theorem setLinkMAC_ok :
  ReturnsIfOk IsOk (setLinkMAC netns name result)
  := by
  unfold setLinkMAC
  split
  · exact ⟨(), rfl⟩
  · apply returnsIfOk_perform_bind
    intro _
    exact ⟨(), rfl⟩

theorem configurePodInterface_ok (mtu : Int) :
  ReturnsIfOk IsOk (configurePodInterface netns name podIfName mtu result)
  := by
  apply returnsIfOk_perform_bind
  intro _
  apply returnsIfOk_perform_bind
  intro _
  apply returnsIfOk_perform_bind
  intro _
  apply renameLink_ok.bind
  rintro _ ⟨_, rfl⟩
  apply (setLinkMTU_ok mtu).bind
  rintro _ ⟨_, rfl⟩
  apply setLinkMAC_ok.bind
  rintro _ ⟨_, rfl⟩
  apply returnsIfOk_perform_bind
  intro _
  apply returnsIfOk_perform_bind
  intro link
  exact ⟨_, rfl⟩

theorem setupPod_ok :
  ReturnsIfOk IsOk (setupPod conf args result)
  := by
  have hmove : ReturnsIfOk IsOk
      (moveLinkToNamespace (groutPortName args.containerID args.ifName) args.netns) := by
    apply returnsIfOk_perform_bind
    intro _
    apply returnsIfOk_perform_bind
    intro _
    apply returnsIfOk_perform_bind
    intro _
    exact ⟨(), rfl⟩
  apply hmove.bind
  rintro _ ⟨_, rfl⟩
  apply (configurePodInterface_ok conf.mtu).bind
  rintro _ ⟨podRes, rfl⟩
  exact ⟨podRes, rfl⟩

/-- If the port has been created and nothing fails, an ADD succeeds. -/
theorem finishAdd_ok (h : result.Completes) (ifaceID : UInt16) :
  ReturnsIfOk (fun r => ∃ x, r = .ok x) (finishAdd conf args result ifaceID)
  := by
  unfold finishAdd
  split
  · split
    case h_1 hnone => exact absurd hnone (h.vhostResult_ne_none _ _)
    case h_2 podRes _ => exact ⟨some podRes, rfl⟩
  · split
    case h_1 hnone => exact absurd hnone (h.podResult_ne_none _)
    case h_2 podRes _ =>
      split
      · exact ⟨some podRes, rfl⟩
      · apply setupPod_ok.bind
        rintro _ ⟨podRes, rfl⟩
        exact ⟨some podRes, rfl⟩

/-- If the bridge is there and nothing fails, an ADD succeeds. -/
theorem attachTo_ok (h : result.Completes) (bridgeID : UInt16) :
  ReturnsIfOk (fun r => ∃ x, r = .ok x) (attachTo conf args result bridgeID)
  := by
  unfold attachTo
  split
  case h_1 hnone => exact absurd hnone ((gatewaysFor_ne_none_iff result).mpr h)
  case h_2 gws _ =>
    apply (assignGateways_ok bridgeID gws).bind
    rintro _ ⟨_, rfl⟩
    apply (addPort_ok bridgeID).bind
    rintro _ ⟨ifaceID, rfl⟩
    exact finishAdd_ok h ifaceID

end

/-! ### The trace of an ADD -/

section

variable {P : Policy Op} {conf : PluginConf} {args : CmdArgs} {result : Result} {w w' : World}
  {r : Reply} {es : Log} {name : GoString}

theorem env_interfaceList {a : Except GoError (List InterfaceInfo)}
    (h : Env P w (.interfaceList {}) a w') :
  w' = w ∧ ∀ ifaces, a = .ok ifaces → ifaces.Perm w.grout.ifaces
  := by
  cases a with
  | error e =>
      refine ⟨?_, by simp⟩
      rcases h with ⟨-, rfl⟩ | ⟨-, v, -, rfl⟩ <;> rfl
  | ok ifaces =>
      obtain ⟨-, hperm, rfl⟩ := h
      refine ⟨rfl, ?_⟩
      rintro _ ⟨⟩
      exact hperm

/-- Releasing the reservation changes nothing in grout. -/
theorem trace_release {err : GoError}
    (h : Trace (Env P) (do ipamDel conf args; return .error err : Prog Reply) w r es w') :
  w'.grout = w.grout
  := by
  obtain ⟨_, es₁, w₁, es₂, h₁, h₂, -⟩ := Trace.bind_iff.mp h
  obtain ⟨-, -, rfl⟩ := trace_ret.mp h₂
  obtain ⟨-, x, ht, -⟩ := trace_ignored h₁
  rcases ht.eq_or_eff with rfl | ⟨v, hv⟩
  · rfl
  · cases hv
    rfl

/-- When `InterfaceAdd` has failed, an interface of the name may be found, or there is none, unless
the list fails too. -/
theorem trace_findAfterConflict {ifaces : List InterfaceInfo} {err : GoError}
    {a : Except GoError UInt16}
    (h : Trace (Env P) (findAfterConflict ifaces name err) w a es w')
    (hok : ∀ e ∈ es, e.2.isOk = true) :
  IsOk a ∨ NoneNamed name w'.grout
  := by
  obtain ⟨a₁, es₁, w₁, ht, h₁, rfl⟩ := trace_perform_bind.mp h
  obtain ⟨rfl, hperm⟩ := env_interfaceList ht
  cases a₁ with
  | error e => cases hok _ List.mem_cons_self
  | ok ifaces2 =>
      dsimp only at h₁
      split at h₁
      case h_1 id _ =>
        obtain ⟨rfl, -⟩ := trace_ret.mp h₁
        exact .inl ⟨id, rfl⟩
      case h_2 hnone =>
        obtain ⟨-, -, rfl⟩ := trace_ret.mp h₁
        refine .inr ?_
        intro i hi
        exact findByName_none.mp hnone i ((hperm _ rfl).symm.subset hi)

/-- If there is no interface of the name, `ensureBridge` fails to list the interfaces, or it calls
`InterfaceAdd`; if nothing fails from then on, there is an id or still no interface of the
name. -/
theorem trace_ensureBridge_none {a : Except GoError UInt16} (hnone : NoneNamed name w.grout)
    (h : Trace (Env P) (ensureBridge name) w a es w') :
  (¬ IsOk a ∧ NoneNamed name w'.grout) ∨
  ∃ ifaces x es', es = ⟨.interfaceList {}, .ok ifaces⟩ ::
      ⟨.interfaceAdd { name, type := InterfaceType.bridge }, x⟩ :: es' ∧
    ((∀ e ∈ es', e.2.isOk = true) → IsOk a ∨ NoneNamed name w'.grout)
  := by
  obtain ⟨a₁, es₁, w₁, ht, h₁, rfl⟩ := trace_perform_bind.mp h
  obtain ⟨rfl, hperm⟩ := env_interfaceList ht
  cases a₁ with
  | error e =>
      obtain ⟨rfl, -, rfl⟩ := trace_ret.mp h₁
      exact .inl ⟨by rintro ⟨_, ⟨⟩⟩, hnone⟩
  | ok ifaces =>
      have hbridge : findBridgeID ifaces name = none := by
        apply findBridgeID_none.mpr
        intro i hi hname
        exact absurd hname (hnone i ((hperm _ rfl).subset hi))
      dsimp only at h₁
      rw [hbridge] at h₁
      obtain ⟨x, es₂, w₂, -, h₂, rfl⟩ := trace_perform_bind.mp h₁
      refine .inr ⟨ifaces, x, es₂, rfl, ?_⟩
      intro hok
      cases x with
      | ok id =>
          obtain ⟨rfl, -⟩ := trace_ret.mp h₂
          exact .inl ⟨id, rfl⟩
      | error e => exact trace_findAfterConflict h₂ hok

/-- From the bridge on: if nothing fails after the `InterfaceAdd` of the bridge, an ADD that finds
no interface of its name succeeds or leaves none. -/
theorem trace_attach (hnone : NoneNamed conf.bridge w.grout) (hresult : result.Completes)
    (h : Trace (Env P) (attach conf args result) w r es w')
    (hok : ∀ e ∈ afterBridge conf.bridge es, e.2.isOk = true) :
  (∃ x, r = .ok x) ∨ NoneNamed conf.bridge w'.grout
  := by
  obtain ⟨a, es₁, w₁, es₂, h₁, h₂, rfl⟩ := Trace.bind_iff.mp h
  have hfailed : NoneNamed conf.bridge w₁.grout → ¬ IsOk a → NoneNamed conf.bridge w'.grout := by
    intro hnone₁ ha
    cases a with
    | error e =>
        unfold NoneNamed
        rw [trace_release h₂]
        exact hnone₁
    | ok id => exact absurd ⟨id, rfl⟩ ha
  rcases trace_ensureBridge_none hnone h₁ with ⟨ha, hnone₁⟩ | ⟨ifaces, x, es', rfl, hnext⟩
  · exact .inr (hfailed hnone₁ ha)
  · have hafter : afterBridge conf.bridge (⟨.interfaceList {}, .ok ifaces⟩ ::
        ⟨.interfaceAdd { name := conf.bridge, type := InterfaceType.bridge }, x⟩ :: es' ++ es₂)
        = es' ++ es₂ := by
      simp [afterBridge, makesBridge]
    rw [hafter] at hok
    by_cases ha : IsOk a
    · obtain ⟨id, rfl⟩ := ha
      left
      apply (attachTo_ok hresult id).traced h₂
      intro e he
      exact hok e (List.mem_append_right _ he)
    · right
      apply hfailed _ ha
      exact (hnext fun e he => hok e (List.mem_append_left _ he)).resolve_left ha

/-- If no call of an ADD fails after the `InterfaceAdd` of its bridge, and the ADD does not panic on
the IPAM result, then an ADD that finds no interface of the name of the bridge succeeds or leaves
none. -/
theorem succeeds_or_noneNamed {log : Log} (hnone : NoneNamed conf.bridge w.grout)
    (h : Run (logged (Env P)) (handleAddBody conf args) (w, []) r (w', log))
    (hok : ∀ e ∈ afterBridge conf.bridge log, e.2.isOk = true)
    (hraw : ∀ raw, .ok raw ∈ ipamAnswers log → RawResult.Completes raw) :
  (∃ x, r = .ok x) ∨ NoneNamed conf.bridge w'.grout
  := by
  have hsame : ∀ {a w₁}, Env P w (.ipamAdd conf args) a w₁ → NoneNamed conf.bridge w₁.grout := by
    intro a w₁ ht
    rcases ht.eq_or_eff with rfl | ⟨v, hv⟩
    · exact hnone
    · cases hv
      exact hnone
  rcases run_logged_handleAddBody h with ⟨e, ht, -⟩ | ⟨raw, e, ht, -⟩ |
    ⟨raw, result, w₁, ht, hconv, hattach⟩
  · exact .inr (hsame ht)
  · exact .inr (hsame ht)
  · obtain ⟨es, rfl, htrace⟩ := run_logged_iff.mp hattach
    apply trace_attach (hsame ht) (hraw raw _ result hconv) htrace
    · intro e he
      apply hok e
      simpa [afterBridge, makesBridge] using he
    · exact List.mem_filterMap.mpr ⟨_, List.mem_cons_self, rfl⟩

end

end GroutCni
