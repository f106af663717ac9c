import GroutCni.Handlers.Add

/-!
# The log of an ADD

The operations of a run are logged with their answers.  `ipamAnswers` are the answers of the
IPAM plugin in a log, and `ipamDelCalls` the calls that release a reservation.
-/

namespace GroutCni

open Effect

/-- The answer of the IPAM plugin to an ADD, if the operation is one. -/
def ipamAnswer? : Event Op.Res → Option (Except GoError RawResult)
  | ⟨.ipamAdd _ _, r⟩ => some r
  | _ => none

/-- The answers of the IPAM plugin to an ADD. -/
def ipamAnswers (log : List (Event Op.Res)) : List (Except GoError RawResult) :=
  log.filterMap ipamAnswer?

/-- The results that the IPAM plugin has answered, converted, have well-formed addresses. -/
def WellFormedAnswers (log : List (Event Op.Res)) : Prop :=
  ∀ ans ∈ ipamAnswers log, ∀ raw ∈ ans.toOption, ∀ cniResult ∈ (convertResult raw).toOption,
    cniResult.WellFormed

instance (log : List (Event Op.Res)) : Decidable (WellFormedAnswers log) :=
  inferInstanceAs (Decidable (∀ ans ∈ ipamAnswers log, _))

/-- The call of the IPAM plugin that releases a reservation, if the operation is one. -/
def ipamDelCall? : Event Op.Res → Option (PluginConf × CmdArgs)
  | ⟨.ipamDel conf args, _⟩ => some (conf, args)
  | _ => none

/-- The calls of the IPAM plugin that release a reservation. -/
def ipamDelCalls (log : List (Event Op.Res)) : List (PluginConf × CmdArgs) :=
  log.filterMap ipamDelCall?

theorem ipamAnswers_snoc (log : List (Event Op.Res)) (e : Event Op.Res) :
  ipamAnswers (log ++ [e]) = ipamAnswers log ++ (ipamAnswer? e).toList
  := by
  rw [ipamAnswers, List.filterMap_append]
  cases h : ipamAnswer? e <;> simp [ipamAnswers, h]

theorem ipamDelCalls_snoc (log : List (Event Op.Res)) (e : Event Op.Res) :
  ipamDelCalls (log ++ [e]) = ipamDelCalls log ++ (ipamDelCall? e).toList
  := by
  rw [ipamDelCalls, List.filterMap_append]
  cases h : ipamDelCall? e <;> simp [ipamDelCalls, h]

section

variable {S : Type} {T : Behaviour Op.Res S} {conf : PluginConf} {args : CmdArgs}

/-- The IPAM plugin fails, or answers a result. -/
theorem run_delegateIPAMAdd {s s' : S} {ans : Except GoError RawResult}
    (h : Run T (delegateIPAMAdd conf args) s ans s') :
  (∃ e err, T s (.ipamAdd conf args) (.error e) s' ∧ ans = .error err) ∨
  ∃ raw : RawResult, T s (.ipamAdd conf args) (.ok raw) s' ∧ ans = .ok raw
  := by
  unfold delegateIPAMAdd at h
  rcases h with _ | @⟨_, _, _, _, _, r, _, hT, h⟩
  cases r with
  | error e =>
      cases h
      exact .inl ⟨e, _, hT, rfl⟩
  | ok raw =>
      cases h
      exact .inr ⟨raw, hT, rfl⟩

/-- A run of the body of `HandleAdd` calls the IPAM plugin, and goes on only with a result
that it can convert. -/
theorem run_logged_handleAddBody {s s' : S} {log log' : List (Event Op.Res)} {r : Reply}
    (h : Run (logged T) (handleAddBody conf args) (s, log) r (s', log')) :
  (∃ e, T s (.ipamAdd conf args) (.error e) s' ∧
    log' = log ++ [⟨.ipamAdd conf args, .error e⟩] ∧ ∃ err, r = .error err) ∨
  (∃ (raw : RawResult) (e : GoError), T s (.ipamAdd conf args) (.ok raw) s' ∧
    convertResult raw = .error e ∧ log' = log ++ [⟨.ipamAdd conf args, .ok raw⟩] ∧
    ∃ err, r = .error err) ∨
  ∃ (raw : RawResult) (cniResult : Result) (s₁ : S), T s (.ipamAdd conf args) (.ok raw) s₁ ∧
    convertResult raw = .ok cniResult ∧
    Run (logged T) (attach conf args cniResult)
      (s₁, log ++ [⟨.ipamAdd conf args, .ok raw⟩]) r (s', log')
  := by
  unfold handleAddBody at h
  obtain ⟨ans, ⟨s₁, log₁⟩, hipam, hrest⟩ := Run.bind_iff.mp h
  rcases run_delegateIPAMAdd hipam with ⟨e, err, ⟨hT, hlog⟩, rfl⟩ | ⟨raw, ⟨hT, hlog⟩, rfl⟩
  · cases hrest
    exact .inl ⟨e, hT, hlog, _, rfl⟩
  · dsimp only at hT hlog hrest
    subst hlog
    cases hconv : convertResult raw with
    | error e =>
        rw [hconv] at hrest
        cases hrest
        exact .inr (.inl ⟨raw, e, hT, hconv, rfl, _, rfl⟩)
    | ok cniResult =>
        rw [hconv] at hrest
        exact .inr (.inr ⟨raw, cniResult, s₁, hT, hconv, hrest⟩)

end

end GroutCni
