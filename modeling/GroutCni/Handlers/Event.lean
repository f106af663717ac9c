import GroutCni.Handlers.Add
import GroutCni.Handlers.Check
import GroutCni.Handlers.Prune
import GroutCni.Node.History

/-!
# What an event does to the node

`NodeStep.shape` says once what an event may do, whichever calls fail or are lost and
whether or not the call is killed.  Invariants of histories are derived from it.
-/

namespace GroutCni

open Effect

/-- The event is a call that succeeded. -/
def NodeEvent.Succeeded (e : NodeEvent) : Prop :=
  ∃ c x, e = .returned c (.ok x)

/-- What an event may do to the node. -/
inductive StepShape (w : World) (e : NodeEvent) (w' : World) : Prop
  | add {conf : PluginConf} {args : CmdArgs} {b p : Option InterfaceInfo}
      (he : e.call? = some ⟨.add, conf, args⟩) (h : AddStage conf args w b p w')
      (hok : e.Succeeded → p ≠ none)
  | del {conf : PluginConf} {args : CmdArgs} (he : e.call? = some ⟨.del, conf, args⟩)
      (h : Pruned (·.name = args.attachment.portName) False conf.groutSocketPath w w')
  | check {conf : PluginConf} {args : CmdArgs} {links : List LinkState}
      (he : e.call? = some ⟨.check, conf, args⟩) (h : w' = { w with links })
  | gc {conf : PluginConf} {args : CmdArgs} (he : e.call? = some ⟨.gc, conf, args⟩)
      (h : Pruned (StaleAt conf w) True conf.groutSocketPath w w')
  | restarted {links : List LinkState} (he : e = .restarted)
      (h : w' = { w.restart with links })

theorem NodeEvent.call?_eq_some {e : NodeEvent} {c : Call} :
  e.call? = some c ↔ (∃ r, e = .returned c r) ∨ e = .killed c
  := by
  cases e <;> simp [NodeEvent.call?]

/-- Every event has one of the shapes. -/
theorem NodeStep.shape {P : Call → Policy Op} {w w' : World} {e : NodeEvent}
    (h : NodeStep P w e w') :
  StepShape w e w'
  := by
  cases hcall : e.call? with
  | none =>
      cases h with
      | returned => cases hcall
      | killed => cases hcall
      | restarted => exact .restarted rfl rfl
  | some c =>
      obtain ⟨q, hreach⟩ := h.reach (NodeEvent.call?_eq_some.mp hcall)
      obtain ⟨cmd, conf, args⟩ := c
      cases cmd with
      | add =>
          by_cases hok : e.Succeeded
          · obtain ⟨c, x, rfl⟩ := hok
            cases hcall
            rcases h.run_ok.wpc (wpc_handleAddBody conf args w) with
              ⟨_, ⟨⟩, -⟩ | ⟨_, _, b, i, _, hadd, -⟩
            exact .add rfl hadd fun _ => by simp
          · obtain ⟨b, p, hadd⟩ := hreach.wpc (wpc_handleAddBody conf args w)
            exact .add hcall hadd fun hs => absurd hs hok
      | del => exact .del hcall (hreach.wpc (wpc_handleDelBody conf args w))
      | check =>
          obtain ⟨links, hw⟩ := hreach.wpc (wpc_handleCheckBody conf args w)
          exact .check hcall hw
      | gc => exact .gc hcall (hreach.wpc (wpc_handleGCBody conf args w))

end GroutCni
