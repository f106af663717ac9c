import GroutCni.Cni.Handler
import GroutCni.Node.World

/-!
# Histories of the node

A history is a sequence of events: calls that returned, calls that were killed, and restarts
of grout.  Calls follow one another, which is enough by `Effect.Tasks.serial_of_steps`.
-/

namespace GroutCni

open Effect

/-- What happens to the node. -/
inductive NodeEvent where
  | returned (c : Call) (r : Reply)
  | killed (c : Call)
  | restarted

/-- The call of an event. -/
def NodeEvent.call? : NodeEvent → Option Call
  | .returned c _ => some c
  | .killed c => some c
  | .restarted => none

/-- The calls of a run. -/
def callsOf (es : List NodeEvent) : List Call :=
  es.filterMap NodeEvent.call?

/-- The attachments that a call names. -/
def Call.attachments (c : Call) : List Attachment :=
  match c.command with
  | .gc => c.conf.validAttachments
  | _ => [c.args.attachment]

/-- One event; `P` says which faults may happen to the operations of a call. -/
inductive NodeStep (P : Call → Policy Op) : World → NodeEvent → World → Prop
  | returned {c : Call} {r : Reply} {w w' : World} :
      Run (Solo (Env (P c)) true) c.program w r w' → NodeStep P w (.returned c r) w'
  | killed {c : Call} {q : LockedProg Reply} {w w' : World} :
      Reach (Solo (Env (P c)) true) c.program w q w' → NodeStep P w (.killed c) w'
  | restarted (w : World) (links : List LinkState) :
      NodeStep P w .restarted { w.restart with links }

/-- What a history may be required to satisfy at each event, given the events before it and
the node before and after it. -/
abbrev Discipline : Type :=
  List NodeEvent → World → NodeEvent → World → Prop

/-- No requirement. -/
def Discipline.any : Discipline := fun _ _ _ _ => True

instance (es : List NodeEvent) (w : World) (e : NodeEvent) (w' : World) :
    Decidable (Discipline.any es w e w') :=
  isTrue trivial

/-- `History P A w₀ es w`: from `w₀` the events `es` may lead to `w`, each of them as `A`
requires. -/
inductive History (P : Call → Policy Op) (A : Discipline) (w₀ : World) :
    List NodeEvent → World → Prop
  | start : History P A w₀ [] w₀
  | step {es : List NodeEvent} {w w' : World} {e : NodeEvent} :
      History P A w₀ es w → A es w e w' → NodeStep P w e w' → History P A w₀ (es ++ [e]) w'

section

variable {P : Call → Policy Op} {A : Discipline} {c : Call} {r : Reply} {w w₀ w' : World}
  {es : List NodeEvent}

/-- A call that returned ran its body, or returned an error and changed nothing. -/
theorem NodeStep.run (h : NodeStep P w (.returned c r) w') :
  Run (Env (P c)) c.body w r w' ∨ w' = w ∧ ∃ e, r = .error e
  := by
  cases h with
  | returned h =>
      rw [c.program_eq] at h
      apply run_locked h

/-- A call that succeeded ran its body. -/
theorem NodeStep.run_ok {x : Option Result} (h : NodeStep P w (.returned c (.ok x)) w') :
  Run (Env (P c)) c.body w (.ok x) w'
  := by
  rcases h.run with h | ⟨-, e, ⟨⟩⟩
  exact h

/-- Where a call ended or was killed, its body may have been cut short. -/
theorem NodeStep.reach {e : NodeEvent} (h : NodeStep P w e w')
    (he : (∃ r, e = .returned c r) ∨ e = .killed c) :
  ∃ q, Reach (Env (P c)) c.body w q w'
  := by
  rcases he with ⟨r, rfl⟩ | rfl
  · rcases h.run with h | ⟨rfl, -⟩
    · exact ⟨_, h.reach⟩
    · exact ⟨_, .refl _ _⟩
  · cases h with
    | killed h =>
        rw [c.program_eq] at h
        apply reach_guarded h

theorem callsOf_snoc (es : List NodeEvent) (e : NodeEvent) :
  callsOf (es ++ [e]) = callsOf es ++ e.call?.toList
  := by
  cases e <;> simp [callsOf, NodeEvent.call?]

end

end GroutCni
