import GroutCni.Handlers.Add
import GroutCni.Node.Script

/-!
# Finding or making the bridge

`ensureBridge` looks for a bridge by its name and type, makes it if there is none, and falls
back to any interface of that name if it cannot be made.  Whichever calls fail, the id it
returns is that of an interface of that name, and the tables of grout change by at most one
bridge.
-/

namespace GroutCni

open Effect

section

variable {name : GoString} {w w' : World} {r : Except GoError UInt16}

/-- What `ensureBridge` may return, and what it may have added to the tables. -/
structure EnsuredBridge (name : GoString) (w : World) (r : Except GoError UInt16) (w' : World) :
    Prop where
  added : w'.grout = w.grout ∨
    ∃ id, r = .ok id ∧ w.grout.insert? ⟨id, InterfaceType.bridge, name, 0⟩ = some w'.grout
  found : ∀ id, r = .ok id → ∃ i ∈ w'.grout.ifaces, i.id = id ∧ i.name = name ∧
    (i.type ≠ InterfaceType.bridge → i ∈ w.grout.ifaces)

theorem EnsuredBridge.error (name : GoString) (w : World) (e : GoError) :
  EnsuredBridge name w (.error e) w
  := ⟨.inl rfl, by simp⟩

theorem EnsuredBridge.of_mem {i : InterfaceInfo} (hi : i ∈ w.grout.ifaces)
    (hname : i.name = name) :
  EnsuredBridge name w (.ok i.id) w
  := by
  refine ⟨.inl rfl, ?_⟩
  rintro _ ⟨⟩
  exact ⟨i, hi, rfl, hname, fun _ => hi⟩

theorem wp_ensureBridge :
  wp (Env Policy.mayFail) (ensureBridge name) (EnsuredBridge name w) w
  := by
  apply wpc_ensureBridge trivial
  · intro i hi hname
    exact .of_mem hi hname
  · intro e
    apply EnsuredBridge.error
  · intro id grout links hg
    refine ⟨trivial, .inr ⟨id, rfl, hg⟩, ?_⟩
    rintro _ ⟨⟩
    exact ⟨_, Grout.mem_insert? hg, rfl, rfl, fun hne => absurd rfl hne⟩
  · intro hl
    cases hl

/-- Whichever calls fail: if `ensureBridge` returns an id, it is that of an interface of the
name, which is a bridge unless it was in the table before.  The tables change by at most one
bridge of that name, whose id is returned; if an error is returned they do not change. -/
theorem ensureBridge_result
    (h : Run (Env Policy.mayFail) (ensureBridge name) w r w') :
  (∀ id, r = .ok id → ∃ i ∈ w'.grout.ifaces, i.id = id ∧ i.name = name ∧
    (i.type ≠ InterfaceType.bridge → i ∈ w.grout.ifaces)) ∧
  (w'.grout = w.grout ∨
    ∃ id, r = .ok id ∧ w.grout.insert? ⟨id, InterfaceType.bridge, name, 0⟩ = some w'.grout) ∧
  (∀ e, r = .error e → w'.grout = w.grout)
  := by
  obtain ⟨hadded, hfound⟩ := h.wp wp_ensureBridge
  refine ⟨hfound, hadded, ?_⟩
  rintro e rfl
  exact hadded.resolve_right (by simp)

end

/-- A run on choices that returns an id. -/
theorem exec_ensureBridge (name : GoString) (w : World) (choices : List Choice) (id : UInt16)
    (check : World → Bool)
    (h : (exec (World.act Policy.mayFail) choices (ensureBridge name) w).any
      (fun x => x.1.toOption == some id && check x.2) = true) :
  ∃ w', Run (Env Policy.mayFail) (ensureBridge name) w (.ok id) w' ∧ check w' = true
  := by
  obtain ⟨r, w', hrun, hcheck⟩ := exec_exists World.act_sound h
  obtain ⟨hr, hw'⟩ := Bool.and_eq_true_iff.mp hcheck
  cases r with
  | error e => cases hr
  | ok id' =>
      cases beq_iff_eq.mp hr
      exact ⟨w', hrun, hw'⟩

/-- The bridge is made on an empty node. -/
theorem ensureBridge_result_made :
  ∃ w', Run (Env Policy.mayFail) (ensureBridge (lit "br-shared")) World.initial (.ok 1) w' ∧
    ∃ i ∈ w'.grout.ifaces, i.id = 1 ∧ i.name = lit "br-shared" ∧ i.type = InterfaceType.bridge
  := by
  obtain ⟨w', hrun, -⟩ := exec_ensureBridge (lit "br-shared") World.initial
    [{}, { id := 1 }] 1 (fun _ => true) (by decide +kernel)
  obtain ⟨i, hi, hid, hname, htype⟩ := (ensureBridge_result hrun).1 1 rfl
  exact ⟨w', hrun, i, hi, hid, hname, by_contra fun hne => List.not_mem_nil (htype hne)⟩

/-- A port has the name of the bridge, so the bridge cannot be made: `ensureBridge` returns the
id of the port. -/
theorem ensureBridge_returns_port :
  ∃ w w', Run (Env Policy.mayFail) (ensureBridge (lit "br-shared")) w (.ok 7) w' ∧
    w'.grout.ifaces = [⟨7, InterfaceType.port, lit "br-shared", 0⟩]
  := by
  obtain ⟨w', hrun, hw'⟩ := exec_ensureBridge (lit "br-shared")
    { grout := Grout.ofList [⟨7, InterfaceType.port, lit "br-shared", 0⟩] }
    [{}, { fault := .fail }, {}] 7
    (fun w' => w'.grout.ifaces = [⟨7, InterfaceType.port, lit "br-shared", 0⟩])
    (by decide +kernel)
  exact ⟨_, w', hrun, of_decide_eq_true hw'⟩

end GroutCni
