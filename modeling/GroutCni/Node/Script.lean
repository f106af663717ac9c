import GroutCni.Cni.Config
import GroutCni.Node.History

/-!
# Scripts

A script says how every operation of every call turns out.  `World.play` plays a script, and
what it computes is a history (`World.play_sound`).
-/

namespace GroutCni

open Effect

/-- How an operation turns out: the fault that happens to it, the id that grout hands out, and
the result that the IPAM plugin answers. -/
structure Choice where
  fault : Fault := .none
  id : UInt16 := 0
  result : RawResult := ⟨.ok {}⟩

/-- The answer and the state of an operation that succeeds as chosen. -/
def World.perform (w : World) (c : Choice) : (o : Op) → Option (o.Val × World)
  | .ipamAdd conf args =>
      some (c.result, { w with reservations := w.reservations.insert (reservationOf conf args) })
  | .ipamDel conf args =>
      some ((), { w with reservations := w.reservations.filter (· ≠ reservationOf conf args) })
  | .ipamGC conf _ => some ((), { w with reservations := w.keptReservations conf })
  | .interfaceList req => some (w.listed req, w)
  | .interfaceAdd req =>
      (w.grout.insert? (req.info c.id)).map fun grout =>
        (c.id, { w with grout, sockets := w.socketsWith req })
  | .interfaceDel id =>
      if w.grout.Unaddressed id then some ((), { w with grout := w.grout.delete id }) else none
  | .addressAdd req =>
      if req.existOK = true ∨ (req.ifaceID, req.address) ∉ w.grout.addrs then
        (w.grout.assign? req.ifaceID req.address).map fun grout => ((), { w with grout })
      else none
  | .ip4AddrFlush id =>
      some ((), { w with grout := w.grout.flush id fun a => (to4 a.ip).isSome })
  | .ip6AddrFlush id =>
      some ((), { w with grout := w.grout.flush id fun a => (to4 a.ip).isNone })
  | .mkdirAll _ => some ((), w)
  | .remove path =>
      some (decide (path ∈ w.sockets), { w with sockets := w.sockets.filter (· ≠ path) })
  | .stat path => some (decide (path ∈ w.sockets), w)
  | .getNS _ => some ((), w)
  | .nsDo _ => some ((), w)
  | .linkByName netns name => (w.findLink netns name).map fun l => (l.link, w)
  | .addrList netns name => (w.findLink netns name).map fun l => (l.addrs, w)
  | .linkSetNsFd _ _ => some ((), w)
  | .linkSetDown _ _ => some ((), w)
  | .linkSetName _ _ _ => some ((), w)
  | .linkSetMTU _ _ _ => some ((), w)
  | .linkSetHardwareAddr _ _ _ => some ((), w)
  | .configureIface _ _ _ => some ((), w)

/-- The answer and the state of an operation that turns out as chosen, if `P` allows it. -/
def World.act (P : Policy Op) (c : Choice) (w : World) (o : Op) : Option (o.Res × World) :=
  if P o c.fault = true then
    match c.fault with
    | .none => (w.perform c o).map fun x => (.ok x.1, x.2)
    | .fail => some (.error (.other "failed"), w)
    | .lost => (w.perform c o).map fun x => (.error (.other "lost"), x.2)
  else none

/-- One event of a script, with a choice for each operation of the body of a call. -/
inductive ScriptStep where
  | call (c : Call) (choices : List Choice)
  | kill (c : Call) (choices : List Choice)
  | restart

/-- Play one event. -/
def World.playStep (P : Call → Policy Op) (w : World) : ScriptStep → Option (NodeEvent × World)
  | .call c choices =>
      (exec (World.act (P c)) choices c.body w).map fun x => (.returned c x.1, x.2)
  | .kill c choices =>
      (advance (World.act (P c)) choices c.body w).map fun x => (.killed c, x.2)
  | .restart => some (.restarted, w.restart)

/-- Play a script after the events `es`, as long as every event is as `A` requires. -/
def World.play (P : Call → Policy Op) (A : Discipline)
    [∀ es w e w', Decidable (A es w e w')] (es : List NodeEvent) (w : World) :
    List ScriptStep → Option (List NodeEvent × World)
  | [] => some (es, w)
  | s :: script =>
      match w.playStep P s with
      | none => none
      | some (e, w') =>
          if A es w e w' then World.play P A (es ++ [e]) w' script else none

/-! ### What is played happens -/

section

variable {w w' : World} {o : Op} {c : Choice}

theorem World.perform_sound {v : o.Val} (h : w.perform c o = some (v, w')) :
  World.Effect w o v w'
  := by
  cases o with
  | interfaceList req =>
      cases h
      exact ⟨.refl _, rfl⟩
  | interfaceAdd req =>
      obtain ⟨grout, hg, hv⟩ := Option.map_eq_some_iff.mp h
      cases hv
      exact ⟨grout, w.links, hg, rfl⟩
  | interfaceDel id =>
      simp only [World.perform] at h
      split at h
      case isTrue hbare =>
        cases h
        exact ⟨hbare, w.links, rfl⟩
      case isFalse => cases h
  | addressAdd req =>
      simp only [World.perform] at h
      split at h
      case isTrue hnew =>
        obtain ⟨grout, hg, hv⟩ := Option.map_eq_some_iff.mp h
        cases hv
        exact ⟨hnew, grout, hg, rfl⟩
      case isFalse => cases h
  | remove path =>
      cases h
      exact ⟨rfl, rfl⟩
  | stat path =>
      cases h
      exact ⟨rfl, rfl⟩
  | linkByName netns name =>
      obtain ⟨l, hl, hv⟩ := Option.map_eq_some_iff.mp h
      cases hv
      exact ⟨⟨l, hl, rfl⟩, rfl⟩
  | addrList netns name =>
      obtain ⟨l, hl, hv⟩ := Option.map_eq_some_iff.mp h
      cases hv
      exact ⟨⟨l, hl, rfl⟩, rfl⟩
  | linkSetNsFd | linkSetDown | linkSetName | linkSetMTU | linkSetHardwareAddr
  | configureIface =>
      cases h
      exact ⟨w.links, rfl⟩
  | ipamAdd | ipamDel | ipamGC | ip4AddrFlush | ip6AddrFlush | mkdirAll | getNS | nsDo =>
      cases h
      rfl

theorem World.act_sound {P : Policy Op} (c : Choice) (w : World) (o : Op) (r : o.Res)
    (w' : World) (h : w.act P c o = some (r, w')) :
  Env P w o r w'
  := by
  unfold World.act at h
  split at h
  case isFalse => cases h
  case isTrue hP =>
    split at h
    case h_1 hf =>
      obtain ⟨⟨v, w₁⟩, hv, heq⟩ := Option.map_eq_some_iff.mp h
      cases heq
      exact ⟨hf ▸ hP, World.perform_sound hv⟩
    case h_2 hf =>
      cases h
      exact .inl ⟨hf ▸ hP, rfl⟩
    case h_3 hf =>
      obtain ⟨⟨v, w₁⟩, hv, heq⟩ := Option.map_eq_some_iff.mp h
      cases heq
      exact .inr ⟨hf ▸ hP, v, World.perform_sound hv⟩

theorem World.playStep_sound {P : Call → Policy Op} {s : ScriptStep} {e : NodeEvent}
    (h : w.playStep P s = some (e, w')) :
  NodeStep P w e w'
  := by
  cases s with
  | call c choices =>
      obtain ⟨⟨r, w₁⟩, hr, heq⟩ := Option.map_eq_some_iff.mp h
      cases heq
      apply NodeStep.returned
      rw [c.program_eq]
      exact locked_run (exec_sound World.act_sound hr)
  | kill c choices =>
      obtain ⟨⟨q, w₁⟩, hq, heq⟩ := Option.map_eq_some_iff.mp h
      cases heq
      apply NodeStep.killed
      rw [c.program_eq]
      exact locked_reach (advance_sound World.act_sound hq)
  | restart =>
      cases h
      exact .restarted w w.links

/-- What a script plays is a history. -/
theorem World.play_sound {P : Call → Policy Op} {A : Discipline}
    [∀ es w e w', Decidable (A es w e w')] {w₀ : World} {script : List ScriptStep}
    {es es' : List NodeEvent} (h : w.play P A es script = some (es', w'))
    (hw : History P A w₀ es w) :
  History P A w₀ es' w'
  := by
  induction script generalizing es w with
  | nil =>
      cases h
      exact hw
  | cons s script ih =>
      simp only [World.play] at h
      split at h
      case h_1 => cases h
      case h_2 e w₁ hs =>
        split at h
        case isTrue hA => exact ih h (hw.step hA (World.playStep_sound hs))
        case isFalse => cases h

/-- If a script ends in a state where `check` succeeds, there is a history that does. -/
theorem World.play_exists {P : Call → Policy Op} {A : Discipline}
    [∀ es w e w', Decidable (A es w e w')] {script : List ScriptStep}
    {check : List NodeEvent × World → Bool} (h : (w.play P A [] script).any check = true) :
  ∃ es w', History P A w es w' ∧ check (es, w') = true
  := by
  cases hplay : w.play P A [] script with
  | none => simp [hplay] at h
  | some x =>
      rw [hplay] at h
      exact ⟨x.1, x.2, World.play_sound hplay .start, h⟩

/-- If one more event after a script passes a check, there is a history with such an event. -/
theorem World.play_exists_step {P : Call → Policy Op} {A : Discipline}
    [∀ es w e w', Decidable (A es w e w')] {script : List ScriptStep} {s : ScriptStep}
    {check : List NodeEvent × World → NodeEvent × World → Bool}
    (h : (w.play P A [] script).any (fun x => (x.2.playStep P s).any (check x)) = true) :
  ∃ es w₁ e w₂, History P A w es w₁ ∧ NodeStep P w₁ e w₂ ∧ check (es, w₁) (e, w₂) = true
  := by
  obtain ⟨es, w₁, hw₁, hcheck⟩ := World.play_exists h
  cases hstep : w₁.playStep P s with
  | none => simp [hstep] at hcheck
  | some y =>
      simp only [hstep, Option.any_some] at hcheck
      exact ⟨es, w₁, y.1, y.2, hw₁, World.playStep_sound hstep, hcheck⟩

end

/-! ### Networks and pods for scripts -/

/-- The network `grout-shared-tap` of `deploy/nad-mixed.yaml`. -/
def sharedTap : PluginConf where
  name := lit "grout-shared-tap"
  ipamType := lit "host-local"
  groutSocketPath := defaultSocketPath
  bridge := lit "br-shared"

/-- The network `grout-shared-virtio` of `deploy/nad-mixed.yaml`, on the same bridge. -/
def sharedVirtio : PluginConf where
  name := lit "grout-shared-virtio"
  ipamType := lit "host-local"
  groutSocketPath := defaultSocketPath
  bridge := lit "br-shared"
  interfaceType := .virtio

/-- The arguments of a call for the interface `net1` of a container in a network
namespace. -/
def podIn (containerID netns : String) : CmdArgs where
  containerID := lit containerID
  netns := lit netns
  ifName := lit "net1"

/-- The arguments of a call for the interface `net1` of a container. -/
def pod (containerID : String) : CmdArgs :=
  podIn containerID ""

/-- The IPAM plugin answers one address of `10.245.0.0/24`. -/
def oneAddress (host : UInt8) : Choice where
  result := ⟨.ok { ips := [some { address := ⟨[10, 245, 0, host], [255, 255, 255, 0]⟩ }] }⟩

/-- The tables with those interfaces of a list that may be added one after another. -/
def Grout.ofList (ifaces : List InterfaceInfo) : Grout :=
  ifaces.foldl (fun g i => (g.insert? i).getD g) Grout.empty

/-- A node with the bridge `br-shared` of id 1 and a port on it for each of the containers, with
the ids from 2 on. -/
def sharedBridge (containerIDs : List String) : World where
  grout := Grout.ofList
    (⟨1, InterfaceType.bridge, lit "br-shared", 0⟩ ::
      (containerIDs.zipIdx 2).map fun x =>
        ⟨UInt16.ofNat x.2, InterfaceType.port, (pod x.1).attachment.portName, 1⟩)

/-- The node with the gateway of `10.245.0.0/24` on the interface of id 1. -/
def World.withGateway (w : World) : World :=
  { w with grout := (w.grout.assign? 1 ⟨[10, 245, 0, 1], [255, 255, 255, 0]⟩).getD w.grout }

end GroutCni
