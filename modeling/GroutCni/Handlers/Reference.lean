import GroutCni.Api.Rendering
import GroutCni.Handlers.OverWire

/-!
# A node to run on

`Node` is a state of the node whose interfaces can be listed, and `nodeService` a grout for it that
does what messages say.  Its server realizes the node (`nodeServer_realizes`), so there are nodes
to which the results about the wire apply.
-/

namespace GroutCni

open Effect Wire Api

/-- A node whose interfaces can be listed. -/
structure Node where
  world : World
  names : ∀ i ∈ world.grout.ifaces, IsIfaceName i.name

/-- A node on which nothing has happened yet. -/
def Node.initial : Node where
  world := World.initial
  names := by
    intro i hi
    cases hi

/-- The id of the next interface. -/
def World.nextID (w : World) : UInt16 := UInt16.ofNat (w.grout.ifaces.length + 1)

/-- What grout makes of a message, unless it refuses it. -/
def Message.apply : (m : Message) → World → Option (m.Val × World)
  | .ifaceList type, w => some (w.listed ⟨type⟩, w)
  | .ifaceAdd iface, w =>
      (w.grout.insert? (iface.toInfo w.nextID)).map fun grout =>
        (w.nextID, { w with grout, sockets := iface.socket.elim w.sockets w.sockets.insert })
  | .ifaceDel id, w =>
      if w.grout.Unaddressed id then some ((), { w with grout := w.grout.delete id }) else none
  | .addrAdd f id net existOK, w =>
      if net.len.toNat ≤ 8 * f.width ∧ (existOK || !w.grout.addrs.contains (id, net.ipNet f)) then
        (w.grout.assign? id (net.ipNet f)).map fun grout => ((), { w with grout })
      else none
  | .addrDel f id net missingOK, w =>
      if missingOK || w.grout.addrs.contains (id, net.ipNet f) then
        some ((), { w with grout := w.grout.flush id fun a => a = net.ipNet f })
      else none
  | .addrFlush f id, w => some ((), { w with grout := w.grout.flush id f.has })
  | .floodList _ _, w => some ([], w)
  | .hello _ _, w => some ((), w)
  | .routeAdd _ _ _ _ _ _, w => some ((), w)
  | .routeDel _ _ _ _, w => some ((), w)
  | .floodAdd _ _, w => some ((), w)
  | .floodDel _ _, w => some ((), w)

theorem Message.apply_effect {m : Message} {w w' : World} {v : m.Val}
    (h : m.apply w = some (v, w')) :
  Message.Effect w m v w'
  := by
  cases m with
  | ifaceList type =>
      cases h
      exact ⟨.refl _, rfl⟩
  | ifaceAdd iface =>
      obtain ⟨grout, hinsert, heq⟩ := Option.map_eq_some_iff.mp h
      cases heq
      exact ⟨grout, w.links, hinsert, rfl⟩
  | ifaceDel id =>
      dsimp only [Message.apply] at h
      split at h
      case isTrue hbare =>
        cases h
        exact ⟨hbare, w.links, rfl⟩
      case isFalse => cases h
  | addrAdd f id net existOK =>
      dsimp only [Message.apply] at h
      split at h
      case isTrue hcond =>
        obtain ⟨grout, hassign, heq⟩ := Option.map_eq_some_iff.mp h
        cases heq
        exact ⟨hcond.1, by simpa using hcond.2, grout, hassign, rfl⟩
      case isFalse => cases h
  | addrDel f id net missingOK =>
      dsimp only [Message.apply] at h
      split at h
      case isTrue hcond =>
        cases h
        exact ⟨by simpa using hcond, rfl⟩
      case isFalse => cases h
  | _ =>
      cases h
      rfl

/-- The status that reports a conflict. -/
def eexist : Status := ⟨17, by decide⟩

/-- A grout that does what messages say, as long as it can list its interfaces. -/
def nodeService : Service Node := fun n m =>
  match m.apply n.world with
  | none => (.error eexist, n)
  | some (v, w) =>
      if h : ∀ i ∈ w.grout.ifaces, IsIfaceName i.name then (.ok v, ⟨w, h⟩)
      else (.error einval, n)

theorem nodeService_answered (n : Node) (m : Message) :
  m.Answered n.world (nodeService n m).1 (nodeService n m).2.world
  := by
  unfold nodeService
  cases happly : m.apply n.world with
  | none => rfl
  | some out =>
      obtain ⟨v, w⟩ := out
      dsimp only
      split
      · exact Message.apply_effect happly
      · rfl

theorem nodeService_renders (n : Node) (m : Message) (v : m.Val)
    (h : (nodeService n m).1 = .ok v) :
  m.Renders v
  := by
  have hanswered := nodeService_answered n m
  rw [h] at hanswered
  cases m with
  | ifaceList type =>
      intro iface hiface
      have hlisted : iface ∈ n.world.listed ⟨type⟩ := hanswered.1.mem_iff.mp hiface
      apply n.names
      unfold World.listed at hlisted
      split at hlisted
      · exact hlisted
      · exact List.mem_of_mem_filter hlisted
  | floodList type vrfID =>
      have hnil : v = [] := by
        unfold nodeService Message.apply at h
        dsimp only at h
        split at h
        · cases h
          rfl
        · cases h
      rw [hnil]
      intro vtep hvtep
      cases hvtep
  | _ => trivial

/-- The other operations of the plugin on a node. -/
def Node.Other (P : Policy Op) : Behaviour Op.Res Node :=
  fun n o r n' => o.isGrout = false ∧ Env P n.world o r n'.world

/-- The server of a node realizes the node. -/
theorem nodeServer_realizes (P : Policy Op) :
  Realizes (serverOf nodeService) (Node.Other P) P Node.world
  where
  answer := by
    intro n req m hparse
    obtain ⟨hconveys, hnext⟩ := serverOf_serves nodeService_renders n n req m rfl hparse
    refine ⟨_, hconveys, ?_⟩
    rw [hnext]
    exact nodeService_answered n m
  other := by
    intro n o r n' _ h
    exact h.2

end GroutCni
