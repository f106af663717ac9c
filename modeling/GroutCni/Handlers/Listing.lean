import GroutCni.Cni.Handler
import GroutCni.Node.Grout

/-!
# Reading the interface list

The interface list may come in any order.  Since names and ids are unique, what the handlers
look for in it does not depend on the order.
-/

namespace GroutCni

section

variable {α : Type} {p : α → Bool}

/-- What `find?` finds does not depend on the order when at most one element qualifies. -/
theorem find?_perm {l l' : List α} (h : l.Perm l')
    (huniq : ∀ a ∈ l, ∀ b ∈ l, p a → p b → a = b) :
  l.find? p = l'.find? p
  := by
  cases hl : l.find? p with
  | none =>
      symm
      simp only [List.find?_eq_none] at hl ⊢
      intro a ha
      apply hl a (h.symm.subset ha)
  | some a =>
      have ha := List.mem_of_find?_eq_some hl
      have hpa := List.find?_some hl
      cases hl' : l'.find? p with
      | none =>
          rw [List.find?_eq_none] at hl'
          exact absurd hpa (hl' a (h.subset ha))
      | some b =>
          have hb := h.symm.subset (List.mem_of_find?_eq_some hl')
          rw [huniq a ha b hb hpa (List.find?_some hl')]

end

/-- An interface found by its name is in the list and has that name. -/
theorem findByName_some {ifaces : List InterfaceInfo} {name : GoString} {id : UInt16}
    (h : findByName ifaces name = some id) :
  ∃ i ∈ ifaces, i.name = name ∧ i.id = id
  := by
  obtain ⟨i, hi, rfl⟩ := Option.map_eq_some_iff.mp h
  exact ⟨i, List.mem_of_find?_eq_some hi, by simpa using List.find?_some hi, rfl⟩

theorem findByName_none {ifaces : List InterfaceInfo} {name : GoString} :
  findByName ifaces name = none ↔ ∀ i ∈ ifaces, i.name ≠ name
  := by
  simp [findByName]

/-- A bridge found by its name is in the list, has that name and is a bridge. -/
theorem findBridgeID_some {ifaces : List InterfaceInfo} {name : GoString} {id : UInt16}
    (h : findBridgeID ifaces name = some id) :
  ∃ i ∈ ifaces, i.name = name ∧ i.type = InterfaceType.bridge ∧ i.id = id
  := by
  obtain ⟨i, hi, rfl⟩ := Option.map_eq_some_iff.mp h
  obtain ⟨hname, htype⟩ : i.name = name ∧ i.type = InterfaceType.bridge := by
    simpa using List.find?_some hi
  exact ⟨i, List.mem_of_find?_eq_some hi, hname, htype, rfl⟩

/-- No bridge is found when no interface of the list is a bridge of that name. -/
theorem findBridgeID_none {ifaces : List InterfaceInfo} {name : GoString} :
  findBridgeID ifaces name = none
    ↔ ∀ i ∈ ifaces, i.name = name → i.type ≠ InterfaceType.bridge
  := by
  simp [findBridgeID]

/-- A stale port is a member of the bridge with the prefix of the plugin, and is not valid. -/
theorem isStale_iff {bridgeID : UInt16} {valid : List GoString} {i : InterfaceInfo} :
  isStale bridgeID valid i = true
    ↔ i.domain = bridgeID ∧ hasPrefix i.name portPrefix = true ∧ i.name ∉ valid
  := by
  simp [isStale, and_assoc]

variable {g : Grout} {ifaces : List InterfaceInfo} {name : GoString} {id : UInt16}

theorem findPortByName_perm (h : ifaces.Perm g.ifaces) :
  findPortByName ifaces name = findPortByName g.ifaces name
  := by
  apply find?_perm h
  intro i hi j hj hin hjn
  apply g.eq_of_name (h.subset hi) (h.subset hj)
  rw [of_decide_eq_true hin, of_decide_eq_true hjn]

/-- An interface of the table is found by its name. -/
theorem findPortByName_of_mem {port : InterfaceInfo} (h : port ∈ g.ifaces) :
  findPortByName g.ifaces port.name = some port
  := by
  cases hfound : findPortByName g.ifaces port.name with
  | none => exact absurd rfl (findPortByName_none.mp hfound port h)
  | some i =>
      obtain ⟨hi, hname⟩ := findPortByName_some hfound
      rw [g.eq_of_name hi h hname]

theorem findBridgeID_perm (h : ifaces.Perm g.ifaces) :
  findBridgeID ifaces name = findBridgeID g.ifaces name
  := by
  unfold findBridgeID
  rw [find?_perm h]
  intro i hi j hj hin hjn
  apply g.eq_of_name (h.subset hi) (h.subset hj)
  rw [(of_decide_eq_true hin).1, (of_decide_eq_true hjn).1]

/-- `gcBridgeIfEmpty` deletes the id if it is that of a bridge and of no domain. -/
theorem bridgeCollectable_iff {bridgeFound : Bool} :
  bridgeCollectable id bridgeFound ifaces = true
    ↔ (bridgeFound = true ∨ ∃ i ∈ ifaces, i.id = id) ∧
      ∀ i ∈ ifaces, (i.id = id → i.type = InterfaceType.bridge) ∧ i.domain ≠ id
  := by
  induction ifaces generalizing bridgeFound with
  | nil => simp [bridgeCollectable]
  | cons i ifaces ih =>
      simp only [bridgeCollectable]
      split
      case isTrue h =>
        simp only [Bool.false_eq_true, false_iff]
        rintro ⟨-, hall⟩
        exact h.2 ((hall i List.mem_cons_self).1 h.1)
      case isFalse h =>
        split
        case isTrue hd =>
          simp only [Bool.false_eq_true, false_iff]
          rintro ⟨-, hall⟩
          exact (hall i List.mem_cons_self).2 hd
        case isFalse hd =>
          have hi : (i.id = id → i.type = InterfaceType.bridge) ∧ i.domain ≠ id :=
            ⟨fun hid => by_contra fun htype => h ⟨hid, htype⟩, hd⟩
          rw [ih, List.forall_mem_cons, and_iff_right hi]
          simp [or_assoc]

/-- `gcBridgeIfEmpty` deletes the id if it is that of a bridge without members. -/
theorem bridgeCollectable_perm (h : ifaces.Perm g.ifaces) :
  bridgeCollectable id false ifaces = true ↔ g.Collectable id
  := by
  rw [bridgeCollectable_iff]
  constructor
  · rintro ⟨hfound, hall⟩
    obtain ⟨i, hi, hid⟩ := hfound.resolve_left (by simp)
    constructor
    · exact ⟨i, h.subset hi, hid, (hall i hi).1 hid⟩
    · intro j hj
      apply (hall j (h.symm.subset hj)).2
  · rintro ⟨⟨i, hi, hid, htype⟩, hdom⟩
    refine ⟨.inr ⟨i, h.symm.subset hi, hid⟩, ?_⟩
    intro j hj
    constructor
    · intro hjd
      rw [g.eq_of_id (h.subset hj) hi (hjd.trans hid.symm)]
      exact htype
    · apply hdom j (h.subset hj)

end GroutCni
