import GroutCni.Api.Types
import Mathlib.Data.List.Nodup
import Mathlib.Data.List.Perm.Basic

/-!
# The state of grout

`Grout` is the interface table of grout with the addresses of its interfaces.  Names and ids
are unique, ids are not zero, and every address belongs to an interface, by construction.

An interface is added with `insert?`, which refuses a name or an id that is taken, and
removed by its id with `delete`.
-/

namespace GroutCni

/-- The interface table of grout, and the addresses of its interfaces. -/
@[ext]
structure Grout where
  ifaces : List InterfaceInfo
  addrs : List (UInt16 × IPNet)
  names_nodup : (ifaces.map (·.name)).Nodup
  ids_nodup : (ifaces.map (·.id)).Nodup
  id_ne_zero : ∀ i ∈ ifaces, i.id ≠ 0
  owned : ∀ x ∈ addrs, x.1 ∈ ifaces.map (·.id)

namespace Grout

/-- The table of a grout that has just started. -/
def empty : Grout where
  ifaces := []
  addrs := []
  names_nodup := List.nodup_nil
  ids_nodup := List.nodup_nil
  id_ne_zero := by simp
  owned := by simp

/-- An interface that may be added: its name and its id are not taken, and its id is not
zero. -/
def Fresh (g : Grout) (i : InterfaceInfo) : Prop :=
  i.name ∉ g.ifaces.map (·.name) ∧ i.id ∉ g.ifaces.map (·.id) ∧ i.id ≠ 0

instance (g : Grout) (i : InterfaceInfo) : Decidable (g.Fresh i) :=
  inferInstanceAs (Decidable (_ ∧ _ ∧ _))

/-- The table with a fresh interface. -/
def insert (g : Grout) (i : InterfaceInfo) (h : g.Fresh i) : Grout where
  ifaces := g.ifaces ++ [i]
  addrs := g.addrs
  names_nodup := by
    rw [List.map_append]
    apply List.Nodup.append g.names_nodup (List.nodup_singleton _)
    simpa using h.1
  ids_nodup := by
    rw [List.map_append]
    apply List.Nodup.append g.ids_nodup (List.nodup_singleton _)
    simpa using h.2.1
  id_ne_zero := by
    intro j hj
    rcases List.mem_append.mp hj with hj | hj
    · apply g.id_ne_zero j hj
    · rw [List.mem_singleton.mp hj]
      exact h.2.2
  owned := by
    intro x hx
    rw [List.map_append]
    apply List.mem_append_left _ (g.owned x hx)

/-- The table with a new interface, if it is fresh. -/
def insert? (g : Grout) (i : InterfaceInfo) : Option Grout :=
  if h : g.Fresh i then some (g.insert i h) else none

/-- The table without the interface with the given id, and without its addresses. -/
def delete (g : Grout) (id : UInt16) : Grout where
  ifaces := g.ifaces.filter fun i => i.id ≠ id
  addrs := g.addrs.filter fun x => x.1 ≠ id
  names_nodup := g.names_nodup.sublist (List.filter_sublist.map _)
  ids_nodup := g.ids_nodup.sublist (List.filter_sublist.map _)
  id_ne_zero i hi := g.id_ne_zero i (List.mem_of_mem_filter hi)
  owned := by
    intro x hx
    obtain ⟨hx, hid⟩ := List.mem_filter.mp hx
    obtain ⟨i, hi, hix⟩ := List.mem_map.mp (g.owned x hx)
    apply List.mem_map.mpr ⟨i, List.mem_filter.mpr ⟨hi, ?_⟩, hix⟩
    rw [hix]
    exact hid

/-- The table with an address assigned to the interface with the given id, if there is
one. -/
def assign? (g : Grout) (id : UInt16) (addr : IPNet) : Option Grout :=
  if h : id ∈ g.ifaces.map (·.id) then
    some { g with
      addrs := g.addrs.insert (id, addr)
      owned := by
        intro x hx
        rcases List.mem_insert_iff.mp hx with rfl | hx
        · exact h
        · apply g.owned x hx }
  else none

/-- The table without the addresses of the given id that satisfy `p`. -/
def flush (g : Grout) (id : UInt16) (p : IPNet → Bool) : Grout :=
  { g with
    addrs := g.addrs.filter fun x => !(x.1 == id && p x.2)
    owned := fun x hx => g.owned x (List.mem_of_mem_filter hx) }

/-- The interface with the given id holds no address. -/
def Unaddressed (g : Grout) (id : UInt16) : Prop :=
  ∀ x ∈ g.addrs, x.1 ≠ id

instance (g : Grout) (id : UInt16) : Decidable (g.Unaddressed id) :=
  inferInstanceAs (Decidable (∀ x ∈ g.addrs, _))

@[simp]
theorem delete_ifaces (g : Grout) (id : UInt16) :
  (g.delete id).ifaces = g.ifaces.filter fun i => i.id ≠ id
  := rfl

theorem flush_false (g : Grout) (id : UInt16) :
  g.flush id (fun _ => false) = g
  := by
  ext1
  · rfl
  · simp [flush]

theorem flush_flush (g : Grout) (id : UInt16) (p q : IPNet → Bool) :
  (g.flush id p).flush id q = g.flush id fun a => p a || q a
  := by
  ext1
  · rfl
  · simp only [flush, List.filter_filter]
    apply List.filter_congr
    intro x _
    cases x.1 == id <;> cases p x.2 <;> cases q x.2 <;> rfl

/-- Flushing addresses before deleting their interface changes nothing. -/
@[simp]
theorem flush_delete (g : Grout) (id : UInt16) (p : IPNet → Bool) :
  (g.flush id p).delete id = g.delete id
  := by
  ext1
  · rfl
  · simp only [delete, flush, List.filter_filter]
    apply List.filter_congr
    intro x _
    by_cases hx : x.1 = id <;> simp [hx]

theorem insert?_eq_some {g g' : Grout} {i : InterfaceInfo} :
  g.insert? i = some g' ↔ g.Fresh i ∧ g'.ifaces = g.ifaces ++ [i] ∧ g'.addrs = g.addrs
  := by
  unfold insert?
  split
  case isTrue h =>
    constructor
    · intro hg
      cases hg
      exact ⟨h, rfl, rfl⟩
    · rintro ⟨-, hi, ha⟩
      congr 1
      ext1
      · exact hi.symm
      · exact ha.symm
  case isFalse h => simp [h]

theorem mem_insert? {g g' : Grout} {i : InterfaceInfo} (h : g.insert? i = some g') :
  i ∈ g'.ifaces
  := by
  rw [(insert?_eq_some.mp h).2.1]
  simp

theorem assign?_eq_some {g g' : Grout} {id : UInt16} {addr : IPNet}
    (h : g.assign? id addr = some g') :
  g'.ifaces = g.ifaces ∧ g'.addrs = g.addrs.insert (id, addr)
  := by
  unfold assign? at h
  split at h
  case isTrue =>
    cases h
    exact ⟨rfl, rfl⟩
  case isFalse => cases h

/-! ### Deleting several interfaces, and collecting a bridge -/

/-- The table without the interfaces with the given ids, and without their addresses. -/
def deleteAll (g : Grout) (ids : List UInt16) : Grout where
  ifaces := g.ifaces.filter fun i => i.id ∉ ids
  addrs := g.addrs.filter fun x => x.1 ∉ ids
  names_nodup := g.names_nodup.sublist (List.filter_sublist.map _)
  ids_nodup := g.ids_nodup.sublist (List.filter_sublist.map _)
  id_ne_zero i hi := g.id_ne_zero i (List.mem_of_mem_filter hi)
  owned := by
    intro x hx
    obtain ⟨hx, hid⟩ := List.mem_filter.mp hx
    obtain ⟨i, hi, hix⟩ := List.mem_map.mp (g.owned x hx)
    apply List.mem_map.mpr ⟨i, List.mem_filter.mpr ⟨hi, ?_⟩, hix⟩
    rw [hix]
    exact hid

@[simp]
theorem mem_deleteAll {g : Grout} {ids : List UInt16} {i : InterfaceInfo} :
  i ∈ (g.deleteAll ids).ifaces ↔ i ∈ g.ifaces ∧ i.id ∉ ids
  := by
  simp [deleteAll]

theorem deleteAll_nil (g : Grout) :
  g.deleteAll [] = g
  := by
  ext1 <;> simp [deleteAll]

/-- Only which interfaces of the table have an id among those given matters. -/
theorem deleteAll_congr (g : Grout) {ids ids' : List UInt16}
    (h : ∀ i ∈ g.ifaces, i.id ∈ ids ↔ i.id ∈ ids') :
  g.deleteAll ids = g.deleteAll ids'
  := by
  ext1
  · apply List.filter_congr
    intro i hi
    simp [h i hi]
  · apply List.filter_congr
    intro x hx
    obtain ⟨i, hi, hix⟩ := List.mem_map.mp (g.owned x hx)
    simp [← hix, h i hi]

theorem delete_eq_deleteAll (g : Grout) (id : UInt16) :
  g.delete id = g.deleteAll [id]
  := by
  ext1 <;> simp [delete, deleteAll]

/-- Interfaces may be deleted one after another. -/
theorem delete_deleteAll (g : Grout) (id : UInt16) (ids : List UInt16) :
  (g.delete id).deleteAll ids = g.deleteAll (id :: ids)
  := by
  ext1
  · simp only [deleteAll, delete, List.filter_filter]
    apply List.filter_congr
    intro i _
    by_cases hi : i.id = id <;> simp [hi]
  · simp only [deleteAll, delete, List.filter_filter]
    apply List.filter_congr
    intro x _
    by_cases hx : x.1 = id <;> simp [hx]

/-- The id is that of a bridge without members. -/
def Collectable (g : Grout) (id : UInt16) : Prop :=
  (∃ i ∈ g.ifaces, i.id = id ∧ i.type = InterfaceType.bridge) ∧ ∀ i ∈ g.ifaces, i.domain ≠ id

instance (g : Grout) (id : UInt16) : Decidable (g.Collectable id) :=
  inferInstanceAs (Decidable (_ ∧ _))

/-- The table without the bridge of the given id, if it has no members. -/
def collect (g : Grout) (id : UInt16) : Grout :=
  if g.Collectable id then g.delete id else g

theorem mem_delete {g : Grout} {id : UInt16} {i : InterfaceInfo} :
  i ∈ (g.delete id).ifaces ↔ i ∈ g.ifaces ∧ i.id ≠ id
  := by
  simp

theorem mem_delete_addrs {g : Grout} {id : UInt16} {x : UInt16 × IPNet} :
  x ∈ (g.delete id).addrs ↔ x ∈ g.addrs ∧ x.1 ≠ id
  := by
  simp [delete]

theorem mem_collect {g : Grout} {id : UInt16} {i : InterfaceInfo} :
  i ∈ (g.collect id).ifaces ↔ i ∈ g.ifaces ∧ ¬ (g.Collectable id ∧ i.id = id)
  := by
  unfold collect
  split
  case isTrue h => simp [h]
  case isFalse h => simp [h]

theorem mem_collect_addrs {g : Grout} {id : UInt16} {x : UInt16 × IPNet} :
  x ∈ (g.collect id).addrs ↔ x ∈ g.addrs ∧ ¬ (g.Collectable id ∧ x.1 = id)
  := by
  unfold collect
  split
  case isTrue h => simp [h, mem_delete_addrs]
  case isFalse h => simp [h]

/-- No bridge has the id zero. -/
theorem collect_zero (g : Grout) :
  g.collect 0 = g
  := by
  apply if_neg
  rintro ⟨⟨i, hi, hid, -⟩, -⟩
  exact g.id_ne_zero i hi hid

/-! ### Unique names and ids -/

/-- An interface is determined by its name. -/
theorem eq_of_name (g : Grout) {i j : InterfaceInfo} (hi : i ∈ g.ifaces) (hj : j ∈ g.ifaces)
    (h : i.name = j.name) :
  i = j
  := List.inj_on_of_nodup_map g.names_nodup hi hj h

/-- An interface is determined by its id. -/
theorem eq_of_id (g : Grout) {i j : InterfaceInfo} (hi : i ∈ g.ifaces) (hj : j ∈ g.ifaces)
    (h : i.id = j.id) :
  i = j
  := List.inj_on_of_nodup_map g.ids_nodup hi hj h

theorem id_eq_iff_name_eq (g : Grout) {i j : InterfaceInfo} (hi : i ∈ g.ifaces)
    (hj : j ∈ g.ifaces) :
  i.id = j.id ↔ i.name = j.name
  := by
  constructor
  · intro h
    rw [g.eq_of_id hi hj h]
  · intro h
    rw [g.eq_of_name hi hj h]

section

variable {g : Grout} {i : InterfaceInfo} {l : List InterfaceInfo}

/-- Interfaces may be looked for by their ids. -/
theorem mem_map_id (hl : l ⊆ g.ifaces) (hi : i ∈ g.ifaces) :
  i.id ∈ l.map (·.id) ↔ i ∈ l
  := by
  constructor
  · intro h
    obtain ⟨j, hj, hji⟩ := List.mem_map.mp h
    rw [← g.eq_of_id (hl hj) hi hji]
    exact hj
  · apply List.mem_map_of_mem

/-- Interfaces may be looked for by their names. -/
theorem mem_map_name (hl : l ⊆ g.ifaces) (hi : i ∈ g.ifaces) :
  i.name ∈ l.map (·.name) ↔ i ∈ l
  := by
  constructor
  · intro h
    obtain ⟨j, hj, hji⟩ := List.mem_map.mp h
    rw [← g.eq_of_name (hl hj) hi hji]
    exact hj
  · apply List.mem_map_of_mem

end

/-- Deleting the id of an interface removes that interface and no other. -/
theorem mem_delete_id {g : Grout} {i j : InterfaceInfo} (hj : j ∈ g.ifaces) :
  i ∈ (g.delete j.id).ifaces ↔ i ∈ g.ifaces ∧ i ≠ j
  := by
  rw [mem_delete]
  apply and_congr_right
  intro hi
  apply not_congr
  constructor
  · apply g.eq_of_id hi hj
  · rintro rfl
    rfl

/-- A bridge that is not collectable has a member. -/
theorem exists_member {g : Grout} {b : InterfaceInfo} (hb : b ∈ g.ifaces)
    (htype : b.type = InterfaceType.bridge) (h : ¬ g.Collectable b.id) :
  ∃ m ∈ g.ifaces, m.domain = b.id
  := by
  by_contra hno
  push Not at hno
  exact h ⟨⟨b, hb, rfl, htype⟩, hno⟩

end Grout

end GroutCni
