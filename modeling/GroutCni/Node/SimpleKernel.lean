import GroutCni.Node.Kernel
import GroutCni.Node.Script

/-!
# A kernel that meets the assumptions

In `SimpleKernel` the link of a TAP comes and goes with its port, a link is moved only where its
name is free and renamed only while it is down, and `ConfigureIface` refuses addresses that point
at another interface.  It meets `LinkLaws`, and nodes with such a kernel can be played.
-/

namespace GroutCni

open Effect

namespace SimpleKernel

/-- Change the link of a name in a network namespace. -/
def change (k : Kernel) (netns name : GoString) (f : KernelLink → KernelLink) : Kernel :=
  List.map (fun l => if l.At netns name then f l else l) k

/-- The addresses of a result that point at an interface. -/
def pointing (result : Result) : List IPConfig :=
  (result.ips.filterMap id).filter fun ipc => ipc.interface.isSome

/-- The address points at the interface of that name. -/
def pointsAt (result : Result) (name : GoString) (ipc : IPConfig) : Bool :=
  match ipc.interface with
  | none => false
  | some n => 0 ≤ n && (result.interfaces[n.toNat]?).any fun iface => iface.name = name

/-- Whether an operation may succeed. -/
def allows (k : Kernel) : Op → Bool
  | .interfaceAdd req => !req.makesLink || (k.find [] req.name).isNone
  | .linkSetNsFd name netns => (k.find [] name).isSome && (k.find netns name).isNone
  | .linkSetDown netns name => (k.find netns name).isSome
  | .linkSetName netns name newName =>
      ((k.find netns name).any fun l => !l.link.up) && (k.find netns newName).isNone
  | .linkSetMTU netns name _ => (k.find netns name).isSome
  | .linkSetHardwareAddr netns name _ => (k.find netns name).isSome
  | .configureIface netns name result =>
      (k.find netns name).isSome && (pointing result).all (pointsAt result name)
  | _ => true

/-- The links that an operation leaves if it succeeds. -/
def next (k : Kernel) : (o : Op) → o.Val → Kernel
  | .interfaceAdd req, id =>
      if req.makesLink then ⟨⟨[], req.name, ⟨true, []⟩, []⟩, 1500, some id⟩ :: k else k
  | .interfaceDel id, _ => List.filter (fun l => l.port ≠ some id) k
  | .linkSetNsFd name netns, _ =>
      change k [] name fun l => { l with netns, link := { l.link with up := false }, addrs := [] }
  | .linkSetDown netns name, _ =>
      change k netns name fun l => { l with link := { l.link with up := false } }
  | .linkSetName netns name newName, _ => change k netns name fun l => { l with name := newName }
  | .linkSetMTU netns name mtu, _ => change k netns name fun l => { l with mtu }
  | .linkSetHardwareAddr netns name mac, _ =>
      change k netns name fun l =>
        { l with link := { l.link with mac := hardwareAddrString mac } }
  | .configureIface netns name result, _ =>
      change k netns name fun l =>
        { l with
          link := { l.link with up := true }
          addrs := l.addrs ++ (pointing result).map fun ipc => some ipc.address }
  | _, _ => k

/-- What an operation that succeeds does to the links. -/
def Effect : LinkEffect := fun o k v k' =>
  allows k o = true ∧ k' = next k o v

variable {k : Kernel} {netns name netns' name' : GoString} {f : KernelLink → KernelLink}

/-- A link that is changed is found where the change puts it. -/
theorem find_change
    (hf : ∀ l ∈ k, (if l.At netns name then f l else l).At netns' name' ↔ l.At netns name) :
  (change k netns name f).find netns' name' = (k.find netns name).map f
  := by
  unfold Kernel.find change
  induction k with
  | nil => rfl
  | cons l k ih =>
      have hhead := hf l List.mem_cons_self
      rw [List.map_cons]
      by_cases hl : l.At netns name
      · rw [List.find?_cons_of_pos (by simpa using hhead.mpr hl),
          List.find?_cons_of_pos (by simpa using hl), if_pos hl, Option.map_some]
      · rw [List.find?_cons_of_neg (by simpa using mt hhead.mp hl),
          List.find?_cons_of_neg (by simpa using hl)]
        exact ih fun l hl => hf l (List.mem_cons_of_mem _ hl)

/-- A change that leaves a link where it is. -/
theorem find_change_self (hf : ∀ l, (f l).netns = l.netns ∧ (f l).name = l.name) :
  (change k netns name f).find netns name = (k.find netns name).map f
  := by
  apply find_change
  intro l _
  split
  · rw [KernelLink.At, (hf l).1, (hf l).2]
  · rfl

theorem not_at_of_find (h : k.find netns name = none) {l : KernelLink} (hl : l ∈ k) :
  ¬ l.At netns name
  := by
  have hnone := List.find?_eq_none.mp h l hl
  simpa using hnone

/-- A change that puts a link where there is none. -/
theorem find_change_move (hfree : k.find netns' name' = none)
    (hf : ∀ l : KernelLink, l.At netns name → (f l).At netns' name') :
  (change k netns name f).find netns' name' = (k.find netns name).map f
  := by
  apply find_change
  intro l hl
  split
  case isTrue h => exact iff_of_true (hf l h) h
  case isFalse h => exact iff_of_false (not_at_of_find hfree hl) h

/-- A change elsewhere. -/
theorem find_change_other (hne : ¬ (netns = netns' ∧ name = name'))
    (hf : ∀ l ∈ k, l.At netns name → ¬ (f l).At netns' name') :
  (change k netns name f).find netns' name' = k.find netns' name'
  := by
  unfold Kernel.find change
  induction k with
  | nil => rfl
  | cons l k ih =>
      have htail := ih fun l hl => hf l (List.mem_cons_of_mem _ hl)
      rw [List.map_cons]
      by_cases hl : l.At netns name
      · have hl' : ¬ l.At netns' name' := fun h => hne ⟨hl.1.symm.trans h.1, hl.2.symm.trans h.2⟩
        rw [if_pos hl, List.find?_cons_of_neg (by simpa using hf l List.mem_cons_self hl),
          List.find?_cons_of_neg (by simpa using hl'), htail]
      · rw [if_neg hl, List.find?_cons, List.find?_cons, htail]

/-- A link that is not among those that are removed is still found. -/
theorem find_filter {p : KernelLink → Bool} {l : KernelLink} (h : k.find netns name = some l)
    (hl : p l = true) :
  Kernel.find (List.filter p k) netns name = some l
  := by
  unfold Kernel.find at h ⊢
  induction k with
  | nil => exact h
  | cons l' k ih =>
      rw [List.find?_cons] at h
      split at h
      case h_1 hat =>
        cases h
        rw [List.filter_cons_of_pos hl, List.find?_cons, hat]
      case h_2 hat =>
        rw [List.filter_cons]
        split
        · rw [List.find?_cons, hat]
          exact ih h
        · exact ih h

/-- A change that leaves links where they are is not seen elsewhere. -/
theorem find_change_apart (hne : ¬ (netns = netns' ∧ name = name'))
    (hf : ∀ l, (f l).netns = l.netns ∧ (f l).name = l.name) :
  (change k netns name f).find netns' name' = k.find netns' name'
  := by
  apply find_change_other hne
  rintro l - hat hat'
  rw [KernelLink.At, (hf l).1, (hf l).2] at hat'
  exact hne ⟨hat.1.symm.trans hat'.1, hat.2.symm.trans hat'.2⟩

/-- The link that is changed, where it was. -/
theorem has_change {l : KernelLink} (hl : k.find netns name = some l)
    (hf : ∀ l, (f l).netns = l.netns ∧ (f l).name = l.name) {φ : KernelLink → Prop} (hφ : φ (f l)) :
  Kernel.Has (change k netns name f) netns name φ
  := by
  refine ⟨f l, ?_, hφ⟩
  rw [find_change_self hf, hl, Option.map_some]

/-- The link that is changed, where the change puts it. -/
theorem has_move {l : KernelLink} (hl : k.find netns name = some l)
    (hfree : k.find netns' name' = none)
    (hf : ∀ l : KernelLink, l.At netns name → (f l).At netns' name') {φ : KernelLink → Prop}
    (hφ : φ (f l)) :
  Kernel.Has (change k netns name f) netns' name' φ
  := by
  refine ⟨f l, ?_, hφ⟩
  rw [find_change_move hfree hf, hl, Option.map_some]

/-- A link stays as it is under operations that are there for other links. -/
theorem Effect.find_eq {o : Op} {v : o.Val} {k' : Kernel} {l : KernelLink} (h : Effect o k v k')
    (ho : o.target? ≠ some (netns, name)) (hl : k.find netns name = some l)
    (hport : ∀ id, o = .interfaceDel id → l.port ≠ some id) :
  k'.find netns name = some l
  := by
  obtain ⟨hallows, rfl⟩ := h
  cases o with
  | interfaceAdd req =>
      dsimp only [next]
      split
      case isTrue hlink =>
        -- The name of the new link was free.
        have hfree : k.find [] req.name = none := by simpa [allows, hlink] using hallows
        rw [Kernel.find, List.find?_cons_of_neg]
        · exact hl
        · simp only [decide_eq_true_eq]
          rintro ⟨rfl, rfl⟩
          rw [hfree] at hl
          cases hl
      case isFalse => exact hl
  | interfaceDel id =>
      apply find_filter hl
      simpa using hport id rfl
  | linkSetNsFd name' netns' =>
      -- The link is moved where there is none.
      have hfree : k.find netns' name' = none := by
        simpa using (Bool.and_eq_true_iff.mp hallows).2
      rw [← hl]
      apply find_change_other (by simpa [Op.target?] using ho)
      rintro l' - ⟨-, rfl⟩ ⟨rfl, rfl⟩
      rw [hfree] at hl
      cases hl
  | linkSetName netns' name' newName =>
      have hfree : k.find netns' newName = none := by
        simpa using (Bool.and_eq_true_iff.mp hallows).2
      rw [← hl]
      apply find_change_other (by simpa [Op.target?] using ho)
      rintro l' - ⟨rfl, -⟩ ⟨rfl, rfl⟩
      rw [hfree] at hl
      cases hl
  | linkSetDown | linkSetMTU | linkSetHardwareAddr | configureIface =>
      rw [← hl]
      exact find_change_apart (by simpa [Op.target?] using ho) fun _ => ⟨rfl, rfl⟩
  | _ => exact hl

/-- The assumptions on links can be met. -/
theorem laws :
  LinkLaws Effect
  where
  looks := by
    intro o k v k' ho
    cases o with
    | interfaceAdd | interfaceDel | linkSetNsFd | linkSetDown | linkSetName | linkSetMTU
    | linkSetHardwareAddr | configureIface => cases ho
    | _ => exact ⟨fun h => h.2, fun h => ⟨rfl, h⟩⟩
  spares := Effect.find_eq
  interfaceAdd := by
    rintro req k id _ hlink ⟨-, rfl⟩
    dsimp only [next]
    rw [if_pos hlink]
    exact ⟨_, List.find?_cons_of_pos (decide_eq_true ⟨rfl, rfl⟩), rfl⟩
  linkSetNsFd := by
    rintro name netns k _ _ l ⟨hallows, rfl⟩ hl
    apply has_move hl
    · simpa using (Bool.and_eq_true_iff.mp hallows).2
    · rintro _ ⟨-, rfl⟩
      exact ⟨rfl, rfl⟩
    · rfl
  linkSetDown := by
    rintro netns name k _ _ l ⟨-, rfl⟩ hl
    apply has_change hl
    · intro _
      exact ⟨rfl, rfl⟩
    · rfl
  linkSetName := by
    rintro netns name newName k _ _ l ⟨hallows, rfl⟩ hl
    apply has_move hl
    · simpa using (Bool.and_eq_true_iff.mp hallows).2
    · rintro _ ⟨rfl, -⟩
      exact ⟨rfl, rfl⟩
    · rfl
  linkSetMTU := by
    rintro netns name mtu k _ _ l ⟨-, rfl⟩ hl
    apply has_change hl
    · intro _
      exact ⟨rfl, rfl⟩
    · exact ⟨rfl, rfl⟩
  linkSetHardwareAddr := by
    rintro netns name mac k _ _ l ⟨-, rfl⟩ hl
    apply has_change hl
    · intro _
      exact ⟨rfl, rfl⟩
    · exact ⟨rfl, rfl, rfl⟩
  configureIface := by
    rintro netns name result k _ _ l ⟨-, rfl⟩ hl
    apply has_change hl
    · intro _
      exact ⟨rfl, rfl⟩
    · refine ⟨rfl, rfl, rfl, rfl, ?_⟩
      intro ipc hipc hpoints
      apply List.mem_append_right
      apply List.mem_map_of_mem (f := fun ipc : IPConfig => some ipc.address)
      rw [pointing, List.mem_filter]
      exact ⟨List.mem_filterMap.mpr ⟨_, hipc, rfl⟩, Option.isSome_iff_ne_none.mpr hpoints⟩

/-- The answer and the node of an operation that succeeds as chosen. -/
def act (c : Choice) (n : KernelNode) (o : Op) : Option (o.Res × KernelNode) :=
  match n.view.perform c o with
  | none => none
  | some (v, w) => if allows n.kernel o then some (.ok v, ⟨w, next n.kernel o v⟩) else none

theorem act_sound (c : Choice) (n : KernelNode) (o : Op) (r : o.Res) (n' : KernelNode)
    (h : act c n o = some (r, n')) :
  KernelNode.Env Effect Policy.allOk n o r n'
  := by
  unfold act at h
  split at h
  case h_1 => cases h
  case h_2 v w hv =>
    split at h
    case isTrue hallows =>
      cases h
      have heff : Effect o n.kernel v (next n.kernel o v) := ⟨hallows, rfl⟩
      refine ⟨rfl, KernelNode.effect_view ?_ (World.perform_sound hv), heff⟩
      intro ho
      exact (laws.looks ho).mp heff
    case isFalse => cases h

end SimpleKernel

end GroutCni
