import GroutCni.Effect.Trace
import GroutCni.Handlers.AddLog
import GroutCni.Handlers.Exact

/-!
# DEL and GC when calls fail

What `HandleDel` and `HandleGC` do is read off the log of their operations: which interface
lists were answered, which ids they tried to delete and to flush, and which deletes succeeded.
When a call that fails changes nothing, the table they leave is the table they found without
the interfaces whose delete succeeded (`Shrunk`), whatever else they do.
-/

namespace GroutCni

open Effect

/-! ### Reading a log -/

/-- The operations performed, with their answers. -/
abbrev Log : Type := List (Event Op.Res)

section

variable {β : Type} (f : Event Op.Res → Option β)

/-- What `f` reads off the operations of a log, in order. -/
def readLog (log : Log) : List β :=
  log.filterMap f

@[simp]
theorem readLog_nil :
  readLog f [] = []
  := rfl

@[simp]
theorem readLog_cons (e : Event Op.Res) (log : Log) :
  readLog f (e :: log) = (f e).toList ++ readLog f log
  := by
  cases h : f e <;> simp [readLog, h]

@[simp]
theorem readLog_append (log log' : Log) :
  readLog f (log ++ log') = readLog f log ++ readLog f log'
  := List.filterMap_append

end

/-- The answer to an interface list, if the operation is one. -/
def listAnswer? : Event Op.Res → Option (Except GoError (List InterfaceInfo))
  | ⟨.interfaceList _, r⟩ => some r
  | _ => none

/-- The answers to the interface lists, in order. -/
abbrev listAnswers (log : Log) : List (Except GoError (List InterfaceInfo)) :=
  readLog listAnswer? log

/-- The id to delete, if the operation is a delete. -/
def triedID? : Event Op.Res → Option UInt16
  | ⟨.interfaceDel id, _⟩ => some id
  | _ => none

/-- The ids of the deletes, whether they succeeded or not. -/
abbrev triedIDs (log : Log) : List UInt16 :=
  readLog triedID? log

/-- The id to delete, if the operation is a delete that succeeded. -/
def deletedID? : Event Op.Res → Option UInt16
  | ⟨.interfaceDel id, .ok _⟩ => some id
  | _ => none

/-- The ids of the deletes that succeeded. -/
abbrev deletedIDs (log : Log) : List UInt16 :=
  readLog deletedID? log

/-- The id whose addresses to flush, if the operation is a flush. -/
def flushedID? : Event Op.Res → Option UInt16
  | ⟨.ip4AddrFlush id, _⟩ => some id
  | ⟨.ip6AddrFlush id, _⟩ => some id
  | _ => none

/-- The ids of the flushes, whether they succeeded or not. -/
abbrev flushedIDs (log : Log) : List UInt16 :=
  readLog flushedID? log

/-- The first interface list was answered, and so was the second. -/
def Relisted (log : Log) : Prop :=
  ∃ ifaces ifaces', listAnswers log = [.ok ifaces, .ok ifaces']

/-- What was deleted was tried. -/
theorem mem_triedIDs {log : Log} {id : UInt16} (h : id ∈ deletedIDs log) :
  id ∈ triedIDs log
  := by
  obtain ⟨e, he, hid⟩ := List.mem_filterMap.mp h
  apply List.mem_filterMap.mpr ⟨e, he, ?_⟩
  unfold deletedID? at hid
  split at hid
  · exact hid
  · cases hid

/-! ### What is left of the tables -/

/-- The table `g'` is `g` without the interfaces whose delete succeeded, and interfaces that
were neither deleted nor flushed keep their addresses. -/
structure Shrunk (g : Grout) (log : Log) (g' : Grout) : Prop where
  ifaces : g'.ifaces = g.ifaces.filter fun i => i.id ∉ deletedIDs log
  addrs : ∃ p, g'.addrs = g.addrs.filter p ∧
    ∀ x : UInt16 × IPNet, x.1 ∉ deletedIDs log → x.1 ∉ flushedIDs log → p x = true

namespace Shrunk

variable {g g' g'' : Grout} {log log' : Log}

theorem refl (g : Grout) (h : deletedIDs log = []) :
  Shrunk g log g
  where
  ifaces := by simp [h]
  addrs := ⟨fun _ => true, by simp, fun _ _ _ => rfl⟩

theorem trans (h : Shrunk g log g') (h' : Shrunk g' log' g'') :
  Shrunk g (log ++ log') g''
  := by
  constructor
  · rw [h'.ifaces, h.ifaces, List.filter_filter]
    apply List.filter_congr
    intro i _
    simp [Bool.and_comm]
  · obtain ⟨p, hp, hkeep⟩ := h.addrs
    obtain ⟨p', hp', hkeep'⟩ := h'.addrs
    refine ⟨fun x => p' x && p x, by rw [hp', hp, List.filter_filter], ?_⟩
    intro x hdel hflush
    simp only [readLog_append, List.mem_append, not_or] at hdel hflush
    simp [hkeep x hdel.1 hflush.1, hkeep' x hdel.2 hflush.2]

theorem mem_ifaces (h : Shrunk g log g') {i : InterfaceInfo} :
  i ∈ g'.ifaces ↔ i ∈ g.ifaces ∧ i.id ∉ deletedIDs log
  := by
  simp [h.ifaces]

/-- An interface that is left and was not flushed keeps its addresses. -/
theorem mem_addrs (h : Shrunk g log g') {i : InterfaceInfo} (hi : i ∈ g'.ifaces)
    (hflush : i.id ∉ flushedIDs log) (addr : IPNet) :
  (i.id, addr) ∈ g'.addrs ↔ (i.id, addr) ∈ g.addrs
  := by
  obtain ⟨p, hp, hkeep⟩ := h.addrs
  rw [hp, List.mem_filter, and_iff_left]
  exact hkeep _ (h.mem_ifaces.mp hi).2 hflush

/-- If no interface of the table was deleted or flushed, nothing has changed. -/
theorem eq (h : Shrunk g log g') (hdel : ∀ i ∈ g.ifaces, i.id ∉ deletedIDs log)
    (hflush : ∀ i ∈ g.ifaces, i.id ∉ flushedIDs log) :
  g' = g
  := by
  obtain ⟨p, hp, hkeep⟩ := h.addrs
  ext1
  · rw [h.ifaces]
    apply List.filter_eq_self.mpr
    simpa using hdel
  · rw [hp]
    apply List.filter_eq_self.mpr
    intro x hx
    obtain ⟨i, hi, hix⟩ := List.mem_map.mp (g.owned x hx)
    rw [hkeep x (hix ▸ hdel i hi) (hix ▸ hflush i hi)]

end Shrunk

/-- The operations that add nothing to the tables of grout. -/
def Op.Removes : Op → Prop
  | .interfaceAdd _ | .addressAdd _ => False
  | _ => True

/-- The operations that leave the tables of grout as they are. -/
def Op.KeepsGrout : Op → Prop
  | .interfaceAdd _ | .addressAdd _ | .interfaceDel _ | .ip4AddrFlush _ | .ip6AddrFlush _ => False
  | _ => True

theorem World.Effect.grout_eq {w w' : World} {o : Op} {v : o.Val} (ho : o.KeepsGrout)
    (h : World.Effect w o v w') :
  w'.grout = w.grout
  := by
  cases o <;> first
    | exact ho.elim
    | (cases h; rfl)
    | (obtain ⟨_, rfl⟩ := h; rfl)

/-- A flush keeps the interfaces, and the addresses of other interfaces. -/
theorem Shrunk.flush (g : Grout) {id : UInt16} {p : IPNet → Bool} {log : Log}
    (hdel : deletedIDs log = []) (hflush : id ∈ flushedIDs log) :
  Shrunk g log (g.flush id p)
  where
  ifaces := by simp [Grout.flush, hdel]
  addrs := by
    refine ⟨_, rfl, ?_⟩
    rintro ⟨id', addr⟩ - hid
    have hne : id' ≠ id := fun h => hid (h ▸ hflush)
    simp [hne]

/-- What one operation does to the tables of grout, when a call that fails changes nothing. -/
theorem Shrunk.step {w w' : World} {o : Op} {r : o.Res} (ho : o.Removes)
    (h : Env Policy.mayFail w o r w') :
  Shrunk w.grout [⟨o, r⟩] w'.grout
  := by
  cases r with
  | error e =>
      obtain ⟨-, rfl⟩ := h.resolve_right (by simp [Policy.mayFail])
      apply Shrunk.refl
      cases o <;> rfl
  | ok v =>
      obtain ⟨-, hv⟩ := h
      cases o with
      | interfaceAdd => exact ho.elim
      | addressAdd => exact ho.elim
      | interfaceDel id =>
          obtain ⟨-, links, rfl⟩ := hv
          constructor
          · simp [deletedID?]
          · refine ⟨_, rfl, ?_⟩
            intro x hx _
            simpa [deletedID?] using hx
      | ip4AddrFlush id =>
          cases hv
          exact Shrunk.flush (p := fun a => (to4 a.ip).isSome) w.grout rfl List.mem_cons_self
      | ip6AddrFlush id =>
          cases hv
          exact Shrunk.flush (p := fun a => (to4 a.ip).isNone) w.grout rfl List.mem_cons_self
      | _ =>
          have hw : w'.grout = w.grout := hv.grout_eq (by trivial)
          rw [hw]
          exact Shrunk.refl _ rfl

/-- What a program that adds nothing does to the tables of grout. -/
theorem Shrunk.of_trace {α : Type} {p : Prog α} (hp : p.Uses Op.Removes) {w w' : World} {a : α}
    {es : Log} (h : Trace (Env Policy.mayFail) p w a es w') :
  Shrunk w.grout es w'.grout
  := by
  apply hp.trace (R := fun w es w' => Shrunk w.grout es w'.grout) _ _ h
  · intro w
    exact Shrunk.refl _ rfl
  · intro w o r w' es w'' ho ht hes
    exact (Shrunk.step ho ht).trans hes

/-! ### Neither DEL nor GC adds anything -/

theorem gcBridgeIfEmpty_removes (id : UInt16) :
  (gcBridgeIfEmpty id).Uses Op.Removes
  := by
  apply uses_perform_bind trivial
  · intro ifaces
    dsimp only
    split
    · apply Program.Uses.bind (addressFlush_uses trivial trivial)
      intro _
      apply uses_perform_bind trivial <;> exact fun _ => trivial
    · trivial
  · exact fun _ => trivial

theorem handleDelBody_removes (conf : PluginConf) (args : CmdArgs) :
  (handleDelBody conf args).Uses Op.Removes
  := by
  have hipam : (ipamDel conf args >>= fun _ => pure (.ok none : Reply)).Uses Op.Removes :=
    ⟨trivial, fun _ => trivial⟩
  apply uses_perform_bind trivial
  · intro ifaces
    dsimp only
    split
    · apply Program.Uses.bind _ fun _ => hipam
      refine ⟨trivial, fun _ => ?_⟩
      apply Program.Uses.bind (removeVhostSocket_uses (fun _ => trivial) _ _)
      intro _
      split
      · apply gcBridgeIfEmpty_removes
      · trivial
    · exact hipam
  · exact fun _ => trivial

theorem reapLoop_removes (conf : PluginConf) (bridgeID : UInt16) (valid : List GoString)
    (reaped : Bool) (ifaces : List InterfaceInfo) :
  (reapLoop conf bridgeID valid reaped ifaces).Uses Op.Removes
  := by
  induction ifaces generalizing reaped with
  | nil => trivial
  | cons i ifaces ih =>
      unfold reapLoop
      split
      · apply uses_perform_bind trivial
        · intro _
          apply Program.Uses.bind (removeVhostSocket_uses (fun _ => trivial) _ _)
          exact fun _ => ih true
        · exact fun _ => ih reaped
      · exact ih reaped

theorem handleGCBody_removes (conf : PluginConf) (args : CmdArgs) :
  (handleGCBody conf args).Uses Op.Removes
  := by
  have hipam : (gcIPAM conf args >>= fun _ => pure (.ok none : Reply)).Uses Op.Removes :=
    ⟨trivial, fun _ => trivial⟩
  apply uses_perform_bind trivial
  · intro ifaces
    dsimp only
    split
    · exact hipam
    · apply Program.Uses.bind (reapLoop_removes _ _ _ _ _)
      intro _
      split
      · exact Program.Uses.bind (gcBridgeIfEmpty_removes _) fun _ => hipam
      · exact hipam
  · exact fun _ => trivial

/-! ### What the parts of a DEL and of a GC log -/

section

variable {S : Type} {T : Behaviour Op.Res S} {conf : PluginConf} {es : Log}

/-- What follows an interface list starts from the same state, whether the list is answered or
not. -/
theorem trace_interfaceList {α : Type} {k : Except GoError (List InterfaceInfo) → Prog α}
    {w w' : World} {a : α}
    (h : Trace (Env Policy.mayFail) (interfaceList {} >>= k) w a es w') :
  ∃ (x : Except GoError (List InterfaceInfo)) (es' : Log), es = ⟨.interfaceList {}, x⟩ :: es' ∧
    Trace (Env Policy.mayFail) (k x) w a es' w' ∧
    ∀ ifaces, x = .ok ifaces → ifaces.Perm w.grout.ifaces
  := by
  obtain ⟨x, es', w₁, ht, h', rfl⟩ := trace_perform_bind.mp h
  cases x with
  | error e =>
      obtain ⟨-, rfl⟩ := ht.resolve_right (by simp [Policy.mayFail])
      exact ⟨_, es', rfl, h', by simp⟩
  | ok ifaces =>
      obtain ⟨-, hperm, rfl⟩ := ht
      refine ⟨_, es', rfl, h', ?_⟩
      rintro _ ⟨⟩
      exact hperm

/-- A flush logs nothing but flushes of its interface. -/
theorem trace_addressFlush {id : UInt16} {s s' : S} {r : Except GoError Unit}
    (h : Trace T (addressFlush id) s r es s') :
  listAnswers es = [] ∧ triedIDs es = [] ∧ readLog ipamDelCall? es = [] ∧
    ∀ x, x ∈ flushedIDs es ↔ x = id
  := by
  obtain ⟨r₁, es₁, s₁, -, h₁, rfl⟩ := trace_perform_bind.mp h
  cases r₁ with
  | error e =>
      obtain ⟨-, rfl, -⟩ := trace_ret.mp h₁
      exact ⟨rfl, rfl, rfl, by simp [flushedID?]⟩
  | ok _ =>
      obtain ⟨r₂, es₂, s₂, -, h₂, rfl⟩ := trace_perform_bind.mp h₁
      obtain rfl : es₂ = [] := by
        cases r₂ <;> exact (trace_ret.mp h₂).2.1
      exact ⟨rfl, rfl, rfl, by simp [flushedID?]⟩

/-- What `gcBridgeIfEmpty` logs: it lists the interfaces once, and if the list is answered and the
id is that of a bridge without members, and only then, it flushes and tries to delete that id. -/
structure Collects (g : Grout) (id : UInt16) (es : Log)
    (a : Except GoError (List InterfaceInfo)) : Prop where
  lists : listAnswers es = [a]
  ipam : readLog ipamDelCall? es = []
  tried : ∀ x, x ∈ triedIDs es ↔ x = id ∧ (∃ ifaces, a = .ok ifaces) ∧ g.Collectable id
  flushed : ∀ x, x ∈ flushedIDs es ↔ x = id ∧ (∃ ifaces, a = .ok ifaces) ∧ g.Collectable id

theorem trace_gcBridgeIfEmpty {id : UInt16} {w w' : World}
    (h : Trace (Env Policy.mayFail) (gcBridgeIfEmpty id) w () es w') :
  ∃ a, Collects w.grout id es a
  := by
  obtain ⟨a, es₁, rfl, h₁, hperm⟩ := trace_interfaceList h
  refine ⟨a, ?_⟩
  cases a with
  | error e =>
      obtain ⟨-, rfl, -⟩ := trace_ret.mp h₁
      exact ⟨rfl, rfl, by simp [triedID?], by simp [flushedID?]⟩
  | ok ifaces =>
      dsimp only at h₁
      split at h₁
      case isFalse hcoll =>
        rw [bridgeCollectable_perm (hperm ifaces rfl)] at hcoll
        obtain ⟨-, rfl, -⟩ := trace_ret.mp h₁
        exact ⟨rfl, rfl, by simp [triedID?, hcoll], by simp [flushedID?, hcoll]⟩
      case isTrue hcoll =>
        rw [bridgeCollectable_perm (hperm ifaces rfl)] at hcoll
        obtain ⟨_, es₂, _, es₃, h₂, h₃, rfl⟩ := Trace.bind_iff.mp h₁
        obtain ⟨-, r, -, rfl⟩ := trace_ignored h₃
        obtain ⟨hlists, htried, hipam, hflushed⟩ := trace_addressFlush h₂
        constructor
        · simp [hlists, listAnswer?]
        · simp [hipam, ipamDelCall?]
        · intro x
          simp [htried, triedID?, hcoll]
        · intro x
          simp [hflushed, flushedID?, hcoll]

/-- The reap loop tries to delete the stale interfaces of the list, and answers whether a delete
succeeded. -/
theorem trace_reapLoop {bridgeID : UInt16} {valid : List GoString} {reaped r : Bool}
    {ifaces : List InterfaceInfo} {s s' : S}
    (h : Trace T (reapLoop conf bridgeID valid reaped ifaces) s r es s') :
  listAnswers es = [] ∧ flushedIDs es = [] ∧
    triedIDs es = (ifaces.filter (isStale bridgeID valid)).map (·.id) ∧
    (r = true ↔ reaped = true ∨ deletedIDs es ≠ [])
  := by
  induction ifaces generalizing reaped s es with
  | nil =>
      obtain ⟨rfl, rfl, -⟩ := trace_ret.mp h
      exact ⟨rfl, rfl, rfl, by simp [deletedIDs]⟩
  | cons i ifaces ih =>
      unfold reapLoop at h
      split at h
      case isFalse hi =>
        rw [List.filter_cons_of_neg hi]
        exact ih h
      case isTrue hi =>
        rw [List.filter_cons_of_pos hi, List.map_cons]
        obtain ⟨a, es₁, s₁, -, h₁, rfl⟩ := trace_perform_bind.mp h
        cases a with
        | error e =>
            obtain ⟨hlists, hflushed, htried, hr⟩ := ih h₁
            refine ⟨hlists, hflushed, ?_, hr⟩
            rw [← htried]
            rfl
        | ok _ =>
            obtain ⟨_, es₂, s₂, es₃, h₂, h₃, rfl⟩ := Trace.bind_iff.mp h₁
            obtain ⟨-, _, -, rfl⟩ := trace_ignored h₂
            obtain ⟨hlists, hflushed, htried, hr⟩ := ih h₃
            refine ⟨hlists, hflushed, ?_, ?_⟩
            · rw [← htried]
              rfl
            · simp [hr, deletedID?]

end

end GroutCni
