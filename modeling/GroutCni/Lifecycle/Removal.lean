import GroutCni.Handlers.Failing
import GroutCni.Node.Script

/-!
# What a DEL or a GC removes when calls fail

`HandleDel` and `HandleGC` first delete the ports they are after, and then the bridge if they
have emptied it.  Whichever calls fail, they try to delete exactly these, remove exactly those
whose delete succeeds, and leave everything else in the tables of grout as it was
(`RemovesExactly`).
-/

namespace GroutCni

open Effect

/-- The interface is a bridge, grout has answered the second interface list, and every member of
the bridge was a stale interface that has been deleted. -/
structure Emptied (stale : InterfaceInfo → Prop) (g : Grout) (log : Log) (b : InterfaceInfo) :
    Prop where
  type : b.type = InterfaceType.bridge
  relisted : Relisted log
  members : ∀ j ∈ g.ifaces, j.domain = b.id → stale j ∧ j.id ∈ deletedIDs log

/-- Grout is asked for its interfaces once more if the condition holds, and not otherwise. -/
def ListsAgain (again : Prop) (ifaces : List InterfaceInfo) (log : Log) : Prop :=
  (again → ∃ a, listAnswers log = [.ok ifaces, a]) ∧ (¬ again → listAnswers log = [.ok ifaces])

/-- Deletes are tried for the stale interfaces and the emptied ones, exactly those whose delete
succeeds are removed, addresses are flushed on emptied ones and on no others, and nothing else
changes. -/
structure RemovesExactly (stale emptied : InterfaceInfo → Prop) (g : Grout) (log : Log)
    (g' : Grout) : Prop where
  tried : ∀ i ∈ g.ifaces, i.id ∈ triedIDs log ↔ stale i ∨ emptied i
  removed : ∀ i, i ∈ g'.ifaces
    ↔ i ∈ g.ifaces ∧ ¬ ((stale i ∨ emptied i) ∧ i.id ∈ deletedIDs log)
  flushed : ∀ id ∈ flushedIDs log, ∃ b ∈ g.ifaces, b.id = id ∧ emptied b
  flushes : ∀ b ∈ g.ifaces, emptied b → ¬ stale b → b.id ∈ flushedIDs log
  addrs : ∀ i ∈ g'.ifaces, i.id ∉ flushedIDs log →
    ∀ addr, (i.id, addr) ∈ g'.addrs ↔ (i.id, addr) ∈ g.addrs

/-- The log of a handler that found the interfaces listed: the list, what the handler does with
it, and the call of the IPAM plugin. -/
inductive Framed (ifaces : List InterfaceInfo) (es : Log) : Log → Prop
  | del (conf : PluginConf) (args : CmdArgs) (x : Except GoError Unit) :
      Framed ifaces es (⟨.interfaceList {}, .ok ifaces⟩ :: (es ++ [⟨.ipamDel conf args, x⟩]))
  | gc (conf : PluginConf) (args : CmdArgs) (x : Except GoError Unit) :
      Framed ifaces es (⟨.interfaceList {}, .ok ifaces⟩ :: (es ++ [⟨.ipamGC conf args, x⟩]))

theorem Framed.readings {ifaces : List InterfaceInfo} {es log : Log} (h : Framed ifaces es log) :
  triedIDs log = triedIDs es ∧ deletedIDs log = deletedIDs es ∧
    flushedIDs log = flushedIDs es ∧ listAnswers log = .ok ifaces :: listAnswers es
  := by
  cases h <;> simp [triedID?, deletedID?, flushedID?, listAnswer?] <;> rfl

section

variable {stale emptied candidate : InterfaceInfo → Prop} {g g₁ g' : Grout}
  {ifaces : List InterfaceInfo} {es es₁ es₂ log : Log}

theorem Shrunk.removesExactly (h : Shrunk g es g')
    (htried : ∀ i ∈ g.ifaces, i.id ∈ triedIDs es ↔ stale i ∨ emptied i)
    (hflushed : ∀ id ∈ flushedIDs es, ∃ b ∈ g.ifaces, b.id = id ∧ emptied b)
    (hflushes : ∀ b ∈ g.ifaces, emptied b → ¬ stale b → b.id ∈ flushedIDs es) :
  RemovesExactly stale emptied g es g'
  where
  tried := htried
  removed i := by
    rw [h.mem_ifaces]
    apply and_congr_right
    intro hi
    rw [← htried i hi]
    exact not_congr ⟨fun hdel => ⟨mem_triedIDs hdel, hdel⟩, fun hdel => hdel.2⟩
  flushed := hflushed
  flushes := hflushes
  addrs _ hi hflush := h.mem_addrs hi hflush

/-- Only stale interfaces are removed if there is no bridge to look at. -/
theorem Framed.removesExactly_stale (hlog : Framed ifaces es log) (h : Shrunk g log g')
    (hstale : ∀ i ∈ g.ifaces, i.id ∈ triedIDs es ↔ stale i) (hflushed : flushedIDs es = [])
    (hno : ∀ b ∈ g.ifaces, ¬ candidate b) :
  RemovesExactly stale (fun b => candidate b ∧ Emptied stale g log b) g log g'
  := by
  obtain ⟨htried, -, hflushed', -⟩ := hlog.readings
  apply h.removesExactly
  · intro i hi
    rw [htried, hstale i hi, or_iff_left fun hcand => hno i hi hcand.1]
  · simp [hflushed', hflushed]
  · intro b hb hcand
    exact absurd hcand.1 (hno b hb)

variable {id : UInt16} {a : Except GoError (List InterfaceInfo)}

/-- A handler that has looked at a bridge has listed the interfaces twice. -/
theorem Collects.listAnswers_eq (hc : Collects g₁ id es₂ a)
    (hlog : Framed ifaces (es₁ ++ es₂) log) (hlists : listAnswers es₁ = []) :
  listAnswers log = [.ok ifaces, a]
  := by
  obtain ⟨-, -, -, h⟩ := hlog.readings
  simpa only [readLog_append, hlists, hc.lists, List.nil_append] using h

/-- A bridge that is left without members by deletes of stale interfaces has been emptied. -/
theorem exists_emptied (hg₁ : Shrunk g es₁ g₁)
    (hstale : ∀ i ∈ g.ifaces, i.id ∈ triedIDs es₁ ↔ stale i)
    (hdel : deletedIDs es = deletedIDs es₁ ++ deletedIDs es₂) (hrelisted : Relisted es)
    (hcoll : g₁.Collectable id) :
  ∃ b ∈ g.ifaces, b.id = id ∧ Emptied stale g es b
  := by
  obtain ⟨⟨b, hb, rfl, htype⟩, hmembers⟩ := hcoll
  refine ⟨b, (hg₁.mem_ifaces.mp hb).1, rfl, htype, hrelisted, ?_⟩
  intro j hj hdom
  have hjdel : j.id ∈ deletedIDs es₁ := by
    by_contra hno
    exact hmembers j (hg₁.mem_ifaces.mpr ⟨hj, hno⟩) hdom
  refine ⟨(hstale j hj).mp (mem_triedIDs hjdel), ?_⟩
  rw [hdel]
  exact List.mem_append_left _ hjdel

/-- A bridge that has been emptied, and is not stale itself, is tried. -/
theorem Collects.tried_of_emptied (hc : Collects g₁ id es₂ a) (hg₁ : Shrunk g es₁ g₁)
    (hstale : ∀ i ∈ g.ifaces, i.id ∈ triedIDs es₁ ↔ stale i)
    (hdel : deletedIDs es = deletedIDs es₁ ++ deletedIDs es₂)
    (hlists : listAnswers es = [.ok ifaces, a]) {b : InterfaceInfo} (hb : b ∈ g.ifaces)
    (hid : b.id = id) (hno : ¬ stale b) (hemptied : Emptied stale g es b) :
  b.id ∈ triedIDs es₂
  := by
  obtain ⟨htype, ⟨_, ifaces', hre⟩, hmembers⟩ := hemptied
  obtain ⟨-, rfl⟩ : _ ∧ a = .ok ifaces' := by simpa [hlists] using hre
  have hb₁ : b ∈ g₁.ifaces := by
    apply hg₁.mem_ifaces.mpr ⟨hb, ?_⟩
    intro hbdel
    exact hno ((hstale b hb).mp (mem_triedIDs hbdel))
  apply (hc.tried _).mpr
  by_cases hcoll : g₁.Collectable id
  · exact ⟨hid, ⟨ifaces', rfl⟩, hcoll⟩
  · -- a member that is left was deleted later, which only happens to a bridge without members
    rw [← hid] at hcoll
    obtain ⟨j, hj, hdom⟩ := Grout.exists_member hb₁ htype hcoll
    obtain ⟨hjg, hjkept⟩ := hg₁.mem_ifaces.mp hj
    have hjdel := (hmembers j hjg hdom).2
    rw [hdel, List.mem_append] at hjdel
    obtain ⟨-, hrest⟩ := (hc.tried _).mp (mem_triedIDs (hjdel.resolve_left hjkept))
    exact ⟨hid, hrest⟩

/-- The stale interfaces are removed, and then the bridge with the given id if it has been
emptied. -/
theorem Collects.removesExactly (hc : Collects g₁ id es₂ a)
    (hlog : Framed ifaces (es₁ ++ es₂) log) (h : Shrunk g log g')
    (hg₁ : Shrunk g es₁ g₁) (hstale : ∀ i ∈ g.ifaces, i.id ∈ triedIDs es₁ ↔ stale i)
    (hflushed : flushedIDs es₁ = []) (hlists : listAnswers es₁ = [])
    (hcand : ∀ b ∈ g.ifaces, b.id = id ↔ candidate b) :
  RemovesExactly stale (fun b => candidate b ∧ Emptied stale g log b) g log g'
  := by
  obtain ⟨htried, hdel, hflushed', -⟩ := hlog.readings
  simp only [readLog_append, hflushed, List.nil_append] at htried hdel hflushed'
  have hlists' := hc.listAnswers_eq hlog hlists
  have hemptied : (∃ ifaces, a = .ok ifaces) → g₁.Collectable id →
      ∃ b ∈ g.ifaces, b.id = id ∧ candidate b ∧ Emptied stale g log b := by
    rintro ⟨ifaces', rfl⟩ hcoll
    obtain ⟨b, hb, hid, hb'⟩ := exists_emptied hg₁ hstale hdel ⟨_, _, hlists'⟩ hcoll
    exact ⟨b, hb, hid, (hcand b hb).mp hid, hb'⟩
  apply h.removesExactly
  · intro i hi
    rw [htried, List.mem_append, hstale i hi]
    constructor
    · rintro (hs | hi₂)
      · exact .inl hs
      · obtain ⟨hid, ha, hcoll⟩ := (hc.tried _).mp hi₂
        obtain ⟨b, hb, hbid, hb'⟩ := hemptied ha hcoll
        rw [g.eq_of_id hi hb (hid.trans hbid.symm)]
        exact .inr hb'
    · rintro (hs | ⟨hci, hi'⟩)
      · exact .inl hs
      · by_cases hs : stale i
        · exact .inl hs
        · exact .inr (hc.tried_of_emptied hg₁ hstale hdel hlists' hi ((hcand i hi).mpr hci) hs hi')
  · intro x hx
    rw [hflushed'] at hx
    obtain ⟨rfl, ha, hcoll⟩ := (hc.flushed x).mp hx
    exact hemptied ha hcoll
  · intro b hb hb' hs
    have hb₂ := hc.tried_of_emptied hg₁ hstale hdel hlists' hb ((hcand b hb).mpr hb'.1) hs hb'.2
    rw [hflushed']
    exact (hc.flushed _).mpr ((hc.tried _).mp hb₂)

end

/-! ### GC -/

section

variable {conf : PluginConf} {args : CmdArgs} {w w' : World} {r : Reply} {es : Log}

/-- The bridge of the network, if a GC has reaped a port and emptied it. -/
def EmptiedByGC (conf : PluginConf) (g : Grout) (log : Log) (b : InterfaceInfo) : Prop :=
  (b.name = conf.bridge ∧ ∃ p ∈ g.stalePorts conf, p.id ∈ deletedIDs log) ∧
    Emptied (· ∈ g.stalePorts conf) g log b

/-- Every interface list finds the same stale ports. -/
theorem mem_map_id_stale {g : Grout} {ifaces : List InterfaceInfo} (hperm : ifaces.Perm g.ifaces)
    {bridgeID : UInt16} (hfound : findBridgeID g.ifaces conf.bridge = some bridgeID)
    {i : InterfaceInfo} (hi : i ∈ g.ifaces) :
  i.id ∈ (ifaces.filter (isStale bridgeID conf.validNames)).map (·.id)
    ↔ i ∈ g.stalePorts conf
  := by
  have hsub : ifaces.filter (isStale bridgeID conf.validNames) ⊆ g.ifaces :=
    List.Subset.trans List.filter_sublist.subset hperm.subset
  rw [Grout.mem_map_id hsub hi, List.mem_filter, Grout.mem_stalePorts hfound, hperm.mem_iff]

/-- A delete of the reap loop that succeeded is one of a stale port. -/
theorem exists_reaped {g : Grout} {ifaces : List InterfaceInfo} {bridgeID : UInt16}
    (hperm : ifaces.Perm g.ifaces) (hfound : findBridgeID g.ifaces conf.bridge = some bridgeID)
    (htried : triedIDs es = (ifaces.filter (isStale bridgeID conf.validNames)).map (·.id))
    (hdel : deletedIDs es ≠ []) :
  ∃ p ∈ g.stalePorts conf, p.id ∈ deletedIDs es
  := by
  obtain ⟨id, hid⟩ := List.exists_mem_of_ne_nil _ hdel
  have hmem := mem_triedIDs hid
  rw [htried] at hmem
  obtain ⟨p, hp, rfl⟩ := List.mem_map.mp hmem
  refine ⟨p, ?_, hid⟩
  obtain ⟨hpi, hstale⟩ := List.mem_filter.mp hp
  exact (Grout.mem_stalePorts hfound).mpr ⟨hperm.subset hpi, hstale⟩

/-- A GC that has found the bridge reaps the stale ports, and collects the bridge if it has
reaped one and emptied it. -/
theorem trace_reap {ifaces : List InterfaceInfo} (hperm : ifaces.Perm w.grout.ifaces)
    {bridgeID : UInt16} (hfound : findBridgeID w.grout.ifaces conf.bridge = some bridgeID)
    {log : Log} (hlog : log = ⟨.interfaceList {}, .ok ifaces⟩ :: es)
    (hg : Shrunk w.grout log w'.grout)
    (h : Trace (Env Policy.mayFail) (do
      let reaped ← reapLoop conf bridgeID conf.validNames false ifaces
      if reaped then gcBridgeIfEmpty bridgeID
      gcIPAM conf args
      return .ok none : Prog Reply) w r es w') :
  r = .ok none ∧ ListsAgain (∃ p ∈ w.grout.stalePorts conf, p.id ∈ deletedIDs log) ifaces log ∧
    RemovesExactly (· ∈ w.grout.stalePorts conf) (EmptiedByGC conf w.grout log) w.grout log
      w'.grout
  := by
  obtain ⟨reaped, es₁, w₁, es₂, h₁, h₂, rfl⟩ := Trace.bind_iff.mp h
  obtain ⟨hlists, hflushed, htried, hreaped⟩ := trace_reapLoop h₁
  have hstale : ∀ i ∈ w.grout.ifaces, i.id ∈ triedIDs es₁ ↔ i ∈ w.grout.stalePorts conf := by
    intro i hi
    rw [htried, mem_map_id_stale hperm hfound hi]
  split at h₂
  case isFalse hno =>
    have hdel : deletedIDs es₁ = [] := by simpa [hno] using hreaped
    obtain ⟨rfl, x, -, rfl⟩ := trace_ignored h₂
    have hframed : Framed ifaces es₁ log := hlog ▸ .gc conf args x
    obtain ⟨-, hdel', -, hlists'⟩ := hframed.readings
    rw [hlists] at hlists'
    have hnone : ¬ ∃ p ∈ w.grout.stalePorts conf, p.id ∈ deletedIDs log := by
      rintro ⟨p, -, hp⟩
      rw [hdel', hdel] at hp
      cases hp
    refine ⟨rfl, ⟨fun h => absurd h hnone, fun _ => hlists'⟩,
      hframed.removesExactly_stale hg hstale hflushed ?_⟩
    rintro b - ⟨-, hp⟩
    exact hnone hp
  case isTrue hyes =>
    have hdel : deletedIDs es₁ ≠ [] := by simpa [hyes] using hreaped
    obtain ⟨_, es₃, w₃, es₄, h₃, h₄, rfl⟩ := Trace.bind_iff.mp h₂
    obtain ⟨rfl, x, -, rfl⟩ := trace_ignored h₄
    obtain ⟨a, hc⟩ := trace_gcBridgeIfEmpty h₃
    have hframed : Framed ifaces (es₁ ++ es₃) log := by
      rw [hlog, ← List.append_assoc]
      exact .gc conf args x
    obtain ⟨-, hdel', -, -⟩ := hframed.readings
    obtain ⟨b₀, hb₀, hname, -, rfl⟩ := findBridgeID_some hfound
    have hsome : ∃ p ∈ w.grout.stalePorts conf, p.id ∈ deletedIDs log := by
      obtain ⟨p, hp, hpdel⟩ := exists_reaped hperm hfound htried hdel
      refine ⟨p, hp, ?_⟩
      rw [hdel']
      simp [hpdel]
    refine ⟨rfl, ⟨fun _ => ⟨a, hc.listAnswers_eq hframed hlists⟩, fun h => absurd hsome h⟩,
      hc.removesExactly hframed hg (Shrunk.of_trace (reapLoop_removes _ _ _ _ _) h₁) hstale
        hflushed hlists ?_⟩
    intro b hb
    rw [w.grout.id_eq_iff_name_eq hb hb₀, hname]
    exact ⟨fun hb => ⟨hb, hsome⟩, fun hb => hb.1⟩

/-- A GC lists the interfaces; if that fails it does nothing, and else it removes the stale
ports and the bridge if it has emptied it. -/
theorem trace_handleGCBody
    (h : Trace (Env Policy.mayFail) (handleGCBody conf args) w r es w') :
  (∃ e err, (listAnswers es).head? = some (.error e) ∧ r = .error err ∧ w' = w) ∨
  (∃ ifaces, (listAnswers es).head? = some (.ok ifaces) ∧ r = .ok none ∧
    ListsAgain (∃ p ∈ w.grout.stalePorts conf, p.id ∈ deletedIDs es) ifaces es ∧
    RemovesExactly (· ∈ w.grout.stalePorts conf) (EmptiedByGC conf w.grout es) w.grout es
      w'.grout)
  := by
  have hg := Shrunk.of_trace (handleGCBody_removes conf args) h
  obtain ⟨a, es₁, rfl, h₁, hlist⟩ := trace_interfaceList h
  cases a with
  | error e =>
      obtain ⟨rfl, rfl, rfl⟩ := trace_ret.mp h₁
      exact .inl ⟨e, _, rfl, rfl, rfl⟩
  | ok ifaces =>
      have hperm := hlist ifaces rfl
      refine .inr ⟨ifaces, rfl, ?_⟩
      dsimp only at h₁
      rw [findBridgeID_perm hperm] at h₁
      cases hfound : findBridgeID w.grout.ifaces conf.bridge with
      | none =>
          have hnil : w.grout.stalePorts conf = [] := by rw [Grout.stalePorts, hfound]
          rw [hfound] at h₁
          obtain ⟨rfl, x, -, rfl⟩ := trace_ignored h₁
          have hframed : Framed ifaces [] _ := .gc conf args x
          refine ⟨rfl, ⟨?_, fun _ => hframed.readings.2.2.2⟩,
            hframed.removesExactly_stale hg ?_ rfl ?_⟩
          · rintro ⟨p, hp, -⟩
            simp [hnil] at hp
          · intro i _
            simp [hnil]
          · rintro b - ⟨-, p, hp, -⟩
            simp [hnil] at hp
      | some bridgeID =>
          rw [hfound] at h₁
          exact trace_reap hperm hfound rfl hg h₁

/-- If nothing is stale or has been emptied, nothing changes in the tables of grout. -/
theorem RemovesExactly.eq {stale emptied : InterfaceInfo → Prop} {g g' : Grout}
    (h : RemovesExactly stale emptied g es g') (hg : Shrunk g es g')
    (hstale : ∀ i ∈ g.ifaces, ¬ stale i) (hemptied : ∀ i ∈ g.ifaces, ¬ emptied i) :
  g' = g
  := by
  apply hg.eq
  · intro i hi hdel
    rcases (h.tried i hi).mp (mem_triedIDs hdel) with hs | hb
    · exact hstale i hi hs
    · exact hemptied i hi hb
  · intro i _ hflush
    obtain ⟨b, hb, -, hb'⟩ := h.flushed _ hflush
    exact hemptied b hb hb'

/-- Removing interfaces makes no port stale. -/
theorem Grout.stalePorts_mono {g g' : Grout} (hsub : g'.ifaces ⊆ g.ifaces) {i : InterfaceInfo}
    (hi : i ∈ g'.stalePorts conf) :
  i ∈ g.stalePorts conf
  := by
  cases hfound' : findBridgeID g'.ifaces conf.bridge with
  | none =>
      rw [Grout.stalePorts, hfound'] at hi
      simp at hi
  | some id =>
      obtain ⟨hi', hstale⟩ := (Grout.mem_stalePorts hfound').mp hi
      obtain ⟨b', hb', hname', htype', rfl⟩ := findBridgeID_some hfound'
      cases hfound : findBridgeID g.ifaces conf.bridge with
      | none => exact absurd htype' (findBridgeID_none.mp hfound b' (hsub hb') hname')
      | some id =>
          obtain ⟨b, hb, hname, -, rfl⟩ := findBridgeID_some hfound
          rw [g.eq_of_name (hsub hb') hb (hname'.trans hname.symm)] at hstale
          exact (Grout.mem_stalePorts hfound).mpr ⟨hsub hi', hstale⟩

/-- A GC in which every call succeeds leaves no stale ports. -/
theorem Grout.stalePorts_afterGC (g : Grout) (conf : PluginConf) :
  (g.afterGC conf).stalePorts conf = []
  := by
  apply List.eq_nil_iff_forall_not_mem.mpr
  intro i hi
  have hmem := ((g.afterGC conf).stalePorts_sublist conf).subset hi
  unfold Grout.afterGC at hi hmem
  split at hi
  case h_1 hfound =>
    rw [Grout.stalePorts, hfound] at hi
    simp at hi
  case h_2 bridgeID hfound =>
    simp only [hfound] at hmem
    split at hi
    case isTrue hnil => simp [hnil] at hi
    case isFalse hne =>
      simp only [hne, if_false, Grout.mem_collect, Grout.mem_deleteAll] at hmem
      apply hmem.1.2
      apply List.mem_map_of_mem
      apply Grout.stalePorts_mono _ hi
      intro j hj
      exact (Grout.mem_deleteAll.mp (Grout.mem_collect.mp hj).1).1

/-- A GC that finds no stale ports changes nothing in the tables of grout. -/
theorem handleGCBody_grout_eq (hnil : w.grout.stalePorts conf = [])
    (h : Run (Env Policy.mayFail) (handleGCBody conf args) w r w') :
  w'.grout = w.grout
  := by
  obtain ⟨es, h⟩ := h.exists_trace
  rcases trace_handleGCBody h with ⟨_, _, -, -, rfl⟩ | ⟨_, -, -, -, hexact⟩
  · rfl
  · apply hexact.eq (Shrunk.of_trace (handleGCBody_removes conf args) h)
    · intro i _
      simp [hnil]
    · rintro b - ⟨⟨-, p, hp, -⟩, -⟩
      simp [hnil] at hp

/-- Whichever calls of a GC fail, it returns an error and does nothing if the first interface
list fails.  Else it succeeds, lists the interfaces again exactly if it has deleted a stale port,
and removes exactly the stale ports whose delete succeeds, and the bridge if it has thereby been
emptied and its delete succeeds.  After a GC in which no call fails, another one changes
nothing. -/
theorem handleGC_exact {log : Log}
    (h : Run (Solo (logged (Env Policy.mayFail)) false) (handleGC conf args) (w, []) r (w', log)) :
  ((∃ e err, (listAnswers log).head? = some (.error e) ∧ r = .error err ∧ w' = w) ∨
    (∃ ifaces, (listAnswers log).head? = some (.ok ifaces) ∧ r = .ok none ∧
      ListsAgain (∃ p ∈ w.grout.stalePorts conf, p.id ∈ deletedIDs log) ifaces log ∧
      RemovesExactly (· ∈ w.grout.stalePorts conf) (EmptiedByGC conf w.grout log) w.grout log
        w'.grout)) ∧
  ∀ r₁ w₁ r₂ w₂, Run (Solo (Env Policy.allOk) false) (handleGC conf args) w r₁ w₁ →
    Run (Solo (Env Policy.mayFail) false) (handleGC conf args) w₁ r₂ w₂ →
    w₂.grout = w₁.grout
  := by
  constructor
  · rcases run_guarded.mp h with h | ⟨⟨⟩, -⟩
    obtain ⟨es, hes, h⟩ := run_logged_iff.mp h
    obtain rfl : log = es := hes
    exact trace_handleGCBody h
  · intro r₁ w₁ r₂ w₂ h₁ h₂
    obtain ⟨-, links, rfl⟩ := run_handleGC_allOk h₁
    rcases run_guarded.mp h₂ with h₂ | ⟨⟨⟩, -⟩
    exact handleGCBody_grout_eq (w.grout.stalePorts_afterGC conf) h₂

end

/-- The delete of one of two stale ports fails: the other is removed, and the bridge stays.  If both
deletes succeed, the bridge is flushed and removed with them. -/
theorem handleGC_exact_two_stale :
  (∃ w' log, Run (Solo (logged (Env Policy.mayFail)) false) (handleGC sharedTap (pod ""))
      (sharedBridge ["a", "b"], []) (.ok none) (w', log) ∧
    w'.grout.ifaces.map (·.id) = [1, 2] ∧
    RemovesExactly (· ∈ (sharedBridge ["a", "b"]).grout.stalePorts sharedTap)
      (EmptiedByGC sharedTap (sharedBridge ["a", "b"]).grout log) (sharedBridge ["a", "b"]).grout
      log w'.grout) ∧
  ∃ w' log, Run (Solo (logged (Env Policy.mayFail)) false) (handleGC sharedTap (pod ""))
      ((sharedBridge ["a", "b"]).withGateway, []) (.ok none) (w', log) ∧
    w'.grout.ifaces = [] ∧ 1 ∈ deletedIDs log ∧ 1 ∈ flushedIDs log ∧
    ∃ b ∈ (sharedBridge ["a", "b"]).withGateway.grout.ifaces,
      EmptiedByGC sharedTap (sharedBridge ["a", "b"]).withGateway.grout log b
  := by
  constructor
  · have hexec : (exec (loggedAct (World.act Policy.mayFail))
        [{}, { fault := .fail }, {}, {}, {}, {}] (handleGCBody sharedTap (pod ""))
        (sharedBridge ["a", "b"], [])).any
        (fun x => x.2.1.grout.ifaces.map (·.id) = [1, 2] ∧
          (listAnswers x.2.2).map (·.toOption.isSome) = [true, true]) = true := by
      decide +kernel
    obtain ⟨r, ⟨w', log⟩, hrun, hcheck⟩ := exec_exists (loggedAct_sound World.act_sound) hexec
    obtain ⟨hids, hlists⟩ := of_decide_eq_true hcheck
    have hgc : Run (Solo (logged (Env Policy.mayFail)) false) (handleGC sharedTap (pod ""))
        (sharedBridge ["a", "b"], []) r (w', log) := locked_run hrun
    rcases (handleGC_exact hgc).1 with ⟨e, _, hhead, -⟩ | ⟨_, -, rfl, -, hexact⟩
    · obtain ⟨as, has⟩ := List.head?_eq_some_iff.mp hhead
      simp [has, Except.toOption] at hlists
    · exact ⟨w', log, hgc, hids, hexact⟩
  · have hexec : (exec (loggedAct (World.act Policy.mayFail))
        [{}, {}, {}, {}, {}, {}, {}, {}, {}, { fault := .fail }] (handleGCBody sharedTap (pod ""))
        ((sharedBridge ["a", "b"]).withGateway, [])).any
        (fun x => x.2.1.grout.ifaces = [] ∧ 1 ∈ deletedIDs x.2.2 ∧ 1 ∈ flushedIDs x.2.2 ∧
          (listAnswers x.2.2).map (·.toOption.isSome) = [true, true]) = true := by
      decide +kernel
    obtain ⟨r, ⟨w', log⟩, hrun, hcheck⟩ := exec_exists (loggedAct_sound World.act_sound) hexec
    obtain ⟨hnil, hdel, hflush, hlists⟩ := of_decide_eq_true hcheck
    have hgc : Run (Solo (logged (Env Policy.mayFail)) false) (handleGC sharedTap (pod ""))
        ((sharedBridge ["a", "b"]).withGateway, []) r (w', log) := locked_run hrun
    rcases (handleGC_exact hgc).1 with ⟨e, _, hhead, -⟩ | ⟨_, -, rfl, -, hexact⟩
    · obtain ⟨as, has⟩ := List.head?_eq_some_iff.mp hhead
      simp [has, Except.toOption] at hlists
    · obtain ⟨b, hb, -, hemptied⟩ := hexact.flushed 1 hflush
      exact ⟨w', log, hgc, hnil, hdel, hflush, b, hb, hemptied⟩

/-! ### DEL -/

section

variable {conf : PluginConf} {args : CmdArgs} {w w' : World} {r : Reply} {es : Log}

/-- The bridge of the port with the given name, if a DEL of the port has emptied it. -/
def EmptiedByDel (name : GoString) (g : Grout) (log : Log) (b : InterfaceInfo) : Prop :=
  (∃ port ∈ g.ifaces, port.name = name ∧ port.domain = b.id ∧ b.id ≠ 0) ∧
    Emptied (·.name = name) g log b

/-- A DEL that has found the port tries to delete it, and then looks at the bridge of the port
unless the port has none. -/
theorem trace_deletePort {name : GoString} {port : InterfaceInfo}
    (h : Trace (Env Policy.mayFail) (deletePort conf name port) w () es w') :
  ∃ es₁ es₂, es = es₁ ++ es₂ ∧ triedIDs es₁ = [port.id] ∧ listAnswers es₁ = [] ∧
    flushedIDs es₁ = [] ∧ ipamDelCalls (es₁ ++ es₂) = [] ∧
    ((port.domain = 0 ∧ es₂ = []) ∨
      (port.domain ≠ 0 ∧ ∃ a g₁, Shrunk w.grout es₁ g₁ ∧ Collects g₁ port.domain es₂ a))
  := by
  obtain ⟨x, _, w₁, ht, h₁, rfl⟩ := trace_perform_bind.mp h
  obtain ⟨_, es₁, w₂, es₂, h₂, h₃, rfl⟩ := Trace.bind_iff.mp h₁
  have hg₂ := Shrunk.of_trace (removeVhostSocket_uses (fun _ => trivial) _ _) h₂
  obtain ⟨-, y, -, rfl⟩ := trace_ignored h₂
  refine ⟨[⟨.interfaceDel port.id, x⟩, ⟨.remove _, y⟩], es₂, rfl, rfl, rfl, rfl, ?_⟩
  split at h₃
  case isTrue hdom =>
    obtain ⟨a, hc⟩ := trace_gcBridgeIfEmpty h₃
    have hg₁ : Shrunk w.grout [⟨.interfaceDel port.id, x⟩] w₁.grout := Shrunk.step trivial ht
    exact ⟨hc.ipam, .inr ⟨hdom, a, w₂.grout, hg₁.trans hg₂, hc⟩⟩
  case isFalse hdom =>
    obtain ⟨-, rfl, -⟩ := trace_ret.mp h₃
    exact ⟨rfl, .inl ⟨not_not.mp hdom, rfl⟩⟩

/-- What a DEL removes that has found the port. -/
theorem removesExactly_deletePort {port : InterfaceInfo} (hport : port ∈ w.grout.ifaces)
    {ifaces : List InterfaceInfo} {x : Except GoError Unit} {w₁ : World} {log : Log}
    (h : Trace (Env Policy.mayFail) (deletePort conf port.name port) w () es w₁)
    (hlog : log = ⟨.interfaceList {}, .ok ifaces⟩ :: (es ++ [⟨.ipamDel conf args, x⟩]))
    (hg : Shrunk w.grout log w'.grout) :
  ipamDelCalls log = [(conf, args)] ∧
    ListsAgain (∃ p ∈ w.grout.ifaces, p.name = port.name ∧ p.domain ≠ 0) ifaces log ∧
    RemovesExactly (·.name = port.name) (EmptiedByDel port.name w.grout log) w.grout log w'.grout
  := by
  obtain ⟨es₁, es₂, rfl, htried, hlists, hflushed, hipam, hcase⟩ := trace_deletePort h
  have hstale : ∀ i ∈ w.grout.ifaces, i.id ∈ triedIDs es₁ ↔ i.name = port.name := by
    intro i hi
    rw [htried, List.mem_singleton, w.grout.id_eq_iff_name_eq hi hport]
  have hframed : Framed ifaces (es₁ ++ es₂) log := hlog ▸ .del conf args x
  constructor
  · change readLog ipamDelCall? _ = [] at hipam
    change readLog ipamDelCall? _ = _
    rw [hlog, readLog_cons, readLog_append, hipam]
    rfl
  rcases hcase with ⟨hdom, rfl⟩ | ⟨hdom, a, g₁, hg₁, hc⟩
  · rw [List.append_nil] at hframed
    have hlists' := hframed.readings.2.2.2
    rw [hlists] at hlists'
    have hnone : ¬ ∃ p ∈ w.grout.ifaces, p.name = port.name ∧ p.domain ≠ 0 := by
      rintro ⟨port', hport', hname, hdom'⟩
      rw [w.grout.eq_of_name hport' hport hname] at hdom'
      exact hdom' hdom
    refine ⟨⟨fun h => absurd h hnone, fun _ => hlists'⟩,
      hframed.removesExactly_stale hg hstale hflushed ?_⟩
    rintro b - ⟨port', hport', hname, hdom', hb⟩
    exact hnone ⟨port', hport', hname, hdom' ▸ hb⟩
  · refine ⟨⟨fun _ => ⟨a, hc.listAnswers_eq hframed hlists⟩,
      fun h => absurd ⟨port, hport, rfl, hdom⟩ h⟩,
      hc.removesExactly hframed hg hg₁ hstale hflushed hlists ?_⟩
    intro b _
    constructor
    · intro hb
      exact ⟨port, hport, rfl, hb.symm, hb ▸ hdom⟩
    · rintro ⟨port', hport', hname, hdom', -⟩
      rw [← hdom', w.grout.eq_of_name hport' hport hname]

/-- A DEL lists the interfaces; if that fails it does nothing, and else it removes the port and
its bridge if it has emptied it, and releases the reservation. -/
theorem trace_handleDelBody
    (h : Trace (Env Policy.mayFail) (handleDelBody conf args) w r es w') :
  (∃ e err, (listAnswers es).head? = some (.error e) ∧ r = .error err ∧ w' = w ∧
    ipamDelCalls es = []) ∨
  (∃ ifaces, (listAnswers es).head? = some (.ok ifaces) ∧ r = .ok none ∧
    ipamDelCalls es = [(conf, args)] ∧
    ListsAgain (∃ p ∈ w.grout.ifaces, p.name = args.attachment.portName ∧ p.domain ≠ 0) ifaces
      es ∧
    RemovesExactly (·.name = args.attachment.portName)
      (EmptiedByDel args.attachment.portName w.grout es) w.grout es w'.grout)
  := by
  have hg := Shrunk.of_trace (handleDelBody_removes conf args) h
  obtain ⟨a, es₁, rfl, h₁, hlist⟩ := trace_interfaceList h
  cases a with
  | error e =>
      obtain ⟨rfl, rfl, rfl⟩ := trace_ret.mp h₁
      exact .inl ⟨e, _, rfl, rfl, rfl, rfl⟩
  | ok ifaces =>
      have hperm := hlist ifaces rfl
      refine .inr ⟨ifaces, rfl, ?_⟩
      dsimp only at h₁
      rw [show groutPortName args.containerID args.ifName = args.attachment.portName from rfl,
        findPortByName_perm hperm] at h₁
      cases hfound : findPortByName w.grout.ifaces args.attachment.portName with
      | none =>
          rw [hfound] at h₁
          obtain ⟨rfl, x, -, rfl⟩ := trace_ignored h₁
          have hno := findPortByName_none.mp hfound
          have hframed : Framed ifaces [] _ := .del conf args x
          refine ⟨rfl, rfl, ⟨?_, fun _ => hframed.readings.2.2.2⟩,
            hframed.removesExactly_stale hg ?_ rfl ?_⟩
          · rintro ⟨p, hp, hpname, -⟩
            exact absurd hpname (hno p hp)
          · intro i hi
            simp [hno i hi]
          · rintro b - ⟨port, hport, hname, -⟩
            exact hno port hport hname
      | some port =>
          rw [hfound] at h₁
          obtain ⟨hport, hname⟩ := findPortByName_some hfound
          obtain ⟨_, es₂, _, es₃, hdel, hipam, rfl⟩ := Trace.bind_iff.mp h₁
          obtain ⟨rfl, x, -, rfl⟩ := trace_ignored hipam
          rw [← hname] at hdel ⊢
          exact ⟨rfl, removesExactly_deletePort hport hdel rfl hg⟩

/-- A DEL that does not find the port changes nothing in the tables of grout. -/
theorem handleDelBody_grout_eq
    (hno : ∀ i ∈ w.grout.ifaces, i.name ≠ args.attachment.portName)
    (h : Run (Env Policy.mayFail) (handleDelBody conf args) w r w') :
  w'.grout = w.grout
  := by
  obtain ⟨es, h⟩ := h.exists_trace
  rcases trace_handleDelBody h with ⟨_, _, -, -, rfl, -⟩ | ⟨_, -, -, -, -, hexact⟩
  · rfl
  · apply hexact.eq (Shrunk.of_trace (handleDelBody_removes conf args) h) hno
    rintro b - ⟨⟨port, hport, hname, -⟩, -⟩
    exact hno port hport hname

/-- Whichever calls of a DEL fail, it returns an error and does nothing if the first interface
list fails.  Else it succeeds, releases the reservation once, lists the interfaces again exactly
if it has found the port with a domain, and removes exactly the port if its delete succeeds, and
the bridge of the port if it has thereby been emptied and its delete succeeds.  After a DEL in
which no call fails, another one succeeds and changes nothing. -/
theorem handleDel_exact {log : Log}
    (h : Run (Solo (logged (Env Policy.mayFail)) false) (handleDel conf args) (w, []) r (w', log)) :
  ((∃ e err, (listAnswers log).head? = some (.error e) ∧ r = .error err ∧ w' = w ∧
      ipamDelCalls log = []) ∨
    (∃ ifaces, (listAnswers log).head? = some (.ok ifaces) ∧ r = .ok none ∧
      ipamDelCalls log = [(conf, args)] ∧
      ListsAgain (∃ p ∈ w.grout.ifaces, p.name = args.attachment.portName ∧ p.domain ≠ 0) ifaces
        log ∧
      RemovesExactly (·.name = args.attachment.portName)
        (EmptiedByDel args.attachment.portName w.grout log) w.grout log w'.grout)) ∧
  ∀ r₁ w₁, Run (Solo (Env Policy.allOk) false) (handleDel conf args) w r₁ w₁ →
    (∀ r₂ w₂, Run (Solo (Env Policy.mayFail) false) (handleDel conf args) w₁ r₂ w₂ →
      w₂.grout = w₁.grout) ∧
    (∀ r₂ w₂, Run (Solo (Env Policy.allOk) false) (handleDel conf args) w₁ r₂ w₂ →
      r₂ = .ok none)
  := by
  constructor
  · rcases run_guarded.mp h with h | ⟨⟨⟩, -⟩
    obtain ⟨es, hes, h⟩ := run_logged_iff.mp h
    obtain rfl : log = es := hes
    exact trace_handleDelBody h
  · intro r₁ w₁ h₁
    constructor
    · intro r₂ w₂ h₂
      obtain ⟨-, links, rfl⟩ := run_handleDel_allOk h₁
      rcases run_guarded.mp h₂ with h₂ | ⟨⟨⟩, -⟩
      apply handleDelBody_grout_eq _ h₂
      intro i hi
      exact (Grout.mem_of_mem_afterDel hi).2
    · intro r₂ w₂ h₂
      exact (run_handleDel_allOk h₂).1

end

/-- The flush of the addresses and the release of the reservation fail: the port and its bridge
are removed all the same. -/
theorem handleDel_exact_flush_fails :
  ∃ w' log, Run (Solo (logged (Env Policy.mayFail)) false) (handleDel sharedTap (pod "a"))
      (sharedBridge ["a"], []) (.ok none) (w', log) ∧
    w'.grout.ifaces = [] ∧ ipamDelCalls log = [(sharedTap, pod "a")] ∧
    RemovesExactly (·.name = (pod "a").attachment.portName)
      (EmptiedByDel (pod "a").attachment.portName (sharedBridge ["a"]).grout log)
      (sharedBridge ["a"]).grout log w'.grout
  := by
  have hexec : (exec (loggedAct (World.act Policy.mayFail))
      [{}, {}, {}, {}, { fault := .fail }, {}, { fault := .fail }]
      (handleDelBody sharedTap (pod "a")) (sharedBridge ["a"], [])).any
      (fun x => x.2.1.grout.ifaces = [] ∧
        (listAnswers x.2.2).map (·.toOption.isSome) = [true, true]) = true := by
    decide +kernel
  obtain ⟨r, ⟨w', log⟩, hrun, hcheck⟩ := exec_exists (loggedAct_sound World.act_sound) hexec
  obtain ⟨hnil, hlists⟩ := of_decide_eq_true hcheck
  have hdel : Run (Solo (logged (Env Policy.mayFail)) false) (handleDel sharedTap (pod "a"))
      (sharedBridge ["a"], []) r (w', log) := locked_run hrun
  rcases (handleDel_exact hdel).1 with ⟨e, _, hhead, -⟩ | ⟨_, -, rfl, hipam, -, hexact⟩
  · obtain ⟨as, has⟩ := List.head?_eq_some_iff.mp hhead
    simp [has, Except.toOption] at hlists
  · exact ⟨w', log, hdel, hnil, hipam, hexact⟩

end GroutCni
