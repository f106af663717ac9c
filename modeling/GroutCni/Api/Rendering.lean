import GroutCni.Api.Service

/-!
# A server for every service

`serverOf` answers requests with the bytes of what a service answers.  It serves the service if
what the service answers fits into the bytes (`serverOf_serves`): the names of the interfaces that
it lists fit into their field, and the addresses of a flood list are IPv4 addresses.

A client of a server cannot tell the bytes from the service that is served: any program that calls
the methods, whatever it makes of their results, returns over the connection what it returns on
the service itself, and the connection stays in step (`calls_transparent`).
-/

namespace GroutCni

open Effect Wire Api

/-! ### Entries -/

/-- The name of an interface in its field. -/
def nameField (name : GoString) : Bytes :=
  name ++ List.replicate (ifNameSize - name.length) 0

/-- The fields of an interface. -/
def listedFields (iface : InterfaceInfo) : List Field :=
  [u16 offIfaceID iface.id, u8 offIfaceType iface.type, u16 offIfaceDomain iface.domain,
    ⟨offIfaceName, nameField iface.name⟩]

/-- The entry of an interface. -/
def renderIface (iface : InterfaceInfo) : Bytes := fill ifaceSize (listedFields iface)

/-- The fields of a flood entry. -/
def vtepFields (vtep : FloodVTEPInfo) : List Field :=
  [u32 offFloodVTEPVNI vtep.vni,
    u8 (offFloodVTEPAddr + offL3AddrAF) (if vtep.addr.isSome then afIP4 else 0),
    ⟨offFloodVTEPAddr + offL3AddrIPv4, vtep.addr.getD []⟩]

/-- The flood entry of a VTEP. -/
def renderVTEP (vtep : FloodVTEPInfo) : Bytes := fill floodEntrySize (vtepFields vtep)

theorem showsIface_render {iface : InterfaceInfo} (h : IsIfaceName iface.name) :
  ShowsIface iface (renderIface iface)
  := by
  have hsize : ifNameSize = 16 := rfl
  have hlen : (nameField iface.name).length = ifNameSize := by
    have hname := h.1
    rw [nameField, List.length_append, List.length_replicate]
    omega
  have hapart : (listedFields iface).Pairwise Field.Apart := by
    simp [listedFields, Field.Apart, u16, u8, hlen, offIfaceID, offIfaceType, offIfaceDomain,
      offIfaceName]
  have hfit : ∀ f ∈ listedFields iface, f.off + f.data.length ≤ ifaceSize := by
    simp only [listedFields, List.forall_mem_cons, List.not_mem_nil, false_implies, implies_true,
      u16, u8, hlen, length_toLE, List.length_singleton]
    decide
  have hslice : ∀ f ∈ listedFields iface, slice (renderIface iface) f.off f.data.length = f.data :=
    fun f hf => slice_fill hapart hf (hfit f hf)
  exact {
    length_le := (length_fill _ _).ge
    id := hslice (u16 offIfaceID iface.id) (by simp [listedFields])
    type := hslice (u8 offIfaceType iface.type) (by simp [listedFields])
    domain := hslice (u16 offIfaceDomain iface.domain) (by simp [listedFields])
    name := by
      have hfield := hslice ⟨offIfaceName, nameField iface.name⟩ (by simp [listedFields])
      dsimp only at hfield
      rw [hlen] at hfield
      have hpos : ifNameSize - iface.name.length = ifNameSize - iface.name.length - 1 + 1 := by
        have hname := h.1
        omega
      refine ⟨List.replicate (ifNameSize - iface.name.length - 1) 0, hfield.trans ?_⟩
      rw [nameField, hpos, List.replicate_succ]
      rfl
    nul := h.2 }

theorem showsVTEP_render {vtep : FloodVTEPInfo} (h : ∀ ip ∈ vtep.addr, ip.length = 4) :
  ShowsVTEP vtep (renderVTEP vtep)
  := by
  have hlen : (vtep.addr.getD []).length ≤ 4 := by
    cases haddr : vtep.addr with
    | none => exact Nat.zero_le _
    | some ip => exact (h ip haddr).le
  have hapart : (vtepFields vtep).Pairwise Field.Apart := by
    simp [vtepFields, Field.Apart, u32, u8, offFloodVTEPVNI, offFloodVTEPAddr, offL3AddrAF,
      offL3AddrIPv4]
  have hfit : ∀ f ∈ vtepFields vtep, f.off + f.data.length ≤ floodEntrySize := by
    simp only [vtepFields, List.forall_mem_cons, List.not_mem_nil, false_implies, implies_true,
      and_true, u32, u8, length_toLE, List.length_singleton]
    exact ⟨by decide, by decide, (Nat.add_le_add_left hlen _).trans (by decide)⟩
  have hslice : ∀ f ∈ vtepFields vtep, slice (renderVTEP vtep) f.off f.data.length = f.data :=
    fun f hf => slice_fill hapart hf (hfit f hf)
  have haf := hslice (u8 (offFloodVTEPAddr + offL3AddrAF)
    (if vtep.addr.isSome then afIP4 else 0)) (by simp [vtepFields])
  have haddr := hslice ⟨offFloodVTEPAddr + offL3AddrIPv4, vtep.addr.getD []⟩
    (by simp [vtepFields])
  exact {
    length_le := (length_fill _ _).ge
    vni := hslice (u32 offFloodVTEPVNI vtep.vni) (by simp [vtepFields])
    isV4 := by
      intro ip hip
      rw [Option.mem_def.mp hip] at haf haddr
      have hfour : slice (renderVTEP vtep) (offFloodVTEPAddr + offL3AddrIPv4) ip.length = ip :=
        haddr
      rw [h ip hip] at hfour
      exact ⟨haf, hfour⟩
    notV4 := by
      intro hnone
      rw [hnone] at haf
      have hzero : slice (renderVTEP vtep) (offFloodVTEPAddr + offL3AddrAF) 1 = [0] := haf
      rw [hzero]
      decide }

/-! ### Answers -/

/-- The value fits into the bytes of an answer. -/
def Message.Renders : (m : Message) → m.Val → Prop
  | .ifaceList _, (ifaces : List InterfaceInfo) => ∀ iface ∈ ifaces, IsIfaceName iface.name
  | .floodList _ _, (vteps : List FloodVTEPInfo) =>
      ∀ vtep ∈ vteps, ∀ ip ∈ vtep.addr, ip.length = 4
  | _, _ => True

/-- The payload of an answer with one response. -/
def Message.payload : (m : Message) → m.Val → Bytes
  | .ifaceAdd _, (id : UInt16) => toLE 2 id.toNat
  | _, _ => []

/-- The items of an answer with a list. -/
def Message.items : (m : Message) → m.Val → List Bytes
  | .ifaceList _, ifaces => List.map renderIface ifaces
  | .floodList _ _, vteps => List.map renderVTEP vteps
  | _, _ => []

theorem length_payload_le (m : Message) (v : m.Val) :
  (m.payload v).length ≤ maxMsgLen
  := by
  cases m with
  | ifaceAdd iface =>
      have hlen : (toLE 2 (UInt16.toNat v)).length = 2 := length_toLE 2 _
      exact hlen.le.trans (by decide)
  | _ => exact Nat.zero_le _

theorem isItem_of_mem_items (m : Message) (v : m.Val) :
  ∀ item ∈ m.items v, IsItem item
  := by
  intro item hitem
  have hfill : ∀ size fs, 0 < size → size ≤ maxMsgLen → IsItem (fill size fs) := by
    intro size fs hpos hmax
    rw [IsItem, length_fill]
    exact ⟨hpos, hmax⟩
  cases m with
  | ifaceList type =>
      obtain ⟨iface, -, rfl⟩ := List.mem_map.mp hitem
      exact hfill _ _ (by decide) (by decide)
  | floodList type vrfID =>
      obtain ⟨vtep, -, rfl⟩ := List.mem_map.mp hitem
      exact hfill _ _ (by decide) (by decide)
  | _ => cases hitem

/-- A response without a payload. -/
def PlainAnswer.bare (status : UInt32) : PlainAnswer := ⟨status, [], Nat.zero_le _⟩

/-- The response that conveys an answer. -/
def Message.renderPlain (m : Message) : m.Ans → PlainAnswer
  | .ok v => ⟨0, m.payload v, length_payload_le m v⟩
  | .error status => .bare status

/-- A list that reports a failure. -/
def ListAnswer.failed (status : Status) : ListAnswer where
  items := []
  isItem := fun _ h => absurd h (List.not_mem_nil)
  failure := some (.bare status)
  status_ne_zero := by
    intro f hf
    cases hf
    exact status.property

/-- The list that conveys an answer. -/
def Message.renderList (m : Message) : m.Ans → ListAnswer
  | .ok v => ⟨m.items v, isItem_of_mem_items m v, none, fun _ h => nomatch h⟩
  | .error status => .failed status

/-- The status that reports a request that is not understood. -/
def einval : Status := ⟨22, by decide⟩

section

variable {τ : Type}

/-- The server that answers with the bytes of what a service answers. -/
def serverOf (svc : Service τ) : Server τ where
  plain t req :=
    match parse req.type req.payload with
    | none => (.bare einval, t)
    | some m => (m.renderPlain (svc t m).1, (svc t m).2)
  list t req :=
    match parse req.type req.payload with
    | none => (.failed einval, t)
    | some m => (m.renderList (svc t m).1, (svc t m).2)

/-- The kinds that are answered with a list. -/
def Kind.isList : Kind → Bool
  | .ifaceList | .floodList => true
  | _ => false

theorem isList_read (kind : Kind) (payload : Bytes) :
  (kind.read payload).isList = kind.isList
  := by
  cases kind with
  | addrAdd f | addrDel f | addrFlush f | routeAdd f | routeDel f => cases f <;> rfl
  | _ => rfl

/-- A request is answered with a list if its message is. -/
theorem isListType_of_parse {type : UInt32} {payload : Bytes} {m : Message}
    (h : parse type payload = some m) :
  isListType type = m.isList
  := by
  have hkinds : ∀ p ∈ kinds, isListType p.1 = p.2.isList := by decide
  unfold parse at h
  split at h
  · cases h
  case h_2 kind hlookup =>
    split at h
    · cases h
    · cases h
      have hmem : (type, kind) ∈ kinds := by
        obtain ⟨before, after, hsplit, -⟩ := List.lookup_eq_some_iff.mp hlookup
        rw [hsplit]
        simp
      rw [isList_read]
      exact hkinds _ hmem

theorem conveys_renderPlain {m : Message} (r : m.Ans) (hm : m.isList = false) :
  m.Conveys r (.plain (m.renderPlain r))
  := by
  cases r with
  | error status => cases m <;> first | rfl | cases hm
  | ok v =>
      cases m with
      | ifaceAdd iface =>
          have hlen : (toLE 2 (UInt16.toNat v)).length = 2 := length_toLE 2 _
          exact ⟨rfl, hlen.ge, List.take_of_length_le hlen.le⟩
      | ifaceList type | floodList type vrfID => cases hm
      | _ => exact ⟨rfl, trivial⟩

theorem forall₂_map {V : Type} {shows_ : V → Bytes → Prop} {render : V → Bytes} {vs : List V}
    (h : ∀ v ∈ vs, shows_ v (render v)) :
  List.Forall₂ shows_ vs (vs.map render)
  := by
  rw [List.forall₂_map_right_iff, List.forall₂_same]
  exact h

theorem conveys_renderList {m : Message} {r : m.Ans} (hm : m.isList = true)
    (hr : ∀ v, r = .ok v → m.Renders v) :
  m.Conveys r (.list (m.renderList r))
  := by
  cases m with
  | ifaceList type =>
      cases r with
      | error status => exact ⟨_, rfl, rfl⟩
      | ok v => exact ⟨rfl, forall₂_map fun iface h => showsIface_render (hr v rfl iface h)⟩
  | floodList type vrfID =>
      cases r with
      | error status => exact ⟨_, rfl, rfl⟩
      | ok v => exact ⟨rfl, forall₂_map fun vtep h => showsVTEP_render (hr v rfl vtep h)⟩
  | _ => cases hm

/-- A service whose answers fit into the bytes is served. -/
theorem serverOf_serves {svc : Service τ} (h : ∀ t m v, (svc t m).1 = .ok v → m.Renders v) :
  Serves (serverOf svc) svc Eq
  := by
  rintro t _ req m rfl hparse
  have hlist := isListType_of_parse hparse
  unfold Server.answer serverOf
  cases hm : m.isList with
  | true =>
      rw [hm] at hlist
      rw [if_pos hlist]
      dsimp only
      rw [hparse]
      exact ⟨conveys_renderList hm (h t m), rfl⟩
  | false =>
      rw [hm] at hlist
      rw [if_neg (by simp [hlist])]
      dsimp only
      rw [hparse]
      exact ⟨conveys_renderPlain _ hm, rfl⟩

/-! ### Programs over a connection -/

variable {σ : Type} {srv : Server σ} {svc : Service τ} {R : σ → τ → Prop}

/-- Over a connection with a server, a program that calls the methods of the client returns what
it returns on the service that the server serves, whatever it makes of the results; and the
connection stays in step with the service. -/
theorem calls_transparent {α : Type} (h : Serves srv svc R) {s : σ} {u : τ} (hR : R s u)
    (reqID : UInt32) (p : Program ClientCall.Res α) :
  let out := p.interp (Client.calls srv.peer) ⟨reqID, (s, []), []⟩
  out.1 = (p.interp svc.calls u).1 ∧ out.2.input = [] ∧ out.2.peer.2 = [] ∧
    R out.2.peer.1 (p.interp svc.calls u).2
  := by
  let Q : Client (σ × Bytes) → τ → Prop := fun c u => ∃ t : Rpc σ, c.InStep t ∧ R t.server u
  have hstep : ∀ (c : Client (σ × Bytes)) (u : τ) (call : ClientCall), True → Q c u →
      True ∧ (Client.calls srv.peer c call).1 = (svc.calls u call).1 ∧
        Q (Client.calls srv.peer c call).2 (svc.calls u call).2 := by
    rintro c u call - ⟨t, hc, hu⟩
    obtain ⟨-, hresult, hnext⟩ := hc.call srv call
    obtain ⟨hmeaning, hnextR⟩ := h.call hu call
    exact ⟨trivial, hresult.trans hmeaning, _, hnext, hnextR⟩
  have hstart : Q ⟨reqID, (s, []), []⟩ u := ⟨⟨s, reqID, []⟩, ⟨rfl, rfl, rfl, rfl⟩, hR⟩
  obtain ⟨-, hresult, t, hc, hu⟩ := p.returns_true.interp hstep hstart
  refine ⟨hresult, hc.input, hc.received, ?_⟩
  rw [hc.server]
  exact hu

end

/-- A service that keeps the names of the interfaces that it is asked to add. -/
def nameService : Service (List GoString)
  | names, .ifaceAdd iface =>
      if IsIfaceName iface.name then
        (.ok (UInt16.ofNat (names.length + 1)), names ++ [iface.name])
      else (.error einval, names)
  | names, .ifaceList _ =>
      (.ok ((names.filter IsIfaceName).map fun name => ⟨1, InterfaceType.tap, name, 0⟩), names)
  | names, .hello _ _ => (.ok (), names)
  | names, .floodList _ _ => (.ok [], names)
  | names, _ => (.error einval, names)

theorem nameService_renders (names : List GoString) (m : Message) (v : m.Val)
    (h : (nameService names m).1 = .ok v) :
  m.Renders v
  := by
  cases m with
  | ifaceList type =>
      cases h
      intro iface hiface
      obtain ⟨name, hname, rfl⟩ := List.mem_map.mp hiface
      exact of_decide_eq_true (List.mem_filter.mp hname).2
  | floodList type vrfID =>
      cases h
      intro vtep hvtep
      cases hvtep
  | _ => trivial

/-- Over a connection to the names, an interface that is added is listed. -/
theorem calls_transparent_names :
  let p : Program ClientCall.Res (Except GoError (List InterfaceInfo)) := do
    let _ ← Program.perform (ClientCall.interfaceAdd { name := lit "p0", type := .tap })
    Program.perform (ClientCall.interfaceList {})
  (p.interp (Client.calls (serverOf nameService).peer) ⟨0, ([], []), []⟩).1
    = .ok [⟨1, InterfaceType.tap, lit "p0", 0⟩]
  := by
  intro p
  rw [(calls_transparent (serverOf_serves nameService_renders) rfl 0 p).1]
  rfl

end GroutCni
