import GroutCni.Api.Server
import GroutCni.Handlers.Add
import GroutCni.Node.Script

/-!
# HandleAdd over the client

`InterfaceAdd` reports an id exactly if the server has sent it, unless the server answers with
a response that has no payload: then it reports zero (`interfaceAdd_reports_iff`).  Zero as the
id of the bridge makes `HandleAdd` add a port outside of any bridge.  `OverClient` lets the
client perform the grout operations of the plugin; where no answer to `InterfaceAdd` is without
a payload and grout's ids are not zero, every port is added to a bridge
(`interfaceAdd_reports`).
-/

namespace GroutCni

open Effect Wire

/-! ### What `InterfaceAdd` reports -/

/-- The bytes begin with a response of status zero whose payload begins with the id. -/
def Sent (id : UInt32) (ifaceID : UInt16) (input : Bytes) : Prop :=
  ∃ payload rest, input = frame id 0 payload ++ rest ∧ 2 ≤ payload.length ∧
    payload.length ≤ maxMsgLen ∧ payload.take 2 = toLE 2 ifaceID.toNat

/-- The bytes begin with a response of status zero without a payload. -/
def SentEmpty (id : UInt32) (input : Bytes) : Prop :=
  ∃ rest, input = frame id 0 [] ++ rest

/-- The payload of the first response, if the response passes the checks of `request`. -/
def firstAnswer (id : UInt32) (input : Bytes) : Option Bytes :=
  match readResponse input with
  | (.error _, _) => none
  | (.ok (hdr, answer), _) => if checkHeader id hdr = .ok () then some answer else none

theorem firstAnswer_eq_some_iff {id : UInt32} {input answer : Bytes} :
  firstAnswer id input = some answer
    ↔ ∃ rest, input = frame id 0 answer ++ rest ∧ answer.length ≤ maxMsgLen
  := by
  unfold firstAnswer
  constructor
  · intro h
    split at h
    case h_1 => cases h
    case h_2 hdr answer' rest hread =>
      split at h
      case isTrue hcheck =>
        cases h
        obtain ⟨hinput, -, hmax⟩ := eq_frame_of_checkHeader hread hcheck
        exact ⟨rest, hinput, hmax⟩
      case isFalse => cases h
  · rintro ⟨rest, rfl, hmax⟩
    rw [readResponse_frame _ _ _ hmax]
    dsimp only
    rw [checkHeader_self, if_pos rfl]

theorem uint16At_eq_iff {b : Bytes} {x : UInt16} (h : b.length = 2) :
  uint16At b 0 = x ↔ b = toLE 2 x.toNat
  := by
  have hlt : ofLE b < 2 ^ 16 := by
    have hlt := ofLE_lt b
    rw [h] at hlt
    exact hlt
  rw [uint16At, slice_self h]
  constructor
  · rintro rfl
    rw [UInt16.toNat_ofNat_of_lt' hlt, ← h, toLE_ofLE]
  · rintro rfl
    rw [ofLE_toLE x.toNat_lt, UInt16.ofNat_toNat]

theorem decode_nil (resp : Resp) :
  resp.decode [] = .ok resp.zero
  := if_neg fun h => Nat.lt_irrefl _ h.2

theorem decode_of_read {resp : Resp} {payload : Bytes} (hresp : resp ≠ .nil)
    (hne : payload ≠ []) :
  resp.decode payload
    = (resp.read payload).mapError (.wrapf "decoding response: %w" [])
  := by
  rw [Resp.decode, if_pos ⟨hresp, List.length_pos_iff.mpr hne⟩]
  cases resp.read payload with
  | error err => rfl
  | ok v => rfl

/-- An id is read from the first two bytes. -/
theorem read_ifaceID_ok_iff {payload : Bytes} {ifaceID : UInt16} :
  Resp.ifaceID.read payload = .ok ifaceID
    ↔ 2 ≤ payload.length ∧ payload.take 2 = toLE 2 ifaceID.toNat
  := by
  dsimp only [Resp.read]
  rcases hread : readFull 2 payload with ⟨err | b, rest⟩
  · -- fewer bytes than an id has
    constructor
    · intro h
      cases h
    · rintro ⟨hlen, -⟩
      rw [readFull, if_pos hlen] at hread
      cases hread
  · obtain ⟨rfl, hlen⟩ := readFull_ok_iff.mp hread
    rw [List.take_left' hlen, ← uint16At_eq_iff hlen, List.length_append]
    constructor
    · intro h
      exact ⟨by omega, Except.ok.inj h⟩
    · rintro ⟨-, rfl⟩
      rfl

/-- An id is decoded from the first two bytes, and zero from no bytes. -/
theorem decode_ifaceID_ok_iff {payload : Bytes} {ifaceID : UInt16} :
  Resp.ifaceID.decode payload = .ok ifaceID
    ↔ payload = [] ∧ ifaceID = 0 ∨
      2 ≤ payload.length ∧ payload.take 2 = toLE 2 ifaceID.toNat
  := by
  by_cases hnil : payload = []
  · subst hnil
    rw [decode_nil]
    constructor
    · intro h
      exact .inl ⟨rfl, (Except.ok.inj h).symm⟩
    · rintro (⟨-, rfl⟩ | ⟨h, -⟩)
      · rfl
      · cases h
  · rw [decode_of_read (by decide) hnil, ← read_ifaceID_ok_iff,
      or_iff_right fun h => hnil h.1]
    cases Resp.ifaceID.read payload with
    | error err =>
        constructor <;> (intro h; cases h)
    | ok x => rfl

section

variable {σ : Type} {P : Peer σ} {c c₁ : Client σ}

/-- What `request` returns is decoded from the first response. -/
theorem request_ok_iff {type : UInt32} {payload : Bytes} (resp : Resp) {v : resp.Val}
    (hsend : c.send P type payload = (.ok (), c₁)) :
  (c.request P type payload resp).1 = .ok v
    ↔ ∃ answer, firstAnswer c₁.reqID c₁.input = some answer ∧ resp.decode answer = .ok v
  := by
  unfold Client.request firstAnswer
  rw [hsend]
  dsimp only
  rcases readResponse c₁.input with ⟨err | ⟨hdr, answer⟩, rest⟩
  · simp
  · dsimp only
    cases checkHeader c₁.reqID hdr with
    | error err => simp
    | ok _ => simp

variable {req : InterfaceAddRequest} {payload : Bytes} {ifaceID : UInt16}

/-- What `InterfaceAdd` reports is what its request returns. -/
theorem interp_interfaceAdd_ok_iff (hpayload : Api.interfaceAddPayload req = .ok payload) :
  ((Api.interfaceAdd req).interp (Client.handler P) c).1 = .ok ifaceID
    ↔ (c.request P typeIfaceAdd payload .ifaceID).1 = .ok ifaceID
  := by
  have hreq : (Api.request typeIfaceAdd payload .ifaceID).interp (Client.handler P) c
      = c.request P typeIfaceAdd payload .ifaceID := rfl
  unfold Api.interfaceAdd
  rw [hpayload]
  erw [Program.interp_bind, hreq]
  cases (c.request P typeIfaceAdd payload .ifaceID).1 with
  | error err =>
      constructor
      · intro h
        cases h
      · intro h
        cases h
  | ok i => exact Iff.rfl

/-- `InterfaceAdd` reports exactly the ids that are sent, unless the answer has no payload. -/
theorem interfaceAdd_reports_iff (hpayload : Api.interfaceAddPayload req = .ok payload)
    (hsend : c.send P typeIfaceAdd payload = (.ok (), c₁)) :
  (∀ ifaceID : UInt16, ((Api.interfaceAdd req).interp (Client.handler P) c).1 = .ok ifaceID
    ↔ Sent c₁.reqID ifaceID c₁.input) ↔ ¬SentEmpty c₁.reqID c₁.input
  := by
  have hiff : ∀ ifaceID : UInt16,
      ((Api.interfaceAdd req).interp (Client.handler P) c).1 = .ok ifaceID
        ↔ ∃ answer, firstAnswer c₁.reqID c₁.input = some answer ∧
          Resp.ifaceID.decode answer = .ok ifaceID :=
    fun _ => (interp_interfaceAdd_ok_iff hpayload).trans (request_ok_iff .ifaceID hsend)
  simp only [hiff]
  constructor
  · rintro h ⟨rest, hrest⟩
    have hempty : firstAnswer c₁.reqID c₁.input = some [] :=
      firstAnswer_eq_some_iff.mpr ⟨rest, hrest, Nat.zero_le _⟩
    obtain ⟨answer, rest', hinput, hlen, hmax, -⟩ := (h 0).mp ⟨[], hempty, decode_nil _⟩
    -- The first response cannot have another payload.
    have hanswer := firstAnswer_eq_some_iff.mpr ⟨rest', hinput, hmax⟩
    rw [hempty, Option.some.injEq] at hanswer
    subst hanswer
    cases hlen
  · intro hempty ifaceID
    constructor
    · rintro ⟨answer, hanswer, hdecode⟩
      obtain ⟨rest, hinput, hmax⟩ := firstAnswer_eq_some_iff.mp hanswer
      rcases decode_ifaceID_ok_iff.mp hdecode with ⟨rfl, -⟩ | ⟨hlen, htake⟩
      · exact absurd ⟨rest, hinput⟩ hempty
      · exact ⟨answer, rest, hinput, hlen, hmax, htake⟩
    · rintro ⟨answer, rest, hinput, hlen, hmax, htake⟩
      exact ⟨answer, firstAnswer_eq_some_iff.mpr ⟨rest, hinput, hmax⟩,
        decode_ifaceID_ok_iff.mpr (.inr ⟨hlen, htake⟩)⟩

end

/-! ### The plugin over the client -/

/-- The method of the client that performs an operation, if it is a grout operation. -/
def Op.method : (o : Op) → Option (Api.ClientProg o.Res)
  | .interfaceList req => some (Api.interfaceList req)
  | .interfaceAdd req => some (Api.interfaceAdd req)
  | .interfaceDel ifaceID => some (Api.interfaceDel ifaceID)
  | .addressAdd req => some (Api.addressAdd req)
  | .ip4AddrFlush ifaceID => some (Api.ip4AddrFlush ifaceID)
  | .ip6AddrFlush ifaceID => some (Api.ip6AddrFlush ifaceID)
  | _ => none

/-- The client performs the grout operations; the others behave as `T` says. -/
def OverClient {σ S : Type} (P : Peer σ) (T : Behaviour Op.Res S) :
    Behaviour Op.Res (S × Client σ) := fun s o r s' =>
  match o.method with
  | some p => s'.1 = s.1 ∧ p.interp (Client.handler P) s.2 = (r, s'.2)
  | none => T s.1 o r s'.1 ∧ s'.2 = s.2

/-- The payload of the first response to `InterfaceAdd`, if it sends a request and the
response passes the checks. -/
def addAnswer {σ : Type} (P : Peer σ) (c : Client σ) (req : InterfaceAddRequest) :
    Option Bytes :=
  match Api.interfaceAddPayload req with
  | .error _ => none
  | .ok payload =>
      match c.send P typeIfaceAdd payload with
      | (.error _, _) => none
      | (.ok (), c₁) => firstAnswer c₁.reqID c₁.input

/-- The ids that grout sends as an answer to the operation are not zero. -/
def sendsNonZero {σ : Type} (P : Peer σ) (c : Client σ) : Op → Bool
  | .interfaceAdd req => (addAnswer P c req).all fun answer => answer.take 2 ≠ toLE 2 0
  | .interfaceList req =>
      ((Api.interfaceList req).interp (Client.handler P) c).1.toOption.all
        fun ifaces => ifaces.all fun iface => iface.id ≠ 0
  | _ => true

/-- If the operation is `InterfaceAdd`, its answer has a payload. -/
def answersWithPayload {σ : Type} (P : Peer σ) (c : Client σ) : Op → Bool
  | .interfaceAdd req => addAnswer P c req ≠ some []
  | _ => true

/-- The behaviour where the client and the operation satisfy a condition. -/
def Where {σ S : Type} (cond : Client σ → Op → Bool) (T : Behaviour Op.Res (S × Client σ)) :
    Behaviour Op.Res (S × Client σ) :=
  fun s o r s' => cond s.2 o = true ∧ T s o r s'

/-- The ids in the answer to an operation are not zero. -/
def NonZero : (o : Op) → o.Res → Prop
  | .interfaceAdd _, r => ∀ ifaceID : UInt16, r = .ok ifaceID → ifaceID ≠ 0
  | .interfaceList _, r => ∀ ifaces : List InterfaceInfo, r = .ok ifaces →
      ∀ iface ∈ ifaces, iface.id ≠ 0
  | _, _ => True

/-- If the operation adds a port, it adds it to a bridge. -/
def InBridge : Op → Prop
  | .interfaceAdd req => req.type = InterfaceType.tap → req.domainID ≠ 0
  | _ => True

section

variable {conf : PluginConf} {args : CmdArgs}

theorem meets_perform_bind {α : Type} {Q : α → Prop} {o : Op} {k : Op.Res o → Prog α}
    (ho : InBridge o) (hok : ∀ v, NonZero o (.ok v) → (k (.ok v)).Meets InBridge NonZero Q)
    (herr : ∀ e, (k (.error e)).Meets InBridge NonZero Q) :
  (perform o >>= k).Meets InBridge NonZero Q
  := by
  constructor
  · exact ho
  · rintro (e | v) hr
    · exact herr e
    · exact hok v hr

/-- What `ensureBridge` finds after a failed create is in the list. -/
theorem findAfterConflict_meets (ifaces : List InterfaceInfo) (name : GoString) (err : GoError) :
  (findAfterConflict ifaces name err).Meets InBridge NonZero
    fun r => ∀ bridgeID, r = .ok bridgeID → bridgeID ≠ 0
  := by
  apply meets_perform_bind (by trivial)
  case herr =>
    intro err bridgeID h
    cases h
  case hok =>
    intro ifaces2 hifaces
    dsimp only
    split
    case h_1 id hid =>
      intro bridgeID h
      cases h
      obtain ⟨iface, hfind, rfl⟩ := Option.map_eq_some_iff.mp hid
      exact hifaces ifaces2 rfl iface (List.mem_of_find?_eq_some hfind)
    case h_2 =>
      intro bridgeID h
      cases h

/-- The id that `ensureBridge` returns is one that grout has sent. -/
theorem ensureBridge_meets (name : GoString) :
  (ensureBridge name).Meets InBridge NonZero
    fun r => ∀ bridgeID, r = .ok bridgeID → bridgeID ≠ 0
  := by
  apply meets_perform_bind (by trivial)
  case herr =>
    intro err bridgeID h
    cases h
  case hok =>
    intro ifaces hifaces
    dsimp only
    split
    case h_1 id hid =>
      intro bridgeID h
      cases h
      obtain ⟨iface, hfind, rfl⟩ := Option.map_eq_some_iff.mp hid
      exact hifaces ifaces rfl iface (List.mem_of_find?_eq_some hfind)
    case h_2 =>
      have hbridge : InBridge (.interfaceAdd { name, type := InterfaceType.bridge }) :=
        fun htype => absurd (show InterfaceType.bridge = InterfaceType.tap from htype) (by decide)
      apply meets_perform_bind hbridge
      case herr =>
        intro err
        exact findAfterConflict_meets ifaces name err
      case hok =>
        intro id hid bridgeID h
        cases h
        exact hid id rfl

theorem finishAdd_uses (cniResult : Result) (ifaceID : UInt16) :
  (finishAdd conf args cniResult ifaceID).Uses InBridge
  := by
  have hnetlink : ∀ o, Op.IsNetlink o → InBridge o := by
    intro o ho
    cases o with
    | interfaceAdd req => cases ho
    | _ => trivial
  have hipam : (ipamDel conf args).Uses InBridge := ipamDel_uses trivial
  unfold finishAdd
  split
  · split
    · trivial
    · trivial
  · split
    · trivial
    · split
      · trivial
      · apply Program.Uses.bind ((setupPod_uses _ _ _).mono hnetlink)
        rintro (err | podRes)
        · apply Program.Uses.bind
          · exact uses_perform_bind trivial (fun _ => hipam) fun _ => hipam
          · intro _
            trivial
        · trivial

/-- A port is added to the bridge that was found. -/
theorem attachTo_uses (cniResult : Result) {bridgeID : UInt16} (h : bridgeID ≠ 0) :
  (attachTo conf args cniResult bridgeID).Uses InBridge
  := by
  have hipam : (ipamDel conf args).Uses InBridge := ipamDel_uses trivial
  unfold attachTo
  split
  · trivial
  · apply Program.Uses.bind (assignGateways_uses (fun _ => trivial) _)
    rintro (err | _)
    · exact hipam.bind fun _ => by trivial
    · apply Program.Uses.bind (addPort_uses (fun _ => trivial) fun _ => h)
      rintro (err | ifaceID)
      · exact hipam.bind fun _ => by trivial
      · exact finishAdd_uses cniResult ifaceID

/-- Where no id is zero, `HandleAdd` adds ports to bridges only. -/
theorem handleAddBody_meets :
  (handleAddBody conf args).Meets InBridge NonZero fun _ => True
  := by
  have hipam : (delegateIPAMAdd conf args).Uses InBridge :=
    uses_perform_bind trivial (fun _ => by trivial) fun _ => by trivial
  apply hipam.meets.bind
  rintro (err | result) -
  · trivial
  · dsimp only
    split
    · trivial
    · apply (ensureBridge_meets conf.bridge).bind
      rintro (err | bridgeID) hid
      · exact ((ipamDel_uses trivial).bind fun _ => by trivial).meets
      · exact (attachTo_uses _ (hid bridgeID rfl)).meets

end

/-- An id that `InterfaceAdd` reports is decoded from the answer. -/
theorem addAnswer_of_interfaceAdd_ok {σ : Type} {P : Peer σ} {c : Client σ}
    {req : InterfaceAddRequest} {ifaceID : UInt16}
    (h : ((Api.interfaceAdd req).interp (Client.handler P) c).1 = .ok ifaceID) :
  ∃ answer, addAnswer P c req = some answer ∧ Resp.ifaceID.decode answer = .ok ifaceID
  := by
  unfold addAnswer
  cases hpayload : Api.interfaceAddPayload req with
  | error err =>
      rw [Api.interfaceAdd, hpayload] at h
      cases h
  | ok payload =>
      have hrequest := (interp_interfaceAdd_ok_iff hpayload).mp h
      dsimp only
      rcases hsend : c.send P typeIfaceAdd payload with ⟨err | ⟨⟩, c₁⟩
      · rw [Client.request, hsend] at hrequest
        cases hrequest
      · exact (request_ok_iff .ifaceID hsend).mp hrequest

/-- Over a client whose answers to `InterfaceAdd` have a payload, and whose peer sends no id
that is zero, no operation reports zero. -/
theorem nonZero_of_overClient {σ S : Type} {P : Peer σ} {T : Behaviour Op.Res S}
    {s s' : S × Client σ} {o : Op} {r : o.Res} (h : OverClient P T s o r s')
    (hids : sendsNonZero P s.2 o = true)
    (hpayload : answersWithPayload P s.2 o = true) :
  NonZero o r
  := by
  cases o with
  | interfaceAdd req =>
      intro ifaceID hr
      obtain ⟨-, hinterp⟩ := h
      have hok : ((Api.interfaceAdd req).interp (Client.handler P) s.2).1 = .ok ifaceID :=
        (congrArg Prod.fst hinterp).trans hr
      obtain ⟨answer, hanswer, hdecode⟩ := addAnswer_of_interfaceAdd_ok hok
      rintro rfl
      rcases decode_ifaceID_ok_iff.mp hdecode with ⟨rfl, -⟩ | ⟨-, htake⟩
      · simp [answersWithPayload, hanswer] at hpayload
      · rw [sendsNonZero, hanswer, Option.all_some] at hids
        exact of_decide_eq_true hids htake
  | interfaceList req =>
      obtain ⟨-, hinterp⟩ := h
      intro ifaces hr
      have hok : ((Api.interfaceList req).interp (Client.handler P) s.2).1 = .ok ifaces :=
        (congrArg Prod.fst hinterp).trans hr
      rw [sendsNonZero, hok, Except.toOption, Option.all_some] at hids
      simpa using hids
  | _ => trivial

/-- The request of a port that was added, if the event is that. -/
def addedPort? : Event Op.Res → Option InterfaceAddRequest
  | ⟨.interfaceAdd req, .ok _⟩ => if req.type = InterfaceType.tap then some req else none
  | _ => none

/-- The requests of the ports that were added. -/
def addedPorts (log : List (Event Op.Res)) : List InterfaceAddRequest :=
  log.filterMap addedPort?

theorem addedPort?_inBridge {e : Event Op.Res} {req : InterfaceAddRequest} (h : InBridge e.1)
    (hreq : addedPort? e = some req) :
  req.domainID ≠ 0
  := by
  unfold addedPort? at hreq
  split at hreq
  case h_1 =>
    split at hreq
    case isTrue htype =>
      cases hreq
      exact h htype
    case isFalse => cases hreq
  case h_2 => cases hreq

/-- `InterfaceAdd` reports exactly the ids that are sent, unless the answer has no payload.
Where every answer to `InterfaceAdd` has a payload, and grout sends no id that is zero,
`HandleAdd` over the client adds no port outside of a bridge. -/
theorem interfaceAdd_reports {σ S : Type} (P : Peer σ) (T : Behaviour Op.Res S) :
  (∀ (c c₁ : Client σ) (req : InterfaceAddRequest) (payload : Bytes),
    Api.interfaceAddPayload req = .ok payload →
    c.send P typeIfaceAdd payload = (.ok (), c₁) →
    ((∀ ifaceID : UInt16, ((Api.interfaceAdd req).interp (Client.handler P) c).1 = .ok ifaceID
      ↔ Sent c₁.reqID ifaceID c₁.input) ↔ ¬SentEmpty c₁.reqID c₁.input)) ∧
  ∀ (conf : PluginConf) (args : CmdArgs) (fails : Bool) (s s' : S × Client σ)
      (log : List (Event Op.Res)) (r : Reply),
    Run (Solo (logged (Where (fun c o => sendsNonZero P c o && answersWithPayload P c o)
      (OverClient P T))) fails) (handleAdd conf args) (s, []) r (s', log) →
    ∀ req ∈ addedPorts log, req.domainID ≠ 0
  := by
  constructor
  · intro c c₁ req payload hpayload hsend
    exact interfaceAdd_reports_iff hpayload hsend
  · intro conf args fails s s' log r hrun req hreq
    obtain ⟨e, he, hport⟩ := List.mem_filterMap.mp hreq
    rcases run_locked hrun with hrun | ⟨hsame, -⟩
    · have hlog := handleAddBody_meets.run ?_ hrun e he
      · rcases hlog with hlog | hlog
        · cases hlog
        · exact addedPort?_inBridge hlog hport
      · rintro s o r s' ⟨hcond, hstep⟩
        obtain ⟨hids, hpayload⟩ := Bool.and_eq_true_iff.mp hcond
        exact nonZero_of_overClient hstep hids hpayload
    · cases hsame
      cases he

/-! ### Scripted peers -/

/-- A peer that answers each write with the next bytes of a script. -/
def Peer.script : Peer (List Bytes) where
  write := fun answers _ => (.ok (answers.headD []), answers.tail)

/-- A request with a payload takes two writes. -/
theorem send_script {id type : UInt32} {answer₁ answer₂ input payload : Bytes}
    {answers : List Bytes} (h : 0 < payload.length) :
  Client.send .script ⟨id, answer₁ :: answer₂ :: answers, input⟩ type payload
    = (.ok (), ⟨id + 1, answers, input ++ answer₁ ++ answer₂⟩)
  := by
  unfold Client.send Client.writeRequest Client.write Peer.script
  dsimp only
  rw [if_pos h]
  rfl

/-- Perform an operation: the client talks to a scripted peer, and the IPAM plugin answers a
result. -/
def scriptAct (cond : Client (List Bytes) → Op → Bool) (raw : RawResult) (_ : Unit)
    (s : Unit × Client (List Bytes)) (o : Op) :
    Option (o.Res × (Unit × Client (List Bytes))) :=
  if cond s.2 o then
    match o.method with
    | some p => some ((p.interp (Client.handler .script) s.2).1, ((),
        (p.interp (Client.handler .script) s.2).2))
    | none =>
        match o with
        | .ipamAdd _ _ => some (.ok raw, s)
        | _ => none
  else none

/-- What is performed is what the client does, whatever the others may do. -/
theorem scriptAct_sound (cond : Client (List Bytes) → Op → Bool) (raw : RawResult) (x : Unit)
    (s : Unit × Client (List Bytes)) (o : Op) (r : o.Res) (s' : Unit × Client (List Bytes))
    (h : scriptAct cond raw x s o = some (r, s')) :
  Where cond (OverClient .script fun _ _ _ _ => True) s o r s'
  := by
  unfold scriptAct at h
  split at h
  case isFalse => cases h
  case isTrue hcond =>
    refine ⟨hcond, ?_⟩
    unfold OverClient
    split at h
    case h_1 p hp =>
      cases h
      exact ⟨rfl, rfl⟩
    case h_2 hp =>
      split at h
      case h_1 =>
        cases h
        exact ⟨trivial, rfl⟩
      case h_2 => cases h

/-- The peer lists no interfaces, creates a bridge with the id 7, takes its gateway address and
creates the port: the port is added to the bridge. -/
theorem interfaceAdd_reports_bridge :
  (∀ ifaceID : UInt16,
    ((Api.interfaceAdd { name := lit "br-shared", type := InterfaceType.bridge }).interp
      (Client.handler .script) ⟨1, [[], frame 2 0 [7, 0]], []⟩).1 = .ok ifaceID
      ↔ Sent 2 ifaceID (frame 2 0 [7, 0])) ∧
  ∃ r s' log, Run (Solo (logged (Where
      (fun c o => sendsNonZero .script c o && answersWithPayload .script c o)
      (OverClient .script fun (_ : Unit) _ _ _ => True))) false)
      (handleAdd sharedTap (pod "a"))
      (((), ⟨0, [[], frame 1 0 [], [], frame 2 0 [7, 0], [], frame 3 0 [], [], frame 4 0 [9, 0]],
        []⟩), []) r (s', log) ∧
    (addedPorts log).length = 1 ∧ ∀ req ∈ addedPorts log, req.domainID ≠ 0
  := by
  constructor
  · apply ((interfaceAdd_reports .script fun (_ : Unit) _ _ _ => True).1 _ _ _ _ rfl
      (send_script (by rw [length_fill]; decide))).mpr
    rintro ⟨rest, hrest⟩
    have hempty := firstAnswer_eq_some_iff.mpr ⟨rest, hrest, Nat.zero_le _⟩
    revert hempty
    decide +kernel
  · have hexec : (exec (loggedAct (scriptAct
        (fun c o => sendsNonZero .script c o && answersWithPayload .script c o)
        (oneAddress 10).result)) (List.replicate 5 ()) (handleAddBody sharedTap (pod "a"))
        (((), ⟨0, [[], frame 1 0 [], [], frame 2 0 [7, 0], [], frame 3 0 [], [],
          frame 4 0 [9, 0]], []⟩), [])).any
        (fun x => decide ((addedPorts x.2.2).length = 1)) = true := by
      decide +kernel
    obtain ⟨r, ⟨s', log⟩, hrun, hcheck⟩ :=
      exec_exists (loggedAct_sound (scriptAct_sound _ _)) hexec
    have hadd : Run (Solo _ false) (locked sharedTap _) _ _ _ := locked_run hrun
    exact ⟨r, s', log, hadd, of_decide_eq_true hcheck,
      (interfaceAdd_reports .script _).2 _ _ _ _ _ _ _ hadd⟩

/-- The peer answers the request for the bridge without a payload: `InterfaceAdd` reports zero,
which was not sent, and `HandleAdd` succeeds with a port outside of any bridge. -/
theorem interfaceAdd_reports_zero :
  (((Api.interfaceAdd { name := lit "br-shared", type := InterfaceType.bridge }).interp
      (Client.handler .script) ⟨1, [[], frame 2 0 []], []⟩).1 = .ok 0 ∧
    ¬Sent 2 0 (frame 2 0 [])) ∧
  ∃ r s' log, Run (Solo (logged (OverClient .script fun (_ : Unit) _ _ _ => True)) false)
      (handleAdd sharedTap (pod "a"))
      (((), ⟨0, [[], frame 1 0 [], [], frame 2 0 [], [], frame 3 0 [], [], frame 4 0 [9, 0]],
        []⟩), []) r (s', log) ∧
    (∃ result, r = .ok result) ∧ ∃ req ∈ addedPorts log, req.domainID = 0
  := by
  refine ⟨⟨by decide +kernel, ?_⟩, ?_⟩
  · rintro ⟨answer, rest, hinput, hlen, hmax, -⟩
    have hanswer := firstAnswer_eq_some_iff.mpr ⟨rest, hinput, hmax⟩
    rw [show firstAnswer 2 (frame 2 0 []) = some [] by decide +kernel, Option.some.injEq]
      at hanswer
    subst hanswer
    cases hlen
  · have hexec : (exec (loggedAct (scriptAct (fun _ _ => true) (oneAddress 10).result))
        (List.replicate 5 ()) (handleAddBody sharedTap (pod "a"))
        (((), ⟨0, [[], frame 1 0 [], [], frame 2 0 [], [], frame 3 0 [], [],
          frame 4 0 [9, 0]], []⟩), [])).any
        (fun x : Reply × (Unit × Client (List Bytes)) × List (Event Op.Res) =>
          x.1.isError = false ∧ x.1 ≠ .panic ∧ ∃ req ∈ addedPorts x.2.2, req.domainID = 0)
        = true := by
      decide +kernel
    obtain ⟨r, ⟨s', log⟩, hrun, hcheck⟩ := exec_exists
      (loggedAct_sound fun x s o r s' h => (scriptAct_sound _ _ x s o r s' h).2) hexec
    obtain ⟨herr, hpanic, hport⟩ := of_decide_eq_true hcheck
    refine ⟨r, s', log, locked_run hrun, ?_, hport⟩
    cases r with
    | ok result => exact ⟨result, rfl⟩
    | error e => cases herr
    | panic => exact absurd rfl hpanic

end GroutCni
