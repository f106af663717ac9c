import GroutCni.Api.Meaning

/-!
# Services

A service answers messages; it is what a server is for.  A server serves it if the answer to
every request that is read as a message conveys the answer of the service (`Serves`).  Every
method of the client then sends what it means (`program_matches`), and returns on the server what
it returns on the service (`Serves.call`).
-/

namespace GroutCni

open Effect Wire Api

/-! ### Answers that convey a value -/

/-- A status that reports a failure. -/
abbrev Status : Type := { status : UInt32 // status ≠ 0 }

/-- The error that a status is reported as. -/
def statusError (status : Status) : GoError :=
  .errorf "grout error: status %d" [.num status.val.toNat]

/-- The answer of a service to a message. -/
abbrev Message.Ans (m : Message) : Type := Except Status m.Val

/-- What sending the message returns. -/
def Message.reported {m : Message} (a : m.Ans) : m.Res := a.mapError statusError

/-- The entry of an interface list, as `gr_iface` has it.  What follows the NUL that ends the
name is left open. -/
structure ShowsIface (iface : InterfaceInfo) (b : Bytes) : Prop where
  length_le : ifaceSize ≤ b.length
  id : slice b offIfaceID 2 = toLE 2 iface.id.toNat
  type : slice b offIfaceType 1 = [iface.type]
  domain : slice b offIfaceDomain 2 = toLE 2 iface.domain.toNat
  name : ∃ tail, slice b offIfaceName ifNameSize = iface.name ++ 0 :: tail
  nul : 0 ∉ iface.name

/-- The entry of a flood list, as `gr_flood_entry` has it. -/
structure ShowsVTEP (vtep : FloodVTEPInfo) (b : Bytes) : Prop where
  length_le : floodEntrySize ≤ b.length
  vni : slice b offFloodVTEPVNI 4 = toLE 4 vtep.vni.toNat
  isV4 : ∀ ip ∈ vtep.addr, slice b (offFloodVTEPAddr + offL3AddrAF) 1 = [afIP4] ∧
    slice b (offFloodVTEPAddr + offL3AddrIPv4) 4 = ip
  notV4 : vtep.addr = none → slice b (offFloodVTEPAddr + offL3AddrAF) 1 ≠ [afIP4]

/-- The id of an interface. -/
def ShowsID (id : UInt16) (b : Bytes) : Prop :=
  2 ≤ b.length ∧ b.take 2 = toLE 2 id.toNat

/-- The response conveys the answer of a service. -/
def PlainAnswer.Conveys {V : Type} (shows_ : V → Bytes → Prop) (a : PlainAnswer) :
    Except Status V → Prop
  | .error status => a.status = status
  | .ok v => a.status = 0 ∧ shows_ v a.payload

/-- The list conveys the answer of a service. -/
def ListAnswer.Conveys {V : Type} (shows_ : V → Bytes → Prop) (a : ListAnswer) :
    Except Status (List V) → Prop
  | .error status => ∃ f, a.failure = some f ∧ f.status = status
  | .ok vs => a.failure = none ∧ List.Forall₂ shows_ vs a.items

/-- The answer to a request conveys the answer of a service to its message. -/
def Message.Conveys : (m : Message) → m.Ans → Answer → Prop
  | .ifaceList _, r, .list a => a.Conveys ShowsIface r
  | .floodList _ _, r, .list a => a.Conveys ShowsVTEP r
  | .ifaceAdd _, r, .plain a => a.Conveys ShowsID r
  | .ifaceList _, _, .plain _ => False
  | .floodList _ _, _, .plain _ => False
  | m, r, .plain a => a.Conveys (V := m.Val) (fun _ _ => True) r
  | _, _, .list _ => False

/-- The value is read from an entry that shows it. -/
theorem ShowsIface.decode {iface : InterfaceInfo} {b : Bytes} (h : ShowsIface iface b) :
  decodeInterface b = some iface
  := by
  obtain ⟨tail, hname⟩ := h.name
  have hnul : ∀ c ∈ iface.name, decide (c ≠ 0) = true := by
    intro c hc
    apply decide_eq_true
    rintro rfl
    exact h.nul hc
  have hcString : cString (slice b offIfaceName ifNameSize) = iface.name := by
    rw [hname, cString, List.takeWhile_append_of_pos hnul]
    simp
  rw [decodeInterface, if_neg (Nat.not_lt.mpr h.length_le), uint16At_of_slice h.id,
    getD_of_slice h.type, uint16At_of_slice h.domain, hcString]

/-- The value is read from an entry that shows it. -/
theorem ShowsVTEP.decode {vtep : FloodVTEPInfo} {b : Bytes} (h : ShowsVTEP vtep b) :
  decodeFloodEntry b = some vtep
  := by
  obtain ⟨vni, addr⟩ := vtep
  have haf : (slice b offFloodVTEPAddr l3AddrSize).getD offL3AddrAF 0
      = b.getD (offFloodVTEPAddr + offL3AddrAF) 0 := by
    rw [List.getD_eq_getElem?_getD, getElem?_slice, if_pos (by decide),
      ← List.getD_eq_getElem?_getD]
  have haddr : l3AddrIPv4 (slice b offFloodVTEPAddr l3AddrSize) = addr := by
    unfold l3AddrIPv4
    rw [haf, slice_slice _ (by decide)]
    cases addr with
    | some ip =>
        obtain ⟨hone, hfour⟩ := h.isV4 ip rfl
        rw [getD_of_slice hone, if_neg (not_not.mpr rfl), hfour]
    | none =>
        apply if_pos
        intro hget
        apply h.notV4 rfl
        have hlt : offFloodVTEPAddr + offL3AddrAF < b.length :=
          Nat.lt_of_lt_of_le (by decide) h.length_le
        rw [List.getD_eq_getElem _ _ hlt] at hget
        rw [slice, List.drop_eq_getElem_cons hlt, hget]
        rfl
  rw [decodeFloodEntry, if_neg (Nat.not_lt.mpr h.length_le), uint32At_of_slice h.vni, haddr]

theorem filterMap_of_forall₂ {V : Type} {shows_ : V → Bytes → Prop} {decode : Bytes → Option V}
    (hdecode : ∀ v b, shows_ v b → decode b = some v) {vs : List V} {items : List Bytes}
    (h : List.Forall₂ shows_ vs items) :
  items.filterMap decode = vs
  := by
  induction h with
  | nil => rfl
  | cons hv _ ih => rw [List.filterMap_cons, hdecode _ _ hv, ih]

/-- A message that is not answered with a list is answered with one response. -/
theorem Message.Conveys.plain {m : Message} {r : m.Ans} {a : Answer} (h : m.Conveys r a)
    (hm : m.isList = false) :
  ∃ p, a = .plain p ∧ (∀ status, r = .error status → p.status = status) ∧
    ∀ v, r = .ok v → p.status = 0
  := by
  cases a with
  | list a => cases m <;> first | exact False.elim h | exact Bool.noConfusion hm
  | plain p =>
      refine ⟨p, rfl, ?_, ?_⟩
      · rintro status rfl
        cases m <;> first | exact h | exact Bool.noConfusion hm
      · rintro v rfl
        cases m <;> first | exact h.1 | exact Bool.noConfusion hm

/-! ### Requests and messages -/

/-- A request and the message that it is read as.  Either the answer to the request conveys the
answer to the message, or both fail alike. -/
def wireCoupling : Coupling RpcOp.Res Message.Res where
  op o m := Proper o ∧ parse o.type o.payload = some m
  ans o m r r' :=
    (∃ a v, r = outcome o a ∧ m.Conveys v a ∧ r' = m.reported v) ∨
    ∃ err, r = .error err ∧ r' = .error err

theorem PlainAnswer.outcome_error {p : PlainAnswer} {status : Status} (h : p.status = status)
    (resp : Resp) :
  p.outcome resp = .error (statusError status)
  := by
  have hne : p.status ≠ 0 := by
    rw [h]
    exact status.property
  rw [PlainAnswer.outcome, if_pos hne, h, statusError]

theorem PlainAnswer.outcome_ok {p : PlainAnswer} (h : p.status = 0) (resp : Resp) :
  p.outcome resp = resp.decode p.payload
  := if_neg (not_not.mpr h)

section

variable {type : UInt32} {payload : Bytes} {m : Message}

/-- What is returned for a message whose answer is not read. -/
theorem ans_nil {r : RpcOp.Res (.request type payload .nil)} {r' : m.Res}
    (h : wireCoupling.ans (.request type payload .nil) m r r') (hm : m.isList = false) :
  (∃ err, r = .error err ∧ r' = .error err) ∨ r = .ok () ∧ ∃ v, r' = .ok v
  := by
  rcases h with ⟨a, v, rfl, hconveys, rfl⟩ | ⟨err, rfl, rfl⟩
  · obtain ⟨p, rfl, herr, hok⟩ := hconveys.plain hm
    cases v with
    | error status =>
        exact .inl ⟨_, PlainAnswer.outcome_error (herr status rfl) .nil, rfl⟩
    | ok v => exact .inr ⟨PlainAnswer.outcome_ok (hok v rfl) .nil, v, rfl⟩
  · exact .inl ⟨err, rfl, rfl⟩

/-- A request from which nothing is read. -/
theorem matches_request_nil (hlen : payload.length < 2 ^ 32) (htype : isListType type = false)
    (hparse : parse type payload = some m) (hm : m.isList = false) :
  Matches wireCoupling Eq (Api.request type payload .nil) (tell m fun err => err)
  := by
  have hop : wireCoupling.op (.request type payload .nil) m := ⟨⟨hlen, htype⟩, hparse⟩
  apply Matches.call hop
  intro r r' h
  obtain ⟨err, rfl, rfl⟩ | ⟨rfl, v, rfl⟩ := ans_nil h hm
  · exact .ret rfl
  · exact .ret rfl

/-- A request from which nothing is read, with an error that is wrapped. -/
theorem matches_requestNil {format : String} {args : List FmtArg}
    (hlen : payload.length < 2 ^ 32) (htype : isListType type = false)
    (hparse : parse type payload = some m) (hm : m.isList = false) :
  Matches wireCoupling Eq (requestNil type payload format args) (tell m (.wrapf format args))
  := by
  have hop : wireCoupling.op (.request type payload .nil) m := ⟨⟨hlen, htype⟩, hparse⟩
  apply Matches.call hop
  intro r r' h
  obtain ⟨err, rfl, rfl⟩ | ⟨rfl, v, rfl⟩ := ans_nil h hm
  · exact .ret rfl
  · exact .ret rfl

/-- A list that is conveyed is read, and a failure is reported. -/
theorem ListAnswer.Conveys.outcome {V : Type} {shows_ : V → Bytes → Prop}
    {decode : Bytes → Option V} (hdecode : ∀ v b, shows_ v b → decode b = some v)
    {a : ListAnswer} {r : Except Status (List V)} (h : a.Conveys shows_ r) :
  (∃ err, r.mapError statusError = .error err ∧ a.outcome = .error err) ∨
  ∃ items, a.outcome = .ok items ∧ r.mapError statusError = .ok (items.filterMap decode)
  := by
  cases r with
  | error status =>
      obtain ⟨f, hf, hstatus⟩ := h
      refine .inl ⟨_, rfl, ?_⟩
      rw [ListAnswer.outcome, hf, statusError, ← hstatus]
  | ok vs =>
      refine .inr ⟨a.items, ?_, ?_⟩
      · rw [ListAnswer.outcome, h.1]
      · rw [filterMap_of_forall₂ hdecode h.2]
        rfl

end

/-! ### The methods -/

theorem interfaceList_matches (req : InterfaceListRequest) :
  Matches wireCoupling Eq (Api.interfaceList req)
    (ask (.ifaceList req.type) (.wrapf "interface list: %w" []))
  := by
  have hop : wireCoupling.op (.requestStream typeIfaceList [req.type]) (.ifaceList req.type) :=
    ⟨⟨by simp [RpcOp.payload], rfl⟩, rfl⟩
  apply Matches.call hop
  rintro r r' (⟨_ | a, v, rfl, hconveys, rfl⟩ | ⟨err, rfl, rfl⟩)
  · exact hconveys.elim
  · have hlist : a.Conveys ShowsIface v := hconveys
    obtain ⟨err, hr, hout⟩ | ⟨items, hout, hr⟩ := hlist.outcome fun _ _ h => h.decode
    · have heq : outcome (.requestStream typeIfaceList [req.type]) (.list a) = .error err := hout
      have hr' : Message.reported (m := .ifaceList req.type) v = .error err := hr
      rw [heq, hr']
      exact .ret rfl
    · have heq : outcome (.requestStream typeIfaceList [req.type]) (.list a) = .ok items := hout
      have hr' : Message.reported (m := .ifaceList req.type) v
          = .ok (items.filterMap decodeInterface) := hr
      rw [heq, hr']
      exact .ret rfl
  · exact .ret rfl

theorem parse_floodList (vrfID : UInt16) :
  parse typeFloodList (fill 4 [u8 offFloodType floodTypeVTEP, u16 offFloodVRFID vrfID])
    = some (.floodList floodTypeVTEP vrfID)
  := by
  have hapart : [u8 offFloodType floodTypeVTEP, u16 offFloodVRFID vrfID].Pairwise Field.Apart := by
    simp [Field.Apart, u8, u16, offFloodType, offFloodVRFID]
  have htype : (fill 4 [u8 offFloodType floodTypeVTEP, u16 offFloodVRFID vrfID]).getD
      offFloodType 0 = floodTypeVTEP :=
    getD_of_slice (slice_fill (f := u8 offFloodType floodTypeVTEP) hapart (by simp) (by decide))
  have hvrf : uint16At (fill 4 [u8 offFloodType floodTypeVTEP, u16 offFloodVRFID vrfID])
      offFloodVRFID = vrfID :=
    uint16At_of_slice (slice_fill (f := u16 offFloodVRFID vrfID) hapart (by simp)
      (by simp [u16, offFloodVRFID]))
  rw [parse_eq .floodList rfl (by rw [length_fill]; rfl), Kind.read, htype, hvrf]

theorem floodList_matches (req : FloodListRequest) :
  Matches wireCoupling Eq (Api.floodList req)
    (ask (.floodList floodTypeVTEP (vrfOrDefault req.vrfID)) (.wrapf "flood list: %w" []))
  := by
  have hparse := parse_floodList (vrfOrDefault req.vrfID)
  have hlen := length_fill 4 [u8 offFloodType floodTypeVTEP,
    u16 offFloodVRFID (vrfOrDefault req.vrfID)]
  unfold Api.floodList
  dsimp only
  generalize fill 4 [u8 offFloodType floodTypeVTEP, u16 offFloodVRFID (vrfOrDefault req.vrfID)]
    = payload at *
  have hop : wireCoupling.op (.requestStream typeFloodList payload)
      (.floodList floodTypeVTEP (vrfOrDefault req.vrfID)) :=
    ⟨⟨by rw [RpcOp.payload, hlen]; decide, rfl⟩, hparse⟩
  apply Matches.call hop
  rintro r r' (⟨_ | a, v, rfl, hconveys, rfl⟩ | ⟨err, rfl, rfl⟩)
  · exact hconveys.elim
  · have hlist : a.Conveys ShowsVTEP v := hconveys
    obtain ⟨err, hr, hout⟩ | ⟨items, hout, hr⟩ := hlist.outcome fun _ _ h => h.decode
    · have heq : outcome (.requestStream typeFloodList payload) (.list a) = .error err := hout
      have hr' : Message.reported (m := .floodList _ _) v = .error err := hr
      rw [heq, hr']
      exact .ret rfl
    · have heq : outcome (.requestStream typeFloodList payload) (.list a) = .ok items := hout
      have hr' : Message.reported (m := .floodList _ _) v
          = .ok (items.filterMap decodeFloodEntry) := hr
      rw [heq, hr']
      exact .ret rfl
  · exact .ret rfl

/-- An id that is shown is decoded. -/
theorem ShowsID.decode {id : UInt16} {b : Bytes} (h : ShowsID id b) :
  Resp.ifaceID.decode b = .ok id
  := by
  have hne : b ≠ [] := by
    rintro rfl
    cases h.1
  have htake : readFull 2 b = (.ok (b.take 2), b.drop 2) := if_pos h.1
  have hid : uint16At (b.take 2) 0 = id := by
    apply uint16At_of_slice
    rw [slice_self (by rw [List.length_take]; exact Nat.min_eq_left h.1), h.2]
  rw [Resp.decode, if_pos ⟨by decide, List.length_pos_iff.mpr hne⟩]
  dsimp only [Resp.read]
  rw [htake]
  exact congrArg Except.ok hid

theorem interfaceAdd_matches (req : InterfaceAddRequest) :
  Matches wireCoupling Eq (Api.interfaceAdd req) (askInterfaceAdd req)
  := by
  unfold Api.interfaceAdd askInterfaceAdd
  cases hpayload : interfaceAddPayload req with
  | error err =>
      have hinfo : infoFields req = .error err := by
        unfold interfaceAddPayload at hpayload
        split at hpayload
        case h_1 err' herr =>
          cases hpayload
          exact herr
        case h_2 => cases hpayload
      rw [ifaceInfo_of_infoFields_error hinfo]
      exact .ret rfl
  | ok payload =>
      obtain ⟨info, hinfo, hparse⟩ := parse_ifaceAdd hpayload
      obtain ⟨fields, hfields⟩ := isPayload_of_interfaceAddPayload hpayload
      rw [hinfo]
      have hop : wireCoupling.op (.request typeIfaceAdd payload .ifaceID)
          (.ifaceAdd (req.iface info)) :=
        ⟨⟨by rw [RpcOp.payload, hfields.length]; exact infoSize_lt _, rfl⟩, hparse⟩
      apply Matches.call hop
      rintro r r' (⟨p | _, v, rfl, hconveys, rfl⟩ | ⟨err, rfl, rfl⟩)
      · cases v with
        | error status =>
            have hout : outcome (.request typeIfaceAdd payload .ifaceID) (.plain p)
                = .error (statusError status) := PlainAnswer.outcome_error hconveys .ifaceID
            rw [hout]
            exact .ret rfl
        | ok id =>
            have hid : ShowsID id p.payload := hconveys.2
            have hout : outcome (.request typeIfaceAdd payload .ifaceID) (.plain p) = .ok id :=
              (PlainAnswer.outcome_ok hconveys.1 .ifaceID).trans hid.decode
            rw [hout]
            exact .ret rfl
      · exact hconveys.elim
      · exact .ret rfl

/-- `AddressAdd` and `AddressDel`. -/
theorem addressRequest_matches {type4 type6 : UInt32} {m : Family → Subnet → Message}
    {id : UInt16} {net : IPNet} {ok : Bool} {format invalid : String}
    (h4 : ∀ x ones, x.length = 4 →
      parse type4 (ip4AddrPayload id x ones ok) = some (m .v4 ⟨x, ones⟩))
    (h6 : ∀ x ones, x.length = 16 →
      parse type6 (ip6AddrPayload id x ones ok) = some (m .v6 ⟨x, ones⟩))
    (htype4 : isListType type4 = false) (htype6 : isListType type6 = false)
    (hm : ∀ f net, (m f net).isList = false) :
  Matches wireCoupling Eq (addressRequest type4 type6 id net ok format invalid)
    (tellAddr m id net format invalid)
  := by
  unfold addressRequest tellAddr
  dsimp only
  cases hto4 : to4 net.ip with
  | some ip4 =>
      exact matches_requestNil (length_fill_lt _ (by decide)) htype4
        (h4 _ _ (length_of_to4 hto4)) (hm _ _)
  | none =>
      dsimp only
      cases hto16 : to16 net.ip with
      | none => exact .ret rfl
      | some ip6 =>
          exact matches_requestNil (length_fill_lt _ (by decide)) htype6
            (h6 _ _ (length_of_to16 hto16)) (hm _ _)

theorem ip4AddrFlush_matches (id : UInt16) :
  Matches wireCoupling Eq (Api.ip4AddrFlush id) (tell (.addrFlush .v4 id) fun err => err)
  := matches_request_nil (length_fill_lt _ (by decide)) rfl
    (parse_id (.addrFlush .v4) id rfl (fun _ => rfl) fun _ => rfl) rfl

theorem ip6AddrFlush_matches (id : UInt16) :
  Matches wireCoupling Eq (Api.ip6AddrFlush id) (tell (.addrFlush .v6 id) fun err => err)
  := matches_request_nil (length_fill_lt _ (by decide)) rfl
    (parse_id (.addrFlush .v6) id rfl (fun _ => rfl) fun _ => rfl) rfl

theorem addressFlush_matches (id : UInt16) :
  Matches wireCoupling Eq (Api.addressFlush id) (tellFlush id)
  := by
  apply (ip4AddrFlush_matches id).bind
  rintro r _ rfl
  cases r with
  | error err => exact .ret rfl
  | ok _ =>
      apply (ip6AddrFlush_matches id).bind
      rintro r _ rfl
      cases r with
      | error err => exact .ret rfl
      | ok _ => exact .ret rfl

theorem routeAdd_matches (req : RouteAddRequest) :
  Matches wireCoupling Eq (Api.routeAdd req) (tellRouteAdd req)
  := by
  unfold Api.routeAdd tellRouteAdd
  dsimp only
  cases hdest4 : to4 req.destination.ip with
  | some dest =>
      dsimp only
      cases hnh4 : to4 req.nextHop with
      | none => exact .ret rfl
      | some nh =>
          exact matches_requestNil (length_fill_lt _ (by decide)) rfl
            (parse_routeFields (f := .v4) (.routeAdd .v4) (m := Message.routeAdd .v4) _ _ _
              rfl (fun _ => rfl) (fun _ => rfl) (length_of_to4 hdest4) (length_of_to4 hnh4)
              (by decide) (by decide) (by decide)) rfl
  | none =>
      dsimp only
      cases hdest16 : to16 req.destination.ip with
      | none => exact .ret rfl
      | some dest =>
          dsimp only
          cases hnh16 : to16 req.nextHop with
          | none => exact .ret rfl
          | some nh =>
              exact matches_requestNil (length_fill_lt _ (by decide)) rfl
                (parse_routeFields (f := .v6) (.routeAdd .v6) (m := Message.routeAdd .v6)
                  _ _ _ rfl (fun _ => rfl) (fun _ => rfl) (length_of_to16 hdest16)
                  (length_of_to16 hnh16) (by decide) (by decide) (by decide)) rfl

theorem routeDel_matches (req : RouteDelRequest) :
  Matches wireCoupling Eq (Api.routeDel req) (tellRouteDel req)
  := by
  unfold Api.routeDel tellRouteDel
  dsimp only
  cases hdest4 : to4 req.destination.ip with
  | some dest =>
      exact matches_requestNil (length_fill_lt _ (by decide)) rfl
        (parse_netFields (f := .v4) (.routeDel .v4) (m := Message.routeDel .v4) _ _ _ rfl
          (fun _ => rfl) (fun _ => rfl) (length_of_to4 hdest4) (by decide) (by decide)) rfl
  | none =>
      dsimp only
      cases hdest16 : to16 req.destination.ip with
      | none => exact .ret rfl
      | some dest =>
          exact matches_requestNil (length_fill_lt _ (by decide)) rfl
            (parse_netFields (f := .v6) (.routeDel .v6) (m := Message.routeDel .v6) _ _ _
              rfl (fun _ => rfl) (fun _ => rfl) (length_of_to16 hdest16) (by decide) (by decide))
            rfl

/-- `FloodAdd` and `FloodDel`. -/
theorem floodRequest_matches {type : UInt32} {m : FloodEntry → Message} {vrfID : UInt16}
    {vni : UInt32} {addr : IP} {ok : Bool} {format : String}
    (h : ∀ x : IP, x.length = 4 → parse type (fill floodReqSize
      (floodFields (vrfOrDefault vrfID) vni x ++ flag floodEntrySize ok))
      = some (m ⟨floodTypeVTEP, vrfOrDefault vrfID, vni, some x⟩))
    (htype : isListType type = false) (hm : ∀ entry, (m entry).isList = false) :
  Matches wireCoupling Eq (floodRequest type vrfID vni addr ok format)
    (tellFlood m vrfID vni addr format)
  := by
  unfold floodRequest tellFlood
  dsimp only
  cases hto4 : to4 addr with
  | none =>
      rw [encodeFloodEntry, putL3AddrIPv4, hto4]
      exact .ret rfl
  | some ip4 =>
      rw [encodeFloodEntry_ok _ _ hto4]
      exact matches_requestNil (length_fill_lt _ (by decide)) htype (h ip4 (length_of_to4 hto4))
        (hm _)

/-- Every request of a method is read as the message that is meant, and the method makes of the
answer what is meant. -/
theorem program_matches (call : ClientCall) :
  Matches wireCoupling Eq call.program call.meaning
  := by
  cases call with
  | hello =>
      exact matches_request_nil (length_fill_lt _ (by decide)) rfl (by decide +kernel) rfl
  | interfaceList req => exact interfaceList_matches req
  | interfaceAdd req => exact interfaceAdd_matches req
  | interfaceDel id =>
      exact matches_requestNil (length_fill_lt _ (by decide)) rfl
        (parse_id .ifaceDel id rfl (fun _ => rfl) fun _ => rfl) rfl
  | addressAdd req =>
      refine addressRequest_matches (m := fun f net => .addrAdd f req.ifaceID net req.existOK)
        ?_ ?_ rfl rfl fun _ _ => rfl
      · intro x ones hx
        exact parse_netFields (f := .v4) (.addrAdd .v4) (m := Message.addrAdd .v4) _ _ _
          rfl (fun _ => rfl) (fun _ => rfl) hx (by decide) (by decide)
      · intro x ones hx
        exact parse_netFields (f := .v6) (.addrAdd .v6) (m := Message.addrAdd .v6) _ _ _
          rfl (fun _ => rfl) (fun _ => rfl) hx (by decide) (by decide)
  | addressDel req =>
      refine addressRequest_matches (m := fun f net => .addrDel f req.ifaceID net req.missingOK)
        ?_ ?_ rfl rfl fun _ _ => rfl
      · intro x ones hx
        exact parse_netFields (f := .v4) (.addrDel .v4) (m := Message.addrDel .v4) _ _ _
          rfl (fun _ => rfl) (fun _ => rfl) hx (by decide) (by decide)
      · intro x ones hx
        exact parse_netFields (f := .v6) (.addrDel .v6) (m := Message.addrDel .v6) _ _ _
          rfl (fun _ => rfl) (fun _ => rfl) hx (by decide) (by decide)
  | addressFlush id => exact addressFlush_matches id
  | routeAdd req => exact routeAdd_matches req
  | routeDel req => exact routeDel_matches req
  | floodAdd req =>
      refine floodRequest_matches (m := fun entry => .floodAdd entry req.existOK) ?_ rfl
        fun _ => rfl
      intro x hx
      exact parse_flood .floodAdd (m := Message.floodAdd) _ _ _ rfl (fun _ => rfl)
        (fun _ => rfl) hx
  | floodDel req =>
      refine floodRequest_matches (m := fun entry => .floodDel entry req.missingOK) ?_ rfl
        fun _ => rfl
      intro x hx
      exact parse_flood .floodDel (m := Message.floodDel) _ _ _ rfl (fun _ => rfl)
        (fun _ => rfl) hx
  | floodList req => exact floodList_matches req

/-! ### Services -/

/-- A service answers messages. -/
abbrev Service (τ : Type) : Type := Handler Message.Ans τ

section

variable {σ τ : Type}

/-- The server answers as the service: in related states, the answer to a request that is read
as a message conveys the answer of the service, and the states stay related. -/
def Serves (srv : Server σ) (svc : Service τ) (R : σ → τ → Prop) : Prop :=
  ∀ s t req m, R s t → parse req.type req.payload = some m →
    m.Conveys (svc t m).1 (srv.answer s req).1 ∧ R (srv.answer s req).2 (svc t m).2

/-- Messages that are sent to a service itself. -/
def Service.handler (svc : Service τ) : Handler Message.Res τ :=
  fun t m => (m.reported (svc t m).1, (svc t m).2)

/-- What a call returns. -/
abbrev ClientCall.Res (call : ClientCall) : Type := Except GoError call.Val

/-- Calls of methods over a connection. -/
def Client.calls (P : Peer σ) : Handler ClientCall.Res (Client σ) :=
  fun c call => c.call P call

/-- Calls of methods on a service itself. -/
def Service.calls (svc : Service τ) : Handler ClientCall.Res τ :=
  fun t call => call.meaning.interp svc.handler t

variable {srv : Server σ} {svc : Service τ} {R : σ → τ → Prop}

/-- A call on the server returns what it returns on the service. -/
theorem Serves.call (h : Serves srv svc R) {t : Rpc σ} {u : τ} (hR : R t.server u)
    (call : ClientCall) :
  (srv.call t call).1 = (svc.calls u call).1 ∧ R (srv.call t call).2.server (svc.calls u call).2
  := by
  have hstep : ∀ (t : Rpc σ) (u : τ) (o : RpcOp) (m : Message), wireCoupling.op o m →
      R t.server u → wireCoupling.ans o m (srv.rpc t o).1 (svc.handler u m).1 ∧
        R (srv.rpc t o).2.server (svc.handler u m).2 := by
    rintro t u o m ⟨-, hparse⟩ hR
    obtain ⟨hconveys, hnext⟩ := h t.server u ⟨t.reqID + 1, o.type, o.payload⟩ m hR hparse
    exact ⟨.inl ⟨_, _, rfl, hconveys, rfl⟩, hnext⟩
  exact (program_matches call).interp hstep hR

end

end GroutCni
