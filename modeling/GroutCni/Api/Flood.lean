import GroutCni.Api.Layout
import GroutCni.Api.Server
import Mathlib.Data.List.Forall2

/-!
# Flood lists

An entry of a flood list has the same 28 bytes in the requests of `FloodAdd` and `FloodDel` and in
the answers that `FloodList` reads, and these bytes determine the VRF, the VNI and the address
(`flood_round_trip`).
-/

namespace GroutCni.Api

open Effect Wire

/-! ### Entries -/

/-- The fields that `encodeFloodEntry` writes for an IPv4 address. -/
def floodFields (vrfID : UInt16) (vni : UInt32) (ip4 : IP) : List Field :=
  [u8 offFloodType floodTypeVTEP, u16 offFloodVRFID vrfID, u32 offFloodVTEPVNI vni,
    u8 (offFloodVTEPAddr + offL3AddrAF) afIP4, ⟨offFloodVTEPAddr + offL3AddrIPv4, ip4⟩]

section

variable (vrfID : UInt16) (vni : UInt32) {addr ip4 : IP}

theorem encodeFloodEntry_ok (h : to4 addr = some ip4) :
  encodeFloodEntry vrfID vni addr = .ok (floodFields vrfID vni ip4)
  := by
  rw [encodeFloodEntry, putL3AddrIPv4, h]
  rfl

theorem encodeFloodEntry_error (h : to4 addr = none) :
  ∃ err, encodeFloodEntry vrfID vni addr = .error err
  := by
  rw [encodeFloodEntry, putL3AddrIPv4, h]
  exact ⟨_, rfl⟩

/-- The fields of an entry are apart and lie in its 28 bytes. -/
theorem floodFields_apart (h : ip4.length = 4) :
  (floodFields vrfID vni ip4).Pairwise Field.Apart ∧
    ∀ f ∈ floodFields vrfID vni ip4, f.off + f.data.length ≤ floodEntrySize
  := by
  constructor
  · simp [floodFields, Field.Apart, u8, u16, u32, offFloodType, offFloodVRFID, offFloodVTEPVNI,
      offFloodVTEPAddr, offL3AddrAF, offL3AddrIPv4]
  · simp [floodFields, u8, u16, u32, h, offFloodType, offFloodVRFID, offFloodVTEPVNI,
      offFloodVTEPAddr, offL3AddrAF, offL3AddrIPv4, floodEntrySize]

/-- A field of an entry is found in bytes that begin with the entry. -/
theorem slice_floodEntry {f : Field} (h : ip4.length = 4) (hf : f ∈ floodFields vrfID vni ip4)
    (extra : Bytes) :
  slice (fill floodEntrySize (floodFields vrfID vni ip4) ++ extra) f.off f.data.length = f.data
  := by
  obtain ⟨hapart, hfit⟩ := floodFields_apart vrfID vni h
  rw [slice_append_left _ (by rw [length_fill]; exact hfit f hf), slice_fill hapart hf (hfit f hf)]

theorem uint16At_floodEntry (h : ip4.length = 4) (extra : Bytes) :
  uint16At (fill floodEntrySize (floodFields vrfID vni ip4) ++ extra) offFloodVRFID = vrfID
  := by
  apply uint16At_of_slice
  exact slice_floodEntry vrfID vni (f := u16 offFloodVRFID vrfID) h (by simp [floodFields]) extra

/-- An entry is read back, whatever follows it. -/
theorem decodeFloodEntry_append (h : ip4.length = 4) (extra : Bytes) :
  decodeFloodEntry (fill floodEntrySize (floodFields vrfID vni ip4) ++ extra)
    = some ⟨vni, some ip4⟩
  := by
  have hmem : u32 offFloodVTEPVNI vni ∈ floodFields vrfID vni ip4 ∧
      u8 (offFloodVTEPAddr + offL3AddrAF) afIP4 ∈ floodFields vrfID vni ip4 ∧
      ⟨offFloodVTEPAddr + offL3AddrIPv4, ip4⟩ ∈ floodFields vrfID vni ip4 := by
    simp [floodFields]
  have haddr := slice_floodEntry vrfID vni h hmem.2.2 extra
  have haf := slice_floodEntry vrfID vni h hmem.2.1 extra
  have hvni := uint32At_of_slice (slice_floodEntry vrfID vni h hmem.1 extra)
  have hlen : floodEntrySize ≤
      (fill floodEntrySize (floodFields vrfID vni ip4) ++ extra).length := by
    rw [List.length_append, length_fill]
    exact Nat.le_add_right _ _
  generalize fill floodEntrySize (floodFields vrfID vni ip4) ++ extra = data at *
  dsimp only at haddr
  rw [h] at haddr
  have htype : (slice data offFloodVTEPAddr l3AddrSize).getD offL3AddrAF 0 = afIP4 := by
    apply getD_of_slice
    rw [slice_slice _ (by decide)]
    exact haf
  have hip4 : l3AddrIPv4 (slice data offFloodVTEPAddr l3AddrSize) = some ip4 := by
    rw [l3AddrIPv4, if_neg (not_not.mpr htype), slice_slice _ (by decide), haddr]
  rw [decodeFloodEntry, if_neg (Nat.not_lt.mpr hlen), hip4]
  exact congrArg (fun vni => some (⟨vni, some ip4⟩ : FloodVTEPInfo)) hvni

/-- The bytes of an entry determine what it is made of. -/
theorem floodEntry_inj {vrfID vrfID' : UInt16} {vni vni' : UInt32} {ip4' : IP}
    (h : ip4.length = 4) (h' : ip4'.length = 4)
    (heq : fill floodEntrySize (floodFields vrfID vni ip4)
      = fill floodEntrySize (floodFields vrfID' vni' ip4')) :
  vrfID = vrfID' ∧ vni = vni' ∧ ip4 = ip4'
  := by
  have hvrf := uint16At_floodEntry vrfID vni h []
  have hinfo := decodeFloodEntry_append vrfID vni h []
  rw [heq] at hvrf hinfo
  rw [uint16At_floodEntry _ _ h'] at hvrf
  rw [decodeFloodEntry_append _ _ h', Option.some.injEq, FloodVTEPInfo.mk.injEq,
    Option.some.injEq] at hinfo
  exact ⟨hvrf.symm, hinfo.1.symm, hinfo.2.symm⟩

end

/-! ### Lists -/

/-- An entry of a flood list, and what grout sends after it. -/
structure FloodItem where
  vrfID : UInt16
  vni : UInt32
  addr : IP
  extra : Bytes

namespace FloodItem

/-- The payload of the entry: what `encodeFloodEntry` writes, and the extra bytes. -/
def payload (item : FloodItem) : Except GoError Bytes :=
  match encodeFloodEntry item.vrfID item.vni item.addr with
  | .error err => .error err
  | .ok fields => .ok (fill floodEntrySize fields ++ item.extra)

/-- What `FloodList` reports of the entry: the VNI, and the address in 4 bytes. -/
def info (item : FloodItem) : FloodVTEPInfo :=
  ⟨item.vni, to4 item.addr⟩

/-- The entry has an IPv4 address, and with the extra bytes it fits into a message. -/
structure Fits (item : FloodItem) : Prop where
  isV4 : (to4 item.addr).isSome = true
  length : floodEntrySize + item.extra.length ≤ maxMsgLen

theorem exists_payload (item : FloodItem) (h : (to4 item.addr).isSome = true) :
  ∃ p, item.payload = .ok p ∧ p.length = floodEntrySize + item.extra.length ∧
    decodeFloodEntry p = some item.info
  := by
  obtain ⟨ip4, hip4⟩ := Option.isSome_iff_exists.mp h
  refine ⟨fill floodEntrySize (floodFields item.vrfID item.vni ip4) ++ item.extra, ?_, ?_, ?_⟩
  · rw [payload, encodeFloodEntry_ok _ _ hip4]
  · rw [List.length_append, length_fill]
  · rw [decodeFloodEntry_append _ _ (length_of_to4 hip4), info, hip4]

end FloodItem

/-- The payload of the request that `FloodList` sends. -/
def floodListPayload (req : FloodListRequest) : Bytes :=
  fill 4 [u8 offFloodType floodTypeVTEP, u16 offFloodVRFID (vrfOrDefault req.vrfID)]

/-- The silent peer takes every request. -/
theorem send_silent (c : Client Unit) (type : UInt32) (payload : Bytes) :
  c.send Peer.silent type payload = (.ok (), { c with reqID := c.reqID + 1 })
  := by
  unfold Client.send Client.writeRequest Client.write Peer.silent
  simp

section

variable {σ : Type} {P : Peer σ} {c c₁ : Client σ} {req : FloodListRequest}
  (hsend : c.send P typeFloodList (floodListPayload req) = (.ok (), c₁))

include hsend

theorem interp_requestStream :
  (requestStream typeFloodList (floodListPayload req)).interp (Client.handler P) c
    = ((readStream c₁.reqID c₁.input).1, { c₁ with input := (readStream c₁.reqID c₁.input).2 })
  := by
  change c.requestStream P typeFloodList (floodListPayload req) = _
  rw [Client.requestStream, hsend]

/-- `FloodList` decodes the items of the list it reads. -/
theorem interp_floodList_ok {items : List Bytes} {rest : Bytes}
    (hread : readStream c₁.reqID c₁.input = (.ok items, rest)) :
  (floodList req).interp (Client.handler P) c
    = (.ok (items.filterMap decodeFloodEntry), { c₁ with input := rest })
  := by
  have hreq := interp_requestStream hsend
  rw [hread] at hreq
  unfold floodList
  erw [Program.interp_bind, hreq]
  rfl

/-- `FloodList` reports that the list cannot be read. -/
theorem interp_floodList_error {err : GoError}
    (hread : (readStream c₁.reqID c₁.input).1 = .error err) :
  ((floodList req).interp (Client.handler P) c).1 = .error (.wrapf "flood list: %w" [] err)
  := by
  have hreq := interp_requestStream hsend
  rw [hread] at hreq
  unfold floodList
  erw [Program.interp_bind, hreq]
  rfl

end

/-- The payloads of entries are items of a list, and `FloodList` decodes them in order. -/
theorem filterMap_decodeFloodEntry {items : List FloodItem} (h : ∀ item ∈ items, item.Fits) :
  ∃ payloads, List.Forall₂ (fun item p => item.payload = .ok p) items payloads ∧
    (∀ p ∈ payloads, IsItem p) ∧
    payloads.filterMap decodeFloodEntry = items.map FloodItem.info
  := by
  induction items with
  | nil => exact ⟨[], .nil, by simp, rfl⟩
  | cons item items ih =>
      obtain ⟨payloads, hpayloads, hitems, hdecode⟩ :=
        ih fun item' hitem' => h item' (List.mem_cons_of_mem _ hitem')
      have hfits := h item List.mem_cons_self
      obtain ⟨p, hp, hlen, hinfo⟩ := item.exists_payload hfits.isV4
      have hitem : IsItem p := by
        rw [IsItem, hlen]
        exact ⟨Nat.lt_of_lt_of_le (by decide) (Nat.le_add_right floodEntrySize _), hfits.length⟩
      refine ⟨p :: payloads, .cons hp hpayloads, ?_, ?_⟩
      · exact List.forall_mem_cons.mpr ⟨hitem, hitems⟩
      · rw [List.filterMap_cons_some hinfo, hdecode, List.map_cons]

/-! ### Requests -/

/-- The requests about an entry. -/
inductive FloodRequest where
  | add (req : FloodAddRequest)
  | del (req : FloodDelRequest)

namespace FloodRequest

/-- The method of the client. -/
def program : FloodRequest → ClientProg (Except GoError Unit)
  | .add req => floodAdd req
  | .del req => floodDel req

/-- The message type. -/
def type : FloodRequest → UInt32
  | .add _ => typeFloodAdd
  | .del _ => typeFloodDel

/-- The VRF. -/
def vrfID : FloodRequest → UInt16
  | .add req => req.vrfID
  | .del req => req.vrfID

/-- The VNI. -/
def vni : FloodRequest → UInt32
  | .add req => req.vni
  | .del req => req.vni

/-- The address. -/
def addr : FloodRequest → IP
  | .add req => req.addr
  | .del req => req.addr

/-- What grout identifies an entry by: the VRF, where 0 is the default one, the VNI, and the
address in 4 bytes. -/
def key (req : FloodRequest) : UInt16 × UInt32 × Option IP :=
  (vrfOrDefault req.vrfID, req.vni, to4 req.addr)

theorem program_eq (req : FloodRequest) :
  ∃ ok format, req.program = floodRequest req.type req.vrfID req.vni req.addr ok format
  := by
  cases req with
  | add req => exact ⟨req.existOK, _, rfl⟩
  | del req => exact ⟨req.missingOK, _, rfl⟩

/-- A request for an IPv4 address sends one message, which begins with the entry for its key. -/
theorem sends {req : FloodRequest} {ip4 : IP} (h : to4 req.addr = some ip4) :
  ∃ payload format args, req.program = requestNil req.type payload format args ∧
    payload.take floodEntrySize
      = fill floodEntrySize (floodFields (vrfOrDefault req.vrfID) req.vni ip4)
  := by
  obtain ⟨ok, format, hprogram⟩ := req.program_eq
  rw [hprogram, floodRequest, encodeFloodEntry_ok _ _ h]
  refine ⟨_, _, _, rfl, ?_⟩
  apply take_fill_append (by decide) (floodFields_apart _ _ (length_of_to4 h)).2
  -- the flag comes right after the entry
  intro g hg
  unfold flag at hg
  split at hg
  · obtain rfl := List.mem_singleton.mp hg
    exact Nat.le_refl _
  · cases hg

theorem rejects {req : FloodRequest} (h : to4 req.addr = none) :
  ∃ err, req.program = pure (.error err)
  := by
  obtain ⟨ok, format, hprogram⟩ := req.program_eq
  obtain ⟨err, herr⟩ := encodeFloodEntry_error (vrfOrDefault req.vrfID) req.vni h
  rw [hprogram, floodRequest, herr]
  exact ⟨_, rfl⟩

/-- The entries at the beginning of two requests are equal exactly if the keys are. -/
theorem entry_eq_iff {a b : FloodRequest} {ipa ipb : IP} (ha : to4 a.addr = some ipa)
    (hb : to4 b.addr = some ipb) :
  fill floodEntrySize (floodFields (vrfOrDefault a.vrfID) a.vni ipa)
      = fill floodEntrySize (floodFields (vrfOrDefault b.vrfID) b.vni ipb)
    ↔ a.key = b.key
  := by
  rw [key, key, ha, hb]
  constructor
  · intro h
    obtain ⟨hvrf, hvni, hip⟩ := floodEntry_inj (length_of_to4 ha) (length_of_to4 hb) h
    rw [hvrf, hvni, hip]
  · intro h
    simp only [Prod.mk.injEq, Option.some.injEq] at h
    obtain ⟨hvrf, hvni, hip⟩ := h
    rw [hvrf, hvni, hip]

end FloodRequest

/-- Entries with IPv4 addresses round-trip.  `FloodList` over a list of such entries, each followed
by extra bytes so that it fits into a message, returns their VNIs and addresses in order.  The
first 28 bytes that `FloodAdd` or `FloodDel` send are equal exactly if the VRF, the VNI and the
address are.  For an address that is not IPv4 they send nothing and fail. -/
theorem flood_round_trip :
  (∀ items : List FloodItem, (∀ item ∈ items, item.Fits) →
    ∃ payloads, List.Forall₂ (fun item p => item.payload = .ok p) items payloads ∧
      ∀ (σ : Type) (P : Peer σ) (c c₁ : Client σ) (req : FloodListRequest) (rest : Bytes),
        c.send P typeFloodList (floodListPayload req) = (.ok (), c₁) →
        c₁.input = stream c₁.reqID payloads ++ rest →
        (floodList req).interp (Client.handler P) c
          = (.ok (items.map FloodItem.info), { c₁ with input := rest })) ∧
  (∀ a b : FloodRequest, (to4 a.addr).isSome = true → (to4 b.addr).isSome = true →
    ∃ pa pb fa fb xa xb, a.program = requestNil a.type pa fa xa ∧
      b.program = requestNil b.type pb fb xb ∧
      (pa.take floodEntrySize = pb.take floodEntrySize ↔ a.key = b.key)) ∧
  ∀ a : FloodRequest, to4 a.addr = none → ∃ err, a.program = pure (.error err)
  := by
  refine ⟨?_, ?_, fun a => FloodRequest.rejects⟩
  · intro items hitems
    obtain ⟨payloads, hpayloads, hall, hdecode⟩ := filterMap_decodeFloodEntry hitems
    refine ⟨payloads, hpayloads, ?_⟩
    intro σ P c c₁ req rest hsend hinput
    rw [interp_floodList_ok hsend (readStream_ok_iff.mpr ⟨hinput, hall⟩), hdecode]
  · intro a b ha hb
    obtain ⟨ipa, hipa⟩ := Option.isSome_iff_exists.mp ha
    obtain ⟨ipb, hipb⟩ := Option.isSome_iff_exists.mp hb
    obtain ⟨pa, fa, xa, hprogramA, htakeA⟩ := FloodRequest.sends hipa
    obtain ⟨pb, fb, xb, hprogramB, htakeB⟩ := FloodRequest.sends hipb
    refine ⟨pa, pb, fa, fb, xa, xb, hprogramA, hprogramB, ?_⟩
    rw [htakeA, htakeB]
    exact FloodRequest.entry_eq_iff hipa hipb

/-- Two entries, the second with its address in 16 bytes and with a byte after it. -/
def twoEntries : List FloodItem :=
  [⟨1, 100, [192, 0, 2, 1], []⟩, ⟨0xffff, 0xffffffff, v4InV6Prefix ++ [192, 0, 2, 2], [9]⟩]

/-- `FloodList` over two entries. -/
theorem flood_round_trip_two_entries :
  ∃ payloads, List.Forall₂ (fun item p => item.payload = .ok p) twoEntries payloads ∧
    (floodList ⟨0⟩).interp (Client.handler Peer.silent) ⟨6, (), stream 7 payloads⟩
      = (.ok [⟨100, some [192, 0, 2, 1]⟩, ⟨0xffffffff, some [192, 0, 2, 2]⟩], ⟨7, (), []⟩)
  := by
  have hfits : ∀ item ∈ twoEntries, item.Fits := by
    intro item hitem
    simp only [twoEntries, List.mem_cons, List.not_mem_nil, or_false] at hitem
    rcases hitem with rfl | rfl
    · exact ⟨by decide, by decide⟩
    · exact ⟨by decide, by decide⟩
  obtain ⟨payloads, hpayloads, hlist⟩ := flood_round_trip.1 twoEntries hfits
  refine ⟨payloads, hpayloads, ?_⟩
  exact hlist Unit Peer.silent _ _ ⟨0⟩ [] (send_silent _ _ _) (List.append_nil _).symm

/-- An entry that is followed by so many bytes that it does not fit into a message: the list is
refused. -/
theorem floodList_refuses_oversized :
  ∃ (item : FloodItem) (p : Bytes), (to4 item.addr).isSome = true ∧ item.payload = .ok p ∧
    ((floodList ⟨0⟩).interp (Client.handler Peer.silent) ⟨6, (), stream 7 [p]⟩).1
      = .error (.wrapf "flood list: %w" []
          (.errorf "response payload too large: %d" [.num 131073]))
  := by
  obtain ⟨extra, hextra⟩ : ∃ extra : Bytes, extra.length = 131045 :=
    ⟨List.replicate 131045 0, List.length_replicate⟩
  obtain ⟨p, hp, hlen, -⟩ := FloodItem.exists_payload ⟨1, 100, [192, 0, 2, 1], extra⟩ rfl
  refine ⟨_, p, rfl, hp, ?_⟩
  dsimp only at hlen
  rw [hextra] at hlen
  have hread : (readStream 7 (stream 7 [p])).1
      = .error (.errorf "response payload too large: %d" [.num p.length]) := by
    rw [readStream_too_large [] (by rw [hlen]; decide) (by rw [hlen]; decide)]
  rw [hlen] at hread
  exact interp_floodList_error (send_silent _ _ _) hread

end GroutCni.Api
