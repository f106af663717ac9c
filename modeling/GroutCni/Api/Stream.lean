import GroutCni.Api.Protocol

/-!
# The grammar of responses

`readResponse` accepts exactly a header and the payload that it announces
(`readResponse_ok_iff`), and `requestStream` exactly a sequence of responses with a payload,
ended by one without (`requestStream_ok_iff`).
-/

namespace GroutCni

open Wire

/-- A response on the wire. -/
def frame (id status : UInt32) (payload : Bytes) : Bytes :=
  ResponseHeader.bytes ⟨id, status, UInt32.ofNat payload.length⟩ ++ payload

/-- The payload of one item of a list. -/
def IsItem (payload : Bytes) : Prop :=
  0 < payload.length ∧ payload.length ≤ maxMsgLen

instance (payload : Bytes) : Decidable (IsItem payload) :=
  inferInstanceAs (Decidable (_ ∧ _))

/-- A list on the wire: a response for each item, and one without a payload. -/
def stream (id : UInt32) (items : List Bytes) : Bytes :=
  (items.map (frame id 0)).flatten ++ frame id 0 []

/-! ### Headers -/

theorem length_headerBytes (a b c : UInt32) :
  (headerBytes a b c).length = headerSize
  := by
  simp [headerBytes, headerSize]

theorem uint32At_toLE (x : UInt32) :
  UInt32.ofNat (ofLE (toLE 4 x.toNat)) = x
  := by
  rw [ofLE_toLE x.toNat_lt, UInt32.ofNat_toNat]

/-- The numbers of a header are read back. -/
theorem uint32At_headerBytes (a b c : UInt32) :
  uint32At (headerBytes a b c) 0 = a ∧ uint32At (headerBytes a b c) 4 = b ∧
    uint32At (headerBytes a b c) 8 = c
  := by
  unfold uint32At headerBytes
  refine ⟨?_, ?_, ?_⟩
  · rw [slice_append_left _ (by simp), slice_self (by simp), uint32At_toLE]
  · rw [slice_append_right _ (by simp), slice_append_left _ (by simp), length_toLE, Nat.sub_self,
      slice_self (by simp), uint32At_toLE]
  · rw [slice_append_right _ (by simp), slice_append_right _ (by simp), length_toLE, length_toLE,
      slice_self (by simp), uint32At_toLE]

/-- A response header is read back. -/
theorem ResponseHeader.ofBytes_bytes (hdr : ResponseHeader) :
  ResponseHeader.ofBytes hdr.bytes = hdr
  := by
  obtain ⟨hid, hstatus, hlen⟩ := uint32At_headerBytes hdr.forID hdr.status hdr.payloadLen
  rw [ResponseHeader.ofBytes, ResponseHeader.bytes, hid, hstatus, hlen]

theorem toLE_uint32At {b : Bytes} {off : Nat} (h : off + 4 ≤ b.length) :
  toLE 4 (uint32At b off).toNat = slice b off 4
  := by
  have hlen : (slice b off 4).length = 4 := by
    rw [slice, List.length_take, List.length_drop]
    omega
  have hlt : ofLE (slice b off 4) < 2 ^ 32 := by
    have h := ofLE_lt (slice b off 4)
    rw [hlen] at h
    exact h
  have hback := toLE_ofLE (slice b off 4)
  rw [hlen] at hback
  rw [uint32At, UInt32.toNat_ofNat_of_lt' hlt, hback]

/-- The bytes of a header are the bytes it was read from. -/
theorem ResponseHeader.bytes_ofBytes {b : Bytes} (h : b.length = headerSize) :
  (ResponseHeader.ofBytes b).bytes = b
  := by
  unfold headerSize at h
  rw [ResponseHeader.bytes, ResponseHeader.ofBytes, headerBytes, toLE_uint32At (by omega),
    toLE_uint32At (by omega), toLE_uint32At (by omega)]
  unfold slice
  rw [List.drop_zero, List.take_of_length_le (l := b.drop 8) (by rw [List.length_drop]; omega)]
  have hmid : (b.drop 4).take 4 ++ b.drop 8 = b.drop 4 := by
    rw [show b.drop 8 = (b.drop 4).drop 4 by rw [List.drop_drop], List.take_append_drop]
  rw [hmid, List.take_append_drop]

/-! ### One response -/

theorem readFull_ok_iff {n : Nat} {s b rest : Bytes} :
  readFull n s = (.ok b, rest) ↔ s = b ++ rest ∧ b.length = n
  := by
  unfold readFull
  split
  case isTrue h =>
    constructor
    · intro heq
      cases heq
      exact ⟨(List.take_append_drop n s).symm, List.length_take_of_le h⟩
    · rintro ⟨rfl, rfl⟩
      rw [List.take_left, List.drop_left]
  case isFalse h =>
    constructor
    · split <;> (intro heq; cases heq)
    · rintro ⟨rfl, rfl⟩
      rw [List.length_append] at h
      omega

/-- A response is read exactly if the bytes begin with its header and its payload. -/
theorem readResponse_ok_iff {s payload rest : Bytes} {hdr : ResponseHeader} :
  readResponse s = (.ok (hdr, payload), rest)
    ↔ s = hdr.bytes ++ (payload ++ rest) ∧ hdr.payloadLen.toNat = payload.length ∧
      payload.length ≤ maxMsgLen
  := by
  constructor
  · intro h
    unfold readResponse at h
    split at h
    case h_1 => cases h
    case h_2 b s₁ hread =>
      obtain ⟨rfl, hlen⟩ := readFull_ok_iff.mp hread
      dsimp only at h
      split at h
      case isTrue => cases h
      case isFalse hmax =>
        split at h
        case isTrue =>
          split at h
          case h_1 => cases h
          case h_2 p s₂ hread₂ =>
            cases h
            obtain ⟨rfl, hp⟩ := readFull_ok_iff.mp hread₂
            rw [ResponseHeader.bytes_ofBytes hlen]
            exact ⟨rfl, hp.symm, by omega⟩
        case isFalse hzero =>
          cases h
          rw [ResponseHeader.bytes_ofBytes hlen]
          refine ⟨rfl, ?_, by simp⟩
          rw [gt_iff_lt, UInt32.lt_iff_toNat_lt] at hzero
          exact Nat.eq_zero_of_not_pos hzero
  · rintro ⟨rfl, hlen, hmax⟩
    have hread : readFull headerSize (hdr.bytes ++ (payload ++ rest))
        = (.ok hdr.bytes, payload ++ rest) :=
      readFull_ok_iff.mpr ⟨rfl, length_headerBytes _ _ _⟩
    have hread₂ : readFull hdr.payloadLen.toNat (payload ++ rest) = (.ok payload, rest) :=
      readFull_ok_iff.mpr ⟨rfl, hlen.symm⟩
    unfold readResponse
    rw [hread]
    dsimp only
    rw [ResponseHeader.ofBytes_bytes, if_neg (by omega)]
    split
    case isTrue => rw [hread₂]
    case isFalse hzero =>
      rw [gt_iff_lt, UInt32.lt_iff_toNat_lt, hlen] at hzero
      rw [List.eq_nil_of_length_eq_zero (Nat.eq_zero_of_not_pos hzero), List.nil_append]

/-- A length that is small enough for a message is announced as it is. -/
theorem toNat_ofNat_length {payload : Bytes} (h : payload.length ≤ maxMsgLen) :
  (UInt32.ofNat payload.length).toNat = payload.length
  := by
  apply UInt32.toNat_ofNat_of_lt'
  apply Nat.lt_of_le_of_lt h
  decide

/-- A response on the wire is read. -/
theorem readResponse_frame (id status : UInt32) {payload : Bytes} (rest : Bytes)
    (h : payload.length ≤ maxMsgLen) :
  readResponse (frame id status payload ++ rest)
    = (.ok (⟨id, status, UInt32.ofNat payload.length⟩, payload), rest)
  := by
  apply readResponse_ok_iff.mpr
  refine ⟨?_, toNat_ofNat_length h, h⟩
  rw [frame, List.append_assoc]

/-- A response with a payload that is too large is refused. -/
theorem readResponse_too_large (id status : UInt32) {payload : Bytes} (rest : Bytes)
    (hmax : maxMsgLen < payload.length) (h : payload.length < 2 ^ 32) :
  readResponse (frame id status payload ++ rest)
    = (.error (.errorf "response payload too large: %d" [.num payload.length]), payload ++ rest)
  := by
  have hread : readFull headerSize (frame id status payload ++ rest)
      = (.ok (ResponseHeader.bytes ⟨id, status, UInt32.ofNat payload.length⟩),
        payload ++ rest) := by
    rw [frame, List.append_assoc]
    exact readFull_ok_iff.mpr ⟨rfl, length_headerBytes _ _ _⟩
  have hlen : (UInt32.ofNat payload.length).toNat = payload.length :=
    UInt32.toNat_ofNat_of_lt' h
  unfold readResponse
  rw [hread]
  dsimp only
  rw [ResponseHeader.ofBytes_bytes, hlen, if_pos hmax]

theorem checkHeader_ok_iff {id : UInt32} {hdr : ResponseHeader} :
  checkHeader id hdr = .ok () ↔ hdr.forID = id ∧ hdr.status = 0
  := by
  unfold checkHeader
  split
  case isTrue h => simp [h]
  case isFalse h =>
    rw [not_not] at h
    split
    case isTrue hs => simp [hs]
    case isFalse hs => simpa [h] using hs

/-- A response of status zero with the right id passes. -/
theorem checkHeader_self (id payloadLen : UInt32) :
  checkHeader id ⟨id, 0, payloadLen⟩ = .ok ()
  := checkHeader_ok_iff.mpr ⟨rfl, rfl⟩

/-- What is read and passes the checks of `request` is a response of status zero. -/
theorem eq_frame_of_checkHeader {id : UInt32} {hdr : ResponseHeader} {s payload rest : Bytes}
    (hread : readResponse s = (.ok (hdr, payload), rest)) (hcheck : checkHeader id hdr = .ok ()) :
  s = frame id 0 payload ++ rest ∧ hdr.payloadLen.toNat = payload.length ∧
    payload.length ≤ maxMsgLen
  := by
  obtain ⟨rfl, hlen, hmax⟩ := readResponse_ok_iff.mp hread
  obtain ⟨hid, hstatus⟩ := checkHeader_ok_iff.mp hcheck
  refine ⟨?_, hlen, hmax⟩
  have hhdr : hdr = ⟨id, 0, UInt32.ofNat payload.length⟩ := by
    rw [← hid, ← hstatus, ← hlen, UInt32.ofNat_toNat]
  rw [frame, ← hhdr, List.append_assoc]

/-! ### Streams -/

section

variable {id : UInt32} {items : List Bytes} {rest : Bytes}

/-- The loop takes a response with a payload for an item. -/
theorem readItems_item (fuel : Nat) {payload : Bytes} (h : IsItem payload) :
  readItems id (fuel + 1) items (frame id 0 payload ++ rest)
    = readItems id fuel (items ++ [payload]) rest
  := by
  have hne : UInt32.ofNat payload.length ≠ 0 := by
    intro hzero
    have hlen := toNat_ofNat_length h.2
    rw [hzero] at hlen
    exact h.1.ne hlen
  rw [readItems, readResponse_frame _ _ _ h.2]
  dsimp only
  rw [checkHeader_self]
  exact if_neg hne

/-- The loop ends at a response without a payload. -/
theorem readItems_end (fuel : Nat) :
  readItems id (fuel + 1) items (frame id 0 [] ++ rest) = (.ok items, rest)
  := by
  rw [readItems, readResponse_frame _ _ _ (by simp)]
  dsimp only
  rw [checkHeader_self]
  rfl

/-- The loop takes responses with a payload for items, as long as there are any. -/
theorem readItems_items {more : List Bytes} (hmore : ∀ p ∈ more, IsItem p) (fuel : Nat) :
  readItems id (fuel + more.length) items ((more.map (frame id 0)).flatten ++ rest)
    = readItems id fuel (items ++ more) rest
  := by
  induction more generalizing items with
  | nil => simp
  | cons p more ih =>
      rw [List.map_cons, List.flatten_cons, List.append_assoc, List.length_cons, ← Nat.add_assoc,
        readItems_item _ (hmore p List.mem_cons_self),
        ih fun q hq => hmore q (List.mem_cons_of_mem _ hq), List.append_assoc,
        List.singleton_append]

/-- What the loop accepts is the rest of a list. -/
theorem eq_stream_of_readItems {fuel : Nat} {s : Bytes} {all : List Bytes}
    (h : readItems id fuel items s = (.ok all, rest)) :
  ∃ more, all = items ++ more ∧ s = stream id more ++ rest ∧ ∀ p ∈ more, IsItem p
  := by
  induction fuel generalizing items s with
  | zero => cases h
  | succ fuel ih =>
      rw [readItems] at h
      split at h
      case h_1 => cases h
      case h_2 hdr payload s₁ hread =>
        split at h
        case h_1 => cases h
        case h_2 hcheck =>
          obtain ⟨rfl, hlen, hmax⟩ := eq_frame_of_checkHeader hread hcheck
          split at h
          case isTrue hzero =>
            cases h
            rw [hzero] at hlen
            obtain rfl := List.eq_nil_of_length_eq_zero hlen.symm
            exact ⟨[], (List.append_nil _).symm, rfl, by simp⟩
          case isFalse hne =>
            obtain ⟨more, rfl, rfl, hmore⟩ := ih h
            have hitem : IsItem payload := by
              refine ⟨?_, hmax⟩
              rw [← hlen]
              apply Nat.pos_of_ne_zero
              intro hzero
              exact hne (UInt32.toNat_inj.mp hzero)
            refine ⟨payload :: more, by simp, by simp [stream], ?_⟩
            intro p hp
            rcases List.mem_cons.mp hp with rfl | hp
            · exact hitem
            · exact hmore p hp

/-- Every response takes bytes. -/
theorem length_le_length_frames (id : UInt32) (items : List Bytes) :
  items.length ≤ ((items.map (frame id 0)).flatten).length
  := by
  induction items with
  | nil => apply Nat.zero_le
  | cons p items ih =>
      have hframe : 1 ≤ (frame id 0 p).length := by
        rw [frame, List.length_append, ResponseHeader.bytes, length_headerBytes]
        exact Nat.le_add_right_of_le (by decide)
      rw [List.map_cons, List.flatten_cons, List.length_append, List.length_cons]
      omega

/-- Reading goes on after the items. -/
theorem readStream_items (hitems : ∀ p ∈ items, IsItem p) :
  ∃ fuel, readStream id ((items.map (frame id 0)).flatten ++ rest)
    = readItems id (fuel + 1) items rest
  := by
  have hlen := length_le_length_frames id items
  obtain ⟨fuel, hfuel⟩ := Nat.exists_eq_add_of_le
    (hlen.trans (Nat.le_add_right _ rest.length))
  refine ⟨fuel, ?_⟩
  have hsum : ((items.map (frame id 0)).flatten ++ rest).length + 1
      = (fuel + 1) + items.length := by
    rw [List.length_append]
    omega
  rw [readStream, hsum, readItems_items hitems, List.nil_append]

/-- A list with an item that is too large is refused. -/
theorem readStream_too_large {payload : Bytes} (items : List Bytes)
    (hmax : maxMsgLen < payload.length) (h : payload.length < 2 ^ 32) :
  readStream id (stream id (payload :: items))
    = (.error (.errorf "response payload too large: %d" [.num payload.length]),
        payload ++ stream id items)
  := by
  have hcons : stream id (payload :: items) = frame id 0 payload ++ stream id items := by
    rw [stream, List.map_cons, List.flatten_cons, List.append_assoc, ← stream]
  rw [readStream, readItems, hcons, readResponse_too_large id 0 _ hmax h]

/-- Reading a list, as far as the bytes go that arrive. -/
theorem readStream_ok_iff {s : Bytes} :
  readStream id s = (.ok items, rest) ↔ s = stream id items ++ rest ∧ ∀ p ∈ items, IsItem p
  := by
  constructor
  · intro h
    obtain ⟨more, rfl, hs, hmore⟩ := eq_stream_of_readItems h
    exact ⟨hs, hmore⟩
  · rintro ⟨rfl, hitems⟩
    rw [stream, List.append_assoc]
    obtain ⟨fuel, hfuel⟩ := readStream_items hitems
    rw [hfuel, readItems_end]

end

/-- `requestStream` returns items exactly if the bytes that arrive are a list of them, and it
leaves the bytes after the list.  Otherwise it returns an error. -/
theorem requestStream_ok_iff {σ : Type} {P : Peer σ} {c c' : Client σ} {type : UInt32}
    {payload : Bytes} (hsend : c.send P type payload = (.ok (), c')) :
  (∀ items rest, c.requestStream P type payload = (.ok items, { c' with input := rest })
    ↔ c'.input = stream c'.reqID items ++ rest ∧ ∀ p ∈ items, IsItem p) ∧
  ((¬ ∃ items rest, c'.input = stream c'.reqID items ++ rest ∧ ∀ p ∈ items, IsItem p) →
    ∃ err, (c.requestStream P type payload).1 = .error err)
  := by
  have hreq : c.requestStream P type payload
      = ((readStream c'.reqID c'.input).1,
        { c' with input := (readStream c'.reqID c'.input).2 }) := by
    rw [Client.requestStream, hsend]
  constructor
  · intro items rest
    rw [hreq, ← readStream_ok_iff, Prod.mk.injEq, Client.mk.injEq, Prod.ext_iff]
    simp
  · intro hnone
    rw [hreq]
    cases hread : readStream c'.reqID c'.input with
    | mk r rest =>
        cases r with
        | error err => exact ⟨err, rfl⟩
        | ok items => exact absurd ⟨items, rest, readStream_ok_iff.mp hread⟩ hnone

/-- A peer that takes everything and sends nothing. -/
def Peer.silent : Peer Unit where
  write _ _ := (.ok [], ())

/-- Two items, and a byte that is left for the next request. -/
theorem requestStream_ok_iff_two_items :
  (⟨6, (), stream 7 [[1], [2, 3]] ++ [9]⟩ : Client Unit).requestStream Peer.silent typeIfaceList [0]
    = (.ok [[1], [2, 3]], ⟨7, (), [9]⟩)
  := by
  have hsend : (⟨6, (), stream 7 [[1], [2, 3]] ++ [9]⟩ : Client Unit).send Peer.silent
      typeIfaceList [0] = (.ok (), ⟨7, (), stream 7 [[1], [2, 3]] ++ [9]⟩) := by
    rfl
  apply ((requestStream_ok_iff hsend).1 [[1], [2, 3]] [9]).mpr
  exact ⟨rfl, by decide⟩

end GroutCni
