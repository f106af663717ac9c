import GroutCni.Api.Layout

/-!
# Addresses and routes on the wire

`AddressAdd`, `AddressDel`, `RouteAdd` and `RouteDel` choose the message by the family of the
address, take the prefix length from the mask, and send both.  What they send denotes the prefix
that was asked for if the mask is one of ones and zeros of the width of the family and a next hop
is of the same family; but they do not check that (`netRequest_sound_iff`).
-/

namespace GroutCni.Api

open Effect Wire

/-! ### Families -/

/-- The families of addresses. -/
inductive Family where
  | v4
  | v6
  deriving DecidableEq

/-- The family of an address; an address that is not valid has none. -/
def family (ip : IP) : Option Family :=
  if (to4 ip).isSome then some .v4
  else if (to16 ip).isSome then some .v6
  else none

namespace Family

/-- The number of bytes of an address. -/
def width : Family → Nat
  | .v4 => 4
  | .v6 => 16

/-- The bytes of an address in messages of the family. -/
def bytes : Family → IP → Option IP
  | .v4 => to4
  | .v6 => to16

/-- The offset of the address or destination in messages of the family. -/
def offAddr : Family → Nat
  | .v4 => 4
  | .v6 => 2

/-- The offset of the prefix length in messages of the family. -/
def offLen : Family → Nat
  | .v4 => 8
  | .v6 => 18

/-- The offset of the next hop in messages of the family. -/
def offNextHop : Family → Nat
  | .v4 => 12
  | .v6 => 19

theorem length_of_bytes {f : Family} {ip x : IP} (h : f.bytes ip = some x) :
  x.length = f.width
  := by
  cases f with
  | v4 => exact length_of_to4 h
  | v6 => exact length_of_to16 h

end Family

/-- The family is found by trying both conversions in order. -/
theorem family_cases (ip : IP) :
  (∃ x, to4 ip = some x ∧ family ip = some .v4) ∨
  (∃ x, to4 ip = none ∧ to16 ip = some x ∧ family ip = some .v6) ∨
  to4 ip = none ∧ to16 ip = none ∧ family ip = none
  := by
  unfold family
  cases to4 ip with
  | some x => simp
  | none => cases to16 ip <;> simp

theorem family_eq_none_iff {ip : IP} :
  family ip = none ↔ to16 ip = none
  := by
  obtain ⟨x, h4, hfamily⟩ | ⟨x, _, h16, hfamily⟩ | ⟨_, h16, hfamily⟩ := family_cases ip
  · have h16 : (to16 ip).isSome = true := isSome_to16_of_to4 (by rw [h4]; rfl)
    simp [hfamily, Option.ne_none_iff_isSome.mpr h16]
  · simp [hfamily, h16]
  · simp [hfamily, h16]

/-! ### Requests -/

/-- The requests about an address or a route. -/
inductive NetRequest where
  | addressAdd (req : AddressAddRequest)
  | addressDel (req : AddressDelRequest)
  | routeAdd (req : RouteAddRequest)
  | routeDel (req : RouteDelRequest)

namespace NetRequest

/-- The method of the client. -/
def program : NetRequest → ClientProg (Except GoError Unit)
  | .addressAdd req => Api.addressAdd req
  | .addressDel req => Api.addressDel req
  | .routeAdd req => Api.routeAdd req
  | .routeDel req => Api.routeDel req

/-- The address or the destination. -/
def net : NetRequest → IPNet
  | .addressAdd req => req.address
  | .addressDel req => req.address
  | .routeAdd req => req.destination
  | .routeDel req => req.destination

/-- The next hop, which only the request for a new route has. -/
def nextHop : NetRequest → Option IP
  | .routeAdd req => some req.nextHop
  | _ => none

/-- The message type for a family. -/
def type : NetRequest → Family → UInt32
  | .addressAdd _, .v4 => typeIP4AddrAdd
  | .addressAdd _, .v6 => typeIP6AddrAdd
  | .addressDel _, .v4 => typeIP4AddrDel
  | .addressDel _, .v6 => typeIP6AddrDel
  | .routeAdd _, .v4 => typeIP4RouteAdd
  | .routeAdd _, .v6 => typeIP6RouteAdd
  | .routeDel _, .v4 => typeIP4RouteDel
  | .routeDel _, .v6 => typeIP6RouteDel

/-- The mask is one of ones followed by zeros, of the width of the family of the address, and the
next hop is of that family. -/
def Consistent (req : NetRequest) : Prop :=
  ∃ f, family req.net.ip = some f ∧
    (∃ ones ≤ 8 * f.width, req.net.mask = cidrMask ones f.width) ∧
    ∀ nh ∈ req.nextHop, family nh = some f

/-- The address is not valid, or the next hop is not, or the next hop of an IPv4 destination is
an IPv6 address. -/
def Refused (req : NetRequest) : Prop :=
  family req.net.ip = none ∨
    ∃ nh ∈ req.nextHop, family nh = none ∨
      family req.net.ip = some .v4 ∧ family nh = some .v6

/-- The message denotes what was asked for: its type is the one for the family of the address and
of the next hop, it has the bytes of both, and its prefix length is the number of ones of the mask,
which is one of ones followed by zeros of the width of the family. -/
def Denotes (req : NetRequest) (o : RpcOp) : Prop :=
  ∃ f, family req.net.ip = some f ∧ o.type = req.type f ∧
    f.bytes req.net.ip = some (slice o.payload f.offAddr f.width) ∧
    (∃ ones ≤ 8 * f.width, req.net.mask = cidrMask ones f.width ∧
      (o.payload.getD f.offLen 0).toNat = ones) ∧
    ∀ nh ∈ req.nextHop, family nh = some f ∧
      f.bytes nh = some (slice o.payload f.offNextHop f.width)

/-- What is sent denotes what was asked for, and a request that is not consistent is rejected
before anything is sent. -/
structure Sound (req : NetRequest) : Prop where
  sent : req.program.Uses req.Denotes
  rejected : ¬req.Consistent → ∃ err, req.program = pure (.error err)

end NetRequest

/-! ### Payloads -/

/-- The payload has the address, the prefix length and the next hop at the offsets of the
family. -/
structure Carries (f : Family) (req : NetRequest) (payload : Bytes) : Prop where
  addr : f.bytes req.net.ip = some (slice payload f.offAddr f.width)
  len : payload.getD f.offLen 0 = UInt8.ofNat (maskSize req.net.mask)
  nextHop : ∀ nh ∈ req.nextHop, f.bytes nh = some (slice payload f.offNextHop f.width)

section

variable {size : Nat} {fs : List Field} {off : Nat} {ok : Bool}

/-- A field is found whether the flag is set or not. -/
theorem slice_fill_flag {f : Field} (hapart : (fs ++ [u8 off 1]).Pairwise Field.Apart)
    (hf : f ∈ fs) (hfit : f.off + f.data.length ≤ size) :
  slice (fill size (fs ++ flag off ok)) f.off f.data.length = f.data
  := by
  have hsub : (fs ++ flag off ok).Sublist (fs ++ [u8 off 1]) := by
    apply List.Sublist.append_left
    cases ok with
    | false => exact List.nil_sublist _
    | true => exact List.Sublist.refl _
  exact slice_fill (hapart.sublist hsub) (List.mem_append_left _ hf) hfit

theorem slice_fill_addr {x : IP} {start n : Nat} (hapart : (fs ++ [u8 off 1]).Pairwise Field.Apart)
    (hmem : ⟨start, x.take n⟩ ∈ fs) (hlen : x.length = n) (hfit : start + n ≤ size) :
  slice (fill size (fs ++ flag off ok)) start n = x
  := by
  have htake : x.take n = x := List.take_of_length_le (Nat.le_of_eq hlen)
  have hslice : slice (fill size (fs ++ flag off ok)) start (x.take n).length = x.take n :=
    slice_fill_flag hapart hmem (by rw [htake, hlen]; exact hfit)
  rw [htake, hlen] at hslice
  exact hslice

/-- A payload with these fields carries the request. -/
theorem carries_fill {f : Family} (req : NetRequest) {addr : IP}
    (haddr : f.bytes req.net.ip = some addr)
    (hapart : (fs ++ [u8 off 1]).Pairwise Field.Apart)
    (hmem : ⟨f.offAddr, addr.take f.width⟩ ∈ fs)
    (hlen : u8 f.offLen (UInt8.ofNat (maskSize req.net.mask)) ∈ fs)
    (hnextHop : ∀ nh ∈ req.nextHop, ∃ x, f.bytes nh = some x ∧
      ⟨f.offNextHop, x.take f.width⟩ ∈ fs ∧ f.offNextHop + f.width ≤ size)
    (hsize : f.offLen < size) :
  Carries f req (fill size (fs ++ flag off ok))
  := by
  have hbefore : f.offAddr + f.width = f.offLen := by cases f <;> rfl
  constructor
  · rw [haddr, slice_fill_addr hapart hmem (Family.length_of_bytes haddr) (by omega)]
  · apply getD_of_slice
    exact slice_fill_flag hapart hlen hsize
  · intro nh hnh
    obtain ⟨x, hx, hmemx, hfit⟩ := hnextHop nh hnh
    rw [hx, slice_fill_addr hapart hmemx (Family.length_of_bytes hx) hfit]

/-- The payload of a request without a next hop. -/
theorem carries_net {f : Family} {req : NetRequest} {addr : IP} (id : UInt16) (ok : Bool)
    (haddr : f.bytes req.net.ip = some addr) (hnextHop : req.nextHop = none)
    (hoff : f.offLen < off) (hsize : f.offLen < size) :
  Carries f req (fill size ([u16 0 id, ⟨f.offAddr, addr.take f.width⟩,
    u8 f.offLen (UInt8.ofNat (maskSize req.net.mask))] ++ flag off ok))
  := by
  have hlen := Family.length_of_bytes haddr
  have hbefore : 2 ≤ f.offAddr ∧ f.offAddr + f.width = f.offLen := by
    cases f <;> exact ⟨by decide, rfl⟩
  apply carries_fill req haddr
  · simp [Field.Apart, u16, u8, hlen]
    omega
  · simp
  · simp
  · rw [hnextHop]
    intro nh hnh
    cases hnh
  · exact hsize

end

/-! ### What the methods do -/

/-- The request is refused with an error, or one message is sent that carries it. -/
def NetRequest.Decided (req : NetRequest) : Prop :=
  req.Refused ∧ (∃ err, req.program = pure (.error err)) ∨
  ¬req.Refused ∧ ∃ f payload format args, family req.net.ip = some f ∧
    req.program = requestNil (req.type f) payload format args ∧ Carries f req payload

section

variable {req : NetRequest}

/-- A request without a next hop is refused if its address is not valid. -/
theorem refused_iff (h : req.nextHop = none) :
  req.Refused ↔ family req.net.ip = none
  := by
  simp [NetRequest.Refused, h]

theorem addressRequest_decided {ifaceID : UInt16} {ok : Bool} {format invalid : String}
    (h : req.program = addressRequest (req.type .v4) (req.type .v6) ifaceID req.net ok format
      invalid) (hnextHop : req.nextHop = none) :
  req.Decided
  := by
  unfold NetRequest.Decided
  rw [h, refused_iff hnextHop, addressRequest]
  obtain ⟨ip4, h4, hfamily⟩ | ⟨ip6, h4, h16, hfamily⟩ | ⟨h4, h16, hfamily⟩ :=
    family_cases req.net.ip
  · rw [h4, hfamily]
    refine .inr ⟨by simp, .v4, _, _, _, rfl, rfl, ?_⟩
    exact carries_net ifaceID ok h4 hnextHop (by decide) (by decide)
  · rw [h4, h16, hfamily]
    refine .inr ⟨by simp, .v6, _, _, _, rfl, rfl, ?_⟩
    exact carries_net ifaceID ok h16 hnextHop (by decide) (by decide)
  · rw [h4, h16]
    exact .inl ⟨hfamily, _, rfl⟩

theorem routeDel_decided (req : RouteDelRequest) :
  (NetRequest.routeDel req).Decided
  := by
  unfold NetRequest.Decided
  rw [refused_iff rfl]
  unfold NetRequest.program routeDel NetRequest.net
  dsimp only
  obtain ⟨dest, h4, hfamily⟩ | ⟨dest, h4, h16, hfamily⟩ | ⟨h4, h16, hfamily⟩ :=
    family_cases req.destination.ip
  · rw [h4, hfamily]
    refine .inr ⟨by simp, .v4, _, _, _, rfl, rfl, ?_⟩
    exact carries_net (vrfOrDefault req.vrfID) req.missingOK h4 rfl (by decide) (by decide)
  · rw [h4, h16, hfamily]
    refine .inr ⟨by simp, .v6, _, _, _, rfl, rfl, ?_⟩
    exact carries_net (vrfOrDefault req.vrfID) req.missingOK h16 rfl (by decide) (by decide)
  · rw [h4, h16]
    exact .inl ⟨hfamily, _, rfl⟩

/-- The payload of a request with a next hop. -/
theorem carries_route {f : Family} {req : RouteAddRequest} {dest nh : IP} {origin off size : Nat}
    (id : UInt16) (ok : Bool) (hdest : f.bytes req.destination.ip = some dest)
    (hnh : f.bytes req.nextHop = some nh) (horigin : f.offNextHop + f.width ≤ origin)
    (hoff : origin < off) (hsize : off < size) :
  Carries f (.routeAdd req) (fill size ([u16 0 id, ⟨f.offAddr, dest.take f.width⟩,
    u8 f.offLen (UInt8.ofNat (maskSize req.destination.mask)),
    ⟨f.offNextHop, nh.take f.width⟩, u8 origin originStatic] ++ flag off ok))
  := by
  have hdestLen := Family.length_of_bytes hdest
  have hnhLen := Family.length_of_bytes hnh
  have hbefore : 2 ≤ f.offAddr ∧ f.offAddr + f.width = f.offLen ∧ f.offLen < f.offNextHop := by
    cases f <;> exact ⟨by decide, rfl, by decide⟩
  apply carries_fill (.routeAdd req) hdest
  · simp [Field.Apart, u16, u8, hdestLen, hnhLen]
    omega
  · simp
  · simp [NetRequest.net]
  · rintro _ ⟨⟩
    exact ⟨nh, hnh, by simp, by omega⟩
  · omega

theorem routeAdd_refused_iff {req : RouteAddRequest} :
  (NetRequest.routeAdd req).Refused ↔ family req.destination.ip = none ∨
    family req.nextHop = none ∨
      family req.destination.ip = some .v4 ∧ family req.nextHop = some .v6
  := by
  simp [NetRequest.Refused, NetRequest.net, NetRequest.nextHop]

/-- The next hop of an IPv4 destination has to be an IPv4 address, and that of an IPv6 destination
any address. -/
theorem routeAdd_decided (req : RouteAddRequest) :
  (NetRequest.routeAdd req).Decided
  := by
  unfold NetRequest.Decided
  rw [routeAdd_refused_iff]
  unfold NetRequest.program routeAdd NetRequest.net
  dsimp only
  obtain ⟨dest, h4, hfamily⟩ | ⟨dest, h4, h16, hfamily⟩ | ⟨h4, h16, hfamily⟩ :=
    family_cases req.destination.ip
  · rw [h4, hfamily]
    obtain ⟨nh, hnh4, hnh⟩ | ⟨_, hnh4, _, hnh⟩ | ⟨hnh4, _, hnh⟩ := family_cases req.nextHop
    · rw [hnh4, hnh]
      refine .inr ⟨by simp, .v4, _, _, _, rfl, rfl, ?_⟩
      exact carries_route (vrfOrDefault req.vrfID) req.existOK h4 hnh4 (by decide) (by decide)
        (by decide)
    · rw [hnh4]
      exact .inl ⟨.inr (.inr ⟨rfl, hnh⟩), _, rfl⟩
    · rw [hnh4]
      exact .inl ⟨.inr (.inl hnh), _, rfl⟩
  · rw [h4, h16, hfamily]
    cases hnh16 : to16 req.nextHop with
    | some nh =>
        have hvalid : family req.nextHop ≠ none := by
          rw [ne_eq, family_eq_none_iff, hnh16]
          simp
        refine .inr ⟨by simp [hvalid], .v6, _, _, _, rfl, rfl, ?_⟩
        exact carries_route (vrfOrDefault req.vrfID) req.existOK h16 hnh16 (by decide) (by decide)
          (by decide)
    | none =>
        exact .inl ⟨.inr (.inl (family_eq_none_iff.mpr hnh16)), _, rfl⟩
  · rw [h4, h16]
    exact .inl ⟨.inl hfamily, _, rfl⟩

theorem NetRequest.decided (req : NetRequest) :
  req.Decided
  := by
  cases req with
  | addressAdd req => exact addressRequest_decided rfl rfl
  | addressDel req => exact addressRequest_decided rfl rfl
  | routeAdd req => exact routeAdd_decided req
  | routeDel req => exact routeDel_decided req

/-! ### Messages that denote what was asked for -/

theorem requestNil_uses {P : RpcOp → Prop} {type : UInt32} {payload : Bytes} {format : String}
    {args : List FmtArg} (h : P (.request type payload .nil)) :
  (requestNil type payload format args).Uses P
  := by
  refine ⟨h, ?_⟩
  rintro (err | _)
  · trivial
  · trivial

theorem NetRequest.Denotes.consistent {o : RpcOp} (h : req.Denotes o) :
  req.Consistent
  := by
  obtain ⟨f, hfamily, -, -, ⟨ones, hle, hmask, -⟩, hnextHop⟩ := h
  exact ⟨f, hfamily, ⟨ones, hle, hmask⟩, fun nh hnh => (hnextHop nh hnh).1⟩

/-- A message that carries a consistent request denotes what was asked for. -/
theorem Carries.denotes {f : Family} {payload : Bytes} (h : Carries f req payload)
    (hfamily : family req.net.ip = some f) (hreq : req.Consistent) (resp : Resp) :
  req.Denotes (.request (req.type f) payload resp)
  := by
  obtain ⟨f', hfamily', ⟨ones, hle, hmask⟩, hnextHop⟩ := hreq
  obtain rfl : f = f' := Option.some.inj (hfamily.symm.trans hfamily')
  have hbyte : ones < 256 := by
    cases f
    · exact Nat.lt_of_le_of_lt hle (by decide)
    · exact Nat.lt_of_le_of_lt hle (by decide)
  refine ⟨f, hfamily, rfl, h.addr, ⟨ones, hle, hmask, ?_⟩, ?_⟩
  · change (payload.getD f.offLen 0).toNat = ones
    rw [h.len, hmask, maskSize_cidrMask hle, UInt8.toNat_ofNat_of_lt' hbyte]
  · exact fun nh hnh => ⟨hnextHop nh hnh, h.nextHop nh hnh⟩

end

/-- For every request about an address or a route: what is sent denotes what was asked for, and
nothing is sent for a request that is not consistent, exactly if the request is consistent or
refused for its addresses. -/
theorem netRequest_sound_iff (req : NetRequest) :
  req.Sound ↔ req.Consistent ∨ req.Refused
  := by
  constructor
  · intro h
    rcases req.decided with ⟨hrefused, -⟩ | ⟨-, f, payload, format, args, -, hprogram, -⟩
    · exact .inr hrefused
    · have huses := h.sent
      rw [hprogram] at huses
      exact .inl huses.1.consistent
  · intro h
    rcases req.decided with ⟨-, err, herr⟩ |
      ⟨hsent, f, payload, format, args, hfamily, hprogram, hcarries⟩
    · constructor
      · rw [herr]
        trivial
      · exact fun _ => ⟨err, herr⟩
    · have hreq : req.Consistent := h.resolve_right hsent
      constructor
      · rw [hprogram]
        exact requestNil_uses (hcarries.denotes hfamily hreq .nil)
      · exact fun hnot => absurd hreq hnot

/-- A route to 10.0.0.0 with the mask 255.0.255.0, which is not one of ones followed by zeros: the
size of the mask is taken as 0, and the message asks for the default route. -/
theorem routeAdd_sends_default_route :
  ∃ (req : RouteAddRequest) (payload : Bytes) (format : String) (args : List FmtArg),
    req.destination = ⟨[10, 0, 0, 0], [255, 0, 255, 0]⟩ ∧
    routeAdd req = requestNil typeIP4RouteAdd payload format args ∧
    payload.getD Family.v4.offLen 0 = 0 ∧ ¬(NetRequest.routeAdd req).Sound
  := by
  refine ⟨⟨1, ⟨[10, 0, 0, 0], [255, 0, 255, 0]⟩, [10, 0, 0, 1], true⟩, _, _, _, rfl, rfl,
    by decide, ?_⟩
  intro h
  obtain ⟨f, hfamily, ⟨ones, hle, hmask⟩, -⟩ := h.sent.1.consistent
  obtain rfl : Family.v4 = f := Option.some.inj hfamily
  have hmasks : ∀ ones < 33, [255, 0, 255, 0] ≠ cidrMask ones 4 := by decide
  exact hmasks ones (Nat.lt_succ_of_le hle) hmask

end GroutCni.Api
