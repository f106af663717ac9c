import GroutCni.Api.Flood
import GroutCni.Api.Message

/-!
# The meaning of the methods

`ClientCall.meaning` is what a method of the client means in terms of messages, without bytes:
what it refuses, which messages it sends, and what it makes of their answers.  Each request that
the method sends is read back as the message that is meant (`program_matches`).
-/

namespace GroutCni

open Effect Wire Api

/-! ### Methods without bytes -/

/-- Send a message. -/
def ask (m : Message) (wrap : GoError → GoError) : MessageProg (Except GoError m.Val) := do
  match ← (Program.perform m : MessageProg m.Res) with
  | .error err => return .error (wrap err)
  | .ok v => return .ok v

/-- Send a message whose answer has no value. -/
def tell (m : Message) (wrap : GoError → GoError) : MessageProg (Except GoError Unit) := do
  match ← (Program.perform m : MessageProg m.Res) with
  | .error err => return .error (wrap err)
  | .ok _ => return .ok ()

/-- The part of an interface that depends on its type, unless it is refused. -/
def InterfaceAddRequest.ifaceInfo (req : InterfaceAddRequest) : Except GoError IfaceInfo :=
  if req.type = InterfaceType.bridge then .ok (.bridge (bridgeMAC req.name))
  else if req.type = InterfaceType.vxlan then
    match req.vxlan with
    | none =>
        .error (.errorf "interface add %q: VXLAN config required for a VXLAN interface"
          [.str req.name])
    | some vxlan =>
    match to4 vxlan.localAddr with
    | none =>
        .error (.wrapf "interface add %q: VXLAN local address: %w" [.str req.name]
          (.errorf "not an IPv4 address: %s" [.ip vxlan.localAddr]))
    | some ip4 => .ok (.vxlan vxlan.vni vxlan.encapVRFID vxlan.dstPort (some ip4))
  else if (devargs req).length ≥ portDevargsSize then
    .error (.errorf "interface add %q: devargs too long (%d >= %d)"
      [.str req.name, .num (devargs req).length, .num portDevargsSize])
  else .ok (.port (cString (devargs req)))

/-- The interface that a request asks for.  Of its name, the field keeps 16 bytes up to a NUL. -/
def InterfaceAddRequest.iface (req : InterfaceAddRequest) (info : IfaceInfo) : Iface where
  type := req.type
  flags := grIfaceFlagUp
  mtu := req.mtu
  domain := req.domainID
  name := cString (req.name.take ifNameSize)
  info := info

/-- An address in the bytes of its family, with the length of its prefix. -/
def IPNet.subnet (net : IPNet) (addr : IP) : Subnet :=
  ⟨addr, UInt8.ofNat (maskSize net.mask)⟩

/-- A message about an address, in the bytes of its family. -/
def tellAddr (m : Family → Subnet → Message) (id : UInt16) (net : IPNet)
    (format invalid : String) : MessageProg (Except GoError Unit) :=
  let wrap := GoError.wrapf format [.cidr net.ip net.mask, .num id.toNat]
  match to4 net.ip with
  | some ip4 => tell (m .v4 (net.subnet ip4)) wrap
  | none =>
  match to16 net.ip with
  | none => return .error (.errorf invalid [.ip net.ip])
  | some ip6 => tell (m .v6 (net.subnet ip6)) wrap

/-- `RouteAdd`, without bytes. -/
def tellRouteAdd (req : RouteAddRequest) : MessageProg (Except GoError Unit) :=
  let m f dest nh := Message.routeAdd f (vrfOrDefault req.vrfID) (req.destination.subnet dest) nh
    originStatic req.existOK
  let wrap := GoError.wrapf "route add %s via %s: %w"
    [.cidr req.destination.ip req.destination.mask, .ip req.nextHop]
  match to4 req.destination.ip with
  | some dest =>
      match to4 req.nextHop with
      | none =>
          return .error (.errorf "route add: IPv4 destination with non-IPv4 next hop: %s"
            [.ip req.nextHop])
      | some nh => tell (m .v4 dest nh) wrap
  | none =>
  match to16 req.destination.ip with
  | none => return .error (.errorf "route add: invalid destination: %s" [.ip req.destination.ip])
  | some dest =>
  match to16 req.nextHop with
  | none => return .error (.errorf "route add: invalid next hop: %s" [.ip req.nextHop])
  | some nh => tell (m .v6 dest nh) wrap

/-- `RouteDel`, without bytes. -/
def tellRouteDel (req : RouteDelRequest) : MessageProg (Except GoError Unit) :=
  let m f dest := Message.routeDel f (vrfOrDefault req.vrfID) (req.destination.subnet dest)
    req.missingOK
  let wrap := GoError.wrapf "route del %s: %w" [.cidr req.destination.ip req.destination.mask]
  match to4 req.destination.ip with
  | some dest => tell (m .v4 dest) wrap
  | none =>
  match to16 req.destination.ip with
  | none => return .error (.errorf "route del: invalid destination: %s" [.ip req.destination.ip])
  | some dest => tell (m .v6 dest) wrap

/-- `FloodAdd` and `FloodDel`, without bytes. -/
def tellFlood (m : FloodEntry → Message) (vrfID : UInt16) (vni : UInt32) (addr : IP)
    (format : String) : MessageProg (Except GoError Unit) :=
  let wrap := GoError.wrapf format [.num vni.toNat, .ip addr]
  match to4 addr with
  | none => return .error (wrap (.errorf "not an IPv4 address: %s" [.ip addr]))
  | some ip4 => tell (m ⟨floodTypeVTEP, vrfOrDefault vrfID, vni, some ip4⟩) wrap

/-- `AddressFlush`, without bytes. -/
def tellFlush (id : UInt16) : MessageProg (Except GoError Unit) := do
  match ← tell (.addrFlush .v4 id) fun err => err with
  | .error err => return .error (.wrapf "IPv4 address flush on iface %d: %w" [.num id.toNat] err)
  | .ok _ =>
  match ← tell (.addrFlush .v6 id) fun err => err with
  | .error err => return .error (.wrapf "IPv6 address flush on iface %d: %w" [.num id.toNat] err)
  | .ok _ => return .ok ()

/-- `InterfaceAdd`, without bytes. -/
def askInterfaceAdd (req : InterfaceAddRequest) : MessageProg (Except GoError UInt16) :=
  match req.ifaceInfo with
  | .error err => return .error err
  | .ok info => ask (.ifaceAdd (req.iface info)) (.wrapf "interface add %q: %w" [.str req.name])

/-- What a method means. -/
def ClientCall.meaning : (call : ClientCall) → MessageProg (Except GoError call.Val)
  | .hello => tell (.hello apiVersion (lit "grout-k-cni")) fun err => err
  | .interfaceList req => ask (.ifaceList req.type) (.wrapf "interface list: %w" [])
  | .interfaceAdd req => askInterfaceAdd req
  | .interfaceDel id => tell (.ifaceDel id) (.wrapf "interface del %d: %w" [.num id.toNat])
  | .addressAdd req =>
      tellAddr (fun f net => .addrAdd f req.ifaceID net req.existOK) req.ifaceID req.address
        "address add %s on iface %d: %w" "address add: invalid IP address: %s"
  | .addressDel req =>
      tellAddr (fun f net => .addrDel f req.ifaceID net req.missingOK) req.ifaceID req.address
        "address del %s on iface %d: %w" "address del: invalid IP address: %s"
  | .addressFlush id => tellFlush id
  | .routeAdd req => tellRouteAdd req
  | .routeDel req => tellRouteDel req
  | .floodAdd req =>
      tellFlood (fun entry => .floodAdd entry req.existOK) req.vrfID req.vni req.addr
        "flood add vni %d addr %s: %w"
  | .floodDel req =>
      tellFlood (fun entry => .floodDel entry req.missingOK) req.vrfID req.vni req.addr
        "flood del vni %d addr %s: %w"
  | .floodList req =>
      ask (.floodList floodTypeVTEP (vrfOrDefault req.vrfID)) (.wrapf "flood list: %w" [])

/-! ### Reading buffers -/

/-- The fields of a buffer whose last one is a flag. -/
def flagged (fs : List Field) (off : Nat) (ok : Bool) : List Field :=
  fs ++ [u8 off (if ok then 1 else 0)]

section

variable {size : Nat} {fs : List Field} {off : Nat} {ok : Bool}

/-- A field is found whether the flag is set or not, and so is the flag. -/
theorem slice_flagged {f : Field} (hapart : (flagged fs off ok).Pairwise Field.Apart)
    (hf : f ∈ flagged fs off ok) (hfit : f.off + f.data.length ≤ size) :
  slice (fill size (fs ++ flag off ok)) f.off f.data.length = f.data
  := by
  have hsub : (fs ++ flag off ok).Sublist (flagged fs off ok) := by
    apply List.Sublist.append_left
    cases ok with
    | false => exact List.nil_sublist _
    | true => exact List.Sublist.refl _
  apply slice_fill_of_sublist hsub hapart hf hfit
  intro hout
  rcases List.mem_append.mp hf with hfs | hflag
  · exact absurd (List.mem_append_left _ hfs) hout
  · obtain rfl := List.mem_singleton.mp hflag
    cases ok with
    | false => rfl
    | true => exact absurd (List.mem_append_right _ List.mem_cons_self) hout

theorem uint16At_flagged {i : Nat} {x : UInt16}
    (hapart : (flagged fs off ok).Pairwise Field.Apart) (hf : u16 i x ∈ fs)
    (hfit : i + 2 ≤ size) :
  uint16At (fill size (fs ++ flag off ok)) i = x
  := uint16At_of_slice (slice_flagged hapart (List.mem_append_left _ hf) hfit)

theorem uint32At_flagged {i : Nat} {x : UInt32}
    (hapart : (flagged fs off ok).Pairwise Field.Apart) (hf : u32 i x ∈ fs)
    (hfit : i + 4 ≤ size) :
  uint32At (fill size (fs ++ flag off ok)) i = x
  := uint32At_of_slice (slice_flagged hapart (List.mem_append_left _ hf) hfit)

theorem getD_flagged {i : Nat} {x : UInt8} (hapart : (flagged fs off ok).Pairwise Field.Apart)
    (hf : u8 i x ∈ fs) (hfit : i < size) :
  (fill size (fs ++ flag off ok)).getD i 0 = x
  := getD_of_slice (slice_flagged hapart (List.mem_append_left _ hf) hfit)

theorem slice_flagged_addr {x : IP} {i n : Nat}
    (hapart : (flagged fs off ok).Pairwise Field.Apart) (hf : ⟨i, x⟩ ∈ fs) (hlen : x.length = n)
    (hfit : i + n ≤ size) :
  slice (fill size (fs ++ flag off ok)) i n = x
  := by
  subst hlen
  exact slice_flagged hapart (List.mem_append_left _ hf) hfit

theorem flagAt_flagged (hapart : (flagged fs off ok).Pairwise Field.Apart) (hoff : off < size) :
  flagAt (fill size (fs ++ flag off ok)) off = ok
  := by
  have hget : (fill size (fs ++ flag off ok)).getD off 0 = if ok then 1 else 0 :=
    getD_of_slice (slice_flagged hapart (List.mem_append_right _ List.mem_cons_self) hoff)
  rw [flagAt, hget]
  cases ok <;> rfl

end

/-- A string that is padded with zeros. -/
theorem slice_padded {b data : Bytes} {off n : Nat} (hslice : slice b off data.length = data)
    (hlen : data.length ≤ n)
    (hzero : ∀ i, data.length ≤ i → i < n → b[off + i]? = some 0) :
  slice b off n = data ++ List.replicate (n - data.length) 0
  := by
  obtain ⟨m, rfl⟩ := Nat.exists_eq_add_of_le hlen
  rw [slice_add, hslice, Nat.add_sub_cancel_left]
  congr 1
  apply List.ext_getElem?
  intro i
  rw [getElem?_slice, List.getElem?_replicate]
  split
  case isTrue hi =>
    rw [Nat.add_assoc]
    exact hzero _ (Nat.le_add_right _ _) (by omega)
  case isFalse => rfl

/-- Zeros after a string are not read. -/
theorem cString_padded (s : GoString) (n : Nat) :
  cString (s ++ List.replicate n 0) = cString s
  := by
  induction s with
  | nil =>
      cases n with
      | zero => rfl
      | succ n => rfl
  | cons b s ih =>
      unfold cString at *
      rw [List.cons_append, List.takeWhile_cons, List.takeWhile_cons, ih]

/-- A string is read from its field, whatever it is padded to. -/
theorem cString_slice_padded {b data : Bytes} {off n : Nat}
    (hslice : slice b off data.length = data) (hlen : data.length ≤ n)
    (hzero : ∀ i, data.length ≤ i → i < n → b[off + i]? = some 0) :
  cString (slice b off n) = cString data
  := by
  rw [slice_padded hslice hlen hzero, cString_padded]

/-! ### Round trips -/

theorem parse_eq {type : UInt32} (kind : Kind) {payload : Bytes}
    (hkind : kinds.lookup type = some kind) (hlen : kind.size payload ≤ payload.length) :
  parse type payload = some (kind.read payload)
  := by
  rw [parse, hkind]
  exact if_neg (Nat.not_lt.mpr hlen)

section

variable (f : Family) (size off : Nat) {addr : IP}

/-- The fields of a message about an address. -/
def netFields (f : Family) (id : UInt16) (addr : IP) (ones : UInt8) : List Field :=
  [u16 0 id, ⟨f.offAddr, addr.take f.width⟩, u8 f.offLen ones]

/-- A message about an address is read back. -/
theorem read_netFields (id : UInt16) (ones : UInt8) (ok : Bool) (haddr : addr.length = f.width)
    (hoff : f.offLen < off) (hsize : off < size) :
  let b := fill size (netFields f id addr ones ++ flag off ok)
  uint16At b 0 = id ∧ subnetAt f b = ⟨addr, ones⟩ ∧ flagAt b off = ok
  := by
  have hlayout : 2 ≤ f.offAddr ∧ f.offAddr + f.width = f.offLen := by
    cases f <;> exact ⟨by decide, rfl⟩
  have htake : addr.take f.width = addr := List.take_of_length_le haddr.le
  have hapart : (flagged (netFields f id addr ones) off ok).Pairwise Field.Apart := by
    simp [flagged, netFields, htake, Field.Apart, u16, u8, haddr]
    omega
  have hslice : slice (fill size (netFields f id addr ones ++ flag off ok)) f.offAddr f.width
      = addr := by
    apply slice_flagged_addr hapart _ haddr (by omega)
    simp [netFields, htake]
  have hlen : (fill size (netFields f id addr ones ++ flag off ok)).getD f.offLen 0 = ones :=
    getD_flagged hapart (by simp [netFields]) (by omega)
  refine ⟨uint16At_flagged hapart (by simp [netFields]) (by omega), ?_,
    flagAt_flagged hapart hsize⟩
  rw [subnetAt, hslice, hlen]

/-- The fields of a message about a new route. -/
def routeFields (f : Family) (id : UInt16) (addr : IP) (ones : UInt8) (nh : IP) (origin : Nat) :
    List Field :=
  netFields f id addr ones ++ [⟨f.offNextHop, nh.take f.width⟩, u8 origin originStatic]

/-- A message about a new route is read back. -/
theorem read_routeFields {nh : IP} (origin : Nat) (id : UInt16) (ones : UInt8) (ok : Bool)
    (haddr : addr.length = f.width) (hnh : nh.length = f.width)
    (horigin : f.offNextHop + f.width ≤ origin) (hoff : origin < off) (hsize : off < size) :
  let b := fill size (routeFields f id addr ones nh origin ++ flag off ok)
  uint16At b 0 = id ∧ subnetAt f b = ⟨addr, ones⟩ ∧ slice b f.offNextHop f.width = nh ∧
    b.getD origin 0 = originStatic ∧ flagAt b off = ok
  := by
  have hlayout : 2 ≤ f.offAddr ∧ f.offAddr + f.width = f.offLen ∧ f.offLen < f.offNextHop := by
    cases f <;> exact ⟨by decide, rfl, by decide⟩
  have htake : addr.take f.width = addr := List.take_of_length_le haddr.le
  have htakeNh : nh.take f.width = nh := List.take_of_length_le hnh.le
  have hapart :
      (flagged (routeFields f id addr ones nh origin) off ok).Pairwise Field.Apart := by
    simp [flagged, routeFields, netFields, htake, htakeNh, Field.Apart, u16, u8, haddr, hnh]
    omega
  have hslice : slice (fill size (routeFields f id addr ones nh origin ++ flag off ok))
      f.offAddr f.width = addr := by
    apply slice_flagged_addr hapart _ haddr (by omega)
    simp [routeFields, netFields, htake]
  have hlen : (fill size (routeFields f id addr ones nh origin ++ flag off ok)).getD f.offLen 0
      = ones := getD_flagged hapart (by simp [routeFields, netFields]) (by omega)
  refine ⟨uint16At_flagged hapart (by simp [routeFields, netFields]) (by omega), ?_, ?_,
    getD_flagged hapart (by simp [routeFields]) (by omega), flagAt_flagged hapart hsize⟩
  · rw [subnetAt, hslice, hlen]
  · apply slice_flagged_addr hapart _ hnh (by omega)
    simp [routeFields, htakeNh]

end

section

variable {f : Family} {size off : Nat} {type : UInt32} (kind : Kind) {x : IP}

/-- A message about an address is the one that is meant. -/
theorem parse_netFields {m : UInt16 → Subnet → Bool → Message} (id : UInt16) (ones : UInt8)
    (ok : Bool) (hkind : kinds.lookup type = some kind) (hsize : ∀ b, kind.size b = size)
    (hread : ∀ b, kind.read b = m (uint16At b 0) (subnetAt f b) (flagAt b off))
    (hx : x.length = f.width) (hoff : f.offLen < off) (hlt : off < size) :
  parse type (fill size (netFields f id x ones ++ flag off ok)) = some (m id ⟨x, ones⟩ ok)
  := by
  obtain ⟨hid, hnet, hok⟩ := read_netFields f size off id ones ok hx hoff hlt
  rw [parse_eq kind hkind (by rw [hsize, length_fill]), hread, hid, hnet, hok]

/-- A message about a new route is the one that is meant. -/
theorem parse_routeFields {nh : IP} {origin : Nat}
    {m : UInt16 → Subnet → IP → UInt8 → Bool → Message} (id : UInt16) (ones : UInt8) (ok : Bool)
    (hkind : kinds.lookup type = some kind) (hsize : ∀ b, kind.size b = size)
    (hread : ∀ b, kind.read b = m (uint16At b 0) (subnetAt f b) (slice b f.offNextHop f.width)
      (b.getD origin 0) (flagAt b off))
    (hx : x.length = f.width) (hnh : nh.length = f.width)
    (horigin : f.offNextHop + f.width ≤ origin) (hoff : origin < off) (hlt : off < size) :
  parse type (fill size (routeFields f id x ones nh origin ++ flag off ok))
    = some (m id ⟨x, ones⟩ nh originStatic ok)
  := by
  obtain ⟨hid, hnet, hnext, horig, hok⟩ :=
    read_routeFields f size off origin id ones ok hx hnh horigin hoff hlt
  rw [parse_eq kind hkind (by rw [hsize, length_fill]), hread, hid, hnet, hnext, horig, hok]

/-- A message about an entry of a flood list is the one that is meant. -/
theorem parse_flood {m : FloodEntry → Bool → Message} (vrfID : UInt16) (vni : UInt32) (ok : Bool)
    (hkind : kinds.lookup type = some kind) (hsize : ∀ b, kind.size b = floodReqSize)
    (hread : ∀ b, kind.read b = m (floodEntryAt b) (flagAt b floodEntrySize))
    (hx : x.length = 4) :
  parse type (fill floodReqSize (floodFields vrfID vni x ++ flag floodEntrySize ok))
    = some (m ⟨floodTypeVTEP, vrfID, vni, some x⟩ ok)
  := by
  obtain ⟨hbefore, hfit⟩ := floodFields_apart vrfID vni hx
  have hapart : (flagged (floodFields vrfID vni x) floodEntrySize ok).Pairwise Field.Apart := by
    apply List.pairwise_append.mpr
    refine ⟨hbefore, List.pairwise_singleton _ _, ?_⟩
    intro g hg h hh
    rw [List.mem_singleton.mp hh]
    exact .inl (hfit g hg)
  have hok : flagAt (fill floodReqSize (floodFields vrfID vni x ++ flag floodEntrySize ok))
      floodEntrySize = ok := flagAt_flagged hapart (by decide)
  have htype : (fill floodReqSize (floodFields vrfID vni x ++ flag floodEntrySize ok)).getD
      offFloodType 0 = floodTypeVTEP :=
    getD_flagged hapart (by simp [floodFields]) (by decide)
  have hvrf : uint16At (fill floodReqSize (floodFields vrfID vni x ++ flag floodEntrySize ok))
      offFloodVRFID = vrfID := uint16At_flagged hapart (by simp [floodFields]) (by decide)
  have hvni : uint32At (fill floodReqSize (floodFields vrfID vni x ++ flag floodEntrySize ok))
      offFloodVTEPVNI = vni := uint32At_flagged hapart (by simp [floodFields]) (by decide)
  have haf : (slice (fill floodReqSize (floodFields vrfID vni x ++ flag floodEntrySize ok))
      offFloodVTEPAddr l3AddrSize).getD offL3AddrAF 0 = afIP4 := by
    apply getD_of_slice
    rw [slice_slice _ (by decide)]
    exact slice_flagged_addr hapart (by simp [floodFields, u8]) rfl (by decide)
  have haddr : slice (slice (fill floodReqSize (floodFields vrfID vni x ++ flag floodEntrySize ok))
      offFloodVTEPAddr l3AddrSize) offL3AddrIPv4 4 = x := by
    rw [slice_slice _ (by decide)]
    exact slice_flagged_addr hapart (by simp [floodFields]) hx (by decide)
  rw [parse_eq kind hkind (by rw [hsize, length_fill]), hread, hok, floodEntryAt, htype, hvrf, hvni,
    l3AddrIPv4, if_neg (not_not.mpr haf), haddr]

end

theorem parse_id {type : UInt32} (kind : Kind) {m : UInt16 → Message} (id : UInt16)
    (hkind : kinds.lookup type = some kind) (hsize : ∀ b, kind.size b = 2)
    (hread : ∀ b, kind.read b = m (uint16At b 0)) :
  parse type (fill 2 [u16 0 id]) = some (m id)
  := by
  have hid : uint16At (fill 2 [u16 0 id]) 0 = id := by
    apply uint16At_of_slice
    exact slice_fill (f := u16 0 id) (List.pairwise_singleton _ _) List.mem_cons_self
      (by simp [u16])
  rw [parse_eq kind hkind (by rw [hsize, length_fill]), hread, hid]

section

variable {req : InterfaceAddRequest} {fields : List Field} {payload : Bytes}

/-- A request that is refused is refused with the same error. -/
theorem ifaceInfo_of_infoFields_error {err : GoError} (h : infoFields req = .error err) :
  req.ifaceInfo = .error err
  := by
  unfold infoFields at h
  unfold InterfaceAddRequest.ifaceInfo
  split at h
  case isTrue => cases h
  case isFalse hbridge =>
    rw [if_neg hbridge]
    split at h
    case isTrue htype =>
      unfold vxlanFields putL3AddrIPv4 at h
      rw [if_pos htype]
      cases hvxlan : req.vxlan with
      | none =>
          rw [hvxlan] at h
          cases h
          rfl
      | some vxlan =>
          rw [hvxlan] at h
          dsimp only at h ⊢
          cases hip4 : to4 vxlan.localAddr with
          | none =>
              rw [hip4] at h
              cases h
              rfl
          | some ip4 =>
              rw [hip4] at h
              cases h
    case isFalse htype =>
      unfold portFields at h
      rw [if_neg htype]
      split at h
      case isTrue hlen =>
        cases h
        exact if_pos hlen
      case isFalse => cases h

/-- The name is read up to a NUL. -/
theorem IsPayload.cString_name (h : IsPayload req fields payload) :
  cString (Wire.slice payload offIfaceName ifNameSize) = cString (req.name.take ifNameSize)
  := by
  have hslice := h.slice (f := ⟨offIfaceName, req.name.take ifNameSize⟩) (by simp [allFields])
  apply cString_slice_padded hslice
  · rw [List.length_take]
    exact Nat.min_le_left _ _
  · intro i hle hlt
    have hlen : payload.length = ifaceSize + infoSize req.type := h.length
    have hsize : ifaceSize = 292 := rfl
    simp only [ifNameSize] at hle hlt
    apply h.zero
    · simp only [offIfaceName]
      omega
    · intro f hf hcov
      rcases List.mem_append.mp hf with hf | hf
      · simp only [allFields, List.mem_cons, List.not_mem_nil, or_false] at hf
        rcases hf with rfl | rfl | rfl | rfl | rfl | rfl
        all_goals
          simp only [Field.Covers, u16, u8, length_toLE, List.length_singleton, offIfaceID,
            offIfaceType, offIfaceFlags, offIfaceDomain, offIfaceMTU, offIfaceName, ifNameSize]
            at hcov
          omega
      · have hinfo : 292 ≤ f.off := (h.isInfo.apart.2 f hf).1
        have hbefore := hcov.1
        simp only [offIfaceName] at hbefore
        omega

/-- The info section is the one that is meant. -/
theorem IsPayload.ifaceInfo (h : IsPayload req fields payload) :
  req.ifaceInfo = .ok (infoAt req.type payload)
  := by
  have hmem : ∀ {f : Field}, f ∈ fields → f ∈ allFields req ++ fields :=
    fun hf => List.mem_append_right _ hf
  have his := h.isInfo
  unfold InterfaceAddRequest.ifaceInfo infoAt
  cases his with
  | bridge htype =>
      have hmac : Wire.slice payload (offIfaceInfo + offBridgeInfoMAC) 6 = bridgeMAC req.name :=
        h.slice (hmem List.mem_cons_self)
      rw [if_pos htype, if_pos htype, hmac]
  | @vxlan vxlan ip4 htype hvxlan hip4 =>
      have hne : req.type ≠ InterfaceType.bridge := by
        rw [htype]
        decide
      have haf : (Wire.slice payload (offIfaceInfo + offVxlanLocal) l3AddrSize).getD offL3AddrAF 0
          = afIP4 := by
        apply getD_of_slice
        rw [slice_slice _ (by decide)]
        exact h.slice (f := u8 (offIfaceInfo + offVxlanLocal + offL3AddrAF) afIP4)
          (hmem (by simp))
      have haddr : Wire.slice (Wire.slice payload (offIfaceInfo + offVxlanLocal) l3AddrSize)
          offL3AddrIPv4 4 = ip4 := by
        have hslice := h.slice (hmem (f := ⟨offIfaceInfo + offVxlanLocal + offL3AddrIPv4, ip4⟩)
          (by simp))
        rw [length_of_to4 hip4] at hslice
        rw [slice_slice _ (by decide)]
        exact hslice
      rw [if_neg hne, if_pos htype, if_neg hne, if_pos htype, hvxlan]
      dsimp only
      rw [hip4, h.uint32At (hmem (f := u32 _ vxlan.vni) (by simp)),
        h.uint16At (hmem (f := u16 _ vxlan.encapVRFID) (by simp)),
        h.uint16At (hmem (f := u16 _ vxlan.dstPort) (by simp)), l3AddrIPv4,
        if_neg (not_not.mpr haf), haddr]
  | port hbridge hvxlan hlen =>
      rw [if_neg hbridge, if_neg hvxlan, if_neg (Nat.not_le.mpr hlen), if_neg hbridge,
        if_neg hvxlan, cString_slice_padded (h.slice (hmem List.mem_cons_self)) hlen.le]
      intro i hle hlt
      have hsize : ifaceSize + portInfoSize = 466 := rfl
      simp only [portDevargsSize] at hlt
      apply h.zero
      · rw [h.length, infoSize_port hbridge hvxlan, hsize]
        simp only [offPortDevargs, offIfaceInfo, portInfoBaseSize]
        omega
      · intro f hf hcov
        rcases List.mem_append.mp hf with hf | hf
        · have hbase : f.off + f.data.length ≤ 292 := (allFields_apart req).2 f hf
          have hafter := hcov.2
          simp only [offPortDevargs, offIfaceInfo, portInfoBaseSize] at hafter
          omega
        · obtain rfl := List.mem_singleton.mp hf
          have hafter := hcov.2
          dsimp only at hle hafter
          omega

/-- What `InterfaceAdd` sends is read as the interface that is meant. -/
theorem parse_ifaceAdd (h : interfaceAddPayload req = .ok payload) :
  ∃ info, req.ifaceInfo = .ok info ∧
    parse typeIfaceAdd payload = some (.ifaceAdd (req.iface info))
  := by
  obtain ⟨fields, h⟩ := isPayload_of_interfaceAddPayload h
  have htype : payload.getD offIfaceType 0 = req.type := h.getD (by simp [allFields])
  have hflags : uint16At payload offIfaceFlags = grIfaceFlagUp := h.uint16At (by simp [allFields])
  have hmtu : uint16At payload offIfaceMTU = req.mtu := h.uint16At (by simp [allFields])
  have hdomain : uint16At payload offIfaceDomain = req.domainID :=
    h.uint16At (by simp [allFields])
  refine ⟨infoAt req.type payload, h.ifaceInfo, ?_⟩
  rw [parse_eq .ifaceAdd rfl (by rw [Kind.size, htype, h.length]), Kind.read, ifaceAt,
    htype, hflags, hmtu, hdomain, h.cString_name]
  rfl

end

end GroutCni
