import GroutCni.Api.Meaning
import GroutCni.Node.World

/-!
# The node behind messages

`Message.Effect` is what a message does to the node, in the terms of the message: an interface
has the name that its field holds, a port has the socket that its devargs name, and an address
has the bytes and the prefix length of its family.  It is simulated by `World.Effect`, which says
the same in the terms of the operations of the plugin (`run_meaning`); the two states differ in
how addresses are written (`Shown`).
-/

namespace GroutCni

open Effect Wire Api

/-! ### The effects of messages -/

/-- An address in the notation of its message. -/
def Subnet.ipNet (net : Subnet) (f : Family) : IPNet :=
  ⟨net.addr, cidrMask net.len.toNat f.width⟩

/-- The address is one of the family. -/
def Api.Family.has (f : Family) (net : IPNet) : Bool :=
  match f with
  | .v4 => (to4 net.ip).isSome
  | .v6 => (to4 net.ip).isNone

/-- The socket that the devargs of a port name: the value of `iface` for a vhost-user device. -/
def socketOf (devargs : GoString) : Option GoString :=
  if hasPrefix devargs (lit "net_vhost_") then
    some (((devargs.dropWhile (· ≠ 0x2c)).drop (lit ",iface=").length).takeWhile (· ≠ 0x2c))
  else none

/-- The socket of a port. -/
def Iface.socket (iface : Iface) : Option GoString :=
  match iface.info with
  | .port devargs => socketOf devargs
  | _ => none

/-- What is listed of an interface. -/
def Iface.toInfo (iface : Iface) (id : UInt16) : InterfaceInfo where
  id := id
  type := iface.type
  name := iface.name
  domain := iface.domain

/-- What a message that succeeds answers, and the state it leaves.  Grout refuses a prefix that
is longer than an address.  Routes and flood lists are not part of the state. -/
def Message.Effect : Behaviour Message.Val World
  | w, .ifaceList type, ifaces, w' => ifaces.Perm (w.listed ⟨type⟩) ∧ w' = w
  | w, .ifaceAdd iface, id, w' =>
      ∃ grout links, w.grout.insert? (iface.toInfo id) = some grout ∧
        w' = { w with grout, links, sockets := iface.socket.elim w.sockets w.sockets.insert }
  | w, .ifaceDel id, _, w' =>
      w.grout.Unaddressed id ∧ ∃ links, w' = { w with grout := w.grout.delete id, links }
  | w, .addrAdd f id net existOK, _, w' =>
      net.len.toNat ≤ 8 * f.width ∧
        (existOK = true ∨ (id, net.ipNet f) ∉ w.grout.addrs) ∧
        ∃ grout, w.grout.assign? id (net.ipNet f) = some grout ∧ w' = { w with grout }
  | w, .addrDel f id net missingOK, _, w' =>
      (missingOK = true ∨ (id, net.ipNet f) ∈ w.grout.addrs) ∧
        w' = { w with grout := w.grout.flush id fun a => a = net.ipNet f }
  | w, .addrFlush f id, _, w' => w' = { w with grout := w.grout.flush id f.has }
  | w, .hello _ _, _, w' => w' = w
  | w, .routeAdd _ _ _ _ _ _, _, w' => w' = w
  | w, .routeDel _ _ _ _, _, w' => w' = w
  | w, .floodAdd _ _, _, w' => w' = w
  | w, .floodDel _ _, _, w' => w' = w
  | w, .floodList _ _, _, w' => w' = w

/-- The behaviour of the node behind messages, under the faults of `P`. -/
abbrev MessageEnv (P : Policy Message) : Behaviour Message.Res World := Faulty Message.Effect P

/-! ### The same node in two notations -/

/-- An address as a message denotes it. -/
def IPNet.canonical (net : IPNet) : IPNet :=
  match to4 net.ip with
  | some x => (net.subnet x).ipNet .v4
  | none =>
  match to16 net.ip with
  | some x => (net.subnet x).ipNet .v6
  | none => net

theorem canonical_v4 {net : IPNet} {x : IP} (h : to4 net.ip = some x) :
  net.canonical = (net.subnet x).ipNet .v4
  := by
  rw [IPNet.canonical, h]

theorem canonical_v6 {net : IPNet} {x : IP} (h4 : to4 net.ip = none) (h16 : to16 net.ip = some x) :
  net.canonical = (net.subnet x).ipNet .v6
  := by
  rw [IPNet.canonical, h4, h16]

/-- Two tables are the same, except that addresses are written as messages denote them. -/
structure Grout.Shown (g₁ g₂ : Grout) : Prop where
  ifaces : g₁.ifaces = g₂.ifaces
  addrs : ∀ x, x ∈ g₁.addrs ↔ ∃ y ∈ g₂.addrs, (y.1, y.2.canonical) = x

/-- The node behind messages and the node of the plugin are the same, except that addresses are
written as messages denote them. -/
structure Shown (w₁ w₂ : World) : Prop where
  grout : w₁.grout.Shown w₂.grout
  reservations : w₁.reservations = w₂.reservations
  sockets : w₁.sockets = w₂.sockets
  links : w₁.links = w₂.links

/-- An address as a message denotes it is of the same family. -/
theorem isSome_to4_canonical (net : IPNet) :
  (to4 net.canonical.ip).isSome = (to4 net.ip).isSome
  := by
  cases h4 : to4 net.ip with
  | some x =>
      have hx : to4 x = some x := if_pos (length_of_to4 h4)
      rw [canonical_v4 h4]
      dsimp only [Subnet.ipNet, IPNet.subnet]
      rw [hx]
  | none =>
      cases h16 : to16 net.ip with
      | none => rw [IPNet.canonical, h4, h16, h4]
      | some x =>
          obtain ⟨-, ⟨hlen, -⟩ | rfl⟩ := to16_eq_some h16
          · rw [to4, if_pos hlen] at h4
            cases h4
          · rw [canonical_v6 h4 h16]
            dsimp only [Subnet.ipNet, IPNet.subnet]
            rw [h4]

theorem has_canonical (f : Family) (net : IPNet) :
  f.has net.canonical = f.has net
  := by
  have h := isSome_to4_canonical net
  cases f with
  | v4 => exact h
  | v6 =>
      unfold Family.has
      dsimp only
      rw [← Option.not_isSome, ← Option.not_isSome, h]

namespace Grout.Shown

variable {g₁ g₂ g₁' : Grout}

theorem insert? {i : InterfaceInfo} (h : g₁.Shown g₂) (hi : g₁.insert? i = some g₁') :
  ∃ g₂', g₂.insert? i = some g₂' ∧ g₁'.Shown g₂'
  := by
  obtain ⟨hfresh, hifaces, haddrs⟩ := insert?_eq_some.mp hi
  have hfresh₂ : g₂.Fresh i := by
    unfold Grout.Fresh at hfresh ⊢
    rwa [← h.ifaces]
  refine ⟨g₂.insert i hfresh₂, dif_pos hfresh₂, ?_, ?_⟩
  · rw [hifaces, h.ifaces]
    rfl
  · rw [haddrs]
    exact h.addrs

/-- What is removed is chosen by the id and the family, which are the same. -/
theorem filter_addrs {p : UInt16 × IPNet → Bool} (h : g₁.Shown g₂)
    (hp : ∀ y : UInt16 × IPNet, p (y.1, y.2.canonical) = p y) (x : UInt16 × IPNet) :
  x ∈ g₁.addrs.filter p ↔ ∃ y ∈ g₂.addrs.filter p, (y.1, y.2.canonical) = x
  := by
  simp only [List.mem_filter, h.addrs]
  constructor
  · rintro ⟨⟨y, hy, rfl⟩, hx⟩
    rw [hp] at hx
    exact ⟨y, ⟨hy, hx⟩, rfl⟩
  · rintro ⟨y, ⟨hy, hpy⟩, rfl⟩
    rw [hp]
    exact ⟨⟨y, hy, rfl⟩, hpy⟩

/-- An interface holds addresses in both tables or in none. -/
theorem unaddressed (h : g₁.Shown g₂) {id : UInt16} (hbare : g₁.Unaddressed id) :
  g₂.Unaddressed id
  := by
  intro y hy
  apply hbare (y.1, y.2.canonical)
  exact (h.addrs _).mpr ⟨y, hy, rfl⟩

theorem delete (h : g₁.Shown g₂) (id : UInt16) :
  (g₁.delete id).Shown (g₂.delete id)
  := by
  constructor
  · rw [delete_ifaces, delete_ifaces, h.ifaces]
  · intro x
    exact h.filter_addrs (fun _ => rfl) x

theorem flush (h : g₁.Shown g₂) (id : UInt16) (f : Family) :
  (g₁.flush id f.has).Shown (g₂.flush id f.has)
  := by
  constructor
  · exact h.ifaces
  · intro x
    apply h.filter_addrs
    intro y
    dsimp only
    rw [has_canonical]

theorem assign? {id : UInt16} {net : IPNet} (h : g₁.Shown g₂)
    (hassign : g₁.assign? id net.canonical = some g₁') :
  ∃ g₂', g₂.assign? id net = some g₂' ∧ g₁'.Shown g₂'
  := by
  have hmem : id ∈ g₂.ifaces.map (·.id) := by
    unfold Grout.assign? at hassign
    split at hassign
    case isTrue hmem =>
      rw [h.ifaces] at hmem
      exact hmem
    case isFalse => cases hassign
  obtain ⟨hifaces, haddrs⟩ := assign?_eq_some hassign
  refine ⟨_, dif_pos hmem, hifaces.trans h.ifaces, ?_⟩
  intro x
  rw [haddrs]
  simp only [List.mem_insert_iff, h.addrs]
  constructor
  · rintro (rfl | ⟨y, hy, rfl⟩)
    · exact ⟨(id, net), .inl rfl, rfl⟩
    · exact ⟨y, .inr hy, rfl⟩
  · rintro ⟨y, rfl | hy, rfl⟩
    · exact .inl rfl
    · exact .inr ⟨y, hy, rfl⟩

end Grout.Shown

/-! ### Requests of the plugin -/

/-- The message of the operation says what the operation asks for: the name fits into its field,
and devargs name the socket of a port. -/
def Op.WireSafe : Op → Prop
  | .interfaceAdd req =>
      IsIfaceName req.name ∧ (∀ b ∈ req.vhostUserPath, b ≠ 0 ∧ b ≠ 0x2c) ∧
        (req.vhostUserPath ≠ [] → req.type = InterfaceType.tap)
  | _ => True

theorem cString_eq_self {s : GoString} (h : 0 ∉ s) :
  cString s = s
  := by
  apply List.takeWhile_eq_self_iff.mpr
  intro b hb
  apply decide_eq_true
  rintro rfl
  exact h hb

section

variable {req : InterfaceAddRequest} {info : IfaceInfo}

theorem toInfo_iface (h : IsIfaceName req.name) (id : UInt16) :
  (req.iface info).toInfo id = req.info id
  := by
  have htake : req.name.take ifNameSize = req.name :=
    List.take_of_length_le (h.1.trans (by decide))
  unfold InterfaceAddRequest.iface Iface.toInfo InterfaceAddRequest.info
  dsimp only
  rw [htake, cString_eq_self h.2]

/-- The id of a device has no comma. -/
theorem comma_not_mem_vdevID (name : GoString) :
  0x2c ∉ vdevID name
  := by
  intro h
  have hcond := (List.mem_filter.mp h).2
  revert hcond
  decide

theorem socketOf_tapDevargs (name : GoString) :
  socketOf (tapDevargs name) = none
  := by
  apply if_neg
  rw [hasPrefix_iff]
  intro h
  have htake := List.prefix_iff_eq_take.mp h
  revert htake
  unfold tapDevargs
  rw [List.append_assoc, List.append_assoc]
  simp only [show lit "net_vhost_" = [110, 101, 116, 95, 118, 104, 111, 115, 116, 95] by decide,
    show lit "net_tap_" = [110, 101, 116, 95, 116, 97, 112, 95] by decide]
  simp

/-- The socket of a vhost-user port is read from its devargs. -/
theorem socketOf_vhostDevargs (name : GoString) {path : GoString} (h : 0x2c ∉ path) :
  socketOf (vhostDevargs name path) = some path
  := by
  have hpre : hasPrefix (vhostDevargs name path) (lit "net_vhost_") = true := by
    rw [hasPrefix_iff, vhostDevargs, List.append_assoc, List.append_assoc]
    exact List.prefix_append _ _
  have hdevice : ∀ b ∈ lit "net_vhost_" ++ vdevID name, decide (b ≠ 0x2c) = true := by
    intro b hb
    apply decide_eq_true
    rintro rfl
    rcases List.mem_append.mp hb with hb | hb
    · revert hb
      decide
    · exact comma_not_mem_vdevID name hb
  have hdrop : (vhostDevargs name path).dropWhile (· ≠ 0x2c) = lit ",iface=" ++ path := by
    rw [vhostDevargs, List.append_assoc, List.dropWhile_append_of_pos hdevice]
    rfl
  have htake : path.takeWhile (· ≠ 0x2c) = path := by
    apply List.takeWhile_eq_self_iff.mpr
    intro b hb
    apply decide_eq_true
    rintro rfl
    exact h hb
  rw [socketOf, if_pos hpre, hdrop, List.drop_left, htake]

/-- The devargs of a request name its socket, if it has one. -/
theorem sockets_iface (w : World) (hsafe : Op.WireSafe (.interfaceAdd req))
    (hinfo : req.ifaceInfo = .ok info) :
  (req.iface info).socket.elim w.sockets w.sockets.insert = w.socketsWith req
  := by
  obtain ⟨hname, hpath, htap⟩ := hsafe
  have hcomma : 0x2c ∉ req.vhostUserPath := fun h => (hpath _ h).2 rfl
  have hnul : 0 ∉ devargs req := zero_not_mem_devargs hname.2 fun h => (hpath _ h).1 rfl
  have hnone : req.type ≠ InterfaceType.tap → w.sockets = w.socketsWith req := by
    intro hne
    by_cases hvhost : req.vhostUserPath = []
    · exact (if_pos hvhost).symm
    · exact absurd (htap hvhost) hne
  unfold InterfaceAddRequest.ifaceInfo at hinfo
  split at hinfo
  case isTrue hbridge =>
    cases hinfo
    apply hnone
    rw [hbridge]
    decide
  case isFalse =>
    split at hinfo
    case isTrue hvxlan =>
      split at hinfo
      case h_1 => cases hinfo
      case h_2 =>
        split at hinfo
        case h_1 => cases hinfo
        case h_2 =>
          cases hinfo
          apply hnone
          rw [hvxlan]
          decide
    case isFalse =>
      split at hinfo
      case isTrue => cases hinfo
      case isFalse =>
        cases hinfo
        dsimp only [Iface.socket, InterfaceAddRequest.iface]
        rw [cString_eq_self hnul]
        unfold devargs World.socketsWith
        by_cases hvhost : req.vhostUserPath = []
        · rw [if_neg (not_not.mpr hvhost), if_pos hvhost, socketOf_tapDevargs]
          rfl
        · rw [if_pos hvhost, if_neg hvhost, socketOf_vhostDevargs _ hcomma]
          rfl

end

/-! ### The operations of the plugin -/

/-- What an operation means in terms of messages, if it is a grout operation. -/
def Op.meaning : (o : Op) → Option (MessageProg o.Res)
  | .interfaceList req => some (ClientCall.interfaceList req).meaning
  | .interfaceAdd req => some (askInterfaceAdd req)
  | .interfaceDel id => some (ClientCall.interfaceDel id).meaning
  | .addressAdd req => some (ClientCall.addressAdd req).meaning
  | .ip4AddrFlush id => some (tell (.addrFlush .v4 id) fun err => err)
  | .ip6AddrFlush id => some (tell (.addrFlush .v6 id) fun err => err)
  | _ => none

section

variable {PM : Policy Message} {P : Policy Op} {m : Message} {o : Op} {w₁ w₁' w₂ : World}

theorem run_ask {wrap : GoError → GoError} {r : Except GoError m.Val}
    (h : Run (MessageEnv PM) (ask m wrap) w₁ r w₁') :
  MessageEnv PM w₁ m r w₁'
  := by
  obtain ⟨r₀, w, hperform, hrest⟩ := Run.bind_iff.mp h
  cases hperform with
  | call ht hret =>
      cases hret
      cases r₀ with
      | error e =>
          cases hrest
          exact ht
      | ok v =>
          cases hrest
          exact ht

theorem run_tell {wrap : GoError → GoError} {r : Except GoError Unit}
    (h : Run (MessageEnv PM) (tell m wrap) w₁ r w₁') :
  ∃ r' : m.Res, MessageEnv PM w₁ m r' w₁' ∧ r'.map (fun _ => ()) = r
  := by
  obtain ⟨r₀, w, hperform, hrest⟩ := Run.bind_iff.mp h
  cases hperform with
  | call ht hret =>
      cases hret
      cases r₀ with
      | error e =>
          cases hrest
          exact ⟨.error (wrap e), ht, rfl⟩
      | ok v =>
          cases hrest
          exact ⟨.ok v, ht, rfl⟩

/-- Faults of messages are faults of operations. -/
structure Faults (PM : Policy Message) (P : Policy Op) : Prop where
  sent : ∀ m o f, o.isGrout = true → PM m f = true → P o f = true
  refused : ∀ o, P o .fail = true

/-- If the effect of a message is that of an operation, then the message does what the operation
may do. -/
theorem env_of_messageEnv (hP : Faults PM P) (ho : o.isGrout = true) (out : m.Val → o.Val)
    (hs : Shown w₁ w₂)
    (heff : ∀ v, Message.Effect w₁ m v w₁' →
      ∃ w₂', World.Effect w₂ o (out v) w₂' ∧ Shown w₁' w₂')
    {r : m.Res} {r' : o.Res} (hr : r.map out = r') (h : MessageEnv PM w₁ m r w₁') :
  ∃ w₂', Env P w₂ o r' w₂' ∧ Shown w₁' w₂'
  := by
  subst hr
  cases r with
  | ok v =>
      obtain ⟨w₂', hv, hs'⟩ := heff v h.2
      exact ⟨w₂', ⟨hP.sent m o .none ho h.1, hv⟩, hs'⟩
  | error e =>
      rcases h with ⟨hfail, rfl⟩ | ⟨hlost, v, hv⟩
      · exact ⟨w₂, .inl ⟨hP.sent m o .fail ho hfail, rfl⟩, hs⟩
      · obtain ⟨w₂', hv', hs'⟩ := heff v hv
        exact ⟨w₂', .inr ⟨hP.sent m o .lost ho hlost, _, hv'⟩, hs'⟩

theorem map_id_except {α : Type} (r : Except GoError α) :
  r.map (fun v => v) = r
  := by
  cases r <;> rfl

/-- Listing interfaces. -/
theorem run_interfaceList (hP : Faults PM P) {req : InterfaceListRequest}
    {r : Except GoError (List InterfaceInfo)} (hs : Shown w₁ w₂)
    (h : Run (MessageEnv PM) (ClientCall.interfaceList req).meaning w₁ r w₁') :
  ∃ w₂', Env P w₂ (.interfaceList req) r w₂' ∧ Shown w₁' w₂'
  := by
  apply env_of_messageEnv (m := .ifaceList req.type) (o := .interfaceList req) hP rfl
    (fun v => v) hs _ (map_id_except r) (run_ask h)
  rintro ifaces ⟨hperm, rfl⟩
  refine ⟨w₂, ⟨?_, rfl⟩, hs⟩
  unfold World.listed at hperm ⊢
  rw [hs.grout.ifaces] at hperm
  exact hperm

/-- Adding an interface. -/
theorem run_interfaceAdd (hP : Faults PM P) {req : InterfaceAddRequest}
    {r : Except GoError UInt16} (hsafe : Op.WireSafe (.interfaceAdd req)) (hs : Shown w₁ w₂)
    (h : Run (MessageEnv PM) (askInterfaceAdd req) w₁ r w₁') :
  ∃ w₂', Env P w₂ (.interfaceAdd req) r w₂' ∧ Shown w₁' w₂'
  := by
  unfold askInterfaceAdd at h
  cases hinfo : req.ifaceInfo with
  | error err =>
      rw [hinfo] at h
      cases h
      exact ⟨w₂, .inl ⟨hP.refused _, rfl⟩, hs⟩
  | ok info =>
      rw [hinfo] at h
      apply env_of_messageEnv (m := .ifaceAdd (req.iface info)) (o := .interfaceAdd req) hP rfl
        (fun v => v) hs _ (map_id_except r) (run_ask h)
      rintro id ⟨grout, links, hinsert, rfl⟩
      have htoInfo : (req.iface info).toInfo id = req.info id := toInfo_iface hsafe.1 id
      rw [htoInfo] at hinsert
      obtain ⟨grout₂, hinsert₂, hgrout⟩ := hs.grout.insert? hinsert
      refine ⟨{ w₂ with grout := grout₂, links, sockets := w₂.socketsWith req },
        ⟨grout₂, links, hinsert₂, rfl⟩, hgrout, hs.reservations, ?_, rfl⟩
      dsimp only
      rw [sockets_iface _ hsafe hinfo]
      unfold World.socketsWith
      rw [hs.sockets]

/-- Deleting an interface. -/
theorem run_interfaceDel (hP : Faults PM P) {id : UInt16} {r : Except GoError Unit}
    (hs : Shown w₁ w₂) (h : Run (MessageEnv PM) (ClientCall.interfaceDel id).meaning w₁ r w₁') :
  ∃ w₂', Env P w₂ (.interfaceDel id) r w₂' ∧ Shown w₁' w₂'
  := by
  obtain ⟨r', h', rfl⟩ := run_tell h
  apply env_of_messageEnv (o := .interfaceDel id) hP rfl (fun _ => ()) hs _ rfl h'
  rintro _ ⟨hbare, links, rfl⟩
  exact ⟨{ w₂ with grout := w₂.grout.delete id, links }, ⟨hs.grout.unaddressed hbare, links, rfl⟩,
    hs.grout.delete id, hs.reservations, hs.sockets, rfl⟩

theorem Shown.flush (hs : Shown w₁ w₂) (id : UInt16) (f : Family) :
  Shown { w₁ with grout := w₁.grout.flush id f.has } { w₂ with grout := w₂.grout.flush id f.has }
  := ⟨hs.grout.flush id f, hs.reservations, hs.sockets, hs.links⟩

/-- Flushing IPv4 addresses. -/
theorem run_ip4AddrFlush (hP : Faults PM P) {id : UInt16} {r : Except GoError Unit}
    (hs : Shown w₁ w₂)
    (h : Run (MessageEnv PM) (tell (.addrFlush .v4 id) fun err => err) w₁ r w₁') :
  ∃ w₂', Env P w₂ (.ip4AddrFlush id) r w₂' ∧ Shown w₁' w₂'
  := by
  obtain ⟨r', h', rfl⟩ := run_tell h
  apply env_of_messageEnv (o := .ip4AddrFlush id) hP rfl (fun _ => ()) hs _ rfl h'
  rintro _ rfl
  exact ⟨_, rfl, hs.flush id .v4⟩

/-- Flushing IPv6 addresses. -/
theorem run_ip6AddrFlush (hP : Faults PM P) {id : UInt16} {r : Except GoError Unit}
    (hs : Shown w₁ w₂)
    (h : Run (MessageEnv PM) (tell (.addrFlush .v6 id) fun err => err) w₁ r w₁') :
  ∃ w₂', Env P w₂ (.ip6AddrFlush id) r w₂' ∧ Shown w₁' w₂'
  := by
  obtain ⟨r', h', rfl⟩ := run_tell h
  apply env_of_messageEnv (o := .ip6AddrFlush id) hP rfl (fun _ => ()) hs _ rfl h'
  rintro _ rfl
  exact ⟨_, rfl, hs.flush id .v6⟩

/-- Adding an address, in the notation of its message. -/
theorem run_addrAdd (hP : Faults PM P) {req : AddressAddRequest} {f : Family} {x : IP}
    {wrap : GoError → GoError} {r : Except GoError Unit} (hs : Shown w₁ w₂)
    (hx : req.address.canonical = (req.address.subnet x).ipNet f)
    (h : Run (MessageEnv PM)
      (tell (.addrAdd f req.ifaceID (req.address.subnet x) req.existOK) wrap) w₁ r w₁') :
  ∃ w₂', Env P w₂ (.addressAdd req) r w₂' ∧ Shown w₁' w₂'
  := by
  obtain ⟨r', h', rfl⟩ := run_tell h
  apply env_of_messageEnv (o := .addressAdd req) hP rfl (fun _ => ()) hs _ rfl h'
  rintro _ ⟨-, hexist, grout, hassign, rfl⟩
  rw [← hx] at hexist hassign
  obtain ⟨grout₂, hassign₂, hgrout⟩ := hs.grout.assign? hassign
  refine ⟨{ w₂ with grout := grout₂ }, ⟨?_, grout₂, hassign₂, rfl⟩, hgrout, hs.reservations,
    hs.sockets, hs.links⟩
  apply hexist.imp_right
  intro hnew hold
  exact hnew ((hs.grout.addrs _).mpr ⟨_, hold, rfl⟩)

/-- Adding an address. -/
theorem run_addressAdd (hP : Faults PM P) {req : AddressAddRequest} {r : Except GoError Unit}
    (hs : Shown w₁ w₂) (h : Run (MessageEnv PM) (ClientCall.addressAdd req).meaning w₁ r w₁') :
  ∃ w₂', Env P w₂ (.addressAdd req) r w₂' ∧ Shown w₁' w₂'
  := by
  unfold ClientCall.meaning tellAddr at h
  dsimp only at h
  cases h4 : to4 req.address.ip with
  | some x =>
      rw [h4] at h
      exact run_addrAdd hP hs (canonical_v4 h4) h
  | none =>
      rw [h4] at h
      dsimp only at h
      cases h16 : to16 req.address.ip with
      | some x =>
          rw [h16] at h
          exact run_addrAdd hP hs (canonical_v6 h4 h16) h
      | none =>
          rw [h16] at h
          cases h
          exact ⟨w₂, .inl ⟨hP.refused _, rfl⟩, hs⟩

/-- What an operation means is what it may do. -/
theorem run_meaning (hP : Faults PM P) {q : MessageProg o.Res} {r : o.Res}
    (hq : o.meaning = some q) (hsafe : o.WireSafe) (hs : Shown w₁ w₂)
    (h : Run (MessageEnv PM) q w₁ r w₁') :
  ∃ w₂', Env P w₂ o r w₂' ∧ Shown w₁' w₂'
  := by
  cases o with
  | interfaceList req =>
      cases hq
      exact run_interfaceList hP hs h
  | interfaceAdd req =>
      cases hq
      exact run_interfaceAdd hP hsafe hs h
  | interfaceDel id =>
      cases hq
      exact run_interfaceDel hP hs h
  | addressAdd req =>
      cases hq
      exact run_addressAdd hP hs h
  | ip4AddrFlush id =>
      cases hq
      exact run_ip4AddrFlush hP hs h
  | ip6AddrFlush id =>
      cases hq
      exact run_ip6AddrFlush hP hs h
  | _ => cases hq

/-- The other operations neither read nor change the tables of grout. -/
theorem World.Effect.with_grout {v : o.Val} (ho : o.isGrout = false)
    (h : World.Effect w₁ o v w₁') (g : Grout) :
  World.Effect { w₁ with grout := g } o v { w₁' with grout := g }
  := by
  cases o with
  | interfaceList _ | interfaceAdd _ | interfaceDel _ | addressAdd _ | ip4AddrFlush _
  | ip6AddrFlush _ => cases ho
  | ipamAdd _ _ | ipamDel _ _ | ipamGC _ _ | mkdirAll _ | getNS _ | nsDo _ =>
      cases h
      rfl
  | remove _ | stat _ | linkByName _ _ | addrList _ _ =>
      obtain ⟨hv, rfl⟩ := h
      exact ⟨hv, rfl⟩
  | linkSetNsFd _ _ | linkSetDown _ _ | linkSetName _ _ _ | linkSetMTU _ _ _
  | linkSetHardwareAddr _ _ _ | configureIface _ _ _ =>
      obtain ⟨links, rfl⟩ := h
      exact ⟨links, rfl⟩

theorem World.Effect.grout_of_other {v : o.Val} (ho : o.isGrout = false)
    (h : World.Effect w₁ o v w₁') :
  w₁'.grout = w₁.grout
  := by
  cases o with
  | interfaceList _ | interfaceAdd _ | interfaceDel _ | addressAdd _ | ip4AddrFlush _
  | ip6AddrFlush _ => cases ho
  | ipamAdd _ _ | ipamDel _ _ | ipamGC _ _ | mkdirAll _ | getNS _ | nsDo _ =>
      cases h
      rfl
  | remove _ | stat _ | linkByName _ _ | addrList _ _ =>
      obtain ⟨hv, rfl⟩ := h
      rfl
  | linkSetNsFd _ _ | linkSetDown _ _ | linkSetName _ _ _ | linkSetMTU _ _ _
  | linkSetHardwareAddr _ _ _ | configureIface _ _ _ =>
      obtain ⟨links, rfl⟩ := h
      rfl

/-- The other operations do not depend on how addresses are written. -/
theorem Shown.other (hs : Shown w₁ w₂) (ho : o.isGrout = false) {r : o.Res}
    (h : Env P w₁ o r w₁') :
  ∃ w₂', Env P w₂ o r w₂' ∧ Shown w₁' w₂'
  := by
  have heq : w₂ = { w₁ with grout := w₂.grout } := by
    rw [hs.reservations, hs.sockets, hs.links]
  have heff : ∀ v, World.Effect w₁ o v w₁' →
      World.Effect w₂ o v { w₁' with grout := w₂.grout } ∧
        Shown w₁' { w₁' with grout := w₂.grout } := by
    intro v hv
    refine ⟨?_, ?_, rfl, rfl, rfl⟩
    · rw [heq]
      exact hv.with_grout ho w₂.grout
    · rw [hv.grout_of_other ho]
      exact hs.grout
  cases r with
  | ok v => exact ⟨_, ⟨h.1, (heff v h.2).1⟩, (heff v h.2).2⟩
  | error e =>
      rcases h with ⟨hfail, rfl⟩ | ⟨hlost, v, hv⟩
      · exact ⟨w₂, .inl ⟨hfail, rfl⟩, hs⟩
      · exact ⟨_, .inr ⟨hlost, v, (heff v hv).1⟩, (heff v hv).2⟩

end

end GroutCni
