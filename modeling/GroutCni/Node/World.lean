import GroutCni.Cni.Ops
import GroutCni.Node.Grout

/-!
# The node

`World` is what the plugin works on: the tables of grout, the reservations of the IPAM
plugin, the vhost-user socket files, and the links of the node.  `World.Effect` says what an
operation that succeeds answers and does.  Grout keeps names unique, hands out fresh ids,
lists its whole table in any order, and deletes exactly the id it is given; it refuses to
delete an interface that still holds addresses.

`Env P` is the behaviour of the node when the policy `P` says which calls may fail or be
lost.
-/

namespace GroutCni

open Effect

/-- An address reserved by the IPAM plugin for an attachment to a network. -/
structure Reservation where
  network : GoString
  attachment : Attachment
  deriving DecidableEq

/-- A link in a network namespace, with its addresses. -/
structure LinkState where
  netns : GoString
  name : GoString
  link : Link
  addrs : List (Option IPNet)

/-- The state of the node. -/
structure World where
  grout : Grout
  reservations : List Reservation := []
  sockets : List GoString := []
  links : List LinkState := []

/-- The interface that a request makes. -/
def InterfaceAddRequest.info (req : InterfaceAddRequest) (id : UInt16) : InterfaceInfo where
  id := id
  type := req.type
  name := req.name
  domain := req.domainID

/-- The reservation that the IPAM plugin keeps for a call. -/
def reservationOf (conf : PluginConf) (args : CmdArgs) : Reservation :=
  ⟨conf.name, args.attachment⟩

namespace World

/-- The interfaces a list request asks for; the type zero asks for all. -/
def listed (w : World) (req : InterfaceListRequest) : List InterfaceInfo :=
  if req.type = InterfaceType.undef then w.grout.ifaces
  else w.grout.ifaces.filter fun i => i.type = req.type

/-- The socket files once grout has made the port of a request: a vhost-user port has one. -/
def socketsWith (w : World) (req : InterfaceAddRequest) : List GoString :=
  if req.vhostUserPath = [] then w.sockets else w.sockets.insert req.vhostUserPath

/-- The reservations that the IPAM plugin keeps when it collects garbage. -/
def keptReservations (w : World) (conf : PluginConf) : List Reservation :=
  w.reservations.filter fun r => r.network ≠ conf.name ∨ r.attachment ∈ conf.validAttachments

/-- The link of a name in a network namespace. -/
def findLink (w : World) (netns name : GoString) : Option LinkState :=
  w.links.find? fun l => l.netns = netns ∧ l.name = name

/-- What an operation that succeeds answers, and the state it leaves.  Grout makes and
removes links with its ports, and netlink changes them; how is left open. -/
def Effect : Behaviour Op.Val World
  | w, .ipamAdd conf args, _, w' =>
      w' = { w with reservations := w.reservations.insert (reservationOf conf args) }
  | w, .ipamDel conf args, _, w' =>
      w' = { w with reservations := w.reservations.filter (· ≠ reservationOf conf args) }
  | w, .ipamGC conf _, _, w' => w' = { w with reservations := w.keptReservations conf }
  | w, .interfaceList req, ifaces, w' => ifaces.Perm (w.listed req) ∧ w' = w
  | w, .interfaceAdd req, id, w' =>
      ∃ grout links, w.grout.insert? (req.info id) = some grout ∧
        w' = { w with grout, links, sockets := w.socketsWith req }
  | w, .interfaceDel id, _, w' =>
      w.grout.Unaddressed id ∧ ∃ links, w' = { w with grout := w.grout.delete id, links }
  | w, .addressAdd req, _, w' =>
      (req.existOK = true ∨ (req.ifaceID, req.address) ∉ w.grout.addrs) ∧
        ∃ grout, w.grout.assign? req.ifaceID req.address = some grout ∧ w' = { w with grout }
  | w, .ip4AddrFlush id, _, w' =>
      w' = { w with grout := w.grout.flush id fun a => (to4 a.ip).isSome }
  | w, .ip6AddrFlush id, _, w' =>
      w' = { w with grout := w.grout.flush id fun a => (to4 a.ip).isNone }
  | w, .mkdirAll _, _, w' => w' = w
  | w, .remove path, existed, w' =>
      existed = decide (path ∈ w.sockets) ∧
        w' = { w with sockets := w.sockets.filter (· ≠ path) }
  | w, .stat path, existed, w' => existed = decide (path ∈ w.sockets) ∧ w' = w
  | w, .getNS _, _, w' => w' = w
  | w, .nsDo _, _, w' => w' = w
  | w, .linkByName netns name, link, w' =>
      (∃ l, w.findLink netns name = some l ∧ l.link = link) ∧ w' = w
  | w, .addrList netns name, addrs, w' =>
      (∃ l, w.findLink netns name = some l ∧ l.addrs = addrs) ∧ w' = w
  | w, .linkSetNsFd _ _, _, w' => ∃ links, w' = { w with links }
  | w, .linkSetDown _ _, _, w' => ∃ links, w' = { w with links }
  | w, .linkSetName _ _ _, _, w' => ∃ links, w' = { w with links }
  | w, .linkSetMTU _ _ _, _, w' => ∃ links, w' = { w with links }
  | w, .linkSetHardwareAddr _ _ _, _, w' => ∃ links, w' = { w with links }
  | w, .configureIface _ _ _, _, w' => ∃ links, w' = { w with links }

/-- A node on which nothing has happened yet. -/
def initial : World where
  grout := Grout.empty

/-- Grout restarts: its tables are lost, files and reservations stay. -/
def restart (w : World) : World :=
  { w with grout := Grout.empty }

end World

/-- The behaviour of the node under the faults of `P`. -/
abbrev Env (P : Policy Op) : Behaviour Op.Res World := Faulty World.Effect P

/-! ### One operation -/

section

variable {P : Policy Op} {C : World → Prop} {o : Op} {w w' : World}

/-- What one operation achieves: `Q` must hold after it succeeds, after it fails, and after
it is lost. -/
theorem wpc_perform {Q : Except GoError o.Val → World → Prop} (hC : C w)
    (hok : ∀ v w', World.Effect w o v w' → C w' ∧ Q (.ok v) w')
    (hfail : P o .fail = true → ∀ e, Q (.error e) w)
    (hlost : P o .lost = true → ∀ e v w', World.Effect w o v w' → Q (.error e) w') :
  wpc (Env P) C (perform o) Q w
  := by
  refine ⟨hC, ?_⟩
  rintro (e | v) w' h
  · rcases h with ⟨hf, rfl⟩ | ⟨hl, v, hv⟩
    · exact ⟨hC, hfail hf e⟩
    · exact ⟨(hok v w' hv).1, hlost hl e v w' hv⟩
  · exact hok v w' h.2

/-- A list call answers the table in some order, or fails. -/
theorem wpc_interfaceList {Q : Except GoError (List InterfaceInfo) → World → Prop} (hC : C w)
    (hok : ∀ ifaces, ifaces.Perm w.grout.ifaces → Q (.ok ifaces) w) (herr : ∀ e, Q (.error e) w) :
  wpc (Env P) C (interfaceList {}) Q w
  := by
  apply wpc_perform (o := .interfaceList {}) hC
  · rintro ifaces _ ⟨hperm, rfl⟩
    exact ⟨hC, hok ifaces hperm⟩
  · intro _
    exact herr
  · rintro _ e ifaces _ ⟨-, rfl⟩
    apply herr

/-- An add call makes a new interface with a fresh id, or fails; if it is lost, it does
both. -/
theorem wpc_interfaceAdd {req : InterfaceAddRequest}
    {Q : Except GoError UInt16 → World → Prop} (hC : C w)
    (hok : ∀ id grout links, w.grout.insert? (req.info id) = some grout →
      C { w with grout, links, sockets := w.socketsWith req } ∧
      Q (.ok id) { w with grout, links, sockets := w.socketsWith req })
    (hfail : ∀ e, Q (.error e) w)
    (hlost : P (.interfaceAdd req) .lost = true → ∀ e id grout links,
      w.grout.insert? (req.info id) = some grout →
      Q (.error e) { w with grout, links, sockets := w.socketsWith req }) :
  wpc (Env P) C (interfaceAdd req) Q w
  := by
  apply wpc_perform (o := .interfaceAdd req) hC
  · rintro id _ ⟨grout, links, hg, rfl⟩
    apply hok id grout links hg
  · intro _
    exact hfail
  · rintro hl e id _ ⟨grout, links, hg, rfl⟩
    apply hlost hl e id grout links hg

/-- A delete call deletes exactly the id, or fails; if it is lost, it does both. -/
theorem wpc_interfaceDel {id : UInt16} {Q : Except GoError Unit → World → Prop} (hC : C w)
    (hok : ∀ links, C { w with grout := w.grout.delete id, links } ∧
      Q (.ok ()) { w with grout := w.grout.delete id, links })
    (hfail : P (.interfaceDel id) .fail = true → ∀ e, Q (.error e) w)
    (hlost : P (.interfaceDel id) .lost = true → ∀ e links,
      Q (.error e) { w with grout := w.grout.delete id, links }) :
  wpc (Env P) C (interfaceDel id) Q w
  := by
  apply wpc_perform (o := .interfaceDel id) hC
  · rintro _ _ ⟨-, links, rfl⟩
    apply hok links
  · exact hfail
  · rintro hl e _ _ ⟨-, links, rfl⟩
    apply hlost hl e links

/-- An address call assigns the address, or fails; if it is lost, it does both. -/
theorem wpc_addressAdd {id : UInt16} {addr : IPNet} {Q : Except GoError Unit → World → Prop}
    (hC : C w)
    (hok : ∀ grout, w.grout.assign? id addr = some grout →
      C { w with grout } ∧ Q (.ok ()) { w with grout })
    (hfail : ∀ e, Q (.error e) w)
    (hlost : P (.addressAdd ⟨id, addr, true⟩) .lost = true → ∀ e grout,
      w.grout.assign? id addr = some grout → Q (.error e) { w with grout }) :
  wpc (Env P) C (addressAdd ⟨id, addr, true⟩) Q w
  := by
  apply wpc_perform (o := .addressAdd ⟨id, addr, true⟩) hC
  · rintro _ _ ⟨-, grout, hg, rfl⟩
    apply hok grout hg
  · intro _
    exact hfail
  · rintro hl e _ _ ⟨-, grout, hg, rfl⟩
    apply hlost hl e grout hg

/-- Flushing removes some addresses of the id. -/
theorem wpc_addressFlush {id : UInt16} {Q : Except GoError Unit → World → Prop} (hC : C w)
    (hflush : ∀ r p, C { w with grout := w.grout.flush id p } ∧
      Q r { w with grout := w.grout.flush id p }) :
  wpc (Env P) C (addressFlush id) Q w
  := by
  have hnone : ∀ r, C w ∧ Q r w := fun r => by
    have h := hflush r fun _ => false
    rwa [Grout.flush_false] at h
  have hboth : ∀ r, C { w with grout := (w.grout.flush id _).flush id _ } ∧
      Q r { w with grout := (w.grout.flush id _).flush id _ } := fun r => by
    have h := hflush r fun a => (to4 a.ip).isSome || (to4 a.ip).isNone
    rwa [← Grout.flush_flush] at h
  unfold addressFlush
  rw [wpc_bind]
  apply wpc_perform (o := .ip4AddrFlush id) hC
  · rintro _ _ rfl
    refine ⟨(hflush (.ok ()) _).1, ?_⟩
    dsimp only
    rw [wpc_bind]
    apply wpc_perform (o := .ip6AddrFlush id) (hflush (.ok ()) _).1
    · rintro _ _ rfl
      exact ⟨(hboth (.ok ())).1, hboth _⟩
    · intro _ e
      exact hflush _ _
    · rintro _ e _ _ rfl
      exact hboth _
  · intro _ e
    exact hnone _
  · rintro _ e _ _ rfl
    exact hflush _ _

/-- Netlink operations change nothing but links. -/
theorem World.Effect.netlink {v : o.Val} (ho : o.IsNetlink) (h : World.Effect w o v w') :
  ∃ links, w' = { w with links }
  := by
  cases o <;> first | exact ho.elim | exact h | exact ⟨w.links, h⟩ | exact ⟨w.links, h.2⟩

/-- A property that does not depend on links holds throughout a program that performs
netlink operations only. -/
theorem wpc_netlink {α : Type} {p : Prog α} (hp : p.Uses Op.IsNetlink)
    (hC : ∀ w links, C w → C { w with links }) (hw : C w) :
  wpc (Env P) C p (fun _ => C) w
  := by
  apply hp.wpc _ hw
  intro w o r w' ho h hw
  rcases h.eq_or_eff with rfl | ⟨v, hv⟩
  · exact hw
  · obtain ⟨links, rfl⟩ := hv.netlink ho
    apply hC w links hw

end

end GroutCni
