import GroutCni.Cni.Netns
import GroutCni.Node.World

/-!
# The links of the kernel

`World.Effect` leaves open what happens to links.  What netlink, `ipam.ConfigureIface` and the TAPs
of grout do to them is a parameter `eff : LinkEffect`, and `LinkLaws eff` is what is assumed of it.
`KernelNode` is a node with its links.  Seen without the details of its links a kernel node is a
node (`KernelNode.Env.view`).
-/

namespace GroutCni

open Effect

/-- A link with its MTU and the id of the grout interface that it belongs to, if any. -/
structure KernelLink extends LinkState where
  mtu : Int
  port : Option UInt16

/-- `HardwareAddr.String`: the bytes in hexadecimal, separated by colons. -/
def hardwareAddrString (mac : List UInt8) : GoString :=
  (lit ":").intercalate (mac.map fun b => [hexDigit (b.toNat / 16), hexDigit (b.toNat % 16)])

/-- The link is that of a name in a network namespace. -/
abbrev KernelLink.At (l : KernelLink) (netns name : GoString) : Prop :=
  l.netns = netns ∧ l.name = name

/-- The links of a kernel. -/
abbrev Kernel : Type := List KernelLink

namespace Kernel

/-- The link of a name in a network namespace. -/
def find (k : Kernel) (netns name : GoString) : Option KernelLink :=
  List.find? (fun l => l.At netns name) k

/-- There is a link of that name in the network namespace, and it satisfies `φ`. -/
def Has (k : Kernel) (netns name : GoString) (φ : KernelLink → Prop) : Prop :=
  ∃ l, k.find netns name = some l ∧ φ l

end Kernel

/-! ### What is assumed of links -/

/-- What operations that succeed do to the links of a kernel. -/
abbrev LinkEffect : Type := (o : Op) → Kernel → o.Val → Kernel → Prop

/-- The operations that are there to change links. -/
def Op.changesLinks : Op → Bool
  | .interfaceAdd _ | .interfaceDel _ | .linkSetNsFd _ _ | .linkSetDown _ _ | .linkSetName _ _ _
  | .linkSetMTU _ _ _ | .linkSetHardwareAddr _ _ _ | .configureIface _ _ _ => true
  | _ => false

/-- The request makes a link: a vhost-user port has none. -/
def InterfaceAddRequest.makesLink (req : InterfaceAddRequest) : Bool :=
  req.type = InterfaceType.tap ∧ req.vhostUserPath = []

/-- What is assumed of links: a TAP has one, which is not changed by operations on others as long
as its port is not deleted, and operations on a link do to it what they are there for. -/
structure LinkLaws (eff : LinkEffect) : Prop where
  /-- Operations that are not there to change links leave them as they are. -/
  looks : ∀ {o k v k'}, o.changesLinks = false → (eff o k v k' ↔ k' = k)
  /-- A link stays as it is under operations that are there for other links. -/
  spares : ∀ {o k v k' netns name l}, eff o k v k' → o.target? ≠ some (netns, name) →
    k.find netns name = some l → (∀ id, o = .interfaceDel id → l.port ≠ some id) →
    k'.find netns name = some l
  /-- The link of a new TAP is in the network namespace of the host. -/
  interfaceAdd : ∀ {req : InterfaceAddRequest} {k id k'}, req.makesLink = true →
    eff (.interfaceAdd req) k id k' → k'.Has [] req.name fun l => l.port = some id
  /-- `netlink.LinkSetNsFd` moves a link into a network namespace. -/
  linkSetNsFd : ∀ {name netns k v k' l}, eff (.linkSetNsFd name netns) k v k' →
    k.find [] name = some l → k'.Has netns name fun l' => l'.port = l.port
  /-- `netlink.LinkSetDown` leaves a link where it is. -/
  linkSetDown : ∀ {netns name k v k' l}, eff (.linkSetDown netns name) k v k' →
    k.find netns name = some l → k'.Has netns name fun l' => l'.port = l.port
  /-- `netlink.LinkSetName` renames a link. -/
  linkSetName : ∀ {netns name newName k v k' l}, eff (.linkSetName netns name newName) k v k' →
    k.find netns name = some l → k'.Has netns newName fun l' => l'.port = l.port
  /-- `netlink.LinkSetMTU` sets the MTU of a link. -/
  linkSetMTU : ∀ {netns name mtu k v k' l}, eff (.linkSetMTU netns name mtu) k v k' →
    k.find netns name = some l →
    k'.Has netns name fun l' => l'.port = l.port ∧ l'.mtu = mtu
  /-- `netlink.LinkSetHardwareAddr` sets the hardware address of a link. -/
  linkSetHardwareAddr : ∀ {netns name mac k v k' l},
    eff (.linkSetHardwareAddr netns name mac) k v k' → k.find netns name = some l →
    k'.Has netns name fun l' =>
      l'.port = l.port ∧ l'.mtu = l.mtu ∧ l'.link.mac = hardwareAddrString mac
  /-- `ipam.ConfigureIface` brings a link up with the addresses that point at an interface. -/
  configureIface : ∀ {netns name result k v k' l}, eff (.configureIface netns name result) k v k' →
    k.find netns name = some l →
    k'.Has netns name fun l' =>
      l'.port = l.port ∧ l'.mtu = l.mtu ∧ l'.link.mac = l.link.mac ∧ l'.link.up = true ∧
        ∀ ipc, some ipc ∈ result.ips → ipc.interface ≠ none → some ipc.address ∈ l'.addrs

/-! ### Nodes with their links -/

/-- A node and the links of its kernel. -/
structure KernelNode where
  world : World
  kernel : Kernel

namespace KernelNode

variable {eff : LinkEffect}

/-- The node as the plugin sees it. -/
def view (n : KernelNode) : World :=
  { n.world with links := n.kernel.map (·.toLinkState) }

/-- What an operation that succeeds answers, and the node that it leaves. -/
def Effect (eff : LinkEffect) : Behaviour Op.Val KernelNode := fun n o v n' =>
  World.Effect n.view o v n'.view ∧ eff o n.kernel v n'.kernel

/-- The behaviour of a kernel node under the faults of `P`. -/
abbrev Env (eff : LinkEffect) (P : Policy Op) : Behaviour Op.Res KernelNode :=
  Faulty (KernelNode.Effect eff) P

/-- A kernel node is a node. -/
theorem Env.view {P : Policy Op} {n n' : KernelNode} {o : Op} {r : o.Res}
    (h : KernelNode.Env eff P n o r n') :
  GroutCni.Env P n.view o r n'.view
  := by
  cases r with
  | ok v => exact ⟨h.1, h.2.1⟩
  | error e =>
      rcases h with ⟨hfail, rfl⟩ | ⟨hlost, v, hv⟩
      · exact .inl ⟨hfail, rfl⟩
      · exact .inr ⟨hlost, v, hv.1⟩

/-- The links are part of what the plugin sees. -/
theorem effect_view {n : KernelNode} {o : Op} {v : o.Val} {w : World} {k : Kernel}
    (hlooks : o.changesLinks = false → k = n.kernel) (h : World.Effect n.view o v w) :
  World.Effect n.view o v (view ⟨w, k⟩)
  := by
  cases o with
  | interfaceAdd req =>
      obtain ⟨grout, links, hg, rfl⟩ := h
      exact ⟨grout, _, hg, rfl⟩
  | interfaceDel id =>
      obtain ⟨hbare, links, rfl⟩ := h
      exact ⟨hbare, _, rfl⟩
  | linkSetNsFd | linkSetDown | linkSetName | linkSetMTU | linkSetHardwareAddr
  | configureIface =>
      obtain ⟨links, rfl⟩ := h
      exact ⟨_, rfl⟩
  | addressAdd req =>
      obtain ⟨hnew, grout, hg, rfl⟩ := h
      obtain rfl := hlooks rfl
      exact ⟨hnew, grout, hg, rfl⟩
  | interfaceList | remove | stat | linkByName | addrList =>
      obtain ⟨hv, rfl⟩ := h
      obtain rfl := hlooks rfl
      exact ⟨hv, rfl⟩
  | ipamAdd | ipamDel | ipamGC | ip4AddrFlush | ip6AddrFlush | mkdirAll | getNS | nsDo =>
      cases h
      obtain rfl := hlooks rfl
      rfl

/-- A link that an operation is not there to change stays as it is as long as its port is in the
table. -/
theorem Effect.find_eq {n n' : KernelNode} {o : Op} {v : o.Val} {l : KernelLink}
    {netns name : GoString} (heff : LinkLaws eff) (h : KernelNode.Effect eff n o v n')
    (ho : o.target? ≠ some (netns, name)) (hl : n.kernel.find netns name = some l)
    (hport : ∃ i ∈ n'.view.grout.ifaces, l.port = some i.id) :
  n'.kernel.find netns name = some l
  := by
  apply heff.spares h.2 ho hl
  rintro id rfl hid
  obtain ⟨-, links, hw⟩ := h.1
  obtain ⟨i, hi, hli⟩ := hport
  rw [hw] at hi
  exact (Grout.mem_delete.mp hi).2 (Option.some.inj (hli.symm.trans hid))

end KernelNode

end GroutCni
