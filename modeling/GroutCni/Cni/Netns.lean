import GroutCni.Cni.Config
import GroutCni.Cni.Ops

/-!
# The pod side of a TAP interface

`moveLinkToNamespace`, `configurePodInterface` and `verifyPodInterface` of
`pkg/cni/netns.go`.  They perform netlink operations only (`moveLinkToNamespace_uses` and
the like).
-/

namespace GroutCni

open Effect

/-- `moveLinkToNamespace`. -/
def moveLinkToNamespace (linkName netnsPath : GoString) : Prog (Except GoError Unit) := do
  match ← (perform (.linkByName [] linkName) : Prog (Except GoError Link)) with
  | .error err => return .error (.wrapf "finding link %q: %w" [.str linkName] err)
  | .ok _ =>
  match ← (perform (.getNS netnsPath) : Prog (Except GoError Unit)) with
  | .error err => return .error (.wrapf "opening netns %s: %w" [.str netnsPath] err)
  | .ok _ =>
  match ← (perform (.linkSetNsFd linkName netnsPath) : Prog (Except GoError Unit)) with
  | .error err =>
      return .error (.wrapf "moving link %q to netns %s: %w" [.str linkName, .str netnsPath] err)
  | .ok _ => return .ok ()

/-- The address of the first entry that is not nil and has one of the form `f` looks for. -/
def firstAddress (f : IP → Option IP) (ips : List (Option IPConfig)) : Option IP :=
  ips.findSome? fun ipc => ipc.bind fun ipc => f ipc.address.ip

/-- `podMACFromResult`: `02:00` and the bytes of the first IPv4 address or, if there is none,
the last four bytes of the first IPv6 address. -/
def podMACFromResult (result : Result) : Option (List UInt8) :=
  match firstAddress to4 result.ips with
  | some ip4 => some ([0x02, 0x00] ++ ip4)
  | none => (firstAddress to16 result.ips).map fun ip6 => [0x02, 0x00] ++ ip6.drop 12

/-- The result with the hardware address of its first interface filled in. -/
def Result.setMac (result : Result) (mac : GoString) : Result :=
  match result.interfaces with
  | [] => result
  | iface :: ifaces => { result with interfaces := { iface with mac } :: ifaces }

/-- The first part of `configurePodInterface`: give the link its name in the pod. -/
def renameLink (netnsPath hostIfName podIfName : GoString) : Prog (Except GoError Unit) := do
  if hostIfName = podIfName then return .ok ()
  else
  match ← (perform (.linkSetDown netnsPath hostIfName) : Prog (Except GoError Unit)) with
  | .error err => return .error (.wrapf "setting %q down for rename: %w" [.str hostIfName] err)
  | .ok _ =>
  match ← (perform (.linkSetName netnsPath hostIfName podIfName) :
      Prog (Except GoError Unit)) with
  | .error err =>
      return .error (.wrapf "renaming %q to %q: %w" [.str hostIfName, .str podIfName] err)
  | .ok _ =>
  match ← (perform (.linkByName netnsPath podIfName) : Prog (Except GoError Link)) with
  | .error err => return .error (.wrapf "re-finding renamed link %q: %w" [.str podIfName] err)
  | .ok _ => return .ok ()

/-- The second part of `configurePodInterface`: set the MTU, when there is one. -/
def setLinkMTU (netnsPath podIfName : GoString) (mtu : Int) : Prog (Except GoError Unit) := do
  if mtu > 0 then
    match ← (perform (.linkSetMTU netnsPath podIfName mtu) : Prog (Except GoError Unit)) with
    | .error err =>
        return .error (.wrapf "setting MTU %d on %q: %w" [.num mtu, .str podIfName] err)
    | .ok _ => return .ok ()
  else return .ok ()

/-- The third part of `configurePodInterface`: set the hardware address, when there is
one. -/
def setLinkMAC (netnsPath podIfName : GoString) (result : Result) :
    Prog (Except GoError Unit) := do
  match podMACFromResult result with
  | none => return .ok ()
  | some mac =>
  match ← (perform (.linkSetHardwareAddr netnsPath podIfName mac) :
      Prog (Except GoError Unit)) with
  | .error err => return .error (.wrapf "setting MAC on %q: %w" [.str podIfName] err)
  | .ok _ => return .ok ()

/-- `configurePodInterface`: configure the link inside the pod namespace and fill its
hardware address into the result. -/
def configurePodInterface (netnsPath hostIfName podIfName : GoString) (mtu : Int)
    (result : Result) : Prog (Except GoError Result) := do
  match ← (perform (.getNS netnsPath) : Prog (Except GoError Unit)) with
  | .error err => return .error (.wrapf "opening netns %s: %w" [.str netnsPath] err)
  | .ok _ =>
  match ← (perform (.nsDo netnsPath) : Prog (Except GoError Unit)) with
  | .error err => return .error err
  | .ok _ =>
  match ← (perform (.linkByName netnsPath hostIfName) : Prog (Except GoError Link)) with
  | .error err =>
      return .error (.wrapf "finding moved link %q in pod netns: %w" [.str hostIfName] err)
  | .ok _ =>
  match ← renameLink netnsPath hostIfName podIfName with
  | .error err => return .error err
  | .ok _ =>
  match ← setLinkMTU netnsPath podIfName mtu with
  | .error err => return .error err
  | .ok _ =>
  match ← setLinkMAC netnsPath podIfName result with
  | .error err => return .error err
  | .ok _ =>
  match ← (perform (.configureIface netnsPath podIfName result) :
      Prog (Except GoError Unit)) with
  | .error err => return .error (.wrapf "configuring pod interface %q: %w" [.str podIfName] err)
  | .ok _ =>
  match ← (perform (.linkByName netnsPath podIfName) : Prog (Except GoError Link)) with
  | .error _ => return .ok result
  | .ok l => return .ok (result.setMac l.mac)

/-- `IP.Equal`: addresses are equal also across their 4-byte and 16-byte forms. -/
def ipEqual (a b : IP) : Bool :=
  if a.length = b.length then a == b
  else if a.length = 4 ∧ b.length = 16 then b.take 12 == v4InV6Prefix && a == b.drop 12
  else if a.length = 16 ∧ b.length = 4 then a.take 12 == v4InV6Prefix && a.drop 12 == b
  else false

/-- `addrPresent`. -/
def addrPresent (addrs : List (Option IPNet)) (ip : IP) : Bool :=
  addrs.any fun a =>
    match a with
    | some n => ipEqual n.ip ip
    | none => false

/-- `verifyPodInterface`. -/
def verifyPodInterface (netnsPath podIfName : GoString) (expectedIPs : List IPNet) :
    Prog (Except GoError Unit) := do
  match ← (perform (.getNS netnsPath) : Prog (Except GoError Unit)) with
  | .error err => return .error (.wrapf "opening netns %s: %w" [.str netnsPath] err)
  | .ok _ =>
  match ← (perform (.nsDo netnsPath) : Prog (Except GoError Unit)) with
  | .error err => return .error err
  | .ok _ =>
  match ← (perform (.linkByName netnsPath podIfName) : Prog (Except GoError Link)) with
  | .error err =>
      return .error (.wrapf "pod interface %q not found in netns %s: %w"
        [.str podIfName, .str netnsPath] err)
  | .ok link =>
  if link.up = false then
    return .error (.errorf "pod interface %q is not administratively up" [.str podIfName])
  else if expectedIPs = [] then return .ok ()
  else
  match ← (perform (.addrList netnsPath podIfName) :
      Prog (Except GoError (List (Option IPNet)))) with
  | .error err => return .error (.wrapf "listing addresses on %q: %w" [.str podIfName] err)
  | .ok addrs =>
  match expectedIPs.find? fun want => !addrPresent addrs want.ip with
  | some want =>
      return .error (.errorf "pod interface %q missing expected address %s"
        [.str podIfName, .cidr want.ip want.mask])
  | none => return .ok ()

/-- `lockPathForSocket`. -/
def lockPathForSocket (socketPath : GoString) : GoString :=
  (if socketPath = [] then defaultSocketPath else socketPath) ++ lit ".lock"

/-- `fileExists`. -/
def fileExists (path : GoString) : Prog Bool := do
  match ← (perform (.stat path) : Prog (Except GoError Bool)) with
  | .error _ => return false
  | .ok found => return found

/-! ### The operations on links -/

theorem moveLinkToNamespace_uses (linkName netnsPath : GoString) :
  (moveLinkToNamespace linkName netnsPath).Uses Op.IsNetlink
  := by
  apply uses_perform_bind (by trivial) _ (fun _ => by trivial)
  intro _
  apply uses_perform_bind (by trivial) _ (fun _ => by trivial)
  intro _
  apply uses_perform_bind (by trivial) (fun _ => by trivial) (fun _ => by trivial)

theorem renameLink_uses (netnsPath hostIfName podIfName : GoString) :
  (renameLink netnsPath hostIfName podIfName).Uses Op.IsNetlink
  := by
  unfold renameLink
  split
  · trivial
  apply uses_perform_bind (by trivial) _ (fun _ => by trivial)
  intro _
  apply uses_perform_bind (by trivial) _ (fun _ => by trivial)
  intro _
  apply uses_perform_bind (by trivial) (fun _ => by trivial) (fun _ => by trivial)

theorem setLinkMTU_uses (netnsPath podIfName : GoString) (mtu : Int) :
  (setLinkMTU netnsPath podIfName mtu).Uses Op.IsNetlink
  := by
  unfold setLinkMTU
  split
  · apply uses_perform_bind (by trivial) (fun _ => by trivial) (fun _ => by trivial)
  · trivial

theorem setLinkMAC_uses (netnsPath podIfName : GoString) (result : Result) :
  (setLinkMAC netnsPath podIfName result).Uses Op.IsNetlink
  := by
  unfold setLinkMAC
  split
  · trivial
  · apply uses_perform_bind (by trivial) (fun _ => by trivial) (fun _ => by trivial)

/-- Configuring the link in the pod performs netlink operations only. -/
theorem configurePodInterface_uses (netnsPath hostIfName podIfName : GoString) (mtu : Int)
    (result : Result) :
  (configurePodInterface netnsPath hostIfName podIfName mtu result).Uses Op.IsNetlink
  := by
  apply uses_perform_bind (by trivial) _ (fun _ => by trivial)
  intro _
  apply uses_perform_bind (by trivial) _ (fun _ => by trivial)
  intro _
  apply uses_perform_bind (by trivial) _ (fun _ => by trivial)
  intro _
  apply (renameLink_uses _ _ _).bind
  rintro (_ | _)
  · trivial
  apply (setLinkMTU_uses _ _ _).bind
  rintro (_ | _)
  · trivial
  apply (setLinkMAC_uses _ _ _).bind
  rintro (_ | _)
  · trivial
  apply uses_perform_bind (by trivial) _ (fun _ => by trivial)
  intro _
  apply uses_perform_bind (by trivial) (fun _ => by trivial) (fun _ => by trivial)

/-- Checking the link in the pod performs netlink operations only. -/
theorem verifyPodInterface_uses (netnsPath podIfName : GoString) (expectedIPs : List IPNet) :
  (verifyPodInterface netnsPath podIfName expectedIPs).Uses Op.IsNetlink
  := by
  apply uses_perform_bind (by trivial) _ (fun _ => by trivial)
  intro _
  apply uses_perform_bind (by trivial) _ (fun _ => by trivial)
  intro _
  apply uses_perform_bind (by trivial) _ (fun _ => by trivial)
  intro link
  dsimp only
  split
  · trivial
  split
  · trivial
  apply uses_perform_bind (by trivial) _ (fun _ => by trivial)
  intro addrs
  dsimp only
  split <;> trivial

end GroutCni
