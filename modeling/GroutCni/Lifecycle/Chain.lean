import GroutCni.Handlers.Add
import GroutCni.Handlers.Exact
import GroutCni.Node.Script

/-!
# CHECK in a chain of plugins

The runtime hands a CHECK the result of the whole chain, to which plugins after this one may
have appended interfaces, and addresses that point at these.  `HandleCheck` looks for all of the
addresses on the interface of the pod, wherever they point.
-/

namespace GroutCni

open Effect

/-! ### What an ADD returns -/

section

variable {α : Type} {conf : PluginConf} {args : CmdArgs}

/-- The result describes one interface. -/
def Result.OneInterface (r : Result) : Prop :=
  r.interfaces.length = 1

/-- Filling in a hardware address adds no interface. -/
theorem Result.OneInterface.setMac {r : Result} (h : r.OneInterface) (mac : GoString) :
  (r.setMac mac).OneInterface
  := by
  unfold Result.setMac
  split
  case h_1 => exact h
  case h_2 iface ifaces hifaces =>
    unfold Result.OneInterface at h
    rw [hifaces] at h
    exact h

theorem oneInterface_podResult {ipamResult r : Result} (h : podResult args ipamResult = some r) :
  r.OneInterface
  := by
  obtain ⟨ips, -, hr⟩ := Option.bind_eq_some_iff.mp h
  cases hr
  rfl

theorem oneInterface_vhostResult {ipamResult r : Result} {socketPath : GoString}
    (h : vhostResult args ipamResult socketPath = some r) :
  r.OneInterface
  := by
  obtain ⟨ips, -, hr⟩ := Option.bind_eq_some_iff.mp h
  cases hr
  rfl

/-- If a result is returned, it describes one interface. -/
def OneInterfaceIfOk (x : Except GoError Result) : Prop :=
  ∀ r, x = .ok r → r.OneInterface

theorem oneInterfaceIfOk_error (e : GoError) :
  OneInterfaceIfOk (.error e)
  := by
  rintro _ ⟨⟩

/-- Configuring the interface of the pod returns the result it was given, with a hardware
address. -/
theorem configurePodInterface_returns {netnsPath hostIfName podIfName : GoString} {mtu : Int}
    {result : Result} (h : result.OneInterface) :
  (configurePodInterface netnsPath hostIfName podIfName mtu result).Returns OneInterfaceIfOk
  := by
  unfold configurePodInterface
  iterate 7
    apply (Program.returns_true _).bind
    rintro (_ | _) -
    · apply oneInterfaceIfOk_error
  apply (Program.returns_true _).bind
  rintro (_ | l) -
  · rintro _ ⟨⟩
    exact h
  · rintro _ ⟨⟩
    exact h.setMac l.mac

theorem setupPod_returns {podRes : Result} (h : podRes.OneInterface) :
  (setupPod conf args podRes).Returns OneInterfaceIfOk
  := by
  unfold setupPod
  apply (Program.returns_true _).bind
  rintro (_ | _) -
  · apply oneInterfaceIfOk_error
  apply (configurePodInterface_returns h).bind
  rintro (_ | r) hr
  · apply oneInterfaceIfOk_error
  · rintro _ ⟨⟩
    exact hr r rfl

/-- A successful ADD returns one interface. -/
theorem finishAdd_returns (cniResult : Result) (ifaceID : UInt16) :
  (finishAdd conf args cniResult ifaceID).Returns fun x => ∀ r, x = .ok (some r) → r.OneInterface
  := by
  unfold finishAdd
  split
  · split
    case h_1 => rintro _ ⟨⟩
    case h_2 hr =>
      rintro _ ⟨⟩
      exact oneInterface_vhostResult hr
  · split
    case h_1 => rintro _ ⟨⟩
    case h_2 podRes hr =>
      split
      · rintro _ ⟨⟩
        exact oneInterface_podResult hr
      · apply (setupPod_returns (oneInterface_podResult hr)).bind
        rintro (_ | r) hr
        · apply (Program.returns_true _).bind
          rintro _ - _ ⟨⟩
        · rintro _ ⟨⟩
          exact hr r rfl

theorem handleAddBody_returns (conf : PluginConf) (args : CmdArgs) :
  (handleAddBody conf args).Returns fun x => ∀ r, x = .ok (some r) → r.OneInterface
  := by
  apply (Program.returns_true _).bind
  rintro (_ | result) -
  · rintro _ ⟨⟩
  dsimp only
  split
  · rintro _ ⟨⟩
  apply attach_returns
  · rintro _ _ ⟨⟩
  · rintro _ _ ⟨⟩
  · apply finishAdd_returns

end

/-! ### What a CHECK returns -/

/-- Plugins after this one have appended interfaces, and addresses that point at these. -/
structure Result.ExtendedBy (r r' : Result) : Prop where
  interfaces : r.interfaces <+: r'.interfaces
  ips : ∃ more, r'.ips = r.ips ++ more ∧ ∀ ipc : IPConfig, some ipc ∈ more →
    ∃ n : Nat, ipc.interface = some (n : Int) ∧ r.interfaces.length ≤ n ∧
      n < r'.interfaces.length

/-- The configuration of a call to which the runtime hands the result of the chain. -/
def PluginConf.withPrevResult (conf : PluginConf) (r : Result) : PluginConf :=
  { conf with prevResult := some (.ok (some ⟨.ok r⟩)) }

section

variable {conf : PluginConf} {args : CmdArgs} {w w' : World} {l : LinkState} {r r' : Result}

/-- An operation that only looks, and a program that has a run on what it answers. -/
theorem exists_run_perform_bind {α : Type} {o : Op} {v : o.Val} {k : Op.Res o → Prog α}
    (h : World.Effect w o v w) (hk : ∃ a, Run (Env Policy.allOk) (k (.ok v)) w a w) :
  ∃ a, Run (Env Policy.allOk) (perform o >>= k) w a w
  := by
  obtain ⟨a, ha⟩ := hk
  have ho : Env Policy.allOk w o (.ok v) w := ⟨rfl, h⟩
  exact ⟨a, Run.call ho ha⟩

/-- The link carries the addresses. -/
def LinkState.Carries (l : LinkState) (addrs : List IPNet) : Prop :=
  ∀ a ∈ addrs, addrPresent l.addrs a.ip = true

theorem find?_addrPresent_eq_none {addrs : List IPNet} :
  (addrs.find? fun want => !addrPresent l.addrs want.ip) = none ↔ l.Carries addrs
  := by
  simp [LinkState.Carries, List.find?_eq_none]

/-- `verifyPodInterface` succeeds on a link that is up if all expected addresses are there. -/
theorem wp_verifyPodInterface {netns name : GoString} {expectedIPs : List IPNet}
    (hlink : w.findLink netns name = some l) (hup : l.link.up = true) :
  wp (Env Policy.allOk) (verifyPodInterface netns name expectedIPs)
    (fun x _ => (∃ u, x = .ok u) ↔ l.Carries expectedIPs) w
  := by
  unfold verifyPodInterface
  rw [wp_bind]
  apply wp_perform_allOk
  rintro _ _ rfl
  dsimp only
  rw [wp_bind]
  apply wp_perform_allOk
  rintro _ _ rfl
  dsimp only
  rw [wp_bind]
  apply wp_perform_allOk
  rintro link _ ⟨⟨l', hl', rfl⟩, rfl⟩
  obtain rfl : l' = l := Option.some.inj (hl'.symm.trans hlink)
  dsimp only
  rw [if_neg (by simp [hup])]
  split
  case isTrue hnil =>
    refine ⟨trivial, iff_of_true ⟨(), rfl⟩ ?_⟩
    simp [hnil, LinkState.Carries]
  case isFalse =>
    rw [wp_bind]
    apply wp_perform_allOk
    rintro addrs _ ⟨⟨l'', hl'', rfl⟩, rfl⟩
    obtain rfl : l'' = l' := Option.some.inj (hl''.symm.trans hlink)
    dsimp only
    split
    case h_1 want hwant =>
      refine ⟨trivial, iff_of_false (by simp) ?_⟩
      rw [← find?_addrPresent_eq_none, hwant]
      simp
    case h_2 hnone =>
      exact ⟨trivial, iff_of_true ⟨(), rfl⟩ (find?_addrPresent_eq_none.mp hnone)⟩

theorem exists_run_verifyPodInterface {netns name : GoString} (expectedIPs : List IPNet)
    (hlink : w.findLink netns name = some l) :
  ∃ x, Run (Env Policy.allOk) (verifyPodInterface netns name expectedIPs) w x w
  := by
  unfold verifyPodInterface
  apply exists_run_perform_bind (o := .getNS netns) (v := ()) rfl
  apply exists_run_perform_bind (o := .nsDo netns) (v := ()) rfl
  apply exists_run_perform_bind (o := .linkByName netns name) (v := l.link) ⟨⟨l, hlink, rfl⟩, rfl⟩
  dsimp only
  split
  · exact ⟨_, .ret _ _⟩
  split
  · exact ⟨_, .ret _ _⟩
  apply exists_run_perform_bind (o := .addrList netns name) (v := l.addrs) ⟨⟨l, hlink, rfl⟩, rfl⟩
  dsimp only
  split <;> exact ⟨_, .ret _ _⟩

/-- A CHECK expects all addresses of the result it is handed. -/
theorem expectedPodIPs_withPrevResult (conf : PluginConf) (r : Result) :
  expectedPodIPs (conf.withPrevResult r) = .ok ((r.ips.filterMap id).map (·.address))
  := rfl

/-- While the port is listed and the interface of the pod is up, a CHECK succeeds if the
interface carries all addresses of the result it is handed. -/
theorem wp_handleCheckBody (htap : conf.interfaceType = .tap) (hnetns : args.netns ≠ [])
    (hport : ∃ i ∈ w.grout.ifaces, i.name = args.attachment.portName)
    (hlink : w.findLink args.netns args.ifName = some l) (hup : l.link.up = true) :
  wp (Env Policy.allOk) (handleCheckBody (conf.withPrevResult r) args)
    (fun x _ => x = .ok none ↔ l.Carries ((r.ips.filterMap id).map (·.address))) w
  := by
  have htap' : (conf.withPrevResult r).interfaceType = .tap := htap
  obtain ⟨i, hi, hname⟩ := hport
  unfold handleCheckBody
  dsimp only
  rw [wp_bind]
  apply wp_interfaceList_allOk
  intro ifaces hperm
  dsimp only
  rw [show groutPortName args.containerID args.ifName = args.attachment.portName from rfl,
    findPortByName_perm hperm, ← hname, findPortByName_of_mem hi]
  dsimp only
  rw [htap', expectedPodIPs_withPrevResult, if_neg hnetns]
  dsimp only
  rw [wp_bind]
  apply wp_mono (wp_verifyPodInterface hlink hup)
  rintro (e | u) w' h
  · refine ⟨trivial, ?_⟩
    rw [← h]
    simp
  · refine ⟨trivial, ?_⟩
    rw [← h]
    simp

theorem exists_run_handleCheckBody (htap : conf.interfaceType = .tap)
    (hlink : w.findLink args.netns args.ifName = some l) :
  ∃ x, Run (Env Policy.allOk) (handleCheckBody (conf.withPrevResult r) args) w x w
  := by
  have htap' : (conf.withPrevResult r).interfaceType = .tap := htap
  unfold handleCheckBody
  apply exists_run_perform_bind (o := .interfaceList {}) (v := w.listed {}) ⟨.refl _, rfl⟩
  dsimp only
  split
  · exact ⟨_, .ret _ _⟩
  rw [htap', expectedPodIPs_withPrevResult]
  dsimp only
  split
  · exact ⟨_, .ret _ _⟩
  obtain ⟨x, hx⟩ := exists_run_verifyPodInterface ((r.ips.filterMap id).map (·.address)) hlink
  cases x with
  | error e => exact ⟨_, Run.bind_iff.mpr ⟨_, _, hx, .ret _ _⟩⟩
  | ok u => exact ⟨_, Run.bind_iff.mpr ⟨_, _, hx, .ret _ _⟩⟩

theorem carries_iff {ips : List (Option IPConfig)} :
  l.Carries ((ips.filterMap id).map (·.address))
    ↔ ∀ ipc, some ipc ∈ ips → addrPresent l.addrs ipc.address.ip = true
  := by
  simp [LinkState.Carries]

/-- A successful ADD returns one interface. -/
theorem run_handleAdd_oneInterface {P : Policy Op} {fails : Bool} {w₀ w₁ : World}
    (h : Run (Solo (Env P) fails) (handleAdd conf args) w₀ (.ok (some r)) w₁) :
  r.OneInterface
  := by
  rcases run_locked h with h | ⟨-, e, ⟨⟩⟩
  exact (handleAddBody_returns conf args).run h r rfl

/-- An address that points at the only interface of a result was not appended to it. -/
theorem Result.ExtendedBy.mem_of_zero (h : r.ExtendedBy r') (hone : r.OneInterface)
    {ipc : IPConfig} (hipc : some ipc ∈ r'.ips) (hzero : ipc.interface = some 0) :
  some ipc ∈ r.ips
  := by
  obtain ⟨more, hmore, hpoint⟩ := h.ips
  rw [hmore, List.mem_append] at hipc
  apply hipc.resolve_right
  intro hipc
  obtain ⟨n, hn, hle, -⟩ := hpoint ipc hipc
  rw [hone] at hle
  rw [hn, Option.some.injEq] at hzero
  omega

/-- After a successful ADD of a TAP, a CHECK that is handed a result to which other plugins have
appended interfaces and addresses, while the port is listed and the interface of the pod is up
and carries the addresses of the ADD, returns; and it succeeds exactly if the interface of the
pod also carries the addresses that do not point at it. -/
theorem handleCheck_after_add_iff {P : Policy Op} {fails : Bool} {w₀ w₁ : World}
    (hadd : Run (Solo (Env P) fails) (handleAdd conf args) w₀ (.ok (some r)) w₁)
    (htap : conf.interfaceType = .tap) (hnetns : args.netns ≠ []) (hchain : r.ExtendedBy r')
    (hport : ∃ i ∈ w.grout.ifaces, i.name = args.attachment.portName)
    (hlink : w.findLink args.netns args.ifName = some l) (hup : l.link.up = true)
    (haddrs : ∀ ipc, some ipc ∈ r.ips → addrPresent l.addrs ipc.address.ip = true) :
  (∃ x w', Run (Solo (Env Policy.allOk) false) (handleCheck (conf.withPrevResult r') args) w x w') ∧
  ∀ x w', Run (Solo (Env Policy.allOk) false) (handleCheck (conf.withPrevResult r') args) w x w' →
    (x = .ok none ↔ ∀ ipc, some ipc ∈ r'.ips → ipc.interface ≠ some 0 →
      addrPresent l.addrs ipc.address.ip = true)
  := by
  constructor
  · obtain ⟨x, hx⟩ := exists_run_handleCheckBody htap hlink
    exact ⟨x, w, locked_run hx⟩
  · intro x w' hcheck
    rcases run_guarded.mp hcheck with hcheck | ⟨⟨⟩, -⟩
    rw [hcheck.wp (wp_handleCheckBody htap hnetns hport hlink hup), carries_iff]
    constructor
    · intro h ipc hipc _
      exact h ipc hipc
    · intro h ipc hipc
      by_cases hzero : ipc.interface = some 0
      · exact haddrs ipc (hchain.mem_of_zero (run_handleAdd_oneInterface hadd) hipc hzero)
      · exact h ipc hipc hzero

end

/-- A call for the pod `a`. -/
def podA : CmdArgs := podIn "a" "/run/netns/a"

/-- An address of the network of the pod. -/
def podAddr (host : UInt8) : IPNet :=
  ⟨[10, 245, 0, host], [255, 255, 255, 0]⟩

/-- A node on which the link of the pod `a` is up and carries the addresses. -/
def podNode (addrs : List (Option IPNet)) : World where
  grout := Grout.empty
  links :=
    [⟨[], podA.attachment.portName, ⟨true, []⟩, []⟩,
      ⟨podA.netns, podA.attachment.portName, ⟨false, []⟩, []⟩,
      ⟨podA.netns, podA.ifName, ⟨true, []⟩, addrs⟩]

/-- Choices with which every operation of an ADD for the pod `a` succeeds. -/
def addPodA : List Choice :=
  [oneAddress 10, {}, { id := 1 }, {}, { id := 2 }, {}, {}, {}, {}, {}, {}, {}, {}, {}, {}, {}, {}]

/-- What an ADD for the pod `a` returns when the IPAM plugin answers one address. -/
def podAResult : Result where
  interfaces := [{ name := podA.ifName, sandbox := podA.netns }]
  ips := [some { interface := some 0, address := podAddr 10 }]

/-- The result to which another plugin has appended an interface with an address. -/
def podAChain : Result where
  interfaces := podAResult.interfaces ++ [{ name := lit "vip0", sandbox := podA.netns }]
  ips := podAResult.ips ++ [some { interface := some 1, address := podAddr 20 }]

theorem podAResult_extendedBy :
  podAResult.ExtendedBy podAChain
  := by
  refine ⟨⟨_, rfl⟩, _, rfl, ?_⟩
  intro ipc hipc
  cases Option.some.inj (List.mem_singleton.mp hipc)
  exact ⟨1, rfl, by decide, by decide⟩

/-- The port of the pod `a` is listed, and its link is up and carries just the addresses. -/
def holdsPodA (addrs : List (Option IPNet)) (w : World) : Bool :=
  w.grout.ifaces.any (fun i => i.name = podA.attachment.portName) &&
    (w.findLink podA.netns podA.ifName).any fun l => l.link.up && l.addrs == addrs

theorem of_holdsPodA {addrs : List (Option IPNet)} {w : World} (h : holdsPodA addrs w = true) :
  (∃ i ∈ w.grout.ifaces, i.name = podA.attachment.portName) ∧
    ∃ l, w.findLink podA.netns podA.ifName = some l ∧ l.link.up = true ∧ l.addrs = addrs
  := by
  cases hlink : w.findLink podA.netns podA.ifName with
  | none => simp [holdsPodA, hlink] at h
  | some l => simpa [holdsPodA, hlink] using h

/-- The addresses of the ADD are those it was given. -/
theorem mem_podAResult {ipc : IPConfig} (h : some ipc ∈ podAResult.ips) :
  ipc.address = podAddr 10
  := by
  cases Option.some.inj (List.mem_singleton.mp h)
  rfl

/-- The interface of the pod carries the address that was appended as well: the CHECK
succeeds. -/
theorem handleCheck_after_add_shared_address :
  ∃ w x w', Run (Solo (Env Policy.allOk) false) (handleAdd sharedTap podA)
      (podNode [some (podAddr 10), some (podAddr 20)]) (.ok (some podAResult)) w ∧
    Run (Solo (Env Policy.allOk) false) (handleCheck (sharedTap.withPrevResult podAChain) podA)
      w x w' ∧ x = .ok none
  := by
  have hexec : (exec (World.act Policy.allOk) addPodA (handleAddBody sharedTap podA)
      (podNode [some (podAddr 10), some (podAddr 20)])).any
      (fun x => x.1 = .ok (some podAResult) ∧
        holdsPodA [some (podAddr 10), some (podAddr 20)] x.2 = true) = true := by
    decide +kernel
  obtain ⟨_, w, hrun, hcheck⟩ := exec_exists World.act_sound hexec
  obtain ⟨rfl, hw⟩ := of_decide_eq_true hcheck
  obtain ⟨hport, l, hlink, hup, haddrs⟩ := of_holdsPodA hw
  have hadd : Run (Solo (Env Policy.allOk) false) (handleAdd sharedTap podA)
      (podNode [some (podAddr 10), some (podAddr 20)]) (.ok (some podAResult)) w :=
    locked_run hrun
  obtain ⟨⟨x, w', hx⟩, hiff⟩ := handleCheck_after_add_iff hadd rfl (by decide)
    podAResult_extendedBy hport hlink hup fun ipc hipc => by
      rw [haddrs, mem_podAResult hipc]
      decide
  refine ⟨w, x, w', hadd, hx, (hiff x w' hx).mpr ?_⟩
  rw [haddrs]
  simp only [podAChain, podAResult, List.cons_append, List.nil_append, List.mem_cons,
    List.not_mem_nil, or_false, Option.some.injEq, forall_eq_or_imp, forall_eq]
  decide

/-- The interface of the pod carries the address of the ADD, but not the one that was appended:
the CHECK fails. -/
theorem handleCheck_after_add_fails :
  ∃ w₀ w l x w', Run (Solo (Env Policy.allOk) false) (handleAdd sharedTap podA) w₀
      (.ok (some podAResult)) w ∧
    podAResult.ExtendedBy podAChain ∧
    (∃ i ∈ w.grout.ifaces, i.name = podA.attachment.portName) ∧
    w.findLink podA.netns podA.ifName = some l ∧ l.link.up = true ∧
    (∀ ipc, some ipc ∈ podAResult.ips → addrPresent l.addrs ipc.address.ip = true) ∧
    Run (Solo (Env Policy.allOk) false) (handleCheck (sharedTap.withPrevResult podAChain) podA)
      w x w' ∧ ∃ e, x = .error e
  := by
  have hexec : (exec (World.act Policy.allOk) addPodA (handleAddBody sharedTap podA)
      (podNode [some (podAddr 10)])).any
      (fun x => x.1 = .ok (some podAResult) ∧ holdsPodA [some (podAddr 10)] x.2 = true ∧
        (exec (World.act Policy.allOk) [{}, {}, {}, {}, {}]
          (handleCheckBody (sharedTap.withPrevResult podAChain) podA) x.2).any
          (fun y => y.1.isError) = true) = true := by
    decide +kernel
  obtain ⟨_, w, hadd, hcheck⟩ := exec_exists World.act_sound hexec
  obtain ⟨rfl, hw, hexec⟩ := of_decide_eq_true hcheck
  obtain ⟨hport, l, hlink, hup, haddrs⟩ := of_holdsPodA hw
  obtain ⟨x, w', hx, herr⟩ := exec_exists World.act_sound hexec
  refine ⟨_, w, l, x, w', locked_run hadd, podAResult_extendedBy, hport, hlink, hup, ?_,
    locked_run hx, Outcome.exists_of_isError herr⟩
  intro ipc hipc
  rw [haddrs, mem_podAResult hipc]
  decide

end GroutCni
