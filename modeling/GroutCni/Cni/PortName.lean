import GroutCni.Api.Types
import GroutCni.Cni.Types
import GroutCni.Go.Digest
import GroutCni.Go.Filepath

/-!
# Names derived from an attachment

`groutPortName` is the name of the grout port of an attachment, and `vhostSocketPath` the
path of its vhost-user socket.  Port names begin with the prefix of the plugin
(`hasPrefix_portName`), and the socket paths of two ports are different
(`vhostSocketPath_inj`).
-/

namespace GroutCni

/-- The prefix of the ports the plugin creates. -/
def portPrefix : GoString := lit "grk-"

/-- The port name made from a digest of `containerID + "\\x00" + ifName`. -/
def groutPortNameWith (sum256 : GoString → GoString) (containerID ifName : GoString) :
    GoString :=
  let sum := sum256 (containerID ++ 0 :: ifName)
  portPrefix ++ ((Base32.encodeToString sum).map toLower).take 11

/-- `groutPortName`. -/
@[irreducible]
def groutPortName (containerID ifName : GoString) : GoString :=
  groutPortNameWith Sha256.sum256 containerID ifName

/-- The port name of an attachment. -/
def Attachment.portName (a : Attachment) : GoString :=
  groutPortName a.containerID a.ifName

/-- `findPortByName`. -/
def findPortByName (ifaces : List InterfaceInfo) (name : GoString) : Option InterfaceInfo :=
  ifaces.find? fun iface => iface.name = name

/-- `vhostSocketPath`. -/
def vhostSocketPath (groutSocketPath tapName : GoString) : GoString :=
  Filepath.join [Filepath.dir groutSocketPath, lit "vhost", tapName ++ lit ".sock"]

theorem portPrefix_isPrefix (a : Attachment) :
  portPrefix <+: a.portName
  := by
  unfold Attachment.portName groutPortName
  apply List.prefix_append

/-- Every port name begins with the prefix of the plugin. -/
@[simp]
theorem hasPrefix_portName (a : Attachment) :
  hasPrefix a.portName portPrefix = true
  := hasPrefix_iff.mpr (portPrefix_isPrefix a)

/-- No character of the alphabet is a slash, in lower case. -/
theorem toLower_symbol_ne_slash (q : List Bool) :
  toLower (Base32.symbol q) ≠ Filepath.slash
  := by
  have halpha : ∀ b ∈ 0 :: Base32.alphabet, toLower b ≠ Filepath.slash := by decide +kernel
  apply halpha _ (Base32.symbol_mem q)

/-- A port name has no slash, whatever the digest. -/
theorem slash_not_mem_portNameWith (sum256 : GoString → GoString) (containerID ifName : GoString) :
  Filepath.slash ∉ groutPortNameWith sum256 containerID ifName
  := by
  unfold groutPortNameWith
  simp only [List.mem_append, not_or]
  constructor
  · decide
  · intro h
    obtain ⟨b, hb, hslash⟩ := List.mem_map.mp (List.mem_of_mem_take h)
    obtain ⟨q, -, rfl⟩ := List.mem_map.mp hb
    apply toLower_symbol_ne_slash q hslash

theorem slash_not_mem_portName (a : Attachment) :
  Filepath.slash ∉ a.portName
  := by
  unfold Attachment.portName groutPortName
  apply slash_not_mem_portNameWith

/-- A vhost socket path ends in the name of the port and `.sock`. -/
theorem base_vhostSocketPath (groutSocketPath : GoString) {name : GoString}
    (h : Filepath.slash ∉ name) :
  Filepath.base (vhostSocketPath groutSocketPath name) = name ++ lit ".sock"
  := by
  have hlen : (name ++ lit ".sock").length = name.length + 5 := by
    simp [show (lit ".sock").length = 5 from rfl]
  apply Filepath.base_join_dir
  · simp only [List.mem_append, not_or]
    exact ⟨h, by decide⟩
  · intro h
    simp [h] at hlen
  · intro h
    simp [h, Filepath.dot] at hlen
  · intro h
    simp [h, Filepath.dotdot] at hlen

/-- Names without a slash that have one vhost socket path are equal. -/
theorem eq_of_vhostSocketPath {sock sock' name name' : GoString} (hname : Filepath.slash ∉ name)
    (hname' : Filepath.slash ∉ name')
    (h : vhostSocketPath sock name = vhostSocketPath sock' name') :
  name = name'
  := by
  have hbase := congrArg Filepath.base h
  rw [base_vhostSocketPath _ hname, base_vhostSocketPath _ hname'] at hbase
  apply List.append_cancel_right hbase

/-- Ports with one vhost socket path have one name. -/
theorem vhostSocketPath_inj {sock sock' : GoString} {a b : Attachment}
    (h : vhostSocketPath sock a.portName = vhostSocketPath sock' b.portName) :
  a.portName = b.portName
  := eq_of_vhostSocketPath (slash_not_mem_portName a) (slash_not_mem_portName b) h

/-- A port found by its name is in the list and has that name. -/
theorem findPortByName_some {ifaces : List InterfaceInfo} {name : GoString} {i : InterfaceInfo}
    (h : findPortByName ifaces name = some i) :
  i ∈ ifaces ∧ i.name = name
  := by
  constructor
  · apply List.mem_of_find?_eq_some h
  · simpa using List.find?_some h

/-- No port is found when no interface has the name. -/
theorem findPortByName_none {ifaces : List InterfaceInfo} {name : GoString} :
  findPortByName ifaces name = none ↔ ∀ i ∈ ifaces, i.name ≠ name
  := by
  simp [findPortByName]

end GroutCni
