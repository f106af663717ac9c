import GroutCni.Cni.Types

/-!
# Loading a network configuration

`loadConfig` checks the network configuration and fills in its defaults, as `LoadConfig`
does with what `json.Unmarshal` decodes.  `bridgeNameFor` is the default name of the bridge
of a network.
-/

namespace GroutCni

/-- `DefaultSocketPath`. -/
def defaultSocketPath : GoString := lit "/run/grout/grout.sock"

/-- `grIfaceNameSize`: the limit of grout's interface names, with the terminating NUL. -/
def grIfaceNameSize : Nat := 16

/-- The network configuration as `json.Unmarshal` decodes it.  A field that is absent has its
zero value; the socket path is then left to its default. -/
structure RawConf where
  name : GoString := []
  ipamType : GoString := []
  groutSocketPath : Option GoString := none
  bridge : GoString := []
  mtu : Int := 0
  interfaceType : GoString := []
  logLevel : GoString := []
  validAttachments : List Attachment := []
  prevResult : Option (Except GoError (Option RawResult)) := none

/-- The encodings of the white space characters of Unicode. -/
def whiteSpace : List GoString :=
  [[0x09], [0x0a], [0x0b], [0x0c], [0x0d], [0x20], [0xc2, 0x85], [0xc2, 0xa0],
   [0xe1, 0x9a, 0x80], [0xe2, 0x80, 0x80], [0xe2, 0x80, 0x81], [0xe2, 0x80, 0x82],
   [0xe2, 0x80, 0x83], [0xe2, 0x80, 0x84], [0xe2, 0x80, 0x85], [0xe2, 0x80, 0x86],
   [0xe2, 0x80, 0x87], [0xe2, 0x80, 0x88], [0xe2, 0x80, 0x89], [0xe2, 0x80, 0x8a],
   [0xe2, 0x80, 0xa8], [0xe2, 0x80, 0xa9], [0xe2, 0x80, 0xaf], [0xe2, 0x81, 0x9f],
   [0xe3, 0x80, 0x80]]

/-- Drop leading strings of `space`, at most `fuel` of them. -/
def trimLeft (space : List GoString) : Nat → GoString → GoString
  | 0, s => s
  | fuel + 1, s =>
      match space.find? (hasPrefix s) with
      | some w => trimLeft space fuel (s.drop w.length)
      | none => s

/-- `strings.TrimSpace`. -/
def trimSpace (s : GoString) : GoString :=
  let t := trimLeft whiteSpace s.length s
  (trimLeft (whiteSpace.map List.reverse) t.length t.reverse).reverse

/-- `validLogLevel`. -/
def validLogLevel (s : GoString) : Bool :=
  toLowerString (trimSpace s)
    ∈ [lit "debug", lit "info", lit "warn", lit "warning", lit "error"]

/-- `fnv.New32a` and `Sum32`. -/
def fnv32a (data : GoString) : UInt32 :=
  data.foldl (fun h b => (h ^^^ b.toUInt32) * 16777619) 2166136261

/-- A hexadecimal digit in lower case. -/
def hexDigit (n : Nat) : UInt8 := (lit "0123456789abcdef").getD n 0

/-- `fmt.Sprintf("-%04x", n)` for `n` below `2 ^ 16`. -/
def hashSuffix (n : UInt32) : GoString :=
  lit "-" ++ [4096, 256, 16, 1].map fun d => hexDigit (n.toNat / d % 16)

/-- `bridgeNameFor`. -/
def bridgeNameFor (network : GoString) : GoString :=
  let name := lit "br-" ++ network
  let maxLen := grIfaceNameSize - 1
  if name.length ≤ maxLen then name
  else
    let suffix := hashSuffix (fnv32a network &&& 0xffff)
    let head := max (maxLen - suffix.length) (lit "br-").length
    name.take head ++ suffix

/-- `LoadConfig`, after `json.Unmarshal`. -/
def loadConfig (parsed : Except GoError RawConf) : Except GoError PluginConf := do
  let conf ← match parsed with
    | .error err => .error (.wrapf "parsing CNI config: %w" [] err)
    | .ok conf => .ok conf
  if conf.ipamType = [] then
    throw (.errorf "IPAM configuration is required (specify an ipam section)" [])
  if conf.name = [] then
    throw (.errorf "network name is required" [])
  if conf.mtu < 0 ∨ conf.mtu > 65535 then
    throw (.errorf "mtu must be between 0 and 65535, got %d" [.num conf.mtu])
  let bridge ←
    if conf.bridge = [] then pure (bridgeNameFor conf.name)
    else if conf.bridge.length ≥ grIfaceNameSize then
      throw (.errorf "bridge name %q exceeds %d bytes"
        [.str conf.bridge, .num (grIfaceNameSize - 1)])
    else pure conf.bridge
  let interfaceType ←
    if conf.interfaceType = [] ∨ conf.interfaceType = lit "tap" then pure .tap
    else if conf.interfaceType = lit "virtio" then pure .virtio
    else throw (.errorf "interfaceType must be %q or %q, got %q"
      [.str (lit "tap"), .str (lit "virtio"), .str conf.interfaceType])
  if conf.logLevel ≠ [] ∧ ¬ validLogLevel conf.logLevel then
    throw (.errorf "logLevel must be one of debug, info, warn, error, got %q"
      [.str conf.logLevel])
  return {
    name := conf.name
    ipamType := conf.ipamType
    groutSocketPath := conf.groutSocketPath.getD defaultSocketPath
    bridge
    mtu := conf.mtu
    interfaceType
    logLevel := conf.logLevel
    validAttachments := conf.validAttachments
    prevResult := conf.prevResult }

end GroutCni
