import GroutCni.Cni.Config
import GroutCni.Cni.PortName

/-!
# Names of interfaces

The names of bridges and ports fit into grout's interfaces (`IsIfaceName`).  The bridges of two
networks have one name exactly if the names of the networks clash (`bridgeNameFor_ne_iff`).
-/

namespace GroutCni

/-- A name that grout can hold: at most 15 bytes, none of them NUL. -/
def IsIfaceName (name : GoString) : Prop :=
  name.length ≤ 15 ∧ 0 ∉ name

instance (name : GoString) : Decidable (IsIfaceName name) :=
  inferInstanceAs (Decidable (_ ∧ _))

/-! ### The suffix of a long name -/

/-- The bits of the hash of a network that end up in the name of its bridge. -/
def networkHash (network : GoString) : UInt32 := fnv32a network &&& 0xffff

theorem networkHash_lt (network : GoString) :
  (networkHash network).toNat < 65536
  := by
  rw [networkHash, UInt32.toNat_and]
  exact Nat.lt_of_le_of_lt Nat.and_le_right (by decide)

@[simp]
theorem length_hashSuffix (n : UInt32) :
  (hashSuffix n).length = 5
  := rfl

theorem hexDigit_inj :
  ∀ i < 16, ∀ j < 16, hexDigit i = hexDigit j → i = j
  := by decide

theorem hexDigit_ne_zero :
  ∀ i < 16, hexDigit i ≠ 0
  := by decide

/-- The suffix determines a number of 16 bits. -/
theorem hashSuffix_inj {a b : UInt32} (ha : a.toNat < 65536) (hb : b.toNat < 65536)
    (h : hashSuffix a = hashSuffix b) :
  a = b
  := by
  have hdigit : ∀ d ∈ [4096, 256, 16, 1], a.toNat / d % 16 = b.toNat / d % 16 := by
    intro d hd
    apply hexDigit_inj _ (Nat.mod_lt _ (by decide)) _ (Nat.mod_lt _ (by decide))
    exact List.map_inj_left.mp (List.append_cancel_left h) d hd
  have h4 := hdigit 4096 (by decide)
  have h3 := hdigit 256 (by decide)
  have h2 := hdigit 16 (by decide)
  have h1 := hdigit 1 (by decide)
  apply UInt32.toNat_inj.mp
  omega

theorem zero_not_mem_hashSuffix (n : UInt32) :
  0 ∉ hashSuffix n
  := by
  intro h
  rcases List.mem_append.mp h with h | h
  · revert h
    decide
  · obtain ⟨d, -, hd⟩ := List.mem_map.mp h
    exact hexDigit_ne_zero _ (Nat.mod_lt _ (by decide)) hd

/-! ### Bridge names -/

section

variable {network n₁ n₂ : GoString}

/-- What follows `br-` in the name of the bridge of a network with a long name. -/
def shortened (network : GoString) : GoString :=
  network.take 7 ++ hashSuffix (networkHash network)

/-- What follows `br-` in the name of the bridge of a network. -/
def bridgeStem (network : GoString) : GoString :=
  if network.length ≤ 12 then network else shortened network

theorem bridgeNameFor_eq (network : GoString) :
  bridgeNameFor network = lit "br-" ++ bridgeStem network
  := by
  have hbr : (lit "br-").length = 3 := rfl
  unfold bridgeNameFor bridgeStem
  dsimp only
  rw [List.length_append, hbr]
  by_cases hlen : network.length ≤ 12
  · rw [if_pos hlen, if_pos (by unfold grIfaceNameSize; omega)]
  · rw [if_neg hlen, if_neg (by unfold grIfaceNameSize; omega), length_hashSuffix,
      show max (grIfaceNameSize - 1 - 5) 3 = 3 + 7 from rfl, List.take_append, hbr, shortened,
      networkHash, List.append_assoc]
    rfl

/-- The names of two networks clash: both are long and agree in their first 7 bytes and in the
hash, or one is what the other is shortened to. -/
def Clash (n₁ n₂ : GoString) : Prop :=
  12 < n₁.length ∧ 12 < n₂.length ∧ n₁.take 7 = n₂.take 7 ∧ networkHash n₁ = networkHash n₂ ∨
  n₁.length ≤ 12 ∧ 12 < n₂.length ∧ n₁ = shortened n₂ ∨
  12 < n₁.length ∧ n₂.length ≤ 12 ∧ shortened n₁ = n₂

instance (n₁ n₂ : GoString) : Decidable (Clash n₁ n₂) :=
  inferInstanceAs (Decidable (_ ∨ _ ∨ _))

/-- Long names are shortened alike if they agree in what is kept of them. -/
theorem shortened_eq_iff (h₁ : 12 < n₁.length) (h₂ : 12 < n₂.length) :
  shortened n₁ = shortened n₂ ↔ n₁.take 7 = n₂.take 7 ∧ networkHash n₁ = networkHash n₂
  := by
  constructor
  · intro h
    have hlen : (n₁.take 7).length = (n₂.take 7).length := by
      rw [List.length_take, List.length_take]
      omega
    obtain ⟨htake, hsuffix⟩ := List.append_inj h hlen
    exact ⟨htake, hashSuffix_inj (networkHash_lt _) (networkHash_lt _) hsuffix⟩
  · rintro ⟨htake, hhash⟩
    rw [shortened, shortened, htake, hhash]

/-- The bridges of two networks have different names exactly if the networks do not clash. -/
theorem bridgeNameFor_ne_iff (hne : n₁ ≠ n₂) :
  bridgeNameFor n₁ ≠ bridgeNameFor n₂ ↔ ¬Clash n₁ n₂
  := by
  rw [not_iff_not, bridgeNameFor_eq, bridgeNameFor_eq, List.append_right_inj]
  unfold bridgeStem Clash
  rcases Nat.lt_or_ge 12 n₁.length with h₁ | h₁
  · rw [if_neg h₁.not_ge]
    rcases Nat.lt_or_ge 12 n₂.length with h₂ | h₂
    · rw [if_neg h₂.not_ge, shortened_eq_iff h₁ h₂]
      constructor
      · intro h
        exact .inl ⟨h₁, h₂, h⟩
      · rintro (⟨-, -, h⟩ | ⟨h, -⟩ | ⟨-, h, -⟩)
        · exact h
        · exact absurd h h₁.not_ge
        · exact absurd h h₂.not_ge
    · rw [if_pos h₂]
      constructor
      · intro h
        exact .inr (.inr ⟨h₁, h₂, h⟩)
      · rintro (⟨-, h, -⟩ | ⟨h, -⟩ | ⟨-, -, h⟩)
        · exact absurd h h₂.not_gt
        · exact absurd h h₁.not_ge
        · exact h
  · rw [if_pos h₁]
    rcases Nat.lt_or_ge 12 n₂.length with h₂ | h₂
    · rw [if_neg h₂.not_ge]
      constructor
      · intro h
        exact .inr (.inl ⟨h₁, h₂, h⟩)
      · rintro (⟨h, -⟩ | ⟨-, -, h⟩ | ⟨h, -⟩)
        · exact absurd h h₁.not_gt
        · exact h
        · exact absurd h h₁.not_gt
    · rw [if_pos h₂]
      constructor
      · intro h
        exact absurd h hne
      · rintro (⟨h, -⟩ | ⟨-, h, -⟩ | ⟨h, -⟩)
        · exact absurd h h₁.not_gt
        · exact absurd h h₂.not_gt
        · exact absurd h h₁.not_gt

/-- Two networks with long names that agree in their first 15 bytes. -/
theorem bridgeNameFor_ne_of_hash :
  bridgeNameFor (lit "tenant-network-1") ≠ bridgeNameFor (lit "tenant-network-2")
  := (bridgeNameFor_ne_iff (by decide)).mpr (by decide +kernel)

/-- Two networks with one bridge: the hashes of their names agree in the bits that are kept. -/
theorem bridgeNameFor_collides :
  lit "tenant-network-949" ≠ lit "tenant-network-1306" ∧
    bridgeNameFor (lit "tenant-network-949") = bridgeNameFor (lit "tenant-network-1306")
  := by decide +kernel

/-- The name of the bridge of a network fits. -/
theorem isIfaceName_bridgeNameFor (h : 0 ∉ network) :
  IsIfaceName (bridgeNameFor network)
  := by
  have hbr : (lit "br-").length = 3 := rfl
  have hstem : (bridgeStem network).length ≤ 12 ∧ 0 ∉ bridgeStem network := by
    unfold bridgeStem
    split
    case isTrue hlen => exact ⟨hlen, h⟩
    case isFalse =>
      unfold shortened
      constructor
      · rw [List.length_append, List.length_take, length_hashSuffix]
        omega
      · rw [List.mem_append, not_or]
        exact ⟨fun hmem => h (List.mem_of_mem_take hmem), zero_not_mem_hashSuffix _⟩
  rw [bridgeNameFor_eq]
  constructor
  · rw [List.length_append, hbr]
    omega
  · rw [List.mem_append, not_or]
    exact ⟨by decide, hstem.2⟩

/-- The bridge of an accepted configuration is the one given, if it fits, or that of the
network. -/
theorem bridge_of_loadConfig {raw : RawConf} {conf : PluginConf}
    (h : loadConfig (.ok raw) = .ok conf) :
  conf.bridge = bridgeNameFor raw.name ∨ conf.bridge = raw.bridge ∧ raw.bridge.length ≤ 15
  := by
  unfold loadConfig at h
  simp only [bind, Except.bind, pure, Except.pure, throw, throwThe, MonadExceptOf.throw,
    ite_eq_iff, reduceCtorEq, and_false, false_or, or_false, Except.ok.injEq] at h
  -- The checks of the IPAM type, the name and the MTU come before that of the bridge.
  obtain ⟨-, -, -, ⟨-, h⟩ | ⟨-, hlen, h⟩⟩ := h
  · obtain ⟨-, -, rfl⟩ | ⟨-, -, -, rfl⟩ := h
    · exact .inl rfl
    · exact .inl rfl
  · have hle : raw.bridge.length ≤ 15 := Nat.le_of_lt_succ (Nat.lt_of_not_le hlen)
    obtain ⟨-, -, rfl⟩ | ⟨-, -, -, rfl⟩ := h
    · exact .inr ⟨rfl, hle⟩
    · exact .inr ⟨rfl, hle⟩

/-- The bridge of an accepted configuration fits. -/
theorem isIfaceName_bridge {raw : RawConf} {conf : PluginConf}
    (h : loadConfig (.ok raw) = .ok conf) (hname : 0 ∉ raw.name) (hbridge : 0 ∉ raw.bridge) :
  IsIfaceName conf.bridge
  := by
  rcases bridge_of_loadConfig h with heq | ⟨heq, hlen⟩
  · rw [heq]
    exact isIfaceName_bridgeNameFor hname
  · rw [heq]
    exact ⟨hlen, hbridge⟩

end

/-! ### Port names -/

/-- The characters of a group of five bits are not NUL, in lower case. -/
theorem toLower_symbol_ne_zero {q : List Bool} (h : q.length = 5) :
  toLower (Base32.symbol q) ≠ 0
  := by
  apply Base32.forall_group (p := fun q => toLower (Base32.symbol q) ≠ 0) _ h
  decide

/-- The name of a port fits. -/
theorem isIfaceName_portName (a : Attachment) :
  IsIfaceName a.portName
  := by
  have hlen : portPrefix.length = 4 := rfl
  unfold Attachment.portName groutPortName groutPortNameWith
  dsimp only
  constructor
  · rw [List.length_append, List.length_take, hlen]
    omega
  · rw [List.mem_append, not_or]
    constructor
    · decide
    · intro h
      obtain ⟨b, hb, hzero⟩ := List.mem_map.mp (List.mem_of_mem_take h)
      obtain ⟨q, hq, rfl⟩ := List.mem_map.mp hb
      exact toLower_symbol_ne_zero (Base32.length_of_mem_quintets hq) hzero

end GroutCni
