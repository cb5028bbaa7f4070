import RemitBridge.Network.Configuration
import RemitBridge.Network.Setup

/-!
# The deploy script

The script initialises the four contracts, connects them, and enters the regions, corridors and tier
bands of its configuration, one call of the administrator after the other (`DeployConfig.commands`).
Then it reads the settings back (`verify`) before it writes the addresses file (`deploy`).

What the configuration asks for is a statement about settings (`DeployConfig.settings`), and what is
required of it are statements about the configuration: `DeployConfig.Deployable` for the calls, and
`DeployConfig.Plain` for what is read back.
-/

namespace RemitBridge

/-! ### Calls -/

namespace Network

namespace Net

/-- A call of one of the contracts. -/
inductive Call where
  | escrow (c : Escrow.Call)
  | hook (c : Hook.Call)
  | registry (c : Registry.Call)
  | pool (c : Pool.Call)

namespace Call

/-- The invocation, in an environment. -/
def within (env : Env) : Call → Input
  | escrow c => .escrow env c
  | hook c => .hook env c
  | registry c => .registry env c
  | pool c => .pool env c

end Call

variable {a : Address} {is : List Input} {env : Env} {cs : List Call}

end Net

end Network

/-! ### The script -/

namespace Deploy

open Network

/-- The accounts and the token that the script is given. -/
structure DeployEnv where
  admin : Address
  treasury : Address
  attester : Address
  token : Address

/-- The invocations of the script: the administrator signs. -/
def DeployEnv.env (who : DeployEnv) : Env := ⟨fun a => decide (a = who.admin), fun _ => true⟩

/-- The arguments of `add_region`. -/
def RegionConfig.encode (region : RegionConfig) : Option RemitBridge.RegionConfig := do
  let regionId ← scvSymbol region.id
  let minBond ← scvI128 region.minBond
  let maxAgents ← scvU32 region.maxAgents
  some ⟨regionId, minBond, maxAgents, true⟩

/-- The arguments of `open_region`. -/
def RegionConfig.encodeCap (region : RegionConfig) : Option (Symbol × U32) := do
  let regionId ← scvSymbol region.id
  let utilizationCapBps ← scvU32 region.utilizationCapBps
  some (regionId, utilizationCapBps)

/-- The arguments of `map_corridor`. -/
def CorridorConfig.encode (corridor : CorridorConfig) : Option (Symbol × Symbol) := do
  let corridorId ← scvSymbol corridor.id
  let regionId ← scvSymbol corridor.regionId
  some (corridorId, regionId)

/-- The argument of `set_tier_thresholds`. -/
def TierConfig.encode (tier : TierConfig) : Option TierThresholds := do
  let corridorId ← scvSymbol tier.corridorId
  let tier1Max ← scvI128 tier.tier1Max
  let tier2Max ← scvI128 tier.tier2Max
  let dailyLimit ← scvI128 tier.enhancedDailyLimit
  some ⟨corridorId, tier1Max, tier2Max, dailyLimit⟩

section

variable (N : Net) (who : DeployEnv) (config : DeployConfig)

def DeployConfig.initializePool : Option Pool.Call := do
  let collateralRatioBps ← scvU32 config.liquidityPool.collateralRatioBps
  let defaultUtilizationCapBps ← scvU32 config.liquidityPool.defaultUtilizationCapBps
  some (.initializeContract who.admin N.registry who.token collateralRatioBps
    defaultUtilizationCapBps)

def DeployConfig.initializeEscrow : Option Escrow.Call := do
  let feeBps ← scvU32 config.escrow.feeBps
  let maxExpirySecs ← scvU64 config.escrow.maxExpirySecs
  some (.initializeContract who.admin N.registry N.hook who.treasury feeBps maxExpirySecs)

/-- One call of the script: its label, and the call, unless an argument cannot be encoded. -/
structure Command where
  label : String
  call : Option Net.Call

def addRegion (region : RegionConfig) : Command where
  label := "agent-registry.add_region(" ++ region.id ++ ")"
  call := region.encode.map fun r => .registry (.addRegion r.regionId r.minBond r.maxAgents)

def openRegion (region : RegionConfig) : Command where
  label := "liquidity-pool.open_region(" ++ region.id ++ ")"
  call := region.encodeCap.map fun r => .pool (.openRegion r.1 r.2)

def mapCorridor (corridor : CorridorConfig) : Command where
  label := "agent-registry.map_corridor(" ++ corridor.id ++ ")"
  call := corridor.encode.map fun c => .registry (.mapCorridor c.1 c.2)

def setTierThresholds (tier : TierConfig) : Command where
  label := "compliance-hook.set_tier_thresholds(" ++ tier.corridorId ++ ")"
  call := tier.encode.map fun t => .hook (.setTierThresholds t)

/-- The calls of the script, in their order. -/
def DeployConfig.commands : List Command :=
  [⟨"agent-registry.initialize",
      some (.registry (.initializeContract who.admin who.token who.treasury))⟩,
    ⟨"compliance-hook.initialize", some (.hook (.initializeContract who.admin))⟩,
    ⟨"liquidity-pool.initialize", (config.initializePool N who).map .pool⟩,
    ⟨"remit-escrow.initialize", (config.initializeEscrow N who).map .escrow⟩,
    ⟨"compliance-hook.set_escrow", some (.hook (.setEscrow N.escrow))⟩,
    ⟨"compliance-hook.set_operator(attester)", some (.hook (.setOperator who.attester true))⟩] ++
  (config.regions.flatMap fun region => [addRegion region, openRegion region]) ++
  config.corridors.map mapCorridor ++
  config.complianceTiers.map setTierThresholds

/-- The calls of the script that can be encoded. -/
def DeployConfig.calls : List Net.Call := (config.commands N who).filterMap Command.call

/-- One call: the state after it; an error if an argument cannot be encoded, or if the contract
refuses. -/
def call (s : Net.State) (command : Command) : Except String Net.State :=
  match command.call with
  | none => .error command.label
  | some c =>
    let done := N.perform s (c.within who.env)
    if (done.2.filterMap Net.Label.succeeded).isEmpty then .error command.label else .ok done.1

end

/-! ### The check of the script -/

/-- Why the check of the script fails. -/
inductive VerifyError where
  /-- The argument of a read cannot be encoded. -/
  | encoding
  /-- What was read is not what was written. -/
  | mismatch (text : String)
  deriving DecidableEq

/-- The argument of a read. -/
def readSymbol (s : String) : Except VerifyError Symbol := (scvSymbol s).elim (.error .encoding) .ok

section

variable (N : Net) (config : DeployConfig) (g : Net.Settings)

end

/-! ### The whole script -/

/-- What `deployed-addresses.json` says besides the network and the time. -/
structure Addresses where
  deployer : Address
  admin : Address
  treasury : Address
  attester : Address
  token : Address
  agentRegistry : Address
  complianceHook : Address
  liquidityPool : Address
  remitEscrow : Address
  feeBps : ℤ
  maxExpirySecs : ℤ
  collateralRatioBps : ℤ
  defaultUtilizationCapBps : ℤ
  regions : List String
  corridors : List String

section

variable (N : Net) (who : DeployEnv) (config : DeployConfig)

/-- The tier bands, as they are encoded. -/
def DeployConfig.thresholds : List TierThresholds :=
  config.complianceTiers.filterMap TierConfig.encode

/-- The settings that the configuration asks for. -/
def DeployConfig.settings : Net.Settings where
  escrow := ⟨some who.admin, do
    let feeBps ← scvU32 config.escrow.feeBps
    let maxExpirySecs ← scvU64 config.escrow.maxExpirySecs
    some ⟨N.registry, N.hook, who.treasury, feeBps, false, maxExpirySecs⟩⟩
  hook :=
    let bands := Catalogue.empty.writeAll TierThresholds.corridorId id config.thresholds
    ⟨some who.admin, some false, some N.escrow, bands.keys,
      Function.update (fun _ => false) who.attester true, bands.entry⟩
  registry :=
    let regions := Catalogue.empty.enterAll RemitBridge.RegionConfig.regionId id
      (config.regions.filterMap RegionConfig.encode)
    let corridors := Catalogue.empty.writeAll Prod.fst Prod.snd
      (config.corridors.filterMap CorridorConfig.encode)
    ⟨some who.admin, some who.token, some who.treasury, regions.keys, regions.entry,
      corridors.entry⟩
  pool :=
    let poolConfig : Option PoolConfig := do
      let collateralRatioBps ← scvU32 config.liquidityPool.collateralRatioBps
      let defaultUtilizationCapBps ← scvU32 config.liquidityPool.defaultUtilizationCapBps
      some ⟨N.registry, who.token, collateralRatioBps, defaultUtilizationCapBps, false⟩
    let regions := Catalogue.empty.enterAll Prod.fst
      (fun r : Symbol × U32 =>
        ⟨if r.2.val = 0 then (poolConfig.map (·.defaultUtilizationCapBps)).getD r.2 else r.2, true⟩)
      (config.regions.filterMap RegionConfig.encodeCap)
    ⟨some who.admin, poolConfig, regions.keys, regions.entry⟩

/-- What the file's validation leaves to the network: the conditions under which no call of the
script fails. -/
structure DeployConfig.Deployable : Prop where
  fee : config.escrow.feeBps ≤ 500
  expiry : config.escrow.maxExpirySecs < 2 ^ 64
  cap : 1 ≤ config.liquidityPool.defaultUtilizationCapBps ∧
    config.liquidityPool.defaultUtilizationCapBps ≤ 9500
  regions : ∀ region ∈ config.regions, IsSymbol region.id ∧ amount region.minBond < 2 ^ 127 ∧
    region.maxAgents < 2 ^ 32 ∧ region.utilizationCapBps ≤ 9500
  distinct : (config.regions.map RegionConfig.id).Nodup
  corridors : ∀ corridor ∈ config.corridors, IsSymbol corridor.id
  tiers : ∀ tier ∈ config.complianceTiers, amount tier.tier1Max ≤ amount tier.tier2Max ∧
    amount tier.tier2Max ≤ amount tier.enhancedDailyLimit ∧
    0 < amount tier.enhancedDailyLimit ∧ amount tier.enhancedDailyLimit < 2 ^ 127

/-- The entry for a corridor that the hook ends up with. -/
def DeployConfig.lastTier (config : DeployConfig) (corridorId : String) : Option TierConfig :=
  config.complianceTiers.reverse.find? fun tier => tier.corridorId = corridorId

/-- The figures of the tier bands are written plainly, and as in the last entry for the corridor. -/
def DeployConfig.Plain (config : DeployConfig) : Prop :=
  ∀ tier ∈ config.complianceTiers, ∀ last, config.lastTier tier.corridorId = some last →
    toString (amount last.tier1Max : ℤ) = tier.tier1Max ∧
      toString (amount last.enhancedDailyLimit : ℤ) = tier.enhancedDailyLimit

end

variable {N : Net} {who : DeployEnv} {config : DeployConfig}

/-! ### The calls of each contract -/

section

variable {α β γ : Type} {o : Option α} {c : α → β} {t : β → Option γ} {k : α → γ}

end

end Deploy

end RemitBridge
