import RemitBridge.Interface.AgentRegistry
import RemitBridge.Interface.Liquidity
import RemitBridge.Soroban.Contract

/-!
# The liquidity pool

Providers deposit float into regional pools and get shares; agents draw float against the bond
they hold in the agent registry, and repay it.

The agent registry is a parameter (`Host`), which answers from a state `ω` of its own.
-/

namespace RemitBridge

namespace Pool

/-- What the pool emits. -/
inductive Event where
  | regionConfigured (regionId : Symbol) (utilizationCapBps : U32) (active : Bool)
  | liquidityDeposited (provider : Address) (regionId : Symbol)
    (amount shares totalDeposited : I128)
  | liquidityWithdrawn (provider : Address) (regionId : Symbol)
    (shares amount totalDeposited : I128)
  | liquidityDrawn (agent : Address) (regionId : Symbol) (amount exposure : I128)
      (utilizationBps : U32)
  | liquidityRepaid (agent : Address) (regionId : Symbol) (amount exposure : I128)
  | configUpdated (tag : Symbol) (collateralRatioBps : U32) (paused : Bool)
  | registryUpdated (registry : Address)
  | adminChanged (previous next : Address)
  deriving DecidableEq

/-- The pool's storage.  An absent list is empty. -/
structure Storage where
  admin : Option Address
  config : Option PoolConfig
  stats : Option LiquidityStats
  regionList : List Symbol
  pools : Store Symbol PoolState
  /-- Float currently drawn, by agent and region. -/
  exposures : Store (Address × Symbol) I128
  /-- Shares held, by provider and region. -/
  shares : Store (Address × Symbol) I128

/-- The storage of a contract nobody has initialised. -/
def Storage.blank : Storage := ⟨none, none, none, [], ∅, ∅, ∅⟩

abbrev World (ω : Type) := RemitBridge.World Storage Event ω

/-- What the pool relies on: its own address and the agent registry.  The first argument of a
call is the address called, the second the environment of the call, the third the time. -/
structure Host (ω : Type) where
  self : Address
  tryIsAuthorized : Address → Env → U64 → (agent : Address) → (regionId : Symbol) → ω →
    TryCall AgentRegistryError Bool × ω
  tryGetBond : Address → Env → U64 → (agent : Address) → ω → TryCall AgentRegistryError I128 × ω

open Exec

variable {ω : Type}

/-! ### Storage -/

namespace Storage

@[simps] def putAdmin (s : Storage) (admin : Address) : Storage := { s with admin := some admin }

@[simps] def putConfig (s : Storage) (config : PoolConfig) : Storage :=
  { s with config := some config }

def getStats (s : Storage) : LiquidityStats := s.stats.getD .zero

@[simps] def putStats (s : Storage) (stats : LiquidityStats) : Storage :=
  { s with stats := some stats }

def getPool (s : Storage) (regionId : Symbol) : Option PoolState := s.pools.lookup regionId

@[simps] def putPool (s : Storage) (state : PoolState) : Storage :=
  { s with pools := s.pools.insert state.regionId state }

/-- List a region, once. -/
@[simps] def pushRegion (s : Storage) (regionId : Symbol) : Storage :=
  { s with
    regionList := if regionId ∈ s.regionList then s.regionList else s.regionList ++ [regionId] }

def getExposure (s : Storage) (agent : Address) (regionId : Symbol) : I128 :=
  (s.exposures.lookup (agent, regionId)).getD 0

@[simps] def putExposure (s : Storage) (agent : Address) (regionId : Symbol) (value : I128) :
    Storage :=
  { s with exposures := s.exposures.insert (agent, regionId) value }

def getShares (s : Storage) (provider : Address) (regionId : Symbol) : I128 :=
  (s.shares.lookup (provider, regionId)).getD 0

@[simps] def putShares (s : Storage) (provider : Address) (regionId : Symbol) (value : I128) :
    Storage :=
  { s with shares := s.shares.insert (provider, regionId) value }

section

variable (s : Storage)

@[simp] theorem getStats_putPool (state : PoolState) : (s.putPool state).getStats = s.getStats :=
  rfl

@[simp] theorem getStats_pushRegion (regionId : Symbol) :
    (s.pushRegion regionId).getStats = s.getStats := rfl

@[simp] theorem getStats_putShares (provider : Address) (regionId : Symbol) (value : I128) :
    (s.putShares provider regionId value).getStats = s.getStats := rfl

@[simp] theorem getStats_putExposure (agent : Address) (regionId : Symbol) (value : I128) :
    (s.putExposure agent regionId value).getStats = s.getStats := rfl

end

end Storage

def getAdmin : Exec (World ω) LiquidityError Address := do
  okOr (← read Storage.admin) .notInitialized

def getConfig : Exec (World ω) LiquidityError PoolConfig := do
  okOr (← read Storage.config) .notInitialized

def setConfig (config : PoolConfig) : Exec (World ω) LiquidityError Unit :=
  write fun s => s.putConfig config

def setStats (stats : LiquidityStats) : Exec (World ω) LiquidityError Unit :=
  write fun s => s.putStats stats

def setPool (state : PoolState) : Exec (World ω) LiquidityError Unit :=
  write fun s => s.putPool state

/-! ### Helpers -/

def minCollateralRatioBps : U32 := 10000

def maxCollateralRatioBps : U32 := 100000

def maxUtilizationCapBps : U32 := 9500

def requireAdmin (env : Env) : Exec (World ω) LiquidityError Address := do
  let admin ← getAdmin
  requireAuth env admin
  pure admin

def loadPool (regionId : Symbol) : Exec (World ω) LiquidityError PoolState := do
  okOr (← read fun s => s.getPool regionId) .unknownRegion

/-- Bond that covers an exposure at the given ratio; `none` if it overflows. -/
def bondFor (exposure : I128) (collateralRatioBps : U32) : Option I128 := do
  let scaled ← exposure.checkedMul collateralRatioBps.toI128
  scaled.checkedDiv 10000

/-- Bond an agent must hold to cover `exposure` at the configured ratio. -/
def bondRequirement (exposure : I128) : Exec (World ω) LiquidityError I128 := do
  let config ← getConfig
  okOr (bondFor exposure config.collateralRatioBps) .overflow

variable (H : Host ω)

def checkAuthorized (env : Env) (registry agent : Address) (regionId : Symbol) :
    Exec (World ω) LiquidityError Unit := do
  let now ← timestamp
  let outcome ← callPeers (H.tryIsAuthorized registry (env.invokedBy H.self) now agent regionId)
  match outcome with
  | .ok true => pure ()
  | .ok false => fail .agentNotAuthorized
  | .badValue | .err _ | .failed => fail .registryCallFailed

def registryBond (env : Env) (registry agent : Address) : Exec (World ω) LiquidityError I128 := do
  let now ← timestamp
  let outcome ← callPeers (H.tryGetBond registry (env.invokedBy H.self) now agent)
  match outcome with
  | .ok bond => pure bond
  | .badValue | .err _ | .failed => fail .registryCallFailed

def validateRatio (bps : U32) : Exec (World ω) LiquidityError Unit :=
  refuseIf (¬ (minCollateralRatioBps ≤ bps ∧ bps ≤ maxCollateralRatioBps)) .invalidConfig

def validateCap (bps : U32) : Exec (World ω) LiquidityError Unit :=
  refuseIf (bps.val = 0 ∨ maxUtilizationCapBps < bps) .invalidConfig

/-- Shares minted for a deposit.  The first deposit sets the share price at exactly 1. -/
def sharesFor (amount : I128) (state : PoolState) : Option I128 :=
  if state.totalShares.val ≤ 0 ∨ state.totalDeposited.val ≤ 0 then some amount
  else do
    let scaled ← amount.checkedMul state.totalShares
    scaled.checkedDiv state.totalDeposited

/-- Float paid for shares. -/
def amountFor (shares : I128) (state : PoolState) : Option I128 := do
  let scaled ← shares.checkedMul state.totalDeposited
  scaled.checkedDiv state.totalShares

/-- Utilization in basis points with `drawn` drawn; `none` if it overflows. -/
def utilizationWith (drawn : I128) (state : PoolState) : Option U32 :=
  if state.totalDeposited.val ≤ 0 then some 10000
  else do
    let scaled ← drawn.checkedMul 10000
    let bps ← scaled.checkedDiv state.totalDeposited
    some (U32.ofI128OrMax bps)

/-! ### Entry points: administration -/

def initializeContract (env : Env) (admin agentRegistry token : Address)
    (collateralRatioBps defaultUtilizationCapBps : U32) : Exec (World ω) LiquidityError Unit := do
  let current ← read Storage.admin
  refuseIf (current.isSome = true) .alreadyInitialized
  validateRatio collateralRatioBps
  validateCap defaultUtilizationCapBps
  requireAuth env admin
  write fun s => s.putAdmin admin
  setConfig ⟨agentRegistry, token, collateralRatioBps, defaultUtilizationCapBps, false⟩
  setStats .zero
  pure ()

def setAdmin (env : Env) (newAdmin : Address) : Exec (World ω) LiquidityError Unit := do
  let previous ← requireAdmin env
  write fun s => s.putAdmin newAdmin
  publish (.adminChanged previous newAdmin)
  pure ()

def setAgentRegistry (env : Env) (agentRegistry : Address) :
    Exec (World ω) LiquidityError Unit := do
  let _ ← requireAdmin env
  let config ← getConfig
  setConfig { config with agentRegistry := agentRegistry }
  publish (.registryUpdated agentRegistry)
  pure ()

def setCollateralRatio (env : Env) (collateralRatioBps : U32) :
    Exec (World ω) LiquidityError Unit := do
  let _ ← requireAdmin env
  validateRatio collateralRatioBps
  let config ← getConfig
  setConfig { config with collateralRatioBps := collateralRatioBps }
  publish (.configUpdated ⟨"collat"⟩ collateralRatioBps config.paused)
  pure ()

def setDefaultUtilizationCap (env : Env) (bps : U32) : Exec (World ω) LiquidityError Unit := do
  let _ ← requireAdmin env
  validateCap bps
  let config ← getConfig
  setConfig { config with defaultUtilizationCapBps := bps }
  publish (.configUpdated ⟨"util"⟩ config.collateralRatioBps config.paused)
  pure ()

def setUtilizationCap (env : Env) (regionId : Symbol) (bps : U32) :
    Exec (World ω) LiquidityError Unit := do
  let _ ← requireAdmin env
  validateCap bps
  let state ← loadPool regionId
  let now ← timestamp
  setPool { state with utilizationCapBps := bps, updatedAt := now }
  publish (.regionConfigured regionId bps state.active)
  pure ()

def setRegionActive (env : Env) (regionId : Symbol) (active : Bool) :
    Exec (World ω) LiquidityError Unit := do
  let _ ← requireAdmin env
  let state ← loadPool regionId
  let now ← timestamp
  setPool { state with active := active, updatedAt := now }
  publish (.regionConfigured regionId state.utilizationCapBps active)
  pure ()

def setPaused (env : Env) (paused : Bool) : Exec (World ω) LiquidityError Unit := do
  let _ ← requireAdmin env
  let config ← getConfig
  setConfig { config with paused := paused }
  publish (.configUpdated ⟨"paused"⟩ config.collateralRatioBps paused)
  pure ()

def openRegion (env : Env) (regionId : Symbol) (utilizationCapBps : U32) :
    Exec (World ω) LiquidityError Unit := do
  let _ ← requireAdmin env
  let existing ← read fun s => s.getPool regionId
  refuseIf (existing.isSome = true) .regionAlreadyOpen
  let config ← getConfig
  refuseIf (maxUtilizationCapBps < utilizationCapBps) .invalidConfig
  let cap :=
    if utilizationCapBps.val = 0 then config.defaultUtilizationCapBps else utilizationCapBps
  let now ← timestamp
  setPool ⟨regionId, 0, 0, 0, 0, cap, true, now⟩
  write fun s => s.pushRegion regionId
  let counters ← read Storage.getStats
  setStats { counters with regionsOpened := counters.regionsOpened.saturatingAdd 1 }
  publish (.regionConfigured regionId cap true)
  pure ()

/-! ### Entry points: liquidity providers -/

def depositLiquidity (env : Env) (provider : Address) (regionId : Symbol) (amount : I128) :
    Exec (World ω) LiquidityError I128 := do
  requireAuth env provider
  refuseIf (amount.val ≤ 0) .invalidAmount
  let config ← getConfig
  refuseIf (config.paused = true) .paused
  let state ← loadPool regionId
  refuseIf (state.active = false) .regionInactive
  let shares ← okOr (sharesFor amount state) .overflow
  refuseIf (shares.val ≤ 0) .zeroShares
  transferToken env H.self config.token provider H.self amount
  let previousShares ← read fun s => s.getShares provider regionId
  let held ← orTrap (previousShares.checkedAdd shares)
  write fun s => s.putShares provider regionId held
  let totalDeposited ← okOr (state.totalDeposited.checkedAdd amount) .overflow
  let totalShares ← okOr (state.totalShares.checkedAdd shares) .overflow
  let depositorCount := if previousShares.val = 0 then state.depositorCount.saturatingAdd 1
    else state.depositorCount
  let now ← timestamp
  setPool { state with totalDeposited, totalShares, depositorCount, updatedAt := now }
  let counters ← read Storage.getStats
  setStats { counters with totalDeposits := counters.totalDeposits.saturatingAdd 1 }
  publish (.liquidityDeposited provider regionId amount shares totalDeposited)
  pure shares

def withdrawLiquidity (env : Env) (provider : Address) (regionId : Symbol) (shares : I128) :
    Exec (World ω) LiquidityError I128 := do
  requireAuth env provider
  refuseIf (shares.val ≤ 0) .invalidAmount
  let config ← getConfig
  refuseIf (config.paused = true) .paused
  let state ← loadPool regionId
  let held ← read fun s => s.getShares provider regionId
  refuseIf (held < shares) .insufficientShares
  refuseIf (state.totalShares.val ≤ 0) .zeroShares
  let amount ← okOr (amountFor shares state) .overflow
  let available ← orTrap state.available
  refuseIf (available < amount) .insufficientLiquidity
  transferToken env H.self config.token H.self provider amount
  let left ← orTrap (held.checkedSub shares)
  write fun s => s.putShares provider regionId left
  let totalDeposited ← orTrap (state.totalDeposited.checkedSub amount)
  let totalShares ← orTrap (state.totalShares.checkedSub shares)
  let depositorCount := if left.val = 0 then state.depositorCount.saturatingSub 1
    else state.depositorCount
  let now ← timestamp
  setPool { state with totalDeposited, totalShares, depositorCount, updatedAt := now }
  let counters ← read Storage.getStats
  setStats { counters with totalWithdrawals := counters.totalWithdrawals.saturatingAdd 1 }
  publish (.liquidityWithdrawn provider regionId shares amount totalDeposited)
  pure amount

/-! ### Entry points: agents -/

def drawLiquidity (env : Env) (agent : Address) (regionId : Symbol) (amount : I128) :
    Exec (World ω) LiquidityError I128 := do
  requireAuth env agent
  refuseIf (amount.val ≤ 0) .invalidAmount
  let config ← getConfig
  refuseIf (config.paused = true) .paused
  let state ← loadPool regionId
  refuseIf (state.active = false) .regionInactive
  checkAuthorized H env config.agentRegistry agent regionId
  let available ← orTrap state.available
  refuseIf (available < amount) .insufficientLiquidity
  let drawnAfter ← okOr (state.totalDrawn.checkedAdd amount) .overflow
  let utilizationAfter ← orTrap (utilizationWith drawnAfter state)
  refuseIf (state.utilizationCapBps < utilizationAfter) .utilizationCapExceeded
  -- Bond sufficiency is checked against the agent's total exposure in the region.
  let exposureBefore ← read fun s => s.getExposure agent regionId
  let exposureAfter ← okOr (exposureBefore.checkedAdd amount) .overflow
  let required ← bondRequirement exposureAfter
  let bond ← registryBond H env config.agentRegistry agent
  refuseIf (bond < required) .insufficientCollateral
  transferToken env H.self config.token H.self agent amount
  write fun s => s.putExposure agent regionId exposureAfter
  let now ← timestamp
  let state := { state with totalDrawn := drawnAfter, updatedAt := now }
  setPool state
  let counters ← read Storage.getStats
  setStats { counters with totalDraws := counters.totalDraws.saturatingAdd 1 }
  let utilizationBps ← orTrap state.utilizationBps
  publish (.liquidityDrawn agent regionId amount exposureAfter utilizationBps)
  pure exposureAfter

/-- Repayments stay open even when the pool is paused. -/
def repayLiquidity (env : Env) (agent : Address) (regionId : Symbol) (amount : I128) :
    Exec (World ω) LiquidityError I128 := do
  requireAuth env agent
  refuseIf (amount.val ≤ 0) .invalidAmount
  let config ← getConfig
  let state ← loadPool regionId
  let exposure ← read fun s => s.getExposure agent regionId
  refuseIf (exposure < amount) .repaymentExceedsExposure
  transferToken env H.self config.token agent H.self amount
  let exposureAfter ← orTrap (exposure.checkedSub amount)
  write fun s => s.putExposure agent regionId exposureAfter
  let totalDrawn ← orTrap (state.totalDrawn.checkedSub amount)
  let now ← timestamp
  setPool { state with totalDrawn, updatedAt := now }
  publish (.liquidityRepaid agent regionId amount exposureAfter)
  pure exposureAfter

/-! ### Reads -/

/-- The snapshot of a region; `none` if it overflows. -/
def toStats (state : PoolState) : Option PoolStats := do
  let available ← state.available
  let utilizationBps ← state.utilizationBps
  some ⟨state.regionId, state.totalDeposited, state.totalDrawn, available, utilizationBps,
    state.utilizationCapBps, state.depositorCount, state.active⟩

/-- The health of a region, if it is open. -/
def getPoolHealth (regionId : Symbol) : Exec (World ω) LiquidityError (Option PoolStats) := do
  match ← read fun s => s.getPool regionId with
  | none => pure none
  | some state => do
    let stats ← orTrap (toStats state)
    pure (some stats)

/-- Bond an agent would need to draw `additional` more in a region.  It does not fail. -/
def requiredBondFor (agent : Address) (regionId : Symbol) (additional : I128) (w : World ω) :
    I128 :=
  if additional.val ≤ 0 then 0
  else
    let exposure := w.store.getExposure agent regionId
    match bondRequirement (exposure.saturatingAdd additional) w with
    | .ok (required, _) => required
    | .error _ => 0

/-! ### The contract -/

/-- An entry point with its arguments. -/
inductive Call where
  | initializeContract (admin agentRegistry token : Address)
      (collateralRatioBps defaultUtilizationCapBps : U32)
  | setAdmin (newAdmin : Address)
  | setAgentRegistry (agentRegistry : Address)
  | setCollateralRatio (collateralRatioBps : U32)
  | setDefaultUtilizationCap (bps : U32)
  | setUtilizationCap (regionId : Symbol) (bps : U32)
  | setRegionActive (regionId : Symbol) (active : Bool)
  | setPaused (paused : Bool)
  | openRegion (regionId : Symbol) (utilizationCapBps : U32)
  | depositLiquidity (provider : Address) (regionId : Symbol) (amount : I128)
  | withdrawLiquidity (provider : Address) (regionId : Symbol) (shares : I128)
  | drawLiquidity (agent : Address) (regionId : Symbol) (amount : I128)
  | repayLiquidity (agent : Address) (regionId : Symbol) (amount : I128)
  deriving DecidableEq

/-- Whether the call would move float in or out. -/
def Call.movesFloat : Call → Bool
  | depositLiquidity .. | withdrawLiquidity .. | drawLiquidity .. | repayLiquidity .. => true
  | _ => false

/-- What an entry point returns. -/
inductive Ret where
  | unit
  | amount (amount : I128)
  deriving DecidableEq

/-- Execute an entry point. -/
def invoke (env : Env) : Call → Exec (World ω) LiquidityError Ret
  | .initializeContract admin agentRegistry token collateralRatioBps defaultUtilizationCapBps => do
    initializeContract env admin agentRegistry token collateralRatioBps defaultUtilizationCapBps
    pure .unit
  | .setAdmin newAdmin => do setAdmin env newAdmin; pure .unit
  | .setAgentRegistry agentRegistry => do setAgentRegistry env agentRegistry; pure .unit
  | .setCollateralRatio bps => do setCollateralRatio env bps; pure .unit
  | .setDefaultUtilizationCap bps => do setDefaultUtilizationCap env bps; pure .unit
  | .setUtilizationCap regionId bps => do setUtilizationCap env regionId bps; pure .unit
  | .setRegionActive regionId active => do setRegionActive env regionId active; pure .unit
  | .setPaused paused => do setPaused env paused; pure .unit
  | .openRegion regionId bps => do openRegion env regionId bps; pure .unit
  | .depositLiquidity provider regionId amount => do
    let shares ← depositLiquidity H env provider regionId amount
    pure (.amount shares)
  | .withdrawLiquidity provider regionId shares => do
    let amount ← withdrawLiquidity H env provider regionId shares
    pure (.amount amount)
  | .drawLiquidity agent regionId amount => do
    let exposure ← drawLiquidity H env agent regionId amount
    pure (.amount exposure)
  | .repayLiquidity agent regionId amount => do
    let exposure ← repayLiquidity H env agent regionId amount
    pure (.amount exposure)

/-- The pool as a contract. -/
def contract : Contract Storage Event ω Call Ret LiquidityError := ⟨H.self, invoke H⟩

abbrev Label (ω : Type) := Action ω Call Ret Event LiquidityError

end Pool

end RemitBridge
