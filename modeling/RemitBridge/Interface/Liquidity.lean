import RemitBridge.Soroban.Host

/-!
# The liquidity pool interface

The data types of the regional float pools.
-/

namespace RemitBridge

/-- Per-region pool state. -/
structure PoolState where
  regionId : Symbol
  /-- Principal deposited by liquidity providers, net of withdrawals. -/
  totalDeposited : I128
  /-- Float currently drawn by agents. -/
  totalDrawn : I128
  totalShares : I128
  depositorCount : U32
  /-- Ceiling on `totalDrawn / totalDeposited`, in basis points. -/
  utilizationCapBps : U32
  active : Bool
  updatedAt : U64
  deriving DecidableEq

namespace PoolState

/-- Float depositors can still take out right now; `none` if it overflows. -/
def available (s : PoolState) : Option I128 := s.totalDeposited.checkedSub s.totalDrawn

/-- Current utilization in basis points, `0` for an empty pool; `none` if it overflows. -/
def utilizationBps (s : PoolState) : Option U32 :=
  if s.totalDeposited.val ≤ 0 then some 0
  else do
    let scaled ← (max s.totalDrawn 0).checkedMul 10000
    let bps ← scaled.checkedDiv s.totalDeposited
    some (U32.ofI128OrMax bps)

end PoolState

/-- Read-only health snapshot of a region. -/
structure PoolStats where
  regionId : Symbol
  totalDeposited : I128
  totalDrawn : I128
  available : I128
  utilizationBps : U32
  utilizationCapBps : U32
  depositorCount : U32
  active : Bool
  deriving DecidableEq

/-- Contract-wide configuration. -/
structure PoolConfig where
  agentRegistry : Address
  /-- The token agents draw. -/
  token : Address
  /-- Bond required per unit of outstanding draw, in basis points. -/
  collateralRatioBps : U32
  /-- Utilization cap applied to newly opened regions. -/
  defaultUtilizationCapBps : U32
  paused : Bool
  deriving DecidableEq

/-- Aggregate counters. -/
structure LiquidityStats where
  regionsOpened : U32
  totalDeposits : U32
  totalWithdrawals : U32
  totalDraws : U32
  deriving DecidableEq

/-- `LiquidityStats::default()` -/
def LiquidityStats.zero : LiquidityStats := ⟨0, 0, 0, 0⟩

/-- Failure modes of the liquidity pool. -/
inductive LiquidityError where
  | notInitialized
  | alreadyInitialized
  | unauthorized
  | paused
  | invalidAmount
  | unknownRegion
  | regionInactive
  | regionAlreadyOpen
  | agentNotAuthorized
  | insufficientCollateral
  | utilizationCapExceeded
  | insufficientLiquidity
  | insufficientShares
  | repaymentExceedsExposure
  | zeroShares
  | invalidConfig
  | registryCallFailed
  | overflow
  deriving DecidableEq

end RemitBridge
