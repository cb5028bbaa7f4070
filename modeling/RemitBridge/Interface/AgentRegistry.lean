import RemitBridge.Soroban.Host

/-!
# The agent registry interface

The data types of the bonded registry of cash-out agents.
-/

namespace RemitBridge

/-- Lifecycle state of an agent. -/
inductive AgentStatus where
  /-- Bond posted, awaiting approval. -/
  | pending
  /-- Approved: may settle transfers in its region. -/
  | authorized
  /-- Blocked while an incident is investigated. -/
  | suspended
  /-- Removed. -/
  | revoked
  deriving DecidableEq

namespace AgentStatus

/-- Whether an agent in this state may settle transfers. -/
def canSettle (s : AgentStatus) : Bool := decide (s = authorized)

/-- Whether the agent may withdraw its bond. -/
def bondIsWithdrawable (s : AgentStatus) : Bool := decide (s ≠ authorized)

end AgentStatus

/-- An agent's record. -/
structure Agent where
  address : Address
  regionId : Symbol
  /-- Token the bond is denominated in. -/
  bondToken : Address
  bond : I128
  status : AgentStatus
  /-- Number of successful slashes. -/
  slashCount : U32
  registeredAt : U64
  updatedAt : U64
  deriving DecidableEq

/-- Operating envelope of a region. -/
structure RegionConfig where
  regionId : Symbol
  /-- Minimum bond required to register. -/
  minBond : I128
  /-- Cap on authorised agents; `0` means uncapped. -/
  maxAgents : U32
  active : Bool
  deriving DecidableEq

/-- Whether a bond satisfies the region's minimum. -/
def RegionConfig.acceptsBond (c : RegionConfig) (bond : I128) : Bool := decide (c.minBond ≤ bond)

/-- Aggregate counters. -/
structure RegistryStats where
  totalAgents : U32
  authorizedAgents : U32
  totalBonded : I128
  totalSlashed : I128
  deriving DecidableEq

/-- `RegistryStats::default()` -/
def RegistryStats.zero : RegistryStats := ⟨0, 0, 0, 0⟩

/-- Failure modes of the registry. -/
inductive AgentRegistryError where
  | notInitialized
  | alreadyInitialized
  | unauthorized
  | invalidAmount
  | unknownRegion
  | regionInactive
  | regionFull
  | bondBelowMinimum
  | agentAlreadyRegistered
  | agentNotRegistered
  | insufficientBond
  | bondLockedWhileAuthorized
  | invalidStatusTransition
  | bondTokenMismatch
  | regionAlreadyExists
  | slashExceedsBond
  | unknownCorridor
  | invalidAdmin
  | overflow
  deriving DecidableEq

end RemitBridge
