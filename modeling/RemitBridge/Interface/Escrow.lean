import RemitBridge.Soroban.Host
import Mathlib.Tactic.Simps.Basic

/-!
# The escrow interface

The data types of the remittance escrow: transfers and their lifecycle, the contract-wide
configuration and counters, and the errors.
-/

namespace RemitBridge

/-- Platform fee ceiling, in basis points (5%). -/
def maxFeeBps : U32 := 500

/-- The lifecycle of a transfer. -/
inductive TransferStatus where
  /-- Funds locked, claim code outstanding. -/
  | pending
  /-- Settled to an authorised agent. -/
  | claimed
  /-- Not claimed before expiry; returned to the sender. -/
  | refunded
  /-- Withdrawn by the sender before any claim. -/
  | cancelled
  deriving DecidableEq

/-- A single remittance held in escrow.  `claimHash` is the hash of the claim code. -/
structure Transfer where
  id : U64
  sender : Address
  amount : I128
  token : Address
  claimHash : BytesN 32
  corridorId : Symbol
  expiry : U64
  status : TransferStatus
  createdAt : U64
  /-- `0` until the transfer is settled. -/
  settledAt : U64
  /-- `none` until claimed. -/
  claimedBy : Option Address
  deriving DecidableEq

namespace Transfer

def isPending (t : Transfer) : Bool := decide (t.status = .pending)

/-- A transfer is stale once the clock passes its expiry. -/
def hasExpired (t : Transfer) (now : U64) : Bool := decide (t.expiry < now)

@[simp] theorem isPending_eq_true {t : Transfer} : t.isPending = true ↔ t.status = .pending :=
  decide_eq_true_iff

@[simp] theorem isPending_eq_false {t : Transfer} : t.isPending = false ↔ t.status ≠ .pending :=
  decide_eq_false_iff_not

@[simp] theorem hasExpired_eq_true {t : Transfer} {now : U64} :
    t.hasExpired now = true ↔ t.expiry < now := decide_eq_true_iff

@[simp] theorem hasExpired_eq_false {t : Transfer} {now : U64} :
    t.hasExpired now = false ↔ ¬ t.expiry < now := decide_eq_false_iff_not

end Transfer

/-- The record of a transfer when it is created. -/
@[simps] def Transfer.lock (id : U64) (sender : Address) (amount : I128) (token : Address)
    (claimHash : BytesN 32) (corridorId : Symbol) (expiry now : U64) : Transfer where
  id := id
  sender := sender
  amount := amount
  token := token
  claimHash := claimHash
  corridorId := corridorId
  expiry := expiry
  status := .pending
  createdAt := now
  settledAt := 0
  claimedBy := none

/-- The record of a transfer once it is settled. -/
@[simps] def Transfer.settle (t : Transfer) (status : TransferStatus) (now : U64)
    (claimedBy : Option Address) : Transfer :=
  { t with status, settledAt := now, claimedBy }

/-- Contract-wide configuration. -/
structure EscrowConfig where
  agentRegistry : Address
  complianceHook : Address
  /-- Receives the fees. -/
  treasury : Address
  feeBps : U32
  paused : Bool
  /-- Upper bound on the time to expiry at creation. -/
  maxExpirySecs : U64
  deriving DecidableEq

/-- What an agent would net for settling a transfer. -/
structure ClaimQuote where
  transferId : U64
  gross : I128
  fee : I128
  payout : I128
  deriving DecidableEq

/-- What the claiming agent gets back from a successful claim. -/
structure ClaimReceipt where
  transferId : U64
  agent : Address
  gross : I128
  fee : I128
  payout : I128
  settledAt : U64
  deriving DecidableEq

/-- Aggregate counters. -/
structure EscrowStats where
  created : U32
  claimed : U32
  refunded : U32
  cancelled : U32
  volumeLocked : I128
  volumeSettled : I128
  feesCollected : I128
  deriving DecidableEq

/-- `EscrowStats::default()` -/
def EscrowStats.zero : EscrowStats := ⟨0, 0, 0, 0, 0, 0, 0⟩

/-- Failure modes of the escrow. -/
inductive EscrowError where
  | notInitialized
  | alreadyInitialized
  | unauthorized
  | paused
  | invalidAmount
  | invalidExpiry
  | expiryTooFar
  | transferNotFound
  | transferNotPending
  | transferExpired
  | transferNotExpired
  | invalidClaimCode
  | agentNotAuthorized
  | complianceRefused
  | complianceCallFailed
  | registryCallFailed
  | feeTooHigh
  | invalidConfig
  | overflow
  | senderCannotClaim
  deriving DecidableEq

end RemitBridge
