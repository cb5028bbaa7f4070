import RemitBridge.Soroban.Host

/-!
# The compliance hook interface

The data types of the tiered verification gate.
-/

namespace RemitBridge

/-- Verification depth a sender has reached. -/
inductive KycTier where
  | none
  | standard
  | enhanced
  deriving DecidableEq

namespace KycTier

def rank : KycTier → ℕ
  | none => 0
  | standard => 1
  | enhanced => 2

/-- Whether an attestation at this tier clears a required one. -/
def satisfies (t required : KycTier) : Bool := decide (required.rank ≤ t.rank)

theorem eq_none_of_rank_le {t : KycTier} (h : t.rank ≤ 0) : t = none := by
  cases t with
  | none => rfl
  | standard => exact absurd h (by decide)
  | enhanced => exact absurd h (by decide)

end KycTier

/-- Per-corridor tiering rules. -/
structure TierThresholds where
  corridorId : Symbol
  /-- Amount at or below which no attestation is required. -/
  tier1Max : I128
  /-- Amount at or below which a standard attestation suffices. -/
  tier2Max : I128
  /-- Daily ceiling per sender. -/
  dailyLimit : I128
  deriving DecidableEq

namespace TierThresholds

/-- Tier a transfer of `amount` requires in this corridor. -/
def requiredTier (t : TierThresholds) (amount : I128) : KycTier :=
  if amount ≤ t.tier1Max then .none
  else if amount ≤ t.tier2Max then .standard
  else .enhanced

/-- Structural validation, enforced on every write. -/
def isValid (t : TierThresholds) : Bool :=
  decide (0 ≤ t.tier1Max.val ∧ t.tier1Max ≤ t.tier2Max ∧ 0 < t.dailyLimit.val ∧
    t.tier2Max ≤ t.dailyLimit)

/-- A smaller transfer requires no higher tier. -/
theorem rank_requiredTier_mono (t : TierThresholds) {less amount : I128} (h : less ≤ amount) :
    (t.requiredTier less).rank ≤ (t.requiredTier amount).rank := by
  unfold requiredTier
  by_cases h₁ : amount ≤ t.tier1Max
  · rw [if_pos h₁, if_pos (h.trans h₁)]
  · rw [if_neg h₁]
    by_cases h₂ : amount ≤ t.tier2Max
    · rw [if_pos h₂, if_pos (h.trans h₂)]
      split_ifs <;> decide
    · rw [if_neg h₂]
      split_ifs <;> decide

end TierThresholds

/-- A verification result, held by hash only. -/
structure Attestation where
  subject : Address
  tier : KycTier
  attestationHash : BytesN 32
  regionId : Symbol
  providerId : Symbol
  issuedAt : U64
  expiresAt : U64
  revoked : Bool
  deriving DecidableEq

def Attestation.isLive (a : Attestation) (now : U64) : Bool :=
  !a.revoked && decide (now < a.expiresAt)

/-- Result of `explainTransfer`. -/
structure TransferDecision where
  allowed : Bool
  requiredTier : KycTier
  heldTier : KycTier
  /-- Machine-readable reason tag. -/
  reason : Symbol
  /-- Daily headroom left after the transfer, or `0` when refused. -/
  remainingDaily : I128
  deriving DecidableEq

/-- Aggregate counters. -/
structure ComplianceStats where
  attestationsIssued : U32
  attestationsRevoked : U32
  transfersCommitted : U32
  enhancedTierTransfers : U32
  deriving DecidableEq

/-- `ComplianceStats::default()` -/
def ComplianceStats.zero : ComplianceStats := ⟨0, 0, 0, 0⟩

/-- Failure modes of the compliance gate. -/
inductive ComplianceError where
  | notInitialized
  | alreadyInitialized
  | unauthorized
  | notAnAttester
  | notEscrow
  | invalidAmount
  | unknownCorridor
  | invalidThresholds
  | transfersPaused
  | attestationMissing
  | attestationExpired
  | attestationRevoked
  | tierTooLow
  | dailyLimitExceeded
  | invalidExpiry
  | overflow
  | escrowNotSet
  deriving DecidableEq

end RemitBridge
