import RemitBridge.Interface.Compliance
import RemitBridge.Soroban.Contract

/-!
# The compliance hook

The hook decides whether a transfer may proceed, from the corridor's thresholds, the sender's
attestation and the volume the sender has committed that day, and records the volume of the
transfers that do.  It calls nobody.
-/

namespace RemitBridge

namespace Hook

/-- What the hook emits. -/
inductive Event where
  | attestationPublished (subject : Address) (tier : KycTier) (attestationHash : BytesN 32)
      (providerId : Symbol) (expiresAt : U64)
  | attestationRevoked (subject : Address) (reason : Symbol)
  | thresholdsUpdated (corridorId : Symbol) (tier1Max tier2Max dailyLimit : I128)
  | operatorUpdated (operator : Address) (allowed : Bool)
  | pauseChanged (paused : Bool)
  | escrowUpdated (escrow : Address)
  | transferCommitted (sender : Address) (corridorId : Symbol) (amount : I128) (tier : KycTier)
      (newDailyTotal : I128)
  deriving DecidableEq

/-- The hook's storage.  An absent list is empty. -/
structure Storage where
  admin : Option Address
  paused : Option Bool
  /-- The one contract allowed to commit volume. -/
  escrow : Option Address
  stats : Option ComplianceStats
  corridorList : List Symbol
  /-- Addresses allowed to publish attestations. -/
  operators : Store Address Bool
  thresholds : Store Symbol TierThresholds
  attestations : Store Address Attestation
  /-- Volume committed, by sender, corridor and day. -/
  volumes : Store (Address × Symbol × U64) I128

/-- The storage of a contract nobody has initialised. -/
def Storage.blank : Storage := ⟨none, none, none, none, [], ∅, ∅, ∅, ∅⟩

abbrev World (ω : Type) := RemitBridge.World Storage Event ω

open Exec

variable {ω : Type}

/-! ### Storage -/

namespace Storage

@[simps] def putAdmin (s : Storage) (admin : Address) : Storage := { s with admin := some admin }

def isPaused (s : Storage) : Bool := s.paused.getD false

@[simps] def putPaused (s : Storage) (paused : Bool) : Storage := { s with paused := some paused }

@[simps] def putEscrow (s : Storage) (escrow : Address) : Storage :=
  { s with escrow := some escrow }

def getStats (s : Storage) : ComplianceStats := s.stats.getD .zero

@[simps] def putStats (s : Storage) (stats : ComplianceStats) : Storage :=
  { s with stats := some stats }

def isOperator (s : Storage) (operator : Address) : Bool :=
  (s.operators.lookup operator).getD false

@[simps] def putOperator (s : Storage) (operator : Address) (allowed : Bool) : Storage :=
  { s with operators := s.operators.insert operator allowed }

def getThresholds (s : Storage) (corridorId : Symbol) : Option TierThresholds :=
  s.thresholds.lookup corridorId

@[simps] def putThresholds (s : Storage) (config : TierThresholds) : Storage :=
  { s with thresholds := s.thresholds.insert config.corridorId config }

/-- List a corridor, once. -/
@[simps] def pushCorridor (s : Storage) (corridorId : Symbol) : Storage :=
  { s with
    corridorList :=
      if corridorId ∈ s.corridorList then s.corridorList else s.corridorList ++ [corridorId] }

def getAttestation (s : Storage) (subject : Address) : Option Attestation :=
  s.attestations.lookup subject

@[simps] def putAttestation (s : Storage) (record : Attestation) : Storage :=
  { s with attestations := s.attestations.insert record.subject record }

def dailyVolume (s : Storage) (subject : Address) (corridorId : Symbol) (day : U64) : I128 :=
  (s.volumes.lookup (subject, corridorId, day)).getD 0

@[simps] def putDailyVolume (s : Storage) (subject : Address) (corridorId : Symbol) (day : U64)
    (total : I128) : Storage :=
  { s with volumes := s.volumes.insert (subject, corridorId, day) total }

end Storage

def getAdmin : Exec (World ω) ComplianceError Address := do
  okOr (← read Storage.admin) .notInitialized

def getEscrow : Exec (World ω) ComplianceError Address := do
  okOr (← read Storage.escrow) .escrowNotSet

def setStats (stats : ComplianceStats) : Exec (World ω) ComplianceError Unit :=
  write fun s => s.putStats stats

/-! ### Rolling volume -/

def secondsPerDay : ℤ := 86400

/-- UTC day of a time. -/
def dayOf (timestamp : U64) : U64 :=
  ⟨timestamp.val / secondsPerDay, Int.ediv_nonneg timestamp.lo_le (by decide),
    (Int.ediv_le_self _ timestamp.lo_le).trans timestamp.le_hi⟩

/-! ### Helpers -/

/-- Outcome of a successful evaluation. -/
structure Evaluation where
  requiredTier : KycTier
  heldTier : KycTier
  remainingDaily : I128
  /-- The sender's volume for the day, with this transfer. -/
  dailyTotalAfter : I128
  deriving DecidableEq

def requireAdmin (env : Env) : Exec (World ω) ComplianceError Address := do
  let admin ← getAdmin
  requireAuth env admin
  pure admin

/-- Machine-readable tag for a refusal. -/
def reasonTag : ComplianceError → Symbol
  | .notInitialized => ⟨"no_init"⟩
  | .alreadyInitialized => ⟨"inited"⟩
  | .unauthorized => ⟨"unauth"⟩
  | .notAnAttester => ⟨"no_attest"⟩
  | .notEscrow => ⟨"not_escr"⟩
  | .invalidAmount => ⟨"bad_amt"⟩
  | .unknownCorridor => ⟨"no_corr"⟩
  | .invalidThresholds => ⟨"bad_tier"⟩
  | .transfersPaused => ⟨"paused"⟩
  | .attestationMissing => ⟨"kyc_need"⟩
  | .attestationExpired => ⟨"kyc_exp"⟩
  | .attestationRevoked => ⟨"kyc_rev"⟩
  | .tierTooLow => ⟨"tier_low"⟩
  | .dailyLimitExceeded => ⟨"daily_cap"⟩
  | .invalidExpiry => ⟨"exp_bad"⟩
  | .overflow => ⟨"overflow"⟩
  | .escrowNotSet => ⟨"no_escr"⟩

/-- The tier on record. -/
def recordedTier (attestation : Option Attestation) : KycTier :=
  attestation.elim .none Attestation.tier

/-- The tier a sender holds, if it is as high as required.  Where none is required an expired
attestation counts as well. -/
def heldTierFor (attestation : Option Attestation) (requiredTier : KycTier) (now : U64) :
    Exec (World ω) ComplianceError KycTier :=
  if requiredTier = .none then pure (recordedTier attestation)
  else do
    let record ← okOr attestation .attestationMissing
    refuseIf (record.expiresAt ≤ now) .attestationExpired
    refuseIf (record.tier.satisfies requiredTier = false) .tierTooLow
    pure record.tier

/-- May this transfer proceed? -/
def evaluate (sender : Address) (amount : I128) (corridorId : Symbol) :
    Exec (World ω) ComplianceError Evaluation := do
  let paused ← read Storage.isPaused
  refuseIf (paused = true) .transfersPaused
  refuseIf (amount.val ≤ 0) .invalidAmount
  let thresholds ← okOr (← read fun s => s.getThresholds corridorId) .unknownCorridor
  let requiredTier := thresholds.requiredTier amount
  let now ← timestamp
  let spent ← read fun s => s.dailyVolume sender corridorId (dayOf now)
  let headroom ← okOr (spent.checkedAdd amount) .overflow
  refuseIf (thresholds.dailyLimit < headroom) .dailyLimitExceeded
  let remainingDaily ← orTrap (thresholds.dailyLimit.checkedSub headroom)
  let attestation ← read fun s => s.getAttestation sender
  -- A revoked attestation blocks even a transfer that needs no verification.
  refuseIf (attestation.any Attestation.revoked = true) .attestationRevoked
  let heldTier ← heldTierFor attestation requiredTier now
  pure ⟨requiredTier, heldTier, remainingDaily, headroom⟩

/-! ### Entry points: administration -/

def initializeContract (env : Env) (admin : Address) : Exec (World ω) ComplianceError Unit := do
  let current ← read Storage.admin
  refuseIf (current.isSome = true) .alreadyInitialized
  requireAuth env admin
  write fun s => s.putAdmin admin
  write fun s => s.putPaused false
  setStats .zero
  pure ()

def setOperator (env : Env) (operator : Address) (allowed : Bool) :
    Exec (World ω) ComplianceError Unit := do
  let _ ← requireAdmin env
  write fun s => s.putOperator operator allowed
  publish (.operatorUpdated operator allowed)
  pure ()

def setEscrow (env : Env) (escrow : Address) : Exec (World ω) ComplianceError Unit := do
  let _ ← requireAdmin env
  write fun s => s.putEscrow escrow
  publish (.escrowUpdated escrow)
  pure ()

def setPaused (env : Env) (paused : Bool) : Exec (World ω) ComplianceError Unit := do
  let _ ← requireAdmin env
  write fun s => s.putPaused paused
  publish (.pauseChanged paused)
  pure ()

def setTierThresholds (env : Env) (thresholds : TierThresholds) :
    Exec (World ω) ComplianceError Unit := do
  let _ ← requireAdmin env
  refuseIf (thresholds.isValid = false) .invalidThresholds
  write fun s => s.putThresholds thresholds
  write fun s => s.pushCorridor thresholds.corridorId
  publish (.thresholdsUpdated thresholds.corridorId thresholds.tier1Max thresholds.tier2Max
    thresholds.dailyLimit)
  pure ()

/-! ### Entry points: attestations -/

def publishAttestation (env : Env) (attester subject : Address) (tier : KycTier)
    (attestationHash : BytesN 32) (regionId providerId : Symbol) (expiresAt : U64) :
    Exec (World ω) ComplianceError Unit := do
  requireAuth env attester
  let allowed ← read fun s => s.isOperator attester
  refuseIf (allowed = false) .notAnAttester
  let now ← timestamp
  refuseIf (expiresAt ≤ now) .invalidExpiry
  let previous ← read fun s => s.getAttestation subject
  write fun s => s.putAttestation
    ⟨subject, tier, attestationHash, regionId, providerId, now, expiresAt, false⟩
  let stats ← read Storage.getStats
  setStats (if previous.any (fun record => record.isLive now) = true then stats
    else { stats with attestationsIssued := stats.attestationsIssued.saturatingAdd 1 })
  publish (.attestationPublished subject tier attestationHash providerId expiresAt)
  pure ()

/-- What a revocation does to a record; one that is revoked already stays as it is. -/
def revokeRecord (record : Attestation) (subject : Address) (reason : Symbol) :
    Exec (World ω) ComplianceError Unit :=
  if record.revoked = true then pure ()
  else do
    write fun s => s.putAttestation { record with revoked := true }
    let stats ← read Storage.getStats
    setStats { stats with attestationsRevoked := stats.attestationsRevoked.saturatingAdd 1 }
    publish (.attestationRevoked subject reason)
    pure ()

def revokeAttestation (env : Env) (attester subject : Address) (reason : Symbol) :
    Exec (World ω) ComplianceError Unit := do
  requireAuth env attester
  let allowed ← read fun s => s.isOperator attester
  refuseIf (allowed = false) .notAnAttester
  let record ← okOr (← read fun s => s.getAttestation subject) .attestationMissing
  revokeRecord record subject reason
  pure ()

/-! ### Entry points: the gate -/

/-- Whether a transfer may proceed.  Writes nothing. -/
def checkTransferAllowed (sender : Address) (amount : I128) (corridorId : Symbol) :
    Exec (World ω) ComplianceError Bool := do
  let _ ← evaluate sender amount corridorId
  pure true

/-- The decision on a transfer, with its reason; a trap of the evaluation is a trap. -/
def explainTransfer (sender : Address) (amount : I128) (corridorId : Symbol) (w : World ω) :
    Except (Fault ComplianceError) TransferDecision :=
  match evaluate sender amount corridorId w with
  | .ok (evaluation, _) =>
    .ok ⟨true, evaluation.requiredTier, evaluation.heldTier, ⟨"ok"⟩, evaluation.remainingDaily⟩
  | .error (.err e) =>
    .ok ⟨false, (w.store.getThresholds corridorId).elim .none fun t => t.requiredTier amount,
      recordedTier (w.store.getAttestation sender), reasonTag e, 0⟩
  | .error .trap => .error .trap

/-- Evaluate a transfer and add its amount to the sender's volume of the day.  Only the registered
escrow may do so. -/
def commitTransfer (env : Env) (sender : Address) (amount : I128) (corridorId : Symbol) :
    Exec (World ω) ComplianceError I128 := do
  let escrow ← getEscrow
  requireAuth env escrow
  refuseIf (amount.val ≤ 0) .invalidAmount
  let evaluation ← evaluate sender amount corridorId
  let now ← timestamp
  write fun s => s.putDailyVolume sender corridorId (dayOf now) evaluation.dailyTotalAfter
  let stats ← read Storage.getStats
  setStats { stats with
    transfersCommitted := stats.transfersCommitted.saturatingAdd 1
    enhancedTierTransfers := if evaluation.requiredTier = .enhanced then
      stats.enhancedTierTransfers.saturatingAdd 1 else stats.enhancedTierTransfers }
  publish (.transferCommitted sender corridorId amount evaluation.requiredTier
    evaluation.dailyTotalAfter)
  pure evaluation.dailyTotalAfter

/-! ### The contract -/

/-- An entry point with its arguments. -/
inductive Call where
  | initializeContract (admin : Address)
  | setOperator (operator : Address) (allowed : Bool)
  | setEscrow (escrow : Address)
  | setPaused (paused : Bool)
  | setTierThresholds (thresholds : TierThresholds)
  | publishAttestation (attester subject : Address) (tier : KycTier) (attestationHash : BytesN 32)
      (regionId providerId : Symbol) (expiresAt : U64)
  | revokeAttestation (attester subject : Address) (reason : Symbol)
  | checkTransferAllowed (sender : Address) (amount : I128) (corridorId : Symbol)
  | commitTransfer (sender : Address) (amount : I128) (corridorId : Symbol)
  deriving DecidableEq

/-- Whether the call would commit volume. -/
def Call.commits : Call → Bool
  | commitTransfer .. => true
  | _ => false

/-- What an entry point returns. -/
inductive Ret where
  | unit
  | allowed (allowed : Bool)
  | total (total : I128)
  deriving DecidableEq

/-- Execute an entry point. -/
def invoke (env : Env) : Call → Exec (World ω) ComplianceError Ret
  | .initializeContract admin => do initializeContract env admin; pure .unit
  | .setOperator operator allowed => do setOperator env operator allowed; pure .unit
  | .setEscrow escrow => do setEscrow env escrow; pure .unit
  | .setPaused paused => do setPaused env paused; pure .unit
  | .setTierThresholds thresholds => do setTierThresholds env thresholds; pure .unit
  | .publishAttestation attester subject tier attestationHash regionId providerId expiresAt => do
    publishAttestation env attester subject tier attestationHash regionId providerId expiresAt
    pure .unit
  | .revokeAttestation attester subject reason => do
    revokeAttestation env attester subject reason
    pure .unit
  | .checkTransferAllowed sender amount corridorId => do
    let allowed ← checkTransferAllowed sender amount corridorId
    pure (.allowed allowed)
  | .commitTransfer sender amount corridorId => do
    let total ← commitTransfer env sender amount corridorId
    pure (.total total)

/-- The hook as a contract. -/
def contract (self : Address) : Contract Storage Event ω Call Ret ComplianceError := ⟨self, invoke⟩

abbrev Label (ω : Type) := Action ω Call Ret Event ComplianceError

end Hook

end RemitBridge
