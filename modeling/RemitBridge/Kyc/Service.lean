import RemitBridge.Backend.Contracts
import RemitBridge.Kyc.Records

/-!
# The verification service

`submitVerification` asks the provider for a check at the tier that the corridor requires, records
the outcome, and publishes an attestation if the check was passed.  Providers report later outcomes
to `webhook`, operators revoke by `revokeForSubject`, and `expireStaleAttestations` sweeps what is
no longer valid.  All of them are processes; any number of them run side by side.

`Stage` says how far a call has come, and `follows_program` that the functions go through these
stages.
-/

namespace RemitBridge

namespace Kyc

open Backend Process

open Indexer (UserRow)

/-- What the service uses of the libraries, of the providers, and for hashing. -/
structure Library extends Sdk where
  attestationHashOf : VerificationResult → List UInt8
  mockProvider : IdVerificationProvider
  /-- The adapter for the API at this address. -/
  httpProvider : String → IdVerificationProvider

structure KycSettings extends Settings where
  kycProvider : String
  kycProviderBaseUrl : Option String

structure SubmitVerificationInput where
  userId : String
  regionId : String
  amount : ℤ
  corridorId : String
  fullName : String
  dateOfBirth : String
  countryCode : String
  document : Option VerificationDocument
  address : Option PostalAddress
  sourceOfFunds : Option String
  deriving DecidableEq

structure SubmitVerificationOutput where
  attestationId : String
  outcome : VerificationOutcome
  tier : ProviderTier
  reasons : List String
  requiredInput : Option (List String) := none
  txHash : Option String := none
  attestationHash : Option String := none

/-- The requests that the routes handle.  The clock is read once, and the identifier of a new row
is drawn by the caller. -/
inductive Command where
  | submitVerification (input : SubmitVerificationInput) (uuid : String) (now : ℕ)
  | webhook (providerId : String) (headers : List (String × String)) (rawBody : String) (now : ℕ)
  | revokeForSubject (subjectAddress reason : String) (now : ℕ)
  | expireStaleAttestations (now : ℕ)
  deriving DecidableEq

inductive Outcome where
  | submitted (output : SubmitVerificationOutput)
  /-- The outcome of the event, if it concerned a known reference. -/
  | accepted (matched : Option VerificationOutcome)
  | revoked (txHash : Option String) (affected : ℕ)
  | expired (count : ℕ)

abbrev ServiceCall := (Query ⊕ ProviderCall) ⊕ RpcCall

abbrev ServiceAnswer : ServiceCall → Type :=
  Sum.elim (Sum.elim QueryAnswer ProviderAnswer) RpcAnswer

abbrev Service (α : Type) := Process ServiceCall ServiceAnswer Failure α

abbrev ServiceLabel := Label ServiceCall ServiceAnswer Failure Outcome Command

def findCorridor (id : String) : Service (Option CorridorRow) :=
  ask (Sum.inl (Sum.inl (Query.findCorridor id)) : ServiceCall)

def findUser (id : String) : Service (Option UserRow) :=
  ask (Sum.inl (Sum.inl (Query.findUser id)) : ServiceCall)

def createAttestation (row : KycAttestation) : Service KycAttestation :=
  ask (Sum.inl (Sum.inl (Query.createAttestation row)) : ServiceCall)

def findLatest (providerRef : String) : Service (Option KycAttestation) :=
  ask (Sum.inl (Sum.inl (Query.findLatest providerRef)) : ServiceCall)

def updateAttestation (id : String) (data : AttestationData) : Service Unit :=
  ask (Sum.inl (Sum.inl (Query.update id data)) : ServiceCall)

def updateAttestations (selection : Selection) (data : AttestationData) : Service ℕ :=
  ask (Sum.inl (Sum.inl (Query.updateMany selection data)) : ServiceCall)

def submit (provider : String) (request : VerificationRequest) : Service VerificationResult :=
  ask (Sum.inl (Sum.inr (ProviderCall.submit provider request)) : ServiceCall)

/-! ### What is asked and written -/

def SubmitVerificationInput.request (input : SubmitVerificationInput)
    (requiredTier : VerificationTier) : VerificationRequest where
  userId := input.userId
  requiredTier
  regionId := input.regionId
  countryCode := input.countryCode
  fullName := input.fullName
  dateOfBirth := input.dateOfBirth
  document := input.document
  address := input.address
  sourceOfFunds := input.sourceOfFunds.filter fun source => decide (source ≠ "")

/-- The status of a new row. -/
def VerificationOutcome.status : VerificationOutcome → AttestationStatus
  | approved => .active
  | pending => .pending
  | rejected | needsInput => .revoked

/-- What a webhook writes. -/
def WebhookEvent.data (event : WebhookEvent) (now : ℕ) : AttestationData :=
  match event.outcome with
  | .approved => .screened .active none
  | .rejected => .screened .revoked (some (now, ",".intercalate event.reasons))
  | .pending | .needsInput => .screened .pending none

section Functions

variable (lib : Library) (env : KycSettings)

def getProvider : String → Except Failure IdVerificationProvider
  | "mock" => .ok lib.mockProvider
  | "http" =>
    match env.kycProviderBaseUrl with
    | some baseUrl => .ok (lib.httpProvider baseUrl)
    | none => .error (.error ("KYC_PROVIDER=http requires KYC_PROVIDER_BASE_URL. " ++
        "Set it to the provider's API root."))
  | id =>
    if id = "sumsub" ∨ id = "onfido" then
      .error (.error ("No " ++ id ++ "-specific adapter is shipped. Set KYC_PROVIDER=http and " ++
        "KYC_PROVIDER_BASE_URL to the vendor's API root — see " ++
        "kyc-orchestration/http-provider.ts " ++
        "for the contract it must speak — or add an adapter implementing IdVerificationProvider " ++
        "here."))
    else .error (.error ("Unknown KYC provider: " ++ id))

/-- The row of a submission. -/
def SubmitVerificationInput.attestation (input : SubmitVerificationInput) (uuid : String) (now : ℕ)
    (result : VerificationResult) : KycAttestation where
  id := uuid
  userId := input.userId
  tier := toPrismaTier result.tier
  providerId := result.providerId
  attestationHash :=
    if result.outcome = .approved then hex (lib.attestationHashOf result)
    else "rejected:" ++ result.providerRef
  regionId := input.regionId
  status := result.outcome.status
  expiresAt := now + env.kycAttestationTtlDays * 86400000
  revokedAt := none
  revokeReason := none
  publishTxHash := none
  revokeTxHash := none
  providerRef := result.providerRef
  createdAt := now

/-- What is published for a submission. -/
def SubmitVerificationInput.publication (input : SubmitVerificationInput) (now : ℕ)
    (subject : UserRow) (result : VerificationResult) (attester : Keypair) :
    PublishAttestationInput where
  attester
  subject := subject.stellarAddress.getD attester.publicKey
  tier := toContractTier result.tier
  attestationHash := lib.attestationHashOf result
  regionId := input.regionId
  providerId := result.providerId
  expiresAt := ((now + env.kycAttestationTtlDays * 86400000) / 1000 : ℕ)

def requiredTierFor (corridorId : String) (amount : ℤ) : Service VerificationTier := do
  match ← findCorridor corridorId with
  | none => .fail (validationFailed [("corridorId", "unknown corridor")])
  | some corridor => do
    let tier2Max ← ofExcept (lib.bigIntOfDecimal corridor.tier2Max)
    let tier1Max ← ofExcept (lib.bigIntOfDecimal corridor.tier1Max)
    pure (if amount ≤ tier1Max then .none else if amount ≤ tier2Max then .standard else .enhanced)

/-- Publish what has been approved and recorded. -/
def publishVerified (input : SubmitVerificationInput) (now : ℕ) (requiredTier : VerificationTier)
    (subject : UserRow) (result : VerificationResult) (record : KycAttestation) :
    Service Outcome := do
  throwUnless (tierSatisfies result.tier requiredTier = true)
    (providerUnavailable result.providerId ("provider returned tier " ++ result.tier.text ++
      " for a " ++ requiredTier.text ++ " requirement"))
  let attester ← ofExcept (lib.keypairFromSecret env.attesterSecretKey)
  let publication ← (publishAttestation lib.toSdk env.toSettings
    (input.publication lib env now subject result attester)).lift
  updateAttestation record.id (.published publication.hash)
  pure (.submitted
    { attestationId := record.id, outcome := result.outcome, tier := result.tier
      reasons := result.reasons
      txHash := publication.hash.filter fun hash => decide (hash ≠ "")
      attestationHash := some (hex (lib.attestationHashOf result)) })

/-- Record what the provider answered. -/
def recordVerification (input : SubmitVerificationInput) (uuid : String) (now : ℕ)
    (requiredTier : VerificationTier) (subject : UserRow) (result : VerificationResult) :
    Service Outcome := do
  let record ← createAttestation (input.attestation lib env uuid now result)
  if result.outcome = .approved then
    publishVerified lib env input now requiredTier subject result record
  else
    pure (.submitted
      { attestationId := record.id, outcome := result.outcome, tier := result.tier
        reasons := result.reasons })

def submitVerification (input : SubmitVerificationInput) (uuid : String) (now : ℕ) :
    Service Outcome := do
  let _ ← ofExcept (getProvider lib env env.kycProvider)
  let requiredTier ← requiredTierFor lib input.corridorId input.amount
  if requiredTier = .none then
    pure (.submitted
      { attestationId := "", outcome := .approved, tier := .none, reasons := ["NOT_REQUIRED"] })
  else do
    match ← findUser input.userId with
    | none => .fail (validationFailed [("userId", "unknown user")])
    | some subject => do
      let result ← submit env.kycProvider (input.request requiredTier)
      if result.outcome = .needsInput then
        pure (.submitted
          { attestationId := "", outcome := result.outcome, tier := result.tier
            reasons := result.reasons, requiredInput := result.requiredInput })
      else recordVerification lib env input uuid now requiredTier subject result

def webhook (providerId : String) (headers : List (String × String)) (rawBody : String) (now : ℕ) :
    Service Outcome := do
  let provider ← ofExcept (getProvider lib env providerId)
  throwUnless (provider.verifyWebhookSignature headers rawBody = true)
    (unauthorized "invalid webhook signature")
  let event ← ofExcept (provider.parseWebhook rawBody)
  match ← findLatest event.providerRef with
  | none => pure (.accepted none)
  | some record => do
    updateAttestation record.id (event.data now)
    pure (.accepted (some event.outcome))

def revokeForSubject (subjectAddress reason : String) (now : ℕ) : Service Outcome := do
  let attester ← ofExcept (lib.keypairFromSecret env.attesterSecretKey)
  let revoked ← (revokeAttestation lib.toSdk env.toSettings attester subjectAddress reason).lift
  let affected ← updateAttestations (.activeOf subjectAddress) (.revoked now reason revoked.hash)
  pure (.revoked (revoked.hash.filter fun hash => decide (hash ≠ "")) affected)

def expireStaleAttestations (now : ℕ) : Service Outcome := do
  let count ← updateAttestations (.lapsed now) .expired
  pure (.expired count)

def program : Command → Service Outcome
  | .submitVerification input uuid now => submitVerification lib env input uuid now
  | .webhook providerId headers rawBody now => webhook lib env providerId headers rawBody now
  | .revokeForSubject subjectAddress reason now =>
    revokeForSubject lib env subjectAddress reason now
  | .expireStaleAttestations now => expireStaleAttestations now

/-! ### Stages -/

/-- How far a call has come. -/
inductive Stage where
  | begun
  | identified (subject : UserRow)
  /-- The provider has answered; the row is not written yet. -/
  | screened (subject : UserRow) (requiredTier : VerificationTier) (result : VerificationResult)
  /-- The check was passed, and its row is written. -/
  | created (subject : UserRow) (requiredTier : VerificationTier) (result : VerificationResult)
      (s : Submission)
  /-- The webhook concerns this row. -/
  | matched (id : String) (event : WebhookEvent)
  | revoking (s : Submission)
  | ended

/-- The stage after the user has been looked up. -/
def Stage.ofUser : Except Failure (Option UserRow) → Stage
  | .ok (some subject) => identified subject
  | _ => ended

/-- The stage after a webhook has looked for its row. -/
def WebhookEvent.found (event : WebhookEvent) : Except Failure (Option KycAttestation) → Stage
  | .ok (some row) => .matched row.id event
  | _ => .ended

/-- The stage of a revocation. -/
def Stage.ofSubmission : Submission → Stage
  | .unsent => begun
  | s => revoking s

/-- What is submitted. -/
def Command.input : Command → Option SubmitVerificationInput
  | submitVerification input _ _ => some input
  | webhook .. | revokeForSubject .. | expireStaleAttestations _ => none

/-- The row that a command writes for a result. -/
def Command.attestation (result : VerificationResult) : Command → Option KycAttestation
  | submitVerification input uuid now => some (input.attestation lib env uuid now result)
  | webhook .. | revokeForSubject .. | expireStaleAttestations _ => none

/-- What a command publishes for a result. -/
def Command.publication (subject : UserRow) (result : VerificationResult) :
    Command → Option PublishAttestationInput
  | submitVerification input _ now => (lib.keypairFromSecret env.attesterSecretKey).toOption.map
      (input.publication lib env now subject result)
  | webhook .. | revokeForSubject .. | expireStaleAttestations _ => none

/-- The event that a webhook is about, and what it writes. -/
def Command.event : Command → Option WebhookEvent
  | webhook providerId _ rawBody _ =>
    ((getProvider lib env providerId).bind fun provider => provider.parseWebhook rawBody).toOption
  | submitVerification .. | revokeForSubject .. | expireStaleAttestations _ => none

def Command.now : Command → ℕ
  | submitVerification _ _ now | webhook _ _ _ now | revokeForSubject _ _ now
  | expireStaleAttestations now => now

/-- What a submitted transaction publishes. -/
def Command.Publishes (c : Command) (subject : UserRow) (result : VerificationResult)
    (tx : Transaction) : Prop :=
  ∃ input ∈ c.publication lib env subject result, input.Publishes lib.toSdk env.toSettings tx

instance {c : Command} {subject : UserRow} {result : VerificationResult} :
    DecidablePred (c.Publishes lib env subject result) := fun tx =>
  inferInstanceAs (Decidable (∃ input ∈ c.publication lib env subject result,
    input.Publishes lib.toSdk env.toSettings tx))

def Stage.next (c : Command) : Stage → (q : ServiceCall) → Except Failure (ServiceAnswer q) →
    Option Stage
  | .begun, .inl (.inl (.findCorridor _)), _ => some .begun
  | .begun, .inl (.inl (.findUser id)), o =>
    if c.input.map SubmitVerificationInput.userId = some id then some (.ofUser o) else none
  | .identified subject, .inl (.inr (.submit _ request)), o =>
    if c.input.map (fun input => input.request request.requiredTier) = some request then
      match o with
      | .ok result => some (.screened subject request.requiredTier result)
      | .error _ => some .ended
    else none
  | .screened subject requiredTier result, .inl (.inl (.createAttestation row)), o =>
    if c.attestation lib env result = some row then
      match o with
      | .ok _ =>
        if result.outcome = .approved then some (.created subject requiredTier result .unsent)
        else some .ended
      | .error _ => some .ended
    else none
  | .created subject requiredTier result s, .inr q, o =>
    if tierSatisfies result.tier requiredTier = true ∧
        ∀ tx ∈ q.sent, c.Publishes lib env subject result tx then
      (s.next q o).map (.created subject requiredTier result)
    else none
  | .created subject requiredTier result s, .inl (.inl (.update _ (.published publishTxHash))), _ =>
    if s.returned = publishTxHash then some (.created subject requiredTier result s) else none
  | .begun, .inl (.inl (.findLatest providerRef)), o =>
    match c.event lib env with
    | some event =>
      if providerRef = event.providerRef then some (event.found o) else none
    | none => none
  | .matched id event, .inl (.inl (.update id' data)), _ =>
    if id' = id ∧ data = event.data c.now then some .ended else none
  | .begun, .inr q, o =>
    if c.input = none then (Submission.unsent.next q o).map .ofSubmission else none
  | .revoking s, .inr q, o => if c.input = none then (s.next q o).map .ofSubmission else none
  | .revoking s, .inl (.inl (.updateMany _ (.revoked _ _ revokeTxHash))), _ =>
    if s.returned = revokeTxHash then some .ended else none
  | .begun, .inl (.inl (.updateMany _ .expired)), _ => some .ended
  | _, _, _ => none

def staging : Staging ServiceCall ServiceAnswer Failure Outcome Command Stage :=
  ⟨.begun, Stage.next lib env, fun _ _ _ => True⟩

end Functions

/-! ### The functions go through the stages -/

section Follows

variable {lib : Library} {env : KycSettings}

theorem follows_requiredTierFor {input : SubmitVerificationInput} {uuid : String} {now : ℕ} :
    Follows (Stage.next lib env (.submitVerification input uuid now))
      (fun φ r => ∀ tier, r = .ok tier → φ = .begun) .begun
      (requiredTierFor lib input.corridorId input.amount) := by
  rw [requiredTierFor]
  refine .ask_bind (fun corridor => ⟨.begun, rfl, ?_⟩) fun e => ⟨.begun, rfl, nofun⟩
  cases corridor with
  | none => exact fun tier h => nomatch h
  | some corridor =>
    refine .bind (E := fun φ _ => φ = .begun) (.ofExcept rfl) ?_ fun _ _ _ => nofun
    rintro _ tier2Max rfl
    refine .bind (E := fun φ _ => φ = .begun) (.ofExcept rfl) ?_ fun _ _ _ => nofun
    rintro _ tier1Max rfl
    exact fun tier _ => rfl

theorem follows_publishVerified {input : SubmitVerificationInput} {uuid : String} {now : ℕ}
    {requiredTier : VerificationTier} {subject : UserRow} {result : VerificationResult}
    {record : KycAttestation} :
    Follows (Stage.next lib env (.submitVerification input uuid now)) (fun _ _ => True)
      (.created subject requiredTier result .unsent)
      (publishVerified lib env input now requiredTier subject result record) := by
  rw [publishVerified]
  by_cases htier : tierSatisfies result.tier requiredTier = true
  swap
  · rw [throwUnless_bind_neg htier]
    trivial
  rw [throwUnless_bind_pos htier]
  cases hkey : lib.keypairFromSecret env.attesterSecretKey with
  | error e => trivial
  | ok attester =>
    -- What is submitted is the publication.
    have hpublish : Follows (fun s (q : RpcCall) o =>
        if ∀ tx ∈ q.sent,
          Command.Publishes lib env (.submitVerification input uuid now) subject result tx
        then s.next q o else none) Submission.Concludes .unsent
        (publishAttestation lib.toSdk env.toSettings
          (input.publication lib env now subject result attester)) := by
      refine (follows_publishAttestation _ _).guard (asks_publishAttestation _ _ fun q hq tx htx =>
        ?_)
      refine ⟨_, ?_, hq tx htx⟩
      rw [Command.publication, hkey]
      rfl
    show Follows _ _ _ ((publishAttestation _ _ _).lift >>= _)
    refine .bind (.lift (f := Stage.created subject requiredTier result) hpublish
      (F := fun φ r => ∃ s, φ = .created subject requiredTier result s ∧ s.Concludes r)
      (fun s q o s' hnext => ?_) fun s r hc => ⟨s, rfl, hc⟩) ?_ fun _ _ _ => trivial
    · split_ifs at hnext with hq
      exact (if_pos ⟨htier, hq⟩).trans (congrArg (Option.map _) hnext)
    · rintro _ publication ⟨s, rfl, hc⟩
      exact .ask_bind (fun _ => ⟨_, if_pos hc.returned.1, trivial⟩)
        fun e => ⟨_, if_pos hc.returned.1, trivial⟩

theorem follows_recordVerification {input : SubmitVerificationInput} {uuid : String} {now : ℕ}
    {requiredTier : VerificationTier} {subject : UserRow} {result : VerificationResult} :
    Follows (Stage.next lib env (.submitVerification input uuid now)) (fun _ _ => True)
      (.screened subject requiredTier result)
      (recordVerification lib env input uuid now requiredTier subject result) := by
  rw [recordVerification]
  have hnext : ∀ record, Stage.next lib env (.submitVerification input uuid now)
      (.screened subject requiredTier result)
      (.inl (.inl (.createAttestation (input.attestation lib env uuid now result)))) (.ok record) =
        if result.outcome = .approved then some (.created subject requiredTier result .unsent)
        else some .ended := fun record => if_pos rfl
  refine .ask_bind (fun record => ?_) fun e => ⟨.ended, if_pos rfl, trivial⟩
  rw [hnext]
  by_cases happroved : result.outcome = .approved
  · rw [if_pos happroved, if_pos happroved]
    exact ⟨_, rfl, follows_publishVerified⟩
  · rw [if_neg happroved, if_neg happroved]
    exact ⟨.ended, rfl, trivial⟩

theorem follows_submitVerification (input : SubmitVerificationInput) (uuid : String) (now : ℕ) :
    Follows (Stage.next lib env (.submitVerification input uuid now)) (fun _ _ => True) .begun
      (submitVerification lib env input uuid now) := by
  rw [submitVerification]
  refine .bind (E := fun φ _ => φ = .begun) (.ofExcept rfl) ?_ fun _ _ _ => trivial
  rintro _ _ rfl
  refine .bind follows_requiredTierFor ?_ fun _ _ _ => trivial
  intro φ requiredTier hφ
  obtain rfl := hφ _ rfl
  by_cases hnone : requiredTier = .none
  · rw [if_pos hnone]
    trivial
  · rw [if_neg hnone]
    refine .ask_bind (fun subject => ⟨.ofUser (.ok subject), if_pos rfl, ?_⟩)
      fun e => ⟨.ended, if_pos rfl, trivial⟩
    cases subject with
    | none => trivial
    | some subject =>
      refine .ask_bind (fun result => ⟨.screened subject requiredTier result, if_pos rfl, ?_⟩)
        fun e => ⟨.ended, if_pos rfl, trivial⟩
      by_cases hinput : result.outcome = .needsInput
      · rw [if_pos hinput]
        trivial
      · rw [if_neg hinput]
        exact follows_recordVerification

theorem follows_webhook (providerId : String) (headers : List (String × String))
    (rawBody : String) (now : ℕ) :
    Follows (Stage.next lib env (.webhook providerId headers rawBody now)) (fun _ _ => True) .begun
      (webhook lib env providerId headers rawBody now) := by
  rw [webhook]
  cases hprovider : getProvider lib env providerId with
  | error e => trivial
  | ok provider =>
    show Follows _ _ _ (throwUnless _ _ >>= _)
    by_cases hsigned : provider.verifyWebhookSignature headers rawBody = true
    swap
    · rw [throwUnless_bind_neg hsigned]
      trivial
    rw [throwUnless_bind_pos hsigned]
    cases hevent : provider.parseWebhook rawBody with
    | error e => trivial
    | ok event =>
      have hc : Command.event lib env (.webhook providerId headers rawBody now) = some event := by
        rw [Command.event, hprovider]
        show (provider.parseWebhook rawBody).toOption = _
        rw [hevent]
        rfl
      have hnext : ∀ o, Stage.next lib env (.webhook providerId headers rawBody now) .begun
          (.inl (.inl (.findLatest event.providerRef))) o = some (event.found o) := by
        intro o
        rw [Stage.next, hc]
        exact if_pos rfl
      refine .ask_bind (fun record => ?_) fun e => ⟨.ended, hnext _, trivial⟩
      cases record with
      | none => exact ⟨.ended, hnext _, trivial⟩
      | some record =>
        refine ⟨.matched record.id event, hnext _, ?_⟩
        exact .ask_bind (fun _ => ⟨.ended, if_pos ⟨rfl, rfl⟩, trivial⟩)
          fun e => ⟨.ended, if_pos ⟨rfl, rfl⟩, trivial⟩

theorem follows_revokeForSubject (subjectAddress reason : String) (now : ℕ) :
    Follows (Stage.next lib env (.revokeForSubject subjectAddress reason now)) (fun _ _ => True)
      .begun (revokeForSubject lib env subjectAddress reason now) := by
  rw [revokeForSubject]
  cases lib.keypairFromSecret env.attesterSecretKey with
  | error e => trivial
  | ok attester =>
    show Follows _ _ _ ((revokeAttestation _ _ _ _ _).lift >>= _)
    refine .bind (.lift (f := Stage.ofSubmission) (follows_revokeAttestation _ _)
      (F := fun φ r => ∃ s, φ = .ofSubmission s ∧ s.Concludes r) (fun s q o s' hnext => ?_)
      fun s r hc => ⟨s, rfl, hc⟩) ?_ fun _ _ _ => trivial
    · have hmap : (s.next q o).map Stage.ofSubmission = some (.ofSubmission s') := by
        rw [hnext]
        rfl
      have hinput : Command.input (.revokeForSubject subjectAddress reason now) = none := rfl
      cases s <;> exact (if_pos (e := none) hinput).trans hmap
    · rintro _ revoked ⟨s, rfl, hc⟩
      have hreturned := hc.returned.1
      cases hc <;> exact .ask_bind (fun _ => ⟨.ended, if_pos hreturned, trivial⟩)
        fun _ => ⟨.ended, if_pos hreturned, trivial⟩

theorem follows_expireStaleAttestations (now : ℕ) :
    Follows (Stage.next lib env (.expireStaleAttestations now)) (fun _ _ => True) .begun
      (expireStaleAttestations now) :=
  .ask_bind (fun _ => ⟨.ended, rfl, trivial⟩) fun _ => ⟨.ended, rfl, trivial⟩

/-- **The functions of the service go through the stages.** -/
theorem follows_program : Stages (program lib env) (staging lib env) := by
  rintro (⟨input, uuid, now⟩ | ⟨providerId, headers, rawBody, now⟩ | ⟨subject, reason, now⟩ | ⟨now⟩)
  · exact follows_submitVerification input uuid now
  · exact follows_webhook providerId headers rawBody now
  · exact follows_revokeForSubject subject reason now
  · exact follows_expireStaleAttestations now

end Follows

end Kyc

end RemitBridge
