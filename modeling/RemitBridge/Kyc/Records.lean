import Mathlib.Data.List.MinMax
import Mathlib.Data.List.Perm.Subperm
import RemitBridge.Backend.Rpc
import RemitBridge.Indexer.Database

/-!
# Identity verification: providers and tables

What the service asks a provider of identity checks and what it is told, and the tables it keeps.
A provider is another machine; the signatures and bodies of its webhooks are computed here.
-/

namespace RemitBridge

namespace Kyc

open Backend Process

open Indexer (UserRow)

/-! ### Providers -/

inductive VerificationTier where
  | none
  | standard
  | enhanced
  deriving DecidableEq

def VerificationTier.text : VerificationTier → String
  | none => "NONE"
  | standard => "STANDARD"
  | enhanced => "ENHANCED"

/-- The tiers as providers name them. -/
inductive ProviderTier where
  | none
  | standard
  | enhanced
  deriving DecidableEq

def ProviderTier.text : ProviderTier → String
  | none => "None"
  | standard => "Standard"
  | enhanced => "Enhanced"

def ProviderTier.rank : ProviderTier → ℕ
  | none => 0
  | standard => 1
  | enhanced => 2

def requiredProviderTier : VerificationTier → ProviderTier
  | .none => .none
  | .standard => .standard
  | .enhanced => .enhanced

def tierSatisfies (held : ProviderTier) (required : VerificationTier) : Bool :=
  decide ((requiredProviderTier required).rank ≤ held.rank)

/-- The tiers as the contract names them. -/
def toContractTier (tier : ProviderTier) : String := tier.text

def toPrismaTier : ProviderTier → VerificationTier
  | .none => .none
  | .standard => .standard
  | .enhanced => .enhanced

inductive DocumentType where
  | passport
  | nationalId
  | driversLicense
  deriving DecidableEq

structure VerificationDocument where
  type : DocumentType
  number : String
  countryCode : String
  expiresOn : String
  deriving DecidableEq

structure PostalAddress where
  line1 : String
  city : String
  postalCode : Option String
  countryCode : String
  deriving DecidableEq

structure VerificationRequest where
  userId : String
  requiredTier : VerificationTier
  regionId : String
  countryCode : String
  fullName : String
  dateOfBirth : String
  document : Option VerificationDocument
  address : Option PostalAddress
  sourceOfFunds : Option String
  deriving DecidableEq

inductive VerificationOutcome where
  | approved
  | rejected
  | pending
  | needsInput
  deriving DecidableEq

structure VerificationResult where
  outcome : VerificationOutcome
  tier : ProviderTier
  providerId : String
  providerRef : String
  reasons : List String
  requiredInput : Option (List String)
  /-- As JSON; only hashed. -/
  raw : String
  deriving DecidableEq

structure WebhookEvent where
  providerRef : String
  outcome : VerificationOutcome
  reasons : List String

/-- What a provider computes on our side. -/
structure IdVerificationProvider where
  verifyWebhookSignature : List (String × String) → String → Bool
  parseWebhook : String → Except Failure WebhookEvent

inductive ProviderCall where
  /-- `submit` of the provider with this name -/
  | submit (provider : String) (request : VerificationRequest)

abbrev ProviderAnswer : ProviderCall → Type
  | .submit _ _ => VerificationResult

/-! ### Tables -/

inductive AttestationStatus where
  | pending
  | active
  | expired
  | revoked
  deriving DecidableEq

/-- Times are in milliseconds. -/
structure KycAttestation where
  id : String
  userId : String
  tier : VerificationTier
  providerId : String
  attestationHash : String
  regionId : String
  status : AttestationStatus
  expiresAt : ℕ
  revokedAt : Option ℕ
  revokeReason : Option String
  publishTxHash : Option String
  revokeTxHash : Option String
  providerRef : String
  createdAt : ℕ
  deriving DecidableEq

structure CorridorRow where
  id : String
  tier1Max : ℤ
  tier2Max : ℤ

structure Records where
  users : List UserRow
  corridors : List CorridorRow
  attestations : List KycAttestation

/-- `toString('hex')` -/
def hex (bytes : List UInt8) : String :=
  .ofList (bytes.flatMap fun b => [Nat.digitChar (b.toNat / 16), Nat.digitChar (b.toNat % 16)])

def isHexDigit (c : Char) : Bool := decide (c ∈ "0123456789abcdef".toList)

/-- The row was written for a hash, and not for an attempt without an attestation. -/
def KycAttestation.carriesHash (row : KycAttestation) : Bool :=
  row.attestationHash.toList.all isHexDigit

theorem not_all_rejected (providerRef : String) :
    ("rejected:" ++ providerRef).toList.all isHexDigit = false := by
  rw [String.toList_append, List.all_append]
  rfl

/-! ### Queries -/

/-- What is written to an attestation. -/
inductive AttestationData where
  | published (publishTxHash : Option String)
  /-- With the time and the reason of a revocation. -/
  | screened (status : AttestationStatus) (revocation : Option (ℕ × String))
  | revoked (now : ℕ) (reason : String) (revokeTxHash : Option String)
  | expired
  deriving DecidableEq

def AttestationData.apply : AttestationData → KycAttestation → KycAttestation
  | published publishTxHash, row => { row with publishTxHash }
  | screened status none, row => { row with status }
  | screened status (some (now, reason)), row => { row with
      status, revokedAt := some now, revokeReason := some reason }
  | revoked now reason revokeTxHash, row => { row with
      status := .revoked, revokedAt := some now, revokeReason := some reason, revokeTxHash }
  | expired, row => { row with status := .expired }

/-- The rows that a statement is about. -/
inductive Selection where
  /-- Active ones, of the user with this address. -/
  | activeOf (stellarAddress : String)
  /-- Active ones whose validity has ended. -/
  | lapsed (now : ℕ)

/-- The latest date there is. -/
def maxDate : ℕ := 8640000000000000

namespace Records

variable (r : Records)

def userAt (id : String) : Option UserRow := r.users.find? fun user => decide (user.id = id)

def selects : Selection → KycAttestation → Bool
  | .activeOf stellarAddress, row => decide (row.status = .active ∧
      (r.userAt row.userId).bind UserRow.stellarAddress = some stellarAddress)
  | .lapsed now, row => decide (row.status = .active ∧ row.expiresAt ≤ now)

/-- Identifiers and hashes are unique, users must exist and dates must be ones. -/
def accepts (row : KycAttestation) : Bool :=
  decide ((∀ other ∈ r.attestations,
    other.id ≠ row.id ∧ other.attestationHash ≠ row.attestationHash) ∧
    (r.userAt row.userId).isSome = true ∧ row.expiresAt ≤ maxDate)

/-- `prisma.kycAttestation.create` -/
def createAttestation (row : KycAttestation) : Option Records :=
  if r.accepts row = true then some { r with attestations := r.attestations ++ [row] } else none

/-- Write the data to the rows that satisfy `p`. -/
def revise (p : KycAttestation → Bool) (data : AttestationData) : Records :=
  { r with attestations :=
    r.attestations.map fun row => if p row = true then data.apply row else row }

/-- The row of this reference that was created last. -/
def latest (providerRef : String) : Option KycAttestation :=
  (r.attestations.filter fun row => decide (row.providerRef = providerRef)).argmax
    KycAttestation.createdAt

end Records

inductive Query where
  /-- `prisma.corridor.findUnique` -/
  | findCorridor (id : String)
  /-- `prisma.user.findUnique` -/
  | findUser (id : String)
  | createAttestation (row : KycAttestation)
  /-- `prisma.kycAttestation.findFirst`, the newest -/
  | findLatest (providerRef : String)
  /-- `prisma.kycAttestation.update` -/
  | update (id : String) (data : AttestationData)
  /-- `prisma.kycAttestation.updateMany` -/
  | updateMany (selection : Selection) (data : AttestationData)

/-- The answers; that to `updateMany` is the number of rows. -/
abbrev QueryAnswer : Query → Type
  | .findCorridor _ => Option CorridorRow
  | .findUser _ => Option UserRow
  | .createAttestation _ => KycAttestation
  | .findLatest _ => Option KycAttestation
  | .update _ _ => Unit
  | .updateMany _ _ => ℕ

def Query.perform : (q : Query) → Records → Option (QueryAnswer q × Records)
  | .findCorridor id, r => some (r.corridors.find? fun corridor => decide (corridor.id = id), r)
  | .findUser id, r => some (r.userAt id, r)
  | .createAttestation row, r => (r.createAttestation row).map fun r => (row, r)
  | .findLatest providerRef, r => some (r.latest providerRef, r)
  | .update id data, r =>
    if (r.attestations.any fun row => decide (row.id = id)) = true then
      some ((), r.revise (fun row => decide (row.id = id)) data)
    else none
  | .updateMany selection data, r =>
    some (r.attestations.countP (r.selects selection), r.revise (r.selects selection) data)

/-- The rest of the backend changes other tables.  Attestations are deleted with their users, and
the table has no order of its own. -/
def Records.Continues (r r' : Records) : Prop := r'.attestations.Subperm r.attestations

def database : Environment Records Query QueryAnswer Failure :=
  .ofPerform Query.perform Records.Continues

/-! ### What queries do to attestations -/

/-- What a call writes to the attestations there are. -/
def Query.data : Query → Option AttestationData
  | update _ data | updateMany _ data => some data
  | findCorridor _ | findUser _ | createAttestation _ | findLatest _ => none

def Query.creates : Query → Bool
  | createAttestation _ => true
  | findCorridor _ | findUser _ | findLatest _ | update .. | updateMany .. => false

variable {r r' : Records} {row : KycAttestation}

@[simp] theorem AttestationData.apply_id (data : AttestationData) :
    (data.apply row).id = row.id := by
  rcases data with _ | ⟨_, _ | _⟩ | _ | _ <;> rfl

@[simp] theorem AttestationData.apply_tier (data : AttestationData) :
    (data.apply row).tier = row.tier := by
  rcases data with _ | ⟨_, _ | _⟩ | _ | _ <;> rfl

@[simp] theorem AttestationData.apply_attestationHash (data : AttestationData) :
    (data.apply row).attestationHash = row.attestationHash := by
  rcases data with _ | ⟨_, _ | _⟩ | _ | _ <;> rfl

theorem mem_revise {p : KycAttestation → Bool} {data : AttestationData}
    (h : row ∈ (r.revise p data).attestations) : ∃ old ∈ r.attestations,
      p old = true ∧ row = data.apply old ∨ row = old := by
  obtain ⟨old, hold, rfl⟩ := List.mem_map.1 h
  refine ⟨old, hold, ?_⟩
  split_ifs with hp
  · exact .inl ⟨hp, rfl⟩
  · exact .inr rfl

/-- The rows that data is written to. -/
def Query.concerns (r : Records) : Query → KycAttestation → Bool
  | update id _, row => decide (row.id = id)
  | updateMany selection _, row => r.selects selection row
  | findCorridor _, _ | findUser _, _ | createAttestation _, _ | findLatest _, _ => false

/-- The row is an old one, perhaps with data written to it. -/
def Revised (q : Query) (r : Records) (row : KycAttestation) : Prop :=
  ∃ old ∈ r.attestations, row = old ∨
    ∃ data, q.data = some data ∧ row = data.apply old ∧ q.concerns r old = true

theorem revised_of_perform {q : Query} {a : QueryAnswer q} (hq : q.creates = false)
    (h : q.perform r = some (a, r')) : ∀ row ∈ r'.attestations, Revised q r row := by
  intro row hrow
  cases q with
  | findCorridor | findUser | findLatest =>
    cases h
    exact ⟨row, hrow, .inl rfl⟩
  | createAttestation new => cases hq
  | update id data =>
    rw [Query.perform] at h
    split_ifs at h
    cases h
    obtain ⟨old, hold, ⟨hid, hnew⟩ | hsame⟩ := mem_revise hrow
    · exact ⟨old, hold, .inr ⟨data, rfl, hnew, hid⟩⟩
    · exact ⟨old, hold, .inl hsame⟩
  | updateMany selection data =>
    cases h
    obtain ⟨old, hold, ⟨hselected, hnew⟩ | hsame⟩ := mem_revise hrow
    · exact ⟨old, hold, .inr ⟨data, rfl, hnew, hselected⟩⟩
    · exact ⟨old, hold, .inl hsame⟩

/-- **Writes.**  Whether the answer arrives or not, the rows are the old ones, perhaps with data
written to them, unless one is created. -/
theorem revised_of_answers {q : Query} {o : Except Failure (QueryAnswer q)}
    (hq : q.creates = false) (h : database.answers r q o r') :
    ∀ row ∈ r'.attestations, Revised q r row := by
  cases o with
  | ok a => exact revised_of_perform hq h
  | error e =>
    rcases h with rfl | ⟨a, h⟩
    · exact fun row hrow => ⟨row, hrow, .inl rfl⟩
    · exact revised_of_perform hq h

/-- **Creating** a row: there was none of its identifier. -/
theorem created_of_perform {new record : KycAttestation}
    (h : Query.perform (.createAttestation new) r = some (record, r')) :
    r'.attestations = r.attestations ++ [new] ∧ ∀ old ∈ r.attestations, old.id ≠ new.id := by
  obtain ⟨r₁, hr₁, heq⟩ := Option.map_eq_some_iff.1 h
  cases heq
  rw [Records.createAttestation] at hr₁
  split_ifs at hr₁ with haccepts
  obtain rfl := Option.some.inj hr₁
  exact ⟨rfl, fun old hold => ((of_decide_eq_true haccepts).1 old hold).1⟩

/-- Only active rows are selected. -/
theorem active_of_selects {selection : Selection} (h : r.selects selection row = true) :
    row.status = .active := by
  cases selection with
  | activeOf | lapsed => exact (of_decide_eq_true h).1

end Kyc

end RemitBridge
