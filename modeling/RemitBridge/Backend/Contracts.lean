import RemitBridge.Backend.Rpc
import RemitBridge.Data.Result

/-!
# The contracts, as the backend calls them

Wrappers of `invoke` for the entry points that the services use.  What the Stellar SDK does, reading
a secret key and converting arguments, is a parameter, as are the settings of the deployment.
-/

namespace RemitBridge

namespace Backend

open Process Indexer Submission

/-- Functions of the libraries that the backend uses; each of them can throw. -/
structure Sdk where
  /-- `Keypair.fromSecret` -/
  fromSecret : String → Except String Keypair
  /-- `new Address(value).toScVal()` -/
  address : String → Except Failure Value
  /-- `nativeToScVal(value, { type })` -/
  nativeToScVal : Value → String → Except Failure Value
  /-- `BigInt(decimal.toString())`; the string can have an exponent, which `BigInt` rejects. -/
  bigIntOfDecimal : ℤ → Except Failure ℤ

/-- The environment of the service. -/
structure Settings where
  contractComplianceHook : String
  contractLiquidityPool : String
  operatorSecretKey : String
  attesterSecretKey : String
  kycAttestationTtlDays : ℕ

variable (sdk : Sdk) (env : Settings)

def Sdk.keypairFromSecret (secret : String) : Except Failure Keypair :=
  match sdk.fromSecret secret with
  | .ok keypair => .ok keypair
  | .error cause => .error (.error ("Malformed secret key (expected an S... StrKey): " ++ cause))

def Sdk.sym (value : String) : Except Failure Value := sdk.nativeToScVal (.text value) "symbol"

def Sdk.i128 (value : ℤ) : Except Failure Value := sdk.nativeToScVal (.bigint value) "i128"

def Sdk.u64 (value : ℤ) : Except Failure Value := sdk.nativeToScVal (.bigint value) "u64"

def Sdk.bytes32 (value : List UInt8) : Except Failure Value :=
  sdk.nativeToScVal (.bytes value) "bytes"

/-- A unit variant of an enumeration travels as a vector of its name. -/
def Sdk.enumCase (variant : String) : Except Failure Value :=
  (sdk.sym variant).map fun name => .vec [name]

/-- Convert the arguments and invoke an entry point. -/
def invokeWith (contractId method : String) (signer : Keypair)
    (args : Except Failure (List Value)) : Rpc InvocationResult := do
  let args ← ofExcept args
  invoke { contractId, method, signer, args }

def drawLiquidityArgs (agent regionId : String) (amount : ℤ) : Except Failure (List Value) := do
  return [← sdk.address agent, ← sdk.sym regionId, ← sdk.i128 amount]

/-- Signed by the operator, on the agent's behalf. -/
def drawLiquidity (operator : Keypair) (agent regionId : String) (amount : ℤ) :
    Rpc InvocationResult :=
  invokeWith env.contractLiquidityPool "draw_liquidity" operator
    (drawLiquidityArgs sdk agent regionId amount)

structure PublishAttestationInput where
  attester : Keypair
  subject : String
  tier : String
  attestationHash : List UInt8
  regionId : String
  providerId : String
  expiresAt : ℤ

def publishAttestationArgs (input : PublishAttestationInput) : Except Failure (List Value) := do
  return [← sdk.address input.attester.publicKey, ← sdk.address input.subject,
    ← sdk.enumCase input.tier, ← sdk.bytes32 input.attestationHash, ← sdk.sym input.regionId,
    ← sdk.sym input.providerId, ← sdk.u64 input.expiresAt]

/-- The second argument is the subject. -/
theorem subject_of_publishAttestationArgs {sdk : Sdk} {input : PublishAttestationInput}
    {args : List Value} (h : publishAttestationArgs sdk input = .ok args) :
    ∃ value, sdk.address input.subject = .ok value ∧ args[1]? = some value := by
  rw [publishAttestationArgs] at h
  obtain ⟨attester, -, h⟩ := Result.bind_eq_ok.1 h
  obtain ⟨value, hvalue, h⟩ := Result.bind_eq_ok.1 h
  obtain ⟨tier, -, h⟩ := Result.bind_eq_ok.1 h
  obtain ⟨attestationHash, -, h⟩ := Result.bind_eq_ok.1 h
  obtain ⟨regionId, -, h⟩ := Result.bind_eq_ok.1 h
  obtain ⟨providerId, -, h⟩ := Result.bind_eq_ok.1 h
  obtain ⟨expiresAt, -, h⟩ := Result.bind_eq_ok.1 h
  cases h
  exact ⟨value, hvalue, rfl⟩

def publishAttestation (input : PublishAttestationInput) : Rpc InvocationResult :=
  invokeWith env.contractComplianceHook "publish_attestation" input.attester
    (publishAttestationArgs sdk input)

def revokeAttestationArgs (attester : Keypair) (subject reason : String) :
    Except Failure (List Value) := do
  return [← sdk.address attester.publicKey, ← sdk.address subject, ← sdk.sym reason]

def revokeAttestation (attester : Keypair) (subject reason : String) : Rpc InvocationResult :=
  invokeWith env.contractComplianceHook "revoke_attestation" attester
    (revokeAttestationArgs sdk attester subject reason)

theorem follows_invokeWith {contractId method : String} {signer : Keypair}
    {args : Except Failure (List Value)} :
    Follows Submission.next Concludes unsent (invokeWith contractId method signer args) := by
  cases args with
  | ok args => exact follows_invoke rfl
  | error e => exact Concludes.unsent

theorem follows_drawLiquidity {operator : Keypair} {agent regionId : String} {amount : ℤ} :
    Follows Submission.next Concludes unsent
      (drawLiquidity sdk env operator agent regionId amount) :=
  follows_invokeWith

theorem follows_publishAttestation {input : PublishAttestationInput} :
    Follows Submission.next Concludes unsent (publishAttestation sdk env input) :=
  follows_invokeWith

theorem follows_revokeAttestation {attester : Keypair} {subject reason : String} :
    Follows Submission.next Concludes unsent
      (revokeAttestation sdk env attester subject reason) :=
  follows_invokeWith

/-- The transaction publishes an attestation. -/
def PublishAttestationInput.Publishes (input : PublishAttestationInput) (tx : Transaction) : Prop :=
  tx.contractId = env.contractComplianceHook ∧ tx.method = "publish_attestation" ∧
    (publishAttestationArgs sdk input).toOption = some tx.args

instance {input : PublishAttestationInput} :
    DecidablePred (input.Publishes sdk env) := fun tx =>
  inferInstanceAs (Decidable (tx.contractId = _ ∧ tx.method = _ ∧ _ = some tx.args))

theorem asks_publishAttestation {input : PublishAttestationInput} {ok : RpcCall → Prop}
    (hok : ∀ q, (∀ tx ∈ q.sent, input.Publishes sdk env tx) → ok q) :
    Asks ok (publishAttestation sdk env input) := by
  cases hargs : publishAttestationArgs sdk input with
  | error e =>
    rw [publishAttestation, invokeWith, hargs]
    trivial
  | ok args =>
    rw [publishAttestation, invokeWith, hargs]
    refine asks_invoke fun q hq => hok q fun tx htx => ?_
    obtain ⟨hcontract, hmethod, hsent⟩ := hq tx htx
    exact ⟨hcontract, hmethod, by rw [hargs, hsent]; rfl⟩

end Backend

end RemitBridge
