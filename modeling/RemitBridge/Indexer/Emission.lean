import RemitBridge.Escrow.Contract
import RemitBridge.Hook.Contract
import RemitBridge.Indexer.Tick
import RemitBridge.Pool.Contract
import RemitBridge.Registry.Contract

/-!
# What the contracts publish

Each event of a contract is published with a list of topics, the first of which names its kind, and
a value.  This file says what the SDK reads these as, and that the indexer can decode every event of
the four contracts (`decodeEvent_published`).

A unit variant of an enumeration travels as a vector of one symbol.
-/

namespace RemitBridge

namespace Indexer

/-! ### Values -/

/-- How addresses are written: different ones differently, and none as the empty string. -/
structure StrKey where
  encode : Address → String
  injective : Function.Injective encode
  ne_empty : ∀ a, encode a ≠ ""

namespace Value

def ofU32 (n : U32) : Value := number n.val

def ofU64 (n : U64) : Value := bigint n.val

def ofI128 (n : I128) : Value := bigint n.val

def ofSymbol (s : Symbol) : Value := text s.name

def ofBytes {n : ℕ} (b : BytesN n) : Value := bytes b.bytes

/-- A unit variant. -/
def enumCase (variant : String) : Value := vec [text variant]

def ofStatus : AgentStatus → Value
  | .pending => enumCase "Pending"
  | .authorized => enumCase "Authorized"
  | .suspended => enumCase "Suspended"
  | .revoked => enumCase "Revoked"

def ofTier : KycTier → Value
  | .none => enumCase "None"
  | .standard => enumCase "Standard"
  | .enhanced => enumCase "Enhanced"

end Value

def StrKey.value (K : StrKey) (a : Address) : Value := .text (K.encode a)

/-- An event as it is published. -/
structure Publication where
  topics : List Value
  value : Value

/-- An event of one of the four contracts. -/
inductive ContractEvent where
  | escrow (e : Escrow.Event)
  | registry (e : Registry.Event)
  | hook (e : Hook.Event)
  | pool (e : Pool.Event)
  deriving DecidableEq

open Value

section Published

variable (K : StrKey)

/-- The events of the escrow. -/
def publishedEscrow : Escrow.Event → Publication
  | .transferCreated id sender amount token corridorId claimHash expiry =>
    ⟨[text "tr_create", K.value sender, ofSymbol corridorId],
      vec [ofU64 id, ofI128 amount, K.value token, ofBytes claimHash, ofU64 expiry]⟩
  | .transferClaimed id agent corridorId gross fee payout =>
    ⟨[text "tr_claim", K.value agent, ofSymbol corridorId],
      vec [ofU64 id, ofI128 gross, ofI128 fee, ofI128 payout]⟩
  | .transferRefunded id sender amount corridorId =>
    ⟨[text "tr_refnd", K.value sender, ofSymbol corridorId], vec [ofU64 id, ofI128 amount]⟩
  | .transferCancelled id sender amount corridorId =>
    ⟨[text "tr_cncl", K.value sender, ofSymbol corridorId], vec [ofU64 id, ofI128 amount]⟩
  | .configUpdated tag feeBps paused maxExpirySecs =>
    ⟨[text "esc_cfg", ofSymbol tag], vec [ofU32 feeBps, bool paused, ofU64 maxExpirySecs]⟩
  | .wiringUpdated tag address => ⟨[text "esc_wire", ofSymbol tag], K.value address⟩
  | .adminChanged previous next => ⟨[text "esc_adm", K.value previous], K.value next⟩

/-- The events of the agent registry. -/
def publishedRegistry : Registry.Event → Publication
  | .agentRegistered agent regionId bond =>
    ⟨[text "agent_reg", K.value agent, ofSymbol regionId], ofI128 bond⟩
  | .agentStatusChanged agent regionId source dest reason =>
    ⟨[text "agent_st", K.value agent, ofSymbol regionId],
      vec [ofStatus source, ofStatus dest, ofSymbol reason]⟩
  | .bondToppedUp agent amount newBond =>
    ⟨[text "bond_up", K.value agent], vec [ofI128 amount, ofI128 newBond]⟩
  | .bondWithdrawn agent amount newBond =>
    ⟨[text "bond_down", K.value agent], vec [ofI128 amount, ofI128 newBond]⟩
  | .agentSlashed agent requested recovered reason =>
    ⟨[text "slash", K.value agent, ofSymbol reason], vec [ofI128 requested, ofI128 recovered]⟩
  | .regionConfigured regionId minBond active =>
    ⟨[text "region", ofSymbol regionId], vec [ofI128 minBond, bool active]⟩
  | .corridorMapped corridorId regionId =>
    ⟨[text "corridor", ofSymbol corridorId], ofSymbol regionId⟩
  | .adminChanged previous next => ⟨[text "admin", K.value previous], K.value next⟩

/-- The events of the compliance hook. -/
def publishedHook : Hook.Event → Publication
  | .attestationPublished subject tier attestationHash providerId expiresAt =>
    ⟨[text "kyc_pub", K.value subject],
      vec [ofTier tier, ofBytes attestationHash, ofSymbol providerId, ofU64 expiresAt]⟩
  | .attestationRevoked subject reason => ⟨[text "kyc_rev", K.value subject], ofSymbol reason⟩
  | .thresholdsUpdated corridorId tier1Max tier2Max dailyLimit =>
    ⟨[text "kyc_tier", ofSymbol corridorId],
      vec [ofI128 tier1Max, ofI128 tier2Max, ofI128 dailyLimit]⟩
  | .operatorUpdated operator allowed => ⟨[text "kyc_oper", K.value operator], bool allowed⟩
  | .pauseChanged paused => ⟨[text "kyc_paus"], bool paused⟩
  | .escrowUpdated escrow => ⟨[text "kyc_escr"], K.value escrow⟩
  | .transferCommitted sender corridorId amount tier newDailyTotal =>
    ⟨[text "kyc_comm", K.value sender, ofSymbol corridorId],
      vec [ofI128 amount, ofTier tier, ofI128 newDailyTotal]⟩

/-- The events of the liquidity pool. -/
def publishedPool : Pool.Event → Publication
  | .regionConfigured regionId utilizationCapBps active =>
    ⟨[text "lp_region", ofSymbol regionId], vec [ofU32 utilizationCapBps, bool active]⟩
  | .liquidityDeposited provider regionId amount shares totalDeposited =>
    ⟨[text "lp_dep", K.value provider, ofSymbol regionId],
      vec [ofI128 amount, ofI128 shares, ofI128 totalDeposited]⟩
  | .liquidityWithdrawn provider regionId shares amount totalDeposited =>
    ⟨[text "lp_wdraw", K.value provider, ofSymbol regionId],
      vec [ofI128 shares, ofI128 amount, ofI128 totalDeposited]⟩
  | .liquidityDrawn agent regionId amount exposure utilizationBps =>
    ⟨[text "lp_draw", K.value agent, ofSymbol regionId],
      vec [ofI128 amount, ofI128 exposure, ofU32 utilizationBps]⟩
  | .liquidityRepaid agent regionId amount exposure =>
    ⟨[text "lp_repay", K.value agent, ofSymbol regionId], vec [ofI128 amount, ofI128 exposure]⟩
  | .configUpdated tag collateralRatioBps paused =>
    ⟨[text "lp_cfg", ofSymbol tag], vec [ofU32 collateralRatioBps, bool paused]⟩
  | .registryUpdated registry => ⟨[text "lp_wire"], K.value registry⟩
  | .adminChanged previous next => ⟨[text "lp_admin", K.value previous], K.value next⟩

def ContractEvent.published : ContractEvent → Publication
  | escrow e => publishedEscrow K e
  | registry e => publishedRegistry K e
  | hook e => publishedHook K e
  | pool e => publishedPool K e

end Published

/-! ### Decoding -/

/-- What the indexer takes the event for. -/
def ContractEvent.kind : ContractEvent → EventKind
  | escrow e => match e with
    | .transferCreated .. => .transferCreated
    | .transferClaimed .. => .transferClaimed
    | .transferRefunded .. => .transferRefunded
    | .transferCancelled .. => .transferCancelled
    | .configUpdated .. => .escrowConfigUpdated
    | .wiringUpdated .. => .escrowWiringUpdated
    | .adminChanged .. => .escrowAdminChanged
  | registry e => match e with
    | .agentRegistered .. => .agentRegistered
    | .agentStatusChanged .. => .agentStatusChanged
    | .bondToppedUp .. => .agentBondToppedUp
    | .bondWithdrawn .. => .agentBondWithdrawn
    | .agentSlashed .. => .agentSlashed
    | .regionConfigured .. => .regionConfigured
    | .corridorMapped .. => .corridorMapped
    | .adminChanged .. => .registryAdminChanged
  | hook e => match e with
    | .attestationPublished .. => .kycAttestationPublished
    | .attestationRevoked .. => .kycAttestationRevoked
    | .thresholdsUpdated .. => .kycThresholdsUpdated
    | .operatorUpdated .. => .kycOperatorUpdated
    | .pauseChanged .. => .kycPauseChanged
    | .escrowUpdated .. => .kycEscrowUpdated
    | .transferCommitted .. => .kycTransferCommitted
  | pool e => match e with
    | .regionConfigured .. => .poolRegionConfigured
    | .liquidityDeposited .. => .poolDeposited
    | .liquidityWithdrawn .. => .poolWithdrawn
    | .liquidityDrawn .. => .poolDrawn
    | .liquidityRepaid .. => .poolRepaid
    | .configUpdated .. => .poolConfigUpdated
    | .registryUpdated .. => .poolWiringUpdated
    | .adminChanged .. => .poolAdminChanged

/-- A decimal string. -/
def decimal (n : ℤ) : Value := .text (toString n)

/-- The payload that the event is decoded to, and the transfer it is about. -/
def ContractEvent.payload (K : StrKey) (e : ContractEvent) : Payload × Option ℤ :=
  match e with
  | escrow (.transferCreated id _ amount token _ claimHash expiry) =>
    ([("id", decimal id.val), ("amount", decimal amount.val), ("token", .text (K.encode token)),
      ("claimHash", .text (toHex (ofBytes claimHash))), ("expiry", decimal expiry.val)],
      some id.val)
  | escrow (.transferClaimed id _ _ gross fee payout) =>
    ([("id", decimal id.val), ("gross", decimal gross.val), ("fee", decimal fee.val),
      ("payout", decimal payout.val)], some id.val)
  | escrow (.transferRefunded id _ amount _) | escrow (.transferCancelled id _ amount _) =>
    ([("id", decimal id.val), ("amount", decimal amount.val)], some id.val)
  | registry (.agentRegistered _ _ bond) => ([("bond", decimal bond.val)], none)
  | registry (.agentSlashed _ requested recovered _) =>
    ([("requested", decimal requested.val), ("recovered", decimal recovered.val)], none)
  | pool (.liquidityDrawn _ _ amount exposure utilizationBps) =>
    ([("amount", decimal amount.val), ("exposure", decimal exposure.val),
      ("utilizationBps", ofU32 utilizationBps)], none)
  | e => ([("value", (e.published K).value.normalise)], none)

/-- What the event is decoded to. -/
def ContractEvent.decoded (K : StrKey) (e : ContractEvent) : DecodedEvent where
  kind := e.kind
  topic := e.kind.topic
  subjects := (e.published K).topics.tail.map Value.toText
  payload := (e.payload K).1
  transferId := (e.payload K).2

variable {K : StrKey} {raw : RawContractEvent}

theorem topics_published (e : ContractEvent) :
    (e.published K).topics = .text e.kind.topic :: (e.published K).topics.tail := by
  rcases e with e | e | e | e <;> cases e <;> rfl

theorem decodePayload_published (e : ContractEvent) :
    decodePayload e.kind (e.published K).value = .ok (e.payload K) := by
  rcases e with e | e | e | e <;> cases e <;> rfl

/-- The event was fetched as `raw`. -/
structure RawContractEvent.Carries (raw : RawContractEvent) (K : StrKey) (e : ContractEvent) :
    Prop where
  topics : raw.topicXdr = (e.published K).topics
  value : raw.valueXdr = (e.published K).value

/-- An event of a contract, and the transaction that emitted it. -/
structure Emitted where
  event : ContractEvent
  ledger : ℕ
  txHash : String
  closedAt : ℕ

/-- How the node returns the event. -/
def Emitted.response (K : StrKey) (e : Emitted) : EventResponse :=
  ⟨e.ledger, e.txHash, (e.event.published K).topics, (e.event.published K).value, e.closedAt⟩

theorem Emitted.carries {e : Emitted} {contractId : String} {index : ℕ} :
    (rawEvent contractId (e.response K) index).Carries K e.event := ⟨rfl, rfl⟩

/-- **Every event of the contracts can be decoded.** -/
theorem decodeEvent_published {e : ContractEvent} (h : raw.Carries K e) :
    decodeEvent raw = .ok (e.decoded K) := by
  rw [decodeEvent, h.topics, topics_published, h.value]
  simp only [topicToKind_topic, decodePayload_published]
  rfl

end Indexer

end RemitBridge
