import RemitBridge.Indexer.Database

/-!
# The event indexer

The indexer copies the events of the four contracts into `ChainEvent` and projects them into the
read model.  `tick` is one pass: for each contract it fetches one page of events from its cursor to
the tip of the chain, persists them one by one and then moves the cursor to the tip.
-/

namespace RemitBridge

namespace Indexer

/-! ### Projections -/

/-- `payload[field]` -/
def Payload.field (payload : Payload) (name : String) : Option Value := payload.lookup name

/-- `String(payload[field])` -/
def Payload.text (payload : Payload) (name : String) : String :=
  ((payload.field name).map Value.toText).getD "undefined"

/-- `BigInt(String(payload[field]))` -/
def payloadBigInt (payload : Payload) (name : String) : Task ℤ :=
  Job.okOr (parseInteger (payload.text name))
    (.thrown ("Cannot convert " ++ payload.text name ++ " to a BigInt"))

/-- An amount of a payload, which must be a string or a bigint. -/
def payloadAmount (value : Option Value) : Task String :=
  match value with
  | some (.text s) => pure s
  | some (.bigint n) => pure (toString n)
  | _ => Job.throw (.thrown ("expected a decimal string in the event payload, got " ++
      (value.map Value.typeOf).getD "undefined"))

/-- `new Date(seconds * 1000)`, which the database refuses if it is out of the range of dates. -/
def dateOfSeconds (seconds : ℤ) : Task ℤ := do
  Job.throwUnless (-8640000000000000 ≤ seconds * 1000 ∧ seconds * 1000 ≤ 8640000000000000) .refused
  pure (seconds * 1000)

def projectTransferCreated (raw : RawContractEvent) (decoded : DecodedEvent) : Task Bool := do
  let id ← payloadBigInt decoded.payload "id"
  let senderAddress := decoded.subjects[0]?.getD ""
  let corridorId := decoded.subjects[1]?.getD ""
  let sender ← query fun db => db.userAt senderAddress
  let corridor ← query fun db => decide (corridorId ∈ db.corridors)
  match sender, corridor with
  | some sender, true => do
    let expiry ← payloadBigInt decoded.payload "expiry"
    let expiry ← dateOfSeconds expiry
    upsertTransfer id
      { senderId := sender.id
        agentId := none
        corridorId
        amount := decoded.payload.text "amount"
        fee := "0"
        payout := "0"
        tokenAddress := decoded.payload.text "token"
        claimHash := decoded.payload.text "claimHash"
        expiry
        status := .pending
        createdAt := raw.closedAt
        settledAt := none
        claimedBy := none
        createTxHash := some raw.txHash
        settleTxHash := none }
      fun row => { row with status := .pending, createTxHash := some raw.txHash }
    pure true
  -- The off-chain row does not exist yet.
  | _, _ => pure false

/-- The columns that a settlement writes. -/
def settleRow (raw : RawContractEvent) (status : TransferStatus) (row : TransferRow) :
    TransferRow :=
  { row with status, settledAt := some raw.closedAt, settleTxHash := some raw.txHash }

def projectTransferSettled (raw : RawContractEvent) (decoded : DecodedEvent)
    (status : TransferStatus) : Task Bool := do
  let id ← payloadBigInt decoded.payload "id"
  let existing ← findTransfer id
  match existing with
  | none => pure false
  | some _ =>
    if status = .claimed then do
      -- An empty subject does not count.
      let claimedBy := decoded.subjects[0]?.filter fun subject => decide (subject ≠ "")
      let fee ← payloadAmount (decoded.payload.field "fee")
      let payout ← payloadAmount (decoded.payload.field "payout")
      updateTransfer id fun row =>
        { settleRow raw status row with claimedBy := claimedBy.or row.claimedBy, fee, payout }
      match claimedBy with
      | none => pure true
      | some claimedBy => do
        let agent ← query fun db => db.agentAt claimedBy
        match agent with
        | none => pure true
        | some agent => do
          updateTransfer id fun row => { row with agentId := some agent.id }
          pure true
    else do
      updateTransfer id (settleRow raw status)
      pure true

/-- The status that an `agent_st` event names, if it is a plain string. -/
def statusNamed : String → Option AgentStatus
  | "Pending" => some .pending
  | "Authorized" => some .authorized
  | "Suspended" => some .suspended
  | "Revoked" => some .revoked
  | _ => none

/-- The columns that a change of status writes at the time `now`. -/
def AgentRow.withStatus (row : AgentRow) (status : AgentStatus) (now : ℕ) : AgentRow :=
  match status with
  | .pending => { row with status }
  | .authorized => { row with status, authorizedAt := some now }
  | .suspended => { row with status, suspendedAt := some now }
  | .revoked => { row with status, revokedAt := some now }

/-- The second element of an array, if it is a string. -/
def secondText : Option Value → Option String
  | some (.vec (_ :: .text s :: _)) => some s
  | _ => none

def projectAgentStatus (now : ℕ) (decoded : DecodedEvent) : Task Bool := do
  match decoded.subjects[0]?.filter fun subject => decide (subject ≠ "") with
  | none => pure false
  | some agentAddress =>
    match (secondText (decoded.payload.field "value")).bind statusNamed with
    | none => pure false
    | some status => do
      let count ← updateAgents agentAddress fun row => row.withStatus status now
      pure (decide (0 < count))

def projectPoolDraw (decoded : DecodedEvent) : Task Bool := do
  match decoded.subjects[0]?.filter fun subject => decide (subject ≠ ""),
    decoded.subjects[1]?.filter fun subject => decide (subject ≠ "") with
  | some agentAddress, some regionId => do
    let agent ← query fun db => db.agentAt agentAddress
    match agent with
    | none => pure false
    | some agent => do
      let drawnAmount ← payloadAmount (decoded.payload.field "exposure")
      -- Absolute: the event carries the resulting exposure.
      upsertExposure agent.id regionId drawnAmount
      pure true
  | _, _ => pure false

/-- Project an event into the read model; says whether anything changed. -/
def project (now : ℕ) (raw : RawContractEvent) (decoded : DecodedEvent) : Task Bool :=
  match decoded.kind with
  | .transferCreated => projectTransferCreated raw decoded
  | .transferClaimed => projectTransferSettled raw decoded .claimed
  | .transferRefunded => projectTransferSettled raw decoded .refunded
  | .transferCancelled => projectTransferSettled raw decoded .cancelled
  | .agentStatusChanged => projectAgentStatus now decoded
  | .poolDrawn => projectPoolDraw decoded
  | _ => pure false

/-! ### Persisting -/

/-- The environment of the process. -/
structure Config where
  contractEscrow : String
  contractAgentRegistry : String
  contractComplianceHook : String
  contractLiquidityPool : String
  /-- `none` for `latest`. -/
  startLedger : Option ℕ
  storeRawXdr : Bool

def Config.contractIds (cfg : Config) : List String :=
  [cfg.contractEscrow, cfg.contractAgentRegistry, cfg.contractComplianceHook,
    cfg.contractLiquidityPool]

def RawContractEvent.key (raw : RawContractEvent) : EventKey :=
  ⟨raw.contractId, raw.ledger, raw.eventIndex⟩

/-- The transfer id to attach to an event: that of a row that exists. -/
def linkableTransferId (id : Option ℤ) : Task (Option ℤ) :=
  match id with
  | none => pure none
  | some id => do
    let transfer ← findTransfer id
    pure (transfer.map fun _ => id)

/-- The row that records an event. -/
def chainEventRow (cfg : Config) (raw : RawContractEvent) (decoded : DecodedEvent)
    (transferId : Option ℤ) : ChainEventRow where
  key := raw.key
  topic := decoded.topic
  txHash := raw.txHash
  payload := decoded.payload
  rawXdr := if cfg.storeRawXdr = true then some (raw.topicXdr, raw.valueXdr) else none
  transferId := transferId
  occurredAt := raw.closedAt

/-- Persist one event and project it; the projection comes first. -/
def persist (cfg : Config) (now : ℕ) (raw : RawContractEvent) (decoded : DecodedEvent) :
    Task Bool := do
  let existing ← findChainEvent raw.key
  if existing = true then pure false
  else do
    let changed ← project now raw decoded
    let transferId ← linkableTransferId decoded.transferId
    createChainEvent (chainEventRow cfg raw decoded transferId)
    pure changed

/-! ### Fetching -/

/-- An event in an answer of the RPC node. -/
structure EventResponse where
  ledger : ℕ
  txHash : String
  topic : List Value
  value : Value
  ledgerClosedAt : ℕ

/-- What the RPC node answers during a tick; `none` is an error. -/
structure Rpc where
  latestLedger : Option ℕ
  getEvents : Request → Option (List EventResponse)

/-- How many events the indexer asks for. -/
def pageLimit : ℕ := 200

def rawEvent (contractId : String) (event : EventResponse) (index : ℕ) : RawContractEvent where
  contractId := contractId
  ledger := event.ledger
  -- The position in the response.
  eventIndex := index
  txHash := event.txHash
  topicXdr := event.topic
  valueXdr := event.value
  closedAt := event.ledgerClosedAt

/-- The events of an answer, numbered by their places in it. -/
def rawEvents (contractId : String) (events : List EventResponse) : List RawContractEvent :=
  events.zipIdx.map fun p => rawEvent contractId p.1 p.2

def fetchEvents (rpc : Rpc) (contractId : String) (fromLedger toLedger : ℕ) :
    Task (List RawContractEvent) := do
  let request : Request := ⟨contractId, fromLedger, toLedger, pageLimit⟩
  call
  Job.modify fun s => { s with requests := s.requests ++ [request] }
  let events ← Job.okOr (rpc.getEvents request) .interrupted
  pure (rawEvents contractId events)

/-! ### The tick -/

structure IndexerTickResult where
  fromLedger : ℕ
  toLedger : ℕ
  eventsDecoded : ℕ
  eventsSkipped : ℕ
  projectionsUpdated : ℕ
  deriving DecidableEq

/-- One turn of the loop over the events: an undecodable event is counted, and any other failure
ends the tick. -/
def handleEvent (cfg : Config) (now : ℕ) (result : IndexerTickResult) (raw : RawContractEvent) :
    Task IndexerTickResult :=
  match decodeEvent raw with
  | .error _ => pure { result with eventsSkipped := result.eventsSkipped + 1 }
  | .ok decoded => do
    let written ← persist cfg now raw decoded
    pure { result with
      eventsDecoded := result.eventsDecoded + 1
      projectionsUpdated := result.projectionsUpdated + if written = true then 1 else 0 }

/-- Where the indexer continues with a contract. -/
def Config.nextLedger (cfg : Config) (tip : ℕ) (stored : Option ℕ) : ℕ :=
  match stored with
  | some ledger => ledger + 1
  | none => cfg.startLedger.getD tip

/-- One turn of the loop over the contracts. -/
def indexContract (cfg : Config) (rpc : Rpc) (now tip : ℕ) (result : IndexerTickResult)
    (contractId : String) : Task IndexerTickResult := do
  let stored ← cursorFor contractId
  let fromLedger := cfg.nextLedger tip stored
  if tip < fromLedger then pure result
  else do
    let events ← fetchEvents rpc contractId fromLedger tip
    let result ← events.foldlM (handleEvent cfg now)
      { result with fromLedger := min result.fromLedger fromLedger }
    saveCursor contractId tip
    pure result

/-- One indexing pass across all four contracts. -/
def tick (cfg : Config) (rpc : Rpc) (now : ℕ) : Task IndexerTickResult := do
  call
  let tip ← Job.okOr rpc.latestLedger .interrupted
  cfg.contractIds.foldlM (indexContract cfg rpc now tip) ⟨tip, tip, 0, 0, 0⟩

end Indexer

end RemitBridge
