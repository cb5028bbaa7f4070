import RemitBridge.Interface.Escrow
import RemitBridge.Json.Script
import RemitBridge.Money.RoundTrip

/-!
# The transfer routes

The three routes by which senders follow their transfers.  Each reads a row with some of its
relations and answers with an object that is made of it.

The answers carry the amounts exactly as long as these are below 10^21, from where on decimals are
written in exponent notation.  The status of a transfer is moreover answered only if no event is
linked to it: the events are spread into the answer with the transfer they are linked to, which is a
big integer (`exact_iff`).
-/

namespace RemitBridge

namespace Transfers

open Json Money Decimal

open Script (Leaf Value decimalToString toExpPos toJson)

/-! ### Rows -/

structure Corridor where
  id : Str
  sourceCurrency : Str
  destCurrency : Str
  regionId : Str
  tier1Max : ℕ
  tier2Max : ℕ
  dailyLimit : ℕ
  spreadBps : ℤ
  active : Bool
  createdAt : ℤ
  updatedAt : ℤ

/-- The columns of an agent that the routes read. -/
structure Agent where
  id : Str
  legalName : Str
  tradingName : Option Str
  regionId : Str

structure ChainEvent where
  id : Str
  contractId : Str
  topic : Str
  ledger : ℤ
  eventIndex : ℤ
  txHash : Str
  payload : Json Str
  rawXdr : Option Str
  transferId : Option ℤ
  occurredAt : ℤ
  ingestedAt : ℤ

/-- A transfer with its relations.  Times are in milliseconds. -/
structure Transfer where
  id : ℕ
  senderId : Str
  agentId : Option Str
  corridorId : Str
  amount : ℕ
  fee : ℕ
  payout : ℕ
  tokenAddress : Str
  claimHash : Str
  expiry : ℤ
  status : TransferStatus
  createdAt : ℤ
  settledAt : Option ℤ
  claimedBy : Option Str
  createTxHash : Option Str
  settleTxHash : Option Str
  updatedAt : ℤ
  corridor : Corridor
  agent : Option Agent
  /-- In the order of the log. -/
  events : List ChainEvent
  linked : ∀ event ∈ events, event.transferId = some (id : ℤ)

structure IndexerCursor where
  lastLedger : ℤ
  updatedAt : ℤ

structure Tables where
  transfers : List Transfer
  cursors : List IndexerCursor

def statusText : TransferStatus → Str
  | .pending => units "PENDING"
  | .claimed => units "CLAIMED"
  | .refunded => units "REFUNDED"
  | .cancelled => units "CANCELLED"

/-! ### Rows as values of the script -/

def string (s : Str) : Value := .str s

def optional (s : Option Str) : Value := s.elim .null .str

def number (n : ℤ) : Value := .num (.number n)

def bigint (n : ℤ) : Value := .num (.bigint n)

def decimal (n : ℤ) : Value := .num (.decimal n)

def date (ms : ℤ) : Value := .num (.date ms)

def optionalDate (ms : Option ℤ) : Value := ms.elim .null date

def Corridor.members (corridor : Corridor) : Members Leaf :=
  [(units "id", string corridor.id), (units "sourceCurrency", string corridor.sourceCurrency),
    (units "destCurrency", string corridor.destCurrency),
    (units "regionId", string corridor.regionId), (units "tier1Max", decimal corridor.tier1Max),
    (units "tier2Max", decimal corridor.tier2Max),
    (units "dailyLimit", decimal corridor.dailyLimit),
    (units "spreadBps", number corridor.spreadBps), (units "active", .bool corridor.active),
    (units "createdAt", date corridor.createdAt), (units "updatedAt", date corridor.updatedAt)]

def ChainEvent.members (event : ChainEvent) : Members Leaf :=
  [(units "id", string event.id), (units "contractId", string event.contractId),
    (units "topic", string event.topic), (units "ledger", number event.ledger),
    (units "eventIndex", number event.eventIndex), (units "txHash", string event.txHash),
    (units "payload", .num (.parsed event.payload)), (units "rawXdr", optional event.rawXdr),
    (units "transferId", event.transferId.elim .null bigint),
    (units "occurredAt", date event.occurredAt), (units "ingestedAt", date event.ingestedAt)]

/-- The columns of a transfer. -/
def Transfer.columns (transfer : Transfer) : Members Leaf :=
  [(units "id", bigint transfer.id), (units "senderId", string transfer.senderId),
    (units "agentId", optional transfer.agentId), (units "corridorId", string transfer.corridorId),
    (units "amount", decimal transfer.amount), (units "fee", decimal transfer.fee),
    (units "payout", decimal transfer.payout), (units "tokenAddress", string transfer.tokenAddress),
    (units "claimHash", string transfer.claimHash), (units "expiry", date transfer.expiry),
    (units "status", string (statusText transfer.status)),
    (units "createdAt", date transfer.createdAt),
    (units "settledAt", optionalDate transfer.settledAt),
    (units "claimedBy", optional transfer.claimedBy),
    (units "createTxHash", optional transfer.createTxHash),
    (units "settleTxHash", optional transfer.settleTxHash),
    (units "updatedAt", date transfer.updatedAt)]

/-- The row as the list reads it. -/
def Transfer.listed (transfer : Transfer) : Members Leaf :=
  transfer.columns ++
    [(units "corridor", .obj [(units "id", string transfer.corridor.id),
        (units "destCurrency", string transfer.corridor.destCurrency)]),
      (units "agent", transfer.agent.elim .null fun agent => .obj [(units "id", string agent.id),
        (units "tradingName", optional agent.tradingName),
        (units "legalName", string agent.legalName)])]

/-- The row as the status reads it. -/
def Transfer.detailed (transfer : Transfer) : Members Leaf :=
  transfer.columns ++
    [(units "corridor", .obj transfer.corridor.members),
      (units "agent", transfer.agent.elim .null fun agent => .obj [(units "id", string agent.id),
        (units "tradingName", optional agent.tradingName),
        (units "legalName", string agent.legalName), (units "regionId", string agent.regionId)]),
      (units "events", .arr (transfer.events.map fun event => .obj event.members))]

/-- Amounts leave the API as strings.  All else is spread from the row. -/
def serialiseTransfer (row : Members Leaf) (transfer : Transfer) : Members Leaf :=
  (((row.set (units "id") (string (renderInt transfer.id))).set (units "amount")
    (string (decimalToString transfer.amount))).set (units "fee")
    (string (decimalToString transfer.fee))).set (units "payout")
    (string (decimalToString transfer.payout))

/-! ### Routes -/

inductive Failure where
  | validationFailed (details : List (Str × Str))
  | notFound (what id : Str)
  | error (message : Str)

/-- A query that passed its schema. -/
structure ListQuery where
  senderId : Option Str
  corridorId : Option Str
  status : Option TransferStatus
  limit : ℕ

/-- The rows of a list: the newest ones that match. -/
def page (tables : Tables) (query : ListQuery) : List Transfer :=
  ((tables.transfers.filter fun transfer =>
    query.senderId.all (transfer.senderId = ·) && query.corridorId.all (transfer.corridorId = ·) &&
      query.status.all (transfer.status = ·)).insertionSort
    fun a b => b.createdAt ≤ a.createdAt).take query.limit

/-- The cursor that is furthest behind. -/
def slowest (tables : Tables) : Option IndexerCursor :=
  (tables.cursors.insertionSort fun a b => a.lastLedger ≤ b.lastLedger).head?

/-- `BigInt` of a text of digits, with or without a sign. -/
def parseBigInt (s : Str) : Except Str ℤ :=
  let digits := if s.head? = some (unit '-') then s.tail else s
  if digits ≠ [] ∧ Digits digits then
    .ok (if s.head? = some (unit '-') then -(value digits : ℤ) else value digits)
  else .error (units "Cannot convert " ++ s ++ units " to a BigInt")

/-- The answer of a list. -/
def listBody (tables : Tables) (query : ListQuery) : Members Leaf :=
  [(units "transfers", .arr ((page tables query).map fun transfer =>
      .obj (serialiseTransfer transfer.listed transfer))),
    (units "indexer", .obj
      [(units "lastLedger", (slowest tables).elim .null fun cursor => number cursor.lastLedger),
        (units "updatedAt", (slowest tables).elim .null fun cursor => date cursor.updatedAt)])]

variable (toISOString : ℤ → Str)

/-- Send a value as JSON. -/
def json (body : Value) : Except Failure (Json Str) :=
  (Script.stringify toISOString body).mapError .error

def listTransfers (tables : Tables) (query : ListQuery) : Except Failure (Json Str) :=
  json toISOString (.obj (listBody tables query))

/-- The transfer with the id of a route. -/
def findTransfer (tables : Tables) (id : Str) : Except Failure Transfer := do
  if ¬ (id ≠ [] ∧ Digits id) then
    throw (.validationFailed [(units "id", units "expected a numeric transfer id")])
  match tables.transfers.find? fun transfer => transfer.id = value id with
  | none => throw (.notFound (units "transfer") id)
  | some transfer => pure transfer

/-- A transfer that has expired may be refunded by anyone. -/
def expired (transfer : Transfer) (now : ℤ) : Bool :=
  transfer.status = .pending && transfer.expiry < now

/-- The answer of a status. -/
def statusBody (transfer : Transfer) (now : ℤ) : Members Leaf :=
  (((serialiseTransfer transfer.detailed transfer).set (units "expired")
    (.bool (expired transfer now))).set (units "refundable") (.bool (expired transfer now))).set
    (units "timeline")
    (.arr (transfer.events.map fun event => .obj
      [(units "topic", string event.topic), (units "ledger", number event.ledger),
        (units "txHash", string event.txHash), (units "occurredAt", date event.occurredAt)]))

def transferStatus (tables : Tables) (id : Str) (now : ℤ) :
    Except Failure (Json Str) := do
  let transfer ← findTransfer tables id
  json toISOString (.obj (statusBody transfer now))

/-- The answer of a receipt, with the amounts as integers. -/
def receiptBody (transfer : Transfer) (amount fee payout : ℤ) : Members Leaf :=
  [(units "transferId", string (renderInt transfer.id)),
    (units "status", string (statusText transfer.status)),
    (units "amount", string (fromStroops amount)), (units "fee", string (fromStroops fee)),
    (units "payout", string (fromStroops payout)), (units "corridor", string transfer.corridor.id),
    (units "agent", transfer.agent.elim .null fun agent => .obj [(units "id", string agent.id),
      (units "name", string (agent.tradingName.getD agent.legalName))]),
    (units "createdAt", date transfer.createdAt),
    (units "settledAt", optionalDate transfer.settledAt),
    (units "claimHash", string transfer.claimHash),
    (units "settleTxHash", optional transfer.settleTxHash)]

def transferReceipt (tables : Tables) (id : Str) : Except Failure (Json Str) := do
  let transfer ← findTransfer tables id
  let amount ← (parseBigInt (decimalToString transfer.amount)).mapError .error
  let fee ← (parseBigInt (decimalToString transfer.fee)).mapError .error
  let payout ← (parseBigInt (decimalToString transfer.payout)).mapError .error
  json toISOString (.obj (receiptBody transfer amount fee payout))

end Transfers

end RemitBridge
