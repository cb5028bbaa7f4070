import RemitBridge.Data.Job
import RemitBridge.Data.Store
import RemitBridge.Indexer.Decoder
import RemitBridge.Interface.AgentRegistry
import RemitBridge.Interface.Escrow

/-!
# The database, as the indexer sees it

The tables the indexer reads and writes, and the queries it makes.  Every query is a call to
another machine, and the process may be stopped at any of them, by a crash or by a failure of the
call: a `Session` says after how many calls this one is.  What was written before stays written.

The users, corridors, regions and agents are managed by the rest of the backend.
-/

namespace RemitBridge

namespace Indexer

/-! ### Tables -/

structure UserRow where
  id : String
  stellarAddress : Option String

structure AgentRow where
  id : String
  stellarAddress : String
  status : AgentStatus
  authorizedAt : Option ℕ
  suspendedAt : Option ℕ
  revokedAt : Option ℕ

/-- Amounts are decimal strings, times are in milliseconds. -/
structure TransferRow where
  senderId : String
  agentId : Option String
  corridorId : String
  amount : String
  fee : String
  payout : String
  tokenAddress : String
  claimHash : String
  expiry : ℤ
  status : TransferStatus
  createdAt : ℕ
  settledAt : Option ℕ
  claimedBy : Option String
  createTxHash : Option String
  settleTxHash : Option String

/-- What `ChainEvent` is unique on. -/
structure EventKey where
  contractId : String
  ledger : ℕ
  eventIndex : ℕ
  deriving DecidableEq

structure ChainEventRow where
  key : EventKey
  topic : String
  txHash : String
  payload : Payload
  rawXdr : Option (List Value × Value)
  transferId : Option ℤ
  occurredAt : ℕ

structure Database where
  users : List UserRow
  corridors : List String
  regions : List String
  agents : List AgentRow
  transfers : Store ℤ TransferRow
  /-- `drawnAmount` by agent and region. -/
  exposures : Store (String × String) String
  /-- In the order in which they were written. -/
  chainEvents : List ChainEventRow
  /-- `lastLedger` by contract. -/
  cursors : Store String ℕ

/-- A database the indexer has not written to. -/
structure Database.Unindexed (db : Database) : Prop where
  transfers : db.transfers = ∅
  chainEvents : db.chainEvents = []
  cursors : db.cursors = ∅

/-! ### Sessions -/

/-- A request to the RPC node for the events of a contract in a range of ledgers. -/
structure Request where
  contractId : String
  startLedger : ℕ
  endLedger : ℕ
  limit : ℕ
  deriving DecidableEq

/-- The state of the indexer process. -/
structure Session where
  db : Database
  /-- How many more calls it makes before it is stopped. -/
  calls : ℕ
  /-- The requests it has made to the RPC node, oldest first. -/
  requests : List Request

/-- Why a task of the indexer does not return. -/
inductive Failure where
  /-- The process was stopped, or a call to another machine failed. -/
  | interrupted
  /-- The database refused a statement. -/
  | refused
  /-- An exception of the indexer itself. -/
  | thrown (message : String)
  deriving DecidableEq

abbrev Task (α : Type) := Job Session Failure α

/-- Go through with a call, unless the process is stopped at it. -/
def call : Task Unit := do
  Job.throwUnless (0 < (← Job.gets Session.calls)) .interrupted
  Job.modify fun s => { s with calls := s.calls - 1 }

/-- Read the database. -/
def query {α : Type} (f : Database → α) : Task α := do
  call
  Job.gets fun s => f s.db

/-- Write to the database. -/
def update (f : Database → Database) : Task Unit := do
  call
  Job.modify fun s => { s with db := f s.db }

/-! ### Statements -/

/-- The value fits a column of type `Int`. -/
def requireInt (n : ℕ) : Task Unit := Job.throwUnless (n ≤ 2147483647) .refused

/-- The value fits a column of type `BigInt`. -/
def requireBigInt (n : ℤ) : Task Unit :=
  Job.throwUnless (-9223372036854775808 ≤ n ∧ n ≤ 9223372036854775807) .refused

def Database.hasChainEvent (db : Database) (key : EventKey) : Bool :=
  db.chainEvents.any fun row => decide (row.key = key)

/-- `prisma.chainEvent.findUnique` -/
def findChainEvent (key : EventKey) : Task Bool := do
  requireInt key.ledger
  requireInt key.eventIndex
  query fun db => db.hasChainEvent key

/-- `prisma.chainEvent.create` -/
def createChainEvent (row : ChainEventRow) : Task Unit := do
  let taken ← Job.gets fun s => s.db.hasChainEvent row.key
  Job.throwUnless (taken = false) .refused
  update fun db => { db with chainEvents := db.chainEvents ++ [row] }

/-- `prisma.transfer.findUnique` -/
def findTransfer (id : ℤ) : Task (Option TransferRow) := do
  requireBigInt id
  query fun db => db.transfers.lookup id

/-- `prisma.transfer.upsert` -/
def upsertTransfer (id : ℤ) (create : TransferRow) (change : TransferRow → TransferRow) :
    Task Unit := do
  requireBigInt id
  update fun db => { db with
    transfers := db.transfers.insert id (((db.transfers.lookup id).map change).getD create) }

/-- `prisma.transfer.update`, of a row that exists -/
def updateTransfer (id : ℤ) (change : TransferRow → TransferRow) : Task Unit := do
  let known ← Job.gets fun s => (s.db.transfers.lookup id).isSome
  Job.throwUnless (known = true) .refused
  update fun db => { db with
    transfers := (db.transfers.lookup id).elim db.transfers fun row =>
      db.transfers.insert id (change row) }

def Database.userAt (db : Database) (stellarAddress : String) : Option UserRow :=
  db.users.find? fun user => decide (user.stellarAddress = some stellarAddress)

def Database.agentAt (db : Database) (stellarAddress : String) : Option AgentRow :=
  db.agents.find? fun agent => decide (agent.stellarAddress = stellarAddress)

/-- `prisma.agent.updateMany`, and the number of rows it changed -/
def updateAgents (stellarAddress : String) (change : AgentRow → AgentRow) : Task ℕ := do
  let count ← Job.gets fun s =>
    s.db.agents.countP fun agent => decide (agent.stellarAddress = stellarAddress)
  update fun db => { db with
    agents := db.agents.map fun agent =>
      if agent.stellarAddress = stellarAddress then change agent else agent }
  pure count

/-- `prisma.agentExposure.upsert`; a new row must refer to a region there is. -/
def upsertExposure (agentId regionId drawnAmount : String) : Task Unit := do
  let known ← Job.gets fun s =>
    (s.db.exposures.lookup (agentId, regionId)).isSome || decide (regionId ∈ s.db.regions)
  Job.throwUnless (known = true) .refused
  update fun db => { db with
    exposures := db.exposures.insert (agentId, regionId) drawnAmount }

/-- `prisma.indexerCursor.findUnique` -/
def cursorFor (contractId : String) : Task (Option ℕ) :=
  query fun db => db.cursors.lookup contractId

/-- `prisma.indexerCursor.upsert` -/
def saveCursor (contractId : String) (ledger : ℕ) : Task Unit := do
  requireInt ledger
  update fun db => { db with cursors := db.cursors.insert contractId ledger }

end Indexer

end RemitBridge
