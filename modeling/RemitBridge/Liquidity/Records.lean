import RemitBridge.Data.Process
import RemitBridge.Backend.Rpc
import RemitBridge.Indexer.Database

/-!
# The tables of the liquidity service

Top-up requests and float alerts, next to the tables that the indexer maintains, and the queries
the service makes.  A statement that the database refuses is `none`; the statements of a transaction
take effect together.
-/

namespace RemitBridge

namespace Liquidity

open Backend Process

open Indexer (Database AgentRow parseInteger)

inductive TopUpStatus where
  | pending
  | approved
  | rejected
  | executed
  | failed
  deriving DecidableEq

def TopUpStatus.text : TopUpStatus → String
  | pending => "PENDING"
  | approved => "APPROVED"
  | rejected => "REJECTED"
  | executed => "EXECUTED"
  | failed => "FAILED"

structure TopUpRequest where
  agentId : String
  regionId : String
  amountRequested : ℤ
  reason : String
  status : TopUpStatus
  requestedBy : String
  approvedBy : Option String
  decisionNote : Option String
  txHash : Option String
  failureReason : Option String
  decidedAt : Option ℕ
  executedAt : Option ℕ
  deriving DecidableEq

/-- A request as it is proposed. -/
structure TopUpRequest.Proposed (request : TopUpRequest) : Prop where
  status : request.status = .pending
  approvedBy : request.approvedBy = none
  txHash : request.txHash = none

inductive AlertStatus where
  | opened
  | acknowledged
  | resolved
  deriving DecidableEq

structure FloatAlert where
  agentId : String
  regionId : String
  kind : String
  status : AlertStatus
  resolvedAt : Option ℕ

structure Records extends Database where
  topUps : Store String TopUpRequest
  alerts : List FloatAlert

/-! ### Statements -/

/-- What is written to a request. -/
inductive TopUpData where
  | decided (approved : Bool) (approvedBy : String) (note : Option String) (now : ℕ)
  | executed (txHash : Option String) (now : ℕ)
  | failed (reason : String)
  deriving DecidableEq

def TopUpData.apply : TopUpData → TopUpRequest → TopUpRequest
  | decided approved approvedBy note now, request => { request with
      status := if approved = true then .approved else .rejected
      approvedBy := some approvedBy
      decisionNote := note
      decidedAt := some now }
  | executed txHash now, request => { request with
      status := .executed
      txHash
      executedAt := some now }
  | failed reason, request => { request with status := .failed, failureReason := some reason }

inductive Statement where
  | updateTopUp (id : String) (data : TopUpData)
  /-- Create the exposure with an amount, or increment it. -/
  | incrementExposure (agentId regionId : String) (amount : ℤ)
  /-- Resolve the alerts that are open or acknowledged. -/
  | resolveAlerts (agentId regionId : String) (now : ℕ)
  deriving DecidableEq

/-- The value fits a column of type `Decimal(39, 0)`. -/
def FitsDecimal (n : ℤ) : Prop := -10 ^ 39 < n ∧ n < 10 ^ 39

instance {n : ℤ} : Decidable (FitsDecimal n) := inferInstanceAs (Decidable (_ ∧ _))

namespace Records

/-- `prisma.liquidityTopUpRequest.update`, of a row that exists -/
def updateTopUp (id : String) (data : TopUpData) (r : Records) : Option (TopUpRequest × Records) :=
  (r.topUps.lookup id).map fun request =>
    (data.apply request, { r with topUps := r.topUps.insert id (data.apply request) })

/-- The amount that incrementing an exposure leads to; a new row must refer to a region there is. -/
def incremented (agentId regionId : String) (amount : ℤ) (r : Records) : Option ℤ :=
  match r.exposures.lookup (agentId, regionId) with
  | some drawn => (parseInteger drawn).map fun drawn => drawn + amount
  | none => if regionId ∈ r.regions then some amount else none

/-- `prisma.agentExposure.upsert` -/
def incrementExposure (agentId regionId : String) (amount : ℤ) (r : Records) : Option Records :=
  ((r.incremented agentId regionId amount).filter fun n => decide (FitsDecimal n)).map fun n =>
    { r with exposures := r.exposures.insert (agentId, regionId) (toString n) }

/-- `prisma.agentFloatAlert.updateMany` -/
def resolveAlerts (agentId regionId : String) (now : ℕ) (r : Records) : Records :=
  { r with alerts := r.alerts.map fun alert =>
      if alert.agentId = agentId ∧ alert.regionId = regionId ∧ alert.status ≠ .resolved then
        { alert with status := .resolved, resolvedAt := some now }
      else alert }

end Records

def Statement.perform : Statement → Records → Option Records
  | updateTopUp id data, r => (r.updateTopUp id data).map Prod.snd
  | incrementExposure agentId regionId amount, r => r.incrementExposure agentId regionId amount
  | resolveAlerts agentId regionId now, r => some (r.resolveAlerts agentId regionId now)

/-! ### Queries -/

inductive Query where
  /-- `prisma.liquidityTopUpRequest.findUnique`, with the agent -/
  | findTopUp (id : String)
  | updateTopUp (id : String) (data : TopUpData)
  /-- `prisma.$transaction` -/
  | transaction (statements : List Statement)

abbrev QueryAnswer : Query → Type
  | .findTopUp _ => Option (TopUpRequest × AgentRow)
  | .updateTopUp _ _ => TopUpRequest
  | .transaction _ => Unit

def Query.perform : (q : Query) → Records → Option (QueryAnswer q × Records)
  | .findTopUp id, r =>
    match r.topUps.lookup id with
    | none => some (none, r)
    | some request => (r.agents.find? fun agent => decide (agent.id = request.agentId)).map
        fun agent => (some (request, agent), r)
  | .updateTopUp id data, r => r.updateTopUp id data
  | .transaction statements, r =>
    (statements.foldlM (fun r (statement : Statement) => statement.perform r) r).map fun r =>
    ((), r)

/-- The rest of the backend changes other tables, and proposes requests. -/
def Records.Continues (r r' : Records) : Prop :=
  ∀ id, r'.topUps.lookup id = r.topUps.lookup id ∨
    r.topUps.lookup id = none ∧ ∃ request, r'.topUps.lookup id = some request ∧ request.Proposed

def database : Environment Records Query QueryAnswer Failure :=
  .ofPerform Query.perform Records.Continues

/-! ### What queries do to requests -/

/-- The data is written to the request, and no other request is changed. -/
def Records.Writes (id : String) (data : TopUpData) (r r' : Records) : Prop :=
  ∃ request, r.topUps.lookup id = some request ∧
    r'.topUps = r.topUps.insert id (data.apply request)

def Records.status (r : Records) (id : String) : Option TopUpStatus :=
  (r.topUps.lookup id).map TopUpRequest.status

variable {r r' : Records} {id id' : String} {data : TopUpData}

theorem Records.Writes.lookup_self (h : Records.Writes id data r r') :
    ∃ request, r.topUps.lookup id = some request ∧
      r'.topUps.lookup id = some (data.apply request) := by
  obtain ⟨request, hrequest, htopUps⟩ := h
  refine ⟨request, hrequest, ?_⟩
  rw [htopUps]
  exact AList.lookup_insert _

theorem Records.Writes.lookup_ne (h : Records.Writes id data r r') (hid : id' ≠ id) :
    r'.topUps.lookup id' = r.topUps.lookup id' := by
  obtain ⟨request, -, htopUps⟩ := h
  rw [htopUps]
  exact AList.lookup_insert_ne hid

theorem updateTopUp_writes {request : TopUpRequest}
    (h : Query.perform (.updateTopUp id data) r = some (request, r')) :
    Records.Writes id data r r' ∧ r'.topUps.lookup id = some request := by
  obtain ⟨old, hold, heq⟩ := Option.map_eq_some_iff.1 h
  cases heq
  exact ⟨⟨old, hold, rfl⟩, AList.lookup_insert _⟩

theorem findTopUp_ok {answer : Option (TopUpRequest × AgentRow)}
    (h : Query.perform (.findTopUp id) r = some (answer, r')) :
    r' = r ∧ r.topUps.lookup id = answer.map Prod.fst := by
  rw [Query.perform] at h
  split at h
  · next hnone =>
    cases h
    exact ⟨rfl, hnone⟩
  · next request hsome =>
    obtain ⟨agent, -, heq⟩ := Option.map_eq_some_iff.1 h
    cases heq
    exact ⟨rfl, hsome⟩

theorem incrementExposure_topUps {agentId regionId : String} {amount : ℤ}
    (h : r.incrementExposure agentId regionId amount = some r') : r'.topUps = r.topUps := by
  obtain ⟨n, -, rfl⟩ := Option.map_eq_some_iff.1 h
  rfl

end Liquidity

end RemitBridge
