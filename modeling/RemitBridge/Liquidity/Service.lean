import RemitBridge.Backend.Contracts
import RemitBridge.Liquidity.Records

/-!
# The liquidity service

A request for float is decided by `decideTopUp` and, if approved, executed by `executeTopUp`.  Both
are processes that query the database and, the latter, invoke the pool; any number of them run side
by side.

`Stage` says how far a call has come.  `follows_program` shows that the two functions go through
these stages, and `StageCall` lists the calls they make on the way.
-/

namespace RemitBridge

namespace Liquidity

open Backend Process

open Indexer (AgentRow)

/-- The requests that the routes handle.  The clock is read once. -/
inductive Command where
  | decideTopUp (requestId : String) (approved : Bool) (approvedBy : String) (note : Option String)
      (now : ℕ)
  | executeTopUp (requestId : String) (now : ℕ)
  deriving DecidableEq

inductive Outcome where
  | decided (request : TopUpRequest)
  | executed (txHash : Option String) (status : String)

abbrev ServiceCall := Query ⊕ RpcCall

abbrev ServiceAnswer : ServiceCall → Type := Sum.elim QueryAnswer RpcAnswer

abbrev Service (α : Type) := Process ServiceCall ServiceAnswer Failure α

def findTopUp (id : String) : Service (Option (TopUpRequest × AgentRow)) :=
  ask (Sum.inl (Query.findTopUp id) : ServiceCall)

def updateTopUp (id : String) (data : TopUpData) : Service TopUpRequest :=
  ask (Sum.inl (Query.updateTopUp id data) : ServiceCall)

def transaction (statements : List Statement) : Service Unit :=
  ask (Sum.inl (Query.transaction statements) : ServiceCall)

def decideTopUp (requestId : String) (approved : Bool) (approvedBy : String)
    (note : Option String) (now : ℕ) : Service Outcome := do
  match ← findTopUp requestId with
  | none => .fail (notFound "top-up request" requestId)
  | some (request, _) =>
    throwUnless (request.status = .pending)
      (conflict "request has already been decided" [("status", request.status.text)])
    let updated ← updateTopUp requestId (.decided approved approvedBy note now)
    pure (.decided updated)

/-- The transaction after a draw. -/
def completion (requestId : String) (request : TopUpRequest) (txHash : Option String) (now : ℕ) :
    List Statement :=
  [.updateTopUp requestId (.executed txHash now),
    .incrementExposure request.agentId request.regionId request.amountRequested,
    .resolveAlerts request.agentId request.regionId now]

section Execute

variable (sdk : Sdk) (env : Settings)

/-- What `executeTopUp` tries. -/
def drawAndRecord (operator : Keypair) (requestId : String) (request : TopUpRequest)
    (agent : AgentRow) (now : ℕ) : Service Outcome := do
  let amount ← ofExcept (sdk.bigIntOfDecimal request.amountRequested)
  let result ← (drawLiquidity sdk env operator agent.stellarAddress request.regionId amount).lift
  transaction (completion requestId request result.hash now)
  pure (.executed (result.hash.filter fun hash => decide (hash ≠ "")) "EXECUTED")

def executeTopUp (requestId : String) (now : ℕ) : Service Outcome := do
  match ← findTopUp requestId with
  | none => .fail (notFound "top-up request" requestId)
  | some (request, agent) =>
    throwUnless (request.status = .approved)
      (conflict "only approved requests can be executed" [("status", request.status.text)])
    let operator ← ofExcept (sdk.keypairFromSecret env.operatorSecretKey)
    (drawAndRecord sdk env operator requestId request agent now).tryCatch fun error => do
      let _ ← updateTopUp requestId (.failed error.message)
      .fail error

def program : Command → Service Outcome
  | .decideTopUp requestId approved approvedBy note now =>
    decideTopUp requestId approved approvedBy note now
  | .executeTopUp requestId now => executeTopUp sdk env requestId now

end Execute

/-! ### Stages -/

def Command.requestId : Command → String
  | decideTopUp requestId .. | executeTopUp requestId _ => requestId

/-- How far a call has come. -/
inductive Stage where
  | begun
  /-- It found the request pending. -/
  | deciding
  | decided (request : TopUpRequest)
  /-- It found the request approved. -/
  | executing (request : TopUpRequest) (agent : AgentRow) (s : Submission)
  /-- The transaction after the draw failed. -/
  | unrecorded (request : TopUpRequest) (s : Submission)
  | executed (txHash : String) (s : Submission)
  /-- It tried to record that it failed. -/
  | failed (s : Submission)
  | ended

/-- The stage after the request has been looked up. -/
def Command.found : Command → Except Failure (Option (TopUpRequest × AgentRow)) → Stage
  | decideTopUp .., .ok (some (request, _)) =>
    if request.status = .pending then .deciding else .ended
  | executeTopUp .., .ok (some (request, agent)) =>
    if request.status = .approved then .executing request agent .unsent else .ended
  | _, _ => .ended

/-- What a decision writes. -/
def Command.decision : Command → Option TopUpData
  | decideTopUp _ approved approvedBy note now => some (.decided approved approvedBy note now)
  | executeTopUp .. => none

/-- What an execution writes when the draw has been submitted with this hash. -/
def Command.statements (request : TopUpRequest) (txHash : String) :
    Command → Option (List Statement)
  | executeTopUp requestId now => some (completion requestId request (some txHash) now)
  | decideTopUp .. => none

def TopUpData.isFailure : TopUpData → Bool
  | failed _ => true
  | decided .. | executed .. => false

def Stage.next (c : Command) : Stage → (q : ServiceCall) → Except Failure (ServiceAnswer q) →
    Option Stage
  | .begun, .inl (.findTopUp id), o => if id = c.requestId then some (c.found o) else none
  | .deciding, .inl (.updateTopUp id data), o =>
    if id = c.requestId ∧ c.decision = some data then
      match o with
      | .ok request => some (.decided request)
      | .error _ => some .ended
    else none
  | .executing request agent s, .inr q, o => (s.next q o).map (.executing request agent)
  | .executing request _ s, .inl (.transaction statements), o =>
    match s.returned with
    | none => none
    | some txHash =>
      if c.statements request txHash = some statements then
        match o with
        | .ok _ => some (.executed txHash s)
        | .error _ => some (.unrecorded request s)
      else none
  | .executing _ _ s, .inl (.updateTopUp id data), _ =>
    if id = c.requestId ∧ data.isFailure = true ∧ s.givesUp = true then some (.failed s) else none
  | .unrecorded _ s, .inl (.updateTopUp id data), _ =>
    if id = c.requestId ∧ data.isFailure = true then some (.failed s) else none
  | _, _, _ => none

/-- How a call ends.  An execution without an operator key fails without a trace. -/
inductive Stage.Ends : Stage → Except Failure Outcome → Prop
  | decided {request : TopUpRequest} : Ends (.decided request) (.ok (.decided request))
  | executed {txHash : String} {s : Submission} {txHash' : Option String} :
      Ends (.executed txHash s) (.ok (.executed txHash' "EXECUTED"))
  | keyless {request : TopUpRequest} {agent : AgentRow} {e : Failure} :
      Ends (.executing request agent .unsent) (.error e)
  | failed {s : Submission} {e : Failure} : Ends (.failed s) (.error e)
  | ended {e : Failure} : Ends .ended (.error e)

def staging : Staging ServiceCall ServiceAnswer Failure Outcome Command Stage :=
  ⟨.begun, Stage.next, fun _ => Stage.Ends⟩

/-! ### The functions go through the stages -/

section Follows

variable {sdk : Sdk} {env : Settings}

theorem follows_decideTopUp (requestId : String) (approved : Bool) (approvedBy : String)
    (note : Option String) (now : ℕ) :
    Follows (Stage.next (.decideTopUp requestId approved approvedBy note now)) Stage.Ends .begun
      (decideTopUp requestId approved approvedBy note now) := by
  rw [decideTopUp]
  refine .ask_bind (fun found => ⟨_, if_pos rfl, ?_⟩) fun e => ⟨.ended, if_pos rfl, .ended⟩
  rcases found with _ | ⟨request, agent⟩
  · exact Stage.Ends.ended
  · show Follows _ _ (if request.status = .pending then _ else _) (throwUnless _ _ >>= _)
    by_cases hpending : request.status = .pending
    · rw [if_pos hpending, throwUnless_bind_pos hpending]
      exact .ask_bind (fun updated => ⟨.decided updated, if_pos ⟨rfl, rfl⟩, Stage.Ends.decided⟩)
        fun e => ⟨.ended, if_pos ⟨rfl, rfl⟩, .ended⟩
    · rw [if_neg hpending, throwUnless_bind_neg hpending]
      exact Stage.Ends.ended

/-- How trying ends. -/
inductive Tried (c : Command) (request : TopUpRequest) (agent : AgentRow) :
    Stage → Except Failure Outcome → Prop
  | executed {txHash : String} {s : Submission} {txHash' : Option String} :
      Tried c request agent (.executed txHash s) (.ok (.executed txHash' "EXECUTED"))
  | gaveUp {s : Submission} {e : Failure} : s.givesUp = true →
      Tried c request agent (.executing request agent s) (.error e)
  | unrecorded {s : Submission} {e : Failure} :
      Tried c request agent (.unrecorded request s) (.error e)

theorem follows_drawAndRecord {operator : Keypair} {requestId : String} {request : TopUpRequest}
    {agent : AgentRow} {now : ℕ} : Follows (Stage.next (.executeTopUp requestId now))
      (Tried (.executeTopUp requestId now) request agent) (.executing request agent .unsent)
      (drawAndRecord sdk env operator requestId request agent now) := by
  rw [drawAndRecord]
  cases sdk.bigIntOfDecimal request.amountRequested with
  | error e => exact Tried.gaveUp rfl
  | ok amount =>
    show Follows _ _ _ ((drawLiquidity _ _ _ _ _ _).lift >>= _)
    refine .bind (.lift (f := Stage.executing request agent) (follows_drawLiquidity sdk env)
      (F := fun φ r => ∃ s, φ = .executing request agent s ∧ s.Concludes r)
      (fun s q o s' hnext => ?_) fun s r hc => ⟨s, rfl, hc⟩) ?_ ?_
    · show (s.next q o).map (Stage.executing request agent) = _
      rw [hnext]
      rfl
    · rintro _ result ⟨s, rfl, hc⟩
      obtain ⟨hreturned, hsome⟩ := hc.returned
      obtain ⟨txHash, hhash⟩ := Option.isSome_iff_exists.1 hsome
      rw [hhash] at hreturned ⊢
      refine .ask_bind (fun _ => ⟨.executed txHash s, ?_, Tried.executed⟩)
        fun e => ⟨.unrecorded request s, ?_, .unrecorded⟩
      · rw [Stage.next, hreturned]
        exact if_pos rfl
      · rw [Stage.next, hreturned]
        exact if_pos rfl
    · rintro _ e ⟨s, rfl, hc⟩
      exact .gaveUp hc.givesUp

theorem follows_executeTopUp (requestId : String) (now : ℕ) :
    Follows (Stage.next (.executeTopUp requestId now)) Stage.Ends .begun
      (executeTopUp sdk env requestId now) := by
  rw [executeTopUp]
  refine .ask_bind (fun found => ⟨_, if_pos rfl, ?_⟩) fun e => ⟨.ended, if_pos rfl, .ended⟩
  rcases found with _ | ⟨request, agent⟩
  · exact Stage.Ends.ended
  show Follows _ _ (if request.status = .approved then _ else _) (throwUnless _ _ >>= _)
  by_cases happroved : request.status = .approved
  · rw [if_pos happroved, throwUnless_bind_pos happroved]
    cases sdk.keypairFromSecret env.operatorSecretKey with
    | error e => exact Stage.Ends.keyless
    | ok operator =>
      refine .tryCatch follows_drawAndRecord ?_ ?_
      · intro φ outcome htried
        cases htried
        exact .executed
      · intro φ error htried
        cases htried with
        | @gaveUp s e hs =>
          exact .ask_bind (fun _ => ⟨.failed s, if_pos ⟨rfl, rfl, hs⟩, Stage.Ends.failed⟩)
            fun e => ⟨.failed s, if_pos ⟨rfl, rfl, hs⟩, .failed⟩
        | @unrecorded s e =>
          exact .ask_bind (fun _ => ⟨.failed s, if_pos ⟨rfl, rfl⟩, Stage.Ends.failed⟩)
            fun e => ⟨.failed s, if_pos ⟨rfl, rfl⟩, .failed⟩
  · rw [if_neg happroved, throwUnless_bind_neg happroved]
    exact Stage.Ends.ended

/-- **The functions of the service go through the stages.** -/
theorem follows_program : Stages (program sdk env) staging := by
  rintro (⟨requestId, approved, approvedBy, note, now⟩ | ⟨requestId, now⟩)
  · exact follows_decideTopUp requestId approved approvedBy note now
  · exact follows_executeTopUp requestId now

end Follows

end Liquidity

end RemitBridge
