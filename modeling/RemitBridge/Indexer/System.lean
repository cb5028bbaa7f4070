import RemitBridge.Data.Log
import RemitBridge.Indexer.Spec
import RemitBridge.Transition.Basic

/-!
# The indexer over time

A `history` gives the events that each contract ever emits.  The node answers a request with the
first events of the requested window of it (`Serves`); a window ends at the tip of the chain, so
what is emitted later does not matter.

A run of the indexer (`system`) interleaves

* ticks, which return, or fail, or are stopped after some number of calls;
* an operator who moves a cursor back, to have events replayed;
* writes of the rest of the backend, which manages its own tables and may change exposures.
-/

namespace RemitBridge

namespace Indexer

open Job

/-- The events that each contract ever emits. -/
abbrev History := String → List EventResponse

/-- The events of the history that a request is about. -/
def window (history : History) (request : Request) : List EventResponse :=
  Log.span EventResponse.ledger request.startLedger (request.endLedger + 1)
    (history request.contractId)

/-- The events that are fetched for a request. -/
def page (history : History) (request : Request) : List EventResponse :=
  (window history request).take request.limit

/-- The node returns, in the order of the ledgers, the first events of a window, as many as the
limit allows. -/
def Serves (history : History) (rpc : Rpc) : Prop :=
  ∀ request events, rpc.getEvents request = some events → events = page history request

/-- What happens to the database. -/
inductive Label where
  /-- A tick, given what the node answers, the time and the number of calls until the process is
  stopped; what became of it, and the requests it made. -/
  | tick (rpc : Rpc) (now calls : ℕ) (outcome : Except Failure IndexerTickResult)
      (requests : List Request)
  /-- An operator moves the cursor of a contract back. -/
  | rewind (contractId : String) (ledger : ℕ)
  /-- The rest of the backend writes to its tables. -/
  | external

/-- The requests that the step made. -/
def Label.requests : Label → List Request
  | tick _ _ _ _ requests => requests
  | _ => []

inductive Step (cfg : Config) (history : History) : Database → Label → Database → Prop
  | tick {db : Database} {rpc : Rpc} {now calls : ℕ} {outcome : Except Failure IndexerTickResult}
      {s : Session} : Serves history rpc →
      tick cfg rpc now ⟨db, calls, []⟩ = (outcome, s) →
      Step cfg history db (.tick rpc now calls outcome s.requests) s.db
  | rewind {db : Database} {contractId : String} {cursor ledger : ℕ} :
      db.cursors.lookup contractId = some cursor → ledger ≤ cursor →
      Step cfg history db (.rewind contractId ledger)
        { db with cursors := db.cursors.insert contractId ledger }
  | external {db db' : Database} : db'.transfers = db.transfers →
      db'.chainEvents = db.chainEvents → db'.cursors = db.cursors →
      Step cfg history db .external db'

/-- The indexer over time. -/
def system (cfg : Config) (history : History) : TransitionSystem Database Label :=
  ⟨Step cfg history⟩

/-! ### Fetching -/

/-- What is fetched for a request. -/
def fetched (history : History) (request : Request) : List RawContractEvent :=
  rawEvents request.contractId (page history request)

/-- The request that a tick makes for a contract. -/
def Config.request (cfg : Config) (db : Database) (tip : ℕ) (contractId : String) : Request :=
  ⟨contractId, cfg.nextLedger tip (db.cursors.lookup contractId), tip, pageLimit⟩

variable {cfg : Config} {history : History} {rpc : Rpc}

/-- Fetching makes one request, and returns the page that it is about. -/
theorem fetchEvents_triple (hrpc : Serves history rpc) {contractId : String}
    {fromLedger toLedger : ℕ} {P Q : List Request → Database → Prop}
    (h : ∀ requests db, P requests db →
      Q (requests ++ [⟨contractId, fromLedger, toLedger, pageLimit⟩]) db) :
    Triple (Holds P) (fetchEvents rpc contractId fromLedger toLedger)
      (fun raws => Holds fun requests db => Q requests db ∧
        raws = fetched history ⟨contractId, fromLedger, toLedger, pageLimit⟩)
      (Holds fun requests db => P requests db ∨ Q requests db) := by
  refine .bind (call_triple.conseq (fun _ hs => hs) (fun _ _ hs => hs) fun _ hs => .inl hs)
    fun _ => .bind (Q := fun _ => Holds Q) (.modify fun s hs => h _ _ hs) fun _ => ?_
  cases hevents : rpc.getEvents ⟨contractId, fromLedger, toLedger, pageLimit⟩ with
  -- The node did not answer.
  | none => exact .bind (Q := fun _ _ => False) (.throw fun _ hs => .inr hs) fun _ =>
      .of_fact (fun _ hs => hs) fun h => h.elim
  | some events =>
    obtain rfl := hrpc _ _ hevents
    exact .bind (Q := fun events => Holds fun requests db => Q requests db ∧
      events = page history ⟨contractId, fromLedger, toLedger, pageLimit⟩)
      (.pure fun _ hs => ⟨hs, rfl⟩) fun _ => .pure fun _ hs => ⟨hs.1, by rw [hs.2, fetched]⟩

/-! ### The loop over the contracts -/

section Loop

variable {now tip : ℕ} {result : IndexerTickResult} {requests : List Request} {db : Database}
  {contractId : String} {E : List Request → Database → Prop}

/-- **One contract.**  Its turn ends at once if its window is empty.  Otherwise its page is fetched
and handled, and then its cursor is saved. -/
theorem indexContract_rule (hrpc : Serves history rpc)
    {M Q : IndexerTickResult → List Request → Database → Prop} (hE : E requests db)
    (hskip : tip < (cfg.request db tip contractId).startLedger → Q result requests db)
    (hpage : (cfg.request db tip contractId).startLedger ≤ tip →
      E (requests ++ [cfg.request db tip contractId]) db ∧
      Triple (Holds fun rs db' => rs = requests ++ [cfg.request db tip contractId] ∧ db' = db)
        ((fetched history (cfg.request db tip contractId)).foldlM (handleEvent cfg now)
          { result with
            fromLedger := min result.fromLedger (cfg.request db tip contractId).startLedger })
        (fun result' => Holds fun rs db' => E rs db' ∧ M result' rs db') (Holds E))
    (hsave : ∀ result' rs db', M result' rs db' →
      Q result' rs { db' with cursors := db'.cursors.insert contractId tip }) :
    Triple (Holds fun rs db' => rs = requests ∧ db' = db)
      (indexContract cfg rpc now tip result contractId) (fun result' => Holds (Q result'))
      (Holds E) := by
  refine .bind (query_triple.conseq (fun _ hs => hs) (fun _ _ hs => hs) fun s hs => ?_)
    fun stored => .of_fact (p := stored = db.cursors.lookup contractId) ?_ ?_
  · rw [Holds, hs.1, hs.2]
    exact hE
  · intro s hs
    rw [← hs.1.2]
    exact hs.2
  · rintro rfl
    dsimp only
    -- The window is empty when the cursor is at the tip, or the start ledger beyond it.
    split_ifs with hahead
    · exact .pure fun s hs => by
        rw [Holds, hs.1.1, hs.1.2]
        exact hskip hahead
    · obtain ⟨hrequested, hhandle⟩ := hpage (Nat.not_lt.1 hahead)
      refine .bind (Q := fun raws => Holds fun rs db' =>
        (rs = requests ++ [cfg.request db tip contractId] ∧ db' = db) ∧
          raws = fetched history (cfg.request db tip contractId)) ?_ fun raws =>
            .of_fact (fun _ hs => hs.2) ?_
      · refine (fetchEvents_triple hrpc fun rs db' hs => ?_).conseq (fun _ hs => hs)
          (fun _ _ hs => hs) fun s hs => ?_
        · exact ⟨by rw [hs.1.1]; rfl, hs.1.2⟩
        · -- The request has been made, or it has not.
          rcases hs with hs | hs
          · rw [Holds, hs.1.1, hs.1.2]
            exact hE
          · rw [Holds, hs.1, hs.2]
            exact hrequested
      · rintro rfl
        refine .bind (hhandle.conseq (fun _ hs => hs.1) (fun _ _ hs => hs) fun _ hs => hs)
          fun result' => ?_
        exact .bind ((saveCursor_triple fun rs db' hs => hsave result' rs db' hs.2).conseq
          (fun _ hs => hs) (fun _ _ hs => hs) fun _ hs => hs.1) fun _ => .pure fun _ hs => hs

/-- **All contracts.**  The invariant may speak of the contracts that have had their turn. -/
theorem tick_turns {I : ℕ → List String → IndexerTickResult → List Request → Database → Prop}
    (hE : E [] db) (hstart : ∀ tip, I tip [] ⟨tip, tip, 0, 0, 0⟩ [] db)
    (hturn : ∀ tip done contractId result, contractId ∈ cfg.contractIds →
      Triple (Holds (I tip done result)) (indexContract cfg rpc now tip result contractId)
        (fun result' => Holds (I tip (done ++ [contractId]) result')) (Holds E)) :
    Triple (Holds fun rs db' => rs = [] ∧ db' = db) (tick cfg rpc now)
      (fun result => Holds fun rs db' => ∃ tip, rpc.latestLedger = some tip ∧
        I tip cfg.contractIds result rs db') (Holds E) := by
  have hnothing : ∀ s : Session, s.requests = [] ∧ s.db = db → Holds E s := by
    intro s hs
    rw [Holds, hs.1, hs.2]
    exact hE
  refine .bind (call_triple.conseq (fun _ hs => hs) (fun _ _ hs => hs) hnothing) fun _ => ?_
  cases htip : rpc.latestLedger with
  | none => exact .bind (Q := fun _ _ => False) (.throw hnothing) fun _ =>
      .of_fact (fun _ hs => hs) fun h => h.elim
  | some tip =>
    refine .bind (Q := fun tip' => Holds fun rs db' => (rs = [] ∧ db' = db) ∧ tip' = tip)
      (.pure fun _ hs => ⟨hs, rfl⟩) fun tip' => .of_fact (fun _ hs => hs.2) ?_
    rintro rfl
    refine (Triple.foldlM (I := fun done result => Holds (I tip' done result))
      fun _ _ _ _ hsplit => hturn _ _ _ _ (by rw [hsplit]; simp)).conseq (fun s hs => ?_)
      (fun _ _ hs => ⟨_, rfl, hs⟩) fun _ hs => hs
    rw [Holds, hs.1.1, hs.1.2]
    exact hstart tip'

theorem tick_rule {I : ℕ → IndexerTickResult → List Request → Database → Prop} (hE : E [] db)
    (hstart : ∀ tip, I tip ⟨tip, tip, 0, 0, 0⟩ [] db)
    (hturn : ∀ tip result contractId, Triple (Holds (I tip result))
      (indexContract cfg rpc now tip result contractId)
      (fun result' => Holds (I tip result')) (Holds E)) :
    Triple (Holds fun rs db' => rs = [] ∧ db' = db) (tick cfg rpc now)
      (fun result => Holds fun rs db' => ∃ tip, rpc.latestLedger = some tip ∧ I tip result rs db')
      (Holds E) :=
  tick_turns (I := fun tip _ => I tip) hE hstart fun tip _ contractId result _ =>
    hturn tip result contractId

end Loop

end Indexer

end RemitBridge
