import Mathlib.Algebra.BigOperators.Group.List.Basic
import RemitBridge.Indexer.System

/-!
# Which events reach the log

A tick fetches one page for each contract, but moves the cursor to the tip of the chain.  Between
ticks that complete, the windows of a contract do not overlap, so no key is taken twice and the
whole page is recorded or counted as skipped (`Covered.tick`).  What is beyond the page is neither:
a tick accounts for its windows exactly if they all fit the page (`accounts_iff`).
-/

namespace RemitBridge

namespace Indexer

open Job TransitionSystem

variable {cfg : Config} {history : History} {rpc : Rpc} {now tip : ℕ} {db db₀ : Database}
  {result : IndexerTickResult} {requests : List Request} {request : Request}

/-- What the log says of an event, wherever it stood in the answer it came in. -/
structure Entry where
  contractId : String
  ledger : ℕ
  topic : String
  txHash : String
  payload : Payload
  occurredAt : ℕ

def ChainEventRow.entry (row : ChainEventRow) : Entry :=
  ⟨row.key.contractId, row.key.ledger, row.topic, row.txHash, row.payload, row.occurredAt⟩

/-- What must be recorded of an event, if it can be decoded. -/
def RawContractEvent.entry (raw : RawContractEvent) : Option Entry :=
  (decodeEvent raw).toOption.map fun decoded =>
    ⟨raw.contractId, raw.ledger, decoded.topic, raw.txHash, decoded.payload, raw.closedAt⟩

def RawContractEvent.undecodable (raw : RawContractEvent) : Bool := raw.entry.isNone

/-- What must be recorded of an event of a contract. -/
def entryOf (contractId : String) (event : EventResponse) : Option Entry :=
  (rawEvent contractId event 0).entry

def undecodable (contractId : String) (event : EventResponse) : Bool :=
  (entryOf contractId event).isNone

/-- The key is that of an event in the window of the request. -/
def Request.Covers (request : Request) (key : EventKey) : Prop :=
  key.contractId = request.contractId ∧ request.startLedger ≤ key.ledger ∧
    key.ledger ≤ request.endLedger

instance (request : Request) (key : EventKey) : Decidable (request.Covers key) :=
  inferInstanceAs (Decidable (_ ∧ _))

/-- The part of the log that is about a window. -/
def Database.rowsIn (db : Database) (request : Request) : List ChainEventRow :=
  db.chainEvents.filter fun row => decide (request.Covers row.key)

/-- **Every event is accounted for**: the log has exactly the decodable events of the windows, in
their order, and the others have been counted as skipped. -/
structure Accounts (history : History) (requests : List Request) (result : IndexerTickResult)
    (db : Database) : Prop where
  written : ∀ request ∈ requests, (db.rowsIn request).map ChainEventRow.entry =
    (window history request).filterMap (entryOf request.contractId)
  skipped : result.eventsSkipped = (requests.map fun request =>
    (window history request).countP (undecodable request.contractId)).sum

/-! ### A page of fresh events -/

theorem eventIndices_fetched : (fetched history request).map RawContractEvent.eventIndex =
    List.range' 0 (page history request).length := by
  have hindex : (fetched history request).map RawContractEvent.eventIndex =
      (page history request).zipIdx.map Prod.snd := by
    simp [fetched, rawEvents, rawEvent, Function.comp_def]
  rw [hindex, List.zipIdx_map_snd]

/-- The events of one answer have different keys. -/
theorem keys_fetched_nodup : ((fetched history request).map RawContractEvent.key).Nodup := by
  refine List.Nodup.of_map EventKey.eventIndex ?_
  rw [List.map_map, show EventKey.eventIndex ∘ RawContractEvent.key = RawContractEvent.eventIndex
    from rfl, eventIndices_fetched]
  exact List.nodup_range'

/-- What is fetched for a request is about its window. -/
theorem key_of_fetched {raw : RawContractEvent} (h : raw ∈ fetched history request) :
    request.Covers raw.key := by
  obtain ⟨⟨event, i⟩, hmem, rfl⟩ := List.mem_map.1 h
  have hevent : event ∈ page history request := List.fst_mem_of_mem_zipIdx hmem
  have hspan := (Log.mem_span.1 (List.mem_of_mem_take hevent)).2
  exact ⟨rfl, hspan.1, Nat.le_of_lt_succ hspan.2⟩

theorem filterMap_fetched : (fetched history request).filterMap RawContractEvent.entry =
    (page history request).filterMap (entryOf request.contractId) := by
  have hentry : (RawContractEvent.entry ∘ fun p => rawEvent request.contractId p.1 p.2) =
      entryOf request.contractId ∘ (Prod.fst : EventResponse × ℕ → EventResponse) := rfl
  rw [fetched, rawEvents, List.filterMap_map, hentry, ← List.filterMap_map, List.zipIdx_map_fst]

theorem countP_fetched : (fetched history request).countP RawContractEvent.undecodable =
    (page history request).countP (undecodable request.contractId) := by
  have hcount : (RawContractEvent.undecodable ∘ fun p => rawEvent request.contractId p.1 p.2) =
      undecodable request.contractId ∘ (Prod.fst : EventResponse × ℕ → EventResponse) := rfl
  rw [fetched, rawEvents, List.countP_map, hcount, ← List.countP_map, List.zipIdx_map_fst]

/-- What the loop over a page leaves, after the events `done` of it. -/
structure Handled (base : List ChainEventRow) (cursors : Store String ℕ) (skipped : ℕ)
    (done : List RawContractEvent) (result : IndexerTickResult) (db : Database) : Prop where
  rows : ∃ rows, db.chainEvents = base ++ rows ∧
    rows.map ChainEventRow.entry = done.filterMap RawContractEvent.entry ∧
    ∀ row ∈ rows, ∃ raw ∈ done, row.key = raw.key
  cursors : db.cursors = cursors
  skipped : result.eventsSkipped = skipped + done.countP RawContractEvent.undecodable

/-- Events whose keys are free and different are all recorded or counted. -/
theorem handleEvents_triple {base : List ChainEventRow} {cursors : Store String ℕ}
    {raws : List RawContractEvent} (hnodup : (raws.map RawContractEvent.key).Nodup)
    (hfree : ∀ raw ∈ raws, ∀ row ∈ base, row.key ≠ raw.key) :
    Triple (Holds fun rs db => rs = requests ∧ db.chainEvents = base ∧ db.cursors = cursors)
      (raws.foldlM (handleEvent cfg now) result)
      (fun result' => Holds fun rs db => rs = requests ∧
        Handled base cursors result.eventsSkipped raws result' db)
      (Holds fun _ _ => True) := by
  refine (Triple.foldlM (I := fun done result' => Holds fun rs db => rs = requests ∧
    Handled base cursors result.eventsSkipped done result' db) ?_).conseq ?_ (fun _ _ hs => hs)
    fun _ hs => hs
  · intro done raw rest result' hraws
    refine triple_of_states fun rs db hs => handleEvent_triple.conseq (fun _ hs => hs)
      (fun result'' s hs' => ?_) fun _ _ => trivial
    obtain ⟨hrequests, hhandled⟩ := hs
    obtain ⟨rows, hrows, hentries, hkeys⟩ := hhandled.rows
    refine ⟨hs'.1.trans hrequests, ?_⟩
    have hhandles := hs'.2
    generalize s.db = db' at hhandles
    cases hhandles with
    | skipped hdecoded =>
      have hnone : raw.entry = none := by rw [RawContractEvent.entry, hdecoded]; rfl
      refine ⟨⟨rows, hrows, ?_, ?_⟩, hhandled.cursors, ?_⟩
      · rw [hentries, List.filterMap_append, List.filterMap_cons_none hnone, List.filterMap_nil,
          List.append_nil]
      · intro row hrow
        obtain ⟨raw', hraw', hkey⟩ := hkeys row hrow
        exact ⟨raw', List.mem_append_left _ hraw', hkey⟩
      · simp [hhandled.skipped, RawContractEvent.undecodable, hnone]
        omega
    | @persisted decoded _ _ hdecoded hpersists htaken hskipped =>
      have hentry : raw.entry = some ⟨raw.contractId, raw.ledger, decoded.topic, raw.txHash,
          decoded.payload, raw.closedAt⟩ := by rw [RawContractEvent.entry, hdecoded]; rfl
      -- The key is free: no row of the base has it, and none of the earlier events.
      have hnew : ∀ row ∈ db.chainEvents, row.key ≠ raw.key := by
        rw [hrows]
        intro row hrow hkey
        rcases List.mem_append.1 hrow with hrow | hrow
        · exact hfree raw (by rw [hraws]; simp) row hrow hkey
        · obtain ⟨raw', hraw', hkey'⟩ := hkeys row hrow
          rw [hraws, List.map_append, List.map_cons] at hnodup
          have hdisjoint := (List.nodup_append.1 hnodup).2.2 raw'.key
            (List.mem_map_of_mem hraw') raw.key (List.mem_cons_self ..)
          exact hdisjoint (hkey'.symm.trans hkey)
      rcases hpersists.chainEvents with hsame | ⟨-, transferId, hadded⟩
      · obtain ⟨row, hrow, hkey⟩ := hasChainEvent_eq_true.1 htaken
        exact absurd hkey (hnew row (hsame ▸ hrow))
      · refine ⟨⟨rows ++ [chainEventRow cfg raw decoded transferId], ?_, ?_, ?_⟩,
          hpersists.cursors.trans hhandled.cursors, ?_⟩
        · rw [hadded, hrows, List.append_assoc]
        · rw [List.map_append, hentries, List.filterMap_append,
            List.filterMap_cons_some hentry, List.filterMap_nil]
          rfl
        · intro row hrow
          rcases List.mem_append.1 hrow with hrow | hrow
          · obtain ⟨raw', hraw', hkey⟩ := hkeys row hrow
            exact ⟨raw', List.mem_append_left _ hraw', hkey⟩
          · rw [List.mem_singleton.1 hrow]
            exact ⟨raw, List.mem_append_right _ (List.mem_singleton_self _), rfl⟩
        · simp [hskipped, hhandled.skipped, RawContractEvent.undecodable, hentry]
  · intro s hs
    exact ⟨hs.1, ⟨[], by simpa using hs.2.1, rfl, nofun⟩, hs.2.2, rfl⟩

/-! ### A tick -/

/-- The log does not reach beyond the cursors. -/
def Database.Behind (db : Database) : Prop := ∀ row ∈ db.chainEvents, ∃ cursor,
  db.cursors.lookup row.key.contractId = some cursor ∧ row.key.ledger ≤ cursor

/-- What a tick that began in `db₀` has done when it has made these requests. -/
structure Covered (cfg : Config) (history : History) (db₀ : Database) (tip : ℕ)
    (result : IndexerTickResult) (requests : List Request) (db : Database) : Prop where
  behind : db.Behind
  /-- The cursors of the contracts it has been through are at the tip. -/
  cursors : ∀ contractId, db.cursors.lookup contractId =
    if contractId ∈ requests.map Request.contractId then some tip
    else db₀.cursors.lookup contractId
  /-- The windows begin right after the cursors there were. -/
  windows : ∀ request ∈ requests, request = cfg.request db₀ tip request.contractId ∧
    request.startLedger ≤ tip
  written : ∀ request ∈ requests, (db.rowsIn request).map ChainEventRow.entry =
    (page history request).filterMap (entryOf request.contractId)
  skipped : result.eventsSkipped = (requests.map fun request =>
    (page history request).countP (undecodable request.contractId)).sum

/-- Before its turn, a contract has no events in the log that are as late as its window. -/
theorem Database.Behind.rowsIn_eq_nil (hbehind : db.Behind) {contractId : String} :
    db.rowsIn (cfg.request db tip contractId) = [] := by
  rw [Database.rowsIn, List.filter_eq_nil_iff]
  intro row hrow hin
  obtain ⟨hcontract, hlate, -⟩ := of_decide_eq_true hin
  obtain ⟨cursor, hcursor, hle⟩ := hbehind row hrow
  have hnext : cfg.nextLedger tip (db.cursors.lookup contractId) = cursor + 1 := by
    rw [← show row.key.contractId = contractId from hcontract, hcursor]
    rfl
  have hlate : cfg.nextLedger tip (db.cursors.lookup contractId) ≤ row.key.ledger := hlate
  omega

theorem rowsIn_append {db' : Database} {rows : List ChainEventRow}
    (h : db'.chainEvents = db.chainEvents ++ rows) (request : Request) :
    db'.rowsIn request =
      db.rowsIn request ++ rows.filter fun row => decide (request.Covers row.key) := by
  rw [Database.rowsIn, h, List.filter_append, Database.rowsIn]

/-- One more contract, whose page has been handled, and whose cursor is moved to the tip. -/
theorem Covered.snoc {contractId : String} {result' : IndexerTickResult} {db' : Database}
    (hcovered : Covered cfg history db₀ tip result requests db)
    (hstart : (cfg.request db tip contractId).startLedger ≤ tip)
    (hhandled : Handled db.chainEvents db.cursors result.eventsSkipped
      (fetched history (cfg.request db tip contractId)) result' db') :
    Covered cfg history db₀ tip result' (requests ++ [cfg.request db tip contractId])
      { db' with cursors := db'.cursors.insert contractId tip } := by
  obtain ⟨rows, hrows, hentries, hkeys⟩ := hhandled.rows
  -- The new rows are about the window of the contract.
  have hnew : ∀ row ∈ rows, (cfg.request db tip contractId).Covers row.key := by
    intro row hrow
    obtain ⟨raw, hraw, hkey⟩ := hkeys row hrow
    rw [hkey]
    exact key_of_fetched hraw
  -- A contract that has had its turn has its cursor at the tip, and would not be fetched.
  have hturn : contractId ∉ requests.map Request.contractId := by
    intro hmem
    have hcursor := hcovered.cursors contractId
    rw [if_pos hmem] at hcursor
    have hstart : cfg.nextLedger tip (db.cursors.lookup contractId) ≤ tip := hstart
    rw [hcursor] at hstart
    exact absurd hstart (Nat.not_succ_le_self tip)
  have hcursor₀ : db.cursors.lookup contractId = db₀.cursors.lookup contractId := by
    rw [hcovered.cursors, if_neg hturn]
  refine ⟨?_, ?_, ?_, ?_, ?_⟩
  · -- The cursor of the contract is at the tip now, ahead of its old rows and of the new ones.
    intro row hrow
    rw [hhandled.cursors, Store.lookup_insert_ite]
    by_cases hcontract : row.key.contractId = contractId
    · refine ⟨tip, if_pos hcontract, ?_⟩
      rcases List.mem_append.1 (hrows ▸ hrow) with hrow | hrow
      · obtain ⟨cursor, hcursor, hle⟩ := hcovered.behind row hrow
        have hstart : cfg.nextLedger tip (db.cursors.lookup contractId) ≤ tip := hstart
        rw [← hcontract, hcursor] at hstart
        have hnext : cursor + 1 ≤ tip := hstart
        omega
      · exact (hnew row hrow).2.2
    · rw [if_neg hcontract]
      rcases List.mem_append.1 (hrows ▸ hrow) with hrow | hrow
      · exact hcovered.behind row hrow
      · exact absurd (hnew row hrow).1 hcontract
  · intro contractId'
    rw [hhandled.cursors, Store.lookup_insert_ite, List.map_append, List.map_singleton]
    by_cases hcontract : contractId' = contractId
    · rw [if_pos hcontract, if_pos (by simp [hcontract, Config.request])]
    · rw [if_neg hcontract, hcovered.cursors]
      simp [hcontract, Config.request]
  · intro request hrequest
    rcases List.mem_append.1 hrequest with hrequest | hrequest
    · exact hcovered.windows request hrequest
    · rw [List.mem_singleton.1 hrequest]
      refine ⟨?_, hstart⟩
      simp [Config.request, hcursor₀]
  · intro request hrequest
    have hrowsIn : ∀ cursors, Database.rowsIn { db' with cursors } request = _ :=
      fun _ => rowsIn_append hrows request
    rw [hrowsIn]
    rcases List.mem_append.1 hrequest with hrequest | hrequest
    · -- The new rows are about another contract.
      rw [List.filter_eq_nil_iff.2, List.append_nil, hcovered.written request hrequest]
      intro row hrow hin
      have hcontract := (of_decide_eq_true hin).1
      exact hturn (List.mem_map.2 ⟨request, hrequest, hcontract.symm.trans (hnew row hrow).1⟩)
    · -- All of them are about this one, which had none.
      rw [List.mem_singleton.1 hrequest, hcovered.behind.rowsIn_eq_nil, List.nil_append,
        List.filter_eq_self.2 fun row hrow => decide_eq_true (hnew row hrow), hentries,
        filterMap_fetched]
  · rw [hhandled.skipped, hcovered.skipped, countP_fetched, List.map_append, List.sum_append]
    rfl

theorem indexContract_triple (hrpc : Serves history rpc) {contractId : String} :
    Triple (Holds (Covered cfg history db₀ tip result))
      (indexContract cfg rpc now tip result contractId)
      (fun result' => Holds (Covered cfg history db₀ tip result')) (Holds fun _ _ => True) := by
  refine triple_of_states fun requests db hcovered => ?_
  refine indexContract_rule hrpc trivial (fun _ => hcovered) (fun hstart => ⟨trivial, ?_⟩)
    fun _ _ _ h => h
  refine (handleEvents_triple keys_fetched_nodup fun raw hraw row hrow hkey => ?_).conseq
    (fun s hs => ⟨hs.1, by rw [hs.2], by rw [hs.2]⟩) (fun result' s hs => ⟨trivial, ?_⟩)
    fun _ hs => hs
  · -- No event of the window is in the log yet.
    have hmem : row ∈ db.rowsIn (cfg.request db tip contractId) :=
      List.mem_filter.2 ⟨hrow, decide_eq_true (by rw [hkey]; exact key_of_fetched hraw)⟩
    rw [hcovered.behind.rowsIn_eq_nil] at hmem
    cases hmem
  · rw [hs.1]
    exact hcovered.snoc hstart hs.2

theorem Covered.start (hbehind : db.Behind) :
    Covered cfg history db tip ⟨tip, tip, 0, 0, 0⟩ [] db :=
  ⟨hbehind, fun _ => by simp, by simp, by simp, rfl⟩

/-- **A tick** that completes has been through all contracts. -/
theorem tick_triple (hrpc : Serves history rpc) (hbehind : db.Behind) :
    Triple (Holds fun rs db' => rs = [] ∧ db' = db) (tick cfg rpc now)
      (fun result => Holds fun rs db' => ∃ tip, rpc.latestLedger = some tip ∧
        Covered cfg history db tip result rs db') (Holds fun _ _ => True) :=
  tick_rule trivial (fun _ => .start hbehind) (fun _ _ _ => indexContract_triple hrpc)

/-! ### Every tick -/

/-- The tick completed; the operator did not interfere. -/
def Label.Completed : Label → Prop
  | tick _ _ _ (.ok _) _ => True
  | external => True
  | _ => False

theorem Database.Unindexed.behind (h : db.Unindexed) : db.Behind := by
  intro row hrow
  rw [h.chainEvents] at hrow
  cases hrow

/-- As long as ticks complete, the log does not reach beyond the cursors. -/
theorem Behind.run {ls : List Label} (h₀ : db₀.Unindexed) (hls : ∀ l ∈ ls, l.Completed)
    (hrun : (system cfg history).Run db₀ ls db) : db.Behind := by
  refine (hrun.restrict_of_labels hls).invariant h₀.behind fun db l db' hbehind hst => ?_
  obtain ⟨hst, hcompleted⟩ := hst
  cases hst with
  | @tick rpc now calls outcome s hrpc htick =>
    cases outcome with
    | error e => exact hcompleted.elim
    | ok result =>
      obtain ⟨tip, -, hcovered⟩ := (tick_triple hrpc hbehind).returns (s := ⟨db, calls, []⟩)
        ⟨rfl, rfl⟩ htick
      exact hcovered.behind
  | rewind => exact hcompleted.elim
  | external htransfers hevents hcursors =>
    intro row hrow
    rw [hcursors]
    exact hbehind row (hevents ▸ hrow)

/-- The events of a window that do not fit its page. -/
def beyond (history : History) (request : Request) : List EventResponse :=
  (window history request).drop request.limit

theorem page_append_beyond (request : Request) :
    page history request ++ beyond history request = window history request :=
  List.take_append_drop ..

/-- The events beyond a page are neither recorded nor counted. -/
theorem Covered.accounts_iff (h : Covered cfg history db₀ tip result requests db) :
    Accounts history requests result db ↔
      ∀ request ∈ requests, (window history request).length ≤ pageLimit := by
  have hlimit : ∀ request ∈ requests, request.limit = pageLimit := fun request hrequest => by
    rw [(h.windows request hrequest).1]
    rfl
  constructor
  · intro haccounts
    -- The log has no more entries than the page, so what is beyond it must be undecodable.
    have hundecodable : ∀ request ∈ requests,
        (beyond history request).countP (undecodable request.contractId) =
          (beyond history request).length := by
      intro request hrequest
      have hwritten := haccounts.written request hrequest
      rw [← page_append_beyond, List.filterMap_append, h.written request hrequest,
        List.self_eq_append_right, List.filterMap_eq_nil_iff] at hwritten
      refine List.countP_eq_length.2 fun event hevent => ?_
      rw [undecodable, hwritten event hevent]
      rfl
    -- But nothing beyond the page is counted.
    have hcount : (requests.map fun request =>
        (beyond history request).countP (undecodable request.contractId)).sum = 0 := by
      have hskipped := haccounts.skipped
      simp only [h.skipped, ← page_append_beyond, List.countP_append, List.sum_map_add] at hskipped
      omega
    intro request hrequest
    have hzero : (beyond history request).countP (undecodable request.contractId) = 0 :=
      List.sum_eq_zero_iff_forall_eq_nat.1 hcount _ (List.mem_map.2 ⟨request, hrequest, rfl⟩)
    rw [hundecodable request hrequest, beyond, List.length_drop, hlimit request hrequest] at hzero
    omega
  · intro hfits
    have hpage : ∀ request ∈ requests, page history request = window history request :=
      fun request hrequest => List.take_of_length_le
        (hlimit request hrequest ▸ hfits request hrequest)
    refine ⟨?_, ?_⟩
    · intro request hrequest
      rw [h.written request hrequest, hpage request hrequest]
    · rw [h.skipped]
      refine congrArg List.sum (List.map_congr_left fun request hrequest => ?_)
      rw [hpage request hrequest]

/-- **What a tick accounts for**: after completed ticks, a tick fetches from right after the cursor
of each contract and moves the cursor to the tip; it accounts for all events between exactly if they
are at most as many for each contract as it asks for. -/
theorem events_accounted_iff {ls : List Label} {calls : ℕ} {db' : Database}
    (h₀ : db₀.Unindexed) (hls : ∀ l ∈ ls, l.Completed)
    (hrun : (system cfg history).Run db₀ ls db)
    (hstep : (system cfg history).step db (.tick rpc now calls (.ok result) requests) db') :
    ∃ tip, rpc.latestLedger = some tip ∧
      (∀ request ∈ requests, request = cfg.request db tip request.contractId) ∧
      (∀ contractId, db'.cursors.lookup contractId =
        if contractId ∈ requests.map Request.contractId then some tip
        else db.cursors.lookup contractId) ∧
      (Accounts history requests result db' ↔
        ∀ request ∈ requests, (window history request).length ≤ pageLimit) := by
  cases hstep with
  | tick hrpc htick =>
    obtain ⟨tip, htip, hcovered⟩ := (tick_triple hrpc (Behind.run h₀ hls hrun)).returns
      (s := ⟨db, calls, []⟩) ⟨rfl, rfl⟩ htick
    exact ⟨tip, htip, fun request hrequest => (hcovered.windows request hrequest).1,
      hcovered.cursors, hcovered.accounts_iff⟩

namespace Sample

def environment : Config := ⟨"escrow", "registry", "hook", "pool", some 1, false⟩

/-- Nothing is there yet, not even users. -/
def fresh : Database := ⟨[], [], [], [], ∅, ∅, [], ∅⟩

theorem fresh_unindexed : fresh.Unindexed := ⟨rfl, rfl, rfl⟩

/-- The node when it has closed the ledger `tip`. -/
def node (history : History) (tip : ℕ) : Rpc :=
  ⟨some tip, fun request => some (page history request)⟩

theorem node_serves (history : History) (tip : ℕ) : Serves history (node history tip) :=
  fun _ _ h => (Option.some.inj h).symm

/-- A tick that is stopped after so many calls, or that returns. -/
@[irreducible] def ticked (history : History) (tip calls : ℕ) (db : Database) :
    Except Failure IndexerTickResult × Session :=
  tick environment (node history tip) 0 ⟨db, calls, []⟩

def tickLabel (history : History) (tip calls : ℕ) (db : Database) : Label :=
  .tick (node history tip) 0 calls (ticked history tip calls db).1
    (ticked history tip calls db).2.requests

theorem step_ticked (history : History) (tip calls : ℕ) (db : Database) :
    (system environment history).step db (tickLabel history tip calls db)
      (ticked history tip calls db).2.db :=
  .tick (node_serves history tip) (by rw [ticked])

def configured (ledger : ℕ) : EventResponse := ⟨ledger, "tx", [.text "esc_cfg"], .void, 1000⟩

/-- An event with a topic that the indexer does not know. -/
def unknown (ledger : ℕ) : EventResponse := ⟨ledger, "tx", [.text "esc_new"], .void, 1000⟩

def created (ledger : ℕ) : EventResponse :=
  ⟨ledger, "tx", [.text "tr_create", .text "sender", .text "corridor"],
    .vec [.bigint 1, .bigint 100, .text "token", .bytes [1], .bigint 2000], 1000⟩

/-- The escrow emits three events. -/
def quiet : History := fun contractId =>
  if contractId = "escrow" then [configured 5, unknown 8, created 9] else []

/-- The first of two ticks. -/
def early : Database := (ticked quiet 6 100 fresh).2.db

/-- The second tick records the creation, and counts the event before it. -/
theorem events_accounted_iff_sample :
    Accounts quiet (ticked quiet 10 100 early).2.requests ⟨7, 10, 1, 1, 0⟩
      (ticked quiet 10 100 early).2.db := by
  have hfirst : (tickLabel quiet 6 100 fresh).Completed := by
    rw [tickLabel, show (ticked quiet 6 100 fresh).1 = .ok ⟨1, 6, 1, 0, 0⟩ by decide +kernel]
    exact trivial
  have hsecond := step_ticked quiet 10 100 early
  rw [tickLabel, show (ticked quiet 10 100 early).1 = .ok ⟨7, 10, 1, 1, 0⟩ by decide +kernel]
    at hsecond
  obtain ⟨-, -, -, -, haccounts⟩ := events_accounted_iff fresh_unindexed
    (fun l hl => by rw [List.mem_singleton.1 hl]; exact hfirst)
    (.single (step_ticked quiet 6 100 fresh)) hsecond
  exact haccounts.2 (by decide +kernel)

/-- Before the escrow creates a transfer, it emits as many events as fit a page. -/
def crowded : History := fun contractId =>
  if contractId = "escrow" then List.replicate 200 (unknown 5) ++ [created 6] else []

/-- The cursor moves past the creation, which is neither recorded nor counted. -/
theorem not_events_accounted_sample : fresh.Unindexed ∧ ∃ result requests db,
    (system environment crowded).step fresh
      (.tick (node crowded 10) 0 100 (.ok result) requests) db ∧
      result.eventsSkipped = 200 ∧ db.chainEvents = [] ∧
      db.cursors.lookup "escrow" = some 10 ∧ ¬ Accounts crowded requests result db := by
  have hstep := step_ticked crowded 10 100 fresh
  rw [tickLabel, show (ticked crowded 10 100 fresh).1 = .ok ⟨1, 10, 0, 200, 0⟩ by decide +kernel]
    at hstep
  have hevents : (ticked crowded 10 100 fresh).2.db.chainEvents = [] := by decide +kernel
  refine ⟨fresh_unindexed, _, _, _, hstep, rfl, hevents, by decide +kernel, fun haccounts => ?_⟩
  have hmem : (⟨"escrow", 1, 10, 200⟩ : Request) ∈ (ticked crowded 10 100 fresh).2.requests := by
    decide +kernel
  have hwritten := congrArg List.length (haccounts.written _ hmem)
  rw [Database.rowsIn, hevents] at hwritten
  exact absurd hwritten (by decide +kernel)

end Sample

end Indexer

end RemitBridge
