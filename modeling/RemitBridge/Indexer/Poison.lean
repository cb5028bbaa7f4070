import RemitBridge.Indexer.Coverage
import RemitBridge.Indexer.Execution
import RemitBridge.Pool.Utilization

/-!
# Poison events

The loop of a tick goes on after an event that it cannot decode, but after no other failure: an
event that the database refuses ends every tick that fetches it.  Every event of the contracts can
be decoded, so an event is handled exactly if the database accepts what is written for it
(`event_digested_iff`).
-/

namespace RemitBridge

namespace Indexer

variable {K : StrKey} {cfg : Config} {now : ℕ} {result : IndexerTickResult} {history : History}
  {request : Request} {raw : RawContractEvent} {e : ContractEvent} {db db' : Database}

/-- The event is recorded or counted as skipped if enough calls go through, and nothing but a call
that does not go through keeps it from that. -/
structure Digests (cfg : Config) (now : ℕ) (result : IndexerTickResult) (raw : RawContractEvent)
    (db : Database) : Prop where
  returns : ∃ n, ∀ calls requests, ∃ result' s,
    handleEvent cfg now result raw ⟨db, calls + n, requests⟩ = (.ok result', s) ∧
      (s.db.hasChainEvent raw.key = true ∨ result'.eventsSkipped = result.eventsSkipped + 1)
  fails : ∀ calls requests failure s,
    handleEvent cfg now result raw ⟨db, calls, requests⟩ = (.error failure, s) →
      failure = .interrupted

theorem Runs.digests {result' : IndexerTickResult} {M : Database → Prop}
    (h : Runs (handleEvent cfg now result raw) db (.ok result') db' M)
    (hkey : db'.hasChainEvent raw.key = true) : Digests cfg now result raw db := by
  obtain ⟨n, henough, hstopped⟩ := h
  refine ⟨⟨n, fun calls requests => ⟨result', _, henough calls requests, .inl hkey⟩⟩, ?_⟩
  intro calls requests failure s hs
  by_cases hn : calls < n
  · obtain ⟨db'', calls', hstop, -⟩ := hstopped calls requests hn
    cases hstop.symm.trans hs
    rfl
  · obtain ⟨k, rfl⟩ := Nat.exists_eq_add_of_le (Nat.not_lt.1 hn)
    rw [Nat.add_comm, henough] at hs
    cases hs

theorem Runs.not_digests {M : Database → Prop}
    (h : Runs (handleEvent cfg now result raw) db (.error .refused) db' M) :
    ¬ Digests cfg now result raw db := by
  obtain ⟨n, henough, -⟩ := h
  intro hdigests
  cases hdigests.fails (0 + n) [] .refused _ (henough 0 [])

theorem Recorded.hasChainEvent (h : Recorded K cfg raw db e db') :
    db'.hasChainEvent raw.key = true := by
  obtain ⟨db₁, transferId, -, rfl⟩ := h
  exact hasChainEvent_eq_true.2 ⟨_, List.mem_append_right _ (List.mem_singleton_self _), rfl⟩

theorem eventIndex_lt_limit (h : raw ∈ fetched history request) :
    raw.eventIndex < request.limit := by
  have hmem := List.mem_map_of_mem (f := RawContractEvent.eventIndex) h
  rw [eventIndices_fetched, List.mem_range'_1] at hmem
  have hlength : (page history request).length ≤ request.limit := List.length_take_le ..
  omega

/-- **No poison events, as long as the database accepts them.**  An event of the contracts is
recorded or counted exactly if its ledger is one that the database can store, and its key is taken
or the database accepts what is written for it. -/
theorem event_digested_iff (hraw : raw ∈ fetched history request)
    (hlimit : request.limit = pageLimit) (hcarries : raw.Carries K e) :
    Digests cfg now result raw db ↔
      raw.ledger ≤ 2147483647 ∧ (db.hasChainEvent raw.key = true ∨ e.Accepted K db) := by
  have hindex : raw.eventIndex ≤ 2147483647 := by
    have hlt := hlimit ▸ eventIndex_lt_limit hraw
    rw [pageLimit] at hlt
    omega
  constructor
  · intro hdigests
    by_contra h
    by_cases hledger : raw.ledger ≤ 2147483647
    · obtain ⟨hfree, hrefused⟩ := not_or.1 fun hor => h ⟨hledger, hor⟩
      have hruns := runs_persist_refused cfg now hledger hindex
        (Bool.eq_false_of_not_eq_true hfree) hrefused
      exact (runs_handleEvent_error hcarries hruns).not_digests hdigests
    · have hruns : Runs (persist cfg now raw (e.decoded K)) db (.error .refused) db
          (Interim K raw db e) := runs_persist_unindexable fun hkey => hledger hkey.1
      exact (runs_handleEvent_error hcarries hruns).not_digests hdigests
  · rintro ⟨hledger, h⟩
    by_cases hkey : db.hasChainEvent raw.key = true
    · have hknown :
          Runs (persist cfg now raw (e.decoded K)) db (.ok false) db (Interim K raw db e) :=
        runs_persist_known (.inl rfl) hledger hindex hkey
      exact (runs_handleEvent hcarries hknown).digests hkey
    · obtain ⟨changed, db', hrecorded, hruns⟩ := runs_persist cfg now hledger hindex
        (Bool.eq_false_of_not_eq_true hkey) (h.resolve_left hkey)
      exact (runs_handleEvent hcarries hruns).digests hrecorded.hasChainEvent

/-! ### A draw in a region that the database does not know -/

namespace Sample

/-- Addresses are written as numbers. -/
def strKey : StrKey where
  encode a := toString (a.id : ℤ)
  injective a b h := by
    have hid := congrArg parseInteger h
    rw [parseInteger_toString, parseInteger_toString] at hid
    cases a
    cases b
    simpa using hid
  ne_empty a h := by
    have hid := congrArg parseInteger h
    rw [parseInteger_toString, show parseInteger "" = none by decide] at hid
    cases hid

/-- An agent of the region draws liquidity. -/
def draw : ContractEvent :=
  .pool (.liquidityDrawn Pool.Sample.agent Pool.Sample.region 8001 8001 8000)

/-- The agent has been entered, but not the region. -/
def unseeded : Database :=
  { fresh with agents :=
    [⟨"agent", strKey.encode Pool.Sample.agent, .authorized, none, none, none⟩] }

def drawn (contractId : String) : List EventResponse :=
  if contractId = "pool" then [Emitted.response strKey ⟨draw, 5, "tx", 1000⟩] else []

def drawRequest : Request := ⟨"pool", 1, 10, pageLimit⟩

def rawDraw : RawContractEvent := rawEvent "pool" (Emitted.response strKey ⟨draw, 5, "tx", 1000⟩) 0

theorem rawDraw_mem : rawDraw ∈ fetched drawn drawRequest := List.mem_singleton_self _

theorem unseeded_refuses : ¬ draw.Accepted strKey unseeded := fun h =>
  absurd (h _ rfl (by decide)) (by decide)

end Sample

/-- The pool emits the draw, and the tick that fetches it fails. -/
theorem not_event_digested_sample :
    (Pool.contract Pool.Sample.host).lts.Reachable Pool.Sample.start Pool.Sample.funded ∧
    (Pool.contract Pool.Sample.host).lts.step Pool.Sample.funded
      (.call (Pool.Sample.signedBy Pool.Sample.agent)
        (.drawLiquidity Pool.Sample.agent Pool.Sample.region 8001) (.done (.amount 8001)
          [⟨Pool.Sample.usd, Pool.Sample.host.self, Pool.Sample.agent, 8001⟩]
          [.liquidityDrawn Pool.Sample.agent Pool.Sample.region 8001 8001 8000]))
      Pool.Sample.final ∧
    Sample.rawDraw.Carries Sample.strKey (.pool
      (.liquidityDrawn Pool.Sample.agent Pool.Sample.region 8001 8001 8000)) ∧
    ¬ Digests Sample.environment 0 ⟨10, 10, 0, 0, 0⟩ Sample.rawDraw Sample.unseeded := by
  refine ⟨Pool.Sample.funded_reachable, Pool.Sample.draw_step, Emitted.carries, ?_⟩
  exact (runs_handleEvent_error Emitted.carries
    (runs_persist_refused _ _ (by decide) (by decide) rfl Sample.unseeded_refuses)).not_digests

/-- Once the region is there, the draw is handled. -/
theorem event_digested_iff_sample : Digests Sample.environment 0 ⟨10, 10, 0, 0, 0⟩ Sample.rawDraw
    { Sample.unseeded with regions := ["LAGOS"] } :=
  (event_digested_iff Sample.rawDraw_mem rfl Emitted.carries).2
    ⟨by decide, .inr fun row _ _ => by
      rw [Database.AcceptsExposure]
      exact Bool.or_eq_true_iff.2 (.inr (by decide))⟩

end Indexer

end RemitBridge
