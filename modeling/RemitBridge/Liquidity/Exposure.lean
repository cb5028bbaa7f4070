import RemitBridge.Indexer.Exposure
import RemitBridge.Liquidity.Submissions

/-!
# Two writers of exposures

The transaction after a draw adds what was drawn to the exposure in the database, and the indexer
sets it to what the event of the draw says.  `Books` runs the pool, the transactions and the indexer
in any order.  Once everything is written the exposure is right exactly if the last write was the
indexer's (`exposures_agree_iff`): a transaction that comes later counts its draw twice.
-/

namespace RemitBridge

namespace Liquidity

open Backend TransitionSystem

open Indexer (StrKey Config Indexed AgentRow Database ExposureAgrees ContractEvent toString_inj
  parseInteger parseInteger_toString)

/-- An execution whose draw has taken effect, with what its transaction writes. -/
structure Execution where
  requestId : String
  request : TopUpRequest
  txHash : Option String
  now : ℕ

/-- The execution is the one of this draw. -/
structure Execution.Draws (K : StrKey) (db : Database) (agent : Address) (regionId : Symbol)
    (amount : I128) (x : Execution) : Prop where
  drawer : ∃ row, db.agentAt (K.encode agent) = some row ∧ x.request.agentId = row.id
  region : x.request.regionId = regionId.name
  requested : x.request.amountRequested = amount.val

/-- The pool and the database, and what has not been written yet: events that have not been
projected, and executions whose transaction has not been committed. -/
structure Books (ω : Type) where
  world : Pool.World ω
  unprojected : List Pool.Event
  uncommitted : List Execution
  records : Records

inductive Entry (ω : Type) where
  | pool (l : Pool.Label ω)
  | commit (x : Execution)
  | project (e : Pool.Event)

namespace Books

variable {ω : Type} (H : Pool.Host ω) (K : StrKey) (cfg : Config)

/-- The steps.  Nothing is repaid, and every draw is that of an execution. -/
inductive Step : Books ω → Entry ω → Books ω → Prop
  | quiet {s : Books ω} {l : Pool.Label ω} {w : Pool.World ω} :
      (Pool.contract H).lts.step s.world l w →
      (∀ agent regionId, ∀ e ∈ l.events, e.floatMove agent regionId = none) →
      Step s (.pool l) { s with world := w, unprojected := s.unprojected ++ l.events }
  | drawn {s : Books ω} {l : Pool.Label ω} {w : Pool.World ω} {agent : Address} {regionId : Symbol}
      {amount exposure : I128} {utilizationBps : U32} {x : Execution} :
      (Pool.contract H).lts.step s.world l w →
      l.events = [.liquidityDrawn agent regionId amount exposure utilizationBps] →
      x.Draws K s.records.toDatabase agent regionId amount →
      Step s (.pool l) { s with
        world := w
        unprojected := s.unprojected ++ l.events
        uncommitted := s.uncommitted ++ [x] }
  | committed {s : Books ω} {x : Execution} {xs ys : List Execution} {r : Records} :
      s.uncommitted = xs ++ x :: ys →
      Query.perform (.transaction (completion x.requestId x.request x.txHash x.now)) s.records =
        some ((), r) →
      Step s (.commit x) { s with uncommitted := xs ++ ys, records := r }
  | projected {s : Books ω} {e : Pool.Event} {es : List Pool.Event} {db : Database} :
      s.unprojected = e :: es → Indexed K cfg s.records.toDatabase [.pool e] db →
      Step s (.project e)
        { s with unprojected := es, records := { s.records with toDatabase := db } }

def lts : TransitionSystem (Books ω) (Entry ω) := ⟨Step H K cfg⟩

end Books

variable {ω : Type} {H : Pool.Host ω} {K : StrKey} {cfg : Config} {agent : Address}
  {regionId : Symbol} {row : AgentRow} {s s' : Books ω} {l : Entry ω} {ls : List (Entry ω)}

/-- The execution writes the exposure of the agent in the region. -/
def Execution.Concerns (row : AgentRow) (regionId : Symbol) (x : Execution) : Prop :=
  x.request.agentId = row.id ∧ x.request.regionId = regionId.name

instance {x : Execution} : Decidable (x.Concerns row regionId) :=
  inferInstanceAs (Decidable (_ ∧ _))

/-- Whether the entry writes the exposure of the agent in the region by incrementing it. -/
def Entry.increments (agent : Address) (row : AgentRow) (regionId : Symbol) :
    Entry ω → Option Bool
  | .pool _ => none
  | .commit x => if x.Concerns row regionId then some true else none
  | .project e => (e.drawnTo agent regionId).map fun _ => false

/-- The last write of the exposure was an increment. -/
def Overtaken (agent : Address) (row : AgentRow) (regionId : Symbol) (ls : List (Entry ω)) : Prop :=
  Log.last (Entry.increments agent row regionId) ls = some true

theorem not_overtaken_nil {agent : Address} {row : AgentRow} {regionId : Symbol} :
    ¬ Overtaken agent row regionId ([] : List (Entry ω)) := by
  rw [Overtaken, Log.last_nil]
  exact Option.some_ne_none true |>.symm

/-! ### One transaction -/

section Commit

variable {r r' : Records} {x : Execution} {n m : ℤ}

/-- The transaction after a draw increments the exposure. -/
theorem perform_completion_incremented {u : Unit}
    (h : Query.perform (.transaction (completion x.requestId x.request x.txHash x.now)) r =
      some (u, r')) :
    ∃ n, r.incremented x.request.agentId x.request.regionId x.request.amountRequested = some n ∧
      r'.exposures = r.exposures.insert (x.request.agentId, x.request.regionId) (toString n) ∧
      r'.agents = r.agents := by
  obtain ⟨old, r₁, r₂, hupdate, hincrement, rfl⟩ := completion_statements h
  obtain ⟨request, -, hrequest⟩ := Option.map_eq_some_iff.1 hupdate
  cases hrequest
  obtain ⟨n, hn, rfl⟩ := Option.map_eq_some_iff.1 hincrement
  exact ⟨n, (Option.filter_eq_some_iff.1 hn).1, rfl, rfl⟩

theorem eq_add_of_incremented {agentId regionId : String} {amount : ℤ}
    (hdrawn : r.drawnAmount agentId regionId = toString m)
    (h : r.incremented agentId regionId amount = some n) : n = m + amount := by
  rw [Database.drawnAmount] at hdrawn
  rw [Records.incremented] at h
  cases hlookup : r.exposures.lookup (agentId, regionId) with
  | none =>
    rw [hlookup] at hdrawn h
    obtain rfl : m = 0 := (toString_inj (n := 0)).1 hdrawn |>.symm
    change (if regionId ∈ r.regions then some amount else none) = some n at h
    split_ifs at h
    rw [zero_add]
    exact (Option.some.inj h).symm
  | some drawn =>
    rw [hlookup] at hdrawn h
    obtain rfl : drawn = toString m := hdrawn
    change (parseInteger (toString m)).map _ = some n at h
    rw [parseInteger_toString] at h
    exact (Option.some.inj h).symm

/-- What a transaction does to the exposure of an agent in a region. -/
theorem drawnAmount_of_completion {u : Unit}
    (h : Query.perform (.transaction (completion x.requestId x.request x.txHash x.now)) r =
      some (u, r')) (hdrawn : r.drawnAmount row.id regionId.name = toString m) :
    r'.drawnAmount row.id regionId.name =
      toString (m + if x.Concerns row regionId then x.request.amountRequested else 0) := by
  obtain ⟨n, hn, hexposures, -⟩ := perform_completion_incremented h
  by_cases hx : x.Concerns row regionId
  · obtain ⟨hagent, hregion⟩ := hx
    rw [if_pos ⟨hagent, hregion⟩, Database.drawnAmount, hexposures, hagent, hregion,
      AList.lookup_insert]
    rw [hagent, hregion] at hn
    exact congrArg toString (eq_add_of_incremented hdrawn hn)
  · rw [if_neg hx, add_zero, ← hdrawn, Database.drawnAmount, hexposures, AList.lookup_insert_ne]
    · rfl
    · intro hkey
      exact hx ⟨(Prod.mk.inj hkey).1.symm, (Prod.mk.inj hkey).2.symm⟩

end Commit

/-! ### Runs -/

/-- The agent is known to the database, and what is drawn is positive. -/
structure Books.Known (K : StrKey) (agent : Address) (row : AgentRow) (s : Books ω) : Prop where
  identified : s.records.toDatabase.Identified
  row : s.records.agentAt (K.encode agent) = some row
  positive : ∀ x ∈ s.uncommitted, 0 < x.request.amountRequested

theorem Books.Known.of_agents (h : s.Known K agent row)
    (hagents : s'.records.agents = s.records.agents)
    (hpositive : ∀ x ∈ s'.uncommitted, 0 < x.request.amountRequested) :
    s'.Known K agent row := by
  refine ⟨?_, ?_, hpositive⟩
  · rw [Database.Identified, hagents]
    exact h.identified
  · rw [Database.agentAt, hagents]
    exact h.row

theorem Books.Known.step (h : s.Known K agent row) (hst : (Books.lts H K cfg).step s l s') :
    s'.Known K agent row := by
  cases hst with
  | quiet => exact h.of_agents rfl h.positive
  | @drawn l w a r amount exposure bps x hpool hevents hx =>
    refine h.of_agents rfl fun y hy => ?_
    rcases List.mem_append.1 hy with hy | hy
    · exact h.positive y hy
    · obtain rfl := List.mem_singleton.1 hy
      rw [hx.requested]
      exact (Pool.getExposure_of_drawn a r hpool hevents).1
  | committed huncommitted hperform =>
    obtain ⟨n, -, -, hagents⟩ := perform_completion_incremented hperform
    refine h.of_agents hagents fun y hy => h.positive y ?_
    rw [huncommitted]
    rcases List.mem_append.1 hy with hy | hy
    · exact List.mem_append_left _ hy
    · exact List.mem_append_right _ (List.mem_cons_of_mem _ hy)
  | projected _ hindexed => exact h.of_agents hindexed.agents h.positive

/-- Which draws an execution is about. -/
theorem Execution.Draws.concerns_iff {x : Execution} {a : Address} {r : Symbol} {amount : I128}
    (hx : x.Draws K s.records.toDatabase a r amount) (h : s.Known K agent row) :
    x.Concerns row regionId ↔ a = agent ∧ r = regionId := by
  obtain ⟨⟨row', hrow', hagentId⟩, hregion, -⟩ := hx
  constructor
  · rintro ⟨hagent, hname⟩
    refine ⟨h.identified.agent_eq h.row hrow' (hagentId.symm.trans hagent), ?_⟩
    cases r
    cases regionId
    exact congrArg Symbol.mk (hregion.symm.trans hname)
  · rintro ⟨rfl, rfl⟩
    obtain rfl := Option.some.inj (hrow'.symm.trans h.row)
    exact ⟨hagentId, hregion⟩

/-- What a step of the pool does to an exposure. -/
theorem lastDrawn_append_of_quiet {es es' : List Pool.Event}
    (hquiet : ∀ e ∈ es', e.floatMove agent regionId = none) :
    Pool.lastDrawn agent regionId (es ++ es') = Pool.lastDrawn agent regionId es :=
  Log.last_append_of_none fun e he => Pool.drawnTo_eq_none (hquiet e he)

/-- Where the exposure in the database stands: the last projection has set it to `posted`, and the
transactions since then have added `added`. -/
structure Books.Tracked (agent : Address) (row : AgentRow) (regionId : Symbol)
    (ls : List (Entry ω)) (s : Books ω) (posted added : ℤ) : Prop where
  owed : (s.world.store.getExposure agent regionId).val =
    ((Pool.lastDrawn agent regionId s.unprojected).map MachineInt.val).getD posted
  drawnAmount : s.records.drawnAmount row.id regionId.name = toString (posted + added)
  nonneg : 0 ≤ added
  overtaken : 0 < added ↔ Overtaken agent row regionId ls

theorem overtaken_of_none (h : l.increments agent row regionId = none) :
    Overtaken agent row regionId (ls ++ [l]) ↔ Overtaken agent row regionId ls := by
  rw [Overtaken, Log.last_snoc, h]
  rfl

theorem Books.Tracked.step {posted added : ℤ} (h : s.Tracked agent row regionId ls posted added)
    (hknown : s.Known K agent row) (hregion : regionId.name ≠ "")
    (hst : (Books.lts H K cfg).step s l s') :
    ∃ posted added, s'.Tracked agent row regionId (ls ++ [l]) posted added := by
  cases hst with
  | quiet hpool hquiet =>
    refine ⟨posted, added, ?_, h.drawnAmount, h.nonneg, ?_⟩
    · rw [Pool.getExposure_of_quiet hpool (hquiet agent regionId), h.owed,
        lastDrawn_append_of_quiet (hquiet agent regionId)]
    · exact h.overtaken.trans (overtaken_of_none rfl).symm
  | @drawn l w a r amount exposure bps x hpool hevents hx =>
    refine ⟨posted, added, ?_, h.drawnAmount, h.nonneg, ?_⟩
    · obtain ⟨-, -, hexposure⟩ := Pool.getExposure_of_drawn agent regionId
        hpool hevents
      rw [hexposure, hevents, Pool.lastDrawn, Log.last_snoc, Pool.Event.drawnTo]
      split_ifs
      · rfl
      · exact h.owed
    · exact h.overtaken.trans (overtaken_of_none rfl).symm
  | @committed x xs ys r huncommitted hperform =>
    -- A commit adds what was requested, which is more than nothing, to the last exposure told.
    have hpositive : 0 < x.request.amountRequested := by
      refine hknown.positive x ?_
      rw [huncommitted]
      exact List.mem_append_right _ List.mem_cons_self
    have hdrawn := drawnAmount_of_completion hperform h.drawnAmount
    have hnonneg := h.nonneg
    by_cases hx : x.Concerns row regionId
    · rw [if_pos hx, add_assoc] at hdrawn
      refine ⟨posted, added + x.request.amountRequested, h.owed, hdrawn, by omega, ?_⟩
      refine iff_of_true (by omega) ?_
      rw [Overtaken, Log.last_snoc, Entry.increments, if_pos hx]
      rfl
    · rw [if_neg hx, add_zero] at hdrawn
      have hnone : (Entry.commit x : Entry ω).increments agent row regionId = none := if_neg hx
      exact ⟨posted, added, h.owed, hdrawn, hnonneg,
        h.overtaken.trans (overtaken_of_none hnone).symm⟩
  | @projected e es db hunprojected hindexed =>
    have howed := h.owed
    have hlookup := hindexed.lookup_exposures hknown.identified hknown.row hregion
    have hlast : Pool.lastDrawn agent regionId (List.filterMap ContractEvent.ofPool [.pool e]) =
      e.drawnTo agent regionId := Log.last_singleton
    rw [hlast] at hlookup
    rw [hunprojected, ← List.singleton_append, Pool.lastDrawn, Log.last_append,
      Log.last_singleton] at howed
    -- An event of the exposure writes it over everything that has been added.
    cases hdrawn : e.drawnTo agent regionId with
    | none =>
      rw [hdrawn] at hlookup howed
      refine ⟨posted, added, ?_, ?_, h.nonneg, ?_⟩
      · rw [howed, Option.or_none]
        rfl
      · rw [← h.drawnAmount, Database.drawnAmount, Database.drawnAmount, hlookup]
        rfl
      · refine h.overtaken.trans (overtaken_of_none ?_).symm
        rw [Entry.increments, hdrawn]
        rfl
    | some exposure =>
      rw [hdrawn] at hlookup howed
      refine ⟨exposure.val, 0, ?_, ?_, le_rfl, ?_⟩
      · rw [howed, Pool.lastDrawn]
        cases Log.last (Pool.Event.drawnTo agent regionId) es <;> rfl
      · rw [Database.drawnAmount, hlookup, add_zero]
        rfl
      · refine iff_of_false (lt_irrefl _) ?_
        rw [Overtaken, Log.last_snoc, Entry.increments, hdrawn]
        simp

/-- What has been drawn and not committed. -/
def Books.pending (row : AgentRow) (regionId : Symbol) (s : Books ω) : ℤ :=
  (s.uncommitted.map fun x =>
    if x.Concerns row regionId then x.request.amountRequested else 0).sum

/-- A region without a name is not projected: what is owed has been committed or is pending. -/
theorem balanced_step {m : ℤ} (hknown : s.Known K agent row) (hregion : regionId.name = "")
    (hdrawn : s.records.drawnAmount row.id regionId.name = toString m)
    (hpending : m + s.pending row regionId = (s.world.store.getExposure agent regionId).val)
    (hst : (Books.lts H K cfg).step s l s') :
    ∃ m, s'.records.drawnAmount row.id regionId.name = toString m ∧
      m + s'.pending row regionId = (s'.world.store.getExposure agent regionId).val := by
  cases hst with
  | quiet hpool hquiet =>
    refine ⟨m, hdrawn, ?_⟩
    rw [Pool.getExposure_of_quiet hpool (hquiet agent regionId)]
    exact hpending
  | @drawn l w a r amount exposure bps x hpool hevents hx =>
    obtain ⟨-, hexposure, howed⟩ := Pool.getExposure_of_drawn agent regionId
      hpool hevents
    refine ⟨m, hdrawn, ?_⟩
    rw [howed, Books.pending, List.map_append, List.sum_append, List.map_singleton,
      List.sum_singleton, ← add_assoc]
    change m + s.pending row regionId + _ = _
    rw [hpending]
    by_cases heq : a = agent ∧ r = regionId
    · obtain ⟨rfl, rfl⟩ := heq
      rw [if_pos ((hx.concerns_iff hknown).2 ⟨rfl, rfl⟩), if_pos ⟨rfl, rfl⟩, hexposure,
        hx.requested]
    · rw [if_neg fun hconcerns => heq ((hx.concerns_iff hknown).1 hconcerns), if_neg heq, add_zero]
  | @committed x xs ys r huncommitted hperform =>
    refine ⟨_, drawnAmount_of_completion hperform hdrawn, ?_⟩
    rw [Books.pending, huncommitted, List.map_append, List.map_cons, List.sum_append,
      List.sum_cons] at hpending
    rw [Books.pending, List.map_append, List.sum_append]
    show _ = (s.world.store.getExposure agent regionId).val
    omega
  | @projected e es db hunprojected hindexed =>
    refine ⟨m, ?_, hpending⟩
    rw [hregion, Database.drawnAmount] at hdrawn ⊢
    rw [← hdrawn]
    exact congrArg (Option.getD · "0") hindexed.lookup_exposures_empty

/-- **Exposures with two writers.**  Once every transaction has been committed and every event
projected, the exposure of an agent in a region is right exactly if the last write was not an
increment, or the region has no name. -/
theorem exposures_agree_iff {w₀ : Pool.World ω} {r₀ : Records} (h₀ : w₀.store = .blank)
    (hfresh : r₀.exposures = ∅) (hids : r₀.toDatabase.Identified)
    (hrow : r₀.agentAt (K.encode agent) = some row)
    (h : (Books.lts H K cfg).Run ⟨w₀, [], [], r₀⟩ ls s) (hprojected : s.unprojected = [])
    (hcommitted : s.uncommitted = []) :
    ExposureAgrees s.records.toDatabase s.world.store row agent regionId ↔
      regionId.name = "" ∨ ¬ Overtaken agent row regionId ls := by
  have hknown₀ : (⟨w₀, [], [], r₀⟩ : Books ω).Known K agent row :=
    ⟨hids, hrow, fun _ hx => absurd hx List.not_mem_nil⟩
  have hzero : (w₀.store.getExposure agent regionId).val = 0 := by
    rw [h₀]
    rfl
  have hnothing : r₀.drawnAmount row.id regionId.name = toString (0 : ℤ) := by
    rw [Database.drawnAmount, hfresh]
    rfl
  rw [ExposureAgrees]
  by_cases hregion : regionId.name = ""
  · obtain ⟨-, m, hdrawn, hpending⟩ := h.invariant (I := fun s : Books ω => s.Known K agent row ∧
      ∃ m, s.records.drawnAmount row.id regionId.name = toString m ∧
        m + s.pending row regionId = (s.world.store.getExposure agent regionId).val)
      ⟨hknown₀, 0, hnothing, by rw [hzero]; rfl⟩ (by
        rintro s l s' ⟨hknown, m, hdrawn, hpending⟩ hst
        exact ⟨hknown.step hst, balanced_step hknown hregion hdrawn hpending hst⟩)
    rw [Books.pending, hcommitted, List.map_nil, List.sum_nil, add_zero] at hpending
    exact iff_of_true (hpending ▸ hdrawn) (.inl hregion)
  -- The rest is tracked along the run.
  · have htracked : s.Known K agent row ∧
        ∃ posted added, s.Tracked agent row regionId ls posted added := by
      clear hprojected hcommitted
      induction h with
      | nil =>
        exact ⟨hknown₀, 0, 0, hzero, hnothing, le_rfl, iff_of_false (lt_irrefl _) not_overtaken_nil⟩
      | snoc _ hst ih =>
        obtain ⟨hknown, posted, added, htracked⟩ := ih
        exact ⟨hknown.step hst, htracked.step hknown hregion hst⟩
    obtain ⟨-, posted, added, htracked⟩ := htracked
    have howed := htracked.owed
    rw [hprojected] at howed
    rw [htracked.drawnAmount, toString_inj, howed, ← htracked.overtaken]
    have hnonneg := htracked.nonneg
    constructor
    · intro heq
      refine .inr fun hpos => ?_
      change posted + added = posted at heq
      omega
    · rintro (hempty | hsettled)
      · exact absurd hempty hregion
      · show posted + added = posted
        omega

/-! ### A transaction after the projection of its draw -/

theorem Books.run_quiet {w w' : Pool.World ω} {ls : List (Pool.Label ω)} {es : List Pool.Event}
    {xs : List Execution} {r : Records} (h : (Pool.contract H).lts.Run w ls w')
    (hquiet : ∀ agent regionId, ∀ e ∈ ls.flatMap Action.events, e.floatMove agent regionId = none) :
    (Books.lts H K cfg).Run ⟨w, es, xs, r⟩ (ls.map .pool)
      ⟨w', es ++ ls.flatMap Action.events, xs, r⟩ := by
  induction h with
  | nil =>
    rw [List.flatMap_nil, List.append_nil]
    exact .nil _
  | @snoc w₁ w₂ ls l _ hst ih =>
    rw [List.flatMap_append, List.flatMap_singleton] at hquiet
    rw [List.flatMap_append, List.flatMap_singleton, List.map_append, ← List.append_assoc]
    exact .snoc (ih fun agent regionId e he => hquiet agent regionId e (List.mem_append_left _ he))
      (.quiet hst fun agent regionId e he => hquiet agent regionId e (List.mem_append_right _ he))

theorem Books.run_projected {w : Pool.World ω} {es es' : List Pool.Event} {xs : List Execution}
    {r : Records} {db : Database} (h : Indexed K cfg r.toDatabase (es.map .pool) db) :
    (Books.lts H K cfg).Run ⟨w, es ++ es', xs, r⟩ (es.map .project)
      ⟨w, es', xs, { r with toDatabase := db }⟩ := by
  generalize hevents : es.map ContractEvent.pool = events at h
  induction h generalizing es es' with
  | nil =>
    obtain rfl := List.map_eq_nil_iff.1 hevents
    exact .nil _
  | snoc h hcarries hfree hdecoded hpersist ih =>
    obtain ⟨es, es'', rfl, hes, hlast⟩ := List.map_eq_append_iff.1 hevents
    obtain ⟨e, rfl, rfl⟩ := List.map_eq_singleton_iff.1 hlast
    rw [List.map_append, List.append_assoc]
    exact .snoc (ih hes) (.projected rfl (.snoc .nil hcarries hfree hdecoded hpersist))

namespace Sample

open Indexer.Sample

/-- The draw of the request, and what its transaction writes. -/
def executed : Execution := ⟨"request", approved, some "1", 1⟩

def accounts : Records :=
  { seeded with topUps := AList.insert "request" approved ∅, alerts := [] }

def drawLabel : Pool.Label Unit :=
  .call (Pool.Sample.signedBy Pool.Sample.agent)
    (.drawLiquidity Pool.Sample.agent Pool.Sample.region 100)
    (.done (.amount 100) [⟨Pool.Sample.usd, Pool.Sample.host.self, Pool.Sample.agent, 100⟩]
      [.liquidityDrawn Pool.Sample.agent Pool.Sample.region 100 100 100])

/-- The events of the pool, up to the draw. -/
def emitted : List Pool.Event := (poolTrace 4).flatMap Action.events

/-- The pool is opened, and the request is drawn. -/
def drawnEntries : List (Entry Unit) := (poolTrace 3).map .pool ++ [.pool drawLabel]

theorem drawn_run : (Books.lts Pool.Sample.host strKey Indexer.Sample.environment).Run
    ⟨Pool.Sample.blank, [], [], accounts⟩ drawnEntries
    ⟨poolAfter 4, emitted, [executed], accounts⟩ := by
  have hquiet : ∀ agent regionId, ∀ e ∈ (poolTrace 3).flatMap Action.events,
      e.floatMove agent regionId = none := by
    intro agent regionId e he
    have hevents : (poolTrace 3).flatMap Action.events =
        [.regionConfigured Pool.Sample.region 8000 true,
          .liquidityDeposited Pool.Sample.provider Pool.Sample.region 10000 10000 10000] := rfl
    rw [hevents] at he
    rcases List.mem_cons.1 he with rfl | he
    · rfl
    · obtain rfl := List.mem_singleton.1 he
      rfl
  have hst : (Pool.contract Pool.Sample.host).lts.step (poolAfter 3) drawLabel (poolAfter 4) :=
    Contract.step_done rfl rfl rfl rfl
  exact .snoc (Books.run_quiet (pool_run 3) hquiet)
    (.drawn hst rfl ⟨⟨borrower, borrower_known, rfl⟩, rfl, rfl⟩)

/-- The database after the transaction, if it was this before. -/
def settled (r : Records) : Records :=
  ((Query.perform (.transaction (completion "request" approved (some "1") 1)) r).map Prod.snd).getD
    r

/-- The database after the events have been projected, if it was this before. -/
def indexed (r : Records) : Records :=
  { r with toDatabase := (Indexer.indexInOrder strKey Indexer.Sample.environment "pool" 1
      r.toDatabase (emitted.map .pool)).getD r.toDatabase }

theorem perform_settled {r : Records} (h : (Query.perform (.transaction
    (completion "request" approved (some "1") 1)) r).isSome = true) :
    Query.perform (.transaction (completion "request" approved (some "1") 1)) r =
      some ((), settled r) := by
  obtain ⟨⟨u, r'⟩, hr'⟩ := Option.isSome_iff_exists.1 h
  rw [settled, hr']
  rfl

theorem indexed_events {r : Records} (h : (Indexer.indexInOrder strKey Indexer.Sample.environment
    "pool" 1 r.toDatabase (emitted.map .pool)).isSome = true) :
    Indexed strKey Indexer.Sample.environment r.toDatabase (emitted.map .pool)
      (indexed r).toDatabase := by
  obtain ⟨db, hdb⟩ := Option.isSome_iff_exists.1 h
  rw [indexed, hdb]
  exact Indexer.indexed_of_indexInOrder .nil hdb

/-- The events are projected, and then the transaction is committed. -/
theorem late_run : (Books.lts Pool.Sample.host strKey Indexer.Sample.environment).Run
    ⟨Pool.Sample.blank, [], [], accounts⟩
    (drawnEntries ++ emitted.map .project ++ [.commit executed])
    ⟨poolAfter 4, [], [], settled (indexed accounts)⟩ := by
  have hindexed := indexed_events (r := accounts) (by decide +kernel)
  have hproject : (Books.lts Pool.Sample.host strKey Indexer.Sample.environment).Run
      ⟨poolAfter 4, emitted ++ [], [executed], accounts⟩ _ _ := Books.run_projected hindexed
  rw [List.append_nil] at hproject
  have hcommit : (Books.lts Pool.Sample.host strKey Indexer.Sample.environment).step
      ⟨poolAfter 4, [], [] ++ executed :: [], indexed accounts⟩ (.commit executed)
      ⟨poolAfter 4, [], [] ++ [], settled (indexed accounts)⟩ :=
    .committed rfl (perform_settled (by decide +kernel))
  exact .snoc (drawn_run.append hproject) hcommit

/-- The transaction is committed before the events are projected. -/
theorem early_run : (Books.lts Pool.Sample.host strKey Indexer.Sample.environment).Run
    ⟨Pool.Sample.blank, [], [], accounts⟩
    (drawnEntries ++ [.commit executed] ++ emitted.map .project)
    ⟨poolAfter 4, [], [], indexed (settled accounts)⟩ := by
  have hindexed := indexed_events (r := settled accounts) (by decide +kernel)
  have hproject : (Books.lts Pool.Sample.host strKey Indexer.Sample.environment).Run
      ⟨poolAfter 4, emitted ++ [], [], settled accounts⟩ _ _ := Books.run_projected hindexed
  rw [List.append_nil] at hproject
  have hcommit : (Books.lts Pool.Sample.host strKey Indexer.Sample.environment).step
      ⟨poolAfter 4, emitted, [] ++ executed :: [], accounts⟩ (.commit executed)
      ⟨poolAfter 4, emitted, [] ++ [], settled accounts⟩ :=
    .committed rfl (perform_settled (by decide +kernel))
  exact (Run.snoc drawn_run hcommit).append hproject

end Sample

/-- The agent owes 100 units, and 200 according to the read model. -/
theorem not_exposures_agree_sample : Pool.Sample.blank.store = .blank ∧
    Sample.accounts.exposures = ∅ ∧
    Sample.accounts.agentAt (Indexer.Sample.strKey.encode Pool.Sample.agent) =
      some Indexer.Sample.borrower ∧
    (Books.lts Pool.Sample.host Indexer.Sample.strKey Indexer.Sample.environment).Run
      ⟨Pool.Sample.blank, [], [], Sample.accounts⟩
      (Sample.drawnEntries ++ Sample.emitted.map .project ++ [.commit Sample.executed])
      ⟨Indexer.Sample.poolAfter 4, [], [], Sample.settled (Sample.indexed Sample.accounts)⟩ ∧
    ¬ ExposureAgrees (Sample.settled (Sample.indexed Sample.accounts)).toDatabase
      (Indexer.Sample.poolAfter 4).store Indexer.Sample.borrower Pool.Sample.agent
      Pool.Sample.region :=
  ⟨rfl, rfl, Indexer.Sample.borrower_known, Sample.late_run, by
    rw [ExposureAgrees]
    decide +kernel⟩

/-- In the other order the read model is right. -/
theorem exposures_agree_iff_sample :
    ExposureAgrees (Sample.indexed (Sample.settled Sample.accounts)).toDatabase
      (Indexer.Sample.poolAfter 4).store Indexer.Sample.borrower Pool.Sample.agent
      Pool.Sample.region :=
  (exposures_agree_iff rfl rfl Indexer.Sample.seeded_identified Indexer.Sample.borrower_known
    Sample.early_run rfl rfl).2 (.inr (by
      rw [Overtaken]
      decide +kernel))

end Liquidity

end RemitBridge
