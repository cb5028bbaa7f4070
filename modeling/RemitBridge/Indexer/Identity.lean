import RemitBridge.Indexer.System

/-!
# What identifies an event

The key of an event has its place in the answer it came in.  That place is the position of the event
in the history of its contract, less the number of events before the window; so two windows give an
event the same key only if no event of the contract lies between where they start.

## Main results

* `stableKeys_iff` : two windows agree on the events they share, exactly if they share none, or if
  no event lies between their starts and what they share fits a page.
-/

namespace RemitBridge

namespace Indexer

variable {history : History} {request request' : Request} {raw raw' : RawContractEvent} {p : ℕ}

/-- The history stands in the order of the ledgers. -/
def History.Sorted (history : History) : Prop :=
  ∀ contractId, Log.Sorted EventResponse.ledger (history contractId)

/-- The position, in the history of its contract, of the event fetched as `raw`. -/
def position (history : History) (request : Request) (raw : RawContractEvent) : ℕ :=
  Log.before EventResponse.ledger request.startLedger (history request.contractId) + raw.eventIndex

/-- The event at the position `p` of the history is in the window. -/
def InWindow (history : History) (request : Request) (p : ℕ) : Prop :=
  ∃ event, (history request.contractId)[p]? = some event ∧
    request.startLedger ≤ event.ledger ∧ event.ledger ≤ request.endLedger

/-- **Positions**: the event fetched as `raw` is the one at this position. -/
theorem mem_fetched (hs : history.Sorted) : raw ∈ fetched history request ↔
    raw.eventIndex < request.limit ∧
      ∃ event, (history request.contractId)[position history request raw]? = some event ∧
        event.ledger ≤ request.endLedger ∧
        raw = rawEvent request.contractId event raw.eventIndex := by
  have hplace : ∀ event i, (page history request)[i]? = some event ↔ i < request.limit ∧
      (history request.contractId)[Log.before EventResponse.ledger request.startLedger
        (history request.contractId) + i]? = some event ∧ event.ledger ≤ request.endLedger := by
    intro event i
    rw [page, List.getElem?_take, ← Nat.lt_succ_iff, ← Log.getElem?_span (hs _)]
    by_cases hi : i < request.limit
    · simp [hi, window]
    · simp [hi]
  constructor
  · intro hmem
    obtain ⟨⟨event, i⟩, hi, rfl⟩ := List.mem_map.1 hmem
    obtain ⟨hlimit, hevent, hledger⟩ := (hplace event i).1 (List.mem_zipIdx_iff_getElem?.1 hi)
    exact ⟨hlimit, event, hevent, hledger, rfl⟩
  · rintro ⟨hlimit, event, hevent, hledger, hraw⟩
    refine List.mem_map.2 ⟨(event, raw.eventIndex), ?_, hraw.symm⟩
    exact List.mem_zipIdx_iff_getElem?.2 ((hplace _ _).2 ⟨hlimit, hevent, hledger⟩)

/-- An event is not before the window exactly if its position is not before that of the window. -/
theorem before_le_iff (hs : history.Sorted) {contractId : String} {event : EventResponse} {t : ℕ}
    (hevent : (history contractId)[p]? = some event) :
    Log.before EventResponse.ledger t (history contractId) ≤ p ↔ t ≤ event.ledger := by
  have hlt := Log.lt_before_iff (t := t) (hs contractId) hevent
  omega

theorem inWindow_of_mem (hs : history.Sorted) (h : raw ∈ fetched history request) :
    InWindow history request (position history request raw) := by
  obtain ⟨-, event, hevent, hledger, -⟩ := (mem_fetched hs).1 h
  exact ⟨event, hevent, (before_le_iff hs hevent).1 (Nat.le_add_right ..), hledger⟩

/-- An event of the window is fetched if its place in the window is below the limit. -/
theorem exists_mem_fetched (hs : history.Sorted) (h : InWindow history request p)
    (hlimit : p < Log.before EventResponse.ledger request.startLedger
      (history request.contractId) + request.limit) :
    ∃ raw ∈ fetched history request, position history request raw = p := by
  obtain ⟨event, hevent, hstart, hend⟩ := h
  obtain ⟨i, rfl⟩ := Nat.exists_eq_add_of_le ((before_le_iff hs hevent).2 hstart)
  exact ⟨rawEvent request.contractId event i,
    (mem_fetched hs).2 ⟨Nat.lt_of_add_lt_add_left hlimit, event, hevent, hend, rfl⟩, rfl⟩

theorem eq_rawEvent_of_mem (hs : history.Sorted) (h : raw ∈ fetched history request)
    {event : EventResponse}
    (hevent : (history request.contractId)[position history request raw]? = some event) :
    raw = rawEvent request.contractId event raw.eventIndex := by
  obtain ⟨-, event', hevent', -, hraw⟩ := (mem_fetched hs).1 h
  obtain rfl := Option.some.inj (hevent.symm.trans hevent')
  exact hraw

/-! ### Two windows -/

/-- The events that two windows of a contract share. -/
def shared (history : History) (request request' : Request) : List EventResponse :=
  Log.span EventResponse.ledger (max request.startLedger request'.startLedger)
    (min request.endLedger request'.endLedger + 1) (history request.contractId)

/-- The events between the starts of two windows. -/
def between (history : History) (request request' : Request) : List EventResponse :=
  Log.span EventResponse.ledger (min request.startLedger request'.startLedger)
    (max request.startLedger request'.startLedger) (history request.contractId)

/-- Two windows that share an event have no event between their starts. -/
def Aligned (history : History) (request request' : Request) : Prop :=
  shared history request request' ≠ [] → between history request request' = []

/-- **The identity of an event does not depend on the window**: both windows give the events that
they share the same keys, and different events different keys. -/
structure StableKeys (history : History) (request request' : Request)
    (raws raws' : List RawContractEvent) : Prop where
  same : ∀ p, InWindow history request p → InWindow history request' p →
    ∃ raw ∈ raws, ∃ raw' ∈ raws', position history request raw = p ∧
      position history request' raw' = p ∧ raw.key = raw'.key
  distinct : ∀ raw ∈ raws, ∀ raw' ∈ raws', raw.key = raw'.key →
    position history request raw = position history request' raw'

/-- The events that two windows share, by their positions. -/
theorem getElem?_shared (hs : history.Sorted) (hcontract : request'.contractId = request.contractId)
    {i : ℕ} {event : EventResponse} (h : (shared history request request')[i]? = some event) :
    InWindow history request (Log.before EventResponse.ledger
        (max request.startLedger request'.startLedger) (history request.contractId) + i) ∧
      InWindow history request' (Log.before EventResponse.ledger
        (max request.startLedger request'.startLedger) (history request.contractId) + i) := by
  obtain ⟨hevent, hend⟩ := (Log.getElem?_span (hs _)).1 h
  have hstart := (before_le_iff hs hevent).1 (Nat.le_add_right ..)
  exact ⟨⟨event, hevent, by omega, by omega⟩, ⟨event, hcontract ▸ hevent, by omega, by omega⟩⟩

/-- An event that two windows share has a place among what they share. -/
theorem index_lt_of_shared (hs : history.Sorted)
    (hcontract : request'.contractId = request.contractId) (hp : InWindow history request p)
    (hp' : InWindow history request' p) :
    Log.before EventResponse.ledger (max request.startLedger request'.startLedger)
        (history request.contractId) ≤ p ∧
      p < Log.before EventResponse.ledger (max request.startLedger request'.startLedger)
        (history request.contractId) + (shared history request request').length := by
  obtain ⟨event, hevent, hstart, hend⟩ := hp
  obtain ⟨event', hevent', hstart', hend'⟩ := hp'
  rw [hcontract] at hevent'
  obtain rfl := Option.some.inj (hevent.symm.trans hevent')
  have hle := (before_le_iff hs hevent).2 (Nat.max_le.2 ⟨hstart, hstart'⟩)
  obtain ⟨i, rfl⟩ := Nat.exists_eq_add_of_le hle
  have hi : (shared history request request')[i]? = some event :=
    (Log.getElem?_span (hs _)).2 ⟨hevent, by omega⟩
  have hlt := (List.getElem?_eq_some_iff.1 hi).1
  omega

/-- Windows of a contract that share the event at `p` start at the same position, if they are
aligned. -/
theorem Aligned.before_eq (hs : history.Sorted) (h : Aligned history request request')
    (hcontract : request'.contractId = request.contractId) (hp : InWindow history request p)
    (hp' : InWindow history request' p) :
    Log.before EventResponse.ledger request.startLedger (history request.contractId) =
      Log.before EventResponse.ledger request'.startLedger (history request.contractId) := by
  have hshared := index_lt_of_shared hs hcontract hp hp'
  exact Log.span_min_max_eq_nil_iff.1 (h (List.ne_nil_of_length_pos (by omega)))

/-- Aligned windows give an event the same place, and so the same key. -/
theorem Aligned.raw_eq (hs : history.Sorted) (h : Aligned history request request')
    (hcontract : request'.contractId = request.contractId)
    (hraw : raw ∈ fetched history request) (hraw' : raw' ∈ fetched history request')
    (hposition : position history request raw = position history request' raw') :
    raw = raw' := by
  have hp := inWindow_of_mem hs hraw
  have hp' := inWindow_of_mem hs hraw'
  rw [← hposition] at hp'
  have hstarts := h.before_eq hs hcontract hp hp'
  obtain ⟨event, hevent, -, -⟩ := hp
  have hr := eq_rawEvent_of_mem hs hraw hevent
  have hr' := eq_rawEvent_of_mem hs hraw' (hposition ▸ hcontract ▸ hevent)
  have hindex : raw.eventIndex = raw'.eventIndex := by
    rw [position, position, hcontract, hstarts] at hposition
    exact Nat.add_left_cancel hposition
  rw [hr, hr', hcontract, hindex]

/-- Aligned windows do not take different events for the same. -/
theorem Aligned.position_eq (hs : history.Sorted) (h : Aligned history request request')
    (hraw : raw ∈ fetched history request) (hraw' : raw' ∈ fetched history request')
    (hkey : raw.key = raw'.key) : request'.contractId = request.contractId ∧
      position history request raw = position history request' raw' := by
  obtain ⟨event, hevent, hstart, hend⟩ := inWindow_of_mem hs hraw
  obtain ⟨event', hevent', hstart', hend'⟩ := inWindow_of_mem hs hraw'
  have hr := eq_rawEvent_of_mem hs hraw hevent
  have hr' := eq_rawEvent_of_mem hs hraw' hevent'
  rw [hr, hr', RawContractEvent.key, RawContractEvent.key, EventKey.mk.injEq] at hkey
  obtain ⟨hcontract, hledger, hindex⟩ := hkey
  have hcontract : request'.contractId = request.contractId := hcontract.symm
  have hledger : event.ledger = event'.ledger := hledger
  have hindex : raw.eventIndex = raw'.eventIndex := hindex
  refine ⟨hcontract, ?_⟩
  -- The event fetched as `raw` is in the other window too, as it is in the same ledger.
  have hbefore := h.before_eq hs hcontract ⟨event, hevent, hstart, hend⟩
    ⟨event, hcontract ▸ hevent, by omega, by omega⟩
  rw [position, position, hcontract, hbefore, hindex]

/-- **Keys and windows**: two windows of a contract agree on the events that they share, exactly if
they share none, or no event lies between their starts and what they share fits a page. -/
theorem stableKeys_iff (hs : history.Sorted) (hcontract : request'.contractId = request.contractId)
    (hlimit : request'.limit = request.limit) :
    StableKeys history request request' (fetched history request) (fetched history request') ↔
      (shared history request request' ≠ [] → between history request request' = [] ∧
        (shared history request request').length ≤ request.limit) := by
  constructor
  · intro hstable hshared
    have hpos : 0 < (shared history request request').length := List.length_pos_of_ne_nil hshared
    -- The last event that they share has the same place in both.
    have hlast := List.getElem?_eq_getElem (Nat.sub_one_lt hpos.ne')
    obtain ⟨hp, hp'⟩ := getElem?_shared hs hcontract hlast
    obtain ⟨raw, hraw, raw', hraw', hposition, hposition', hkey⟩ := hstable.same _ hp hp'
    have hindex : raw.eventIndex = raw'.eventIndex := congrArg EventKey.eventIndex hkey
    have hbound := ((mem_fetched hs).1 hraw).1
    rw [position] at hposition
    rw [position, hcontract] at hposition'
    have hstarts : Log.before EventResponse.ledger request.startLedger
        (history request.contractId) = Log.before EventResponse.ledger request'.startLedger
        (history request.contractId) := by omega
    -- It is the last of them, so there are no more of them than places in a page.
    have hmax := Log.before_max_of_eq hstarts
    exact ⟨Log.span_min_max_eq_nil_iff.2 hstarts, by omega⟩
  · intro h
    have haligned : Aligned history request request' := fun hshared => (h hshared).1
    refine ⟨?_, fun raw hraw raw' hraw' hkey =>
      (haligned.position_eq hs hraw hraw' hkey).2⟩
    intro p hp hp'
    have hstarts := haligned.before_eq hs hcontract hp hp'
    obtain ⟨hfits, hindex⟩ := index_lt_of_shared hs hcontract hp hp'
    rw [Log.before_max_of_eq hstarts] at hfits hindex
    have hpage := (h (List.ne_nil_of_length_pos (by omega))).2
    obtain ⟨raw, hraw, hposition⟩ := exists_mem_fetched hs hp (by omega)
    obtain ⟨raw', hraw', hposition'⟩ := exists_mem_fetched hs hp' (by rw [hcontract]; omega)
    exact ⟨raw, hraw, raw', hraw', hposition, hposition',
      congrArg _ (haligned.raw_eq hs hcontract hraw hraw' (hposition.trans hposition'.symm))⟩

end Indexer

end RemitBridge
