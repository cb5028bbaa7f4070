import RemitBridge.Indexer.Coverage
import RemitBridge.Indexer.Identity

/-!
# Replays

An indexer that is stopped, or whose cursor is moved back, fetches events again.  It recognises the
ones it has recorded by their keys.  As long as the windows of a run that share events start at the
same position of the history, every event is recorded once, no event is taken for another, and a
settled transfer stays settled (`events_identified`); otherwise none of this needs to hold.
-/

namespace RemitBridge

namespace Indexer

open Job TransitionSystem

variable {cfg : Config} {history : History} {rpc : Rpc} {now tip : ℕ} {db db' base : Database}
  {result : IndexerTickResult} {requests earlier : List Request} {request : Request}
  {raw : RawContractEvent} {decoded : DecodedEvent}

/-! ### Histories and windows -/

/-- The transfer that the event creates. -/
def RawContractEvent.creates (raw : RawContractEvent) : Option ℤ :=
  (decodeEvent raw).toOption.bind createdId

/-- The transfer that the event settles. -/
def RawContractEvent.settles (raw : RawContractEvent) : Option ℤ :=
  (decodeEvent raw).toOption.bind settledId

def EventResponse.creates (event : EventResponse) : Option ℤ := (rawEvent "" event 0).creates

def EventResponse.settles (event : EventResponse) : Option ℤ := (rawEvent "" event 0).settles

/-- A transfer is created before it is settled, by the same contract. -/
def History.Chronological (history : History) : Prop :=
  ∀ contractId contractId' (p p' : ℕ) event event' id, (history contractId)[p]? = some event →
    (history contractId')[p']? = some event' → event.creates = some id →
    event'.settles = some id → contractId' = contractId ∧ p < p'

/-- **Windows that give events the same keys**: they fit their pages, those of a contract that share
events are aligned, and the tip of the chain does not go back. -/
structure Orderly (history : History) (requests : List Request) : Prop where
  aligned : ∀ request ∈ requests, ∀ request' ∈ requests,
    request'.contractId = request.contractId → Aligned history request request'
  fits : ∀ request ∈ requests, (window history request).length ≤ request.limit
  tips : requests.Pairwise fun request request' => request.endLedger ≤ request'.endLedger

instance (request request' : Request) : Decidable (Aligned history request request') :=
  inferInstanceAs (Decidable (_ → _))

theorem Orderly.of_append {requests' : List Request} (h : Orderly history (requests ++ requests')) :
    Orderly history requests where
  aligned request hrequest request' hrequest' :=
    h.aligned request (List.mem_append_left _ hrequest) request'
      (List.mem_append_left _ hrequest')
  fits request hrequest := h.fits request (List.mem_append_left _ hrequest)
  tips := (List.pairwise_append.1 h.tips).1

theorem Orderly.endLedger_le (h : Orderly history (requests ++ [request])) {request' : Request}
    (hrequest' : request' ∈ requests ++ [request]) : request'.endLedger ≤ request.endLedger := by
  rcases List.mem_append.1 hrequest' with hmem | hmem
  · exact (List.pairwise_append.1 h.tips).2.2 request' hmem request (List.mem_singleton_self _)
  · rw [List.mem_singleton.1 hmem]

theorem entry_ne_none (h : decodeEvent raw = .ok decoded) : raw.entry ≠ none := by
  rw [RawContractEvent.entry, h]
  exact Option.some_ne_none _

/-! ### The log -/

/-- The event is in the log, if it can be decoded. -/
def Database.Records (db : Database) (raw : RawContractEvent) : Prop :=
  raw.entry ≠ none → db.hasChainEvent raw.key = true

/-- The row was written for the event at this position of the history of this contract. -/
def WrittenFor (history : History) (requests : List Request) (row : ChainEventRow)
    (place : String × ℕ) : Prop :=
  ∃ request ∈ requests, ∃ raw ∈ fetched history request,
    place = (request.contractId, position history request raw) ∧ row.key = raw.key ∧
      raw.entry = some row.entry

/-- What holds after these requests: no event has two rows, and a transfer is settled only if an
event said so before which its window was recorded. -/
structure Replayed (history : History) (requests : List Request) (db : Database) : Prop where
  logged : ∃ places : List (String × ℕ), places.Nodup ∧
    List.Forall₂ (WrittenFor history requests) db.chainEvents places
  settled : ∀ id, db.Settled id → ∃ request ∈ requests, ∃ raw ∈ fetched history request,
    raw.settles = some id ∧ ∀ raw' ∈ fetched history request, raw'.eventIndex < raw.eventIndex →
      db.Records raw'

/-- Nothing recorded is lost, and nothing settled is reopened. -/
structure Keeps (db db' : Database) : Prop where
  events : ∀ key, db.hasChainEvent key = true → db'.hasChainEvent key = true
  settled : ∀ id, db.Settled id → db'.Settled id

theorem Keeps.refl : Keeps db db := ⟨fun _ h => h, fun _ h => h⟩

theorem Keeps.trans (h : Keeps base db) (h' : Keeps db db') : Keeps base db' :=
  ⟨fun key hkey => h'.events key (h.events key hkey),
    fun id hid => h'.settled id (h.settled id hid)⟩

theorem Keeps.records (h : Keeps db db') (hraw : db.Records raw) : db'.Records raw :=
  fun hentry => h.events _ (hraw hentry)

theorem WrittenFor.append {row : ChainEventRow} {place : String × ℕ} {requests' : List Request}
    (h : WrittenFor history requests row place) :
    WrittenFor history (requests ++ requests') row place := by
  obtain ⟨request, hrequest, h⟩ := h
  exact ⟨request, List.mem_append_left _ hrequest, h⟩

theorem Replayed.append {requests' : List Request} (h : Replayed history requests db) :
    Replayed history (requests ++ requests') db := by
  obtain ⟨places, hnodup, hrows⟩ := h.logged
  refine ⟨⟨places, hnodup, hrows.imp fun _ _ hrow => hrow.append⟩, ?_⟩
  intro id hid
  obtain ⟨request, hrequest, hsettles⟩ := h.settled id hid
  exact ⟨request, List.mem_append_left _ hrequest, hsettles⟩

/-- Only the log and the statuses of the transfers matter. -/
theorem Replayed.congr (h : Replayed history requests db)
    (hevents : db'.chainEvents = db.chainEvents) (htransfers : db'.transfers = db.transfers) :
    Replayed history requests db' ∧ Keeps db db' := by
  have hkeeps : Keeps db db' := by
    refine ⟨?_, ?_⟩
    · intro key hkey
      rw [Database.hasChainEvent, hevents]
      exact hkey
    · intro id hid
      rw [Database.Settled, htransfers]
      exact hid
  refine ⟨⟨hevents ▸ h.logged, ?_⟩, hkeeps⟩
  intro id hid
  rw [Database.Settled, htransfers] at hid
  obtain ⟨request, hrequest, raw, hraw, hsettles, hearlier⟩ := h.settled id hid
  exact ⟨request, hrequest, raw, hraw, hsettles, fun raw' hraw' hlt =>
    hkeeps.records (hearlier raw' hraw' hlt)⟩

section Rows

variable {α β : Type} {R : α → β → Prop} {rows : List α} {places : List β} {row : α} {place : β}

theorem exists_place (h : List.Forall₂ R rows places) (hrow : row ∈ rows) :
    ∃ place ∈ places, R row place := by
  induction h with
  | nil => cases hrow
  | @cons row' place' rows places hR _ ih =>
    rcases List.mem_cons.1 hrow with rfl | hrow
    · exact ⟨place', List.mem_cons_self .., hR⟩
    · obtain ⟨place, hplace, h⟩ := ih hrow
      exact ⟨place, List.mem_cons_of_mem _ hplace, h⟩

theorem exists_row (h : List.Forall₂ R rows places) (hplace : place ∈ places) :
    ∃ row ∈ rows, R row place := by
  induction h with
  | nil => cases hplace
  | @cons row' place' rows places hR _ ih =>
    rcases List.mem_cons.1 hplace with rfl | hplace
    · exact ⟨row', List.mem_cons_self .., hR⟩
    · obtain ⟨row, hrow, h⟩ := ih hplace
      exact ⟨row, List.mem_cons_of_mem _ hrow, h⟩

end Rows

/-! ### One event -/

theorem Persists.keeps_events (h : Persists cfg raw decoded db db') {key : EventKey}
    (hkey : db.hasChainEvent key = true) : db'.hasChainEvent key = true := by
  obtain ⟨row, hrow, hrowkey⟩ := hasChainEvent_eq_true.1 hkey
  refine hasChainEvent_eq_true.2 ⟨row, ?_, hrowkey⟩
  rcases h.chainEvents with hsame | ⟨-, transferId, hadded⟩
  · exact hsame ▸ hrow
  · rw [hadded]
    exact List.mem_append_left _ hrow

/-- An event whose key is free has no row yet. -/
theorem place_not_mem (hs : history.Sorted) (horderly : Orderly history requests)
    (hrequest : request ∈ requests) (hraw : raw ∈ fetched history request)
    (hfree : db.hasChainEvent raw.key = false) {places : List (String × ℕ)}
    (hrows : List.Forall₂ (WrittenFor history requests) db.chainEvents places) :
    (request.contractId, position history request raw) ∉ places := by
  intro hmem
  obtain ⟨row, hrow, request', hrequest', raw', hraw', hplace, hkey, -⟩ := exists_row hrows hmem
  obtain ⟨hcontract, hposition⟩ := Prod.mk.injEq .. ▸ hplace
  have heq := (horderly.aligned request hrequest request' hrequest' hcontract.symm).raw_eq hs
    hcontract.symm hraw hraw' hposition
  have htaken : db.hasChainEvent raw.key = true :=
    hasChainEvent_eq_true.2 ⟨row, hrow, hkey.trans (congrArg _ heq.symm)⟩
  rw [hfree] at htaken
  cases htaken

/-- **A settled transfer is not created again**: if the key of a creation is free, no settlement of
the transfer has been recorded, as the creation would have been recorded before it. -/
theorem Replayed.not_settled (hs : history.Sorted) (hchronological : history.Chronological)
    (horderly : Orderly history (requests ++ [request])) (hraw : raw ∈ fetched history request)
    (h : Replayed history (requests ++ [request]) db) (hfree : db.hasChainEvent raw.key = false)
    (hdecoded : decodeEvent raw = .ok decoded) {id : ℤ} (hcreates : createdId decoded = some id) :
    ¬ db.Settled id := by
  intro hid
  obtain ⟨request', hrequest', raw', hraw', hsettles, hearlier⟩ := h.settled id hid
  obtain ⟨event, hevent, hstart, -⟩ := inWindow_of_mem hs hraw
  obtain ⟨event', hevent', hstart', hend'⟩ := inWindow_of_mem hs hraw'
  have heq := eq_rawEvent_of_mem hs hraw hevent
  have heq' := eq_rawEvent_of_mem hs hraw' hevent'
  have hcreated : raw.creates = some id := by
    rw [RawContractEvent.creates, hdecoded]; exact hcreates
  rw [heq] at hcreated
  rw [heq'] at hsettles
  obtain ⟨hcontract, hlt⟩ := hchronological _ _ _ _ _ _ id hevent hevent' hcreated hsettles
  -- The settlement is in this window too: it is later than the creation, and the tip is not behind.
  have hlate : event.ledger ≤ event'.ledger := by
    have hle := (before_le_iff hs hevent).2 le_rfl
    rw [hcontract] at hevent'
    exact (before_le_iff hs hevent').1 (hle.trans hlt.le)
  have htip := horderly.endLedger_le hrequest'
  have hsettled : InWindow history request (position history request' raw') :=
    ⟨event', hcontract ▸ hevent', by omega, by omega⟩
  have hstarts := (horderly.aligned request (by simp) request' hrequest' hcontract).before_eq hs
    hcontract hsettled ⟨event', hevent', hstart', hend'⟩
  -- So its own window begins at the same position, and has the creation at the same place.
  have hposition : position history request' raw = position history request raw := by
    rw [position, position, hcontract, hstarts]
  have hindex : raw.eventIndex < raw'.eventIndex := by
    rw [← hposition] at hlt
    exact Nat.lt_of_add_lt_add_left hlt
  have hlimit := ((mem_fetched hs).1 hraw').1
  have hraw₂ : raw ∈ fetched history request' := by
    refine (mem_fetched hs).2 ⟨hindex.trans hlimit, event, ?_, hlate.trans hend', ?_⟩
    · rw [hposition, hcontract]
      exact hevent
    · rw [hcontract]
      exact heq
  have htaken := hearlier raw hraw₂ hindex (entry_ne_none hdecoded)
  rw [hfree] at htaken
  cases htaken

/-- **One event.**  If all events before it in its window are recorded, persisting it keeps the
invariant. -/
theorem Replayed.persist (hs : history.Sorted) (hchronological : history.Chronological)
    (horderly : Orderly history (requests ++ [request])) (hraw : raw ∈ fetched history request)
    (hdecoded : decodeEvent raw = .ok decoded)
    (hearlier : ∀ raw' ∈ fetched history request, raw'.eventIndex < raw.eventIndex →
      db.Records raw')
    (h : Replayed history (requests ++ [request]) db)
    (hpersists : Persists cfg raw decoded db db') :
    Replayed history (requests ++ [request]) db' ∧ Keeps db db' := by
  have hmem : request ∈ requests ++ [request] := by simp
  have hkeeps : Keeps db db' := by
    refine ⟨fun key hkey => hpersists.keeps_events hkey, ?_⟩
    intro id hid
    rcases hpersists.unsettles id hid with hid' | ⟨hfree, hcreated⟩
    · exact hid'
    -- A transfer that is created for the first time has not been settled yet.
    · exact absurd hid (h.not_settled hs hchronological horderly hraw hfree
        hdecoded hcreated)
  refine ⟨⟨?_, ?_⟩, hkeeps⟩
  · obtain ⟨places, hnodup, hrows⟩ := h.logged
    rcases hpersists.chainEvents with hsame | ⟨hfree, transferId, hadded⟩
    · exact ⟨places, hnodup, hsame ▸ hrows⟩
    · -- The new row has a place of its own, since its key was free.
      refine ⟨places ++ [(request.contractId, position history request raw)],
        List.nodup_append.2 ⟨hnodup, List.nodup_singleton _, ?_⟩, ?_⟩
      · rintro place hplace place' hplace' rfl
        rw [List.mem_singleton.1 hplace'] at hplace
        exact place_not_mem hs horderly hmem hraw hfree hrows hplace
      · rw [hadded]
        refine List.rel_append hrows (.cons ⟨request, hmem, raw, hraw, rfl, rfl, ?_⟩ .nil)
        rw [RawContractEvent.entry, hdecoded]
        rfl
  · intro id hid
    rcases hpersists.settles id hid with hid | ⟨-, hsettled⟩
    · obtain ⟨request', hrequest', raw', hraw', hsettles, hbefore⟩ := h.settled id hid
      exact ⟨request', hrequest', raw', hraw', hsettles, fun raw₂ hraw₂ hlt =>
        hkeeps.records (hbefore raw₂ hraw₂ hlt)⟩
    · refine ⟨request, hmem, raw, hraw, ?_, fun raw' hraw' hlt =>
        hkeeps.records (hearlier raw' hraw' hlt)⟩
      rw [RawContractEvent.settles, hdecoded]
      exact hsettled

/-! ### One tick -/

/-- The events before an event in its answer are handled before it. -/
theorem mem_done {done rest : List RawContractEvent} {raw' : RawContractEvent}
    (hsplit : fetched history request = done ++ raw :: rest)
    (hraw' : raw' ∈ fetched history request)
    (hlt : raw'.eventIndex < raw.eventIndex) : raw' ∈ done := by
  have hsorted : (fetched history request).Pairwise fun a b => a.eventIndex < b.eventIndex := by
    rw [← List.pairwise_map, eventIndices_fetched]
    exact List.pairwise_lt_range'
  rw [hsplit] at hraw' hsorted
  rcases List.mem_append.1 hraw' with hdone | hrest
  · exact hdone
  · rcases List.mem_cons.1 hrest with rfl | hrest
    · exact absurd hlt (Nat.lt_irrefl _)
    · have hle := (List.pairwise_cons.1 (List.pairwise_append.1 hsorted).2.1).1 raw' hrest
      omega

/-- What a tick that began with `base` has reached when it has handled these events. -/
structure Progress (history : History) (requests : List Request) (base : Database)
    (handled : List RawContractEvent) (db : Database) : Prop where
  replayed : Replayed history requests db
  keeps : Keeps base db
  records : ∀ raw ∈ handled, db.Records raw

/-- What a tick that began with `base` and made the requests `made` leaves, however it ends: the
windows whose ends became cursors are recorded. -/
structure Outcome (history : History) (requests : List Request) (base : Database)
    (made : List Request) (db : Database) : Prop where
  replayed : Replayed history requests db
  keeps : Keeps base db
  saved : ∀ request ∈ made, db.cursors.lookup request.contractId = some request.endLedger →
    ∀ raw ∈ fetched history request, db.Records raw

theorem Progress.step {handled : List RawContractEvent}
    (h : Progress history requests base handled db)
    (hstep : Replayed history requests db' ∧ Keeps db db') :
    Progress history requests base handled db' :=
  ⟨hstep.1, h.keeps.trans hstep.2, fun raw hraw => hstep.2.records (h.records raw hraw)⟩

theorem Progress.append {handled : List RawContractEvent} {requests' : List Request}
    (h : Progress history requests base handled db) :
    Progress history (requests ++ requests') base handled db :=
  ⟨h.replayed.append, h.keeps, h.records⟩

theorem Progress.snoc {handled : List RawContractEvent}
    (h : Progress history requests base handled db) (hraw : db.Records raw) :
    Progress history requests base (handled ++ [raw]) db := by
  refine ⟨h.replayed, h.keeps, ?_⟩
  intro raw' hraw'
  rcases List.mem_append.1 hraw' with hmem | hmem
  · exact h.records raw' hmem
  · rwa [List.mem_singleton.1 hmem]

theorem Progress.outcome {made : List Request}
    (h : Progress history requests base (made.flatMap (fetched history)) db) :
    Outcome history requests base made db :=
  ⟨h.replayed, h.keeps, fun request hrequest _ raw hraw =>
    h.records raw (List.mem_flatMap.2 ⟨request, hrequest, hraw⟩)⟩

/-- **The loop over a page.** -/
theorem handleEvents_replayed (hs : history.Sorted) (hchronological : history.Chronological)
    {made : List Request} {handled : List RawContractEvent} {cursors : Store String ℕ} :
    Triple (Holds fun rs db => rs = made ∧ db.cursors = cursors ∧
        (Orderly history (earlier ++ [request]) →
          Progress history (earlier ++ [request]) base handled db))
      ((fetched history request).foldlM (handleEvent cfg now) result)
      (fun _ => Holds fun rs db => rs = made ∧ db.cursors = cursors ∧
        (Orderly history (earlier ++ [request]) →
          Progress history (earlier ++ [request]) base (handled ++ fetched history request) db))
      (Holds fun rs db => rs = made ∧ db.cursors = cursors ∧
        (Orderly history (earlier ++ [request]) →
          Progress history (earlier ++ [request]) base handled db)) := by
  refine (Triple.foldlM (I := fun done _ => Holds fun rs db => rs = made ∧ db.cursors = cursors ∧
    (Orderly history (earlier ++ [request]) →
      Progress history (earlier ++ [request]) base (handled ++ done) db)) ?_).conseq
    (fun s hs => ⟨hs.1, hs.2.1, by simpa using hs.2.2⟩) (fun _ _ hs => hs) fun _ hs => hs
  intro done raw rest result' hsplit
  have hraw : raw ∈ fetched history request := by
    rw [hsplit]
    simp
  refine triple_of_states fun rs db hI => ?_
  obtain ⟨hmade, hcursors, hprogress⟩ := hI
  -- Whether the event is persisted or the tick ends while it is, the invariant is kept.
  have hpersist : ∀ {db' decoded}, decodeEvent raw = .ok decoded →
      Persists cfg raw decoded db db' → Orderly history (earlier ++ [request]) →
      Progress history (earlier ++ [request]) base (handled ++ done) db' := by
    intro db' decoded hdecoded hpersists horderly
    have hprogress := hprogress horderly
    refine hprogress.step (hprogress.replayed.persist hs hchronological horderly hraw hdecoded
      (fun raw' hraw' hlt => hprogress.records raw' ?_) hpersists)
    exact List.mem_append_right _ (mem_done hsplit hraw' hlt)
  refine handleEvent_triple.conseq (fun _ hs => hs) (fun result'' s hs' => ?_) fun s hs' => ?_
  · refine ⟨hs'.1.trans hmade, ?_⟩
    have hhandles := hs'.2
    generalize s.db = db' at hhandles
    cases hhandles with
    | skipped hdecoded =>
      refine ⟨hcursors, ?_⟩
      intro horderly
      rw [← List.append_assoc]
      refine (hprogress horderly).snoc fun hentry => absurd ?_ hentry
      rw [RawContractEvent.entry, hdecoded]
      rfl
    | persisted hdecoded hpersists htaken _ =>
      refine ⟨hpersists.cursors.trans hcursors, ?_⟩
      intro horderly
      rw [← List.append_assoc]
      exact (hpersist hdecoded hpersists horderly).snoc fun _ => htaken
  · obtain ⟨hrs, decoded, hdecoded, hpersists⟩ := hs'
    refine ⟨hrs.trans hmade, hpersists.cursors.trans hcursors, ?_⟩
    intro horderly
    have hprogress := hpersist hdecoded hpersists horderly
    exact ⟨hprogress.replayed, hprogress.keeps, fun raw' hraw' =>
      hprogress.records raw' (List.mem_append_left _ hraw')⟩

theorem Progress.cursors {handled : List RawContractEvent} {cursors : Store String ℕ}
    (h : Progress history requests base handled db) :
    Progress history requests base handled { db with cursors } :=
  h.step (h.replayed.congr rfl rfl)

/-- What a tick has reached after these requests, if its windows have been orderly so far. -/
def Underway (history : History) (earlier : List Request) (base : Database) (made : List Request)
    (db : Database) : Prop :=
  Orderly history (earlier ++ made) →
    Progress history (earlier ++ made) base (made.flatMap (fetched history)) db

/-- What a tick leaves, if its windows were orderly. -/
def Left (history : History) (earlier : List Request) (base : Database) (made : List Request)
    (db : Database) : Prop :=
  Orderly history (earlier ++ made) → Outcome history (earlier ++ made) base made db

theorem Underway.left {made : List Request} (h : Underway history earlier base made db) :
    Left history earlier base made db := fun horderly => (h horderly).outcome

/-- **One contract.** -/
theorem indexContract_replayed (hrpc : Serves history rpc) (hs : history.Sorted)
    (hchronological : history.Chronological) {contractId : String} :
    Triple (Holds (Underway history earlier base)) (indexContract cfg rpc now tip result contractId)
      (fun _ => Holds (Underway history earlier base)) (Holds (Left history earlier base)) := by
  refine triple_of_states fun made db hprogress => ?_
  refine indexContract_rule hrpc (M := fun _ => Underway history earlier base) hprogress.left
    (fun _ => hprogress) (fun hstart => ?_) fun _ _ _ h horderly => (h horderly).cursors
  have hrequested : Orderly history ((earlier ++ made) ++ [cfg.request db tip contractId]) →
      Progress history ((earlier ++ made) ++ [cfg.request db tip contractId]) base
        (made.flatMap (fetched history)) db := fun horderly =>
    (hprogress horderly.of_append).append
  -- Until the cursor is saved, it is not at the end of the window.
  have hcursor : db.cursors.lookup contractId ≠ some tip := by
    intro hcursor
    have hstart : cfg.nextLedger tip (db.cursors.lookup contractId) ≤ tip := hstart
    rw [hcursor] at hstart
    exact Nat.not_succ_le_self tip hstart
  have hstopped : ∀ db', db'.cursors = db.cursors →
      (Orderly history ((earlier ++ made) ++ [cfg.request db tip contractId]) →
        Progress history ((earlier ++ made) ++ [cfg.request db tip contractId]) base
          (made.flatMap (fetched history)) db') →
      Left history earlier base (made ++ [cfg.request db tip contractId]) db' := by
    intro db' hcursors h horderly
    rw [← List.append_assoc] at horderly ⊢
    have hprogress := h horderly
    refine ⟨hprogress.replayed, hprogress.keeps, ?_⟩
    intro request hrequest hsaved raw hraw
    rcases List.mem_append.1 hrequest with hrequest | hrequest
    · exact hprogress.records raw (List.mem_flatMap.2 ⟨request, hrequest, hraw⟩)
    · rw [List.mem_singleton.1 hrequest, hcursors] at hsaved
      exact absurd hsaved hcursor
  refine ⟨hstopped db rfl hrequested, (handleEvents_replayed hs hchronological).conseq
    (fun s hs => ⟨hs.1, by rw [hs.2], by rw [hs.2]; exact hrequested⟩) (fun result' s hs => ?_)
    fun s hs => ?_⟩
  · have hhandled : Underway history earlier base s.requests s.db := by
      intro horderly
      rw [hs.1, List.flatMap_append, List.flatMap_singleton]
      rw [hs.1] at horderly
      rw [← List.append_assoc] at horderly ⊢
      exact hs.2.2 horderly
    exact ⟨hhandled.left, hhandled⟩
  · rw [Holds, hs.1]
    exact hstopped s.db hs.2.1 hs.2.2

/-- **One tick.**  Whatever becomes of it, what was recorded stays recorded, and what was settled
stays settled. -/
theorem tick_replayed (hrpc : Serves history rpc) (hs : history.Sorted)
    (hchronological : history.Chronological) (h : Replayed history earlier base) :
    Triple (Holds fun made db => made = [] ∧ db = base) (tick cfg rpc now)
      (fun _ => Holds (Left history earlier base)) (Holds (Left history earlier base)) := by
  have hstart : Underway history earlier base [] base := fun _ => ⟨h.append, .refl, by simp⟩
  refine (tick_rule hstart.left (fun _ => hstart) fun _ _ _ =>
    indexContract_replayed hrpc hs hchronological).conseq (fun _ hs => hs) (fun result s hs => ?_)
    fun _ hs => hs
  obtain ⟨tip, -, hprogress⟩ := hs
  exact hprogress.left

/-! ### Runs -/

/-- The requests of a run, in their order. -/
def requestsOf (ls : List Label) : List Request := ls.flatMap Label.requests

/-- **One step.** -/
theorem Step.outcome {l : Label} (hs : history.Sorted) (hchronological : history.Chronological)
    (h : Replayed history earlier db) (hstep : (system cfg history).step db l db')
    (horderly : Orderly history (earlier ++ l.requests)) :
    Outcome history (earlier ++ l.requests) db l.requests db' := by
  cases hstep with
  | @tick rpc now calls outcome s hrpc htick =>
    have hstart : Holds (fun made db' => made = [] ∧ db' = db) ⟨db, calls, []⟩ := ⟨rfl, rfl⟩
    cases outcome with
    | ok result => exact (tick_replayed hrpc hs hchronological h).returns hstart htick horderly
    | error e => exact (tick_replayed hrpc hs hchronological h).fails hstart htick horderly
  | rewind =>
    have hcursors : ∀ cursors, Replayed history earlier { db with cursors } ∧
        Keeps db { db with cursors } := fun _ => h.congr rfl rfl
    exact ⟨(hcursors _).1.append, (hcursors _).2, fun _ hrequest => by cases hrequest⟩
  | external htransfers hevents hcursors =>
    obtain ⟨hreplayed, hkeeps⟩ := h.congr hevents htransfers
    exact ⟨hreplayed.append, hkeeps, fun _ hrequest => by cases hrequest⟩

/-- **A run.** -/
theorem Replayed.run {ls : List Label} (hs : history.Sorted)
    (hchronological : history.Chronological) (h : Replayed history earlier db)
    (hrun : (system cfg history).Run db ls db')
    (horderly : Orderly history (earlier ++ requestsOf ls)) :
    Replayed history (earlier ++ requestsOf ls) db' ∧ Keeps db db' := by
  induction hrun with
  | nil => exact ⟨h.append, .refl⟩
  | @snoc db db' ls l _ hstep ih =>
    rw [requestsOf, List.flatMap_append, List.flatMap_singleton, ← List.append_assoc] at horderly ⊢
    obtain ⟨hreplayed, hkeeps⟩ := ih horderly.of_append
    have houtcome := Step.outcome hs hchronological hreplayed hstep horderly
    exact ⟨houtcome.replayed, hkeeps.trans houtcome.keeps⟩

theorem Database.Unindexed.replayed (h : db.Unindexed) : Replayed history [] db := by
  refine ⟨⟨[], List.nodup_nil, h.chainEvents ▸ .nil⟩, ?_⟩
  intro id hid
  obtain ⟨row, hrow, -⟩ := hid
  rw [h.transfers] at hrow
  simp at hrow

/-- The row tells of the event at this position of the history of this contract, and whenever one of
the requests fetches an event under its key, it is that event. -/
structure Identifies (history : History) (requests : List Request) (row : ChainEventRow)
    (place : String × ℕ) : Prop where
  tells : ∃ event, (history place.1)[place.2]? = some event ∧
    entryOf place.1 event = some row.entry
  unmistaken : ∀ request ∈ requests, ∀ raw ∈ fetched history request, row.key = raw.key →
    place = (request.contractId, position history request raw)

theorem WrittenFor.identifies (hs : history.Sorted) (horderly : Orderly history requests)
    {row : ChainEventRow} {place : String × ℕ} (h : WrittenFor history requests row place) :
    Identifies history requests row place := by
  obtain ⟨request, hrequest, raw, hraw, rfl, hkey, hentry⟩ := h
  refine ⟨?_, ?_⟩
  · obtain ⟨event, hevent, -, -⟩ := inWindow_of_mem hs hraw
    refine ⟨event, hevent, ?_⟩
    rw [← hentry, eq_rawEvent_of_mem hs hraw hevent]
    rfl
  · intro request' hrequest' raw' hraw' hkey'
    have hkeys : raw.key = raw'.key := hkey.symm.trans hkey'
    have hcontract : request'.contractId = request.contractId := by
      rw [← (key_of_fetched hraw).1, ← (key_of_fetched hraw').1, hkeys]
    rw [hcontract, ((horderly.aligned request hrequest request' hrequest' hcontract).position_eq hs
      hraw hraw' hkeys).2]

/-- A window that fits its page is fetched as a whole. -/
theorem exists_mem_fetched_of_fits (hs : history.Sorted) {p : ℕ}
    (hfits : (window history request).length ≤ request.limit) (hp : InWindow history request p) :
    ∃ raw ∈ fetched history request, position history request raw = p := by
  refine exists_mem_fetched hs hp ?_
  obtain ⟨event, hevent, hstart, hend⟩ := hp
  obtain ⟨i, rfl⟩ := Nat.exists_eq_add_of_le ((before_le_iff hs hevent).2 hstart)
  have hi : (window history request)[i]? = some event :=
    (Log.getElem?_span (hs _)).2 ⟨hevent, Nat.lt_succ_of_le hend⟩
  have hlt := (List.getElem?_eq_some_iff.1 hi).1
  omega

/-- What is in the log stands in it under its own position. -/
theorem Replayed.mem_places (hs : history.Sorted) (horderly : Orderly history requests)
    (hrequest : request ∈ requests) (hraw : raw ∈ fetched history request)
    (htaken : db.hasChainEvent raw.key = true) {places : List (String × ℕ)}
    (hrows : List.Forall₂ (WrittenFor history requests) db.chainEvents places) :
    (request.contractId, position history request raw) ∈ places := by
  obtain ⟨row, hrow, hkey⟩ := hasChainEvent_eq_true.1 htaken
  obtain ⟨place, hplace, hwritten⟩ := exists_place hrows hrow
  rw [← (hwritten.identifies hs horderly).unmistaken request hrequest raw hraw hkey]
  exact hplace

theorem eq_fetched (hrpc : Serves history rpc) (hlimit : request.limit = pageLimit)
    {raws : List RawContractEvent} {s t : Session}
    (h : fetchEvents rpc request.contractId request.startLedger request.endLedger s =
      (.ok raws, t)) : raws = fetched history request := by
  have htriple := (fetchEvents_triple hrpc (P := fun _ _ => True) (Q := fun _ _ => True)
    fun _ _ h => h).returns trivial h
  rw [htriple.2, ← hlimit, fetched]

/-- **The identity of events**: two windows agree on the events they share exactly if no event lies
between their starts and what they share fits a page.  In a run whose windows are orderly, no event
is recorded twice or taken for another, those of a window whose end became the cursor are all
recorded, and a settled transfer stays settled. -/
theorem events_identified (hs : history.Sorted) :
    (∀ {rpc rpc' : Rpc} {request request' : Request} {raws raws' : List RawContractEvent}
      {s t s' t' : Session}, Serves history rpc → Serves history rpc' →
      request'.contractId = request.contractId →
      request.limit = pageLimit → request'.limit = pageLimit →
      fetchEvents rpc request.contractId request.startLedger request.endLedger s = (.ok raws, t) →
      fetchEvents rpc' request'.contractId request'.startLedger request'.endLedger s' =
        (.ok raws', t') →
      (StableKeys history request request' raws raws' ↔
        (shared history request request' ≠ [] → between history request request' = [] ∧
          (shared history request request').length ≤ pageLimit))) ∧
    ∀ {db₀ db₁ db₂ db₃ : Database} {ls ls' : List Label} {l : Label},
      history.Chronological → db₀.Unindexed → (system cfg history).Run db₀ ls db₁ →
      (system cfg history).step db₁ l db₂ → (system cfg history).Run db₂ ls' db₃ →
      Orderly history (requestsOf (ls ++ l :: ls')) →
      (∃ places : List (String × ℕ), places.Nodup ∧
        List.Forall₂ (Identifies history (requestsOf (ls ++ l :: ls'))) db₃.chainEvents places ∧
        ∀ request ∈ l.requests,
          db₂.cursors.lookup request.contractId = some request.endLedger →
          ∀ p event, (history request.contractId)[p]? = some event →
            request.startLedger ≤ event.ledger → event.ledger ≤ request.endLedger →
            entryOf request.contractId event ≠ none → (request.contractId, p) ∈ places) ∧
      ∀ id, db₁.Settled id → db₃.Settled id := by
  refine ⟨?_, ?_⟩
  · intro rpc rpc' request request' raws raws' s t s' t' hrpc hrpc' hcontract hlimit hlimit' hfetch
      hfetch'
    rw [eq_fetched hrpc hlimit hfetch, eq_fetched hrpc' hlimit' hfetch',
      stableKeys_iff hs hcontract (hlimit'.trans hlimit.symm), hlimit]
  · intro db₀ db₁ db₂ db₃ ls ls' l hchronological h₀ hrun hstep hrun' horderly
    have hsplit :
        requestsOf (ls ++ l :: ls') = ([] ++ requestsOf ls) ++ l.requests ++ requestsOf ls' := by
      simp [requestsOf]
    rw [hsplit] at horderly ⊢
    -- The invariant is carried through the run before the step, the step, and the run after it.
    obtain ⟨hreplayed₁, -⟩ := h₀.replayed.run hs hchronological hrun horderly.of_append.of_append
    have houtcome := Step.outcome hs hchronological hreplayed₁ hstep horderly.of_append
    obtain ⟨hreplayed₃, hkeeps⟩ := houtcome.replayed.run hs hchronological hrun' horderly
    obtain ⟨places, hnodup, hrows⟩ := hreplayed₃.logged
    refine ⟨⟨places, hnodup, hrows.imp fun _ _ hrow => hrow.identifies hs horderly, ?_⟩,
      fun id hid => hkeeps.settled id (houtcome.keeps.settled id hid)⟩
    intro request hrequest hsaved p event hevent hstart hend hentry
    have hmem : request ∈ ([] ++ requestsOf ls) ++ l.requests ++ requestsOf ls' := by
      simp [hrequest]
    -- The event was fetched, so it was recorded when the cursor was saved, and still is.
    obtain ⟨raw, hraw, rfl⟩ := exists_mem_fetched_of_fits hs (horderly.fits request hmem)
      ⟨event, hevent, hstart, hend⟩
    refine Replayed.mem_places hs horderly hmem hraw ?_ hrows
    refine hkeeps.records (houtcome.saved request hrequest hsaved raw hraw) ?_
    rw [eq_rawEvent_of_mem hs hraw hevent]
    exact hentry

namespace Sample

/-- The sender and the corridor are known. -/
def onboarded : Database :=
  { fresh with users := [⟨"user", some "sender"⟩], corridors := ["corridor"] }

theorem onboarded_unindexed : onboarded.Unindexed := ⟨rfl, rfl, rfl⟩

def claimed (ledger : ℕ) : EventResponse :=
  ⟨ledger, "tx", [.text "tr_claim", .text "agent"],
    .vec [.bigint 1, .bigint 100, .bigint 1, .bigint 99], 2000⟩

def escrowEvents : List EventResponse := [configured 5, created 10, claimed 20, configured 20]

/-- The escrow creates a transfer, which is claimed. -/
def busy : History := fun contractId => if contractId = "escrow" then escrowEvents else []

theorem busy_sorted : busy.Sorted := by
  intro contractId
  rw [busy]
  split_ifs
  · exact (by decide : escrowEvents.Pairwise fun a b => a.ledger ≤ b.ledger)
  · exact List.Pairwise.nil

theorem busy_chronological : busy.Chronological := by
  intro contractId contractId' p p' event event' id h h' hcreates hsettles
  have hescrow : ∀ {contractId p event}, (busy contractId)[p]? = some event →
      contractId = "escrow" ∧ ∃ hp : p < 4, escrowEvents.get ⟨p, hp⟩ = event := by
    intro contractId p event h
    rw [busy] at h
    split_ifs at h with hcontract
    · exact ⟨hcontract, List.getElem?_eq_some_iff.1 h⟩
    · cases h
  have hordered : ∀ i j : Fin 4, (escrowEvents.get i).creates.isSome = true →
      (escrowEvents.get i).creates = (escrowEvents.get j).settles → i < j := by decide
  obtain ⟨rfl, hp, rfl⟩ := hescrow h
  obtain ⟨rfl, hp', rfl⟩ := hescrow h'
  exact ⟨rfl,
    hordered ⟨p, hp⟩ ⟨p', hp'⟩ (congrArg Option.isSome hcreates) (hcreates.trans hsettles.symm)⟩

/-- The first tick is stopped when the creation has been projected, but not recorded. -/
def interrupted : Database := (ticked busy 10 10 onboarded).2.db

/-- The second tick completes. -/
def recovered : Database := (ticked busy 20 100 interrupted).2.db

def recovery : List Label := [tickLabel busy 10 10 onboarded, tickLabel busy 20 100 interrupted]

theorem orderly_recovery : Orderly busy (requestsOf recovery) := by
  have hfirst : (ticked busy 10 10 onboarded).2.requests = [⟨"escrow", 1, 10, 200⟩] := by
    decide +kernel
  have hsecond : (ticked busy 20 100 interrupted).2.requests = [⟨"escrow", 1, 20, 200⟩,
    ⟨"registry", 1, 20, 200⟩, ⟨"hook", 1, 20, 200⟩, ⟨"pool", 1, 20, 200⟩] := by decide +kernel
  have hrequests : requestsOf recovery = [⟨"escrow", 1, 10, 200⟩, ⟨"escrow", 1, 20, 200⟩,
      ⟨"registry", 1, 20, 200⟩, ⟨"hook", 1, 20, 200⟩, ⟨"pool", 1, 20, 200⟩] := by
    simp [requestsOf, recovery, tickLabel, Label.requests, hfirst, hsecond]
  rw [hrequests]
  exact ⟨by decide, by decide, by decide⟩

/-- The next tick begins at the same ledger, so everything is recorded once. -/
theorem events_identified_sample : (ticked busy 10 10 onboarded).1 = .error .interrupted ∧
    ∃ places : List (String × ℕ), places.Nodup ∧
      List.Forall₂ (Identifies busy (requestsOf recovery)) recovered.chainEvents places ∧
      ("escrow", 2) ∈ places := by
  obtain ⟨⟨places, hnodup, hrows, hrecorded⟩, -⟩ := (events_identified busy_sorted).2
    busy_chronological onboarded_unindexed (.single (step_ticked busy 10 10 onboarded))
    (step_ticked busy 20 100 interrupted) (.nil _) orderly_recovery
  have hmem : (⟨"escrow", 1, 20, 200⟩ : Request) ∈ (ticked busy 20 100 interrupted).2.requests := by
    decide +kernel
  have hcursor : recovered.cursors.lookup "escrow" = some 20 := by decide +kernel
  refine ⟨by decide +kernel, places, hnodup, hrows, ?_⟩
  exact hrecorded ⟨"escrow", 1, 20, 200⟩ hmem hcursor 2 (claimed 20) rfl (by decide) (by decide)
    (Option.some_ne_none _)

/-- What is known after two ticks, which made different windows of the four events. -/
def synced : Database := (ticked busy 20 100 (ticked busy 10 100 onboarded).2.db).2.db

/-- The cursor is moved back, to have the ledgers from 10 on replayed. -/
def rewound : Database := { synced with cursors := synced.cursors.insert "escrow" 9 }

def replayed : Database := (ticked busy 20 100 rewound).2.db

/-- The replay gives the claim the key of the event after it: the claim is dropped as a duplicate,
the creation and the last event are recorded again, and the claimed transfer is pending again. -/
theorem not_events_identified_sample :
    busy.Sorted ∧ busy.Chronological ∧ onboarded.Unindexed ∧
      ¬ StableKeys busy ⟨"escrow", 11, 20, 200⟩ ⟨"escrow", 10, 20, 200⟩
        (fetched busy ⟨"escrow", 11, 20, 200⟩) (fetched busy ⟨"escrow", 10, 20, 200⟩) ∧
      (∃ ls, (system environment busy).Run onboarded ls rewound) ∧
      (system environment busy).step rewound (tickLabel busy 20 100 rewound) replayed ∧
      replayed.chainEvents.map (fun row => (row.key.ledger, row.topic)) =
        [(5, "esc_cfg"), (10, "tr_create"), (20, "tr_claim"), (20, "esc_cfg"), (10, "tr_create"),
          (20, "esc_cfg")] ∧
      rewound.Settled 1 ∧ ¬ replayed.Settled 1 := by
  have hcursor : synced.cursors.lookup "escrow" = some 20 := by decide +kernel
  have hclaimed : (rewound.transfers.lookup 1).map TransferRow.status = some .claimed := by
    decide +kernel
  have hpending : (replayed.transfers.lookup 1).map TransferRow.status = some .pending := by
    decide +kernel
  refine ⟨busy_sorted, busy_chronological, onboarded_unindexed, ?_, ?_,
    step_ticked busy 20 100 rewound, by decide +kernel, ?_, ?_⟩
  · -- The claim, second in the replay, gets the key that the event after it had.
    intro hstable
    have hposition := hstable.distinct (rawEvent "escrow" (configured 20) 1)
      (List.mem_cons_of_mem _ (List.mem_cons_self ..)) (rawEvent "escrow" (claimed 20) 1)
      (List.mem_cons_of_mem _ (List.mem_cons_self ..)) rfl
    exact absurd hposition (by decide)
  · exact ⟨_, .snoc (.snoc (.single (step_ticked busy 10 100 onboarded))
      (step_ticked busy 20 100 _)) (.rewind hcursor (by decide))⟩
  · obtain ⟨row, hrow, hstatus⟩ := Option.map_eq_some_iff.1 hclaimed
    exact ⟨row, hrow, by rw [hstatus]; decide⟩
  · rintro ⟨row, hrow, hstatus⟩
    rw [hrow] at hpending
    exact hstatus (Option.some.inj hpending)

end Sample

end Indexer

end RemitBridge
