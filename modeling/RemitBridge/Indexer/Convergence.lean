import RemitBridge.Escrow.Index
import RemitBridge.Indexer.Poison
import RemitBridge.Indexer.Replay

/-!
# Crashes

Persisting an event takes several writes, and the process may be stopped between any two of them.
The window of the next tick begins where this one's began, so the event is fetched again under the
same key; either it has been recorded by then, or it is projected once more, over what the earlier
projection left.  So what the tables hold is always what the first events of the escrow make of
them, where the last of these may have been projected without being recorded (`Mirrors`).  Once a
tick has reached the last ledger, they hold what all of them make (`transfers_converge`).
-/

namespace RemitBridge

namespace Indexer

open Job TransitionSystem

/-! ### What the history makes of a transfer -/

/-- The transfer that the event creates. -/
def ContractEvent.creates : ContractEvent → Option U64
  | .escrow e => e.created
  | _ => none

section History

variable (K : StrKey) (userId : Address → String)

/-- What an event makes of the row of the transfer that it is about.  A transfer is created once, so
a creation need not look at the row. -/
def Emitted.project (m : Emitted) (row : Option TransferRow) : Option TransferRow :=
  match m.event with
  | .escrow (.transferCreated _ sender amount token corridorId claimHash expiry) => some
    { senderId := userId sender
      agentId := none
      corridorId := corridorId.name
      amount := toString amount.val
      fee := "0"
      payout := "0"
      tokenAddress := K.encode token
      claimHash := toHex (.ofBytes claimHash)
      expiry := expiry.val * 1000
      status := .pending
      createdAt := m.closedAt
      settledAt := none
      claimedBy := none
      createTxHash := some m.txHash
      settleTxHash := none }
  | .escrow (.transferClaimed _ agent _ _ fee payout) => row.map fun row => { row with
      status := .claimed
      settledAt := some m.closedAt
      settleTxHash := some m.txHash
      claimedBy := some (K.encode agent)
      fee := toString fee.val
      payout := toString payout.val }
  | .escrow (.transferRefunded ..) => row.map fun row =>
    { row with status := .refunded, settledAt := some m.closedAt, settleTxHash := some m.txHash }
  | .escrow (.transferCancelled ..) => row.map fun row =>
    { row with status := .cancelled, settledAt := some m.closedAt, settleTxHash := some m.txHash }
  | _ => row

/-- What an event makes of the row of the transfer `id`. -/
def Emitted.apply (id : ℤ) (row : Option TransferRow) (m : Emitted) : Option TransferRow :=
  if (m.event.payload K).2 = some id then m.project K userId row else row

/-- The events from a ledger on. -/
def eventsFrom (ledger : ℕ) (events : List Emitted) : List Emitted :=
  events.filter fun m => decide (ledger ≤ m.ledger)

/-- The row of a transfer after these events. -/
def transferAfter (events : List Emitted) (id : ℤ) : Option TransferRow :=
  events.foldl (Emitted.apply K userId id) none

/-- The senders and the corridors of the transfers that the events create are known. -/
def Onboarded (events : List Emitted) (db : Database) : Prop :=
  ∀ m ∈ events, ∀ id sender amount token corridorId claimHash expiry,
    m.event = .escrow (.transferCreated id sender amount token corridorId claimHash expiry) →
    (∃ user, db.userAt (K.encode sender) = some user ∧ user.id = userId sender) ∧
      corridorId.name ∈ db.corridors

variable {K userId} {m : Emitted} {events : List Emitted} {db db' : Database}
  {contractId : String} {id : ℤ} {row : Option TransferRow}

theorem transferAfter_snoc : transferAfter K userId (events ++ [m]) id =
    m.apply K userId id (transferAfter K userId events id) := by
  rw [transferAfter, List.foldl_append]
  rfl

/-- A creation is about the transfer that it creates. -/
theorem about_of_creates {n : U64} (h : m.event.creates = some n) :
    (m.event.payload K).2 = some n.val := by
  rcases hevent : m.event with e | e | e | e
  · rw [hevent] at h
    cases e with
    | transferCreated =>
      cases h
      rfl
    | _ => cases h
  all_goals
    rw [hevent] at h
    cases h

/-- Only a creation makes a row. -/
theorem project_none (h : m.event.creates = none) : m.project K userId none = none := by
  rw [Emitted.project]
  rcases hevent : m.event with e | e | e | e
  · rw [hevent] at h
    cases e with
    | transferCreated => cases h
    | _ => rfl
  all_goals rfl

/-- A creation makes a row. -/
theorem isSome_project_of_creates {n : U64} (h : m.event.creates = some n) :
    (m.project K userId row).isSome := by
  rw [Emitted.project]
  rcases hevent : m.event with e | e | e | e
  · rw [hevent] at h
    cases e with
    | transferCreated => rfl
    | _ => cases h
  all_goals
    rw [hevent] at h
    cases h

theorem isSome_project (h : row.isSome) : (m.project K userId row).isSome := by
  obtain ⟨row, rfl⟩ := Option.isSome_iff_exists.1 h
  rw [Emitted.project]
  rcases m.event with e | e | e | e
  · cases e <;> rfl
  all_goals rfl

theorem transferAfter_eq_none (h : ∀ m ∈ events, ∀ n, m.event.creates = some n → n.val ≠ id) :
    transferAfter K userId events id = none := by
  induction events using List.reverseRecOn with
  | nil => rfl
  | append_singleton events m ih =>
    rw [transferAfter_snoc, ih fun m' hm' => h m' (List.mem_append_left _ hm'), Emitted.apply]
    split_ifs with habout
    · refine project_none ?_
      cases hcreates : m.event.creates with
      | none => rfl
      | some n =>
        have hid := (about_of_creates (K := K) hcreates).symm.trans habout
        exact absurd (Option.some.inj hid) (h m (by simp) n hcreates)
    · rfl

/-- There is a row for the transfers that the events create. -/
theorem isSome_transferAfter : (transferAfter K userId events id).isSome ↔
    ∃ m ∈ events, ∃ n, m.event.creates = some n ∧ n.val = id := by
  constructor
  · intro hsome
    by_contra hnone
    rw [transferAfter_eq_none fun m hm n hcreates hid => hnone ⟨m, hm, n, hcreates, hid⟩] at hsome
    cases hsome
  · induction events using List.reverseRecOn with
    | nil =>
      rintro ⟨m, hm, -⟩
      cases hm
    | append_singleton events m ih =>
      rintro ⟨m', hm', n, hcreates, rfl⟩
      rw [transferAfter_snoc, Emitted.apply]
      rcases List.mem_append.1 hm' with hm' | hm'
      · -- No event takes a row away.
        have hsome := ih ⟨m', hm', n, hcreates, rfl⟩
        split_ifs
        · exact isSome_project hsome
        · exact hsome
      · obtain rfl := List.mem_singleton.1 hm'
        rw [if_pos (about_of_creates hcreates)]
        exact isSome_project_of_creates hcreates

/-- Projecting an event makes of a row what the event makes of it, unless the event creates a
transfer that there is. -/
theorem projectRow_eq {index : ℕ} (honboarded : Onboarded K userId events db) (hm : m ∈ events)
    (hrow : m.event.creates ≠ none → row = none) :
    projectRow K (rawEvent contractId (m.response K) index) db m.event row =
      m.project K userId row := by
  rw [Emitted.project]
  rcases hevent : m.event with e | e | e | e
  · cases e with
    | transferCreated id sender amount token corridorId claimHash expiry =>
      obtain ⟨⟨user, huser, hid⟩, hcorridor⟩ := honboarded m hm _ _ _ _ _ _ _ hevent
      rw [hrow (by rw [hevent]; exact Option.some_ne_none _), projectRow, huser,
        decide_eq_true hcorridor]
      dsimp only
      rw [← hid]
      rfl
    | _ => rfl
  all_goals rfl

/-- **Projecting an event again** makes no difference. -/
theorem projectRow_project {index : ℕ} (honboarded : Onboarded K userId events db)
    (hm : m ∈ events) :
    projectRow K (rawEvent contractId (m.response K) index) db m.event (m.project K userId row) =
      m.project K userId row := by
  rw [Emitted.project]
  rcases hevent : m.event with e | e | e | e
  · cases e with
    | transferCreated id sender amount token corridorId claimHash expiry =>
      obtain ⟨⟨user, huser, hid⟩, hcorridor⟩ := honboarded m hm _ _ _ _ _ _ _ hevent
      rw [projectRow, huser, decide_eq_true hcorridor]
      rfl
    | transferClaimed | transferRefunded | transferCancelled => cases row <;> rfl
    | _ => rfl
  all_goals rfl

end History

/-! ### The tables -/

/-- The part of the log that is about a contract. -/
def Database.log (db : Database) (contractId : String) : List ChainEventRow :=
  db.chainEvents.filter fun row => decide (row.key.contractId = contractId)

theorem hasChainEvent_iff_log {db : Database} {key : EventKey} :
    db.hasChainEvent key = true ↔ ∃ row ∈ db.log key.contractId, row.key = key := by
  rw [hasChainEvent_eq_true]
  constructor
  · rintro ⟨row, hrow, rfl⟩
    exact ⟨row, List.mem_filter.2 ⟨hrow, decide_eq_true rfl⟩, rfl⟩
  · rintro ⟨row, hrow, hkey⟩
    exact ⟨row, (List.mem_filter.1 hrow).1, hkey⟩

/-- The row records the event. -/
def Tells (K : StrKey) (cfg : Config) (m : Emitted) (row : ChainEventRow) : Prop :=
  ∃ index transferId, row = chainEventRow cfg
    (rawEvent cfg.contractEscrow (m.response K) index) (m.event.decoded K) transferId

/-- **What the tables hold**: of the events of the escrow, indexed from the position `p` on, those
before the position `n` have been recorded and those before `k` projected; the next window of the
escrow begins at the ledger `start`. -/
structure Mirrors (K : StrKey) (userId : Address → String) (cfg : Config) (events : List Emitted)
    (p start n k : ℕ) (db : Database) : Prop where
  next : ∀ tip, cfg.nextLedger tip (db.cursors.lookup cfg.contractEscrow) = start
  onboarded : Onboarded K userId events db
  first : p ≤ Log.before Emitted.ledger start events
  recorded : Log.before Emitted.ledger start events ≤ n
  projected : n ≤ k ∧ k ≤ n + 1
  emitted : k ≤ events.length
  rows : ∀ id, db.row id = transferAfter K userId ((events.take k).drop p) id
  /-- An event that is fetched is recognised exactly if it has been recorded. -/
  keys : ∀ j m, Log.before Emitted.ledger start events ≤ j → events[j]? = some m →
    (db.hasChainEvent ⟨cfg.contractEscrow, m.ledger, j - Log.before Emitted.ledger start events⟩ =
      true ↔ j < n)
  logged : List.Forall₂ (Tells K cfg) ((events.take n).drop p) (db.log cfg.contractEscrow)

section Tables

variable {K : StrKey} {userId : Address → String} {cfg : Config} {events : List Emitted}
  {p start n k : ℕ} {m : Emitted} {db db' : Database}

/-- Nothing that matters to the escrow has changed. -/
structure Apart (contractId : String) (db db' : Database) : Prop where
  rows : ∀ id, db'.row id = db.row id
  log : db'.log contractId = db.log contractId
  cursor : db'.cursors.lookup contractId = db.cursors.lookup contractId

theorem Apart.trans {contractId : String} {db₁ : Database} (h : Apart contractId db db₁)
    (h' : Apart contractId db₁ db') : Apart contractId db db' :=
  ⟨fun id => (h'.rows id).trans (h.rows id), h'.log.trans h.log, h'.cursor.trans h.cursor⟩

theorem Mirrors.apart (h : Mirrors K userId cfg events p start n k db)
    (hapart : Apart cfg.contractEscrow db db') (honboarded : Onboarded K userId events db') :
    Mirrors K userId cfg events p start n k db' where
  next tip := by rw [hapart.cursor, h.next]
  onboarded := honboarded
  first := h.first
  recorded := h.recorded
  projected := h.projected
  emitted := h.emitted
  rows id := by rw [hapart.rows, h.rows]
  keys j m hj hm := by
    rw [← h.keys j m hj hm, hasChainEvent_iff_log, hasChainEvent_iff_log, hapart.log]
  logged := by
    rw [hapart.log]
    exact h.logged

theorem drop_take_succ {α : Type} {l : List α} {a : α} (hp : p ≤ n) (h : l[n]? = some a) :
    (l.take (n + 1)).drop p = (l.take n).drop p ++ [a] := by
  have hn := (List.getElem?_eq_some_iff.1 h).1
  rw [List.take_add_one, h, Option.toList_some,
    List.drop_append_of_le_length (by rw [List.length_take]; omega)]

/-- The events of the escrow create different transfers. -/
def CreatesOnce (events : List Emitted) : Prop :=
  ((events.map Emitted.event).filterMap ContractEvent.creates).Nodup

/-- Before its creation, there is no transfer. -/
theorem CreatesOnce.transferAfter_eq_none (h : CreatesOnce events) (hm : events[n]? = some m)
    {id : U64} (hcreates : m.event.creates = some id) :
    transferAfter K userId ((events.take n).drop p) id.val = none := by
  refine Indexer.transferAfter_eq_none fun m' hm' id' hcreates' hid => ?_
  obtain ⟨hn, rfl⟩ := List.getElem?_eq_some_iff.1 hm
  have hsplit : events = events.take n ++ events[n] :: events.drop (n + 1) := by
    rw [← List.drop_eq_getElem_cons hn, List.take_append_drop]
  rw [CreatesOnce, hsplit, List.map_append, List.map_cons, List.filterMap_append,
    List.filterMap_cons_some hcreates] at h
  refine (List.nodup_append.1 h).2.2 id' ?_ id (List.mem_cons_self ..) ?_
  · exact List.mem_filterMap.2 ⟨_, List.mem_map_of_mem (List.mem_of_mem_drop hm'), hcreates'⟩
  · exact MachineInt.ext hid

theorem Projected.onboarded {raw : RawContractEvent} {e : ContractEvent}
    (h : Projected K raw db e db') (honboarded : Onboarded K userId events db) :
    Onboarded K userId events db' := by
  rw [h.frame]
  exact honboarded

/-- **Projecting** the next event, for the first time or again. -/
theorem Mirrors.project {index : ℕ} (h : Mirrors K userId cfg events p start n k db)
    (honce : CreatesOnce events) (hm : events[n]? = some m)
    (hprojected : Projected K (rawEvent cfg.contractEscrow (m.response K) index) db m.event db') :
    Mirrors K userId cfg events p start n (n + 1) db' where
  next tip := by
    rw [hprojected.frame]
    exact h.next tip
  onboarded := hprojected.onboarded h.onboarded
  first := h.first
  recorded := h.recorded
  projected := ⟨n.le_succ, le_rfl⟩
  emitted := (List.getElem?_eq_some_iff.1 hm).1
  rows id := by
    have hmem := List.mem_of_getElem? hm
    have hsnoc : transferAfter K userId ((events.take (n + 1)).drop p) id =
        m.apply K userId id (transferAfter K userId ((events.take n).drop p) id) := by
      rw [drop_take_succ (h.first.trans h.recorded) hm, transferAfter_snoc]
    rw [hprojected.rows, h.rows, hsnoc]
    -- Either the event has not been projected yet, or it has been, and is projected again.
    obtain rfl | rfl : k = n ∨ k = n + 1 := by
      have hk := h.projected
      omega
    · rw [Emitted.apply]
      split_ifs with habout
      · refine projectRow_eq h.onboarded hmem fun hne => ?_
        obtain ⟨id', hcreates⟩ := Option.ne_none_iff_exists'.1 hne
        obtain rfl := Option.some.inj ((about_of_creates hcreates).symm.trans habout)
        exact honce.transferAfter_eq_none hm hcreates
      · rfl
    · rw [hsnoc, Emitted.apply]
      split_ifs with habout
      · exact projectRow_project h.onboarded hmem
      · rfl
  keys j m' hj hm' := by
    rw [Database.hasChainEvent, hprojected.chainEvents]
    exact h.keys j m' hj hm'
  logged := by
    rw [Database.log, hprojected.chainEvents]
    exact h.logged

/-- **Recording** the event that has just been projected. -/
theorem Mirrors.record (transferId : Option ℤ)
    (h : Mirrors K userId cfg events p start n (n + 1) db)
    (hm : events[n]? = some m) :
    Mirrors K userId cfg events p start (n + 1) (n + 1) { db with
      chainEvents := db.chainEvents ++ [chainEventRow cfg (rawEvent cfg.contractEscrow
        (m.response K) (n - Log.before Emitted.ledger start events)) (m.event.decoded K)
        transferId] } where
  next := h.next
  onboarded := h.onboarded
  first := h.first
  recorded := h.recorded.trans n.le_succ
  projected := ⟨le_rfl, (n + 1).le_succ⟩
  emitted := h.emitted
  rows := h.rows
  keys j m' hj hm' := by
    have hold := h.keys j m' hj hm'
    rw [hasChainEvent_eq_true] at hold ⊢
    constructor
    · rintro ⟨row, hrow, hkey⟩
      rcases List.mem_append.1 hrow with hrow | hrow
      · exact (hold.1 ⟨row, hrow, hkey⟩).trans n.lt_succ_self
      · -- Different positions have different keys.
        rw [List.mem_singleton.1 hrow] at hkey
        have hindex := congrArg EventKey.eventIndex hkey
        have hindex : n - Log.before Emitted.ledger start events =
            j - Log.before Emitted.ledger start events := hindex
        have hle := h.recorded
        omega
    · intro hj'
      rcases Nat.lt_or_eq_of_le (Nat.le_of_lt_succ hj') with hlt | rfl
      · obtain ⟨row, hrow, hkey⟩ := hold.2 hlt
        exact ⟨row, List.mem_append_left _ hrow, hkey⟩
      · obtain rfl := Option.some.inj (hm.symm.trans hm')
        exact ⟨_, List.mem_append_right _ (List.mem_singleton_self _), rfl⟩
  logged := by
    rw [drop_take_succ (h.first.trans h.recorded) hm, Database.log, List.filter_append]
    refine List.rel_append h.logged ?_
    rw [List.filter_eq_self.2]
    · exact .cons ⟨_, _, rfl⟩ .nil
    · intro row hrow
      rw [List.mem_singleton.1 hrow]
      exact decide_eq_true rfl

end Tables

/-! ### One page -/

section Page

variable {K : StrKey} {userId : Address → String} {cfg : Config} {history : History}
  {events : List Emitted} {p start lo hi now : ℕ} {m : Emitted} {db db' : Database}
  {request : Request} {requests : List Request} {result : IndexerTickResult}

/-- The tables hold what some first events of the escrow make of them, at least `lo` and at most
`hi`. -/
def Reached (K : StrKey) (userId : Address → String) (cfg : Config) (events : List Emitted)
    (p start lo hi : ℕ) (db : Database) : Prop :=
  ∃ n k, Mirrors K userId cfg events p start n k db ∧ lo ≤ n ∧ n ≤ hi

theorem Reached.mono {lo' hi' : ℕ} (h : Reached K userId cfg events p start lo hi db)
    (hlo : lo' ≤ lo) (hhi : hi ≤ hi') : Reached K userId cfg events p start lo' hi' db := by
  obtain ⟨n, k, hmirrors, hn, hn'⟩ := h
  exact ⟨n, k, hmirrors, hlo.trans hn, hn'.trans hhi⟩

/-- **One event**, at the place `i` of a page whose earlier events have been recorded. -/
theorem handleEvent_mirrors {i : ℕ} (honce : CreatesOnce events)
    (hm : events[Log.before Emitted.ledger start events + i]? = some m)
    (hlo : Log.before Emitted.ledger start events + i ≤ lo)
    (hhi : Log.before Emitted.ledger start events + i < hi) :
    Triple (Holds fun rs db => rs = requests ∧ Reached K userId cfg events p start lo hi db)
      (handleEvent cfg now result (rawEvent cfg.contractEscrow (m.response K) i))
      (fun _ => Holds fun rs db => rs = requests ∧ Reached K userId cfg events p start
        (max lo (Log.before Emitted.ledger start events + (i + 1))) hi db)
      (Holds fun rs db => rs = requests ∧ Reached K userId cfg events p start lo hi db) := by
  refine triple_of_states fun rs db hreached => ?_
  obtain ⟨hrs, n, k, hmirrors, hn, hn'⟩ := hreached
  have hkey := hmirrors.keys _ m (Nat.le_add_right _ i) hm
  rw [Nat.add_sub_cancel_left] at hkey
  have hnext : db.hasChainEvent (rawEvent cfg.contractEscrow (m.response K) i).key = false →
      n = Log.before Emitted.ledger start events + i := by
    intro hfree
    by_contra hne
    have htaken := hkey.2 (by omega)
    rw [show db.hasChainEvent ⟨cfg.contractEscrow, m.ledger, i⟩ = false from hfree] at htaken
    cases htaken
  refine (handleEvent_executes Emitted.carries).conseq (fun _ hs => hs) (fun _ s hs => ?_)
    fun s hs => ?_
  · refine ⟨hs.1.trans hrs, ?_⟩
    have hdb := hs.2
    split_ifs at hdb with htaken
    · -- The event has been recorded before.
      have hlt := hkey.1 htaken
      rw [hdb]
      exact ⟨n, k, hmirrors, by omega, hn'⟩
    -- The event is the next one: it is projected and then recorded.
    · obtain ⟨db₁, transferId, hprojected, hdb⟩ := hdb
      obtain rfl := hnext (Bool.eq_false_of_not_eq_true htaken)
      have hrecorded := (hmirrors.project honce hm hprojected).record transferId hm
      rw [Nat.add_sub_cancel_left, hprojected.chainEvents] at hrecorded
      rw [hdb]
      exact ⟨_, _, hrecorded, by omega, by omega⟩
  · refine ⟨hs.1.trans hrs, ?_⟩
    rcases hs.2 with hdb | ⟨hfree, hprojected⟩
    · rw [hdb]
      exact ⟨n, k, hmirrors, hn, hn'⟩
    -- The projection has been committed, and the recording has failed.
    · obtain rfl := hnext hfree
      exact ⟨_, _, hmirrors.project honce hm hprojected, hn, hn'⟩

theorem before_history (hhistory : history cfg.contractEscrow = events.map (Emitted.response K))
    {t : ℕ} : Log.before EventResponse.ledger t (history cfg.contractEscrow) =
      Log.before Emitted.ledger t events := by
  rw [Log.before, hhistory, List.countP_map]
  rfl

theorem sorted_events (hs : history.Sorted)
    (hhistory : history cfg.contractEscrow = events.map (Emitted.response K)) :
    Log.Sorted Emitted.ledger events := by
  have hsorted := hs cfg.contractEscrow
  rw [hhistory, Log.Sorted, List.pairwise_map] at hsorted
  exact hsorted

/-- The events of a page are those from its start on. -/
theorem exists_emitted (hs : history.Sorted)
    (hhistory : history cfg.contractEscrow = events.map (Emitted.response K))
    (hcontract : request.contractId = cfg.contractEscrow) {raw : RawContractEvent}
    {done rest : List RawContractEvent} (hsplit : fetched history request = done ++ raw :: rest) :
    ∃ m, events[Log.before Emitted.ledger request.startLedger events + done.length]? = some m ∧
      m.ledger ≤ request.endLedger ∧
      raw = rawEvent cfg.contractEscrow (m.response K) done.length := by
  have hraw : raw ∈ fetched history request := by
    rw [hsplit]
    simp
  obtain ⟨-, event, hevent, hledger, heq⟩ := (mem_fetched hs).1 hraw
  have hindex : raw.eventIndex = done.length := by
    have hindices : (fetched history request).map RawContractEvent.eventIndex =
        List.range' 0 (page history request).length := eventIndices_fetched
    rw [hsplit, List.map_append, List.map_cons] at hindices
    have hat := congrArg (fun indices => indices[done.length]?) hindices
    simp only [List.getElem?_append_right, List.length_map, le_refl, Nat.sub_self,
      List.getElem?_cons_zero] at hat
    obtain ⟨hlt, hat⟩ := List.getElem?_eq_some_iff.1 hat.symm
    rw [List.getElem_range'] at hat
    omega
  rw [position, hcontract, before_history hhistory, hindex, hhistory, List.getElem?_map] at hevent
  obtain ⟨m, hm, rfl⟩ := Option.map_eq_some_iff.1 hevent
  rw [hcontract, hindex] at heq
  exact ⟨m, hm, hledger, heq⟩

/-- **The page of the escrow.** -/
theorem handleEvents_mirrors (hs : history.Sorted)
    (hhistory : history cfg.contractEscrow = events.map (Emitted.response K))
    (honce : CreatesOnce events) (hcontract : request.contractId = cfg.contractEscrow) :
    Triple (Holds fun rs db => rs = requests ∧ Reached K userId cfg events p request.startLedger lo
        (Log.before Emitted.ledger (request.endLedger + 1) events) db)
      ((fetched history request).foldlM (handleEvent cfg now) result)
      (fun _ => Holds fun rs db => rs = requests ∧ Reached K userId cfg events p request.startLedger
        (max lo (Log.before Emitted.ledger request.startLedger events +
          (fetched history request).length))
        (Log.before Emitted.ledger (request.endLedger + 1) events) db)
      (Holds fun rs db => rs = requests ∧ Reached K userId cfg events p request.startLedger lo
        (Log.before Emitted.ledger (request.endLedger + 1) events) db) := by
  have hsorted := sorted_events hs hhistory
  refine (Triple.foldlM (I := fun done _ => Holds fun rs db => rs = requests ∧
    Reached K userId cfg events p request.startLedger
      (max lo (Log.before Emitted.ledger request.startLedger events + done.length))
      (Log.before Emitted.ledger (request.endLedger + 1) events) db) ?_).conseq
    (fun s hs => ?_) (fun _ _ hs => hs) fun _ hs => hs
  · intro done raw rest result' hsplit
    obtain ⟨m, hm, hledger, rfl⟩ := exists_emitted hs hhistory hcontract hsplit
    have hhi := (Log.lt_before_iff hsorted hm).2 (Nat.lt_succ_of_le hledger)
    refine (handleEvent_mirrors honce hm (le_max_right ..) hhi).conseq (fun _ hs => hs)
      (fun _ s hs => ⟨hs.1, hs.2.mono ?_ le_rfl⟩) fun s hs =>
      ⟨hs.1, hs.2.mono (le_max_left ..) le_rfl⟩
    rw [List.length_append, List.length_singleton]
    omega
  · obtain ⟨hrs, n, k, hmirrors, hn, hn'⟩ := hs
    have hle := hmirrors.recorded
    exact ⟨hrs, n, k, hmirrors, by simpa using ⟨hn, hle⟩, hn'⟩

/-- An event of another contract is about no transfer. -/
def Foreign (K : StrKey) (event : EventResponse) : Prop :=
  ∃ m : Emitted, event = m.response K ∧ ∀ e, m.event ≠ .escrow e

theorem payload_eq_none {e : ContractEvent} (h : ∀ e', e ≠ .escrow e') :
    (e.payload K).2 = none := by
  rcases e with e | e | e | e
  · exact absurd rfl (h e)
  all_goals cases e <;> rfl

theorem Projected.apart {raw : RawContractEvent} {e : ContractEvent} {contractId : String}
    (h : Projected K raw db e db') (habout : (e.payload K).2 = none) : Apart contractId db db' where
  rows id := by
    rw [h.rows, habout, if_neg (Option.some_ne_none id).symm]
  log := by rw [Database.log, h.chainEvents, Database.log]
  cursor := by rw [h.frame]

/-- Recording an event of another contract. -/
theorem Recorded.apart {raw : RawContractEvent} {e : ContractEvent} {contractId : String}
    (h : Recorded K cfg raw db e db') (habout : (e.payload K).2 = none)
    (hcontract : raw.contractId ≠ contractId) : Apart contractId db db' := by
  obtain ⟨db₁, transferId, hprojected, rfl⟩ := h
  refine (hprojected.apart habout).trans ⟨fun _ => rfl, ?_, rfl⟩
  rw [Database.log, List.filter_append, ← hprojected.chainEvents, Database.log,
    List.append_right_eq_self, List.filter_eq_nil_iff]
  intro row hrow hdecide
  rw [List.mem_singleton.1 hrow] at hdecide
  exact hcontract (of_decide_eq_true hdecide)

theorem Recorded.onboarded {raw : RawContractEvent} {e : ContractEvent}
    (h : Recorded K cfg raw db e db') (honboarded : Onboarded K userId events db) :
    Onboarded K userId events db' := by
  obtain ⟨db₁, transferId, hprojected, rfl⟩ := h
  exact hprojected.onboarded honboarded

theorem Reached.apart (h : Reached K userId cfg events p start lo hi db)
    (hapart : Apart cfg.contractEscrow db db')
    (honboarded : Onboarded K userId events db → Onboarded K userId events db') :
    Reached K userId cfg events p start lo hi db' := by
  obtain ⟨n, k, hmirrors, hn⟩ := h
  exact ⟨n, k, hmirrors.apart hapart (honboarded hmirrors.onboarded), hn⟩

/-- **The page of another contract.** -/
theorem handleEvents_apart (hforeign : ∀ event ∈ history request.contractId, Foreign K event)
    (hcontract : request.contractId ≠ cfg.contractEscrow) :
    Triple (Holds fun rs db => rs = requests ∧ Reached K userId cfg events p start lo hi db)
      ((fetched history request).foldlM (handleEvent cfg now) result)
      (fun _ => Holds fun rs db => rs = requests ∧ Reached K userId cfg events p start lo hi db)
      (Holds fun rs db => rs = requests ∧ Reached K userId cfg events p start lo hi db) := by
  refine Triple.foldlM (I := fun _ _ => Holds fun rs db => rs = requests ∧
    Reached K userId cfg events p start lo hi db) fun done raw rest result' hsplit => ?_
  refine triple_of_states fun rs db hs => ?_
  obtain ⟨hrs, hreached⟩ := hs
  have hraw : raw ∈ fetched history request := by
    rw [hsplit]
    simp
  have hcovers := (key_of_fetched hraw).1
  obtain ⟨⟨event, i⟩, hmem, rfl⟩ := List.mem_map.1 hraw
  have hevent : event ∈ page history request := List.fst_mem_of_mem_zipIdx hmem
  obtain ⟨m, rfl, hm⟩ := hforeign event (Log.mem_span.1 (List.mem_of_mem_take hevent)).1
  have habout := payload_eq_none (K := K) hm
  refine (handleEvent_executes Emitted.carries).conseq (fun _ hs => hs) (fun _ s hs => ?_)
    fun s hs => ?_
  · refine ⟨hs.1.trans hrs, ?_⟩
    have hdb := hs.2
    split_ifs at hdb with htaken
    · rw [hdb]
      exact hreached
    · exact hreached.apart (hdb.apart habout hcontract) hdb.onboarded
  · refine ⟨hs.1.trans hrs, ?_⟩
    rcases hs.2 with hdb | ⟨-, hprojected⟩
    · rw [hdb]
      exact hreached
    · exact hreached.apart (hprojected.apart habout) hprojected.onboarded

end Page

/-! ### One tick -/

/-- **A division of the history** of a contract into windows: each fits its page, and the tip of
the chain does not go back. -/
structure Divides (history : History) (contractId : String) (requests : List Request) : Prop where
  fits : ∀ request ∈ requests, request.contractId = contractId →
    (window history request).length ≤ request.limit
  tips : requests.Pairwise fun request request' => request.contractId = contractId →
    request'.contractId = contractId → request.endLedger ≤ request'.endLedger

section Ticks

variable {K : StrKey} {userId : Address → String} {cfg : Config} {history : History} {rpc : Rpc}
  {events : List Emitted} {p start lo hi n k now tip : ℕ} {db db' : Database} {request : Request}
  {requests earlier : List Request} {result : IndexerTickResult}

theorem Divides.of_append {contractId : String} {requests' : List Request}
    (h : Divides history contractId (requests ++ requests')) :
    Divides history contractId requests where
  fits request hrequest := h.fits request (List.mem_append_left _ hrequest)
  tips := (List.pairwise_append.1 h.tips).1

/-- No event beyond the position `hi` has been fetched, as far as these requests go. -/
def Bounds (cfg : Config) (events : List Emitted) (requests : List Request) (start hi : ℕ) : Prop :=
  hi ≤ Log.before Emitted.ledger start events ∨ ∃ request ∈ requests,
    request.contractId = cfg.contractEscrow ∧
      hi ≤ Log.before Emitted.ledger (request.endLedger + 1) events

/-- The tables hold what at least the first `lo` events of the escrow make of them, and nothing that
these requests have not fetched. -/
def Replicated (K : StrKey) (userId : Address → String) (cfg : Config) (events : List Emitted)
    (p lo : ℕ) (requests : List Request) (db : Database) : Prop :=
  ∃ start hi, Reached K userId cfg events p start lo hi db ∧ Bounds cfg events requests start hi

/-- The same, if the requests of a tick and the earlier ones divide the history of the escrow. -/
def Abreast (K : StrKey) (userId : Address → String) (cfg : Config) (history : History)
    (events : List Emitted) (p : ℕ) (earlier : List Request) (lo : ℕ) (made : List Request)
    (db : Database) : Prop :=
  Divides history cfg.contractEscrow (earlier ++ made) →
    Replicated K userId cfg events p lo (earlier ++ made) db

theorem Bounds.append {requests' : List Request} (h : Bounds cfg events requests start hi) :
    Bounds cfg events (requests ++ requests') start hi := by
  rcases h with h | ⟨request, hrequest, h⟩
  · exact .inl h
  · exact .inr ⟨request, List.mem_append_left _ hrequest, h⟩

theorem Replicated.append {requests' : List Request}
    (h : Replicated K userId cfg events p lo requests db) :
    Replicated K userId cfg events p lo (requests ++ requests') db := by
  obtain ⟨start, hi, hreached, hbounds⟩ := h
  exact ⟨start, hi, hreached, hbounds.append⟩

theorem Replicated.mono {lo' : ℕ} (h : Replicated K userId cfg events p lo requests db)
    (hlo : lo' ≤ lo) : Replicated K userId cfg events p lo' requests db := by
  obtain ⟨start, hi, hreached, hbounds⟩ := h
  exact ⟨start, hi, hreached.mono hlo le_rfl, hbounds⟩

theorem Abreast.append {made made' : List Request}
    (h : Abreast K userId cfg history events p earlier lo made db) :
    Abreast K userId cfg history events p earlier lo (made ++ made') db := by
  intro hdivides
  rw [← List.append_assoc] at hdivides ⊢
  exact (h hdivides.of_append).append

theorem Abreast.mono {lo' : ℕ} {made : List Request}
    (h : Abreast K userId cfg history events p earlier lo made db) (hlo : lo' ≤ lo) :
    Abreast K userId cfg history events p earlier lo' made db := fun hdivides =>
  (h hdivides).mono hlo

/-- What is fetched before a window of the escrow is not beyond the end of it. -/
theorem Bounds.le_before (h : Bounds cfg events requests request.startLedger hi)
    (hdivides : Divides history cfg.contractEscrow (requests ++ [request]))
    (hcontract : request.contractId = cfg.contractEscrow)
    (hstart : request.startLedger ≤ request.endLedger) :
    hi ≤ Log.before Emitted.ledger (request.endLedger + 1) events := by
  rcases h with h | ⟨request', hrequest', hcontract', h⟩
  · exact h.trans (Log.before_mono (by omega))
  · have htip := (List.pairwise_append.1 hdivides.tips).2.2 request' hrequest' request
      (List.mem_singleton_self _) hcontract' hcontract
    exact h.trans (Log.before_mono (by omega))

/-- **Saving the cursor**, when all events up to the tip have been recorded and no later one. -/
theorem Mirrors.save (hsorted : Log.Sorted Emitted.ledger events)
    (h : Mirrors K userId cfg events p start n k db) (hstart : start ≤ tip + 1)
    (hn : n = Log.before Emitted.ledger (tip + 1) events) :
    Mirrors K userId cfg events p (tip + 1) n k
      { db with cursors := db.cursors.insert cfg.contractEscrow tip } where
  next tip' := by
    rw [AList.lookup_insert]
    rfl
  onboarded := h.onboarded
  first := h.first.trans (Log.before_mono hstart)
  recorded := hn.ge
  projected := h.projected
  emitted := h.emitted
  rows := h.rows
  keys j m hj hm := by
    -- The log does not reach beyond the tip.
    have hlate := (Log.lt_before_iff (t := tip + 1) hsorted hm).not.1 (Nat.not_lt.2 hj)
    refine ⟨fun htaken => absurd ?_ hlate, fun hlt => absurd hj (by omega)⟩
    obtain ⟨row, hrow, hkey⟩ := hasChainEvent_iff_log.1 htaken
    obtain ⟨m', hm', index, transferId, rfl⟩ := exists_row h.logged hrow
    obtain ⟨i, hi⟩ := List.mem_iff_getElem?.1 (List.mem_of_mem_drop hm')
    rw [List.getElem?_take] at hi
    split_ifs at hi with hin
    have hledger : m'.ledger = m.ledger := congrArg EventKey.ledger hkey
    rw [← hledger]
    exact (Log.lt_before_iff hsorted hi).1 (hn ▸ hin)
  logged := h.logged

/-- **The turn of the escrow.**  If it ends well, the events up to the tip have been recorded. -/
theorem indexContract_escrow (hrpc : Serves history rpc) (hs : history.Sorted)
    (hhistory : history cfg.contractEscrow = events.map (Emitted.response K))
    (honce : CreatesOnce events) :
    Triple (Holds (Abreast K userId cfg history events p earlier lo))
      (indexContract cfg rpc now tip result cfg.contractEscrow)
      (fun _ => Holds (Abreast K userId cfg history events p earlier
        (max lo (Log.before Emitted.ledger (tip + 1) events))))
      (Holds (Abreast K userId cfg history events p earlier lo)) := by
  refine triple_of_states fun made db habreast => ?_
  refine indexContract_rule hrpc (M := fun _ rs db' =>
    rs = made ++ [cfg.request db tip cfg.contractEscrow] ∧
    (cfg.request db tip cfg.contractEscrow).startLedger ≤ tip ∧
    (Divides history cfg.contractEscrow (earlier ++ rs) → Reached K userId cfg events p
      (cfg.request db tip cfg.contractEscrow).startLedger
      (max lo (Log.before Emitted.ledger (tip + 1) events))
      (Log.before Emitted.ledger (tip + 1) events) db')) habreast (fun hahead hdivides => ?_)
    (fun hstart => ?_) ?_
  · -- The cursor is at the tip already.
    obtain ⟨start, hi, ⟨n, k, hmirrors, hlo, hhi⟩, hbounds⟩ := habreast hdivides
    have hnext : (cfg.request db tip cfg.contractEscrow).startLedger = start := hmirrors.next tip
    rw [hnext] at hahead
    have htip := (Log.before_mono hahead).trans hmirrors.recorded
    exact ⟨start, hi, ⟨n, k, hmirrors, max_le hlo htip, hhi⟩, hbounds⟩
  · refine ⟨habreast.append, ?_⟩
    by_cases hdivides : Divides history cfg.contractEscrow
      (earlier ++ (made ++ [cfg.request db tip cfg.contractEscrow]))
    · -- What has been recorded before is not beyond this window.
      have hreached : Reached K userId cfg events p
          (cfg.request db tip cfg.contractEscrow).startLedger lo
          (Log.before Emitted.ledger (tip + 1) events) db := by
        rw [← List.append_assoc] at hdivides
        obtain ⟨start, hi, ⟨n, k, hmirrors, hlo, hhi⟩, hbounds⟩ := habreast hdivides.of_append
        obtain rfl : (cfg.request db tip cfg.contractEscrow).startLedger = start :=
          hmirrors.next tip
        exact ⟨n, k, hmirrors, hlo, hhi.trans (hbounds.le_before hdivides rfl hstart)⟩
      -- The page holds all events of the window, as it is not truncated.
      have hlength : Log.before Emitted.ledger
          (cfg.request db tip cfg.contractEscrow).startLedger events +
            (fetched history (cfg.request db tip cfg.contractEscrow)).length =
          Log.before Emitted.ledger (tip + 1) events := by
        have hfits := hdivides.fits (cfg.request db tip cfg.contractEscrow) (by simp) rfl
        rw [fetched, rawEvents, List.length_map, List.length_zipIdx, page,
          List.take_of_length_le hfits, ← before_history hhistory, ← before_history hhistory]
        exact Log.before_add_length_span (hstart.trans tip.le_succ)
      refine (handleEvents_mirrors hs hhistory honce rfl).conseq
        (fun s hs => ⟨hs.1, by rw [hs.2]; exact hreached⟩) (fun _ s hs => ?_) fun s hs _ => ?_
      · have hend := hs.2
        rw [hlength] at hend
        refine ⟨fun _ => ?_, hs.1, hstart, fun _ => hend⟩
        exact ⟨_, _, hend.mono (le_max_left ..) le_rfl, .inr ⟨_, by rw [hs.1]; simp, rfl, le_rfl⟩⟩
      · exact ⟨_, _, hs.2, .inr ⟨_, by rw [hs.1]; simp, rfl, le_rfl⟩⟩
    -- Where the windows do not divide the history, nothing is promised.
    · refine handleEvents_requests.conseq (fun _ hs => hs.1) (fun _ s hs => ?_) fun s hs hs' => ?_
      · have hnot : ¬ Divides history cfg.contractEscrow (earlier ++ s.requests) := by
          rw [hs]
          exact hdivides
        exact ⟨fun h => absurd h hnot, hs, hstart, fun h => absurd h hnot⟩
      · rw [hs] at hs'
        exact absurd hs' hdivides
  · rintro result' rs db' ⟨-, hstart, hreached⟩ hdivides
    obtain ⟨n, k, hmirrors, hlo, hhi⟩ := hreached hdivides
    have hn := le_antisymm hhi ((le_max_right ..).trans hlo)
    exact ⟨_, _,
      ⟨n, k, hmirrors.save (sorted_events hs hhistory) (hstart.trans tip.le_succ) hn, hlo, hhi⟩,
      .inl le_rfl⟩

/-- **The turn of another contract.** -/
theorem indexContract_apart (hrpc : Serves history rpc) {contractId : String}
    (hforeign : ∀ event ∈ history contractId, Foreign K event)
    (hcontract : contractId ≠ cfg.contractEscrow) :
    Triple (Holds (Abreast K userId cfg history events p earlier lo))
      (indexContract cfg rpc now tip result contractId)
      (fun _ => Holds (Abreast K userId cfg history events p earlier lo))
      (Holds (Abreast K userId cfg history events p earlier lo)) := by
  refine triple_of_states fun made db habreast => ?_
  refine indexContract_rule hrpc (M := fun _ => Abreast K userId cfg history events p earlier lo)
    habreast (fun _ => habreast) (fun _ => ?_) ?_
  · refine ⟨habreast.append, ?_⟩
    by_cases hdivides : Divides history cfg.contractEscrow
      (earlier ++ (made ++ [cfg.request db tip contractId]))
    · obtain ⟨start, hi, hreached, hbounds⟩ := habreast.append hdivides
      have hreplicated : ∀ s : Session, s.requests = made ++ [cfg.request db tip contractId] →
          Reached K userId cfg events p start lo hi s.db →
          Abreast K userId cfg history events p earlier lo s.requests s.db := by
        intro s hrequests hreached' _
        rw [hrequests]
        exact ⟨start, hi, hreached', hbounds⟩
      refine (handleEvents_apart hforeign hcontract).conseq
        (fun s hs => ⟨hs.1, by rw [hs.2]; exact hreached⟩) (fun _ s hs => ?_)
        fun s hs => hreplicated s hs.1 hs.2
      have hafter := hreplicated s hs.1 hs.2
      exact ⟨hafter, hafter⟩
    · refine handleEvents_requests.conseq (fun _ hs => hs.1) (fun _ s hs => ?_) fun s hs hs' => ?_
      · have hnot : ¬ Divides history cfg.contractEscrow (earlier ++ s.requests) := by
          rw [hs]
          exact hdivides
        exact ⟨fun h => absurd h hnot, fun h => absurd h hnot⟩
      · rw [hs] at hs'
        exact absurd hs' hdivides
  · intro result' rs db' habreast' hdivides
    obtain ⟨start, hi, hreached, hbounds⟩ := habreast' hdivides
    refine ⟨start, hi, hreached.apart ⟨fun _ => rfl, rfl, ?_⟩ id, hbounds⟩
    rw [Store.lookup_insert_ite, if_neg hcontract.symm]

/-- **One tick.**  If it completes, the events up to the tip have been recorded. -/
theorem tick_replicated (now : ℕ) (hrpc : Serves history rpc) (hs : history.Sorted)
    (hhistory : history cfg.contractEscrow = events.map (Emitted.response K))
    (hforeign : ∀ contractId ∈ cfg.contractIds, contractId ≠ cfg.contractEscrow →
      ∀ event ∈ history contractId, Foreign K event)
    (honce : CreatesOnce events) (h : Replicated K userId cfg events p lo earlier db) :
    Triple (Holds fun made db' => made = [] ∧ db' = db) (tick cfg rpc now)
      (fun _ => Holds fun made db' => ∃ tip, rpc.latestLedger = some tip ∧
        Abreast K userId cfg history events p earlier
          (max lo (Log.before Emitted.ledger (tip + 1) events)) made db')
      (Holds (Abreast K userId cfg history events p earlier lo)) := by
  have hstart : Abreast K userId cfg history events p earlier lo [] db := fun _ => h.append
  refine (tick_turns (I := fun tip done _ => Abreast K userId cfg history events p earlier
    (if cfg.contractEscrow ∈ done then max lo (Log.before Emitted.ledger (tip + 1) events) else lo))
    hstart (fun _ => by simpa using hstart) ?_).conseq (fun _ hs => hs) (fun _ s hs => ?_)
    fun _ hs => hs
  · intro tip done contractId result hmem
    have hle : lo ≤ if cfg.contractEscrow ∈ done then
        max lo (Log.before Emitted.ledger (tip + 1) events) else lo := by
      split_ifs
      · exact le_max_left ..
      · exact le_rfl
    by_cases hcontract : contractId = cfg.contractEscrow
    · subst hcontract
      refine (indexContract_escrow hrpc hs hhistory honce).conseq (fun _ hs => hs)
        (fun _ s hs => hs.mono ?_) fun _ hs => hs.mono hle
      rw [if_pos (by simp)]
      exact max_le_max hle le_rfl
    · refine (indexContract_apart hrpc (hforeign contractId hmem hcontract) hcontract).conseq
        (fun _ hs => hs) (fun _ s hs => hs.mono ?_) fun _ hs => hs.mono hle
      have hdone : cfg.contractEscrow ∈ done ++ [contractId] ↔ cfg.contractEscrow ∈ done := by
        simp [Ne.symm hcontract]
      simp only [hdone, le_refl]
  · obtain ⟨tip, htip, habreast⟩ := hs
    refine ⟨tip, htip, habreast.mono ?_⟩
    have hescrow : cfg.contractEscrow ∈ cfg.contractIds := List.mem_cons_self ..
    rw [if_pos hescrow]

end Ticks

/-! ### Runs -/

section Runs

variable {K : StrKey} {userId : Address → String} {cfg : Config} {history : History}
  {events : List Emitted} {p lo : ℕ} {db db' : Database} {earlier : List Request}

/-- No operator interferes, and the senders and corridors stay known. -/
def Steady (K : StrKey) (userId : Address → String) (events : List Emitted) (_ : Database) :
    Label → Database → Prop
  | .tick .., _ => True
  | .rewind .., _ => False
  | .external, db' => Onboarded K userId events db'

/-- **A run**, whatever stops its ticks. -/
theorem Replicated.run {ls : List Label} (hs : history.Sorted)
    (hhistory : history cfg.contractEscrow = events.map (Emitted.response K))
    (hforeign : ∀ contractId ∈ cfg.contractIds, contractId ≠ cfg.contractEscrow →
      ∀ event ∈ history contractId, Foreign K event)
    (honce : CreatesOnce events) (h : Replicated K userId cfg events p lo earlier db)
    (hrun : ((system cfg history).restrict (Steady K userId events)).Run db ls db')
    (hdivides : Divides history cfg.contractEscrow (earlier ++ requestsOf ls)) :
    Replicated K userId cfg events p lo (earlier ++ requestsOf ls) db' := by
  induction hrun with
  | nil => exact h.append
  | @snoc db db' ls l _ hstep ih =>
    rw [requestsOf, List.flatMap_append, List.flatMap_singleton, ← List.append_assoc] at hdivides ⊢
    have hreplicated := ih hdivides.of_append
    obtain ⟨hstep, hsteady⟩ := hstep
    cases hstep with
    | @tick rpc now calls outcome s hrpc htick =>
      have hstart : Holds (fun made db' => made = [] ∧ db' = db) ⟨db, calls, []⟩ := ⟨rfl, rfl⟩
      have htriple := tick_replicated now hrpc hs hhistory hforeign honce hreplicated
      cases outcome with
      | ok result =>
        obtain ⟨tip, -, habreast⟩ := htriple.returns hstart htick
        exact (habreast hdivides).mono (le_max_left ..)
      | error e => exact htriple.fails hstart htick hdivides
    | rewind => exact hsteady.elim
    | external htransfers hevents hcursors =>
      obtain ⟨start, hi, hreached, hbounds⟩ := hreplicated
      refine ⟨start, hi, hreached.apart ⟨?_, ?_, ?_⟩ fun _ => hsteady, hbounds.append⟩
      · intro id
        rw [Database.row, htransfers, Database.row]
      · rw [Database.log, hevents, Database.log]
      · rw [hcursors]

theorem drop_take_before {t : ℕ} : (events.take (Log.before Emitted.ledger t events)).drop
    (Log.before Emitted.ledger t events) = [] :=
  List.drop_eq_nil_of_le (List.length_take_le ..)

/-- Before the first tick, the tables hold what no event makes of them. -/
theorem Mirrors.start {first : ℕ} (htransfers : db.transfers = ∅) (hlog : db.chainEvents = [])
    (hfirst : ((db.cursors.lookup cfg.contractEscrow).map (· + 1)).or cfg.startLedger = some first)
    (honboarded : Onboarded K userId events db) :
    Mirrors K userId cfg events (Log.before Emitted.ledger first events) first
      (Log.before Emitted.ledger first events) (Log.before Emitted.ledger first events) db where
  next tip := by
    cases hstored : db.cursors.lookup cfg.contractEscrow with
    | none =>
      rw [hstored] at hfirst
      have hfirst : cfg.startLedger = some first := hfirst
      rw [Config.nextLedger, hfirst, Option.getD_some]
    | some ledger =>
      rw [hstored] at hfirst
      exact Option.some.inj hfirst
  onboarded := honboarded
  first := le_rfl
  recorded := le_rfl
  projected := ⟨le_rfl, Nat.le_succ _⟩
  emitted := Log.before_le_length
  rows id := by
    rw [drop_take_before, Database.row, htransfers]
    rfl
  keys j m hj hm := by
    rw [Database.hasChainEvent, hlog]
    simpa using hj
  logged := by
    rw [drop_take_before, Database.log, hlog]
    exact .nil

/-- **Crashes do no harm.**  Let the escrow emit `events`, let its windows divide them, and let the
senders and corridors be known.  However the ticks are stopped, once one that reaches the last of
the events has completed, every transfer has the row that the events make of it, there is a row for
exactly the transfers that they create, and each of them has exactly one row in the log. -/
theorem transfers_converge {ω : Type} {H : Escrow.Host ω} {w₀ w : Escrow.World ω}
    {actions : List (Escrow.Label ω)} {db₀ db₁ db₂ db₃ : Database} {ls ls' : List Label} {rpc : Rpc}
    {first now calls tip : ℕ} {result : IndexerTickResult} {requests : List Request}
    (hs : history.Sorted) (hfresh : Escrow.Fresh H w₀)
    (hactions : (Escrow.contract H).lts.Run w₀ actions w)
    (hevents : events.map Emitted.event =
      (actions.flatMap Action.events).map ContractEvent.escrow)
    (hhistory : history cfg.contractEscrow = events.map (Emitted.response K))
    (hforeign : ∀ contractId ∈ cfg.contractIds, contractId ≠ cfg.contractEscrow →
      ∀ event ∈ history contractId, Foreign K event)
    (htransfers : db₀.transfers = ∅) (hlog : db₀.chainEvents = [])
    (hfirst : ((db₀.cursors.lookup cfg.contractEscrow).map (· + 1)).or cfg.startLedger = some first)
    (honboarded : Onboarded K userId events db₀)
    (hrun : ((system cfg history).restrict (Steady K userId events)).Run db₀ ls db₁)
    (hstep : (system cfg history).step db₁ (.tick rpc now calls (.ok result) requests) db₂)
    (htip : rpc.latestLedger = some tip) (hlast : ∀ m ∈ events, m.ledger ≤ tip)
    (hrun' : ((system cfg history).restrict (Steady K userId events)).Run db₂ ls' db₃)
    (hdivides : Divides history cfg.contractEscrow
      (requestsOf (ls ++ .tick rpc now calls (.ok result) requests :: ls'))) :
    (∀ id, db₃.row id = transferAfter K userId (eventsFrom first events) id) ∧
      (∀ id, (db₃.row id).isSome ↔
        ∃ m ∈ eventsFrom first events, ∃ n, m.event.creates = some n ∧ n.val = id) ∧
      List.Forall₂ (Tells K cfg) (eventsFrom first events) (db₃.log cfg.contractEscrow) := by
  have honce : CreatesOnce events := by
    rw [CreatesOnce, hevents, List.filterMap_map]
    exact Escrow.created_nodup hfresh hactions
  have hsplit : requestsOf (ls ++ .tick rpc now calls (.ok result) requests :: ls') =
      ([] ++ requestsOf ls ++ requests) ++ requestsOf ls' := by
    simp [requestsOf, Label.requests]
  rw [hsplit] at hdivides
  have hreplicated₀ : Replicated K userId cfg events (Log.before Emitted.ledger first events) 0 []
      db₀ := ⟨first, _, ⟨_, _, .start htransfers hlog hfirst honboarded, Nat.zero_le _, le_rfl⟩,
    .inl le_rfl⟩
  have hreplicated₁ := hreplicated₀.run hs hhistory hforeign honce hrun hdivides.of_append.of_append
  -- The tick has recorded all events.
  have hreplicated₂ : Replicated K userId cfg events (Log.before Emitted.ledger first events)
      events.length ([] ++ requestsOf ls ++ requests) db₂ := by
    generalize hl : Label.tick rpc now calls (.ok result) requests = l at hstep
    cases hstep with
    | @tick rpc now calls outcome s hrpc htick =>
      cases hl
      obtain ⟨tip', htip', habreast⟩ := (tick_replicated _ hrpc hs hhistory hforeign honce
        hreplicated₁).returns (s := ⟨db₁, calls, []⟩) ⟨rfl, rfl⟩ htick
      obtain rfl := Option.some.inj (htip.symm.trans htip')
      refine (habreast hdivides.of_append).mono ?_
      rw [Log.before_eq_length fun m hm => Nat.lt_succ_of_le (hlast m hm)]
      exact le_max_right ..
    | _ => cases hl
  obtain ⟨start, hi, ⟨n, k, hmirrors, hn, -⟩, -⟩ :=
    hreplicated₂.run hs hhistory hforeign honce hrun'
    hdivides
  have hk := hmirrors.projected
  have hlength := hmirrors.emitted
  have hfrom : ∀ n, events.length ≤ n →
      (events.take n).drop (Log.before Emitted.ledger first events) = eventsFrom first events := by
    intro n hn
    rw [List.take_of_length_le hn, Log.drop_before (sorted_events hs hhistory), eventsFrom]
  have hrows : ∀ id, db₃.row id = transferAfter K userId (eventsFrom first events) id := by
    intro id
    rw [hmirrors.rows, hfrom k (by omega)]
  refine ⟨hrows, fun id => ?_, ?_⟩
  · rw [hrows, isSome_transferAfter]
  · have hlogged := hmirrors.logged
    rw [hfrom n hn] at hlogged
    exact hlogged

end Runs

/-! ### A crash while a claim is indexed -/

namespace Sample

/-- The events that it emits, two in one ledger and one in a later ledger. -/
def emitted : List Emitted :=
  [⟨.escrow (.transferCreated 1 Escrow.Sample.alice 100 Escrow.Sample.usd ⟨"SN-ML"⟩
      Escrow.Sample.zeroDigest 1400), 10, "first", 1000⟩,
    ⟨.escrow (.transferCreated 2 Escrow.Sample.bob 250 Escrow.Sample.usd ⟨"SN-ML"⟩
      Escrow.Sample.zeroDigest 1500), 10, "second", 1000⟩,
    ⟨.escrow (.transferClaimed 1 Escrow.Sample.agent ⟨"SN-ML"⟩ 100 1 99), 20, "third", 2000⟩]

def remittances : History := fun contractId =>
  if contractId = "escrow" then emitted.map (Emitted.response strKey) else []

/-- The two senders. -/
def senderId (a : Address) : String := if a = Escrow.Sample.alice then "alice" else "bob"

def aliceRow : UserRow := ⟨"alice", some (strKey.encode Escrow.Sample.alice)⟩

def bobRow : UserRow := ⟨"bob", some (strKey.encode Escrow.Sample.bob)⟩

def enrolled : Database := { fresh with users := [aliceRow, bobRow], corridors := ["SN-ML"] }

/-- The first tick is stopped when the claim has been projected, but not recorded. -/
def crashed : Database := (ticked remittances 20 18 enrolled).2.db

/-- The second tick completes. -/
def resumed : Database := (ticked remittances 20 100 crashed).2.db

theorem remittances_sorted : remittances.Sorted := by
  intro contractId
  rw [remittances]
  split_ifs
  · rw [Log.Sorted, List.pairwise_map]
    exact (by decide : emitted.Pairwise fun a b => a.ledger ≤ b.ledger)
  · exact List.Pairwise.nil

theorem remittances_foreign {contractId : String} {event : EventResponse}
    (hne : contractId ≠ "escrow") (h : event ∈ remittances contractId) : Foreign strKey event := by
  rw [remittances, if_neg hne] at h
  cases h

theorem enrolled_onboarded : Onboarded strKey senderId emitted enrolled := by
  have hother : ¬ (some (strKey.encode Escrow.Sample.alice) =
      some (strKey.encode Escrow.Sample.bob)) := fun heq =>
    absurd (strKey.injective (Option.some.inj heq)) (by decide)
  intro m hm id sender amount token corridorId claimHash expiry hevent
  simp only [emitted, List.mem_cons, List.not_mem_nil, or_false] at hm
  rcases hm with rfl | rfl | rfl
  · cases hevent
    exact ⟨⟨_, List.find?_cons_of_pos (decide_eq_true rfl), rfl⟩, List.mem_singleton_self _⟩
  · cases hevent
    have hbob : [bobRow].find? (fun user => decide (user.stellarAddress =
        some (strKey.encode Escrow.Sample.bob))) = some bobRow :=
      List.find?_cons_of_pos (decide_eq_true rfl)
    refine ⟨⟨bobRow, ?_, rfl⟩, List.mem_singleton_self _⟩
    rw [Database.userAt, enrolled, List.find?_cons_of_neg]
    · exact hbob
    · exact fun h => hother (of_decide_eq_true h)
  · cases hevent

theorem divides_resumed : Divides remittances "escrow" (requestsOf
    [tickLabel remittances 20 18 enrolled, tickLabel remittances 20 100 crashed]) := by
  have hfirst : (ticked remittances 20 18 enrolled).2.requests = [⟨"escrow", 1, 20, 200⟩] := by
    decide +kernel
  have hsecond : (ticked remittances 20 100 crashed).2.requests = [⟨"escrow", 1, 20, 200⟩,
    ⟨"registry", 1, 20, 200⟩, ⟨"hook", 1, 20, 200⟩, ⟨"pool", 1, 20, 200⟩] := by decide +kernel
  have hrequests : requestsOf [tickLabel remittances 20 18 enrolled,
      tickLabel remittances 20 100 crashed] = [⟨"escrow", 1, 20, 200⟩, ⟨"escrow", 1, 20, 200⟩,
      ⟨"registry", 1, 20, 200⟩, ⟨"hook", 1, 20, 200⟩, ⟨"pool", 1, 20, 200⟩] := by
    simp [requestsOf, tickLabel, Label.requests, hfirst, hsecond]
  rw [hrequests]
  exact ⟨by decide, by decide⟩

end Sample

/-- The claim is projected once more, and recorded. -/
theorem transfers_converge_sample :
    (Sample.ticked Sample.remittances 20 18 Sample.enrolled).1 = .error .interrupted ∧
      Sample.resumed.row 1 =
        transferAfter Sample.strKey Sample.senderId Sample.emitted 1 ∧
      List.Forall₂ (Tells Sample.strKey Sample.environment) Sample.emitted
        (Sample.resumed.log "escrow") := by
  have hfirst := Sample.step_ticked Sample.remittances 20 18 Sample.enrolled
  have hsecond := Sample.step_ticked Sample.remittances 20 100 Sample.crashed
  have hdivides := Sample.divides_resumed
  have houtcome : (Sample.ticked Sample.remittances 20 100 Sample.crashed).1 =
      .ok ⟨1, 20, 3, 0, 1⟩ := by decide +kernel
  rw [Sample.tickLabel, houtcome] at hsecond
  rw [Sample.tickLabel, Sample.tickLabel, houtcome] at hdivides
  have hconverge :
      (∀ id, Sample.resumed.row id = transferAfter Sample.strKey Sample.senderId _ id) ∧
      _ ∧ List.Forall₂ (Tells Sample.strKey Sample.environment) _ (Sample.resumed.log "escrow") :=
    transfers_converge
    Sample.remittances_sorted Escrow.Sample.fresh_start Escrow.Sample.final_run
    (by decide +kernel) rfl
    (fun _ _ hne _ hevent => Sample.remittances_foreign hne hevent)
    rfl rfl rfl Sample.enrolled_onboarded (.single ⟨hfirst, trivial⟩) hsecond rfl (by decide)
    (.nil _) hdivides
  exact ⟨by decide +kernel, hconverge.1 1, hconverge.2.2⟩

end Indexer

end RemitBridge
