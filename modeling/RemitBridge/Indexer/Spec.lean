import RemitBridge.Indexer.Tick

/-!
# What handling an event does

For the log of events it matters whether the key of the event is taken: `persist_triple` says
that then nothing happens, and that otherwise the event is projected and recorded, or the task fails
somewhere on the way.  A projection changes the status of a transfer only as the event says
(`Projects`).
-/

namespace RemitBridge

namespace Indexer

open Job

variable {cfg : Config} {now : ℕ} {raw : RawContractEvent} {decoded : DecodedEvent}
  {db db' : Database}

/-! ### Calls -/

/-- An effect on the database; no request is made. -/
def onDatabase (F : Effect Database) : Effect Session where
  rel s s' := s'.requests = s.requests ∧ F.rel s.db s'.db
  refl _ := ⟨rfl, F.refl _⟩
  trans h₁ h₂ := ⟨h₂.1.trans h₁.1, F.trans h₁.2 h₂.2⟩

section Calls

variable {F : Effect Database} {α : Type}

theorem within_call : Within (onDatabase F) call :=
  .bind (.gets _) fun _ => .bind .throwUnless fun _ => .modify fun s => ⟨rfl, F.refl s.db⟩

theorem within_query {f : Database → α} : Within (onDatabase F) (query f) :=
  .bind within_call fun _ => .gets _

theorem within_update {f : Database → Database} (h : ∀ db, F.rel db (f db)) :
    Within (onDatabase F) (update f) :=
  .bind within_call fun _ => .modify fun s => ⟨rfl, h s.db⟩

theorem within_findTransfer {id : ℤ} : Within (onDatabase F) (findTransfer id) :=
  .bind .throwUnless fun _ => within_query

end Calls

/-! ### Projections -/

/-- The transfer that a creation event creates. -/
def createdId (decoded : DecodedEvent) : Option ℤ :=
  if decoded.kind = .transferCreated then parseInteger (decoded.payload.text "id") else none

/-- The transfer that a settlement event settles. -/
def settledId (decoded : DecodedEvent) : Option ℤ :=
  if decoded.kind ∈ [.transferClaimed, .transferRefunded, .transferCancelled] then
    parseInteger (decoded.payload.text "id")
  else none

/-- There is a transfer with this id, and it is settled. -/
def Database.Settled (db : Database) (id : ℤ) : Prop :=
  ∃ row, db.transfers.lookup id = some row ∧ row.status ≠ .pending

/-- What projecting an event may do: a transfer gets settled by a settlement event about it only,
and a settled transfer gets unsettled by a creation event about it only. -/
structure Projects (decoded : DecodedEvent) (db db' : Database) : Prop where
  chainEvents : db'.chainEvents = db.chainEvents
  cursors : db'.cursors = db.cursors
  settles : ∀ id, db'.Settled id → db.Settled id ∨ settledId decoded = some id
  unsettles : ∀ id, db.Settled id → db'.Settled id ∨ createdId decoded = some id

theorem Projects.of_transfers (hevents : db'.chainEvents = db.chainEvents)
    (hcursors : db'.cursors = db.cursors) (htransfers : db'.transfers = db.transfers) :
    Projects decoded db db' := by
  have hsettled : ∀ id, db'.Settled id ↔ db.Settled id := fun id => by
    rw [Database.Settled, htransfers, Database.Settled]
  exact ⟨hevents, hcursors, fun id h => .inl ((hsettled id).1 h), fun id h =>
    .inl ((hsettled id).2 h)⟩

def projecting (decoded : DecodedEvent) : Effect Session := onDatabase
  { rel := Projects decoded
    refl := fun _ => .of_transfers rfl rfl rfl
    trans := fun h₁ h₂ =>
      { chainEvents := h₂.chainEvents.trans h₁.chainEvents
        cursors := h₂.cursors.trans h₁.cursors
        settles := fun id h => (h₂.settles id h).elim (h₁.settles id) .inr
        unsettles := fun id h => (h₁.unsettles id h).elim (h₂.unsettles id) .inr } }

theorem settled_insert {id id' : ℤ} {row : TransferRow} {transfers : Store ℤ TransferRow}
    (h : db'.transfers = transfers.insert id row) :
    db'.Settled id' ↔ if id' = id then row.status ≠ .pending else
      ∃ row, transfers.lookup id' = some row ∧ row.status ≠ .pending := by
  rw [Database.Settled, h, Store.lookup_insert_ite]
  split_ifs with hid
  · simp
  · rfl

/-- Creating a transfer, or creating it again. -/
theorem upsertTransfer_within {id : ℤ} {create : TransferRow}
    {change : TransferRow → TransferRow} (hid : createdId decoded = some id)
    (hcreate : create.status = .pending) (hchange : ∀ row, (change row).status = .pending) :
    Within (projecting decoded) (upsertTransfer id create change) := by
  refine .bind .throwUnless fun _ => within_update fun db => ?_
  -- Whether the row is new or not, it is pending now.
  have hpending : (((db.transfers.lookup id).map change).getD create).status = .pending := by
    cases db.transfers.lookup id with
    | none => exact hcreate
    | some row => exact hchange row
  refine ⟨rfl, rfl, ?_, ?_⟩
  · intro id' h
    rw [settled_insert rfl] at h
    split_ifs at h with hsame
    · exact absurd hpending h
    · exact .inl h
  · intro id' h
    by_cases hsame : id' = id
    · exact .inr (hsame ▸ hid)
    · left
      rw [settled_insert rfl, if_neg hsame]
      exact h

/-- Changing a row, either by settling it or without touching its status. -/
theorem updateTransfer_within {id : ℤ} {change : TransferRow → TransferRow}
    (h : (settledId decoded = some id ∧ ∀ row, (change row).status ≠ .pending) ∨
      ∀ row, (change row).status = row.status) :
    Within (projecting decoded) (updateTransfer id change) := by
  refine .bind (.gets _) fun _ => .bind .throwUnless fun _ => within_update fun db => ?_
  cases hrow : db.transfers.lookup id with
  | none => exact .of_transfers rfl rfl rfl
  | some row =>
    -- Only the status of the row itself may change.
    have hinsert : ∀ id', Database.Settled { db with
        transfers := (some row).elim db.transfers fun row => db.transfers.insert id (change row) }
        id' ↔ _ := fun id' => settled_insert rfl
    refine ⟨rfl, rfl, ?_, ?_⟩
    · intro id' hsettled
      rw [hinsert] at hsettled
      split_ifs at hsettled with hsame
      · rcases h with ⟨hid, -⟩ | hstatus
        · exact .inr (hsame ▸ hid)
        · exact .inl ⟨row, hsame ▸ hrow, hstatus row ▸ hsettled⟩
      · exact .inl hsettled
    · intro id' hsettled
      left
      rw [hinsert]
      split_ifs with hsame
      · rcases h with ⟨-, hstatus⟩ | hstatus
        · exact hstatus row
        · obtain ⟨row', hrow', hne⟩ := hsettled
          obtain rfl := Option.some.inj (hrow.symm.trans (hsame ▸ hrow'))
          rwa [hstatus row]
      · exact hsettled

theorem projectTransferCreated_within (hkind : decoded.kind = .transferCreated) :
    Within (projecting decoded) (projectTransferCreated raw decoded) := by
  refine .okOr_bind fun id hid => .bind within_query fun sender =>
    .bind within_query fun known => ?_
  have hcreated : createdId decoded = some id := by rw [createdId, if_pos hkind, hid]
  cases sender with
  | none => exact .pure _
  | some sender =>
    cases known with
    | false => exact .pure _
    | true =>
      refine .okOr_bind fun expiry _ => .bind (.bind .throwUnless fun _ => .pure _) fun expiry => ?_
      exact .bind (upsertTransfer_within hcreated rfl fun _ => rfl) fun _ => .pure _

theorem within_payloadAmount {F : Effect Session} {value : Option Value} :
    Within F (payloadAmount value) := by
  unfold payloadAmount
  split
  · exact .pure _
  · exact .pure _
  · exact .throw _

theorem projectTransferSettled_within {status : TransferStatus}
    (hkind : decoded.kind ∈ [.transferClaimed, .transferRefunded, .transferCancelled])
    (hstatus : status ≠ .pending) :
    Within (projecting decoded) (projectTransferSettled raw decoded status) := by
  refine .okOr_bind fun id hid => .bind within_findTransfer fun existing => ?_
  have hsettled : settledId decoded = some id := by rw [settledId, if_pos hkind, hid]
  cases existing with
  | none => exact .pure _
  | some existing =>
    dsimp only
    split_ifs with hclaimed
    · refine .bind within_payloadAmount fun fee => .bind within_payloadAmount fun payout => ?_
      refine .bind (updateTransfer_within (.inl ⟨hsettled, fun _ => hstatus⟩)) fun _ => ?_
      cases decoded.subjects[0]?.filter fun subject => decide (subject ≠ "") with
      | none => exact .pure _
      | some claimedBy =>
        refine .bind within_query fun agent => ?_
        cases agent with
        | none => exact .pure _
        | some agent =>
          exact .bind (updateTransfer_within (.inr fun _ => rfl)) fun _ => .pure _
    · exact .bind (updateTransfer_within (.inl ⟨hsettled, fun _ => hstatus⟩)) fun _ => .pure _

theorem projectAgentStatus_within :
    Within (projecting decoded) (projectAgentStatus now decoded) := by
  unfold projectAgentStatus
  cases decoded.subjects[0]?.filter fun subject => decide (subject ≠ "") with
  | none => exact .pure _
  | some agentAddress =>
    dsimp only
    cases (secondText (decoded.payload.field "value")).bind statusNamed with
    | none => exact .pure _
    | some status =>
      exact .bind (.bind (.gets _) fun _ => .bind
        (within_update fun db => .of_transfers rfl rfl rfl) fun _ => .pure _) fun _ => .pure _

theorem projectPoolDraw_within : Within (projecting decoded) (projectPoolDraw decoded) := by
  unfold projectPoolDraw
  cases decoded.subjects[0]?.filter fun subject => decide (subject ≠ "") with
  | none => exact .pure _
  | some agentAddress =>
    cases decoded.subjects[1]?.filter fun subject => decide (subject ≠ "") with
    | none => exact .pure _
    | some regionId =>
      refine .bind within_query fun agent => ?_
      cases agent with
      | none => exact .pure _
      | some agent =>
        refine .bind within_payloadAmount fun drawnAmount => .bind ?_ fun _ => .pure _
        exact .bind (.gets _) fun _ => .bind .throwUnless fun _ =>
          within_update fun db => .of_transfers rfl rfl rfl

/-- **Projections.** -/
theorem project_within : Within (projecting decoded) (project now raw decoded) := by
  unfold project
  split
  next hkind => exact projectTransferCreated_within hkind
  next hkind => exact projectTransferSettled_within (by simp [hkind]) (by decide)
  next hkind => exact projectTransferSettled_within (by simp [hkind]) (by decide)
  next hkind => exact projectTransferSettled_within (by simp [hkind]) (by decide)
  next => exact projectAgentStatus_within
  next => exact projectPoolDraw_within
  next => exact .pure _

/-! ### Assertions -/

/-- What holds of the requests made and of the database, however many calls are left. -/
def Holds (P : List Request → Database → Prop) (s : Session) : Prop := P s.requests s.db

section Assertions

variable {P Q : List Request → Database → Prop} {α : Type}

/-- A triple may be proved for each state on its own. -/
theorem triple_of_states {x : Task α} {R : α → Session → Prop} {E : Session → Prop}
    (h : ∀ requests db, P requests db →
      Triple (Holds fun rs db' => rs = requests ∧ db' = db) x R E) : Triple (Holds P) x R E where
  returns hs hx := (h _ _ hs).returns ⟨rfl, rfl⟩ hx
  fails hs hx := (h _ _ hs).fails ⟨rfl, rfl⟩ hx

theorem call_triple : Triple (Holds P) call (fun _ => Holds P) (Holds P) :=
  .bind (.gets fun _ hs => hs) fun _ =>
    .bind (.throwUnless (fun _ hs _ => hs) fun _ hs => hs) fun _ => .modify fun _ hs => hs

theorem query_triple {f : Database → α} : Triple (Holds P) (query f)
    (fun a => Holds fun requests db => P requests db ∧ a = f db) (Holds P) :=
  .bind call_triple fun _ => .gets fun _ hs => ⟨hs, rfl⟩

theorem update_triple {f : Database → Database}
    (h : ∀ requests db, P requests db → Q requests (f db)) :
    Triple (Holds P) (update f) (fun _ => Holds Q) (Holds P) :=
  .bind call_triple fun _ => .modify fun _ hs => h _ _ hs

theorem findChainEvent_triple {key : EventKey} : Triple (Holds P) (findChainEvent key)
    (fun b => Holds fun requests db => P requests db ∧ b = db.hasChainEvent key) (Holds P) :=
  .bind (.throwUnless (fun _ hs _ => hs) fun _ hs => hs) fun _ =>
    .bind (.throwUnless (fun _ hs _ => hs) fun _ hs => hs) fun _ => query_triple

theorem findTransfer_triple {id : ℤ} :
    Triple (Holds P) (findTransfer id) (fun _ => Holds P) (Holds P) :=
  .bind (.throwUnless (fun _ hs _ => hs) fun _ hs => hs) fun _ =>
    query_triple.conseq (fun _ hs => hs) (fun _ _ hs => hs.1) fun _ hs => hs

theorem linkableTransferId_triple {id : Option ℤ} :
    Triple (Holds P) (linkableTransferId id) (fun _ => Holds P) (Holds P) := by
  cases id with
  | none => exact .pure fun _ hs => hs
  | some id => exact .bind findTransfer_triple fun _ => .pure fun _ hs => hs

theorem createChainEvent_triple {row : ChainEventRow}
    (h : ∀ requests db, P requests db → db.hasChainEvent row.key = false →
      Q requests { db with chainEvents := db.chainEvents ++ [row] }) :
    Triple (Holds P) (createChainEvent row) (fun _ => Holds Q) (Holds P) := by
  refine .bind (Q := fun taken => Holds fun requests db =>
      P requests db ∧ taken = db.hasChainEvent row.key)
    (.gets fun _ hs => ⟨hs, rfl⟩) fun taken => ?_
  refine .bind (Q := fun _ => Holds fun requests db =>
      P requests db ∧ db.hasChainEvent row.key = false)
    (.throwUnless (fun _ hs hfree => ⟨hs.1, hs.2.symm.trans hfree⟩) fun _ hs => hs.1) fun _ => ?_
  exact (update_triple fun requests db hs => h requests db hs.1 hs.2).conseq (fun _ hs => hs)
    (fun _ _ hs => hs) fun _ hs => hs.1

theorem saveCursor_triple {contractId : String} {ledger : ℕ}
    (h : ∀ requests db, P requests db →
      Q requests { db with cursors := db.cursors.insert contractId ledger }) :
    Triple (Holds P) (saveCursor contractId ledger) (fun _ => Holds Q) (Holds P) :=
  .bind (.throwUnless (fun _ hs _ => hs) fun _ hs => hs) fun _ => update_triple h

end Assertions

/-! ### Persisting -/

theorem hasChainEvent_eq_true {key : EventKey} :
    db.hasChainEvent key = true ↔ ∃ row ∈ db.chainEvents, row.key = key := by
  simp [Database.hasChainEvent]

/-- What persisting an event may do, however it ends: nothing if its key is taken; otherwise it is
projected, and then recorded as the last thing. -/
structure Persists (cfg : Config) (raw : RawContractEvent) (decoded : DecodedEvent)
    (db db' : Database) : Prop where
  cursors : db'.cursors = db.cursors
  settles : ∀ id, db'.Settled id → db.Settled id ∨
    (db.hasChainEvent raw.key = false ∧ settledId decoded = some id)
  unsettles : ∀ id, db.Settled id → db'.Settled id ∨
    (db.hasChainEvent raw.key = false ∧ createdId decoded = some id)
  chainEvents : db'.chainEvents = db.chainEvents ∨ (db.hasChainEvent raw.key = false ∧
    ∃ transferId, db'.chainEvents =
      db.chainEvents ++ [chainEventRow cfg raw decoded transferId])

theorem Persists.refl : Persists cfg raw decoded db db :=
  ⟨rfl, fun _ h => .inl h, fun _ h => .inl h, .inl rfl⟩

theorem Projects.persists (h : Projects decoded db db') (hfree : db.hasChainEvent raw.key = false) :
    Persists cfg raw decoded db db' :=
  ⟨h.cursors, fun id hid => (h.settles id hid).imp_right fun hid => ⟨hfree, hid⟩,
    fun id hid => (h.unsettles id hid).imp_right fun hid => ⟨hfree, hid⟩, .inl h.chainEvents⟩

/-- **Persisting an event.**  If it returns, the key of the event is taken. -/
theorem persist_triple {requests : List Request} :
    Triple (Holds fun rs db' => rs = requests ∧ db' = db) (persist cfg now raw decoded)
      (fun _ => Holds fun rs db' => rs = requests ∧ Persists cfg raw decoded db db' ∧
        db'.hasChainEvent raw.key = true)
      (Holds fun rs db' => rs = requests ∧ Persists cfg raw decoded db db') := by
  refine .bind (findChainEvent_triple.conseq (fun _ hs => hs) (fun _ _ hs => hs)
    fun _ hs => ⟨hs.1, hs.2 ▸ .refl⟩) fun existing => ?_
  cases existing with
  | true => exact .pure fun s hs => ⟨hs.1.1, hs.1.2 ▸ .refl, hs.2.symm⟩
  | false =>
    by_cases hfree : db.hasChainEvent raw.key = false
    · -- Wherever the rest stops before the row is written, the event has been projected at most.
      refine .bind (Q := fun _ => Holds fun rs db' => rs = requests ∧ Projects decoded db db') ?_
        fun changed => .bind (Q := fun _ => Holds fun rs db' =>
          rs = requests ∧ Projects decoded db db') ?_ fun transferId => .bind (Q := fun _ =>
          Holds fun rs db' => rs = requests ∧ Persists cfg raw decoded db db' ∧
            db'.hasChainEvent raw.key = true) ?_ fun _ => .pure fun _ hs => hs
      · refine (project_within.triple fun s s' hs hrel => ?_).conseq (fun _ hs => hs)
          (fun _ _ hs => hs) fun _ hs => ⟨hs.1, hs.2.persists hfree⟩
        obtain ⟨⟨hrequests, hdb⟩, -⟩ := hs
        exact ⟨hrel.1.trans hrequests, hdb ▸ hrel.2⟩
      · exact linkableTransferId_triple.conseq (fun _ hs => hs) (fun _ _ hs => hs)
          fun _ hs => ⟨hs.1, hs.2.persists hfree⟩
      · refine (createChainEvent_triple fun rs db' hs _ => ?_).conseq (fun _ hs => hs)
          (fun _ _ hs => hs) fun _ hs => ⟨hs.1, hs.2.persists hfree⟩
        obtain ⟨hrequests, hprojects⟩ := hs
        have hpersists : Persists cfg raw decoded db db' := hprojects.persists hfree
        refine ⟨hrequests, ⟨hpersists.cursors, hpersists.settles, hpersists.unsettles,
          .inr ⟨hfree, transferId, ?_⟩⟩, ?_⟩
        · rw [hprojects.chainEvents]
        · exact hasChainEvent_eq_true.2
            ⟨_, List.mem_append_right _ (List.mem_singleton_self _), rfl⟩
    · -- The answer was that the key is free.
      exact ⟨fun hs _ => absurd (hs.1.2 ▸ hs.2.symm) hfree,
        fun hs _ => absurd (hs.1.2 ▸ hs.2.symm) hfree⟩

/-! ### Handling -/

/-- What became of an event that was handled. -/
inductive Handles (cfg : Config) (raw : RawContractEvent) (db : Database)
    (result : IndexerTickResult) : Database → IndexerTickResult → Prop
  /-- It cannot be decoded, and was counted. -/
  | skipped {e : Undecodable} : decodeEvent raw = .error e → Handles cfg raw db result db
      { result with eventsSkipped := result.eventsSkipped + 1 }
  /-- It was persisted, so that its key is taken. -/
  | persisted {decoded : DecodedEvent} {db' : Database} {result' : IndexerTickResult} :
      decodeEvent raw = .ok decoded → Persists cfg raw decoded db db' →
      db'.hasChainEvent raw.key = true → result'.eventsSkipped = result.eventsSkipped →
      Handles cfg raw db result db' result'

/-- **Handling an event.**  If it fails, it was persisting the event. -/
theorem handleEvent_triple {result : IndexerTickResult} {requests : List Request} :
    Triple (Holds fun rs db' => rs = requests ∧ db' = db) (handleEvent cfg now result raw)
      (fun result' => Holds fun rs db' => rs = requests ∧ Handles cfg raw db result db' result')
      (Holds fun rs db' => rs = requests ∧
        ∃ decoded, decodeEvent raw = .ok decoded ∧ Persists cfg raw decoded db db') := by
  unfold handleEvent
  cases hdecoded : decodeEvent raw with
  | error e => exact .pure fun s hs => ⟨hs.1, hs.2 ▸ .skipped hdecoded⟩
  | ok decoded =>
    refine .bind (persist_triple.conseq (fun _ hs => hs) (fun _ _ hs => hs)
      fun _ hs => ⟨hs.1, decoded, rfl, hs.2⟩) fun written => .pure fun s hs => ?_
    obtain ⟨hrequests, hpersists, htaken⟩ := hs
    exact ⟨hrequests, .persisted hdecoded hpersists htaken rfl⟩

/-- Handling events makes no requests. -/
theorem handleEvents_requests {raws : List RawContractEvent} {result : IndexerTickResult}
    {requests : List Request} :
    Triple (Holds fun rs _ => rs = requests) (raws.foldlM (handleEvent cfg now) result)
      (fun _ => Holds fun rs _ => rs = requests) (Holds fun rs _ => rs = requests) := by
  refine Triple.foldlM (I := fun _ _ => Holds fun rs _ => rs = requests) fun _ _ _ _ _ => ?_
  refine triple_of_states fun rs db hs => handleEvent_triple.conseq (fun _ hs' => hs')
    (fun _ _ hs' => hs'.1.trans hs) fun _ hs' => hs'.1.trans hs

end Indexer

end RemitBridge
