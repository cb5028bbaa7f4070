import RemitBridge.Indexer.Emission
import RemitBridge.Indexer.Spec

/-!
# What a task does

A task of the indexer is stopped when it runs out of calls, and otherwise what it does is determined
by the database.  `Runs x db r db' M` says that from the database `db` the task `x` has the result
`r` and leaves `db'`, and that when it is stopped earlier the database satisfies `M`.

## Main results

* `Runs.bind` : the rule for sequences.
* `runs_project`, `runs_persist` : what projecting and persisting an event of a contract does.
-/

namespace RemitBridge

namespace Indexer

open Job

variable {α β : Type}

/-- From `db`, the task has the result `r` and leaves `db'` if it is allowed the `n` calls that it
makes; if it is stopped at one of them, it leaves a database with `M`. -/
def Runs (x : Task α) (db : Database) (r : Except Failure α) (db' : Database)
    (M : Database → Prop) : Prop :=
  ∃ n, (∀ calls requests, x ⟨db, calls + n, requests⟩ = (r, ⟨db', calls, requests⟩)) ∧
    ∀ calls requests, calls < n → ∃ db'' calls',
      x ⟨db, calls, requests⟩ = (.error .interrupted, ⟨db'', calls', requests⟩) ∧ M db''

namespace Runs

variable {x : Task α} {f : α → Task β} {db db₁ db₂ : Database} {a : α} {r : Except Failure α}
  {M : Database → Prop}

theorem pure : Runs (pure a : Task α) db (.ok a) db M :=
  ⟨0, fun _ _ => rfl, fun _ _ h => absurd h (Nat.not_lt_zero _)⟩

theorem throw {e : Failure} : Runs (throw e : Task α) db (.error e) db M :=
  ⟨0, fun _ _ => rfl, fun _ _ h => absurd h (Nat.not_lt_zero _)⟩

/-- **Sequences.** -/
theorem bind {r : Except Failure β} (hx : Runs x db (.ok a) db₁ M)
    (hf : Runs (f a) db₁ r db₂ M) : Runs (x >>= f) db r db₂ M := by
  obtain ⟨n, henough, hstopped⟩ := hx
  obtain ⟨m, henough', hstopped'⟩ := hf
  refine ⟨n + m, ?_, ?_⟩
  · intro calls requests
    rw [Nat.add_comm n m, ← Nat.add_assoc, bind_of_ok (henough _ _), henough']
  · intro calls requests h
    by_cases hn : calls < n
    · obtain ⟨db'', calls', hstop, hM⟩ := hstopped calls requests hn
      exact ⟨db'', calls', bind_of_error hstop, hM⟩
    · -- The first part is done, and the second is stopped.
      obtain ⟨k, rfl⟩ := Nat.exists_eq_add_of_le (Nat.not_lt.1 hn)
      rw [Nat.add_comm n k, bind_of_ok (henough _ _)]
      exact hstopped' k requests (by omega)

theorem bind_error {e : Failure} (hx : Runs x db (.error e) db₁ M) :
    Runs (x >>= f) db (.error e) db₁ M := by
  obtain ⟨n, henough, hstopped⟩ := hx
  refine ⟨n, fun calls requests => bind_of_error (henough _ _), fun calls requests h => ?_⟩
  obtain ⟨db'', calls', hstop, hM⟩ := hstopped calls requests h
  exact ⟨db'', calls', bind_of_error hstop, hM⟩

theorem congr (h : Runs x db r db₁ M) (hdb : db₁ = db₂) : Runs x db r db₂ M := hdb ▸ h

theorem query {g : Database → α} (hM : M db) :
    Runs (Indexer.query g) db (.ok (g db)) db M := by
  refine ⟨1, fun _ _ => rfl, fun calls requests h => ?_⟩
  obtain rfl : calls = 0 := by omega
  exact ⟨db, 0, rfl, hM⟩

theorem update {g : Database → Database} (hM : M db) :
    Runs (Indexer.update g) db (.ok ()) (g db) M := by
  refine ⟨1, fun _ _ => rfl, fun calls requests h => ?_⟩
  obtain rfl : calls = 0 := by omega
  exact ⟨db, 0, rfl, hM⟩

theorem throwUnless {c : Prop} [Decidable c] {e : Failure} (hc : c) :
    Runs (Job.throwUnless c e : Task Unit) db (.ok ()) db M := by
  rw [Job.throwUnless, if_pos hc]
  exact pure

theorem throwUnless_error {c : Prop} [Decidable c] {e : Failure} (hc : ¬ c) :
    Runs (Job.throwUnless c e : Task Unit) db (.error e) db M := by
  rw [Job.throwUnless, if_neg hc]
  exact throw

/-- What can be read off the database without a call. -/
theorem gets {g : Session → α} (h : ∀ calls requests, g ⟨db, calls, requests⟩ = a) :
    Runs (Job.gets g : Task α) db (.ok a) db M := by
  refine ⟨0, fun calls requests => ?_, fun _ _ h => absurd h (Nat.not_lt_zero _)⟩
  rw [Job.gets, Nat.add_zero, h]

/-- What a task does, as a triple. -/
theorem triple {requests : List Request} (h : Runs x db r db₁ M) :
    Triple (Holds fun rs db' => rs = requests ∧ db' = db) x
      (fun a => Holds fun rs db' => rs = requests ∧ r = .ok a ∧ db' = db₁)
      (Holds fun rs db' => rs = requests ∧ (M db' ∨ (∃ e, r = .error e) ∧ db' = db₁)) := by
  obtain ⟨n, henough, hstopped⟩ := h
  refine ⟨?_, ?_⟩
  · rintro ⟨_, calls, _⟩ a s' ⟨rfl, rfl⟩ hx
    by_cases hn : calls < n
    · obtain ⟨db'', calls', hstop, -⟩ := hstopped calls _ hn
      cases hstop.symm.trans hx
    · obtain ⟨k, rfl⟩ := Nat.exists_eq_add_of_le (Nat.not_lt.1 hn)
      rw [Nat.add_comm] at hx
      cases (henough k _).symm.trans hx
      exact ⟨rfl, rfl, rfl⟩
  · rintro ⟨_, calls, _⟩ e s' ⟨rfl, rfl⟩ hx
    by_cases hn : calls < n
    · obtain ⟨db'', calls', hstop, hM⟩ := hstopped calls _ hn
      cases hstop.symm.trans hx
      exact ⟨rfl, .inl hM⟩
    · obtain ⟨k, rfl⟩ := Nat.exists_eq_add_of_le (Nat.not_lt.1 hn)
      rw [Nat.add_comm] at hx
      cases (henough k _).symm.trans hx
      exact ⟨rfl, .inr ⟨⟨e, rfl⟩, rfl⟩⟩

end Runs

/-! ### Statements -/

/-- The value fits a column of type `BigInt`. -/
def FitsBigInt (n : ℤ) : Prop := -9223372036854775808 ≤ n ∧ n ≤ 9223372036854775807

/-- The time, in seconds, is that of a date. -/
def IsDate (seconds : ℤ) : Prop :=
  -8640000000000000 ≤ seconds * 1000 ∧ seconds * 1000 ≤ 8640000000000000

instance {n : ℤ} : Decidable (FitsBigInt n) := inferInstanceAs (Decidable (_ ∧ _))

instance {seconds : ℤ} : Decidable (IsDate seconds) := inferInstanceAs (Decidable (_ ∧ _))

section Statements

variable {db : Database} {M : Database → Prop} {id : ℤ}

theorem runs_requireBigInt (h : FitsBigInt id) : Runs (requireBigInt id) db (.ok ()) db M := by
  rw [requireBigInt]
  exact .throwUnless h

theorem runs_requireBigInt_refused (h : ¬ FitsBigInt id) :
    Runs (requireBigInt id) db (.error .refused) db M := by
  rw [requireBigInt]
  exact .throwUnless_error h

theorem runs_findTransfer (hM : M db) (h : FitsBigInt id) :
    Runs (findTransfer id) db (.ok (db.transfers.lookup id)) db M :=
  .bind (runs_requireBigInt h) (.query hM)

theorem runs_findTransfer_refused (h : ¬ FitsBigInt id) :
    Runs (findTransfer id) db (.error .refused) db M :=
  .bind_error (runs_requireBigInt_refused h)

theorem runs_upsertTransfer {create : TransferRow} {change : TransferRow → TransferRow} (hM : M db)
    (h : FitsBigInt id) : Runs (upsertTransfer id create change) db (.ok ())
      { db with
        transfers := db.transfers.insert id (((db.transfers.lookup id).map change).getD create) }
      M :=
  .bind (runs_requireBigInt h) (.update hM)

theorem runs_upsertTransfer_refused {create : TransferRow} {change : TransferRow → TransferRow}
    (h : ¬ FitsBigInt id) : Runs (upsertTransfer id create change) db (.error .refused) db M :=
  .bind_error (runs_requireBigInt_refused h)

theorem runs_updateTransfer {row : TransferRow} {change : TransferRow → TransferRow} (hM : M db)
    (h : db.transfers.lookup id = some row) : Runs (updateTransfer id change) db (.ok ())
      { db with transfers := db.transfers.insert id (change row) } M := by
  have hknown : (db.transfers.lookup id).isSome = true := by
    rw [h]
    rfl
  refine .congr (.bind (.gets fun _ _ => rfl) (.bind (.throwUnless hknown) (.update hM))) ?_
  rw [h]
  rfl

theorem runs_findChainEvent {key : EventKey} (hM : M db) (hledger : key.ledger ≤ 2147483647)
    (hindex : key.eventIndex ≤ 2147483647) :
    Runs (findChainEvent key) db (.ok (db.hasChainEvent key)) db M :=
  .bind (.throwUnless hledger) (.bind (.throwUnless hindex) (.query hM))

theorem runs_findChainEvent_refused {key : EventKey}
    (h : ¬ (key.ledger ≤ 2147483647 ∧ key.eventIndex ≤ 2147483647)) :
    Runs (findChainEvent key) db (.error .refused) db M := by
  by_cases hledger : key.ledger ≤ 2147483647
  · exact .bind (.throwUnless hledger) (.bind_error (.throwUnless_error fun hindex =>
      h ⟨hledger, hindex⟩))
  · exact .bind_error (.throwUnless_error hledger)

theorem runs_createChainEvent {row : ChainEventRow} (hM : M db)
    (h : db.hasChainEvent row.key = false) : Runs (createChainEvent row) db (.ok ())
      { db with chainEvents := db.chainEvents ++ [row] } M :=
  .bind (.gets fun _ _ => rfl) (.bind (.throwUnless h) (.update hM))

/-- There is a row for the agent and the region, or else the region is known. -/
def Database.AcceptsExposure (db : Database) (agentId regionId : String) : Prop :=
  ((db.exposures.lookup (agentId, regionId)).isSome || decide (regionId ∈ db.regions)) = true

instance (agentId regionId : String) : Decidable (db.AcceptsExposure agentId regionId) :=
  inferInstanceAs (Decidable (_ = _))

theorem runs_upsertExposure {agentId regionId drawnAmount : String} (hM : M db)
    (h : db.AcceptsExposure agentId regionId) :
    Runs (upsertExposure agentId regionId drawnAmount) db (.ok ())
      { db with exposures := db.exposures.insert (agentId, regionId) drawnAmount } M :=
  .bind (.gets fun _ _ => rfl) (.bind (.throwUnless h) (.update hM))

theorem runs_upsertExposure_refused {agentId regionId drawnAmount : String}
    (h : ¬ db.AcceptsExposure agentId regionId) :
    Runs (upsertExposure agentId regionId drawnAmount) db (.error .refused) db M :=
  .bind (.gets fun _ _ => rfl) (.bind_error (.throwUnless_error h))

theorem runs_linkableTransferId (hM : M db) {id : Option ℤ} (h : ∀ n ∈ id, FitsBigInt n) :
    ∃ linked, Runs (linkableTransferId id) db (.ok linked) db M := by
  cases id with
  | none => exact ⟨_, .pure⟩
  | some id => exact ⟨_, .bind (runs_findTransfer hM (h id rfl)) .pure⟩

theorem runs_linkableTransferId_refused {id : ℤ} (h : ¬ FitsBigInt id) :
    Runs (linkableTransferId (some id)) db (.error .refused) db M :=
  .bind_error (runs_findTransfer_refused h)

end Statements

/-! ### Projections -/

/-- The row of a transfer, but for its link to an agent. -/
def Database.row (db : Database) (id : ℤ) : Option TransferRow :=
  (db.transfers.lookup id).map fun row => { row with agentId := none }

/-- The columns that a claim writes, but for the link to the agent. -/
def claimRow (raw : RawContractEvent) (claimedBy fee payout : String) (row : TransferRow) :
    TransferRow :=
  { settleRow raw .claimed row with claimedBy := some claimedBy, fee, payout }

section Projections

variable (K : StrKey) (raw : RawContractEvent) (db : Database)

/-- What projecting an event makes of the row of the transfer that it is about. -/
def projectRow (e : ContractEvent) (row : Option TransferRow) : Option TransferRow :=
  match e with
  | .escrow (.transferCreated _ sender amount token corridorId claimHash expiry) =>
    match db.userAt (K.encode sender), decide (corridorId.name ∈ db.corridors) with
    | some sender, true => some ((row.map fun row =>
        { row with status := .pending, createTxHash := some raw.txHash }).getD
      { senderId := sender.id
        agentId := none
        corridorId := corridorId.name
        amount := toString amount.val
        fee := "0"
        payout := "0"
        tokenAddress := K.encode token
        claimHash := toHex (.ofBytes claimHash)
        expiry := expiry.val * 1000
        status := .pending
        createdAt := raw.closedAt
        settledAt := none
        claimedBy := none
        createTxHash := some raw.txHash
        settleTxHash := none })
    | _, _ => row
  | .escrow (.transferClaimed _ agent _ _ fee payout) =>
    row.map (claimRow raw (K.encode agent) (toString fee.val) (toString payout.val))
  | .escrow (.transferRefunded ..) => row.map (settleRow raw .refunded)
  | .escrow (.transferCancelled ..) => row.map (settleRow raw .cancelled)
  | _ => row

/-- What projecting an event makes of the exposures. -/
def projectExposures (e : ContractEvent) : Store (String × String) String :=
  match e with
  | .pool (.liquidityDrawn agent regionId _ exposure _) =>
    match db.agentAt (K.encode agent), decide (regionId.name ≠ "") with
    | some agent, true => db.exposures.insert (agent.id, regionId.name) (toString exposure.val)
    | _, _ => db.exposures
  | _ => db.exposures

/-- The event has been projected, but maybe the agent that claimed the transfer is not linked. -/
structure Projected (e : ContractEvent) (db' : Database) : Prop where
  frame : db' = { db with transfers := db'.transfers, exposures := db'.exposures }
  rows : ∀ id, db'.row id = if (e.payload K).2 = some id then projectRow K raw db e (db.row id)
    else db.row id
  exposures : db'.exposures = projectExposures K db e

/-- The database accepts what projecting and recording the event writes. -/
def ContractEvent.Accepted : ContractEvent → Prop
  | .escrow (.transferCreated id sender _ _ corridorId _ expiry) => FitsBigInt id.val ∧
    ((db.userAt (K.encode sender)).isSome = true → corridorId.name ∈ db.corridors →
      IsDate expiry.val)
  | .escrow (.transferClaimed id ..) | .escrow (.transferRefunded id ..)
  | .escrow (.transferCancelled id ..) => FitsBigInt id.val
  | .pool (.liquidityDrawn agent regionId _ _ _) => ∀ row, db.agentAt (K.encode agent) = some row →
    regionId.name ≠ "" → db.AcceptsExposure row.id regionId.name
  | _ => True

variable {K raw db} {M : Database → Prop} {e : ContractEvent} {now : ℕ}

theorem Projected.refl (hrow : ∀ id, (e.payload K).2 = some id →
    projectRow K raw db e (db.row id) = db.row id)
    (hexposures : projectExposures K db e = db.exposures) : Projected K raw db e db := by
  refine ⟨rfl, fun id => ?_, hexposures.symm⟩
  split_ifs with hid
  · exact (hrow id hid).symm
  · rfl

theorem row_insert {transfers : Store ℤ TransferRow} {id id' : ℤ} {row : TransferRow} :
    Database.row { db with transfers := transfers.insert id row } id' =
      if id = id' then some { row with agentId := none } else
        (transfers.lookup id').map fun row => { row with agentId := none } := by
  rw [Database.row, Store.lookup_insert_ite]
  by_cases h : id = id'
  · rw [if_pos h, if_pos h.symm]
    rfl
  · rw [if_neg h, if_neg (Ne.symm h)]

theorem runs_payloadBigInt {payload : Payload} {name : String} {n : ℤ}
    (h : payload.text name = toString n) : Runs (payloadBigInt payload name) db (.ok n) db M := by
  rw [payloadBigInt, h, parseInteger_toString]
  exact .pure

theorem runs_dateOfSeconds {seconds : ℤ} (h : IsDate seconds) :
    Runs (dateOfSeconds seconds) db (.ok (seconds * 1000)) db M := by
  rw [dateOfSeconds]
  exact .bind (.throwUnless h) .pure

theorem runs_dateOfSeconds_refused {seconds : ℤ} (h : ¬ IsDate seconds) :
    Runs (dateOfSeconds seconds) db (.error .refused) db M :=
  .bind_error (.throwUnless_error h)

theorem filter_nonempty {s : String} (h : s ≠ "") :
    ((some s).filter fun subject => decide (subject ≠ "")) = some s := by
  simp [h]

section Created

variable {decoded : DecodedEvent} {id expiry : ℤ} {sender : UserRow}

theorem runs_projectTransferCreated_unknown (hM : M db)
    (hid : decoded.payload.text "id" = toString id)
    (h : (db.userAt (decoded.subjects[0]?.getD "")).isSome = true →
      decoded.subjects[1]?.getD "" ∉ db.corridors) :
    Runs (projectTransferCreated raw decoded) db (.ok false) db M := by
  refine .bind (runs_payloadBigInt hid) (.bind (.query hM) (.bind (.query hM) ?_))
  cases hsender : db.userAt (decoded.subjects[0]?.getD "") with
  | none => exact .pure
  | some sender =>
    rw [hsender] at h
    rw [decide_eq_false (h rfl)]
    exact .pure

/-- The user and the corridor are known. -/
theorem runs_projectTransferCreated (hM : M db) (hid : decoded.payload.text "id" = toString id)
    (hsender : db.userAt (decoded.subjects[0]?.getD "") = some sender)
    (hcorridor : decoded.subjects[1]?.getD "" ∈ db.corridors)
    (hexpiry : decoded.payload.text "expiry" = toString expiry) (hfits : FitsBigInt id)
    (hdate : IsDate expiry) :
    Runs (projectTransferCreated raw decoded) db (.ok true)
      { db with transfers := db.transfers.insert id (((db.transfers.lookup id).map fun row =>
          { row with status := .pending, createTxHash := some raw.txHash }).getD
        { senderId := sender.id
          agentId := none
          corridorId := decoded.subjects[1]?.getD ""
          amount := decoded.payload.text "amount"
          fee := "0"
          payout := "0"
          tokenAddress := decoded.payload.text "token"
          claimHash := decoded.payload.text "claimHash"
          expiry := expiry * 1000
          status := .pending
          createdAt := raw.closedAt
          settledAt := none
          claimedBy := none
          createTxHash := some raw.txHash
          settleTxHash := none }) } M := by
  refine .bind (runs_payloadBigInt hid) (.bind (.query hM) (.bind (.query hM) ?_))
  rw [hsender, decide_eq_true hcorridor]
  exact .bind (runs_payloadBigInt hexpiry) (.bind (runs_dateOfSeconds hdate)
    (.bind (runs_upsertTransfer hM hfits) .pure))

theorem runs_projectTransferCreated_refused (hM : M db)
    (hid : decoded.payload.text "id" = toString id)
    (hsender : db.userAt (decoded.subjects[0]?.getD "") = some sender)
    (hcorridor : decoded.subjects[1]?.getD "" ∈ db.corridors)
    (hexpiry : decoded.payload.text "expiry" = toString expiry)
    (h : ¬ (FitsBigInt id ∧ IsDate expiry)) :
    Runs (projectTransferCreated raw decoded) db (.error .refused) db M := by
  refine .bind (runs_payloadBigInt hid) (.bind (.query hM) (.bind (.query hM) ?_))
  rw [hsender, decide_eq_true hcorridor]
  refine .bind (runs_payloadBigInt hexpiry) ?_
  by_cases hdate : IsDate expiry
  · exact .bind (runs_dateOfSeconds hdate)
      (.bind_error (runs_upsertTransfer_refused fun hfits => h ⟨hfits, hdate⟩))
  · exact .bind_error (runs_dateOfSeconds_refused hdate)

end Created

section Settled

variable {decoded : DecodedEvent} {id : ℤ} {status : TransferStatus}

theorem runs_projectTransferSettled_refused (hid : decoded.payload.text "id" = toString id)
    (hfits : ¬ FitsBigInt id) :
    Runs (projectTransferSettled raw decoded status) db (.error .refused) db M :=
  .bind (runs_payloadBigInt hid) (.bind_error (runs_findTransfer_refused hfits))

theorem runs_projectTransferSettled_unknown (hM : M db)
    (hid : decoded.payload.text "id" = toString id) (hfits : FitsBigInt id)
    (hrow : db.transfers.lookup id = none) :
    Runs (projectTransferSettled raw decoded status) db (.ok false) db M := by
  refine .bind (runs_payloadBigInt hid) (.bind (runs_findTransfer hM hfits) ?_)
  rw [hrow]
  exact .pure

/-- A refund or a cancellation. -/
theorem runs_projectTransferSettled (hM : M db) (hid : decoded.payload.text "id" = toString id)
    (hfits : FitsBigInt id) {row : TransferRow} (hrow : db.transfers.lookup id = some row)
    (hstatus : status ≠ .claimed) :
    Runs (projectTransferSettled raw decoded status) db (.ok true)
      { db with transfers := db.transfers.insert id (settleRow raw status row) } M := by
  refine .bind (runs_payloadBigInt hid) (.bind (runs_findTransfer hM hfits) ?_)
  rw [hrow]
  dsimp only
  rw [if_neg hstatus]
  exact .bind (runs_updateTransfer hM hrow) .pure

/-- A claim: the row is settled first, and then linked to the agent if there is one. -/
theorem runs_projectTransferClaimed (claimedBy : String) {fee payout : String} {row : TransferRow}
    (hid : decoded.payload.text "id" = toString id) (hfits : FitsBigInt id)
    (hrow : db.transfers.lookup id = some row)
    (hsubject : decoded.subjects[0]? = some claimedBy) (hclaimedBy : claimedBy ≠ "")
    (hfee : decoded.payload.field "fee" = some (.text fee))
    (hpayout : decoded.payload.field "payout" = some (.text payout)) (hM : M db)
    (hM' : M { db with
      transfers := db.transfers.insert id (claimRow raw claimedBy fee payout row) }) :
    Runs (projectTransferSettled raw decoded .claimed) db (.ok true)
      { db with
        transfers := (db.agentAt claimedBy).elim
          (db.transfers.insert id (claimRow raw claimedBy fee payout row)) fun agent =>
            (db.transfers.insert id (claimRow raw claimedBy fee payout row)).insert id
              { claimRow raw claimedBy fee payout row with agentId := some agent.id } } M := by
  refine .bind (runs_payloadBigInt hid) (.bind (runs_findTransfer hM hfits) ?_)
  rw [hrow]
  dsimp only
  rw [if_pos rfl, hsubject, filter_nonempty hclaimedBy, hfee, hpayout]
  refine .bind .pure (.bind .pure (.bind (runs_updateTransfer hM hrow) ?_))
  refine .bind (a := db.agentAt claimedBy) (.query hM') ?_
  cases db.agentAt claimedBy with
  | none => exact .pure
  | some agent => exact .bind (runs_updateTransfer hM' (AList.lookup_insert _)) .pure

end Settled

section Drawn

variable {decoded : DecodedEvent} {agentAddress regionId exposure : String}

theorem runs_projectPoolDraw_ignored (hM : M db)
    (hagent : decoded.subjects[0]? = some agentAddress) (hne : agentAddress ≠ "")
    (hregion : decoded.subjects[1]? = some regionId)
    (h : db.agentAt agentAddress = none ∨ regionId = "") :
    Runs (projectPoolDraw decoded) db (.ok false) db M := by
  rw [projectPoolDraw, hagent, hregion, filter_nonempty hne]
  by_cases hempty : regionId = ""
  · subst hempty
    exact .pure
  · rw [filter_nonempty hempty]
    refine .bind (.query hM) ?_
    rw [h.resolve_right hempty]
    exact .pure

theorem runs_projectPoolDraw (hM : M db) (hagent : decoded.subjects[0]? = some agentAddress)
    (hne : agentAddress ≠ "") (hregion : decoded.subjects[1]? = some regionId)
    (hne' : regionId ≠ "") (hexposure : decoded.payload.field "exposure" = some (.text exposure))
    {agent : AgentRow} (hrow : db.agentAt agentAddress = some agent)
    (h : db.AcceptsExposure agent.id regionId) :
    Runs (projectPoolDraw decoded) db (.ok true)
      { db with exposures := db.exposures.insert (agent.id, regionId) exposure } M := by
  rw [projectPoolDraw, hagent, hregion, filter_nonempty hne, filter_nonempty hne']
  refine .bind (.query hM) ?_
  rw [hrow, hexposure]
  exact .bind .pure (.bind (runs_upsertExposure hM h) .pure)

theorem runs_projectPoolDraw_refused (hM : M db)
    (hagent : decoded.subjects[0]? = some agentAddress) (hne : agentAddress ≠ "")
    (hregion : decoded.subjects[1]? = some regionId) (hne' : regionId ≠ "")
    (hexposure : decoded.payload.field "exposure" = some (.text exposure)) {agent : AgentRow}
    (hrow : db.agentAt agentAddress = some agent) (h : ¬ db.AcceptsExposure agent.id regionId) :
    Runs (projectPoolDraw decoded) db (.error .refused) db M := by
  rw [projectPoolDraw, hagent, hregion, filter_nonempty hne, filter_nonempty hne']
  refine .bind (.query hM) ?_
  rw [hrow, hexposure]
  exact .bind .pure (.bind_error (runs_upsertExposure_refused h))

end Drawn

/-- A status travels as an array, and no array is the name of a status. -/
theorem projectAgentStatus_published {agent : Address} {regionId reason : Symbol}
    {source dest : AgentStatus} :
    projectAgentStatus now (ContractEvent.decoded K
      (.registry (.agentStatusChanged agent regionId source dest reason))) = pure false := by
  rw [projectAgentStatus, show (ContractEvent.decoded K (.registry
    (.agentStatusChanged agent regionId source dest reason))).subjects[0]? =
      some (K.encode agent) from rfl, filter_nonempty (K.ne_empty agent)]
  cases source <;> cases dest <;> rfl

/-- What a stop while the event is projected leaves. -/
def Interim (K : StrKey) (raw : RawContractEvent) (db : Database) (e : ContractEvent)
    (db' : Database) : Prop := db' = db ∨ Projected K raw db e db'

/-- An event that is not projected. -/
theorem runs_project_ignored (hproject : project now raw (e.decoded K) = pure false)
    (hrow : ∀ row, projectRow K raw db e row = row)
    (hexposures : projectExposures K db e = db.exposures) : ∃ changed db',
      Projected K raw db e db' ∧
        Runs (project now raw (e.decoded K)) db (.ok changed) db' (Interim K raw db e) :=
  ⟨false, db, .refl (fun _ _ => hrow _) hexposures, hproject ▸ .pure⟩

theorem projected_insert (id : ℤ) {row : TransferRow} (hid : (e.payload K).2 = some id)
    (hrow : some { row with agentId := none } = projectRow K raw db e (db.row id))
    (hexposures : projectExposures K db e = db.exposures) :
    Projected K raw db e { db with transfers := db.transfers.insert id row } := by
  refine ⟨rfl, fun id' => ?_, hexposures.symm⟩
  rw [row_insert, hid]
  by_cases h : id = id'
  · rw [if_pos h, if_pos (congrArg some h), ← h, hrow]
  · rw [if_neg h, if_neg fun hsome => h (Option.some.inj hsome), Database.row]

theorem runs_project_created {id : U64} {sender token : Address} {amount : I128}
    {corridorId : Symbol} {claimHash : BytesN 32} {expiry : U64}
    (he : e = .escrow (.transferCreated id sender amount token corridorId claimHash expiry))
    (h : e.Accepted K db) : ∃ changed db', Projected K raw db e db' ∧
      Runs (project now raw (e.decoded K)) db (.ok changed) db' (Interim K raw db e) := by
  subst he
  obtain ⟨hfits, hdate⟩ := h
  cases hsender : db.userAt (K.encode sender) with
  | none =>
    refine ⟨false, db, .refl (fun _ _ => ?_) rfl,
      runs_projectTransferCreated_unknown (.inl rfl) rfl fun hsome => ?_⟩
    · rw [projectRow, hsender]
    · have hsome : (db.userAt (K.encode sender)).isSome = true := hsome
      rw [hsender] at hsome
      cases hsome
  | some user =>
    by_cases hcorridor : corridorId.name ∈ db.corridors
    · refine ⟨true, _, projected_insert id.val rfl ?_ rfl,
        runs_projectTransferCreated (.inl rfl) rfl hsender hcorridor rfl hfits
          (hdate (by rw [hsender]; rfl) hcorridor)⟩
      rw [projectRow, hsender, decide_eq_true hcorridor, Database.row]
      cases db.transfers.lookup id.val <;> rfl
    · refine ⟨false, db, .refl (fun _ _ => ?_) rfl,
        runs_projectTransferCreated_unknown (.inl rfl) rfl fun _ => hcorridor⟩
      rw [projectRow, hsender, decide_eq_false hcorridor]

/-- A refund or a cancellation. -/
theorem runs_project_settled {id : ℤ} {status : TransferStatus} (hid : (e.payload K).2 = some id)
    (hproject : project now raw (e.decoded K) = projectTransferSettled raw (e.decoded K) status)
    (htext : (e.decoded K).payload.text "id" = toString id)
    (hrow : ∀ row, projectRow K raw db e row = row.map (settleRow raw status))
    (hexposures : projectExposures K db e = db.exposures) (hstatus : status ≠ .claimed)
    (hfits : FitsBigInt id) : ∃ changed db', Projected K raw db e db' ∧
      Runs (project now raw (e.decoded K)) db (.ok changed) db' (Interim K raw db e) := by
  rw [hproject]
  cases hlookup : db.transfers.lookup id with
  | none =>
    refine ⟨false, db, .refl (fun id' hid' => ?_) hexposures,
      runs_projectTransferSettled_unknown (.inl rfl) htext hfits hlookup⟩
    obtain rfl := Option.some.inj (hid.symm.trans hid')
    rw [hrow, Database.row, hlookup]
    rfl
  | some row =>
    refine ⟨true, _, projected_insert _ hid ?_ hexposures,
      runs_projectTransferSettled (.inl rfl) htext hfits hlookup hstatus⟩
    rw [hrow, Database.row, hlookup]
    rfl

theorem runs_project_claimed {id : U64} {agent : Address} {corridorId : Symbol}
    {gross fee payout : I128}
    (he : e = .escrow (.transferClaimed id agent corridorId gross fee payout))
    (h : e.Accepted K db) : ∃ changed db', Projected K raw db e db' ∧
      Runs (project now raw (e.decoded K)) db (.ok changed) db' (Interim K raw db e) := by
  subst he
  cases hlookup : db.transfers.lookup id.val with
  | none =>
    refine ⟨false, db, .refl (fun id' hid' => ?_) rfl,
      runs_projectTransferSettled_unknown (.inl rfl) rfl h hlookup⟩
    obtain rfl := Option.some.inj hid'
    rw [Database.row, hlookup]
    rfl
  | some row =>
    -- The link makes no difference.
    have hprojected : ∀ agentId, Projected K raw db
        (.escrow (.transferClaimed id agent corridorId gross fee payout))
        { db with transfers := db.transfers.insert id.val { claimRow raw (K.encode agent)
            (toString fee.val) (toString payout.val) row with agentId } } := by
      intro agentId
      refine projected_insert _ rfl ?_ rfl
      rw [projectRow, Database.row, hlookup]
      rfl
    refine ⟨true, _, ?_, runs_projectTransferClaimed (K.encode agent) rfl h hlookup
      rfl (K.ne_empty agent) rfl rfl (.inl rfl) (.inr (hprojected row.agentId))⟩
    cases db.agentAt (K.encode agent) with
    | none => exact hprojected row.agentId
    | some agent =>
      rw [Option.elim_some, AList.insert_insert]
      exact hprojected (some agent.id)

theorem runs_project_drawn {agent : Address} {regionId : Symbol} {amount exposure : I128}
    {utilizationBps : U32}
    (he : e = .pool (.liquidityDrawn agent regionId amount exposure utilizationBps))
    (h : e.Accepted K db) : ∃ changed db', Projected K raw db e db' ∧
      Runs (project now raw (e.decoded K)) db (.ok changed) db' (Interim K raw db e) := by
  subst he
  have hignored : (db.agentAt (K.encode agent) = none ∨ regionId.name = "") →
      projectExposures K db (.pool (.liquidityDrawn agent regionId amount exposure
        utilizationBps)) = db.exposures := by
    intro h
    rw [projectExposures]
    rcases h with h | h
    · rw [h]
    · rw [h]
      cases db.agentAt (K.encode agent) <;> rfl
  by_cases hunknown : db.agentAt (K.encode agent) = none ∨ regionId.name = ""
  · exact ⟨false, db, .refl (fun _ hid => nomatch hid) (hignored hunknown),
      runs_projectPoolDraw_ignored (.inl rfl) rfl (K.ne_empty agent) rfl hunknown⟩
  · obtain ⟨hagent, hregion⟩ := not_or.1 hunknown
    obtain ⟨row, hrow⟩ := Option.ne_none_iff_exists'.1 hagent
    have hprojected : Projected K raw db
        (.pool (.liquidityDrawn agent regionId amount exposure utilizationBps)) { db with
          exposures := db.exposures.insert (row.id, regionId.name) (toString exposure.val) } := by
      refine ⟨rfl, fun _ => (if_neg nofun).symm, ?_⟩
      rw [projectExposures, hrow, decide_eq_true hregion]
    exact ⟨true, _, hprojected, runs_projectPoolDraw (.inl rfl) rfl (K.ne_empty agent) rfl hregion
      rfl hrow (h row hrow hregion)⟩

variable (raw now) in
/-- **Projecting** an event that the database accepts. -/
theorem runs_project (h : e.Accepted K db) : ∃ changed db', Projected K raw db e db' ∧
    Runs (project now raw (e.decoded K)) db (.ok changed) db' (Interim K raw db e) := by
  rcases e with e | e | e | e
  · cases e with
    | transferCreated => exact runs_project_created rfl h
    | transferClaimed => exact runs_project_claimed rfl h
    | transferRefunded =>
      exact runs_project_settled rfl rfl rfl (fun _ => rfl) rfl (by decide) h
    | transferCancelled =>
      exact runs_project_settled rfl rfl rfl (fun _ => rfl) rfl (by decide) h
    | _ => exact runs_project_ignored rfl (fun _ => rfl) rfl
  · cases e with
    | agentStatusChanged =>
      exact runs_project_ignored projectAgentStatus_published (fun _ => rfl) rfl
    | _ => exact runs_project_ignored rfl (fun _ => rfl) rfl
  · cases e <;> exact runs_project_ignored rfl (fun _ => rfl) rfl
  · cases e with
    | liquidityDrawn => exact runs_project_drawn rfl h
    | _ => exact runs_project_ignored rfl (fun _ => rfl) rfl

end Projections

/-! ### Persisting -/

section Persisting

variable {K : StrKey} {cfg : Config} {now : ℕ} {raw : RawContractEvent} {db : Database}
  {M : Database → Prop} {e : ContractEvent}

/-- The transfer of an event that is accepted has an id that fits. -/
theorem ContractEvent.Accepted.fits (h : e.Accepted K db) :
    ∀ id ∈ (e.payload K).2, FitsBigInt id := by
  intro id hid
  rcases e with e | e | e | e
  · cases e with
    | transferCreated =>
      obtain rfl := Option.some.inj hid
      exact h.1
    | transferClaimed | transferRefunded | transferCancelled =>
      obtain rfl := Option.some.inj hid
      exact h
    | _ => cases hid
  all_goals cases e <;> cases hid

/-- The event has been projected and then recorded. -/
def Recorded (K : StrKey) (cfg : Config) (raw : RawContractEvent) (db : Database)
    (e : ContractEvent) (db' : Database) : Prop :=
  ∃ db₁ transferId, Projected K raw db e db₁ ∧ db' = { db₁ with
    chainEvents := db.chainEvents ++ [chainEventRow cfg raw (e.decoded K) transferId] }

theorem Projected.chainEvents {db' : Database} (h : Projected K raw db e db') :
    db'.chainEvents = db.chainEvents := by
  rw [h.frame]

theorem runs_persist_known (hM : M db) (hledger : raw.ledger ≤ 2147483647)
    (hindex : raw.eventIndex ≤ 2147483647) (h : db.hasChainEvent raw.key = true) :
    Runs (persist cfg now raw (e.decoded K)) db (.ok false) db M := by
  refine .bind (runs_findChainEvent hM hledger hindex) ?_
  rw [h, if_pos rfl]
  exact .pure

variable (cfg now) in
/-- **Persisting** an event that the database accepts. -/
theorem runs_persist (hledger : raw.ledger ≤ 2147483647) (hindex : raw.eventIndex ≤ 2147483647)
    (hfree : db.hasChainEvent raw.key = false) (h : e.Accepted K db) : ∃ changed db',
      Recorded K cfg raw db e db' ∧ Runs (persist cfg now raw (e.decoded K)) db (.ok changed) db'
        (Interim K raw db e) := by
  obtain ⟨changed, db₁, hprojected, hproject⟩ := runs_project raw now h
  obtain ⟨linked, hlink⟩ := runs_linkableTransferId (M := Interim K raw db e) (.inr hprojected)
    h.fits
  have hevents := hprojected.chainEvents
  have hfree₁ : db₁.hasChainEvent raw.key = false := by
    rw [Database.hasChainEvent, hevents]
    exact hfree
  refine ⟨changed, _, ⟨db₁, linked, hprojected, rfl⟩, ?_⟩
  rw [← hevents]
  refine .bind (runs_findChainEvent (.inl rfl) hledger hindex) ?_
  rw [show db.hasChainEvent raw.key = false from hfree, if_neg (by decide)]
  exact .bind hproject (.bind hlink (.bind (runs_createChainEvent (.inr hprojected) hfree₁) .pure))

variable (cfg now) in
/-- What the database refuses of an event, it refuses before anything is written. -/
theorem runs_persist_refused (hledger : raw.ledger ≤ 2147483647)
    (hindex : raw.eventIndex ≤ 2147483647) (hfree : db.hasChainEvent raw.key = false)
    (h : ¬ e.Accepted K db) : Runs (persist cfg now raw (e.decoded K)) db (.error .refused) db
      (Interim K raw db e) := by
  refine .bind (runs_findChainEvent (.inl rfl) hledger hindex) ?_
  rw [show db.hasChainEvent raw.key = false from hfree, if_neg (by decide)]
  rcases e with e | e | e | e
  · cases e with
    | transferCreated id sender amount token corridorId claimHash expiry =>
      by_cases hknown : (db.userAt (K.encode sender)).isSome = true ∧
          corridorId.name ∈ db.corridors
      · obtain ⟨hsender, hcorridor⟩ := hknown
        obtain ⟨user, huser⟩ := Option.isSome_iff_exists.1 hsender
        exact .bind_error (runs_projectTransferCreated_refused (.inl rfl) rfl huser hcorridor rfl
          fun ⟨hfits, hdate⟩ => h ⟨hfits, fun _ _ => hdate⟩)
      · -- The event is ignored at first, and then its transfer is looked up.
        have hfits : ¬ FitsBigInt id.val := fun hfits =>
          h ⟨hfits, fun hsender hcorridor => absurd ⟨hsender, hcorridor⟩ hknown⟩
        exact .bind (runs_projectTransferCreated_unknown (.inl rfl) rfl
          fun hsender hcorridor => hknown ⟨hsender, hcorridor⟩)
          (.bind_error (runs_linkableTransferId_refused hfits))
    | transferClaimed | transferRefunded | transferCancelled =>
      exact .bind_error (runs_projectTransferSettled_refused rfl h)
    | _ => exact absurd trivial h
  · exact absurd trivial h
  · exact absurd trivial h
  · cases e with
    | liquidityDrawn agent regionId amount exposure utilizationBps =>
      obtain ⟨row, h⟩ := not_forall.1 h
      obtain ⟨hrow, h⟩ := Classical.not_imp.1 h
      obtain ⟨hregion, h⟩ := Classical.not_imp.1 h
      exact .bind_error (runs_projectPoolDraw_refused (.inl rfl) rfl (K.ne_empty agent) rfl
        hregion rfl hrow h)
    | _ => exact absurd trivial h

theorem runs_persist_unindexable
    (h : ¬ (raw.ledger ≤ 2147483647 ∧ raw.eventIndex ≤ 2147483647)) :
    Runs (persist cfg now raw (e.decoded K)) db (.error .refused) db M :=
  .bind_error (runs_findChainEvent_refused h)

/-! ### Handling -/

variable {result : IndexerTickResult}

/-- What handling an event does follows from what persisting it does. -/
theorem runs_handleEvent {changed : Bool} {db' : Database} (hcarries : raw.Carries K e)
    (h : Runs (persist cfg now raw (e.decoded K)) db (.ok changed) db' M) :
    Runs (handleEvent cfg now result raw) db (.ok { result with
      eventsDecoded := result.eventsDecoded + 1
      projectionsUpdated := result.projectionsUpdated + if changed = true then 1 else 0 })
      db' M := by
  rw [handleEvent, decodeEvent_published hcarries]
  exact .bind h .pure

theorem runs_handleEvent_error {failure : Failure} {db' : Database} (hcarries : raw.Carries K e)
    (h : Runs (persist cfg now raw (e.decoded K)) db (.error failure) db' M) :
    Runs (handleEvent cfg now result raw) db (.error failure) db' M := by
  rw [handleEvent, decodeEvent_published hcarries]
  exact .bind_error h

/-- **Handling an event of a contract.**  If its key is taken, nothing happens.  Otherwise it is
recorded if the handling returns, and projected at most if it fails. -/
theorem handleEvent_executes {requests : List Request} (hcarries : raw.Carries K e) :
    Triple (Holds fun rs db' => rs = requests ∧ db' = db) (handleEvent cfg now result raw)
      (fun _ => Holds fun rs db' => rs = requests ∧
        if db.hasChainEvent raw.key = true then db' = db else Recorded K cfg raw db e db')
      (Holds fun rs db' => rs = requests ∧
        (db' = db ∨ db.hasChainEvent raw.key = false ∧ Projected K raw db e db')) := by
  by_cases hstored : raw.ledger ≤ 2147483647 ∧ raw.eventIndex ≤ 2147483647
  · by_cases htaken : db.hasChainEvent raw.key = true
    · have hpersist : Runs (persist cfg now raw (e.decoded K)) db (.ok false) db fun db' =>
        db' = db :=
        runs_persist_known rfl hstored.1 hstored.2 htaken
      have hruns : Runs (handleEvent cfg now result raw) db _ db fun db' => db' = db :=
        runs_handleEvent hcarries hpersist
      refine hruns.triple.conseq (fun _ hs => hs) (fun _ s hs => ?_) fun s hs => ?_
      · rw [Holds, if_pos htaken]
        exact ⟨hs.1, hs.2.2⟩
      · exact ⟨hs.1, .inl (hs.2.elim id fun h => h.2)⟩
    · have hfree := Bool.eq_false_of_not_eq_true htaken
      by_cases haccepted : e.Accepted K db
      · obtain ⟨changed, db₁, hrecorded, hpersist⟩ := runs_persist cfg now hstored.1 hstored.2
          hfree haccepted
        have hruns : Runs (handleEvent cfg now result raw) db _ _ _ :=
          runs_handleEvent hcarries hpersist
        refine hruns.triple.conseq (fun _ hs => hs) (fun _ s hs => ?_) fun s hs => ?_
        · rw [Holds, if_neg htaken, hs.2.2]
          exact ⟨hs.1, hrecorded⟩
        · -- It returns, so it can only be stopped on the way.
          rcases hs.2 with hinterim | ⟨⟨_, herror⟩, -⟩
          · exact ⟨hs.1, hinterim.imp_right fun h => ⟨hfree, h⟩⟩
          · cases herror
      -- The tables refuse the event before anything is written.
      · have hpersist := runs_persist_refused cfg now hstored.1 hstored.2 hfree haccepted
        have hruns : Runs (handleEvent cfg now result raw) db _ _ _ :=
          runs_handleEvent_error hcarries hpersist
        refine hruns.triple.conseq (fun _ hs => hs) (fun _ _ hs => ?_) fun s hs => ?_
        · cases hs.2.1
        · refine ⟨hs.1, ?_⟩
          rcases hs.2 with hinterim | ⟨-, hsame⟩
          · exact hinterim.imp_right fun h => ⟨hfree, h⟩
          · exact .inl hsame
  -- The lookup refuses a position that its column cannot hold.
  · have hpersist : Runs (persist cfg now raw (e.decoded K)) db (.error .refused) db
        fun db' => db' = db := runs_persist_unindexable hstored
    have hruns : Runs (handleEvent cfg now result raw) db _ _ _ :=
      runs_handleEvent_error hcarries hpersist
    refine hruns.triple.conseq (fun _ hs => hs) (fun _ _ hs => ?_) fun s hs => ?_
    · cases hs.2.1
    · exact ⟨hs.1, .inl (hs.2.elim id fun h => h.2)⟩

/-! ### The indexer in order -/

theorem Runs.of_ok {α : Type} {x : Task α} {r : Except Failure α} {db' : Database} {calls : ℕ}
    {requests : List Request} {a : α} {s : Session} (h : Runs x db r db' M)
    (hx : x ⟨db, calls, requests⟩ = (.ok a, s)) : r = .ok a ∧ s.db = db' := by
  obtain ⟨-, hr, hdb⟩ := h.triple.returns ⟨rfl, rfl⟩ hx
  exact ⟨hr, hdb⟩

/-- Persisting an event for the first time projects it and records it, if it returns. -/
theorem recorded_of_persist {calls : ℕ} {requests : List Request} {changed : Bool} {s : Session}
    (hfree : db.hasChainEvent raw.key = false)
    (h : persist cfg now raw (e.decoded K) ⟨db, calls, requests⟩ = (.ok changed, s)) :
    Recorded K cfg raw db e s.db := by
  by_cases hkey : raw.ledger ≤ 2147483647 ∧ raw.eventIndex ≤ 2147483647
  · by_cases haccepted : e.Accepted K db
    · obtain ⟨changed', db', hrecorded, hruns⟩ := runs_persist cfg now hkey.1 hkey.2 hfree
        haccepted
      exact (hruns.of_ok h).2 ▸ hrecorded
    · cases ((runs_persist_refused cfg now hkey.1 hkey.2 hfree haccepted).of_ok h).1
  · have hruns : Runs (persist cfg now raw (e.decoded K)) db (.error .refused) db
        (Interim K raw db e) := runs_persist_unindexable hkey
    cases (hruns.of_ok h).1

/-- The indexer has persisted these events one after the other, each for the first time. -/
inductive Indexed (K : StrKey) (cfg : Config) (db : Database) :
    List ContractEvent → Database → Prop
  | nil : Indexed K cfg db [] db
  | snoc {events : List ContractEvent} {db' : Database} {raw : RawContractEvent}
      {e : ContractEvent} {decoded : DecodedEvent} {now calls : ℕ} {requests : List Request}
      {changed : Bool} {s : Session} : Indexed K cfg db events db' → raw.Carries K e →
      db'.hasChainEvent raw.key = false → decodeEvent raw = .ok decoded →
      persist cfg now raw decoded ⟨db', calls, requests⟩ = (.ok changed, s) →
      Indexed K cfg db (events ++ [e]) s.db

/-- **Indexing in order**: what recording an event keeps, the indexer keeps. -/
theorem Indexed.invariant {I : List ContractEvent → Database → Prop} {events : List ContractEvent}
    {db' : Database} (h : Indexed K cfg db events db') (h₀ : I [] db)
    (hstep : ∀ events raw e db db', I events db → Recorded K cfg raw db e db' →
      I (events ++ [e]) db') : I events db' := by
  induction h with
  | nil => exact h₀
  | snoc _ hcarries hfree hdecoded hpersist ih =>
    rw [decodeEvent_published hcarries] at hdecoded
    cases hdecoded
    exact hstep _ _ _ _ _ ih (recorded_of_persist hfree hpersist)

theorem Recorded.agents {db' : Database} (h : Recorded K cfg raw db e db') :
    db'.agents = db.agents := by
  obtain ⟨db₁, transferId, hprojected, rfl⟩ := h
  show db₁.agents = db.agents
  rw [hprojected.frame]

theorem Indexed.agents {events : List ContractEvent} {db' : Database}
    (h : Indexed K cfg db events db') : db'.agents = db.agents :=
  h.invariant (I := fun _ db' => db'.agents = db.agents) rfl
    fun _ _ _ _ _ hI hrecorded => hrecorded.agents.trans hI

/-- Index events that are emitted one a ledger, if each of them can be persisted. -/
def indexInOrder (K : StrKey) (cfg : Config) (contractId : String) (ledger : ℕ) (db : Database) :
    List ContractEvent → Option Database
  | [] => some db
  | e :: events =>
    let raw := rawEvent contractId (Emitted.response K ⟨e, ledger, "tx", 0⟩) 0
    match persist cfg 0 raw (e.decoded K) ⟨db, 10, []⟩ with
    | (.ok _, s) =>
      if db.hasChainEvent raw.key = false then
        indexInOrder K cfg contractId (ledger + 1) s.db events
      else none
    | _ => none

theorem indexed_of_indexInOrder {contractId : String} {events : List ContractEvent} {ledger : ℕ}
    {done : List ContractEvent} {db₁ db' : Database} (hdone : Indexed K cfg db done db₁)
    (h : indexInOrder K cfg contractId ledger db₁ events = some db') :
    Indexed K cfg db (done ++ events) db' := by
  induction events generalizing ledger done db₁ with
  | nil =>
    cases h
    rwa [List.append_nil]
  | cons e events ih =>
    rw [indexInOrder] at h
    split at h
    · next changed s hpersist =>
      split_ifs at h with hfree
      have hnext :=
        hdone.snoc Emitted.carries hfree (decodeEvent_published Emitted.carries) hpersist
      rw [List.append_cons]
      exact ih hnext h
    · cases h

end Persisting

end Indexer

end RemitBridge
