import RemitBridge.Escrow.Effects
import RemitBridge.Escrow.Solvency

/-!
# Transfer ids and the index of senders

The ids of the transfers on record are `1, 2, 3, …` without a gap, in the order in which they were
handed out, and the index of every sender lists exactly its transfers, in that order
(`ids_exact`).
-/

namespace RemitBridge

namespace Escrow

open TransitionSystem

variable {ω : Type} {H : Host ω} {w₀ w w' : World ω} {l : Label ω} {ls : List (Label ω)}

/-- The ids in use are those handed out, and the index lists them by sender. -/
structure Indexed (s : Storage) : Prop where
  used : ∀ id, (s.getTransfer id).isSome ↔ 1 ≤ id.val ∧ id ≤ s.transferCount
  increasing : ∀ sender, (s.listSenderTransfers sender).Pairwise (· < ·)
  listed : ∀ sender id, id ∈ s.listSenderTransfers sender ↔
    ∃ t, s.getTransfer id = some t ∧ t.sender = sender

/-- The id that a call handed out. -/
def createdId : Label ω → Option U64
  | .call _ (.createTransfer ..) (.done (.id id) _ _) => some id
  | _ => none

theorem Fresh.indexed (h : Fresh H w) : Indexed w.store := by
  obtain ⟨admin, config, -, hs⟩ := h.store
  rw [hs]
  refine ⟨?_, ?_, ?_⟩
  · intro id
    simp only [Storage.getTransfer, AList.lookup_empty, Option.isSome_none, Bool.false_eq_true,
      false_iff, not_and]
    intro hpos hle
    have hzero : id.val ≤ (0 : U64).val := hle
    rw [U64.zero_val] at hzero
    omega
  · intro sender
    simp [Storage.listSenderTransfers]
  · intro sender id
    simp [Storage.listSenderTransfers, Storage.getTransfer]

/-- The index depends on the transfers, the index itself and the counter. -/
theorem Indexed.congr {s s' : Storage} (h : Indexed s) (htransfers : s'.transfers = s.transfers)
    (hsenders : s'.senderTransfers = s.senderTransfers)
    (hcount : s'.transferCount = s.transferCount) : Indexed s' := by
  obtain ⟨hused, hincreasing, hlisted⟩ := h
  simp only [Storage.getTransfer, Storage.listSenderTransfers] at hused hincreasing hlisted
  constructor <;>
    simpa only [Storage.getTransfer, Storage.listSenderTransfers, htransfers, hsenders, hcount]

section

variable {env : Env} {c : Call} {r : Ret}

/-- The listing of a sender after a transfer is created. -/
theorem Creates.listSenderTransfers {t : Transfer} {s s' : Storage} (h : Creates t s s')
    (sender : Address) : s'.listSenderTransfers sender =
      if sender = t.sender then s.listSenderTransfers sender ++ [t.id]
        else s.listSenderTransfers sender := by
  simp only [Storage.listSenderTransfers, h.senderTransfers, Store.lookup_insert_ite]
  split_ifs with hsender
  · rw [hsender]
    rfl
  · rfl

theorem Indexed.creates {t : Transfer} (hi : Indexed w.store)
    (hlocks : Locks H env c r t w w') (hcreates : Creates t w.store w'.store) :
    Indexed w'.store := by
  have hcount := hlocks.transferCount
  have hid := hlocks.id
  have hlist := hcreates.listSenderTransfers
  have hget : ∀ id, w'.store.getTransfer id =
      if id = t.id then some t else w.store.getTransfer id := fun id => by
    rw [Storage.getTransfer, hlocks.transfers, Store.lookup_insert_ite, Storage.getTransfer]
  -- The new id is above all ids in use.
  have hbelow : ∀ sender id, id ∈ w.store.listSenderTransfers sender → id < t.id := by
    intro sender id hmem
    obtain ⟨t', ht', -⟩ := (hi.listed sender id).1 hmem
    have hle : id.val ≤ w.store.transferCount.val := ((hi.used id).1 (by rw [ht']; rfl)).2
    exact lt_of_not_ge fun hge : t.id.val ≤ id.val => by omega
  refine ⟨?_, ?_, ?_⟩
  · intro id
    rw [hget, hcount]
    have hpos := w.store.transferCount.val_nonneg
    split_ifs with hnew
    · simp only [Option.isSome_some, true_iff]
      exact ⟨by rw [hnew]; omega, hnew.le⟩
    · have hne : id.val ≠ t.id.val := fun h => hnew (MachineInt.ext h)
      rw [hi.used, MachineInt.le_def, MachineInt.le_def]
      omega
  · intro sender
    rw [hlist]
    split_ifs with hsender
    · refine List.pairwise_append.2 ⟨hi.increasing sender, List.pairwise_singleton _ _, ?_⟩
      intro id hmem id' hmem'
      rw [List.mem_singleton.1 hmem']
      exact hbelow sender id hmem
    · exact hi.increasing sender
  · intro sender id
    have hfresh : t.id ∉ w.store.listSenderTransfers sender := fun hmem =>
      lt_irrefl _ (hbelow sender _ hmem)
    rw [hlist, hget]
    by_cases hnew : id = t.id
    · subst hnew
      rw [if_pos rfl]
      split_ifs with hsender
      · simp [hsender]
      · simp [hfresh, Ne.symm hsender]
    · rw [if_neg hnew, ← hi.listed]
      split_ifs with hsender
      · simp [hnew]
      · rfl

theorem Indexed.closes {id : U64} {t t' : Transfer} {payments : List TokenTransfer}
    (hw : WellFormed H w) (hi : Indexed w.store) (hsettles : Settles H env c id t t' w w')
    (hcloses : Closes t' payments w.store w'.store) : Indexed w'.store := by
  obtain ⟨_, hsettlement, -⟩ := hsettles.settlement
  have hsender : t'.sender = t.sender := congrArg Terms.sender hsettlement.terms_eq
  have hget : ∀ id', w'.store.getTransfer id' =
      if id' = id then some t' else w.store.getTransfer id' := fun id' => by
    rw [Storage.getTransfer, hsettles.transfers, (hw.records _ _ hsettles.stored).keyed,
      Store.lookup_insert_ite, Storage.getTransfer]
  have hlist : ∀ sender,
      w'.store.listSenderTransfers sender = w.store.listSenderTransfers sender := fun sender => by
    rw [Storage.listSenderTransfers, hcloses.senderTransfers, Storage.listSenderTransfers]
  have hstored : w.store.getTransfer id = some t := hsettles.stored
  refine ⟨?_, ?_, ?_⟩
  · intro id'
    rw [hget, hsettles.transferCount, ← hi.used]
    split_ifs with hid
    · rw [hid, hstored]
      rfl
    · rfl
  · intro sender
    rw [hlist]
    exact hi.increasing sender
  · intro sender id'
    rw [hlist, hget, hi.listed]
    split_ifs with hid
    · simp [hid, hstored, hsender]
    · rfl

end

theorem Indexed.step (hw : WellFormed H w) (hi : Indexed w.store)
    (h : (contract H).lts.step w l w') : Indexed w'.store := by
  rcases step_effects hw h with hq | ⟨env, c, r, -, -,
    ⟨-, hc⟩ | ⟨t, hlocks, hc⟩ | ⟨id, t, t', hs, hc⟩⟩
  · exact hq.store ▸ hi
  · rw [hc]
    exact hi.congr rfl rfl rfl
  · exact Indexed.creates (w := w.clear) hi hlocks hc
  · exact Indexed.closes (w := w.clear) hw.clear hi hs hc

/-! ### The ids handed out -/

theorem createdId_of_failed (h : l.succeeded = false) : createdId l = none := by
  rcases l with ⟨_, c, _ | _⟩ | _ | _ | _
  · cases h
  · cases c <;> rfl
  · rfl
  · rfl
  · rfl

/-- A step hands out the next id, or none. -/
theorem createdId_step (hw : WellFormed H w) (h : (contract H).lts.step w l w') :
    (createdId l = none ∧ w'.store.transferCount = w.store.transferCount) ∨
      ∃ id, createdId l = some id ∧ w'.store.transferCount = id ∧
        id.val = w.store.transferCount.val + 1 := by
  rcases step_effects hw h with hq | ⟨env, c, r, rfl, -, ⟨hc, -⟩ | ⟨t, hc, -⟩ | ⟨id, t, t', hc, -⟩⟩
  · exact .inl ⟨createdId_of_failed hq.succeeded, by rw [hq.store]⟩
  · refine .inl ⟨?_, hc.transferCount⟩
    have hcreates := hc.creates
    cases c <;> first | rfl | cases hcreates
  · refine .inr ⟨t.id, ?_, hc.transferCount, hc.id⟩
    rw [hc.call, hc.ret]
    rfl
  · refine .inl ⟨?_, hc.transferCount⟩
    obtain ⟨payments, hsettlement, -⟩ := hc.settlement
    have hsettles := hsettlement.settles_eq
    cases c <;> first | rfl | cases hsettles

/-- The transfer that an event reports as created. -/
def Event.created : Event → Option U64
  | .transferCreated id .. => some id
  | _ => none

theorem Administers.created {c : Call} (h : Administers c w w') (hevents : w.events = []) :
    w'.events.filterMap Event.created = [] := by
  cases h <;> simp [hevents, Event.created]

/-- A creation is reported by the call that handed out its id, and by no other. -/
theorem created_of_invoke {env : Env} {c : Call} {r : Ret} {payments : List TokenTransfer}
    (hevents : w.events = []) (h : invoke H env c w = .ok (r, w')) :
    w'.events.filterMap Event.created =
      (createdId (ω := ω) (.call env c (.done r payments w'.events))).toList := by
  cases c with
  | createTransfer sender amount token claimHash corridorId expiry =>
    obtain ⟨id, h₁, rfl⟩ := Exec.bind_pure_ok.1 h
    obtain ⟨-, -, -, -, -, -, -, -, -, -, -, -, -, -, -, -, -, rfl⟩ := createTransfer_ok.1 h₁
    simp [hevents, Event.created, createdId]
  | cancelTransfer sender id =>
    obtain ⟨u, h₁, rfl⟩ := Exec.bind_pure_ok.1 h
    obtain ⟨-, -, -, -, -, -, -, -, -, rfl⟩ := cancelTransfer_ok.1 h₁
    simp [hevents, Event.created, createdId]
  | refundExpired id =>
    obtain ⟨u, h₁, rfl⟩ := Exec.bind_pure_ok.1 h
    obtain ⟨-, -, -, -, -, -, -, -, rfl⟩ := refundExpired_ok.1 h₁
    simp [hevents, Event.created, createdId]
  | claimTransfer agent id reveal =>
    obtain ⟨receipt, h₁, rfl⟩ := Exec.bind_pure_ok.1 h
    obtain ⟨-, -, -, -, -, -, -, -, -, -, -, -, -, -, -, -, -, -, -, -, -, -, -, -, -, rfl⟩ :=
      claimTransfer_ok.1 h₁
    simp [hevents, Event.created, createdId]
  | _ => exact (administers_of_invoke rfl rfl h).created hevents

theorem created_of_step (h : (contract H).lts.step w l w') :
    l.events.filterMap Event.created = (createdId l).toList := by
  rcases Contract.step_cases h with hq | ⟨env, c, r, rfl, -, hinvoke⟩
  · rw [createdId_of_failed hq.succeeded, Action.events_of_failed hq.succeeded]
    rfl
  · exact created_of_invoke rfl hinvoke

/-- The events of a run report the creations in it. -/
theorem created_of_run (h : (contract H).lts.Run w₀ ls w) :
    (ls.flatMap Action.events).filterMap Event.created = ls.filterMap createdId := by
  induction h with
  | nil => rfl
  | @snoc s s' ls l _ hst ih =>
    rw [List.flatMap_append, List.filterMap_append, ih, List.filterMap_append,
      List.flatMap_singleton, created_of_step hst]
    cases h : createdId l <;> simp [h]

/-- The ids handed out in a run are `1, 2, 3, …`. -/
theorem createdIds_eq (h₀ : Fresh H w₀) (h : (contract H).lts.Run w₀ ls w) :
    (ls.filterMap createdId).map (fun id => id.val.toNat) =
      List.range' 1 w.store.transferCount.val.toNat := by
  induction h with
  | nil =>
    obtain ⟨admin, config, -, hs⟩ := h₀.store
    rw [hs]
    rfl
  | @snoc s s' ls l h hst ih =>
    rw [List.filterMap_append, List.map_append, ih]
    rcases createdId_step (h₀.wellFormed_of_reachable ⟨_, h⟩) hst with
      ⟨hnone, hcount⟩ | ⟨id, hsome, hcount, hid⟩
    · simp [hnone, hcount]
    · have hpos := s.store.transferCount.val_nonneg
      have hnat : id.val.toNat = s.store.transferCount.val.toNat + 1 := by omega
      rw [hcount, hnat, List.range'_concat]
      simp [hsome, hnat, Nat.add_comm]

/-- No transfer is reported as created twice. -/
theorem created_nodup (h₀ : Fresh H w₀) (h : (contract H).lts.Run w₀ ls w) :
    ((ls.flatMap Action.events).filterMap Event.created).Nodup := by
  rw [created_of_run h]
  refine List.Nodup.of_map (fun id : U64 => id.val.toNat) ?_
  rw [createdIds_eq h₀ h]
  exact List.nodup_range'

/-- **Ids and indexes are exact.**  In every reachable state the ids in use are `1, …, n`, where
`n` is the number of transfers ever created, and they were handed out in that order; every record
is stored at its id; the index of a sender lists its transfers, each once and in increasing order;
and a creation that fails leaves everything as it was. -/
theorem ids_exact (h₀ : Fresh H w₀) (h : (contract H).lts.Run w₀ ls w) :
    (∀ id, (w.store.getTransfer id).isSome ↔ 1 ≤ id.val ∧ id ≤ w.store.transferCount) ∧
    (∀ id t, w.store.getTransfer id = some t → t.id = id) ∧
    (∀ sender, (w.store.listSenderTransfers sender).Pairwise (· < ·)) ∧
    (∀ sender id, id ∈ w.store.listSenderTransfers sender ↔
      ∃ t, w.store.getTransfer id = some t ∧ t.sender = sender) ∧
    (∀ env sender amount token claimHash corridorId expiry fault w',
      (contract H).lts.step w (.call env
        (.createTransfer sender amount token claimHash corridorId expiry) (.reverted fault)) w' →
      w' = w) ∧
    (ls.filterMap createdId).map (fun id => id.val.toNat) =
      List.range' 1 w.store.transferCount.val.toNat := by
  have hinv : WellFormed H w ∧ Indexed w.store :=
    h.invariant (I := fun w => WellFormed H w ∧ Indexed w.store) ⟨h₀.wellFormed, h₀.indexed⟩
      fun _ _ _ hs hst => ⟨hs.1.step hst, hs.2.step hs.1 hst⟩
  refine ⟨hinv.2.used, fun id t ht => (hinv.1.records _ _ ht).keyed, hinv.2.increasing,
    hinv.2.listed, ?_, createdIds_eq h₀ h⟩
  intro env sender amount token claimHash corridorId expiry fault w' hst
  cases hst with
  | reverted => rfl

theorem ids_exact_sample : (Sample.final.store.getTransfer 2).isSome ↔
    1 ≤ (2 : U64).val ∧ 2 ≤ Sample.final.store.transferCount :=
  (ids_exact Sample.fresh_start Sample.final_run).1 2

end Escrow

end RemitBridge
