import RemitBridge.Escrow.Index

/-!
# The counters of the escrow

The aggregates of the escrow are the fold of its transfers (`counters_fold`): the volumes are sums
of amounts, the collected fees are what the claims paid to treasuries, and the counters are the
numbers of transfers in each status, up to the bound of their type.
-/

namespace RemitBridge

namespace Escrow

open TransitionSystem Store

variable {ω : Type} {H : Host ω} {w₀ w w' : World ω} {l : Label ω} {ls : List (Label ω)}

/-- The number of transfers with a status. -/
def countWith (s : Storage) (status : TransferStatus) : ℤ :=
  s.transfers.total fun _ t => if t.status = status then 1 else 0

/-- The amount of the transfers with a status. -/
def volumeWith (s : Storage) (status : TransferStatus) : ℤ :=
  s.transfers.total fun _ t => if t.status = status then t.amount.val else 0

/-- The number of transfers. -/
def transferTotal (s : Storage) : ℤ := s.transfers.total fun _ _ => 1

/-- What a claim pays beyond the payout of the agent. -/
def feePaid : Label ω → ℤ
  | .call _ (.claimTransfer ..) (.done _ payments _) =>
    ((payments.drop 1).map fun m => m.amount.val).sum
  | _ => 0

/-- What a claim pays beyond the payout of the agent goes from the escrow to the treasury. -/
def PaysTreasury (H : Host ω) (s : Storage) : Label ω → Prop
  | .call _ (.claimTransfer ..) (.done _ payments _) => ∃ config, s.config = some config ∧
    ∀ m ∈ payments.drop 1, m.source = H.self ∧ m.dest = config.treasury
  | _ => True

/-- The counters count the transfers, as far as they reach. -/
structure Counted (s : Storage) : Prop where
  total : transferTotal s = s.transferCount.val
  created : s.getStats.created.val = min (transferTotal s) (2 ^ 32 - 1)
  claimed : s.getStats.claimed.val = min (countWith s .claimed) (2 ^ 32 - 1)
  refunded : s.getStats.refunded.val = min (countWith s .refunded) (2 ^ 32 - 1)
  cancelled : s.getStats.cancelled.val = min (countWith s .cancelled) (2 ^ 32 - 1)
  volumeSettled : s.getStats.volumeSettled.val = volumeWith s .claimed

theorem Fresh.counted (h : Fresh H w) : Counted w.store := by
  obtain ⟨admin, config, -, hs⟩ := h.store
  rw [hs]
  constructor <;> rfl

/-- Every transfer is pending, or in one of the three final states. -/
theorem countWith_pending (s : Storage) : countWith s .pending =
    transferTotal s - countWith s .claimed - countWith s .refunded - countWith s .cancelled := by
  simp only [countWith, transferTotal, ← total_sub]
  refine congrArg (fun f => total f s.transfers) (funext₂ fun id t => ?_)
  cases t.status <;> rfl

/-- There are no more transfers with a status than there are transfers. -/
theorem countWith_le (s : Storage) (status : TransferStatus) :
    countWith s status ≤ transferTotal s := by
  rw [← sub_nonneg, countWith, transferTotal, ← total_sub]
  refine total_nonneg_of_lookup fun id t _ => ?_
  split_ifs <;> decide

theorem WellFormed.volumeWith_nonneg (hw : WellFormed H w) (status : TransferStatus) :
    0 ≤ volumeWith w.store status := by
  refine total_nonneg_of_lookup fun id t ht => ?_
  split_ifs
  · exact (hw.records _ _ ht).positive.le
  · exact le_rfl

/-! ### What a step counts -/

section

variable {env : Env} {c : Call} {r : Ret} {id : U64} {t t' : Transfer}

/-- Creating a transfer adds one that is pending. -/
theorem Locks.countWith (hw : WellFormed H w) (h : Locks H env c r t w w')
    (status : TransferStatus) : countWith w'.store status =
      countWith w.store status + if .pending = status then 1 else 0 := by
  have hp : t.status = .pending := by rw [h.record, Transfer.lock_status]
  rw [Escrow.countWith, h.transfers, total_insert_of_none (hw.fresh_id h), hp, Escrow.countWith]

theorem Locks.volumeWith (hw : WellFormed H w) (h : Locks H env c r t w w')
    (status : TransferStatus) : volumeWith w'.store status =
      volumeWith w.store status + if .pending = status then t.amount.val else 0 := by
  have hp : t.status = .pending := by rw [h.record, Transfer.lock_status]
  rw [Escrow.volumeWith, h.transfers, total_insert_of_none (hw.fresh_id h), hp, Escrow.volumeWith]

theorem Locks.transferTotal (hw : WellFormed H w) (h : Locks H env c r t w w') :
    transferTotal w'.store = transferTotal w.store + 1 := by
  rw [Escrow.transferTotal, h.transfers, total_insert_of_none (hw.fresh_id h),
    Escrow.transferTotal]

/-- Settling a transfer moves it from the pending ones to those with its new status. -/
theorem Settles.countWith (hw : WellFormed H w) (h : Settles H env c id t t' w w')
    (status : TransferStatus) : countWith w'.store status = countWith w.store status -
      (if .pending = status then 1 else 0) + if t'.status = status then 1 else 0 := by
  rw [Escrow.countWith, h.transfers, (hw.records _ _ h.stored).keyed,
    total_insert_of_lookup h.stored, h.pending, Escrow.countWith]

theorem Settles.volumeWith (hw : WellFormed H w) (h : Settles H env c id t t' w w')
    (status : TransferStatus) : volumeWith w'.store status = volumeWith w.store status -
      (if .pending = status then t.amount.val else 0) +
      if t'.status = status then t'.amount.val else 0 := by
  rw [Escrow.volumeWith, h.transfers, (hw.records _ _ h.stored).keyed,
    total_insert_of_lookup h.stored, h.pending, Escrow.volumeWith]

theorem Settles.transferTotal (hw : WellFormed H w) (h : Settles H env c id t t' w w') :
    transferTotal w'.store = transferTotal w.store := by
  rw [Escrow.transferTotal, h.transfers, (hw.records _ _ h.stored).keyed,
    total_insert_of_lookup h.stored, sub_add_cancel, Escrow.transferTotal]

/-- A counter follows a number of transfers when both grow by one or stay. -/
theorem counter_follows {a b : U32} {n : ℤ} {p : Prop} [Decidable p]
    (ha : a.val = min n (2 ^ 32 - 1)) (hb : b = if p then a.saturatingAdd 1 else a) :
    b.val = min (n + if p then 1 else 0) (2 ^ 32 - 1) := by
  rw [hb]
  split_ifs
  · rw [U32.saturatingAdd_one_eq_min, ha]
    omega
  · rw [ha, add_zero]

theorem Counted.locks (hw : WellFormed H w) (hc : Counted w.store) (h : Locks H env c r t w w')
    (hcreates : Creates t w.store w'.store) : Counted w'.store := by
  have hcount := h.countWith hw
  have hstats := hcreates.stats
  constructor
  case total => rw [h.transferTotal hw, hc.total, h.transferCount, h.id]
  case created =>
    have hcreated := counter_follows (p := True) hc.created (if_pos trivial).symm
    rw [h.transferTotal hw, hstats]
    exact hcreated
  case claimed => rw [hcount, hstats]; exact hc.claimed.trans (by rw [if_neg nofun, add_zero])
  case refunded => rw [hcount, hstats]; exact hc.refunded.trans (by rw [if_neg nofun, add_zero])
  case cancelled => rw [hcount, hstats]; exact hc.cancelled.trans (by rw [if_neg nofun, add_zero])
  case volumeSettled =>
    rw [h.volumeWith hw, if_neg nofun, add_zero, hstats]
    exact hc.volumeSettled

theorem Counted.closes {payments : List TokenTransfer} (hw : WellFormed H w)
    (hc : Counted w.store) (h : Settles H env c id t t' w w')
    (hcloses : Closes t' payments w.store w'.store) : Counted w'.store := by
  -- The transfer leaves the pending ones, which no counter counts.
  have hcount : ∀ status, status ≠ .pending → countWith w'.store status =
      countWith w.store status + if t'.status = status then 1 else 0 := fun status hs => by
    rw [h.countWith hw, if_neg hs.symm, sub_zero]
  constructor
  case total => rw [h.transferTotal hw, hc.total, h.transferCount]
  case created => rw [h.transferTotal hw, hcloses.created, hc.created]
  case claimed => rw [hcount .claimed nofun, counter_follows hc.claimed hcloses.claimed]
  case refunded => rw [hcount .refunded nofun, counter_follows hc.refunded hcloses.refunded]
  case cancelled => rw [hcount .cancelled nofun, counter_follows hc.cancelled hcloses.cancelled]
  case volumeSettled =>
    rw [h.volumeWith hw, if_neg nofun, sub_zero, hcloses.volumeSettled, hc.volumeSettled]

end

/-- The counters depend on the transfers, their number and the statistics. -/
theorem Counted.congr {s s' : Storage} (h : Counted s) (htransfers : s'.transfers = s.transfers)
    (hcount : s'.transferCount = s.transferCount) (hstats : s'.getStats = s.getStats) :
    Counted s' := by
  obtain ⟨htotal, hcreated, hclaimed, hrefunded, hcancelled, hsettled⟩ := h
  simp only [countWith, volumeWith, transferTotal] at *
  constructor <;>
    simpa only [countWith, volumeWith, transferTotal, htransfers, hcount, hstats]

theorem Counted.step (hw : WellFormed H w) (hc : Counted w.store)
    (h : (contract H).lts.step w l w') : Counted w'.store := by
  rcases step_effects hw h with
    hq | ⟨env, c, r, -, -, ⟨-, hs⟩ | ⟨t, hlocks, hs⟩ | ⟨id, t, t', hsettles, hs⟩⟩
  · exact hq.store ▸ hc
  · rw [hs]
    exact hc.congr rfl rfl rfl
  · exact Counted.locks (w := w.clear) hw.clear hc hlocks hs
  · exact Counted.closes (w := w.clear) hw.clear hc hsettles hs

/-! ### The fees -/

theorem feePaid_of_failed (h : l.succeeded = false) : feePaid l = 0 := by
  rcases l with ⟨_, c, _ | _⟩ | _ | _ | _
  · cases h
  · cases c <;> rfl
  · rfl
  · rfl
  · rfl

/-- A call that settles nothing pays no fee. -/
theorem feePaid_of_settles {env : Env} {c : Call} {r : Ret} {payments : List TokenTransfer}
    {events : List Event} (h : c.settles = none) :
    feePaid (ω := ω) (.call env c (.done r payments events)) = 0 := by
  cases c <;> first | rfl | cases h

/-- What a settlement pays after its first payment is its fee, paid to the treasury. -/
theorem Settlement.feePaid_eq {env : Env} {c : Call} {id : U64} {t t' : Transfer}
    {payments : List TokenTransfer} {peers : ω} (h : Settlement H env id t w c t' payments peers)
    (hpos : 0 < t.amount.val) (r : Ret) (events : List Event) :
    feePaid (ω := ω) (.call env c (.done r payments events)) =
      ((payments.drop 1).map fun m => m.amount.val).sum ∧
    0 ≤ ((payments.drop 1).map fun m => m.amount.val).sum ∧
    PaysTreasury H w.store (.call env c (.done r payments events)) := by
  cases h with
  | claimed _ hconfig _ _ _ _ hfee =>
    have hnonneg := feeFor_nonneg hpos.le hfee
    refine ⟨rfl, ?_, _, hconfig, fun m hm => ?_⟩
    · rwa [List.drop_succ_cons, List.drop_zero, sum_feeTransfers hnonneg]
    rw [List.drop_succ_cons, List.drop_zero, feeTransfers] at hm
    split_ifs at hm
    · obtain rfl := List.mem_singleton.1 hm
      exact ⟨rfl, rfl⟩
    · cases hm
  | cancelled => exact ⟨rfl, le_rfl, trivial⟩
  | refunded => exact ⟨rfl, le_rfl, trivial⟩

/-- Every step collects the fee it pays, and pays it to the treasury of the moment. -/
theorem feesCollected_step (hw : WellFormed H w) (h : (contract H).lts.step w l w') :
    w'.store.getStats.feesCollected.val = w.store.getStats.feesCollected.val + feePaid l ∧
      0 ≤ feePaid l ∧ PaysTreasury H w.store l := by
  rcases step_effects hw h with
    hq | ⟨env, c, r, rfl, -, ⟨hc, hs⟩ | ⟨t, hc, hs⟩ | ⟨id, t, t', hc, hs⟩⟩
  · -- Nothing was called, or the call failed: no fee, and nobody to pay it to.
    have hfailed := hq.succeeded
    have hzero := feePaid_of_failed hfailed
    refine ⟨by rw [hzero, hq.store, add_zero], hzero.ge, ?_⟩
    rcases l with ⟨_, c, _ | _⟩ | _ | _ | _
    · cases hfailed
    · cases c <;> trivial
    · trivial
    · trivial
    · trivial
  · have hnone := hc.settles
    have hzero : feePaid (ω := ω) (.call env c (.done r w'.ledger.transfers w'.events)) = 0 :=
      feePaid_of_settles hnone
    refine ⟨?_, hzero.ge, ?_⟩
    · rw [hzero, hc.stats, add_zero]
      rfl
    · cases c <;> trivial
  · rw [hc.call, hs.stats]
    exact ⟨(add_zero _).symm, le_rfl, trivial⟩
  · -- A settlement reports exactly the payments it made, the fee among them.
    obtain ⟨payments, hsettlement, hledger⟩ := hc.settlement
    have hpayments : w'.ledger.transfers = payments := by
      rw [hledger, Ledger.apply_transfers, World.clear_transfers, List.nil_append]
    obtain ⟨hfee, hnonneg, htreasury⟩ :=
      hsettlement.feePaid_eq (hw.records _ _ hc.stored).positive r w'.events
    rw [hs.feesCollected, hpayments, hfee]
    exact ⟨rfl, hnonneg, htreasury⟩

/-! ### The fold -/

/-- **The counters are the fold of the transfers.**  In every reachable state the volumes are the
sums of the amounts of the pending and the claimed transfers, the collected fees are the sum of
what the claims paid to the treasury of the moment, and every counter is the number of transfers
it stands for, cut off at the bound of its type.  As long as no more transfers have been created
than a counter can count, the counters are exact, and what is left of the created transfers is
pending.  No aggregate is negative, and a call that fails changes none. -/
theorem counters_fold (h₀ : Fresh H w₀) (h : (contract H).lts.Run w₀ ls w) :
    w.store.getStats.volumeLocked.val = volumeWith w.store .pending ∧
    w.store.getStats.volumeSettled.val = volumeWith w.store .claimed ∧
    w.store.getStats.feesCollected.val = (ls.map feePaid).sum ∧
    ((contract H).lts.restrict fun w l _ => PaysTreasury H w.store l).Run w₀ ls w ∧
    transferTotal w.store = (ls.filterMap createdId).length ∧
    w.store.getStats.created.val = min (transferTotal w.store) (2 ^ 32 - 1) ∧
    w.store.getStats.claimed.val = min (countWith w.store .claimed) (2 ^ 32 - 1) ∧
    w.store.getStats.refunded.val = min (countWith w.store .refunded) (2 ^ 32 - 1) ∧
    w.store.getStats.cancelled.val = min (countWith w.store .cancelled) (2 ^ 32 - 1) ∧
    (transferTotal w.store ≤ 2 ^ 32 - 1 →
      w.store.getStats.created.val = transferTotal w.store ∧
      w.store.getStats.claimed.val = countWith w.store .claimed ∧
      w.store.getStats.refunded.val = countWith w.store .refunded ∧
      w.store.getStats.cancelled.val = countWith w.store .cancelled ∧
      w.store.getStats.created.val - w.store.getStats.claimed.val -
        w.store.getStats.refunded.val - w.store.getStats.cancelled.val =
          countWith w.store .pending) ∧
    (0 ≤ w.store.getStats.volumeLocked.val ∧ 0 ≤ w.store.getStats.volumeSettled.val ∧
      0 ≤ w.store.getStats.feesCollected.val ∧ 0 ≤ w.store.getStats.created.val ∧
      0 ≤ w.store.getStats.claimed.val ∧ 0 ≤ w.store.getStats.refunded.val ∧
      0 ≤ w.store.getStats.cancelled.val) ∧
    (∀ env c fault w', (contract H).lts.step w (.call env c (.reverted fault)) w' →
      w'.store.getStats = w.store.getStats) := by
  have hinv : ∀ w l w', (WellFormed H w ∧ Counted w.store) → (contract H).lts.step w l w' →
      WellFormed H w' ∧ Counted w'.store := fun _ _ _ hs hst => ⟨hs.1.step hst, hs.2.step hs.1 hst⟩
  obtain ⟨hw, hcounted⟩ := h.invariant ⟨h₀.wellFormed, h₀.counted⟩ hinv
  have hfees : w.store.getStats.feesCollected.val = (ls.map feePaid).sum := by
    have hstart : w₀.store.getStats.feesCollected.val = 0 := by
      obtain ⟨admin, config, -, hs⟩ := h₀.store
      rw [hs]
      rfl
    rw [h.eq_add_sum (f := fun w => w.store.getStats.feesCollected.val) h₀.wellFormed
      (fun _ _ _ hs hst => hs.step hst) fun _ _ _ hs hst => (feesCollected_step hs hst).1,
      hstart, zero_add]
  have hpays := h.restrict_of_invariant (P := fun w l _ => 0 ≤ feePaid l ∧ PaysTreasury H w.store l)
    h₀.wellFormed (fun _ _ _ hs hst => hs.step hst) fun _ _ _ hs hst =>
    (feesCollected_step hs hst).2
  have hpaid : 0 ≤ (ls.map feePaid).sum := List.sum_nonneg fun x hx => by
    obtain ⟨l, hl, rfl⟩ := List.mem_map.1 hx
    obtain ⟨w₁, w₂, hst⟩ := hpays.exists_step hl
    exact hst.2.1
  -- The ids were handed out one by one, so there are as many transfers as creations.
  have htotal : transferTotal w.store = (ls.filterMap createdId).length := by
    have hids := congrArg List.length (createdIds_eq h₀ h)
    rw [List.length_map, List.length_range'] at hids
    have hpos := w.store.transferCount.val_nonneg
    rw [hcounted.total]
    omega
  have hclaimed := countWith_le w.store .claimed
  have hrefunded := countWith_le w.store .refunded
  have hcancelled := countWith_le w.store .cancelled
  refine ⟨hw.volume, hcounted.volumeSettled, hfees, ?_, htotal, hcounted.created, hcounted.claimed,
    hcounted.refunded, hcounted.cancelled, ?_, ?_, ?_⟩
  · exact hpays.restrict_mono fun _ _ _ hp => hp.2
  · -- No status has more transfers than there are, so no counter is cut off.
    intro hfits
    rw [countWith_pending, hcounted.created, hcounted.claimed, hcounted.refunded,
      hcounted.cancelled, min_eq_left hfits, min_eq_left (hclaimed.trans hfits),
      min_eq_left (hrefunded.trans hfits), min_eq_left (hcancelled.trans hfits)]
    exact ⟨rfl, rfl, rfl, rfl, rfl⟩
  · refine ⟨?_, ?_, hfees ▸ hpaid, U32.val_nonneg _, U32.val_nonneg _, U32.val_nonneg _,
      U32.val_nonneg _⟩
    · exact hw.volume ▸ hw.volumeWith_nonneg .pending
    · exact hcounted.volumeSettled ▸ hw.volumeWith_nonneg .claimed
  · intro env c fault w' hst
    cases hst with
    | reverted => rfl

theorem counters_fold_sample : transferTotal Sample.final.store ≤ 2 ^ 32 - 1 ∧
    Sample.final.store.getStats.created.val - Sample.final.store.getStats.claimed.val -
      Sample.final.store.getStats.refunded.val - Sample.final.store.getStats.cancelled.val =
        countWith Sample.final.store .pending := by
  have hfits : transferTotal Sample.final.store ≤ 2 ^ 32 - 1 := by decide
  obtain ⟨-, -, -, -, -, -, -, -, -, hexact, -⟩ :=
    counters_fold Sample.fresh_start Sample.final_run
  exact ⟨hfits, (hexact hfits).2.2.2.2⟩

end Escrow

end RemitBridge
