import RemitBridge.Escrow.Custody

/-!
# What the escrow writes

`step_cases` says what a step does to the transfers and the money.  This file adds what it does to
the rest of the storage: an administrative call writes nothing but the administrator and the
configuration, creating a transfer extends the index of its sender and counts it, and settling one
moves it from one counter to another.
-/

namespace RemitBridge

namespace Escrow

open Exec TransitionSystem

variable {ω : Type} {H : Host ω} {env : Env} {c : Call} {r : Ret} {w w' : World ω} {l : Label ω}

/-- Creating the transfer `t` extends its sender's index and counts it. -/
structure Creates (t : Transfer) (s s' : Storage) : Prop where
  senderTransfers : s'.senderTransfers =
    s.senderTransfers.insert t.sender (s.listSenderTransfers t.sender ++ [t.id])
  stats : s'.getStats = { s.getStats with
    created := s.getStats.created.saturatingAdd 1
    volumeLocked := s'.getStats.volumeLocked }

/-- Settling a transfer, whose record is now `t`, with these payments counts it by its new status;
the payments after the first are the fee. -/
structure Closes (t : Transfer) (payments : List TokenTransfer) (s s' : Storage) : Prop where
  senderTransfers : s'.senderTransfers = s.senderTransfers
  created : s'.getStats.created = s.getStats.created
  claimed : s'.getStats.claimed =
    if t.status = .claimed then s.getStats.claimed.saturatingAdd 1 else s.getStats.claimed
  refunded : s'.getStats.refunded =
    if t.status = .refunded then s.getStats.refunded.saturatingAdd 1 else s.getStats.refunded
  cancelled : s'.getStats.cancelled =
    if t.status = .cancelled then s.getStats.cancelled.saturatingAdd 1 else s.getStats.cancelled
  volumeSettled : s'.getStats.volumeSettled.val =
    s.getStats.volumeSettled.val + if t.status = .claimed then t.amount.val else 0
  feesCollected : s'.getStats.feesCollected.val =
    s.getStats.feesCollected.val + ((payments.drop 1).map fun m => m.amount.val).sum

/-- An administrative call, or a read, writes at most the administrator and the configuration. -/
theorem store_of_invoke (ha : w.store.admin.isSome) (hs : c.settles = none)
    (hc : c.creates = false) (h : invoke H env c w = .ok (r, w')) :
    w'.store = { w.store with admin := w'.store.admin, config := w'.store.config } := by
  cases administers_of_invoke hs hc h with
  | first hnone =>
    rw [hnone] at ha
    cases ha
  | _ => rfl

theorem creates_of_createTransfer {sender token : Address} {amount : I128} {claimHash : BytesN 32}
    {corridorId : Symbol} {expiry id : U64}
    (h : createTransfer H env sender amount token claimHash corridorId expiry w = .ok (id, w')) :
    Creates (.lock id sender amount token claimHash corridorId expiry w.ledger.timestamp) w.store
      w'.store := by
  obtain ⟨-, config, -, -, -, -, window, -, -, total, peers, -, -, -, -, volume, -, rfl⟩ :=
    createTransfer_ok.1 h
  exact ⟨rfl, rfl⟩

theorem closes_of_cancelTransfer {sender : Address} {id : U64} {u : Unit}
    (hw : w.ledger.transfers = []) (h : cancelTransfer H env sender id w = .ok (u, w')) :
    ∃ t t', Settles H env (.cancelTransfer sender id) id t t' w w' ∧
      Closes t' w'.ledger.transfers w.store w'.store := by
  obtain ⟨hs, t, ht, rfl, hp, -, -, volume, hvolume, rfl⟩ := cancelTransfer_ok.1 h
  refine ⟨t, _, ⟨ht, hp, ⟨_, .cancelled hs, rfl⟩, rfl, rfl, rfl, rfl, hvolume⟩, ?_⟩
  constructor <;> simp [hw]

theorem closes_of_refundExpired {id : U64} {u : Unit} (hw : w.ledger.transfers = [])
    (h : refundExpired H env id w = .ok (u, w')) :
    ∃ t t', Settles H env (.refundExpired id) id t t' w w' ∧
      Closes t' w'.ledger.transfers w.store w'.store := by
  obtain ⟨t, ht, hp, hexp, -, -, volume, hvolume, rfl⟩ := refundExpired_ok.1 h
  refine ⟨t, _, ⟨ht, hp, ⟨_, .refunded hexp, rfl⟩, rfl, rfl, rfl, rfl, hvolume⟩, ?_⟩
  constructor <;> simp [hw]

/-- The transfers that pay a fee add up to it. -/
theorem sum_feeTransfers {token treasury : Address} {fee : I128} (h : 0 ≤ fee.val) :
    ((feeTransfers H token treasury fee).map fun m => m.amount.val).sum = fee.val := by
  unfold feeTransfers
  split_ifs with hpos
  · simp
  · simp
    omega

theorem closes_of_claimTransfer {agent : Address} {id : U64} {reveal : BytesN 32}
    {receipt : ClaimReceipt} (hw : WellFormed H w) (hnil : w.ledger.transfers = [])
    (h : claimTransfer H env agent id reveal w = .ok (receipt, w')) :
    ∃ t t', Settles H env (.claimTransfer agent id reveal) id t t' w w' ∧
      Closes t' w'.ledger.transfers w.store w'.store := by
  obtain ⟨hs, config, hconfig, t, ht, hp, hexp, hne, hhash, peers, hauth, fee, hfee, payout,
    hpayout, -, -, -, volume, hvolume, settled, hsettled, fees, hfees, -, rfl⟩ :=
    claimTransfer_ok.1 h
  have hnonneg : 0 ≤ fee.val := feeFor_nonneg (hw.records _ _ ht).positive.le hfee
  refine ⟨t, _, ⟨ht, hp, ⟨_, .claimed hs hconfig hexp hne hhash hauth hfee hpayout, rfl⟩, rfl, rfl,
    rfl, rfl, hvolume⟩, ?_⟩
  constructor
  case feesCollected =>
    simp only [Ledger.apply_transfers, Ledger.move_transfers, hnil, List.nil_append,
      List.singleton_append, List.drop_succ_cons, List.drop_zero, sum_feeTransfers hnonneg]
    exact hfees
  all_goals simp [hsettled]

/-- **What a step writes.** -/
theorem step_effects (hw : WellFormed H w) (h : (contract H).lts.step w l w') :
    (contract H).Quiet w l w' ∨ ∃ env c r,
      l = .call env c (.done r w'.ledger.transfers w'.events) ∧ env.signed H.self = false ∧
      ((Configures c w.clear w' ∧ w'.store =
          { w.store with admin := w'.store.admin, config := w'.store.config }) ∨
        (∃ t, Locks H env c r t w.clear w' ∧ Creates t w.store w'.store) ∨
        ∃ id t t', Settles H env c id t t' w.clear w' ∧
          Closes t' w'.ledger.transfers w.store w'.store) := by
  rcases Contract.step_cases h with hq | ⟨env, c, r, rfl, hs, h⟩
  · exact .inl hq
  · refine .inr ⟨env, c, r, rfl, hs, ?_⟩
    have hclear := hw.clear
    rcases invoke_cases hclear.admin h with hc | ⟨t, hc⟩ | ⟨id, t, t', hc⟩
    · exact .inl ⟨hc, store_of_invoke (w := w.clear) hclear.admin hc.settles hc.creates h⟩
    · -- The store after a creation is that of the one call that creates.
      obtain rfl := hc.call
      obtain ⟨id, h₁, rfl⟩ := bind_pure_ok.1 h
      exact .inr (.inl ⟨_, locks_of_createTransfer h₁, creates_of_createTransfer h₁⟩)
    · refine .inr (.inr ⟨id, ?_⟩)
      obtain ⟨payments, hsettlement, -⟩ := hc.settlement
      generalize w'.peers = peers at hsettlement
      cases hsettlement with
      | claimed =>
        obtain ⟨receipt, h₁, rfl⟩ := bind_pure_ok.1 h
        exact closes_of_claimTransfer hclear rfl h₁
      | cancelled =>
        obtain ⟨u, h₁, rfl⟩ := bind_pure_ok.1 h
        exact closes_of_cancelTransfer rfl h₁
      | refunded =>
        obtain ⟨u, h₁, rfl⟩ := bind_pure_ok.1 h
        exact closes_of_refundExpired rfl h₁

end Escrow

end RemitBridge
