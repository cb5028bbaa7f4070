import RemitBridge.Hook.Ceiling

/-!
# One rule behind three entry points

`checkTransferAllowed`, `explainTransfer` and `commitTransfer` are projections of one evaluation
(`checkTransferAllowed_eq`, `commitTransfer_eq`), which never traps (`evaluate_ne_trap`).  So the
sender is told what the escrow will be told (`gate_coherent`).
-/

namespace RemitBridge

namespace Hook

open Exec TransitionSystem

variable {ω : Type} {self : Address} {env : Env} {w₀ w v v' : World ω} {ls : List (Label ω)}
  {sender : Address} {amount : I128} {corridorId : Symbol} {evaluation : Evaluation}

/-- **The evaluation.** -/
theorem evaluate_eq_ok : evaluate sender amount corridorId v = .ok (evaluation, v') ↔
    v' = v ∧ v.store.isPaused = false ∧ 0 < amount.val ∧
    ∃ thresholds, v.store.getThresholds corridorId = some thresholds ∧
      evaluation.dailyTotalAfter.val =
        (v.store.dailyVolume sender corridorId (dayOf v.ledger.timestamp)).val + amount.val ∧
      evaluation.dailyTotalAfter ≤ thresholds.dailyLimit ∧
      evaluation.remainingDaily.val = thresholds.dailyLimit.val - evaluation.dailyTotalAfter.val ∧
      (v.store.getAttestation sender).any Attestation.revoked = false ∧
      evaluation.requiredTier = thresholds.requiredTier amount ∧
      HoldsTier (v.store.getAttestation sender) (thresholds.requiredTier amount)
        v.ledger.timestamp evaluation.heldTier := by
  rw [← bind_pure (evaluate sender amount corridorId), evaluate_bind_ok]
  constructor
  · rintro ⟨hpaused, hpos, thresholds, hthresholds, headroom, hheadroom, hle, remaining, hremaining,
      hrevoked, held, hheld, hpure⟩
    obtain ⟨rfl, rfl⟩ := pure_ok.1 hpure
    exact ⟨rfl, hpaused, hpos, thresholds, hthresholds, hheadroom, hle, hremaining, hrevoked, rfl,
      hheld⟩
  · rintro ⟨rfl, hpaused, hpos, thresholds, hthresholds, hheadroom, hle, hremaining, hrevoked,
      htier, hheld⟩
    exact ⟨hpaused, hpos, thresholds, hthresholds, _, hheadroom, hle, _, hremaining, hrevoked, _,
      hheld, by rw [← htier]; rfl⟩

theorem heldTierFor_bind_ne_trap {α : Type} {attestation : Option Attestation}
    {requiredTier : KycTier} {now : U64} {f : KycTier → Exec (World ω) ComplianceError α}
    (hf : ∀ held, f held v ≠ .error .trap) :
    (heldTierFor attestation requiredTier now >>= f) v ≠ .error .trap := by
  intro h
  unfold heldTierFor at h
  split_ifs at h
  · exact hf _ h
  · simp only [bind_assoc, okOr_bind_error, refuseIf_bind_error, pure_bind_apply, reduceCtorEq,
      and_false, false_or] at h
    obtain ⟨record, -, -, -, h⟩ := h
    exact hf _ h

/-- The evaluation never traps: what is left of the limit fits its type. -/
theorem evaluate_ne_trap (hw : WellFormed v.store) :
    evaluate sender amount corridorId v ≠ .error .trap := by
  intro h
  simp only [evaluate, read_bind, refuseIf_bind_error, okOr_bind_error, timestamp_bind,
    orTrap_bind_error, reduceCtorEq, and_false, false_or, and_true] at h
  obtain ⟨-, hpos, thresholds, -, headroom, hheadroom, hle, hnone | ⟨remaining, -, -, h⟩⟩ := h
  · have hspent := hw.dailyVolume_nonneg sender corridorId (dayOf v.ledger.timestamp)
    have hsum := MachineInt.checkedAdd_eq_some.1 hheadroom
    have hlimit : headroom.val ≤ thresholds.dailyLimit.val := le_of_not_gt hle
    have hbound := thresholds.dailyLimit.le_hi
    have hfits := MachineInt.checkedSub_eq_some.2
      (rfl : (⟨thresholds.dailyLimit.val - headroom.val, by omega, by omega⟩ : I128).val = _)
    rw [hnone] at hfits
    cases hfits
  · exact heldTierFor_bind_ne_trap (fun held => pure_ne_error) h

/-- A check is an evaluation. -/
theorem checkTransferAllowed_eq : checkTransferAllowed sender amount corridorId v =
    (evaluate sender amount corridorId v).map fun p => (true, p.2) := by
  change (evaluate sender amount corridorId >>= fun _ => pure true) v = _
  cases h : evaluate sender amount corridorId v with
  | ok p => exact bind_ok.2 ⟨p.1, p.2, h, rfl⟩
  | error e => exact bind_error.2 (.inl h)

/-- The world after a commit with this evaluation. -/
def committed (sender : Address) (amount : I128) (corridorId : Symbol) (evaluation : Evaluation)
    (v : World ω) : World ω :=
  { v with
    store := (v.store.putDailyVolume sender corridorId (dayOf v.ledger.timestamp)
      evaluation.dailyTotalAfter).putStats
        { v.store.getStats with
          transfersCommitted := v.store.getStats.transfersCommitted.saturatingAdd 1
          enhancedTierTransfers := if evaluation.requiredTier = .enhanced then
            v.store.getStats.enhancedTierTransfers.saturatingAdd 1
              else v.store.getStats.enhancedTierTransfers }
    events := v.events ++ [.transferCommitted sender corridorId amount evaluation.requiredTier
      evaluation.dailyTotalAfter] }

/-- A commit by the escrow is an evaluation whose outcome is recorded. -/
theorem commitTransfer_eq {escrow : Address} (hescrow : v.store.escrow = some escrow)
    (hsigned : env.signed escrow = true) (hpos : 0 < amount.val) :
    commitTransfer env sender amount corridorId v =
      (evaluate sender amount corridorId v).map fun p =>
        (p.1.dailyTotalAfter, committed sender amount corridorId p.1 p.2) := by
  have hguards : commitTransfer env sender amount corridorId v =
      (evaluate sender amount corridorId >>= fun evaluation =>
        modify (committed sender amount corridorId evaluation) >>= fun _ =>
          pure evaluation.dailyTotalAfter) v := by
    simp [commitTransfer, getEscrow, bind_assoc, okOr, hescrow, requireAuth, trapUnless, hsigned,
      refuseIf]
    rw [if_neg (not_le.2 hpos)]
    rfl
  rw [hguards]
  cases h : evaluate sender amount corridorId v with
  | ok p => exact bind_ok.2 ⟨p.1, p.2, h, rfl⟩
  | error e => exact bind_error.2 (.inl h)

theorem explainTransfer_of_ok (h : evaluate sender amount corridorId v = .ok (evaluation, v')) :
    explainTransfer sender amount corridorId v = .ok ⟨true, evaluation.requiredTier,
      evaluation.heldTier, ⟨"ok"⟩, evaluation.remainingDaily⟩ := by
  simp only [explainTransfer, h]

theorem explainTransfer_of_err {e : ComplianceError}
    (h : evaluate sender amount corridorId v = .error (.err e)) :
    explainTransfer sender amount corridorId v = .ok ⟨false,
      (v.store.getThresholds corridorId).elim .none fun t => t.requiredTier amount,
      recordedTier (v.store.getAttestation sender), reasonTag e, 0⟩ := by
  simp only [explainTransfer, h]

variable (sender corridorId) in
/-- **What the app is told is what the contract enforces.**  In every reachable state with an
escrow set, whatever the time, an explanation is always given.  It allows the transfer exactly if a
check answers `true`, and exactly if a commit by the escrow succeeds.  A refused check and a
refused commit give the same error, and the explanation gives its tag.  Of an allowed transfer the
explanation says how much of the limit the commit leaves in the sender's volume of the day, and
with which tiers the commit was evaluated. -/
theorem gate_coherent (h₀ : w₀.store = .blank) (h : (contract self).lts.Run w₀ ls w)
    (hv : v.store = w.store) {escrow : Address} (hescrow : w.store.escrow = some escrow)
    (hsigned : env.signed escrow = true) (hpos : 0 < amount.val) :
    ∃ decision, explainTransfer sender amount corridorId v = .ok decision ∧
      (decision.allowed = true ↔ ∃ v', checkTransferAllowed sender amount corridorId v =
        .ok (true, v')) ∧
      (decision.allowed = true ↔ ∃ total v', commitTransfer env sender amount corridorId v =
        .ok (total, v')) ∧
      (decision.allowed = false → ∃ e,
        checkTransferAllowed sender amount corridorId v = .error (.err e) ∧
        commitTransfer env sender amount corridorId v = .error (.err e) ∧
        decision.reason = reasonTag e) ∧
      (decision.allowed = true → ∃ evaluation thresholds total v',
        evaluate sender amount corridorId v = .ok (evaluation, v) ∧
        v.store.getThresholds corridorId = some thresholds ∧
        commitTransfer env sender amount corridorId v = .ok (total, v') ∧
        v' = committed sender amount corridorId evaluation v ∧
        decision.remainingDaily.val = thresholds.dailyLimit.val -
          (v'.store.dailyVolume sender corridorId (dayOf v.ledger.timestamp)).val ∧
        decision.requiredTier = evaluation.requiredTier ∧
        decision.heldTier = evaluation.heldTier) := by
  have hw : WellFormed v.store := hv ▸ wellFormed_of_run h₀ h
  have hcheck : checkTransferAllowed sender amount corridorId v = _ := checkTransferAllowed_eq
  have hcommit : commitTransfer env sender amount corridorId v = _ :=
    commitTransfer_eq (hv ▸ hescrow) hsigned hpos
  -- All three evaluate the transfer, and differ in what they do with the outcome.
  cases heval : evaluate sender amount corridorId v with
  | ok p =>
    obtain ⟨evaluation, v₁⟩ := p
    obtain ⟨rfl, -, -, thresholds, hthresholds, -, -, hremaining, -⟩ := evaluate_eq_ok.1 heval
    rw [heval] at hcheck hcommit
    refine ⟨_, explainTransfer_of_ok heval, iff_of_true rfl ⟨_, hcheck⟩,
      iff_of_true rfl ⟨_, _, hcommit⟩, fun hfalse => absurd hfalse.symm Bool.false_ne_true,
      fun _ => ⟨evaluation, thresholds, _, _, rfl, hthresholds, hcommit, rfl, ?_, rfl, rfl⟩⟩
    simp [hremaining, committed, Storage.dailyVolume]
  | error fault =>
    rw [heval] at hcheck hcommit
    cases fault with
    -- A trap could not be explained, but volumes are never negative.
    | trap => exact absurd heval (evaluate_ne_trap hw)
    | err e =>
      refine ⟨_, explainTransfer_of_err heval, iff_of_false Bool.false_ne_true ?_,
        iff_of_false Bool.false_ne_true ?_, fun _ => ⟨e, hcheck, hcommit, rfl⟩,
        fun htrue => absurd htrue Bool.false_ne_true⟩
      · rintro ⟨v', hok⟩
        rw [hcheck] at hok
        cases hok
      · rintro ⟨total, v', hok⟩
        rw [hcommit] at hok
        cases hok

/-- Alice has used up her limit, and is told so. -/
theorem gate_coherent_sample : ∃ decision : TransferDecision,
    explainTransfer Sample.alice 50 Sample.corridor.corridorId Sample.final = .ok decision ∧
    (decision.allowed = false → ∃ e,
      commitTransfer (Sample.signedBy Sample.escrow) Sample.alice 50 Sample.corridor.corridorId
        Sample.final = .error (.err e) ∧ decision.reason = reasonTag e) := by
  have hescrow : Sample.final.store.escrow = some Sample.escrow := by decide
  have hsigned : (Sample.signedBy Sample.escrow).signed Sample.escrow = true := by decide
  have hpos : 0 < (50 : I128).val := by decide
  obtain ⟨decision, hexplain, -, -, hrefused, -⟩ := gate_coherent Sample.alice
    Sample.corridor.corridorId rfl Sample.final_run rfl hescrow hsigned hpos
  refine ⟨decision, hexplain, ?_⟩
  intro hfalse
  obtain ⟨e, -, hcommit, hreason⟩ := hrefused hfalse
  exact ⟨e, hcommit, hreason⟩

end Hook

end RemitBridge
