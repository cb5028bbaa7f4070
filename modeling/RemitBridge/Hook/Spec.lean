import RemitBridge.Hook.Contract

/-!
# What the entry points of the hook do

`commitTransfer_ok` says exactly when a commit succeeds and what it leaves; `invoke_cases` says
that nothing else touches the volumes, and that only `setEscrow` rewires the hook.
-/

namespace RemitBridge

namespace Hook

open Exec

variable {ω : Type} {env : Env} {w w' : World ω}

/-! ### Helpers -/

section Helpers

variable {α : Type} {r : α × World ω}

@[simp] theorem getAdmin_bind_ok {f : Address → Exec (World ω) ComplianceError α} :
    (getAdmin >>= f) w = .ok r ↔ ∃ a, w.store.admin = some a ∧ f a w = .ok r := by
  simp only [getAdmin, bind_assoc, read_bind, okOr_bind_ok]

@[simp] theorem getEscrow_bind_ok {f : Address → Exec (World ω) ComplianceError α} :
    (getEscrow >>= f) w = .ok r ↔ ∃ a, w.store.escrow = some a ∧ f a w = .ok r := by
  simp only [getEscrow, bind_assoc, read_bind, okOr_bind_ok]

@[simp] theorem requireAdmin_bind_ok {f : Address → Exec (World ω) ComplianceError α} :
    (requireAdmin env >>= f) w = .ok r ↔
      ∃ a, w.store.admin = some a ∧ env.signed a = true ∧ f a w = .ok r := by
  simp only [requireAdmin, bind_assoc, getAdmin_bind_ok, requireAuth_bind_ok, pure_bind_apply]

@[simp] theorem setStats_bind {s : ComplianceStats}
    {f : Unit → Exec (World ω) ComplianceError α} :
    (setStats s >>= f) w = f () { w with store := w.store.putStats s } := rfl

/-- The sender holds the tier: the one on record, which is current and high enough if one is
required. -/
def HoldsTier (attestation : Option Attestation) (requiredTier : KycTier) (now : U64)
    (held : KycTier) : Prop :=
  held = recordedTier attestation ∧ (requiredTier ≠ .none → ∃ record, attestation = some record ∧
    now < record.expiresAt ∧ record.tier.satisfies requiredTier = true)

@[simp] theorem heldTierFor_bind_ok {attestation : Option Attestation} {requiredTier : KycTier}
    {now : U64} {f : KycTier → Exec (World ω) ComplianceError α} :
    (heldTierFor attestation requiredTier now >>= f) w = .ok r ↔
      ∃ held, HoldsTier attestation requiredTier now held ∧ f held w = .ok r := by
  unfold heldTierFor HoldsTier
  split_ifs with h
  · simp [h]
  · cases attestation <;> simp [h, bind_assoc, recordedTier, and_assoc]

@[simp] theorem evaluate_bind_ok {sender : Address} {amount : I128} {corridorId : Symbol}
    {f : Evaluation → Exec (World ω) ComplianceError α} :
    (evaluate sender amount corridorId >>= f) w = .ok r ↔
      w.store.isPaused = false ∧ 0 < amount.val ∧
      ∃ thresholds, w.store.getThresholds corridorId = some thresholds ∧
      ∃ headroom : I128, headroom.val =
        (w.store.dailyVolume sender corridorId (dayOf w.ledger.timestamp)).val + amount.val ∧
      headroom ≤ thresholds.dailyLimit ∧
      ∃ remaining : I128, remaining.val = thresholds.dailyLimit.val - headroom.val ∧
      (w.store.getAttestation sender).any Attestation.revoked = false ∧
      ∃ held, HoldsTier (w.store.getAttestation sender) (thresholds.requiredTier amount)
        w.ledger.timestamp held ∧
      f ⟨thresholds.requiredTier amount, held, remaining, headroom⟩ w = .ok r := by
  simp only [evaluate, bind_assoc, read_bind, timestamp_bind, refuseIf_bind_ok, okOr_bind_ok,
    orTrap_bind_ok, heldTierFor_bind_ok, pure_bind_apply, MachineInt.checkedAdd_eq_some,
    MachineInt.checkedSub_eq_some, not_le, not_lt, Bool.not_eq_true]

end Helpers

/-! ### The gate -/

/-- **Committing a transfer.** -/
theorem commitTransfer_ok {sender : Address} {amount total : I128} {corridorId : Symbol} :
    commitTransfer env sender amount corridorId w = .ok (total, w') ↔
      ∃ escrow, w.store.escrow = some escrow ∧ env.signed escrow = true ∧ 0 < amount.val ∧
      w.store.isPaused = false ∧
      ∃ thresholds, w.store.getThresholds corridorId = some thresholds ∧
      total.val =
        (w.store.dailyVolume sender corridorId (dayOf w.ledger.timestamp)).val + amount.val ∧
      total ≤ thresholds.dailyLimit ∧
      (∃ remaining : I128, remaining.val = thresholds.dailyLimit.val - total.val) ∧
      (w.store.getAttestation sender).any Attestation.revoked = false ∧
      (∃ held, HoldsTier (w.store.getAttestation sender) (thresholds.requiredTier amount)
        w.ledger.timestamp held) ∧
      w' =
        { w with
          store := (w.store.putDailyVolume sender corridorId (dayOf w.ledger.timestamp)
            total).putStats
              { w.store.getStats with
                transfersCommitted := w.store.getStats.transfersCommitted.saturatingAdd 1
                enhancedTierTransfers := if thresholds.requiredTier amount = .enhanced then
                  w.store.getStats.enhancedTierTransfers.saturatingAdd 1
                    else w.store.getStats.enhancedTierTransfers }
          events := w.events ++ [.transferCommitted sender corridorId amount
            (thresholds.requiredTier amount) total] } := by
  unfold commitTransfer
  simp only [getEscrow_bind_ok, requireAuth_bind_ok, refuseIf_bind_ok, evaluate_bind_ok,
    timestamp_bind, write_bind, read_bind, setStats_bind, publish_bind, pure_ok, not_le]
  constructor
  · rintro ⟨escrow, hescrow, hsigned, hpos, hpaused, -, thresholds, hthresholds, headroom,
      hheadroom, hle, hremaining, hremaining', hrevoked, held, hheld, rfl, rfl⟩
    exact ⟨escrow, hescrow, hsigned, hpos, hpaused, thresholds, hthresholds, hheadroom, hle,
      ⟨hremaining, hremaining'⟩, hrevoked, ⟨held, hheld⟩, rfl⟩
  · rintro ⟨escrow, hescrow, hsigned, hpos, hpaused, thresholds, hthresholds, htotal, hle,
      ⟨remaining, hremaining⟩, hrevoked, ⟨held, hheld⟩, rfl⟩
    exact ⟨escrow, hescrow, hsigned, hpos, hpaused, hpos, thresholds, hthresholds, total, htotal,
      hle, remaining, hremaining, hrevoked, held, hheld, rfl, rfl⟩

/-! ### What an invocation can do -/

/-- The invocation leaves the volumes and the wiring alone, and is not a commit. -/
structure Keeps (c : Call) (w w' : World ω) : Prop where
  volumes : w'.store.volumes = w.store.volumes
  escrow : w'.store.escrow = w.store.escrow ∨ ∃ escrow, c = .setEscrow escrow
  ledger : w'.ledger = w.ledger
  commits : c.commits = false

theorem evaluate_ok {sender : Address} {amount : I128} {corridorId : Symbol}
    {evaluation : Evaluation} (h : evaluate sender amount corridorId w = .ok (evaluation, w')) :
    w' = w := by
  have hbind : (evaluate sender amount corridorId >>= pure) w = .ok (evaluation, w') :=
    bind_ok.2 ⟨evaluation, w', h, rfl⟩
  rw [evaluate_bind_ok] at hbind
  obtain ⟨-, -, _, -, _, -, -, _, -, -, _, -, hpure⟩ := hbind
  exact (pure_ok.1 hpure).2

/-- **A successful invocation commits, or leaves the volumes alone.** -/
theorem invoke_cases {c : Call} {ret : Ret} (h : invoke env c w = .ok (ret, w')) :
    Keeps c w w' ∨ ∃ sender amount corridorId total,
      c = .commitTransfer sender amount corridorId ∧ ret = .total total ∧
        commitTransfer env sender amount corridorId w = .ok (total, w') := by
  cases c with
  | initializeContract =>
    simp [invoke, initializeContract, bind_assoc] at h
    obtain ⟨-, -, -, rfl⟩ := h
    exact .inl ⟨rfl, .inl rfl, rfl, rfl⟩
  | setOperator =>
    simp [invoke, setOperator, bind_assoc] at h
    obtain ⟨-, -, -, -, rfl⟩ := h
    exact .inl ⟨rfl, .inl rfl, rfl, rfl⟩
  | setEscrow escrow =>
    simp [invoke, setEscrow, bind_assoc] at h
    obtain ⟨-, -, -, -, rfl⟩ := h
    exact .inl ⟨rfl, .inr ⟨escrow, rfl⟩, rfl, rfl⟩
  | setPaused =>
    simp [invoke, setPaused, bind_assoc] at h
    obtain ⟨-, -, -, -, rfl⟩ := h
    exact .inl ⟨rfl, .inl rfl, rfl, rfl⟩
  | setTierThresholds =>
    simp [invoke, setTierThresholds, bind_assoc] at h
    obtain ⟨-, -, -, -, -, rfl⟩ := h
    exact .inl ⟨rfl, .inl rfl, rfl, rfl⟩
  | publishAttestation =>
    simp [invoke, publishAttestation, bind_assoc] at h
    obtain ⟨-, -, -, -, rfl⟩ := h
    exact .inl ⟨rfl, .inl rfl, rfl, rfl⟩
  | revokeAttestation =>
    simp [invoke, revokeAttestation, bind_assoc] at h
    obtain ⟨-, -, record, -, h⟩ := h
    -- Whether the record is written again or not, volumes are not touched.
    unfold revokeRecord at h
    split_ifs at h
    · simp at h
      obtain ⟨-, rfl⟩ := h
      exact .inl ⟨rfl, .inl rfl, rfl, rfl⟩
    · simp [bind_assoc] at h
      obtain ⟨-, rfl⟩ := h
      exact .inl ⟨rfl, .inl rfl, rfl, rfl⟩
  | checkTransferAllowed =>
    simp only [invoke, checkTransferAllowed, bind_assoc] at h
    obtain ⟨evaluation, w₁, h₁, h₂⟩ := bind_ok.1 h
    obtain rfl := evaluate_ok h₁
    obtain ⟨-, rfl⟩ := pure_ok.1 h₂
    exact .inl ⟨rfl, .inl rfl, rfl, rfl⟩
  | commitTransfer =>
    obtain ⟨total, h₁, rfl⟩ := bind_pure_ok.1 h
    exact .inr ⟨_, _, _, total, rfl, rfl, h₁⟩

end Hook

end RemitBridge
