import RemitBridge.Hook.Ceiling
import RemitBridge.Soroban.Journal

/-!
# The journal of the compliance hook

The events of the hook and the times of their ledgers tell everything about its storage but the
region that an attester writes into an attestation.  Replaying the journal of a run gives the rest
of the storage to the last field (`withoutRegions_eq_replay`): the attestations, the thresholds and
the volume of every sender, corridor and day.  The region is not to be had from it
(`region_untold`).
-/

namespace RemitBridge

namespace Hook

open Exec Contract

variable {ω : Type} {env : Env} {w₀ w w' : World ω} {self : Address} {ls : List (Label ω)}

/-- The attestation without its region. -/
def withoutRegion (record : Attestation) : Attestation := { record with regionId := ⟨""⟩ }

/-- The storage without the regions of the attestations. -/
def Storage.withoutRegions (s : Storage) : Storage :=
  { s with attestations := s.attestations.mapValues withoutRegion }

/-- The storage after an event that was emitted at the time `now`. -/
def Storage.replay (s : Storage) : U64 × Event → Option Storage
  | (now, .attestationPublished subject tier attestationHash providerId expiresAt) =>
    some ((s.putAttestation ⟨subject, tier, attestationHash, ⟨""⟩, providerId, now, expiresAt,
      false⟩).putStats
        (if (s.getAttestation subject).any (fun record => record.isLive now) = true then s.getStats
          else { s.getStats with
            attestationsIssued := s.getStats.attestationsIssued.saturatingAdd 1 }))
  | (_, .attestationRevoked subject _) => do
    let record ← s.getAttestation subject
    some ((s.putAttestation { record with revoked := true }).putStats
      { s.getStats with
        attestationsRevoked := s.getStats.attestationsRevoked.saturatingAdd 1 })
  | (_, .thresholdsUpdated corridorId tier1Max tier2Max dailyLimit) =>
    some ((s.putThresholds ⟨corridorId, tier1Max, tier2Max, dailyLimit⟩).pushCorridor corridorId)
  | (_, .operatorUpdated operator allowed) => some (s.putOperator operator allowed)
  | (_, .pauseChanged paused) => some (s.putPaused paused)
  | (_, .escrowUpdated escrow) => some (s.putEscrow escrow)
  | (now, .transferCommitted sender corridorId _ tier newDailyTotal) =>
    some ((s.putDailyVolume sender corridorId (dayOf now) newDailyTotal).putStats
      { s.getStats with
        transfersCommitted := s.getStats.transfersCommitted.saturatingAdd 1
        enhancedTierTransfers := if tier = .enhanced then
          s.getStats.enhancedTierTransfers.saturatingAdd 1 else s.getStats.enhancedTierTransfers })

/-- The reader that wants to know the storage but for the regions of the attestations. -/
@[simps] def reader : Reader Storage Event Storage := ⟨Storage.withoutRegions, Storage.replay⟩

/-! ### The view -/

section

variable (s : Storage)

@[simp] theorem withoutRegions_getStats : s.withoutRegions.getStats = s.getStats := rfl

@[simp] theorem withoutRegions_getAttestation (subject : Address) :
    s.withoutRegions.getAttestation subject = (s.getAttestation subject).map withoutRegion :=
  Store.lookup_mapValues _ _ _

@[simp] theorem withoutRegions_putStats (stats : ComplianceStats) :
    (s.putStats stats).withoutRegions = s.withoutRegions.putStats stats := rfl

@[simp] theorem withoutRegions_putAttestation (record : Attestation) :
    (s.putAttestation record).withoutRegions =
      s.withoutRegions.putAttestation (withoutRegion record) := by
  simp only [Storage.withoutRegions, Storage.putAttestation, Store.mapValues_insert]
  rfl

/-- Whether an attestation is live does not depend on its region. -/
theorem any_isLive_withoutRegion (record : Option Attestation) (now : U64) :
    (record.map withoutRegion).any (fun record => record.isLive now) =
      record.any fun record => record.isLive now := by
  cases record <;> rfl

end

/-! ### One invocation -/

/-- The world after an attestation is published. -/
def published (w : World ω) (record : Attestation) : World ω :=
  { w with
    store := (w.store.putAttestation record).putStats
      (if (w.store.getAttestation record.subject).any
          (fun previous => previous.isLive w.ledger.timestamp) = true then w.store.getStats
        else { w.store.getStats with
          attestationsIssued := w.store.getStats.attestationsIssued.saturatingAdd 1 })
    events := w.events ++ [.attestationPublished record.subject record.tier record.attestationHash
      record.providerId record.expiresAt] }

/-- **Publishing an attestation.** -/
theorem publishAttestation_ok {attester subject : Address} {tier : KycTier}
    {attestationHash : BytesN 32} {regionId providerId : Symbol} {expiresAt : U64} {u : Unit} :
    publishAttestation env attester subject tier attestationHash regionId providerId expiresAt w =
      .ok (u, w') ↔ env.signed attester = true ∧ w.store.isOperator attester = true ∧
      w.ledger.timestamp < expiresAt ∧ w' = published w
        ⟨subject, tier, attestationHash, regionId, providerId, w.ledger.timestamp, expiresAt,
          false⟩ := by
  unfold publishAttestation
  simp
  exact fun _ _ _ => Iff.rfl

theorem told_publishAttestation {attester subject : Address} {tier : KycTier}
    {attestationHash : BytesN 32} {regionId providerId : Symbol} {expiresAt : U64} {u : Unit}
    (h : publishAttestation env attester subject tier attestationHash regionId providerId
      expiresAt w = .ok (u, w')) : reader.Told w w' ∧ w'.store.admin = w.store.admin := by
  obtain ⟨-, -, -, rfl⟩ := publishAttestation_ok.1 h
  refine ⟨.single rfl rfl ?_, rfl⟩
  simp only [reader_view, reader_apply, Storage.replay, withoutRegions_getAttestation,
    any_isLive_withoutRegion, published, withoutRegions_putStats, withoutRegions_putAttestation]
  rfl

theorem told_revokeAttestation {attester subject : Address} {reason : Symbol} {u : Unit}
    (h : revokeAttestation env attester subject reason w = .ok (u, w')) :
    reader.Told w w' ∧ w'.store.admin = w.store.admin := by
  simp [revokeAttestation] at h
  obtain ⟨-, -, record, hrecord, h⟩ := h
  unfold revokeRecord at h
  split_ifs at h with hrevoked
  · simp at h
    subst h
    exact ⟨.silent rfl rfl rfl, rfl⟩
  · simp [bind_assoc] at h
    subst h
    refine ⟨.single rfl rfl ?_, rfl⟩
    simp only [reader_view, reader_apply, Storage.replay, withoutRegions_getAttestation, hrecord,
      Option.map_some, Option.bind_eq_bind, Option.bind_some, withoutRegions_putStats,
      withoutRegions_putAttestation]
    rfl

theorem told_commitTransfer {sender : Address} {amount total : I128} {corridorId : Symbol}
    (h : commitTransfer env sender amount corridorId w = .ok (total, w')) :
    reader.Told w w' ∧ w'.store.admin = w.store.admin := by
  obtain ⟨escrow, -, -, -, -, thresholds, -, -, -, -, -, -, rfl⟩ := commitTransfer_ok.1 h
  exact ⟨.single rfl rfl rfl, rfl⟩

/-- **What an invocation tells.** -/
theorem told_of_invoke {c : Call} {r : Ret} (hadmin : w.store.admin.isSome)
    (h : invoke env c w = .ok (r, w')) : reader.Told w w' ∧ w'.store.admin.isSome := by
  cases c with
  | initializeContract =>
    simp [invoke, initializeContract, bind_assoc] at h
    rw [h.1] at hadmin
    cases hadmin
  | setOperator =>
    simp [invoke, setOperator, bind_assoc] at h
    obtain ⟨-, -, -, -, rfl⟩ := h
    exact ⟨.single rfl rfl rfl, hadmin⟩
  | setEscrow =>
    simp [invoke, setEscrow, bind_assoc] at h
    obtain ⟨-, -, -, -, rfl⟩ := h
    exact ⟨.single rfl rfl rfl, hadmin⟩
  | setPaused =>
    simp [invoke, setPaused, bind_assoc] at h
    obtain ⟨-, -, -, -, rfl⟩ := h
    exact ⟨.single rfl rfl rfl, hadmin⟩
  | setTierThresholds =>
    simp [invoke, setTierThresholds, bind_assoc] at h
    obtain ⟨-, -, -, -, -, rfl⟩ := h
    exact ⟨.single rfl rfl rfl, hadmin⟩
  | publishAttestation =>
    obtain ⟨u, h₁, rfl⟩ := bind_pure_ok.1 h
    obtain ⟨htold, hsame⟩ := told_publishAttestation h₁
    exact ⟨htold, hsame ▸ hadmin⟩
  | revokeAttestation =>
    obtain ⟨u, h₁, rfl⟩ := bind_pure_ok.1 h
    obtain ⟨htold, hsame⟩ := told_revokeAttestation h₁
    exact ⟨htold, hsame ▸ hadmin⟩
  | checkTransferAllowed =>
    simp only [invoke, checkTransferAllowed, bind_assoc] at h
    obtain ⟨evaluation, w₁, h₁, h₂⟩ := bind_ok.1 h
    obtain rfl := evaluate_ok h₁
    obtain ⟨-, rfl⟩ := pure_ok.1 h₂
    exact ⟨.silent rfl rfl rfl, hadmin⟩
  | commitTransfer =>
    obtain ⟨total, h₁, rfl⟩ := bind_pure_ok.1 h
    obtain ⟨htold, hsame⟩ := told_commitTransfer h₁
    exact ⟨htold, hsame ▸ hadmin⟩

theorem reader_follows : reader.Follows (contract (ω := ω) self) fun s => s.admin.isSome :=
  fun _ _ _ _ _ hadmin h => told_of_invoke hadmin h

/-! ### Whole runs -/

/-- **What the journal of the hook tells.**  From the time the hook is initialised, replaying the
events of a run gives the storage that the run leaves, but for the regions of the attestations. -/
theorem withoutRegions_eq_replay (h₀ : w₀.store.admin.isSome)
    (h : (contract self).lts.Run w₀ ls w) :
    reader.replay w₀.store.withoutRegions (journal w₀.ledger.timestamp ls) =
      some w.store.withoutRegions :=
  Reader.replay_journal reader_follows h₀ h

/-- The hook of the sample, just initialised. -/
def Sample.initialized : World Unit :=
  (contract ⟨0⟩).play Sample.blank (Sample.script.take 1)

theorem withoutRegions_eq_replay_sample :
    reader.replay Sample.initialized.store.withoutRegions
      (journal Sample.initialized.ledger.timestamp
        ((contract ⟨0⟩).trace Sample.initialized (Sample.script.drop 1))) =
      some ((contract ⟨0⟩).play Sample.initialized (Sample.script.drop 1)).store.withoutRegions :=
  withoutRegions_eq_replay rfl (Contract.play_run (Sample.script.drop 1) rfl)

/-- **What it does not tell.**  Whatever region the attester writes, the events are the same. -/
theorem region_untold {attester subject : Address} {tier : KycTier} {attestationHash : BytesN 32}
    {regionId regionId' providerId : Symbol} {expiresAt : U64}
    (h : publishAttestation env attester subject tier attestationHash regionId providerId
      expiresAt w = .ok ((), w')) :
    ∃ w'', publishAttestation env attester subject tier attestationHash regionId' providerId
        expiresAt w = .ok ((), w'') ∧ w''.events = w'.events ∧
      (w'.store.getAttestation subject).map Attestation.regionId = some regionId ∧
      (w''.store.getAttestation subject).map Attestation.regionId = some regionId' := by
  obtain ⟨hsigned, hoperator, hexpiry, rfl⟩ := publishAttestation_ok.1 h
  refine ⟨_, publishAttestation_ok.2 ⟨hsigned, hoperator, hexpiry, rfl⟩, rfl, ?_, ?_⟩
  all_goals simp [published, Storage.getAttestation]

end Hook

end RemitBridge
