import RemitBridge.Hook.Spec

/-!
# What the hook writes

The gate reads three maps: the thresholds of the corridors, the attestations of the senders and
the volumes of the day.  `Writes` says what an invocation does to them (`invoke_writes`), and
`WellFormed` is what they always satisfy.
-/

namespace RemitBridge

namespace Hook

open Exec TransitionSystem

variable {ω : Type} {self : Address} {env : Env} {w₀ w w' : World ω} {l : Label ω}
  {ls : List (Label ω)} {c : Call} {s s' : Storage} {now : U64}

/-- The call touches neither thresholds nor attestations nor volumes. -/
def Call.administers : Call → Bool
  | initializeContract .. | setOperator .. | setEscrow .. | setPaused ..
  | checkTransferAllowed .. => true
  | _ => false

/-- What an invocation at the time `now` does to the three maps. -/
inductive Writes (env : Env) (now : U64) (s s' : Storage) : Call → Prop
  | nothing {c : Call} : c.administers = true → s'.thresholds = s.thresholds →
      s'.attestations = s.attestations → s'.volumes = s.volumes → Writes env now s s' c
  | thresholds {thresholds : TierThresholds} : thresholds.isValid = true →
      s'.thresholds = s.thresholds.insert thresholds.corridorId thresholds →
      s'.attestations = s.attestations → s'.volumes = s.volumes →
      Writes env now s s' (.setTierThresholds thresholds)
  | publishes {attester subject : Address} {tier : KycTier} {attestationHash : BytesN 32}
      {regionId providerId : Symbol} {expiresAt : U64} : env.signed attester = true →
      s.isOperator attester = true → now < expiresAt →
      s'.attestations = s.attestations.insert subject
        ⟨subject, tier, attestationHash, regionId, providerId, now, expiresAt, false⟩ →
      s'.thresholds = s.thresholds → s'.volumes = s.volumes →
      Writes env now s s' (.publishAttestation attester subject tier attestationHash regionId
        providerId expiresAt)
  | revokes {attester subject : Address} {reason : Symbol} {record : Attestation} :
      env.signed attester = true → s.isOperator attester = true →
      s.getAttestation subject = some record →
      (s'.attestations = s.attestations ∧ record.revoked = true ∨
        s'.attestations = s.attestations.insert subject { record with revoked := true }) →
      s'.thresholds = s.thresholds → s'.volumes = s.volumes →
      Writes env now s s' (.revokeAttestation attester subject reason)
  | commits {sender : Address} {amount total : I128} {corridorId : Symbol}
      {thresholds : TierThresholds} : 0 < amount.val →
      s.getThresholds corridorId = some thresholds →
      total.val = (s.dailyVolume sender corridorId (dayOf now)).val + amount.val →
      total ≤ thresholds.dailyLimit →
      s'.volumes = s.volumes.insert (sender, corridorId, dayOf now) total →
      s'.thresholds = s.thresholds → s'.attestations = s.attestations →
      Writes env now s s' (.commitTransfer sender amount corridorId)

/-- Thresholds and attestations are stored under their own name, thresholds are valid, and
volumes are not negative. -/
structure WellFormed (s : Storage) : Prop where
  thresholds : Store.All (fun corridorId thresholds =>
    thresholds.corridorId = corridorId ∧ thresholds.isValid = true) s.thresholds
  attestations : Store.All (fun subject record => record.subject = subject) s.attestations
  volumes : Store.All (fun _ (volume : I128) => 0 ≤ volume.val) s.volumes

theorem WellFormed.blank : WellFormed .blank :=
  ⟨Store.all_empty _, Store.all_empty _, Store.all_empty _⟩

theorem WellFormed.dailyVolume_nonneg (hw : WellFormed s) (sender : Address)
    (corridorId : Symbol) (day : U64) : 0 ≤ (s.dailyVolume sender corridorId day).val := by
  unfold Storage.dailyVolume
  cases hv : s.volumes.lookup (sender, corridorId, day) with
  | none => exact le_rfl
  | some volume => exact hw.volumes _ _ hv

/-- **What an invocation writes.** -/
theorem invoke_writes {ret : Ret} (hw : WellFormed w.store)
    (h : invoke env c w = .ok (ret, w')) :
    w'.ledger = w.ledger ∧ Writes env w.ledger.timestamp w.store w'.store c := by
  cases c with
  | initializeContract =>
    simp [invoke, initializeContract, bind_assoc] at h
    obtain ⟨-, -, -, rfl⟩ := h
    exact ⟨rfl, .nothing rfl rfl rfl rfl⟩
  | setOperator =>
    simp [invoke, setOperator, bind_assoc] at h
    obtain ⟨-, -, -, -, rfl⟩ := h
    exact ⟨rfl, .nothing rfl rfl rfl rfl⟩
  | setEscrow =>
    simp [invoke, setEscrow, bind_assoc] at h
    obtain ⟨-, -, -, -, rfl⟩ := h
    exact ⟨rfl, .nothing rfl rfl rfl rfl⟩
  | setPaused =>
    simp [invoke, setPaused, bind_assoc] at h
    obtain ⟨-, -, -, -, rfl⟩ := h
    exact ⟨rfl, .nothing rfl rfl rfl rfl⟩
  | setTierThresholds =>
    simp [invoke, setTierThresholds, bind_assoc] at h
    obtain ⟨-, -, -, hvalid, -, rfl⟩ := h
    exact ⟨rfl, .thresholds hvalid rfl rfl rfl⟩
  | publishAttestation =>
    simp [invoke, publishAttestation, bind_assoc] at h
    obtain ⟨hsigned, hoperator, hexpiry, -, rfl⟩ := h
    exact ⟨rfl, .publishes hsigned hoperator hexpiry rfl rfl rfl⟩
  | revokeAttestation =>
    simp [invoke, revokeAttestation, bind_assoc] at h
    obtain ⟨hsigned, hoperator, record, hrecord, h⟩ := h
    -- A record that is revoked already is left alone.
    unfold revokeRecord at h
    split_ifs at h with hrevoked
    · simp at h
      obtain ⟨-, rfl⟩ := h
      exact ⟨rfl, .revokes hsigned hoperator hrecord (.inl ⟨rfl, hrevoked⟩) rfl rfl⟩
    · simp [bind_assoc] at h
      obtain ⟨-, rfl⟩ := h
      obtain rfl := hw.attestations _ _ hrecord
      exact ⟨rfl, .revokes hsigned hoperator hrecord (.inr rfl) rfl rfl⟩
  | checkTransferAllowed =>
    simp only [invoke, checkTransferAllowed, bind_assoc] at h
    obtain ⟨evaluation, w₁, h₁, h₂⟩ := bind_ok.1 h
    obtain rfl := evaluate_ok h₁
    obtain ⟨-, rfl⟩ := pure_ok.1 h₂
    exact ⟨rfl, .nothing rfl rfl rfl rfl⟩
  | commitTransfer =>
    obtain ⟨total, h₁, rfl⟩ := bind_pure_ok.1 h
    obtain ⟨-, -, -, hpos, -, thresholds, hthresholds, htotal, hle, -, -, -, rfl⟩ :=
      commitTransfer_ok.1 h₁
    exact ⟨rfl, .commits hpos hthresholds htotal hle rfl rfl rfl⟩

theorem WellFormed.writes (hw : WellFormed s) (h : Writes env now s s' c) : WellFormed s' := by
  obtain ⟨hthresholds, hattestations, hvolumes⟩ := hw
  cases h with
  | nothing _ ht ha hv => exact ⟨ht ▸ hthresholds, ha ▸ hattestations, hv ▸ hvolumes⟩
  | thresholds hvalid ht ha hv =>
    exact ⟨ht ▸ hthresholds.insert ⟨rfl, hvalid⟩, ha ▸ hattestations, hv ▸ hvolumes⟩
  | publishes _ _ _ ha ht hv =>
    exact ⟨ht ▸ hthresholds, ha ▸ hattestations.insert rfl, hv ▸ hvolumes⟩
  | revokes _ _ hrecord ha ht hv =>
    have hsubject := hattestations _ _ hrecord
    refine ⟨ht ▸ hthresholds, ?_, hv ▸ hvolumes⟩
    rcases ha with ⟨ha, -⟩ | ha
    · exact ha ▸ hattestations
    · exact ha ▸ hattestations.insert hsubject
  | @commits sender amount total corridorId _ hpos _ htotal _ hv ht ha =>
    refine ⟨ht ▸ hthresholds, ha ▸ hattestations, hv ▸ hvolumes.insert ?_⟩
    have hspent := WellFormed.dailyVolume_nonneg ⟨hthresholds, hattestations, hvolumes⟩ sender
      corridorId (dayOf now)
    omega

/-- A step is quiet, or a successful invocation that writes what it may. -/
theorem step_cases (hw : WellFormed w.store) (h : (contract self).lts.step w l w') :
    (contract self).Quiet w l w' ∨ ∃ env c ret ms es, l = .call env c (.done ret ms es) ∧
      w'.ledger = w.clear.ledger ∧ Writes env w.ledger.timestamp w.store w'.store c := by
  rcases Contract.step_cases h with hq | ⟨env, c, ret, rfl, -, h⟩
  · exact .inl hq
  · exact .inr ⟨env, c, ret, _, _, rfl, invoke_writes (w := w.clear) hw h⟩

theorem WellFormed.step (hw : WellFormed w.store) (h : (contract self).lts.step w l w') :
    WellFormed w'.store := by
  rcases step_cases hw h with hq | ⟨env, c, ret, ms, es, -, -, h⟩
  · exact hq.store ▸ hw
  · exact hw.writes h

theorem WellFormed.run (hw : WellFormed w₀.store) (h : (contract self).lts.Run w₀ ls w) :
    WellFormed w.store :=
  h.invariant (I := fun w => WellFormed w.store) hw fun _ _ _ hw hst => hw.step hst

theorem wellFormed_of_run (h₀ : w₀.store = .blank) (h : (contract self).lts.Run w₀ ls w) :
    WellFormed w.store :=
  WellFormed.run (h₀ ▸ WellFormed.blank) h

end Hook

end RemitBridge
