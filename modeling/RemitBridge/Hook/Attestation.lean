import RemitBridge.Hook.Ceiling

/-!
# The attestation behind a commit

The record of a sender always says what the latest of its publications and revocations said
(`reflects_of_run`).  A commit reads that record, so behind every commit stands the right event
(`no_under_verified`).
-/

namespace RemitBridge

namespace Hook

open Exec TransitionSystem

variable {ω : Type} {self : Address} {w₀ w w' : World ω} {l : Label ω} {ls : List (Label ω)}
  {subject sender : Address} {amount : I128} {corridorId : Symbol}

/-- What happens to the attestation of a subject. -/
inductive AttestationEvent where
  | published (attester : Address) (tier : KycTier) (expiresAt : U64)
  | revoked (attester : Address)
  deriving DecidableEq

/-- The event of a step that concerns the subject. -/
def attestationEvent (subject : Address) : Label ω → Option AttestationEvent
  | .call _ (.publishAttestation attester subject' tier _ _ _ expiresAt) (.done ..) =>
    if subject' = subject then some (.published attester tier expiresAt) else none
  | .call _ (.revokeAttestation attester subject' _) (.done ..) =>
    if subject' = subject then some (.revoked attester) else none
  | _ => none

/-- The latest event of a run that concerns the subject. -/
def latestEvent (subject : Address) (ls : List (Label ω)) : Option AttestationEvent :=
  (ls.filterMap (attestationEvent subject)).getLast?

/-- The record says what the latest event said. -/
inductive Reflects : Option AttestationEvent → Option Attestation → Prop
  | nothing : Reflects none none
  | published {attester : Address} {record : Attestation} : record.revoked = false →
      Reflects (some (.published attester record.tier record.expiresAt)) (some record)
  | revoked {attester : Address} {record : Attestation} : record.revoked = true →
      Reflects (some (.revoked attester)) (some record)

theorem latestEvent_concat : latestEvent subject (ls ++ [l]) =
    (attestationEvent subject l).or (latestEvent subject ls) := by
  rw [latestEvent, List.filterMap_append, List.getLast?_append, latestEvent]
  cases h : attestationEvent subject l <;> simp [h]

theorem attestationEvent_of_failed (h : l.succeeded = false) :
    attestationEvent subject l = none := by
  rcases l with ⟨_, c, _ | _⟩ | _ | _ | _
  · cases h
  · cases c <;> rfl
  · rfl
  · rfl
  · rfl

theorem attestationEvent_of_administers {env : Env} {c : Call} {ret : Ret}
    {ms : List TokenTransfer} {es : List Event} (h : c.administers = true) :
    attestationEvent (ω := ω) subject (.call env c (.done ret ms es)) = none := by
  cases c <;> first | rfl | cases h

/-- Only a publication counts as one. -/
theorem exists_publication {attester : Address} {tier : KycTier} {expiresAt : U64}
    (h : attestationEvent subject l = some (.published attester tier expiresAt)) :
    ∃ env attestationHash regionId providerId ret ms es, l = .call env (.publishAttestation attester
      subject tier attestationHash regionId providerId expiresAt) (.done ret ms es) := by
  rcases l with ⟨env, c, ⟨ret, ms, es⟩ | _⟩ | _ | _ | _
  case call.done =>
    cases c with
    | publishAttestation attester' subject' tier' attestationHash regionId providerId expiresAt' =>
      simp only [attestationEvent] at h
      split_ifs at h with hsubject
      simp only [Option.some.injEq, AttestationEvent.published.injEq] at h
      obtain ⟨rfl, rfl, rfl⟩ := h
      exact ⟨env, attestationHash, regionId, providerId, ret, ms, es, by rw [hsubject]⟩
    | revokeAttestation attester' subject' reason =>
      simp only [attestationEvent] at h
      split_ifs at h
      cases h
    | _ => cases h
  case call.reverted =>
    rw [attestationEvent_of_failed rfl] at h
    cases h
  all_goals cases h

theorem getAttestation_congr {s s' : Storage} (h : s'.attestations = s.attestations) :
    s'.getAttestation subject = s.getAttestation subject := by
  rw [Storage.getAttestation, h, Storage.getAttestation]

/-- A step changes the record of a subject as its event says. -/
theorem reflects_step {latest : Option AttestationEvent} (hw : WellFormed w.store)
    (hr : Reflects latest (w.store.getAttestation subject))
    (h : (contract self).lts.step w l w') :
    Reflects ((attestationEvent subject l).or latest) (w'.store.getAttestation subject) := by
  rcases step_cases hw h with hq | ⟨env, c, ret, ms, es, rfl, -, h⟩
  · rw [attestationEvent_of_failed hq.succeeded, hq.store]
    exact hr
  · cases h with
    | nothing hc _ ha =>
      rw [attestationEvent_of_administers hc, getAttestation_congr ha]
      exact hr
    | thresholds _ _ ha =>
      rw [getAttestation_congr ha]
      exact hr
    | commits _ _ _ _ _ _ ha =>
      rw [getAttestation_congr ha]
      exact hr
    | @publishes attester subject' tier attestationHash regionId providerId expiresAt _ _ _ ha =>
      -- A new record replaces the one of its own subject.
      rw [Storage.getAttestation, ha, Store.lookup_insert_ite, attestationEvent]
      by_cases hs : subject = subject'
      · rw [if_pos hs, if_pos hs.symm]
        have hnew : (⟨subject', tier, attestationHash, regionId, providerId, w.ledger.timestamp,
          expiresAt, false⟩ : Attestation).revoked = false := rfl
        exact .published hnew
      · rw [if_neg hs, if_neg (Ne.symm hs)]
        exact hr
    | @revokes attester subject' reason record _ _ hrecord ha =>
      rw [attestationEvent]
      by_cases hs : subject' = subject
      · -- A record that was revoked before stays as it is.
        subst hs
        rw [if_pos rfl]
        rcases ha with ⟨ha, hrevoked⟩ | ha
        · rw [getAttestation_congr ha, hrecord]
          exact .revoked hrevoked
        · rw [Storage.getAttestation, ha, AList.lookup_insert]
          exact .revoked rfl
      · rw [if_neg hs]
        rcases ha with ⟨ha, -⟩ | ha
        · rw [getAttestation_congr ha]
          exact hr
        · rw [Storage.getAttestation, ha, AList.lookup_insert_ne (Ne.symm hs)]
          exact hr

/-- **The record of a subject** says what its latest event said. -/
theorem reflects_of_run (h₀ : w₀.store = .blank) (h : (contract self).lts.Run w₀ ls w) :
    Reflects (latestEvent subject ls) (w.store.getAttestation subject) := by
  induction h with
  | nil =>
    rw [h₀]
    exact .nothing
  | snoc h hst ih =>
    rw [latestEvent_concat]
    exact reflects_step (wellFormed_of_run h₀ h) ih hst

/-- Only an operator publishes. -/
theorem operator_of_publish {env : Env} {attester : Address} {tier : KycTier}
    {attestationHash : BytesN 32} {regionId providerId : Symbol} {expiresAt : U64} {ret : Ret}
    {ms : List TokenTransfer} {es : List Event} (hw : WellFormed w.store)
    (h : (contract self).lts.step w (.call env (.publishAttestation attester subject tier
      attestationHash regionId providerId expiresAt) (.done ret ms es)) w') :
    w.store.isOperator attester = true ∧ env.signed attester = true := by
  have hinvoke : invoke env (.publishAttestation attester subject tier attestationHash regionId
    providerId expiresAt) w.clear = .ok (ret, w') := Contract.invoke_of_step_done h
  cases (invoke_writes (w := w.clear) hw hinvoke).2 with
  | nothing hc => cases hc
  | publishes hsigned hoperator => exact ⟨hoperator, hsigned⟩

/-- A tier that clears a required one is at least as high. -/
theorem tier_of_requiredTier {thresholds : TierThresholds} {tier : KycTier}
    (hlow : thresholds.tier1Max < amount)
    (h : tier.satisfies (thresholds.requiredTier amount) = true) :
    tier.satisfies .standard = true ∧ (thresholds.tier2Max < amount → tier = .enhanced) := by
  rw [TierThresholds.requiredTier, if_neg (not_le.2 hlow)] at h
  by_cases hhigh : amount ≤ thresholds.tier2Max
  · rw [if_pos hhigh] at h
    exact ⟨h, fun hlt => absurd hlt (not_lt.2 hhigh)⟩
  · rw [if_neg hhigh] at h
    cases tier with
    | none => cases h
    | standard => cases h
    | enhanced => exact ⟨rfl, fun _ => rfl⟩

/-- **No under-verified transfer.**  When a transfer is committed, the latest event of its sender is
not a revocation.  If the amount is beyond the first tier, there is a latest event and it is a
publication, made by an address that was an operator when it made it and signed for it; the
attestation has not expired, and its tier is the required one or higher. -/
theorem no_under_verified (h₀ : w₀.store = .blank) (h : (contract self).lts.Run w₀ ls w)
    {env : Env} {ret : Ret} {ms : List TokenTransfer} {es : List Event}
    (hst : (contract self).lts.step w
      (.call env (.commitTransfer sender amount corridorId) (.done ret ms es)) w') :
    (∀ attester, latestEvent sender ls ≠ some (.revoked attester)) ∧
    ∃ thresholds, w.store.getThresholds corridorId = some thresholds ∧
      (thresholds.tier1Max < amount →
        ∃ ls₁ ls₂ w₁ w₂ env₁ attester tier attestationHash regionId providerId expiresAt
          ret₁ ms₁ es₁,
          ls = ls₁ ++ .call env₁ (.publishAttestation attester sender tier attestationHash regionId
            providerId expiresAt) (.done ret₁ ms₁ es₁) :: ls₂ ∧
          (contract self).lts.Run w₀ ls₁ w₁ ∧ (contract self).lts.Run w₂ ls₂ w ∧
          (∀ l ∈ ls₂, attestationEvent sender l = none) ∧
          w₁.store.isOperator attester = true ∧ env₁.signed attester = true ∧
          w.ledger.timestamp < expiresAt ∧ tier.satisfies .standard = true ∧
          (thresholds.tier2Max < amount → tier = .enhanced)) := by
  have hreflects : Reflects (latestEvent sender ls) (w.store.getAttestation sender) :=
    reflects_of_run h₀ h
  obtain ⟨total, hcommit, -⟩ := bind_pure_ok.1 (Contract.invoke_of_step_done hst)
  obtain ⟨-, -, -, -, -, thresholds, hthresholds, -, -, -, hrevoked, ⟨held, -, hheld⟩, -⟩ :=
    commitTransfer_ok.1 hcommit
  have hlive : ∀ record, w.store.getAttestation sender = some record → record.revoked = false :=
    fun record hrecord => by
      have hrecord' : w.clear.store.getAttestation sender = some record := hrecord
      rw [hrecord', Option.any_some] at hrevoked
      exact hrevoked
  refine ⟨?_, thresholds, hthresholds, ?_⟩
  · intro attester hlatest
    rw [hlatest] at hreflects
    generalize hrecord : w.store.getAttestation sender = stored at hreflects
    cases hreflects with
    | revoked hrevoked' =>
      rw [hlive _ hrecord] at hrevoked'
      cases hrevoked'
  · intro hlow
    have hrequired : thresholds.requiredTier amount ≠ .none := by
      rw [TierThresholds.requiredTier, if_neg (not_le.2 hlow)]
      split_ifs <;> nofun
    obtain ⟨record, hrecord, hexpiry, hsatisfies⟩ := hheld hrequired
    have hstored : w.store.getAttestation sender = some record := hrecord
    -- The record is live, so the latest event is the publication that wrote it.
    rw [hstored] at hreflects
    generalize hlatest : latestEvent sender ls = latest at hreflects
    cases hreflects with
    | revoked hrevoked' =>
      rw [hlive _ hstored] at hrevoked'
      cases hrevoked'
    | @published attester =>
      obtain ⟨ls₁, l, ls₂, w₁, w₂, rfl, h₁, hpublish, hevent, h₂, hnone⟩ := h.exists_last hlatest
      obtain ⟨env₁, attestationHash, regionId, providerId, ret₁, ms₁, es₁, rfl⟩ :=
        exists_publication hevent
      obtain ⟨hoperator, hsigned⟩ := operator_of_publish (wellFormed_of_run h₀ h₁) hpublish
      obtain ⟨hstandard, henhanced⟩ := tier_of_requiredTier hlow hsatisfies
      exact ⟨ls₁, ls₂, w₁, w₂, env₁, attester, record.tier, attestationHash, regionId, providerId,
        record.expiresAt, ret₁, ms₁, es₁, rfl, h₁, h₂, hnone, hoperator, hsigned, hexpiry,
        hstandard, henhanced⟩

namespace Sample

/-- After midnight, before the second commit. -/
def earlier : World Unit := (contract ⟨0⟩).play blank (script.take 8)

def earlierTrace : List (Label Unit) := (contract ⟨0⟩).trace blank (script.take 8)

theorem earlier_run : (contract ⟨0⟩).lts.Run blank earlierTrace earlier :=
  Contract.play_run (script.take 8) rfl

theorem last_commit : (contract ⟨0⟩).lts.step earlier (.call (signedBy escrow)
    (.commitTransfer alice 1000 corridor.corridorId) (.done (.total 1000) [] final.events)) final :=
  Contract.step_done rfl rfl rfl rfl

end Sample

/-- The second commit is beyond the first tier. -/
theorem no_under_verified_sample : ∃ (w₁ : World Unit) (attester : Address) (tier : KycTier)
    (expiresAt : U64), w₁.store.isOperator attester = true ∧
      Sample.earlier.ledger.timestamp < expiresAt ∧ tier.satisfies .standard = true := by
  obtain ⟨-, thresholds, hthresholds, h⟩ :=
    no_under_verified rfl Sample.earlier_run Sample.last_commit
  have hcorridor : Sample.earlier.store.getThresholds Sample.corridor.corridorId =
      some Sample.corridor := by decide
  obtain rfl := Option.some.inj (hthresholds.symm.trans hcorridor)
  obtain ⟨_, _, w₁, _, _, attester, tier, _, _, _, expiresAt, _, _, _, -, -, -, -, hoperator, -,
    hexpiry, htier, -⟩ := h (by decide)
  exact ⟨w₁, attester, tier, expiresAt, hoperator, hexpiry, htier⟩

end Hook

end RemitBridge
