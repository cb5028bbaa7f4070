import RemitBridge.Kyc.Publication

/-!
# Revoked and expired attestations

An operator revokes what is active, the sweep expires what is active, and neither touches a row that
is revoked or expired already.  An event of the provider is written whatever the row reads, so a
late or repeated one brings a revoked row back.  As long as none does, a revoked row stays revoked
and an expired one does not become active (`revocation_final`).
-/

namespace RemitBridge

namespace Kyc

open Backend Process TransitionSystem

variable {N V : Type} {lib : Library} {env : KycSettings}
  {provider : Environment V ProviderCall ProviderAnswer Failure}
  {net : Environment N RpcCall RpcAnswer Failure} {id : String}

/-- What a row that has had a status must not become again. -/
def AttestationStatus.bars : AttestationStatus → AttestationStatus → Bool
  | revoked, status => decide (status = active ∨ status = pending)
  | expired, status => decide (status = active)
  | pending, _ | active, _ => false

/-- What remains true of a row that has had a status. -/
def AttestationStatus.Settled : AttestationStatus → AttestationStatus → Prop
  | revoked, status => status = revoked
  | expired, status => status ≠ active
  | pending, _ | active, _ => True

/-- An event writes a status that a row with the status `old` must not get, or the identifier of a
row is given to another one. -/
def Breaks (old : AttestationStatus) (id : String) : ServiceLabel → Prop
  | .call _ _ (.inl (.inl (.update id' (.screened status _)))) _ =>
    id' = id ∧ old.bars status = true
  | .call _ _ (.inl (.inl (.createAttestation row))) _ => row.id = id
  | _ => False

/-- The rows with this identifier have a status that is still settled. -/
def SettledAt (old : AttestationStatus) (id : String) (s : StagedState V N) : Prop :=
  ∀ row ∈ s.world.1.1.attestations, row.id = id → old.Settled row.status

variable {old : AttestationStatus} {s s' : StagedState V N} {w : World V N} {row : KycAttestation}

theorem AttestationStatus.Settled.not_bars {status : AttestationStatus} (h : old.Settled status) :
    old.bars status = false := by
  cases old with
  | revoked =>
    obtain rfl : status = .revoked := h
    rfl
  | expired => exact decide_eq_false h
  | pending | active => rfl

theorem AttestationStatus.settled_of_not_bars {status : AttestationStatus}
    (h : old.bars status = false) (hstatus : status ≠ .expired) : old.Settled status := by
  cases old with
  | revoked =>
    obtain ⟨hactive, hpending⟩ := not_or.1 (of_decide_eq_false h)
    cases status with
    | active => exact absurd rfl hactive
    | pending => exact absurd rfl hpending
    | expired => exact absurd rfl hstatus
    | revoked => rfl
  | expired => exact of_decide_eq_false h
  | pending | active => trivial

/-- A settled row is not written to by revocations and sweeps, which are about active ones, unless
any status is settled. -/
theorem AttestationStatus.Settled.swept {data : AttestationData} (h : old.Settled row.status)
    (hactive : row.status = .active) : old.Settled (data.apply row).status := by
  rw [hactive] at h
  cases old with
  | revoked => cases h
  | expired => exact absurd rfl h
  | pending | active => trivial

/-- An event writes a status. -/
theorem WebhookEvent.data_eq (event : WebhookEvent) (now : ℕ) : ∃ status revocation,
    event.data now = .screened status revocation ∧ status ≠ .expired := by
  rw [WebhookEvent.data]
  split
  · exact ⟨_, _, rfl, nofun⟩
  · exact ⟨_, _, rfl, nofun⟩
  · exact ⟨_, _, rfl, nofun⟩
  · exact ⟨_, _, rfl, nofun⟩

theorem AttestationData.status_screened {status : AttestationStatus}
    {revocation : Option (ℕ × String)} :
    ((screened status revocation).apply row).status = status := by
  cases revocation <;> rfl

/-! ### One step -/

theorem SettledAt.of_subset (h : SettledAt old id s)
    (hrows : ∀ row ∈ s'.world.1.1.attestations, row ∈ s.world.1.1.attestations) :
    SettledAt old id s' := fun row hrow => h row (hrows row hrow)

theorem SettledAt.revise {stage : ℕ → Option (Command × Stage)} {q : Query}
    {o : Except Failure (QueryAnswer q)} (h : SettledAt old id s) (hq : q.creates = false)
    (hanswers : (environment provider net).answers s.world (.inl (.inl q)) o w)
    (hdata : ∀ data, q.data = some data → ∀ row, q.concerns s.world.1.1 row = true → row.id = id →
      old.Settled row.status → old.Settled (data.apply row).status) :
    SettledAt old id (⟨w, stage⟩ : StagedState V N) := by
  intro row hrow hid
  obtain ⟨before, hbefore, rfl | ⟨data, hsome, rfl, hconcerns⟩⟩ :=
    revised_of_answers hq hanswers.1.1 row hrow
  · exact h row hbefore hid
  · rw [AttestationData.apply_id] at hid
    exact hdata data hsome before hconcerns hid (h before hbefore hid)

theorem SettledAt.create {stage : ℕ → Option (Command × Stage)} {new : KycAttestation}
    {o : Except Failure (QueryAnswer (.createAttestation new))} (h : SettledAt old id s)
    (hanswers : (environment provider net).answers s.world
      (.inl (.inl (.createAttestation new))) o w)
    (hnew : new.id ≠ id) : SettledAt old id (⟨w, stage⟩ : StagedState V N) := by
  have hcreate :
      ∀ record, Query.perform (.createAttestation new) s.world.1.1 = some (record, w.1.1) →
      SettledAt old id (⟨w, stage⟩ : StagedState V N) := by
    intro record hperform row hrow hid
    change row ∈ w.1.1.attestations at hrow
    rw [(created_of_perform hperform).1] at hrow
    rcases List.mem_append.1 hrow with hrow | hrow
    · exact h row hrow hid
    · exact absurd (List.mem_singleton.1 hrow ▸ hid) hnew
  cases o with
  | ok record => exact hcreate record hanswers.1.1
  | error e =>
    rcases hanswers.1.1 with hsame | ⟨record, hperform⟩
    · refine h.of_subset fun row hrow => ?_
      rwa [← hsame]
    · exact hcreate record hperform

/-- **One step** that does not break a settled status keeps it. -/
theorem SettledAt.step {l : ServiceLabel} (h : SettledAt old id s)
    (hst : (staged (environment provider net) (staging lib env)).step s l s')
    (hl : ¬ Breaks old id l) : SettledAt old id s' := by
  cases hst with
  | start | finish | stop => exact h
  | @call pid c φ ψ q o w hstage hnext hanswers =>
    cases stageCall_of_next hnext with
    | looked hdata hq =>
      refine h.revise hq hanswers fun data hsome => ?_
      rw [hdata] at hsome
      cases hsome
    | identified =>
      refine h.revise rfl hanswers fun data hsome => ?_
      cases hsome
    | screened | unscreened =>
      have hsame : w.1.1 = s.world.1.1 := hanswers.1.2
      refine h.of_subset fun row hrow => ?_
      rwa [← hsame]
    | submitted | began | revoking =>
      have hsame : w.1 = s.world.1 := hanswers.2
      refine h.of_subset fun row hrow => ?_
      rwa [← hsame]
    | created | recorded | unrecorded => exact h.create hanswers hl
    | noted =>
      refine h.revise rfl hanswers fun data hsome row _ _ hrow => ?_
      cases hsome
      exact hrow
    | @decided id' event o =>
      refine h.revise rfl hanswers fun data hsome row hconcerns hid hrow => ?_
      cases hsome
      -- An event does not write `expired`, and this step writes nothing that the status bars.
      obtain ⟨status, revocation, hdata, hstatus⟩ := event.data_eq c.now
      have hid' : id' = id := (of_decide_eq_true hconcerns).symm.trans hid
      generalize event.data c.now = data at o hl hdata
      subst hdata
      rw [AttestationData.status_screened]
      refine AttestationStatus.settled_of_not_bars ?_ hstatus
      exact Bool.eq_false_of_not_eq_true fun hbars => hl ⟨hid', hbars⟩
    | revoked | expired =>
      refine h.revise rfl hanswers fun data hsome row hconcerns _ hrow => ?_
      exact hrow.swept (active_of_selects hconcerns)
  | evolve hevolves =>
    refine h.of_subset fun row hrow => ?_
    rcases hevolves with ⟨⟨hcontinues, -⟩ | ⟨-, hsame⟩, -⟩ | ⟨-, hsame⟩
    · exact hcontinues.subset hrow
    · rwa [← hsame]
    · rwa [← hsame]

/-- **Finality.**  Once a row has been revoked or expired it does not get a status that this bars,
as long as no event writes one to it. -/
theorem revocation_final {s₀ s₁ s₂ : ServiceState V N} {ls₁ ls₂ : List ServiceLabel} (h₀ : s₀.Idle)
    (h₁ : (service lib env provider net).Run s₀ ls₁ s₁)
    (hold : ∀ row ∈ s₁.world.1.1.attestations, row.id = id → row.status = old)
    (h₂ : ((service lib env provider net).restrict fun _ l _ => ¬ Breaks old id l).Run s₁ ls₂ s₂)
    {row : KycAttestation} (hrow : row ∈ s₂.world.1.1.attestations) (hid : row.id = id) :
    old.bars row.status = false := by
  have hdisciplined := disciplined_of_run follows_program h₀ h₁
  have hrun :=
    (staged_of_run (G := fun _ l _ => ¬ Breaks old id l) follows_program hdisciplined h₂).1
  have hsettled : SettledAt old id (s₂.staged (staging lib env)) := by
    refine hrun.invariant (I := SettledAt old id) (fun row hrow hid => ?_) fun s l s' hs hst =>
      hs.step hst.1 hst.2
    rw [hold row hrow hid]
    cases old with
    | revoked => rfl
    | expired => exact nofun
    | pending | active => trivial
  exact (hsettled row hrow hid).not_bars

/-! ### An approval that is delivered again -/

namespace Sample

/-- A verification that is published and then revoked by an operator. -/
def revoked : List (Turn Command) :=
  published 500 ++ [.finish 1, .start 2 (.revokeForSubject "sender" "FRAUD" 2000), .call 2, .call 2,
    .call 2, .call 2, .call 2, .finish 2]

/-- The provider reports the approval. -/
def approval : List (Turn Command) :=
  [.start 3 (.webhook "http" [] "approved" 3000), .call 3, .call 3]

/-- The sweep. -/
def sweep : List (Turn Command) := [.start 3 (.expireStaleAttestations 3000), .call 3]

/-- The steps of a script after the revocation. -/
def continued (ts : List (Turn Command)) : List ServiceLabel :=
  trace (program library settings) answer (played revoked) ts

theorem continued_run (ts : List (Turn Command)) :
    (service library settings (.ofAnswer screen) (.ofAnswer Liquidity.Sample.respond)).Run
      (played revoked) (continued ts) (played (revoked ++ ts)) := by
  rw [show played (revoked ++ ts) = _ from play_append revoked ts]
  exact play_run answer_answers ts

theorem revoked_rows : ∀ row ∈ (played revoked).world.1.1.attestations, row.status = .revoked := by
  decide +kernel

end Sample

/-- A row is revoked, and then active. -/
theorem not_revocation_final_sample : Sample.opened.Idle ∧
    (service Sample.library Sample.settings (.ofAnswer Sample.screen)
      (.ofAnswer Liquidity.Sample.respond)).Run Sample.opened (Sample.traced Sample.revoked)
      (Sample.played Sample.revoked) ∧
    (∃ row ∈ (Sample.played Sample.revoked).world.1.1.attestations,
      row.id = "uuid" ∧ row.status = .revoked) ∧
    (service Sample.library Sample.settings (.ofAnswer Sample.screen)
      (.ofAnswer Liquidity.Sample.respond)).Run (Sample.played Sample.revoked)
      (Sample.continued Sample.approval) (Sample.played (Sample.revoked ++ Sample.approval)) ∧
    ∃ row ∈ (Sample.played (Sample.revoked ++ Sample.approval)).world.1.1.attestations,
      row.id = "uuid" ∧ row.status = .active :=
  ⟨Sample.opened_idle, play_run Sample.answer_answers _, by decide +kernel,
    Sample.continued_run Sample.approval, by decide +kernel⟩

/-- The sweep leaves the row as it is. -/
theorem revocation_final_sample :
    ∃ row ∈ (Sample.played (Sample.revoked ++ Sample.sweep)).world.1.1.attestations,
      row.id = "uuid" ∧ AttestationStatus.revoked.bars row.status = false := by
  have hcalm : ∀ l ∈ Sample.continued Sample.sweep, ¬ Breaks .revoked "uuid" l := by
    intro l hl
    obtain ⟨count, hcount⟩ : ∃ o, Sample.continued Sample.sweep =
        [.start 3 (.expireStaleAttestations 3000), .call 3 (.expireStaleAttestations 3000)
          (.inl (.inl (.updateMany (.lapsed 3000) .expired))) o] := ⟨_, rfl⟩
    rw [hcount] at hl
    rcases List.mem_cons.1 hl with rfl | hl
    · exact id
    · obtain rfl := List.mem_singleton.1 hl
      exact id
  obtain ⟨row, hrow, hid⟩ :
      ∃ row ∈ (Sample.played (Sample.revoked ++ Sample.sweep)).world.1.1.attestations,
        row.id = "uuid" := by
    decide +kernel
  exact ⟨row, hrow, hid, revocation_final Sample.opened_idle
    (play_run Sample.answer_answers Sample.revoked) (fun row hrow _ => Sample.revoked_rows row hrow)
    ((Sample.continued_run Sample.sweep).restrict_of_labels hcalm) hrow hid⟩

end Kyc

end RemitBridge
