import RemitBridge.Hook.Gate

/-!
# Splitting a transfer

The rules of the gate are bounds on the amount, the volume of the day and the tier, and a smaller
amount is below every bound a larger one is below (`evaluate_mono`).  Volumes add up, so two
commits are as good as one of their sum, and every commit is compared with the limit with all that
was committed before it on the same day: splitting a transfer buys nothing (`split_neutral`).
-/

namespace RemitBridge

namespace Hook

open Exec TransitionSystem

variable {ω : Type} {self : Address} {env : Env} {w₀ w w' v v' : World ω} {l : Label ω}
  {ls : List (Label ω)} {sender : Address} {amount less : I128} {corridorId : Symbol} {day : U64}
  {thresholds : TierThresholds}

/-- A check allows the amount. -/
def Allows (sender : Address) (corridorId : Symbol) (amount : I128) (v : World ω) : Prop :=
  checkTransferAllowed sender amount corridorId v = .ok (true, v)

/-- The step is a commit of the amount. -/
def Commits (self : Address) (env : Env) (sender : Address) (corridorId : Symbol) (amount : I128)
    (v v' : World ω) : Prop :=
  ∃ total events, (contract self).lts.step v (.call env (.commitTransfer sender amount corridorId)
    (.done (.total total) [] events)) v'

/-! ### A smaller amount -/

/-- Who holds a tier holds the lower ones. -/
theorem HoldsTier.mono {attestation : Option Attestation} {lower tier held : KycTier} {now : U64}
    (h : HoldsTier attestation tier now held) (hle : lower.rank ≤ tier.rank) :
    HoldsTier attestation lower now held := by
  refine ⟨h.1, fun hrequired => ?_⟩
  have htier : tier ≠ .none := by
    rintro rfl
    exact hrequired (KycTier.eq_none_of_rank_le hle)
  obtain ⟨record, hrecord, hexpiry, hsatisfies⟩ := h.2 htier
  exact ⟨record, hrecord, hexpiry, decide_eq_true (hle.trans (of_decide_eq_true hsatisfies))⟩

/-- **The evaluation is monotone.** -/
theorem evaluate_mono {evaluation : Evaluation} (hw : WellFormed v.store) (hpos : 0 < less.val)
    (hle : less ≤ amount) (h : evaluate sender amount corridorId v = .ok (evaluation, v')) :
    ∃ evaluation', evaluate sender less corridorId v = .ok (evaluation', v) := by
  obtain ⟨-, hpaused, -, thresholds, hthresholds, htotal, hlimit, -, hrevoked, -, hheld⟩ :=
    evaluate_eq_ok.1 h
  have hspent := hw.dailyVolume_nonneg sender corridorId (dayOf v.ledger.timestamp)
  have htier := thresholds.rank_requiredTier_mono hle
  have hmax := thresholds.dailyLimit.le_hi
  rw [MachineInt.le_def] at hle hlimit
  obtain ⟨total, htotal'⟩ : ∃ total : I128, total.val =
      (v.store.dailyVolume sender corridorId (dayOf v.ledger.timestamp)).val + less.val :=
    ⟨⟨_, by omega, by omega⟩, rfl⟩
  obtain ⟨remaining, hremaining⟩ : ∃ remaining : I128,
      remaining.val = thresholds.dailyLimit.val - total.val := ⟨⟨_, by omega, by omega⟩, rfl⟩
  exact ⟨⟨_, _, remaining, total⟩, evaluate_eq_ok.2 ⟨rfl, hpaused, hpos, thresholds, hthresholds,
    htotal', MachineInt.le_def.2 (by simp only; omega), hremaining, hrevoked, rfl,
    hheld.mono htier⟩⟩

theorem allows_iff : Allows sender corridorId amount v ↔
    ∃ evaluation, evaluate sender amount corridorId v = .ok (evaluation, v) := by
  rw [Allows, checkTransferAllowed_eq]
  constructor
  · intro h
    cases heval : evaluate sender amount corridorId v with
    | ok p =>
      obtain ⟨evaluation, v₁⟩ := p
      obtain ⟨rfl, -⟩ := evaluate_eq_ok.1 heval
      exact ⟨evaluation, rfl⟩
    | error e =>
      rw [heval] at h
      cases h
  · rintro ⟨evaluation, h⟩
    rw [h]
    rfl

theorem Allows.mono (hw : WellFormed v.store) (h : Allows sender corridorId amount v)
    (hpos : 0 < less.val) (hle : less ≤ amount) : Allows sender corridorId less v := by
  obtain ⟨evaluation, heval⟩ := allows_iff.1 h
  exact allows_iff.2 (evaluate_mono hw hpos hle heval)

/-! ### Two commits for one -/

/-- The gate reads only the storage and the time. -/
theorem evaluate_congr {u : World ω} {evaluation : Evaluation} (hstore : u.store = v.store)
    (htime : u.ledger.timestamp = v.ledger.timestamp)
    (h : evaluate sender amount corridorId v = .ok (evaluation, v')) :
    evaluate sender amount corridorId u = .ok (evaluation, u) := by
  rw [evaluate_eq_ok] at h ⊢
  rw [hstore, htime]
  exact ⟨rfl, h.2⟩

/-- What a commit of an allowed amount leaves. -/
structure Committed (sender : Address) (corridorId : Symbol) (amount : I128) (v v' : World ω) :
    Prop where
  volume : ∀ sender' corridorId' day, (v'.store.dailyVolume sender' corridorId' day).val =
    (v.store.dailyVolume sender' corridorId' day).val +
      if (sender', corridorId', day) = (sender, corridorId, dayOf v.ledger.timestamp) then
        amount.val
      else 0
  rest : (v'.store.isPaused, v'.store.escrow, v'.store.thresholds, v'.store.attestations) =
    (v.store.isPaused, v.store.escrow, v.store.thresholds, v.store.attestations)
  timestamp : v'.ledger.timestamp = v.ledger.timestamp

/-- The escrow can commit what is allowed. -/
theorem Allows.commits {escrow : Address} (h : Allows sender corridorId amount v)
    (hescrow : v.store.escrow = some escrow) (hself : env.signed self = false)
    (hsigned : env.signed escrow = true) : ∃ v', Commits self env sender corridorId amount v v' ∧
      Committed sender corridorId amount v v' := by
  obtain ⟨evaluation, heval⟩ := allows_iff.1 h
  obtain ⟨-, -, hpos, thresholds, -, htotal, -⟩ := evaluate_eq_ok.1 heval
  have hok : commitTransfer env sender amount corridorId v.clear =
      .ok (evaluation.dailyTotalAfter, committed sender amount corridorId evaluation v.clear) := by
    have hclear : evaluate sender amount corridorId v.clear = .ok (evaluation, v.clear) :=
      evaluate_congr (v := v) rfl rfl heval
    rw [commitTransfer_eq (v := v.clear) hescrow hsigned hpos, hclear]
    rfl
  refine ⟨_, ⟨_, _, Contract.step_done hself (bind_pure_ok.2 ⟨_, hok, rfl⟩) rfl rfl⟩, ?_, rfl, rfl⟩
  intro sender' corridorId' day
  simp only [committed, Storage.dailyVolume, Storage.putStats_volumes,
    Storage.putDailyVolume_volumes, Store.lookup_insert_ite, World.clear_store,
    World.clear_timestamp]
  split_ifs with hkey
  · obtain ⟨rfl, rfl, rfl⟩ := hkey
    exact htotal
  · exact (add_zero _).symm

/-- After a commit of a part, the rest is allowed. -/
theorem Committed.allows {rest : I128}
    (h : Committed sender corridorId less v v') (hallows : Allows sender corridorId amount v)
    (hrest : rest.val = amount.val - less.val) (hpos : 0 < rest.val) (hle : rest ≤ amount) :
    Allows sender corridorId rest v' := by
  obtain ⟨evaluation, heval⟩ := allows_iff.1 hallows
  obtain ⟨-, hpaused, -, thresholds, hthresholds, htotal, hlimit, hremaining, hrevoked, -, hheld⟩ :=
    evaluate_eq_ok.1 heval
  have hrest' := h.rest
  simp only [Prod.mk.injEq] at hrest'
  obtain ⟨hpaused', -, hthresholds', hattestations⟩ := hrest'
  have hvolume := h.volume sender corridorId (dayOf v.ledger.timestamp)
  rw [if_pos rfl] at hvolume
  have hattestation : v'.store.getAttestation sender = v.store.getAttestation sender := by
    rw [Storage.getAttestation, hattestations, Storage.getAttestation]
  refine allows_iff.2 ⟨⟨thresholds.requiredTier rest, evaluation.heldTier,
    evaluation.remainingDaily, evaluation.dailyTotalAfter⟩, evaluate_eq_ok.2 ⟨rfl,
      hpaused'.trans hpaused, hpos, thresholds, ?_, ?_, hlimit, hremaining, ?_, rfl, ?_⟩⟩
  · rw [Storage.getThresholds, hthresholds']
    exact hthresholds
  · simp only [h.timestamp, hvolume, htotal, hrest]
    omega
  · rw [hattestation]
    exact hrevoked
  · rw [hattestation, h.timestamp]
    exact hheld.mono (thresholds.rank_requiredTier_mono hle)

/-! ### Many commits -/

/-- A commit is compared with the limit together with the volume of the day. -/
theorem volume_le_limit_of_commit (hw : WellFormed w.store)
    (hunchanged : ∀ thresholds', w.store.getThresholds thresholds.corridorId = some thresholds' →
      thresholds' = thresholds)
    (h : (contract self).lts.step w l w')
    (hsome : ∃ c ∈ commitOf w.ledger.timestamp l, OnDay sender thresholds.corridorId day c) :
    w'.store.dailyVolume sender thresholds.corridorId day ≤ thresholds.dailyLimit := by
  obtain ⟨c, hmem, hday⟩ := hsome
  have hnone : commitOf w.ledger.timestamp l ≠ [] := by
    intro hnil
    rw [hnil] at hmem
    cases hmem
  rcases step_cases hw h with hq | ⟨env, call, ret, ms, es, rfl, -, h⟩
  · exact absurd (commitOf_of_failed hq.succeeded) hnone
  · cases h with
    | nothing hc => exact absurd (commitOf_of_commits (commits_of_administers hc)) hnone
    | thresholds => exact absurd (commitOf_of_commits rfl) hnone
    | publishes => exact absurd (commitOf_of_commits rfl) hnone
    | revokes => exact absurd (commitOf_of_commits rfl) hnone
    | commits _ hthresholds _ hle hv =>
      obtain rfl := List.mem_singleton.1 hmem
      obtain ⟨rfl, rfl, rfl⟩ := hday
      rw [Storage.dailyVolume, hv, AList.lookup_insert, Option.getD_some]
      rwa [← hunchanged _ hthresholds]

/-- Commits none of which counts amount to nothing. -/
theorem volumeOf_eq_zero {p : Commit → Prop} [DecidablePred p] {cs : List Commit}
    (h : ∀ c ∈ cs, ¬ p c) : volumeOf p cs = 0 := by
  refine List.sum_eq_zero fun x hx => ?_
  obtain ⟨c, hmem, rfl⟩ := List.mem_map.1 hx
  exact if_neg (h c hmem)

/-- Once something has been committed on a day under the thresholds, the volume of the day is within
the limit. -/
theorem volume_le_limit (hw : WellFormed w.store)
    (hunchanged : ∀ thresholds', w.store.getThresholds thresholds.corridorId = some thresholds' →
      thresholds' = thresholds)
    (h : (contract self).lts.Run w ls w') (hls : ∀ l ∈ ls, SetsOnly thresholds l)
    (hsome : ∃ c ∈ commits w.ledger.timestamp ls, OnDay sender thresholds.corridorId day c) :
    w'.store.dailyVolume sender thresholds.corridorId day ≤ thresholds.dailyLimit := by
  induction h with
  | nil =>
    obtain ⟨c, hmem, -⟩ := hsome
    cases hmem
  | @snoc w₁ w₂ ls l h hst ih =>
    have hls₁ : ∀ l ∈ ls, SetsOnly thresholds l := fun l hl => hls l (List.mem_append_left _ hl)
    obtain ⟨hw₁, hunchanged₁⟩ := (h.restrict_of_labels hls₁).invariant
      (I := fun w => WellFormed w.store ∧ ∀ thresholds',
        w.store.getThresholds thresholds.corridorId = some thresholds' → thresholds' = thresholds)
      ⟨hw, hunchanged⟩ fun _ _ _ hs hst => ⟨hs.1.step hst.1, unchanged_step hs.1 hs.2 hst.2 hst.1⟩
    rw [commits_concat, ← timestamp_of_run hw h] at hsome
    by_cases hlast : ∃ c ∈ commitOf w₁.ledger.timestamp l, OnDay sender thresholds.corridorId day c
    · exact volume_le_limit_of_commit hw₁ hunchanged₁ hst hlast
    · -- The last commit on the day is an earlier one.
      have hother : ∀ c ∈ commitOf w₁.ledger.timestamp l,
          ¬ OnDay sender thresholds.corridorId day c :=
        fun c hmem hday => hlast ⟨c, hmem, hday⟩
      have hsame := @dailyVolume_step _ _ _ _ _ sender thresholds.corridorId day hw₁ hst
      rw [volumeOf_eq_zero hother, add_zero] at hsame
      obtain ⟨c, hmem, hday⟩ := hsome
      have hearlier : c ∈ commits w.ledger.timestamp ls := by
        rcases List.mem_append.1 hmem with hmem | hmem
        · exact hmem
        · exact absurd hday (hother c hmem)
      rw [MachineInt.le_def, hsame]
      exact ih hls₁ ⟨c, hearlier, hday⟩

/-- **The gate is monotone, and splitting a transfer is neutral.**  In every reachable state and at
every time, with an amount every smaller one is allowed; two commits of its parts succeed and leave
the same volumes as one commit of the amount; and whatever commits succeed on one day under
unchanged thresholds, the volume they started from and their amounts together are within the daily
limit. -/
theorem split_neutral (h₀ : w₀.store = .blank) (h : (contract self).lts.Reachable w₀ w)
    (hv : v.store = w.store) :
    (∀ (sender : Address) (corridorId : Symbol) (amount less : I128),
      Allows sender corridorId amount v → 0 < less.val → less ≤ amount →
      Allows sender corridorId less v) ∧
    (∀ (sender : Address) (corridorId : Symbol) (amount less rest : I128) (escrow : Address)
      (env : Env), Allows sender corridorId amount v → 0 < less.val → less < amount →
      rest.val = amount.val - less.val → v.store.escrow = some escrow →
      env.signed self = false → env.signed escrow = true →
      ∃ v' v₁ v₂, Commits self env sender corridorId amount v v' ∧
        Commits self env sender corridorId less v v₁ ∧
        Commits self env sender corridorId rest v₁ v₂ ∧
        v₂.ledger.timestamp = v.ledger.timestamp ∧
        ∀ sender' corridorId' day, v₂.store.dailyVolume sender' corridorId' day =
          v'.store.dailyVolume sender' corridorId' day) ∧
    ∀ (thresholds : TierThresholds) (sender : Address) (day : U64) (ls : List (Label ω))
      (v' : World ω), v.store.getThresholds thresholds.corridorId = some thresholds →
      (contract self).lts.Run v ls v' → (∀ l ∈ ls, SetsOnly thresholds l) →
      (∃ c ∈ commits v.ledger.timestamp ls, OnDay sender thresholds.corridorId day c) →
      (v.store.dailyVolume sender thresholds.corridorId day).val +
        volumeOf (OnDay sender thresholds.corridorId day) (commits v.ledger.timestamp ls) ≤
          thresholds.dailyLimit.val := by
  obtain ⟨ls, hls⟩ := h
  have hw : WellFormed v.store := hv ▸ wellFormed_of_run h₀ hls
  refine ⟨?_, ?_, ?_⟩
  · intro sender corridorId amount less hallows hpos hle
    exact hallows.mono hw hpos hle
  · intro sender corridorId amount less rest escrow env hallows hpos hlt hrest hescrow hself hsigned
    have hval : less.val < amount.val := not_le.1 hlt.not_ge
    -- The whole is committed, or one part and then, from the volume it leaves, the other.
    obtain ⟨v', hcommit, hafter⟩ := hallows.commits hescrow hself hsigned
    obtain ⟨v₁, hcommit₁, hafter₁⟩ := (hallows.mono hw hpos hlt.le).commits hescrow hself hsigned
    have hallows₂ := hafter₁.allows hallows hrest (by omega) (MachineInt.le_def.2 (by omega))
    have hescrow₁ : v₁.store.escrow = some escrow := by
      have hrest₁ := hafter₁.rest
      simp only [Prod.mk.injEq] at hrest₁
      exact hrest₁.2.1.trans hescrow
    obtain ⟨v₂, hcommit₂, hafter₂⟩ := hallows₂.commits hescrow₁ hself hsigned
    refine ⟨v', v₁, v₂, hcommit, hcommit₁, hcommit₂, hafter₂.timestamp.trans hafter₁.timestamp, ?_⟩
    intro sender' corridorId' day
    refine MachineInt.ext ?_
    rw [hafter₂.volume, hafter₁.volume, hafter.volume, hafter₁.timestamp]
    split_ifs <;> omega
  · intro thresholds sender day ls v' hthresholds hrun hsets hsome
    -- The commits of the day have all been checked against the same limit.
    have hunchanged : ∀ thresholds', v.store.getThresholds thresholds.corridorId =
        some thresholds' → thresholds' = thresholds := by
      intro thresholds' hsome'
      exact Option.some.inj (hsome'.symm.trans hthresholds)
    rw [← dailyVolume_of_run hw hrun]
    exact volume_le_limit hw hunchanged hrun hsets hsome

/-! ### A transfer in two parts -/

namespace Sample

/-- Alice is identified, and has committed nothing. -/
def opened : World Unit := (contract ⟨0⟩).play blank opening

theorem opened_reachable : (contract ⟨0⟩).lts.Reachable blank opened :=
  ⟨_, Contract.play_run opening rfl⟩

theorem opened_allows : Allows alice corridor.corridorId 1000 opened := rfl

end Sample

/-- The whole limit can be committed in two parts. -/
theorem split_neutral_sample : ∃ v₁ v₂,
    Commits ⟨0⟩ (Sample.signedBy Sample.escrow) Sample.alice Sample.corridor.corridorId 400
      Sample.opened v₁ ∧
    Commits ⟨0⟩ (Sample.signedBy Sample.escrow) Sample.alice Sample.corridor.corridorId 600
      v₁ v₂ := by
  obtain ⟨v', v₁, v₂, -, hfirst, hsecond, -⟩ := (split_neutral rfl Sample.opened_reachable rfl).2.1
    Sample.alice Sample.corridor.corridorId 1000 400 600 Sample.escrow
    (Sample.signedBy Sample.escrow) Sample.opened_allows (by decide) (by decide) (by decide)
    (by decide) rfl rfl
  exact ⟨v₁, v₂, hfirst, hsecond⟩

end Hook

end RemitBridge
