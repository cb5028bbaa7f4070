import RemitBridge.Pool.Accounting
import Mathlib.Data.Rat.Cast.Order

/-!
# The price of a share

Shares are at par in every reachable state: a region has issued as many shares as float was
deposited in it, so deposits mint and withdrawals pay one for one, and nobody but a provider
changes what its shares are worth (`shares_at_par`).
-/

namespace RemitBridge

namespace Pool

open Exec TransitionSystem

variable {ω : Type} {H : Host ω} {env : Env} {token : Address} {w₀ w w' : World ω} {l : Label ω}
  {ls : List (Label ω)} {provider : Address} {regionId : Symbol} {amount shares : I128}

/-- What a provider's shares are worth: its part of what is deposited in the region. -/
def shareValue (s : Storage) (provider : Address) (regionId : Symbol) : ℚ :=
  match s.getPool regionId with
  | some state => (s.getShares provider regionId).val * state.totalDeposited.val /
      state.totalShares.val
  | none => 0

/-- The step is a deposit or a withdrawal of the provider in the region. -/
def changesStake (provider : Address) (regionId : Symbol) : Label ω → Prop
  | .call _ (.depositLiquidity p r _) (.done ..) => p = provider ∧ r = regionId
  | .call _ (.withdrawLiquidity p r _) (.done ..) => p = provider ∧ r = regionId
  | _ => False

@[simp] theorem getShares_putStats (s : Storage) (stats : LiquidityStats) :
    (s.putStats stats).getShares provider regionId = s.getShares provider regionId := rfl

@[simp] theorem getShares_putPool (s : Storage) (state : PoolState) :
    (s.putPool state).getShares provider regionId = s.getShares provider regionId := rfl

@[simp] theorem getShares_putShares (s : Storage) :
    (s.putShares provider regionId shares).getShares provider regionId = shares := by
  simp [Storage.getShares, Storage.putShares]

/-! ### One step -/

/-- A deposit mints as many shares as it pays in. -/
theorem minted_of_deposit (hw : WellFormed token w.store)
    (h : depositLiquidity H env provider regionId amount w = .ok (shares, w')) :
    shares = amount ∧ (w'.store.getShares provider regionId).val =
      (w.store.getShares provider regionId).val + amount.val := by
  obtain ⟨-, hpos, -, -, -, state, hstate, -, hshares, -, -, -, held, hheld, -, -, -, -, rfl⟩ :=
    depositLiquidity_ok.1 h
  obtain rfl := sharesFor_par hpos (hw.par _ _ hstate) hshares
  exact ⟨rfl, by simpa using hheld⟩

/-- A withdrawal pays as much as it redeems. -/
theorem paid_of_withdraw (hw : WellFormed token w.store)
    (h : withdrawLiquidity H env provider regionId shares w = .ok (amount, w')) :
    amount = shares ∧ (w'.store.getShares provider regionId).val =
        (w.store.getShares provider regionId).val - shares.val ∧
      w'.ledger.transfers = w.ledger.transfers ++ [⟨token, H.self, provider, shares⟩] := by
  obtain ⟨-, hpos, config, hconfig, -, state, hstate, -, htotal, hamount, -, -, -, -, -, left,
    hleft, -, -, -, -, rfl⟩ := withdrawLiquidity_ok.1 h
  obtain ⟨-, rfl⟩ := (amountFor_par hpos (hw.par _ _ hstate) htotal).1 hamount
  obtain rfl := hw.token_eq hconfig
  exact ⟨rfl, by simpa using hleft, rfl⟩

/-- What stands behind a deposit that fails because it would mint no share. -/
theorem exists_of_zeroShares
    (h : depositLiquidity H env provider regionId amount w = .error (.err .zeroShares)) :
    0 < amount.val ∧ ∃ state, w.store.getPool regionId = some state ∧
      ∃ shares, sharesFor amount state = some shares ∧ shares.val ≤ 0 := by
  simp only [depositLiquidity, getConfig, loadPool, bind_assoc, read_bind, requireAuth_bind_error,
    refuseIf_bind_error, okOr_bind_error, Fault.err.injEq, reduceCtorEq, and_false, false_or] at h
  obtain ⟨-, hpos, config, -, -, state, hstate, -, shares, hshares, ⟨hle, -⟩ | ⟨-, h⟩⟩ := h
  · exact ⟨not_le.1 hpos, state, hstate, shares, hshares, hle⟩
  · rcases error_of_transferToken_bind h with h | h
    · simp at h
    · simp [orTrap_bind_error] at h

/-- No deposit fails because it would mint no share. -/
theorem deposit_ne_zeroShares (hw : WellFormed token w.store) :
    depositLiquidity H env provider regionId amount w ≠ .error (.err .zeroShares) := by
  intro h
  obtain ⟨hpos, state, hstate, shares, hshares, hle⟩ := exists_of_zeroShares h
  obtain rfl := sharesFor_par hpos (hw.par _ _ hstate) hshares
  exact hpos.not_ge hle

/-! ### The value of shares -/

/-- Shares are worth their number. -/
theorem shareValue_eq (hw : WellFormed token w.store) (provider : Address) (regionId : Symbol) :
    shareValue w.store provider regionId = (book w.store).stake (provider, regionId) := by
  have hnonneg := hw.sound.stake_nonneg (provider, regionId)
  have hle := hw.sound.stake_le_deposited provider regionId
  unfold shareValue
  cases hstate : w.store.getPool regionId with
  | none =>
    have hzero : (book w.store).deposited regionId = 0 :=
      (Store.amounts_apply _ _ _).trans (Store.contribution_of_none hstate)
    have hstake : (book w.store).stake (provider, regionId) = 0 := by omega
    simp [hstake]
  | some state =>
    rw [book_deposited hstate] at hle
    simp only [hw.par _ _ hstate, ← book_stake]
    by_cases hzero : state.totalDeposited.val = 0
    · have hstake : (book w.store).stake (provider, regionId) = 0 := by omega
      simp [hstake]
    · have hne : (state.totalDeposited.val : ℚ) ≠ 0 := by exact_mod_cast hzero
      rw [mul_div_assoc, div_self hne, mul_one]

/-- A step that is no deposit or withdrawal of the provider keeps its stake. -/
theorem stake_eq_of_step (hw : WellFormed token w.store) (h : (contract H).lts.step w l w')
    (hl : ¬ changesStake provider regionId l) :
    (book w'.store).stake (provider, regionId) = (book w.store).stake (provider, regionId) := by
  obtain ⟨m, hdoes, hstep, -⟩ := fund_step hw h
  refine Fund.step_stake hstep fun x y hm => ?_
  subst hm
  cases hdoes with
  | call hperforms =>
    cases hperforms with
    | deposit => exact absurd ⟨rfl, rfl⟩ hl
    | withdraw => exact absurd ⟨rfl, rfl⟩ hl
    | draw => rfl
    | repay => rfl

/-- **Nobody else changes what a provider's shares are worth.** -/
theorem shareValue_eq_of_run (hw : WellFormed token w.store) (h : (contract H).lts.Run w ls w')
    (hls : ∀ l ∈ ls, ¬ changesStake provider regionId l) :
    shareValue w'.store provider regionId = shareValue w.store provider regionId := by
  have hinv := (h.restrict_of_labels hls).invariant
    (I := fun s => WellFormed token s.store ∧ (book s.store).stake (provider, regionId) =
      (book w.store).stake (provider, regionId))
    ⟨hw, rfl⟩ fun s l s' hs hst =>
      ⟨hs.1.step hst.1, (stake_eq_of_step hs.1 hst.1 hst.2).trans hs.2⟩
  rw [shareValue_eq hinv.1, shareValue_eq hw, hinv.2]

/-- **Shares at par.**  In every reachable state every region has issued as many shares as were
deposited; a deposit mints as many shares as it pays in, and none fails for want of a share; a
withdrawal pays as much as it redeems; and a run without deposits and withdrawals of a provider
keeps the value of its shares. -/
theorem shares_at_par (h₀ : Fresh H token w₀) (h : (contract H).lts.Reachable w₀ w) :
    (∀ regionId state, w.store.getPool regionId = some state →
      state.totalShares = state.totalDeposited) ∧
    (∀ env provider regionId amount ret transfers events w',
      (contract H).lts.step w
        (.call env (.depositLiquidity provider regionId amount) (.done ret transfers events)) w' →
      ret = .amount amount ∧ (w'.store.getShares provider regionId).val =
        (w.store.getShares provider regionId).val + amount.val) ∧
    (∀ env provider regionId shares ret transfers events w',
      (contract H).lts.step w
        (.call env (.withdrawLiquidity provider regionId shares) (.done ret transfers events)) w' →
      ret = .amount shares ∧ transfers = [⟨token, H.self, provider, shares⟩] ∧
        (w'.store.getShares provider regionId).val =
          (w.store.getShares provider regionId).val - shares.val) ∧
    (∀ env provider regionId amount w', ¬ (contract H).lts.step w
      (.call env (.depositLiquidity provider regionId amount) (.reverted (.err .zeroShares))) w') ∧
    (∀ provider regionId ls w', (contract H).lts.Run w ls w' →
      (∀ l ∈ ls, ¬ changesStake provider regionId l) →
      shareValue w'.store provider regionId = shareValue w.store provider regionId) := by
  have hw := h₀.wellFormed_of_reachable h
  refine ⟨hw.par, ?_, ?_, ?_, fun _ _ _ _ => shareValue_eq_of_run hw⟩
  · intro env provider regionId amount ret transfers events w' hst
    obtain ⟨shares, h₁, rfl⟩ := bind_pure_ok.1 (Contract.invoke_of_step_done hst)
    obtain ⟨rfl, hheld⟩ := minted_of_deposit (w := w.clear) hw h₁
    exact ⟨rfl, hheld⟩
  · intro env provider regionId shares ret transfers events w' hst
    cases hst with
    | done hs h =>
      obtain ⟨amount, h₁, rfl⟩ := bind_pure_ok.1 h
      obtain ⟨rfl, hheld, htransfers⟩ := paid_of_withdraw (w := w.clear) hw h₁
      exact ⟨rfl, htransfers, hheld⟩
  · intro env provider regionId amount w' hst
    cases hst with
    | reverted hs h =>
      rcases bind_error.1 h with h₁ | ⟨_, _, _, h₁⟩
      · exact deposit_ne_zeroShares (w := w.clear) hw h₁
      · exact pure_ne_error h₁

theorem shares_at_par_sample : Sample.pool.totalShares = Sample.pool.totalDeposited :=
  (shares_at_par Sample.fresh_start ⟨_, Sample.final_run⟩).1 _ _ Sample.final_pool

end Pool

end RemitBridge
