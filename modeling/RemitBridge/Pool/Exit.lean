import RemitBridge.Pool.Shares

/-!
# Leaving the pool

A provider can always leave a region nothing is drawn from, as long as the product of its shares
and the region's deposits fits into 128 bits: the pool holds the money (`available_le_balance`),
and the multiplication in the price of the shares is the only check left that can fail
(`redeems_iff`).
-/

namespace RemitBridge

namespace Pool

open Exec TransitionSystem Store

variable {ω : Type} {H : Host ω} {env : Env} {token : Address} {w₀ w w' : World ω}
  {provider : Address} {regionId : Symbol} {amount shares : I128} {state : PoolState}
  {config : PoolConfig}

/-- Redeeming the shares succeeds, and pays the provider their part of what is deposited. -/
def Redeems (H : Host ω) (token : Address) (env : Env) (provider : Address) (regionId : Symbol)
    (shares : I128) (w : World ω) : Prop :=
  ∃ state amount events w', w.store.getPool regionId = some state ∧
    amount.val * state.totalShares.val = shares.val * state.totalDeposited.val ∧
    (contract H).lts.step w (.call env (.withdrawLiquidity provider regionId shares)
      (.done (.amount amount) [⟨token, H.self, provider, amount⟩] events)) w'

/-- The pool holds what a region has not drawn. -/
theorem available_le_balance (h₀ : Fresh H token w₀) (h : (contract H).lts.Reachable w₀ w)
    (hstate : w.store.getPool regionId = some state) :
    state.totalDeposited.val - state.totalDrawn.val ≤ w.ledger.balance token H.self := by
  have hw := h₀.wellFormed_of_reachable h
  obtain ⟨ls, hls⟩ := h
  have hreserve : state.totalDeposited.val - state.totalDrawn.val ≤ (book w.store).reserve := by
    rw [reserve_book]
    exact le_total (f := fun _ state => state.totalDeposited.val - state.totalDrawn.val)
      (fun _ _ hk => Int.sub_nonneg.2 (hw.covered hk)) hstate
  have hdonated : 0 ≤ (ls.map (Action.donated token)).sum := by
    refine List.sum_nonneg fun x hx => ?_
    obtain ⟨l, hl, rfl⟩ := List.mem_map.1 hx
    obtain ⟨w₁, w₂, hst⟩ := hls.exists_step hl
    exact Contract.donated_nonneg hst token
  rw [balance_eq_reserve h₀ hls]
  omega

/-- With nothing drawn, the price of the shares is the only obstacle to redeeming them. -/
theorem withdraw_iff_fits (hw : WellFormed token w.store) (hconfig : w.store.config = some config)
    (hpaused : config.paused = false) (hstate : w.store.getPool regionId = some state)
    (hdrawn : state.totalDrawn.val = 0) (hpos : 0 < shares.val)
    (hle : shares ≤ w.store.getShares provider regionId) (hsigned : env.signed provider = true)
    (hbalance : state.totalDeposited.val ≤ w.ledger.balance token H.self)
    (haccepts : env.accepts ⟨token, H.self, provider, shares⟩ = true) :
    (∃ amount w', withdrawLiquidity H env provider regionId shares w = .ok (amount, w')) ↔
      shares.val * state.totalDeposited.val ≤ 2 ^ 127 - 1 := by
  obtain rfl := hw.token_eq hconfig
  have hpar := hw.par _ _ hstate
  have hheld := hw.sound.stake_le_deposited provider regionId
  rw [book_stake, book_deposited hstate] at hheld
  rw [MachineInt.le_def] at hle
  have htotal : 0 < state.totalShares.val := by
    rw [hpar]
    omega
  constructor
  · rintro ⟨amount, w', h⟩
    obtain ⟨-, -, -, -, -, state', hstate', -, -, hamount, -⟩ := withdrawLiquidity_ok.1 h
    obtain rfl := Option.some.inj (hstate.symm.trans hstate')
    exact ((amountFor_par hpos hpar htotal).1 hamount).1
  · -- At par the shares are worth their number, so all that is subtracted is there.
    intro hfits
    have hmax := state.totalDeposited.le_hi
    obtain ⟨left, hleft⟩ : ∃ left : I128,
        left.val = (w.store.getShares provider regionId).val - shares.val :=
      ⟨⟨_, by omega, by omega⟩, rfl⟩
    obtain ⟨rest, hrest⟩ : ∃ rest : I128, rest.val = state.totalDeposited.val - shares.val :=
      ⟨⟨_, by omega, by omega⟩, rfl⟩
    exact ⟨shares, _,
      withdrawLiquidity_ok.2 ⟨hsigned, hpos, config, hconfig, hpaused, state, hstate, hle, htotal,
      (amountFor_par hpos hpar htotal).2 ⟨hfits, rfl⟩, state.totalDeposited,
      MachineInt.checkedSub_eq_some.2 (by omega), MachineInt.le_def.2 (by omega),
      ⟨hpos.le, by omega⟩, haccepts, left, hleft, rest, hrest, rest, hpar ▸ hrest, rfl⟩⟩

/-- **Leaving an undrawn region.**  In every reachable state in which the pool is not paused, a
provider can redeem shares it holds in a region nothing is drawn from, for their part of the
deposits, exactly if the product of the shares and the deposits fits into 128 bits; provided the
token is willing to pay the provider. -/
theorem redeems_iff (h₀ : Fresh H token w₀) (h : (contract H).lts.Reachable w₀ w)
    (hconfig : w.store.config = some config) (hpaused : config.paused = false)
    (hstate : w.store.getPool regionId = some state) (hdrawn : state.totalDrawn.val = 0)
    (hpos : 0 < shares.val) (hle : shares ≤ w.store.getShares provider regionId)
    (hsigned : env.signed provider = true) (hself : env.signed H.self = false)
    (haccepts : env.accepts ⟨token, H.self, provider, shares⟩ = true) :
    Redeems H token env provider regionId shares w ↔
      shares.val * state.totalDeposited.val ≤ 2 ^ 127 - 1 := by
  have hw := h₀.wellFormed_of_reachable h
  have hbalance := available_le_balance h₀ h hstate
  rw [hdrawn, sub_zero] at hbalance
  rw [← withdraw_iff_fits (H := H) (w := w.clear) hw hconfig hpaused hstate hdrawn hpos hle hsigned
    hbalance haccepts]
  constructor
  · rintro ⟨state', amount, events, w', -, -, hst⟩
    obtain ⟨amount', h₁, -⟩ := bind_pure_ok.1 (Contract.invoke_of_step_done hst)
    exact ⟨amount', w', h₁⟩
  · rintro ⟨amount, w', hok⟩
    obtain ⟨rfl, -, htransfers⟩ := paid_of_withdraw (w := w.clear) hw hok
    refine ⟨state, amount, w'.events, w', hstate, ?_, ?_⟩
    · rw [hw.par _ _ hstate]
    · exact Contract.step_done hself (bind_pure_ok.2 ⟨amount, hok, rfl⟩) htransfers rfl

/-! ### A deposit that cannot be redeemed -/

namespace Sample

/-- 2⁶⁴ units. -/
def wealth : I128 := 18446744073709551616

/-- The world after a provider deposited 2⁶⁴ units. -/
def wealthy : World Unit := (contract host).play start
  [.call (signedBy admin) (.openRegion region 0),
    .call (signedBy Sample.provider) (.depositLiquidity Sample.provider region wealth)]

/-- The region with the deposit. -/
def wealthyPool : PoolState := ⟨region, wealth, 0, wealth, 1, 8000, true, 1000⟩

theorem wealthy_reachable : (contract host).lts.Reachable start wealthy :=
  ⟨_, Contract.play_run _ rfl⟩

theorem wealthy_config : wealthy.store.config = some ⟨⟨5⟩, usd, 15000, 8000, false⟩ := by decide

theorem wealthy_pool : wealthy.store.getPool region = some wealthyPool := by decide

theorem wealthy_shares : wealth ≤ wealthy.store.getShares Sample.provider region := by decide

end Sample

/-- The deposit was accepted, nothing is drawn, and the withdrawal overflows. -/
theorem not_redeems_sample : Fresh Sample.host Sample.usd Sample.start ∧
    (contract Sample.host).lts.Reachable Sample.start Sample.wealthy ∧
    Sample.wealthy.store.config = some ⟨⟨5⟩, Sample.usd, 15000, 8000, false⟩ ∧
    Sample.wealthy.store.getPool Sample.region = some Sample.wealthyPool ∧
    Sample.wealthyPool.totalDrawn.val = 0 ∧ 0 < Sample.wealth.val ∧
    Sample.wealth ≤ Sample.wealthy.store.getShares Sample.provider Sample.region ∧
    (contract Sample.host).lts.step Sample.wealthy
      (.call (Sample.signedBy Sample.provider)
        (.withdrawLiquidity Sample.provider Sample.region Sample.wealth)
        (.reverted (.err .overflow))) Sample.wealthy ∧
    ¬ Redeems Sample.host Sample.usd (Sample.signedBy Sample.provider) Sample.provider
      Sample.region Sample.wealth Sample.wealthy := by
  have hfails : (contract Sample.host).invoke (Sample.signedBy Sample.provider)
      (.withdrawLiquidity Sample.provider Sample.region Sample.wealth) Sample.wealthy.clear =
      .error (.err .overflow) := rfl
  refine ⟨Sample.fresh_start, Sample.wealthy_reachable, Sample.wealthy_config, Sample.wealthy_pool,
    rfl, by decide, Sample.wealthy_shares, .reverted rfl hfails, ?_⟩
  rintro ⟨_, _, _, w', -, -, hst⟩
  have hok := Contract.invoke_of_step_done hst
  rw [hfails] at hok
  cases hok

theorem redeems_iff_sample : Redeems Sample.host Sample.usd (Sample.signedBy Sample.provider)
    Sample.provider Sample.region Sample.wealth Sample.wealthy ↔
      Sample.wealth.val * Sample.wealth.val ≤ 2 ^ 127 - 1 :=
  redeems_iff Sample.fresh_start Sample.wealthy_reachable Sample.wealthy_config rfl
    Sample.wealthy_pool rfl (by decide) Sample.wealthy_shares rfl rfl rfl

end Pool

end RemitBridge
