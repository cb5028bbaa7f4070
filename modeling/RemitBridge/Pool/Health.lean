import RemitBridge.Pool.Accounting

/-!
# Reading the pool

The pool subtracts and multiplies unchecked where it reads a region, pays out and takes back.  The
largest of these numbers is ten thousand times what a region has drawn.  A draw computes it too, and
checks it, and nothing else makes it grow: so it always fits (`Scalable`), and what is subtracted is
always there (`reads_never_trap`).

## Main definitions

* `InOrder` : the pool is not initialised, or its storage is in order.
* `checkWithdrawal`, `checkRepayment` : what a withdrawal and a repayment check before they pay.
-/

namespace RemitBridge

namespace Pool

open Exec TransitionSystem Store

variable {ω : Type} {H : Host ω} {env : Env} {token : Address} {w₀ w w' : World ω} {l : Label ω}
  {regionId : Symbol} {state : PoolState}

/-! ### From the deployment on -/

/-- Ten thousand times what a region has drawn fits its type. -/
def Scalable (s : Storage) : Prop := ∀ regionId, (book s).drawn regionId * 10000 ≤ 2 ^ 127 - 1

/-- The pool is not initialised, or its storage is in order. -/
inductive InOrder (s : Storage) : Prop
  | blank : s = .blank → InOrder s
  | live (token : Address) : WellFormed token s → Scalable s → InOrder s

/-- The storage right after initialisation is in order. -/
theorem Empty.inOrder {s : Storage} (h : Empty token s) : InOrder s := by
  refine .live token h.wellFormed fun regionId => ?_
  rw [h.book_eq]
  exact (by decide : (0 : ℤ) * 10000 ≤ 2 ^ 127 - 1)

theorem Administers.inOrder (h : Administers w w') (hblank : w.store = .blank) :
    InOrder w'.store := by
  have hconfig : ∀ config, w.store.config ≠ some config := by
    intro config
    rw [hblank]
    exact (Option.some_ne_none config).symm
  cases h with
  | first =>
    rw [hblank]
    exact (Empty.of_store rfl).inOrder
  | admin hsome =>
    rw [hblank] at hsome
    cases hsome
  | rewired hsome => exact absurd hsome (hconfig _)
  | configured hsome => exact absurd hsome (hconfig _)
  | tuned hstate =>
    rw [hblank] at hstate
    cases hstate
  | opened hsome => exact absurd hsome (hconfig _)

/-- Nothing but the initialisation succeeds before it. -/
theorem InOrder.invoke_blank {c : Call} {r : Ret} (hblank : w.store = .blank)
    (h : invoke H env c w = .ok (r, w')) : InOrder w'.store := by
  have hconfig : ∀ config, w.store.config ≠ some config := by
    intro config
    rw [hblank]
    exact (Option.some_ne_none config).symm
  cases c with
  | depositLiquidity =>
    obtain ⟨shares, h₁, -⟩ := bind_pure_ok.1 h
    obtain ⟨-, -, config, hsome, -⟩ := depositLiquidity_ok.1 h₁
    exact absurd hsome (hconfig config)
  | withdrawLiquidity =>
    obtain ⟨amount, h₁, -⟩ := bind_pure_ok.1 h
    obtain ⟨-, -, config, hsome, -⟩ := withdrawLiquidity_ok.1 h₁
    exact absurd hsome (hconfig config)
  | drawLiquidity =>
    obtain ⟨exposure, h₁, -⟩ := bind_pure_ok.1 h
    obtain ⟨-, -, config, hsome, -⟩ := drawLiquidity_ok.1 h₁
    exact absurd hsome (hconfig config)
  | repayLiquidity =>
    obtain ⟨exposure, h₁, -⟩ := bind_pure_ok.1 h
    obtain ⟨-, -, config, hsome, -⟩ := repayLiquidity_ok.1 h₁
    exact absurd hsome (hconfig config)
  | _ => exact (administers_of_invoke rfl h).inOrder hblank

/-- A draw has multiplied what its region has drawn afterwards by ten thousand. -/
theorem scaled_of_draw {agent : Address} {amount exposure : I128} (hw : WellFormed token w.store)
    (h : drawLiquidity H env agent regionId amount w = .ok (exposure, w')) :
    ((book w.store).drawn regionId + amount.val) * 10000 ≤ 2 ^ 127 - 1 := by
  obtain ⟨-, hpos, -, -, -, state, hstate, -, peers, -, available, havailable, hle, drawn, hdrawn,
    utilization, hutilization, -⟩ := drawLiquidity_ok.1 h
  rw [PoolState.available, MachineInt.checkedSub_eq_some] at havailable
  rw [MachineInt.le_def] at hle
  have hnonneg := hw.sound.drawn_nonneg regionId
  rw [book_drawn hstate] at hnonneg ⊢
  have hdeposited : 0 < state.totalDeposited.val := by omega
  rw [utilizationWith, if_neg hdeposited.not_ge] at hutilization
  obtain ⟨scaled, hscaled, -⟩ := Option.bind_eq_some_iff.1 hutilization
  rw [MachineInt.checkedMul_eq_some, I128.tenThousand_val, hdrawn] at hscaled
  exact hscaled ▸ scaled.le_hi

/-- A movement that does not lend more keeps the products in range. -/
theorem Scalable.of_move {s s' : Storage} {p : Address} {x y : ℤ} (hb : Scalable s)
    (h : Fund.Step (book s) (.move p regionId x y) (book s'))
    (hy : ((book s).drawn regionId + y) * 10000 ≤ 2 ^ 127 - 1) : Scalable s' := by
  intro region
  rw [Fund.drawn_of_move h]
  by_cases hr : region = regionId
  · rw [hr, Fund.add_single_apply_self]
    exact hy
  · rw [Fund.add_single_apply_of_ne _ hr]
    exact hb region

theorem Scalable.invoke {c : Call} {r : Ret} (hb : Scalable w.store) (hw : WellFormed token w.store)
    (hs : env.signed H.self = false) (h : invoke H env c w = .ok (r, w')) : Scalable w'.store := by
  obtain ⟨m, hm, href⟩ := invoke_refines hw hs h
  have hst := href.step
  cases hm with
  | idle =>
    intro region
    rw [Fund.book_of_idle hst]
    exact hb region
  | deposit => exact hb.of_move hst (by rw [add_zero]; exact hb _)
  | withdraw => exact hb.of_move hst (by rw [add_zero]; exact hb _)
  | draw =>
    obtain ⟨exposure, h₁, -⟩ := bind_pure_ok.1 h
    exact hb.of_move hst (scaled_of_draw hw h₁)
  | @repay _ region =>
    obtain ⟨exposure, h₁, -⟩ := bind_pure_ok.1 h
    have hpos := (repayLiquidity_ok.1 h₁).2.1
    have hbefore := hb region
    exact hb.of_move hst (by omega)

theorem InOrder.step (hb : InOrder w.store) (h : (contract H).lts.step w l w') :
    InOrder w'.store := by
  rcases Contract.step_cases h with hq | ⟨env, c, r, -, hs, h⟩
  · exact hq.store ▸ hb
  · cases hb with
    | blank hblank => exact InOrder.invoke_blank (w := w.clear) hblank h
    | live token hw hscale =>
      obtain ⟨m, -, href⟩ := invoke_refines (w := w.clear) hw hs h
      exact .live token href.wellFormed (hscale.invoke (w := w.clear) hw hs h)

theorem inOrder_of_reachable (h₀ : w₀.store = .blank) (h : (contract H).lts.Reachable w₀ w) :
    InOrder w.store :=
  h.invariant (I := fun w => InOrder w.store) (.blank h₀) fun _ _ _ hb hst => hb.step hst

/-- A pool with a region is initialised. -/
theorem InOrder.live_of_pool (hb : InOrder w.store)
    (hstate : w.store.getPool regionId = some state) :
    ∃ token, WellFormed token w.store ∧ Scalable w.store := by
  cases hb with
  | blank hblank =>
    rw [hblank] at hstate
    cases hstate
  | live token hw hscale => exact ⟨token, hw, hscale⟩

/-! ### What is checked before money moves -/

/-- The part of a withdrawal before it pays: the configuration, the region, the shares held and the
amount to pay. -/
def checkWithdrawal (env : Env) (provider : Address) (regionId : Symbol) (shares : I128) :
    Exec (World ω) LiquidityError (PoolConfig × PoolState × I128 × I128) := do
  requireAuth env provider
  refuseIf (shares.val ≤ 0) .invalidAmount
  let config ← getConfig
  refuseIf (config.paused = true) .paused
  let state ← loadPool regionId
  let held ← read fun s => s.getShares provider regionId
  refuseIf (held < shares) .insufficientShares
  refuseIf (state.totalShares.val ≤ 0) .zeroShares
  let amount ← okOr (amountFor shares state) .overflow
  let available ← orTrap state.available
  refuseIf (available < amount) .insufficientLiquidity
  pure (config, state, held, amount)

/-- The part of a repayment before it is paid: the configuration, the region and the exposure. -/
def checkRepayment (env : Env) (agent : Address) (regionId : Symbol) (amount : I128) :
    Exec (World ω) LiquidityError (PoolConfig × PoolState × I128) := do
  requireAuth env agent
  refuseIf (amount.val ≤ 0) .invalidAmount
  let config ← getConfig
  let state ← loadPool regionId
  let exposure ← read fun s => s.getExposure agent regionId
  refuseIf (exposure < amount) .repaymentExceedsExposure
  pure (config, state, exposure)

theorem withdrawLiquidity_eq {provider : Address} {shares : I128} :
    withdrawLiquidity H env provider regionId shares = (do
      let (config, state, held, amount) ← checkWithdrawal env provider regionId shares
      transferToken env H.self config.token H.self provider amount
      let left ← orTrap (held.checkedSub shares)
      write fun s => s.putShares provider regionId left
      let totalDeposited ← orTrap (state.totalDeposited.checkedSub amount)
      let totalShares ← orTrap (state.totalShares.checkedSub shares)
      let depositorCount := if left.val = 0 then state.depositorCount.saturatingSub 1
        else state.depositorCount
      let now ← timestamp
      setPool { state with totalDeposited, totalShares, depositorCount, updatedAt := now }
      let counters ← read Storage.getStats
      setStats { counters with totalWithdrawals := counters.totalWithdrawals.saturatingAdd 1 }
      publish (.liquidityWithdrawn provider regionId shares amount totalDeposited)
      pure amount) := by
  simp only [withdrawLiquidity, checkWithdrawal, bind_assoc]
  rfl

theorem repayLiquidity_eq {agent : Address} {amount : I128} :
    repayLiquidity H env agent regionId amount = (do
      let (config, state, exposure) ← checkRepayment env agent regionId amount
      transferToken env H.self config.token agent H.self amount
      let exposureAfter ← orTrap (exposure.checkedSub amount)
      write fun s => s.putExposure agent regionId exposureAfter
      let totalDrawn ← orTrap (state.totalDrawn.checkedSub amount)
      let now ← timestamp
      setPool { state with totalDrawn, updatedAt := now }
      publish (.liquidityRepaid agent regionId amount exposureAfter)
      pure exposureAfter) := by
  simp only [repayLiquidity, checkRepayment, bind_assoc]
  rfl

/-- When a withdrawal comes to subtract, it finds at least as much as it takes away. -/
def WithdrawsWithin (w : World ω) : Prop :=
  ∀ env provider regionId shares config state held amount w',
    checkWithdrawal env provider regionId shares w = .ok ((config, state, held, amount), w') →
      0 ≤ held.val - shares.val ∧ 0 ≤ state.totalDeposited.val - amount.val ∧
        0 ≤ state.totalShares.val - shares.val

/-- When a repayment comes to subtract, it finds at least as much as it takes away. -/
def RepaysWithin (w : World ω) : Prop :=
  ∀ env agent regionId amount config state exposure w',
    checkRepayment env agent regionId amount w = .ok ((config, state, exposure), w') →
      0 ≤ exposure.val - amount.val ∧ 0 ≤ state.totalDrawn.val - amount.val

/-- Reading a region is exact: nothing overflows on the way, and the utilization is the quotient
itself, at most 100%. -/
def ReadsExactly (w : World ω) (regionId : Symbol) (state : PoolState) : Prop :=
  ∃ available scaled bps, state.available = some available ∧ 0 ≤ available.val ∧
    state.totalDrawn.checkedMul 10000 = some scaled ∧
    state.utilizationBps = some bps ∧
    bps.val = state.totalDrawn.val * 10000 / state.totalDeposited.val ∧
    0 ≤ bps.val ∧ bps.val ≤ 10000 ∧
    getPoolHealth regionId w = .ok (some ⟨state.regionId, state.totalDeposited, state.totalDrawn,
      available, bps, state.utilizationCapBps, state.depositorCount, state.active⟩, w)

/-! ### The arithmetic -/

/-- The utilization of a region whose numbers are in order is the exact quotient. -/
theorem utilizationBps_exact (hdrawn : 0 ≤ state.totalDrawn.val)
    (hcovered : state.totalDrawn.val ≤ state.totalDeposited.val)
    (hscale : state.totalDrawn.val * 10000 ≤ 2 ^ 127 - 1) :
    ∃ bps, state.utilizationBps = some bps ∧
      bps.val = state.totalDrawn.val * 10000 / state.totalDeposited.val ∧ bps.val ≤ 10000 := by
  have hmax : max state.totalDrawn 0 = state.totalDrawn := by
    rw [max_eq_left]
    rwa [MachineInt.le_def, I128.zero_val]
  by_cases hempty : state.totalDeposited.val ≤ 0
  · -- An empty region has lent nothing.
    have hzero : state.totalDrawn.val = 0 := by omega
    refine ⟨0, if_pos hempty, ?_, by decide⟩
    rw [hzero, zero_mul, Int.zero_ediv, U32.zero_val]
  · have hpos : 0 < state.totalDeposited.val := not_le.1 hempty
    have hle : state.totalDrawn.val * 10000 / state.totalDeposited.val ≤ 10000 :=
      Int.ediv_le_of_le_mul hpos (by omega)
    have hnonneg : 0 ≤ state.totalDrawn.val * 10000 / state.totalDeposited.val :=
      Int.ediv_nonneg (by omega) hpos.le
    obtain ⟨quotient, hquotient⟩ : ∃ quotient : I128,
        quotient.val = state.totalDrawn.val * 10000 / state.totalDeposited.val :=
      ⟨⟨_, by omega, by omega⟩, rfl⟩
    have hdiv := (MachineInt.mulDiv_eq_some (b := (10000 : I128)) hdrawn (by decide) hpos
      (q := quotient)).2 ⟨hscale, hquotient⟩
    obtain ⟨scaled, hscaled, hbps⟩ := Option.bind_eq_some_iff.1 hdiv
    refine ⟨U32.ofI128OrMax quotient, ?_, ?_, ?_⟩
    · rw [PoolState.utilizationBps, if_neg hempty, hmax]
      exact Option.bind_eq_some_iff.2 ⟨scaled, hscaled, Option.bind_eq_some_iff.2 ⟨_, hbps, rfl⟩⟩
    · rw [U32.ofI128OrMax_val (by omega), hquotient]
    · rw [U32.ofI128OrMax_val (by omega), hquotient]
      exact hle

theorem readsExactly_of_wellFormed (hw : WellFormed token w.store) (hscale : Scalable w.store)
    (hstate : w.store.getPool regionId = some state) : ReadsExactly w regionId state := by
  have hdrawn : 0 ≤ state.totalDrawn.val := book_drawn hstate ▸ hw.sound.drawn_nonneg _
  have hscaled : state.totalDrawn.val * 10000 ≤ 2 ^ 127 - 1 := book_drawn hstate ▸ hscale _
  have hcovered := hw.covered hstate
  have hmax := state.totalDeposited.le_hi
  obtain ⟨available, havailable⟩ : ∃ available : I128,
      available.val = state.totalDeposited.val - state.totalDrawn.val :=
    ⟨⟨_, by omega, by omega⟩, rfl⟩
  obtain ⟨scaled, hproduct⟩ : ∃ scaled : I128, scaled.val = state.totalDrawn.val * 10000 :=
    ⟨⟨_, by omega, hscaled⟩, rfl⟩
  obtain ⟨bps, hbps, hval, hle⟩ := utilizationBps_exact hdrawn hcovered hscaled
  have hread : state.available = some available := MachineInt.checkedSub_eq_some.2 havailable
  refine ⟨available, scaled, bps, hread, by omega, MachineInt.checkedMul_eq_some.2 hproduct, hbps,
    hval, bps.val_nonneg, hle, ?_⟩
  have hstats : toStats state = some ⟨state.regionId, state.totalDeposited, state.totalDrawn,
      available, bps, state.utilizationCapBps, state.depositorCount, state.active⟩ := by
    simp [toStats, hread, hbps]
  simp only [getPoolHealth, read_bind, hstate, hstats]
  rfl

/-! ### The subtractions -/

theorem withdrawsWithin_of_wellFormed (hw : WellFormed token w.store) : WithdrawsWithin w := by
  intro env provider regionId shares config state held amount w' h
  simp [checkWithdrawal] at h
  obtain ⟨-, hpos, -, -, hstate, hle, htotal, hamount, available, havailable, hleAvailable,
      rfl, -⟩ :=
    h
  rw [PoolState.available, MachineInt.checkedSub_eq_some] at havailable
  rw [MachineInt.le_def] at hle hleAvailable
  obtain ⟨-, rfl⟩ := (amountFor_par hpos (hw.par _ _ hstate) htotal).1 hamount
  have hdrawn := hw.sound.drawn_nonneg regionId
  have hheld := hw.sound.stake_le_deposited provider regionId
  rw [book_drawn hstate] at hdrawn
  rw [book_stake, book_deposited hstate] at hheld
  rw [hw.par _ _ hstate]
  omega

theorem repaysWithin_of_wellFormed (hw : WellFormed token w.store) : RepaysWithin w := by
  intro env agent regionId amount config state exposure w' h
  simp [checkRepayment] at h
  obtain ⟨-, -, -, hstate, hle, rfl, -⟩ := h
  rw [MachineInt.le_def] at hle
  have howed := hw.sound.debt_le_drawn agent regionId
  rw [book_debt, book_drawn hstate] at howed
  omega

/-- **Reads never trap.**  In every reachable state, reading the health of a region overflows
nowhere and reports a utilization between 0 and 100%, and the subtractions of withdrawals and
repayments do not go below zero where they are reached. -/
theorem reads_never_trap (h₀ : w₀.store = .blank) (h : (contract H).lts.Reachable w₀ w) :
    (∀ regionId, w.store.getPool regionId = none → getPoolHealth regionId w = .ok (none, w)) ∧
    (∀ regionId state, w.store.getPool regionId = some state → ReadsExactly w regionId state) ∧
    WithdrawsWithin w ∧ RepaysWithin w := by
  have hb := inOrder_of_reachable h₀ h
  refine ⟨?_, ?_, ?_, ?_⟩
  · intro regionId hnone
    simp only [getPoolHealth, read_bind, hnone]
    rfl
  · intro regionId state hstate
    obtain ⟨token, hw, hscale⟩ := hb.live_of_pool hstate
    exact readsExactly_of_wellFormed hw hscale hstate
  · cases hb with
    | blank hblank =>
      intro env provider regionId shares config state held amount w' h
      simp [checkWithdrawal, hblank, Storage.blank] at h
    | live token hw => exact withdrawsWithin_of_wellFormed hw
  · cases hb with
    | blank hblank =>
      intro env agent regionId amount config state exposure w' h
      simp [checkRepayment, hblank, Storage.blank] at h
    | live token hw => exact repaysWithin_of_wellFormed hw

/-! ### The sample region -/

namespace Sample

theorem start_run : (contract host).lts.Run blank
    [.call (signedBy admin) (.initializeContract admin ⟨5⟩ usd 15000 8000) (.done .unit [] [])]
    start :=
  .single (Contract.step_done rfl rfl rfl rfl)

theorem final_reachable : (contract host).lts.Reachable blank final :=
  ⟨_, start_run.append final_run⟩

end Sample

theorem reads_never_trap_sample : ReadsExactly Sample.final Sample.region Sample.pool :=
  (reads_never_trap rfl Sample.final_reachable).2.1 _ _ Sample.final_pool

end Pool

end RemitBridge
