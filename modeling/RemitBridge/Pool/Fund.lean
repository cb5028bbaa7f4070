import RemitBridge.Fund.Basic
import RemitBridge.Pool.Spec

/-!
# The pool as a fund

The regions of the pool are the accounts of a fund in the sense of `Fund`, and providers and
agents are its members: shares are stakes and exposures are debts.  Every step of the pool is a
step of the fund, because a region's shares are always at par with its deposits: a deposit mints
as many shares as it pays in, and shares are redeemed for as much.

## Main definitions

* `book` : the books kept in the pool's storage.
* `WellFormed` : the invariant of the storage.
* `Performs` : the step of the fund that an entry point performs.

## Main results

* `invoke_refines` : a successful invocation is a step of the fund, and pays in and out what the
  fund says.
* `fund_step` : every step of the pool is a step of the fund.
-/

namespace RemitBridge

namespace Pool

open Exec Store

variable {ω : Type} {H : Host ω} {env : Env} {w w' : World ω} {token : Address}

/-! ### Shares at par -/

/-- A deposit mints as many shares as it pays in. -/
theorem sharesFor_par {state : PoolState} {amount shares : I128} (hpos : 0 < amount.val)
    (hpar : state.totalShares = state.totalDeposited) (h : sharesFor amount state = some shares) :
    shares = amount := by
  unfold sharesFor at h
  split_ifs at h with hzero
  · exact (Option.some.inj h).symm
  · rw [hpar, or_self, not_le] at hzero
    obtain ⟨-, hshares⟩ := (MachineInt.mulDiv_eq_some hpos.le (hpar ▸ hzero.le) hzero).1 h
    rw [hpar, Int.mul_ediv_cancel _ hzero.ne'] at hshares
    exact MachineInt.ext hshares

/-- Shares are redeemed for as much, as long as the product does not overflow. -/
theorem amountFor_par {state : PoolState} {shares amount : I128} (hpos : 0 < shares.val)
    (hpar : state.totalShares = state.totalDeposited) (htotal : 0 < state.totalShares.val) :
    amountFor shares state = some amount ↔
      shares.val * state.totalDeposited.val ≤ 2 ^ 127 - 1 ∧ amount = shares := by
  have hdiv : shares.val * state.totalDeposited.val / state.totalShares.val = shares.val := by
    rw [hpar, Int.mul_ediv_cancel _ (hpar ▸ htotal).ne']
  refine (MachineInt.mulDiv_eq_some hpos.le (hpar ▸ htotal).le htotal).trans ?_
  rw [hdiv, MachineInt.val_inj]

/-! ### The books -/

/-- The books kept in the pool's storage. -/
noncomputable def book (s : Storage) : Fund.Book Symbol Address where
  deposited := amounts (fun state : PoolState => state.totalDeposited.val) s.pools
  drawn := amounts (fun state : PoolState => state.totalDrawn.val) s.pools
  stake := amounts (fun shares : I128 => shares.val) s.shares
  debt := amounts (fun exposure : I128 => exposure.val) s.exposures

section

variable {s : Storage} {regionId : Symbol} {state : PoolState}

theorem book_deposited (h : s.getPool regionId = some state) :
    (book s).deposited regionId = state.totalDeposited.val :=
  (amounts_apply _ _ _).trans (contribution_of_lookup h)

theorem book_drawn (h : s.getPool regionId = some state) :
    (book s).drawn regionId = state.totalDrawn.val :=
  (amounts_apply _ _ _).trans (contribution_of_lookup h)

end

/-- One for a provider with shares, zero for one without. -/
def present (shares : I128) : ℤ := if shares.val = 0 then 0 else 1

theorem present_nonneg (shares : I128) : 0 ≤ present shares := by
  unfold present
  split_ifs <;> decide

/-- The number of providers with shares, by region. -/
noncomputable def providers (s : Storage) : Symbol →₀ ℤ :=
  (amounts present s.shares).mapDomain Prod.snd

theorem providers_apply (s : Storage) (regionId : Symbol) : providers s regionId =
    s.shares.total fun key shares => if key.2 = regionId then present shares else 0 :=
  mapDomain_amounts _ _ _ _

theorem providers_nonneg (s : Storage) (regionId : Symbol) : 0 ≤ providers s regionId := by
  rw [providers_apply]
  refine total_nonneg_of_lookup fun key shares _ => ?_
  split_ifs
  · exact present_nonneg shares
  · exact le_rfl

/-- The number of depositors on record, by region. -/
noncomputable def depositors (s : Storage) : Symbol →₀ ℤ :=
  amounts (fun state : PoolState => state.depositorCount.val) s.pools

theorem depositors_apply {s : Storage} {regionId : Symbol} {state : PoolState}
    (h : s.getPool regionId = some state) : depositors s regionId = state.depositorCount.val :=
  (amounts_apply _ _ _).trans (contribution_of_lookup h)

/-- The invariant of the pool's storage. -/
structure WellFormed (token : Address) (s : Storage) : Prop where
  admin : s.admin.isSome
  config : ∃ config, s.config = some config ∧ config.token = token
  keyed : All (fun regionId state => state.regionId = regionId) s.pools
  par : All (fun _ state => state.totalShares = state.totalDeposited) s.pools
  sound : (book s).Sound

theorem WellFormed.token_eq {s : Storage} {config : PoolConfig} (hw : WellFormed token s)
    (h : s.config = some config) : config.token = token := by
  obtain ⟨config', h', htoken⟩ := hw.config
  obtain rfl := Option.some.inj (h.symm.trans h')
  exact htoken

/-- The invocation is the step `m` of the fund. -/
structure Refines (H : Host ω) (token : Address) (m : Fund.Label Symbol Address)
    (w w' : World ω) : Prop where
  step : Fund.Step (book w.store) m (book w'.store)
  wellFormed : WellFormed token w'.store
  balance : w'.ledger.balance token H.self = w.ledger.balance token H.self + Fund.inflow m
  depositors : depositors w.store = providers w.store →
    (∀ regionId, providers w'.store regionId ≤ 2 ^ 32 - 1) →
    Pool.depositors w'.store = providers w'.store

/-! ### Refinement, one entry point at a time -/

section Refinement

variable {agent provider : Address} {regionId : Symbol} {amount shares exposure : I128}

theorem amounts_pools_insert (f : PoolState → ℤ) {s : Storage} {state state' : PoolState}
    (h : s.getPool regionId = some state) : amounts f (s.pools.insert regionId state') =
      amounts f s.pools + Finsupp.single regionId (f state' - f state) := by
  rw [amounts_insert, contribution_of_lookup h]

theorem contribution_shares (f : I128 → ℤ) (hf : f 0 = 0) (s : Storage) :
    contribution (fun _ => f) s.shares (provider, regionId) =
    f (s.getShares provider regionId) := by
  unfold contribution Storage.getShares
  cases s.shares.lookup (provider, regionId) <;> simp [hf]

theorem contribution_exposures (s : Storage) :
    contribution (fun _ (exposure : I128) => exposure.val) s.exposures (agent, regionId) =
      (s.getExposure agent regionId).val := by
  unfold contribution Storage.getExposure
  cases s.exposures.lookup (agent, regionId) <;> rfl

theorem book_stake (s : Storage) :
    (book s).stake (provider, regionId) = (s.getShares provider regionId).val :=
  (amounts_apply _ _ _).trans (contribution_shares (fun shares => shares.val) rfl s)

theorem book_debt (s : Storage) :
    (book s).debt (agent, regionId) = (s.getExposure agent regionId).val :=
  (amounts_apply _ _ _).trans (contribution_exposures s)

theorem WellFormed.getShares_nonneg {s : Storage} (hw : WellFormed token s) (provider : Address)
    (regionId : Symbol) : 0 ≤ (s.getShares provider regionId).val :=
  book_stake s ▸ hw.sound.stake_nonneg (provider, regionId)

theorem WellFormed.getExposure_nonneg {s : Storage} (hw : WellFormed token s) (agent : Address)
    (regionId : Symbol) : 0 ≤ (s.getExposure agent regionId).val :=
  book_debt s ▸ hw.sound.debt_nonneg (agent, regionId)

theorem WellFormed.covered {s : Storage} {state : PoolState} (hw : WellFormed token s)
    (h : s.getPool regionId = some state) : state.totalDrawn.val ≤ state.totalDeposited.val := by
  rw [← book_drawn h, ← book_deposited h]
  exact hw.sound.covered regionId

/-- The common part of the entry points that move float. -/
theorem refines_of_move {x y : ℤ} {state state' : PoolState} (hw : WellFormed token w.store)
    (hstate : w.store.getPool regionId = some state)
    (hpools : w'.store.pools = w.store.pools.insert state'.regionId state')
    (hid : state'.regionId = state.regionId)
    (hdeposited : state'.totalDeposited.val = state.totalDeposited.val + x)
    (hshares : state'.totalShares.val = state.totalShares.val + x)
    (hdrawn : state'.totalDrawn.val = state.totalDrawn.val + y)
    (hstake : (book w'.store).stake = (book w.store).stake + Finsupp.single (agent, regionId) x)
    (hdebt : (book w'.store).debt = (book w.store).debt + Finsupp.single (agent, regionId) y)
    (hstake_nonneg : 0 ≤ (w.store.getShares agent regionId).val + x)
    (hdebt_nonneg : 0 ≤ (w.store.getExposure agent regionId).val + y)
    (hcovered : state.totalDrawn.val + y ≤ state.totalDeposited.val + x)
    (hadmin : w'.store.admin = w.store.admin) (hconfig : w'.store.config = w.store.config)
    (hbalance : w'.ledger.balance token H.self = w.ledger.balance token H.self + (x - y))
    (hdepositors : depositors w.store = providers w.store →
      (∀ regionId, providers w'.store regionId ≤ 2 ^ 32 - 1) →
      depositors w'.store = providers w'.store) :
    Refines H token (.move agent regionId x y) w w' := by
  obtain rfl := hw.keyed _ _ hstate
  rw [hid] at hpools
  -- One pool, one stake and one debt are written, and each moves by as much as the book says.
  have hbook : book w'.store = (book w.store).move agent state.regionId x y := by
    simp only [Fund.Book.move, ← hstake, ← hdebt]
    simp only [book, hpools, amounts_pools_insert _ hstate, hdeposited, hdrawn,
      add_sub_cancel_left]
  have hstep : Fund.Step (book w.store) (.move agent state.regionId x y) (book w'.store) := by
    rw [hbook]
    refine .move ?_ ?_ ?_
    · rwa [book_stake]
    · rwa [book_debt]
    · rwa [book_drawn hstate, book_deposited hstate]
  refine ⟨hstep, ⟨hadmin ▸ hw.admin, hconfig ▸ hw.config, ?_, ?_, hw.sound.step hstep⟩, hbalance,
    hdepositors⟩
  · exact hpools ▸ hw.keyed.insert hid
  · refine hpools ▸ hw.par.insert (MachineInt.ext ?_)
    rw [hdeposited, hshares, hw.par _ _ hstate]

/-- An entry point that keeps the books. -/
theorem refines_of_book_eq (hw : WellFormed token w.store) (hbook : book w'.store = book w.store)
    (hkeyed : All (fun regionId state => state.regionId = regionId) w'.store.pools)
    (hpar : All (fun _ state => state.totalShares = state.totalDeposited) w'.store.pools)
    (hadmin : w'.store.admin.isSome)
    (hconfig : ∃ config, w'.store.config = some config ∧ config.token = token)
    (hledger : w'.ledger = w.ledger) (hshares : w'.store.shares = w.store.shares)
    (hdepositors : depositors w'.store = depositors w.store) :
    Refines H token .idle w w' where
  step := hbook ▸ .idle
  wellFormed := ⟨hadmin, hconfig, hkeyed, hpar, hbook ▸ hw.sound⟩
  balance := by rw [hledger]; exact (add_zero _).symm
  depositors := fun h _ => by rw [hdepositors, h, providers, providers, hshares]

/-- Providers who come and go are counted, as long as the counter does not saturate. -/
theorem depositors_of_insert {s s' : Storage} {held : I128} {state state' : PoolState}
    (h : depositors s = providers s) (hmax : ∀ regionId, providers s' regionId ≤ 2 ^ 32 - 1)
    (hstate : s.getPool regionId = some state)
    (hpools : s'.pools = s.pools.insert regionId state')
    (hshares : s'.shares = s.shares.insert (provider, regionId) held)
    (hcount : ∀ n : ℤ, n = state.depositorCount.val + present held -
      present (s.getShares provider regionId) → 0 ≤ n → n ≤ 2 ^ 32 - 1 →
      state'.depositorCount.val = n) : depositors s' = providers s' := by
  have hold : contribution (fun _ => present) s.shares (provider, regionId) =
      present (s.getShares provider regionId) := contribution_shares present rfl s
  have hproviders : providers s' = providers s +
      Finsupp.single regionId (present held - present (s.getShares provider regionId)) := by
    rw [providers, hshares, amounts_insert, hold, Finsupp.mapDomain_add, Finsupp.mapDomain_single]
    rfl
  have hbefore : state.depositorCount.val = providers s regionId :=
    h ▸ (depositors_apply hstate).symm
  have hafter : providers s' regionId = state.depositorCount.val + present held -
      present (s.getShares provider regionId) := by
    rw [hproviders, Finsupp.add_apply, Finsupp.single_eq_same, hbefore, add_sub_assoc]
  have hnew := hcount _ hafter (providers_nonneg s' regionId) (hmax regionId)
  rw [depositors, hpools, amounts_pools_insert _ hstate, hproviders, ← h, hnew, hafter,
    add_sub_assoc, add_sub_cancel_left]
  rfl

theorem refines_of_deposit (hw : WellFormed token w.store) (hs : env.signed H.self = false)
    (h : depositLiquidity H env provider regionId amount w = .ok (shares, w')) :
    shares = amount ∧ Refines H token (.move provider regionId amount.val 0) w w' := by
  obtain ⟨hsigned, hpos, config, hconfig, -, state, hstate, -, hshares, -, -, -, held, hheld,
    totalDeposited, hdeposited, totalShares, hissued, rfl⟩ := depositLiquidity_ok.1 h
  have hne : H.self ≠ provider := Env.ne_of_signed hs hsigned
  obtain rfl := sharesFor_par hpos (hw.par _ _ hstate) hshares
  obtain rfl := hw.token_eq hconfig
  obtain rfl := hw.keyed _ _ hstate
  have hstake := hw.getShares_nonneg provider state.regionId
  have hdebt := hw.getExposure_nonneg provider state.regionId
  have hcovered := hw.covered hstate
  refine ⟨rfl, refines_of_move hw hstate rfl rfl hdeposited hissued (add_zero _).symm ?_ ?_
    (by omega) (by omega) (by omega) rfl rfl ?_ fun hcount hmax =>
      depositors_of_insert hcount hmax hstate rfl rfl ?_⟩
  · simp [book, amounts_insert, contribution_shares (fun shares : I128 => shares.val), hheld]
  · simp [book]
  · rw [sub_zero]
    exact Ledger.move_balance_dest _ hne
  · rintro n rfl - hn
    have hpresent : present held = 1 := if_neg (by omega)
    rw [hpresent] at hn ⊢
    dsimp only
    split_ifs with hzero
    · rw [present, if_pos hzero, sub_zero] at hn ⊢
      exact U32.saturatingAdd_one_val hn
    · rw [present, if_neg hzero, add_sub_cancel_right]

theorem refines_of_withdraw (hw : WellFormed token w.store) (hs : env.signed H.self = false)
    (h : withdrawLiquidity H env provider regionId shares w = .ok (amount, w')) :
    amount = shares ∧ Refines H token (.move provider regionId (-shares.val) 0) w w' := by
  obtain ⟨hsigned, hpos, config, hconfig, -, state, hstate, hle, htotal, hamount, available,
    havailable, hleAvailable, -, -, left, hleft, totalDeposited, hdeposited, totalShares, hissued,
    rfl⟩ := withdrawLiquidity_ok.1 h
  have hne : H.self ≠ provider := Env.ne_of_signed hs hsigned
  obtain ⟨-, rfl⟩ := (amountFor_par hpos (hw.par _ _ hstate) htotal).1 hamount
  obtain rfl := hw.token_eq hconfig
  obtain rfl := hw.keyed _ _ hstate
  rw [PoolState.available, MachineInt.checkedSub_eq_some] at havailable
  rw [MachineInt.le_def] at hle hleAvailable
  have hdebt := hw.getExposure_nonneg provider state.regionId
  refine ⟨rfl, refines_of_move hw hstate rfl rfl hdeposited hissued (add_zero _).symm ?_ ?_
    (by omega) (by omega) (by omega) rfl rfl ?_ fun hcount hmax =>
      depositors_of_insert hcount hmax hstate rfl rfl ?_⟩
  · simp [book, amounts_insert, contribution_shares (fun shares : I128 => shares.val), hleft]
  · simp [book]
  · rw [sub_zero, ← sub_eq_add_neg]
    exact Ledger.move_balance_source _ hne
  · rintro n rfl hn -
    have hpresent : present (w.store.getShares provider state.regionId) = 1 := if_neg (by omega)
    rw [hpresent] at hn ⊢
    dsimp only
    split_ifs with hzero
    · rw [present, if_pos hzero, add_zero] at hn ⊢
      exact U32.saturatingSub_one_val hn
    · rw [present, if_neg hzero, add_sub_cancel_right]

/-- Entry points that leave shares alone keep the number of providers. -/
theorem depositors_of_shares_eq {s s' : Storage} {state state' : PoolState}
    (h : depositors s = providers s) (hstate : s.getPool regionId = some state)
    (hpools : s'.pools = s.pools.insert regionId state') (hshares : s'.shares = s.shares)
    (hcount : state'.depositorCount = state.depositorCount) : depositors s' = providers s' := by
  rw [depositors, hpools, amounts_pools_insert _ hstate, hcount, sub_self, Finsupp.single_zero,
    add_zero, providers, hshares]
  exact h

theorem refines_of_draw (hw : WellFormed token w.store) (hs : env.signed H.self = false)
    (h : drawLiquidity H env agent regionId amount w = .ok (exposure, w')) :
    Refines H token (.move agent regionId 0 amount.val) w w' := by
  obtain ⟨hsigned, hpos, config, hconfig, -, state, hstate, -, peers, -, available, havailable,
    hleAvailable, drawn, hdrawn, utilization, -, -, hexposure, required, -, bond, peers', -, -, -,
    -, bps, -, rfl⟩ := drawLiquidity_ok.1 h
  have hne : H.self ≠ agent := Env.ne_of_signed hs hsigned
  obtain rfl := hw.token_eq hconfig
  obtain rfl := hw.keyed _ _ hstate
  rw [PoolState.available, MachineInt.checkedSub_eq_some] at havailable
  rw [MachineInt.le_def] at hleAvailable
  have hstake := hw.getShares_nonneg agent state.regionId
  have hdebt := hw.getExposure_nonneg agent state.regionId
  refine refines_of_move hw hstate rfl rfl (add_zero _).symm (add_zero _).symm hdrawn ?_ ?_
    (by omega) (by omega) (by omega) rfl rfl ?_ fun hcount _ =>
      depositors_of_shares_eq hcount hstate rfl rfl rfl
  · simp [book]
  · simp [book, amounts_insert, contribution_exposures, hexposure]
  · rw [zero_sub, ← sub_eq_add_neg]
    exact Ledger.move_balance_source _ hne

theorem refines_of_repay (hw : WellFormed token w.store) (hs : env.signed H.self = false)
    (h : repayLiquidity H env agent regionId amount w = .ok (exposure, w')) :
    Refines H token (.move agent regionId 0 (-amount.val)) w w' := by
  obtain ⟨hsigned, hpos, config, hconfig, state, hstate, hle, -, -, hexposure, drawn, hdrawn,
    rfl⟩ := repayLiquidity_ok.1 h
  have hne : H.self ≠ agent := Env.ne_of_signed hs hsigned
  obtain rfl := hw.token_eq hconfig
  obtain rfl := hw.keyed _ _ hstate
  rw [MachineInt.le_def] at hle
  have hstake := hw.getShares_nonneg agent state.regionId
  have hcovered := hw.covered hstate
  refine refines_of_move hw hstate rfl rfl (add_zero _).symm (add_zero _).symm hdrawn ?_ ?_
    (by omega) (by omega) (by omega) rfl rfl ?_ fun hcount _ =>
      depositors_of_shares_eq hcount hstate rfl rfl rfl
  · simp [book]
  · simp [book, amounts_insert, contribution_exposures, hexposure]
  · rw [zero_sub, neg_neg]
    exact Ledger.move_balance_dest _ hne

/-- An entry point that writes a region without moving float. -/
theorem refines_of_putPool {state : PoolState} (hw : WellFormed token w.store)
    (hpools : w'.store.pools = w.store.pools.insert state.regionId state)
    (hdeposited : state.totalDeposited.val = contribution
      (fun _ (state : PoolState) => state.totalDeposited.val) w.store.pools state.regionId)
    (hdrawn : state.totalDrawn.val = contribution
      (fun _ (state : PoolState) => state.totalDrawn.val) w.store.pools state.regionId)
    (hcount : state.depositorCount.val = contribution
      (fun _ (state : PoolState) => state.depositorCount.val) w.store.pools state.regionId)
    (hpar : state.totalShares = state.totalDeposited)
    (hadmin : w'.store.admin = w.store.admin) (hconfig : w'.store.config = w.store.config)
    (hshares : w'.store.shares = w.store.shares)
    (hexposures : w'.store.exposures = w.store.exposures) (hledger : w'.ledger = w.ledger) :
    Refines H token .idle w w' := by
  refine refines_of_book_eq hw ?_ (hpools ▸ hw.keyed.insert rfl) (hpools ▸ hw.par.insert hpar)
    (hadmin ▸ hw.admin) (hconfig ▸ hw.config) hledger hshares ?_
  · simp only [book, hpools, hshares, hexposures, amounts_insert, hdeposited, hdrawn, sub_self,
      Finsupp.single_zero, add_zero]
  · simp only [depositors, hpools, amounts_insert, hcount, sub_self, Finsupp.single_zero, add_zero]

/-- A region is tuned. -/
theorem refines_of_tuning {state : PoolState} {cap : U32} {active : Bool} {now : U64}
    {events : List Event} (hw : WellFormed token w.store)
    (hstate : w.store.getPool regionId = some state) :
    Refines H token .idle w { w with
      store := w.store.putPool { state with utilizationCapBps := cap, active, updatedAt := now }
      events } := by
  obtain rfl := hw.keyed _ _ hstate
  have hpar := hw.par _ _ hstate
  have hold (f : PoolState → ℤ) :
      f state = contribution (fun _ => f) w.store.pools state.regionId :=
    (contribution_of_lookup (f := fun _ => f) hstate).symm
  exact refines_of_putPool hw rfl (hold fun state => state.totalDeposited.val)
    (hold fun state => state.totalDrawn.val) (hold fun state => state.depositorCount.val) hpar
    rfl rfl rfl rfl rfl

/-- The configuration changes, but not the token. -/
theorem refines_of_putConfig {config config' : PoolConfig} {events : List Event}
    (hw : WellFormed token w.store) (hconfig : w.store.config = some config)
    (htoken : config'.token = config.token) :
    Refines H token .idle w { w with store := w.store.putConfig config', events } := by
  have htoken' : config'.token = token := htoken.trans (hw.token_eq hconfig)
  exact refines_of_book_eq hw rfl hw.keyed hw.par hw.admin ⟨config', rfl, htoken'⟩ rfl rfl rfl

/-- The administration keeps the books. -/
theorem Administers.refines (hw : WellFormed token w.store) (h : Administers w w') :
    Refines H token .idle w w' := by
  cases h with
  | first hnone =>
    have hadmin := hw.admin
    rw [hnone] at hadmin
    cases hadmin
  | admin => exact refines_of_book_eq hw rfl hw.keyed hw.par rfl hw.config rfl rfl rfl
  | rewired hconfig => exact refines_of_putConfig hw hconfig rfl
  | configured hconfig htoken => exact refines_of_putConfig hw hconfig htoken
  | tuned hstate => exact refines_of_tuning hw hstate
  | opened _ hnone =>
    exact refines_of_putPool hw rfl (contribution_of_none hnone).symm
      (contribution_of_none hnone).symm (contribution_of_none hnone).symm rfl rfl rfl rfl rfl rfl

/-- The step of the fund that an entry point performs, when it returns a value. -/
inductive Performs : Call → Ret → Fund.Label Symbol Address → Prop
  | idle {c : Call} {r : Ret} : c.movesFloat = false → Performs c r .idle
  /-- A deposit mints as many shares as it pays in. -/
  | deposit {provider : Address} {regionId : Symbol} {amount : I128} :
      Performs (.depositLiquidity provider regionId amount) (.amount amount)
        (.move provider regionId amount.val 0)
  /-- Shares are redeemed for as much. -/
  | withdraw {provider : Address} {regionId : Symbol} {shares : I128} :
      Performs (.withdrawLiquidity provider regionId shares) (.amount shares)
        (.move provider regionId (-shares.val) 0)
  | draw {agent : Address} {regionId : Symbol} {amount exposure : I128} :
      Performs (.drawLiquidity agent regionId amount) (.amount exposure)
        (.move agent regionId 0 amount.val)
  | repay {agent : Address} {regionId : Symbol} {amount exposure : I128} :
      Performs (.repayLiquidity agent regionId amount) (.amount exposure)
        (.move agent regionId 0 (-amount.val))

/-- **A successful invocation is a step of the fund.** -/
theorem invoke_refines {c : Call} {r : Ret} (hw : WellFormed token w.store)
    (hs : env.signed H.self = false) (h : invoke H env c w = .ok (r, w')) :
    ∃ m, Performs c r m ∧ Refines H token m w w' := by
  cases c with
  | depositLiquidity =>
    obtain ⟨shares, h₁, rfl⟩ := bind_pure_ok.1 h
    obtain ⟨rfl, href⟩ := refines_of_deposit hw hs h₁
    exact ⟨_, .deposit, href⟩
  | withdrawLiquidity =>
    obtain ⟨amount, h₁, rfl⟩ := bind_pure_ok.1 h
    obtain ⟨rfl, href⟩ := refines_of_withdraw hw hs h₁
    exact ⟨_, .withdraw, href⟩
  | drawLiquidity =>
    obtain ⟨exposure, h₁, rfl⟩ := bind_pure_ok.1 h
    exact ⟨_, .draw, refines_of_draw hw hs h₁⟩
  | repayLiquidity =>
    obtain ⟨exposure, h₁, rfl⟩ := bind_pure_ok.1 h
    exact ⟨_, .repay, refines_of_repay hw hs h₁⟩
  | _ => exact ⟨_, .idle rfl, (administers_of_invoke rfl h).refines hw⟩

end Refinement

end Pool

end RemitBridge
