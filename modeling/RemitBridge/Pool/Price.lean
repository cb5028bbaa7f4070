import RemitBridge.Fund.Vault
import RemitBridge.Pool.Accounting

/-!
# Shares that are not at par

A region is a vault of its deposits and shares, whatever a share is worth.  Deposits and withdrawals
round in favour of the vault, so the price of a share does not fall, and neither a deposit that is
taken out again nor a withdrawal in pieces gains anything (`shares_fair`).
-/

namespace RemitBridge

/-- The deposits of a region and the shares in them. -/
def PoolState.vault (state : PoolState) : Vault := ⟨state.totalDeposited.val, state.totalShares.val⟩

namespace Pool

open Exec TransitionSystem

variable {ω : Type} {H : Host ω} {env : Env} {token : Address} {w₀ w w' : World ω} {l : Label ω}
  {ls : List (Label ω)} {provider : Address} {regionId : Symbol} {amount shares : I128}
  {state : PoolState}

/-- The region has deposits and shares, at any price.  Nobody holds more shares than there are. -/
structure Priced (s : Storage) (regionId : Symbol) (state : PoolState) : Prop where
  stored : s.getPool regionId = some state
  keyed : state.regionId = regionId
  deposited : 0 < state.totalDeposited.val
  issued : 0 < state.totalShares.val
  held : ∀ provider, s.getShares provider regionId ≤ state.totalShares

/-- The region's pool after an invocation, as a vault. -/
def BecomesVault (s : Storage) (regionId : Symbol) (v : Vault) : Prop :=
  ∃ state, s.getPool regionId = some state ∧ state.regionId = regionId ∧ state.vault = v

/-- The provider withdraws in pieces, one after the other: the shares and the payments.  In between
time passes and others act, but no invocation of the pool succeeds. -/
inductive Pieces (H : Host ω) (provider : Address) (regionId : Symbol) :
    World ω → List (I128 × I128) → World ω → Prop
  | done (w : World ω) : Pieces H provider regionId w [] w
  | wait {w w₁ w₂ : World ω} {l : Label ω} {ps : List (I128 × I128)} :
      (contract H).lts.step w l w₁ → l.succeeded = false → Pieces H provider regionId w₁ ps w₂ →
      Pieces H provider regionId w ps w₂
  | withdraw {w w₁ w₂ : World ω} {env : Env} {shares amount : I128} {ms : List TokenTransfer}
      {es : List Event} {ps : List (I128 × I128)} :
      (contract H).lts.step w
        (.call env (.withdrawLiquidity provider regionId shares)
          (.done (.amount amount) ms es)) w₁ →
      Pieces H provider regionId w₁ ps w₂ → Pieces H provider regionId w ((shares, amount) :: ps) w₂

/-- The shares withdrawn. -/
def redeemed (ps : List (I128 × I128)) : List ℤ := ps.map fun p => p.1.val

/-- What is paid for them. -/
def payment (ps : List (I128 × I128)) : ℤ := (ps.map fun p => p.2.val).sum

/-! ### One step -/

theorem getPool_putPool_self {s : Storage} (hid : state.regionId = regionId) :
    (s.putPool state).getPool regionId = some state := by
  rw [← hid, Storage.getPool, Storage.putPool_pools, AList.lookup_insert]

/-- What a deposit does to the vault. -/
theorem vault_of_deposit (hstate : w.store.getPool regionId = some state)
    (hid : state.regionId = regionId) (hdeposited : 0 < state.totalDeposited.val)
    (hissued : 0 < state.totalShares.val)
    (h : depositLiquidity H env provider regionId amount w = .ok (shares, w')) :
    shares.val = state.vault.mint amount.val ∧ 0 < shares.val ∧
      BecomesVault w'.store regionId (state.vault.deposit amount.val) := by
  obtain ⟨-, hamount, config, -, -, state', hstate', -, hshares, hpos, -, -, held, -,
    totalDeposited, hdeposited', totalShares, hissued', rfl⟩ := depositLiquidity_ok.1 h
  obtain rfl := Option.some.inj (hstate.symm.trans hstate')
  rw [sharesFor, if_neg (by omega)] at hshares
  have hmint : shares.val = state.vault.mint amount.val :=
    ((MachineInt.mulDiv_eq_some hamount.le hissued.le hdeposited).1 hshares).2
  refine ⟨hmint, hpos, _, getPool_putPool_self hid, hid, Vault.ext hdeposited' ?_⟩
  rw [Vault.deposit_shares, ← hmint]
  exact hissued'

/-- What a withdrawal does to the vault. -/
theorem vault_of_withdraw (hstate : w.store.getPool regionId = some state)
    (hid : state.regionId = regionId) (hdeposited : 0 ≤ state.totalDeposited.val)
    (h : withdrawLiquidity H env provider regionId shares w = .ok (amount, w')) :
    amount.val = state.vault.redeem shares.val ∧ 0 < shares.val ∧ 0 < state.totalShares.val ∧
      shares ≤ w.store.getShares provider regionId ∧
      (w'.store.getShares provider regionId).val =
        (w.store.getShares provider regionId).val - shares.val ∧
      BecomesVault w'.store regionId (state.vault.withdraw shares.val) := by
  obtain ⟨-, hpos, config, -, -, state', hstate', hle, hissued, hamount, available, -, -,
    -, -, left, hleft, totalDeposited, hdeposited', totalShares, hissued', rfl⟩ :=
    withdrawLiquidity_ok.1 h
  obtain rfl := Option.some.inj (hstate.symm.trans hstate')
  have hredeem : amount.val = state.vault.redeem shares.val :=
    ((MachineInt.mulDiv_eq_some hpos.le hdeposited hissued).1 hamount).2
  refine ⟨hredeem, hpos, hissued, hle, ?_, _, getPool_putPool_self hid, hid, Vault.ext ?_ hissued'⟩
  · rw [← hleft]
    simp [Storage.getShares, Storage.putShares, Storage.putPool, Storage.putStats]
  · rw [Vault.withdraw_assets, ← hredeem]
    exact hdeposited'

/-! ### Withdrawals in pieces -/

/-- In a reachable state, every region with deposits has shares. -/
theorem priced_of_reachable (h₀ : Fresh H token w₀) (h : (contract H).lts.Reachable w₀ w)
    (hstate : w.store.getPool regionId = some state) (hpos : 0 < state.totalDeposited.val) :
    Priced w.store regionId state := by
  have hw := h₀.wellFormed_of_reachable h
  have hpar := hw.par _ _ hstate
  refine ⟨hstate, hw.keyed _ _ hstate, hpos, hpar ▸ hpos, fun provider => ?_⟩
  have hle := hw.sound.stake_le_deposited provider regionId
  rw [book_stake, book_deposited hstate, ← hpar] at hle
  exact hle

/-- What is left while a provider withdraws in pieces. -/
structure Backed (s : Storage) (provider : Address) (regionId : Symbol) (v : Vault) : Prop where
  becomes : BecomesVault s regionId v
  assets : 0 ≤ v.assets
  held : (s.getShares provider regionId).val ≤ v.shares

theorem Priced.backed (h : Priced w.store regionId state) (provider : Address) :
    Backed w.store provider regionId state.vault :=
  ⟨⟨state, h.stored, h.keyed, rfl⟩, h.deposited.le, h.held provider⟩

theorem Backed.wait {v : Vault} (h : Backed w.store provider regionId v)
    (hst : (contract H).lts.step w l w') (hl : l.succeeded = false) :
    Backed w'.store provider regionId v := by
  rcases Contract.step_cases hst with hquiet | ⟨env, c, r, rfl, -, -⟩
  · rwa [hquiet.store]
  · cases hl

/-- A withdrawal leaves a vault that backs the other shares. -/
theorem Backed.withdraw {v : Vault} (h : Backed w.store provider regionId v)
    (hw : withdrawLiquidity H env provider regionId shares w = .ok (amount, w')) :
    amount.val = v.redeem shares.val ∧ 0 < shares.val ∧ shares.val ≤ v.shares ∧
      Backed w'.store provider regionId (v.withdraw shares.val) := by
  obtain ⟨⟨state, hstate, hid, rfl⟩, hassets, hheld⟩ := h
  obtain ⟨hamount, hpos, hissued, hle, hleft, hbecomes⟩ := vault_of_withdraw hstate hid hassets hw
  have hall : shares.val ≤ state.vault.shares := (MachineInt.le_def.1 hle).trans hheld
  have hredeem : state.vault.redeem shares.val ≤ state.vault.assets := by
    refine Vault.redeem_le hissued ?_
    rw [mul_comm state.vault.assets]
    exact mul_le_mul_of_nonneg_right hall hassets
  refine ⟨hamount, hpos, hall, hbecomes, ?_, ?_⟩
  · rw [Vault.withdraw_assets]
    omega
  · rw [Vault.withdraw_shares, hleft]
    omega

/-- What the pieces pay is what the vault pays for them. -/
theorem Pieces.paid {ps : List (I128 × I128)} {v : Vault} (h : Pieces H provider regionId w ps w')
    (hv : Backed w.store provider regionId v) : payment ps = v.paid (redeemed ps) ∧
      (∀ s ∈ redeemed ps, 0 < s) ∧ (0 ≤ v.shares → (redeemed ps).sum ≤ v.shares) := by
  induction h generalizing v with
  | done => exact ⟨rfl, fun s hs => absurd hs List.not_mem_nil, fun h => h⟩
  | wait hst hl _ ih => exact ih (hv.wait hst hl)
  | @withdraw w w₁ w₂ env shares amount ms es ps hst _ ih =>
    obtain ⟨amount', hw, hret⟩ := bind_pure_ok.1 (Contract.invoke_of_step_done hst)
    obtain rfl := Ret.amount.inj hret
    obtain ⟨hamount, hpos, hall, hleft⟩ := Backed.withdraw (w := w.clear) hv hw
    obtain ⟨hpaid, hposs, hsum⟩ := ih hleft
    refine ⟨?_, List.forall_mem_cons.2 ⟨hpos, hposs⟩, fun _ => ?_⟩
    · show amount.val + payment ps =
        v.redeem shares.val + (v.withdraw shares.val).paid (redeemed ps)
      rw [hamount, hpaid]
    · have hrest := hsum (by rw [Vault.withdraw_shares]; omega)
      rw [Vault.withdraw_shares] at hrest
      show shares.val + (redeemed ps).sum ≤ v.shares
      omega

/-- **Fair shares.**  At any price, no deposit or withdrawal lowers the price of a share; a deposit
that is withdrawn at once returns at most what was paid in; and a withdrawal in pieces pays at most
as much as one withdrawal. -/
theorem shares_fair (h : Priced w.store regionId state) :
    (∀ env provider amount ret ms es w', (contract H).lts.step w
        (.call env (.depositLiquidity provider regionId amount) (.done ret ms es)) w' →
      ∃ state', w'.store.getPool regionId = some state' ∧
        state.totalDeposited.val * state'.totalShares.val ≤
          state'.totalDeposited.val * state.totalShares.val) ∧
    (∀ env provider shares ret ms es w', (contract H).lts.step w
        (.call env (.withdrawLiquidity provider regionId shares) (.done ret ms es)) w' →
      ∃ state', w'.store.getPool regionId = some state' ∧
        state.totalDeposited.val * state'.totalShares.val ≤
          state'.totalDeposited.val * state.totalShares.val) ∧
    (∀ env env' provider amount shares amount' ms es ms' es' w₁ w₂, (contract H).lts.step w
        (.call env (.depositLiquidity provider regionId amount) (.done (.amount shares) ms es)) w₁ →
      (contract H).lts.step w₁ (.call env' (.withdrawLiquidity provider regionId shares)
        (.done (.amount amount') ms' es')) w₂ → amount' ≤ amount) ∧
    (∀ provider ps w', Pieces H provider regionId w ps w' →
      ∀ env shares amount ms es w₁, shares.val = (redeemed ps).sum → (contract H).lts.step w
        (.call env (.withdrawLiquidity provider regionId shares)
          (.done (.amount amount) ms es)) w₁ →
      payment ps ≤ amount.val) := by
  have hdeposit : ∀ {env provider amount shares w₁},
      depositLiquidity H env provider regionId amount w.clear = .ok (shares, w₁) →
      shares.val = state.vault.mint amount.val ∧ 0 < shares.val ∧
        BecomesVault w₁.store regionId (state.vault.deposit amount.val) :=
    fun hd => vault_of_deposit (w := w.clear) h.stored h.keyed h.deposited h.issued hd
  have hwithdraw : ∀ {env provider shares amount w₁},
      withdrawLiquidity H env provider regionId shares w.clear = .ok (amount, w₁) →
      amount.val = state.vault.redeem shares.val ∧ 0 < shares.val ∧
        shares.val ≤ state.vault.shares ∧
        Backed w₁.store provider regionId (state.vault.withdraw shares.val) :=
    fun hw => Backed.withdraw (w := w.clear) (h.backed _) hw
  refine ⟨?_, ?_, ?_, ?_⟩
  · intro env provider amount ret ms es w' hst
    obtain ⟨shares, hd, -⟩ := bind_pure_ok.1 (Contract.invoke_of_step_done hst)
    obtain ⟨-, -, state', hstate', -, hvault⟩ := hdeposit hd
    have hdearer := Vault.dearer_deposit (a := amount.val) (v := state.vault) h.deposited
    rw [← hvault] at hdearer
    exact ⟨state', hstate', hdearer⟩
  · intro env provider shares ret ms es w' hst
    obtain ⟨amount, hw, -⟩ := bind_pure_ok.1 (Contract.invoke_of_step_done hst)
    obtain ⟨-, -, -, ⟨state', hstate', -, hvault⟩, -, -⟩ := hwithdraw hw
    have hdearer := Vault.dearer_withdraw (s := shares.val) (v := state.vault) h.issued
    rw [← hvault] at hdearer
    exact ⟨state', hstate', hdearer⟩
  · intro env env' provider amount shares amount' ms es ms' es' w₁ w₂ hst₁ hst₂
    obtain ⟨shares', hd, hret⟩ := bind_pure_ok.1 (Contract.invoke_of_step_done hst₁)
    obtain rfl := Ret.amount.inj hret
    obtain ⟨amount₂, hw, hret⟩ := bind_pure_ok.1 (Contract.invoke_of_step_done hst₂)
    obtain rfl := Ret.amount.inj hret
    obtain ⟨hmint, hpos, state', hstate', hid, hvault⟩ := hdeposit hd
    -- After the deposit there still is something to price shares by.
    have hassets : 0 < state'.vault.assets := by
      have hamount := (depositLiquidity_ok.1 hd).2.1
      have hdeposited : 0 < state.vault.assets := h.deposited
      rw [hvault, Vault.deposit_assets]
      omega
    obtain ⟨hredeem, -, -, -, -, -⟩ :=
      vault_of_withdraw (w := w₁.clear) hstate' hid hassets.le hw
    have hissued : 0 < state.vault.shares + state.vault.mint amount.val := by
      have hissued : 0 < state.vault.shares := h.issued
      omega
    rw [MachineInt.le_def, hredeem, hvault, hmint]
    exact Vault.redeem_mint_le h.deposited hissued
  · intro provider ps w' hps env shares amount ms es w₁ hshares hst
    obtain ⟨amount', hw, hret⟩ := bind_pure_ok.1 (Contract.invoke_of_step_done hst)
    obtain rfl := Ret.amount.inj hret
    obtain ⟨hamount, -, -, -⟩ := hwithdraw hw
    -- In pieces, the rounding can only cost the provider.
    obtain ⟨hpaid, hpos, hsum⟩ := hps.paid (h.backed provider)
    rw [hpaid, hamount, hshares]
    exact Vault.paid_le_redeem h.issued hpos (hsum h.issued.le)

namespace Sample

/-- The region, in which a share has become worth half as much again. -/
def pricedPool : PoolState := { pool with totalDeposited := 15002 }

def priced : World Unit := { final with store := final.store.putPool pricedPool }

/-- The provider withdraws shares. -/
def withdrawOf (shares : I128) : Contract.Input Call :=
  .call (signedBy Sample.provider) (.withdrawLiquidity Sample.provider region shares)

theorem priced_pool : Priced priced.store region pricedPool where
  stored := by decide
  keyed := rfl
  deposited := by decide
  issued := by decide
  held := (priced_of_reachable fresh_start ⟨_, final_run⟩ final_pool (by decide)).held

/-- The provider is paid for its shares, and so much is left of the deposits. -/
def paysFor (shares amount left : I128) : Label Unit :=
  .call (signedBy Sample.provider) (.withdrawLiquidity Sample.provider region shares)
    (.done (.amount amount) [⟨usd, ⟨0⟩, Sample.provider, amount⟩]
      [.liquidityWithdrawn Sample.provider region shares amount left])

theorem first_piece : (contract host).lts.step priced (paysFor 1 1 15001)
    ((contract host).play priced [withdrawOf 1]) := Contract.step_done rfl rfl rfl rfl

theorem second_piece : (contract host).lts.step ((contract host).play priced [withdrawOf 1])
    (paysFor 1 1 15000) ((contract host).play priced [withdrawOf 1, withdrawOf 1]) :=
  Contract.step_done rfl rfl rfl rfl

theorem pieces : Pieces host Sample.provider region priced [(1, 1), (1, 1)]
    ((contract host).play priced [withdrawOf 1, withdrawOf 1]) :=
  .withdraw first_piece (.withdraw second_piece (.done _))

theorem whole : (contract host).lts.step priced (paysFor 2 3 14999)
    ((contract host).play priced [withdrawOf 2]) := Contract.step_done rfl rfl rfl rfl

end Sample

/-- Two shares pay two units one by one, and three together. -/
theorem shares_fair_sample : payment [(1, 1), (1, 1)] ≤ (3 : I128).val :=
  (shares_fair Sample.priced_pool).2.2.2 _ _ _ Sample.pieces _ _ _ _ _ _ rfl Sample.whole

end Pool

end RemitBridge
