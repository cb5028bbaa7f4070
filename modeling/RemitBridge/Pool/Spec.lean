import RemitBridge.Pool.Contract

/-!
# What each entry point of the pool does

For every entry point that moves float, one lemma says exactly when it succeeds and what world it
leaves.
-/

namespace RemitBridge

namespace Pool

open Exec

variable {ω : Type} {H : Host ω} {env : Env} {w w' : World ω}

/-! ### Helpers -/

section Helpers

variable {α : Type} {r : α × World ω}

@[simp] theorem getAdmin_bind_ok {f : Address → Exec (World ω) LiquidityError α} :
    (getAdmin >>= f) w = .ok r ↔ ∃ a, w.store.admin = some a ∧ f a w = .ok r := by
  simp only [getAdmin, bind_assoc, read_bind, okOr_bind_ok]

@[simp] theorem getConfig_bind_ok {f : PoolConfig → Exec (World ω) LiquidityError α} :
    (getConfig >>= f) w = .ok r ↔ ∃ c, w.store.config = some c ∧ f c w = .ok r := by
  simp only [getConfig, bind_assoc, read_bind, okOr_bind_ok]

@[simp] theorem loadPool_bind_ok {regionId : Symbol}
    {f : PoolState → Exec (World ω) LiquidityError α} :
    (loadPool regionId >>= f) w = .ok r ↔
      ∃ state, w.store.getPool regionId = some state ∧ f state w = .ok r := by
  simp only [loadPool, bind_assoc, read_bind, okOr_bind_ok]

@[simp] theorem requireAdmin_bind_ok {f : Address → Exec (World ω) LiquidityError α} :
    (requireAdmin env >>= f) w = .ok r ↔
      ∃ a, w.store.admin = some a ∧ env.signed a = true ∧ f a w = .ok r := by
  simp only [requireAdmin, bind_assoc, getAdmin_bind_ok, requireAuth_bind_ok, pure_bind_apply]

@[simp] theorem setConfig_bind {c : PoolConfig} {f : Unit → Exec (World ω) LiquidityError α} :
    (setConfig c >>= f) w = f () { w with store := w.store.putConfig c } := rfl

@[simp] theorem setStats_bind {s : LiquidityStats} {f : Unit → Exec (World ω) LiquidityError α} :
    (setStats s >>= f) w = f () { w with store := w.store.putStats s } := rfl

@[simp] theorem setPool_bind {s : PoolState} {f : Unit → Exec (World ω) LiquidityError α} :
    (setPool s >>= f) w = f () { w with store := w.store.putPool s } := rfl

@[simp] theorem validateRatio_bind_ok {bps : U32} {f : Unit → Exec (World ω) LiquidityError α} :
    (validateRatio bps >>= f) w = .ok r ↔
      (minCollateralRatioBps ≤ bps ∧ bps ≤ maxCollateralRatioBps) ∧ f () w = .ok r := by
  simp only [validateRatio, refuseIf_bind_ok, not_not]

@[simp] theorem validateCap_bind_ok {bps : U32} {f : Unit → Exec (World ω) LiquidityError α} :
    (validateCap bps >>= f) w = .ok r ↔
      (bps.val ≠ 0 ∧ bps ≤ maxUtilizationCapBps) ∧ f () w = .ok r := by
  simp only [validateCap, refuseIf_bind_ok, not_or, not_lt, ne_eq]

@[simp] theorem bondRequirement_bind_ok {exposure : I128}
    {f : I128 → Exec (World ω) LiquidityError α} :
    (bondRequirement exposure >>= f) w = .ok r ↔ ∃ config, w.store.config = some config ∧
      ∃ required, bondFor exposure config.collateralRatioBps = some required ∧
        f required w = .ok r := by
  simp only [bondRequirement, bind_assoc, getConfig_bind_ok, okOr_bind_ok]

@[simp] theorem checkAuthorized_bind_ok {registry agent : Address} {regionId : Symbol}
    {f : Unit → Exec (World ω) LiquidityError α} :
    (checkAuthorized H env registry agent regionId >>= f) w = .ok r ↔
      ∃ peers, H.tryIsAuthorized registry (env.invokedBy H.self) w.ledger.timestamp agent regionId
        w.peers = (.ok true, peers) ∧ f () { w with peers } = .ok r := by
  simp only [checkAuthorized, bind_assoc, timestamp_bind, callPeers_bind]
  obtain ⟨answer, peers⟩ := H.tryIsAuthorized registry (env.invokedBy H.self) w.ledger.timestamp
    agent regionId w.peers
  rcases answer with ((_ | _) | _ | _ | _) <;> simp

@[simp] theorem registryBond_bind_ok {registry agent : Address}
    {f : I128 → Exec (World ω) LiquidityError α} :
    (registryBond H env registry agent >>= f) w = .ok r ↔
      ∃ bond peers, H.tryGetBond registry (env.invokedBy H.self) w.ledger.timestamp agent w.peers =
        (.ok bond, peers) ∧ f bond { w with peers } = .ok r := by
  simp only [registryBond, bind_assoc, timestamp_bind, callPeers_bind]
  obtain ⟨answer, peers⟩ := H.tryGetBond registry (env.invokedBy H.self) w.ledger.timestamp agent
    w.peers
  cases answer <;> simp

end Helpers

/-- The bond that covers an exposure, rounded down. -/
theorem bondFor_eq_some {exposure required : I128} {collateralRatioBps : U32}
    (h : 0 ≤ exposure.val) : bondFor exposure collateralRatioBps = some required ↔
      exposure.val * collateralRatioBps.val ≤ 2 ^ 127 - 1 ∧
        required.val = exposure.val * collateralRatioBps.val / 10000 :=
  MachineInt.mulDiv_eq_some h collateralRatioBps.val_nonneg (by decide)

/-! ### Administration -/

/-- What a call that moves no float does: it writes the first administrator and configuration, or
another one of them, or a region, and reports it. -/
inductive Administers (w : World ω) : World ω → Prop
  | first {admin : Address} {config : PoolConfig} : w.store.admin = none →
      minCollateralRatioBps ≤ config.collateralRatioBps → Administers w { w with
        store := ((w.store.putAdmin admin).putConfig config).putStats .zero }
  | admin {previous admin : Address} : w.store.admin = some previous →
      Administers w { w with
        store := w.store.putAdmin admin
        events := w.events ++ [.adminChanged previous admin] }
  | rewired {config : PoolConfig} {agentRegistry : Address} : w.store.config = some config →
      Administers w { w with
        store := w.store.putConfig { config with agentRegistry }
        events := w.events ++ [.registryUpdated agentRegistry] }
  | configured {config config' : PoolConfig} {tag : Symbol} : w.store.config = some config →
      config'.token = config.token → (config'.collateralRatioBps = config.collateralRatioBps ∨
        minCollateralRatioBps ≤ config'.collateralRatioBps) → Administers w { w with
        store := w.store.putConfig config'
        events := w.events ++ [.configUpdated tag config'.collateralRatioBps config'.paused] }
  | tuned {regionId : Symbol} {state : PoolState} {cap : U32} {active : Bool} :
      w.store.getPool regionId = some state → Administers w { w with
        store := w.store.putPool
          { state with utilizationCapBps := cap, active, updatedAt := w.ledger.timestamp }
        events := w.events ++ [.regionConfigured regionId cap active] }
  | opened {config : PoolConfig} {regionId : Symbol} {cap : U32} {stats : LiquidityStats} :
      w.store.config = some config → w.store.getPool regionId = none → Administers w { w with
        store := ((w.store.putPool
          ⟨regionId, 0, 0, 0, 0, cap, true, w.ledger.timestamp⟩).pushRegion regionId).putStats stats
        events := w.events ++ [.regionConfigured regionId cap true] }

theorem administers_of_invoke {c : Call} {r : Ret} (hc : c.movesFloat = false)
    (h : invoke H env c w = .ok (r, w')) : Administers w w' := by
  cases c with
  | initializeContract =>
    simp [invoke, initializeContract, bind_assoc] at h
    obtain ⟨hnone, ⟨hratio, -⟩, -, -, -, rfl⟩ := h
    exact .first hnone hratio
  | setAdmin =>
    simp [invoke, setAdmin, bind_assoc] at h
    obtain ⟨previous, hadmin, -, -, rfl⟩ := h
    exact .admin hadmin
  | setAgentRegistry =>
    simp [invoke, setAgentRegistry, bind_assoc] at h
    obtain ⟨-, -, -, config, hconfig, -, rfl⟩ := h
    exact .rewired hconfig
  | setCollateralRatio =>
    simp [invoke, setCollateralRatio, bind_assoc] at h
    obtain ⟨-, -, -, ⟨hratio, -⟩, config, hconfig, -, rfl⟩ := h
    exact .configured hconfig rfl (.inr hratio)
  | setDefaultUtilizationCap =>
    simp [invoke, setDefaultUtilizationCap, bind_assoc] at h
    obtain ⟨-, -, -, -, config, hconfig, -, rfl⟩ := h
    exact .configured hconfig rfl (.inl rfl)
  | setUtilizationCap =>
    simp [invoke, setUtilizationCap, bind_assoc] at h
    obtain ⟨-, -, -, -, state, hstate, -, rfl⟩ := h
    exact .tuned hstate
  | setRegionActive =>
    simp [invoke, setRegionActive, bind_assoc] at h
    obtain ⟨-, -, -, state, hstate, -, rfl⟩ := h
    exact .tuned hstate
  | setPaused =>
    simp [invoke, setPaused, bind_assoc] at h
    obtain ⟨-, -, -, config, hconfig, -, rfl⟩ := h
    exact .configured hconfig rfl (.inl rfl)
  | openRegion =>
    simp [invoke, openRegion, bind_assoc] at h
    obtain ⟨-, -, -, hnone, config, hconfig, -, -, rfl⟩ := h
    exact .opened hconfig hnone
  | _ => cases hc

/-! ### The entry points that move float -/

/-- **Depositing.** -/
theorem depositLiquidity_ok {provider : Address} {regionId : Symbol} {amount shares : I128} :
    depositLiquidity H env provider regionId amount w = .ok (shares, w') ↔
      env.signed provider = true ∧ 0 < amount.val ∧
      ∃ config, w.store.config = some config ∧ config.paused = false ∧
      ∃ state, w.store.getPool regionId = some state ∧ state.active = true ∧
      sharesFor amount state = some shares ∧ 0 < shares.val ∧
      (0 ≤ amount.val ∧ amount.val ≤ w.ledger.balance config.token provider) ∧
      env.accepts ⟨config.token, provider, H.self, amount⟩ = true ∧
      ∃ held : I128, held.val = (w.store.getShares provider regionId).val + shares.val ∧
      ∃ totalDeposited : I128, totalDeposited.val = state.totalDeposited.val + amount.val ∧
      ∃ totalShares : I128, totalShares.val = state.totalShares.val + shares.val ∧
      w' =
        { store := ((w.store.putShares provider regionId held).putPool
            { state with
              totalDeposited, totalShares
              depositorCount := if (w.store.getShares provider regionId).val = 0 then
                state.depositorCount.saturatingAdd 1 else state.depositorCount
              updatedAt := w.ledger.timestamp }).putStats
                { w.store.getStats with
                  totalDeposits := w.store.getStats.totalDeposits.saturatingAdd 1 }
          ledger := w.ledger.move ⟨config.token, provider, H.self, amount⟩
          events := w.events ++
            [.liquidityDeposited provider regionId amount shares totalDeposited]
          peers := w.peers } := by
  unfold depositLiquidity
  rw [requireAuth_bind_ok]
  refine and_congr_right fun hs => ?_
  simp [hs, MachineInt.checkedAdd_eq_some]
  exact fun _ => Iff.rfl

/-- **Withdrawing.** -/
theorem withdrawLiquidity_ok {provider : Address} {regionId : Symbol} {shares amount : I128} :
    withdrawLiquidity H env provider regionId shares w = .ok (amount, w') ↔
      env.signed provider = true ∧ 0 < shares.val ∧
      ∃ config, w.store.config = some config ∧ config.paused = false ∧
      ∃ state, w.store.getPool regionId = some state ∧
      shares ≤ w.store.getShares provider regionId ∧ 0 < state.totalShares.val ∧
      amountFor shares state = some amount ∧
      ∃ available, state.available = some available ∧ amount ≤ available ∧
      (0 ≤ amount.val ∧ amount.val ≤ w.ledger.balance config.token H.self) ∧
      env.accepts ⟨config.token, H.self, provider, amount⟩ = true ∧
      ∃ left : I128, left.val = (w.store.getShares provider regionId).val - shares.val ∧
      ∃ totalDeposited : I128, totalDeposited.val = state.totalDeposited.val - amount.val ∧
      ∃ totalShares : I128, totalShares.val = state.totalShares.val - shares.val ∧
      w' =
        { store := ((w.store.putShares provider regionId left).putPool
            { state with
              totalDeposited, totalShares
              depositorCount := if left.val = 0 then
                state.depositorCount.saturatingSub 1 else state.depositorCount
              updatedAt := w.ledger.timestamp }).putStats
                { w.store.getStats with
                  totalWithdrawals := w.store.getStats.totalWithdrawals.saturatingAdd 1 }
          ledger := w.ledger.move ⟨config.token, H.self, provider, amount⟩
          events := w.events ++
            [.liquidityWithdrawn provider regionId shares amount totalDeposited]
          peers := w.peers } := by
  unfold withdrawLiquidity
  simp [MachineInt.checkedSub_eq_some]
  exact fun _ _ => Iff.rfl

/-- **Drawing.** -/
theorem drawLiquidity_ok {agent : Address} {regionId : Symbol} {amount exposure : I128} :
    drawLiquidity H env agent regionId amount w = .ok (exposure, w') ↔
      env.signed agent = true ∧ 0 < amount.val ∧
      ∃ config, w.store.config = some config ∧ config.paused = false ∧
      ∃ state, w.store.getPool regionId = some state ∧ state.active = true ∧
      ∃ peers, H.tryIsAuthorized config.agentRegistry (env.invokedBy H.self) w.ledger.timestamp
        agent regionId w.peers = (.ok true, peers) ∧
      ∃ available, state.available = some available ∧ amount ≤ available ∧
      ∃ drawn : I128, drawn.val = state.totalDrawn.val + amount.val ∧
      ∃ utilization, utilizationWith drawn state = some utilization ∧
      utilization ≤ state.utilizationCapBps ∧
      exposure.val = (w.store.getExposure agent regionId).val + amount.val ∧
      ∃ required, bondFor exposure config.collateralRatioBps = some required ∧
      ∃ bond peers', H.tryGetBond config.agentRegistry (env.invokedBy H.self) w.ledger.timestamp
        agent peers = (.ok bond, peers') ∧ required ≤ bond ∧
      (0 ≤ amount.val ∧ amount.val ≤ w.ledger.balance config.token H.self) ∧
      env.accepts ⟨config.token, H.self, agent, amount⟩ = true ∧
      ∃ bps, PoolState.utilizationBps
        { state with totalDrawn := drawn, updatedAt := w.ledger.timestamp } = some bps ∧
      w' =
        { store := ((w.store.putExposure agent regionId exposure).putPool
            { state with totalDrawn := drawn, updatedAt := w.ledger.timestamp }).putStats
              { w.store.getStats with
                totalDraws := w.store.getStats.totalDraws.saturatingAdd 1 }
          ledger := w.ledger.move ⟨config.token, H.self, agent, amount⟩
          events := w.events ++ [.liquidityDrawn agent regionId amount exposure bps]
          peers := peers' } := by
  unfold drawLiquidity
  rw [requireAuth_bind_ok, refuseIf_bind_ok, not_le, getConfig_bind_ok]
  refine and_congr_right fun _ => and_congr_right fun _ => exists_congr fun config =>
    and_congr_right fun hconfig => ?_
  simp [hconfig, MachineInt.checkedAdd_eq_some]
  exact fun _ => Iff.rfl

/-- **Repaying.** -/
theorem repayLiquidity_ok {agent : Address} {regionId : Symbol} {amount exposure : I128} :
    repayLiquidity H env agent regionId amount w = .ok (exposure, w') ↔
      env.signed agent = true ∧ 0 < amount.val ∧
      ∃ config, w.store.config = some config ∧
      ∃ state, w.store.getPool regionId = some state ∧
      amount ≤ w.store.getExposure agent regionId ∧
      (0 ≤ amount.val ∧ amount.val ≤ w.ledger.balance config.token agent) ∧
      env.accepts ⟨config.token, agent, H.self, amount⟩ = true ∧
      exposure.val = (w.store.getExposure agent regionId).val - amount.val ∧
      ∃ totalDrawn : I128, totalDrawn.val = state.totalDrawn.val - amount.val ∧
      w' =
        { store := (w.store.putExposure agent regionId exposure).putPool
            { state with totalDrawn, updatedAt := w.ledger.timestamp }
          ledger := w.ledger.move ⟨config.token, agent, H.self, amount⟩
          events := w.events ++ [.liquidityRepaid agent regionId amount exposure]
          peers := w.peers } := by
  unfold repayLiquidity
  rw [requireAuth_bind_ok]
  refine and_congr_right fun hs => ?_
  simp [hs, MachineInt.checkedSub_eq_some]
  exact fun _ => Iff.rfl

end Pool

end RemitBridge
