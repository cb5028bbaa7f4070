import RemitBridge.Pool.Accounting
import RemitBridge.Soroban.Journal

/-!
# The journal of the pool

The events of the pool and the times of their ledgers tell everything about its storage but one
setting: the cap that a region opened without one is given (`told_of_invoke`).  Replaying the
journal of a run gives the rest of the storage to the last field (`withoutDefaultCap_eq_replay`),
while the default cap is not to be had from it (`default_cap_untold`).
-/

namespace RemitBridge

namespace Pool

open Exec Contract

variable {ω : Type} {H : Host ω} {env : Env} {w₀ w w' : World ω} {ls : List (Label ω)}

/-- The storage without the default cap. -/
def Storage.withoutDefaultCap (s : Storage) : Storage :=
  { s with config := s.config.map fun config => { config with defaultUtilizationCapBps := 0 } }

/-- The storage after an event that was emitted at the time `now`. -/
def Storage.replay (s : Storage) : U64 × Event → Option Storage
  | (now, .regionConfigured regionId utilizationCapBps active) =>
    match s.getPool regionId with
    | some state => some (s.putPool { state with utilizationCapBps, active, updatedAt := now })
    | none => some (((s.putPool ⟨regionId, 0, 0, 0, 0, utilizationCapBps, active, now⟩).pushRegion
        regionId).putStats
          { s.getStats with regionsOpened := s.getStats.regionsOpened.saturatingAdd 1 })
  | (now, .liquidityDeposited provider regionId _ shares totalDeposited) => do
    let state ← s.getPool regionId
    let held ← (s.getShares provider regionId).checkedAdd shares
    let totalShares ← state.totalShares.checkedAdd shares
    some (((s.putShares provider regionId held).putPool
      { state with
        totalDeposited, totalShares
        depositorCount := if (s.getShares provider regionId).val = 0 then
          state.depositorCount.saturatingAdd 1 else state.depositorCount
        updatedAt := now }).putStats
          { s.getStats with totalDeposits := s.getStats.totalDeposits.saturatingAdd 1 })
  | (now, .liquidityWithdrawn provider regionId shares _ totalDeposited) => do
    let state ← s.getPool regionId
    let left ← (s.getShares provider regionId).checkedSub shares
    let totalShares ← state.totalShares.checkedSub shares
    some (((s.putShares provider regionId left).putPool
      { state with
        totalDeposited, totalShares
        depositorCount := if left.val = 0 then
          state.depositorCount.saturatingSub 1 else state.depositorCount
        updatedAt := now }).putStats
          { s.getStats with totalWithdrawals := s.getStats.totalWithdrawals.saturatingAdd 1 })
  | (now, .liquidityDrawn agent regionId amount exposure _) => do
    let state ← s.getPool regionId
    let totalDrawn ← state.totalDrawn.checkedAdd amount
    some (((s.putExposure agent regionId exposure).putPool
      { state with totalDrawn, updatedAt := now }).putStats
        { s.getStats with totalDraws := s.getStats.totalDraws.saturatingAdd 1 })
  | (now, .liquidityRepaid agent regionId amount exposure) => do
    let state ← s.getPool regionId
    let totalDrawn ← state.totalDrawn.checkedSub amount
    some ((s.putExposure agent regionId exposure).putPool
      { state with totalDrawn, updatedAt := now })
  | (_, .configUpdated _ collateralRatioBps paused) => do
    let config ← s.config
    some (s.putConfig { config with collateralRatioBps, paused })
  | (_, .registryUpdated agentRegistry) => do
    let config ← s.config
    some (s.putConfig { config with agentRegistry })
  | (_, .adminChanged _ next) => some (s.putAdmin next)

/-- The reader that wants to know the storage but for the default cap. -/
@[simps] def reader : Reader Storage Event Storage := ⟨Storage.withoutDefaultCap, Storage.replay⟩

/-! ### The view -/

section

variable (s : Storage)

@[simp] theorem withoutDefaultCap_getPool (regionId : Symbol) :
    s.withoutDefaultCap.getPool regionId = s.getPool regionId := rfl

@[simp] theorem withoutDefaultCap_getShares (provider : Address) (regionId : Symbol) :
    s.withoutDefaultCap.getShares provider regionId = s.getShares provider regionId := rfl

@[simp] theorem withoutDefaultCap_getStats : s.withoutDefaultCap.getStats = s.getStats := rfl

variable {s}

theorem withoutDefaultCap_config {config : PoolConfig} (h : s.config = some config) :
    s.withoutDefaultCap.config = some { config with defaultUtilizationCapBps := 0 } := by
  simp [Storage.withoutDefaultCap, h]

end

/-! ### One invocation -/

theorem told_depositLiquidity {provider : Address} {regionId : Symbol} {amount shares : I128}
    (h : depositLiquidity H env provider regionId amount w = .ok (shares, w')) :
    reader.Told w w' ∧ w'.store.admin = w.store.admin := by
  obtain ⟨-, -, config, -, -, state, hstate, -, -, -, -, -, held, hheld, totalDeposited, -,
    totalShares, htotal, rfl⟩ := depositLiquidity_ok.1 h
  have hadd := MachineInt.checkedAdd_eq_some.2 hheld
  have hshares := MachineInt.checkedAdd_eq_some.2 htotal
  refine ⟨.single rfl rfl ?_, rfl⟩
  simp only [reader_view, reader_apply, Storage.replay, withoutDefaultCap_getPool, hstate,
    withoutDefaultCap_getShares, hadd, hshares, Option.bind_eq_bind, Option.bind_some]
  rfl

theorem told_withdrawLiquidity {provider : Address} {regionId : Symbol} {shares amount : I128}
    (h : withdrawLiquidity H env provider regionId shares w = .ok (amount, w')) :
    reader.Told w w' ∧ w'.store.admin = w.store.admin := by
  obtain ⟨-, -, config, -, -, state, hstate, -, -, -, available, -, -, -, -, left, hleft,
    totalDeposited, -, totalShares, htotal, rfl⟩ := withdrawLiquidity_ok.1 h
  have hsub := MachineInt.checkedSub_eq_some.2 hleft
  have hshares := MachineInt.checkedSub_eq_some.2 htotal
  refine ⟨.single rfl rfl ?_, rfl⟩
  simp only [reader_view, reader_apply, Storage.replay, withoutDefaultCap_getPool, hstate,
    withoutDefaultCap_getShares, hsub, hshares, Option.bind_eq_bind, Option.bind_some]
  rfl

theorem told_drawLiquidity {agent : Address} {regionId : Symbol} {amount exposure : I128}
    (h : drawLiquidity H env agent regionId amount w = .ok (exposure, w')) :
    reader.Told w w' ∧ w'.store.admin = w.store.admin := by
  obtain ⟨-, -, config, -, -, state, hstate, -, peers, -, available, -, -, drawn, hdrawn, -, -, -,
    -, required, -, bond, peers', -, -, -, -, bps, -, rfl⟩ := drawLiquidity_ok.1 h
  have hadd := MachineInt.checkedAdd_eq_some.2 hdrawn
  refine ⟨.single rfl rfl ?_, rfl⟩
  simp only [reader_view, reader_apply, Storage.replay, withoutDefaultCap_getPool, hstate, hadd,
    Option.bind_eq_bind, Option.bind_some]
  rfl

theorem told_repayLiquidity {agent : Address} {regionId : Symbol} {amount exposure : I128}
    (h : repayLiquidity H env agent regionId amount w = .ok (exposure, w')) :
    reader.Told w w' ∧ w'.store.admin = w.store.admin := by
  obtain ⟨-, -, config, -, state, hstate, -, -, -, -, drawn, hdrawn, rfl⟩ := repayLiquidity_ok.1 h
  have hsub := MachineInt.checkedSub_eq_some.2 hdrawn
  refine ⟨.single rfl rfl ?_, rfl⟩
  simp only [reader_view, reader_apply, Storage.replay, withoutDefaultCap_getPool, hstate, hsub,
    Option.bind_eq_bind, Option.bind_some]
  rfl

/-- A call that changes the configuration says so, but for the default cap. -/
theorem told_configuration {config config' : PoolConfig} {tag : Symbol}
    (hconfig : w.store.config = some config)
    (hregistry : config'.agentRegistry = config.agentRegistry)
    (htoken : config'.token = config.token) :
    reader.Told w { w with
      store := w.store.putConfig config'
      events := w.events ++ [.configUpdated tag config'.collateralRatioBps config'.paused] } := by
  refine .single rfl rfl ?_
  simp only [reader_view, reader_apply, Storage.replay, withoutDefaultCap_config hconfig,
    Option.bind_eq_bind, Option.bind_some]
  simp [Storage.withoutDefaultCap, Storage.putConfig, hregistry, htoken]

/-- A call that tunes a region says so. -/
theorem told_region {regionId : Symbol} {state : PoolState} {cap : U32} {active : Bool}
    (hstate : w.store.getPool regionId = some state) :
    reader.Told w { w with
      store := w.store.putPool
        { state with utilizationCapBps := cap, active, updatedAt := w.ledger.timestamp }
      events := w.events ++ [.regionConfigured regionId cap active] } := by
  refine .single rfl rfl ?_
  simp only [reader_view, reader_apply, Storage.replay, withoutDefaultCap_getPool, hstate]
  rfl

theorem told_administration {c : Call} {r : Ret} (hadmin : w.store.admin.isSome)
    (hc : c.movesFloat = false) (h : invoke H env c w = .ok (r, w')) :
    reader.Told w w' ∧ w'.store.admin.isSome := by
  cases c with
  | initializeContract =>
    simp [invoke, initializeContract, bind_assoc] at h
    rw [h.1] at hadmin
    cases hadmin
  | setAdmin =>
    simp [invoke, setAdmin, bind_assoc] at h
    obtain ⟨previous, -, -, -, rfl⟩ := h
    exact ⟨.single rfl rfl rfl, rfl⟩
  | setAgentRegistry =>
    simp [invoke, setAgentRegistry, bind_assoc] at h
    obtain ⟨-, -, -, config, hconfig, -, rfl⟩ := h
    refine ⟨.single rfl rfl ?_, hadmin⟩
    simp only [reader_view, reader_apply, Storage.replay, withoutDefaultCap_config hconfig]
    rfl
  | setCollateralRatio =>
    simp [invoke, setCollateralRatio, bind_assoc] at h
    obtain ⟨-, -, -, -, config, hconfig, -, rfl⟩ := h
    exact ⟨told_configuration hconfig rfl rfl, hadmin⟩
  | setDefaultUtilizationCap =>
    simp [invoke, setDefaultUtilizationCap, bind_assoc] at h
    obtain ⟨-, -, -, -, config, hconfig, -, rfl⟩ := h
    exact ⟨told_configuration hconfig rfl rfl, hadmin⟩
  | setUtilizationCap =>
    simp [invoke, setUtilizationCap, bind_assoc] at h
    obtain ⟨-, -, -, -, state, hstate, -, rfl⟩ := h
    exact ⟨told_region hstate, hadmin⟩
  | setRegionActive =>
    simp [invoke, setRegionActive, bind_assoc] at h
    obtain ⟨-, -, -, state, hstate, -, rfl⟩ := h
    exact ⟨told_region hstate, hadmin⟩
  | setPaused =>
    simp [invoke, setPaused, bind_assoc] at h
    obtain ⟨-, -, -, config, hconfig, -, rfl⟩ := h
    exact ⟨told_configuration hconfig rfl rfl, hadmin⟩
  | openRegion =>
    simp [invoke, openRegion, bind_assoc] at h
    obtain ⟨-, -, -, hnone, config, hconfig, -, -, rfl⟩ := h
    refine ⟨.single rfl rfl ?_, hadmin⟩
    simp only [reader_view, reader_apply, Storage.replay, withoutDefaultCap_getPool, hnone]
    rfl
  | _ => cases hc

theorem told_of_invoke {c : Call} {r : Ret} (hadmin : w.store.admin.isSome)
    (h : invoke H env c w = .ok (r, w')) : reader.Told w w' ∧ w'.store.admin.isSome := by
  cases c with
  | depositLiquidity =>
    obtain ⟨shares, h₁, rfl⟩ := bind_pure_ok.1 h
    obtain ⟨htold, hsame⟩ := told_depositLiquidity h₁
    exact ⟨htold, hsame ▸ hadmin⟩
  | withdrawLiquidity =>
    obtain ⟨amount, h₁, rfl⟩ := bind_pure_ok.1 h
    obtain ⟨htold, hsame⟩ := told_withdrawLiquidity h₁
    exact ⟨htold, hsame ▸ hadmin⟩
  | drawLiquidity =>
    obtain ⟨exposure, h₁, rfl⟩ := bind_pure_ok.1 h
    obtain ⟨htold, hsame⟩ := told_drawLiquidity h₁
    exact ⟨htold, hsame ▸ hadmin⟩
  | repayLiquidity =>
    obtain ⟨exposure, h₁, rfl⟩ := bind_pure_ok.1 h
    obtain ⟨htold, hsame⟩ := told_repayLiquidity h₁
    exact ⟨htold, hsame ▸ hadmin⟩
  | _ => exact told_administration hadmin rfl h

theorem reader_follows : reader.Follows (contract H) fun s => s.admin.isSome :=
  fun _ _ _ _ _ hadmin h => told_of_invoke hadmin h

/-! ### Whole runs -/

/-- **What the journal of the pool tells.**  From the time the pool is initialised, replaying the
events of a run gives the storage that the run leaves, but for the default cap. -/
theorem withoutDefaultCap_eq_replay (h₀ : w₀.store.admin.isSome)
    (h : (contract H).lts.Run w₀ ls w) :
    reader.replay w₀.store.withoutDefaultCap (journal w₀.ledger.timestamp ls) =
      some w.store.withoutDefaultCap :=
  Reader.replay_journal reader_follows h₀ h

theorem withoutDefaultCap_eq_replay_sample :
    reader.replay Sample.start.store.withoutDefaultCap
      (journal Sample.start.ledger.timestamp Sample.trace) =
        some Sample.final.store.withoutDefaultCap :=
  withoutDefaultCap_eq_replay rfl Sample.final_run

/-- **What it does not tell.**  Whatever default cap the administrator sets, the events are the
same. -/
theorem default_cap_untold {admin : Address} {config : PoolConfig} {a b : U32}
    (hadmin : w.store.admin = some admin) (hsigned : env.signed admin = true)
    (hconfig : w.store.config = some config) (ha : a.val ≠ 0 ∧ a ≤ maxUtilizationCapBps)
    (hb : b.val ≠ 0 ∧ b ≤ maxUtilizationCapBps) :
    ∃ wa wb, setDefaultUtilizationCap env a w = .ok ((), wa) ∧
      setDefaultUtilizationCap env b w = .ok ((), wb) ∧ wa.events = wb.events ∧
      wa.store.config = some { config with defaultUtilizationCapBps := a } ∧
      wb.store.config = some { config with defaultUtilizationCapBps := b } := by
  refine ⟨{ w with
    store := w.store.putConfig { config with defaultUtilizationCapBps := a }
    events := w.events ++ [.configUpdated ⟨"util"⟩ config.collateralRatioBps config.paused] },
    { w with
    store := w.store.putConfig { config with defaultUtilizationCapBps := b }
    events := w.events ++ [.configUpdated ⟨"util"⟩ config.collateralRatioBps config.paused] },
    ?_, ?_, rfl, rfl, rfl⟩
  · simp [setDefaultUtilizationCap, hadmin, hsigned, hconfig, ha]
  · simp [setDefaultUtilizationCap, hadmin, hsigned, hconfig, hb]

end Pool

end RemitBridge
