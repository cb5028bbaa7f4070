import RemitBridge.Pool.Spec
import RemitBridge.Soroban.Administered

/-!
# The administration of the pool

The settings of the pool are its administrator, its configuration, and of every region the
utilization cap and whether it is active.  An invocation leaves them alone, or it is an
administrative call and does to them what `Settings.configure` says (`settings_of_invoke`); and an
administrative call that `configure` allows succeeds (`invoke_of_configure`).
-/

namespace RemitBridge

namespace Pool

open Exec

/-- What the administrator decides about a region. -/
structure RegionSettings where
  utilizationCapBps : U32
  active : Bool

/-- What the administrator of the pool decides. -/
@[ext] structure Settings where
  admin : Option Address
  config : Option PoolConfig
  regionList : List Symbol
  region : Symbol → Option RegionSettings

/-- The part of a region's state that the administrator decides. -/
def settingsOf (state : PoolState) : RegionSettings := ⟨state.utilizationCapBps, state.active⟩

/-- The settings in the pool's storage. -/
@[simps] def Storage.settings (s : Storage) : Settings :=
  ⟨s.admin, s.config, s.regionList, fun regionId => (s.getPool regionId).map settingsOf⟩

/-- Whether the call is about the settings. -/
def Call.changesSettings : Call → Bool
  | depositLiquidity .. | withdrawLiquidity .. | drawLiquidity .. | repayLiquidity .. => false
  | _ => true

namespace Settings

variable (g : Settings) (env : Env)

/-- The administrator signed. -/
def governs : Bool := g.admin.any env.signed

/-- The configuration is changed, if there is one. -/
def adjust (f : PoolConfig → PoolConfig) : Option Settings :=
  if g.governs env then g.config.map fun config => { g with config := some (f config) } else none

/-- The settings with a region written. -/
def putRegion (regionId : Symbol) (region : RegionSettings) : Settings :=
  { g with region := Function.update g.region regionId (some region) }

/-- The settings of a region are changed, if it is open. -/
def tune (regionId : Symbol) (f : RegionSettings → RegionSettings) : Option Settings :=
  if g.governs env then (g.region regionId).map fun region => g.putRegion regionId (f region)
  else none

/-- The settings after an administrative call; none if it is refused, or is not one. -/
def configure : Call → Option Settings
  | .initializeContract admin agentRegistry token collateralRatioBps defaultUtilizationCapBps =>
    if g.admin = none ∧
        (minCollateralRatioBps ≤ collateralRatioBps ∧ collateralRatioBps ≤ maxCollateralRatioBps) ∧
        (defaultUtilizationCapBps.val ≠ 0 ∧ defaultUtilizationCapBps ≤ maxUtilizationCapBps) ∧
        env.signed admin = true then
      some { g with
        admin := some admin
        config := some ⟨agentRegistry, token, collateralRatioBps, defaultUtilizationCapBps, false⟩ }
    else none
  | .setAdmin admin => if g.governs env then some { g with admin := some admin } else none
  | .setAgentRegistry agentRegistry => g.adjust env fun config => { config with agentRegistry }
  | .setCollateralRatio collateralRatioBps =>
    if minCollateralRatioBps ≤ collateralRatioBps ∧ collateralRatioBps ≤ maxCollateralRatioBps then
      g.adjust env fun config => { config with collateralRatioBps }
    else none
  | .setDefaultUtilizationCap defaultUtilizationCapBps =>
    if defaultUtilizationCapBps.val ≠ 0 ∧ defaultUtilizationCapBps ≤ maxUtilizationCapBps then
      g.adjust env fun config => { config with defaultUtilizationCapBps }
    else none
  | .setUtilizationCap regionId utilizationCapBps =>
    if utilizationCapBps.val ≠ 0 ∧ utilizationCapBps ≤ maxUtilizationCapBps then
      g.tune env regionId fun region => { region with utilizationCapBps }
    else none
  | .setRegionActive regionId active => g.tune env regionId fun region => { region with active }
  | .setPaused paused => g.adjust env fun config => { config with paused }
  | .openRegion regionId utilizationCapBps =>
    if g.governs env ∧ g.region regionId = none ∧ utilizationCapBps ≤ maxUtilizationCapBps then
      g.config.map fun config =>
        { g.putRegion regionId ⟨if utilizationCapBps.val = 0 then config.defaultUtilizationCapBps
            else utilizationCapBps, true⟩ with
          regionList := if regionId ∈ g.regionList then g.regionList
            else g.regionList ++ [regionId] }
    else none
  | _ => none

variable {g env}

theorem governs_iff :
    g.governs env = true ↔ ∃ admin, g.admin = some admin ∧ env.signed admin = true :=
  Option.any_eq_true _ _

theorem adjust_eq_some {f : PoolConfig → PoolConfig} {g' : Settings} :
    g.adjust env f = some g' ↔ (∃ admin, g.admin = some admin ∧ env.signed admin = true) ∧
      ∃ config, g.config = some config ∧ { g with config := some (f config) } = g' := by
  unfold adjust
  split_ifs with h
  · simp [← governs_iff, h]
  · simp [← governs_iff, h]

theorem tune_eq_some {regionId : Symbol} {f : RegionSettings → RegionSettings} {g' : Settings} :
    g.tune env regionId f = some g' ↔ (∃ admin, g.admin = some admin ∧ env.signed admin = true) ∧
      ∃ region, g.region regionId = some region ∧ g.putRegion regionId (f region) = g' := by
  unfold tune
  split_ifs with h
  · simp [← governs_iff, h]
  · simp [← governs_iff, h]

/-- Writing what is there changes nothing. -/
theorem putRegion_eq {regionId : Symbol} {region : RegionSettings}
    (h : g.region regionId = some region) : g.putRegion regionId region = g := by
  rw [putRegion, ← h, Function.update_eq_self]

end Settings

/-- Only its administrator changes the settings of the pool. -/
@[simps admin changes configure] def administration : Administered Settings Call where
  admin := Settings.admin
  changes := Call.changesSettings
  configure := Settings.configure
  authority {g g' env c} h := by
    cases c <;> simp [Settings.configure, Settings.governs_iff, Settings.adjust_eq_some,
      Settings.tune_eq_some] at h ⊢ <;>
      grind [Settings.putRegion]

section

variable (s : Storage)

@[simp] theorem settings_putAdmin (admin : Address) :
    (s.putAdmin admin).settings = { s.settings with admin := some admin } := rfl

@[simp] theorem settings_putConfig (config : PoolConfig) :
    (s.putConfig config).settings = { s.settings with config := some config } := rfl

@[simp] theorem settings_putStats (stats : LiquidityStats) :
    (s.putStats stats).settings = s.settings := rfl

@[simp] theorem settings_putShares (provider : Address) (regionId : Symbol) (value : I128) :
    (s.putShares provider regionId value).settings = s.settings := rfl

@[simp] theorem settings_putExposure (agent : Address) (regionId : Symbol) (value : I128) :
    (s.putExposure agent regionId value).settings = s.settings := rfl

@[simp] theorem settings_pushRegion (regionId : Symbol) : (s.pushRegion regionId).settings =
    { s.settings with
      regionList := if regionId ∈ s.regionList then s.regionList
        else s.regionList ++ [regionId] } :=
  rfl

@[simp] theorem settings_putPool (state : PoolState) :
    (s.putPool state).settings = s.settings.putRegion state.regionId (settingsOf state) := by
  refine Settings.ext rfl rfl rfl ?_
  funext regionId
  by_cases h : regionId = state.regionId
  · subst h
    simp [Settings.putRegion, Storage.getPool]
  · simp [Settings.putRegion, Storage.getPool, h]

end

variable {ω : Type} {H : Host ω} {env : Env} {w w' : World ω} {c : Call} {r : Ret}

/-- Float that moves leaves the settings of the region alone. -/
theorem putRegion_settings {s : Storage} {regionId : Symbol} {state : PoolState}
    (hk : Store.All (fun regionId state => state.regionId = regionId) s.pools)
    (h : s.getPool regionId = some state) :
    s.settings.putRegion state.regionId (settingsOf state) = s.settings := by
  obtain rfl := hk _ _ h
  exact Settings.putRegion_eq (by simp [h])

/-- **What an invocation does to the settings**: nothing, or what the administrator asked for. -/
theorem settings_of_invoke
    (hk : Store.All (fun regionId state => state.regionId = regionId) w.store.pools)
    (h : invoke H env c w = .ok (r, w')) :
    c.changesSettings = false ∧ w'.store.settings = w.store.settings ∧
        w.store.settings.configure env c = none ∨
      w.store.settings.configure env c = some w'.store.settings := by
  cases c with
  | initializeContract =>
    simp [invoke, initializeContract, Exec.bind_assoc] at h
    obtain ⟨hnone, hratio, hcap, hs, -, rfl⟩ := h
    simp [Settings.configure, hnone, hratio, hcap, hs]
  | setAdmin =>
    simp [invoke, setAdmin, Exec.bind_assoc] at h
    obtain ⟨admin, hadmin, hs, -, rfl⟩ := h
    simp [Settings.configure, Settings.governs, hadmin, hs]
  | setAgentRegistry =>
    simp [invoke, setAgentRegistry, Exec.bind_assoc] at h
    obtain ⟨admin, hadmin, hs, config, hconfig, -, rfl⟩ := h
    simp [Settings.configure, Settings.adjust, Settings.governs, hadmin, hs, hconfig]
  | setCollateralRatio =>
    simp [invoke, setCollateralRatio, Exec.bind_assoc] at h
    obtain ⟨admin, hadmin, hs, hratio, config, hconfig, -, rfl⟩ := h
    simp [Settings.configure, Settings.adjust, Settings.governs, hadmin, hs, hratio, hconfig]
  | setDefaultUtilizationCap =>
    simp [invoke, setDefaultUtilizationCap, Exec.bind_assoc] at h
    obtain ⟨admin, hadmin, hs, hcap, config, hconfig, -, rfl⟩ := h
    simp [Settings.configure, Settings.adjust, Settings.governs, hadmin, hs, hcap, hconfig]
  | setUtilizationCap =>
    simp [invoke, setUtilizationCap, Exec.bind_assoc] at h
    obtain ⟨admin, hadmin, hs, hcap, state, hstate, -, rfl⟩ := h
    obtain rfl := hk _ _ hstate
    simp [Settings.configure, Settings.tune, Settings.governs, hadmin, hs, hcap, hstate,
      settingsOf]
  | setRegionActive =>
    simp [invoke, setRegionActive, Exec.bind_assoc] at h
    obtain ⟨admin, hadmin, hs, state, hstate, -, rfl⟩ := h
    obtain rfl := hk _ _ hstate
    simp [Settings.configure, Settings.tune, Settings.governs, hadmin, hs, hstate, settingsOf]
  | setPaused =>
    simp [invoke, setPaused, Exec.bind_assoc] at h
    obtain ⟨admin, hadmin, hs, config, hconfig, -, rfl⟩ := h
    simp [Settings.configure, Settings.adjust, Settings.governs, hadmin, hs, hconfig]
  | openRegion =>
    simp [invoke, openRegion, Exec.bind_assoc] at h
    obtain ⟨admin, hadmin, hs, hnone, config, hconfig, hcap, -, rfl⟩ := h
    simp [Settings.configure, Settings.governs, hadmin, hs, hnone, hcap, hconfig, settingsOf]
  -- The other calls write a pool back with the same cap and the same switch.
  | depositLiquidity =>
    obtain ⟨shares, h₁, rfl⟩ := bind_pure_ok.1 h
    obtain ⟨-, -, config, -, -, state, hstate, -, -, -, -, -, held, -, totalDeposited, -,
      totalShares, -, rfl⟩ := depositLiquidity_ok.1 h₁
    refine .inl ⟨rfl, ?_, rfl⟩
    simpa [settingsOf] using putRegion_settings hk hstate
  | withdrawLiquidity =>
    obtain ⟨amount, h₁, rfl⟩ := bind_pure_ok.1 h
    obtain ⟨-, -, config, -, -, state, hstate, -, -, -, available, -, -, -, -, left, -,
      totalDeposited, -, totalShares, -, rfl⟩ := withdrawLiquidity_ok.1 h₁
    refine .inl ⟨rfl, ?_, rfl⟩
    simpa [settingsOf] using putRegion_settings hk hstate
  | drawLiquidity =>
    obtain ⟨exposure, h₁, rfl⟩ := bind_pure_ok.1 h
    obtain ⟨-, -, config, -, -, state, hstate, -, peers, -, available, -, -, drawn, -, -, -, -, -,
      required, -, bond, peers', -, -, -, -, bps, -, rfl⟩ := drawLiquidity_ok.1 h₁
    refine .inl ⟨rfl, ?_, rfl⟩
    simpa [settingsOf] using putRegion_settings hk hstate
  | repayLiquidity =>
    obtain ⟨exposure, h₁, rfl⟩ := bind_pure_ok.1 h
    obtain ⟨-, -, config, -, state, hstate, -, -, -, -, drawn, -, rfl⟩ := repayLiquidity_ok.1 h₁
    refine .inl ⟨rfl, ?_, rfl⟩
    simpa [settingsOf] using putRegion_settings hk hstate

/-- **An administrative call that is allowed succeeds**, and moves no tokens. -/
theorem invoke_of_configure
    (hk : Store.All (fun regionId state => state.regionId = regionId) w.store.pools)
    {g : Settings} (h : w.store.settings.configure env c = some g) :
    ∃ r w', invoke H env c w = .ok (r, w') ∧ w'.store.settings = g ∧ w'.ledger = w.ledger := by
  cases c with
  | initializeContract =>
    simp [Settings.configure] at h
    obtain ⟨⟨hnone, hratio, hcap, hs⟩, rfl⟩ := h
    simp [invoke, initializeContract, Exec.bind_assoc, hnone, hratio, hcap, hs]
  | setAdmin =>
    simp [Settings.configure, Settings.governs_iff] at h
    obtain ⟨⟨admin, hadmin, hs⟩, rfl⟩ := h
    simp [invoke, setAdmin, Exec.bind_assoc, hadmin, hs]
  | setAgentRegistry =>
    simp [Settings.configure, Settings.adjust_eq_some] at h
    obtain ⟨⟨admin, hadmin, hs⟩, config, hconfig, rfl⟩ := h
    simp [invoke, setAgentRegistry, Exec.bind_assoc, hadmin, hs, hconfig]
  | setCollateralRatio =>
    simp [Settings.configure, Settings.adjust_eq_some] at h
    obtain ⟨hratio, ⟨admin, hadmin, hs⟩, config, hconfig, rfl⟩ := h
    simp [invoke, setCollateralRatio, Exec.bind_assoc, hadmin, hs, hratio, hconfig]
  | setDefaultUtilizationCap =>
    simp [Settings.configure, Settings.adjust_eq_some] at h
    obtain ⟨hcap, ⟨admin, hadmin, hs⟩, config, hconfig, rfl⟩ := h
    simp [invoke, setDefaultUtilizationCap, Exec.bind_assoc, hadmin, hs, hcap, hconfig]
  | setUtilizationCap =>
    simp [Settings.configure, Settings.tune_eq_some] at h
    obtain ⟨hcap, ⟨admin, hadmin, hs⟩, state, hstate, rfl⟩ := h
    obtain rfl := hk _ _ hstate
    simp [invoke, setUtilizationCap, Exec.bind_assoc, hadmin, hs, hcap, hstate, settingsOf]
  | setRegionActive =>
    simp [Settings.configure, Settings.tune_eq_some] at h
    obtain ⟨⟨admin, hadmin, hs⟩, state, hstate, rfl⟩ := h
    obtain rfl := hk _ _ hstate
    simp [invoke, setRegionActive, Exec.bind_assoc, hadmin, hs, hstate, settingsOf]
  | setPaused =>
    simp [Settings.configure, Settings.adjust_eq_some] at h
    obtain ⟨⟨admin, hadmin, hs⟩, config, hconfig, rfl⟩ := h
    simp [invoke, setPaused, Exec.bind_assoc, hadmin, hs, hconfig]
  | openRegion =>
    simp [Settings.configure, Settings.governs_iff] at h
    obtain ⟨⟨⟨admin, hadmin, hs⟩, hnone, hcap⟩, config, hconfig, rfl⟩ := h
    simp [invoke, openRegion, Exec.bind_assoc, hadmin, hs, hnone, hcap, hconfig, settingsOf]
  | _ => cases h

end Pool

end RemitBridge
