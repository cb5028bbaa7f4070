import RemitBridge.Registry.Spec
import RemitBridge.Soroban.Administered

/-!
# The administration of the registry

What the administrator of the registry decides are its settings.  They are a state machine of their
own: an invocation leaves them alone, or it is an administrative call and does to them what
`Settings.configure` says (`settings_of_invoke`); and an administrative call that `configure` allows
succeeds (`invoke_of_configure`).
-/

namespace RemitBridge

namespace Registry

open Exec

/-- What the administrator of the registry decides. -/
@[ext] structure Settings where
  admin : Option Address
  bondToken : Option Address
  treasury : Option Address
  regionList : List Symbol
  region : Symbol → Option RegionConfig
  corridorRegion : Symbol → Option Symbol

/-- The settings in the registry's storage. -/
@[simps] def Storage.settings (s : Storage) : Settings :=
  ⟨s.admin, s.bondToken, s.treasury, s.regionList, s.getRegion, s.getCorridorRegion⟩

/-- Whether the call is about the settings. -/
def Call.changesSettings : Call → Bool
  | registerAgent .. | topUpBond .. | withdrawBond .. | authorizeAgent _ | suspendAgent ..
  | revokeAgent .. | slashAgent .. => false
  | _ => true

namespace Settings

variable (g : Settings) (env : Env)

/-- The administrator signed. -/
def governs : Bool := g.admin.any env.signed

/-- The settings with a region written. -/
def putRegion (config : RegionConfig) : Settings :=
  { g with region := Function.update g.region config.regionId (some config) }

/-- The settings after an administrative call; none if it is refused, or is not one. -/
def configure : Call → Option Settings
  | .initializeContract admin bondToken treasury =>
    if g.admin = none ∧ env.signed admin = true then
      some { g with admin := some admin, bondToken := some bondToken, treasury := some treasury }
    else none
  | .setAdmin admin => if g.governs env then some { g with admin := some admin } else none
  | .setTreasury treasury =>
    if g.governs env then some { g with treasury := some treasury } else none
  | .addRegion regionId minBond maxAgents =>
    if g.governs env ∧ 0 ≤ minBond.val ∧ g.region regionId = none then
      some { g.putRegion ⟨regionId, minBond, maxAgents, true⟩ with
        regionList := if regionId ∈ g.regionList then g.regionList else g.regionList ++ [regionId] }
    else none
  | .setMinBond regionId minBond =>
    if g.governs env ∧ 0 ≤ minBond.val then
      (g.region regionId).map fun region => g.putRegion { region with minBond }
    else none
  | .setRegionActive regionId active =>
    if g.governs env then (g.region regionId).map fun region => g.putRegion { region with active }
    else none
  | .mapCorridor corridorId regionId =>
    if g.governs env ∧ (g.region regionId).isSome then
      some { g with
        corridorRegion := Function.update g.corridorRegion corridorId (some regionId) }
    else none
  | _ => none

variable {g env}

theorem governs_iff :
    g.governs env = true ↔ ∃ admin, g.admin = some admin ∧ env.signed admin = true :=
  Option.any_eq_true _ _

end Settings

/-- Only its administrator changes the settings of the registry. -/
@[simps admin changes configure] def administration : Administered Settings Call where
  admin := Settings.admin
  changes := Call.changesSettings
  configure := Settings.configure
  authority {g g' env c} h := by
    cases c <;> simp [Settings.configure, Settings.governs_iff] at h ⊢ <;>
      grind [Settings.putRegion]

section

variable (s : Storage)

@[simp] theorem settings_putAdmin (admin : Address) :
    (s.putAdmin admin).settings = { s.settings with admin := some admin } := rfl

@[simp] theorem settings_putBondToken (token : Address) :
    (s.putBondToken token).settings = { s.settings with bondToken := some token } := rfl

@[simp] theorem settings_putTreasury (treasury : Address) :
    (s.putTreasury treasury).settings = { s.settings with treasury := some treasury } := rfl

@[simp] theorem settings_putStats (stats : RegistryStats) :
    (s.putStats stats).settings = s.settings := rfl

@[simp] theorem settings_putAgent (record : Agent) : (s.putAgent record).settings = s.settings :=
  rfl

@[simp] theorem settings_pushRegion (regionId : Symbol) : (s.pushRegion regionId).settings =
    { s.settings with
      regionList := if regionId ∈ s.regionList then s.regionList
        else s.regionList ++ [regionId] } :=
  rfl

@[simp] theorem settings_putRegion (config : RegionConfig) :
    (s.putRegion config).settings = s.settings.putRegion config := by
  refine Settings.ext rfl rfl rfl rfl ?_ rfl
  funext regionId
  simp [Settings.putRegion, Storage.getRegion, Store.lookup_insert_ite, Function.update_apply]

@[simp] theorem settings_putCorridorRegion (corridorId regionId : Symbol) :
    (s.putCorridorRegion corridorId regionId).settings = { s.settings with
      corridorRegion := Function.update s.settings.corridorRegion corridorId (some regionId) } := by
  refine Settings.ext rfl rfl rfl rfl rfl ?_
  funext corridorId'
  simp [Storage.getCorridorRegion, Store.lookup_insert_ite, Function.update_apply]

end

variable {ω : Type} {self : Address} {env : Env} {w w' : World ω} {c : Call} {r : Ret}

theorem AfterSlash.settings {record record' : Agent} (h : AfterSlash w record record' w') :
    w'.store.settings = w.store.settings := by
  cases h <;> rfl

/-- **What an invocation does to the settings**: nothing, or what the administrator asked for. -/
theorem settings_of_invoke (h : invoke self env c w = .ok (r, w')) :
    c.changesSettings = false ∧ w'.store.settings = w.store.settings ∧
        w.store.settings.configure env c = none ∨
      w.store.settings.configure env c = some w'.store.settings := by
  cases c with
  | initializeContract =>
    simp [invoke, initializeContract, Exec.bind_assoc] at h
    obtain ⟨hnone, hs, -, rfl⟩ := h
    simp [Settings.configure, hnone, hs]
  | setAdmin =>
    simp [invoke, setAdmin, Exec.bind_assoc] at h
    obtain ⟨admin, hadmin, hs, -, rfl⟩ := h
    simp [Settings.configure, Settings.governs, hadmin, hs]
  | setTreasury =>
    simp [invoke, setTreasury, Exec.bind_assoc] at h
    obtain ⟨admin, hadmin, hs, -, rfl⟩ := h
    simp [Settings.configure, Settings.governs, hadmin, hs]
  | addRegion =>
    simp [invoke, addRegion, Exec.bind_assoc] at h
    obtain ⟨admin, hadmin, hs, hminBond, hnone, -, rfl⟩ := h
    simp [Settings.configure, Settings.governs, hadmin, hs, hminBond, hnone]
  | setMinBond =>
    simp [invoke, setMinBond, Exec.bind_assoc] at h
    obtain ⟨admin, hadmin, hs, hminBond, region, hregion, -, rfl⟩ := h
    simp [Settings.configure, Settings.governs, hadmin, hs, hminBond, hregion]
  | setRegionActive =>
    simp [invoke, setRegionActive, Exec.bind_assoc] at h
    obtain ⟨admin, hadmin, hs, region, hregion, -, rfl⟩ := h
    simp [Settings.configure, Settings.governs, hadmin, hs, hregion]
  | mapCorridor =>
    simp [invoke, mapCorridor, Exec.bind_assoc] at h
    obtain ⟨admin, hadmin, hs, ⟨region, hregion⟩, -, rfl⟩ := h
    simp [Settings.configure, Settings.governs, hadmin, hs, hregion]
  -- The other calls are about agents and their bonds.
  | registerAgent =>
    obtain ⟨record, h₁, rfl⟩ := bind_pure_ok.1 h
    obtain ⟨-, -, region, -, -, -, token, -, -, -, -, total, -, -, rfl⟩ := registerAgent_ok.1 h₁
    exact .inl ⟨rfl, rfl, rfl⟩
  | topUpBond =>
    obtain ⟨bond, h₁, rfl⟩ := bind_pure_ok.1 h
    obtain ⟨-, -, record, -, token, -, -, -, -, total, -, rfl⟩ := topUpBond_ok.1 h₁
    exact .inl ⟨rfl, rfl, rfl⟩
  | withdrawBond =>
    obtain ⟨bond, h₁, rfl⟩ := bind_pure_ok.1 h
    obtain ⟨-, -, record, -, -, -, token, -, -, -, -, total, -, rfl⟩ := withdrawBond_ok.1 h₁
    exact .inl ⟨rfl, rfl, rfl⟩
  | authorizeAgent =>
    obtain ⟨u, h₁, rfl⟩ := bind_pure_ok.1 h
    obtain ⟨-, -, -, record, -, -, -, -, -, -, -, rfl⟩ := authorizeAgent_ok.1 h₁
    exact .inl ⟨rfl, rfl, rfl⟩
  | suspendAgent =>
    obtain ⟨u, h₁, rfl⟩ := bind_pure_ok.1 h
    obtain ⟨-, -, -, record, -, -, rfl⟩ := suspendAgent_ok.1 h₁
    exact .inl ⟨rfl, rfl, rfl⟩
  | revokeAgent =>
    obtain ⟨u, h₁, rfl⟩ := bind_pure_ok.1 h
    obtain ⟨-, -, -, record, -, -, rfl⟩ := revokeAgent_ok.1 h₁
    exact .inl ⟨rfl, rfl, rfl⟩
  | slashAgent =>
    obtain ⟨slashed, h₁, rfl⟩ := bind_pure_ok.1 h
    obtain ⟨admin, -, -, -, record, -, -, treasury, -, bond, -, -, record', w₁, hafter, token, -,
      -, -, totalBonded, -, totalSlashed, -, -, rfl⟩ := slashAgent_ok.1 h₁
    exact .inl ⟨rfl, hafter.settings, rfl⟩

/-- **An administrative call that is allowed succeeds**, and moves no tokens. -/
theorem invoke_of_configure {g : Settings} (h : w.store.settings.configure env c = some g) :
    ∃ r w', invoke self env c w = .ok (r, w') ∧ w'.store.settings = g ∧ w'.ledger = w.ledger := by
  cases c with
  | initializeContract =>
    simp [Settings.configure] at h
    obtain ⟨⟨hnone, hs⟩, rfl⟩ := h
    simp [invoke, initializeContract, Exec.bind_assoc, hnone, hs]
  | setAdmin =>
    simp [Settings.configure, Settings.governs_iff] at h
    obtain ⟨⟨admin, hadmin, hs⟩, rfl⟩ := h
    simp [invoke, setAdmin, Exec.bind_assoc, hadmin, hs]
  | setTreasury =>
    simp [Settings.configure, Settings.governs_iff] at h
    obtain ⟨⟨admin, hadmin, hs⟩, rfl⟩ := h
    simp [invoke, setTreasury, Exec.bind_assoc, hadmin, hs]
  | addRegion =>
    simp [Settings.configure, Settings.governs_iff] at h
    obtain ⟨⟨⟨admin, hadmin, hs⟩, hminBond, hnone⟩, rfl⟩ := h
    simp [invoke, addRegion, Exec.bind_assoc, hadmin, hs, hminBond, hnone]
  | setMinBond =>
    simp [Settings.configure, Settings.governs_iff] at h
    obtain ⟨⟨⟨admin, hadmin, hs⟩, hminBond⟩, region, hregion, rfl⟩ := h
    simp [invoke, setMinBond, Exec.bind_assoc, hadmin, hs, hminBond, hregion]
  | setRegionActive =>
    simp [Settings.configure, Settings.governs_iff] at h
    obtain ⟨⟨admin, hadmin, hs⟩, region, hregion, rfl⟩ := h
    simp [invoke, setRegionActive, Exec.bind_assoc, hadmin, hs, hregion]
  | mapCorridor =>
    simp [Settings.configure, Settings.governs_iff, Option.isSome_iff_exists] at h
    obtain ⟨⟨⟨admin, hadmin, hs⟩, region, hregion⟩, rfl⟩ := h
    simp [invoke, mapCorridor, Exec.bind_assoc, hadmin, hs, hregion]
  | _ => cases h

end Registry

end RemitBridge
