import RemitBridge.Hook.Spec
import RemitBridge.Soroban.Administered

/-!
# The administration of the compliance hook

The settings of the hook are its administrator, its operators, the escrow it listens to, whether it
is paused, and the tier bands of the corridors.  An invocation leaves them alone, or it is an
administrative call and does to them what `Settings.configure` says (`settings_of_invoke`); and an
administrative call that `configure` allows succeeds (`invoke_of_configure`).
-/

namespace RemitBridge

namespace Hook

open Exec

/-- What the administrator of the hook decides. -/
@[ext] structure Settings where
  admin : Option Address
  paused : Option Bool
  escrow : Option Address
  corridorList : List Symbol
  operator : Address → Bool
  thresholds : Symbol → Option TierThresholds

/-- The settings in the hook's storage. -/
@[simps] def Storage.settings (s : Storage) : Settings :=
  ⟨s.admin, s.paused, s.escrow, s.corridorList, s.isOperator, s.getThresholds⟩

/-- Whether the call is about the settings. -/
def Call.changesSettings : Call → Bool
  | publishAttestation .. | revokeAttestation .. | checkTransferAllowed .. | commitTransfer .. =>
    false
  | _ => true

namespace Settings

variable (g : Settings) (env : Env)

/-- The administrator signed. -/
def governs : Bool := g.admin.any env.signed

/-- The settings with the tier bands of a corridor written. -/
def putThresholds (thresholds : TierThresholds) : Settings :=
  { g with
    corridorList := if thresholds.corridorId ∈ g.corridorList then g.corridorList
      else g.corridorList ++ [thresholds.corridorId]
    thresholds := Function.update g.thresholds thresholds.corridorId (some thresholds) }

/-- The settings after an administrative call; none if it is refused, or is not one. -/
def configure : Call → Option Settings
  | .initializeContract admin =>
    if g.admin = none ∧ env.signed admin = true then
      some { g with admin := some admin, paused := some false }
    else none
  | .setOperator operator allowed =>
    if g.governs env then some { g with operator := Function.update g.operator operator allowed }
    else none
  | .setEscrow escrow => if g.governs env then some { g with escrow := some escrow } else none
  | .setPaused paused => if g.governs env then some { g with paused := some paused } else none
  | .setTierThresholds thresholds =>
    if g.governs env ∧ thresholds.isValid then some (g.putThresholds thresholds) else none
  | _ => none

variable {g env}

theorem governs_iff :
    g.governs env = true ↔ ∃ admin, g.admin = some admin ∧ env.signed admin = true :=
  Option.any_eq_true _ _

end Settings

/-- Only its administrator changes the settings of the hook. -/
@[simps admin changes configure] def administration : Administered Settings Call where
  admin := Settings.admin
  changes := Call.changesSettings
  configure := Settings.configure
  authority {g g' env c} h := by
    cases c <;> simp [Settings.configure, Settings.governs_iff] at h ⊢ <;>
      grind [Settings.putThresholds]

section

variable (s : Storage)

@[simp] theorem settings_putAdmin (admin : Address) :
    (s.putAdmin admin).settings = { s.settings with admin := some admin } := rfl

@[simp] theorem settings_putPaused (paused : Bool) :
    (s.putPaused paused).settings = { s.settings with paused := some paused } := rfl

@[simp] theorem settings_putEscrow (escrow : Address) :
    (s.putEscrow escrow).settings = { s.settings with escrow := some escrow } := rfl

@[simp] theorem settings_putStats (stats : ComplianceStats) :
    (s.putStats stats).settings = s.settings := rfl

@[simp] theorem settings_putOperator (operator : Address) (allowed : Bool) :
    (s.putOperator operator allowed).settings = { s.settings with
      operator := Function.update s.settings.operator operator allowed } := by
  refine Settings.ext rfl rfl rfl rfl ?_ rfl
  funext a
  by_cases ha : a = operator
  · subst ha
    simp [Storage.isOperator]
  · simp [Storage.isOperator, ha]

@[simp] theorem settings_putThresholds (thresholds : TierThresholds) :
    ((s.putThresholds thresholds).pushCorridor thresholds.corridorId).settings =
      s.settings.putThresholds thresholds := by
  refine Settings.ext rfl rfl rfl rfl rfl ?_
  funext corridorId
  simp [Settings.putThresholds, Storage.getThresholds, Store.lookup_insert_ite,
    Function.update_apply]

end

variable {ω : Type} {env : Env} {w w' : World ω} {c : Call} {r : Ret}

/-- **What an invocation does to the settings**: nothing, or what the administrator asked for. -/
theorem settings_of_invoke (h : invoke env c w = .ok (r, w')) :
    c.changesSettings = false ∧ w'.store.settings = w.store.settings ∧
        w.store.settings.configure env c = none ∨
      w.store.settings.configure env c = some w'.store.settings := by
  cases c with
  | initializeContract =>
    simp [invoke, initializeContract, Exec.bind_assoc] at h
    obtain ⟨hnone, hs, -, rfl⟩ := h
    simp [Settings.configure, hnone, hs]
  | setOperator =>
    simp [invoke, setOperator, Exec.bind_assoc] at h
    obtain ⟨admin, hadmin, hs, -, rfl⟩ := h
    simp [Settings.configure, Settings.governs, hadmin, hs]
  | setEscrow =>
    simp [invoke, setEscrow, Exec.bind_assoc] at h
    obtain ⟨admin, hadmin, hs, -, rfl⟩ := h
    simp [Settings.configure, Settings.governs, hadmin, hs]
  | setPaused =>
    simp [invoke, setPaused, Exec.bind_assoc] at h
    obtain ⟨admin, hadmin, hs, -, rfl⟩ := h
    simp [Settings.configure, Settings.governs, hadmin, hs]
  | setTierThresholds =>
    simp [invoke, setTierThresholds, Exec.bind_assoc] at h
    obtain ⟨admin, hadmin, hs, hvalid, -, rfl⟩ := h
    simp [Settings.configure, Settings.governs, hadmin, hs, hvalid]
  | publishAttestation =>
    simp [invoke, publishAttestation, Exec.bind_assoc] at h
    obtain ⟨-, -, -, -, rfl⟩ := h
    exact .inl ⟨rfl, rfl, rfl⟩
  | revokeAttestation =>
    simp [invoke, revokeAttestation, Exec.bind_assoc] at h
    obtain ⟨-, -, record, -, h⟩ := h
    unfold revokeRecord at h
    split_ifs at h
    · simp at h
      obtain ⟨-, rfl⟩ := h
      exact .inl ⟨rfl, rfl, rfl⟩
    · simp [Exec.bind_assoc] at h
      obtain ⟨-, rfl⟩ := h
      exact .inl ⟨rfl, rfl, rfl⟩
  | checkTransferAllowed =>
    obtain ⟨allowed, h₁, rfl⟩ := bind_pure_ok.1 h
    obtain ⟨evaluation, w₁, heval, hpure⟩ := bind_ok.1 h₁
    obtain rfl := evaluate_ok heval
    obtain ⟨-, rfl⟩ := pure_ok.1 hpure
    exact .inl ⟨rfl, rfl, rfl⟩
  | commitTransfer =>
    obtain ⟨total, h₁, rfl⟩ := bind_pure_ok.1 h
    obtain ⟨escrow, -, -, -, -, thresholds, -, -, -, -, -, -, rfl⟩ := commitTransfer_ok.1 h₁
    exact .inl ⟨rfl, rfl, rfl⟩

/-- **An administrative call that is allowed succeeds**, and moves no tokens. -/
theorem invoke_of_configure {g : Settings} (h : w.store.settings.configure env c = some g) :
    ∃ r w', invoke env c w = .ok (r, w') ∧ w'.store.settings = g ∧ w'.ledger = w.ledger := by
  cases c with
  | initializeContract =>
    simp [Settings.configure] at h
    obtain ⟨⟨hnone, hs⟩, rfl⟩ := h
    simp [invoke, initializeContract, Exec.bind_assoc, hnone, hs]
  | setOperator =>
    simp [Settings.configure, Settings.governs_iff] at h
    obtain ⟨⟨admin, hadmin, hs⟩, rfl⟩ := h
    simp [invoke, setOperator, Exec.bind_assoc, hadmin, hs]
  | setEscrow =>
    simp [Settings.configure, Settings.governs_iff] at h
    obtain ⟨⟨admin, hadmin, hs⟩, rfl⟩ := h
    simp [invoke, setEscrow, Exec.bind_assoc, hadmin, hs]
  | setPaused =>
    simp [Settings.configure, Settings.governs_iff] at h
    obtain ⟨⟨admin, hadmin, hs⟩, rfl⟩ := h
    simp [invoke, setPaused, Exec.bind_assoc, hadmin, hs]
  | setTierThresholds =>
    simp [Settings.configure, Settings.governs_iff] at h
    obtain ⟨⟨⟨admin, hadmin, hs⟩, hvalid⟩, rfl⟩ := h
    simp [invoke, setTierThresholds, Exec.bind_assoc, hadmin, hs, hvalid]
  | _ => cases h

end Hook

end RemitBridge
