import RemitBridge.Escrow.Spec
import RemitBridge.Soroban.Administered

/-!
# The administration of the escrow

The settings of the escrow are its administrator and its configuration.  An invocation leaves them
alone, or it is an administrative call and does to them what `Settings.configure` says
(`settings_of_invoke`); and an administrative call that `configure` allows succeeds
(`invoke_of_configure`).
-/

namespace RemitBridge

namespace Escrow

open Exec

/-- What the administrator of the escrow decides. -/
@[ext] structure Settings where
  admin : Option Address
  config : Option EscrowConfig

/-- The settings in the escrow's storage. -/
@[simps] def Storage.settings (s : Storage) : Settings := ⟨s.admin, s.config⟩

/-- Whether the call is about the settings. -/
def Call.changesSettings : Call → Bool
  | createTransfer .. | cancelTransfer .. | claimTransfer .. | refundExpired _ | quoteClaim _ =>
    false
  | _ => true

namespace Settings

variable (g : Settings) (env : Env)

/-- The administrator signed. -/
def governs : Bool := g.admin.any env.signed

/-- The configuration is changed, if there is one. -/
def adjust (f : EscrowConfig → EscrowConfig) : Option Settings :=
  if g.governs env then g.config.map fun config => { g with config := some (f config) } else none

/-- The settings after an administrative call; none if it is refused, or is not one. -/
def configure : Call → Option Settings
  | .initializeContract admin agentRegistry complianceHook treasury feeBps maxExpirySecs =>
    if g.admin = none ∧ feeBps ≤ maxFeeBps ∧ maxExpirySecs.val ≠ 0 ∧ env.signed admin = true then
      some ⟨some admin,
        some ⟨agentRegistry, complianceHook, treasury, feeBps, false, maxExpirySecs⟩⟩
    else none
  | .setAdmin admin => if g.governs env then some { g with admin := some admin } else none
  | .setFeeBps feeBps =>
    if feeBps ≤ maxFeeBps then g.adjust env fun config => { config with feeBps } else none
  | .setTreasury treasury => g.adjust env fun config => { config with treasury }
  | .setAgentRegistry agentRegistry => g.adjust env fun config => { config with agentRegistry }
  | .setComplianceHook complianceHook => g.adjust env fun config => { config with complianceHook }
  | .setMaxExpiry maxExpirySecs =>
    if maxExpirySecs.val ≠ 0 then g.adjust env fun config => { config with maxExpirySecs } else none
  | .setPaused paused => g.adjust env fun config => { config with paused }
  | _ => none

variable {g env}

theorem governs_iff :
    g.governs env = true ↔ ∃ admin, g.admin = some admin ∧ env.signed admin = true :=
  Option.any_eq_true _ _

theorem adjust_eq_some {f : EscrowConfig → EscrowConfig} {g' : Settings} :
    g.adjust env f = some g' ↔ (∃ admin, g.admin = some admin ∧ env.signed admin = true) ∧
      ∃ config, g.config = some config ∧ { g with config := some (f config) } = g' := by
  unfold adjust
  split_ifs with h
  · simp [← governs_iff, h]
  · simp [← governs_iff, h]

end Settings

/-- Only its administrator changes the settings of the escrow. -/
@[simps admin changes configure] def administration : Administered Settings Call where
  admin := Settings.admin
  changes := Call.changesSettings
  configure := Settings.configure
  authority {g g' env c} h := by
    cases c <;> simp [Settings.configure, Settings.governs_iff, Settings.adjust_eq_some] at h ⊢ <;>
      grind

section

variable (s : Storage)

@[simp] theorem settings_putAdmin (admin : Address) :
    (s.putAdmin admin).settings = { s.settings with admin := some admin } := rfl

@[simp] theorem settings_putConfig (config : EscrowConfig) :
    (s.putConfig config).settings = { s.settings with config := some config } := rfl

@[simp] theorem settings_putStats (stats : EscrowStats) :
    (s.putStats stats).settings = s.settings :=
  rfl

end

variable {ω : Type} {H : Host ω} {env : Env} {w w' : World ω} {c : Call} {r : Ret}

/-- **What an invocation does to the settings**: nothing, or what the administrator asked for. -/
theorem settings_of_invoke (h : invoke H env c w = .ok (r, w')) :
    c.changesSettings = false ∧ w'.store.settings = w.store.settings ∧
        w.store.settings.configure env c = none ∨
      w.store.settings.configure env c = some w'.store.settings := by
  cases c with
  | initializeContract =>
    simp [invoke, initializeContract, Exec.bind_assoc] at h
    obtain ⟨hnone, ⟨hfee, hsecs⟩, hs, -, rfl⟩ := h
    simp [Settings.configure, hnone, hfee, hsecs, hs]
  | setAdmin =>
    simp [invoke, setAdmin, Exec.bind_assoc] at h
    obtain ⟨admin, hadmin, hs, -, rfl⟩ := h
    simp [Settings.configure, Settings.governs, hadmin, hs]
  | setFeeBps =>
    simp [invoke, setFeeBps, Exec.bind_assoc] at h
    obtain ⟨admin, hadmin, hs, hfee, config, hconfig, -, rfl⟩ := h
    simp [Settings.configure, Settings.adjust, Settings.governs, hadmin, hs, hfee, hconfig]
  | setTreasury =>
    simp [invoke, setTreasury, Exec.bind_assoc] at h
    obtain ⟨admin, hadmin, hs, config, hconfig, -, rfl⟩ := h
    simp [Settings.configure, Settings.adjust, Settings.governs, hadmin, hs, hconfig]
  | setAgentRegistry =>
    simp [invoke, setAgentRegistry, Exec.bind_assoc] at h
    obtain ⟨admin, hadmin, hs, config, hconfig, -, rfl⟩ := h
    simp [Settings.configure, Settings.adjust, Settings.governs, hadmin, hs, hconfig]
  | setComplianceHook =>
    simp [invoke, setComplianceHook, Exec.bind_assoc] at h
    obtain ⟨admin, hadmin, hs, config, hconfig, -, rfl⟩ := h
    simp [Settings.configure, Settings.adjust, Settings.governs, hadmin, hs, hconfig]
  | setMaxExpiry =>
    simp [invoke, setMaxExpiry, Exec.bind_assoc] at h
    obtain ⟨admin, hadmin, hs, hsecs, config, hconfig, -, rfl⟩ := h
    simp [Settings.configure, Settings.adjust, Settings.governs, hadmin, hs, hsecs, hconfig]
  | setPaused =>
    simp [invoke, setPaused, Exec.bind_assoc] at h
    obtain ⟨admin, hadmin, hs, config, hconfig, -, rfl⟩ := h
    simp [Settings.configure, Settings.adjust, Settings.governs, hadmin, hs, hconfig]
  -- The other calls are about transfers.
  | createTransfer =>
    obtain ⟨id, h₁, rfl⟩ := bind_pure_ok.1 h
    have hlocks := locks_of_createTransfer h₁
    exact .inl ⟨rfl, Settings.ext hlocks.admin hlocks.config, rfl⟩
  | cancelTransfer =>
    obtain ⟨u, h₁, rfl⟩ := bind_pure_ok.1 h
    obtain ⟨t, t', hsettles⟩ := settles_of_cancelTransfer h₁
    exact .inl ⟨rfl, Settings.ext hsettles.admin hsettles.config, rfl⟩
  | claimTransfer =>
    obtain ⟨receipt, h₁, rfl⟩ := bind_pure_ok.1 h
    obtain ⟨t, t', hsettles⟩ := settles_of_claimTransfer h₁
    exact .inl ⟨rfl, Settings.ext hsettles.admin hsettles.config, rfl⟩
  | refundExpired =>
    obtain ⟨u, h₁, rfl⟩ := bind_pure_ok.1 h
    obtain ⟨t, t', hsettles⟩ := settles_of_refundExpired h₁
    exact .inl ⟨rfl, Settings.ext hsettles.admin hsettles.config, rfl⟩
  | quoteClaim =>
    simp [invoke, quoteClaim, Exec.bind_assoc] at h
    obtain ⟨-, -, -, -, -, -, -, -, -, -, rfl⟩ := h
    exact .inl ⟨rfl, rfl, rfl⟩

/-- **An administrative call that is allowed succeeds**, and moves no tokens. -/
theorem invoke_of_configure {g : Settings} (h : w.store.settings.configure env c = some g) :
    ∃ r w', invoke H env c w = .ok (r, w') ∧ w'.store.settings = g ∧ w'.ledger = w.ledger := by
  cases c with
  | initializeContract =>
    simp [Settings.configure] at h
    obtain ⟨⟨hnone, hfee, hsecs, hs⟩, rfl⟩ := h
    simp [invoke, initializeContract, Exec.bind_assoc, hnone, hfee, hsecs, hs]
  | setAdmin =>
    simp [Settings.configure, Settings.governs_iff] at h
    obtain ⟨⟨admin, hadmin, hs⟩, rfl⟩ := h
    simp [invoke, setAdmin, Exec.bind_assoc, hadmin, hs]
  | setFeeBps =>
    simp [Settings.configure, Settings.adjust_eq_some] at h
    obtain ⟨hfee, ⟨admin, hadmin, hs⟩, config, hconfig, rfl⟩ := h
    simp [invoke, setFeeBps, Exec.bind_assoc, hadmin, hs, hfee, hconfig]
  | setTreasury =>
    simp [Settings.configure, Settings.adjust_eq_some] at h
    obtain ⟨⟨admin, hadmin, hs⟩, config, hconfig, rfl⟩ := h
    simp [invoke, setTreasury, Exec.bind_assoc, hadmin, hs, hconfig]
  | setAgentRegistry =>
    simp [Settings.configure, Settings.adjust_eq_some] at h
    obtain ⟨⟨admin, hadmin, hs⟩, config, hconfig, rfl⟩ := h
    simp [invoke, setAgentRegistry, Exec.bind_assoc, hadmin, hs, hconfig]
  | setComplianceHook =>
    simp [Settings.configure, Settings.adjust_eq_some] at h
    obtain ⟨⟨admin, hadmin, hs⟩, config, hconfig, rfl⟩ := h
    simp [invoke, setComplianceHook, Exec.bind_assoc, hadmin, hs, hconfig]
  | setMaxExpiry =>
    simp [Settings.configure, Settings.adjust_eq_some] at h
    obtain ⟨hsecs, ⟨admin, hadmin, hs⟩, config, hconfig, rfl⟩ := h
    simp [invoke, setMaxExpiry, Exec.bind_assoc, hadmin, hs, hsecs, hconfig]
  | setPaused =>
    simp [Settings.configure, Settings.adjust_eq_some] at h
    obtain ⟨⟨admin, hadmin, hs⟩, config, hconfig, rfl⟩ := h
    simp [invoke, setPaused, Exec.bind_assoc, hadmin, hs, hconfig]
  | _ => cases h

end Escrow

end RemitBridge
