import Mathlib.Algebra.Order.BigOperators.Group.List
import Mathlib.Tactic.Linarith
import Mathlib.Tactic.Ring

/-!
# Shares in a vault

A vault has assets and shares in them.  A deposit mints shares, a withdrawal redeems them, and both
are rounded down.  So neither lowers the price of a share (`dearer_deposit`, `dearer_withdraw`), a
deposit that is taken out again gives no profit (`redeem_mint_le`), and neither does a withdrawal in
pieces (`paid_le_redeem`).

Prices are compared by cross-multiplication.
-/

namespace RemitBridge

/-- What a vault holds, and the shares in it. -/
@[ext] structure Vault where
  assets : ℤ
  shares : ℤ

namespace Vault

variable {v v₁ v₂ v₃ : Vault} {a s : ℤ} {ss : List ℤ}

/-- The shares minted for a deposit. -/
def mint (v : Vault) (a : ℤ) : ℤ := a * v.shares / v.assets

/-- The assets paid for shares. -/
def redeem (v : Vault) (s : ℤ) : ℤ := s * v.assets / v.shares

/-- The vault after a deposit. -/
@[simps] def deposit (v : Vault) (a : ℤ) : Vault := ⟨v.assets + a, v.shares + v.mint a⟩

/-- The vault after a withdrawal. -/
@[simps] def withdraw (v : Vault) (s : ℤ) : Vault := ⟨v.assets - v.redeem s, v.shares - s⟩

/-- A share of the second vault is worth at least as much as one of the first. -/
def Dearer (v₁ v₂ : Vault) : Prop := v₁.assets * v₂.shares ≤ v₂.assets * v₁.shares

/-! ### Rounding -/

theorem mint_mul_le (ha : 0 < v.assets) : v.mint a * v.assets ≤ a * v.shares :=
  Int.ediv_mul_le _ ha.ne'

theorem redeem_mul_le (hs : 0 < v.shares) : v.redeem s * v.shares ≤ s * v.assets :=
  Int.ediv_mul_le _ hs.ne'

theorem le_redeem (hs : 0 < v.shares) (h : a * v.shares ≤ s * v.assets) : a ≤ v.redeem s :=
  (Int.le_ediv_iff_mul_le hs).2 h

theorem redeem_le (hs : 0 < v.shares) (h : s * v.assets ≤ a * v.shares) : v.redeem s ≤ a :=
  Int.ediv_le_of_le_mul hs h

/-! ### The price of a share -/

theorem Dearer.refl (v : Vault) : v.Dearer v := le_rfl

theorem Dearer.trans (h₁ : v₁.Dearer v₂) (h₂ : v₂.Dearer v₃) (hs₁ : 0 ≤ v₁.shares)
    (hs₂ : 0 < v₂.shares) (hs₃ : 0 ≤ v₃.shares) : v₁.Dearer v₃ := by
  refine le_of_mul_le_mul_right (a := v₂.shares) ?_ hs₂
  calc v₁.assets * v₃.shares * v₂.shares = v₁.assets * v₂.shares * v₃.shares := by ring
    _ ≤ v₂.assets * v₁.shares * v₃.shares := mul_le_mul_of_nonneg_right h₁ hs₃
    _ = v₂.assets * v₃.shares * v₁.shares := by ring
    _ ≤ v₃.assets * v₂.shares * v₁.shares := mul_le_mul_of_nonneg_right h₂ hs₁
    _ = v₃.assets * v₁.shares * v₂.shares := by ring

theorem dearer_deposit (ha : 0 < v.assets) : v.Dearer (v.deposit a) := by
  have hmint := v.mint_mul_le (a := a) ha
  rw [Dearer, deposit_assets, deposit_shares]
  linarith

theorem dearer_withdraw (hs : 0 < v.shares) : v.Dearer (v.withdraw s) := by
  have hredeem := v.redeem_mul_le (s := s) hs
  rw [Dearer, withdraw_assets, withdraw_shares]
  linarith

/-- **Depositing and withdrawing** returns at most what was paid in. -/
theorem redeem_mint_le (ha : 0 < v.assets) (hs : 0 < v.shares + v.mint a) :
    (v.deposit a).redeem (v.mint a) ≤ a := by
  have hmint := v.mint_mul_le (a := a) ha
  refine redeem_le hs ?_
  rw [deposit_assets, deposit_shares]
  linarith

/-! ### Withdrawals in pieces -/

/-- What the withdrawals of a list pay together. -/
def paid (v : Vault) : List ℤ → ℤ
  | [] => 0
  | s :: ss => v.redeem s + (v.withdraw s).paid ss

/-- The vault after the withdrawals of a list. -/
def withdrawAll (v : Vault) : List ℤ → Vault
  | [] => v
  | s :: ss => (v.withdraw s).withdrawAll ss

theorem withdrawAll_assets (v : Vault) (ss : List ℤ) :
    (v.withdrawAll ss).assets = v.assets - v.paid ss := by
  induction ss generalizing v with
  | nil => exact (sub_zero _).symm
  | cons s ss ih =>
    show ((v.withdraw s).withdrawAll ss).assets = v.assets - (v.redeem s + (v.withdraw s).paid ss)
    rw [ih, withdraw_assets]
    exact sub_sub _ _ _

theorem withdrawAll_shares (v : Vault) (ss : List ℤ) :
    (v.withdrawAll ss).shares = v.shares - ss.sum := by
  induction ss generalizing v with
  | nil => exact (sub_zero _).symm
  | cons s ss ih =>
    show ((v.withdraw s).withdrawAll ss).shares = _
    rw [ih, withdraw_shares, List.sum_cons]
    exact sub_sub _ _ _

/-- No list of withdrawals of at most all shares lowers the price. -/
theorem dearer_withdrawAll (hs : 0 < v.shares) (hpos : ∀ s ∈ ss, 0 < s) (hle : ss.sum ≤ v.shares) :
    v.Dearer (v.withdrawAll ss) := by
  induction ss generalizing v with
  | nil => exact .refl v
  | cons s ss ih =>
    obtain ⟨hspos, hpos⟩ := List.forall_mem_cons.1 hpos
    rw [List.sum_cons] at hle
    by_cases hlast : ss = []
    · rw [hlast]
      exact dearer_withdraw hs
    · -- Some shares are left for the next withdrawals.
      have hrest : 0 < ss.sum := List.sum_pos ss hpos hlast
      have hleft : 0 < (v.withdraw s).shares := by
        rw [withdraw_shares]
        omega
      have hdearer := ih hleft hpos (by rw [withdraw_shares]; omega)
      refine (dearer_withdraw hs).trans hdearer hs.le hleft ?_
      rw [withdrawAll_shares, List.sum_cons]
      omega

/-- **Withdrawing in pieces** pays at most as much as withdrawing at once. -/
theorem paid_le_redeem (hs : 0 < v.shares) (hpos : ∀ s ∈ ss, 0 < s) (hle : ss.sum ≤ v.shares) :
    v.paid ss ≤ v.redeem ss.sum := by
  have hdearer : v.Dearer (v.withdrawAll ss) := dearer_withdrawAll hs hpos hle
  rw [Dearer, withdrawAll_assets, withdrawAll_shares] at hdearer
  refine le_redeem hs ?_
  linarith

end Vault

end RemitBridge
