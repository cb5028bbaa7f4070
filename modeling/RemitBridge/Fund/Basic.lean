import RemitBridge.Transition.Basic
import Mathlib.Algebra.Order.BigOperators.Group.Finset
import Mathlib.Data.Finsupp.Basic
import Mathlib.Algebra.Order.Ring.Int

/-!
# Funds with several accounts

A fund keeps money in several accounts.  Members pay into an account and take out again, and
borrow from an account and pay back.  The fund knows, per account, how much was paid in and how
much is out on loan, and, per member and account, what the member paid in and what it owes.

This file is the theory of such books, for any types of accounts and members.  All balances are
finitely supported functions, and every movement adds to one entry of each, so the laws of
book-keeping are equations in an abelian group.

## Main results

* `Book.Sound` is kept by every step: the accounts are the sums of the members' entries, no entry
  is negative, and no account has lent more than was paid in.
* `step_stake` : a member's stake is changed only by the member.
* `step_reserve` : the money in the fund changes by what flows in.
-/

namespace RemitBridge

namespace Fund

open Finsupp

variable {R P : Type*}

/-- The books of a fund with accounts `R` and members `P`. -/
structure Book (R P : Type*) where
  /-- Paid into the account. -/
  deposited : R →₀ ℤ
  /-- Out on loan from the account. -/
  drawn : R →₀ ℤ
  /-- What a member paid in. -/
  stake : P × R →₀ ℤ
  /-- What a member owes. -/
  debt : P × R →₀ ℤ

/-- The steps of a fund. -/
inductive Label (R P : Type*) where
  /-- The member `p` pays `x` into the account `r` and borrows `y` from it; negative amounts go
  the other way. -/
  | move (p : P) (r : R) (x y : ℤ)
  /-- Something else happens. -/
  | idle

/-- The books after a movement. -/
noncomputable def Book.move (b : Book R P) (p : P) (r : R) (x y : ℤ) : Book R P where
  deposited := b.deposited + single r x
  drawn := b.drawn + single r y
  stake := b.stake + single (p, r) x
  debt := b.debt + single (p, r) y

/-- The rules: nobody takes out more than it paid in or pays back more than it owes, and no
account lends more than it holds. -/
inductive Step : Book R P → Label R P → Book R P → Prop
  | move {b : Book R P} {p : P} {r : R} {x y : ℤ} : 0 ≤ b.stake (p, r) + x →
      0 ≤ b.debt (p, r) + y → b.drawn r + y ≤ b.deposited r + x →
      Step b (.move p r x y) (b.move p r x y)
  | idle {b : Book R P} : Step b .idle b

/-- The behaviour of a fund. -/
def lts (R P : Type*) : TransitionSystem (Book R P) (Label R P) := ⟨Step⟩

/-- The books of a new fund. -/
def Book.empty : Book R P := ⟨0, 0, 0, 0⟩

/-- What flows into the fund in a step. -/
def inflow : Label R P → ℤ
  | .move _ _ x y => x - y
  | .idle => 0

/-- What is in the fund. -/
noncomputable def Book.reserve (b : Book R P) : ℤ := (b.deposited - b.drawn).sum fun _ x => x

variable {b b' : Book R P} {l : Label R P}

/-- The books are in order. -/
structure Book.Sound (b : Book R P) : Prop where
  deposited : b.deposited = b.stake.mapDomain Prod.snd
  drawn : b.drawn = b.debt.mapDomain Prod.snd
  stake_nonneg : ∀ k, 0 ≤ b.stake k
  debt_nonneg : ∀ k, 0 ≤ b.debt k
  covered : ∀ r, b.drawn r ≤ b.deposited r

theorem Book.sound_empty : (Book.empty : Book R P).Sound :=
  ⟨mapDomain_zero.symm, mapDomain_zero.symm, fun _ => le_rfl, fun _ => le_rfl, fun _ => le_rfl⟩

/-- Adding to one entry keeps the others. -/
theorem add_single_apply_of_ne {K : Type*} (f : K →₀ ℤ) {k k' : K} (h : k' ≠ k) (z : ℤ) :
    (f + single k z) k' = f k' := by
  rw [Finsupp.add_apply, single_eq_of_ne h, add_zero]

theorem add_single_apply_self {K : Type*} (f : K →₀ ℤ) (k : K) (z : ℤ) :
    (f + single k z) k = f k + z := by
  rw [Finsupp.add_apply, single_eq_same]

theorem add_single_nonneg {K : Type*} {f : K →₀ ℤ} {k : K} {z : ℤ} (hf : ∀ k, 0 ≤ f k)
    (h : 0 ≤ f k + z) (k' : K) : 0 ≤ (f + single k z) k' := by
  by_cases hk : k' = k
  · rw [hk, add_single_apply_self]
    exact h
  · rw [add_single_apply_of_ne f hk]
    exact hf k'

/-- **The books stay in order.** -/
theorem Book.Sound.step (h : b.Sound) (hst : Step b l b') : b'.Sound := by
  cases hst with
  | idle => exact h
  | @move p r x y hstake hdebt hcovered =>
    refine ⟨?_, ?_, add_single_nonneg h.stake_nonneg hstake,
      add_single_nonneg h.debt_nonneg hdebt, ?_⟩
    · simp only [Book.move, mapDomain_add, mapDomain_single, h.deposited]
    · simp only [Book.move, mapDomain_add, mapDomain_single, h.drawn]
    · intro r'
      by_cases hr : r' = r
      · simpa only [Book.move, hr, add_single_apply_self] using hcovered
      · simpa only [Book.move, add_single_apply_of_ne _ hr] using h.covered r'

/-- No account has a negative amount out on loan. -/
theorem Book.Sound.drawn_nonneg (h : b.Sound) (r : R) : 0 ≤ b.drawn r := by
  classical
  rw [h.drawn, mapDomain, Finsupp.sum_apply]
  refine Finset.sum_nonneg fun k _ => ?_
  simp only [single_apply]
  split_ifs
  · exact h.debt_nonneg k
  · exact le_rfl

/-- No entry is larger than the sum of the entries for its account, if none is negative. -/
theorem le_mapDomain_snd {f : P × R →₀ ℤ} (hf : ∀ k, 0 ≤ f k) (p : P) (r : R) :
    f (p, r) ≤ f.mapDomain Prod.snd r := by
  classical
  have hnonneg : ∀ k ∈ f.support, 0 ≤ (single k.2 (f k) : R →₀ ℤ) r := by
    intro k _
    rw [single_apply]
    split_ifs
    · exact hf k
    · exact le_rfl
  rw [mapDomain, Finsupp.sum_apply]
  by_cases hk : (p, r) ∈ f.support
  · have hle := Finset.single_le_sum hnonneg hk
    rwa [single_eq_same] at hle
  · rw [notMem_support_iff.1 hk]
    exact Finset.sum_nonneg hnonneg

/-- No member has a larger stake than was paid into the account. -/
theorem Book.Sound.stake_le_deposited (h : b.Sound) (p : P) (r : R) :
    b.stake (p, r) ≤ b.deposited r := by
  rw [h.deposited]
  exact le_mapDomain_snd h.stake_nonneg p r

/-- No member owes more than is out on loan from the account. -/
theorem Book.Sound.debt_le_drawn (h : b.Sound) (p : P) (r : R) : b.debt (p, r) ≤ b.drawn r := by
  rw [h.drawn]
  exact le_mapDomain_snd h.debt_nonneg p r

theorem book_of_idle (hst : Step b .idle b') : b' = b := by
  cases hst
  rfl

/-- What is out on loan after a movement. -/
theorem drawn_of_move {p : P} {r : R} {x y : ℤ} (hst : Step b (.move p r x y) b') :
    b'.drawn = b.drawn + single r y := by
  cases hst
  rfl

/-- **Only a member changes its stake.** -/
theorem step_stake {p : P} {r : R} (hst : Step b l b')
    (hl : ∀ x y, l = .move p r x y → x = 0) : b'.stake (p, r) = b.stake (p, r) := by
  cases hst with
  | idle => rfl
  | @move p' r' x y =>
    by_cases hk : (p, r) = (p', r')
    · obtain ⟨rfl, rfl⟩ := Prod.mk.inj hk
      rw [Book.move, add_single_apply_self, hl x y rfl, add_zero]
    · exact add_single_apply_of_ne _ hk x

/-- **The money in the fund** changes by what flows in. -/
theorem step_reserve (hst : Step b l b') : b'.reserve = b.reserve + inflow l := by
  cases hst with
  | idle => exact (add_zero _).symm
  | @move p r x y =>
    have hmove : (b.move p r x y).deposited - (b.move p r x y).drawn =
        (b.deposited - b.drawn) + single r (x - y) := by
      rw [single_sub]
      exact add_sub_add_comm _ _ _ _
    rw [Book.reserve, hmove, sum_add_index' (fun _ => rfl) fun _ _ _ => rfl, sum_single_index rfl]
    rfl

end Fund

end RemitBridge
