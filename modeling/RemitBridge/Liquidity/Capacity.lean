import Mathlib.Tactic.Ring
import RemitBridge.Pool.Requirement

/-!
# What an agent can still draw

The liquidity service evaluates an agent's position without asking the pool.  It rounds twice, the
pool once, and not in the same place: the capacity it reports is what the pool would let the agent
draw, or one stroop less (`evaluateAgent_exact`).
-/

namespace RemitBridge

namespace Liquidity

open Pool (PassesCollateral Fits)

/-- What is known of an agent's position. -/
structure Position where
  bond : ℤ
  drawn : ℤ
  collateralRatioBps : ℤ
  deriving DecidableEq

structure Evaluation where
  undrawnCapacity : ℤ
  floatRatioBps : ℤ
  collateralHeadroomBps : ℤ
  deriving DecidableEq

/-- Evaluate one agent's position. -/
def evaluateAgent (observation : Position) : Evaluation :=
  let { bond, drawn, collateralRatioBps } := observation
  let requiredForCurrent := (drawn * collateralRatioBps).tdiv 10000
  let headroom := if bond > requiredForCurrent then bond - requiredForCurrent else 0
  -- How much more the agent could draw before the bond stops covering it.
  let undrawnCapacity :=
    (headroom * 10000).tdiv (if collateralRatioBps = 0 then 1 else collateralRatioBps)
  { undrawnCapacity
    floatRatioBps := if bond > 0 then (undrawnCapacity * 10000).tdiv bond else 0
    collateralHeadroomBps := if bond > 0 then (headroom * 10000).tdiv bond else 0 }

/-- A bond covers an exposure: the comparison that the pool makes when it pays out a draw. -/
def Covers (bond exposure ratio : ℤ) : Prop := exposure * ratio / 10000 ≤ bond

instance {bond exposure ratio : ℤ} : Decidable (Covers bond exposure ratio) :=
  inferInstanceAs (Decidable (_ ≤ _))

variable {bond drawn ratio x : ℤ}

theorem covers_iff : Covers bond drawn ratio ↔ drawn * ratio < (bond + 1) * 10000 := by
  rw [Covers, ← Int.lt_add_one_iff, Int.ediv_lt_iff_lt_mul (by decide)]

/-- Where the bond covers the exposure, the divisions that truncate are those that round down. -/
theorem undrawnCapacity_eq (hdrawn : 0 ≤ drawn) (hratio : 0 < ratio) (h : Covers bond drawn ratio) :
    (evaluateAgent ⟨bond, drawn, ratio⟩).undrawnCapacity =
      (bond - drawn * ratio / 10000) * 10000 / ratio := by
  have hrequired : (drawn * ratio).tdiv 10000 = drawn * ratio / 10000 :=
    Int.tdiv_eq_ediv_of_nonneg (Int.mul_nonneg hdrawn hratio.le)
  -- The headroom is the difference, also where it is nothing.
  have hheadroom : (if bond > drawn * ratio / 10000 then bond - drawn * ratio / 10000 else 0) =
      bond - drawn * ratio / 10000 := by
    split_ifs with hgt
    · rfl
    · rw [Covers] at h
      omega
  have hnonneg : 0 ≤ (bond - drawn * ratio / 10000) * 10000 :=
    Int.mul_nonneg (Int.sub_nonneg.2 h) (by decide)
  simp only [evaluateAgent]
  rw [hrequired, hheadroom, if_neg hratio.ne', Int.tdiv_eq_ediv_of_nonneg hnonneg]

/-- A draw within the capacity stays within the bond. -/
theorem covers_of_le (hratio : 0 < ratio)
    (hx : x ≤ (bond - drawn * ratio / 10000) * 10000 / ratio) : Covers bond (drawn + x) ratio := by
  have hdrawn : drawn * ratio < (drawn * ratio / 10000 + 1) * 10000 :=
    Int.lt_ediv_add_one_mul_self _ (by decide)
  have hdraw : x * ratio ≤ (bond - drawn * ratio / 10000) * 10000 :=
    (Int.le_ediv_iff_mul_le hratio).1 hx
  rw [covers_iff]
  calc (drawn + x) * ratio = drawn * ratio + x * ratio := add_mul ..
    _ < (drawn * ratio / 10000 + 1) * 10000 + (bond - drawn * ratio / 10000) * 10000 :=
      add_lt_add_of_lt_of_le hdrawn hdraw
    _ = (bond + 1) * 10000 := by ring

/-- One stroop above the capacity is as far as rounding can hide. -/
theorem not_covers_of_le (hratio : 10000 ≤ ratio)
    (hx : (bond - drawn * ratio / 10000) * 10000 / ratio + 2 ≤ x) :
    ¬ Covers bond (drawn + x) ratio := by
  have hpos : 0 < ratio := by omega
  have hdrawn : drawn * ratio / 10000 * 10000 ≤ drawn * ratio := Int.ediv_mul_le _ (by decide)
  -- The first of the two stroops already costs more than the headroom, the second the rest.
  have hdraw : (bond - drawn * ratio / 10000) * 10000 < (x - 1) * ratio :=
    (Int.ediv_lt_iff_lt_mul hpos).1 (by omega)
  rw [covers_iff, not_lt]
  calc (bond + 1) * 10000
      = drawn * ratio / 10000 * 10000 + (bond - drawn * ratio / 10000) * 10000 + 10000 := by ring
    _ ≤ drawn * ratio + (x - 1) * ratio + ratio := by omega
    _ = (drawn + x) * ratio := by ring

/-! ### The evaluation and the pool -/

/-- **The reported capacity.**  Of an agent whose bond covers its exposure, every draw up to the
capacity leaves the exposure covered, and none does that is larger by two stroops or more.  So does
the pool decide, in every state in which it finds that position: a draw up to the capacity passes
its check of the bond as long as the product it computes fits its type, and a draw larger by two
stroops or more never does. -/
theorem evaluateAgent_exact (hdrawn : 0 ≤ drawn) (hratio : 10000 ≤ ratio)
    (h : Covers bond drawn ratio) :
    (∀ x, 0 ≤ x → x ≤ (evaluateAgent ⟨bond, drawn, ratio⟩).undrawnCapacity →
      Covers bond (drawn + x) ratio) ∧
    (∀ x, (evaluateAgent ⟨bond, drawn, ratio⟩).undrawnCapacity + 2 ≤ x →
      ¬ Covers bond (drawn + x) ratio) ∧
    ∀ {ω : Type} {H : Pool.Host ω} {env : Env} {w : Pool.World ω} {config : PoolConfig}
      {agent : Address} {regionId : Symbol} {amount registered : I128} {peers : ω},
      w.store.config = some config → config.collateralRatioBps.val = ratio →
      (w.store.getExposure agent regionId).val = drawn → 0 < amount.val →
      H.tryGetBond config.agentRegistry (env.invokedBy H.self) w.ledger.timestamp agent w.peers =
        (.ok registered, peers) → registered.val = bond →
      (amount.val ≤ (evaluateAgent ⟨bond, drawn, ratio⟩).undrawnCapacity →
        Fits w agent regionId amount config.collateralRatioBps →
        PassesCollateral H env config.agentRegistry agent regionId amount w) ∧
      ((evaluateAgent ⟨bond, drawn, ratio⟩).undrawnCapacity + 2 ≤ amount.val →
        ¬ PassesCollateral H env config.agentRegistry agent regionId amount w) := by
  have hpos : 0 < ratio := by omega
  rw [undrawnCapacity_eq hdrawn hpos h]
  refine ⟨?_, ?_, ?_⟩
  · intro x _ hx
    exact covers_of_le hpos hx
  · intro x hx
    exact not_covers_of_le hratio hx
  · intro ω H env w config agent regionId amount registered peers hconfig hbps hexposure hamount
      hregistered hbond'
    have hnonneg : 0 ≤ (w.store.getExposure agent regionId).val := by omega
    have hpasses := Pool.passesCollateral_iff hconfig hnonneg hamount
      (show 10000 ≤ config.collateralRatioBps.val by omega) hregistered
    rw [hexposure, hbps, hbond'] at hpasses
    refine ⟨?_, ?_⟩
    · intro hle hfits
      exact hpasses.2 ⟨hfits, covers_of_le hpos hle⟩
    · intro hle hp
      exact not_covers_of_le hratio hle (hpasses.1 hp).2

/-- An agent with a bond of 1000 and a draw of 333, at 150%, is told 334. -/
theorem evaluateAgent_exact_sample :
    Covers 1000 (333 + 334) 15000 ∧ ¬ Covers 1000 (333 + 336) 15000 := by
  have h := @evaluateAgent_exact 1000 333 15000 (by decide) (by decide) (by decide)
  exact ⟨h.1 334 (by decide) (by decide), h.2.1 336 (by decide)⟩

end Liquidity

end RemitBridge
