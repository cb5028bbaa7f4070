import RemitBridge.Pool.Accounting

/-!
# The bond a draw requires

`requiredBondFor` tells an agent the bond that a draw would require, and a draw checks the bond
itself (`checkCollateral`).  The two agree as long as the exposure after the draw, multiplied by the
collateral ratio, fits its type.  From then on no bond is enough for the draw, and `requiredBondFor`
says that none is needed (`explained_iff`).
-/

namespace RemitBridge

namespace Pool

open Exec TransitionSystem

variable {ω : Type} {H : Host ω} {env : Env} {token : Address} {w₀ w w' : World ω} {l : Label ω}
  {ls : List (Label ω)} {agent : Address} {regionId : Symbol} {amount exposure bond : I128}
  {config : PoolConfig}

/-- The part of a draw that checks the bond: the exposure afterwards. -/
def checkCollateral (H : Host ω) (env : Env) (registry agent : Address) (regionId : Symbol)
    (amount : I128) : Exec (World ω) LiquidityError I128 := do
  let exposureBefore ← read fun s => s.getExposure agent regionId
  let exposureAfter ← okOr (exposureBefore.checkedAdd amount) .overflow
  let required ← bondRequirement exposureAfter
  let bond ← registryBond H env registry agent
  refuseIf (bond < required) .insufficientCollateral
  pure exposureAfter

/-- A draw passes its check of the bond. -/
def PassesCollateral (H : Host ω) (env : Env) (registry agent : Address) (regionId : Symbol)
    (amount : I128) (w : World ω) : Prop :=
  ∃ r, checkCollateral H env registry agent regionId amount w = .ok r

/-- The exposure after the draw, multiplied by the ratio, fits its type. -/
def Fits (w : World ω) (agent : Address) (regionId : Symbol) (amount : I128) (ratio : U32) : Prop :=
  ((w.store.getExposure agent regionId).val + amount.val) * ratio.val ≤ 2 ^ 127 - 1

instance {w : World ω} {ratio : U32} : Decidable (Fits w agent regionId amount ratio) :=
  inferInstanceAs (Decidable (_ ≤ _))

/-- The collateral ratio is at least 100%. -/
def RatioBounded (s : Storage) : Prop :=
  ∀ config, s.config = some config → minCollateralRatioBps ≤ config.collateralRatioBps

/-! ### The check -/

/-- A draw checks the bond after everything else it checks, and before it pays. -/
theorem drawLiquidity_eq : drawLiquidity H env agent regionId amount = (do
    requireAuth env agent
    refuseIf (amount.val ≤ 0) .invalidAmount
    let config ← getConfig
    refuseIf (config.paused = true) .paused
    let state ← loadPool regionId
    refuseIf (state.active = false) .regionInactive
    checkAuthorized H env config.agentRegistry agent regionId
    let available ← orTrap state.available
    refuseIf (available < amount) .insufficientLiquidity
    let drawnAfter ← okOr (state.totalDrawn.checkedAdd amount) .overflow
    let utilizationAfter ← orTrap (utilizationWith drawnAfter state)
    refuseIf (state.utilizationCapBps < utilizationAfter) .utilizationCapExceeded
    let exposureAfter ← checkCollateral H env config.agentRegistry agent regionId amount
    transferToken env H.self config.token H.self agent amount
    write fun s => s.putExposure agent regionId exposureAfter
    let now ← timestamp
    let state := { state with totalDrawn := drawnAfter, updatedAt := now }
    setPool state
    let counters ← read Storage.getStats
    setStats { counters with totalDraws := counters.totalDraws.saturatingAdd 1 }
    let utilizationBps ← orTrap state.utilizationBps
    publish (.liquidityDrawn agent regionId amount exposureAfter utilizationBps)
    pure exposureAfter) := by
  simp only [drawLiquidity, checkCollateral, bind_assoc]
  rfl

theorem checkCollateral_ok {registry : Address} :
    checkCollateral H env registry agent regionId amount w = .ok (exposure, w') ↔
      exposure.val = (w.store.getExposure agent regionId).val + amount.val ∧
      ∃ config, w.store.config = some config ∧
      ∃ required, bondFor exposure config.collateralRatioBps = some required ∧
      ∃ bond peers, H.tryGetBond registry (env.invokedBy H.self) w.ledger.timestamp agent w.peers =
        (.ok bond, peers) ∧ required ≤ bond ∧ w' = { w with peers } := by
  simp [checkCollateral, MachineInt.checkedAdd_eq_some]

/-- The check, for a bond that the registry answers. -/
theorem passesCollateral_iff {peers : ω} (hconfig : w.store.config = some config)
    (hnonneg : 0 ≤ (w.store.getExposure agent regionId).val) (hpos : 0 < amount.val)
    (hratio : minCollateralRatioBps ≤ config.collateralRatioBps)
    (hbond : H.tryGetBond config.agentRegistry (env.invokedBy H.self) w.ledger.timestamp agent
      w.peers = (.ok bond, peers)) :
    PassesCollateral H env config.agentRegistry agent regionId amount w ↔
      Fits w agent regionId amount config.collateralRatioBps ∧
      ((w.store.getExposure agent regionId).val + amount.val) *
        config.collateralRatioBps.val / 10000
        ≤ bond.val := by
  have hone : 10000 ≤ config.collateralRatioBps.val := hratio
  constructor
  · rintro ⟨⟨exposure, w'⟩, h⟩
    obtain ⟨hexposure, config', hconfig', required, hrequired, bond', peers', hbond', hle, -⟩ :=
      checkCollateral_ok.1 h
    obtain rfl := Option.some.inj (hconfig.symm.trans hconfig')
    rw [hbond] at hbond'
    obtain ⟨hanswer, -⟩ := Prod.mk.inj hbond'
    obtain rfl := TryCall.ok.inj hanswer
    obtain ⟨hfits, hval⟩ := (bondFor_eq_some (by omega)).1 hrequired
    rw [hexposure] at hfits hval
    exact ⟨hfits, hval ▸ hle⟩
  · rintro ⟨hfits, hle⟩
    -- If the product fits, so do its factor and its quotient.
    have hfactor : (w.store.getExposure agent regionId).val + amount.val ≤ 2 ^ 127 - 1 :=
      (le_mul_of_one_le_right (by omega) (by omega)).trans hfits
    obtain ⟨exposure, hexposure⟩ : ∃ exposure : I128,
        exposure.val = (w.store.getExposure agent regionId).val + amount.val :=
      ⟨⟨_, by omega, hfactor⟩, rfl⟩
    have hproduct : 0 ≤ exposure.val * config.collateralRatioBps.val :=
      Int.mul_nonneg (by omega) (by omega)
    rw [Fits, ← hexposure] at hfits
    rw [← hexposure] at hle
    obtain ⟨required, hrequired⟩ : ∃ required : I128,
        required.val = exposure.val * config.collateralRatioBps.val / 10000 :=
      ⟨⟨_, by omega, by omega⟩, rfl⟩
    refine ⟨_, checkCollateral_ok.2 ⟨hexposure, config, hconfig, required,
      (bondFor_eq_some (by omega)).2 ⟨hfits, hrequired⟩, bond, peers, hbond, ?_, rfl⟩⟩
    rw [MachineInt.le_def, hrequired]
    exact hle

/-! ### The answer -/

theorem requiredBondFor_eq (hconfig : w.store.config = some config) (hpos : 0 < amount.val) :
    requiredBondFor agent regionId amount w =
      (bondFor ((w.store.getExposure agent regionId).saturatingAdd amount)
        config.collateralRatioBps).getD 0 := by
  rw [requiredBondFor, if_neg hpos.not_ge]
  have hread : ∀ exposure, bondRequirement exposure w =
      okOr (bondFor exposure config.collateralRatioBps) .overflow w := by
    intro exposure
    simp only [bondRequirement, getConfig, bind_assoc, read_bind, hconfig]
    rfl
  simp only [hread]
  cases bondFor ((w.store.getExposure agent regionId).saturatingAdd amount)
    config.collateralRatioBps <;> rfl

/-- As long as the product fits, the answer is the bond for the exposure after the draw. -/
theorem requiredBondFor_of_fits (hconfig : w.store.config = some config)
    (hnonneg : 0 ≤ (w.store.getExposure agent regionId).val) (hpos : 0 < amount.val)
    (hratio : minCollateralRatioBps ≤ config.collateralRatioBps)
    (hfits : Fits w agent regionId amount config.collateralRatioBps) :
    (requiredBondFor agent regionId amount w).val =
      ((w.store.getExposure agent regionId).val + amount.val) *
        config.collateralRatioBps.val / 10000 := by
  have hone : 10000 ≤ config.collateralRatioBps.val := hratio
  have hfactor : (w.store.getExposure agent regionId).val + amount.val ≤ 2 ^ 127 - 1 :=
    (le_mul_of_one_le_right (by omega) (by omega)).trans hfits
  have hsum : ((w.store.getExposure agent regionId).saturatingAdd amount).val =
      (w.store.getExposure agent regionId).val + amount.val :=
    MachineInt.saturatingAdd_val ⟨by omega, hfactor⟩
  have hproduct : 0 ≤ ((w.store.getExposure agent regionId).val + amount.val) *
      config.collateralRatioBps.val := Int.mul_nonneg (by omega) (by omega)
  rw [Fits] at hfits
  obtain ⟨required, hrequired⟩ : ∃ required : I128, required.val =
      ((w.store.getExposure agent regionId).val + amount.val) *
        config.collateralRatioBps.val / 10000 := ⟨⟨_, by omega, by omega⟩, rfl⟩
  have hbond : bondFor ((w.store.getExposure agent regionId).saturatingAdd amount)
      config.collateralRatioBps = some required :=
    (bondFor_eq_some (by omega)).2 ⟨hsum ▸ hfits, hsum ▸ hrequired⟩
  rw [requiredBondFor_eq hconfig hpos, hbond]
  exact hrequired

/-- From then on the answer is that no bond is needed. -/
theorem requiredBondFor_of_not_fits (hconfig : w.store.config = some config)
    (hnonneg : 0 ≤ (w.store.getExposure agent regionId).val) (hpos : 0 < amount.val)
    (hratio : minCollateralRatioBps ≤ config.collateralRatioBps)
    (hfits : ¬ Fits w agent regionId amount config.collateralRatioBps) :
    requiredBondFor agent regionId amount w = 0 := by
  have hone : 10000 ≤ config.collateralRatioBps.val := hratio
  rw [requiredBondFor_eq hconfig hpos]
  cases hbond : bondFor ((w.store.getExposure agent regionId).saturatingAdd amount)
      config.collateralRatioBps with
  | none => rfl
  | some required =>
    -- Either the sum is exact, or it is the largest number, which does not fit multiplied.
    by_cases hfactor : (w.store.getExposure agent regionId).val + amount.val ≤ 2 ^ 127 - 1
    · have hsum : ((w.store.getExposure agent regionId).saturatingAdd amount).val =
          (w.store.getExposure agent regionId).val + amount.val :=
        MachineInt.saturatingAdd_val ⟨by omega, hfactor⟩
      have hproduct := ((bondFor_eq_some (by omega)).1 hbond).1
      rw [hsum] at hproduct
      exact absurd hproduct hfits
    · have hsum :
          ((w.store.getExposure agent regionId).saturatingAdd amount).val = 2 ^ 127 - 1 := by
        show max (-2 ^ 127) (min _ (2 ^ 127 - 1)) = _
        omega
      have hproduct := ((bondFor_eq_some (by omega)).1 hbond).1
      rw [hsum] at hproduct
      omega

/-! ### The ratio -/

theorem RatioBounded.of_config {s s' : Storage} (h : RatioBounded s)
    (hconfig : s'.config = s.config) : RatioBounded s' := fun config hs => h config (hconfig ▸ hs)

/-- The configuration is rewritten with the same ratio, or one that was validated. -/
theorem ratioBounded_of_some {s : Storage} (hconfig : s.config = some config)
    (hratio : minCollateralRatioBps ≤ config.collateralRatioBps) : RatioBounded s := by
  intro config' hs
  obtain rfl := Option.some.inj (hconfig.symm.trans hs)
  exact hratio

theorem Administers.ratioBounded (h : Administers w w') (hb : RatioBounded w.store) :
    RatioBounded w'.store := by
  cases h with
  | first _ hratio => exact ratioBounded_of_some rfl hratio
  | @rewired config _ hconfig => exact ratioBounded_of_some rfl (hb config hconfig)
  | configured hconfig _ hratio =>
    rcases hratio with he | hratio
    · exact ratioBounded_of_some rfl (he ▸ hb _ hconfig)
    · exact ratioBounded_of_some rfl hratio
  | _ => exact hb.of_config rfl

theorem RatioBounded.invoke {c : Call} {r : Ret} (hb : RatioBounded w.store)
    (h : invoke H env c w = .ok (r, w')) : RatioBounded w'.store := by
  cases c with
  | depositLiquidity =>
    obtain ⟨shares, h₁, rfl⟩ := bind_pure_ok.1 h
    obtain ⟨-, -, config, -, -, state, -, -, -, -, -, -, held, -, totalDeposited, -, totalShares, -,
      rfl⟩ := depositLiquidity_ok.1 h₁
    exact hb.of_config rfl
  | withdrawLiquidity =>
    obtain ⟨amount, h₁, rfl⟩ := bind_pure_ok.1 h
    obtain ⟨-, -, config, -, -, state, -, -, -, -, available, -, -, -, -, left, -,
      totalDeposited, -, totalShares, -, rfl⟩ := withdrawLiquidity_ok.1 h₁
    exact hb.of_config rfl
  | drawLiquidity =>
    obtain ⟨exposure, h₁, rfl⟩ := bind_pure_ok.1 h
    obtain ⟨-, hpos, config, -, -, state, -, -, peers, -, available, -, -, drawn, -, utilization, -,
      -, hexposure, required, -, bond, peers', -, -, -, -, bps, -, rfl⟩ := drawLiquidity_ok.1 h₁
    exact hb.of_config rfl
  | repayLiquidity =>
    obtain ⟨exposure, h₁, rfl⟩ := bind_pure_ok.1 h
    obtain ⟨-, hpos, config, -, state, -, hle, -, -, hexposure, drawn, -, rfl⟩ :=
      repayLiquidity_ok.1 h₁
    exact hb.of_config rfl
  | _ => exact (administers_of_invoke rfl h).ratioBounded hb

theorem RatioBounded.step (hb : RatioBounded w.store) (h : (contract H).lts.step w l w') :
    RatioBounded w'.store := by
  rcases Contract.step_cases h with hq | ⟨env, c, r, -, -, h⟩
  · exact hb.of_config (by rw [hq.store])
  · exact hb.invoke (w := w.clear) h

theorem Fresh.ratioBounded (h : Fresh H token w) : RatioBounded w.store := by
  obtain ⟨env, admin, registry, ratio, cap, blank, hblank, h⟩ := h.initialized
  simp [initializeContract, hblank, Storage.blank] at h
  obtain ⟨⟨hratio, -⟩, -, -, rfl⟩ := h
  exact ratioBounded_of_some rfl hratio

/-! ### The answer and the check -/

/-- **The explained bond.**  In every reachable state, with the bond that the registry answers, a
draw passes its check exactly if the bond is what `requiredBondFor` says, as long as the product
fits; otherwise it never passes, and `requiredBondFor` says that no bond is needed.  As long as the
product fits, `requiredBondFor` does not say more for a smaller draw. -/
theorem explained_iff {peers peers' : ω} (h₀ : Fresh H token w₀)
    (h : (contract H).lts.Reachable w₀ w) (hconfig : w.store.config = some config)
    (hpos : 0 < amount.val)
    (hbond : H.tryGetBond config.agentRegistry (env.invokedBy H.self) w.ledger.timestamp agent
      peers = (.ok bond, peers')) :
    ((PassesCollateral H env config.agentRegistry agent regionId amount { w with peers } ↔
        requiredBondFor agent regionId amount w ≤ bond) ↔
      Fits w agent regionId amount config.collateralRatioBps ∨ bond.val < 0) ∧
    (Fits w agent regionId amount config.collateralRatioBps → ∀ less : I128, less ≤ amount →
      requiredBondFor agent regionId less w ≤ requiredBondFor agent regionId amount w) ∧
    (¬ Fits w agent regionId amount config.collateralRatioBps →
      ¬ PassesCollateral H env config.agentRegistry agent regionId amount { w with peers } ∧
        requiredBondFor agent regionId amount w = 0) := by
  have hratio : minCollateralRatioBps ≤ config.collateralRatioBps :=
    (h.invariant (I := fun w => RatioBounded w.store) h₀.ratioBounded
      fun _ _ _ hb hst => hb.step hst) config hconfig
  have hnonneg := (h₀.wellFormed_of_reachable h).getExposure_nonneg agent regionId
  have hpasses :
      PassesCollateral H env config.agentRegistry agent regionId amount { w with peers } ↔
      Fits w agent regionId amount config.collateralRatioBps ∧
      ((w.store.getExposure agent regionId).val + amount.val) *
        config.collateralRatioBps.val / 10000 ≤ bond.val :=
    passesCollateral_iff (w := { w with peers }) hconfig hnonneg hpos hratio hbond
  refine ⟨?_, ?_, ?_⟩
  · rw [hpasses, MachineInt.le_def]
    -- Where the product does not fit, the required bond is given as zero.
    by_cases hfits : Fits w agent regionId amount config.collateralRatioBps
    · rw [requiredBondFor_of_fits hconfig hnonneg hpos hratio hfits]
      exact iff_of_true (and_iff_right hfits) (.inl hfits)
    · rw [requiredBondFor_of_not_fits hconfig hnonneg hpos hratio hfits, I128.zero_val]
      constructor
      · intro hiff
        exact .inr (not_le.1 fun hle => hfits (hiff.2 hle).1)
      · rintro (hfits' | hnegative)
        · exact absurd hfits' hfits
        · exact iff_of_false (fun hp => hfits hp.1) hnegative.not_ge
  · intro hfits less hless
    have hone : 10000 ≤ config.collateralRatioBps.val := hratio
    rw [MachineInt.le_def] at hless
    -- The requirement grows with the amount, and is zero for what is no amount.
    by_cases hzero : less.val ≤ 0
    · rw [requiredBondFor, if_pos hzero, MachineInt.le_def, I128.zero_val,
        requiredBondFor_of_fits hconfig hnonneg hpos hratio hfits]
      exact Int.ediv_nonneg (Int.mul_nonneg (by omega) (by omega)) (by decide)
    · have hproduct : ((w.store.getExposure agent regionId).val + less.val) *
          config.collateralRatioBps.val ≤
          ((w.store.getExposure agent regionId).val + amount.val) * config.collateralRatioBps.val :=
        mul_le_mul_of_nonneg_right (by omega) (by omega)
      rw [MachineInt.le_def, requiredBondFor_of_fits hconfig hnonneg hpos hratio hfits,
        requiredBondFor_of_fits hconfig hnonneg (not_le.1 hzero) hratio (hproduct.trans hfits)]
      exact Int.ediv_le_ediv (by decide) hproduct
  · exact fun hfits => ⟨fun hp => hfits (hpasses.1 hp).1,
      requiredBondFor_of_not_fits hconfig hnonneg hpos hratio hfits⟩

/-! ### A draw that no bond covers -/

namespace Sample

theorem most_inRange : (-2 ^ 127 : ℤ) ≤ 2 ^ 127 - 1 ∧ (2 ^ 127 - 1 : ℤ) ≤ 2 ^ 127 - 1 :=
  ⟨by decide, le_rfl⟩

/-- The largest amount. -/
def most : I128 := ⟨2 ^ 127 - 1, most_inRange⟩

/-- A draw ten times of which does not fit in `most`, in basis points. -/
def heavy : I128 := ⟨2 ^ 127 / 50000, by decide, by decide⟩

/-- Every account but the pool holds `most`. -/
def wealthyBlank : World Unit :=
  { blank with ledger := ⟨1000, fun _ a => if a = host.self then 0 else most.val, []⟩ }

/-- The pool with a collateral ratio of 1000%. -/
def strict : World Unit :=
  { wealthyBlank with
    store := ⟨some admin, some ⟨⟨5⟩, usd, 100000, 8000, false⟩, some .zero, [], ∅, ∅, ∅⟩ }

/-- A provider deposits `most`. -/
def flooded : World Unit := (contract host).play strict
  [.call (signedBy admin) (.openRegion region 0),
    .call (signedBy provider) (.depositLiquidity provider region most)]

theorem fresh_strict : Fresh host usd strict where
  initialized := ⟨signedBy admin, admin, ⟨5⟩, 100000, 8000, wealthyBlank, rfl, rfl⟩
  balance_eq := rfl

theorem flooded_reachable : (contract host).lts.Reachable strict flooded :=
  ⟨_, Contract.play_run _ rfl⟩

theorem flooded_config : flooded.store.config = some ⟨⟨5⟩, usd, 100000, 8000, false⟩ := by decide

theorem not_passes_heavy : ¬ PassesCollateral host (signedBy Sample.agent) ⟨5⟩ Sample.agent region
    heavy flooded := by
  rintro ⟨⟨exposure, w'⟩, h⟩
  obtain ⟨hexposure, config', hconfig', required, hrequired, -⟩ := checkCollateral_ok.1 h
  obtain rfl := Option.some.inj (flooded_config.symm.trans hconfig')
  have hzero : (flooded.store.getExposure Sample.agent region).val = 0 := by decide
  have hval : exposure.val = heavy.val := by rw [hexposure, hzero, zero_add]
  obtain ⟨hfits, -⟩ := (bondFor_eq_some (by rw [hval]; decide)).1 hrequired
  rw [hval] at hfits
  exact absurd hfits (by decide)

end Sample

/-- The draw is refused, although it requires no bond and the agent has one of 15000. -/
theorem not_explained_sample : Fresh Sample.host Sample.usd Sample.strict ∧
    (contract Sample.host).lts.Reachable Sample.strict Sample.flooded ∧
    (contract Sample.host).outcome Sample.flooded (Sample.signedBy Sample.agent)
      (.drawLiquidity Sample.agent Sample.region Sample.heavy) = .reverted (.err .overflow) ∧
    ¬ (PassesCollateral Sample.host (Sample.signedBy Sample.agent) ⟨5⟩ Sample.agent Sample.region
        Sample.heavy Sample.flooded ↔
      requiredBondFor Sample.agent Sample.region Sample.heavy Sample.flooded ≤ 15000) :=
  ⟨Sample.fresh_strict, Sample.flooded_reachable, rfl, fun h =>
    Sample.not_passes_heavy (h.2 (by decide))⟩

theorem explained_iff_sample :
    PassesCollateral Sample.host (Sample.signedBy Sample.agent) ⟨5⟩ Sample.agent Sample.region 100
      Sample.flooded ↔
    requiredBondFor Sample.agent Sample.region 100 Sample.flooded ≤ 15000 := by
  have hbond :
    Sample.host.tryGetBond ⟨5⟩ ((Sample.signedBy Sample.agent).invokedBy Sample.host.self)
      Sample.flooded.ledger.timestamp Sample.agent () = (.ok 15000, ()) := rfl
  exact (explained_iff Sample.fresh_strict Sample.flooded_reachable Sample.flooded_config
    (by decide) hbond).1.2 (.inl (by decide))

end Pool

end RemitBridge
