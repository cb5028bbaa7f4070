import RemitBridge.Pool.Accounting

/-!
# The utilization cap

A draw is compared with the cap of the region after its utilization has been rounded down to whole
basis points.  A draw that is accepted is therefore less than one basis point past the cap, and it
is past it exactly if rounding down is what brought it to the cap (`within_cap_iff`).
-/

namespace RemitBridge

namespace Pool

open Exec TransitionSystem

variable {ω : Type} {H : Host ω} {env : Env} {token : Address} {w₀ w w' : World ω}
  {agent : Address} {regionId : Symbol} {amount exposure drawn : I128} {state state' : PoolState}

/-- The region has drawn no more than its cap allows. -/
def WithinCap (state : PoolState) : Prop :=
  state.totalDrawn.val * 10000 ≤ state.utilizationCapBps.val * state.totalDeposited.val

instance : DecidablePred WithinCap := fun _ => inferInstanceAs (Decidable (_ ≤ _))

/-- With `amount` drawn on top, the utilization of the region is the cap once it is rounded down,
but not before. -/
def RoundsToCap (state : PoolState) (amount : I128) : Prop :=
  (state.totalDrawn.val + amount.val) * 10000 / state.totalDeposited.val =
    state.utilizationCapBps.val ∧
  (state.totalDrawn.val + amount.val) * 10000 % state.totalDeposited.val ≠ 0

/-- Narrowing the utilization to 32 bits loses nothing: it is at most 100%. -/
theorem utilizationWith_val {bps : U32} (hpos : 0 < state.totalDeposited.val)
    (hdrawn : 0 ≤ drawn.val)
    (hle : drawn.val ≤ state.totalDeposited.val) (h : utilizationWith drawn state = some bps) :
    bps.val = drawn.val * 10000 / state.totalDeposited.val := by
  rw [utilizationWith, if_neg hpos.not_ge] at h
  obtain ⟨scaled, hscaled, h⟩ := Option.bind_eq_some_iff.1 h
  obtain ⟨quotient, hquotient, h⟩ := Option.bind_eq_some_iff.1 h
  obtain rfl := Option.some.inj h
  have hval := ((MachineInt.mulDiv_eq_some (b := (10000 : I128)) hdrawn (by decide) hpos).1
    (Option.bind_eq_some_iff.2 ⟨scaled, hscaled, hquotient⟩)).2
  rw [I128.tenThousand_val] at hval
  have hnonneg : 0 ≤ drawn.val * 10000 / state.totalDeposited.val :=
    Int.ediv_nonneg (by omega) hpos.le
  have hmax : drawn.val * 10000 / state.totalDeposited.val ≤ 10000 :=
    Int.ediv_le_of_le_mul hpos (by omega)
  rw [U32.ofI128OrMax_val (by omega), hval]

/-- What a draw does to its region. -/
theorem region_of_draw (hw : WellFormed token w.store)
    (h : drawLiquidity H env agent regionId amount w = .ok (exposure, w')) :
    ∃ state drawn, w.store.getPool regionId = some state ∧
      drawn.val = state.totalDrawn.val + amount.val ∧ 0 < state.totalDeposited.val ∧
      w'.store.getPool regionId =
        some { state with totalDrawn := drawn, updatedAt := w.ledger.timestamp } ∧
      drawn.val * 10000 / state.totalDeposited.val ≤ state.utilizationCapBps.val := by
  obtain ⟨-, hpos, -, -, -, state, hstate, -, peers, -, available, havailable, hle, drawn, hdrawn,
    utilization, hutilization, hcap, -, -, -, -, -, -, -, -, -, bps, -, rfl⟩ := drawLiquidity_ok.1 h
  obtain rfl := hw.keyed _ _ hstate
  rw [PoolState.available, MachineInt.checkedSub_eq_some] at havailable
  rw [MachineInt.le_def] at hle
  have hnonneg : 0 ≤ state.totalDrawn.val := book_drawn hstate ▸ hw.sound.drawn_nonneg _
  have hdeposited : 0 < state.totalDeposited.val := by omega
  rw [MachineInt.le_def, utilizationWith_val hdeposited (by omega) (by omega) hutilization] at hcap
  exact ⟨state, drawn, hstate, hdrawn, hdeposited, by simp [Storage.getPool], hcap⟩

/-- **The utilization cap.**  In every reachable state, a successful draw leaves its region within
the cap exactly if the utilization was not rounded down to the cap. -/
theorem within_cap_iff {ret : Ret} {transfers : List TokenTransfer} {events : List Event}
    (h₀ : Fresh H token w₀) (h : (contract H).lts.Reachable w₀ w)
    (hst : (contract H).lts.step w
      (.call env (.drawLiquidity agent regionId amount) (.done ret transfers events)) w')
    (hstate : w.store.getPool regionId = some state)
    (hstate' : w'.store.getPool regionId = some state') :
    WithinCap state' ↔ ¬ RoundsToCap state amount := by
  have hw := h₀.wellFormed_of_reachable h
  obtain ⟨exposure, h₁, rfl⟩ := bind_pure_ok.1 (Contract.invoke_of_step_done hst)
  obtain ⟨state₀, drawn, hstate₀, hdrawn, hpos, hafter, hcap⟩ :=
    region_of_draw (w := w.clear) hw h₁
  obtain rfl := Option.some.inj (hstate.symm.trans hstate₀)
  obtain rfl := Option.some.inj (hstate'.symm.trans hafter)
  rw [RoundsToCap, ← hdrawn]
  exact MachineInt.le_mul_iff_of_ediv_le hpos hcap

/-! ### A draw past the cap -/

namespace Sample

/-- The world before the draw. -/
def funded : World Unit := (contract host).play start (script.take 3)

/-- The region before the draw. -/
def fundedPool : PoolState := ⟨region, 10001, 0, 10001, 2, 8000, true, 1000⟩

theorem funded_reachable : (contract host).lts.Reachable start funded :=
  ⟨_, Contract.play_run (script.take 3) rfl⟩

theorem funded_pool : funded.store.getPool region = some fundedPool := by decide

theorem draw_step : (contract host).lts.step funded (.call (signedBy Sample.agent)
    (.drawLiquidity Sample.agent region 8001) (.done (.amount 8001)
      [⟨usd, host.self, Sample.agent, 8001⟩]
      [.liquidityDrawn Sample.agent region 8001 8001 8000])) final :=
  Contract.step_done rfl rfl rfl rfl

end Sample

/-- The draw of 8001 of 10001 units is accepted under a cap of 80%. -/
theorem not_within_cap_sample : Fresh Sample.host Sample.usd Sample.start ∧
    (contract Sample.host).lts.Reachable Sample.start Sample.funded ∧
    (contract Sample.host).lts.step Sample.funded (.call (Sample.signedBy Sample.agent)
      (.drawLiquidity Sample.agent Sample.region 8001) (.done (.amount 8001)
        [⟨Sample.usd, Sample.host.self, Sample.agent, 8001⟩]
        [.liquidityDrawn Sample.agent Sample.region 8001 8001 8000])) Sample.final ∧
    Sample.final.store.getPool Sample.region = some Sample.pool ∧ ¬ WithinCap Sample.pool :=
  ⟨Sample.fresh_start, Sample.funded_reachable, Sample.draw_step, Sample.final_pool, by decide⟩

theorem within_cap_iff_sample : WithinCap Sample.pool ↔ ¬ RoundsToCap Sample.fundedPool 8001 :=
  within_cap_iff Sample.fresh_start Sample.funded_reachable Sample.draw_step Sample.funded_pool
    Sample.final_pool

end Pool

end RemitBridge
