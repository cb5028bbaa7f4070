import RemitBridge.Soroban.Link
import RemitBridge.Registry.Contract
import RemitBridge.Pool.Accounting

/-!
# The pool and the agent registry

Agents draw float from the pool against the bond they hold in the registry.  The pool compares the
bond with the float drawn in the region of the draw.  That is all the float of the agent as long
as it draws in one region at a time, and then the bond covers it (`draw_collateralized`).  An agent
that is revoked in one region with float outstanding can register in another, and draw there
against a bond that has to cover both.
-/

namespace RemitBridge

namespace Network

open TransitionSystem Exec Store

/-- A pool and the agent registry it is connected to. -/
structure Desk where
  pool : Address
  registry : Address

namespace Desk

/-- What the pool relies on.  Nothing but the registry answers as a registry. -/
@[simps] def host (N : Desk) : Pool.Host (Registry.Storage × Unit) where
  self := N.pool
  tryIsAuthorized callee _ _ agent regionId peers :=
    (if callee = N.registry then .ok (peers.1.isAuthorized agent regionId) else .failed, peers)
  tryGetBond callee _ _ agent peers :=
    (if callee = N.registry then .ok (peers.1.getBond agent) else .failed, peers)

abbrev World := Pool.World (Registry.Storage × Unit)

abbrev Label := Link.Label (Registry.Storage × Unit) Pool.Call Pool.Ret Pool.Event LiquidityError
  Registry.Call Registry.Ret Registry.Event AgentRegistryError

/-- The behaviour of the pool and the registry. -/
def lts (N : Desk) : TransitionSystem World Label :=
  Link.lts (Pool.contract N.host) (Registry.contract N.registry)

end Desk

variable {N : Desk} {token : Address} {w₀ w w' : Desk.World} {l : Desk.Label}
  {ls : List Desk.Label} {env : Env} {agent : Address} {regionId : Symbol}
  {amount exposure : I128}

/-- The float an agent has drawn, in all regions together. -/
def outstanding (s : Pool.Storage) (agent : Address) : ℤ :=
  s.exposures.total fun key exposure => if key.1 = agent then exposure.val else 0

/-- The agent's bond covers its float at the ratio in force. -/
def Collateralized (agent : Address) (w : Desk.World) : Prop :=
  ∃ config, w.store.config = some config ∧
    outstanding w.store agent * config.collateralRatioBps.val / 10000 ≤
      (w.peers.1.getBond agent).val

/-- In a draw, the agent has no float outstanding in any other region. -/
def DrawsInOneRegion (s : Pool.Storage) : Desk.Label → Prop
  | .client (.call _ (.drawLiquidity agent regionId _) (.done ..)) =>
    ∀ other, other ≠ regionId → s.getExposure agent other = 0
  | _ => True

/-- The invariant of the pool is kept by its own steps and those of the registry. -/
theorem wellFormed_step (hw : Pool.WellFormed token w.store) (h : N.lts.step w l w') :
    Pool.WellFormed token w'.store := by
  cases h with
  | client hst => exact hw.step hst
  | service => exact hw
  | refused => exact hw

/-- The float of an agent that has float in one region only. -/
theorem outstanding_of_insert {s s' : Pool.Storage}
    (hothers : ∀ other, other ≠ regionId → s.getExposure agent other = 0)
    (hexposures : s'.exposures = s.exposures.insert (agent, regionId) exposure) :
    outstanding s' agent = exposure.val := by
  have hlookup : s'.exposures.lookup (agent, regionId) = some exposure := by
    rw [hexposures, AList.lookup_insert]
  rw [outstanding, total_eq_contribution (k := (agent, regionId)), contribution_of_lookup hlookup,
    if_pos rfl]
  rintro ⟨agent', other⟩ exposure' hexposure' hne
  rw [hexposures, AList.lookup_insert_ne hne] at hexposure'
  split_ifs with hagent
  · obtain rfl : agent' = agent := hagent
    have hzero := hothers other fun hregion => hne (by rw [hregion])
    rw [Pool.Storage.getExposure, hexposure', Option.getD_some] at hzero
    rw [hzero, I128.zero_val]
  · rfl

/-- A draw in the only region in which the agent has float is covered by its bond. -/
theorem collateralized_of_draw (hw : Pool.WellFormed token w.store)
    (hothers : ∀ other, other ≠ regionId → w.store.getExposure agent other = 0)
    (h : Pool.drawLiquidity N.host env agent regionId amount w = .ok (exposure, w')) :
    Collateralized agent w' := by
  obtain ⟨-, hpos, config, hconfig, -, state, -, -, peers, hauthorized, -, -, -, -, -, -, -, -,
    hexposure, required, hrequired, bond, peers', hbond, hle, -, -, bps, -, rfl⟩ :=
    Pool.drawLiquidity_ok.1 h
  have hnonneg := hw.getExposure_nonneg agent regionId
  have houtstanding : outstanding (w.store.putExposure agent regionId exposure) agent =
      exposure.val := outstanding_of_insert hothers rfl
  -- Neither of the two calls changes the registry.
  rw [Desk.host_tryIsAuthorized, Prod.mk.injEq] at hauthorized
  obtain ⟨-, rfl⟩ := hauthorized
  rw [Desk.host_tryGetBond, Prod.mk.injEq] at hbond
  obtain ⟨hanswer, rfl⟩ := hbond
  split_ifs at hanswer
  obtain rfl := TryCall.ok.inj hanswer
  have hval := ((Pool.bondFor_eq_some (by omega)).1 hrequired).2
  refine ⟨config, hconfig, ?_⟩
  calc outstanding _ agent * config.collateralRatioBps.val / 10000
      = exposure.val * config.collateralRatioBps.val / 10000 := by
        rw [← houtstanding]
        rfl
    _ = required.val := hval.symm
    _ ≤ (w.peers.1.getBond agent).val := hle

/-- **One bond, one draw.**  In every run in which agents draw in one region at a time, the bond of
an agent covers all its float after each of its draws. -/
theorem draw_collateralized {ret : Pool.Ret} {transfers : List TokenTransfer}
    {events : List Pool.Event} (h₀ : Pool.Fresh N.host token w₀)
    (h : (N.lts.restrict fun w l _ => DrawsInOneRegion w.store l).Run w₀
      (ls ++ [.client (.call env (.drawLiquidity agent regionId amount)
        (.done ret transfers events))]) w) : Collateralized agent w := by
  obtain ⟨w₁, h₁, hst, hothers⟩ := Run.concat_iff.1 h
  have hw : Pool.WellFormed token w₁.store :=
    h₁.invariant (I := fun w : Desk.World => Pool.WellFormed token w.store) h₀.wellFormed
      fun _ _ _ hw hst => wellFormed_step hw hst.1
  cases hst with
  | client hst =>
    obtain ⟨exposure, hdraw, -⟩ := bind_pure_ok.1 (Contract.invoke_of_step_done hst)
    exact collateralized_of_draw (w := w₁.clear) hw hothers hdraw

/-! ### One bond for two draws -/

namespace Sample

open Pool.Sample

/-- The pool at address 0 and the registry at address 5. -/
def desk : Desk := ⟨⟨0⟩, ⟨5⟩⟩

def otherRegion : Symbol := ⟨"ACCRA"⟩

/-- The registry, with the administrator of the pool. -/
def registryStorage : Registry.Storage :=
  ⟨some admin, some usd, some ⟨3⟩, some .zero, [], ∅, ∅, ∅, ∅⟩

/-- The pool with a collateral ratio of 150%, and the registry. -/
def deskStart : Desk.World :=
  ⟨Pool.Sample.start.store, Pool.Sample.start.ledger, [], registryStorage, ()⟩

/-- Two regions with float, and an agent with a bond of 1500 in the first. -/
def deskScript : List (Link.Input Pool.Call Registry.Call) :=
  [.service (signedBy admin) (.addRegion region 100 0),
    .service (signedBy admin) (.addRegion otherRegion 100 0),
    .client (.call (signedBy admin) (.openRegion region 0)),
    .client (.call (signedBy admin) (.openRegion otherRegion 0)),
    .client (.call (signedBy provider) (.depositLiquidity provider region 5000)),
    .client (.call (signedBy provider) (.depositLiquidity provider otherRegion 5000)),
    .service (signedBy Pool.Sample.agent) (.registerAgent Pool.Sample.agent region 1500),
    .service (signedBy admin) (.authorizeAgent Pool.Sample.agent)]

/-- The agent draws 1000 in the first region, is revoked, and registers in the second. -/
def moveScript : List (Link.Input Pool.Call Registry.Call) :=
  [.client (.call (signedBy Pool.Sample.agent) (.drawLiquidity Pool.Sample.agent region 1000)),
    .service (signedBy admin) (.revokeAgent Pool.Sample.agent ⟨"conduct"⟩),
    .service (signedBy Pool.Sample.agent) (.registerAgent Pool.Sample.agent otherRegion 1500),
    .service (signedBy admin) (.authorizeAgent Pool.Sample.agent)]

/-- The steps of a script. -/
def deskTrace (script : List (Link.Input Pool.Call Registry.Call)) : List Desk.Label :=
  Link.trace (Pool.contract desk.host) (Registry.contract desk.registry) deskStart script

/-- The world after a script. -/
def deskPlay (script : List (Link.Input Pool.Call Registry.Call)) : Desk.World :=
  Link.play (Pool.contract desk.host) (Registry.contract desk.registry) deskStart script

/-- The agent draws 1000 of the 5000 units in a region. -/
def draw (regionId : Symbol) : Desk.Label :=
  .client (.call (signedBy Pool.Sample.agent) (.drawLiquidity Pool.Sample.agent regionId 1000)
    (.done (.amount 1000) [⟨usd, ⟨0⟩, Pool.Sample.agent, 1000⟩]
      [.liquidityDrawn Pool.Sample.agent regionId 1000 1000 2000]))

/-- The world after that draw. -/
def afterDraw (w : Desk.World) (regionId : Symbol) : Desk.World :=
  ((Pool.contract desk.host).perform w (.call (signedBy Pool.Sample.agent)
    (.drawLiquidity Pool.Sample.agent regionId 1000))).1

theorem fresh_deskStart : Pool.Fresh desk.host usd deskStart where
  initialized := ⟨signedBy admin, admin, ⟨5⟩, 15000, 8000,
    ⟨.blank, deskStart.ledger, [], deskStart.peers⟩, rfl, rfl⟩
  balance_eq := rfl

theorem deskScript_run : desk.lts.Run deskStart (deskTrace deskScript) (deskPlay deskScript) :=
  Link.play_run deskScript rfl

theorem draw_step : desk.lts.step (deskPlay deskScript) (draw region)
    (afterDraw (deskPlay deskScript) region) :=
  Link.step_call (Contract.step_done rfl rfl rfl rfl)

theorem moveScript_run : desk.lts.Run deskStart (deskTrace (deskScript ++ moveScript))
    (deskPlay (deskScript ++ moveScript)) :=
  Link.play_run (deskScript ++ moveScript) rfl

theorem second_draw_step : desk.lts.step (deskPlay (deskScript ++ moveScript)) (draw otherRegion)
    (afterDraw (deskPlay (deskScript ++ moveScript)) otherRegion) :=
  Link.step_call (Contract.step_done rfl rfl rfl rfl)

theorem deskScript_trace : ∀ l ∈ deskTrace deskScript, ∀ s, DrawsInOneRegion s l :=
  List.forall_iff_forall_mem.1 ⟨fun _ => trivial, fun _ => trivial, fun _ => trivial,
    fun _ => trivial, fun _ => trivial, fun _ => trivial, fun _ => trivial, fun _ => trivial⟩

theorem single_draw_run : (desk.lts.restrict fun w l _ => DrawsInOneRegion w.store l).Run deskStart
    (deskTrace deskScript ++ [draw region]) (afterDraw (deskPlay deskScript) region) :=
  .snoc ((deskScript_run.restrict_of_labels deskScript_trace).restrict_mono fun _ _ _ h => h _)
    ⟨draw_step, fun _ _ => rfl⟩

theorem second_draw_config :
    (afterDraw (deskPlay (deskScript ++ moveScript)) otherRegion).store.config =
      some ⟨⟨5⟩, usd, 15000, 8000, false⟩ := by decide

end Sample

/-- After the second draw the agent owes 2000 units, for which a bond of 3000 is required; its bond
is 1500. -/
theorem not_collateralized_sample : Pool.Fresh Sample.desk.host Pool.Sample.usd Sample.deskStart ∧
    Sample.desk.lts.Run Sample.deskStart
      (Sample.deskTrace (Sample.deskScript ++ Sample.moveScript) ++
        [Sample.draw Sample.otherRegion])
      (Sample.afterDraw (Sample.deskPlay (Sample.deskScript ++ Sample.moveScript))
        Sample.otherRegion) ∧
    ¬ Collateralized Pool.Sample.agent
      (Sample.afterDraw (Sample.deskPlay (Sample.deskScript ++ Sample.moveScript))
        Sample.otherRegion) := by
  refine ⟨Sample.fresh_deskStart, .snoc Sample.moveScript_run Sample.second_draw_step, ?_⟩
  rintro ⟨config, hconfig, hle⟩
  obtain rfl := Option.some.inj (Sample.second_draw_config.symm.trans hconfig)
  exact absurd hle (by decide)

theorem draw_collateralized_sample : Collateralized Pool.Sample.agent
    (Sample.afterDraw (Sample.deskPlay Sample.deskScript) Pool.Sample.region) :=
  draw_collateralized Sample.fresh_deskStart Sample.single_draw_run

end Network

end RemitBridge
