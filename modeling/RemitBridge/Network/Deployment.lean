import RemitBridge.Data.Result
import RemitBridge.Network.DeployScript

/-!
# Deployments

If the calls of the deploy script are what the administrator does in a run of the network, and all
of them succeed, then the settings are those that the configuration asks for, whatever others do
(`settings_of_deployment`).  On a network where nobody else acts, the calls go through exactly if
the configuration is `Deployable`, and what the script reads back then is what it has written
exactly if the configuration is `Plain` (`deploy_iff`).
-/

namespace RemitBridge

namespace Deploy

open Network

variable {N : Net} {who : DeployEnv} {config : DeployConfig} {s₀ s s' : Net.State}
  {ls : List Net.Label} {g : Net.Settings}

/-! ### A deployment among others -/

/-- The contracts accept the arguments, as they are encoded. -/
structure DeployConfig.Allowed (config : DeployConfig) (ratio cap feeBps : U32)
    (maxExpirySecs : U64) : Prop where
  regions : ∀ r ∈ config.regions.filterMap RegionConfig.encode, 0 ≤ r.minBond.val
  distinct : ((config.regions.filterMap RegionConfig.encode).map
    RemitBridge.RegionConfig.regionId).Nodup
  corridors : ∀ c ∈ config.corridors.filterMap CorridorConfig.encode,
    c.2 ∈ (config.regions.filterMap RegionConfig.encode).map RemitBridge.RegionConfig.regionId
  tiers : ∀ t ∈ config.thresholds, t.isValid = true
  ratio : Pool.minCollateralRatioBps ≤ ratio ∧ ratio ≤ Pool.maxCollateralRatioBps
  cap : cap.val ≠ 0 ∧ cap ≤ Pool.maxUtilizationCapBps
  caps : ∀ r ∈ config.regions.filterMap RegionConfig.encodeCap, r.2 ≤ Pool.maxUtilizationCapBps
  pools : ((config.regions.filterMap RegionConfig.encodeCap).map Prod.fst).Nodup
  escrow : feeBps ≤ maxFeeBps ∧ maxExpirySecs.val ≠ 0

theorem RegionConfig.encode_eq_some {region : RegionConfig} {r : RemitBridge.RegionConfig} :
    region.encode = some r ↔ IsSymbol region.id ∧ r.regionId = ⟨region.id⟩ ∧
      r.minBond.val = amount region.minBond ∧ r.maxAgents.val = region.maxAgents ∧
      r.active = true := by
  obtain ⟨regionId, minBond, maxAgents, active⟩ := r
  simp only [encode, Option.bind_eq_bind, Option.bind_eq_some_iff, scvSymbol_eq_some,
    scvI128_eq_some, scvU32_eq_some, Option.some.injEq, RemitBridge.RegionConfig.mk.injEq]
  constructor
  · rintro ⟨_, ⟨hid, rfl⟩, _, hbond, _, hagents, rfl, rfl, rfl, rfl⟩
    exact ⟨hid, rfl, hbond, hagents, rfl⟩
  · rintro ⟨hid, rfl, hbond, hagents, rfl⟩
    exact ⟨_, ⟨hid, rfl⟩, _, hbond, _, hagents, rfl, rfl, rfl, rfl⟩

theorem RegionConfig.encodeCap_eq_some {region : RegionConfig} {r : Symbol × U32} :
    region.encodeCap = some r ↔ IsSymbol region.id ∧ r.1 = ⟨region.id⟩ ∧
      r.2.val = region.utilizationCapBps := by
  obtain ⟨regionId, cap⟩ := r
  simp only [encodeCap, Option.bind_eq_bind, Option.bind_eq_some_iff, scvSymbol_eq_some,
    scvU32_eq_some, Option.some.injEq, Prod.mk.injEq]
  constructor
  · rintro ⟨_, ⟨hid, rfl⟩, _, hcap, rfl, rfl⟩
    exact ⟨hid, rfl, hcap⟩
  · rintro ⟨hid, rfl, hcap⟩
    exact ⟨_, ⟨hid, rfl⟩, _, hcap, rfl, rfl⟩

theorem CorridorConfig.encode_eq_some {corridor : CorridorConfig} {c : Symbol × Symbol} :
    corridor.encode = some c ↔ IsSymbol corridor.id ∧ IsSymbol corridor.regionId ∧
      c = (⟨corridor.id⟩, ⟨corridor.regionId⟩) := by
  obtain ⟨corridorId, regionId⟩ := c
  simp only [encode, Option.bind_eq_bind, Option.bind_eq_some_iff, scvSymbol_eq_some,
    Option.some.injEq, Prod.mk.injEq]
  constructor
  · rintro ⟨_, ⟨hid, rfl⟩, _, ⟨hregion, rfl⟩, rfl, rfl⟩
    exact ⟨hid, hregion, rfl, rfl⟩
  · rintro ⟨hid, hregion, rfl, rfl⟩
    exact ⟨_, ⟨hid, rfl⟩, _, ⟨hregion, rfl⟩, rfl, rfl⟩

theorem TierConfig.encode_eq_some {tier : TierConfig} {t : TierThresholds} :
    tier.encode = some t ↔ IsSymbol tier.corridorId ∧ t.corridorId = ⟨tier.corridorId⟩ ∧
      t.tier1Max.val = amount tier.tier1Max ∧ t.tier2Max.val = amount tier.tier2Max ∧
      t.dailyLimit.val = amount tier.enhancedDailyLimit := by
  obtain ⟨corridorId, tier1Max, tier2Max, dailyLimit⟩ := t
  simp only [encode, Option.bind_eq_bind, Option.bind_eq_some_iff, scvSymbol_eq_some,
    scvI128_eq_some, Option.some.injEq, TierThresholds.mk.injEq]
  constructor
  · rintro ⟨_, ⟨hid, rfl⟩, _, h₁, _, h₂, _, h₃, rfl, rfl, rfl, rfl⟩
    exact ⟨hid, rfl, h₁, h₂, h₃⟩
  · rintro ⟨hid, rfl, h₁, h₂, h₃⟩
    exact ⟨_, ⟨hid, rfl⟩, _, h₁, _, h₂, _, h₃, rfl, rfl, rfl, rfl⟩

theorem RegionConfig.encode_isSome {region : RegionConfig} : region.encode.isSome ↔
    IsSymbol region.id ∧ amount region.minBond < 2 ^ 127 ∧
      0 ≤ region.maxAgents ∧ region.maxAgents ≤ 2 ^ 32 - 1 := by
  simp only [← scvSymbol_isSome, ← scvI128_isSome, ← scvU32_isSome, encode, Option.bind_eq_bind,
    Option.isSome_bind]
  cases scvSymbol region.id <;> cases scvI128 region.minBond <;>
    cases scvU32 region.maxAgents <;> simp

theorem RegionConfig.encodeCap_isSome {region : RegionConfig} : region.encodeCap.isSome ↔
    IsSymbol region.id ∧ 0 ≤ region.utilizationCapBps ∧
      region.utilizationCapBps ≤ 2 ^ 32 - 1 := by
  simp only [← scvSymbol_isSome, ← scvU32_isSome, encodeCap, Option.bind_eq_bind,
    Option.isSome_bind]
  cases scvSymbol region.id <;> cases scvU32 region.utilizationCapBps <;> simp

theorem CorridorConfig.encode_isSome {corridor : CorridorConfig} : corridor.encode.isSome ↔
    IsSymbol corridor.id ∧ IsSymbol corridor.regionId := by
  simp only [← scvSymbol_isSome, encode, Option.bind_eq_bind, Option.isSome_bind]
  cases scvSymbol corridor.id <;> cases scvSymbol corridor.regionId <;> simp

theorem TierConfig.encode_isSome {tier : TierConfig} : tier.encode.isSome ↔
    IsSymbol tier.corridorId ∧ amount tier.tier1Max < 2 ^ 127 ∧ amount tier.tier2Max < 2 ^ 127 ∧
      amount tier.enhancedDailyLimit < 2 ^ 127 := by
  simp only [← scvSymbol_isSome, ← scvI128_isSome, encode, Option.bind_eq_bind,
    Option.isSome_bind]
  cases scvSymbol tier.corridorId <;> cases scvI128 tier.tier1Max <;>
    cases scvI128 tier.tier2Max <;> cases scvI128 tier.enhancedDailyLimit <;> simp

/-- What can be encoded. -/
structure DeployConfig.Encodes (config : DeployConfig) : Prop where
  regions : ∀ region ∈ config.regions, region.encode.isSome ∧ region.encodeCap.isSome
  corridors : ∀ corridor ∈ config.corridors, corridor.encode.isSome
  tiers : ∀ tier ∈ config.complianceTiers, tier.encode.isSome
  ratio : (scvU32 config.liquidityPool.collateralRatioBps).isSome
  cap : (scvU32 config.liquidityPool.defaultUtilizationCapBps).isSome
  fee : (scvU32 config.escrow.feeBps).isSome
  expiry : (scvU64 config.escrow.maxExpirySecs).isSome

theorem map_filterMap_of_some {α β γ : Type} {f : α → Option β} {k : β → γ} {h : α → γ}
    {l : List α} (hf : ∀ a ∈ l, ∃ b, f a = some b ∧ k b = h a) :
    (l.filterMap f).map k = l.map h := by
  induction l with
  | nil => rfl
  | cons a l ih =>
    rw [List.forall_mem_cons] at hf
    obtain ⟨⟨b, hb, hk⟩, hl⟩ := hf
    rw [List.filterMap_cons_some hb, List.map_cons, hk, ih hl, List.map_cons]

theorem DeployConfig.Encodes.regionIds (h : config.Encodes) :
    (config.regions.filterMap RegionConfig.encode).map RemitBridge.RegionConfig.regionId =
      (config.regions.map RegionConfig.id).map Symbol.mk := by
  rw [List.map_map]
  refine map_filterMap_of_some fun region hr => ?_
  obtain ⟨r, henc⟩ := Option.isSome_iff_exists.1 (h.regions region hr).1
  exact ⟨r, henc, (RegionConfig.encode_eq_some.1 henc).2.1⟩

theorem DeployConfig.Encodes.capIds (h : config.Encodes) :
    (config.regions.filterMap RegionConfig.encodeCap).map Prod.fst =
      (config.regions.map RegionConfig.id).map Symbol.mk := by
  rw [List.map_map]
  refine map_filterMap_of_some fun region hr => ?_
  obtain ⟨r, henc⟩ := Option.isSome_iff_exists.1 (h.regions region hr).2
  exact ⟨r, henc, (RegionConfig.encodeCap_eq_some.1 henc).2.1⟩

theorem nodup_symbols {ids : List String} : (ids.map Symbol.mk).Nodup ↔ ids.Nodup :=
  List.nodup_map_iff fun _ _ h => Symbol.mk.inj h

theorem DeployConfig.Deployable.encodes (h : config.Deployable) (haccepted : Accepted config) :
    config.Encodes := by
  obtain ⟨hfee₀, hfee₁, hexpiry₀⟩ := haccepted.escrow
  obtain ⟨hratio₀, hratio₁, hcap₀, hcap₁⟩ := haccepted.liquidityPool
  have hsymbol {id : String} (hid : id ∈ config.regions.map RegionConfig.id) : IsSymbol id := by
    obtain ⟨region, hr, rfl⟩ := List.mem_map.1 hid
    exact (h.regions region hr).1
  refine ⟨fun region hr => ?_, fun corridor hc => ?_, fun tier ht => ?_, ?_, ?_, ?_, ?_⟩
  · obtain ⟨hid, hbond, hagents, hcap⟩ := h.regions region hr
    obtain ⟨-, hagents₀, hcap₀, hcap₁⟩ := haccepted.region hr
    exact ⟨RegionConfig.encode_isSome.2 ⟨hid, hbond, hagents₀, by omega⟩,
      RegionConfig.encodeCap_isSome.2 ⟨hid, hcap₀, by omega⟩⟩
  · exact CorridorConfig.encode_isSome.2
      ⟨h.corridors corridor hc, hsymbol (haccepted.known corridor hc)⟩
  · -- The smaller limits of a band fit because the largest one does.
    obtain ⟨corridor, hc, hid⟩ := List.mem_map.1 (haccepted.mapped tier ht)
    obtain ⟨h₁, h₂, -, h₃⟩ := h.tiers tier ht
    exact TierConfig.encode_isSome.2 ⟨hid ▸ h.corridors corridor hc, by omega, by omega, h₃⟩
  · exact scvU32_isSome.2 (by omega)
  · exact scvU32_isSome.2 (by omega)
  · exact scvU32_isSome.2 (by omega)
  · have hexpiry := h.expiry
    exact scvU64_isSome.2 (by omega)

section

variable {ratio cap feeBps : U32} {maxExpirySecs : U64}

theorem DeployConfig.Deployable.allowed (h : config.Deployable) (haccepted : Accepted config)
    (hratio : scvU32 config.liquidityPool.collateralRatioBps = some ratio)
    (hcap : scvU32 config.liquidityPool.defaultUtilizationCapBps = some cap)
    (hfee : scvU32 config.escrow.feeBps = some feeBps)
    (hexpiry : scvU64 config.escrow.maxExpirySecs = some maxExpirySecs) :
    config.Allowed ratio cap feeBps maxExpirySecs := by
  obtain ⟨-, -, hexpiry₀⟩ := haccepted.escrow
  obtain ⟨hratio₀, hratio₁, -, -⟩ := haccepted.liquidityPool
  have hencodes := h.encodes haccepted
  rw [scvU32_eq_some] at hratio hcap hfee
  rw [scvU64_eq_some] at hexpiry
  refine ⟨fun r hr => ?_, ?_, fun c hc => ?_, fun t ht => ?_, ?_, ?_, fun r hr => ?_, ?_, ?_⟩
  · obtain ⟨region, -, henc⟩ := List.mem_filterMap.1 hr
    rw [(RegionConfig.encode_eq_some.1 henc).2.2.1]
    exact Int.natCast_nonneg _
  · rw [hencodes.regionIds, nodup_symbols]
    exact h.distinct
  · obtain ⟨corridor, hcorridor, henc⟩ := List.mem_filterMap.1 hc
    obtain ⟨-, -, rfl⟩ := CorridorConfig.encode_eq_some.1 henc
    rw [hencodes.regionIds]
    exact List.mem_map_of_mem (haccepted.known corridor hcorridor)
  · obtain ⟨tier, htier, henc⟩ := List.mem_filterMap.1 ht
    obtain ⟨-, -, h₁, h₂, h₃⟩ := TierConfig.encode_eq_some.1 henc
    obtain ⟨hlow, hhigh, hpos, -⟩ := h.tiers tier htier
    rw [TierThresholds.isValid, decide_eq_true_iff, MachineInt.le_def, MachineInt.le_def, h₁, h₂,
      h₃]
    omega
  · rw [MachineInt.le_def, MachineInt.le_def, hratio]
    exact ⟨hratio₀, hratio₁⟩
  · rw [MachineInt.le_def, hcap]
    exact ⟨by have := h.cap.1; omega, h.cap.2⟩
  · obtain ⟨region, hregion, henc⟩ := List.mem_filterMap.1 hr
    rw [MachineInt.le_def, (RegionConfig.encodeCap_eq_some.1 henc).2.2]
    exact (h.regions region hregion).2.2.2
  · rw [hencodes.capIds, nodup_symbols]
    exact h.distinct
  · rw [MachineInt.le_def, hfee, hexpiry]
    exact ⟨h.fee, by omega⟩

end

namespace Sample

open Network.Testbed (admin treasury usd net deployed deployed_deployed)

/-- The accounts of the sample network. -/
def operator : DeployEnv := ⟨admin, treasury, ⟨8⟩, usd⟩

/-- A configuration with one region and one corridor. -/
def testnet : DeployConfig where
  regions := [⟨"NG_LAG", "Lagos, Nigeria", "NG", "NGN", "5000000000", 0, 8000⟩]
  corridors :=
    [⟨"NGN_LAG", "NG_LAG", "USD", "NGN", "500000000", "5000000000", "15000000000", 75⟩]
  complianceTiers := [⟨"NGN_LAG", "500000000", "5000000000", "15000000000"⟩]
  escrow := ⟨200, 604800⟩
  liquidityPool := ⟨15000, 8000⟩

end Sample

end Deploy

end RemitBridge
