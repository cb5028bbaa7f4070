import RemitBridge.Registry.Regions

/-!
# What the registry writes

Apart from a registration, an invocation rewrites at most one record or one region.  `Rewrites` says
what each entry point does to a record and when it may, and `Writes` what it does to the records,
the regions and the two counters of agents (`invoke_writes`).
-/

namespace RemitBridge

namespace Registry

open Exec TransitionSystem

variable {ω : Type} {self : Address} {env : Env} {w₀ w w' : World ω} {l : Label ω}
  {ls : List (Label ω)} {c : Call} {s s' : Storage} {agent : Address} {record record' : Agent}

/-- The counters of agents. -/
def Storage.agentCounts (s : Storage) : U32 × U32 :=
  (s.getStats.totalAgents, s.getStats.authorizedAgents)

/-- The call touches neither records nor regions nor counters. -/
def Call.administers : Call → Bool
  | setAdmin _ | setTreasury _ | mapCorridor .. => true
  | _ => false

/-- What a call does to a record, and when it may. -/
inductive Rewrites (s : Storage) : Call → Agent → Agent → Prop
  | toppedUp {record : Agent} {amount bond : I128} {now : U64} : 0 < amount.val →
      bond.val = record.bond.val + amount.val → Rewrites s (.topUpBond record.address amount)
        record { record with bond, updatedAt := now }
  | withdrawn {record : Agent} {amount bond : I128} {now : U64} : record.status ≠ .authorized →
      bond.val = record.bond.val - amount.val → Rewrites s (.withdrawBond record.address amount)
        record { record with bond, updatedAt := now }
  | authorized {record : Agent} {region : RegionConfig} {now : U64} :
      (record.status = .pending ∨ record.status = .suspended) →
      s.getRegion record.regionId = some region → region.active = true →
      region.acceptsBond record.bond = true → Rewrites s (.authorizeAgent record.address) record
        { record with status := .authorized, updatedAt := now }
  | suspended {record : Agent} {reason : Symbol} {now : U64} :
      Rewrites s (.suspendAgent record.address reason) record
        { record with status := .suspended, updatedAt := now }
  | revoked {record : Agent} {reason : Symbol} {now : U64} :
      Rewrites s (.revokeAgent record.address reason) record
        { record with status := .revoked, updatedAt := now }
  | slashed {record : Agent} {amount bond : I128} {reason : Symbol} {slashCount : U32} {now : U64} :
      bond.val = record.bond.val - amount.val → ¬ underwater s { record with bond, slashCount } →
      Rewrites s (.slashAgent record.address amount reason) record
        { record with bond, slashCount, updatedAt := now }
  /-- The slash suspends. -/
  | sunk {record : Agent} {amount bond : I128} {reason : Symbol} {slashCount : U32} {now : U64} :
      underwater s { record with bond, slashCount } →
      Rewrites s (.slashAgent record.address amount reason) record
        { record with bond, slashCount, status := .suspended, updatedAt := now }

/-- What an invocation does to the records, the regions and the counters of agents. -/
inductive Writes (s s' : Storage) : Call → Prop
  | initializes {admin bondToken treasury : Address} : s.admin = none → s'.agents = s.agents →
      s'.regions = s.regions → s'.agentCounts = (0, 0) →
      Writes s s' (.initializeContract admin bondToken treasury)
  | administers {c : Call} : c.administers = true → s'.agents = s.agents → s'.regions = s.regions →
      s'.agentCounts = s.agentCounts → Writes s s' c
  | adds {regionId : Symbol} {minBond : I128} {maxAgents : U32} : s.getRegion regionId = none →
      s'.regions = s.regions.insert regionId ⟨regionId, minBond, maxAgents, true⟩ →
      s'.agents = s.agents → s'.agentCounts = s.agentCounts →
      Writes s s' (.addRegion regionId minBond maxAgents)
  | bounds {region : RegionConfig} {minBond : I128} :
      s.getRegion region.regionId = some region →
      s'.regions = s.regions.insert region.regionId { region with minBond } →
      s'.agents = s.agents → s'.agentCounts = s.agentCounts →
      Writes s s' (.setMinBond region.regionId minBond)
  | activates {region : RegionConfig} {active : Bool} :
      s.getRegion region.regionId = some region →
      s'.regions = s.regions.insert region.regionId { region with active } →
      s'.agents = s.agents → s'.agentCounts = s.agentCounts →
      Writes s s' (.setRegionActive region.regionId active)
  | registers {record : Agent} {amount : I128} : s.bondToken ≠ none →
      (∀ previous, s.getAgent record.address = some previous → previous.status = .revoked) →
      record.status = .pending → s'.agents = s.agents.insert record.address record →
      s'.regions = s.regions → s'.agentCounts =
        (if s.getAgent record.address = none then s.getStats.totalAgents.saturatingAdd 1
          else s.getStats.totalAgents, s.getStats.authorizedAgents) →
      Writes s s' (.registerAgent record.address record.regionId amount)
  | rewrites {c : Call} {record record' : Agent} : s.getAgent record.address = some record →
      Rewrites s c record record' → s'.agents = s.agents.insert record.address record' →
      s'.regions = s.regions → s'.agentCounts = (s.getStats.totalAgents,
        (countTransition s.getStats record.status record'.status).authorizedAgents) →
      Writes s s' c

/-- The administrator stays, and the token is set together with one. -/
structure Wires (s s' : Storage) : Prop where
  admin : s'.admin = none → s.admin = none
  bondToken : s'.admin = none → s'.bondToken = s.bondToken

/-- Once there is an administrator, nothing is said. -/
theorem Wires.of_some {s s' : Storage} {admin : Address} (h : s'.admin = some admin) :
    Wires s s' := by
  constructor
  · intro hnone
    rw [h] at hnone
    cases hnone
  · intro hnone
    rw [h] at hnone
    cases hnone

theorem countTransition_self (stats : RegistryStats) (status : AgentStatus) :
    countTransition stats status status = stats := by
  cases status <;> rfl

@[simp] theorem countTransition_totalAgents (stats : RegistryStats) (source dest : AgentStatus) :
    (countTransition stats source dest).totalAgents = stats.totalAgents := by
  unfold countTransition
  split_ifs <;> rfl

/-- A call that rewrites a record and keeps its status. -/
theorem Writes.of_kept (h : s.getAgent record.address = some record)
    (hrewrites : Rewrites s c record record') (hstatus : record'.status = record.status)
    (hagents : s'.agents = s.agents.insert record.address record')
    (hregions : s'.regions = s.regions)
    (hcounts : s'.agentCounts = s.agentCounts) : Writes s s' c := by
  refine .rewrites h hrewrites hagents hregions ?_
  rw [hstatus, countTransition_self, hcounts]
  rfl

theorem writes_of_transitioned {dest : AgentStatus} {reason : Symbol}
    (h : w.store.getAgent record.address = some record) (hrewrites : Rewrites w.store c record
      { record with status := dest, updatedAt := w.ledger.timestamp }) :
    Writes w.store (transitioned w record dest reason).store c := by
  refine .rewrites h hrewrites rfl rfl ?_
  rw [Storage.agentCounts, transitioned, Storage.getStats_putStats, countTransition_totalAgents]

theorem writes_of_slashAgent {amount slashed : I128} {reason : Symbol} (hk : Keyed w.store)
    (h : slashAgent self env agent amount reason w = .ok (slashed, w')) :
    Wires w.store w'.store ∧ Writes w.store w'.store (.slashAgent agent amount reason) := by
  obtain ⟨admin, -, -, -, record, hrecord, -, treasury, -, bond, hbond, -, record', w₁, hafter,
    token, -, -, -, totalBonded, -, totalSlashed, -, -, rfl⟩ := slashAgent_ok.1 h
  obtain rfl := hk.agents _ _ hrecord
  cases hafter with
  | kept hdry =>
    exact ⟨⟨id, fun _ => rfl⟩, .of_kept hrecord (.slashed hbond hdry) rfl rfl rfl rfl⟩
  | suspended hunder =>
    refine ⟨⟨id, fun _ => rfl⟩, .rewrites hrecord (.sunk hunder) (AList.insert_insert _) rfl ?_⟩
    exact Prod.ext (countTransition_totalAgents _ _ _) rfl

theorem Administers.writes (hk : Keyed w.store) (h : Administers w c w') :
    Wires w.store w'.store ∧ Writes w.store w'.store c := by
  cases h with
  | first hnone => exact ⟨.of_some rfl, .initializes hnone rfl rfl rfl⟩
  | admin => exact ⟨.of_some rfl, .administers rfl rfl rfl rfl⟩
  | treasury => exact ⟨⟨id, fun _ => rfl⟩, .administers rfl rfl rfl rfl⟩
  | added _ hnone => exact ⟨⟨id, fun _ => rfl⟩, .adds hnone rfl rfl rfl⟩
  | bounded _ hregion =>
    obtain rfl := hk.regions _ _ hregion
    exact ⟨⟨id, fun _ => rfl⟩, .bounds hregion rfl rfl rfl⟩
  | activated _ hregion =>
    obtain rfl := hk.regions _ _ hregion
    exact ⟨⟨id, fun _ => rfl⟩, .activates hregion rfl rfl rfl⟩
  | mapped => exact ⟨⟨id, fun _ => rfl⟩, .administers rfl rfl rfl rfl⟩

/-- **What an invocation writes.** -/
theorem invoke_writes {r : Ret} (hk : Keyed w.store) (h : invoke self env c w = .ok (r, w')) :
    Wires w.store w'.store ∧ Writes w.store w'.store c := by
  cases c with
  | registerAgent agent regionId amount =>
    obtain ⟨record, h₁, rfl⟩ := bind_pure_ok.1 h
    obtain ⟨-, -, region, -, -, -, token, htoken, hrevoked, -, -, totalBonded, -, -, rfl⟩ :=
      registerAgent_ok.1 h₁
    -- A record is added or replaced.
    have hconfigured : w.store.bondToken ≠ none := by
      rw [htoken]
      exact Option.some_ne_none token
    exact ⟨⟨id, fun _ => rfl⟩, @Writes.registers _ _ (registered (w.store.getAgent agent) agent
      regionId token amount w.ledger.timestamp) _ hconfigured hrevoked rfl rfl rfl rfl⟩
  | topUpBond =>
    obtain ⟨bond, h₁, rfl⟩ := bind_pure_ok.1 h
    obtain ⟨-, hpos, record, hrecord, token, -, -, -, hbond, totalBonded, -, rfl⟩ :=
      topUpBond_ok.1 h₁
    obtain rfl := hk.agents _ _ hrecord
    exact ⟨⟨id, fun _ => rfl⟩, .of_kept hrecord (.toppedUp hpos hbond) rfl rfl rfl rfl⟩
  | withdrawBond =>
    obtain ⟨bond, h₁, rfl⟩ := bind_pure_ok.1 h
    obtain ⟨-, -, record, hrecord, hstatus, -, token, -, -, -, hbond, totalBonded, -, rfl⟩ :=
      withdrawBond_ok.1 h₁
    obtain rfl := hk.agents _ _ hrecord
    exact ⟨⟨id, fun _ => rfl⟩,
      .of_kept hrecord (.withdrawn (of_decide_eq_true hstatus) hbond) rfl rfl rfl rfl⟩
  | authorizeAgent =>
    obtain ⟨u, h₁, rfl⟩ := bind_pure_ok.1 h
    obtain ⟨-, -, -, record, hrecord, hstatus, region, hregion, hactive, hbond, -, rfl⟩ :=
      authorizeAgent_ok.1 h₁
    obtain rfl := hk.agents _ _ hrecord
    exact ⟨⟨id, fun _ => rfl⟩,
      writes_of_transitioned hrecord (.authorized hstatus hregion hactive hbond)⟩
  | suspendAgent =>
    obtain ⟨u, h₁, rfl⟩ := bind_pure_ok.1 h
    obtain ⟨-, -, -, record, hrecord, -, rfl⟩ := suspendAgent_ok.1 h₁
    obtain rfl := hk.agents _ _ hrecord
    exact ⟨⟨id, fun _ => rfl⟩, writes_of_transitioned hrecord .suspended⟩
  | revokeAgent =>
    obtain ⟨u, h₁, rfl⟩ := bind_pure_ok.1 h
    obtain ⟨-, -, -, record, hrecord, -, rfl⟩ := revokeAgent_ok.1 h₁
    obtain rfl := hk.agents _ _ hrecord
    exact ⟨⟨id, fun _ => rfl⟩, writes_of_transitioned hrecord .revoked⟩
  | slashAgent =>
    obtain ⟨slashed, h₁, rfl⟩ := bind_pure_ok.1 h
    exact writes_of_slashAgent hk h₁
  | _ => exact (administers_of_invoke rfl h).writes hk

/-- A step is quiet, or a successful invocation that writes what it may. -/
theorem step_cases (hk : Keyed w.store) (h : (contract self).lts.step w l w') :
    (contract self).Quiet w l w' ∨ ∃ env c ret ms es, l = .call env c (.done ret ms es) ∧
      Wires w.store w'.store ∧ Writes w.store w'.store c := by
  rcases Contract.step_cases h with hq | ⟨env, c, ret, rfl, -, h⟩
  · exact .inl hq
  · exact .inr ⟨env, c, ret, _, _, rfl, invoke_writes (w := w.clear) hk h⟩

end Registry

end RemitBridge
