import RemitBridge.Registry.Solvency
import RemitBridge.Soroban.Journal

/-!
# The journal of the agent registry

The events of the registry and the times of their ledgers tell everything about its storage but
two things: the treasury, and how many agents a region admits.  Replaying the journal of a run
gives the rest of the storage to the last field (`told_eq_replay`).  A slash that suspends an
agent is told in two events.
-/

namespace RemitBridge

namespace Registry

open Exec Contract

variable {ω : Type} {self : Address} {env : Env} {w₀ w w' : World ω} {ls : List (Label ω)}

/-- The region without the number of agents it admits. -/
def withoutMaxAgents (region : RegionConfig) : RegionConfig := { region with maxAgents := 0 }

/-- The storage without the treasury and the numbers of agents that the regions admit. -/
def Storage.told (s : Storage) : Storage :=
  { s with treasury := none, regions := s.regions.mapValues withoutMaxAgents }

/-- The storage after an event that was emitted at the time `now`. -/
def Storage.replay (s : Storage) : U64 × Event → Option Storage
  | (now, .agentRegistered agent regionId amount) => do
    let bondToken ← s.bondToken
    let totalBonded ← s.getStats.totalBonded.checkedAdd amount
    some (((s.putAgent (registered (s.getAgent agent) agent regionId bondToken amount
      now)).pushRegionAgent regionId agent).putStats
        { s.getStats with
          totalAgents := if s.getAgent agent = none then
            s.getStats.totalAgents.saturatingAdd 1 else s.getStats.totalAgents
          totalBonded })
  | (now, .agentStatusChanged agent _ _ dest _) => do
    let record ← s.getAgent agent
    some ((s.putAgent { record with status := dest, updatedAt := now }).putStats
      (countTransition s.getStats record.status dest))
  | (now, .bondToppedUp agent amount bond) => do
    let record ← s.getAgent agent
    let totalBonded ← s.getStats.totalBonded.checkedAdd amount
    some ((s.putAgent { record with bond, updatedAt := now }).putStats
      { s.getStats with totalBonded })
  | (now, .bondWithdrawn agent amount bond) => do
    let record ← s.getAgent agent
    let totalBonded ← s.getStats.totalBonded.checkedSub amount
    some ((s.putAgent { record with bond, updatedAt := now }).putStats
      { s.getStats with totalBonded })
  | (now, .agentSlashed agent _ recovered _) => do
    let record ← s.getAgent agent
    let bond ← record.bond.checkedSub recovered
    let totalBonded ← s.getStats.totalBonded.checkedSub recovered
    let totalSlashed ← s.getStats.totalSlashed.checkedAdd recovered
    some ((s.putAgent { record with
      bond, slashCount := record.slashCount.saturatingAdd 1, updatedAt := now }).putStats
        { s.getStats with totalBonded, totalSlashed })
  | (_, .regionConfigured regionId minBond active) =>
    match s.getRegion regionId with
    | some region => some (s.putRegion { region with minBond, active })
    | none => some ((s.putRegion ⟨regionId, minBond, 0, active⟩).pushRegion regionId)
  | (_, .corridorMapped corridorId regionId) => some (s.putCorridorRegion corridorId regionId)
  | (_, .adminChanged _ next) => some (s.putAdmin next)

/-- The reader that wants to know what the journal tells. -/
@[simps] def reader : Reader Storage Event Storage := ⟨Storage.told, Storage.replay⟩

/-! ### The view -/

section

variable (s : Storage)

@[simp] theorem told_getStats : s.told.getStats = s.getStats := rfl

@[simp] theorem told_getAgent (agent : Address) : s.told.getAgent agent = s.getAgent agent := rfl

@[simp] theorem told_getRegion (regionId : Symbol) :
    s.told.getRegion regionId = (s.getRegion regionId).map withoutMaxAgents :=
  Store.lookup_mapValues _ _ _

@[simp] theorem told_putRegion (region : RegionConfig) :
    (s.putRegion region).told = s.told.putRegion (withoutMaxAgents region) := by
  simp only [Storage.told, Storage.putRegion, Store.mapValues_insert]
  rfl

@[simp] theorem told_pushRegion (regionId : Symbol) :
    (s.pushRegion regionId).told = s.told.pushRegion regionId := rfl

end

/-! ### One invocation -/

/-- A registry that is initialised and keeps every record under its address. -/
def Kept (s : Storage) : Prop :=
  s.admin.isSome ∧ Store.All (fun agent record => record.address = agent) s.agents

theorem Kept.insert {s s' : Storage} {record : Agent} (hk : Kept s)
    (hadmin : s'.admin = s.admin) (hagents : s'.agents = s.agents.insert record.address record) :
    Kept s' := by
  refine ⟨hadmin ▸ hk.1, ?_⟩
  rw [hagents]
  exact hk.2.insert rfl

theorem told_registerAgent {agent : Address} {regionId : Symbol} {amount : I128} {record : Agent}
    (hk : Kept w.store) (h : registerAgent self env agent regionId amount w = .ok (record, w')) :
    reader.Told w w' ∧ Kept w'.store := by
  obtain ⟨-, -, region, -, -, -, token, htoken, -, -, -, total, htotal, -, rfl⟩ :=
    registerAgent_ok.1 h
  have hadd := MachineInt.checkedAdd_eq_some.2 htotal
  have htold : w.store.told.bondToken = some token := htoken
  refine ⟨.single rfl rfl ?_, hk.insert rfl rfl⟩
  simp only [reader_view, reader_apply, Storage.replay, htold, told_getStats, told_getAgent, hadd,
    Option.bind_eq_bind, Option.bind_some]
  rfl

theorem told_topUpBond {agent : Address} {amount bond : I128} (hk : Kept w.store)
    (h : topUpBond self env agent amount w = .ok (bond, w')) :
    reader.Told w w' ∧ Kept w'.store := by
  obtain ⟨-, -, record, hrecord, token, -, -, -, -, total, htotal, rfl⟩ := topUpBond_ok.1 h
  have hadd := MachineInt.checkedAdd_eq_some.2 htotal
  refine ⟨.single rfl rfl ?_, hk.insert rfl rfl⟩
  simp only [reader_view, reader_apply, Storage.replay, told_getStats, told_getAgent, hrecord,
    hadd, Option.bind_eq_bind, Option.bind_some]
  rfl

theorem told_withdrawBond {agent : Address} {amount bond : I128} (hk : Kept w.store)
    (h : withdrawBond self env agent amount w = .ok (bond, w')) :
    reader.Told w w' ∧ Kept w'.store := by
  obtain ⟨-, -, record, hrecord, -, -, token, -, -, -, -, total, htotal, rfl⟩ := withdrawBond_ok.1 h
  have hsub := MachineInt.checkedSub_eq_some.2 htotal
  refine ⟨.single rfl rfl ?_, hk.insert rfl rfl⟩
  simp only [reader_view, reader_apply, Storage.replay, told_getStats, told_getAgent, hrecord,
    hsub, Option.bind_eq_bind, Option.bind_some]
  rfl

/-- A transition is told, if the reader knows the record with its status before it. -/
theorem told_transitioned {agent : Address} {record : Agent} {dest : AgentStatus}
    {reason : Symbol} (hk : Kept w.store) (hrecord : w.store.getAgent agent = some record) :
    reader.Told w (transitioned w record dest reason) ∧
      Kept (transitioned w record dest reason).store := by
  obtain rfl : record.address = agent := hk.2 _ _ hrecord
  refine ⟨.single rfl rfl ?_, hk.insert rfl rfl⟩
  simp only [reader_view, reader_apply, Storage.replay, told_getStats, told_getAgent, hrecord,
    Option.bind_eq_bind, Option.bind_some]
  rfl

theorem told_slashAgent {agent : Address} {amount slashed : I128} {reason : Symbol}
    (hk : Kept w.store) (h : slashAgent self env agent amount reason w = .ok (slashed, w')) :
    reader.Told w w' ∧ Kept w'.store := by
  obtain ⟨admin, -, -, -, record, hrecord, -, treasury, -, bond, hbond, -, record', w₁, hafter,
    token, -, -, -, totalBonded, htotal, totalSlashed, hslashed, -, rfl⟩ := slashAgent_ok.1 h
  obtain rfl : record.address = agent := hk.2 _ _ hrecord
  have hsub := MachineInt.checkedSub_eq_some.2 hbond
  have hbonded := MachineInt.checkedSub_eq_some.2 htotal
  have hadd := MachineInt.checkedAdd_eq_some.2 hslashed
  cases hafter with
  | kept =>
    refine ⟨.single rfl rfl ?_, hk.insert rfl rfl⟩
    simp only [reader_view, reader_apply, Storage.replay, told_getStats, told_getAgent, hrecord,
      hsub, hbonded, hadd, Option.bind_eq_bind, Option.bind_some]
    rfl
  | suspended =>
    -- The first event suspends the agent, the second takes its bond.
    have hfirst : reader.Told w (transitioned w record .suspended ⟨"underwater"⟩) :=
      (told_transitioned hk hrecord).1
    refine ⟨hfirst.trans (.single rfl rfl ?_), hk.1, (hk.2.insert rfl).insert rfl⟩
    have hagent : (transitioned w record .suspended ⟨"underwater"⟩).store.getAgent record.address =
        some { record with status := .suspended, updatedAt := w.ledger.timestamp } :=
      AList.lookup_insert _
    have hbonded' : (transitioned w record .suspended
      ⟨"underwater"⟩).store.getStats.totalBonded.checkedSub amount = some totalBonded := hbonded
    have hadd' : (transitioned w record .suspended
      ⟨"underwater"⟩).store.getStats.totalSlashed.checkedAdd amount = some totalSlashed := hadd
    simp only [reader_view, reader_apply, Storage.replay, told_getStats, told_getAgent, hagent,
      hsub, hbonded', hadd', Option.bind_eq_bind, Option.bind_some]
    simp [transitioned, Storage.told, Storage.putAgent, Storage.putStats, Storage.getStats]

theorem told_administration {c : Call} (hk : Kept w.store) (h : Administers w c w') :
    reader.Told w w' ∧ Kept w'.store := by
  cases h with
  | first hnone =>
    have hadmin := hk.1
    rw [hnone] at hadmin
    cases hadmin
  | admin => exact ⟨.single rfl rfl rfl, rfl, hk.2⟩
  | treasury => exact ⟨.silent rfl rfl rfl, hk⟩
  | added _ hnone =>
    refine ⟨.single rfl rfl ?_, hk⟩
    simp only [reader_view, reader_apply, Storage.replay, told_getRegion, hnone, Option.map_none,
      told_pushRegion, told_putRegion]
    rfl
  | bounded _ hregion =>
    refine ⟨.single rfl rfl ?_, hk⟩
    simp only [reader_view, reader_apply, Storage.replay, told_getRegion, hregion, Option.map_some,
      told_putRegion]
    rfl
  | activated _ hregion =>
    refine ⟨.single rfl rfl ?_, hk⟩
    simp only [reader_view, reader_apply, Storage.replay, told_getRegion, hregion, Option.map_some,
      told_putRegion]
    rfl
  | mapped => exact ⟨.single rfl rfl rfl, hk⟩

/-- **What an invocation tells.** -/
theorem told_of_invoke {c : Call} {r : Ret} (hk : Kept w.store)
    (h : invoke self env c w = .ok (r, w')) : reader.Told w w' ∧ Kept w'.store := by
  cases c with
  | registerAgent =>
    obtain ⟨record, h₁, rfl⟩ := bind_pure_ok.1 h
    exact told_registerAgent hk h₁
  | topUpBond =>
    obtain ⟨bond, h₁, rfl⟩ := bind_pure_ok.1 h
    exact told_topUpBond hk h₁
  | withdrawBond =>
    obtain ⟨bond, h₁, rfl⟩ := bind_pure_ok.1 h
    exact told_withdrawBond hk h₁
  | authorizeAgent =>
    obtain ⟨u, h₁, rfl⟩ := bind_pure_ok.1 h
    obtain ⟨-, -, -, record, hrecord, -, -, -, -, -, -, rfl⟩ := authorizeAgent_ok.1 h₁
    exact told_transitioned hk hrecord
  | suspendAgent =>
    obtain ⟨u, h₁, rfl⟩ := bind_pure_ok.1 h
    obtain ⟨-, -, -, record, hrecord, -, rfl⟩ := suspendAgent_ok.1 h₁
    exact told_transitioned hk hrecord
  | revokeAgent =>
    obtain ⟨u, h₁, rfl⟩ := bind_pure_ok.1 h
    obtain ⟨-, -, -, record, hrecord, -, rfl⟩ := revokeAgent_ok.1 h₁
    exact told_transitioned hk hrecord
  | slashAgent =>
    obtain ⟨slashed, h₁, rfl⟩ := bind_pure_ok.1 h
    exact told_slashAgent hk h₁
  | _ => exact told_administration hk (administers_of_invoke rfl h)

theorem reader_follows : reader.Follows (contract (ω := ω) self) Kept :=
  fun _ _ _ _ _ hk h => told_of_invoke hk h

/-! ### Whole runs -/

/-- **What the journal of the registry tells.**  From the time the registry is initialised,
replaying the events of a run gives the storage that the run leaves, but for the treasury and the
numbers of agents that the regions admit. -/
theorem told_eq_replay (h₀ : Kept w₀.store) (h : (contract self).lts.Run w₀ ls w) :
    reader.replay w₀.store.told (journal w₀.ledger.timestamp ls) = some w.store.told :=
  Reader.replay_journal reader_follows h₀ h

theorem told_eq_replay_sample :
    reader.replay Sample.start.store.told (journal Sample.start.ledger.timestamp
      ((contract ⟨0⟩).trace Sample.start Sample.script)) =
        some ((contract ⟨0⟩).play Sample.start Sample.script).store.told :=
  told_eq_replay ⟨rfl, Store.all_empty _⟩ (Contract.play_run Sample.script rfl)

/-- **What it does not tell.**  A new treasury is not announced, and whatever number of agents a
new region admits, the events are the same. -/
theorem treasury_and_max_agents_untold {admin treasury : Address} {regionId : Symbol}
    {minBond : I128} {a b : U32} (hadmin : w.store.admin = some admin)
    (hsigned : env.signed admin = true) (hbond : 0 ≤ minBond.val)
    (hnone : w.store.getRegion regionId = none) :
    (∃ w', setTreasury env treasury w = .ok ((), w') ∧ w'.events = w.events ∧
      w'.store.treasury = some treasury) ∧
    ∃ wa wb, addRegion env regionId minBond a w = .ok ((), wa) ∧
      addRegion env regionId minBond b w = .ok ((), wb) ∧ wa.events = wb.events ∧
      wa.store.getRegion regionId = some ⟨regionId, minBond, a, true⟩ ∧
      wb.store.getRegion regionId = some ⟨regionId, minBond, b, true⟩ := by
  have hadd : ∀ n : U32, addRegion env regionId minBond n w = .ok ((), { w with
      store := (w.store.putRegion ⟨regionId, minBond, n, true⟩).pushRegion regionId
      events := w.events ++ [.regionConfigured regionId minBond true] }) := fun n => by
    simp [addRegion, hadmin, hsigned, hbond, hnone]
  refine ⟨⟨{ w with store := w.store.putTreasury treasury }, ?_, rfl, rfl⟩, _, _, hadd a, hadd b,
    rfl, AList.lookup_insert _, AList.lookup_insert _⟩
  simp [setTreasury, hadmin, hsigned]

end Registry

end RemitBridge
