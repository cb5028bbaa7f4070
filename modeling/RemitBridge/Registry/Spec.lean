import RemitBridge.Registry.Contract

/-!
# What each entry point of the registry does

For every entry point that touches a record, one lemma says exactly when it succeeds and what
world it leaves.
-/

namespace RemitBridge

namespace Registry

open Exec

variable {ω : Type} {self : Address} {env : Env} {w w' : World ω}

/-! ### Helpers -/

section Helpers

variable {α : Type} {r : α × World ω}

@[simp] theorem getAdmin_bind_ok {f : Address → Exec (World ω) AgentRegistryError α} :
    (getAdmin >>= f) w = .ok r ↔ ∃ a, w.store.admin = some a ∧ f a w = .ok r := by
  simp only [getAdmin, bind_assoc, read_bind, okOr_bind_ok]

@[simp] theorem getBondToken_bind_ok {f : Address → Exec (World ω) AgentRegistryError α} :
    (getBondToken >>= f) w = .ok r ↔ ∃ a, w.store.bondToken = some a ∧ f a w = .ok r := by
  simp only [getBondToken, bind_assoc, read_bind, okOr_bind_ok]

@[simp] theorem getTreasury_bind_ok {f : Address → Exec (World ω) AgentRegistryError α} :
    (getTreasury >>= f) w = .ok r ↔ ∃ a, w.store.treasury = some a ∧ f a w = .ok r := by
  simp only [getTreasury, bind_assoc, read_bind, okOr_bind_ok]

@[simp] theorem requireAdmin_bind_ok {f : Address → Exec (World ω) AgentRegistryError α} :
    (requireAdmin env >>= f) w = .ok r ↔
      ∃ a, w.store.admin = some a ∧ env.signed a = true ∧ f a w = .ok r := by
  simp only [requireAdmin, bind_assoc, getAdmin_bind_ok, requireAuth_bind_ok, pure_bind_apply]

@[simp] theorem loadAgent_bind_ok {a : Address} {f : Agent → Exec (World ω) AgentRegistryError α} :
    (loadAgent a >>= f) w = .ok r ↔
      ∃ record, w.store.getAgent a = some record ∧ f record w = .ok r := by
  simp only [loadAgent, bind_assoc, read_bind, okOr_bind_ok]

@[simp] theorem loadRegion_bind_ok {regionId : Symbol}
    {f : RegionConfig → Exec (World ω) AgentRegistryError α} :
    (loadRegion regionId >>= f) w = .ok r ↔
      ∃ region, w.store.getRegion regionId = some region ∧ f region w = .ok r := by
  simp only [loadRegion, bind_assoc, read_bind, okOr_bind_ok]

@[simp] theorem setAgent_bind {record : Agent} {f : Unit → Exec (World ω) AgentRegistryError α} :
    (setAgent record >>= f) w = f () { w with store := w.store.putAgent record } := rfl

@[simp] theorem setStats_bind {stats : RegistryStats}
    {f : Unit → Exec (World ω) AgentRegistryError α} :
    (setStats stats >>= f) w = f () { w with store := w.store.putStats stats } := rfl

@[simp] theorem setRegion_bind {config : RegionConfig}
    {f : Unit → Exec (World ω) AgentRegistryError α} :
    (setRegion config >>= f) w = f () { w with store := w.store.putRegion config } := rfl

@[simp] theorem moneyOut_bind_ok {token dest : Address} {amount : I128}
    {f : Unit → Exec (World ω) AgentRegistryError α} :
    (moneyOut self env token dest amount >>= f) w = .ok r ↔ 0 < amount.val ∧
      (0 ≤ amount.val ∧ amount.val ≤ w.ledger.balance token self) ∧
      env.accepts ⟨token, self, dest, amount⟩ = true ∧
      f () { w with ledger := w.ledger.move ⟨token, self, dest, amount⟩ } = .ok r := by
  simp only [moneyOut, bind_assoc, refuseIf_bind_ok, transferToken_bind_ok, pure_bind_apply,
    true_or, true_and, not_le]

/-- The world after a lifecycle transition of a record. -/
def transitioned (w : World ω) (record : Agent) (dest : AgentStatus) (reason : Symbol) :
    World ω :=
  { w with
    store := (w.store.putAgent
      { record with status := dest, updatedAt := w.ledger.timestamp }).putStats
        (countTransition w.store.getStats record.status dest)
    events := w.events ++
      [.agentStatusChanged record.address record.regionId record.status dest reason] }

@[simp] theorem applyTransition_bind {record : Agent} {dest : AgentStatus} {reason : Symbol}
    {f : Agent → Exec (World ω) AgentRegistryError α} :
    (applyTransition record dest reason >>= f) w =
      f { record with status := dest, updatedAt := w.ledger.timestamp }
        (transitioned w record dest reason) := rfl

@[simp] theorem countTransition_totalBonded (stats : RegistryStats) (source dest : AgentStatus) :
    (countTransition stats source dest).totalBonded = stats.totalBonded := by
  unfold countTransition
  split_ifs <;> rfl

/-- The record of an agent that registers with a bond: what is remembered of an earlier record is
its number of slashes and the time of its registration. -/
@[simps] def registered (existing : Option Agent) (agent : Address) (regionId : Symbol)
    (bondToken : Address) (bond : I128) (now : U64) : Agent where
  address := agent
  regionId := regionId
  bondToken := bondToken
  bond := bond
  status := .pending
  slashCount := existing.elim 0 Agent.slashCount
  registeredAt := existing.elim now Agent.registeredAt
  updatedAt := now

@[simp] theorem startRecord_bind_ok {existing : Option Agent} {agent : Address}
    {regionId : Symbol} {bondToken : Address} {now : U64}
    {f : Agent → Exec (World ω) AgentRegistryError α} :
    (startRecord existing agent regionId bondToken now >>= f) w = .ok r ↔
      (∀ previous, existing = some previous → previous.status = .revoked) ∧
      f (registered existing agent regionId bondToken 0 now) w = .ok r := by
  cases existing with
  | none => simp [startRecord, registered]
  | some previous =>
    simp only [startRecord]
    split_ifs with h <;> simp [h, registered]

/-- An authorised agent below its region's minimum. -/
def underwater (s : Storage) (record : Agent) : Prop :=
  record.status = .authorized ∧
    ∃ region, s.getRegion record.regionId = some region ∧ region.acceptsBond record.bond = false

/-- What becomes of the record of a slashed agent, and of the world. -/
inductive AfterSlash (w : World ω) (record : Agent) : Agent → World ω → Prop
  | kept : ¬ underwater w.store record → AfterSlash w record record w
  | suspended : underwater w.store record →
      AfterSlash w record { record with status := .suspended, updatedAt := w.ledger.timestamp }
        (transitioned w record .suspended ⟨"underwater"⟩)

theorem suspendUnderwater_bind_ok {record : Agent}
    {f : Agent → Exec (World ω) AgentRegistryError α} :
    (suspendUnderwater record >>= f) w = .ok r ↔
      (record.status = .authorized → (w.store.getRegion record.regionId).isSome = true) ∧
      ∃ record' w₁, AfterSlash w record record' w₁ ∧ f record' w₁ = .ok r := by
  have hkept : ¬ underwater w.store record → ((∃ record' w₁, AfterSlash w record record' w₁ ∧
      f record' w₁ = .ok r) ↔ f record w = .ok r) := fun hu =>
    ⟨fun ⟨_, _, ha, hf⟩ => by cases ha with | kept => exact hf | suspended h => exact absurd h hu,
      fun hf => ⟨_, _, .kept hu, hf⟩⟩
  have hsuspended : underwater w.store record → ((∃ record' w₁, AfterSlash w record record' w₁ ∧
      f record' w₁ = .ok r) ↔
      f { record with status := .suspended, updatedAt := w.ledger.timestamp }
        (transitioned w record .suspended ⟨"underwater"⟩) = .ok r) := fun hu =>
    ⟨fun ⟨_, _, ha, hf⟩ => by cases ha with | kept h => exact absurd hu h | suspended => exact hf,
      fun hf => ⟨_, _, .suspended hu, hf⟩⟩
  unfold suspendUnderwater
  by_cases hs : record.status = .authorized
  · cases hregion : w.store.getRegion record.regionId with
    | none => simp [hs, hregion, bind_assoc]
    | some region =>
      by_cases haccepts : region.acceptsBond record.bond = false
      · rw [hsuspended ⟨hs, region, hregion, haccepts⟩]
        simp [hs, hregion, haccepts, bind_assoc]
      · rw [hkept fun ⟨_, region', hregion', h⟩ =>
          haccepts (Option.some.inj (hregion.symm.trans hregion') ▸ h)]
        simp [hs, hregion, haccepts, bind_assoc]
  · rw [hkept fun h => hs h.1]
    simp [hs]

end Helpers

/-! ### Administration -/

/-- The call sets up or administers the registry and its regions. -/
def Call.configures : Call → Bool
  | initializeContract .. | setAdmin _ | setTreasury _ | addRegion .. | setMinBond ..
  | setRegionActive .. | mapCorridor .. => true
  | _ => false

/-- What such a call does: it writes the first administrator, token and treasury, or another
administrator or treasury, a region or the region of a corridor, and reports it. -/
inductive Administers (w : World ω) : Call → World ω → Prop
  | first {admin bondToken treasury : Address} : w.store.admin = none →
      Administers w (.initializeContract admin bondToken treasury) { w with
        store := (((w.store.putAdmin admin).putBondToken bondToken).putTreasury treasury).putStats
          .zero }
  | admin {previous admin : Address} : w.store.admin = some previous →
      Administers w (.setAdmin admin) { w with
        store := w.store.putAdmin admin
        events := w.events ++ [.adminChanged previous admin] }
  | treasury {admin treasury : Address} : w.store.admin = some admin →
      Administers w (.setTreasury treasury) { w with store := w.store.putTreasury treasury }
  | added {admin : Address} {regionId : Symbol} {minBond : I128} {maxAgents : U32} :
      w.store.admin = some admin → w.store.getRegion regionId = none →
      Administers w (.addRegion regionId minBond maxAgents) { w with
        store := (w.store.putRegion ⟨regionId, minBond, maxAgents, true⟩).pushRegion regionId
        events := w.events ++ [.regionConfigured regionId minBond true] }
  | bounded {admin : Address} {regionId : Symbol} {region : RegionConfig} {minBond : I128} :
      w.store.admin = some admin → w.store.getRegion regionId = some region →
      Administers w (.setMinBond regionId minBond) { w with
        store := w.store.putRegion { region with minBond }
        events := w.events ++ [.regionConfigured regionId minBond region.active] }
  | activated {admin : Address} {regionId : Symbol} {region : RegionConfig} {active : Bool} :
      w.store.admin = some admin → w.store.getRegion regionId = some region →
      Administers w (.setRegionActive regionId active) { w with
        store := w.store.putRegion { region with active }
        events := w.events ++ [.regionConfigured regionId region.minBond active] }
  | mapped {admin : Address} {corridorId regionId : Symbol} : w.store.admin = some admin →
      Administers w (.mapCorridor corridorId regionId) { w with
        store := w.store.putCorridorRegion corridorId regionId
        events := w.events ++ [.corridorMapped corridorId regionId] }

theorem administers_of_invoke {c : Call} {r : Ret} (hc : c.configures = true)
    (h : invoke self env c w = .ok (r, w')) : Administers w c w' := by
  cases c with
  | initializeContract =>
    simp [invoke, initializeContract, bind_assoc] at h
    obtain ⟨hnone, -, -, rfl⟩ := h
    exact .first hnone
  | setAdmin =>
    simp [invoke, setAdmin, bind_assoc] at h
    obtain ⟨previous, hadmin, -, -, rfl⟩ := h
    exact .admin hadmin
  | setTreasury =>
    simp [invoke, setTreasury, bind_assoc] at h
    obtain ⟨admin, hadmin, -, -, rfl⟩ := h
    exact .treasury hadmin
  | addRegion =>
    simp [invoke, addRegion, bind_assoc] at h
    obtain ⟨admin, hadmin, -, -, hnone, -, rfl⟩ := h
    exact .added hadmin hnone
  | setMinBond =>
    simp [invoke, setMinBond, bind_assoc] at h
    obtain ⟨admin, hadmin, -, -, region, hregion, -, rfl⟩ := h
    exact .bounded hadmin hregion
  | setRegionActive =>
    simp [invoke, setRegionActive, bind_assoc] at h
    obtain ⟨admin, hadmin, -, region, hregion, -, rfl⟩ := h
    exact .activated hadmin hregion
  | mapCorridor =>
    simp [invoke, mapCorridor, bind_assoc] at h
    obtain ⟨admin, hadmin, -, region, hregion, -, rfl⟩ := h
    exact .mapped hadmin
  | _ => cases hc

/-! ### Bonds -/

/-- A suspension after a slash changes the status and the time of the record, and the counters of
agents. -/
theorem AfterSlash.kept_eq {record record' : Agent} {w₁ : World ω}
    (h : AfterSlash w record record' w₁) : record'.address = record.address ∧
      record'.bond = record.bond ∧ w₁.ledger = w.ledger ∧
      w₁.store.getStats.totalBonded = w.store.getStats.totalBonded ∧
      ∀ r : Agent,
        w₁.store.agents.insert record'.address r = w.store.agents.insert record'.address r := by
  cases h with
  | kept => exact ⟨rfl, rfl, rfl, rfl, fun _ => rfl⟩
  | suspended => exact ⟨rfl, rfl, rfl, by simp [transitioned], fun r => AList.insert_insert _⟩

theorem AfterSlash.wiring {record record' : Agent} {w₁ : World ω}
    (h : AfterSlash w record record' w₁) : w₁.store.bondToken = w.store.bondToken ∧
      w₁.store.admin = w.store.admin ∧ w₁.store.treasury = w.store.treasury := by
  cases h <;> exact ⟨rfl, rfl, rfl⟩

/-- **Registering.** -/
theorem registerAgent_ok {agent : Address} {regionId : Symbol} {amount : I128} {record : Agent} :
    registerAgent self env agent regionId amount w = .ok (record, w') ↔
      env.signed agent = true ∧ 0 < amount.val ∧ ∃ region,
      w.store.getRegion regionId = some region ∧ region.active = true ∧
      region.acceptsBond amount = true ∧ ∃ token, w.store.bondToken = some token ∧
      (∀ previous, w.store.getAgent agent = some previous → previous.status = .revoked) ∧
      (0 ≤ amount.val ∧ amount.val ≤ w.ledger.balance token agent) ∧
      env.accepts ⟨token, agent, self, amount⟩ = true ∧
      ∃ totalBonded : I128,
        totalBonded.val = w.store.getStats.totalBonded.val + amount.val ∧
      record = registered (w.store.getAgent agent) agent regionId token amount
        w.ledger.timestamp ∧
      w' =
        { store := ((w.store.putAgent (registered (w.store.getAgent agent) agent regionId token
            amount w.ledger.timestamp)).pushRegionAgent regionId agent).putStats
              { w.store.getStats with
                totalAgents := if w.store.getAgent agent = none then
                  w.store.getStats.totalAgents.saturatingAdd 1 else w.store.getStats.totalAgents
                totalBonded }
          ledger := w.ledger.move ⟨token, agent, self, amount⟩
          events := w.events ++ [.agentRegistered agent regionId amount]
          peers := w.peers } := by
  unfold registerAgent
  rw [requireAuth_bind_ok]
  refine and_congr_right fun hs => ?_
  simp [hs, MachineInt.checkedAdd_eq_some]
  exact fun _ => Iff.rfl

/-- **Topping up a bond.** -/
theorem topUpBond_ok {agent : Address} {amount bond : I128} :
    topUpBond self env agent amount w = .ok (bond, w') ↔
      env.signed agent = true ∧ 0 < amount.val ∧ ∃ record,
      w.store.getAgent agent = some record ∧ ∃ token, w.store.bondToken = some token ∧
      (0 ≤ amount.val ∧ amount.val ≤ w.ledger.balance token agent) ∧
      env.accepts ⟨token, agent, self, amount⟩ = true ∧
      bond.val = record.bond.val + amount.val ∧ ∃ totalBonded : I128,
        totalBonded.val = w.store.getStats.totalBonded.val + amount.val ∧
      w' =
        { store := (w.store.putAgent
            { record with bond, updatedAt := w.ledger.timestamp }).putStats
              { w.store.getStats with totalBonded }
          ledger := w.ledger.move ⟨token, agent, self, amount⟩
          events := w.events ++ [.bondToppedUp agent amount bond]
          peers := w.peers } := by
  unfold topUpBond
  rw [requireAuth_bind_ok]
  refine and_congr_right fun hs => ?_
  simp [hs, MachineInt.checkedAdd_eq_some]
  exact fun _ => Iff.rfl

/-- **Withdrawing a bond.** -/
theorem withdrawBond_ok {agent : Address} {amount bond : I128} :
    withdrawBond self env agent amount w = .ok (bond, w') ↔
      env.signed agent = true ∧ 0 < amount.val ∧ ∃ record,
      w.store.getAgent agent = some record ∧ record.status.bondIsWithdrawable = true ∧
      amount ≤ record.bond ∧ ∃ token, w.store.bondToken = some token ∧
      (0 ≤ amount.val ∧ amount.val ≤ w.ledger.balance token self) ∧
      env.accepts ⟨token, self, agent, amount⟩ = true ∧
      bond.val = record.bond.val - amount.val ∧ ∃ totalBonded : I128,
        totalBonded.val = w.store.getStats.totalBonded.val - amount.val ∧
      w' =
        { store := (w.store.putAgent
            { record with bond, updatedAt := w.ledger.timestamp }).putStats
              { w.store.getStats with totalBonded }
          ledger := w.ledger.move ⟨token, self, agent, amount⟩
          events := w.events ++ [.bondWithdrawn agent amount bond]
          peers := w.peers } := by
  unfold withdrawBond
  rw [requireAuth_bind_ok, refuseIf_bind_ok, not_le]
  refine and_congr_right fun _ => and_congr_right fun hpos => ?_
  simp [hpos, MachineInt.checkedSub_eq_some]
  exact Iff.rfl

/-- **Slashing.** -/
theorem slashAgent_ok {agent : Address} {amount slashed : I128} {reason : Symbol} :
    slashAgent self env agent amount reason w = .ok (slashed, w') ↔
      ∃ admin, w.store.admin = some admin ∧ env.signed admin = true ∧ 0 < amount.val ∧
      ∃ record, w.store.getAgent agent = some record ∧ amount ≤ record.bond ∧
      ∃ treasury, w.store.treasury = some treasury ∧
      ∃ bond : I128, bond.val = record.bond.val - amount.val ∧
      (record.status = .authorized → (w.store.getRegion record.regionId).isSome = true) ∧
      ∃ record' w₁, AfterSlash w
        { record with bond, slashCount := record.slashCount.saturatingAdd 1 } record' w₁ ∧
      ∃ token, w₁.store.bondToken = some token ∧
      (0 ≤ amount.val ∧ amount.val ≤ w₁.ledger.balance token self) ∧
      env.accepts ⟨token, self, treasury, amount⟩ = true ∧
      ∃ totalBonded : I128, totalBonded.val = w₁.store.getStats.totalBonded.val - amount.val ∧
      ∃ totalSlashed : I128, totalSlashed.val = w₁.store.getStats.totalSlashed.val + amount.val ∧
      slashed = amount ∧
      w' =
        { store := (w₁.store.putAgent { record' with updatedAt := w₁.ledger.timestamp }).putStats
            { w₁.store.getStats with totalBonded, totalSlashed }
          ledger := w₁.ledger.move ⟨token, self, treasury, amount⟩
          events := w₁.events ++ [.agentSlashed agent amount amount reason]
          peers := w₁.peers } := by
  unfold slashAgent
  simp only [requireAdmin_bind_ok, refuseIf_bind_ok, not_le]
  refine exists_congr fun admin => and_congr_right fun _ => and_congr_right fun _ =>
    and_congr_right fun hpos => ?_
  simp [suspendUnderwater_bind_ok, hpos, MachineInt.checkedSub_eq_some,
    MachineInt.checkedAdd_eq_some]
  exact Iff.rfl

/-! ### The lifecycle -/

/-- **Authorising.** -/
theorem authorizeAgent_ok {agent : Address} {u : Unit} :
    authorizeAgent env agent w = .ok (u, w') ↔
      ∃ admin, w.store.admin = some admin ∧ env.signed admin = true ∧
      ∃ record, w.store.getAgent agent = some record ∧
      (record.status = .pending ∨ record.status = .suspended) ∧
      ∃ region, w.store.getRegion record.regionId = some region ∧ region.active = true ∧
      region.acceptsBond record.bond = true ∧
      (0 < region.maxAgents.val → w.store.countAuthorized record.regionId < region.maxAgents) ∧
      w' = transitioned w record .authorized ⟨"approved"⟩ := by
  unfold authorizeAgent
  simp [or_iff_not_imp_left]

/-- **Suspending.** -/
theorem suspendAgent_ok {agent : Address} {reason : Symbol} {u : Unit} :
    suspendAgent env agent reason w = .ok (u, w') ↔
      ∃ admin, w.store.admin = some admin ∧ env.signed admin = true ∧
      ∃ record, w.store.getAgent agent = some record ∧ record.status ≠ .revoked ∧
      w' = transitioned w record .suspended reason := by
  unfold suspendAgent
  simp

/-- **Revoking.** -/
theorem revokeAgent_ok {agent : Address} {reason : Symbol} {u : Unit} :
    revokeAgent env agent reason w = .ok (u, w') ↔
      ∃ admin, w.store.admin = some admin ∧ env.signed admin = true ∧
      ∃ record, w.store.getAgent agent = some record ∧ record.status ≠ .revoked ∧
      w' = transitioned w record .revoked reason := by
  unfold revokeAgent
  simp

/-! ### What an invocation does to the bonds -/

/-- The bond on an earlier record that a registration writes over. -/
def stranded : Call → Storage → ℤ
  | .registerAgent agent _ _, s => (s.getBond agent).val
  | _, _ => 0

/-- The invocation rewrites at most one record, taking in `delta` units of bond. -/
structure Adjusts (registry : Address) (c : Call) (delta : ℤ) (w w' : World ω) : Prop where
  agents : (w'.store.agents = w.store.agents ∧ delta = 0 ∧ stranded c w.store = 0) ∨
    ∃ record, w'.store.agents = w.store.agents.insert record.address record ∧
      record.bond.val =
        (w.store.getBond record.address).val - stranded c w.store + delta ∧ 0 ≤ record.bond.val
  totalBonded :
    w'.store.getStats.totalBonded.val = w.store.getStats.totalBonded.val + delta
  balance : ∀ token, w.store.bondToken = some token →
    w'.ledger.balance token registry = w.ledger.balance token registry + delta
  bondToken : w'.store.bondToken = w.store.bondToken
  admin : w'.store.admin.isSome
  treasury : w'.store.treasury = w.store.treasury ∨
    ∃ treasury, c = .setTreasury treasury ∧ w'.store.treasury = some treasury

/-- The invariant of the registry's storage. -/
structure WellFormed (registry : Address) (s : Storage) : Prop where
  admin : s.admin.isSome
  treasury : ∀ treasury, s.treasury = some treasury → treasury ≠ registry
  records : Store.All (fun agent record => record.address = agent ∧ 0 ≤ record.bond.val) s.agents

/-- The registry is initialised, every record is kept under its address, and no bond is negative. -/
structure Recorded (s : Storage) : Prop where
  admin : s.admin.isSome
  records : Store.All (fun agent record => record.address = agent ∧ 0 ≤ record.bond.val) s.agents

theorem WellFormed.recorded {registry : Address} {s : Storage} (h : WellFormed registry s) :
    Recorded s := ⟨h.admin, h.records⟩

theorem Recorded.getBond_nonneg {s : Storage} (h : Recorded s) (agent : Address) :
    0 ≤ (s.getBond agent).val := by
  unfold Storage.getBond
  cases ha : s.getAgent agent with
  | none => exact le_rfl
  | some record => exact (h.records _ _ ha).2

section

variable {c : Call}

/-- An invocation that touches neither records nor counters. -/
theorem Adjusts.of_eq (hagents : w'.store.agents = w.store.agents)
    (hstats : w'.store.getStats = w.store.getStats) (hledger : w'.ledger = w.ledger)
    (hbondToken : w'.store.bondToken = w.store.bondToken) (hadmin : w'.store.admin.isSome)
    (hstranded : stranded c w.store = 0)
    (htreasury : w'.store.treasury = w.store.treasury ∨
      ∃ treasury, c = .setTreasury treasury ∧ w'.store.treasury = some treasury) :
    Adjusts self c 0 w w' :=
  ⟨.inl ⟨hagents, rfl, hstranded⟩, by rw [hstats, add_zero], by simp [hledger], hbondToken, hadmin,
    htreasury⟩

theorem Adjusts.transitioned (hw : Recorded w.store) {agent : Address} {record : Agent}
    (h : w.store.getAgent agent = some record) (dest : AgentStatus) (reason : Symbol)
    (hstranded : stranded c w.store = 0) :
    Adjusts self c 0 w (transitioned w record dest reason) := by
  obtain ⟨rfl, hnonneg⟩ := hw.records _ _ h
  refine ⟨.inr ⟨_, rfl, ?_, hnonneg⟩, ?_, fun _ _ => (add_zero _).symm, rfl, hw.admin, .inl rfl⟩
  · simp [Storage.getBond, h, hstranded]
  · simp [Registry.transitioned]

theorem adjusts_of_registerAgent {agent : Address} {regionId : Symbol} {amount : I128}
    {record : Agent} (hw : Recorded w.store) (hs : env.signed self = false)
    (h : registerAgent self env agent regionId amount w = .ok (record, w')) :
    Adjusts self (.registerAgent agent regionId amount) amount.val w w' := by
  obtain ⟨hsigned, hpos, region, -, -, -, token, htoken, -, -, -, totalBonded, htotal, -, rfl⟩ :=
    registerAgent_ok.1 h
  have hne : self ≠ agent := Env.ne_of_signed hs hsigned
  refine ⟨.inr ⟨_, rfl, ?_, hpos.le⟩, htotal, ?_, rfl, hw.admin, .inl rfl⟩
  · simp [stranded]
  · rintro token' htoken'
    obtain rfl := Option.some.inj (htoken.symm.trans htoken')
    exact Ledger.move_balance_dest _ hne

theorem adjusts_of_topUpBond {agent : Address} {amount bond : I128} (hw : Recorded w.store)
    (hs : env.signed self = false) (h : topUpBond self env agent amount w = .ok (bond, w')) :
    Adjusts self (.topUpBond agent amount) amount.val w w' := by
  obtain ⟨hsigned, hpos, record, hrecord, token, htoken, -, -, hbond, totalBonded, htotal, rfl⟩ :=
    topUpBond_ok.1 h
  have hne : self ≠ agent := Env.ne_of_signed hs hsigned
  obtain ⟨rfl, hnonneg⟩ := hw.records _ _ hrecord
  refine ⟨.inr ⟨_, rfl, ?_, by simp only [hbond]; omega⟩, htotal, ?_, rfl, hw.admin, .inl rfl⟩
  · simp [stranded, Storage.getBond, hrecord, hbond]
  · rintro token' htoken'
    obtain rfl := Option.some.inj (htoken.symm.trans htoken')
    exact Ledger.move_balance_dest _ hne

theorem adjusts_of_withdrawBond {agent : Address} {amount bond : I128}
    (hw : Recorded w.store) (hs : env.signed self = false)
    (h : withdrawBond self env agent amount w = .ok (bond, w')) :
    Adjusts self (.withdrawBond agent amount) (-amount.val) w w' := by
  obtain ⟨hsigned, hpos, record, hrecord, -, hle, token, htoken, -, -, hbond, totalBonded, htotal,
    rfl⟩ := withdrawBond_ok.1 h
  have hne : self ≠ agent := Env.ne_of_signed hs hsigned
  obtain ⟨rfl, hnonneg⟩ := hw.records _ _ hrecord
  rw [MachineInt.le_def] at hle
  refine ⟨.inr ⟨_, rfl, ?_, by simp only [hbond]; omega⟩, htotal, ?_, rfl, hw.admin, .inl rfl⟩
  · simp [stranded, Storage.getBond, hrecord, hbond, sub_eq_add_neg]
  · rintro token' htoken'
    obtain rfl := Option.some.inj (htoken.symm.trans htoken')
    exact Ledger.move_balance_source _ hne

/-- What a slash does: the bond on the record goes to the treasury. -/
structure Slashes (registry agent : Address) (amount : I128) (w w' : World ω) : Prop where
  agents : ∃ record, record.address = agent ∧
    w'.store.agents = w.store.agents.insert record.address record ∧
    record.bond.val = (w.store.getBond agent).val - amount.val ∧ 0 ≤ record.bond.val
  totalBonded :
    w'.store.getStats.totalBonded.val = w.store.getStats.totalBonded.val - amount.val
  paid : ∃ token treasury, w.store.bondToken = some token ∧ w.store.treasury = some treasury ∧
    w'.ledger = w.ledger.move ⟨token, registry, treasury, amount⟩
  wiring : w'.store.bondToken = w.store.bondToken ∧ w'.store.admin = w.store.admin ∧
    w'.store.treasury = w.store.treasury

theorem slashes_of_slashAgent {agent : Address} {amount slashed : I128} {reason : Symbol}
    (hw : Recorded w.store)
    (h : slashAgent self env agent amount reason w = .ok (slashed, w')) :
    Slashes self agent amount w w' := by
  obtain ⟨admin, -, -, hpos, record, hrecord, hle, treasury, htreasury, bond, hbond, -, record', w₁,
    hafter, token, htoken, -, -, totalBonded, htotal, totalSlashed, -, -, rfl⟩ := slashAgent_ok.1 h
  obtain ⟨rfl, hnonneg⟩ := hw.records _ _ hrecord
  obtain ⟨haddress, hbond', hledger, hstats, hagents⟩ := hafter.kept_eq
  rw [MachineInt.le_def] at hle
  refine ⟨⟨{ record' with updatedAt := w₁.ledger.timestamp }, haddress, hagents _, ?_, ?_⟩, ?_,
    ⟨token, treasury, hafter.wiring.1 ▸ htoken, htreasury, by rw [hledger]⟩, hafter.wiring⟩
  · simp [Storage.getBond, hrecord, hbond', hbond]
  · simp only [hbond', hbond]
    omega
  · simp [htotal, hstats]

theorem Slashes.adjusts {agent : Address} {amount : I128} {reason : Symbol}
    (h : Slashes self agent amount w w') (hadmin : w.store.admin.isSome)
    (htreasury : w.store.treasury ≠ some self) :
    Adjusts self (.slashAgent agent amount reason) (-amount.val) w w' := by
  obtain ⟨record, rfl, hagents, hbond, hnonneg⟩ := h.agents
  obtain ⟨token, treasury, htoken, htreasury', hledger⟩ := h.paid
  have hne : self ≠ treasury := by
    rintro rfl
    exact htreasury htreasury'
  refine ⟨.inr ⟨record, hagents, ?_, hnonneg⟩, h.totalBonded, ?_, h.wiring.1,
    h.wiring.2.1 ▸ hadmin, .inl h.wiring.2.2⟩
  · simp [hbond, stranded, sub_eq_add_neg]
  · rintro token' htoken'
    obtain rfl := Option.some.inj (htoken.symm.trans htoken')
    rw [hledger]
    exact Ledger.move_balance_source _ hne

theorem Administers.adjusts (h : Administers w c w') (hadmin : w.store.admin.isSome) :
    Adjusts self c 0 w w' := by
  cases h with
  | first hnone =>
    rw [hnone] at hadmin
    cases hadmin
  | admin => exact .of_eq rfl rfl rfl rfl rfl rfl (.inl rfl)
  | treasury => exact .of_eq rfl rfl rfl rfl hadmin rfl (.inr ⟨_, rfl, rfl⟩)
  | _ => exact .of_eq rfl rfl rfl rfl hadmin rfl (.inl rfl)

/-- What an invocation does to the bonds, unless it is a slash in favour of the registry itself. -/
theorem invoke_adjusts_of_recorded {r : Ret} (hw : Recorded w.store) (hs : env.signed self = false)
    (htreasury : ∀ agent amount reason, c = .slashAgent agent amount reason →
      w.store.treasury ≠ some self)
    (h : invoke self env c w = .ok (r, w')) : ∃ delta, Adjusts self c delta w w' := by
  cases c with
  | registerAgent =>
    obtain ⟨record, h₁, rfl⟩ := bind_pure_ok.1 h
    exact ⟨_, adjusts_of_registerAgent hw hs h₁⟩
  | topUpBond =>
    obtain ⟨bond, h₁, rfl⟩ := bind_pure_ok.1 h
    exact ⟨_, adjusts_of_topUpBond hw hs h₁⟩
  | withdrawBond =>
    obtain ⟨bond, h₁, rfl⟩ := bind_pure_ok.1 h
    exact ⟨_, adjusts_of_withdrawBond hw hs h₁⟩
  | authorizeAgent =>
    obtain ⟨u, h₁, rfl⟩ := bind_pure_ok.1 h
    obtain ⟨-, -, -, record, hrecord, -, -, -, -, -, -, rfl⟩ := authorizeAgent_ok.1 h₁
    exact ⟨0, .transitioned hw hrecord _ _ rfl⟩
  | suspendAgent =>
    obtain ⟨u, h₁, rfl⟩ := bind_pure_ok.1 h
    obtain ⟨-, -, -, record, hrecord, -, rfl⟩ := suspendAgent_ok.1 h₁
    exact ⟨0, .transitioned hw hrecord _ _ rfl⟩
  | revokeAgent =>
    obtain ⟨u, h₁, rfl⟩ := bind_pure_ok.1 h
    obtain ⟨-, -, -, record, hrecord, -, rfl⟩ := revokeAgent_ok.1 h₁
    exact ⟨0, .transitioned hw hrecord _ _ rfl⟩
  | slashAgent =>
    obtain ⟨slashed, h₁, rfl⟩ := bind_pure_ok.1 h
    exact ⟨_, (slashes_of_slashAgent hw h₁).adjusts hw.admin (htreasury _ _ _ rfl)⟩
  | _ => exact ⟨0, (administers_of_invoke rfl h).adjusts hw.admin⟩

/-- **What an invocation does to the bonds.** -/
theorem invoke_adjusts {r : Ret} (hw : WellFormed self w.store) (hs : env.signed self = false)
    (h : invoke self env c w = .ok (r, w')) : ∃ delta, Adjusts self c delta w w' :=
  invoke_adjusts_of_recorded hw.recorded hs (fun _ _ _ _ ht => hw.treasury _ ht rfl) h

end

end Registry

end RemitBridge
