import RemitBridge.Indexer.Poison
import RemitBridge.Registry.Standing

/-!
# The status of agents in the read model

The registry tells in its events what becomes of the status of an agent, and the indexer is meant
to copy it.  A status travels as a vector of one symbol, but the indexer looks for a string; so it
never changes a status, and the rows of the agents have the statuses of their records only if they
had them before (`agent_status_iff`).
-/

namespace RemitBridge

namespace Indexer

open TransitionSystem

variable {K : StrKey} {cfg : Config} {db db' : Database} {events : List ContractEvent} {ω : Type}
  {self : Address} {w₀ w : Registry.World ω} {ls : List (Registry.Label ω)}

def ContractEvent.ofRegistry : ContractEvent → Option Registry.Event
  | registry e => some e
  | _ => none

/-- The rows of the agents that have a record have the status on the record. -/
def StatusAgrees (K : StrKey) (db : Database) (s : Registry.Storage) : Prop :=
  ∀ agent, ∀ row ∈ db.agents, row.stellarAddress = K.encode agent →
    ∀ status, s.statusOf agent = some status → row.status = status

/-- **Statuses in the read model.**  Once the events of a run of the registry have been indexed, the
rows of the agents have the statuses on the records exactly if each row had, before that, the status
that the last of the events about the agent gives it. -/
theorem agent_status_iff (h₀ : w₀.store = .blank) (h : (Registry.contract self).lts.Run w₀ ls w)
    (hevents : events.filterMap ContractEvent.ofRegistry = ls.flatMap Action.events)
    (hindexed : Indexed K cfg db events db') : StatusAgrees K db' w.store ↔
      ∀ agent, ∀ row ∈ db.agents, row.stellarAddress = K.encode agent → ∀ status,
        Registry.lastStatus agent (events.filterMap ContractEvent.ofRegistry) = some status →
        row.status = status := by
  simp only [StatusAgrees, hindexed.agents, Registry.status_eq_lastStatus h₀ h, hevents]

/-! ### An agent that is authorised -/

namespace Sample

/-- The agent registers, is revoked, registers again and is authorised. -/
def registryEvents : List ContractEvent :=
  (Registry.Sample.moveTrace.flatMap Action.events).map .registry

/-- The row of the agent, as an operator has entered it. -/
def entered (status : AgentStatus) : Database :=
  { fresh with agents :=
    [⟨"agent", strKey.encode Registry.Sample.agent, status, none, none, none⟩] }

/-- The database with the events indexed. -/
def afterwards (status : AgentStatus) : Database :=
  (indexInOrder strKey environment "registry" 1 (entered status) registryEvents).getD fresh

theorem afterwards_indexed (status : AgentStatus) :
    Indexed strKey environment (entered status) registryEvents (afterwards status) := by
  have hindexed : ∃ db, indexInOrder strKey environment "registry" 1 (entered status)
      registryEvents = some db := by
    rw [← Option.isSome_iff_exists]
    cases status <;> decide +kernel
  obtain ⟨db, hdb⟩ := hindexed
  rw [afterwards, hdb]
  exact indexed_of_indexInOrder .nil hdb

end Sample

/-- The record says that the agent is authorised, and the row that it is pending. -/
theorem not_agent_status_sample : Registry.Sample.blank.store = .blank ∧
    (Registry.contract ⟨0⟩).lts.Run Registry.Sample.blank Registry.Sample.moveTrace
      Registry.Sample.moved ∧
    Sample.registryEvents = (Registry.Sample.moveTrace.flatMap Action.events).map .registry ∧
    Indexed Sample.strKey Sample.environment (Sample.entered .pending) Sample.registryEvents
      (Sample.afterwards .pending) ∧
    ¬ StatusAgrees Sample.strKey (Sample.afterwards .pending) Registry.Sample.moved.store := by
  refine ⟨rfl, Registry.Sample.moved_run, rfl, Sample.afterwards_indexed _, fun hagrees => ?_⟩
  have hrow : (⟨"agent", Sample.strKey.encode Registry.Sample.agent, .pending, none, none, none⟩ :
      AgentRow) ∈ (Sample.afterwards .pending).agents := by
    rw [(Sample.afterwards_indexed .pending).agents]
    exact List.mem_singleton_self _
  exact absurd (hagrees _ _ hrow rfl .authorized (by decide)) (by decide)

/-- An operator had entered the status by hand. -/
theorem agent_status_iff_sample :
    StatusAgrees Sample.strKey (Sample.afterwards .authorized) Registry.Sample.moved.store := by
  refine (agent_status_iff rfl Registry.Sample.moved_run (by decide +kernel)
    (Sample.afterwards_indexed _)).2 fun agent row hrow haddress status hstatus => ?_
  obtain rfl := List.mem_singleton.1 hrow
  obtain rfl := Sample.strKey.injective haddress
  have hlast : Registry.lastStatus Registry.Sample.agent (Sample.registryEvents.filterMap
      ContractEvent.ofRegistry) = some .authorized := by decide +kernel
  exact Option.some.inj (hlast.symm.trans hstatus)

end Indexer

end RemitBridge
