import RemitBridge.Data.Log
import RemitBridge.Registry.Regions

/-!
# What the events say of an agent's status

Two kinds of events tell the status of an agent: a registration, which makes it pending, and a
change of status, which names the new one.  The last of them that is about the agent gives the
status on its record (`status_eq_lastStatus`).
-/

namespace RemitBridge

namespace Registry

open TransitionSystem Exec

variable {ω : Type} {self : Address} {env : Env} {w₀ w w' : World ω} {ls : List (Label ω)}
  {agent : Address} {record : Agent} {es : List Event}

/-- The status on the record of an agent. -/
def Storage.statusOf (s : Storage) (agent : Address) : Option AgentStatus :=
  (s.getAgent agent).map Agent.status

/-- The status that an event gives to an agent. -/
def Event.statusFor (agent : Address) : Event → Option AgentStatus
  | agentRegistered a _ _ => if a = agent then some .pending else none
  | agentStatusChanged a _ _ dest _ => if a = agent then some dest else none
  | _ => none

/-- The last status that the events give to an agent. -/
def lastStatus (agent : Address) (es : List Event) : Option AgentStatus :=
  Log.last (Event.statusFor agent) es

/-! ### One invocation -/

/-- The events added by an invocation tell what becomes of the status of every agent. -/
def Announces (w w' : World ω) : Prop :=
  ∃ es, w'.events = w.events ++ es ∧
    ∀ agent, w'.store.statusOf agent = (lastStatus agent es).or (w.store.statusOf agent)

theorem Announces.of_agents (es : List Event) (hagents : w'.store.agents = w.store.agents)
    (hevents : w'.events = w.events ++ es) (hes : ∀ agent, lastStatus agent es = none) :
    Announces w w' := by
  refine ⟨es, hevents, fun agent => ?_⟩
  rw [hes, Option.none_or, Storage.statusOf, Storage.getAgent, hagents]
  rfl

/-- A record is written, and the event tells its status. -/
theorem Announces.of_insert {e : Event} (record' : Agent)
    (hagents : w'.store.agents = w.store.agents.insert agent record')
    (hevents : w'.events = w.events ++ [e])
    (he : ∀ a, (e.statusFor a).or (w.store.statusOf a) =
      if a = agent then some record'.status else w.store.statusOf a) : Announces w w' := by
  refine ⟨[e], hevents, fun a => ?_⟩
  rw [lastStatus, Log.last_singleton, he, Storage.statusOf, getAgent_of_insert hagents]
  split_ifs <;> rfl

theorem Announces.trans {w₁ : World ω} (h : Announces w w₁) (h' : Announces w₁ w') :
    Announces w w' := by
  obtain ⟨es, hes, hstatus⟩ := h
  obtain ⟨es', hes', hstatus'⟩ := h'
  refine ⟨es ++ es', by rw [hes', hes, List.append_assoc], fun agent => ?_⟩
  rw [hstatus', hstatus, lastStatus, lastStatus, lastStatus, Log.last_append, Option.or_assoc]

/-- The status on a record that is stored under its own name. -/
theorem statusOf_of_getAgent (h : w.store.getAgent agent = some record) :
    w.store.statusOf agent = some record.status := by
  rw [Storage.statusOf, h]
  rfl

/-- Nothing is said of an agent whose record keeps its status. -/
theorem Announces.of_kept {e : Event} (record' : Agent) (hagent : record.address = agent)
    (hrecord : w.store.getAgent agent = some record) (haddress : record'.address = record.address)
    (hstatus : record'.status = record.status)
    (hagents : w'.store.agents = w.store.agents.insert record'.address record')
    (hevents : w'.events = w.events ++ [e]) (he : ∀ a, e.statusFor a = none) :
    Announces w w' := by
  subst hagent
  refine .of_insert record' (haddress ▸ hagents) hevents fun a => ?_
  rw [he, Option.none_or]
  split_ifs with ha
  · rw [ha, statusOf_of_getAgent hrecord, hstatus]
  · rfl

theorem announces_of_transitioned (record : Agent) (dest : AgentStatus) (reason : Symbol) :
    Announces w (transitioned w record dest reason) := by
  refine .of_insert { record with status := dest, updatedAt := w.ledger.timestamp } rfl rfl
    fun a => ?_
  rw [Event.statusFor]
  by_cases ha : record.address = a
  · rw [if_pos ha, if_pos ha.symm]
    rfl
  · rw [if_neg ha, if_neg (Ne.symm ha)]
    rfl

theorem announces_of_registerAgent {regionId : Symbol} {amount : I128}
    (h : registerAgent self env agent regionId amount w = .ok (record, w')) : Announces w w' := by
  obtain ⟨-, -, region, -, -, -, token, -, -, -, -, totalBonded, -, -, rfl⟩ := registerAgent_ok.1 h
  refine .of_insert (registered (w.store.getAgent agent) agent regionId token amount
    w.ledger.timestamp) rfl rfl fun a => ?_
  rw [Event.statusFor, registered_address, registered_status]
  by_cases ha : agent = a
  · rw [if_pos ha, if_pos ha.symm]
    rfl
  · rw [if_neg ha, if_neg (Ne.symm ha)]
    rfl

theorem announces_of_slashAgent {amount slashed : I128} {reason : Symbol} (hk : Keyed w.store)
    (h : slashAgent self env agent amount reason w = .ok (slashed, w')) : Announces w w' := by
  obtain ⟨admin, -, -, -, record, hrecord, -, treasury, -, bond, -, -, record', w₁, hafter, token,
    -, -, -, totalBonded, -, totalSlashed, -, -, rfl⟩ := slashAgent_ok.1 h
  obtain rfl := hk.agents _ _ hrecord
  cases hafter with
  | kept =>
    refine .of_kept _ rfl hrecord ?_ ?_ rfl rfl fun _ => rfl
    · exact rfl
    · exact rfl
  | suspended =>
    -- The suspension announces itself, and the slash then leaves the status alone.
    have hsuspended := announces_of_transitioned (w := w)
      { record with bond, slashCount := record.slashCount.saturatingAdd 1 } .suspended
      ⟨"underwater"⟩
    refine hsuspended.trans (.of_kept _ rfl (AList.lookup_insert _) ?_ ?_ rfl rfl fun _ => rfl)
    · exact rfl
    · exact rfl

theorem Administers.announces {c : Call} (h : Administers w c w') : Announces w w' := by
  cases h with
  | first => exact .of_agents [] rfl (List.append_nil _).symm fun _ => rfl
  | treasury => exact .of_agents [] rfl (List.append_nil _).symm fun _ => rfl
  | _ => exact .of_agents [_] rfl rfl fun _ => rfl

/-- **What an invocation announces.** -/
theorem invoke_announces {c : Call} {r : Ret} (hk : Keyed w.store)
    (h : invoke self env c w = .ok (r, w')) : Announces w w' := by
  cases c with
  | registerAgent agent regionId amount =>
    obtain ⟨record, h₁, rfl⟩ := bind_pure_ok.1 h
    exact announces_of_registerAgent h₁
  | topUpBond =>
    obtain ⟨bond, h₁, rfl⟩ := bind_pure_ok.1 h
    obtain ⟨-, -, record, hrecord, token, -, -, -, -, totalBonded, -, rfl⟩ := topUpBond_ok.1 h₁
    exact .of_kept { record with bond, updatedAt := w.ledger.timestamp } (hk.agents _ _ hrecord)
      hrecord rfl rfl rfl rfl fun _ => rfl
  | withdrawBond =>
    obtain ⟨bond, h₁, rfl⟩ := bind_pure_ok.1 h
    obtain ⟨-, -, record, hrecord, -, -, token, -, -, -, -, totalBonded, -, rfl⟩ :=
      withdrawBond_ok.1 h₁
    exact .of_kept { record with bond, updatedAt := w.ledger.timestamp } (hk.agents _ _ hrecord)
      hrecord rfl rfl rfl rfl fun _ => rfl
  | authorizeAgent =>
    obtain ⟨u, h₁, rfl⟩ := bind_pure_ok.1 h
    obtain ⟨-, -, -, record, -, -, -, -, -, -, -, rfl⟩ := authorizeAgent_ok.1 h₁
    exact announces_of_transitioned _ _ _
  | suspendAgent =>
    obtain ⟨u, h₁, rfl⟩ := bind_pure_ok.1 h
    obtain ⟨-, -, -, record, -, -, rfl⟩ := suspendAgent_ok.1 h₁
    exact announces_of_transitioned _ _ _
  | revokeAgent =>
    obtain ⟨u, h₁, rfl⟩ := bind_pure_ok.1 h
    obtain ⟨-, -, -, record, -, -, rfl⟩ := revokeAgent_ok.1 h₁
    exact announces_of_transitioned _ _ _
  | slashAgent =>
    obtain ⟨slashed, h₁, rfl⟩ := bind_pure_ok.1 h
    exact announces_of_slashAgent hk h₁
  | _ => exact (administers_of_invoke rfl h).announces

/-! ### Runs -/

theorem status_step (hk : Keyed w.store) {l : Label ω} (h : (contract self).lts.step w l w') :
    w'.store.statusOf agent = (lastStatus agent l.events).or (w.store.statusOf agent) := by
  rcases Contract.events_of_step h with ⟨hstore, hevents⟩ | ⟨env, c, r, hevents, -, h⟩
  · rw [hstore, hevents]
    rfl
  · obtain ⟨es, hes, hstatus⟩ := invoke_announces (w := w.clear) hk h
    rw [hevents, show w'.events = es from hes, hstatus]
    rfl

/-- **Statuses and events.**  The status on the record of an agent is the last one that the events
of the run give to it. -/
theorem status_eq_lastStatus (h₀ : w₀.store = .blank) (h : (contract self).lts.Run w₀ ls w) :
    w.store.statusOf agent = lastStatus agent (ls.flatMap Action.events) := by
  induction h with
  | nil =>
    rw [h₀]
    rfl
  | snoc h hst ih =>
    rw [status_step (placed_of_run h₀ h).toKeyed hst, ih, List.flatMap_append, lastStatus,
      lastStatus, lastStatus, Log.last_append, List.flatMap_singleton]

end Registry

end RemitBridge
