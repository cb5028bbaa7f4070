import RemitBridge.Registry.Effects

/-!
# The counters of agents

The registry counts the agents that have ever registered and those that are authorised.  The
counters are exact as long as neither of them saturates, and then the subtraction never stops at
zero (`counters_exact`).
-/

namespace RemitBridge

namespace Registry

open TransitionSystem Store

variable {ω : Type} {self : Address} {w₀ w w' : World ω} {l : Label ω} {ls : List (Label ω)}
  {c : Call} {s s' : Storage}

/-- The number of records of authorised agents. -/
def authorizedTotal (s : Storage) : ℤ :=
  s.agents.total fun _ record => if record.status = .authorized then 1 else 0

/-- The number of records. -/
def agentTotal (s : Storage) : ℤ := s.agents.total fun _ _ => 1

/-- The address that a step registers. -/
def registrant : Label ω → Option Address
  | .call _ (.registerAgent agent _ _) (.done ..) => some agent
  | _ => none

/-- A step that registers nobody does not register `agent`. -/
theorem registrant_ne {l : Label ω} (h : registrant l = none) (agent : Address) :
    registrant l ≠ some agent := by
  intro hsome
  rw [h] at hsome
  cases hsome

/-- A step adds to a counter that has reached its bound. -/
def Saturates (s : Storage) : Label ω → Prop
  | .call _ (.registerAgent agent _ _) (.done ..) =>
    s.getAgent agent = none ∧ s.getStats.totalAgents.val = 2 ^ 32 - 1
  | .call _ (.authorizeAgent _) (.done ..) => s.getStats.authorizedAgents.val = 2 ^ 32 - 1
  | _ => False

/-- An agent is no longer authorised, and the counter is zero already. -/
def Clamps (s s' : Storage) : Prop := s.getStats.authorizedAgents.val = 0 ∧
  ∃ agent, isAuthorizedAnywhere s agent = true ∧ isAuthorizedAnywhere s' agent = false

/-- The counters count the records; there are none before there is an administrator. -/
structure Counted (s : Storage) : Prop where
  total : s.getStats.totalAgents.val = agentTotal s
  authorized : s.getStats.authorizedAgents.val = authorizedTotal s
  wired : s.admin = none → s.bondToken = none ∧ s.agents = ∅

theorem Counted.blank : Counted .blank := ⟨rfl, rfl, fun _ => ⟨rfl, rfl⟩⟩

/-- The number of records is that of the addresses that have one. -/
theorem agentTotal_eq (s : Storage) : agentTotal s = s.agents.keys.length := by
  rw [agentTotal, Store.total, List.map_const', List.sum_replicate, nsmul_one, AList.keys,
    List.keys, List.length_map]

/-- What writing one record does to the number of authorised agents. -/
theorem authorizedTotal_of_insert {agent : Address} {record : Agent}
    (h : s'.agents = s.agents.insert agent record) : authorizedTotal s' = authorizedTotal s -
      (if isAuthorizedAnywhere s agent = true then 1 else 0) +
        if record.status = .authorized then 1 else 0 := by
  rw [authorizedTotal, h, total_insert, authorizedTotal, isAuthorizedAnywhere, Storage.getAgent,
    contribution]
  cases s.agents.lookup agent <;> simp

/-- An authorised agent is counted. -/
theorem one_le_authorizedTotal {agent : Address} (h : isAuthorizedAnywhere s agent = true) :
    1 ≤ authorizedTotal s := by
  obtain ⟨record, hrecord, hstatus⟩ := (Option.any_eq_true _ _).1 h
  have hle : (if record.status = .authorized then 1 else 0) ≤ authorizedTotal s :=
    le_total (f := fun _ (record : Agent) => if record.status = .authorized then (1 : ℤ) else 0)
      (fun _ _ _ => by split_ifs <;> decide) hrecord
  rwa [if_pos (of_decide_eq_true hstatus)] at hle

/-- The counter of authorised agents after one record was rewritten. -/
theorem countTransition_val {stats : RegistryStats} {source dest : AgentStatus}
    (hsource : source = .authorized → 1 ≤ stats.authorizedAgents.val)
    (hdest : source ≠ .authorized → dest = .authorized →
      stats.authorizedAgents.val < 2 ^ 32 - 1) :
    (countTransition stats source dest).authorizedAgents.val = stats.authorizedAgents.val -
      (if source = .authorized then 1 else 0) + if dest = .authorized then 1 else 0 := by
  unfold countTransition
  by_cases hs : source = .authorized
  · have hone := hsource hs
    by_cases hd : dest = .authorized
    · simp [hs, hd]
    · simp [hs, hd, U32.saturatingSub_one_val (show 0 ≤ stats.authorizedAgents.val - 1 by omega)]
  · by_cases hd : dest = .authorized
    · have hlt := hdest hs hd
      simp [hs, hd,
        U32.saturatingAdd_one_val (show stats.authorizedAgents.val + 1 ≤ 2 ^ 32 - 1 by omega)]
    · simp [hs, hd]

/-- Only an authorisation authorises. -/
theorem Rewrites.authorizes {record record' : Agent} (h : Rewrites s c record record')
    (hrecord : record.status ≠ .authorized) (hrecord' : record'.status = .authorized) :
    c = .authorizeAgent record.address := by
  cases h with
  | toppedUp | withdrawn | slashed => exact absurd hrecord' hrecord
  | suspended | revoked | sunk => cases hrecord'
  | authorized => rfl

theorem Counted.of_same (h : Counted s) (hagents : s'.agents = s.agents)
    (hcounts : s'.agentCounts = s.agentCounts) (hwires : Wires s s') : Counted s' := by
  obtain ⟨htotal, hauthorized⟩ := Prod.mk.inj hcounts
  refine ⟨?_, ?_, fun hnone => ?_⟩
  · rw [htotal, h.total, agentTotal, agentTotal, hagents]
  · rw [hauthorized, h.authorized, authorizedTotal, authorizedTotal, hagents]
  · rw [hwires.bondToken hnone, hagents]
    exact h.wired (hwires.admin hnone)

/-- **One invocation.** -/
theorem Counted.writes (h : Counted s) (hwires : Wires s s') (hwrites : Writes s s' c)
    {env : Env} {ret : Ret} {ms : List TokenTransfer} {es : List Event}
    (hsaturates : ¬ Saturates (ω := ω) s (.call env c (.done ret ms es))) : Counted s' := by
  cases hwrites with
  | initializes hnone hagents _ hcounts =>
    -- Before the initialisation there is nobody to count.
    obtain ⟨-, hempty⟩ := h.wired hnone
    obtain ⟨htotal, hauthorized⟩ := Prod.mk.inj hcounts
    rw [hempty] at hagents
    refine ⟨?_, ?_, fun hnone' => ⟨?_, hagents⟩⟩
    · rw [htotal, agentTotal, hagents]
      rfl
    · rw [hauthorized, authorizedTotal, hagents]
      rfl
    · rw [hwires.bondToken hnone']
      exact (h.wired hnone).1
  | administers _ hagents _ hcounts => exact h.of_same hagents hcounts hwires
  | adds _ _ hagents hcounts | bounds _ _ hagents hcounts | activates _ _ hagents hcounts =>
    exact h.of_same hagents hcounts hwires
  | @registers record amount htoken hrevoked hpending hagents _ hcounts =>
    obtain ⟨htotal, hauthorized⟩ := Prod.mk.inj hcounts
    -- A former record was revoked, so nobody loses an authorization.
    have hnone : isAuthorizedAnywhere s record.address = false := by
      rw [isAuthorizedAnywhere]
      cases hprevious : s.getAgent record.address with
      | none => rfl
      | some previous => simp [hrevoked _ hprevious]
    refine ⟨?_, ?_, fun hnone' => absurd (h.wired (hwires.admin hnone')).1 htoken⟩
    · rw [htotal, agentTotal, hagents, total_insert, contribution]
      cases hprevious : s.getAgent record.address with
      | none =>
        have hlt : s.getStats.totalAgents.val ≠ 2 ^ 32 - 1 := fun hmax =>
          hsaturates ⟨hprevious, hmax⟩
        have hle := s.getStats.totalAgents.le_hi
        rw [if_pos rfl, U32.saturatingAdd_one_val (by omega), h.total, agentTotal,
          show s.agents.lookup record.address = none from hprevious]
        simp
      | some previous =>
        rw [if_neg (by simp), h.total, agentTotal,
          show s.agents.lookup record.address = some previous from hprevious]
        simp
    · rw [hauthorized, authorizedTotal_of_insert hagents, hnone, hpending, h.authorized]
      simp
  | @rewrites _ record record' hrecord hrewrites hagents _ hcounts =>
    obtain ⟨htotal, hauthorized⟩ := Prod.mk.inj hcounts
    have hstatus :
        isAuthorizedAnywhere s record.address = decide (record.status = .authorized) := by
      rw [isAuthorizedAnywhere, hrecord]
      rfl
    refine ⟨?_, ?_, fun hnone => ?_⟩
    · rw [htotal, h.total, agentTotal, agentTotal, hagents, total_insert_of_lookup hrecord]
      exact (sub_add_cancel _ _).symm
    -- The counter can take the change: it is not zero before a loss and not full before a gain.
    · have hbefore : record.status = .authorized → 1 ≤ s.getStats.authorizedAgents.val := by
        intro hsource
        rw [h.authorized]
        exact one_le_authorizedTotal (hstatus.trans (decide_eq_true hsource))
      have hroom : record.status ≠ .authorized → record'.status = .authorized →
          s.getStats.authorizedAgents.val < 2 ^ 32 - 1 := by
        intro hsource hdest
        have hle := s.getStats.authorizedAgents.le_hi
        have hne : s.getStats.authorizedAgents.val ≠ 2 ^ 32 - 1 := fun hmax => hsaturates (by
          rw [hrewrites.authorizes hsource hdest]
          exact hmax)
        omega
      rw [hauthorized, countTransition_val hbefore hroom, authorizedTotal_of_insert hagents,
        hstatus, h.authorized]
      simp
    · rw [Storage.getAgent, (h.wired (hwires.admin hnone)).2] at hrecord
      cases hrecord

theorem Counted.step (hk : Keyed w.store) (h : Counted w.store)
    (hst : (contract self).lts.step w l w') (hl : ¬ Saturates w.store l) : Counted w'.store := by
  rcases step_cases hk hst with hq | ⟨env, c, ret, ms, es, rfl, hwires, hwrites⟩
  · exact hq.store ▸ h
  · exact h.writes hwires hwrites hl

/-! ### Runs -/

/-- The addresses with a record after a step. -/
theorem isSome_getAgent_step (hk : Keyed w.store) (hst : (contract self).lts.step w l w')
    (agent : Address) : (w'.store.getAgent agent).isSome = true ↔
      (w.store.getAgent agent).isSome = true ∨ registrant l = some agent := by
  rcases step_cases hk hst with hq | ⟨env, c, ret, ms, es, rfl, -, hwrites⟩
  · rw [hq.store, or_iff_left]
    intro hregistrant
    rcases l with ⟨_, c, _ | _⟩ | _ | _ | _
    · cases hq.succeeded
    · cases c <;> cases hregistrant
    · cases hregistrant
    · cases hregistrant
    · cases hregistrant
  · cases hwrites with
    | initializes _ hagents | adds _ _ hagents | bounds _ _ hagents | activates _ _ hagents =>
      rw [Storage.getAgent, hagents]
      exact (or_iff_left (registrant_ne rfl agent)).symm
    | administers hc hagents =>
      rw [Storage.getAgent, hagents]
      refine (or_iff_left ?_).symm
      cases c with
      | setAdmin | setTreasury | mapCorridor => exact registrant_ne rfl agent
      | _ => cases hc
    | @registers record amount _ _ _ hagents =>
      rw [getAgent_of_insert hagents, registrant, Option.some.injEq]
      by_cases heq : agent = record.address
      · simp [heq]
      · rw [if_neg heq]
        exact (or_iff_left (Ne.symm heq)).symm
    | @rewrites _ record record' hrecord hrewrites hagents =>
      rw [getAgent_of_insert hagents]
      have hnone : registrant (ω := ω) (.call env c (.done ret ms es)) ≠ some agent := by
        cases hrewrites <;> exact registrant_ne rfl agent
      rw [or_iff_left hnone]
      by_cases heq : agent = record.address
      · simp [heq, hrecord]
      · rw [if_neg heq]

theorem isSome_getAgent_of_run (h₀ : w₀.store = .blank) (h : (contract self).lts.Run w₀ ls w)
    (agent : Address) :
    (w.store.getAgent agent).isSome = true ↔ agent ∈ ls.filterMap registrant := by
  induction h with
  | nil =>
    rw [h₀]
    simp [Storage.getAgent, Storage.blank]
  | snoc h hst ih =>
    rw [isSome_getAgent_step (placed_of_run h₀ h).toKeyed hst, ih, List.filterMap_append,
      List.mem_append]
    refine or_congr_right ?_
    simp [List.mem_filterMap]

/-- There are as many records as addresses that have registered. -/
theorem agentTotal_of_run (h₀ : w₀.store = .blank) (h : (contract self).lts.Run w₀ ls w) :
    agentTotal w.store = (ls.filterMap registrant).toFinset.card := by
  rw [agentTotal_eq]
  show ((w.store.agents.entries.keys.length : ℕ) : ℤ) = _
  rw [← List.toFinset_card_of_nodup w.store.agents.nodupKeys]
  refine congrArg (fun s : Finset Address => (s.card : ℤ)) (Finset.ext fun agent => ?_)
  rw [List.mem_toFinset, List.mem_toFinset, ← isSome_getAgent_of_run h₀ h, Storage.getAgent]
  exact AList.lookup_isSome.symm

/-- **The counters of agents.**  While neither of them saturates, the counter of authorised agents
is the number of authorised records, that of agents is the number of addresses that have ever
registered, and nothing is subtracted from a counter that is zero. -/
theorem counters_exact (h₀ : w₀.store = .blank)
    (h : ((contract self).lts.restrict fun w l _ => ¬ Saturates w.store l).Run w₀ ls w) :
    w.store.getStats.authorizedAgents.val = authorizedTotal w.store ∧
    w.store.getStats.totalAgents.val = (ls.filterMap registrant).toFinset.card ∧
    ((contract self).lts.restrict fun w _ w' => ¬ Clamps w.store w'.store).Run w₀ ls w := by
  have hblank : Placed w₀.store ∧ Counted w₀.store := h₀ ▸ ⟨.blank, .blank⟩
  have hstep : ∀ (w : World ω) l w', Placed w.store ∧ Counted w.store →
      ((contract self).lts.restrict fun w l _ => ¬ Saturates w.store l).step w l w' →
      Placed w'.store ∧ Counted w'.store :=
    fun w l w' hw hst => ⟨hw.1.step hst.1, hw.2.step hw.1.toKeyed hst.1 hst.2⟩
  have hcounted : Counted w.store :=
    (h.invariant (I := fun w => Placed w.store ∧ Counted w.store) hblank hstep).2
  refine ⟨hcounted.authorized, ?_, ?_⟩
  · rw [hcounted.total, agentTotal_of_run h₀ h.of_restrict]
  · have hclamps := h.restrict_of_invariant (P := fun w _ w' => ¬ Clamps w.store w'.store) hblank
      hstep fun w l w' hw hst => ?_
    · exact hclamps.mono fun _ _ _ hst => ⟨hst.1.1, hst.2⟩
    · -- Whoever is no longer authorised was counted.
      rintro ⟨hzero, agent, hauthorized, -⟩
      have hone := one_le_authorizedTotal hauthorized
      rw [← hw.2.authorized, hzero] at hone
      exact absurd hone (by decide)

/-- One step adds at most one to each counter. -/
theorem counts_step (hk : Keyed w.store) (hst : (contract self).lts.step w l w') :
    w'.store.getStats.totalAgents.val ≤ w.store.getStats.totalAgents.val + 1 ∧
      w'.store.getStats.authorizedAgents.val ≤ w.store.getStats.authorizedAgents.val + 1 := by
  -- Saturating arithmetic goes up by one at most.
  have hadd : ∀ a : U32, (a.saturatingAdd 1).val ≤ a.val + 1 := fun a => by
    rw [U32.saturatingAdd_one_eq_min]
    exact min_le_left _ _
  have hsub : ∀ a : U32, (a.saturatingSub 1).val ≤ a.val + 1 := fun a => by
    have hlo : 0 ≤ a.val := a.lo_le
    exact max_le (by omega) ((min_le_left _ _).trans (by rw [U32.one_val]; omega))
  have hsame : ∀ {s s' : Storage}, s'.agentCounts = s.agentCounts →
      s'.getStats.totalAgents.val ≤ s.getStats.totalAgents.val + 1 ∧
        s'.getStats.authorizedAgents.val ≤ s.getStats.authorizedAgents.val + 1 := by
    intro s s' h
    obtain ⟨htotal, hauthorized⟩ := Prod.mk.inj h
    rw [htotal, hauthorized]
    omega
  rcases step_cases hk hst with hq | ⟨env, c, ret, ms, es, rfl, -, hwrites⟩
  · exact hsame (by rw [hq.store])
  · cases hwrites with
    | initializes _ _ _ hcounts =>
      obtain ⟨htotal, hauthorized⟩ := Prod.mk.inj hcounts
      rw [htotal, hauthorized]
      have htotal' := w.store.getStats.totalAgents.lo_le
      have hauthorized' := w.store.getStats.authorizedAgents.lo_le
      exact ⟨Int.add_nonneg htotal' (by decide), Int.add_nonneg hauthorized' (by decide)⟩
    | administers _ _ _ hcounts | adds _ _ _ hcounts | bounds _ _ _ hcounts
    | activates _ _ _ hcounts => exact hsame hcounts
    | registers _ _ _ _ _ hcounts =>
      obtain ⟨htotal, hauthorized⟩ := Prod.mk.inj hcounts
      rw [htotal, hauthorized]
      refine ⟨?_, by omega⟩
      split_ifs
      · exact hadd _
      · omega
    | rewrites _ _ _ _ hcounts =>
      obtain ⟨htotal, hauthorized⟩ := Prod.mk.inj hcounts
      rw [htotal, hauthorized, countTransition]
      refine ⟨by omega, ?_⟩
      split_ifs
      · exact hsub _
      · exact hadd _
      · omega

/-- Fewer than 2³² steps make no counter saturate. -/
theorem unsaturated_of_length (h₀ : w₀.store = .blank) (h : (contract self).lts.Run w₀ ls w)
    (hlength : ls.length < 2 ^ 32) :
    ((contract self).lts.restrict fun w l _ => ¬ Saturates w.store l).Run w₀ ls w := by
  have hcounts : ∀ {ls : List (Label ω)} {w : World ω}, (contract self).lts.Run w₀ ls w →
      w.store.getStats.totalAgents.val ≤ ls.length ∧
        w.store.getStats.authorizedAgents.val ≤ ls.length := by
    intro ls w h
    induction h with
    | nil =>
      rw [h₀]
      exact ⟨le_rfl, le_rfl⟩
    | snoc h hst ih =>
      obtain ⟨htotal, hauthorized⟩ := counts_step (placed_of_run h₀ h).toKeyed hst
      rw [List.length_append, List.length_singleton, Nat.cast_add, Nat.cast_one]
      omega
  induction h with
  | nil => exact .nil _
  | @snoc w w' ls l h hst ih =>
    rw [List.length_append, List.length_singleton] at hlength
    refine .snoc (ih (by omega)) ⟨hst, fun hsaturates => ?_⟩
    obtain ⟨htotal, hauthorized⟩ := hcounts h
    rcases l with ⟨_, c, _ | _⟩ | _ | _ | _
    · cases c with
      | registerAgent =>
        have hmax := hsaturates.2
        omega
      | authorizeAgent =>
        have hmax : w.store.getStats.authorizedAgents.val = 2 ^ 32 - 1 := hsaturates
        omega
      | _ => exact hsaturates
    · cases c <;> exact hsaturates
    · exact hsaturates
    · exact hsaturates
    · exact hsaturates

/-! ### An agent that moves -/

theorem counters_exact_sample : Sample.moved.store.getStats.authorizedAgents.val = 1 := by
  have hrun := unsaturated_of_length rfl Sample.moved_run (by decide)
  obtain ⟨hauthorized, -⟩ := counters_exact rfl hrun
  rw [hauthorized]
  decide

end Registry

end RemitBridge
