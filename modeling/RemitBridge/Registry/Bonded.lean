import RemitBridge.Registry.Effects

/-!
# Authorised agents are bonded

The bond of an authorised agent is at least its region's minimum, unless the minimum has been raised
since (`authorized_bonded`).  The bond falls by a slash, which suspends whoever it leaves below the
minimum, and by a withdrawal, which is refused to authorised agents.
-/

namespace RemitBridge

namespace Registry

open TransitionSystem

variable {ω : Type} {self : Address} {w₀ w w' : World ω} {l : Label ω} {ls : List (Label ω)}
  {c : Call} {s s' : Storage} {agent : Address} {regionId corridorId : Symbol}

/-- A step raises the minimum of a region. -/
def RaisesMinimum (s : Storage) : Label ω → Prop
  | .call _ (.setMinBond regionId minBond) (.done ..) =>
    ∃ region, s.getRegion regionId = some region ∧ region.minBond < minBond
  | _ => False

/-- Every authorised agent has the bond that its region requires. -/
def Bonded (s : Storage) : Prop := ∀ agent record, s.getAgent agent = some record →
  record.status = .authorized →
  ∃ region, s.getRegion record.regionId = some region ∧ region.minBond ≤ record.bond

/-- The agent is authorised in the region, which is active. -/
def AuthorizedIn (s : Storage) (agent : Address) (regionId : Symbol) : Prop :=
  ∃ record region, s.getAgent agent = some record ∧ record.status = .authorized ∧
    record.regionId = regionId ∧ s.getRegion regionId = some region ∧ region.active = true

/-- Whoever becomes authorised by a step is authorised by it, having been pending or suspended in an
active region. -/
def AuthorizesOnly (s : Storage) (l : Label ω) (s' : Storage) : Prop := ∀ agent,
  isAuthorizedAnywhere s agent = false → isAuthorizedAnywhere s' agent = true →
  ∃ env ret ms es record region, l = .call env (.authorizeAgent agent) (.done ret ms es) ∧
    s.getAgent agent = some record ∧ (record.status = .pending ∨ record.status = .suspended) ∧
    s.getRegion record.regionId = some region ∧ region.active = true

/-! ### The bond -/

theorem Bonded.blank : Bonded .blank := fun agent record h => by
  simp [Storage.getAgent, Storage.blank] at h

theorem Bonded.of_same (h : Bonded s) (hagents : s'.agents = s.agents)
    (hregions : ∀ regionId region, s.getRegion regionId = some region →
      ∃ region', s'.getRegion regionId = some region' ∧ region'.minBond ≤ region.minBond) :
    Bonded s' := by
  intro agent record hrecord hstatus
  rw [Storage.getAgent, hagents] at hrecord
  obtain ⟨region, hregion, hbond⟩ := h agent record hrecord hstatus
  obtain ⟨region', hregion', hle⟩ := hregions _ _ hregion
  exact ⟨region', hregion', hle.trans hbond⟩

/-- A region that is written over, with a minimum that is not higher. -/
theorem getRegion_of_insert {config region : RegionConfig}
    (hregions : s'.regions = s.regions.insert regionId config)
    (hconfig : ∀ old, s.getRegion regionId = some old → config.minBond ≤ old.minBond)
    {regionId' : Symbol} (hregion : s.getRegion regionId' = some region) :
    ∃ region', s'.getRegion regionId' = some region' ∧ region'.minBond ≤ region.minBond := by
  rw [Storage.getRegion, hregions, Store.lookup_insert_ite]
  by_cases heq : regionId' = regionId
  · subst heq
    exact ⟨config, if_pos rfl, hconfig region hregion⟩
  · exact ⟨region, by rwa [if_neg heq], le_rfl⟩

/-- An agent that is authorised after its record was rewritten has its bond. -/
theorem Rewrites.bonded {record record' : Agent} (h : Rewrites s c record record')
    (hstatus : record'.status = .authorized)
    (hrecord : record.status = .authorized →
      ∃ region, s.getRegion record.regionId = some region ∧ region.minBond ≤ record.bond) :
    ∃ region, s.getRegion record'.regionId = some region ∧ region.minBond ≤ record'.bond := by
  cases h with
  | @toppedUp record amount bond now hpos hbond =>
    obtain ⟨region, hregion, hle⟩ := hrecord hstatus
    have hgrown : record.bond ≤ bond := by
      rw [MachineInt.le_def]
      omega
    exact ⟨region, hregion, hle.trans hgrown⟩
  | withdrawn hne => exact absurd hstatus hne
  | authorized _ hregion _ haccepts => exact ⟨_, hregion, of_decide_eq_true haccepts⟩
  | suspended | revoked | sunk => cases hstatus
  | slashed _ hdry =>
    obtain ⟨region, hregion, -⟩ := hrecord hstatus
    refine ⟨region, hregion, ?_⟩
    by_contra hlow
    exact hdry ⟨hstatus, region, hregion, decide_eq_false hlow⟩

/-- **One invocation.** -/
theorem Bonded.writes (h : Bonded s) (hwrites : Writes s s' c)
    {env : Env} {ret : Ret} {ms : List TokenTransfer} {es : List Event}
    (hraises : ¬ RaisesMinimum (ω := ω) s (.call env c (.done ret ms es))) : Bonded s' := by
  cases hwrites with
  | initializes _ hagents hregions | administers _ hagents hregions =>
    refine h.of_same hagents fun regionId region hregion => ⟨region, ?_, le_rfl⟩
    rwa [Storage.getRegion, hregions]
  | adds hnone hregions hagents =>
    refine h.of_same hagents fun regionId region => getRegion_of_insert hregions fun old hold => ?_
    rw [hnone] at hold
    cases hold
  | bounds hregion hregions hagents =>
    refine h.of_same hagents fun regionId region => getRegion_of_insert hregions fun old hold => ?_
    obtain rfl := Option.some.inj (hregion.symm.trans hold)
    exact not_lt.1 fun hlt => hraises ⟨_, hregion, hlt⟩
  | activates hregion hregions hagents =>
    refine h.of_same hagents fun regionId region => getRegion_of_insert hregions fun old hold => ?_
    obtain rfl := Option.some.inj (hregion.symm.trans hold)
    exact le_rfl
  | @registers record amount _ _ hpending hagents hregions =>
    intro agent record' hrecord' hstatus
    rw [getAgent_of_insert hagents] at hrecord'
    split_ifs at hrecord' with heq
    · obtain rfl := Option.some.inj hrecord'
      rw [hpending] at hstatus
      cases hstatus
    · rw [Storage.getRegion, hregions]
      exact h agent record' hrecord' hstatus
  | @rewrites _ record record' hrecord hrewrites hagents hregions =>
    intro agent record'' hrecord'' hstatus
    rw [getAgent_of_insert hagents] at hrecord''
    rw [Storage.getRegion, hregions]
    split_ifs at hrecord'' with heq
    · obtain rfl := Option.some.inj hrecord''
      exact hrewrites.bonded hstatus (h _ _ hrecord)
    · exact h agent record'' hrecord'' hstatus

theorem Bonded.step (hk : Keyed w.store) (h : Bonded w.store)
    (hst : (contract self).lts.step w l w') (hl : ¬ RaisesMinimum w.store l) : Bonded w'.store := by
  rcases step_cases hk hst with hq | ⟨env, c, ret, ms, es, rfl, -, hwrites⟩
  · exact hq.store ▸ h
  · exact h.writes hwrites hl

/-! ### Authorisations -/

theorem isAuthorizedAnywhere_of_getAgent {record : Agent} (h : s.getAgent agent = some record) :
    isAuthorizedAnywhere s agent = decide (record.status = .authorized) := by
  rw [isAuthorizedAnywhere, h]
  rfl

theorem authorizesOnly_of_step (hk : Keyed w.store) (hst : (contract self).lts.step w l w') :
    AuthorizesOnly w.store l w'.store := by
  intro agent hbefore hafter
  have hsame : w'.store.agents = w.store.agents → False := by
    intro hagents
    rw [isAuthorizedAnywhere, Storage.getAgent, hagents] at hafter
    exact absurd (hafter.symm.trans hbefore) (by decide)
  have hother : ∀ {a : Address} {record' : Agent},
      w'.store.agents = w.store.agents.insert a record' →
      agent = a ∧ record'.status = .authorized := by
    intro a record' hagents
    rw [isAuthorizedAnywhere, getAgent_of_insert hagents] at hafter
    split_ifs at hafter with heq
    · exact ⟨heq, of_decide_eq_true hafter⟩
    · exact absurd (hafter.symm.trans hbefore) (by decide)
  rcases step_cases hk hst with hq | ⟨env, c, ret, ms, es, rfl, -, hwrites⟩
  · exact (hsame (by rw [hq.store])).elim
  · cases hwrites with
    | initializes _ hagents | administers _ hagents | adds _ _ hagents | bounds _ _ hagents
    | activates _ _ hagents => exact (hsame hagents).elim
    | registers _ _ hpending hagents =>
      obtain ⟨-, hstatus⟩ := hother hagents
      rw [hpending] at hstatus
      cases hstatus
    | rewrites hrecord hrewrites hagents =>
      obtain ⟨rfl, hstatus⟩ := hother hagents
      rw [isAuthorizedAnywhere_of_getAgent hrecord] at hbefore
      have hne := of_decide_eq_false hbefore
      cases hrewrites with
      | toppedUp | withdrawn | slashed => exact absurd hstatus hne
      | suspended | revoked | sunk => cases hstatus
      | authorized hsource hregion hactive =>
        exact ⟨env, ret, ms, es, _, _, rfl, hrecord, hsource, hregion, hactive⟩

/-! ### What the registry answers -/

theorem isAuthorized_iff :
    s.isAuthorized agent regionId = true ↔ AuthorizedIn s agent regionId := by
  rw [Storage.isAuthorized]
  constructor
  · intro h
    split at h
    · next record hrecord =>
      simp only [Bool.and_eq_true, decide_eq_true_eq] at h
      obtain ⟨⟨hsettle, hactive⟩, rfl⟩ := h
      obtain ⟨region, hregion, hactive⟩ := (Option.any_eq_true _ _).1 hactive
      exact ⟨record, region, hrecord, of_decide_eq_true hsettle, rfl, hregion, hactive⟩
    · cases h
  · rintro ⟨record, region, hrecord, hstatus, rfl, hregion, hactive⟩
    rw [hrecord]
    simp [AgentStatus.canSettle, hstatus, hregion, hactive]

theorem authorizedIn_of_corridor (h : s.isAuthorizedForCorridor agent corridorId = true) :
    ∃ regionId, s.getCorridorRegion corridorId = some regionId ∧ AuthorizedIn s agent regionId := by
  rw [Storage.isAuthorizedForCorridor] at h
  split at h
  · next regionId hregion => exact ⟨regionId, hregion, isAuthorized_iff.1 h⟩
  · cases h

/-- **Authorised agents.**  As long as no region's minimum is raised, every authorised agent has the
bond that its region requires.  Only an authorisation authorises an agent, from pending or suspended
and in an active region, and whom the registry calls authorised is so in an active region. -/
theorem authorized_bonded (h₀ : w₀.store = .blank) (h : (contract self).lts.Run w₀ ls w) :
    (((contract self).lts.restrict fun w l _ => ¬ RaisesMinimum w.store l).Run w₀ ls w →
      Bonded w.store) ∧
    ((contract self).lts.restrict fun w l w' => AuthorizesOnly w.store l w'.store).Run w₀ ls w ∧
    (∀ agent regionId, w.store.isAuthorized agent regionId = true →
      AuthorizedIn w.store agent regionId) ∧
    (∀ agent corridorId, w.store.isAuthorizedForCorridor agent corridorId = true →
      ∃ regionId, w.store.getCorridorRegion corridorId = some regionId ∧
        AuthorizedIn w.store agent regionId) := by
  refine ⟨fun hkept => ?_, ?_, fun _ _ => isAuthorized_iff.1, fun _ _ => authorizedIn_of_corridor⟩
  · have hblank : Placed w₀.store ∧ Bonded w₀.store := h₀ ▸ ⟨.blank, .blank⟩
    exact (hkept.invariant (I := fun w => Placed w.store ∧ Bonded w.store) hblank
      fun w l w' hw hst => ⟨hw.1.step hst.1, hw.2.step hw.1.toKeyed hst.1 hst.2⟩).2
  · have hblank : Placed w₀.store := h₀ ▸ .blank
    exact h.restrict_of_invariant (I := fun w => Placed w.store) hblank
      (fun _ _ _ hw hst => hw.step hst) fun _ _ _ hw hst => authorizesOnly_of_step hw.toKeyed hst

theorem authorized_bonded_sample : ∃ record region,
    Sample.moved.store.getAgent Sample.agent = some record ∧ record.status = .authorized ∧
    Sample.moved.store.getRegion record.regionId = some region ∧ region.minBond ≤ record.bond := by
  have hlabels : ∀ l ∈ Sample.moveTrace, ∀ s, ¬ RaisesMinimum s l :=
    List.forall_iff_forall_mem.1 ⟨fun _ => id, fun _ => id, fun _ => id, fun _ => id, fun _ => id,
      fun _ => id, fun _ => id, fun _ => id⟩
  have hkept := (Sample.moved_run.restrict_of_labels hlabels).restrict_mono
    (Q := fun w l _ => ¬ RaisesMinimum w.store l) fun w _ _ hl => hl w.store
  have hbonded := (authorized_bonded rfl Sample.moved_run).1 hkept
  obtain ⟨record, hrecord, hstatus⟩ : ∃ record,
      Sample.moved.store.getAgent Sample.agent = some record ∧ record.status = .authorized :=
    ⟨_, rfl, rfl⟩
  obtain ⟨region, hregion, hbond⟩ := hbonded _ _ hrecord hstatus
  exact ⟨record, region, hrecord, hstatus, hregion, hbond⟩

end Registry

end RemitBridge
