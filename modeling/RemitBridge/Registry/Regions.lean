import RemitBridge.Registry.Solvency

/-!
# Regions and their agents

The registry lists the agents of a region in an index that only grows, and counts the authorised
ones of a region by going through its index.

## Main definitions

* `Places` : what an invocation does to the records, the index and the regions.
* `Placed` : every record is listed in its region, which exists, and no list has a duplicate.
* `RegionsExact` : the index lists exactly the agents of a region, and a region is refused as full
  only if it is.

## Main results

* `region_cap` : a region never has more authorised agents than its cap allows.
* `regions_exact_iff` : the index is exact as long as no agent registers again in another region.
-/

namespace RemitBridge

namespace Registry

open TransitionSystem Store Exec

variable {ω : Type} {self : Address} {env : Env} {w₀ w w' : World ω} {l : Label ω}
  {ls : List (Label ω)} {s s' : Storage} {c : Call} {regionId : Symbol}

/-- The number of authorised agents whose record is in the region. -/
def authorizedIn (s : Storage) (regionId : Symbol) : ℤ :=
  s.agents.total fun _ record =>
    if record.regionId = regionId ∧ record.status = .authorized then 1 else 0

/-- The number of agents whose record is in the region. -/
def agentsIn (s : Storage) (regionId : Symbol) : ℤ :=
  s.agents.total fun _ record => if record.regionId = regionId then 1 else 0

/-! ### What an invocation does to the regions -/

/-- The agent that a call would register, and where. -/
def Call.registers : Call → Option (Address × Symbol)
  | .registerAgent agent regionId _ => some (agent, regionId)
  | _ => none

/-- What an invocation does to the records, the index and the regions. -/
inductive Places (c : Call) (s s' : Storage) : Prop
  /-- It touches no record, and at most one region, which keeps its cap. -/
  | configures : c.registers = none → s'.agents = s.agents → s'.regionAgents = s.regionAgents →
      (s'.regions = s.regions ∨ ∃ config, s'.regions = s.regions.insert config.regionId config ∧
        ∀ config', s.getRegion config.regionId = some config' →
          config.maxAgents = config'.maxAgents) → Places c s s'
  /-- It rewrites a record, which stays in its region.  It authorises an agent only if the count
  of the region is below its cap. -/
  | updates (record record' : Agent) : c.registers = none →
      s.getAgent record.address = some record → record'.address = record.address →
      record'.regionId = record.regionId →
      (record'.status = .authorized → record.status = .authorized ∨
        ∀ config, s.getRegion record.regionId = some config → 0 < config.maxAgents.val →
          s.countAuthorized record.regionId < config.maxAgents) →
      s'.agents = s.agents.insert record.address record' → s'.regionAgents = s.regionAgents →
      s'.regions = s.regions → Places c s s'
  /-- It registers an agent that has no record, or a revoked one, and lists it in its region. -/
  | registers (regionId : Symbol) (record' : Agent) :
      c.registers = some (record'.address, regionId) →
      (s.getRegion regionId).isSome = true →
      (∀ previous, s.getAgent record'.address = some previous → previous.status = .revoked) →
      record'.regionId = regionId → record'.status = .pending →
      s'.agents = s.agents.insert record'.address record' →
      s'.regionAgents = (s.pushRegionAgent regionId record'.address).regionAgents →
      s'.regions = s.regions → Places c s s'

/-- Records and regions are stored under their own name. -/
structure Keyed (s : Storage) : Prop where
  agents : Store.All (fun address record => record.address = address) s.agents
  regions : Store.All (fun regionId config => config.regionId = regionId) s.regions

/-- The records after one of them has been written. -/
theorem getAgent_of_insert {agent : Address} {record : Agent}
    (h : s'.agents = s.agents.insert agent record) (agent' : Address) :
    s'.getAgent agent' = if agent' = agent then some record else s.getAgent agent' := by
  rw [Storage.getAgent, h, Store.lookup_insert_ite, Storage.getAgent]

theorem listRegionAgents_congr (h : s'.regionAgents = s.regionAgents) :
    s'.listRegionAgents = s.listRegionAgents := by
  funext regionId
  rw [Storage.listRegionAgents, h, Storage.listRegionAgents]

section

theorem places_of_transitioned {agent : Address} {record : Agent} {dest : AgentStatus}
    {reason : Symbol} (hk : Keyed w.store) (h : w.store.getAgent agent = some record)
    (hc : c.registers = none) (hdest : dest = .authorized → ∀ config,
      w.store.getRegion record.regionId = some config → 0 < config.maxAgents.val →
        w.store.countAuthorized record.regionId < config.maxAgents) :
    Places c w.store (transitioned w record dest reason).store := by
  obtain rfl := hk.agents _ _ h
  exact .updates record { record with status := dest, updatedAt := w.ledger.timestamp } hc h rfl
    rfl (fun hd => .inr (hdest hd)) rfl rfl rfl

/-- Taking in or paying out bond leaves the status alone. -/
theorem places_of_bond {agent : Address} {record : Agent} {bond : I128} {now : U64}
    {stats : RegistryStats} (hk : Keyed s) (h : s.getAgent agent = some record)
    (hc : c.registers = none) :
    Places c s ((s.putAgent { record with bond, updatedAt := now }).putStats stats) := by
  obtain rfl := hk.agents _ _ h
  exact .updates record { record with bond, updatedAt := now } hc h rfl rfl .inl rfl rfl rfl

theorem places_of_slashAgent {agent : Address} {amount slashed : I128} {reason : Symbol}
    (hk : Keyed w.store) (h : slashAgent self env agent amount reason w = .ok (slashed, w')) :
    Places (.slashAgent agent amount reason) w.store w'.store := by
  obtain ⟨admin, -, -, -, record, hrecord, -, treasury, -, bond, -, -, record', w₁, hafter, token,
    -, -, -, totalBonded, -, totalSlashed, -, -, rfl⟩ := slashAgent_ok.1 h
  obtain rfl := hk.agents _ _ hrecord
  obtain ⟨haddress, -, -, -, hagents⟩ := hafter.kept_eq
  have hinsert := hagents { record' with updatedAt := w₁.ledger.timestamp }
  rw [haddress] at hinsert
  cases hafter with
  | kept =>
    refine .updates record _ rfl hrecord ?_ ?_ ?_ hinsert rfl rfl
    · exact rfl
    · exact rfl
    · exact .inl
  | suspended =>
    refine .updates record _ rfl hrecord ?_ ?_ ?_ hinsert rfl rfl
    · exact rfl
    · exact rfl
    · exact nofun

/-- A region that is written again keeps its cap. -/
theorem places_of_region {regionId : Symbol} {region config : RegionConfig} (hk : Keyed s)
    (h : s.getRegion regionId = some region) (hid : config.regionId = region.regionId)
    (hcap : config.maxAgents = region.maxAgents) (hc : c.registers = none) :
    Places c s (s.putRegion config) := by
  refine .configures hc rfl rfl (.inr ⟨config, rfl, fun config' h' => ?_⟩)
  rw [hid, hk.regions _ _ h, h] at h'
  rw [hcap, Option.some.inj h']

theorem Administers.places (hk : Keyed w.store) (h : Administers w c w') :
    Places c w.store w'.store := by
  cases h with
  | added _ hnone =>
    exact .configures rfl rfl rfl (.inr ⟨_, rfl, fun config' h => by simp [hnone] at h⟩)
  | bounded _ hregion => exact places_of_region hk hregion rfl rfl rfl
  | activated _ hregion => exact places_of_region hk hregion rfl rfl rfl
  | _ => exact .configures rfl rfl rfl (.inl rfl)

/-- **What an invocation does to the regions.** -/
theorem invoke_places {r : Ret} (hk : Keyed w.store) (h : invoke self env c w = .ok (r, w')) :
    Places c w.store w'.store := by
  cases c with
  | registerAgent agent regionId amount =>
    obtain ⟨record, h₁, rfl⟩ := bind_pure_ok.1 h
    obtain ⟨-, -, region, hregion, -, -, token, -, hrevoked, -, -, totalBonded, -, -, rfl⟩ :=
      registerAgent_ok.1 h₁
    exact .registers regionId _ rfl (by rw [hregion]; rfl) hrevoked rfl rfl rfl rfl rfl
  | topUpBond =>
    obtain ⟨bond, h₁, rfl⟩ := bind_pure_ok.1 h
    obtain ⟨-, -, record, hrecord, token, -, -, -, -, totalBonded, -, rfl⟩ := topUpBond_ok.1 h₁
    exact places_of_bond hk hrecord rfl
  | withdrawBond =>
    obtain ⟨bond, h₁, rfl⟩ := bind_pure_ok.1 h
    obtain ⟨-, -, record, hrecord, -, -, token, -, -, -, -, totalBonded, -, rfl⟩ :=
      withdrawBond_ok.1 h₁
    exact places_of_bond hk hrecord rfl
  | authorizeAgent =>
    obtain ⟨u, h₁, rfl⟩ := bind_pure_ok.1 h
    obtain ⟨-, -, -, record, hrecord, -, region, hregion, -, -, hcap, rfl⟩ := authorizeAgent_ok.1 h₁
    -- The only way to become authorised, and the only guard of the cap.
    refine places_of_transitioned hk hrecord rfl fun _ config hconfig hpos => ?_
    obtain rfl := Option.some.inj (hregion.symm.trans hconfig)
    exact hcap hpos
  | suspendAgent =>
    obtain ⟨u, h₁, rfl⟩ := bind_pure_ok.1 h
    obtain ⟨-, -, -, record, hrecord, -, rfl⟩ := suspendAgent_ok.1 h₁
    exact places_of_transitioned hk hrecord rfl fun hstatus => by cases hstatus
  | revokeAgent =>
    obtain ⟨u, h₁, rfl⟩ := bind_pure_ok.1 h
    obtain ⟨-, -, -, record, hrecord, -, rfl⟩ := revokeAgent_ok.1 h₁
    exact places_of_transitioned hk hrecord rfl fun hstatus => by cases hstatus
  | slashAgent =>
    obtain ⟨slashed, h₁, rfl⟩ := bind_pure_ok.1 h
    exact places_of_slashAgent hk h₁
  | _ => exact (administers_of_invoke rfl h).places hk

end

/-! ### The invariant -/

/-- Every record is listed in its region, which exists, and only agents with a record are listed,
each once. -/
structure Placed (s : Storage) : Prop extends Keyed s where
  known : ∀ agent record, s.getAgent agent = some record → (s.getRegion record.regionId).isSome
  listed : ∀ agent record, s.getAgent agent = some record →
    agent ∈ s.listRegionAgents record.regionId
  registered : ∀ regionId, ∀ agent ∈ s.listRegionAgents regionId, (s.getAgent agent).isSome
  nodup : ∀ regionId, (s.listRegionAgents regionId).Nodup

theorem Placed.blank : Placed .blank where
  agents := Store.all_empty _
  regions := Store.all_empty _
  known agent record h := by simp [Storage.getAgent, Storage.blank] at h
  listed agent record h := by simp [Storage.getAgent, Storage.blank] at h
  registered regionId agent h := by simp [Storage.listRegionAgents, Storage.blank] at h
  nodup _ := List.nodup_nil

/-- The index of a region after an agent is pushed. -/
theorem listRegionAgents_push (s : Storage) (regionId regionId' : Symbol) (agent : Address) :
    (s.pushRegionAgent regionId agent).listRegionAgents regionId' =
      if regionId' = regionId ∧ agent ∉ s.listRegionAgents regionId then
        s.listRegionAgents regionId ++ [agent]
      else s.listRegionAgents regionId' := by
  rw [Storage.listRegionAgents, Storage.pushRegionAgent_regionAgents, Store.lookup_insert_ite]
  by_cases hid : regionId' = regionId
  · subst hid
    by_cases hmem : agent ∈ s.listRegionAgents regionId'
    · simp [hmem]
    · simp [hmem]
  · rw [if_neg hid, if_neg (fun h => hid h.1), Storage.listRegionAgents]

theorem mem_listRegionAgents_push {regionId' : Symbol} {agent agent' : Address} :
    agent' ∈ (s.pushRegionAgent regionId agent).listRegionAgents regionId' ↔
      agent' ∈ s.listRegionAgents regionId' ∨ (regionId' = regionId ∧ agent' = agent) := by
  rw [listRegionAgents_push]
  split_ifs with h
  · obtain ⟨rfl, -⟩ := h
    simp
  · constructor
    · exact .inl
    · rintro (hmem | ⟨rfl, rfl⟩)
      · exact hmem
      · exact not_not.1 fun hmem => h ⟨rfl, hmem⟩

theorem nodup_listRegionAgents_push {regionId' : Symbol} {agent : Address}
    (h : (s.listRegionAgents regionId').Nodup) :
    ((s.pushRegionAgent regionId agent).listRegionAgents regionId').Nodup := by
  rw [listRegionAgents_push]
  split_ifs with hc
  · obtain ⟨rfl, hmem⟩ := hc
    exact List.nodup_append.2 ⟨h, List.nodup_singleton _, fun a ha b hb =>
      fun he => hmem (List.mem_singleton.1 hb ▸ he ▸ ha)⟩
  · exact h

/-- Regions only ever get more agents. -/
theorem Places.listRegionAgents_subset (h : Places c s s') (regionId : Symbol) :
    s.listRegionAgents regionId ⊆ s'.listRegionAgents regionId := by
  cases h with
  | configures _ _ hindex =>
    rw [listRegionAgents_congr hindex]
    exact List.Subset.refl _
  | updates _ _ _ _ _ _ _ _ hindex =>
    rw [listRegionAgents_congr hindex]
    exact List.Subset.refl _
  | registers _ _ _ _ _ _ _ _ hindex =>
    intro agent hmem
    rw [Storage.listRegionAgents, hindex]
    exact mem_listRegionAgents_push.2 (.inl hmem)

/-- The records after an invocation: those before it, except for at most one, which was there
before or is new. -/
theorem Placed.places (hp : Placed s) (h : Places c s s') : Placed s' := by
  cases h with
  | configures _ hagents hindex hregions =>
    -- No record changes, and at most one region is added or changed.
    have hget : s'.getAgent = s.getAgent := by
      funext agent
      rw [Storage.getAgent, hagents, Storage.getAgent]
    have hlist := listRegionAgents_congr hindex
    refine ⟨⟨hagents ▸ hp.agents, ?_⟩, ?_, hget ▸ hlist ▸ hp.listed,
      hget ▸ hlist ▸ hp.registered, hlist ▸ hp.nodup⟩
    · rcases hregions with he | ⟨config, he, -⟩
      · exact he ▸ hp.regions
      · exact he ▸ hp.regions.insert rfl
    · intro agent record hr
      have hknown := hp.known agent record (hget ▸ hr)
      rcases hregions with he | ⟨config, he, -⟩
      · rwa [Storage.getRegion, he]
      · rw [Storage.getRegion, he, Store.lookup_insert_ite]
        split_ifs
        · rfl
        · exact hknown
  | updates record record' _ hrecord haddress hregion _ hagents hindex hregions =>
    -- The record stays in its region, and the index stays as it is.
    have hget := getAgent_of_insert hagents
    have hlist := listRegionAgents_congr hindex
    refine ⟨⟨?_, hregions ▸ hp.regions⟩, ?_, ?_,
      ?_, hlist ▸ hp.nodup⟩
    · exact hagents ▸ hp.agents.insert haddress
    · intro agent r hr
      rw [Storage.getRegion, hregions]
      rw [hget] at hr
      split_ifs at hr
      · rw [← Option.some.inj hr, hregion]
        exact hp.known _ _ hrecord
      · exact hp.known _ _ hr
    · intro agent r hr
      rw [hlist]
      rw [hget] at hr
      split_ifs at hr with ha
      · rw [← Option.some.inj hr, hregion, ha]
        exact hp.listed _ _ hrecord
      · exact hp.listed _ _ hr
    · intro regionId agent hmem
      rw [hget]
      split_ifs
      · rfl
      · exact hp.registered _ _ (hlist ▸ hmem)
  | registers regionId record' _ hknown _ hregion _ hagents hindex hregions =>
    -- The record is new, or moves to the region; the index of the region gets one more entry.
    have hget := getAgent_of_insert hagents
    have hlist := listRegionAgents_congr hindex
    refine ⟨⟨?_, hregions ▸ hp.regions⟩, ?_, ?_,
      ?_, ?_⟩
    · exact hagents ▸ hp.agents.insert rfl
    · intro agent r hr
      rw [Storage.getRegion, hregions]
      rw [hget] at hr
      split_ifs at hr
      · rw [← Option.some.inj hr, hregion]
        exact hknown
      · exact hp.known _ _ hr
    · intro agent r hr
      rw [hlist, mem_listRegionAgents_push]
      rw [hget] at hr
      split_ifs at hr with ha
      · exact .inr ⟨by rw [← Option.some.inj hr, hregion], ha⟩
      · exact .inl (hp.listed _ _ hr)
    · -- Who is listed has a record: the new one, or the one it had.
      intro regionId' agent hmem
      rw [hlist, mem_listRegionAgents_push] at hmem
      rw [hget]
      split_ifs with ha
      · rfl
      · rcases hmem with hmem | ⟨-, he⟩
        · exact hp.registered _ _ hmem
        · exact absurd he ha
    · intro regionId'
      rw [hlist]
      exact nodup_listRegionAgents_push (hp.nodup _)

theorem Placed.step (hp : Placed w.store) (h : (contract self).lts.step w l w') :
    Placed w'.store := by
  rcases Contract.step_cases h with hq | ⟨env, c, r, rfl, -, h⟩
  · exact hq.store ▸ hp
  · exact hp.places (invoke_places (w := w.clear) hp.toKeyed h)

/-! ### The cap -/

/-- The agent has an authorised record, in whatever region. -/
def isAuthorizedAnywhere (s : Storage) (agent : Address) : Bool :=
  (s.getAgent agent).any fun record => decide (record.status = .authorized)

/-- What the registry counts: the authorised agents in the index of the region. -/
theorem countAuthorized_val (s : Storage) (regionId : Symbol) : (s.countAuthorized regionId).val =
    min ((s.listRegionAgents regionId).countP (isAuthorizedAnywhere s) : ℤ) (2 ^ 32 - 1) := by
  have hfold := U32.foldl_saturatingAdd_one (isAuthorizedAnywhere s)
    (s.listRegionAgents regionId) 0
  rw [U32.zero_val, zero_add] at hfold
  rw [← hfold, Storage.countAuthorized]
  congr 2
  funext count agent
  unfold isAuthorizedAnywhere
  cases s.getAgent agent with
  | none => rfl
  | some record => simp

theorem authorizedIn_eq_length (s : Storage) (regionId : Symbol) : authorizedIn s regionId =
    (s.agents.keysWhere fun _ record =>
      record.regionId = regionId ∧ record.status = .authorized).length :=
  total_ite_one

theorem agentsIn_eq_length (s : Storage) (regionId : Symbol) : agentsIn s regionId =
    (s.agents.keysWhere fun _ record => record.regionId = regionId).length :=
  total_ite_one

/-- The index has every authorised agent of the region, and may have others. -/
theorem Placed.authorizedIn_le (hp : Placed s) (regionId : Symbol) : authorizedIn s regionId ≤
    (s.listRegionAgents regionId).countP (isAuthorizedAnywhere s) := by
  rw [authorizedIn_eq_length, List.countP_eq_length_filter]
  refine Int.ofNat_le.2 (List.subperm_of_subset nodup_keysWhere fun agent hmem => ?_).length_le
  obtain ⟨record, hrecord, hregion, hstatus⟩ := mem_keysWhere.1 hmem
  refine List.mem_filter.2 ⟨hregion ▸ hp.listed _ _ hrecord, ?_⟩
  simp [isAuthorizedAnywhere, Storage.getAgent, hrecord, hstatus]

/-- No region has more authorised agents than its cap allows. -/
def Capped (s : Storage) : Prop := ∀ regionId config, s.getRegion regionId = some config →
  0 < config.maxAgents.val → authorizedIn s regionId ≤ config.maxAgents.val

theorem Placed.authorizedIn_of_unknown (hp : Placed s) (h : s.getRegion regionId = none) :
    authorizedIn s regionId = 0 := by
  have hnil : (s.agents.keysWhere fun _ record =>
      record.regionId = regionId ∧ record.status = .authorized) = [] := by
    refine List.eq_nil_iff_forall_not_mem.2 fun agent hmem => ?_
    obtain ⟨record, hrecord, rfl, -⟩ := mem_keysWhere.1 hmem
    have hknown := hp.known _ _ hrecord
    rw [h] at hknown
    cases hknown
  rw [authorizedIn_eq_length, hnil]
  rfl

theorem Capped.places (hp : Placed s) (hc : Capped s) (h : Places c s s') : Capped s' := by
  intro regionId config' hconfig' hpos
  cases h with
  | configures _ hagents hindex hregions =>
    rw [authorizedIn, hagents]
    rcases hregions with he | ⟨config, he, hcap⟩
    · exact hc regionId config' (by rwa [Storage.getRegion, he] at hconfig') hpos
    · rw [Storage.getRegion, he, Store.lookup_insert_ite] at hconfig'
      split_ifs at hconfig' with hid
      · -- A new region has no agents yet; the cap of an old one is the same.
        obtain rfl := Option.some.inj hconfig'
        cases hold : s.getRegion regionId with
        | none => exact (hp.authorizedIn_of_unknown hold).le.trans hpos.le
        | some old =>
          have hsame := hcap old (hid ▸ hold)
          rw [hsame] at hpos ⊢
          exact hc regionId old hold hpos
      · exact hc regionId config' hconfig' hpos
  | updates record record' _ hrecord haddress hregion hauthorized hagents hindex hregions =>
    have hconfig : s.getRegion regionId = some config' := by
      rwa [Storage.getRegion, hregions] at hconfig'
    have hle := hc regionId config' hconfig hpos
    have hcount : authorizedIn s' regionId = authorizedIn s regionId -
        (if record.regionId = regionId ∧ record.status = .authorized then 1 else 0) +
        if record.regionId = regionId ∧ record'.status = .authorized then 1 else 0 := by
      rw [authorizedIn, hagents, total_insert_of_lookup hrecord, hregion, authorizedIn]
    rw [hcount]
    by_cases hgain : record.regionId = regionId ∧ record'.status = .authorized
    · obtain ⟨rfl, hstatus⟩ := hgain
      rcases hauthorized hstatus with hwas | hguard
      · simp only [hwas, hstatus, and_self, if_true]
        omega
      · -- The count of the registry is below the cap, and no smaller than the number of agents.
        have hbelow : (s.countAuthorized record.regionId).val < config'.maxAgents.val :=
          hguard config' hconfig hpos
        have hmin := countAuthorized_val s record.regionId
        have hindexed := hp.authorizedIn_le record.regionId
        have hbound := config'.maxAgents.le_hi
        split_ifs <;> omega
    · rw [if_neg hgain]
      split_ifs <;> omega
  | registers regionId₁ record' _ _ hrevoked _ hpending hagents hindex hregions =>
    have hconfig : s.getRegion regionId = some config' := by
      rwa [Storage.getRegion, hregions] at hconfig'
    -- Neither the record that is replaced nor the new one is authorised.
    have hold : contribution (fun (_ : Address) (record : Agent) =>
        if record.regionId = regionId ∧ record.status = .authorized then (1 : ℤ) else 0)
        s.agents record'.address = 0 := by
      cases hprevious : s.agents.lookup record'.address with
      | none => exact contribution_of_none hprevious
      | some previous =>
        rw [contribution_of_lookup hprevious, hrevoked previous hprevious]
        exact if_neg fun h => nomatch h.2
    have hnew : ¬ (record'.regionId = regionId ∧ record'.status = .authorized) := fun h => by
      rw [hpending] at h
      exact nomatch h.2
    rw [authorizedIn, hagents, total_insert, hold, if_neg hnew, sub_zero, add_zero]
    exact hc regionId config' hconfig hpos

theorem Capped.step (hp : Placed w.store) (hc : Capped w.store)
    (h : (contract self).lts.step w l w') : Capped w'.store := by
  rcases Contract.step_cases h with hq | ⟨env, c, r, rfl, -, h⟩
  · exact hq.store ▸ hc
  · exact hc.places hp (invoke_places (w := w.clear) hp.toKeyed h)

theorem placed_of_run (h₀ : w₀.store = .blank) (h : (contract self).lts.Run w₀ ls w) :
    Placed w.store :=
  h.invariant (I := fun w => Placed w.store) (h₀ ▸ Placed.blank) fun _ _ _ hs hst => hs.step hst

/-- **The cap of a region.**  In every state that the registry can reach, no region with a cap has
more authorised agents than its cap. -/
theorem region_cap (h₀ : w₀.store = .blank) (h : (contract self).lts.Run w₀ ls w)
    {config : RegionConfig} (hconfig : w.store.getRegion regionId = some config)
    (hpos : 0 < config.maxAgents.val) : authorizedIn w.store regionId ≤ config.maxAgents.val := by
  have hinv : Placed w.store ∧ Capped w.store :=
    h.invariant (I := fun w => Placed w.store ∧ Capped w.store)
      (by rw [h₀]; exact ⟨Placed.blank, fun regionId config h => by
        simp [Storage.getRegion, Storage.blank] at h⟩)
      fun _ _ _ hs hst => ⟨hs.1.step hst, hs.2.step hs.1 hst⟩
  exact hinv.2 regionId config hconfig hpos

/-! ### An agent that moves -/

namespace Sample

def rival : Address := ⟨4⟩

def otherRegion : Symbol := ⟨"ACCRA"⟩

/-- The agent of a region with one place is revoked, registers in another region and is authorised
there; a second agent registers for the place it left. -/
def moveScript : List (Contract.Input Call) :=
  [.call (signedBy admin) (.initializeContract admin usd ⟨3⟩),
    .call (signedBy admin) (.addRegion region 100 1),
    .call (signedBy admin) (.addRegion otherRegion 100 0),
    .call (signedBy agent) (.registerAgent agent region 100),
    .call (signedBy admin) (.revokeAgent agent ⟨"moved"⟩),
    .call (signedBy agent) (.registerAgent agent otherRegion 100),
    .call (signedBy admin) (.authorizeAgent agent),
    .call (signedBy rival) (.registerAgent rival region 100)]

def moveTrace : List (Label Unit) := (contract ⟨0⟩).trace blank moveScript

def moved : World Unit := (contract ⟨0⟩).play blank moveScript

theorem moved_run : (contract ⟨0⟩).lts.Run blank moveTrace moved :=
  Contract.play_run moveScript rfl

end Sample

theorem region_cap_sample : authorizedIn Sample.moved.store Sample.region ≤ (1 : U32).val :=
  have hconfig :
      Sample.moved.store.getRegion Sample.region = some ⟨Sample.region, 100, 1, true⟩ := by
    decide
  region_cap rfl Sample.moved_run hconfig (by decide)

/-! ### Exactness -/

/-- The region is full for the agent: it has a cap, and at least as many authorised agents. -/
def IsFullFor (s : Storage) (agent : Address) : Prop :=
  ∃ record config, s.getAgent agent = some record ∧ s.getRegion record.regionId = some config ∧
    0 < config.maxAgents.val ∧ config.maxAgents.val ≤ authorizedIn s record.regionId

/-- The index of every region lists exactly the agents whose record is there, each once, so that
its length is their number; and an agent is only refused for a full region if that is full. -/
structure RegionsExact (registry : Address) (w : World ω) : Prop where
  nodup : ∀ regionId, (w.store.listRegionAgents regionId).Nodup
  listed : ∀ regionId agent, agent ∈ w.store.listRegionAgents regionId ↔
    ∃ record, w.store.getAgent agent = some record ∧ record.regionId = regionId
  count : ∀ regionId, (w.store.countRegionAgents regionId : ℤ) = agentsIn w.store regionId
  refused : ∀ env agent w', (contract registry).lts.step w
    (.call env (.authorizeAgent agent) (.reverted (.err .regionFull))) w' →
      IsFullFor w.store agent

/-- The step does not register an agent in another region than that of its earlier record. -/
def KeepsRegion (s : Storage) : Label ω → Prop
  | .call _ (.registerAgent agent regionId _) (.done ..) =>
    ∀ record, s.getAgent agent = some record → record.regionId = regionId
  | _ => True

/-- No region lists an agent whose record is elsewhere. -/
def Unmixed (s : Storage) : Prop := ∀ regionId, ∀ agent ∈ s.listRegionAgents regionId,
  ∀ record, s.getAgent agent = some record → record.regionId = regionId

theorem Placed.mem_iff (hp : Placed s) (hu : Unmixed s) {agent : Address} :
    agent ∈ s.listRegionAgents regionId ↔
      ∃ record, s.getAgent agent = some record ∧ record.regionId = regionId := by
  constructor
  · intro hmem
    obtain ⟨record, hrecord⟩ := Option.isSome_iff_exists.1 (hp.registered _ _ hmem)
    exact ⟨record, hrecord, hu _ _ hmem _ hrecord⟩
  · rintro ⟨record, hrecord, rfl⟩
    exact hp.listed _ _ hrecord

/-- The authorised agents in the index of a region are those of the region. -/
theorem Placed.authorizedIn_eq (hp : Placed s) (hu : Unmixed s) (regionId : Symbol) :
    authorizedIn s regionId =
      (s.listRegionAgents regionId).countP (isAuthorizedAnywhere s) := by
  have hperm : (s.agents.keysWhere fun _ record => record.regionId = regionId ∧
      record.status = .authorized).Perm
        ((s.listRegionAgents regionId).filter (isAuthorizedAnywhere s)) := by
    refine (List.perm_ext_iff_of_nodup nodup_keysWhere ((hp.nodup regionId).filter _)).2
      fun agent => ?_
    rw [mem_keysWhere, List.mem_filter, hp.mem_iff hu]
    simp only [isAuthorizedAnywhere, Storage.getAgent, Option.any_eq_true, decide_eq_true_eq]
    constructor
    · rintro ⟨record, hrecord, hregion, hstatus⟩
      exact ⟨⟨record, hrecord, hregion⟩, record, hrecord, hstatus⟩
    · rintro ⟨⟨record, hrecord, hregion⟩, record', hrecord', hstatus⟩
      obtain rfl := Option.some.inj (hrecord.symm.trans hrecord')
      exact ⟨record, hrecord, hregion, hstatus⟩
  rw [authorizedIn_eq_length, List.countP_eq_length_filter, hperm.length_eq]

theorem Placed.agentsIn_eq (hp : Placed s) (hu : Unmixed s) (regionId : Symbol) :
    agentsIn s regionId = s.countRegionAgents regionId := by
  have hperm : (s.agents.keysWhere fun _ record => record.regionId = regionId).Perm
      (s.listRegionAgents regionId) := by
    refine (List.perm_ext_iff_of_nodup nodup_keysWhere (hp.nodup regionId)).2 fun agent => ?_
    rw [mem_keysWhere, hp.mem_iff hu]
    rfl
  rw [agentsIn_eq_length, hperm.length_eq, Storage.countRegionAgents]

/-- An agent is only refused for a full region if the count of its region has reached the cap. -/
theorem authorizeAgent_regionFull {agent : Address}
    (h : invoke self env (.authorizeAgent agent) w = .error (.err .regionFull)) :
    ∃ record config, w.store.getAgent agent = some record ∧
      w.store.getRegion record.regionId = some config ∧ 0 < config.maxAgents.val ∧
      config.maxAgents ≤ w.store.countAuthorized record.regionId := by
  simp [invoke, authorizeAgent, requireAdmin, getAdmin, loadAgent, loadRegion, bind_assoc,
    applyTransition] at h
  obtain ⟨-, -, -, record, hrecord, -, config, hconfig, -, -, hpos, hfull⟩ := h
  exact ⟨record, config, hrecord, hconfig, hpos, hfull⟩

/-- Everything is exact as long as the regions are unmixed. -/
theorem Placed.regionsExact_iff (hp : Placed w.store) :
    RegionsExact self w ↔ Unmixed w.store := by
  constructor
  · intro h regionId agent hmem record hrecord
    obtain ⟨record', hrecord', hregion⟩ := (h.listed regionId agent).1 hmem
    rwa [Option.some.inj (hrecord.symm.trans hrecord')]
  · intro hu
    refine ⟨hp.nodup, fun regionId agent => hp.mem_iff hu, fun regionId =>
      (hp.agentsIn_eq hu regionId).symm, ?_⟩
    intro env agent w' h
    cases h with
    | reverted _ h =>
      obtain ⟨record, config, hrecord, hconfig, hpos, hfull⟩ :=
        authorizeAgent_regionFull (w := w.clear) (show invoke self env _ _ = _ from h)
      have hreached : config.maxAgents.val ≤ (w.store.countAuthorized record.regionId).val := hfull
      have hmin := countAuthorized_val w.store record.regionId
      have hcount := hp.authorizedIn_eq hu record.regionId
      exact ⟨record, config, hrecord, hconfig, hpos, by omega⟩

theorem keepsRegion_of_registers {r : Ret} {ms : List TokenTransfer} {es : List Event}
    (h : c.registers = none) : KeepsRegion (ω := ω) s (.call env c (.done r ms es)) := by
  cases c <;> trivial

theorem keepsRegion_iff_of_registers {agent : Address} {r : Ret} {ms : List TokenTransfer}
    {es : List Event} (h : c.registers = some (agent, regionId)) :
    KeepsRegion (ω := ω) s (.call env c (.done r ms es)) ↔
      ∀ record, s.getAgent agent = some record → record.regionId = regionId := by
  cases c <;> cases h
  rfl

theorem keepsRegion_of_failed (h : l.succeeded = false) : KeepsRegion s l := by
  rcases l with ⟨_, c, _ | _⟩ | _ | _ | _
  · cases h
  · cases c <;> trivial
  · trivial
  · trivial
  · trivial

/-- Regions stay unmixed exactly as long as no agent moves; once mixed they stay so, because
no list ever loses an agent. -/
theorem unmixed_step_iff (hp : Placed w.store) (h : (contract self).lts.step w l w') :
    Unmixed w'.store ↔ Unmixed w.store ∧ KeepsRegion w.store l := by
  rcases Contract.step_cases h with hq | ⟨env, c, r, rfl, -, h⟩
  · rw [hq.store, and_iff_left (keepsRegion_of_failed hq.succeeded)]
  · have hplaces := invoke_places (w := w.clear) hp.toKeyed h
    have hsubset := hplaces.listRegionAgents_subset
    cases hplaces with
    | configures hc hagents hindex =>
      rw [and_iff_left (keepsRegion_of_registers hc)]
      simp only [Unmixed, Storage.getAgent, Storage.listRegionAgents, hagents, hindex,
        World.clear_store]
    | updates record record' hc hrecord haddress hregion _ hagents hindex =>
      rw [and_iff_left (keepsRegion_of_registers hc)]
      have hlist : w'.store.listRegionAgents = w.store.listRegionAgents :=
        listRegionAgents_congr hindex
      have hget : ∀ agent, w'.store.getAgent agent =
          if agent = record.address then some record' else w.store.getAgent agent :=
        getAgent_of_insert hagents
      unfold Unmixed
      simp only [hlist, hget]
      refine forall₃_congr fun regionId agent _ => ?_
      split_ifs with ha
      · have hstored : w.store.getAgent agent = some record := ha ▸ hrecord
        simp [hstored, hregion]
      · exact Iff.rfl
    | registers regionId record' hc _ _ hregion _ hagents hindex =>
      rw [keepsRegion_iff_of_registers hc]
      have hget : ∀ agent, w'.store.getAgent agent =
          if agent = record'.address then some record' else w.store.getAgent agent :=
        getAgent_of_insert hagents
      have hmem : ∀ regionId' agent, agent ∈ w'.store.listRegionAgents regionId' ↔
          agent ∈ w.store.listRegionAgents regionId' ∨
            (regionId' = regionId ∧ agent = record'.address) := fun regionId' agent => by
        rw [listRegionAgents_congr hindex]
        exact mem_listRegionAgents_push
      have hnew : w'.store.getAgent record'.address = some record' := by rw [hget, if_pos rfl]
      constructor
      · intro hu
        -- The earlier record put the agent into the list of its region, where it still is.
        have hkeeps : ∀ record, w.store.getAgent record'.address = some record →
            record.regionId = regionId := fun record hrecord => by
          have hlisted := (hmem _ _).2 (.inl (hp.listed _ _ hrecord))
          rw [← hu _ _ hlisted _ hnew, hregion]
        refine ⟨?_, hkeeps⟩
        intro regionId' agent hin record hrecord
        have hin' := (hmem regionId' agent).2 (.inl hin)
        by_cases ha : agent = record'.address
        · subst ha
          rw [hkeeps _ hrecord, ← hu _ _ hin' _ hnew, hregion]
        · exact hu _ _ hin' _ (by rw [hget, if_neg ha, hrecord])
      · -- The new record is in the region of every list that has the agent.
        rintro ⟨hu, hkeeps⟩ regionId' agent hin record hrecord
        rw [hget] at hrecord
        split_ifs at hrecord with ha
        · obtain rfl := Option.some.inj hrecord
          rcases (hmem _ _).1 hin with hin | ⟨rfl, -⟩
          · obtain ⟨previous, hprevious⟩ := Option.isSome_iff_exists.1 (hp.registered _ _ hin)
            rw [hregion, ← hu _ _ hin _ hprevious, hkeeps _ (ha ▸ hprevious)]
          · exact hregion
        · rcases (hmem _ _).1 hin with hin | ⟨-, he⟩
          · exact hu _ _ hin _ hrecord
          · exact absurd he ha

/-- **The index of regions.**  After a run the index lists exactly the agents of every region, and
nobody is refused for a region that is not full, exactly if no step of the run registered an agent
in another region than that of its earlier record.  Once an agent has moved it stays listed in the
region it left, and counts against its cap. -/
theorem regions_exact_iff (h₀ : w₀.store = .blank) (h : (contract self).lts.Run w₀ ls w) :
    RegionsExact self w ↔
      ((contract self).lts.restrict fun w l _ => KeepsRegion w.store l).Run w₀ ls w := by
  rw [(placed_of_run h₀ h).regionsExact_iff]
  refine h.lasts_iff (I := fun w => Placed w.store) (P := fun w => Unmixed w.store)
    (h₀ ▸ Placed.blank) ?_ (fun _ _ _ hs hst => hs.step hst)
    fun _ _ _ hs hst => unmixed_step_iff hs hst
  intro regionId agent hmem
  rw [h₀] at hmem
  simp [Storage.listRegionAgents, Storage.blank] at hmem

theorem regions_exact_iff_sample : RegionsExact ⟨0⟩ Sample.moved ↔
    ((contract ⟨0⟩).lts.restrict fun w l _ => KeepsRegion w.store l).Run Sample.blank
      Sample.moveTrace Sample.moved :=
  regions_exact_iff rfl Sample.moved_run

/-- The agent that moved is still listed in the region it left, and keeps the second agent out,
although nobody is authorised there. -/
theorem not_regions_exact_sample : Sample.blank.store = .blank ∧
    (contract ⟨0⟩).lts.Run Sample.blank Sample.moveTrace Sample.moved ∧
    Sample.agent ∈ Sample.moved.store.listRegionAgents Sample.region ∧
    (Sample.moved.store.getAgent Sample.agent).map Agent.regionId = some Sample.otherRegion ∧
    Sample.moved.store.countRegionAgents Sample.region = 2 ∧
    agentsIn Sample.moved.store Sample.region = 1 ∧
    (contract ⟨0⟩).lts.step Sample.moved (.call (Sample.signedBy Sample.admin)
      (.authorizeAgent Sample.rival) (.reverted (.err .regionFull))) Sample.moved ∧
    authorizedIn Sample.moved.store Sample.region = 0 ∧ ¬ RegionsExact ⟨0⟩ Sample.moved := by
  refine ⟨rfl, Sample.moved_run, by decide, by decide, by decide, by decide, .reverted rfl rfl,
    by decide, fun h => ?_⟩
  have hcount := h.count Sample.region
  exact absurd hcount (by decide)

end Registry

end RemitBridge
