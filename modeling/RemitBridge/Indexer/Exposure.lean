import RemitBridge.Indexer.Poison
import RemitBridge.Pool.Exposure

/-!
# Exposures in the read model

A draw carries the exposure that results from it, and the indexer copies it into the row of the
agent and the region.  A repayment carries it as well, but is not projected; so the row is right
exactly until the next repayment, and again from the next draw on (`exposure_agrees_iff`).
-/

namespace RemitBridge

namespace Indexer

open TransitionSystem

variable {K : StrKey} {cfg : Config} {raw : RawContractEvent} {db db' : Database}
  {events : List ContractEvent} {e : ContractEvent} {agent : Address} {regionId : Symbol}
  {row : AgentRow}

def ContractEvent.ofPool : ContractEvent → Option Pool.Event
  | pool e => some e
  | _ => none

/-- `drawnAmount`, which is zero as long as there is no row. -/
def Database.drawnAmount (db : Database) (agentId regionId : String) : String :=
  (db.exposures.lookup (agentId, regionId)).getD "0"

/-- The amount in the read model is the exposure in the pool. -/
def ExposureAgrees (db : Database) (s : Pool.Storage) (row : AgentRow) (agent : Address)
    (regionId : Symbol) : Prop :=
  db.drawnAmount row.id regionId.name = toString (s.getExposure agent regionId).val

theorem toString_inj {n m : ℤ} : toString n = toString m ↔ n = m := by
  refine ⟨fun heq => ?_, fun heq => heq ▸ rfl⟩
  have hparsed := congrArg parseInteger heq
  rw [parseInteger_toString, parseInteger_toString] at hparsed
  exact Option.some.inj hparsed

/-- The ids of the agents are different. -/
def Database.Identified (db : Database) : Prop := (db.agents.map AgentRow.id).Nodup

theorem agentAt_eq_some {address : String} (h : db.agentAt address = some row) :
    row ∈ db.agents ∧ row.stellarAddress = address :=
  ⟨List.mem_of_find?_eq_some h, by simpa using List.find?_some h⟩

/-- Agents with the same id are the same. -/
theorem Database.Identified.agent_eq (hids : db.Identified) {agent' : Address} {row' : AgentRow}
    (hrow : db.agentAt (K.encode agent) = some row)
    (hrow' : db.agentAt (K.encode agent') = some row') (hid : row'.id = row.id) :
    agent' = agent := by
  obtain ⟨hmem, haddress⟩ := agentAt_eq_some hrow
  obtain ⟨hmem', haddress'⟩ := agentAt_eq_some hrow'
  obtain rfl := List.inj_on_of_nodup_map hids hmem' hmem hid
  exact K.injective (haddress'.symm.trans haddress)

/-- Of the exposures of an agent in a region, projecting an event changes the one of the draw. -/
theorem lookup_projectExposures (hids : db.Identified)
    (hrow : db.agentAt (K.encode agent) = some row) (hregion : regionId.name ≠ "") :
    (projectExposures K db e).lookup (row.id, regionId.name) =
      ((e.ofPool.bind (Pool.Event.drawnTo agent regionId)).map fun x => toString x.val).or
        (db.exposures.lookup (row.id, regionId.name)) := by
  rcases e with e | e | e | e
  · rfl
  · rfl
  · rfl
  · cases e with
    | liquidityDrawn a r amount exposure bps =>
      show _ = ((if a = agent ∧ r = regionId then some exposure else none).map
        fun x => toString x.val).or _
      rw [projectExposures]
      by_cases heq : a = agent ∧ r = regionId
      · obtain ⟨rfl, rfl⟩ := heq
        rw [hrow, decide_eq_true hregion, if_pos ⟨rfl, rfl⟩]
        exact AList.lookup_insert _
      · rw [if_neg heq]
        cases hother : db.agentAt (K.encode a) with
        | none => rfl
        | some other =>
          cases hname : decide (r.name ≠ "") with
          | false => rfl
          | true =>
            refine AList.lookup_insert_ne fun hkey => heq ⟨?_, ?_⟩
            · exact hids.agent_eq hrow hother (Prod.mk.inj hkey).1.symm
            · cases r
              cases regionId
              exact congrArg Symbol.mk (Prod.mk.inj hkey).2.symm
    | _ => rfl

/-- An empty name is not projected. -/
theorem lookup_projectExposures_empty {agentId : String} :
    (projectExposures K db e).lookup (agentId, "") = db.exposures.lookup (agentId, "") := by
  rcases e with e | e | e | e
  · rfl
  · rfl
  · rfl
  · cases e with
    | liquidityDrawn a r amount exposure bps =>
      rw [projectExposures]
      cases db.agentAt (K.encode a) with
      | none => rfl
      | some other =>
        cases hname : decide (r.name ≠ "") with
        | false => rfl
        | true =>
          exact AList.lookup_insert_ne fun hkey => of_decide_eq_true hname (Prod.mk.inj hkey).2.symm
    | _ => rfl

theorem Recorded.exposures (h : Recorded K cfg raw db e db') :
    db'.exposures = projectExposures K db e := by
  obtain ⟨db₁, transferId, hprojected, rfl⟩ := h
  exact hprojected.exposures

/-- **Indexed draws.**  The amount of an agent in a region is the one of the last draw. -/
theorem Indexed.lookup_exposures (h : Indexed K cfg db events db') (hids : db.Identified)
    (hrow : db.agentAt (K.encode agent) = some row) (hregion : regionId.name ≠ "") :
    db'.exposures.lookup (row.id, regionId.name) =
      ((Pool.lastDrawn agent regionId (events.filterMap ContractEvent.ofPool)).map
        fun x => toString x.val).or (db.exposures.lookup (row.id, regionId.name)) := by
  refine (h.invariant (I := fun events db' => db'.agents = db.agents ∧
    db'.exposures.lookup (row.id, regionId.name) =
      ((Pool.lastDrawn agent regionId (events.filterMap ContractEvent.ofPool)).map
        fun x => toString x.val).or (db.exposures.lookup (row.id, regionId.name))) ⟨rfl, rfl⟩
    fun events raw e db₁ db₂ hI hrecorded => ?_).2
  obtain ⟨hagents, hlookup⟩ := hI
  have hids₁ : db₁.Identified := by rw [Database.Identified, hagents]; exact hids
  have hrow₁ : db₁.agentAt (K.encode agent) = some row := by
    rw [Database.agentAt, hagents]
    exact hrow
  refine ⟨hrecorded.agents.trans hagents, ?_⟩
  rw [hrecorded.exposures, lookup_projectExposures hids₁ hrow₁ hregion, hlookup,
    List.filterMap_append]
  cases hpool : e.ofPool with
  | none => rw [List.filterMap_cons_none hpool, List.filterMap_nil, List.append_nil]; rfl
  | some e =>
    rw [List.filterMap_cons_some hpool, List.filterMap_nil, Pool.lastDrawn, Pool.lastDrawn,
      Log.last_snoc, Option.bind_some]
    cases e.drawnTo agent regionId <;> rfl

theorem Indexed.lookup_exposures_empty (h : Indexed K cfg db events db') {agentId : String} :
    db'.exposures.lookup (agentId, "") = db.exposures.lookup (agentId, "") :=
  h.invariant (I := fun _ db' =>
    db'.exposures.lookup (agentId, "") = db.exposures.lookup (agentId, "")) rfl
    fun _ _ _ _ _ hI hrecorded => by rw [hrecorded.exposures, lookup_projectExposures_empty, hI]

/-! ### The pool and the read model -/

variable {ω : Type} {H : Pool.Host ω} {w₀ w : Pool.World ω} {ls : List (Pool.Label ω)}

/-- The events leave the amount in the read model right: the last one about the agent and the region
is a draw.  A region without a name is not projected, and its amount is right if nothing is
drawn. -/
def Mirrored (agent : Address) (regionId : Symbol) (es : List Pool.Event) : Prop :=
  match Pool.lastMove agent regionId es with
  | none => True
  | some (.drawn _) => regionId.name ≠ ""
  | some (.repaid exposure) => regionId.name = "" ∧ exposure.val = 0

/-- **Exposures in the read model.**  Once the events of a run of the pool have been indexed, the
amount of an agent in a region is its exposure in the pool exactly if nothing was repaid since the
last draw. -/
theorem exposure_agrees_iff (h₀ : w₀.store = .blank) (h : (Pool.contract H).lts.Run w₀ ls w)
    (hids : db.Identified) (hfresh : db.exposures = ∅)
    (hevents : events.filterMap ContractEvent.ofPool = ls.flatMap Action.events)
    (hindexed : Indexed K cfg db events db') (hrow : db.agentAt (K.encode agent) = some row) :
    ExposureAgrees db' w.store row agent regionId ↔
      Mirrored agent regionId (events.filterMap ContractEvent.ofPool) := by
  have hposted := Pool.posted_of_run h₀ h agent regionId
  rw [← hevents] at hposted
  have hzero : ∀ n : ℤ, ("0" = toString n) ↔ n = 0 := fun n =>
    (toString_inj (n := 0)).trans eq_comm
  rw [ExposureAgrees, Database.drawnAmount, Mirrored]
  by_cases hregion : regionId.name = ""
  · rw [hregion, hindexed.lookup_exposures_empty, hfresh]
    show "0" = _ ↔ _
    rw [hzero]
    cases hposted with
    | untouched h _ h₀ => simp [h, h₀]
    | drawn h _ h₀ =>
      rw [h]
      exact iff_of_false (by omega) fun hne => hne rfl
    | repaid h => simp [h]
  · rw [hindexed.lookup_exposures hids hrow hregion, hfresh]
    cases hposted with
    | untouched h h' h₀ =>
      rw [h, h']
      exact iff_of_true ((hzero _).2 h₀) trivial
    | drawn h h' _ =>
      rw [h, h']
      exact iff_of_true rfl hregion
    | repaid h h' _ hlt =>
      rw [h, h']
      refine iff_of_false (fun heq => ?_) fun hempty => hregion hempty.1
      have heq := toString_inj.1 heq
      omega

/-! ### An agent that repays -/

namespace Sample

open Pool.Sample in
/-- An agent draws 100 units and repays 40 of them. -/
def repayScript : List (Contract.Input Pool.Call) :=
  [.call (signedBy admin) (.initializeContract admin ⟨5⟩ usd 15000 8000),
    .call (signedBy admin) (.openRegion region 0),
    .call (signedBy provider) (.depositLiquidity provider region 10000),
    .call (signedBy Pool.Sample.agent) (.drawLiquidity Pool.Sample.agent region 100),
    .call (signedBy Pool.Sample.agent) (.repayLiquidity Pool.Sample.agent region 40)]

/-- The first so many invocations. -/
def poolTrace (n : ℕ) : List (Pool.Label Unit) :=
  (Pool.contract Pool.Sample.host).trace Pool.Sample.blank (repayScript.take n)

def poolAfter (n : ℕ) : Pool.World Unit :=
  (Pool.contract Pool.Sample.host).play Pool.Sample.blank (repayScript.take n)

theorem pool_run (n : ℕ) : (Pool.contract Pool.Sample.host).lts.Run Pool.Sample.blank (poolTrace n)
    (poolAfter n) :=
  Contract.play_run _ (List.all_eq_true.2 fun i hi =>
    List.all_eq_true.1 (rfl : repayScript.all (Pool.contract Pool.Sample.host).unsigned = true) i
      (List.mem_of_mem_take hi))

def poolEvents (n : ℕ) : List ContractEvent := ((poolTrace n).flatMap Action.events).map .pool

/-- The row of the agent. -/
def borrower : AgentRow :=
  ⟨"agent", strKey.encode Pool.Sample.agent, .authorized, none, none, none⟩

/-- The agent and the region have been entered. -/
def seeded : Database := { fresh with agents := [borrower], regions := ["LAGOS"] }

theorem borrower_known : seeded.agentAt (strKey.encode Pool.Sample.agent) = some borrower :=
  List.find?_cons_of_pos (decide_eq_true rfl)

theorem seeded_identified : seeded.Identified := List.nodup_singleton _

def mirrored (n : ℕ) : Database :=
  (indexInOrder strKey environment "pool" 1 seeded (poolEvents n)).getD fresh

theorem mirrored_indexed {n : ℕ} (h : (indexInOrder strKey environment "pool" 1 seeded
    (poolEvents n)).isSome = true) : Indexed strKey environment seeded (poolEvents n)
      (mirrored n) := by
  obtain ⟨db, hdb⟩ := Option.isSome_iff_exists.1 h
  rw [mirrored, hdb]
  exact indexed_of_indexInOrder .nil hdb

end Sample

/-- The agent owes 60 units, and 100 according to the read model. -/
theorem not_exposure_agrees_sample : Pool.Sample.blank.store = .blank ∧
    (Pool.contract Pool.Sample.host).lts.Run Pool.Sample.blank (Sample.poolTrace 5)
      (Sample.poolAfter 5) ∧
    Sample.poolEvents 5 = ((Sample.poolTrace 5).flatMap Action.events).map .pool ∧
    Indexed Sample.strKey Sample.environment Sample.seeded (Sample.poolEvents 5)
      (Sample.mirrored 5) ∧
    Sample.seeded.agentAt (Sample.strKey.encode Pool.Sample.agent) = some Sample.borrower ∧
    ¬ ExposureAgrees (Sample.mirrored 5) (Sample.poolAfter 5).store Sample.borrower
      Pool.Sample.agent Pool.Sample.region :=
  ⟨rfl, Sample.pool_run 5, rfl, Sample.mirrored_indexed (by decide +kernel), Sample.borrower_known,
    by rw [ExposureAgrees]; decide +kernel⟩

/-- Before the repayment the read model is right. -/
theorem exposure_agrees_iff_sample : ExposureAgrees (Sample.mirrored 4) (Sample.poolAfter 4).store
    Sample.borrower Pool.Sample.agent Pool.Sample.region :=
  (exposure_agrees_iff rfl (Sample.pool_run 4) Sample.seeded_identified rfl (by decide +kernel)
    (Sample.mirrored_indexed (by decide +kernel)) Sample.borrower_known).2 (by
      rw [Mirrored, show Pool.lastMove Pool.Sample.agent Pool.Sample.region
        ((Sample.poolEvents 4).filterMap ContractEvent.ofPool) = some (.drawn 100) by
          decide +kernel]
      decide)

end Indexer

end RemitBridge
