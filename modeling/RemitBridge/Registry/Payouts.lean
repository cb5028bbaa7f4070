import RemitBridge.Registry.Solvency
import RemitBridge.Registry.Regions

/-!
# Payouts of bonds

All bonds share one balance and one aggregate.  The bonds on record never exceed the aggregate, and
the aggregate never exceeds the balance (`Backed`): a registration over an old record loses a claim,
but nothing makes one without paying it in.  So every bond on record can be withdrawn or slashed,
whatever happened to the other agents before (`payouts_funded`).
-/

namespace RemitBridge

namespace Registry

open Exec TransitionSystem

variable {ω : Type} {self : Address} {env : Env} {w₀ w w' : World ω} {l : Label ω}
  {ls : List (Label ω)} {c : Call} {agent : Address} {amount : I128} {record : Agent}

/-- The registry is initialised, the bonds on record are covered by the aggregate, and the aggregate
is covered by the balance. -/
structure Backed (registry : Address) (w : World ω) : Prop extends Recorded w.store where
  bondToken : w.store.bondToken.isSome
  treasury : w.store.treasury.isSome
  covered : bonded w.store ≤ w.store.getStats.totalBonded.val
  funded : ∀ token, w.store.bondToken = some token →
    w.store.getStats.totalBonded.val ≤ w.ledger.balance token registry

/-- The registry is not initialised and has no debts, or it is backed. -/
inductive Covered (self : Address) (w : World ω) : Prop
  | blank : w.store = .blank → (∀ token, 0 ≤ w.ledger.balance token self) → Covered self w
  | backed : Backed self w → Covered self w

/-! ### The bonds on record -/

/-- No bond is larger than the bonds on record together. -/
theorem Recorded.bond_le_bonded {s : Storage} (h : Recorded s)
    (ha : s.getAgent agent = some record) : record.bond.val ≤ bonded s :=
  Store.le_total (fun _ _ hk => (h.records _ _ hk).2) ha

theorem Recorded.bonded_nonneg {s : Storage} (h : Recorded s) : 0 ≤ bonded s :=
  Store.total_nonneg_of_lookup fun _ _ hk => (h.records _ _ hk).2

theorem Recorded.stranded_nonneg {s : Storage} (h : Recorded s) (c : Call) : 0 ≤ stranded c s := by
  cases c with
  | registerAgent agent => exact h.getBond_nonneg agent
  | _ => exact le_rfl

theorem Recorded.insert {s s' : Storage} (h : Recorded s) (hadmin : s'.admin.isSome)
    (hagents : s'.agents = s.agents.insert record.address record) (hnonneg : 0 ≤ record.bond.val) :
    Recorded s' :=
  ⟨hadmin, hagents ▸ h.records.insert ⟨rfl, hnonneg⟩⟩

/-! ### Steps -/

theorem Backed.of_adjusts {delta : ℤ} (h : Backed self w) (hadj : Adjusts self c delta w w') :
    Backed self w' := by
  have hbonded := hadj.bonded
  have htotal := hadj.totalBonded
  have hcovered := h.covered
  have hstranded := h.stranded_nonneg c
  refine ⟨?_, hadj.bondToken ▸ h.bondToken, ?_, by omega, ?_⟩
  · rcases hadj.agents with ⟨hagents, -⟩ | ⟨record, hagents, -, hnonneg⟩
    · exact ⟨hadj.admin, hagents ▸ h.records⟩
    · exact h.toRecorded.insert hadj.admin hagents hnonneg
  · rcases hadj.treasury with hsame | ⟨treasury, -, hset⟩
    · rw [hsame]
      exact h.treasury
    · rw [hset]
      rfl
  · intro token htoken
    rw [hadj.bondToken] at htoken
    rw [hadj.balance token htoken]
    have hfunded := h.funded token htoken
    omega

/-- A slash in favour of the registry itself lowers the aggregate and leaves the balance. -/
theorem Backed.of_slashes (h : Backed self w) (hpos : 0 < amount.val)
    (hslash : Slashes self agent amount w w') (htreasury : w.store.treasury = some self) :
    Backed self w' := by
  obtain ⟨record, rfl, hagents, hbond, hnonneg⟩ := hslash.agents
  obtain ⟨token, treasury, htoken, htreasury', hledger⟩ := hslash.paid
  obtain rfl := Option.some.inj (htreasury.symm.trans htreasury')
  obtain ⟨htoken', hadmin, htreasury''⟩ := hslash.wiring
  have hbonded := bonded_of_insert hagents
  have htotal := hslash.totalBonded
  have hcovered := h.covered
  refine ⟨h.toRecorded.insert (hadmin ▸ h.admin) hagents hnonneg, htoken' ▸ h.bondToken,
    htreasury'' ▸ h.treasury, by omega, ?_⟩
  intro token' hsome
  rw [htoken'] at hsome
  have hfunded := h.funded token' hsome
  rw [hledger, Ledger.move_balance]
  simp only [netFlow_cons, netFlow_nil]
  omega

theorem Backed.invoke {r : Ret} (h : Backed self w) (hs : env.signed self = false)
    (hinvoke : Registry.invoke self env c w = .ok (r, w')) : Backed self w' := by
  by_cases htreasury : w.store.treasury = some self
  · cases c with
    | slashAgent agent amount reason =>
      obtain ⟨slashed, h₁, -⟩ := bind_pure_ok.1 hinvoke
      obtain ⟨-, -, -, hpos, -⟩ := slashAgent_ok.1 h₁
      exact h.of_slashes hpos (slashes_of_slashAgent h.toRecorded h₁) htreasury
    | _ =>
      obtain ⟨delta, hadj⟩ := invoke_adjusts_of_recorded h.toRecorded hs (by simp) hinvoke
      exact h.of_adjusts hadj
  · obtain ⟨delta, hadj⟩ :=
      invoke_adjusts_of_recorded h.toRecorded hs (fun _ _ _ _ => htreasury) hinvoke
    exact h.of_adjusts hadj

theorem Administers.backed_of_blank (h : Administers w c w') (hblank : w.store = .blank)
    (hbalance : ∀ token, 0 ≤ w.ledger.balance token self) : Backed self w' := by
  cases h with
  | first =>
    rw [hblank]
    exact ⟨⟨rfl, Store.all_empty _⟩, rfl, rfl, le_rfl, fun token _ => hbalance token⟩
  | _ hadmin =>
    rw [hblank] at hadmin
    cases hadmin

/-- Nothing but the initialisation succeeds before it. -/
theorem backed_of_blank {r : Ret} (hblank : w.store = .blank)
    (hbalance : ∀ token, 0 ≤ w.ledger.balance token self)
    (h : invoke self env c w = .ok (r, w')) : Backed self w' := by
  have hadmin : w.store.admin = none := by rw [hblank]; rfl
  have hagent : ∀ agent record, w.store.getAgent agent ≠ some record := by
    intro agent record
    rw [hblank]
    exact (Option.some_ne_none record).symm
  cases c with
  | registerAgent =>
    obtain ⟨record, h₁, -⟩ := bind_pure_ok.1 h
    obtain ⟨-, -, region, hregion, -⟩ := registerAgent_ok.1 h₁
    rw [hblank] at hregion
    cases hregion
  | topUpBond =>
    obtain ⟨bond, h₁, -⟩ := bind_pure_ok.1 h
    obtain ⟨-, -, record, hrecord, -⟩ := topUpBond_ok.1 h₁
    exact absurd hrecord (hagent _ _)
  | withdrawBond =>
    obtain ⟨bond, h₁, -⟩ := bind_pure_ok.1 h
    obtain ⟨-, -, record, hrecord, -⟩ := withdrawBond_ok.1 h₁
    exact absurd hrecord (hagent _ _)
  | authorizeAgent => simp [invoke, authorizeAgent, bind_assoc, hadmin] at h
  | suspendAgent => simp [invoke, suspendAgent, bind_assoc, hadmin] at h
  | revokeAgent => simp [invoke, revokeAgent, bind_assoc, hadmin] at h
  | slashAgent =>
    obtain ⟨slashed, h₁, -⟩ := bind_pure_ok.1 h
    obtain ⟨admin, hsome, -⟩ := slashAgent_ok.1 h₁
    rw [hadmin] at hsome
    cases hsome
  | _ => exact (administers_of_invoke rfl h).backed_of_blank hblank hbalance

theorem Covered.step (h : Covered self w) (hst : (contract self).lts.step w l w') :
    Covered self w' := by
  rcases Contract.step_cases hst with hq | ⟨env, c, r, -, hs, hinvoke⟩
  · have hbalance : ∀ t, w.ledger.balance t self ≤ w'.ledger.balance t self := by
      intro t
      have hb : w'.ledger.balance t self = w.ledger.balance t self + _ := hq.balance t
      have hdonated := Contract.donated_nonneg hst t
      omega
    cases h with
    | blank hblank hnonneg =>
      exact .blank (hq.store.trans hblank) fun t => (hnonneg t).trans (hbalance t)
    | backed h =>
      refine .backed ⟨hq.store ▸ h.toRecorded, hq.store ▸ h.bondToken, hq.store ▸ h.treasury,
        hq.store ▸ h.covered, ?_⟩
      rw [hq.store]
      exact fun token htoken => (h.funded token htoken).trans (hbalance token)
  · cases h with
    | blank hblank hnonneg => exact .backed (backed_of_blank (w := w.clear) hblank hnonneg hinvoke)
    | backed h =>
      have hclear : Backed self w.clear :=
        ⟨h.toRecorded, h.bondToken, h.treasury, h.covered, h.funded⟩
      exact .backed (hclear.invoke hs hinvoke)

/-! ### Payouts -/

/-- The bond on the record of an agent and the aggregate go down by the amount, which goes from the
registry to `dest`, and no other record changes. -/
structure Lowered (registry token dest agent : Address) (amount : I128) (w w' : World ω) :
    Prop where
  record : ∃ before after, w.store.getAgent agent = some before ∧
    w'.store.getAgent agent = some after ∧ after.bond.val = before.bond.val - amount.val
  others : ∀ other, other ≠ agent → w'.store.getAgent other = w.store.getAgent other
  totalBonded :
    w'.store.getStats.totalBonded.val = w.store.getStats.totalBonded.val - amount.val
  paid : dest ≠ registry →
    w'.ledger.balance token registry = w.ledger.balance token registry - amount.val ∧
    w'.ledger.balance token dest = w.ledger.balance token dest + amount.val

/-- The call succeeds with exactly one transfer, of the amount from the registry to `dest`. -/
def PaysOut (self token dest agent : Address) (amount : I128) (env : Env) (c : Call)
    (w : World ω) : Prop :=
  ∃ ret events w', (contract self).lts.step w
    (.call env c (.done ret [⟨token, self, dest, amount⟩] events)) w' ∧
    Lowered self token dest agent amount w w'

theorem paid_of_move {token dest : Address} (ledger : Ledger) (h : dest ≠ self) :
    (ledger.move ⟨token, self, dest, amount⟩).balance token self =
        ledger.balance token self - amount.val ∧
      (ledger.move ⟨token, self, dest, amount⟩).balance token dest =
        ledger.balance token dest + amount.val :=
  ⟨Ledger.move_balance_source _ h.symm, Ledger.move_balance_dest _ h⟩

/-- An integer that is not negative and at most another one fits where that one does. -/
theorem exists_sub {x y : I128} (hy : 0 ≤ y.val) (hle : y.val ≤ x.val) :
    ∃ z : I128, z.val = x.val - y.val := by
  have hx := x.le_hi
  exact ⟨⟨x.val - y.val, by omega, by omega⟩, rfl⟩

theorem Backed.withdraws {token : Address} (h : Backed self w)
    (htoken : w.store.bondToken = some token) (hrecord : w.store.getAgent agent = some record)
    (hstatus : record.status ≠ .authorized) (hself : env.signed self = false)
    (hsigned : env.signed agent = true) (hpos : 0 < amount.val) (hle : amount ≤ record.bond)
    (haccepts : env.accepts ⟨token, self, agent, amount⟩ = true) :
    PaysOut self token agent agent amount env (.withdrawBond agent amount) w := by
  have haddress := (h.records _ _ hrecord).1
  -- The bond is part of the aggregate, and the balance covers the aggregate.
  have hbond := h.toRecorded.bond_le_bonded hrecord
  have hcovered := h.covered
  have hfunded := h.funded token htoken
  rw [MachineInt.le_def] at hle
  obtain ⟨left, hleft⟩ := exists_sub hpos.le hle
  obtain ⟨total, htotal⟩ : ∃ total : I128,
      total.val = w.store.getStats.totalBonded.val - amount.val := exists_sub hpos.le (by omega)
  obtain ⟨w', hw', hok⟩ : ∃ w', w' = _ ∧ withdrawBond self env agent amount w.clear =
      .ok (left, w') :=
    ⟨_, rfl, withdrawBond_ok.2 ⟨hsigned, hpos, record, hrecord, decide_eq_true hstatus,
      MachineInt.le_def.2 hle, token, htoken, ⟨hpos.le, by simp only [World.clear_balance]; omega⟩,
      haccepts, hleft, total, htotal, rfl⟩⟩
  refine ⟨.amount left, w'.events, w', Contract.step_done hself
    (bind_pure_ok.2 ⟨left, hok, rfl⟩) (by rw [hw']; rfl) rfl, ?_⟩
  obtain rfl := haddress
  subst hw'
  refine ⟨⟨record, { record with bond := left, updatedAt := w.ledger.timestamp }, hrecord,
    ?_, hleft⟩, ?_, htotal, paid_of_move w.clear.ledger⟩
  · exact AList.lookup_insert _
  · intro other hother
    exact AList.lookup_insert_ne hother

theorem AfterSlash.totalSlashed {record' : Agent} {w₁ : World ω}
    (h : AfterSlash w record record' w₁) :
    w₁.store.getStats.totalSlashed = w.store.getStats.totalSlashed := by
  cases h with
  | kept => rfl
  | suspended =>
    simp only [transitioned, Storage.getStats_putStats, countTransition]
    split_ifs <;> rfl

theorem exists_afterSlash (w : World ω) (record : Agent) :
    ∃ record' w₁, AfterSlash w record record' w₁ := by
  by_cases h : underwater w.store record
  · exact ⟨_, _, .suspended h⟩
  · exact ⟨_, _, .kept h⟩

theorem Backed.slashes {admin token treasury : Address} {reason : Symbol} (h : Backed self w)
    (hadmin : w.store.admin = some admin) (htoken : w.store.bondToken = some token)
    (htreasury : w.store.treasury = some treasury)
    (hrecord : w.store.getAgent agent = some record)
    (hregion : (w.store.getRegion record.regionId).isSome = true) (hself : env.signed self = false)
    (hsigned : env.signed admin = true) (hpos : 0 < amount.val) (hle : amount ≤ record.bond)
    (hfits : w.store.getStats.totalSlashed.val + amount.val ≤ 2 ^ 127 - 1)
    (haccepts : env.accepts ⟨token, self, treasury, amount⟩ = true) :
    PaysOut self token treasury agent amount env (.slashAgent agent amount reason) w := by
  have hbond := h.toRecorded.bond_le_bonded hrecord
  have hcovered := h.covered
  have hfunded := h.funded token htoken
  have hlow := w.store.getStats.totalSlashed.lo_le
  rw [MachineInt.le_def] at hle
  obtain ⟨left, hleft⟩ := exists_sub hpos.le hle
  obtain ⟨record', w₁, hafter⟩ := exists_afterSlash w.clear
    { record with bond := left, slashCount := record.slashCount.saturatingAdd 1 }
  obtain ⟨-, -, hledger, hstats, -⟩ := hafter.kept_eq
  obtain ⟨total, htotal⟩ : ∃ total : I128,
      total.val = w.store.getStats.totalBonded.val - amount.val := exists_sub hpos.le (by omega)
  obtain ⟨slashed, hslashed⟩ : ∃ slashed : I128,
      slashed.val = w.store.getStats.totalSlashed.val + amount.val := ⟨⟨_, by omega, hfits⟩, rfl⟩
  obtain ⟨w', hw', hok⟩ : ∃ w', w' = _ ∧ slashAgent self env agent amount reason w.clear =
      .ok (amount, w') :=
    ⟨_, rfl, slashAgent_ok.2 ⟨admin, hadmin, hsigned, hpos, record, hrecord,
      MachineInt.le_def.2 hle, treasury, htreasury, left, hleft, fun _ => hregion, record', w₁,
      hafter, token, hafter.wiring.1.trans htoken,
      ⟨hpos.le, by rw [hledger, World.clear_balance]; omega⟩, haccepts, total,
      by rw [hstats]; exact htotal, slashed, by rw [hafter.totalSlashed]; exact hslashed, rfl, rfl⟩⟩
  refine ⟨.amount amount, w'.events, w', Contract.step_done hself
    (bind_pure_ok.2 ⟨amount, hok, rfl⟩) (by rw [hw', hledger]; rfl) rfl, ?_⟩
  have hslash := slashes_of_slashAgent (w := w.clear) h.toRecorded hok
  obtain ⟨after, rfl, hagents, hafterBond, -⟩ := hslash.agents
  refine ⟨⟨record, after, hrecord, ?_, ?_⟩, ?_, hslash.totalBonded, ?_⟩
  · rw [Storage.getAgent, hagents]
    exact AList.lookup_insert _
  · rw [hafterBond]
    simp [Storage.getBond, hrecord]
  · intro other hother
    rw [Storage.getAgent, hagents]
    exact AList.lookup_insert_ne hother
  · intro hne
    rw [hw', hledger]
    exact paid_of_move w.clear.ledger hne

/-- **Bond payouts are always funded.**  In every reachable state the registry holds at least the
aggregate, which is not negative, and any part of the bond on a record can be withdrawn by an agent
that is not authorised, and slashed by the administrator as long as the total of slashes fits its
type. -/
theorem payouts_funded (h₀ : w₀.store = .blank)
    (hbalance : ∀ token, 0 ≤ w₀.ledger.balance token self)
    (h : (contract self).lts.Reachable w₀ w) :
    0 ≤ w.store.getStats.totalBonded.val ∧
    (∀ token, w.store.bondToken = some token →
      w.store.getStats.totalBonded.val ≤ w.ledger.balance token self) ∧
    ∀ agent record, w.store.getAgent agent = some record →
      ∃ admin token treasury, w.store.admin = some admin ∧ w.store.bondToken = some token ∧
        w.store.treasury = some treasury ∧
        (∀ (env : Env) (amount : I128), env.signed self = false → env.signed agent = true →
          record.status ≠ .authorized → 0 < amount.val → amount ≤ record.bond →
          env.accepts ⟨token, self, agent, amount⟩ = true →
          PaysOut self token agent agent amount env (.withdrawBond agent amount) w) ∧
        ∀ (env : Env) (amount : I128) (reason : Symbol), env.signed self = false →
          env.signed admin = true → 0 < amount.val → amount ≤ record.bond →
          w.store.getStats.totalSlashed.val + amount.val ≤ 2 ^ 127 - 1 →
          env.accepts ⟨token, self, treasury, amount⟩ = true →
          PaysOut self token treasury agent amount env (.slashAgent agent amount reason) w := by
  have hcovered : Covered self w := h.invariant (I := fun w => Covered self w)
    (.blank h₀ hbalance) fun _ _ _ hc hst => hc.step hst
  cases hcovered with
  | blank hblank =>
    rw [hblank]
    refine ⟨le_rfl, fun token htoken => ?_, fun agent record hrecord => ?_⟩
    · cases htoken
    · cases hrecord
  | backed hb =>
    obtain ⟨ls, hls⟩ := h
    have hplaced := placed_of_run h₀ hls
    refine ⟨hb.toRecorded.bonded_nonneg.trans hb.covered, hb.funded, fun agent record hrecord => ?_⟩
    obtain ⟨admin, hadmin⟩ := Option.isSome_iff_exists.1 hb.admin
    obtain ⟨token, htoken⟩ := Option.isSome_iff_exists.1 hb.bondToken
    obtain ⟨treasury, htreasury⟩ := Option.isSome_iff_exists.1 hb.treasury
    refine ⟨admin, token, treasury, hadmin, htoken, htreasury, ?_, ?_⟩
    · intro env amount hself hsigned hstatus hpos hle haccepts
      exact hb.withdraws htoken hrecord hstatus hself hsigned hpos hle haccepts
    · intro env amount reason hself hsigned hpos hle hfits haccepts
      exact hb.slashes hadmin htoken htreasury hrecord
        (hplaced.known _ _ hrecord) hself hsigned hpos
        hle hfits haccepts

/-! ### The sample agent -/

namespace Sample

theorem start_run : (contract ⟨0⟩).lts.Run blank
    [.call (signedBy admin) (.initializeContract admin usd ⟨3⟩) (.done .unit [] [])] start :=
  .single (Contract.step_done rfl rfl rfl rfl)

theorem final_reachable : (contract ⟨0⟩).lts.Reachable blank final :=
  ⟨_, start_run.append final_run⟩

/-- The record of the agent at the end. -/
def finalRecord : Agent := ⟨Sample.agent, region, usd, 200, .pending, 0, 1000, 1000⟩

theorem final_record : final.store.getAgent Sample.agent = some finalRecord := by decide

end Sample

/-- The agent withdraws its bond of 200 units. -/
theorem payouts_funded_sample : PaysOut ⟨0⟩ Sample.usd Sample.agent Sample.agent 200
    (Sample.signedBy Sample.agent) (.withdrawBond Sample.agent 200) Sample.final := by
  have hbalance : ∀ token, 0 ≤ Sample.blank.ledger.balance token ⟨0⟩ := fun _ => le_rfl
  obtain ⟨admin, token, treasury, -, htoken, -, hwithdraws, -⟩ :=
    (payouts_funded rfl hbalance Sample.final_reachable).2.2 _ _ Sample.final_record
  obtain rfl : Sample.usd = token := Option.some.inj htoken
  exact hwithdraws (Sample.signedBy Sample.agent) 200 rfl rfl (by decide) (by decide)
    (by decide) rfl

end Registry

end RemitBridge
