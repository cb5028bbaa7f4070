import RemitBridge.Pool.Health

/-!
# Paying back

An agent can always pay back what it owes, or a part of it, whatever the state of the pool and its
configuration (`repayment_open`): a region that is owed something exists and has lent at least as
much, so no check of a repayment fails and nothing it computes overflows.
-/

namespace RemitBridge

namespace Pool

open Exec TransitionSystem Store

variable {ω : Type} {H : Host ω} {env : Env} {token : Address} {w₀ w w' : World ω}
  {agent : Address} {regionId : Symbol} {amount exposure : I128} {config : PoolConfig}

/-- What a repayment changes: the exposure of the agent and what its region has drawn go down by
the amount, which moves from the agent to the pool, and nothing else changes but the date of the
region. -/
structure Repaid (H : Host ω) (token agent : Address) (regionId : Symbol) (amount : I128)
    (w w' : World ω) : Prop where
  exposure : (w'.store.getExposure agent regionId).val =
    (w.store.getExposure agent regionId).val - amount.val
  region : ∃ state drawn, w.store.getPool regionId = some state ∧
    drawn.val = state.totalDrawn.val - amount.val ∧
    w'.store.getPool regionId =
      some { state with totalDrawn := drawn, updatedAt := w.ledger.timestamp }
  exposures : ∀ agent' regionId', (agent', regionId') ≠ (agent, regionId) →
    w'.store.getExposure agent' regionId' = w.store.getExposure agent' regionId'
  regions : ∀ regionId', regionId' ≠ regionId →
    w'.store.getPool regionId' = w.store.getPool regionId'
  shares : w'.store.shares = w.store.shares
  rest : (w'.store.admin, w'.store.config, w'.store.stats, w'.store.regionList) =
    (w.store.admin, w.store.config, w.store.stats, w.store.regionList)
  received : w'.ledger.balance token H.self = w.ledger.balance token H.self + amount.val
  paid : w'.ledger.balance token agent = w.ledger.balance token agent - amount.val
  balances : ∀ t a, t ≠ token ∨ a ≠ agent ∧ a ≠ H.self →
    w'.ledger.balance t a = w.ledger.balance t a

/-- The environment is that of a call by the agent that pays `amount` of the token to the pool. -/
structure Pays (H : Host ω) (token agent : Address) (env : Env) (amount : I128) : Prop where
  unsigned : env.signed H.self = false
  signed : env.signed agent = true
  positive : 0 < amount.val
  accepts : env.accepts ⟨token, agent, H.self, amount⟩ = true

/-- The step is the repayment of the amount, with one transfer. -/
def RepaysBy (H : Host ω) (token agent : Address) (regionId : Symbol) (part : Env × I128)
    (l : Label ω) : Prop :=
  ∃ exposure events, l = .call part.1 (.repayLiquidity agent regionId part.2)
    (.done (.amount exposure) [⟨token, agent, H.self, part.2⟩] events)

/-! ### One repayment -/

/-- A region that is owed something is open. -/
theorem WellFormed.exists_pool {s : Storage} (hw : WellFormed token s)
    (h : 0 < (s.getExposure agent regionId).val) : ∃ state, s.getPool regionId = some state := by
  have howed := hw.sound.debt_le_drawn agent regionId
  rw [book_debt] at howed
  cases hstate : s.getPool regionId with
  | some state => exact ⟨state, rfl⟩
  | none =>
    have hzero : (book s).drawn regionId = 0 :=
      (amounts_apply _ _ _).trans (contribution_of_none hstate)
    omega

theorem repaid_of_ok (hw : WellFormed token w.store) (hself : env.signed H.self = false)
    (h : repayLiquidity H env agent regionId amount w.clear = .ok (exposure, w')) :
    Repaid H token agent regionId amount w w' ∧
      w'.ledger.transfers = [⟨token, agent, H.self, amount⟩] := by
  obtain ⟨hsigned, -, config, hconfig, state, hstate, -, -, -, hexposure, drawn, hdrawn, rfl⟩ :=
    repayLiquidity_ok.1 h
  have hne : H.self ≠ agent := Env.ne_of_signed hself hsigned
  obtain rfl := hw.token_eq hconfig
  obtain rfl := hw.keyed _ _ hstate
  refine ⟨⟨?_, ?_, ?_, ?_, rfl, rfl, ?_, ?_, ?_⟩, rfl⟩
  · simpa [Storage.getExposure, Storage.putExposure, Storage.putPool] using hexposure
  · exact ⟨state, drawn, hstate, hdrawn, by simp [Storage.getPool]⟩
  · intro agent' regionId' hother
    simp [Storage.getExposure, hother]
  · intro regionId' hother
    simp [Storage.getPool, hother]
  · exact Ledger.move_balance_dest _ hne
  · exact Ledger.move_balance_source _ hne.symm
  · intro t a hother
    have hsource : ¬ (t = config.token ∧ a = agent) := by tauto
    have hdest : ¬ (t = config.token ∧ a = H.self) := by tauto
    simp [Ledger.move, hsource, hdest]

/-- A repayment of no more than is owed succeeds, if the agent has the money. -/
theorem WellFormed.repays (hw : WellFormed token w.store) (hpays : Pays H token agent env amount)
    (hle : amount ≤ w.store.getExposure agent regionId)
    (hbalance : amount.val ≤ w.ledger.balance token agent) :
    ∃ l w', RepaysBy H token agent regionId (env, amount) l ∧
      (contract H).lts.step w l w' ∧ Repaid H token agent regionId amount w w' := by
  rw [MachineInt.le_def] at hle
  have hpos := hpays.positive
  obtain ⟨config, hconfig, rfl⟩ := hw.config
  obtain ⟨state, hstate⟩ := hw.exists_pool (hpos.trans_le hle)
  -- The region has lent at least what the agent owes, so nothing goes below zero.
  have howed := hw.sound.debt_le_drawn agent regionId
  rw [book_debt, book_drawn hstate] at howed
  have hmax := state.totalDrawn.le_hi
  have hmax' := (w.store.getExposure agent regionId).le_hi
  obtain ⟨exposure, hexposure⟩ : ∃ exposure : I128,
      exposure.val = (w.store.getExposure agent regionId).val - amount.val :=
    ⟨⟨_, by omega, by omega⟩, rfl⟩
  obtain ⟨drawn, hdrawn⟩ : ∃ drawn : I128, drawn.val = state.totalDrawn.val - amount.val :=
    ⟨⟨_, by omega, by omega⟩, rfl⟩
  obtain ⟨w', hok⟩ : ∃ w', repayLiquidity H env agent regionId amount w.clear =
      .ok (exposure, w') :=
    ⟨_, repayLiquidity_ok.2 ⟨hpays.signed, hpos, config, hconfig, state, hstate,
      MachineInt.le_def.2 hle, ⟨hpos.le, hbalance⟩, hpays.accepts, hexposure, drawn, hdrawn, rfl⟩⟩
  obtain ⟨hrepaid, htransfers⟩ := repaid_of_ok hw hpays.unsigned hok
  exact ⟨_, w', ⟨exposure, w'.events, rfl⟩,
    Contract.step_done hpays.unsigned (bind_pure_ok.2 ⟨exposure, hok, rfl⟩) htransfers rfl, hrepaid⟩

/-! ### Repayments in parts -/

/-- Repayments of all that is owed, in any parts, leave nothing owed. -/
theorem WellFormed.repays_all (hw : WellFormed token w.store) (parts : List (Env × I128))
    (hpays : ∀ part ∈ parts, Pays H token agent part.1 part.2)
    (hsum : (parts.map fun part => part.2.val).sum = (w.store.getExposure agent regionId).val)
    (hbalance : (w.store.getExposure agent regionId).val ≤ w.ledger.balance token agent) :
    ∃ ls w', List.Forall₂ (RepaysBy H token agent regionId) parts ls ∧
      (contract H).lts.Run w ls w' ∧ (w'.store.getExposure agent regionId).val = 0 := by
  induction parts generalizing w with
  | nil => exact ⟨[], w, .nil, .nil w, hsum.symm⟩
  | cons part parts ih =>
    rw [List.map_cons, List.sum_cons] at hsum
    have hrest : 0 ≤ (parts.map fun part => part.2.val).sum :=
      List.sum_nonneg fun x hx => by
        obtain ⟨part', hmem, rfl⟩ := List.mem_map.1 hx
        exact (hpays part' (List.mem_cons_of_mem _ hmem)).positive.le
    have hle : part.2 ≤ w.store.getExposure agent regionId := by
      rw [MachineInt.le_def]
      omega
    obtain ⟨l, w₁, hl, hst, hrepaid⟩ := hw.repays (hpays part List.mem_cons_self) hle (by omega)
    have hexposure := hrepaid.exposure
    have hpaid := hrepaid.paid
    obtain ⟨ls, w₂, hls, hrun, hzero⟩ := ih (hw.step hst)
      (fun part' hmem => hpays part' (List.mem_cons_of_mem _ hmem)) (by omega) (by omega)
    exact ⟨l :: ls, w₂, .cons hl hls, hrun.cons hst, hzero⟩

/-- **Repayment is always open.**  In every reachable state in which an agent owes something to a
region, it can pay back any part of it that it has, and pay back everything in any parts. -/
theorem repayment_open (h₀ : w₀.store = .blank) (h : (contract H).lts.Reachable w₀ w)
    (hexposure : 0 < (w.store.getExposure agent regionId).val) :
    ∃ config, w.store.config = some config ∧
      (∀ env amount, Pays H config.token agent env amount →
        amount ≤ w.store.getExposure agent regionId →
        amount.val ≤ w.ledger.balance config.token agent →
        ∃ l w', RepaysBy H config.token agent regionId (env, amount) l ∧
          (contract H).lts.step w l w' ∧ Repaid H config.token agent regionId amount w w') ∧
      ∀ parts : List (Env × I128), (∀ part ∈ parts, Pays H config.token agent part.1 part.2) →
        (parts.map fun part => part.2.val).sum = (w.store.getExposure agent regionId).val →
        (w.store.getExposure agent regionId).val ≤ w.ledger.balance config.token agent →
        ∃ ls w', List.Forall₂ (RepaysBy H config.token agent regionId) parts ls ∧
          (contract H).lts.Run w ls w' ∧ (w'.store.getExposure agent regionId).val = 0 := by
  cases inOrder_of_reachable h₀ h with
  | blank hblank =>
    rw [hblank] at hexposure
    exact absurd hexposure (lt_irrefl 0)
  | live token hw hscale =>
    obtain ⟨config, hconfig, rfl⟩ := hw.config
    exact ⟨config, hconfig, fun env amount hpays hle hbalance => hw.repays hpays hle hbalance,
      fun parts hpays hsum hbalance => hw.repays_all parts hpays hsum hbalance⟩

/-- The agent of the sample run pays back 8001 units in two parts. -/
theorem repayment_open_sample : ∃ ls w', (contract Sample.host).lts.Run Sample.final ls w' ∧
    (w'.store.getExposure Sample.agent Sample.region).val = 0 := by
  have howed : 0 < (Sample.final.store.getExposure Sample.agent Sample.region).val := by decide
  obtain ⟨config, hconfig, -, hall⟩ := repayment_open rfl Sample.final_reachable howed
  obtain rfl : ⟨⟨5⟩, Sample.usd, 15000, 8000, false⟩ = config := Option.some.inj hconfig
  obtain ⟨ls, w', -, hrun, hzero⟩ := hall
    [(Sample.signedBy Sample.agent, 1), (Sample.signedBy Sample.agent, 8000)]
    (List.forall_iff_forall_mem.1 ⟨⟨rfl, rfl, by decide, rfl⟩, ⟨rfl, rfl, by decide, rfl⟩⟩)
    (by decide) (by decide)
  exact ⟨ls, w', hrun, hzero⟩

end Pool

end RemitBridge
