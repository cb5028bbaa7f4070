import RemitBridge.Network.System
import RemitBridge.Escrow.Solvency
import RemitBridge.Pool.Accounting
import RemitBridge.Registry.Payouts

/-!
# Solvency of the network

The escrow, the registry and the pool hold the tokens of others, and may hold them in the same
token and be paid by each other.  From the day on which they are deployed, each of them has what it
owes (`network_solvent`).  This is about honest tokens, which may refuse a transfer but move exactly
what they are asked to move, and take nothing back.
-/

namespace RemitBridge

open TransitionSystem Exec

/-! ### The escrow -/

namespace Escrow

variable {ω : Type} {H : Host ω} {env : Env} {w w' : World ω} {l : Label ω} {c : Call} {r : Ret}

/-- The escrow is not initialised and has no debts, or its balances cover the pending transfers. -/
inductive Covered (H : Host ω) (w : World ω) : Prop
  | blank : w.store = .blank → (∀ t, 0 ≤ w.ledger.balance t H.self) → Covered H w
  | covered : WellFormed H w → (∀ t, pendingTotal t w.store ≤ w.ledger.balance t H.self) →
      Covered H w

/-- Nothing but the initialisation succeeds before it. -/
theorem fresh_of_blank (hblank : w.store = .blank) (hnonneg : ∀ t, 0 ≤ w.ledger.balance t H.self)
    (h : invoke H env c w = .ok (r, w')) : Fresh H w' := by
  cases c with
  | initializeContract admin registry hook treasury feeBps secs =>
    obtain ⟨u, h₁, -⟩ := bind_pure_ok.1 h
    refine ⟨⟨env, admin, registry, hook, treasury, feeBps, secs, w, hblank, h₁⟩, ?_⟩
    simp [initializeContract, hblank] at h₁
    obtain ⟨-, -, -, rfl⟩ := h₁
    exact hnonneg
  | _ =>
    -- Every other entry point needs an administrator, a configuration or a transfer.
    exfalso
    revert h
    simp [invoke, bind_assoc, hblank, Storage.blank, Storage.getTransfer, createTransfer,
      cancelTransfer, claimTransfer, refundExpired, quoteClaim, setAdmin, setFeeBps, setTreasury,
      setAgentRegistry, setComplianceHook, setMaxExpiry, setPaused]

theorem Fresh.covered (h : Fresh H w) : Covered H w :=
  .covered h.wellFormed fun t => (h.pendingTotal t).trans_le (h.balance_nonneg t)

theorem Covered.clear : Covered H w.clear ↔ Covered H w := by
  constructor
  · rintro (⟨hblank, hnonneg⟩ | ⟨hw, hle⟩)
    · exact .blank hblank hnonneg
    · exact .covered (hw.congr rfl le_rfl) hle
  · rintro (⟨hblank, hnonneg⟩ | ⟨hw, hle⟩)
    · exact .blank hblank hnonneg
    · exact .covered hw.clear hle

theorem Covered.step (hw : Covered H w) (h : (contract H).lts.step w l w') : Covered H w' := by
  cases hw with
  | blank hblank hnonneg =>
    rcases Contract.step_cases h with hq | ⟨env, c, r, -, -, hok⟩
    · refine .blank (hq.store.trans hblank) fun t => ?_
      have hbalance : w'.ledger.balance t H.self = w.ledger.balance t H.self + l.donated t :=
        hq.balance t
      have hdonated := Contract.donated_nonneg h t
      have hold := hnonneg t
      omega
    · exact (fresh_of_blank (w := w.clear) hblank hnonneg hok).covered
  | covered hw hle =>
    refine .covered (hw.step h) fun t => ?_
    obtain ⟨kept, hkept, -, hsurplus⟩ := surplus_step hw h t
    have hdonated := Contract.donated_nonneg h t
    have hold := hle t
    unfold surplus at hsurplus
    omega

end Escrow

/-! ### The pool -/

namespace Pool

variable {ω : Type} {H : Host ω} {env : Env} {w w' : World ω} {l : Label ω} {c : Call} {r : Ret}

/-- The pool is not initialised and has no debts, or its balance covers what was deposited less what
is drawn. -/
inductive Covered (H : Host ω) (w : World ω) : Prop
  | blank : w.store = .blank → (∀ t, 0 ≤ w.ledger.balance t H.self) → Covered H w
  | covered {token : Address} : WellFormed token w.store →
      (book w.store).reserve ≤ w.ledger.balance token H.self → Covered H w

/-- Nothing but the initialisation succeeds before it. -/
theorem store_of_blank (hblank : w.store = .blank) (h : invoke H env c w = .ok (r, w')) :
    ∃ admin config, w'.store = ⟨some admin, some config, some .zero, [], ∅, ∅, ∅⟩ ∧
      w'.ledger = w.ledger := by
  cases c with
  | initializeContract admin registry token ratio cap =>
    obtain ⟨u, h₁, -⟩ := bind_pure_ok.1 h
    simp [initializeContract, hblank, Storage.blank] at h₁
    obtain ⟨-, -, -, rfl⟩ := h₁
    exact ⟨_, _, rfl, rfl⟩
  | _ =>
    -- Every other entry point needs an administrator or a configuration.
    exfalso
    revert h
    simp [invoke, bind_assoc, hblank, Storage.blank, setAdmin, setAgentRegistry,
      setCollateralRatio, setDefaultUtilizationCap, setUtilizationCap, setRegionActive, setPaused,
      openRegion, depositLiquidity, withdrawLiquidity, drawLiquidity, repayLiquidity]

theorem Covered.clear : Covered H w.clear ↔ Covered H w := by
  constructor
  · rintro (⟨hblank, hnonneg⟩ | ⟨hw, hle⟩)
    · exact .blank hblank hnonneg
    · exact .covered hw hle
  · rintro (⟨hblank, hnonneg⟩ | ⟨hw, hle⟩)
    · exact .blank hblank hnonneg
    · exact .covered hw hle

theorem Covered.step (hw : Covered H w) (h : (contract H).lts.step w l w') : Covered H w' := by
  cases hw with
  | blank hblank hnonneg =>
    rcases Contract.step_cases h with hq | ⟨env, c, r, -, -, hok⟩
    · refine .blank (hq.store.trans hblank) fun t => ?_
      have hbalance : w'.ledger.balance t H.self = w.ledger.balance t H.self + l.donated t :=
        hq.balance t
      have hdonated := Contract.donated_nonneg h t
      have hold := hnonneg t
      omega
    · obtain ⟨admin, config, hstore, hledger⟩ := store_of_blank (w := w.clear) hblank hok
      have hempty := Empty.of_store hstore
      refine .covered hempty.wellFormed ?_
      rw [hempty.book_eq, hledger]
      simpa [Fund.Book.reserve, Fund.Book.empty] using hnonneg config.token
  | @covered token hw hle =>
    obtain ⟨m, -, hfund, hw', hbalance, -⟩ := fund_step hw h
    have hdonated := Contract.donated_nonneg h token
    refine .covered hw' ?_
    rw [hbalance, Fund.step_reserve hfund]
    omega

end Pool

/-! ### The registry -/

namespace Registry

variable {ω : Type} {self : Address} {w : World ω}

theorem Covered.clear : Covered self w.clear ↔ Covered self w := by
  constructor
  · rintro (⟨hblank, hnonneg⟩ | hb)
    · exact .blank hblank hnonneg
    · exact .backed ⟨hb.toRecorded, hb.bondToken, hb.treasury, hb.covered, hb.funded⟩
  · rintro (⟨hblank, hnonneg⟩ | hb)
    · exact .blank hblank hnonneg
    · exact .backed ⟨hb.toRecorded, hb.bondToken, hb.treasury, hb.covered, hb.funded⟩

end Registry

/-! ### The network -/

namespace Network

variable {N : Net} {s₀ s : Net.State} {ls : List Net.Label}

/-- The contracts have been deployed, and not been initialised. -/
structure Net.Deployed (N : Net) (s : Net.State) : Prop where
  escrow : s.escrow = .blank
  hook : s.hook = .blank
  registry : s.registry = .blank
  pool : s.pool = .blank
  balance_nonneg : ∀ a ∈ N.contracts, ∀ t, 0 ≤ s.ledger.balance t a

section

variable (h₀ : N.Deployed s₀) (h : N.lts.Run s₀ ls s)

include h₀ h

theorem escrow_covered : Escrow.Covered N.escrowHost s.escrowWorld := by
  obtain ⟨ass, v, -, hrun, hv⟩ := escrow_run h
  exact hv.invariant (fun _ => Escrow.Covered.clear) (fun _ _ _ hw hst => hw.step hst)
    (.blank h₀.escrow (h₀.balance_nonneg _ N.mem_contracts.1)) hrun

theorem registry_covered : Registry.Covered N.registry s.registryWorld := by
  obtain ⟨ass, v, -, hrun, hv⟩ := registry_run h
  exact hv.invariant (fun _ => Registry.Covered.clear) (fun _ _ _ hw hst => hw.step hst)
    (.blank h₀.registry (h₀.balance_nonneg _ N.mem_contracts.2.1)) hrun

theorem pool_covered : Pool.Covered N.poolHost s.poolWorld := by
  obtain ⟨ass, v, -, hrun, hv⟩ := pool_run h
  exact hv.invariant (fun _ => Pool.Covered.clear) (fun _ _ _ hw hst => hw.step hst)
    (.blank h₀.pool (h₀.balance_nonneg _ N.mem_contracts.2.2.1)) hrun

end

/-- **Solvency of the network.**  As all tokens are honest, whatever invocations of the four
contracts there are after the deployment, the escrow holds the amounts of its pending transfers in
every token, the registry holds the bonds on record in the bond token, and the pool holds what was
deposited in its regions less what is drawn. -/
theorem network_solvent (h₀ : N.Deployed s₀) (h : N.lts.Run s₀ ls s) :
    (∀ t, (s.escrow.transfers.total fun _ transfer =>
      if transfer.status = .pending ∧ transfer.token = t then transfer.amount.val else 0) ≤
        s.ledger.balance t N.escrow) ∧
    (∀ t, s.registry.bondToken = some t →
      (s.registry.agents.total fun _ record => record.bond.val) ≤
        s.ledger.balance t N.registry) ∧
    ∀ config, s.pool.config = some config →
      (s.pool.pools.total fun _ state => state.totalDeposited.val - state.totalDrawn.val) ≤
        s.ledger.balance config.token N.pool := by
  refine ⟨fun t => ?_, fun t ht => ?_, fun config hconfig => ?_⟩
  · cases escrow_covered h₀ h with
    | blank hblank hnonneg =>
      simp only [Net.State.escrowWorld_store] at hblank
      rw [hblank]
      exact hnonneg t
    | covered _ hle => exact hle t
  · cases registry_covered h₀ h with
    | blank hblank =>
      simp only [Net.State.registryWorld_store] at hblank
      rw [hblank] at ht
      cases ht
    | backed hb => exact hb.covered.trans (hb.funded t ht)
  · cases pool_covered h₀ h with
    | blank hblank =>
      simp only [Net.State.poolWorld_store] at hblank
      rw [hblank] at hconfig
      cases hconfig
    | covered hw hle =>
      rw [Pool.reserve_book] at hle
      exact hw.token_eq hconfig ▸ hle

/-! ### The sample run -/

namespace Testbed

theorem deployed_deployed : net.Deployed deployed where
  escrow := rfl
  hook := rfl
  registry := rfl
  pool := rfl
  balance_nonneg _ ha _ := (if_pos ha).ge

/-- With 100 units in escrow and 50 units of float drawn. -/
def lent : Net.State := net.play deployed (opening ++ lending)

theorem lent_run : net.lts.Run deployed (net.trace deployed (opening ++ lending)) lent :=
  Net.play_run (opening ++ lending) rfl

end Testbed

theorem network_solvent_sample : 450 ≤ Testbed.lent.ledger.balance Testbed.usd ⟨13⟩ := by
  have hconfig : Testbed.lent.pool.config = some ⟨⟨12⟩, Testbed.usd, 15000, 8000, false⟩ := by
    decide
  have hsolvent := (network_solvent Testbed.deployed_deployed Testbed.lent_run).2.2 _ hconfig
  exact hsolvent

end Network

end RemitBridge
