import RemitBridge.Pool.Fund

/-!
# Accounting of the pool

In every reachable state the totals of a region are the sums of its members' entries, and the
pool holds what was deposited less what is drawn (`pool_accounting`).
-/

namespace RemitBridge

namespace Pool

open TransitionSystem Store

variable {ω : Type} {H : Host ω} {token : Address} {w₀ w w' : World ω} {l : Label ω}
  {ls : List (Label ω)}

/-! ### Steps -/

/-- The step of the fund that a step of the pool performs. -/
inductive Does : Label ω → Fund.Label Symbol Address → Prop
  | quiet {l : Label ω} : l.succeeded = false → Does l .idle
  | call {env : Env} {c : Call} {r : Ret} {m : Fund.Label Symbol Address}
      {transfers : List TokenTransfer} {events : List Event} : Performs c r m →
      Does (.call env c (.done r transfers events)) m

/-- **Every step of the pool is a step of the fund.** -/
theorem fund_step (hw : WellFormed token w.store) (h : (contract H).lts.step w l w') :
    ∃ m, Does l m ∧ Fund.Step (book w.store) m (book w'.store) ∧ WellFormed token w'.store ∧
      w'.ledger.balance token H.self =
        w.ledger.balance token H.self + Fund.inflow m + l.donated token ∧
      (depositors w.store = providers w.store →
        (∀ regionId, providers w'.store regionId ≤ 2 ^ 32 - 1) →
        depositors w'.store = providers w'.store) := by
  rcases Contract.step_cases h with hq | ⟨env, c, r, rfl, hs, h⟩
  · have hb : w'.ledger.balance token H.self = w.ledger.balance token H.self + _ :=
      hq.balance token
    refine ⟨.idle, .quiet hq.succeeded, ?_, ?_, ?_, ?_⟩
    · rw [hq.store]
      exact .idle
    · exact hq.store ▸ hw
    · rw [hb]
      simp [Fund.inflow]
    · rw [hq.store]
      exact fun h _ => h
  · obtain ⟨m, hm, href⟩ := invoke_refines (w := w.clear) hw hs h
    exact ⟨m, .call hm, href.step, href.wellFormed, by
      simpa [Action.donated] using href.balance, href.depositors⟩

theorem WellFormed.step (hw : WellFormed token w.store) (h : (contract H).lts.step w l w') :
    WellFormed token w'.store := by
  obtain ⟨m, -, -, hw', -⟩ := fund_step hw h
  exact hw'

/-! ### Runs -/

/-- A world in which the pool has just been initialised, for the token `token`. -/
structure Fresh (H : Host ω) (token : Address) (w : World ω) : Prop where
  initialized : ∃ (env : Env) (admin agentRegistry : Address)
    (collateralRatioBps defaultUtilizationCapBps : U32) (blank : World ω), blank.store = .blank ∧
    initializeContract env admin agentRegistry token collateralRatioBps defaultUtilizationCapBps
      blank = .ok ((), w)
  balance_eq : w.ledger.balance token H.self = 0

/-- The storage after the initialisation. -/
theorem store_initialized {env : Env} {admin agentRegistry : Address} {ratio cap : U32}
    (hblank : w.store = .blank)
    (h : initializeContract env admin agentRegistry token ratio cap w = .ok ((), w')) :
    w'.store = ⟨some admin, some ⟨agentRegistry, token, ratio, cap, false⟩, some .zero, [], ∅,
      ∅, ∅⟩ := by
  simp [initializeContract, hblank, Storage.blank] at h
  obtain ⟨-, -, -, rfl⟩ := h
  rfl

/-- Nobody is a member yet. -/
structure Empty (token : Address) (s : Storage) : Prop where
  wellFormed : WellFormed token s
  book_eq : book s = .empty

theorem Empty.of_store {s : Storage} {admin : Address} {config : PoolConfig}
    (hs : s = ⟨some admin, some config, some .zero, [], ∅, ∅, ∅⟩) : Empty config.token s := by
  have hbook : book s = .empty := by
    rw [hs]
    rfl
  refine ⟨?_, hbook⟩
  rw [hs] at hbook ⊢
  exact ⟨rfl, ⟨_, rfl, rfl⟩, all_empty _, all_empty _, hbook ▸ Fund.Book.sound_empty⟩

theorem Fresh.store (h : Fresh H token w) : ∃ admin config, config.token = token ∧
    w.store = ⟨some admin, some config, some .zero, [], ∅, ∅, ∅⟩ := by
  obtain ⟨env, admin, registry, ratio, cap, blank, hblank, h⟩ := h.initialized
  exact ⟨admin, ⟨registry, token, ratio, cap, false⟩, rfl, store_initialized hblank h⟩

theorem Fresh.empty (h : Fresh H token w) : Empty token w.store := by
  obtain ⟨admin, config, rfl, hs⟩ := h.store
  exact .of_store hs

theorem Fresh.book_eq (h : Fresh H token w) : book w.store = .empty := h.empty.book_eq

theorem Fresh.wellFormed (h : Fresh H token w) : WellFormed token w.store := h.empty.wellFormed

theorem Fresh.depositors_eq (h : Fresh H token w) : depositors w.store = providers w.store := by
  obtain ⟨admin, config, -, hs⟩ := h.store
  rw [hs]
  exact Finsupp.mapDomain_zero.symm

theorem Fresh.wellFormed_of_reachable (h₀ : Fresh H token w₀)
    (h : (contract H).lts.Reachable w₀ w) : WellFormed token w.store :=
  h.invariant (I := fun w => WellFormed token w.store) h₀.wellFormed fun _ _ _ hw hst => hw.step hst

/-- What the books say is in the pool. -/
theorem reserve_book (s : Storage) : (book s).reserve =
    s.pools.total fun _ state => state.totalDeposited.val - state.totalDrawn.val := by
  rw [Fund.Book.reserve, Finsupp.sum_sub_index fun _ _ _ => rfl, total_sub]
  exact congrArg₂ _ (sum_amounts _ _) (sum_amounts _ _)

/-- The pool holds what the books say, and what was given to it. -/
theorem balance_eq_reserve (h₀ : Fresh H token w₀) (h : (contract H).lts.Run w₀ ls w) :
    w.ledger.balance token H.self =
      (book w.store).reserve + (ls.map (Action.donated token)).sum := by
  have hrun := h.eq_add_sum (I := fun w => WellFormed token w.store)
    (f := fun w => w.ledger.balance token H.self - (book w.store).reserve)
    (g := Action.donated token) h₀.wellFormed (fun _ _ _ hw hst => hw.step hst)
    (fun s l s' hw hst => by
      obtain ⟨m, -, hfund, -, hbalance, -⟩ := fund_step hw hst
      rw [hbalance, Fund.step_reserve hfund]
      omega)
  have hstart : (book w₀.store).reserve = 0 := by
    rw [h₀.book_eq]
    simp [Fund.Book.reserve, Fund.Book.empty]
  have hzero := h₀.balance_eq
  omega

/-- The number of providers with shares in a region. -/
def providerCount (s : Storage) (regionId : Symbol) : ℤ :=
  s.shares.total fun key shares => if key.2 = regionId ∧ shares.val ≠ 0 then 1 else 0

theorem providers_eq_count (s : Storage) (regionId : Symbol) :
    providers s regionId = providerCount s regionId := by
  rw [providers_apply, providerCount]
  refine congrArg (fun f => total f s.shares) (funext₂ fun key shares => ?_)
  by_cases h : key.2 = regionId <;> by_cases h' : shares.val = 0 <;> simp [present, h, h']

/-- Every provider is counted, in a run in which the counter does not saturate. -/
theorem depositors_eq_providers (h₀ : Fresh H token w₀)
    (h : ((contract H).lts.restrict fun _ _ w' =>
      ∀ regionId, providerCount w'.store regionId ≤ 2 ^ 32 - 1).Run w₀ ls w) :
    depositors w.store = providers w.store := by
  have hinv := h.invariant
    (I := fun w => WellFormed token w.store ∧ depositors w.store = providers w.store)
    ⟨h₀.wellFormed, h₀.depositors_eq⟩ fun s l s' hs hst => by
      obtain ⟨m, -, -, hw, -, hcount⟩ := fund_step hs.1 hst.1
      exact ⟨hw, hcount hs.2 fun regionId => (providers_eq_count _ _).trans_le (hst.2 regionId)⟩
  exact hinv.2

/-- **Pool accounting.**  In a run without donations the totals of every region are the sums over
its members, no entry is negative, no region has lent more than was deposited, and the pool holds
what was deposited less what is drawn.  As long as the counter of depositors does not saturate, it
is the number of providers with shares. -/
theorem pool_accounting (h₀ : Fresh H token w₀) (h : (contract H).lts.Run w₀ ls w)
    (hls : ∀ l ∈ ls, l.donated token = 0) :
    (∀ regionId state, w.store.getPool regionId = some state →
      state.totalShares.val = (w.store.shares.total fun key shares =>
        if key.2 = regionId then shares.val else 0) ∧
      state.totalDrawn.val = (w.store.exposures.total fun key exposure =>
        if key.2 = regionId then exposure.val else 0) ∧
      0 ≤ state.totalDrawn.val ∧ state.totalDrawn.val ≤ state.totalDeposited.val) ∧
    (∀ provider regionId, 0 ≤ (w.store.getShares provider regionId).val) ∧
    (∀ agent regionId, 0 ≤ (w.store.getExposure agent regionId).val) ∧
    (w.ledger.balance token H.self = w.store.pools.total fun _ state =>
      state.totalDeposited.val - state.totalDrawn.val) ∧
    (((contract H).lts.restrict fun _ _ w' =>
        ∀ regionId, providerCount w'.store regionId ≤ 2 ^ 32 - 1).Run w₀ ls w →
      ∀ regionId state, w.store.getPool regionId = some state →
        state.depositorCount.val = providerCount w.store regionId) := by
  have hw := h₀.wellFormed_of_reachable ⟨_, h⟩
  refine ⟨fun regionId state hstate => ⟨?_, ?_, ?_, hw.covered hstate⟩, hw.getShares_nonneg,
    hw.getExposure_nonneg, ?_, ?_⟩
  · rw [hw.par _ _ hstate, ← book_deposited hstate, hw.sound.deposited]
    exact mapDomain_amounts _ _ _ _
  · rw [← book_drawn hstate, hw.sound.drawn]
    exact mapDomain_amounts _ _ _ _
  · rw [← book_drawn hstate]
    exact hw.sound.drawn_nonneg regionId
  · -- Without donations the balance is what the books say.
    have hdonated : (ls.map (Action.donated token)).sum = 0 :=
      List.sum_eq_zero fun x hx => by
        obtain ⟨l, hl, rfl⟩ := List.mem_map.1 hx
        exact hls l hl
    rw [balance_eq_reserve h₀ h, reserve_book, hdonated, add_zero]
  · intro h regionId state hstate
    have hcount := depositors_eq_providers h₀ h
    rw [← providers_eq_count, ← hcount, depositors_apply hstate]

/-! ### A sample run -/

namespace Sample

def admin : Address := ⟨1⟩

def provider : Address := ⟨2⟩

def other : Address := ⟨3⟩

def agent : Address := ⟨4⟩

def usd : Address := ⟨7⟩

def region : Symbol := ⟨"LAGOS"⟩

/-- A registry in which everybody is authorised and has a bond of 15000. -/
def host : Host Unit where
  self := ⟨0⟩
  tryIsAuthorized _ _ _ _ _ u := (.ok true, u)
  tryGetBond _ _ _ _ u := (.ok 15000, u)

/-- An invocation signed by `a`, with a token that refuses nothing. -/
def signedBy (a : Address) : Env := ⟨fun b => decide (b = a), fun _ => true⟩

/-- Every account but the pool holds 2⁶⁴ units of every token. -/
def blank : World Unit where
  store := .blank
  ledger := ⟨1000, fun _ a => if a = host.self then 0 else 2 ^ 64, []⟩
  events := []
  peers := ()

/-- The pool with a collateral ratio of 150% and a utilization cap of 80%. -/
def start : World Unit :=
  { blank with store := ⟨some admin, some ⟨⟨5⟩, usd, 15000, 8000, false⟩, some .zero, [], ∅, ∅, ∅⟩ }

/-- Two providers deposit 10001 units, of which an agent draws 8001. -/
def script : List (Contract.Input Call) :=
  [.call (signedBy admin) (.openRegion region 0),
    .call (signedBy provider) (.depositLiquidity provider region 10000),
    .call (signedBy other) (.depositLiquidity other region 1),
    .call (signedBy agent) (.drawLiquidity agent region 8001)]

def trace : List (Label Unit) := (contract host).trace start script

def final : World Unit := (contract host).play start script

theorem fresh_start : Fresh host usd start where
  initialized := ⟨signedBy admin, admin, ⟨5⟩, 15000, 8000, blank, rfl, rfl⟩
  balance_eq := rfl

/-- The region at the end. -/
def pool : PoolState := ⟨region, 10001, 8001, 10001, 2, 8000, true, 1000⟩

theorem final_pool : final.store.getPool region = some pool := by decide

theorem final_run : (contract host).lts.Run start trace final :=
  Contract.play_run script rfl

end Sample

theorem pool_accounting_sample :
    Sample.final.ledger.balance Sample.usd ⟨0⟩ = 10001 - 8001 :=
  (pool_accounting Sample.fresh_start Sample.final_run
    (List.forall_iff_forall_mem.1 ⟨rfl, rfl, rfl, rfl⟩)).2.2.2.1

end Pool

end RemitBridge
