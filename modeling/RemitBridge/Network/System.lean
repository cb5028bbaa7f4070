import RemitBridge.Soroban.Link
import RemitBridge.Soroban.Shared
import RemitBridge.Escrow.Spec
import RemitBridge.Hook.Spec
import RemitBridge.Pool.Spec
import RemitBridge.Registry.Spec

/-!
# The network

The escrow, the compliance hook, the agent registry and the liquidity pool live on one ledger, and
may deal in the same tokens.  A step of the network is an invocation of one of them by somebody
who is none of them, a new ledger, something that concerns none of them, or a payment to one.  The
escrow calls the hook and the registry, the pool the registry, in the course of their own steps,
if that is where they are wired to; what contracts elsewhere would answer is a parameter.

From the point of view of each contract a run of the network is a run of that contract, with the
same invocations of it in the same order (`contract_runs`): what the other contracts do to the
ledger is among the things that it already allows for.
-/

namespace RemitBridge

namespace Network

open TransitionSystem Contract Exec Ledger

/-- What contracts outside the network answer, by their address. -/
structure Elsewhere where
  commitTransfer : Address → Env → U64 → (sender : Address) → (amount : I128) →
    (corridorId : Symbol) → TryCall ComplianceError I128
  isAuthorizedForCorridor : Address → Env → U64 → (agent : Address) → (corridorId : Symbol) →
    TryCall AgentRegistryError Bool
  isAuthorized : Address → Env → U64 → (agent : Address) → (regionId : Symbol) →
    TryCall AgentRegistryError Bool
  getBond : Address → Env → U64 → (agent : Address) → TryCall AgentRegistryError I128

/-- The four contracts, at different addresses, the hash function of the host, and the contracts
elsewhere. -/
structure Net where
  escrow : Address
  hook : Address
  registry : Address
  pool : Address
  distinct : [escrow, hook, registry, pool].Nodup
  sha256 : List UInt8 → BytesN 32
  elsewhere : Elsewhere

namespace Net

variable (N : Net)

/-- What the escrow relies on. -/
@[simps] def escrowHost : Escrow.Host (Hook.Storage × Registry.Storage) where
  self := N.escrow
  sha256 := N.sha256
  tryCommitTransfer callee env now sender amount corridorId peers :=
    if callee = N.hook then
      let answer := tryCall (Hook.commitTransfer env sender amount corridorId) now peers.1
      (answer.1, answer.2, peers.2)
    else (N.elsewhere.commitTransfer callee env now sender amount corridorId, peers)
  tryIsAuthorizedForCorridor callee env now agent corridorId peers :=
    (if callee = N.registry then .ok (peers.2.isAuthorizedForCorridor agent corridorId)
      else N.elsewhere.isAuthorizedForCorridor callee env now agent corridorId, peers)

/-- What the pool relies on. -/
@[simps] def poolHost : Pool.Host Registry.Storage where
  self := N.pool
  tryIsAuthorized callee env now agent regionId s :=
    (if callee = N.registry then .ok (s.isAuthorized agent regionId)
      else N.elsewhere.isAuthorized callee env now agent regionId, s)
  tryGetBond callee env now agent s :=
    (if callee = N.registry then .ok (s.getBond agent)
      else N.elsewhere.getBond callee env now agent, s)

/-- None of the contracts signed. -/
structure Unsigned (env : Env) : Prop where
  escrow : env.signed N.escrow = false
  hook : env.signed N.hook = false
  registry : env.signed N.registry = false
  pool : env.signed N.pool = false

/-- The storages of the four contracts, and the ledger they share. -/
structure State where
  escrow : Escrow.Storage
  hook : Hook.Storage
  registry : Registry.Storage
  pool : Pool.Storage
  ledger : Ledger

namespace State

variable (s : State)

/-- The world of the escrow. -/
@[simps] def escrowWorld : Escrow.World (Hook.Storage × Registry.Storage) :=
  ⟨s.escrow, s.ledger, [], (s.hook, s.registry)⟩

/-- The world of the hook. -/
@[simps] def hookWorld : Hook.World Unit := ⟨s.hook, s.ledger, [], ()⟩

/-- The world of the registry. -/
@[simps] def registryWorld : Registry.World Unit := ⟨s.registry, s.ledger, [], ()⟩

/-- The world of the pool. -/
@[simps] def poolWorld : Pool.World Registry.Storage := ⟨s.pool, s.ledger, [], s.registry⟩

/-- The state that the escrow leaves. -/
@[simps] def afterEscrow (w : Escrow.World (Hook.Storage × Registry.Storage)) : State :=
  ⟨w.store, w.peers.1, w.peers.2, s.pool, w.ledger⟩

/-- The state that the hook leaves. -/
@[simps] def afterHook (w : Hook.World Unit) : State :=
  ⟨s.escrow, w.store, s.registry, s.pool, w.ledger⟩

/-- The state that the registry leaves. -/
@[simps] def afterRegistry (w : Registry.World Unit) : State :=
  ⟨s.escrow, s.hook, w.store, s.pool, w.ledger⟩

/-- The state that the pool leaves. -/
@[simps] def afterPool (w : Pool.World Registry.Storage) : State :=
  ⟨s.escrow, s.hook, w.peers, w.store, w.ledger⟩

end State

/-- The steps of the network. -/
inductive Label where
  | escrow (env : Env) (c : Escrow.Call) (o : Outcome Escrow.Ret Escrow.Event EscrowError)
  | hook (env : Env) (c : Hook.Call) (o : Outcome Hook.Ret Hook.Event ComplianceError)
  | registry (env : Env) (c : Registry.Call)
      (o : Outcome Registry.Ret Registry.Event AgentRegistryError)
  | pool (env : Env) (c : Pool.Call) (o : Outcome Pool.Ret Pool.Event LiquidityError)
  /-- A ledger with time `t` starts. -/
  | tick (t : U64)
  /-- Others act; these are the balances afterwards. -/
  | others (balance : Address → Address → ℤ)
  /-- Somebody pays one of the contracts. -/
  | donate (contract token : Address) (amount : ℤ)

/-- The contracts of the network. -/
def contracts : List Address := [N.escrow, N.hook, N.registry, N.pool]

inductive Step : State → Label → State → Prop
  | escrow {s : State} {env : Env} {c : Escrow.Call}
      {o : Outcome Escrow.Ret Escrow.Event EscrowError}
      {w : Escrow.World (Hook.Storage × Registry.Storage)} : N.Unsigned env →
      (Escrow.contract N.escrowHost).lts.step s.escrowWorld (.call env c o) w →
      Step s (.escrow env c o) (s.afterEscrow w)
  | hook {s : State} {env : Env} {c : Hook.Call}
      {o : Outcome Hook.Ret Hook.Event ComplianceError} {w : Hook.World Unit} : N.Unsigned env →
      (Hook.contract N.hook).lts.step s.hookWorld (.call env c o) w →
      Step s (.hook env c o) (s.afterHook w)
  | registry {s : State} {env : Env} {c : Registry.Call}
      {o : Outcome Registry.Ret Registry.Event AgentRegistryError} {w : Registry.World Unit} :
      N.Unsigned env → (Registry.contract N.registry).lts.step s.registryWorld (.call env c o) w →
      Step s (.registry env c o) (s.afterRegistry w)
  | pool {s : State} {env : Env} {c : Pool.Call}
      {o : Outcome Pool.Ret Pool.Event LiquidityError} {w : Pool.World Registry.Storage} :
      N.Unsigned env → (Pool.contract N.poolHost).lts.step s.poolWorld (.call env c o) w →
      Step s (.pool env c o) (s.afterPool w)
  | tick {s : State} {t : U64} : s.ledger.timestamp ≤ t →
      Step s (.tick t) { s with ledger := { s.ledger with timestamp := t } }
  | others {s : State} {balance : Address → Address → ℤ} :
      (∀ t, ∀ a ∈ N.contracts, balance t a = s.ledger.balance t a) →
      Step s (.others balance) { s with ledger := { s.ledger with balance := balance } }
  | donate {s : State} {contract token : Address} {amount : ℤ} : contract ∈ N.contracts →
      0 ≤ amount → Step s (.donate contract token amount)
        { s with ledger := { s.ledger with
            balance := fun t a => s.ledger.balance t a +
              if t = token ∧ a = contract then amount else 0 } }

/-- The behaviour of the network. -/
def lts : TransitionSystem State Label := ⟨N.Step⟩

end Net

variable {N : Net} {s s' s₀ : Net.State} {l : Net.Label} {ls : List Net.Label} {env : Env}

/-! ### Scripts -/

namespace Net

/-- One line of a script. -/
inductive Input where
  | wait (t : U64)
  | escrow (env : Env) (c : Escrow.Call)
  | hook (env : Env) (c : Hook.Call)
  | registry (env : Env) (c : Registry.Call)
  | pool (env : Env) (c : Pool.Call)

variable (N : Net)

/-- The state after one line of a script, and the step it was. -/
def perform (s : State) : Input → State × List Label
  | .wait t =>
    if s.ledger.timestamp ≤ t then
      ({ s with ledger := { s.ledger with timestamp := t } }, [.tick t])
    else (s, [])
  | .escrow env c =>
    let K := Escrow.contract N.escrowHost
    (s.afterEscrow (K.perform s.escrowWorld (.call env c)).1,
      [.escrow env c (K.outcome s.escrowWorld env c)])
  | .hook env c =>
    let K := Hook.contract N.hook
    (s.afterHook (K.perform s.hookWorld (.call env c)).1,
      [.hook env c (K.outcome s.hookWorld env c)])
  | .registry env c =>
    let K := Registry.contract N.registry
    (s.afterRegistry (K.perform s.registryWorld (.call env c)).1,
      [.registry env c (K.outcome s.registryWorld env c)])
  | .pool env c =>
    let K := Pool.contract N.poolHost
    (s.afterPool (K.perform s.poolWorld (.call env c)).1,
      [.pool env c (K.outcome s.poolWorld env c)])

/-- The state after a script. -/
def play (s : State) : List Input → State
  | [] => s
  | i :: is => play (N.perform s i).1 is

/-- The steps of a script. -/
def trace (s : State) : List Input → List Label
  | [] => []
  | i :: is => (N.perform s i).2 ++ trace (N.perform s i).1 is

theorem trace_append (s : State) (is js : List Input) :
    N.trace s (is ++ js) = N.trace s is ++ N.trace (N.play s is) js := by
  induction is generalizing s with
  | nil => rfl
  | cons i is ih => simp [trace, play, ih]

/-- The line does not carry the signature of a contract. -/
def unsigned : Input → Bool
  | .wait _ => true
  | .escrow env _ | .hook env _ | .registry env _ | .pool env _ =>
    N.contracts.all fun a => !env.signed a

variable {N}

theorem unsigned_of_all {env : Env} (h : (N.contracts.all fun a => !env.signed a) = true) :
    N.Unsigned env := by
  simp only [contracts, List.all_cons, List.all_nil, Bool.and_true, Bool.and_eq_true,
    Bool.not_eq_true'] at h
  exact ⟨h.1, h.2.1, h.2.2.1, h.2.2.2⟩

theorem perform_run {s : State} {i : Input} (h : N.unsigned i = true) :
    N.lts.Run s (N.perform s i).2 (N.perform s i).1 := by
  cases i with
  | wait t =>
    by_cases ht : s.ledger.timestamp ≤ t
    · rw [show N.perform s (.wait t) = (_, [.tick t]) from if_pos ht]
      exact .single (.tick ht)
    · rw [show N.perform s (.wait t) = (s, []) from if_neg ht]
      exact .nil _
  | escrow env c =>
    have hs := unsigned_of_all h
    exact .single (.escrow hs (Contract.step_perform hs.escrow))
  | hook env c =>
    have hs := unsigned_of_all h
    exact .single (.hook hs (Contract.step_perform hs.hook))
  | registry env c =>
    have hs := unsigned_of_all h
    exact .single (.registry hs (Contract.step_perform hs.registry))
  | pool env c =>
    have hs := unsigned_of_all h
    exact .single (.pool hs (Contract.step_perform hs.pool))

/-- Every script is a run. -/
theorem play_run (is : List Input) {s : State} (h : is.all N.unsigned = true) :
    N.lts.Run s (N.trace s is) (N.play s is) := by
  induction is generalizing s with
  | nil => exact .nil _
  | cons i is ih =>
    rw [List.all_cons, Bool.and_eq_true] at h
    exact (perform_run h.1).append (ih h.2)

end Net

/-! ### What the contracts pay -/

theorem feeTransfers_pays {ω : Type} {H : Escrow.Host ω} {l : Ledger} {token treasury : Address}
    {fee : I128} : l.Pays env H.self (l.apply (Escrow.feeTransfers H token treasury fee)) := by
  unfold Escrow.feeTransfers
  split_ifs with h
  · exact .move (.inl rfl) h.le
  · exact .refl _ _ _

theorem escrow_pays {ω : Type} {H : Escrow.Host ω} {c : Escrow.Call} {r : Escrow.Ret}
    {w w' : Escrow.World ω} (h : Escrow.invoke H env c w = .ok (r, w')) :
    w.ledger.Pays env H.self w'.ledger := by
  cases c with
  | createTransfer =>
    obtain ⟨id, h₁, rfl⟩ := bind_pure_ok.1 h
    obtain ⟨hs, config, -, -, hpos, -, window, -, -, total, peers, -, -, -, -, volume, -, rfl⟩ :=
      Escrow.createTransfer_ok.1 h₁
    exact .move (.inr hs) hpos.le
  | cancelTransfer =>
    obtain ⟨u, h₁, rfl⟩ := bind_pure_ok.1 h
    obtain ⟨-, t, -, -, -, hamount, -, volume, -, rfl⟩ := Escrow.cancelTransfer_ok.1 h₁
    exact .move (.inl rfl) hamount.1
  | claimTransfer =>
    obtain ⟨receipt, h₁, rfl⟩ := bind_pure_ok.1 h
    obtain ⟨-, config, -, t, -, -, -, -, -, peers, -, fee, -, payout, -, hpayout, -, -, volume, -,
      settled, -, fees, -, -, rfl⟩ := Escrow.claimTransfer_ok.1 h₁
    exact .trans (.move (.inl rfl) hpayout.1) feeTransfers_pays
  | refundExpired =>
    obtain ⟨u, h₁, rfl⟩ := bind_pure_ok.1 h
    obtain ⟨t, -, -, -, hamount, -, volume, -, rfl⟩ := Escrow.refundExpired_ok.1 h₁
    exact .move (.inl rfl) hamount.1
  | _ => cases Escrow.administers_of_invoke rfl rfl h <;> exact .refl _ _ _

theorem pool_pays {ω : Type} {H : Pool.Host ω} {c : Pool.Call} {r : Pool.Ret}
    {w w' : Pool.World ω} (h : Pool.invoke H env c w = .ok (r, w')) :
    w.ledger.Pays env H.self w'.ledger := by
  cases c with
  | depositLiquidity =>
    obtain ⟨shares, h₁, rfl⟩ := bind_pure_ok.1 h
    obtain ⟨hs, hpos, config, -, -, state, -, -, -, -, -, -, held, -, totalDeposited, -,
      totalShares, -, rfl⟩ := Pool.depositLiquidity_ok.1 h₁
    exact .move (.inr hs) hpos.le
  | withdrawLiquidity =>
    obtain ⟨amount, h₁, rfl⟩ := bind_pure_ok.1 h
    obtain ⟨-, -, config, -, -, state, -, -, -, -, available, -, -, hamount, -, left, -,
      totalDeposited, -, totalShares, -, rfl⟩ := Pool.withdrawLiquidity_ok.1 h₁
    exact .move (.inl rfl) hamount.1
  | drawLiquidity =>
    obtain ⟨exposure, h₁, rfl⟩ := bind_pure_ok.1 h
    obtain ⟨-, hpos, config, -, -, state, -, -, peers, -, available, -, -, drawn, -, -, -, -,
      -, required, -, bond, peers', -, -, -, -, bps, -, rfl⟩ := Pool.drawLiquidity_ok.1 h₁
    exact .move (.inl rfl) hpos.le
  | repayLiquidity =>
    obtain ⟨exposure, h₁, rfl⟩ := bind_pure_ok.1 h
    obtain ⟨hs, hpos, config, -, state, -, -, -, -, -, drawn, -, rfl⟩ :=
      Pool.repayLiquidity_ok.1 h₁
    exact .move (.inr hs) hpos.le
  | _ => cases Pool.administers_of_invoke rfl h <;> exact .refl _ _ _

theorem registry_pays {ω : Type} {self : Address} {c : Registry.Call} {r : Registry.Ret}
    {w w' : Registry.World ω} (h : Registry.invoke self env c w = .ok (r, w')) :
    w.ledger.Pays env self w'.ledger := by
  cases c with
  -- Bonds are paid in by agents that sign, and paid out by the registry itself.
  | registerAgent =>
    obtain ⟨record, h₁, rfl⟩ := bind_pure_ok.1 h
    obtain ⟨hs, hpos, region, -, -, -, token, -, -, -, -, total, -, -, rfl⟩ :=
      Registry.registerAgent_ok.1 h₁
    exact .move (.inr hs) hpos.le
  | topUpBond =>
    obtain ⟨bond, h₁, rfl⟩ := bind_pure_ok.1 h
    obtain ⟨hs, hpos, record, -, token, -, -, -, -, total, -, rfl⟩ := Registry.topUpBond_ok.1 h₁
    exact .move (.inr hs) hpos.le
  | withdrawBond =>
    obtain ⟨bond, h₁, rfl⟩ := bind_pure_ok.1 h
    obtain ⟨-, hpos, record, -, -, -, token, -, -, -, -, total, -, rfl⟩ :=
      Registry.withdrawBond_ok.1 h₁
    exact .move (.inl rfl) hpos.le
  | authorizeAgent =>
    obtain ⟨u, h₁, rfl⟩ := bind_pure_ok.1 h
    obtain ⟨-, -, -, record, -, -, -, -, -, -, -, rfl⟩ := Registry.authorizeAgent_ok.1 h₁
    exact .refl _ _ _
  | suspendAgent =>
    obtain ⟨u, h₁, rfl⟩ := bind_pure_ok.1 h
    obtain ⟨-, -, -, record, -, -, rfl⟩ := Registry.suspendAgent_ok.1 h₁
    exact .refl _ _ _
  | revokeAgent =>
    obtain ⟨u, h₁, rfl⟩ := bind_pure_ok.1 h
    obtain ⟨-, -, -, record, -, -, rfl⟩ := Registry.revokeAgent_ok.1 h₁
    exact .refl _ _ _
  | slashAgent =>
    obtain ⟨slashed, h₁, rfl⟩ := bind_pure_ok.1 h
    obtain ⟨admin, -, -, hpos, record, -, -, treasury, -, bond, -, -, record', w₁, hafter, token, -,
      -, -, totalBonded, -, totalSlashed, -, -, rfl⟩ := Registry.slashAgent_ok.1 h₁
    obtain ⟨-, -, hledger, -⟩ := hafter.kept_eq
    simp only [hledger]
    exact .move (.inl rfl) hpos.le
  | _ =>
    cases Registry.administers_of_invoke rfl h
    exact .refl _ _ _

theorem hook_pays {ω : Type} {self : Address} {c : Hook.Call} {r : Hook.Ret}
    {w w' : Hook.World ω} (h : Hook.invoke env c w = .ok (r, w')) :
    w.ledger.Pays env self w'.ledger := by
  rcases Hook.invoke_cases h with hkeeps | ⟨sender, amount, corridorId, total, -, -, hcommit⟩
  · rw [hkeeps.ledger]
    exact .refl _ _ _
  · obtain ⟨escrow, -, -, -, -, thresholds, -, -, -, -, -, -, rfl⟩ :=
      Hook.commitTransfer_ok.1 hcommit
    exact .refl _ _ _

/-! ### What a step leaves alone -/

/-- The contract that the step invokes. -/
def Net.Label.callee (N : Net) : Net.Label → Option Address
  | .escrow .. => some N.escrow
  | .hook .. => some N.hook
  | .registry .. => some N.registry
  | .pool .. => some N.pool
  | _ => none

theorem Net.Unsigned.of_mem {a : Address} (h : N.Unsigned env) (ha : a ∈ N.contracts) :
    env.signed a = false := by
  simp only [Net.contracts, List.mem_cons, List.not_mem_nil, or_false] at ha
  rcases ha with rfl | rfl | rfl | rfl
  · exact h.escrow
  · exact h.hook
  · exact h.registry
  · exact h.pool

/-- A contract can only gain by a step that does not invoke it. -/
theorem gains_of_step {a : Address} (h : N.lts.step s l s') (ha : a ∈ N.contracts)
    (hl : l.callee N ≠ some a) : s.ledger.Gains a s'.ledger := by
  have hne : ∀ {b : Address}, some b ≠ some a → a ≠ b := fun h he => h (congrArg some he.symm)
  cases h with
  | escrow hs hst =>
    exact (pays_of_step (fun h => escrow_pays h) hst).gains (hne hl) (hs.of_mem ha)
  | hook hs hst =>
    exact (pays_of_step (fun h => hook_pays h) hst).gains (hne hl) (hs.of_mem ha)
  | registry hs hst =>
    exact (pays_of_step (fun h => registry_pays h) hst).gains (hne hl) (hs.of_mem ha)
  | pool hs hst =>
    exact (pays_of_step (fun h => pool_pays h) hst).gains (hne hl) (hs.of_mem ha)
  | tick ht => exact .of_eq ht fun _ => rfl
  | others hb => exact .of_eq le_rfl fun t => hb t a ha
  | @donate contract token amount _ hamount =>
    by_cases heq : a = contract
    · refine ⟨le_rfl, [(token, amount)], fun g hg => ?_, fun t => ?_⟩
      · obtain rfl := List.mem_singleton.1 hg
        exact hamount
      · simp [given, heq, eq_comm]
    · exact .of_eq le_rfl fun t => by simp [heq]

/-- The registry only looks things up for the escrow. -/
theorem registry_of_escrow {c : Escrow.Call} {r : Escrow.Ret}
    {w w' : Escrow.World (Hook.Storage × Registry.Storage)}
    (h : Escrow.invoke N.escrowHost env c w = .ok (r, w')) : w'.peers.2 = w.peers.2 := by
  cases c with
  | createTransfer =>
    obtain ⟨id, h₁, rfl⟩ := bind_pure_ok.1 h
    obtain ⟨-, config, -, -, -, -, window, -, -, total, peers, hcommit, -, -, -, volume, -, rfl⟩ :=
      Escrow.createTransfer_ok.1 h₁
    rw [Net.escrowHost_tryCommitTransfer] at hcommit
    split_ifs at hcommit <;> exact (congrArg (fun p => p.2.2) hcommit).symm
  | cancelTransfer =>
    obtain ⟨u, h₁, rfl⟩ := bind_pure_ok.1 h
    obtain ⟨-, t, -, -, -, -, -, volume, -, rfl⟩ := Escrow.cancelTransfer_ok.1 h₁
    rfl
  | claimTransfer =>
    obtain ⟨receipt, h₁, rfl⟩ := bind_pure_ok.1 h
    obtain ⟨-, config, -, t, -, -, -, -, -, peers, hauthorized, fee, -, payout, -, -, -, -, volume,
      -, settled, -, fees, -, -, rfl⟩ := Escrow.claimTransfer_ok.1 h₁
    exact (congrArg (fun p => p.2.2) hauthorized).symm
  | refundExpired =>
    obtain ⟨u, h₁, rfl⟩ := bind_pure_ok.1 h
    obtain ⟨t, -, -, -, -, -, volume, -, rfl⟩ := Escrow.refundExpired_ok.1 h₁
    rfl
  | _ => cases Escrow.administers_of_invoke rfl rfl h <;> rfl

/-- The registry only looks things up for the pool. -/
theorem registry_of_pool {c : Pool.Call} {r : Pool.Ret} {w w' : Pool.World Registry.Storage}
    (h : Pool.invoke N.poolHost env c w = .ok (r, w')) : w'.peers = w.peers := by
  cases c with
  | depositLiquidity =>
    obtain ⟨shares, h₁, rfl⟩ := bind_pure_ok.1 h
    obtain ⟨-, -, config, -, -, state, -, -, -, -, -, -, held, -, totalDeposited, -, totalShares, -,
      rfl⟩ := Pool.depositLiquidity_ok.1 h₁
    rfl
  | withdrawLiquidity =>
    obtain ⟨amount, h₁, rfl⟩ := bind_pure_ok.1 h
    obtain ⟨-, -, config, -, -, state, -, -, -, -, available, -, -, -, -, left, -,
      totalDeposited, -, totalShares, -, rfl⟩ := Pool.withdrawLiquidity_ok.1 h₁
    rfl
  | drawLiquidity =>
    obtain ⟨exposure, h₁, rfl⟩ := bind_pure_ok.1 h
    obtain ⟨-, -, config, -, -, state, -, -, peers, hauthorized, available, -, -, drawn, -, -, -, -,
      -, required, -, bond, peers', hbond, -, -, -, bps, -, rfl⟩ := Pool.drawLiquidity_ok.1 h₁
    have hfirst : w.peers = peers := congrArg Prod.snd hauthorized
    have hsecond : peers = peers' := congrArg Prod.snd hbond
    exact (hfirst.trans hsecond).symm
  | repayLiquidity =>
    obtain ⟨exposure, h₁, rfl⟩ := bind_pure_ok.1 h
    obtain ⟨-, -, config, -, state, -, -, -, -, -, drawn, -, rfl⟩ := Pool.repayLiquidity_ok.1 h₁
    rfl
  | _ => cases Pool.administers_of_invoke rfl h <;> rfl

/-- Nothing but its own invocations writes to the registry. -/
theorem registry_cases (h : N.lts.step s l s') : s'.registry = s.registry ∨
    ∃ env c o w, l = .registry env c o ∧ s' = s.afterRegistry w ∧
      (Registry.contract N.registry).lts.step s.registryWorld (.call env c o) w := by
  cases h with
  | escrow _ hst =>
    cases hst with
    | done _ h => exact .inl (registry_of_escrow h)
    | reverted => exact .inl rfl
  | pool _ hst =>
    cases hst with
    | done _ h => exact .inl (registry_of_pool h)
    | reverted => exact .inl rfl
  | registry _ hst => exact .inr ⟨_, _, _, _, rfl, rfl, hst⟩
  | _ => exact .inl rfl

theorem registry_eq (h : N.lts.step s l s') (hl : l.callee N ≠ some N.registry) :
    s'.registry = s.registry := by
  rcases registry_cases h with hsame | ⟨env, c, o, w, rfl, -, -⟩
  · exact hsame
  · exact absurd rfl hl

/-! ### The runs of each contract -/

/-- What the escrow sees of a step: its own invocations, and the doings of others. -/
def ForEscrow : Net.Label → List (Escrow.Label (Hook.Storage × Registry.Storage)) → Prop
  | .escrow env c o, as => as = [.call env c o]
  | _, as => ∀ a ∈ as, IsForeign a

/-- What the registry sees of a step. -/
def ForRegistry : Net.Label → List (Registry.Label Unit) → Prop
  | .registry env c o, as => as = [.call env c o]
  | _, as => ∀ a ∈ as, IsForeign a

/-- What the pool sees of a step. -/
def ForPool : Net.Label → List (Pool.Label Registry.Storage) → Prop
  | .pool env c o, as => as = [.call env c o]
  | _, as => ∀ a ∈ as, IsForeign a

theorem Net.mem_contracts (N : Net) : N.escrow ∈ N.contracts ∧ N.registry ∈ N.contracts ∧
    N.pool ∈ N.contracts ∧ N.hook ∈ N.contracts := by
  simp [Net.contracts]

theorem Net.ne (N : Net) : N.hook ≠ N.escrow ∧ N.registry ≠ N.escrow ∧ N.pool ≠ N.escrow ∧
    N.registry ≠ N.hook ∧ N.pool ≠ N.hook ∧ N.pool ≠ N.registry := by
  have h := N.distinct
  simp only [List.nodup_cons, List.mem_cons, List.not_mem_nil, or_false, not_or, List.nodup_nil,
    and_true, not_false_eq_true] at h
  tauto

theorem escrow_step (h : N.lts.step s l s') : ∃ as v, ForEscrow l as ∧
    (Escrow.contract N.escrowHost).lts.Run s.escrowWorld as v ∧ Same v s'.escrowWorld := by
  have hforeign : l.callee N ≠ some N.escrow → s'.escrow = s.escrow → ∃ as v,
      (Escrow.contract N.escrowHost).lts.Run s.escrowWorld as v ∧ Same v s'.escrowWorld ∧
        ∀ a ∈ as, IsForeign a := fun hl hstore =>
    Foreign.run ⟨hstore, gains_of_step h N.mem_contracts.1 hl⟩
  obtain ⟨hhook, hregistry, hpool, -⟩ := N.ne
  cases h with
  | escrow _ hst => exact ⟨_, _, rfl, .single hst, same_iff.2 ⟨rfl, rfl, rfl, rfl⟩⟩
  | hook =>
    obtain ⟨as, v, hrun, hv, has⟩ := hforeign (by simpa [Net.Label.callee] using hhook) rfl
    exact ⟨as, v, has, hrun, hv⟩
  | registry =>
    obtain ⟨as, v, hrun, hv, has⟩ := hforeign (by simpa [Net.Label.callee] using hregistry) rfl
    exact ⟨as, v, has, hrun, hv⟩
  | pool =>
    obtain ⟨as, v, hrun, hv, has⟩ := hforeign (by simpa [Net.Label.callee] using hpool) rfl
    exact ⟨as, v, has, hrun, hv⟩
  | tick | others | donate =>
    obtain ⟨as, v, hrun, hv, has⟩ := hforeign nofun rfl
    exact ⟨as, v, has, hrun, hv⟩

theorem registry_step (h : N.lts.step s l s') : ∃ as v, ForRegistry l as ∧
    (Registry.contract N.registry).lts.Run s.registryWorld as v ∧ Same v s'.registryWorld := by
  have hforeign : l.callee N ≠ some N.registry → ∃ as v,
      (Registry.contract N.registry).lts.Run s.registryWorld as v ∧ Same v s'.registryWorld ∧
        ∀ a ∈ as, IsForeign a := fun hl =>
    Foreign.run ⟨registry_eq h hl, gains_of_step h N.mem_contracts.2.1 hl⟩
  obtain ⟨-, hescrow, -, hhook, -, hpool⟩ := N.ne
  cases h with
  | registry _ hst => exact ⟨_, _, rfl, .single hst, same_iff.2 ⟨rfl, rfl, rfl, rfl⟩⟩
  | escrow =>
    obtain ⟨as, v, hrun, hv, has⟩ := hforeign (by simpa [Net.Label.callee] using hescrow.symm)
    exact ⟨as, v, has, hrun, hv⟩
  | hook =>
    obtain ⟨as, v, hrun, hv, has⟩ := hforeign (by simpa [Net.Label.callee] using hhook.symm)
    exact ⟨as, v, has, hrun, hv⟩
  | pool =>
    obtain ⟨as, v, hrun, hv, has⟩ := hforeign (by simpa [Net.Label.callee] using hpool)
    exact ⟨as, v, has, hrun, hv⟩
  | tick | others | donate =>
    obtain ⟨as, v, hrun, hv, has⟩ := hforeign nofun
    exact ⟨as, v, has, hrun, hv⟩

theorem pool_step (h : N.lts.step s l s') : ∃ as v, ForPool l as ∧
    (Pool.contract N.poolHost).lts.Run s.poolWorld as v ∧ Same v s'.poolWorld := by
  have hforeign : l.callee N ≠ some N.pool → s'.pool = s.pool → ∃ as v,
      (Pool.contract N.poolHost).lts.Run s.poolWorld as v ∧ Same v s'.poolWorld ∧
        ∀ a ∈ as, IsForeign a := fun hl hstore =>
    Foreign.run ⟨hstore, gains_of_step h N.mem_contracts.2.2.1 hl⟩
  obtain ⟨-, -, hescrow, -, hhook, hregistry⟩ := N.ne
  cases h with
  | pool _ hst => exact ⟨_, _, rfl, .single hst, same_iff.2 ⟨rfl, rfl, rfl, rfl⟩⟩
  | escrow =>
    obtain ⟨as, v, hrun, hv, has⟩ := hforeign (by simpa [Net.Label.callee] using hescrow.symm) rfl
    exact ⟨as, v, has, hrun, hv⟩
  | hook =>
    obtain ⟨as, v, hrun, hv, has⟩ := hforeign (by simpa [Net.Label.callee] using hhook.symm) rfl
    exact ⟨as, v, has, hrun, hv⟩
  | registry =>
    obtain ⟨as, v, hrun, hv, has⟩ := hforeign (by simpa [Net.Label.callee] using hregistry.symm) rfl
    exact ⟨as, v, has, hrun, hv⟩
  | tick | others | donate =>
    obtain ⟨as, v, hrun, hv, has⟩ := hforeign nofun rfl
    exact ⟨as, v, has, hrun, hv⟩

/-! ### The runs of the hook -/

/-- What a commit does depends on the storage and the time. -/
theorem commit_elsewhere {sender : Address} {amount total : I128} {corridorId : Symbol}
    {v v' w : Hook.World Unit} (h : Hook.commitTransfer env sender amount corridorId v =
      .ok (total, v')) (hstore : w.store = v.store)
    (htime : w.ledger.timestamp = v.ledger.timestamp) :
    ∃ w', Hook.commitTransfer env sender amount corridorId w = .ok (total, w') ∧
      w'.store = v'.store ∧ w'.ledger = w.ledger := by
  obtain ⟨escrow, hescrow, hsigned, hpos, hpaused, thresholds, hthresholds, htotal, hle, hremaining,
    hrevoked, hheld, rfl⟩ := Hook.commitTransfer_ok.1 h
  rw [← hstore, ← htime] at htotal hheld
  rw [← hstore] at hescrow hpaused hthresholds hrevoked
  refine ⟨_, Hook.commitTransfer_ok.2 ⟨escrow, hescrow, hsigned, hpos, hpaused, thresholds,
    hthresholds, htotal, hle, hremaining, hrevoked, hheld, rfl⟩, ?_, rfl⟩
  rw [hstore, htime]

/-- The hook commits what the escrow creates, or has nothing to do with it. -/
theorem hook_of_escrow {c : Escrow.Call} {r : Escrow.Ret}
    {w w' : Escrow.World (Hook.Storage × Registry.Storage)}
    (h : Escrow.invoke N.escrowHost env c w = .ok (r, w')) : w'.peers.1 = w.peers.1 ∨
      ∃ sender amount token claimHash corridorId expiry total v,
        c = .createTransfer sender amount token claimHash corridorId expiry ∧
        Hook.commitTransfer (env.invokedBy N.escrow) sender amount corridorId
          (.ofStorage w.peers.1 ⟨w.ledger.timestamp, fun _ _ => 0, []⟩) = .ok (total, v) ∧
        w'.peers.1 = v.store := by
  cases c with
  | createTransfer sender amount token claimHash corridorId expiry =>
    obtain ⟨id, h₁, rfl⟩ := bind_pure_ok.1 h
    obtain ⟨-, config, -, -, -, -, window, -, -, total, peers, hcommit, -, -, -, volume, -, rfl⟩ :=
      Escrow.createTransfer_ok.1 h₁
    rw [Net.escrowHost_tryCommitTransfer] at hcommit
    split_ifs at hcommit
    · obtain ⟨hanswer, rfl⟩ := Prod.mk.inj hcommit
      obtain ⟨v, hv, hstore⟩ := tryCall_ok.1 (Prod.ext hanswer rfl)
      exact .inr ⟨sender, amount, token, claimHash, corridorId, expiry, total, v, rfl, hv,
        hstore.symm⟩
    · exact .inl (congrArg (fun p => p.2.1) hcommit).symm
  | cancelTransfer =>
    obtain ⟨u, h₁, rfl⟩ := bind_pure_ok.1 h
    obtain ⟨-, t, -, -, -, -, -, volume, -, rfl⟩ := Escrow.cancelTransfer_ok.1 h₁
    exact .inl rfl
  | claimTransfer =>
    obtain ⟨receipt, h₁, rfl⟩ := bind_pure_ok.1 h
    obtain ⟨-, config, -, t, -, -, -, -, -, peers, hauthorized, fee, -, payout, -, -, -, -, volume,
      -, settled, -, fees, -, -, rfl⟩ := Escrow.claimTransfer_ok.1 h₁
    exact .inl (congrArg (fun p => p.2.1) hauthorized).symm
  | refundExpired =>
    obtain ⟨u, h₁, rfl⟩ := bind_pure_ok.1 h
    obtain ⟨t, -, -, -, -, -, volume, -, rfl⟩ := Escrow.refundExpired_ok.1 h₁
    exact .inl rfl
  | _ => exact .inl (by cases Escrow.administers_of_invoke rfl rfl h <;> rfl)

/-- The hook's share in the creation of a transfer. -/
def IsCommit (N : Net) (env : Env) (c : Escrow.Call) (a : Hook.Label Unit) : Prop :=
  ∃ sender amount token claimHash corridorId expiry o,
    c = .createTransfer sender amount token claimHash corridorId expiry ∧
    a = .call (env.invokedBy N.escrow) (.commitTransfer sender amount corridorId) o

/-- What the hook sees of a step: its own invocations, the commits of the escrow, and the doings of
others. -/
def ForHook (N : Net) : Net.Label → List (Hook.Label Unit) → Prop
  | .hook env c o, as => as = [.call env c o]
  | .escrow env c _, as => (∀ a ∈ as, IsForeign a) ∨
      ∃ a as', as = a :: as' ∧ IsCommit N env c a ∧ ∀ a ∈ as', IsForeign a
  | _, as => ∀ a ∈ as, IsForeign a

theorem hook_step (h : N.lts.step s l s') : ∃ as v, ForHook N l as ∧
    (Hook.contract N.hook).lts.Run s.hookWorld as v ∧ Same v s'.hookWorld := by
  have hforeign : l.callee N ≠ some N.hook → s'.hook = s.hook → ∃ as v,
      (Hook.contract N.hook).lts.Run s.hookWorld as v ∧ Same v s'.hookWorld ∧
        ∀ a ∈ as, IsForeign a := fun hl hstore =>
    Foreign.run ⟨hstore, gains_of_step h N.mem_contracts.2.2.2 hl⟩
  obtain ⟨hne, -, -, hregistry, hpool, -⟩ := N.ne
  have hcallee : ∀ env c o, (Net.Label.escrow env c o).callee N ≠ some N.hook := fun env c o => by
    simpa [Net.Label.callee] using hne.symm
  cases h with
  | hook _ hst => exact ⟨_, _, rfl, .single hst, same_iff.2 ⟨rfl, rfl, rfl, rfl⟩⟩
  | @escrow env c o w hs hst =>
    have hgains := gains_of_step (.escrow hs hst) N.mem_contracts.2.2.2 (hcallee env c o)
    cases hst with
    | reverted =>
      obtain ⟨as, v, hrun, hv, has⟩ := hforeign (hcallee _ _ _) rfl
      exact ⟨as, v, .inl has, hrun, hv⟩
    | done _ hok =>
      rcases hook_of_escrow hok with hsame | ⟨sender, amount, token, claimHash, corridorId, expiry,
        total, v, rfl, hcommit, hstore⟩
      · obtain ⟨as, v, hrun, hv, has⟩ := hforeign (hcallee _ _ _) hsame
        exact ⟨as, v, .inl has, hrun, hv⟩
      · -- The commit comes first, then what the escrow does to the ledger.
        obtain ⟨w₁, hw₁, hstore₁, hledger₁⟩ := commit_elsewhere (w := s.hookWorld.clear) hcommit rfl
          rfl
        have hsigned : (env.invokedBy N.escrow).signed N.hook = false := by
          simp [Env.invokedBy, hs.hook, hne]
        obtain ⟨as, v', hrun, hv', has⟩ := (show (Hook.contract N.hook).Foreign w₁ (s.afterEscrow
          w).hookWorld from ⟨hstore.trans hstore₁.symm, hledger₁ ▸ hgains⟩).run
        exact ⟨_, v', .inr ⟨_, as, rfl, ⟨_, _, _, _, _, _, _, rfl, rfl⟩, has⟩,
          .cons (Contract.step_done hsigned (bind_pure_ok.2 ⟨total, hw₁, rfl⟩) rfl rfl) hrun, hv'⟩
  | registry =>
    obtain ⟨as, v, hrun, hv, has⟩ := hforeign (by simpa [Net.Label.callee] using hregistry) rfl
    exact ⟨as, v, has, hrun, hv⟩
  | pool =>
    obtain ⟨as, v, hrun, hv, has⟩ := hforeign (by simpa [Net.Label.callee] using hpool) rfl
    exact ⟨as, v, has, hrun, hv⟩
  | tick | others | donate =>
    obtain ⟨as, v, hrun, hv, has⟩ := hforeign nofun rfl
    exact ⟨as, v, has, hrun, hv⟩

/-! ### Runs -/

theorem escrow_run (h : N.lts.Run s₀ ls s) : ∃ ass v, List.Forall₂ ForEscrow ls ass ∧
    (Escrow.contract N.escrowHost).lts.Run s₀.escrowWorld ass.flatten v ∧ Same v s.escrowWorld :=
  project (I := fun _ => True) (fun _ _ _ _ _ => trivial) (fun _ _ _ _ hst => escrow_step hst) h
    trivial

theorem hook_run (h : N.lts.Run s₀ ls s) : ∃ ass v, List.Forall₂ (ForHook N) ls ass ∧
    (Hook.contract N.hook).lts.Run s₀.hookWorld ass.flatten v ∧ Same v s.hookWorld :=
  project (I := fun _ => True) (fun _ _ _ _ _ => trivial) (fun _ _ _ _ hst => hook_step hst) h
    trivial

theorem registry_run (h : N.lts.Run s₀ ls s) : ∃ ass v, List.Forall₂ ForRegistry ls ass ∧
    (Registry.contract N.registry).lts.Run s₀.registryWorld ass.flatten v ∧
      Same v s.registryWorld :=
  project (I := fun _ => True) (fun _ _ _ _ _ => trivial) (fun _ _ _ _ hst => registry_step hst) h
    trivial

theorem pool_run (h : N.lts.Run s₀ ls s) : ∃ ass v, List.Forall₂ ForPool ls ass ∧
    (Pool.contract N.poolHost).lts.Run s₀.poolWorld ass.flatten v ∧ Same v s.poolWorld :=
  project (I := fun _ => True) (fun _ _ _ _ _ => trivial) (fun _ _ _ _ hst => pool_step hst) h
    trivial

/-! ### A sample run -/

namespace Testbed

def admin : Address := ⟨1⟩

def alice : Address := ⟨2⟩

def agent : Address := ⟨3⟩

def provider : Address := ⟨4⟩

def treasury : Address := ⟨5⟩

def usd : Address := ⟨7⟩

def region : Symbol := ⟨"BAMAKO"⟩

def corridor : Symbol := ⟨"SN-ML"⟩

theorem code_length : (List.replicate 32 (0 : UInt8)).length = 32 := rfl

/-- The code that releases the transfer. -/
def code : BytesN 32 := ⟨List.replicate 32 0, code_length⟩

theorem claimHash_length : (List.replicate 32 (7 : UInt8)).length = 32 := rfl

/-- Every code has this hash here. -/
def claimHash : BytesN 32 := ⟨List.replicate 32 7, claimHash_length⟩

/-- The contracts at addresses 10 to 13, and nothing else. -/
def net : Net where
  escrow := ⟨10⟩
  hook := ⟨11⟩
  registry := ⟨12⟩
  pool := ⟨13⟩
  distinct := by decide
  sha256 _ := claimHash
  elsewhere := ⟨fun _ _ _ _ _ _ => .failed, fun _ _ _ _ _ => .failed, fun _ _ _ _ _ => .failed,
    fun _ _ _ _ => .failed⟩

/-- An invocation signed by `a`, with tokens that refuse nothing. -/
def signedBy (a : Address) : Env := ⟨fun b => decide (b = a), fun _ => true⟩

/-- Every account but the contracts holds a thousand units of every token. -/
def deployed : Net.State where
  escrow := .blank
  hook := .blank
  registry := .blank
  pool := .blank
  ledger := ⟨1000, fun _ a => if a ∈ net.contracts then 0 else 1000, []⟩

/-- The contracts are initialised, an agent registers, and a provider pays into the pool. -/
def opening : List Net.Input :=
  [.registry (signedBy admin) (.initializeContract admin usd treasury),
    .hook (signedBy admin) (.initializeContract admin),
    .escrow (signedBy admin) (.initializeContract admin ⟨12⟩ ⟨11⟩ treasury 100 5000),
    .pool (signedBy admin) (.initializeContract admin ⟨12⟩ usd 15000 8000),
    .hook (signedBy admin) (.setEscrow ⟨10⟩),
    .hook (signedBy admin) (.setTierThresholds ⟨corridor, 100, 1000, 1000⟩),
    .registry (signedBy admin) (.addRegion region 100 0),
    .registry (signedBy admin) (.mapCorridor corridor region),
    .registry (signedBy agent) (.registerAgent agent region 150),
    .registry (signedBy admin) (.authorizeAgent agent),
    .pool (signedBy admin) (.openRegion region 0),
    .pool (signedBy provider) (.depositLiquidity provider region 500)]

/-- Alice makes a transfer of 100 units, and the agent draws 50 units of float. -/
def lending : List Net.Input :=
  [.escrow (signedBy alice) (.createTransfer alice 100 usd claimHash corridor 1400),
    .wait 1200, .pool (signedBy agent) (.drawLiquidity agent region 50)]

/-- The agent claims the transfer. -/
def claiming : List Net.Input :=
  [.escrow (signedBy agent) (.claimTransfer agent 1 code)]

def script : List Net.Input := opening ++ lending ++ claiming

theorem script_run : net.lts.Run deployed (net.trace deployed script) (net.play deployed script) :=
  Net.play_run script rfl

end Testbed

/-- **A run of the network is a run of each contract.**  What each of the four does in a run of the
network it does in a run of its own, with the same invocations in the same order, for the hook
those by the escrow among them; what the others do in between reaches it as gifts, as time that
passes, and as changes that do not concern it. -/
theorem contract_runs (h : N.lts.Run s₀ ls s) :
    (∃ ass v, List.Forall₂ ForEscrow ls ass ∧
      (Escrow.contract N.escrowHost).lts.Run s₀.escrowWorld ass.flatten v ∧
        Same v s.escrowWorld) ∧
    (∃ ass v, List.Forall₂ (ForHook N) ls ass ∧
      (Hook.contract N.hook).lts.Run s₀.hookWorld ass.flatten v ∧ Same v s.hookWorld) ∧
    (∃ ass v, List.Forall₂ ForRegistry ls ass ∧
      (Registry.contract N.registry).lts.Run s₀.registryWorld ass.flatten v ∧
        Same v s.registryWorld) ∧
    ∃ ass v, List.Forall₂ ForPool ls ass ∧
      (Pool.contract N.poolHost).lts.Run s₀.poolWorld ass.flatten v ∧ Same v s.poolWorld :=
  ⟨escrow_run h, hook_run h, registry_run h, pool_run h⟩

theorem contract_runs_sample : ∃ ass v,
    List.Forall₂ (ForHook Testbed.net) (Testbed.net.trace Testbed.deployed Testbed.script) ass ∧
    (Hook.contract ⟨11⟩).lts.Run Testbed.deployed.hookWorld ass.flatten v ∧
      Same v (Testbed.net.play Testbed.deployed Testbed.script).hookWorld :=
  (contract_runs Testbed.script_run).2.1

end Network

end RemitBridge
