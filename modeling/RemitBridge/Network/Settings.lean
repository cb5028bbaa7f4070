import RemitBridge.Network.Solvency
import RemitBridge.Escrow.Settings
import RemitBridge.Hook.Settings
import RemitBridge.Pool.Settings
import RemitBridge.Registry.Settings

/-!
# The administration of the network

The settings of the four contracts, together, are a state machine (`Settings.configure`) whose
inputs are invocations.  In any run of the network this machine accepts the successful invocations
one after the other, the settings are those it ends with, whatever else happens, and it knows which
administrative calls succeed next (`settings_refined`).  A step that changes the settings of a
contract is signed by its administrator, or initialises it (`governed`).
-/

namespace RemitBridge

namespace Network

open TransitionSystem Contract Exec

variable {N : Net} {s₀ s s' : Net.State} {l : Net.Label} {ls : List Net.Label} {env : Env}

namespace Net

/-- The settings of the four contracts. -/
@[ext] structure Settings where
  escrow : Escrow.Settings
  hook : Hook.Settings
  registry : Registry.Settings
  pool : Pool.Settings

/-- The settings of the network. -/
@[simps] def State.settings (s : State) : Settings :=
  ⟨s.escrow.settings, s.hook.settings, s.registry.settings, s.pool.settings⟩

/-- The settings after an administrative call; none if it is refused, or is not one. -/
def Settings.configure (g : Settings) : Input → Option Settings
  | .wait _ => none
  | .escrow env c => (g.escrow.configure env c).map fun escrow => { g with escrow }
  | .hook env c => (g.hook.configure env c).map fun hook => { g with hook }
  | .registry env c => (g.registry.configure env c).map fun registry => { g with registry }
  | .pool env c => (g.pool.configure env c).map fun pool => { g with pool }

/-- Whether the invocation is about the settings. -/
def Input.changesSettings : Input → Bool
  | .wait _ => false
  | .escrow _ c => c.changesSettings
  | .hook _ c => c.changesSettings
  | .registry _ c => c.changesSettings
  | .pool _ c => c.changesSettings

/-- The settings after an invocation that may be administrative or not, unless it is refused. -/
def Settings.step (g : Settings) (i : Input) : Option Settings :=
  if i.changesSettings then g.configure i else some g

/-- The invocation that the step is, if it succeeded. -/
def Label.succeeded : Label → Option Input
  | .escrow env c (.done ..) => some (.escrow env c)
  | .hook env c (.done ..) => some (.hook env c)
  | .registry env c (.done ..) => some (.registry env c)
  | .pool env c (.done ..) => some (.pool env c)
  | _ => none

/-- The invocation that the step is, whether it succeeded or not. -/
def Label.invocation : Label → Option Input
  | .escrow env c _ => some (.escrow env c)
  | .hook env c _ => some (.hook env c)
  | .registry env c _ => some (.registry env c)
  | .pool env c _ => some (.pool env c)
  | _ => none

theorem Label.invocation_of_succeeded {i : Input} (h : l.succeeded = some i) :
    l.invocation = some i := by
  rcases l with ⟨_, _, _ | _⟩ | ⟨_, _, _ | _⟩ | ⟨_, _, _ | _⟩ | ⟨_, _, _ | _⟩ | _ | _ | _ <;>
    first | exact h | cases h

/-! ### The four contracts -/

namespace Input

end Input

namespace Settings

variable {g g' : Settings} {env : Env}

end Settings

end Net

/-! ### One step -/

/-- Creating a transfer does not touch the settings of the hook. -/
theorem hook_settings_of_escrow {c : Escrow.Call} {r : Escrow.Ret}
    {w w' : Escrow.World (Hook.Storage × Registry.Storage)}
    (h : Escrow.invoke N.escrowHost env c w = .ok (r, w')) :
    w'.peers.1.settings = w.peers.1.settings := by
  rcases hook_of_escrow h with hsame | ⟨sender, amount, token, claimHash, corridorId, expiry, total,
    v, -, hcommit, hstore⟩
  · rw [hsame]
  · obtain ⟨escrow, -, -, -, -, thresholds, -, -, -, -, -, -, rfl⟩ :=
      Hook.commitTransfer_ok.1 hcommit
    rw [hstore]
    rfl

theorem pool_keyed (h₀ : N.Deployed s₀) (h : N.lts.Run s₀ ls s) :
    Store.All (fun regionId (state : PoolState) => state.regionId = regionId) s.pool.pools := by
  cases pool_covered h₀ h with
  | blank hblank =>
    simp only [Net.State.poolWorld_store] at hblank
    rw [hblank]
    exact Store.all_empty _
  | covered hw => exact hw.keyed

/-- A step that is no successful invocation leaves all settings alone; an invocation leaves them
alone, or configures them. -/
theorem settings_cases (h₀ : N.Deployed s₀) (h : N.lts.Run s₀ ls s) (hst : N.lts.step s l s') :
    (l.succeeded = none ∧ s'.settings = s.settings) ∨
    ∃ i, l.succeeded = some i ∧
      ((i.changesSettings = false ∧ s'.settings = s.settings ∧ s.settings.configure i = none) ∨
        s.settings.configure i = some s'.settings) := by
  cases hst with
  | escrow _ hst =>
    cases hst with
    | done _ hok =>
      -- The escrow calls the hook, which commits the volume and keeps its settings.
      have hhook := hook_settings_of_escrow hok
      have hregistry := registry_of_escrow hok
      refine .inr ⟨_, rfl, (Escrow.settings_of_invoke hok).imp ?_ fun hset => ?_⟩
      · rintro ⟨hfalse, hsame, hnone⟩
        exact ⟨hfalse, Net.Settings.ext hsame hhook (congrArg Registry.Storage.settings hregistry)
          rfl, congrArg (Option.map _) hnone⟩
      · refine (congrArg (Option.map _) hset).trans (congrArg some ?_)
        exact Net.Settings.ext rfl hhook.symm
          (congrArg Registry.Storage.settings hregistry.symm) rfl
    | reverted => exact .inl ⟨rfl, rfl⟩
  | hook _ hst =>
    cases hst with
    | done _ hok =>
      refine .inr ⟨_, rfl, (Hook.settings_of_invoke hok).imp ?_ fun hset => ?_⟩
      · rintro ⟨hfalse, hsame, hnone⟩
        exact ⟨hfalse, Net.Settings.ext rfl hsame rfl rfl, congrArg (Option.map _) hnone⟩
      · exact congrArg (Option.map _) hset
    | reverted => exact .inl ⟨rfl, rfl⟩
  | registry _ hst =>
    cases hst with
    | done _ hok =>
      refine .inr ⟨_, rfl, (Registry.settings_of_invoke hok).imp ?_ fun hset => ?_⟩
      · rintro ⟨hfalse, hsame, hnone⟩
        exact ⟨hfalse, Net.Settings.ext rfl rfl hsame rfl, congrArg (Option.map _) hnone⟩
      · exact congrArg (Option.map _) hset
    | reverted => exact .inl ⟨rfl, rfl⟩
  | pool _ hst =>
    cases hst with
    | done _ hok =>
      -- The pool only reads from the registry.
      have hregistry := registry_of_pool hok
      refine .inr ⟨_, rfl, (Pool.settings_of_invoke (pool_keyed h₀ h) hok).imp ?_ fun hset => ?_⟩
      · rintro ⟨hfalse, hsame, hnone⟩
        exact ⟨hfalse,
          Net.Settings.ext rfl rfl (congrArg Registry.Storage.settings hregistry) hsame,
          congrArg (Option.map _) hnone⟩
      · refine (congrArg (Option.map _) hset).trans (congrArg some ?_)
        exact Net.Settings.ext rfl rfl (congrArg Registry.Storage.settings hregistry.symm) rfl
    | reverted => exact .inl ⟨rfl, rfl⟩
  | tick | others | donate => exact .inl ⟨rfl, rfl⟩

/-- Whatever the settings machine configures is about the settings. -/
theorem changesSettings_of_configure {g g' : Net.Settings} {i : Net.Input}
    (h : g.configure i = some g') : i.changesSettings = true := by
  cases i with
  | wait => cases h
  | escrow env c => cases c <;> first | rfl | cases h
  | hook env c => cases c <;> first | rfl | cases h
  | registry env c => cases c <;> first | rfl | cases h
  | pool env c => cases c <;> first | rfl | cases h

theorem settings_step (h₀ : N.Deployed s₀) (h : N.lts.Run s₀ ls s) (hst : N.lts.step s l s') :
    l.succeeded.elim (some s.settings) s.settings.step = some s'.settings := by
  rcases settings_cases h₀ h hst with ⟨hnone, hsame⟩ | ⟨i, hi, ⟨hfalse, hsame, -⟩ | hset⟩
  · rw [hnone, hsame]
    rfl
  · rw [hi, hsame]
    simp [Net.Settings.step, hfalse]
  · rw [hi]
    simp [Net.Settings.step, changesSettings_of_configure hset, hset]

/-! ### Runs -/

/-- **The settings of the network.**  In every run the administrative machine accepts the successful
invocations one after the other, and the settings are those that it ends with. -/
theorem settings_of_run (h₀ : N.Deployed s₀) (h : N.lts.Run s₀ ls s) :
    (ls.filterMap Net.Label.succeeded).foldlM Net.Settings.step s₀.settings =
      some s.settings := by
  induction h with
  | nil => rfl
  | @snoc s s' ls l h hst ih =>
    have hstep := settings_step h₀ h hst
    rw [List.filterMap_append, List.foldlM_append, ih]
    cases hl : l.succeeded with
    | none => simpa [hl] using hstep
    | some i => simpa [hl] using hstep

/-! ### Administrative calls -/

/-- **An administrative call that is allowed succeeds**, and moves no tokens. -/
theorem perform_of_configure {i : Net.Input} {g : Net.Settings} (h₀ : N.Deployed s₀)
    (h : N.lts.Run s₀ ls s) (hset : s.settings.configure i = some g) :
    (N.perform s i).2.filterMap Net.Label.succeeded = [i] ∧
      (N.perform s i).1.ledger.balance = s.ledger.balance := by
  cases i with
  | wait => cases hset
  | escrow env c =>
    obtain ⟨g, hg, -⟩ := Option.map_eq_some_iff.1 hset
    obtain ⟨r, w', hok, -, hledger⟩ :=
      Escrow.invoke_of_configure (H := N.escrowHost) (w := s.escrowWorld.clear) hg
    simp [Net.perform, Contract.perform, Contract.outcome, Escrow.contract, hok, hledger,
      Net.Label.succeeded]
  | hook env c =>
    obtain ⟨g, hg, -⟩ := Option.map_eq_some_iff.1 hset
    obtain ⟨r, w', hok, -, hledger⟩ := Hook.invoke_of_configure (w := s.hookWorld.clear) hg
    simp [Net.perform, Contract.perform, Contract.outcome, Hook.contract, hok, hledger,
      Net.Label.succeeded]
  | registry env c =>
    obtain ⟨g, hg, -⟩ := Option.map_eq_some_iff.1 hset
    obtain ⟨r, w', hok, -, hledger⟩ : ∃ r w', Registry.invoke N.registry env c
        s.registryWorld.clear = .ok (r, w') ∧ w'.store.settings = g ∧
          w'.ledger = s.registryWorld.clear.ledger := Registry.invoke_of_configure hg
    simp [Net.perform, Contract.perform, Contract.outcome, Registry.contract, hok, hledger,
      Net.Label.succeeded]
  | pool env c =>
    obtain ⟨g, hg, -⟩ := Option.map_eq_some_iff.1 hset
    obtain ⟨r, w', hok, -, hledger⟩ := Pool.invoke_of_configure (H := N.poolHost)
      (w := s.poolWorld.clear) (pool_keyed h₀ h) hg
    simp [Net.perform, Contract.perform, Contract.outcome, Pool.contract, hok, hledger,
      Net.Label.succeeded]

theorem perform_succeeded (i : Net.Input) :
    (N.perform s i).2.filterMap Net.Label.succeeded = [i] ∨
      (N.perform s i).2.filterMap Net.Label.succeeded = [] := by
  cases i with
  | wait t =>
    right
    by_cases ht : s.ledger.timestamp ≤ t <;> simp [Net.perform, ht, Net.Label.succeeded]
  | escrow env c =>
    cases ho : (Escrow.contract N.escrowHost).outcome s.escrowWorld env c <;>
      simp [Net.perform, ho, Net.Label.succeeded]
  | hook env c =>
    cases ho : (Hook.contract N.hook).outcome s.hookWorld env c <;>
      simp [Net.perform, ho, Net.Label.succeeded]
  | registry env c =>
    cases ho : (Registry.contract N.registry).outcome s.registryWorld env c <;>
      simp [Net.perform, ho, Net.Label.succeeded]
  | pool env c =>
    cases ho : (Pool.contract N.poolHost).outcome s.poolWorld env c <;>
      simp [Net.perform, ho, Net.Label.succeeded]

/-- An administrative call succeeds exactly if it is allowed, and then makes the settings. -/
theorem perform_administrative {i : Net.Input} (h₀ : N.Deployed s₀) (h : N.lts.Run s₀ ls s)
    (hs : N.unsigned i = true) (hi : i.changesSettings = true) :
    ((N.perform s i).2.filterMap Net.Label.succeeded = [i] ∧
      s.settings.configure i = some (N.perform s i).1.settings) ∨
    ((N.perform s i).2.filterMap Net.Label.succeeded = [] ∧ s.settings.configure i = none) := by
  have hrun := settings_of_run h₀ (h.append (Net.perform_run hs))
  rw [List.filterMap_append, List.foldlM_append, settings_of_run h₀ h, Option.bind_eq_bind,
    Option.bind_some] at hrun
  rcases perform_succeeded (N := N) (s := s) i with hone | hnone
  · rw [hone] at hrun
    exact .inl ⟨hone, by simpa [Net.Settings.step, hi] using hrun⟩
  · refine .inr ⟨hnone, Option.eq_none_iff_forall_ne_some.2 fun g hg => ?_⟩
    cases hnone.symm.trans (perform_of_configure h₀ h hg).1

/-- **The settings are those of the administrative machine**, in every run; and after the run an
administrative call succeeds exactly if the machine accepts it.  It makes the settings of the
machine then and moves no tokens. -/
theorem settings_refined (h₀ : N.Deployed s₀) (h : N.lts.Run s₀ ls s) :
    (ls.filterMap Net.Label.succeeded).foldlM Net.Settings.step s₀.settings = some s.settings ∧
    ∀ i, N.unsigned i = true → i.changesSettings = true →
      (s.settings.configure i = none → (N.perform s i).2.filterMap Net.Label.succeeded = []) ∧
      ∀ g, s.settings.configure i = some g →
        (N.perform s i).2.filterMap Net.Label.succeeded = [i] ∧
          (N.perform s i).1.settings = g ∧
          (N.perform s i).1.ledger.balance = s.ledger.balance := by
  refine ⟨settings_of_run h₀ h, fun i hs hi => ?_⟩
  rcases perform_administrative h₀ h hs hi with ⟨hone, hset⟩ | ⟨hnone, hset⟩
  · refine ⟨fun hno => ?_, fun g hg => ⟨hone, ?_, (perform_of_configure h₀ h hg).2⟩⟩
    · cases hset.symm.trans hno
    · exact Option.some.inj (hset.symm.trans hg)
  · refine ⟨fun _ => hnone, fun g hg => ?_⟩
    cases hset.symm.trans hg

theorem settings_refined_sample :
    ((Testbed.net.trace Testbed.deployed (Testbed.opening ++ Testbed.lending)).filterMap
      Net.Label.succeeded).foldlM Net.Settings.step Testbed.deployed.settings =
        some Testbed.lent.settings :=
  (settings_refined Testbed.deployed_deployed Testbed.lent_run).1

/-! ### Who changes them -/

/-- **Only administrators change settings.**  If a step of a run from the deployment on changes the
settings of a contract, it is an invocation of this contract, and signed by its administrator,
unless the contract has none yet. -/
theorem governed (h₀ : N.Deployed s₀) (h : N.lts.Run s₀ ls s) (hst : N.lts.step s l s') :
    (s'.escrow.settings ≠ s.escrow.settings → ∃ env c, l.invocation = some (.escrow env c) ∧
      (s.escrow.admin = none ∨ ∃ admin, s.escrow.admin = some admin ∧ env.signed admin = true)) ∧
    (s'.hook.settings ≠ s.hook.settings → ∃ env c, l.invocation = some (.hook env c) ∧
      (s.hook.admin = none ∨ ∃ admin, s.hook.admin = some admin ∧ env.signed admin = true)) ∧
    (s'.registry.settings ≠ s.registry.settings → ∃ env c, l.invocation = some (.registry env c) ∧
      (s.registry.admin = none ∨
        ∃ admin, s.registry.admin = some admin ∧ env.signed admin = true)) ∧
    (s'.pool.settings ≠ s.pool.settings → ∃ env c, l.invocation = some (.pool env c) ∧
      (s.pool.admin = none ∨ ∃ admin, s.pool.admin = some admin ∧ env.signed admin = true)) := by
  have hkept : s'.settings = s.settings → s'.escrow.settings = s.escrow.settings ∧
      s'.hook.settings = s.hook.settings ∧ s'.registry.settings = s.registry.settings ∧
      s'.pool.settings = s.pool.settings := by
    simp [Net.State.settings]
  rcases settings_cases h₀ h hst with ⟨-, hsame⟩ | ⟨i, hi, ⟨-, hsame, -⟩ | hset⟩
  · obtain ⟨hescrow, hhook, hregistry, hpool⟩ := hkept hsame
    exact ⟨absurd hescrow, absurd hhook, absurd hregistry, absurd hpool⟩
  · obtain ⟨hescrow, hhook, hregistry, hpool⟩ := hkept hsame
    exact ⟨absurd hescrow, absurd hhook, absurd hregistry, absurd hpool⟩
  · -- One contract is configured, and the settings of the other three stay.
    cases i with
    | wait => cases hset
    | escrow env c =>
      obtain ⟨g, hg, hsettings⟩ := Option.map_eq_some_iff.1 hset
      simp only [Net.State.settings, Net.Settings.mk.injEq] at hsettings
      obtain ⟨-, hhook, hregistry, hpool⟩ := hsettings
      refine ⟨fun _ => ⟨env, c, Net.Label.invocation_of_succeeded hi, ?_⟩, absurd hhook.symm,
        absurd hregistry.symm, absurd hpool.symm⟩
      exact Escrow.administration.governs_of_configure hg
    | hook env c =>
      obtain ⟨g, hg, hsettings⟩ := Option.map_eq_some_iff.1 hset
      simp only [Net.State.settings, Net.Settings.mk.injEq] at hsettings
      obtain ⟨hescrow, -, hregistry, hpool⟩ := hsettings
      refine ⟨absurd hescrow.symm, fun _ => ⟨env, c, Net.Label.invocation_of_succeeded hi, ?_⟩,
        absurd hregistry.symm, absurd hpool.symm⟩
      exact Hook.administration.governs_of_configure hg
    | registry env c =>
      obtain ⟨g, hg, hsettings⟩ := Option.map_eq_some_iff.1 hset
      simp only [Net.State.settings, Net.Settings.mk.injEq] at hsettings
      obtain ⟨hescrow, hhook, -, hpool⟩ := hsettings
      refine ⟨absurd hescrow.symm, absurd hhook.symm,
        fun _ => ⟨env, c, Net.Label.invocation_of_succeeded hi, ?_⟩, absurd hpool.symm⟩
      exact Registry.administration.governs_of_configure hg
    | pool env c =>
      obtain ⟨g, hg, hsettings⟩ := Option.map_eq_some_iff.1 hset
      simp only [Net.State.settings, Net.Settings.mk.injEq] at hsettings
      obtain ⟨hescrow, hhook, hregistry, -⟩ := hsettings
      refine ⟨absurd hescrow.symm, absurd hhook.symm, absurd hregistry.symm,
        fun _ => ⟨env, c, Net.Label.invocation_of_succeeded hi, ?_⟩⟩
      exact Pool.administration.governs_of_configure hg

/-- While float is drawn and a transfer is pending, the administrator raises the fee. -/
theorem governed_sample : ∃ env c,
    (Net.Label.escrow (Testbed.signedBy Testbed.admin) (.setFeeBps 200)
      (.done .unit [] [.configUpdated ⟨"fee"⟩ 200 false 5000])).invocation = some (.escrow env c) ∧
    (Testbed.lent.escrow.admin = none ∨
      ∃ admin, Testbed.lent.escrow.admin = some admin ∧ env.signed admin = true) := by
  have hst : Testbed.net.lts.step Testbed.lent (.escrow (Testbed.signedBy Testbed.admin)
      (.setFeeBps 200) (.done .unit [] [.configUpdated ⟨"fee"⟩ 200 false 5000])) _ :=
    .escrow (Net.unsigned_of_all rfl) (Contract.step_done rfl rfl rfl rfl)
  refine (governed Testbed.deployed_deployed Testbed.lent_run hst).1 fun h => ?_
  have hfee : some (200 : U32) = some 100 :=
    congrArg (fun g : Escrow.Settings => g.config.map EscrowConfig.feeBps) h
  exact absurd hfee (by decide)

end Network

end RemitBridge
