import RemitBridge.Registry.Spec
import RemitBridge.Transition.Basic

/-!
# Solvency of the registry

The registry's balance of the bond token is always its aggregate of bonded collateral
(`Invariant.balance`).  The aggregate is the total of the bonds on record as long as no agent
registers again over a record that still holds a bond: the new record starts from zero, and the
bond on the old one is left in the contract with nobody to claim it (`solvent_iff`).
-/

namespace RemitBridge

namespace Registry

open TransitionSystem

variable {ω : Type} {self token : Address} {w₀ w w' : World ω} {l : Label ω} {ls : List (Label ω)}

/-- The total of the bonds on record. -/
def bonded (s : Storage) : ℤ := s.agents.total fun _ record => record.bond.val

/-- Every unit of collateral is owed to some agent's record. -/
def Solvent (registry token : Address) (w : World ω) : Prop :=
  w.ledger.balance token registry = w.store.getStats.totalBonded.val ∧
    w.store.getStats.totalBonded.val = bonded w.store

/-- A world in which the registry has just been initialised with the bond token `token`. -/
structure Fresh (registry token : Address) (w : World ω) : Prop where
  initialized : ∃ (env : Env) (admin treasury : Address) (blank : World ω),
    blank.store = .blank ∧ treasury ≠ registry ∧
    initializeContract env admin token treasury blank = .ok ((), w)
  balance_eq : w.ledger.balance token registry = 0

/-- Nobody donates bond tokens, and the registry is not made its own treasury. -/
def Admissible (registry token : Address) (l : Label ω) : Prop :=
  l.donated token = 0 ∧ match l with
    | .call _ (.setTreasury treasury) _ => treasury ≠ registry
    | _ => True

/-- The step does not register an agent over a record that still holds a bond. -/
def KeepsCollateral (s : Storage) : Label ω → Prop
  | .call _ (.registerAgent agent _ _) (.done ..) => s.getBond agent = 0
  | _ => True

/-- The collateral that a step leaves without a record. -/
def strandedBy (s : Storage) : Label ω → ℤ
  | .call _ c (.done ..) => stranded c s
  | _ => 0

theorem strandedBy_of_failed {s : Storage} (h : l.succeeded = false) : strandedBy s l = 0 := by
  rcases l with ⟨_, _, _ | _⟩ | _ | _ | _ <;> first | rfl | cases h

theorem keepsCollateral_iff {s : Storage} : KeepsCollateral s l ↔ strandedBy s l = 0 := by
  rcases l with ⟨_, c, _ | _⟩ | _ | _ | _ <;> try simp [KeepsCollateral, strandedBy]
  cases c <;> simp [stranded, ← MachineInt.val_inj]

/-! ### The invariant -/

/-- What holds in every reachable state, with collateral stranded or not. -/
structure Invariant (registry token : Address) (w : World ω) : Prop where
  wellFormed : WellFormed registry w.store
  bondToken : w.store.bondToken = some token
  balance : w.ledger.balance token registry = w.store.getStats.totalBonded.val

theorem Fresh.store (h : Fresh self token w) : ∃ admin treasury, treasury ≠ self ∧
    w.store = ⟨some admin, some token, some treasury, some .zero, [], ∅, ∅, ∅, ∅⟩ := by
  obtain ⟨env, admin, treasury, blank, hblank, hne, h⟩ := h.initialized
  simp [initializeContract, hblank, Storage.blank] at h
  obtain ⟨-, rfl⟩ := h
  exact ⟨admin, treasury, hne, rfl⟩

theorem Fresh.invariant (h : Fresh self token w) : Invariant self token w := by
  obtain ⟨admin, treasury, hne, hs⟩ := h.store
  refine ⟨⟨by simp [hs], ?_, by simp [hs, Store.all_empty]⟩, by simp [hs], ?_⟩
  · rintro treasury' ht
    simp only [hs, Option.some.injEq] at ht
    exact ht ▸ hne
  · rw [h.balance_eq, hs]
    rfl

theorem Adjusts.wellFormed {c : Call} {delta : ℤ} (h : Adjusts self c delta w w')
    (hw : WellFormed self w.store) (hc : ∀ treasury, c = .setTreasury treasury → treasury ≠ self) :
    WellFormed self w'.store where
  admin := h.admin
  treasury := by
    intro treasury ht
    rcases h.treasury with he | ⟨treasury', rfl, he⟩
    · exact hw.treasury _ (he ▸ ht)
    · obtain rfl := Option.some.inj (he.symm.trans ht)
      exact hc _ rfl
  records := by
    rcases h.agents with ⟨he, -⟩ | ⟨record, he, -, hnonneg⟩
    · exact he ▸ hw.records
    · exact he ▸ hw.records.insert ⟨rfl, hnonneg⟩

/-- The bonds on record after one record is written. -/
theorem bonded_of_insert {s s' : Storage} {record : Agent}
    (h : s'.agents = s.agents.insert record.address record) :
    bonded s' = bonded s - (s.getBond record.address).val + record.bond.val := by
  have hold : Store.contribution (fun _ record => record.bond.val) s.agents record.address =
      (s.getBond record.address).val := by
    unfold Store.contribution Storage.getBond Storage.getAgent
    cases s.agents.lookup record.address <;> rfl
  rw [bonded, h, Store.total_insert, hold, bonded]

/-- The bonds on record change by what is taken in, less what is left without a record. -/
theorem Adjusts.bonded {c : Call} {delta : ℤ} (h : Adjusts self c delta w w') :
    bonded w'.store = bonded w.store + delta - stranded c w.store := by
  rcases h.agents with ⟨he, hdelta, hstranded⟩ | ⟨record, he, hbond, -⟩
  · rw [Registry.bonded, Registry.bonded, he, hdelta, hstranded, add_zero, sub_zero]
  · rw [bonded_of_insert he]
    omega

theorem Invariant.step (hw : Invariant self token w) (hl : Admissible self token l)
    (h : (contract self).lts.step w l w') : Invariant self token w' := by
  rcases Contract.step_cases h with hq | ⟨env, c, r, rfl, hs, h⟩
  · have hb : w'.ledger.balance token self = w.ledger.balance token self + _ := hq.balance token
    exact ⟨hq.store ▸ hw.wellFormed, hq.store ▸ hw.bondToken, by
      rw [hb, hl.1, add_zero, hw.balance, hq.store]⟩
  · obtain ⟨delta, hadj⟩ := invoke_adjusts (w := w.clear) hw.wellFormed hs h
    refine ⟨hadj.wellFormed hw.wellFormed ?_, hadj.bondToken.trans hw.bondToken, ?_⟩
    · rintro treasury rfl
      exact hl.2
    · rw [hadj.balance token hw.bondToken, hadj.totalBonded]
      exact congrArg (· + delta) hw.balance

/-- The collateral without a record grows by what the step strands. -/
theorem unrecorded_step (hw : Invariant self token w) (h : (contract self).lts.step w l w') :
    0 ≤ strandedBy w.store l ∧ w'.store.getStats.totalBonded.val - bonded w'.store =
      w.store.getStats.totalBonded.val - bonded w.store + strandedBy w.store l := by
  rcases Contract.step_cases h with hq | ⟨env, c, r, rfl, hs, h⟩
  · rw [strandedBy_of_failed hq.succeeded, hq.store, add_zero]
    exact ⟨le_rfl, rfl⟩
  · obtain ⟨delta, hadj⟩ := invoke_adjusts (w := w.clear) hw.wellFormed hs h
    constructor
    · cases c <;> first | exact le_rfl | exact hw.wellFormed.recorded.getBond_nonneg _
    · rw [hadj.totalBonded, hadj.bonded]
      simp only [strandedBy, World.clear_store]
      omega

/-- **Registry solvency.**  At the end of a run the registry is solvent exactly if no step of it
registered an agent over a record that still held a bond. -/
theorem solvent_iff (h₀ : Fresh self token w₀) (h : (contract self).lts.Run w₀ ls w)
    (hls : ∀ l ∈ ls, Admissible self token l) : Solvent self token w ↔
      ((contract self).lts.restrict fun w l _ => KeepsCollateral w.store l).Run w₀ ls w := by
  have hinv := (h.restrict_of_labels hls).invariant h₀.invariant
    fun _ _ _ hw hst => hw.step hst.2 hst.1
  have hstart : w₀.store.getStats.totalBonded.val - bonded w₀.store = 0 := by
    obtain ⟨admin, treasury, -, hs⟩ := h₀.store
    rw [hs]
    rfl
  have hiff := (h.potential_eq_zero_iff Contract.deterministic
    (f := fun w => w.store.getStats.totalBonded.val - bonded w.store)
    (g := fun w l => strandedBy w.store l) hls h₀.invariant hstart
    (fun _ _ _ hw hl hst => hw.step hl hst) (fun _ _ _ hw hst => unrecorded_step hw hst)).2
  simp only [Solvent, hinv.balance, true_and, keepsCollateral_iff, ← hiff, sub_eq_zero]

/-! ### Collateral left behind -/

namespace Sample

def agent : Address := ⟨1⟩

def admin : Address := ⟨2⟩

def usd : Address := ⟨7⟩

def region : Symbol := ⟨"LAGOS"⟩

/-- An invocation signed by `a`, with a token that refuses nothing. -/
def signedBy (a : Address) : Env := ⟨fun b => decide (b = a), fun _ => true⟩

/-- Every account but the registry holds a thousand units of every token. -/
def blank : World Unit where
  store := .blank
  ledger := ⟨1000, fun _ a => if a = ⟨0⟩ then 0 else 1000, []⟩
  events := []
  peers := ()

/-- The registry, just initialised. -/
def start : World Unit :=
  { blank with store := ⟨some admin, some usd, some ⟨3⟩, some .zero, [], ∅, ∅, ∅, ∅⟩ }

/-- An agent is revoked and registers again. -/
def script : List (Contract.Input Call) :=
  [.call (signedBy admin) (.addRegion region 100 0),
    .call (signedBy agent) (.registerAgent agent region 100),
    .call (signedBy admin) (.authorizeAgent agent),
    .call (signedBy admin) (.revokeAgent agent ⟨"fraud"⟩),
    .call (signedBy agent) (.registerAgent agent region 200)]

def trace : List (Label Unit) := (contract ⟨0⟩).trace start script

def final : World Unit := (contract ⟨0⟩).play start script

theorem fresh_start : Fresh ⟨0⟩ usd start where
  initialized := ⟨signedBy admin, admin, ⟨3⟩, blank, rfl, by decide, rfl⟩
  balance_eq := rfl

theorem final_run : (contract ⟨0⟩).lts.Run start trace final :=
  Contract.play_run script rfl

theorem admissible_trace : ∀ l ∈ trace, Admissible ⟨0⟩ usd l :=
  List.forall_iff_forall_mem.1 ⟨⟨rfl, trivial⟩, ⟨rfl, trivial⟩, ⟨rfl, trivial⟩, ⟨rfl, trivial⟩,
    ⟨rfl, trivial⟩⟩

end Sample

/-- The registry holds 300 units of bond, and the only record is good for 200. -/
theorem not_solvent_sample : Fresh ⟨0⟩ Sample.usd Sample.start ∧
    (contract ⟨0⟩).lts.Run Sample.start Sample.trace Sample.final ∧
    (∀ l ∈ Sample.trace, Admissible ⟨0⟩ Sample.usd l) ∧
    ¬ Solvent ⟨0⟩ Sample.usd Sample.final :=
  ⟨Sample.fresh_start, Sample.final_run, Sample.admissible_trace,
    fun h => absurd h.2 (by decide)⟩

theorem solvent_iff_sample : Solvent ⟨0⟩ Sample.usd Sample.final ↔
    ((contract ⟨0⟩).lts.restrict fun w l _ => KeepsCollateral w.store l).Run Sample.start
      Sample.trace Sample.final :=
  solvent_iff Sample.fresh_start Sample.final_run Sample.admissible_trace

end Registry

end RemitBridge
