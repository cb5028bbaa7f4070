import RemitBridge.Soroban.Contract

/-!
# Contracts that share a ledger

In a network of contracts each of them sees its own invocations, and between them what the others
do to the ledger.  An invocation of another contract moves tokens of that contract and of those
who signed (`Ledger.Pays`), so that whoever else it concerns can only gain by it
(`Ledger.Pays.foreign`).  That is what a contract already allows for on its chain, as gifts and as
the doings of others (`Contract.Foreign.run`): the runs of a network are matched by the runs of
each of its contracts (`Contract.project`).
-/

namespace RemitBridge

open TransitionSystem

/-! ### What an invocation does to the ledger -/

/-- On the way from `l` to `l'`, in one ledger, tokens move that belong to the contract `self` or to
somebody who signed. -/
def Ledger.Pays (l : Ledger) (env : Env) (self : Address) (l' : Ledger) : Prop :=
  l'.timestamp = l.timestamp ∧ ∃ ms, (∀ t a, l'.balance t a = l.balance t a + netFlow t a ms) ∧
    ∀ m ∈ ms, (m.source = self ∨ env.signed m.source = true) ∧ 0 ≤ m.amount.val

namespace Ledger

variable {env : Env} {self a : Address} {l l' : Ledger}

theorem Pays.refl (env : Env) (self : Address) (l : Ledger) : l.Pays env self l :=
  ⟨rfl, [], fun _ _ => by simp, fun _ h => absurd h List.not_mem_nil⟩

theorem Pays.move {m : TokenTransfer} (hm : m.source = self ∨ env.signed m.source = true)
    (hamount : 0 ≤ m.amount.val) : l.Pays env self (l.move m) :=
  ⟨rfl, [m], fun t a => move_balance l m t a, fun _ h => by
    obtain rfl := List.mem_singleton.1 h
    exact ⟨hm, hamount⟩⟩

theorem Pays.trans {l'' : Ledger} (h : l.Pays env self l') (h' : l'.Pays env self l'') :
    l.Pays env self l'' := by
  obtain ⟨ht, ms, hb, hms⟩ := h
  obtain ⟨ht', ms', hb', hms'⟩ := h'
  refine ⟨ht'.trans ht, ms ++ ms', fun t a => ?_, fun m hm => ?_⟩
  · rw [hb', hb, netFlow_append, add_assoc]
  · rcases List.mem_append.1 hm with hm | hm
    · exact hms m hm
    · exact hms' m hm

/-- What transfers give an account, by token. -/
def giftsTo (a : Address) (ms : List TokenTransfer) : List (Address × ℤ) :=
  (ms.filter fun m => m.dest = a).map fun m => (m.token, m.amount.val)

/-- The sum of what is given of one token. -/
def given (t : Address) (gifts : List (Address × ℤ)) : ℤ :=
  (gifts.map fun g => if g.1 = t then g.2 else 0).sum

/-- Transfers from others only add to an account. -/
theorem netFlow_eq_gifts {ms : List TokenTransfer} (h : ∀ m ∈ ms, m.source ≠ a) (t : Address) :
    netFlow t a ms = given t (giftsTo a ms) := by
  induction ms with
  | nil => rfl
  | cons m ms ih =>
    have hm : a ≠ m.source := (h m (List.mem_cons_self ..)).symm
    rw [netFlow_cons, ih fun m hm => h m (List.mem_cons_of_mem _ hm)]
    by_cases hd : m.dest = a
    · simp [given, giftsTo, hd, hm, eq_comm]
    · simp [given, giftsTo, hd, hm, Ne.symm hd]

/-- No ledger is earlier than the one before, and the account `a` can only gain: the clock is not
turned back, and its balances grow by gifts. -/
def Gains (l : Ledger) (a : Address) (l' : Ledger) : Prop :=
  l.timestamp ≤ l'.timestamp ∧ ∃ gifts : List (Address × ℤ), (∀ g ∈ gifts, 0 ≤ g.2) ∧
    ∀ t, l'.balance t a = l.balance t a + given t gifts

/-- Whoever did not sign an invocation of another contract can only gain by it. -/
theorem Pays.gains (h : l.Pays env self l') (ha : a ≠ self) (hs : env.signed a = false) :
    l.Gains a l' := by
  obtain ⟨htime, ms, hbalance, hms⟩ := h
  refine ⟨htime.ge, giftsTo a ms, ?_, fun t => ?_⟩
  · simp only [giftsTo, List.mem_map, List.mem_filter]
    rintro g ⟨m, ⟨hm, -⟩, rfl⟩
    exact (hms m hm).2
  · rw [hbalance, netFlow_eq_gifts]
    intro m hm hsource
    rcases (hms m hm).1 with h | h
    · exact ha (hsource.symm.trans h)
    · rw [hsource, hs] at h
      cases h

/-- What leaves the balances of an account alone. -/
theorem Gains.of_eq (htime : l.timestamp ≤ l'.timestamp)
    (hbalance : ∀ t, l'.balance t a = l.balance t a) : l.Gains a l' :=
  ⟨htime, [], fun _ h => absurd h List.not_mem_nil, fun t => by simp [given, hbalance]⟩

end Ledger

namespace Contract

open Ledger

variable {S E ω C R ε : Type} {K : Contract S E ω C R ε} {w w' v : World S E ω}
  {l : Action ω C R E ε} {ls : List (Action ω C R E ε)}

/-! ### Worlds up to the last report -/

/-- The worlds differ at most in what the last invocation reported. -/
def Same (w v : World S E ω) : Prop := w.clear = v.clear

theorem Same.refl (w : World S E ω) : Same w w := rfl

theorem Same.trans {u : World S E ω} (h : Same w v) (h' : Same v u) : Same w u := Eq.trans h h'

theorem same_iff : Same w v ↔ w.store = v.store ∧ w.ledger.timestamp = v.ledger.timestamp ∧
    w.ledger.balance = v.ledger.balance ∧ w.peers = v.peers := by
  obtain ⟨store, ⟨timestamp, balance, transfers⟩, events, peers⟩ := w
  obtain ⟨store', ⟨timestamp', balance', transfers'⟩, events', peers'⟩ := v
  simp [Same, World.clear]
  tauto

/-- A step depends on nothing that was reported before it. -/
theorem step_of_same (h : K.lts.step w l w') (hv : Same v w) :
    ∃ v', K.lts.step v l v' ∧ Same v' w' := by
  cases h with
  | done hs h => exact ⟨w', .done hs (show K.invoke _ _ v.clear = _ by rw [hv, h]), .refl _⟩
  | reverted hs h => exact ⟨v, .reverted hs (show K.invoke _ _ v.clear = _ by rw [hv, h]), hv⟩
  | tick ht =>
    obtain ⟨hstore, htime, hbalance, hpeers⟩ := same_iff.1 hv
    exact ⟨_, .tick (htime ▸ ht), same_iff.2 ⟨hstore, rfl, hbalance, hpeers⟩⟩
  | external hb =>
    obtain ⟨hstore, htime, hbalance, -⟩ := same_iff.1 hv
    exact ⟨_, .external (by rw [hbalance]; exact hb), same_iff.2 ⟨hstore, htime, rfl, rfl⟩⟩
  | donate ha =>
    obtain ⟨hstore, htime, hbalance, hpeers⟩ := same_iff.1 hv
    exact ⟨_, .donate ha, same_iff.2 ⟨hstore, htime, by simp only [hbalance], hpeers⟩⟩

theorem run_of_same (h : K.lts.Run w ls w') (hv : Same v w) :
    ∃ v', K.lts.Run v ls v' ∧ Same v' w' := by
  induction h with
  | nil => exact ⟨v, .nil _, hv⟩
  | snoc _ hst ih =>
    obtain ⟨v₁, h₁, hv₁⟩ := ih
    obtain ⟨v₂, h₂, hv₂⟩ := step_of_same hst hv₁
    exact ⟨v₂, .snoc h₁ h₂, hv₂⟩

/-- An invariant of the contract that does not look at reports holds in every world that differs
from one reached in its report. -/
theorem Same.invariant {I : World S E ω → Prop} (hclear : ∀ w, I w.clear ↔ I w)
    (hI : ∀ w l w', I w → K.lts.step w l w' → I w') (h₀ : I w) (h : K.lts.Run w ls v)
    (hv : Same v w') : I w' := by
  have hreached := (hclear v).2 (h.invariant h₀ hI)
  rw [hv] at hreached
  exact (hclear w').1 hreached

/-! ### What the others do -/

/-- The step is not an invocation of the contract. -/
def IsForeign : Action ω C R E ε → Prop
  | .call .. => False
  | _ => True

variable (K) in
/-- What others do on the way from `w` to `w'`: they leave the contract's storage alone, and its
account can only gain. -/
structure Foreign (w w' : World S E ω) : Prop where
  store : w'.store = w.store
  gains : w.ledger.Gains K.self w'.ledger

/-- Gifts alone. -/
theorem run_of_gifts {gifts : List (Address × ℤ)} (h : ∀ g ∈ gifts, 0 ≤ g.2) :
    ∃ w', K.lts.Run w (gifts.map fun g => .donate g.1 g.2) w' ∧ w'.store = w.store ∧
      w'.ledger.timestamp = w.ledger.timestamp ∧
      ∀ t, w'.ledger.balance t K.self = w.ledger.balance t K.self + given t gifts := by
  induction gifts generalizing w with
  | nil => exact ⟨w, .nil _, rfl, rfl, fun t => by simp [given]⟩
  | cons g gifts ih =>
    have hg := h g (List.mem_cons_self ..)
    obtain ⟨w', hrun, hstore, htime, hbalance⟩ := ih (w := { w with ledger := { w.ledger with
      balance := fun t a => w.ledger.balance t a + if t = g.1 ∧ a = K.self then g.2 else 0 } })
      fun g hg => h g (List.mem_cons_of_mem _ hg)
    refine ⟨w', hrun.cons (.donate hg), hstore, htime, fun t => ?_⟩
    rw [hbalance t]
    simp [given, eq_comm, add_assoc]

/-- **The doings of others** are gifts, time that passes, and what does not concern the
contract. -/
theorem Foreign.run (h : K.Foreign w w') :
    ∃ ls v, K.lts.Run w ls v ∧ Same v w' ∧ ∀ l ∈ ls, IsForeign l := by
  obtain ⟨hnow, gifts, hnonneg, hgain⟩ := h.gains
  obtain ⟨w₁, hgifts, hstore, htime, hbalance⟩ := run_of_gifts (K := K) (w := w) hnonneg
  refine ⟨_, _, (hgifts.snoc (.tick (htime ▸ hnow))).snoc
    (show K.lts.step _ (.external w'.ledger.balance w'.peers) _ from .external fun t => ?_), ?_,
    fun l hl => ?_⟩
  · rw [hgain t, ← hbalance t]
  · exact same_iff.2 ⟨hstore.trans h.store.symm, rfl, rfl, rfl⟩
  · simp only [List.mem_append, List.mem_map, List.mem_singleton] at hl
    rcases hl with (⟨g, -, rfl⟩ | rfl) | rfl <;> trivial

/-- A call that is reverted moves nothing. -/
theorem pays_of_step {env : Env} {c : C} {o : Outcome R E ε}
    (hpays : ∀ {env c r} {w w' : World S E ω}, K.invoke env c w = .ok (r, w') →
      w.ledger.Pays env K.self w'.ledger)
    (h : K.lts.step w (.call env c o) w') : w.ledger.Pays env K.self w'.ledger := by
  cases h with
  | done _ h =>
    have hpaid := hpays h
    exact hpaid
  | reverted => exact .refl _ _ _

/-! ### Networks -/

/-- **Runs of a network, seen by one of its contracts.**  If every step of a network is matched by a
run of the contract, whose labels are related by `R` to that of the step, then so is every run. -/
theorem project {X L : Type} {A : TransitionSystem X L} {I : X → Prop}
    {world : X → World S E ω} {R : L → List (Action ω C R E ε) → Prop}
    (hI : ∀ x l x', I x → A.step x l x' → I x')
    (hstep : ∀ x l x', I x → A.step x l x' →
      ∃ as v, R l as ∧ K.lts.Run (world x) as v ∧ Same v (world x'))
    {x₀ x : X} {ls : List L} (h : A.Run x₀ ls x) (h₀ : I x₀) :
    ∃ ass v, List.Forall₂ R ls ass ∧ K.lts.Run (world x₀) ass.flatten v ∧ Same v (world x) := by
  induction h with
  | nil => exact ⟨[], _, .nil, .nil _, .refl _⟩
  | snoc h hst ih =>
    obtain ⟨ass, v, hR, hrun, hv⟩ := ih
    obtain ⟨as, u, hl, has, hu⟩ := hstep _ _ _ (h.invariant h₀ hI) hst
    obtain ⟨u', has', hu'⟩ := run_of_same has hv
    refine ⟨ass ++ [as], u', List.rel_append hR (.cons hl .nil), ?_, hu'.trans hu⟩
    rw [List.flatten_append, List.flatten_singleton]
    exact hrun.append has'

end Contract

end RemitBridge
