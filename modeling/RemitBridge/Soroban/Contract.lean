import RemitBridge.Soroban.Host
import RemitBridge.Transition.Basic

/-!
# A contract on its chain

A `Contract` is an address and a function that executes its entry points.  `Contract.lts` is its
behaviour on a chain that it shares with everybody else.  A step is

* an invocation by anybody: if it succeeds the world it leaves is kept, and the label reports the
  value returned, the token transfers made and the events emitted; if it fails everything is
  reverted;
* a new ledger, whose time is not earlier (`tick`);
* anything other accounts and contracts do, which leaves the contract's own storage and its own
  token balances alone (`external`);
* a payment to the contract outside its entry points (`donate`).

A contract address authorises what it calls itself, and nothing signs for it: no invocation from
outside carries the signature of the contract.

`Contract.play` runs a script of invocations; every script is a run (`Contract.play_run`).
-/

namespace RemitBridge

/-- What an invocation reports. -/
inductive Outcome (R E ε : Type) where
  /-- It returned `ret`, having made these transfers and emitted these events. -/
  | done (ret : R) (transfers : List TokenTransfer) (events : List E)
  /-- It failed and was reverted. -/
  | reverted (fault : Fault ε)

/-- The steps of a chain, from the point of view of one contract with entry points `C`. -/
inductive Action (ω C R E ε : Type) where
  /-- Somebody invokes the contract. -/
  | call (env : Env) (c : C) (outcome : Outcome R E ε)
  /-- A ledger with time `t` starts. -/
  | tick (t : U64)
  /-- Others act; these are the balances and the state of the other contracts afterwards. -/
  | external (balance : Address → Address → ℤ) (peers : ω)
  /-- Somebody pays the contract. -/
  | donate (token : Address) (amount : ℤ)

namespace Action

variable {ω C R E ε : Type}

/-- What the step pays into the contract outside its entry points. -/
def donated (t : Address) : Action ω C R E ε → ℤ
  | donate token amount => if token = t then amount else 0
  | _ => 0

/-- The step is a successful invocation. -/
def succeeded : Action ω C R E ε → Bool
  | call _ _ (.done ..) => true
  | _ => false

/-- The transfers made by the step, if it is an invocation. -/
def transfers : Action ω C R E ε → List TokenTransfer
  | call _ _ (.done _ ms _) => ms
  | _ => []

/-- The events emitted by the step, if it is an invocation. -/
def events : Action ω C R E ε → List E
  | call _ _ (.done _ _ es) => es
  | _ => []

theorem events_of_failed {l : Action ω C R E ε} (h : l.succeeded = false) : l.events = [] := by
  rcases l with ⟨_, _, _ | _⟩ | _ | _ | _
  · cases h
  · rfl
  · rfl
  · rfl
  · rfl

/-- The time after the step, if it was `now` before. -/
def clock (now : U64) : Action ω C R E ε → U64
  | tick t => t
  | _ => now

end Action

/-- A contract: its address, and what its entry points do. -/
structure Contract (S E ω C R ε : Type) where
  self : Address
  invoke : Env → C → Exec (World S E ω) ε R

namespace Contract

variable {S E ω C R ε : Type} (K : Contract S E ω C R ε)

/-- The steps of the chain. -/
inductive Step : World S E ω → Action ω C R E ε → World S E ω → Prop
  | done {w w' : World S E ω} {env : Env} {c : C} {r : R} :
      env.signed K.self = false → K.invoke env c w.clear = .ok (r, w') →
      Step w (.call env c (.done r w'.ledger.transfers w'.events)) w'
  | reverted {w : World S E ω} {env : Env} {c : C} {f : Fault ε} :
      env.signed K.self = false → K.invoke env c w.clear = .error f →
      Step w (.call env c (.reverted f)) w
  | tick {w : World S E ω} {t : U64} :
      w.ledger.timestamp ≤ t →
      Step w (.tick t) { w with ledger := { w.ledger with timestamp := t } }
  | external {w : World S E ω} {balance : Address → Address → ℤ} {peers : ω} :
      (∀ t, balance t K.self = w.ledger.balance t K.self) →
      Step w (.external balance peers)
        { w with ledger := { w.ledger with balance := balance }, peers := peers }
  | donate {w : World S E ω} {token : Address} {amount : ℤ} : 0 ≤ amount →
      Step w (.donate token amount)
        { w with ledger := { w.ledger with
            balance := fun t a => w.ledger.balance t a +
              if t = token ∧ a = K.self then amount else 0 } }

/-- The behaviour of the contract. -/
def lts : TransitionSystem (World S E ω) (Action ω C R E ε) := ⟨K.Step⟩

/-- A step that is not a successful invocation: it leaves the contract's storage alone, moves its
balances by what is donated, and does not turn the clock back. -/
structure Quiet (w : World S E ω) (l : Action ω C R E ε) (w' : World S E ω) : Prop where
  store : w'.store = w.store
  succeeded : l.succeeded = false
  transfers : l.transfers = []
  balance : ∀ t, w'.ledger.balance t K.self = w.ledger.balance t K.self + l.donated t
  timestamp : w.ledger.timestamp ≤ w'.ledger.timestamp

variable {K} in
/-- The clock only moves when a ledger starts, as long as the contract leaves it alone. -/
theorem clock_of_step {w w' : World S E ω} {l : Action ω C R E ε} (h : K.lts.step w l w')
    (hinvoke : ∀ env c r w', K.invoke env c w.clear = .ok (r, w') →
      w'.ledger.timestamp = w.ledger.timestamp) :
    w'.ledger.timestamp = l.clock w.ledger.timestamp := by
  cases h with
  | done _ h => exact hinvoke _ _ _ _ h
  | reverted => rfl
  | tick => rfl
  | external => rfl
  | donate => rfl

variable {K} in
/-- Every step is quiet or a successful invocation. -/
theorem step_cases {w w' : World S E ω} {l : Action ω C R E ε} (h : K.lts.step w l w') :
    K.Quiet w l w' ∨ ∃ env c r, l = .call env c (.done r w'.ledger.transfers w'.events) ∧
      env.signed K.self = false ∧ K.invoke env c w.clear = .ok (r, w') := by
  cases h with
  | done hs h => exact .inr ⟨_, _, _, rfl, hs, h⟩
  | reverted => exact .inl ⟨rfl, rfl, rfl, fun t => by simp [Action.donated], le_rfl⟩
  | tick ht => exact .inl ⟨rfl, rfl, rfl, fun t => by simp [Action.donated], ht⟩
  | external hb => exact .inl ⟨rfl, rfl, rfl, fun t => by simp [Action.donated, hb], le_rfl⟩
  | donate => exact .inl ⟨rfl, rfl, rfl, fun t => by simp [Action.donated, eq_comm], le_rfl⟩

variable {K} in
theorem events_of_step {w w' : World S E ω} {l : Action ω C R E ε} (h : K.lts.step w l w') :
    (w'.store = w.store ∧ l.events = []) ∨ ∃ env c r, l.events = w'.events ∧
      env.signed K.self = false ∧ K.invoke env c w.clear = .ok (r, w') := by
  cases h with
  | done hs h => exact .inr ⟨_, _, _, rfl, hs, h⟩
  | _ => exact .inl ⟨rfl, rfl⟩

variable {K} in
theorem deterministic : K.lts.Deterministic := by
  intro w l w₁ w₂ h₁ h₂
  cases h₁ with
  | done hs h =>
    generalize hl : Action.call _ _ (Outcome.done _ _ _) = l at h₂
    cases h₂ with
    | done hs' h' =>
      simp only [Action.call.injEq, Outcome.done.injEq] at hl
      obtain ⟨rfl, rfl, rfl, -, -⟩ := hl
      rw [h'] at h
      simpa using h.symm
    | _ => cases hl
  | reverted => cases h₂; rfl
  | tick => cases h₂; rfl
  | external => cases h₂; rfl
  | donate => cases h₂; rfl

variable {K} in
theorem step_done {w w' : World S E ω} {env : Env} {c : C} {r : R} {ms : List TokenTransfer}
    {es : List E} (hs : env.signed K.self = false) (h : K.invoke env c w.clear = .ok (r, w'))
    (hms : w'.ledger.transfers = ms) (hes : w'.events = es) :
    K.lts.step w (.call env c (.done r ms es)) w' := by
  subst hms hes
  exact .done hs h

variable {K} in
theorem invoke_of_step_done {w w' : World S E ω} {env : Env} {c : C} {r : R}
    {ms : List TokenTransfer} {es : List E} (h : K.lts.step w (.call env c (.done r ms es)) w') :
    K.invoke env c w.clear = .ok (r, w') := by
  generalize hl : Action.call env c (.done r ms es) = l at h
  cases h with
  | done _ h =>
    simp only [Action.call.injEq, Outcome.done.injEq] at hl
    obtain ⟨rfl, rfl, rfl, -, -⟩ := hl
    exact h
  | _ => cases hl

/-- What an invocation would report. -/
def outcome (w : World S E ω) (env : Env) (c : C) : Outcome R E ε :=
  match K.invoke env c w.clear with
  | .ok (r, w') => .done r w'.ledger.transfers w'.events
  | .error f => .reverted f

variable {K} in
theorem outcome_of_ok {w w' : World S E ω} {env : Env} {c : C} {r : R}
    (h : K.invoke env c w.clear = .ok (r, w')) :
    K.outcome w env c = .done r w'.ledger.transfers w'.events := by
  rw [outcome, h]

variable {K} in
theorem outcome_of_error {w : World S E ω} {env : Env} {c : C} {f : Fault ε}
    (h : K.invoke env c w.clear = .error f) : K.outcome w env c = .reverted f := by
  rw [outcome, h]

variable {K} in
/-- What a step reports is what the invocation would report. -/
theorem outcome_of_step {w w' : World S E ω} {env : Env} {c : C} {o : Outcome R E ε}
    (h : K.lts.step w (.call env c o) w') : K.outcome w env c = o := by
  cases h with
  | done _ h => exact outcome_of_ok h
  | reverted _ h => exact outcome_of_error h

variable {K} in
theorem donated_nonneg {w w' : World S E ω} {l : Action ω C R E ε} (h : K.lts.step w l w')
    (t : Address) : 0 ≤ l.donated t := by
  cases h with
  | donate ha =>
    simp only [Action.donated]
    split_ifs
    · exact ha
    · exact le_rfl
  | _ => exact le_rfl

/-! ### Scripts -/

/-- One line of a script: start a ledger, or invoke the contract. -/
inductive Input (C : Type) where
  | wait (t : U64)
  | call (env : Env) (c : C)

/-- The world after one line of a script, and the step it was. -/
def perform (w : World S E ω) : Input C → World S E ω × List (Action ω C R E ε)
  | .wait t =>
    if w.ledger.timestamp ≤ t then
      ({ w with ledger := { w.ledger with timestamp := t } }, [.tick t])
    else (w, [])
  | .call env c =>
    match K.invoke env c w.clear with
    | .ok (r, w') => (w', [.call env c (.done r w'.ledger.transfers w'.events)])
    | .error f => (w, [.call env c (.reverted f)])

/-- The world after a script. -/
def play (w : World S E ω) : List (Input C) → World S E ω
  | [] => w
  | i :: is => play (K.perform w i).1 is

/-- The steps of a script. -/
def trace (w : World S E ω) : List (Input C) → List (Action ω C R E ε)
  | [] => []
  | i :: is => (K.perform w i).2 ++ trace (K.perform w i).1 is

/-- The line does not carry the contract's own signature. -/
def unsigned : Input C → Bool
  | .wait _ => true
  | .call env _ => !env.signed K.self

variable {K}

/-- A line of a script does nothing, or is a step of the contract or the clock. -/
theorem perform_cases {w : World S E ω} {i : Input C} (h : K.unsigned i = true) :
    K.perform w i = (w, []) ∨ ∃ l w', K.perform w i = (w', [l]) ∧ K.lts.step w l w' ∧
      ∀ balance peers, l ≠ .external balance peers := by
  cases i with
  | wait t =>
    by_cases ht : w.ledger.timestamp ≤ t
    · exact .inr ⟨.tick t, _, if_pos ht, .tick ht, nofun⟩
    · exact .inl (if_neg ht)
  | call env c =>
    have hi : env.signed K.self = false := by simpa [unsigned] using h
    cases hc : K.invoke env c w.clear with
    | ok p =>
      obtain ⟨r, w'⟩ := p
      exact .inr ⟨_, w', by simp only [perform, hc], .done hi hc, nofun⟩
    | error f => exact .inr ⟨_, w, by simp only [perform, hc], .reverted hi hc, nofun⟩

theorem perform_run {w : World S E ω} {i : Input C} (h : K.unsigned i = true) :
    K.lts.Run w (K.perform w i).2 (K.perform w i).1 := by
  rcases perform_cases (w := w) h with hnil | ⟨l, w', hone, hst, -⟩
  · rw [hnil]
    exact .nil _
  · rw [hone]
    exact .single hst

/-- The step that an invocation in a script is. -/
theorem step_perform {w : World S E ω} {env : Env} {c : C} (h : env.signed K.self = false) :
    K.lts.step w (.call env c (K.outcome w env c)) (K.perform w (.call env c)).1 := by
  cases hc : K.invoke env c w.clear with
  | ok p =>
    rw [outcome_of_ok hc]
    simp only [perform, hc]
    exact .done h hc
  | error f =>
    rw [outcome_of_error hc]
    simp only [perform, hc]
    exact .reverted h hc

/-- Every script is a run. -/
theorem play_run (is : List (Input C)) {w : World S E ω} (h : is.all K.unsigned = true) :
    K.lts.Run w (K.trace w is) (K.play w is) := by
  induction is generalizing w with
  | nil => exact .nil _
  | cons i is ih =>
    rw [List.all_cons, Bool.and_eq_true] at h
    exact (perform_run h.1).append (ih h.2)

end Contract

end RemitBridge
