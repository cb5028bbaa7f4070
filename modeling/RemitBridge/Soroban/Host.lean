import RemitBridge.Data.MachineInt
import RemitBridge.Data.Store
import RemitBridge.Data.Exec

/-!
# The Soroban host, as the contracts see it

A contract runs in a `World`: its own storage, the ledger (the clock and the token balances), the
events of the running invocation, and the state of the contracts it calls.  This file gives the
host functions the contracts use, as computations over a `World`:

* `requireAuth` : traps unless the address signed the invocation;
* `timestamp` : the time of the current ledger;
* `transferToken` : `transfer` of an honest SEP-41 token, which moves exactly the amount from an
  account that holds it and has authorised the move, or traps;
* `callPeers` : a `try_` call of another contract, which answers and may change its own state.

Time-to-live extensions are not modelled: storage entries do not expire.
-/

namespace RemitBridge

/-- An account or contract address. -/
structure Address where
  id : ℕ
  deriving DecidableEq

/-- A Soroban symbol. -/
structure Symbol where
  name : String
  deriving DecidableEq

/-- A byte array of length `n`. -/
structure BytesN (n : ℕ) where
  bytes : List UInt8
  length_eq : bytes.length = n
  deriving DecidableEq

/-- One `transfer` of a token. -/
structure TokenTransfer where
  token : Address
  source : Address
  dest : Address
  amount : I128
  deriving DecidableEq

/-- What an invocation brings with it: who signed it, and which transfers the tokens involved are
willing to make (a token may refuse a frozen account, or one that cannot hold the amount). -/
structure Env where
  signed : Address → Bool
  accepts : TokenTransfer → Bool

/-- Whoever signed is not the one who did not. -/
theorem Env.ne_of_signed {env : Env} {a b : Address} (ha : env.signed a = false)
    (hb : env.signed b = true) : a ≠ b := by
  rintro rfl
  exact absurd hb (by rw [ha]; decide)

/-- The environment of a call made by the contract `caller`, which thereby authorises it. -/
def Env.invokedBy (env : Env) (caller : Address) : Env :=
  { env with signed := fun a => env.signed a || decide (a = caller) }

/-- The clock, the token balances (`balance token holder`), and the transfers made by the running
invocation, oldest first. -/
structure Ledger where
  timestamp : U64
  balance : Address → Address → ℤ
  transfers : List TokenTransfer

/-- The ledger after a transfer. -/
def Ledger.move (l : Ledger) (m : TokenTransfer) : Ledger :=
  { l with
    balance := fun t a => l.balance t a -
      (if t = m.token ∧ a = m.source then m.amount.val else 0) +
      (if t = m.token ∧ a = m.dest then m.amount.val else 0)
    transfers := l.transfers ++ [m] }

@[simp] theorem Ledger.move_timestamp (l : Ledger) (m : TokenTransfer) :
    (l.move m).timestamp = l.timestamp := rfl

@[simp] theorem Ledger.move_transfers (l : Ledger) (m : TokenTransfer) :
    (l.move m).transfers = l.transfers ++ [m] := rfl

/-- The ledger after a list of transfers, made in order. -/
def Ledger.apply (l : Ledger) (ms : List TokenTransfer) : Ledger := ms.foldl Ledger.move l

@[simp] theorem Ledger.apply_nil (l : Ledger) : l.apply [] = l := rfl

@[simp] theorem Ledger.apply_cons (l : Ledger) (m : TokenTransfer) (ms : List TokenTransfer) :
    l.apply (m :: ms) = (l.move m).apply ms := rfl

@[simp] theorem Ledger.apply_timestamp (l : Ledger) (ms : List TokenTransfer) :
    (l.apply ms).timestamp = l.timestamp := by
  induction ms generalizing l with
  | nil => rfl
  | cons m ms ih => rw [apply_cons, ih, move_timestamp]

theorem Ledger.apply_transfers (l : Ledger) (ms : List TokenTransfer) :
    (l.apply ms).transfers = l.transfers ++ ms := by
  induction ms generalizing l with
  | nil => simp
  | cons m ms ih => rw [apply_cons, ih, move_transfers, List.append_assoc, List.singleton_append]

/-- What a list of transfers brings into the account `a`, in units of the token `t`. -/
def netFlow (t a : Address) (ms : List TokenTransfer) : ℤ :=
  (ms.map fun m => (if t = m.token ∧ a = m.dest then m.amount.val else 0) -
    (if t = m.token ∧ a = m.source then m.amount.val else 0)).sum

@[simp] theorem netFlow_nil (t a : Address) : netFlow t a [] = 0 := rfl

theorem netFlow_append (t a : Address) (ms ms' : List TokenTransfer) :
    netFlow t a (ms ++ ms') = netFlow t a ms + netFlow t a ms' := by
  simp [netFlow]

theorem netFlow_cons (t a : Address) (m : TokenTransfer) (ms : List TokenTransfer) :
    netFlow t a (m :: ms) = (if t = m.token ∧ a = m.dest then m.amount.val else 0) -
      (if t = m.token ∧ a = m.source then m.amount.val else 0) + netFlow t a ms := by
  simp [netFlow]

theorem Ledger.move_balance (l : Ledger) (m : TokenTransfer) (t a : Address) :
    (l.move m).balance t a = l.balance t a + netFlow t a [m] := by
  simp only [move, netFlow_cons, netFlow_nil]
  omega

/-- The recipient of a transfer from somebody else is credited with the amount. -/
theorem Ledger.move_balance_dest (l : Ledger) {m : TokenTransfer} (h : m.dest ≠ m.source) :
    (l.move m).balance m.token m.dest = l.balance m.token m.dest + m.amount.val := by
  simp [move, h]

/-- The sender of a transfer to somebody else is debited with the amount. -/
theorem Ledger.move_balance_source (l : Ledger) {m : TokenTransfer} (h : m.source ≠ m.dest) :
    (l.move m).balance m.token m.source = l.balance m.token m.source - m.amount.val := by
  simp [move, h]

/-- Transfers change the balances by what flows. -/
theorem Ledger.apply_balance (l : Ledger) (ms : List TokenTransfer) (t a : Address) :
    (l.apply ms).balance t a = l.balance t a + netFlow t a ms := by
  induction ms generalizing l with
  | nil => simp
  | cons m ms ih =>
    rw [apply_cons, ih, move_balance, add_assoc, ← netFlow_append, List.singleton_append]

/-- A contract's storage `S`, the ledger, the events `E` of the running invocation, oldest first,
and the state `ω` of the contracts it calls. -/
structure World (S E ω : Type) where
  store : S
  ledger : Ledger
  events : List E
  peers : ω

/-- The world at the start of an invocation, which has made no transfer and emitted no event. -/
def World.clear {S E ω : Type} (w : World S E ω) : World S E ω :=
  { w with ledger := { w.ledger with transfers := [] }, events := [] }

section

variable {S E ω : Type} (w : World S E ω)

@[simp] theorem World.clear_store : w.clear.store = w.store := rfl

@[simp] theorem World.clear_peers : w.clear.peers = w.peers := rfl

@[simp] theorem World.clear_events : w.clear.events = [] := rfl

@[simp] theorem World.clear_timestamp : w.clear.ledger.timestamp = w.ledger.timestamp := rfl

@[simp] theorem World.clear_balance : w.clear.ledger.balance = w.ledger.balance := rfl

@[simp] theorem World.clear_transfers : w.clear.ledger.transfers = [] := rfl

end

/-- The answer to a `try_` call. -/
inductive TryCall (ε α : Type) where
  /-- The call returned a value. -/
  | ok (a : α)
  /-- The call returned something that does not decode as a value. -/
  | badValue
  /-- The call returned a typed error. -/
  | err (e : ε)
  /-- The call could not complete. -/
  | failed
  deriving DecidableEq

namespace Exec

variable {S E ω ε α β γ : Type}

/-- `address.require_auth()` -/
def requireAuth (env : Env) (a : Address) : Exec (World S E ω) ε Unit :=
  trapUnless (env.signed a)

/-- `env.ledger().timestamp()` -/
def timestamp : Exec (World S E ω) ε U64 := gets fun w => w.ledger.timestamp

/-- Read the contract's storage. -/
def read (f : S → α) : Exec (World S E ω) ε α := gets fun w => f w.store

/-- Write the contract's storage. -/
def write (f : S → S) : Exec (World S E ω) ε Unit := modify fun w => { w with store := f w.store }

/-- `env.events().publish(..)` -/
def publish (e : E) : Exec (World S E ω) ε Unit :=
  modify fun w => { w with events := w.events ++ [e] }

/-- `token::Client::new(env, token).transfer(source, dest, amount)`, called by `self`. -/
def transferToken (env : Env) (self token source dest : Address) (amount : I128) :
    Exec (World S E ω) ε Unit := do
  let ledger ← gets World.ledger
  trapUnless (source = self ∨ env.signed source)
  trapUnless (0 ≤ amount.val ∧ amount.val ≤ ledger.balance token source)
  trapUnless (env.accepts ⟨token, source, dest, amount⟩)
  modify fun w => { w with ledger := w.ledger.move ⟨token, source, dest, amount⟩ }

/-- A `try_` call of another contract. -/
def callPeers (call : ω → TryCall γ α × ω) : Exec (World S E ω) ε (TryCall γ α) := do
  let (answer, _) ← gets fun w => call w.peers
  modify fun w => { w with peers := (call w.peers).2 }
  pure answer

variable {w : World S E ω} {r : β × World S E ω}

@[simp] theorem requireAuth_bind_ok {env : Env} {a : Address}
    {f : Unit → Exec (World S E ω) ε β} :
    (requireAuth env a >>= f) w = .ok r ↔ env.signed a = true ∧ f () w = .ok r :=
  trapUnless_bind_ok

@[simp] theorem timestamp_bind {f : U64 → Exec (World S E ω) ε β} :
    (timestamp >>= f) w = f w.ledger.timestamp w := rfl

@[simp] theorem read_bind {g : S → α} {f : α → Exec (World S E ω) ε β} :
    (read g >>= f) w = f (g w.store) w := rfl

@[simp] theorem write_bind {g : S → S} {f : Unit → Exec (World S E ω) ε β} :
    (write g >>= f) w = f () { w with store := g w.store } := rfl

@[simp] theorem publish_bind {e : E} {f : Unit → Exec (World S E ω) ε β} :
    (publish e >>= f) w = f () { w with events := w.events ++ [e] } := rfl

@[simp] theorem transferToken_bind_ok {env : Env} {self token source dest : Address}
    {amount : I128} {f : Unit → Exec (World S E ω) ε β} :
    (transferToken env self token source dest amount >>= f) w = .ok r ↔
      (source = self ∨ env.signed source = true) ∧
      (0 ≤ amount.val ∧ amount.val ≤ w.ledger.balance token source) ∧
      env.accepts ⟨token, source, dest, amount⟩ = true ∧
      f () { w with ledger := w.ledger.move ⟨token, source, dest, amount⟩ } = .ok r := by
  simp only [transferToken, bind_assoc, gets_bind, trapUnless_bind_ok, modify_bind]

@[simp] theorem callPeers_bind {call : ω → TryCall γ α × ω}
    {f : TryCall γ α → Exec (World S E ω) ε β} :
    (callPeers call >>= f) w = f (call w.peers).1 { w with peers := (call w.peers).2 } := rfl

@[simp] theorem requireAuth_bind_error {env : Env} {a : Address} {e : Fault ε}
    {f : Unit → Exec (World S E ω) ε β} :
    (requireAuth env a >>= f) w = .error e ↔
      (¬ env.signed a = true ∧ e = .trap) ∨ (env.signed a = true ∧ f () w = .error e) :=
  trapUnless_bind_error

/-- A token transfer can only trap: a typed error comes from what follows it. -/
theorem error_of_transferToken_bind {env : Env} {self token source dest : Address}
    {amount : I128} {e : Fault ε} {f : Unit → Exec (World S E ω) ε β}
    (h : (transferToken env self token source dest amount >>= f) w = .error e) : e = .trap ∨
      f () { w with ledger := w.ledger.move ⟨token, source, dest, amount⟩ } = .error e := by
  simp only [transferToken, bind_assoc, gets_bind, trapUnless_bind_error, modify_bind] at h
  tauto

end Exec

end RemitBridge
