import Mathlib.Logic.Basic
import Mathlib.Tactic.SplitIfs

/-!
# Transactional execution

`Exec σ ε α` is a computation over a state `σ` that returns an `α`, or fails.  A failure carries no
state: whatever was written before it is lost with it, which is how an invocation that returns an
error or traps is reverted.

The lemmas `*_bind` and `*_bind_ok` take a `do` block apart one statement at a time, from its
first.  Rewriting with them turns "this computation succeeds" into the conjunction of the guards
it passed and an equation for the state it leaves, in both directions.
-/

namespace RemitBridge

/-- Why an invocation fails: a typed error of the contract, or a trap of the host. -/
inductive Fault (ε : Type) where
  /-- The contract returned `Err(e)`. -/
  | err (e : ε)
  /-- The host stopped the invocation. -/
  | trap
  deriving DecidableEq

/-- Computations over a state `σ` that can fail with an error in `ε`. -/
def Exec (σ ε α : Type) : Type := σ → Except (Fault ε) (α × σ)

namespace Exec

variable {σ ε α β : Type}

instance : Monad (Exec σ ε) where
  pure a := fun s => .ok (a, s)
  bind x f := fun s => match x s with
    | .ok (a, s') => f a s'
    | .error e => .error e

/-- Return an error. -/
def fail (e : ε) : Exec σ ε α := fun _ => .error (.err e)

/-- Stop the invocation. -/
def trap : Exec σ ε α := fun _ => .error .trap

/-- Read something off the state. -/
def gets (f : σ → α) : Exec σ ε α := fun s => .ok (f s, s)

/-- Change the state. -/
def modify (f : σ → σ) : Exec σ ε Unit := fun s => .ok ((), f s)

/-- Return the error `e` if `c` holds. -/
def refuseIf (c : Prop) [Decidable c] (e : ε) : Exec σ ε Unit :=
  if c then fail e else pure ()

/-- Stop the invocation unless `c` holds. -/
def trapUnless (c : Prop) [Decidable c] : Exec σ ε Unit :=
  if c then pure () else trap

/-- The value of an option, or the error `e`. -/
def okOr (o : Option α) (e : ε) : Exec σ ε α :=
  match o with
  | some a => pure a
  | none => fail e

/-- The value of an option, or a trap. -/
def orTrap (o : Option α) : Exec σ ε α :=
  match o with
  | some a => pure a
  | none => trap

/-- A computation that does not touch the state. -/
def lift (x : Except ε α) : Exec σ ε α :=
  match x with
  | .ok a => pure a
  | .error e => fail e

/-! ### Taking a computation apart -/

variable {s s' : σ} {a b : α} {r : β × σ} {f : α → Exec σ ε β}

@[simp] theorem pure_ok : (pure a : Exec σ ε α) s = .ok (b, s') ↔ b = a ∧ s' = s := by
  change Except.ok (a, s) = Except.ok (b, s') ↔ _
  rw [Except.ok.injEq, Prod.mk.injEq]
  exact and_congr eq_comm eq_comm

@[simp] theorem pure_bind_apply : (pure a >>= f) s = f a s := rfl

@[simp] theorem fail_ne_ok {e : ε} {p : α × σ} : (fail e : Exec σ ε α) s ≠ .ok p := nofun

@[simp] theorem fail_bind {e : ε} : (fail e >>= f) s = .error (.err e) := rfl

@[simp] theorem trap_bind : (trap >>= f) s = .error .trap := rfl

theorem bind_assoc {γ : Type} (x : Exec σ ε α) (f : α → Exec σ ε β) (g : β → Exec σ ε γ) :
    (x >>= f) >>= g = x >>= fun a => f a >>= g := by
  funext s
  change (match (match x s with | .ok (a, s') => f a s' | .error e => .error e) with
    | .ok (b, s') => g b s' | .error e => .error e) = _
  change _ = match x s with | .ok (a, s') => (f a >>= g) s' | .error e => .error e
  cases x s <;> rfl

theorem bind_pure (x : Exec σ ε α) : x >>= pure = x := by
  funext s
  change (match x s with | .ok (a, s') => .ok (a, s') | .error e => .error e) = x s
  cases x s <;> rfl

/-- A sequence succeeds when its parts do. -/
theorem bind_ok {x : Exec σ ε α} :
    (x >>= f) s = .ok r ↔ ∃ a s', x s = .ok (a, s') ∧ f a s' = .ok r := by
  change (match x s with | .ok (a, s') => f a s' | .error e => .error e) = _ ↔ _
  cases hx : x s with
  | error e => simp
  | ok p =>
    obtain ⟨a, s'⟩ := p
    simp only [Except.ok.injEq, Prod.mk.injEq]
    constructor
    · exact fun h => ⟨a, s', ⟨rfl, rfl⟩, h⟩
    · rintro ⟨_, _, ⟨rfl, rfl⟩, h⟩; exact h

/-- A computation whose result is only repackaged succeeds when it does. -/
theorem bind_pure_ok {x : Exec σ ε α} {g : α → β} {b : β} :
    (x >>= fun a => pure (g a)) s = .ok (b, s') ↔ ∃ a, x s = .ok (a, s') ∧ b = g a := by
  constructor
  · intro h
    obtain ⟨a, s₁, hx, hpure⟩ := bind_ok.1 h
    obtain ⟨hb, hs⟩ := pure_ok.1 hpure
    exact ⟨a, hs ▸ hx, hb⟩
  · rintro ⟨a, hx, rfl⟩
    exact bind_ok.2 ⟨a, s', hx, rfl⟩

@[simp] theorem gets_bind {g : σ → α} : (gets g >>= f) s = f (g s) s := rfl

@[simp] theorem modify_bind {g : σ → σ} {f : Unit → Exec σ ε β} :
    (modify g >>= f) s = f () (g s) := rfl

@[simp] theorem refuseIf_bind_ok {c : Prop} [Decidable c] {e : ε} {f : Unit → Exec σ ε β} :
    (refuseIf c e >>= f) s = .ok r ↔ ¬ c ∧ f () s = .ok r := by
  unfold refuseIf
  split_ifs with h <;> simp [h]

@[simp] theorem trapUnless_bind_ok {c : Prop} [Decidable c] {f : Unit → Exec σ ε β} :
    (trapUnless c >>= f) s = .ok r ↔ c ∧ f () s = .ok r := by
  unfold trapUnless
  split_ifs with h <;> simp [h]

@[simp] theorem okOr_bind_ok {o : Option α} {e : ε} :
    (okOr o e >>= f) s = .ok r ↔ ∃ a, o = some a ∧ f a s = .ok r := by
  cases o <;> simp [okOr]

@[simp] theorem orTrap_bind_ok {o : Option α} :
    (orTrap o >>= f) s = .ok r ↔ ∃ a, o = some a ∧ f a s = .ok r := by
  cases o <;> simp [orTrap]

@[simp] theorem lift_bind_ok {x : Except ε α} :
    (lift x >>= f) s = .ok r ↔ ∃ a, x = .ok a ∧ f a s = .ok r := by
  cases x <;> simp [lift]

/-! ### Failing computations -/

variable {e' : Fault ε}

@[simp] theorem pure_ne_error : (pure a : Exec σ ε α) s ≠ .error e' := nofun

@[simp] theorem refuseIf_bind_error {c : Prop} [Decidable c] {e : ε} {f : Unit → Exec σ ε β} :
    (refuseIf c e >>= f) s = .error e' ↔ (c ∧ e' = .err e) ∨ (¬ c ∧ f () s = .error e') := by
  unfold refuseIf
  split_ifs with h <;> simp [h, eq_comm]

@[simp] theorem trapUnless_bind_error {c : Prop} [Decidable c] {f : Unit → Exec σ ε β} :
    (trapUnless c >>= f) s = .error e' ↔ (¬ c ∧ e' = .trap) ∨ (c ∧ f () s = .error e') := by
  unfold trapUnless
  split_ifs with h <;> simp [h, eq_comm]

@[simp] theorem okOr_bind_error {o : Option α} {e : ε} :
    (okOr o e >>= f) s = .error e' ↔
      (o = none ∧ e' = .err e) ∨ ∃ a, o = some a ∧ f a s = .error e' := by
  cases o <;> simp [okOr, eq_comm]

@[simp] theorem orTrap_bind_error {o : Option α} :
    (orTrap o >>= f) s = .error e' ↔
      (o = none ∧ e' = .trap) ∨ ∃ a, o = some a ∧ f a s = .error e' := by
  cases o <;> simp [orTrap, eq_comm]

theorem bind_error {x : Exec σ ε α} :
    (x >>= f) s = .error e' ↔
      x s = .error e' ∨ ∃ a s', x s = .ok (a, s') ∧ f a s' = .error e' := by
  change (match x s with | .ok (a, s') => f a s' | .error e => .error e) = _ ↔ _
  cases hx : x s with
  | error e => simp
  | ok p =>
    obtain ⟨a, s'⟩ := p
    simp only [reduceCtorEq, false_or, Except.ok.injEq, Prod.mk.injEq]
    constructor
    · exact fun h => ⟨a, s', ⟨rfl, rfl⟩, h⟩
    · rintro ⟨_, _, ⟨rfl, rfl⟩, h⟩
      exact h

end Exec

end RemitBridge
