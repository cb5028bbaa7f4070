import RemitBridge.Data.Process
import RemitBridge.Indexer.Decoder

/-!
# Invoking contracts through the RPC node

The backend writes to the chain through an RPC node: it simulates a transaction, signs what the
simulation has completed, submits it, and polls for the result.  `invoke` is that procedure, as a
process whose calls go to the node.

`Submission` is what its caller can know of the transaction; `follows_invoke` says how the calls
lead from one such stage to the next, and with which stages `invoke` returns and fails.

Fees, time bounds and resource footprints of transactions are not modelled.
-/

namespace RemitBridge

namespace Backend

open Process Indexer

/-! ### Errors -/

inductive ErrorCode where
  | validationFailed
  | notFound
  | conflict
  | unauthorized
  | chainUnavailable
  | providerUnavailable
  deriving DecidableEq

structure AppError where
  code : ErrorCode
  message : String
  status : ℕ
  details : List (String × String)

/-- What the backend throws: its own errors and all others. -/
inductive Failure where
  | app (e : AppError)
  | error (message : String)

def Failure.message : Failure → String
  | app e => e.message
  | error message => message

def validationFailed (details : List (String × String)) : Failure :=
  .app ⟨.validationFailed, "Request failed validation", 400, details⟩

def notFound (what id : String) : Failure :=
  .app ⟨.notFound, what ++ " not found", 404, [("id", id)]⟩

def conflict (message : String) (details : List (String × String)) : Failure :=
  .app ⟨.conflict, message, 409, details⟩

def unauthorized (message : String) : Failure :=
  .app ⟨.unauthorized, message, 401, []⟩

def providerUnavailable (provider cause : String) : Failure :=
  .app ⟨.providerUnavailable, "Identity provider unavailable", 503,
    [("provider", provider), ("cause", cause)]⟩

def chainUnavailable (operation cause : String) : Failure :=
  .app ⟨.chainUnavailable, "Soroban RPC unavailable", 503,
    [("operation", operation), ("cause", cause)]⟩

/-! ### The RPC node -/

structure Keypair where
  publicKey : String

/-- Whose authorization a transaction carries for a contract: its source account's, or that of
another address, which has to sign for itself. -/
inductive Credentials where
  | sourceAccount
  | address (address : String) (signed : Bool)

/-- A transaction that calls a contract. -/
structure Transaction where
  source : String
  sequence : ℕ
  contractId : String
  method : String
  args : List Value
  auth : List Credentials
  /-- The public keys whose signatures it bears. -/
  signatures : List String

inductive RpcCall where
  | getAccount (publicKey : String)
  | simulateTransaction (transaction : Transaction)
  | sendTransaction (transaction : Transaction)
  | getTransaction (hash : String)

/-- A successful simulation lists the authorizations that the call needs. -/
inductive Simulation where
  | error (message : String)
  | success (retval : Option Value) (auth : List Credentials)

inductive SendStatus where
  | pending
  | duplicate
  | tryAgainLater
  | error
  deriving DecidableEq

structure SendResponse where
  status : SendStatus
  hash : String
  /-- As JSON. -/
  errorResult : Option String

inductive GetTransactionResponse where
  | success (ledger : ℕ)
  | failed
  | notFound

/-- The answers; that to `getAccount` is the sequence number of the account. -/
abbrev RpcAnswer : RpcCall → Type
  | .getAccount _ => ℕ
  | .simulateTransaction _ => Simulation
  | .sendTransaction _ => SendResponse
  | .getTransaction _ => GetTransactionResponse

abbrev Rpc (α : Type) := Process RpcCall RpcAnswer Failure α

def getAccount (publicKey : String) : Rpc ℕ := ask (RpcCall.getAccount publicKey)

def simulateTransaction (tx : Transaction) : Rpc Simulation := ask (RpcCall.simulateTransaction tx)

def sendTransaction (tx : Transaction) : Rpc SendResponse := ask (RpcCall.sendTransaction tx)

def getTransaction (hash : String) : Rpc GetTransactionResponse := ask (RpcCall.getTransaction hash)

structure InvocationResult where
  value : Option Value
  hash : Option String
  ledger : Option ℕ

structure InvocationOptions where
  contractId : String
  method : String
  args : List Value
  signer : Keypair
  simulateOnly : Bool := false

/-- `POLL_ATTEMPTS` -/
def pollAttempts : ℕ := 30

/-- Poll so many times.  A transaction that is not found until then may still land. -/
def pollForResult (hash : String) : ℕ → Rpc ℕ
  | 0 => pure 0
  | attempts + 1 => do
    match ← getTransaction hash with
    | .success ledger => pure ledger
    | .failed => .fail (.error ("Transaction " ++ hash ++ " failed on-chain"))
    | .notFound => pollForResult hash attempts

/-- The transaction that is simulated. -/
def InvocationOptions.transaction (options : InvocationOptions) (sequence : ℕ) : Transaction where
  source := options.signer.publicKey
  sequence := sequence + 1
  contractId := options.contractId
  method := options.method
  args := options.args
  auth := []
  signatures := []

/-- The transaction that is submitted: with the authorizations that the simulation found, and the
signature of the signer. -/
def InvocationOptions.prepared (options : InvocationOptions) (sequence : ℕ)
    (auth : List Credentials) : Transaction :=
  { options.transaction sequence with auth, signatures := [options.signer.publicKey] }

/-- What `invoke` tries. -/
def InvocationOptions.submit (options : InvocationOptions) : Rpc InvocationResult := do
  let sequence ← getAccount options.signer.publicKey
  match ← simulateTransaction (options.transaction sequence) with
  | .error message => .fail (.error message)
  | .success value auth =>
    if options.simulateOnly = true then
      pure ⟨value, none, none⟩
    else do
      let sent ← sendTransaction (options.prepared sequence auth)
      throwUnless (sent.status ≠ .error)
        (.error ("Submission rejected: " ++ sent.errorResult.getD "\"ERROR\""))
      let ledger ← pollForResult sent.hash pollAttempts
      pure ⟨value, some sent.hash, some ledger⟩

def invoke (options : InvocationOptions) : Rpc InvocationResult :=
  options.submit.tryCatch fun cause =>
    if cause.message.startsWith "Simulation failed" = true then .fail cause
    else .fail (chainUnavailable (options.method ++ "@" ++ options.contractId) cause.message)

/-- The transactions that a call submits. -/
def RpcCall.sent : RpcCall → List Transaction
  | sendTransaction tx => [tx]
  | getAccount _ | simulateTransaction _ | getTransaction _ => []

/-! ### What the caller can know -/

/-- How far a transaction has come. -/
inductive Submission where
  | unsent
  /-- It was submitted, but the call failed. -/
  | unknown (transaction : Transaction)
  /-- The node answered with the status `ERROR`. -/
  | refused (transaction : Transaction)
  /-- It was accepted, and was not found when polled so many times. -/
  | pending (transaction : Transaction) (hash : String) (polls : ℕ)
  /-- It was accepted, but polling it failed. -/
  | lost (transaction : Transaction) (hash : String)
  | confirmed (transaction : Transaction) (hash : String)
  | failed (transaction : Transaction) (hash : String)

namespace Submission

/-- What a call tells of the transaction. -/
def next : Submission → (q : RpcCall) → Except Failure (RpcAnswer q) → Option Submission
  | unsent, .getAccount _, _ => some unsent
  | unsent, .simulateTransaction _, _ => some unsent
  | unsent, .sendTransaction tx, .ok sent =>
    some (if sent.status = .error then refused tx else pending tx sent.hash 0)
  | unsent, .sendTransaction tx, .error _ => some (unknown tx)
  | pending tx hash n, .getTransaction hash', o =>
    if hash' = hash then
      match o with
      | .ok (.success _) => some (confirmed tx hash)
      | .ok .failed => some (failed tx hash)
      | .ok .notFound => some (pending tx hash (n + 1))
      | .error _ => some (lost tx hash)
    else none
  | _, _, _ => none

/-- The calls, and what they tell of the transaction. -/
inductive Move : Submission → (q : RpcCall) → Except Failure (RpcAnswer q) → Submission → Prop
  | account {publicKey : String} {o : Except Failure (RpcAnswer (.getAccount publicKey))} :
      Move unsent (.getAccount publicKey) o unsent
  | simulated {tx : Transaction} {o : Except Failure (RpcAnswer (.simulateTransaction tx))} :
      Move unsent (.simulateTransaction tx) o unsent
  | refused {tx : Transaction} {sent : SendResponse} : sent.status = .error →
      Move unsent (.sendTransaction tx) (.ok sent) (refused tx)
  | accepted {tx : Transaction} {sent : SendResponse} : sent.status ≠ .error →
      Move unsent (.sendTransaction tx) (.ok sent) (pending tx sent.hash 0)
  | unknown {tx : Transaction} {e : Failure} :
      Move unsent (.sendTransaction tx) (.error e) (unknown tx)
  | confirmed {tx : Transaction} {hash : String} {n ledger : ℕ} :
      Move (pending tx hash n) (.getTransaction hash) (.ok (.success ledger)) (confirmed tx hash)
  | failed {tx : Transaction} {hash : String} {n : ℕ} :
      Move (pending tx hash n) (.getTransaction hash) (.ok .failed) (failed tx hash)
  | notFound {tx : Transaction} {hash : String} {n : ℕ} :
      Move (pending tx hash n) (.getTransaction hash) (.ok .notFound) (pending tx hash (n + 1))
  | lost {tx : Transaction} {hash : String} {n : ℕ} {e : Failure} :
      Move (pending tx hash n) (.getTransaction hash) (.error e) (lost tx hash)

theorem move_of_next {s s' : Submission} {q : RpcCall} {o : Except Failure (RpcAnswer q)}
    (h : s.next q o = some s') : Move s q o s' := by
  cases s with
  | unsent =>
    cases q with
    | getAccount =>
      cases h
      exact .account
    | simulateTransaction =>
      cases h
      exact .simulated
    | sendTransaction tx =>
      cases o with
      | ok sent =>
        cases h
        split_ifs with hstatus
        · exact .refused hstatus
        · exact .accepted hstatus
      | error e =>
        cases h
        exact .unknown
    | getTransaction => cases h
  | pending tx hash n =>
    cases q with
    | getTransaction hash' =>
      change (if hash' = hash then _ else none) = some s' at h
      split_ifs at h with heq
      subst heq
      rcases o with e | (ledger | _ | _)
      · cases h
        exact .lost
      · cases h
        exact .confirmed
      · cases h
        exact .failed
      · cases h
        exact .notFound
    | getAccount | simulateTransaction | sendTransaction => cases h
  | _ => cases q <;> cases h

/-- How `invoke` ends. -/
inductive Concludes : Submission → Except Failure InvocationResult → Prop
  | confirmed {tx : Transaction} {hash : String} {value : Option Value} {ledger : ℕ} :
      Concludes (confirmed tx hash) (.ok ⟨value, some hash, some ledger⟩)
  | unconfirmed {tx : Transaction} {hash : String} {value : Option Value} :
      Concludes (pending tx hash pollAttempts) (.ok ⟨value, some hash, some 0⟩)
  | unsent {e : Failure} : Concludes unsent (.error e)
  | unknown {tx : Transaction} {e : Failure} : Concludes (unknown tx) (.error e)
  | refused {tx : Transaction} {e : Failure} : Concludes (refused tx) (.error e)
  | lost {tx : Transaction} {hash : String} {e : Failure} : Concludes (lost tx hash) (.error e)
  | failed {tx : Transaction} {hash : String} {e : Failure} : Concludes (failed tx hash) (.error e)

/-- Which error it is says nothing. -/
theorem Concludes.error {s : Submission} {e e' : Failure} (h : Concludes s (.error e)) :
    Concludes s (.error e') := by
  cases h with
  | unsent => exact .unsent
  | unknown => exact .unknown
  | refused => exact .refused
  | lost => exact .lost
  | failed => exact .failed

/-- The hash, if `invoke` returns now. -/
def returned : Submission → Option String
  | confirmed _ hash => some hash
  | pending _ hash polls => if polls = pollAttempts then some hash else none
  | _ => none

/-- `invoke` fails now, or may do so. -/
def givesUp : Submission → Bool
  | unsent | unknown _ | refused _ | lost _ _ | failed _ _ => true
  | pending .. | confirmed .. => false

theorem Concludes.returned {s : Submission} {result : InvocationResult}
    (h : Concludes s (.ok result)) : s.returned = result.hash ∧ result.hash.isSome = true := by
  cases h with
  | confirmed => exact ⟨rfl, rfl⟩
  | unconfirmed => exact ⟨by rw [Submission.returned, if_pos rfl], rfl⟩

theorem Concludes.givesUp {s : Submission} {e : Failure} (h : Concludes s (.error e)) :
    s.givesUp = true := by
  cases h <;> rfl

/-- How polling ends. -/
inductive Polled (tx : Transaction) (hash : String) : Submission → Except Failure ℕ → Prop
  | confirmed {ledger : ℕ} : Polled tx hash (confirmed tx hash) (.ok ledger)
  | unconfirmed : Polled tx hash (pending tx hash pollAttempts) (.ok 0)
  | failed {e : Failure} : Polled tx hash (failed tx hash) (.error e)
  | lost {e : Failure} : Polled tx hash (lost tx hash) (.error e)

end Submission

open Submission

theorem follows_pollForResult {tx : Transaction} {hash : String} (attempts : ℕ) :
    ∀ n, n + attempts = pollAttempts → Follows Submission.next (Polled tx hash)
      (pending tx hash n) (pollForResult hash attempts) := by
  induction attempts with
  | zero =>
    rintro n rfl
    exact .pure .unconfirmed
  | succ attempts ih =>
    intro n hn
    rw [pollForResult]
    refine .ask_bind (fun response => ?_) fun e => ⟨lost tx hash, if_pos rfl, .lost⟩
    cases response with
    | success ledger => exact ⟨confirmed tx hash, if_pos rfl, .confirmed⟩
    | failed => exact ⟨failed tx hash, if_pos rfl, .failed⟩
    | notFound => exact ⟨pending tx hash (n + 1), if_pos rfl, ih (n + 1) (by omega)⟩

theorem follows_submit {options : InvocationOptions} (h : options.simulateOnly = false) :
    Follows Submission.next Concludes unsent options.submit := by
  rw [InvocationOptions.submit]
  refine .ask_bind (fun sequence => ⟨unsent, rfl, ?_⟩) fun e => ⟨unsent, rfl, .unsent⟩
  refine .ask_bind (fun simulation => ⟨unsent, rfl, ?_⟩) fun e => ⟨unsent, rfl, .unsent⟩
  cases simulation with
  | error message => exact Concludes.unsent
  | success value auth =>
    show Follows _ _ _ (if options.simulateOnly = true then _ else _)
    rw [h, if_neg (by decide)]
    refine .ask_bind (fun sent => ⟨_, rfl, ?_⟩) fun e => ⟨unknown _, rfl, .unknown⟩
    by_cases hstatus : sent.status = .error
    · rw [if_pos hstatus, throwUnless_bind_neg (not_not_intro hstatus)]
      exact Concludes.refused
    · rw [if_neg hstatus, throwUnless_bind_pos hstatus]
      refine .bind (follows_pollForResult pollAttempts 0 (Nat.zero_add _)) ?_ ?_
      · intro s ledger hpolled
        cases hpolled with
        | confirmed => exact Concludes.confirmed
        | unconfirmed => exact Concludes.unconfirmed
      · intro s e hpolled
        cases hpolled with
        | failed => exact .failed
        | lost => exact .lost

/-- **Invocations.**  At most one transaction is submitted; when `invoke` returns, it has been
confirmed or has not been found in time. -/
theorem follows_invoke {options : InvocationOptions} (h : options.simulateOnly = false) :
    Follows Submission.next Concludes unsent (invoke options) := by
  refine .tryCatch (follows_submit h) (fun _ _ hc => hc) fun s e hc => ?_
  show Follows _ _ _ (if _ then _ else _)
  split_ifs
  · exact hc
  · exact hc.error

/-- The transaction calls this contract, and carries these arguments. -/
structure InvocationOptions.Matches (options : InvocationOptions) (tx : Transaction) : Prop where
  contractId : tx.contractId = options.contractId
  method : tx.method = options.method
  args : tx.args = options.args

theorem asks_pollForResult {ok : RpcCall → Prop} (h : ∀ hash, ok (.getTransaction hash))
    {hash : String} (attempts : ℕ) : Asks ok (pollForResult hash attempts) := by
  induction attempts with
  | zero => exact trivial
  | succ attempts ih =>
    rw [pollForResult]
    refine .ask_bind (h hash) fun response => ?_
    cases response with
    | notFound => exact ih
    | _ => trivial

/-- What `invoke` submits is its own transaction. -/
theorem asks_invoke {options : InvocationOptions} {ok : RpcCall → Prop}
    (hok : ∀ q, (∀ tx ∈ q.sent, options.Matches tx) → ok q) : Asks ok (invoke options) := by
  refine .tryCatch ?_ fun e => ?_
  · rw [InvocationOptions.submit]
    refine .ask_bind (hok _ nofun) fun sequence => .ask_bind (hok _ nofun) fun simulation => ?_
    cases simulation with
    | error message => trivial
    | success value auth =>
      show Asks ok (if options.simulateOnly = true then _ else _)
      split_ifs
      · trivial
      · refine .ask_bind (hok _ (List.forall_mem_singleton.2 ⟨rfl, rfl, rfl⟩)) fun sent => ?_
        refine .bind .throwUnless fun _ => .bind ?_ fun ledger => trivial
        exact asks_pollForResult (fun hash => hok _ nofun) pollAttempts
  · show Asks ok (if _ then _ else _)
    split_ifs <;> trivial

end Backend

end RemitBridge
