import Mathlib.Algebra.Order.Floor.Ring
import Mathlib.Data.Rat.Floor
import RemitBridge.Console.Policy
import RemitBridge.Data.Window
import RemitBridge.Json.Ascii
import RemitBridge.Money.Amount
import RemitBridge.Transition.Basic

/-!
# Signing in

Failed attempts to sign in are counted for each email and address, in a window that slides with the
time (`LoginThrottle`).  The handler (`POST`) asks the throttle first, verifies the password, and
notes a failure, all without waiting; only then it waits for the token of the session, and clears
the failures when the token is there.

An attempt fails exactly if its key is not locked out and the verification of its credentials fails
(`POST_failed_iff`).  In every run the throttle tells exactly what has failed since the last success
(`throttled`).
-/

namespace RemitBridge

namespace Console

open Ascii Json Window

/-! ### The throttle -/

/-- Times are in milliseconds. -/
structure ThrottleOptions where
  maxFailures : ℕ := 5
  windowMs : ℚ := 15 * 60000

/-- The failures that are kept for each key, oldest first. -/
abbrev LoginThrottle := Str → Option (List ℚ)

namespace LoginThrottle

variable (options : ThrottleOptions) (key : Str) (now : ℚ)

/-- What is kept for a key. -/
def kept (failures : LoginThrottle) : List ℚ := (failures key).getD []

def recent : StateM LoginThrottle (List ℚ) := do
  let pruned := Window.recent options.windowMs now ((← get).kept key)
  modify fun failures => Function.update failures key (some pruned)
  return pruned

def isLockedOut : StateM LoginThrottle Bool := do
  let recent ← recent options key now
  return decide (options.maxFailures ≤ recent.length)

/-- In seconds; zero when not locked. -/
def retryAfterSeconds : StateM LoginThrottle ℤ := do
  let recent ← recent options key now
  if recent.length < options.maxFailures then return 0
  match recent with
  | [] => return 0
  | oldest :: _ => return max 1 ⌈(oldest + options.windowMs - now) / 1000⌉

def recordFailure : StateM LoginThrottle Unit := do
  let recent ← recent options key now
  modify fun failures => Function.update failures key (some (recent ++ [now]))

def recordSuccess : StateM LoginThrottle Unit :=
  modify fun failures => Function.update failures key none

end LoginThrottle

/-! ### The handler -/

structure OperatorAccount where
  email : Str
  name : Str
  passwordHash : Str
  roles : List Role

structure Credentials where
  email : Str
  password : Str
  deriving DecidableEq

/-- What the handler reads of a request; the body is `null` if it is not JSON. -/
structure LoginRequest (N : Type) where
  body : Json N
  /-- The header `x-forwarded-for`. -/
  forwardedFor : Option Str

/-- What the handler uses of the libraries and of the environment. -/
structure LoginEnvironment where
  unicode : Unicode
  /-- It throws if a stored hash asks for too much memory. -/
  verifyPassword : Str → Str → Except Str Bool
  dummyHash : Str
  operatorAccounts : Except Str (List OperatorAccount)
  sessionSecret : Except Str Str

def credentialsSchema {N : Type} : Json N → Option Credentials
  | .obj members =>
    match members.lookup (units "email"), members.lookup (units "password") with
    | some (.str email), some (.str password) =>
      if email ≠ [] ∧ password ≠ [] then some ⟨email, password⟩ else none
    | _, _ => none
  | _ => none

variable {N : Type} (env : LoginEnvironment) (options : ThrottleOptions)

/-- `email.trim().toLowerCase()` -/
def normalized (email : Str) : Str := toLowerCase env.unicode (Money.trim email)

def clientKey (request : LoginRequest N) (email : Str) : Str :=
  let forwarded := request.forwardedFor.getD []
  let address := Money.trim (((forwarded.splitOn (unit ','))[0]?).getD [])
  normalized env email ++ units "|" ++ address

/-- Look up an operator by email, case-insensitively. -/
def findOperator (accounts : List OperatorAccount) (email : Str) : Option OperatorAccount :=
  accounts.find? fun account => decide (account.email = normalized env email)

/-- How far the handler comes without waiting. -/
inductive LoginReply where
  | validationFailed
  /-- 429, with the header `retry-after` -/
  | tooManyAttempts (retryAfter : ℤ)
  | invalidCredentials
  /-- 500, also where something is thrown -/
  | misconfigured (message : Str)
  /-- It waits for the token of a session. -/
  | signing (account : OperatorAccount)

/-- What follows the question whether the key is locked out. -/
def signIn (key : Str) (credentials : Credentials) (now : ℚ) : StateM LoginThrottle LoginReply :=
  match env.operatorAccounts with
  | .error message => return .misconfigured message
  | .ok accounts =>
    let account := findOperator env accounts credentials.email
    let stored := (account.map OperatorAccount.passwordHash).getD env.dummyHash
    match env.verifyPassword credentials.password stored with
    | .error message => return .misconfigured message
    | .ok passwordOk =>
      match account, passwordOk with
      | some account, true =>
        match env.sessionSecret with
        | .error message => return .misconfigured message
        | .ok _ => return .signing account
      | _, _ => do
        LoginThrottle.recordFailure options key now
        return .invalidCredentials

/-- The clock is read twice: by the first question to the throttle, and by what follows. -/
def POST (request : LoginRequest N) (now now' : ℚ) : StateM LoginThrottle LoginReply :=
  match credentialsSchema request.body with
  | none => return .validationFailed
  | some credentials => do
    let key := clientKey env request credentials.email
    if ← LoginThrottle.isLockedOut options key now then
      let seconds ← LoginThrottle.retryAfterSeconds options key now'
      return .tooManyAttempts seconds
    else signIn env options key credentials now'

/-! ### Runs -/

/-- The key of a request whose body has credentials. -/
def LoginRequest.key (request : LoginRequest N) : Option Str :=
  (credentialsSchema request.body).map fun credentials => clientKey env request credentials.email

structure LoginState where
  failures : LoginThrottle
  /-- The clock when it was last read. -/
  now : ℚ
  /-- The keys of the handlers that wait for a token. -/
  waiting : List Str

inductive LoginLabel (N : Type) where
  | attempt (request : LoginRequest N) (now now' : ℚ) (reply : LoginReply)
  /-- The token is there. -/
  | signed (key : Str)

inductive LoginStep : LoginState → LoginLabel N → LoginState → Prop
  | attempt {s : LoginState} {request : LoginRequest N} {now now' : ℚ} : s.now ≤ now → now ≤ now' →
      LoginStep s (.attempt request now now' ((POST env options request now now').run s.failures).1)
        { failures := ((POST env options request now now').run s.failures).2
          now := now'
          waiting := match ((POST env options request now now').run s.failures).1 with
            | .signing _ => (request.key env).toList ++ s.waiting
            | _ => s.waiting }
  | signed {s : LoginState} {key : Str} : key ∈ s.waiting →
      LoginStep s (.signed key)
        { s with
          failures := ((LoginThrottle.recordSuccess key).run s.failures).2
          waiting := s.waiting.erase key }

/-- The requests to sign in, as one process handles them. -/
def logins : TransitionSystem LoginState (LoginLabel N) := ⟨LoginStep env options⟩

/-- The process when it starts. -/
def LoginState.fresh (now : ℚ) : LoginState := ⟨fun _ => none, now, []⟩

/-! ### What is to be seen of a run -/

/-- A password did not match, or there is no such operator. -/
def LoginReply.failed : LoginReply → Bool
  | invalidCredentials => true
  | validationFailed | tooManyAttempts _ | misconfigured _ | signing _ => false

/-- The handler went on to the accounts and the password. -/
def LoginReply.evaluated : LoginReply → Bool
  | invalidCredentials | misconfigured _ | signing _ => true
  | validationFailed | tooManyAttempts _ => false

namespace LoginLabel

variable (key : Str)

/-- The time of a failure. -/
def failedAt : LoginLabel N → Option ℚ
  | attempt request _ now' reply =>
    if request.key env = some key ∧ reply.failed = true then some now' else none
  | signed _ => none

def succeeds : LoginLabel N → Bool
  | attempt .. => false
  | signed key' => decide (key' = key)

def attempts : LoginLabel N → Bool
  | attempt request .. => decide (request.key env = some key)
  | signed _ => false

/-- The failures since the last success. -/
def note (times : List ℚ) (l : LoginLabel N) : List ℚ :=
  if l.succeeds key = true then [] else times ++ (l.failedAt env key).toList

end LoginLabel

def failuresSince (key : Str) (ls : List (LoginLabel N)) : List ℚ :=
  ls.foldl (LoginLabel.note env key) []

/-- The throttle does what it is for. -/
structure Throttled (N : Type) (env : LoginEnvironment) (options : ThrottleOptions) : Prop where
  /-- Between two successes no window holds too many failures. -/
  bounded : ∀ (start : ℚ) (ls₁ ls₂ ls₃ : List (LoginLabel N)) s key t,
    (logins env options).Run (.fresh start) (ls₁ ++ ls₂ ++ ls₃) s →
    (∀ l ∈ ls₂, l.succeeds key = false) →
    (within options.windowMs t (ls₂.filterMap (LoginLabel.failedAt env key))).length ≤
      options.maxFailures
  /-- Attempts are refused when the window is full. -/
  refused_iff : ∀ (start : ℚ) (ls : List (LoginLabel N)) s (request : LoginRequest N) now now' reply
    s' key,
    (logins env options).Run (.fresh start) ls s →
    (logins env options).step s (.attempt request now now' reply) s' →
    request.key env = some key → ((∃ seconds, reply = .tooManyAttempts seconds) ↔
      (within options.windowMs now (failuresSince env key ls)).length = options.maxFailures)
  /-- Who waits as long as told is not refused again. -/
  retried : ∀ (start : ℚ) (ls : List (LoginLabel N)) s (request : LoginRequest N) now now'
    (seconds : ℤ) s₁ (ls₁ : List (LoginLabel N)) s₂
      (request' : LoginRequest N) later later' reply s₃
    key,
    (logins env options).Run (.fresh start) ls s →
    (logins env options).step s (.attempt request now now' (.tooManyAttempts seconds)) s₁ →
    request.key env = some key → (logins env options).Run s₁ ls₁ s₂ →
    (∀ l ∈ ls₁, l.attempts env key = false) → now' + seconds * 1000 ≤ later →
    (logins env options).step s₂ (.attempt request' later later' reply) s₃ →
    request'.key env = some key → reply.evaluated = true

/-! ### What the functions do -/

section Functions

variable {env options} {failures failures' : LoginThrottle} {key key' : Str} {now now' : ℚ}
  {credentials : Credentials} {request : LoginRequest N} {reply : LoginReply}

namespace LoginThrottle

@[simp] theorem kept_update_self {times : Option (List ℚ)} :
    kept key (Function.update failures key times) = times.getD [] := by
  rw [kept, Function.update_self]

theorem kept_update_of_ne {times : Option (List ℚ)} (h : key' ≠ key) :
    kept key' (Function.update failures key times) = kept key' failures := by
  rw [kept, Function.update_of_ne h, kept]

theorem recent_run : (recent options key now).run failures =
    (Window.recent options.windowMs now (kept key failures),
      Function.update failures key
        (some (Window.recent options.windowMs now (kept key failures)))) :=
  rfl

theorem recordFailure_run : ((recordFailure options key now).run failures).2 =
    Function.update failures key
      (some (Window.recent options.windowMs now (kept key failures) ++ [now])) :=
  Function.update_idem ..

theorem retryAfterSeconds_eq : (retryAfterSeconds options key now).run failures =
    (match Window.recent options.windowMs now (kept key failures) with
      | [] => 0
      | oldest :: rest =>
        if (oldest :: rest).length < options.maxFailures then 0
        else max 1 ⌈(oldest + options.windowMs - now) / 1000⌉,
      Function.update failures key
        (some (Window.recent options.windowMs now (kept key failures)))) := by
  rw [retryAfterSeconds, StateT.run_bind, recent_run]
  generalize Window.recent options.windowMs now (kept key failures) = times
  change (if times.length < options.maxFailures then _ else _ : StateM LoginThrottle ℤ).run _ = _
  cases times with
  | nil => split_ifs <;> rfl
  | cons oldest rest =>
    by_cases hfew : (oldest :: rest).length < options.maxFailures
    · simp only [hfew, if_true]
      rfl
    · simp only [hfew, if_false]
      rfl

/-- After the delay the oldest failure is too old. -/
theorem le_of_retryAfterSeconds {oldest : ℚ} {rest : List ℚ} {seconds : ℤ}
    (hrecent : Window.recent options.windowMs now (kept key failures) = oldest :: rest)
    (hfull : options.maxFailures ≤ (oldest :: rest).length)
    (h : ((retryAfterSeconds options key now).run failures).1 = seconds) :
    oldest + options.windowMs ≤ now + seconds * 1000 := by
  rw [retryAfterSeconds_eq, hrecent] at h
  change (if (oldest :: rest).length < options.maxFailures then (0 : ℤ)
    else max 1 ⌈(oldest + options.windowMs - now) / 1000⌉) = seconds at h
  rw [if_neg (Nat.not_lt.2 hfull)] at h
  have hceil : (oldest + options.windowMs - now) / 1000 ≤ (seconds : ℚ) := by
    refine (Int.le_ceil _).trans ?_
    rw [← h]
    exact_mod_cast le_max_right 1 _
  linarith

end LoginThrottle

/-- The key is locked out. -/
def Locked (options : ThrottleOptions) (key : Str) (now : ℚ) (failures : LoginThrottle) : Prop :=
  options.maxFailures ≤ (Window.recent options.windowMs now (failures.kept key)).length

instance : Decidable (Locked options key now failures) := inferInstanceAs (Decidable (_ ≤ _))

/-- The failures after the old ones of a key have been dropped. -/
def pruned (options : ThrottleOptions) (key : Str) (now : ℚ) (failures : LoginThrottle) :
    LoginThrottle :=
  Function.update failures key
    (some (Window.recent options.windowMs now (failures.kept key)))

theorem kept_pruned : (pruned options key now failures).kept key =
    Window.recent options.windowMs now (failures.kept key) :=
  LoginThrottle.kept_update_self

/-- The handler either refuses or goes on. -/
theorem POST_run (options : ThrottleOptions) (failures : LoginThrottle) (now now' : ℚ)
    (hcredentials : credentialsSchema request.body = some credentials)
    (hkey : clientKey env request credentials.email = key) :
    (POST env options request now now').run failures =
      if Locked options key now failures then
        (.tooManyAttempts
            ((LoginThrottle.retryAfterSeconds options key now').run
              (pruned options key now failures)).1,
          pruned options key now' (pruned options key now failures))
      else (signIn env options key credentials now').run (pruned options key now failures) := by
  subst hkey
  rw [POST, hcredentials]
  change (if decide (Locked options _ now failures) = true then _ else _ :
    StateM LoginThrottle LoginReply).run _ = _
  by_cases hlocked : Locked options (clientKey env request credentials.email) now failures
  · simp only [hlocked, decide_true, if_true]
    rw [StateT.run_bind]
    refine Prod.ext rfl ?_
    exact congrArg (fun r : ℤ × LoginThrottle => r.2) LoginThrottle.retryAfterSeconds_eq
  · simp only [hlocked, decide_false, if_false, Bool.false_eq_true]
    rfl

/-- Going on, it records a failure or leaves the throttle alone. -/
theorem signIn_cases (env : LoginEnvironment) (options : ThrottleOptions) (key : Str)
    (credentials : Credentials) (now : ℚ) (failures : LoginThrottle) :
    (signIn env options key credentials now).run failures =
      (.invalidCredentials, ((LoginThrottle.recordFailure options key now).run failures).2) ∨
    ∃ reply : LoginReply, reply.evaluated = true ∧ reply.failed = false ∧
      (signIn env options key credentials now).run failures = (reply, failures) := by
  rw [signIn]
  cases env.operatorAccounts with
  | error message => exact .inr ⟨.misconfigured message, rfl, rfl, rfl⟩
  | ok accounts =>
    dsimp only
    cases env.verifyPassword credentials.password _ with
    | error message => exact .inr ⟨.misconfigured message, rfl, rfl, rfl⟩
    | ok passwordOk =>
      dsimp only
      split
      · next account _ =>
        cases env.sessionSecret with
        | error message => exact .inr ⟨.misconfigured message, rfl, rfl, rfl⟩
        | ok secret => exact .inr ⟨.signing account, rfl, rfl, rfl⟩
      · exact .inl rfl

/-- The verification of the credentials fails. -/
def Refuted (env : LoginEnvironment) (credentials : Credentials) : Prop :=
  ∃ accounts passwordOk, env.operatorAccounts = .ok accounts ∧
    env.verifyPassword credentials.password
      (((findOperator env accounts credentials.email).map OperatorAccount.passwordHash).getD
        env.dummyHash) = .ok passwordOk ∧
    (findOperator env accounts credentials.email = none ∨ passwordOk = false)

theorem signIn_failed_iff (failures : LoginThrottle) :
    ((signIn env options key credentials now).run failures).1.failed = true ↔
      Refuted env credentials := by
  rw [signIn]
  cases haccounts : env.operatorAccounts with
  | error message =>
    refine iff_of_false nofun ?_
    rintro ⟨accounts, passwordOk, hok, -⟩
    rw [haccounts] at hok
    cases hok
  | ok accounts =>
    dsimp only
    cases hverified : env.verifyPassword credentials.password _ with
    | error message =>
      refine iff_of_false nofun ?_
      rintro ⟨accounts', passwordOk, hok, hanswer, -⟩
      obtain rfl := Except.ok.inj (haccounts.symm.trans hok)
      rw [hverified] at hanswer
      cases hanswer
    | ok passwordOk =>
      -- The password is compared also where there is no such operator.
      have hrefuted : Refuted env credentials ↔
          findOperator env accounts credentials.email = none ∨ passwordOk = false := by
        refine ⟨?_, fun h => ⟨accounts, passwordOk, haccounts, hverified, h⟩⟩
        rintro ⟨accounts', passwordOk', hok, hanswer, h⟩
        obtain rfl := Except.ok.inj (haccounts.symm.trans hok)
        obtain rfl := Except.ok.inj (hverified.symm.trans hanswer)
        exact h
      rw [hrefuted]
      cases findOperator env accounts credentials.email with
      | none => exact iff_of_true rfl (.inl rfl)
      | some account =>
        cases passwordOk with
        | false => exact iff_of_true rfl (.inr rfl)
        | true =>
          refine iff_of_false ?_ (by rintro (h | h) <;> cases h)
          dsimp only
          cases env.sessionSecret <;> nofun

/-- **Failures.**  An attempt fails exactly if its key is not locked out and the verification of its
credentials fails. -/
theorem POST_failed_iff (options : ThrottleOptions) (failures : LoginThrottle) (now now' : ℚ)
    (hcredentials : credentialsSchema request.body = some credentials)
    (hkey : clientKey env request credentials.email = key) :
    ((POST env options request now now').run failures).1.failed = true ↔
      ¬ Locked options key now failures ∧ Refuted env credentials := by
  rw [POST_run options failures now now' hcredentials hkey]
  split_ifs with hlocked
  · exact iff_of_false nofun fun h => h.1 hlocked
  · rw [signIn_failed_iff]
    exact (and_iff_right hlocked).symm

/-! ### Attempts -/

/-- What an attempt for a key does to the throttle and what is answered. -/
structure Attempted (options : ThrottleOptions) (key : Str) (now now' : ℚ)
    (failures : LoginThrottle)
    (reply : LoginReply) (failures' : LoginThrottle) : Prop where
  others : ∀ key' ≠ key, failures'.kept key' = failures.kept key'
  kept : Alike options.windowMs now' (failures'.kept key)
    (failures.kept key ++ if reply.failed = true then [now'] else [])
  refused_iff : (∃ seconds, reply = .tooManyAttempts seconds) ↔ Locked options key now failures
  evaluated : ¬ Locked options key now failures → reply.evaluated = true
  /-- The delay makes up for the oldest failure. -/
  delay : ∀ seconds, reply = .tooManyAttempts seconds → ∀ oldest rest,
    Window.recent options.windowMs now' (failures.kept key) = oldest :: rest →
    options.maxFailures ≤ (oldest :: rest).length →
    oldest + options.windowMs ≤ now' + seconds * 1000

theorem alike_pruned (h : now ≤ now') :
    Alike options.windowMs now' ((pruned options key now failures).kept key)
    (failures.kept key) := by
  rw [kept_pruned]
  exact alike_recent.mono h

theorem attempted_POST (options : ThrottleOptions) (failures : LoginThrottle)
    (hkey : request.key env = some key) (hnow : now ≤ now') :
    Attempted options key now now' failures ((POST env options request now now').run failures).1
      ((POST env options request now now').run failures).2 := by
  obtain ⟨credentials, hcredentials, hclient⟩ := Option.map_eq_some_iff.1 hkey
  have hothers : ∀ key' ≠ key, (pruned options key now failures).kept key' = failures.kept key' :=
    fun key' hne => LoginThrottle.kept_update_of_ne hne
  have hrun := POST_run options failures now now' hcredentials hclient
  by_cases hlocked : Locked options key now failures
  · rw [if_pos hlocked] at hrun
    rw [hrun]
    refine ⟨fun key' hne => ?_, ?_, ⟨fun _ => hlocked, fun _ => ⟨_, rfl⟩⟩,
      fun hfree => absurd hlocked hfree, fun seconds hreply oldest rest hrecent hfull => ?_⟩
    · exact (LoginThrottle.kept_update_of_ne hne).trans (hothers key' hne)
    · simpa [LoginReply.failed] using (alike_pruned le_rfl).trans (alike_pruned hnow)
    · refine LoginThrottle.le_of_retryAfterSeconds ?_ hfull (LoginReply.tooManyAttempts.inj hreply)
      rw [kept_pruned, recent_recent hnow, hrecent]
  · rw [if_neg hlocked] at hrun
    -- What was looked up for the lockout has been pruned; now the credentials are evaluated.
    rcases signIn_cases env options key credentials now' (pruned options key now failures) with
      hfailed | ⟨reply, hevaluated, hfailed, hsame⟩
    · rw [hrun, hfailed]
      refine ⟨fun key' hne => ?_, ?_, ⟨?_, fun h => absurd h hlocked⟩, fun _ => rfl, ?_⟩
      · rw [LoginThrottle.recordFailure_run]
        exact (LoginThrottle.kept_update_of_ne hne).trans (hothers key' hne)
      · rw [LoginThrottle.recordFailure_run, LoginThrottle.kept_update_self]
        exact (alike_recent.trans (alike_pruned hnow)).append
      · rintro ⟨seconds, hreply⟩
        cases hreply
      · intro seconds hreply
        cases hreply
    · rw [hrun, hsame]
      have hnever : ∀ seconds, reply ≠ .tooManyAttempts seconds := by
        rintro seconds rfl
        cases hevaluated
      refine ⟨hothers, ?_, ⟨?_, fun h => absurd h hlocked⟩, fun _ => hevaluated, ?_⟩
      · simpa [hfailed] using alike_pruned hnow
      · rintro ⟨seconds, hreply⟩
        exact absurd hreply (hnever seconds)
      · intro seconds hreply
        exact absurd hreply (hnever seconds)

/-- Without credentials nothing is counted. -/
theorem POST_of_no_key (hkey : request.key env = none) :
    (POST env options request now now').run failures = (.validationFailed, failures) := by
  rw [POST, Option.map_eq_none_iff.1 hkey]
  rfl

end Functions

/-! ### Runs and what has failed in them -/

/-- The throttle knows of the failures of a key what matters from now on. -/
structure Counted (env : LoginEnvironment) (options : ThrottleOptions) (key : Str)
    (ls : List (LoginLabel N)) (s : LoginState) : Prop where
  alike : Alike options.windowMs s.now (s.failures.kept key) (failuresSince env key ls)
  past : ∀ time ∈ failuresSince env key ls, time ≤ s.now
  bounded : ∀ t, (within options.windowMs t (failuresSince env key ls)).length ≤
    options.maxFailures

section Runs

variable {env options} {key : Str} {s s' : LoginState} {ls ls' : List (LoginLabel N)}
  {l : LoginLabel N} {start now now' : ℚ} {request : LoginRequest N} {reply : LoginReply}

theorem failuresSince_concat :
    failuresSince env key (ls ++ [l]) = l.note env key (failuresSince env key ls) := by
  rw [failuresSince, List.foldl_append]
  rfl

/-- What is no failure and no success changes nothing. -/
theorem LoginLabel.note_eq {times : List ℚ} (hfailed : l.failedAt env key = none)
    (hsucceeds : l.succeeds key = false) : l.note env key times = times := by
  simp [LoginLabel.note, hfailed, hsucceeds]

theorem LoginLabel.note_attempt {times : List ℚ}
    (h : ¬ (request.key env = some key ∧ reply.failed = true)) :
    (LoginLabel.attempt request now now' reply).note env key times = times :=
  LoginLabel.note_eq (if_neg h) rfl

/-- Where there is no success the failures add up. -/
theorem failuresSince_append (h : ∀ l ∈ ls', l.succeeds key = false) :
    failuresSince env key (ls ++ ls') =
      failuresSince env key ls ++ ls'.filterMap (LoginLabel.failedAt env key) := by
  induction ls' using List.reverseRecOn with
  | nil => simp
  | append_singleton ls' l ih =>
    have hl : l.succeeds key = false := h l (by simp)
    rw [← List.append_assoc, failuresSince_concat, ih fun l hl => h l (by simp [hl]),
      LoginLabel.note, hl]
    cases hfailed : l.failedAt env key <;> simp [hfailed]

/-- Without attempts there are no more failures. -/
theorem failuresSince_sublist (h : ∀ l ∈ ls', l.attempts env key = false) :
    (failuresSince env key (ls ++ ls')).Sublist (failuresSince env key ls) := by
  induction ls' using List.reverseRecOn with
  | nil => simp
  | append_singleton ls' l ih =>
    have hl : l.attempts env key = false := h l (by simp)
    rw [← List.append_assoc, failuresSince_concat]
    cases l with
    | attempt request now now' reply =>
      have hkey : ¬ request.key env = some key := of_decide_eq_false hl
      rw [LoginLabel.note_attempt fun hboth => hkey hboth.1]
      exact ih fun l hl => h l (by simp [hl])
    | signed key' =>
      rw [LoginLabel.note]
      split_ifs
      · exact List.nil_sublist _
      · simpa [LoginLabel.failedAt] using ih fun l hl => h l (by simp [hl])

namespace Counted

/-- Refusals are seen in the failures. -/
theorem locked_iff (h : Counted env options key ls s) (hnow : s.now ≤ now) :
    Locked options key now s.failures ↔
      (within options.windowMs now (failuresSince env key ls)).length = options.maxFailures := by
  have hbound := h.bounded now
  rw [Locked, h.alike now hnow]
  rw [within_eq_recent fun time htime => (h.past time htime).trans hnow] at hbound ⊢
  omega

theorem of_fresh : Counted env options key ([] : List (LoginLabel N)) (.fresh start) :=
  ⟨fun _ _ => rfl, fun _ htime => absurd htime List.not_mem_nil, fun _ => Nat.zero_le _⟩

/-- What is to be shown of a step that leaves some failures. -/
theorem snoc {failures : List ℚ} (hnote : l.note env key (failuresSince env key ls) = failures)
    (halike : Alike options.windowMs s'.now (s'.failures.kept key) failures)
    (hpast : ∀ time ∈ failures, time ≤ s'.now)
    (hbounded : ∀ t, (within options.windowMs t failures).length ≤ options.maxFailures) :
    Counted env options key (ls ++ [l]) s' := by
  have hfailures : failuresSince env key (ls ++ [l]) = failures := by
    rw [failuresSince_concat, hnote]
  exact ⟨by rwa [hfailures], by rwa [hfailures], by rwa [hfailures]⟩

/-- A step that leaves the failures as they were. -/
theorem same (h : Counted env options key ls s) (hnow : s.now ≤ s'.now)
    (halike : Alike options.windowMs s'.now (s'.failures.kept key) (s.failures.kept key))
    (hnote : l.note env key (failuresSince env key ls) = failuresSince env key ls) :
    Counted env options key (ls ++ [l]) s' :=
  snoc hnote (halike.trans (h.alike.mono hnow)) (fun time htime => (h.past time htime).trans hnow)
    h.bounded

/-- A step that the key has no part in. -/
theorem other (h : Counted env options key ls s) (hnow : s.now ≤ s'.now)
    (hkept : s'.failures.kept key = s.failures.kept key)
    (hnote : l.note env key (failuresSince env key ls) = failuresSince env key ls) :
    Counted env options key (ls ++ [l]) s' := by
  refine h.same hnow ?_ hnote
  rw [hkept]
  exact .refl

theorem step (h : Counted env options key ls s) (hst : (logins env options).step s l s') :
    Counted env options key (ls ++ [l]) s' := by
  cases hst with
  | @attempt request now now' hnow hnow' =>
    by_cases hkey : request.key env = some key
    · have hattempted := attempted_POST options s.failures hkey hnow'
      generalize (POST env options request now now').run s.failures = r at hattempted ⊢
      have hkept := hattempted.kept
      by_cases hfailed : r.1.failed = true
      · have hnote : (LoginLabel.attempt request now now' r.1).note env key
            (failuresSince env key ls) = failuresSince env key ls ++ [now'] := by
          simp [LoginLabel.note, LoginLabel.succeeds, LoginLabel.failedAt, hkey, hfailed]
        -- It was not refused, so fewer than `n` failures were in the window.
        have hfree : ¬ Locked options key now s.failures := by
          intro hlocked
          obtain ⟨seconds, hreply⟩ := hattempted.refused_iff.2 hlocked
          rw [hreply] at hfailed
          cases hfailed
        rw [Locked, not_le, h.alike now hnow] at hfree
        rw [if_pos hfailed] at hkept
        refine snoc hnote (hkept.trans (h.alike.mono (hnow.trans hnow')).append) ?_ fun t =>
          length_within_concat_le h.bounded ((length_recent_le hnow').trans_lt hfree)
        intro time htime
        rcases List.mem_append.1 htime with htime | htime
        · exact (h.past time htime).trans (hnow.trans hnow')
        · exact (List.mem_singleton.1 htime).le
      -- Whatever else is answered is not counted.
      · rw [if_neg hfailed, List.append_nil] at hkept
        exact h.same (hnow.trans hnow') hkept (LoginLabel.note_attempt fun hboth => hfailed hboth.2)
    · refine h.other (hnow.trans hnow') ?_ (LoginLabel.note_attempt fun hboth => hkey hboth.1)
      cases hrequest : request.key env with
      | none =>
        show ((POST env options request now now').run s.failures).2.kept key = _
        rw [POST_of_no_key hrequest]
      | some key' =>
        have hne : key ≠ key' := fun heq => hkey (hrequest.trans (congrArg some heq.symm))
        exact (attempted_POST options s.failures hrequest hnow').others key hne
  | @signed key' hwaiting =>
    by_cases hkey : key' = key
    -- A success forgets the failures of its own key only.
    · subst hkey
      have hnote : (LoginLabel.signed key' : LoginLabel N).note env key'
          (failuresSince env key' ls) = [] := by
        simp [LoginLabel.note, LoginLabel.succeeds]
      have hkept : ((LoginThrottle.recordSuccess key').run s.failures).2.kept key' = [] :=
        LoginThrottle.kept_update_self
      refine snoc hnote ?_ (fun _ htime => absurd htime List.not_mem_nil) fun _ => Nat.zero_le _
      show Alike _ _ (((LoginThrottle.recordSuccess key').run s.failures).2.kept key') []
      rw [hkept]
      exact .refl
    · refine h.other le_rfl (LoginThrottle.kept_update_of_ne (Ne.symm hkey)) ?_
      exact LoginLabel.note_eq rfl (by simp [LoginLabel.succeeds, hkey])

theorem run (key : Str) (h : (logins env options).Run (.fresh start) ls s) :
    Counted env options key ls s := by
  generalize hs₀ : LoginState.fresh start = s₀ at h
  induction h with
  | nil =>
    rw [← hs₀]
    exact of_fresh
  | snoc _ hst ih => exact ih.step hst

end Counted

theorem LoginState.now_le (h : (logins env options).Run s ls s') : s.now ≤ s'.now := by
  induction h with
  | nil => exact le_rfl
  | snoc _ hst ih =>
    cases hst with
    | attempt hnow hnow' => exact ih.trans (hnow.trans hnow')
    | signed => exact ih

theorem step_attempt
    (hst : (logins env options).step s (.attempt request now now' reply) s') :
    s.now ≤ now ∧ now ≤ now' ∧ reply = ((POST env options request now now').run s.failures).1 ∧
      s'.now = now' := by
  generalize hl : LoginLabel.attempt request now now' reply = l at hst
  cases hst with
  | attempt hnow hnow' =>
    obtain ⟨rfl, rfl, rfl, rfl⟩ := LoginLabel.attempt.inj hl
    exact ⟨hnow, hnow', rfl, rfl⟩
  | signed => cases hl

/-- The delay is long enough: when it is over, fewer failures are in the window. -/
theorem Counted.fewer {seconds : ℤ} {later : ℚ} (h : Counted env options key ls s)
    (hfailures : 1 ≤ options.maxFailures) (hnow : s.now ≤ now) (hnow' : now ≤ now')
    {failures : LoginThrottle}
    (hattempted : Attempted options key now now' s.failures (.tooManyAttempts seconds) failures)
    (hlater : now' ≤ later) (hdelay : now' + seconds * 1000 ≤ later) :
    (Window.recent options.windowMs later (failuresSince env key ls)).length <
      options.maxFailures := by
  have hend : s.now ≤ now' := hnow.trans hnow'
  have hbound := h.bounded now'
  rw [within_eq_recent fun time htime => (h.past time htime).trans hend] at hbound
  by_cases hfull : (Window.recent options.windowMs now' (failuresSince env key ls)).length <
      options.maxFailures
  · exact (length_recent_le hlater).trans_lt hfull
  · cases hrecent : Window.recent options.windowMs now' (failuresSince env key ls) with
    | nil =>
      rw [hrecent, List.length_nil] at hfull
      omega
    | cons oldest rest =>
      have hkept : Window.recent options.windowMs now' (s.failures.kept key) = oldest :: rest :=
        (h.alike now' hend).trans hrecent
      rw [hrecent, not_lt] at hfull
      have hold := hattempted.delay seconds rfl oldest rest hkept hfull
      exact (length_recent_lt hrecent hlater (by linarith)).trans_le hbound

end Runs

/-! ### The throttle keeps its promises -/

/-- **Attempts are throttled**, if at least one failure is allowed. -/
theorem throttled (hfailures : 1 ≤ options.maxFailures) : Throttled N env options := by
  refine ⟨?_, ?_, ?_⟩
  · intro start ls₁ ls₂ ls₃ s key t h hsucceeds
    obtain ⟨s₁, h₁, -⟩ := TransitionSystem.Run.append_iff.1 h
    have hbound := (Counted.run key h₁).bounded t
    rw [failuresSince_append hsucceeds] at hbound
    exact (length_within_le_of_sublist (List.sublist_append_right _ _)).trans hbound
  · intro start ls s request now now' reply s' key h hst hkey
    have hcounted := Counted.run key h
    cases hst with
    | attempt hnow hnow' =>
      rw [(attempted_POST options s.failures hkey hnow').refused_iff]
      exact hcounted.locked_iff hnow
  · intro start ls s request now now' seconds s₁ ls₁ s₂ request' later later' reply s₃
      key h hst hkey
      h₁ hquiet hlater hst' hkey'
    obtain ⟨hnow, hnow', hreply, hs₁⟩ := step_attempt hst
    obtain ⟨hlater', hlater'', rfl, -⟩ := step_attempt hst'
    have hattempted := attempted_POST options s.failures hkey hnow'
    rw [← hreply] at hattempted
    have hafter : now' ≤ later := by
      rw [← hs₁]
      exact (LoginState.now_le h₁).trans hlater'
    have hfewer := (Counted.run key h).fewer hfailures hnow hnow' hattempted hafter hlater
    -- What has failed since the refusal is nothing.
    have hsub : (failuresSince env key (ls ++
        [.attempt request now now' (.tooManyAttempts seconds)] ++ ls₁)).Sublist
        (failuresSince env key ls) := by
      refine (failuresSince_sublist hquiet).trans ?_
      rw [failuresSince_concat, LoginLabel.note_attempt fun hboth => by cases hboth.2]
    have hcounted := Counted.run key ((h.snoc hst).append h₁)
    refine (attempted_POST options s₂.failures hkey' hlater'').evaluated fun hlocked => ?_
    rw [Locked, hcounted.alike later hlater'] at hlocked
    have hlength := (hsub.filter fun time => decide (later - options.windowMs < time)).length_le
    rw [← Window.recent, ← Window.recent] at hlength
    omega

namespace Sample

/-- One operator, whose password is `p`. -/
def accounts : LoginEnvironment where
  unicode := ⟨id, id⟩
  verifyPassword password stored := .ok (decide (password = units "p" ∧ stored = units "scrypt$"))
  dummyHash := units "dummy"
  operatorAccounts := .ok [⟨units "ada@example.com", units "Ada", units "scrypt$", [.admin]⟩]
  sessionSecret := .ok (units "secret")

/-- One failure locks for a minute. -/
def strict : ThrottleOptions := ⟨1, 60000⟩

/-- A request of the operator with another password. -/
def mistyped : LoginRequest ℚ where
  body :=
    .obj [(units "email", .str (units "ada@example.com")), (units "password", .str (units "q"))]
  forwardedFor := none

end Sample

/-- Where one failure locks, the attempts of the next minute are refused. -/
theorem throttled_sample : ∃ s, (logins Sample.accounts Sample.strict).Run (.fresh 0)
      [.attempt Sample.mistyped 0 0 .invalidCredentials] s ∧
    ∀ now now' reply s', now < 60000 → (logins Sample.accounts Sample.strict).step s
      (.attempt Sample.mistyped now now' reply) s' →
      ∃ seconds, reply = .tooManyAttempts seconds := by
  have hrun : (logins Sample.accounts Sample.strict).Run (.fresh 0)
      ([] ++ [.attempt Sample.mistyped 0 0 .invalidCredentials]) _ :=
    .snoc (.nil _) (.attempt le_rfl le_rfl)
  refine ⟨_, hrun, fun now now' reply s' hminute hst => ?_⟩
  have hkey : Sample.mistyped.key Sample.accounts = some (units "ada@example.com|") := rfl
  refine ((throttled Sample.accounts Sample.strict le_rfl).refused_iff 0 _ _ _ now now' reply s' _
    hrun hst hkey).2 ?_
  have hfailures : failuresSince Sample.accounts (units "ada@example.com|")
      ([] ++ [.attempt Sample.mistyped 0 0 .invalidCredentials]) = [0] := rfl
  have hnow : 0 ≤ now := (step_attempt hst).1
  rw [hfailures]
  simp [within, Sample.strict, hminute, hnow]

end Console

end RemitBridge
