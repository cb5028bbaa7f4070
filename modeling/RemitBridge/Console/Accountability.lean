import RemitBridge.Console.Proxy
import RemitBridge.Console.Session
import RemitBridge.Console.Throttle

/-!
# Who is behind an action

The console signs operators in and forwards their actions to the backend.  The system of both has
the deployments of the console one after the other: each has its own accounts, secret and length of
sessions, and a session outlives the deployment that began it if the key of the secret stays.

An action that is forwarded was asked for with the token of an operator who has signed in before,
with the password of an account that allows the action, and no longer ago than a session lasts
(`action_accountable`).  Until then nothing ends the session but another key: an account that is
taken away keeps its sessions (`session_lasts`).
-/

namespace RemitBridge

namespace Console

open Ascii Json

/-! ### The environment of the console -/

def minSecretLength : ℕ := 32

def missingSecret : Str :=
  units "OPERATOR_SESSION_SECRET must be set to at least 32 characters. " ++
    units "The console refuses to issue or accept sessions without it."

def sessionSecret : Option Str → Except Str Str
  | none => .error missingSecret
  | some secret => if secret.length < minSecretLength then .error missingSecret else .ok secret

def defaultSessionTtlMinutes : ℕ := 480

/-- `parsed` is the value of the variable, if it is an integer. -/
def sessionTtlMinutes : Option ℤ → ℕ
  | none => defaultSessionTtlMinutes
  | some parsed => if 0 < parsed then parsed.toNat else defaultSessionTtlMinutes

/-- What a deployment of the console reads from its environment. -/
structure Deployment where
  /-- What `OPERATOR_ACCOUNTS` is parsed to. -/
  operatorAccounts : Except Str (List OperatorAccount)
  secret : Option Str
  ttlMinutes : Option ℤ

/-- What the console uses of the libraries. -/
structure ConsoleLibrary (N : Type) where
  unicode : Unicode
  verifyPassword : Str → Str → Except Str Bool
  dummyHash : Str
  crypto : Hmac
  numbers : Numbers N
  number : ℕ → N

section

variable {N : Type} (lib : ConsoleLibrary N) (options : ThrottleOptions) (d : Deployment)

def Deployment.env : LoginEnvironment where
  unicode := lib.unicode
  verifyPassword := lib.verifyPassword
  dummyHash := lib.dummyHash
  operatorAccounts := d.operatorAccounts
  sessionSecret := sessionSecret d.secret

/-! ### Sessions -/

def buildSessionPayload (account : OperatorAccount) (ttlMinutes : ℕ) (now : ℚ) :
    SessionPayload where
  sub := toLowerCase lib.unicode (Money.trim account.email)
  name := account.name
  roles := account.roles
  iat := (nowSeconds now).toNat
  exp := (nowSeconds now).toNat + ttlMinutes * 60

/-- A payload as the object that is signed. -/
def SessionPayload.members (number : ℕ → N) (payload : SessionPayload) : Members N :=
  [(units "sub", .str payload.sub), (units "name", .str payload.name),
    (units "roles", .arr (payload.roles.map fun role => .str role.text)),
    (units "iat", .num (number payload.iat)), (units "exp", .num (number payload.exp))]

/-- The times are exact as numbers of a script, as they are below `2 ^ 53`. -/
def SessionPayload.Exact (payload : SessionPayload) : Prop :=
  lib.numbers.natural (lib.number payload.iat) = some payload.iat ∧
    lib.numbers.natural (lib.number payload.exp) = some payload.exp

def SessionPayload.session (payload : SessionPayload) : Session := ⟨payload.sub, payload.roles⟩

/-! ### Actions -/

/-- A POST to the handler that forwards actions. -/
structure ActionRequest where
  /-- The cookie of the session. -/
  token : Option Str
  path : List Text
  query : Option Text
  text : Str

def authorisedCaller (token : Option Str) (now : ℚ) : Except Str (Option SessionPayload) :=
  match sessionSecret d.secret with
  | .error _ => .ok none
  | .ok secret => verifySession lib.numbers lib.crypto token secret now

/-- The handler.  The clock is read by both of its questions about the session. -/
def handleAction (request : ActionRequest) (now now' : ℚ) :
    Except Str (Except Refusal Forwarded) := do
  let caller ← authorisedCaller lib d request.token now
  let session ← match caller with
    | none => pure none
    | some _ => do
      let secret ← sessionSecret d.secret
      verifySession lib.numbers lib.crypto request.token secret now'
  return post lib.numbers.format (caller.map SessionPayload.session)
    (session.map SessionPayload.session) request.path request.query request.text

/-! ### Runs -/

structure ConsoleState (N : Type) where
  deployment : Deployment
  login : LoginState
  /-- The payloads that have been signed, and the secrets. -/
  signed : List (Members N × Str)

inductive ConsoleLabel (N : Type) where
  /-- A request to sign in; the payload of a session is built at the time `built`. -/
  | login (l : LoginLabel N) (built : ℚ)
  | action (request : ActionRequest) (now now' : ℚ) (answer : Except Str (Except Refusal Forwarded))
  /-- The console is deployed again. -/
  | redeploy (d : Deployment)

/-- The payload that is signed after a request. -/
def sessionFor (built : ℚ) : LoginLabel N → Option SessionPayload
  | .attempt _ _ _ (.signing account) =>
    some (buildSessionPayload lib account (sessionTtlMinutes d.ttlMinutes) built)
  | _ => none

/-- What is signed after a request. -/
def issued (built : ℚ) (l : LoginLabel N) : List (Members N × Str) :=
  match sessionSecret d.secret, sessionFor lib d built l with
  | .ok secret, some payload => [(payload.members lib.number, secret)]
  | _, _ => []

/-- The clock is past the beginning of 1970 when somebody signs in. -/
inductive ConsoleStep : ConsoleState N → ConsoleLabel N → ConsoleState N → Prop
  | login {s : ConsoleState N} {l : LoginLabel N} {login : LoginState} {built : ℚ} :
      LoginStep (s.deployment.env lib) options s.login l login → 0 ≤ login.now → login.now ≤ built →
      (∀ payload, sessionFor lib s.deployment built l = some payload → payload.Exact lib) →
      ConsoleStep s (.login l built)
        { s with
          login := { login with now := built }
          signed := issued lib s.deployment built l ++ s.signed }
  | action {s : ConsoleState N} {request : ActionRequest} {now now' : ℚ} :
      s.login.now ≤ now → now ≤ now' →
      ConsoleStep s (.action request now now' (handleAction lib s.deployment request now now'))
        { s with login := { s.login with now := now' } }
  | redeploy {s : ConsoleState N} {d : Deployment} :
      ConsoleStep s (.redeploy d) { s with deployment := d, login := .fresh s.login.now }

/-- The console, with one deployment after the other. -/
def console : TransitionSystem (ConsoleState N) (ConsoleLabel N) := ⟨ConsoleStep lib options⟩

/-- The first deployment of the console when it starts. -/
def ConsoleState.fresh (d : Deployment) (now : ℚ) : ConsoleState N := ⟨d, .fresh now, []⟩

/-- Whether the console has signed the payload with the secret. -/
def ConsoleState.Signed (s : ConsoleState N) (members : Members N) (secret : Str) : Prop :=
  (members, secret) ∈ s.signed

/-- In a step from `s` somebody signs in as `account`, and has the password. -/
def SignsIn (s : ConsoleState N) (l : ConsoleLabel N) (account : OperatorAccount) (built : ℚ) :
    Prop :=
  ∃ request now now' credentials accounts,
    l = .login (.attempt request now now' (.signing account)) built ∧
      credentialsSchema request.body = some credentials ∧
      s.deployment.operatorAccounts = .ok accounts ∧
      findOperator (s.deployment.env lib) accounts credentials.email = some account ∧
      lib.verifyPassword credentials.password account.passwordHash = .ok true

/-- The session that was begun in `s₁` at the time `built` goes on in `s`. -/
def GoesOn (s₁ s : ConsoleState N) (built now : ℚ) : Prop :=
  (∃ secret secret', sessionSecret s₁.deployment.secret = .ok secret ∧
      sessionSecret s.deployment.secret = .ok secret' ∧
      hmacKey lib.crypto secret = hmacKey lib.crypto secret') ∧
    nowSeconds now < (nowSeconds built).toNat + sessionTtlMinutes s₁.deployment.ttlMinutes * 60

/-- The action is allowed to the account, and sent with its email as the operator. -/
def SentFor (account : OperatorAccount) (request : ActionRequest) (sent : Forwarded) : Prop :=
  ∃ policy operator, policyForMutation request.path = some policy ∧
    may account.roles policy.permission = true ∧
    operator = toLowerCase lib.unicode (Money.trim account.email) ∧
    sent = ⟨"/api/v1/".toList ++ joinPath request.path ++ search request.query,
      withOperatorAttribution lib.numbers.format request.text policy operator, operator⟩

/-- The payload and the secret that are signed when `account` signs in. -/
def Issues (s : ConsoleState N) (account : OperatorAccount) (built : ℚ) (p : Members N × Str) :
    Prop :=
  ∃ payload secret, payload = buildSessionPayload lib account
      (sessionTtlMinutes s.deployment.ttlMinutes) built ∧ payload.Exact lib ∧
    sessionSecret s.deployment.secret = .ok secret ∧ p = (payload.members lib.number, secret)

end

variable {N : Type} {lib : ConsoleLibrary N} {options : ThrottleOptions} {d : Deployment}
  {s₀ s s' : ConsoleState N} {l : ConsoleLabel N} {ls : List (ConsoleLabel N)}
  {payload : SessionPayload} {account : OperatorAccount} {built now : ℚ}

/-! ### Payloads -/

theorem roleSchema_text (role : Role) : roleSchema (.str role.text : Json N) = some role := by
  cases role <;> rfl

theorem rolesSchema_texts (roles : List Role) :
    rolesSchema (.arr (roles.map fun role => .str role.text) : Json N) = some roles := by
  rw [rolesSchema, List.mapM_map]
  induction roles with
  | nil => rfl
  | cons role roles ih => simp [List.mapM_cons, roleSchema_text, ih]

/-- What a schema reads of a text is the text. -/
theorem eq_of_textSchema {t u : Str} (h : textSchema (.str t : Json N) = some u) : u = t := by
  rw [textSchema] at h
  split_ifs at h
  exact (Option.some.inj h).symm

theorem unique_members (payload : SessionPayload) :
    (payload.members lib.number).Unique :=
  -- The keys are those of any payload.
  shaped_sampleMembers.1

theorem lookup_members (key : Str) (v : Json N) (h : (key, v) ∈ payload.members lib.number) :
    Members.lookup (payload.members lib.number) key = some v :=
  Members.lookup_of_mem (unique_members payload) h

/-- What is read of a payload that was signed is the payload. -/
theorem payload_of_members {payload' : SessionPayload} (hexact : payload.Exact lib)
    (h : sessionPayloadSchema lib.numbers (.obj (payload.members lib.number)) = some payload') :
    payload' = payload := by
  obtain ⟨hsub, hname, hroles, hiat, hexp⟩ := sessionPayloadSchema_eq_some.1 h
  rw [lookup_members _ (.str payload.sub) (by simp [SessionPayload.members])] at hsub
  rw [lookup_members _ (.str payload.name) (by simp [SessionPayload.members])] at hname
  rw [lookup_members _ (.arr (payload.roles.map fun role => .str role.text))
    (by simp [SessionPayload.members]), Option.bind_some, rolesSchema_texts] at hroles
  rw [lookup_members _ (.num (lib.number payload.iat)) (by simp [SessionPayload.members]),
    Option.bind_some, timeSchema, hexact.1] at hiat
  rw [lookup_members _ (.num (lib.number payload.exp)) (by simp [SessionPayload.members]),
    Option.bind_some, timeSchema, hexact.2] at hexp
  obtain ⟨sub, name, roles, iat, exp⟩ := payload'
  obtain rfl : sub = payload.sub := eq_of_textSchema (N := N) hsub
  obtain rfl : name = payload.name := eq_of_textSchema (N := N) hname
  cases hroles
  cases hiat
  cases hexp
  rfl

theorem good_members (hexact : payload.Exact lib) :
    Good lib.numbers (.obj (payload.members lib.number)) := by
  have hgood : ∀ m ∈ payload.members lib.number, Good lib.numbers m.2 := by
    simp only [SessionPayload.members, List.forall_mem_cons]
    refine ⟨⟨.str _, .str _⟩, ⟨.str _, .str _⟩, good_of_rolesSchema (rolesSchema_texts _),
      ⟨.num _, .num (lib.numbers.finite _ _ hexact.1)⟩,
      ⟨.num _, .num (lib.numbers.finite _ _ hexact.2)⟩, fun _ h => absurd h List.not_mem_nil⟩
  exact ⟨.obj (unique_members payload) fun m hm => (hgood m hm).1, .obj fun m hm => (hgood m hm).2⟩

/-! ### The session of an action -/

/-- What is verified has its session still to run. -/
theorem lasts_of_verifySession {numbers : Numbers N} {crypto : Hmac} {token secret : Str}
    (h : verifySession numbers crypto (some token) secret now = .ok (some payload)) :
    nowSeconds now < payload.exp := by
  have hcurrent : ∃ payload', current now payload' = some payload := by
    -- Every branch but one answers `null`.
    rw [verifySession] at h
    split_ifs at h
    · cases h
    split at h
    · next separator _ =>
      split_ifs at h
      · cases h
      split at h
      · next tag _ =>
        cases hkey : hmacKey crypto secret with
        | error e =>
          rw [hkey] at h
          cases h
        | ok mac =>
          rw [hkey] at h
          by_cases hequal :
              equalsConstantTime tag (mac (Utf8.encode (token.take separator))) = true
          · simp only [bind, Except.bind, pure, Except.pure, hequal] at h
            obtain ⟨payload', -, hcurrent⟩ := Option.bind_eq_some_iff.1 (Except.ok.inj h)
            exact ⟨payload', hcurrent⟩
          · simp [bind, Except.bind, pure, Except.pure, hequal] at h
      · cases h
    · cases h
  obtain ⟨payload', hcurrent⟩ := hcurrent
  obtain ⟨rfl, hexp, -⟩ := current_eq_some.1 hcurrent
  exact hexp

/-- What is verified of a token does not depend on the time. -/
theorem verifySession_unique {numbers : Numbers N} {crypto : Hmac} {token secret : Str}
    {payload' : SessionPayload} {now' : ℚ}
    (h : verifySession numbers crypto (some token) secret now = .ok (some payload))
    (h' : verifySession numbers crypto (some token) secret now' = .ok (some payload')) :
    payload' = payload := by
  obtain ⟨-, -, -, hpayload⟩ := tagged_of_verifySession h
  obtain ⟨-, -, -, hpayload'⟩ := tagged_of_verifySession h'
  exact Option.some.inj (hpayload'.symm.trans hpayload)

/-- An action is forwarded with the session of the token, for its operator. -/
theorem handleAction_forwarded {request : ActionRequest} {now' : ℚ} {sent : Forwarded}
    (h : handleAction lib d request now now' = .ok (.ok sent)) :
    ∃ token secret payload policy, request.token = some token ∧
      sessionSecret d.secret = .ok secret ∧
      verifySession lib.numbers lib.crypto (some token) secret now' = .ok (some payload) ∧
      policyForMutation request.path = some policy ∧ may payload.roles policy.permission = true ∧
      sent = ⟨"/api/v1/".toList ++ joinPath request.path ++ search request.query,
        withOperatorAttribution lib.numbers.format request.text policy payload.sub,
        payload.sub⟩ := by
  rw [handleAction, authorisedCaller] at h
  cases hsecret : sessionSecret d.secret with
  | error message =>
    rw [hsecret] at h
    cases h
  | ok secret =>
    rw [hsecret] at h
    -- The token is verified twice, before and after the body is read.
    cases hcaller : verifySession lib.numbers lib.crypto request.token secret now with
    | error message =>
      simp only [bind, Except.bind, hcaller] at h
      cases h
    | ok caller =>
      cases caller with
      | none =>
        simp only [bind, Except.bind, pure, Except.pure, hcaller] at h
        cases Except.ok.inj h
      | some caller =>
        cases hsession : verifySession lib.numbers lib.crypto request.token secret now' with
        | error message =>
          simp only [bind, Except.bind, hcaller, hsession] at h
          cases h
        | ok session =>
          simp only [bind, Except.bind, pure, Except.pure, hcaller, hsession] at h
          obtain ⟨operator, policy, roles, hoperator, hpolicy, hroles, hmay, rfl⟩ :=
            post_cases (Except.ok.inj h)
          cases session with
          | none => cases hroles
          | some payload =>
            cases htoken : request.token with
            | none =>
              rw [htoken] at hcaller
              cases hcaller
            | some token =>
              rw [htoken] at hcaller hsession
              -- Both times it is the same payload.
              obtain rfl := verifySession_unique hcaller hsession
              cases hoperator
              cases hroles
              exact ⟨token, secret, payload, policy, rfl, rfl, hsession, hpolicy, hmay, rfl⟩

/-! ### Signing in -/

theorem signIn_signing {env : LoginEnvironment} {key : Str} {credentials : Credentials}
    {failures : LoginThrottle}
    (h : ((signIn env options key credentials now).run failures).1 = .signing account) :
    ∃ accounts, env.operatorAccounts = .ok accounts ∧
      findOperator env accounts credentials.email = some account ∧
      env.verifyPassword credentials.password account.passwordHash = .ok true := by
  rw [signIn] at h
  cases haccounts : env.operatorAccounts with
  | error message =>
    rw [haccounts] at h
    cases h
  | ok accounts =>
    rw [haccounts] at h
    dsimp only at h
    cases hfind : findOperator env accounts credentials.email with
    | none =>
      rw [hfind] at h
      split at h <;> cases h
    | some found =>
      rw [hfind] at h
      simp only [Option.map_some, Option.getD_some] at h
      split at h
      · cases h
      · next passwordOk hpassword =>
        cases passwordOk with
        | false => cases h
        | true =>
          dsimp only at h
          split at h
          · cases h
          · cases h
            exact ⟨accounts, rfl, hfind, hpassword⟩

/-- Whoever is let in has given the password of an account. -/
theorem POST_signing {env : LoginEnvironment} {request : LoginRequest N} {now' : ℚ}
    {failures : LoginThrottle}
    (h : ((POST env options request now now').run failures).1 = .signing account) :
    ∃ credentials accounts, credentialsSchema request.body = some credentials ∧
      env.operatorAccounts = .ok accounts ∧
      findOperator env accounts credentials.email = some account ∧
      env.verifyPassword credentials.password account.passwordHash = .ok true := by
  cases hcredentials : credentialsSchema request.body with
  | none =>
    rw [POST, hcredentials] at h
    cases h
  | some credentials =>
    rw [POST_run options failures now now' hcredentials rfl] at h
    split_ifs at h
    obtain ⟨accounts, haccounts, hfind, hpassword⟩ := signIn_signing h
    exact ⟨credentials, accounts, rfl, haccounts, hfind, hpassword⟩

/-- What a step signs, it signs for somebody who signs in. -/
theorem signsIn_of_step {s : ConsoleState N} {l : ConsoleLabel N}
    (h : (console lib options).step s l s') {p : Members N × Str} (hp : p ∈ s'.signed) :
    p ∈ s.signed ∨ ∃ account built, SignsIn lib s l account built ∧
    Issues lib s account built p := by
  cases h with
  | action => exact .inl hp
  | redeploy => exact .inl hp
  | @login l login built hstep _ _ hexact =>
    rcases List.mem_append.1 hp with hissued | hp
    · right
      cases hstep with
      | signed => simp [issued, sessionFor] at hissued
      | @attempt request now now' _ _ =>
        rw [issued] at hissued
        cases hsecret : sessionSecret s.deployment.secret with
        | error message =>
          rw [hsecret] at hissued
          exact absurd hissued List.not_mem_nil
        | ok secret =>
          rw [hsecret] at hissued
          cases hreply : ((POST (s.deployment.env lib) options request now now').run
              s.login.failures).1 with
          | signing account =>
            simp only [hreply, sessionFor, List.mem_singleton] at hissued
            obtain ⟨credentials, accounts, hcredentials, haccounts, hfind, hpassword⟩ :=
              POST_signing hreply
            refine ⟨account, built, ⟨request, now, now', credentials, accounts, rfl,
              hcredentials, haccounts, hfind, hpassword⟩, _, secret, rfl, ?_, hsecret, hissued⟩
            exact hexact _ (by rw [hreply]; rfl)
          | _ =>
            simp only [hreply, sessionFor] at hissued
            exact absurd hissued List.not_mem_nil
    · exact .inl hp

/-- **Everything that is signed is signed for somebody who signs in.** -/
theorem signsIn_of_run (h : (console lib options).Run (.fresh d now) ls s) {p : Members N × Str}
    (hp : p ∈ s.signed) : ∃ ls₁ l ls₂ s₁ s₂ account built, ls = ls₁ ++ l :: ls₂ ∧
      (console lib options).Run (.fresh d now) ls₁ s₁ ∧ (console lib options).step s₁ l s₂ ∧
      (console lib options).Run s₂ ls₂ s ∧ SignsIn lib s₁ l account built ∧
      Issues lib s₁ account built p := by
  induction h with
  | nil => exact absurd hp List.not_mem_nil
  | @snoc s s' ls l h hst ih =>
    rcases signsIn_of_step hst hp with hp | ⟨account, built, hsigns, hissues⟩
    · obtain ⟨ls₁, l₁, ls₂, s₁, s₂, account, built, rfl, h₁, hst₁, h₂, hsigns, hissues⟩ := ih hp
      exact ⟨ls₁, l₁, ls₂ ++ [l], s₁, s₂, account, built, by simp, h₁, hst₁, h₂.snoc hst, hsigns,
        hissues⟩
    · exact ⟨ls, l, [], s, s', account, built, rfl, h, hst, .nil _, hsigns, hissues⟩

/-- What has been signed is written and read again. -/
theorem good_of_run (h : (console lib options).Run (.fresh d now) ls s) {members : Members N}
    {secret : Str} (hs : s.Signed members secret) : Good lib.numbers (.obj members) := by
  obtain ⟨-, -, -, -, -, -, -, -, -, -, -, -, payload, _, -, hexact, -, hp⟩ := signsIn_of_run h hs
  obtain ⟨rfl, -⟩ := Prod.mk.inj hp
  exact good_members hexact

/-- **Who is behind an action.**  If the tag of the token that comes with an action has not been
forged, then an action that is forwarded was asked for with the token of somebody who signed in
before, with the password of an account; its roles at that time allow the action, and it is named as
the operator.  The key of the secret is still the same, and the session has not run out. -/
theorem action_accountable {start now' : ℚ} {request : ActionRequest} {sent : Forwarded}
    (h : (console lib options).Run (.fresh d start) ls s)
    (hst : (console lib options).step s (.action request now now' (.ok (.ok sent))) s')
    (hunforgeable : Unforgeable lib.crypto (Issued lib.numbers lib.crypto s.Signed)
      (Presented fun token => request.token = some token)) :
    ∃ ls₁ l ls₂ s₁ s₂ account built, ls = ls₁ ++ l :: ls₂ ∧
      (console lib options).Run (.fresh d start) ls₁ s₁ ∧ (console lib options).step s₁ l s₂ ∧
      (console lib options).Run s₂ ls₂ s ∧ SignsIn lib s₁ l account built ∧
      GoesOn lib s₁ s built now' ∧ SentFor lib account request sent := by
  have hforwarded : handleAction lib s.deployment request now now' = .ok (.ok sent) := by
    generalize hanswer : (Except.ok (Except.ok sent) : Except Str (Except Refusal Forwarded)) =
      answer at hst
    cases hst
    rfl
  obtain ⟨token, secret', payload, policy, htoken, hsecret', hverify, hpolicy, hmay, rfl⟩ :=
    handleAction_forwarded hforwarded
  -- The payload of the token has been signed, with the key of the secret.
  obtain ⟨members, secret, hsigned, hkey, -, hpayload⟩ :=
    signed_of_verifySession hunforgeable (fun _ _ => good_of_run h) htoken hverify
  obtain ⟨ls₁, l, ls₂, s₁, s₂, account, built, hls, h₁, hst₁, h₂, hsigns, hissues⟩ :=
    signsIn_of_run h hsigned
  obtain ⟨_, _, rfl, hexact, hsecret, hp⟩ := hissues
  obtain ⟨rfl, rfl⟩ := Prod.mk.inj hp
  obtain rfl := payload_of_members hexact hpayload
  exact ⟨ls₁, l, ls₂, s₁, s₂, account, built, hls, h₁, hst₁, h₂, hsigns,
    ⟨⟨secret, secret', hsecret, hsecret', hkey⟩, lasts_of_verifySession hverify⟩,
    policy, _, hpolicy, hmay, rfl, rfl⟩

/-! ### A session lasts -/

/-- A secret counts through its key. -/
theorem verifySession_congr {numbers : Numbers N} {crypto : Hmac} {token : Option Str}
    {secret secret' : Str} (h : hmacKey crypto secret = hmacKey crypto secret') :
    verifySession numbers crypto token secret now =
    verifySession numbers crypto token secret' now := by
  simp only [verifySession, h]

/-- The handler knows the operator of a token while the session lasts. -/
theorem handleAction_of_signSession {request : ActionRequest} {members : Members N}
    {secret secret' token : Str} {now' : ℚ} (hgood : Good lib.numbers (.obj members))
    (hpayload : sessionPayloadSchema lib.numbers (.obj members) = some payload)
    (hsign : signSession lib.numbers lib.crypto (.obj members) secret = .ok token)
    (htoken : request.token = some token) (hsecret : sessionSecret d.secret = .ok secret')
    (hkey : hmacKey lib.crypto secret = hmacKey lib.crypto secret')
    (hcurrent : current now payload = some payload)
    (hcurrent' : current now' payload = some payload) :
    handleAction lib d request now now' = .ok (post lib.numbers.format (some payload.session)
      (some payload.session) request.path request.query request.text) := by
  have hverify : verifySession lib.numbers lib.crypto (some token) secret' now =
      .ok (some payload) := by
    rw [← verifySession_congr hkey, verifySession_of_signSession hgood hpayload hsign, hcurrent]
  have hverify' : verifySession lib.numbers lib.crypto (some token) secret' now' =
      .ok (some payload) := by
    rw [← verifySession_congr hkey, verifySession_of_signSession hgood hpayload hsign, hcurrent']
  simp [handleAction, authorisedCaller, htoken, hsecret, hverify, hverify', bind, Except.bind, pure,
    Except.pure]

theorem now_le_of_step (h : (console lib options).step s l s') : s.login.now ≤ s'.login.now := by
  cases h with
  | action hnow hnow' => exact hnow.trans hnow'
  | redeploy => exact le_rfl
  | login hstep _ hbuilt _ =>
    cases hstep with
    | attempt hnow hnow' => exact (hnow.trans hnow').trans hbuilt
    | signed _ => exact hbuilt

theorem now_le_of_run (h : (console lib options).Run s₀ ls s) : s₀.login.now ≤ s.login.now := by
  induction h with
  | nil => exact le_rfl
  | snoc _ hst ih => exact ih.trans (now_le_of_step hst)

theorem sessionPayloadSchema_members (hexact : payload.Exact lib) (hsub : payload.sub ≠ [])
    (hname : payload.name ≠ []) :
    sessionPayloadSchema lib.numbers (.obj (payload.members lib.number)) = some payload := by
  refine sessionPayloadSchema_eq_some.2 ⟨?_, ?_, ?_, ?_, ?_⟩
  · rw [lookup_members _ (.str payload.sub) (by simp [SessionPayload.members])]
    exact if_neg hsub
  · rw [lookup_members _ (.str payload.name) (by simp [SessionPayload.members])]
    exact if_neg hname
  · rw [lookup_members _ (.arr (payload.roles.map fun role => .str role.text))
      (by simp [SessionPayload.members])]
    exact rolesSchema_texts _
  · rw [lookup_members _ (.num (lib.number payload.iat)) (by simp [SessionPayload.members])]
    exact hexact.1
  · rw [lookup_members _ (.num (lib.number payload.exp)) (by simp [SessionPayload.members])]
    exact hexact.2

/-- **A session lasts until it runs out.**  Whatever is deployed after somebody has signed in, also
with other accounts, the handler takes the token for that of the account, with the roles it had
then, as long as the key of the secret stays and the session has not run out. -/
theorem session_lasts {now' : ℚ} {request : ActionRequest} {p : Members N × Str} {token : Str}
    (hst : (console lib options).step s₀ l s') (hsigns : SignsIn lib s₀ l account built)
    (hissues : Issues lib s₀ account built p)
    (hemail : toLowerCase lib.unicode (Money.trim account.email) ≠ []) (hname : account.name ≠ [])
    (hsign : signSession lib.numbers lib.crypto (.obj p.1) p.2 = .ok token)
    (h : (console lib options).Run s' ls s) (htoken : request.token = some token)
    (hnow : s.login.now ≤ now) (hnow' : now ≤ now') (hgoes : GoesOn lib s₀ s built now') :
    handleAction lib s.deployment request now now' =
      .ok (post lib.numbers.format
        (some ⟨toLowerCase lib.unicode (Money.trim account.email), account.roles⟩)
        (some ⟨toLowerCase lib.unicode (Money.trim account.email), account.roles⟩)
        request.path request.query request.text) := by
  obtain ⟨payload, secret, hpayload, hexact, hsecret, rfl⟩ := hissues
  obtain ⟨⟨secret₁, secret', hsecret₁, hsecret', hkey⟩, hlasts⟩ := hgoes
  obtain rfl : secret = secret₁ := Except.ok.inj (hsecret.symm.trans hsecret₁)
  -- The clock has not gone back since the payload was built.
  have hclock : s'.login.now = built ∧ 0 ≤ built := by
    obtain ⟨_, _, _, _, _, rfl, -⟩ := hsigns
    cases hst with
    | login _ hpast hbuilt _ => exact ⟨rfl, hpast.trans hbuilt⟩
  obtain ⟨hclock, hbuilt⟩ := hclock
  have hle : built ≤ now := hclock ▸ (now_le_of_run h).trans hnow
  have hiat : (payload.iat : ℤ) = nowSeconds built := by
    rw [hpayload]
    exact Int.toNat_of_nonneg (Int.floor_nonneg.2 (by positivity))
  have hexp : nowSeconds now' < payload.exp := by
    rw [hpayload]
    exact_mod_cast hlasts
  have hseconds : nowSeconds built ≤ nowSeconds now :=
    Int.floor_mono (by linarith)
  have hseconds' : nowSeconds now ≤ nowSeconds now' := Int.floor_mono (by linarith)
  have hread : sessionPayloadSchema lib.numbers (.obj (payload.members lib.number)) =
      some payload :=
    sessionPayloadSchema_members hexact (by rw [hpayload]; exact hemail)
      (by rw [hpayload]; exact hname)
  rw [handleAction_of_signSession (good_members hexact) hread hsign htoken hsecret' hkey
    (current_eq_some.2 ⟨rfl, by omega, by omega⟩) (current_eq_some.2 ⟨rfl, hexp, by omega⟩),
    hpayload]
  rfl

/-! ### An action of the sample operator -/

namespace Sample

/-- The library knows one password and one tag. -/
def library : ConsoleLibrary Str where
  unicode := ⟨id, id⟩
  verifyPassword password stored := .ok (decide (password = units "p" ∧ stored = units "scrypt$"))
  dummyHash := units "dummy"
  crypto := sampleHmac
  numbers := literalNumbers
  number := Decimal.render

def zoe : OperatorAccount :=
  ⟨units "zoe@example.com", units "Zoë", units "scrypt$", [.viewer, .admin]⟩

def deployment : Deployment := ⟨.ok [zoe], some sampleSecret, none⟩

/-- Nobody has an account any more. -/
def closed : Deployment := ⟨.ok [], some sampleSecret, none⟩

def signingIn : LoginRequest Str where
  body :=
    .obj [(units "email", .str (units "zoe@example.com")), (units "password", .str (units "p"))]
  forwardedFor := none

def revocation : ActionRequest where
  token := some sampleToken
  path := ["kyc", "revocations"].map String.toList
  query := none
  text := units "\x7b\x7d"

/-- The time at which the operator signs in. -/
def morning : ℚ := 1700000000000

/-- Where the console is after the operator has signed in. -/
def signedIn : ConsoleState Str where
  deployment := deployment
  login :=
    { failures := ((POST (deployment.env library) {} signingIn morning morning).run fun _ => none).2
      now := morning
      waiting := (signingIn.key (deployment.env library)).toList }
  signed := issued library deployment morning (.attempt signingIn morning morning (.signing zoe))

theorem nowSeconds_morning : nowSeconds morning = 1700000000 := by norm_num [nowSeconds, morning]

theorem sub_zoe : toLowerCase library.unicode (Money.trim zoe.email) = units "zoe@example.com" :=
  rfl

/-- The payload is that of the sample token. -/
theorem buildSessionPayload_zoe :
    buildSessionPayload library zoe (sessionTtlMinutes none) morning = samplePayload := by
  rw [buildSessionPayload, nowSeconds_morning, sub_zoe]
  rfl

theorem members_samplePayload : samplePayload.members library.number = sampleMembers := by
  have hiat : Decimal.render 1700000000 = units "1700000000" := rfl
  have hexp : Decimal.render 1700028800 = units "1700028800" := rfl
  show [_, _, _, (_, Json.num (Decimal.render 1700000000)),
    (_, Json.num (Decimal.render 1700028800))] = sampleMembers
  rw [hiat, hexp]
  rfl

theorem exact_samplePayload : samplePayload.Exact library := ⟨rfl, rfl⟩

theorem sessionSecret_sample : sessionSecret (some sampleSecret) = .ok sampleSecret := by
  simp [sessionSecret, sampleSecret, minSecretLength]

theorem signed_signedIn : signedIn.signed = [(sampleMembers, sampleSecret)] := by
  simp only [signedIn, issued, deployment, sessionSecret_sample, sessionFor,
    buildSessionPayload_zoe, members_samplePayload]

/-- The step with which the operator signs in. -/
theorem signIn_step : (console library {}).step (.fresh deployment morning)
    (.login (.attempt signingIn morning morning (.signing zoe)) morning) signedIn := by
  have hlogin : LoginStep (deployment.env library) {} (.fresh morning)
      (.attempt signingIn morning morning (.signing zoe)) signedIn.login :=
    LoginStep.attempt le_rfl le_rfl
  have hstep : ConsoleStep library {} (.fresh deployment morning)
      (.login (.attempt signingIn morning morning (.signing zoe)) morning) _ :=
    .login hlogin (show (0 : ℚ) ≤ 1700000000000 by norm_num) le_rfl fun payload hpayload => by
      obtain rfl := Option.some.inj hpayload
      have hexact := exact_samplePayload
      rw [← buildSessionPayload_zoe] at hexact
      exact hexact
  exact hstep

/-- The next deployment has no accounts, but the same secret. -/
def redeployed : ConsoleState Str := { signedIn with deployment := closed, login := .fresh morning }

theorem redeploy_step : (console library {}).step signedIn (.redeploy closed) redeployed :=
  .redeploy

theorem signSession_sampleToken :
    signSession literalNumbers sampleHmac (.obj sampleMembers) sampleSecret = .ok sampleToken :=
  signSession_tableHmac (List.cons_ne_nil _ _) _

theorem nowSeconds_revocation : nowSeconds 1700000100000 = 1700000100 := by norm_num [nowSeconds]

def sentRevocation : Forwarded :=
  ⟨"/api/v1/kyc/revocations".toList, units "\x7b\x7d", units "zoe@example.com"⟩

theorem handleAction_revocation :
    handleAction library closed revocation 1700000100000 1700000100000 =
      .ok (.ok sentRevocation) := by
  have hanswer : handleAction library closed revocation 1700000100000 1700000100000 =
      .ok (post _ (some samplePayload.session) (some samplePayload.session) revocation.path none
        revocation.text) :=
    handleAction_of_signSession good_sampleMembers sessionPayloadSchema_sampleMembers
      signSession_sampleToken rfl sessionSecret_sample rfl current_samplePayload
      current_samplePayload
  rw [hanswer]
  rfl

theorem revocation_step : (console library {}).step redeployed
    (.action revocation 1700000100000 1700000100000 (.ok (.ok sentRevocation)))
    { redeployed with login := { redeployed.login with now := 1700000100000 } } := by
  have hstep : ConsoleStep library {} redeployed (.action revocation 1700000100000 1700000100000
      (handleAction library closed revocation 1700000100000 1700000100000)) _ :=
    .action (show (1700000000000 : ℚ) ≤ 1700000100000 by norm_num) le_rfl
  rw [handleAction_revocation] at hstep
  exact hstep

theorem unforgeable_redeployed : Unforgeable library.crypto
    (Issued literalNumbers library.crypto redeployed.Signed)
    (Presented fun token => revocation.token = some token) := by
  rintro key mac hmac message ⟨token, htoken, hpresented⟩
  obtain rfl : sampleToken = token := Option.some.inj htoken
  have hsigned : redeployed.Signed sampleMembers sampleSecret := by
    have hmem : (sampleMembers, sampleSecret) ∈ signedIn.signed := by
      rw [signed_signedIn]
      exact List.mem_singleton_self _
    exact hmem
  obtain ⟨hkey, hmessage⟩ := unforgeable_tableHmac (List.cons_ne_nil _ _) key mac hmac message
    ⟨sampleToken, rfl, hpresented⟩
  exact ⟨sampleMembers, sampleSecret, hsigned, hkey, hmessage⟩

end Sample

open Sample in
/-- Somebody signed in with a password for the revocation that is sent in the name of Zoë. -/
theorem action_accountable_sample :
    ∃ (s₁ : ConsoleState Str) (l : ConsoleLabel Str) (account : OperatorAccount) (built : ℚ),
      SignsIn library s₁ l account built ∧ SentFor library account revocation sentRevocation := by
  obtain ⟨-, l, -, s₁, -, account, built, -, -, -, -, hsigns, -, hsent⟩ :=
    action_accountable (.snoc (.snoc (.nil _) signIn_step) redeploy_step) revocation_step
      unforgeable_redeployed
  exact ⟨s₁, l, account, built, hsigns, hsent⟩

open Sample in
/-- The action is sent although its operator has no account any more. -/
theorem session_lasts_sample :
    handleAction library closed revocation 1700000100000 1700000100000 =
      .ok (.ok sentRevocation) := by
  have hsigns : SignsIn library (.fresh deployment morning)
      (.login (.attempt signingIn morning morning (.signing zoe)) morning) zoe morning :=
    ⟨signingIn, morning, morning, ⟨units "zoe@example.com", units "p"⟩, [zoe], rfl, rfl,
      rfl, rfl, rfl⟩
  have hissues : Issues library (.fresh deployment morning) zoe morning
      (sampleMembers, sampleSecret) :=
    ⟨samplePayload, sampleSecret, buildSessionPayload_zoe.symm, exact_samplePayload,
      sessionSecret_sample, by rw [members_samplePayload]⟩
  have hgoes : GoesOn library (.fresh deployment morning) redeployed morning 1700000100000 := by
    refine ⟨⟨sampleSecret, sampleSecret, sessionSecret_sample, sessionSecret_sample, rfl⟩, ?_⟩
    rw [nowSeconds_revocation, nowSeconds_morning]
    show (1700000100 : ℤ) < 1700000000 + 480 * 60
    norm_num
  have hanswer := session_lasts signIn_step hsigns hissues (by rw [sub_zoe]; decide) (by decide)
    signSession_sampleToken (.snoc (.nil _) redeploy_step)
    (show revocation.token = some sampleToken from rfl)
    (show (1700000000000 : ℚ) ≤ 1700000100000 by norm_num) le_rfl hgoes
  exact hanswer.trans rfl

end Console

end RemitBridge
