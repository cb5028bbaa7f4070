import RemitBridge.Console.Policy

/-!
# The proxy of the console

The route handler of the console that forwards actions to the backend (`post`), and the gate in
front of it, for actions (`proxy`).

Both verify the session and both ask for the policy of the action.  The gate reads the path as the
browser sent it; the handler reads the segments that the framework has decoded.
-/

namespace RemitBridge

namespace Console

structure Session where
  /-- The email of the operator. -/
  sub : Str
  roles : List Role

structure Refusal where
  code : String
  message : String
  status : ℕ
  deriving DecidableEq

def unauthorized : Refusal := ⟨"UNAUTHORIZED", "Sign in to use the operator console.", 401⟩

def noPolicy : Refusal :=
  ⟨"FORBIDDEN", "This action has no authorisation policy, so it is refused.", 403⟩

def notPermitted (policy : MutationPolicy) : Refusal :=
  ⟨"FORBIDDEN", "Your role cannot " ++ policy.operation ++ ". Ask an administrator for the " ++
    policy.permission.text ++ " permission.", 403⟩

/-- A POST to the backend. -/
structure Forwarded where
  /-- What follows the host in the URL. -/
  target : Text
  body : Str
  /-- The header `x-operator`. -/
  operator : Str
  deriving DecidableEq

/-- What the path of a request is followed by. -/
def search : Option Text → Text
  | none => []
  | some query => '?' :: query

/-- The pieces of a path that are not empty. -/
def pathPieces (pathname : Text) : List Text :=
  (pathname.splitOn '/').filter fun piece => !piece.isEmpty

/-- The gate, for a POST below `/api/backend/`: `none` lets it through. -/
def proxy (session : Option Session) (pathname : Text) : Option Refusal :=
  match session with
  | none => some unauthorized
  | some session =>
    match policyForMutation ((pathPieces pathname).drop 2) with
    | none => some noPolicy
    | some policy =>
      if may session.roles policy.permission then none else some (notPermitted policy)

/-- The handler.  The session is verified twice, and the second time it may have expired.  `text` is
the body that was sent, as a text. -/
def post {N : Type} (F : NumberFormat N) (caller session : Option Session) (path : List Text)
    (query : Option Text) (text : Str) : Except Refusal Forwarded :=
  match caller with
  | none => .error unauthorized
  | some caller =>
    match policyForMutation path with
    | none => .error noPolicy
    | some policy =>
      match session with
      | none => .error (notPermitted policy)
      | some session =>
        if may session.roles policy.permission then
          .ok ⟨"/api/v1/".toList ++ joinPath path ++ search query,
            withOperatorAttribution F text policy caller.sub, caller.sub⟩
        else .error (notPermitted policy)

/-! ### What is forwarded -/

variable {N : Type} {F : NumberFormat N} {caller session : Option Session} {path : List Text}
  {query : Option Text} {text : Str} {sent : Forwarded}

/-- What is forwarded has a policy, the operator may do it, and the operator is named. -/
theorem post_cases (h : post F caller session path query text = .ok sent) :
    ∃ operator policy roles, caller = some operator ∧ policyForMutation path = some policy ∧
      session.map Session.roles = some roles ∧ may roles policy.permission = true ∧
      sent = ⟨"/api/v1/".toList ++ joinPath path ++ search query,
        withOperatorAttribution F text policy operator.sub, operator.sub⟩ := by
  cases caller with
  | none => cases h
  | some operator =>
    simp only [post] at h
    cases hpolicy : policyForMutation path with
    | none =>
      rw [hpolicy] at h
      cases h
    | some policy =>
      rw [hpolicy] at h
      cases session with
      | none => cases h
      | some again =>
        by_cases hmay : may again.roles policy.permission = true
        · simp only [if_pos hmay] at h
          exact ⟨operator, policy, again.roles, rfl, rfl, rfl, hmay, (Except.ok.inj h).symm⟩
        · simp only [if_neg hmay] at h
          cases h

end Console

end RemitBridge
