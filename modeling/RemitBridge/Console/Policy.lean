import RemitBridge.Url.Path
import RemitBridge.Json.Syntax

/-!
# The policies of the console

What the roles of an operator permit, which permission an action of the console needs
(`policyForMutation`), and how the console names the operator in the body of a request
(`withOperatorAttribution`).
-/

namespace RemitBridge

namespace Console

inductive Permission where
  | liquidityPropose
  | liquidityDecide
  | liquidityExecute
  | liquiditySweep
  | kycRevoke
  deriving DecidableEq

def Permission.text : Permission → String
  | liquidityPropose => "liquidity:propose"
  | liquidityDecide => "liquidity:decide"
  | liquidityExecute => "liquidity:execute"
  | liquiditySweep => "liquidity:sweep"
  | kycRevoke => "kyc:revoke"

inductive Role where
  | viewer
  | operator
  | admin
  deriving DecidableEq

def rolePermissions : Role → List Permission
  | .viewer => []
  | .operator => [.liquidityPropose, .liquidityDecide, .liquidityExecute, .liquiditySweep]
  | .admin => [.liquidityPropose, .liquidityDecide, .liquidityExecute, .liquiditySweep, .kycRevoke]

def permissionsFor (roles : List Role) : List Permission := roles.flatMap rolePermissions

def may (roles : List Role) (permission : Permission) : Bool :=
  (permissionsFor roles).contains permission

/-- The fields that a browser may not fill in. -/
def auditFields : List String := ["requestedBy", "approvedBy"]

structure MutationPolicy where
  permission : Permission
  /-- The fields of this route that name the operator. -/
  auditFields : List String
  operation : String
  deriving DecidableEq

def joinPath (segments : List Text) : Text := List.intercalate ['/'] segments

/-- What the path of every action on one top-up begins with. -/
def topUps : Text := "agents/liquidity/top-ups/".toList

/-- The path is that of an action on one top-up. -/
def isTopUp (segments : List Text) (action : String) : Bool :=
  segments.length == 5 && segments[4]? == some action.toList &&
    topUps.isPrefixOf (joinPath segments)

def policyForMutation (segments : List Text) : Option MutationPolicy :=
  let path := joinPath segments
  if path = "agents/liquidity/top-ups".toList then
    some ⟨.liquidityPropose, ["requestedBy"], "propose a float top-up"⟩
  else if isTopUp segments "decision" then
    some ⟨.liquidityDecide, ["approvedBy"], "decide a float top-up"⟩
  else if isTopUp segments "execute" then
    some ⟨.liquidityExecute, [], "execute a float draw"⟩
  else if path = "agents/liquidity/sweep".toList then
    some ⟨.liquiditySweep, [], "run a liquidity sweep"⟩
  else if path = "kyc/revocations".toList then
    some ⟨.kycRevoke, [], "revoke attestations"⟩
  else none

/-- A body that is not a JSON object is for the backend to reject. -/
def withOperatorAttribution {N : Type} (F : NumberFormat N) (rawBody : Str)
    (policy : MutationPolicy)
    (email : Str) : Str :=
  if policy.auditFields.isEmpty then rawBody
  else match Json.parse F rawBody with
    | some (.obj members) =>
      let body := auditFields.foldl (fun body field => Members.delete body (units field)) members
      Json.stringify F (.obj
        (policy.auditFields.foldl (fun body field =>
          Members.set body (units field) (.str email)) body))
    | _ => rawBody

/-! ### Policies -/

variable {segments : List Text} {policy : MutationPolicy}

/-- What a policy can be, and for which paths. -/
theorem policyForMutation_cases (h : policyForMutation segments = some policy) :
    (joinPath segments = "agents/liquidity/top-ups".toList ∧
      policy = ⟨.liquidityPropose, ["requestedBy"], "propose a float top-up"⟩) ∨
    (isTopUp segments "decision" = true ∧
      policy = ⟨.liquidityDecide, ["approvedBy"], "decide a float top-up"⟩) ∨
    (isTopUp segments "execute" = true ∧
      policy = ⟨.liquidityExecute, [], "execute a float draw"⟩) ∨
    (joinPath segments = "agents/liquidity/sweep".toList ∧
      policy = ⟨.liquiditySweep, [], "run a liquidity sweep"⟩) ∨
    (joinPath segments = "kyc/revocations".toList ∧
      policy = ⟨.kycRevoke, [], "revoke attestations"⟩) := by
  simp only [policyForMutation] at h
  split_ifs at h with htopUps hdecision hexecute hsweep hrevoke
  · exact .inl ⟨htopUps, (Option.some.inj h).symm⟩
  · exact .inr (.inl ⟨hdecision, (Option.some.inj h).symm⟩)
  · exact .inr (.inr (.inl ⟨hexecute, (Option.some.inj h).symm⟩))
  · exact .inr (.inr (.inr (.inl ⟨hsweep, (Option.some.inj h).symm⟩)))
  · exact .inr (.inr (.inr (.inr ⟨hrevoke, (Option.some.inj h).symm⟩)))

/-- A policy fills in audit fields only, and none of them twice. -/
theorem auditFields_sublist (h : policyForMutation segments = some policy) :
    policy.auditFields.Sublist auditFields := by
  obtain ⟨-, rfl⟩ | ⟨-, rfl⟩ | ⟨-, rfl⟩ | ⟨-, rfl⟩ | ⟨-, rfl⟩ :=
    policyForMutation_cases h <;> decide

end Console

end RemitBridge
