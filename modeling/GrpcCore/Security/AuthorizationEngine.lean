import GrpcCore.Security.RbacTranslator

/-!
# Authorization engines

The matchers built from RBAC policies, the engine that evaluates a request against them and
the decision of the server filter between its two engines.
-/

namespace GrpcCore.Security

/-- `EvaluateArgs`. The path is empty when the request has none. -/
structure EvaluateArgs where
  path : String
  headerValue : String → Option String
  transportSecurityType : String
  uriSans : List String
  dnsSans : List String

/-- The subclasses of `AuthorizationMatcher` that rules are translated to. -/
inductive AuthorizationMatcher where
  | and (matchers : List AuthorizationMatcher)
  | or (matchers : List AuthorizationMatcher)
  | not (matcher : AuthorizationMatcher)
  | always
  | header (matcher : HeaderMatcher)
  | path (matcher : StringMatcher)
  | authenticated (matcher : StringMatcher)

namespace AuthorizationMatcher

mutual

/-- `AuthorizationMatcher::Create` of a permission. -/
def ofPermission : Permission → AuthorizationMatcher
  | .and permissions => .and (ofPermissions permissions)
  | .or permissions => .or (ofPermissions permissions)
  | .not permission => .not (ofPermission permission)
  | .any => .always
  | .header matcher => .header matcher
  | .path matcher => .path matcher

def ofPermissions : List Permission → List AuthorizationMatcher
  | [] => []
  | permission :: permissions => ofPermission permission :: ofPermissions permissions

end

mutual

/-- `AuthorizationMatcher::Create` of a principal. -/
def ofPrincipal : Principal → AuthorizationMatcher
  | .and principals => .and (ofPrincipals principals)
  | .or principals => .or (ofPrincipals principals)
  | .not principal => .not (ofPrincipal principal)
  | .any => .always
  | .principalName matcher => .authenticated matcher
  | .header matcher => .header matcher
  | .path matcher => .path matcher

def ofPrincipals : List Principal → List AuthorizationMatcher
  | [] => []
  | principal :: principals => ofPrincipal principal :: ofPrincipals principals

end

/-- `AuthenticatedAuthorizationMatcher::Matches`. -/
def matchesAuthenticated (matcher : StringMatcher) (args : EvaluateArgs) : Bool :=
  if args.transportSecurityType ≠ "ssl" ∧ args.transportSecurityType ≠ "tls" then false
  else if matcher.stringMatcher = "" then true
  else args.uriSans.any matcher.matchesValue || args.dnsSans.any matcher.matchesValue

/-- `PathAuthorizationMatcher::Matches`. -/
def matchesPath (matcher : StringMatcher) (args : EvaluateArgs) : Bool :=
  if args.path = "" then false else matcher.matchesValue args.path

mutual

/-- `AuthorizationMatcher::Matches`. -/
def matchesArgs (args : EvaluateArgs) : AuthorizationMatcher → Bool
  | .and matchers => allMatch args matchers
  | .or matchers => anyMatches args matchers
  | .not matcher => !matchesArgs args matcher
  | .always => true
  | .header matcher => matcher.matchesValue (args.headerValue matcher.name)
  | .path matcher => matchesPath matcher args
  | .authenticated matcher => matchesAuthenticated matcher args

def allMatch (args : EvaluateArgs) : List AuthorizationMatcher → Bool
  | [] => true
  | matcher :: matchers => if matchesArgs args matcher then allMatch args matchers else false

def anyMatches (args : EvaluateArgs) : List AuthorizationMatcher → Bool
  | [] => false
  | matcher :: matchers => if matchesArgs args matcher then true else anyMatches args matchers

end

theorem ofPermissions_eq_map (permissions : List Permission) :
    ofPermissions permissions = permissions.map ofPermission := by
  induction permissions with
  | nil => rfl
  | cons permission permissions ih => rw [ofPermissions, List.map_cons, ih]

theorem ofPrincipals_eq_map (principals : List Principal) :
    ofPrincipals principals = principals.map ofPrincipal := by
  induction principals with
  | nil => rfl
  | cons principal principals ih => rw [ofPrincipals, List.map_cons, ih]

theorem allMatch_eq_all (args : EvaluateArgs) (matchers : List AuthorizationMatcher) :
    allMatch args matchers = matchers.all (matchesArgs args) := by
  induction matchers with
  | nil => rfl
  | cons matcher matchers ih =>
    rw [allMatch, List.all_cons, ih]
    cases matchesArgs args matcher with
    | true => rfl
    | false => rfl

theorem anyMatches_eq_any (args : EvaluateArgs) (matchers : List AuthorizationMatcher) :
    anyMatches args matchers = matchers.any (matchesArgs args) := by
  induction matchers with
  | nil => rfl
  | cons matcher matchers ih =>
    rw [anyMatches, List.any_cons, ih]
    cases matchesArgs args matcher with
    | true => rfl
    | false => rfl

end AuthorizationMatcher

/-- `PolicyAuthorizationMatcher`. -/
structure PolicyAuthorizationMatcher where
  permissions : AuthorizationMatcher
  principals : AuthorizationMatcher

namespace PolicyAuthorizationMatcher

def ofPolicy (policy : Policy) : PolicyAuthorizationMatcher :=
  ⟨.ofPermission policy.permissions, .ofPrincipal policy.principals⟩

/-- `PolicyAuthorizationMatcher::Matches`. -/
def matchesArgs (args : EvaluateArgs) (matcher : PolicyAuthorizationMatcher) : Bool :=
  matcher.permissions.matchesArgs args && matcher.principals.matchesArgs args

end PolicyAuthorizationMatcher

inductive DecisionType where
  | kAllow
  | kDeny
deriving DecidableEq

/-- `AuthorizationEngine::Decision`. -/
structure Decision where
  type : DecisionType
  matchingPolicyName : String
deriving DecidableEq

/-- `GrpcAuthorizationEngine`. -/
structure GrpcAuthorizationEngine where
  action : Rbac.Action
  policies : List (String × PolicyAuthorizationMatcher)

namespace GrpcAuthorizationEngine

def new (policy : Rbac) : GrpcAuthorizationEngine where
  action := policy.action
  policies := policy.policies.map fun subPolicy => (subPolicy.1, .ofPolicy subPolicy.2)

/-- `GrpcAuthorizationEngine::Evaluate`. -/
def evaluate (engine : GrpcAuthorizationEngine) (args : EvaluateArgs) : Decision :=
  let found := engine.policies.find? fun policy => policy.2.matchesArgs args
  { type := if found.isSome = decide (engine.action = .kAllow) then .kAllow else .kDeny
    matchingPolicyName := (found.map (·.1)).getD "" }

end GrpcAuthorizationEngine

structure AuthorizationEngines where
  allowEngine : Option GrpcAuthorizationEngine
  denyEngine : Option GrpcAuthorizationEngine

/-- The engines of `StaticDataAuthorizationPolicyProvider`. -/
def AuthorizationEngines.new (policies : RbacPolicies) : AuthorizationEngines :=
  ⟨some (.new policies.allowPolicy), some (.new policies.denyPolicy)⟩

/-- `SdkServerAuthzFilter::CallData::IsAuthorized`. -/
def isAuthorized (engines : AuthorizationEngines) (args : EvaluateArgs) : Bool :=
  if engines.denyEngine.any fun engine => (engine.evaluate args).type = .kDeny then false
  else engines.allowEngine.any fun engine => (engine.evaluate args).type = .kAllow

end GrpcCore.Security
