import GrpcCore.Xds.ConfigSelector

/-!
# Equality of config selectors

`XdsConfigSelector::Equals` with the `operator==` members it uses, and `GetCallConfig`. A
service config is its JSON text.
-/

namespace GrpcCore.Xds.Resolver

inductive StringMatcherType where
  | kExact
  | kPrefix
  | kSuffix
  | kSafeRegex
  | kContains
deriving DecidableEq

/-- `StringMatcher`; a regular expression is its pattern. -/
structure StringMatcher where
  type : StringMatcherType
  matcher : String
  caseSensitive : Bool
deriving DecidableEq

inductive HeaderMatcherType where
  | kRange (start stop : Int)
  | kPresent (presentMatch : Bool)
  | matcher (matcher : StringMatcher)
deriving DecidableEq

structure HeaderMatcher where
  name : String
  type : HeaderMatcherType
  invertMatch : Bool
deriving DecidableEq

/-- `XdsApi::Route::Matchers`. -/
structure Matchers where
  pathMatcher : StringMatcher
  headerMatchers : List HeaderMatcher
  fractionPerMillion : Option UInt32
deriving DecidableEq

variable {FilterConfig : Type}

abbrev Entry (FilterConfig : Type) := RouteEntry Matchers FilterConfig String

abbrev Selector (FilterConfig : Type) := XdsConfigSelector Matchers FilterConfig String

section Equals

variable [DecidableEq FilterConfig]

/-- `HashPolicy::operator==`. -/
def HashPolicy.equals (policy other : HashPolicy) : Bool :=
  if policy.type ≠ other.type then false
  else if policy.type = .header then
    match policy.regex, other.regex with
    | none, none => true
    | some regex, some otherRegex =>
      policy.headerName = other.headerName && regex = otherRegex &&
        policy.regexSubstitution = other.regexSubstitution
    | _, _ => false
  else true

/-- `RouteAction::operator==`. -/
def RouteAction.equals (action other : RouteAction FilterConfig) : Bool :=
  action.hashPolicies.isEqv other.hashPolicies HashPolicy.equals &&
    action.retryPolicy = other.retryPolicy && action.clusterName = other.clusterName &&
    action.weightedClusters = other.weightedClusters &&
    action.maxStreamDuration = other.maxStreamDuration

def Action.equals : Action FilterConfig → Action FilterConfig → Bool
  | .unknown, .unknown => true
  | .route action, .route other => action.equals other
  | .nonForwarding, .nonForwarding => true
  | _, _ => false

/-- `XdsApi::Route::operator==`. -/
def Route.equals (route other : Route Matchers FilterConfig) : Bool :=
  route.matchers = other.matchers && route.action.equals other.action &&
    route.typedPerFilterConfig = other.typedPerFilterConfig

/-- `XdsConfigSelector::Route::operator==`. -/
def RouteEntry.equals (entry other : Entry FilterConfig) : Bool :=
  entry.route.equals other.route && entry.weightedClusterState = other.weightedClusterState &&
    entry.methodConfig = other.methodConfig

/-- `XdsConfigSelector::Equals`. -/
def XdsConfigSelector.equals (selector other : Selector FilterConfig) : Bool :=
  selector.routeTable.isEqv other.routeTable RouteEntry.equals &&
    (selector.clusters ⊆ other.clusters ∧ other.clusters ⊆ selector.clusters)

end Equals

/-- What `GetCallConfig` takes from the request and from other libraries. -/
structure Lookups where
  path : String
  getHeaderValue : String → Option String
  stringMatch : StringMatcher → String → Bool
  headerMatch : HeaderMatcher → Option String → Bool
  globalReplace : String → String → String → String
  xxh64 : String → UInt64
  channelId : UInt64

inductive CallConfig where
  | none
  | inappropriateAction
  | config (cluster : String) (hash : UInt64) (methodConfig : Option String)
deriving DecidableEq

section GetCallConfig

variable (lookups : Lookups)

/-- The draws after the first. -/
def later (draws : Nat → Nat) : Nat → Nat := fun index => draws (index + 1)

/-- Whether a route matches, with the draws that are left. -/
def Matchers.match (matchers : Matchers) (draws : Nat → Nat) : Bool × (Nat → Nat) :=
  if !lookups.stringMatch matchers.pathMatcher lookups.path ||
      !matchers.headerMatchers.all fun header =>
        lookups.headerMatch header (lookups.getHeaderValue header.name) then (false, draws)
  else
    match matchers.fractionPerMillion with
    | none => (true, draws)
    | some fraction => (draws 0 % 1000000 < fraction.toNat, later draws)

def HashPolicy.hash (policy : HashPolicy) : Option UInt64 :=
  match policy.type with
  | .header =>
    (lookups.getHeaderValue policy.headerName).map fun value => lookups.xxh64
      (match policy.regex with
      | none => value
      | some regex => lookups.globalReplace regex policy.regexSubstitution value)
  | .channelId => some lookups.channelId

/-- The loop over the hash policies. -/
def generateHash : Option UInt64 → List HashPolicy → Option UInt64
  | hash, [] => hash
  | hash, policy :: policies =>
    let hash := match policy.hash lookups with
      | none => hash
      | some newHash =>
        some ((hash.map fun old : UInt64 => old <<< 1 ||| old >>> 63).getD 0 ^^^ newHash)
    if policy.terminal && hash.isSome then hash else generateHash hash policies

/-- The config of a call whose cluster is chosen; nothing where the assertion fails. -/
def finishCallConfig (clusters : List String) (policies : List HashPolicy) (cluster : String)
    (methodConfig : Option String) (draws : Nat → Nat) : Option CallConfig :=
  if cluster ∈ clusters then
    some (.config cluster
      ((generateHash lookups none policies).getD
        (UInt64.ofNat (draws 0) <<< 32 ||| UInt64.ofNat (draws 1))) methodConfig)
  else none

/-- The config of a call for the route that has matched. -/
def RouteEntry.callConfig (entry : Entry FilterConfig) (clusters : List String)
    (draws : Nat → Nat) : Option CallConfig :=
  match entry.route.action with
  | .route action =>
    if action.weightedClusters = [] then
      finishCallConfig lookups clusters action.hashPolicies action.clusterName
        entry.methodConfig draws
    else do
      let index ← chooseCluster
        (entry.weightedClusterState.map fun state => ⟨state.rangeEnd, state.cluster⟩) (draws 0)
      let state ← entry.weightedClusterState[index]?
      finishCallConfig lookups clusters action.hashPolicies state.cluster state.methodConfig
        (later draws)
  | _ => some .inappropriateAction

/-- `GetCallConfig` over the routes that are left. -/
def callConfigOf (clusters : List String) :
    List (Entry FilterConfig) → (Nat → Nat) → Option CallConfig
  | [], _ => some .none
  | entry :: entries, draws =>
    let (matched, left) := entry.route.matchers.match lookups draws
    if matched then entry.callConfig lookups clusters left
    else callConfigOf clusters entries left

/-- `GetCallConfig`. -/
def XdsConfigSelector.getCallConfig (selector : Selector FilterConfig) (draws : Nat → Nat) :
    Option CallConfig :=
  callConfigOf lookups selector.clusters selector.routeTable draws

end GetCallConfig

/-- What `operator==` compares of a hash policy. -/
def HashPolicy.compared (policy : HashPolicy) :
    HashPolicyType × Option (String × String × String) :=
  (policy.type,
    if policy.type = .header then
      policy.regex.map fun regex => (policy.headerName, regex, policy.regexSubstitution)
    else none)

def RouteEntry.hashPolicies (entry : Entry FilterConfig) : List HashPolicy :=
  match entry.route.action with
  | .route action => action.hashPolicies
  | _ => []

/-- The route without its hash policies. -/
def RouteEntry.stripped (entry : Entry FilterConfig) : Entry FilterConfig :=
  match entry.route.action with
  | .route action =>
    { entry with route := { entry.route with action := .route { action with hashPolicies := [] } } }
  | _ => entry

/-- What the comparison of two routes sees. -/
def RouteEntry.compared (entry : Entry FilterConfig) :
    Entry FilterConfig × List (HashPolicyType × Option (String × String × String)) :=
  (entry.stripped, entry.hashPolicies.map HashPolicy.compared)

/-- Selectors that agree in all that is compared have the same hash policies. -/
def PoliciesTold (selector other : Selector FilterConfig) : Prop :=
  selector.routeTable.map RouteEntry.compared = other.routeTable.map RouteEntry.compared →
    (∀ cluster, cluster ∈ selector.clusters ↔ cluster ∈ other.clusters) →
    selector.routeTable.map RouteEntry.hashPolicies = other.routeTable.map RouteEntry.hashPolicies

theorem isEqv_iff_map_eq {Element Key : Type*} {equals : Element → Element → Bool}
    {key : Element → Key} (same : ∀ element other, equals element other ↔ key element = key other)
    (elements others : List Element) :
    elements.isEqv others equals ↔ elements.map key = others.map key := by
  induction elements generalizing others with
  | nil => cases others <;> simp [List.isEqv]
  | cons element elements ih =>
    cases others with
    | nil => simp [List.isEqv]
    | cons =>
      rw [List.isEqv, Bool.and_eq_true, same, ih, List.map_cons, List.map_cons, List.cons.injEq]

theorem HashPolicy.equals_iff (policy other : HashPolicy) :
    policy.equals other ↔ policy.compared = other.compared := by
  obtain ⟨type, _, _, regex, _⟩ := policy
  obtain ⟨type', _, _, regex', _⟩ := other
  cases type <;> cases type' <;> cases regex <;> cases regex' <;>
    simp [equals, compared, and_assoc]

theorem RouteEntry.ext_policies {entry other : Entry FilterConfig}
    (stripped : entry.stripped = other.stripped)
    (policies : entry.hashPolicies = other.hashPolicies) : entry = other := by
  obtain ⟨⟨_, action, _⟩, _, _⟩ := entry
  obtain ⟨⟨_, action', _⟩, _, _⟩ := other
  cases action with
  | route action =>
    cases action' with
    | route action' =>
      obtain ⟨_, _, _, _, _⟩ := action
      simp_all [RouteEntry.stripped, RouteEntry.hashPolicies]
    | _ => cases stripped
  | _ => cases action' <;> first | exact stripped | cases stripped

theorem table_ext {entries others : List (Entry FilterConfig)}
    (compared : entries.map RouteEntry.compared = others.map RouteEntry.compared)
    (policies : entries.map RouteEntry.hashPolicies = others.map RouteEntry.hashPolicies) :
    entries = others := by
  induction entries generalizing others with
  | nil => exact (List.map_eq_nil_iff.mp compared.symm).symm
  | cons entry entries ih =>
    cases others with
    | nil => cases compared
    | cons =>
      obtain ⟨here, there⟩ := List.cons.inj compared
      obtain ⟨here', there'⟩ := List.cons.inj policies
      rw [RouteEntry.ext_policies (congrArg Prod.fst here) here', ih there there']

theorem callConfigOf_congr {clusters others : List String}
    (same : ∀ cluster, cluster ∈ clusters ↔ cluster ∈ others) (lookups : Lookups)
    (entries : List (Entry FilterConfig)) (draws : Nat → Nat) :
    callConfigOf lookups clusters entries draws = callConfigOf lookups others entries draws := by
  have finish : finishCallConfig lookups clusters = finishCallConfig lookups others := by
    funext policies cluster methodConfig draws
    simp only [finishCallConfig, same]
  induction entries generalizing draws with
  | nil => rfl
  | cons entry entries ih => simp only [callConfigOf, RouteEntry.callConfig, finish, ih]

section

variable [DecidableEq FilterConfig]

theorem RouteEntry.equals_iff (entry other : Entry FilterConfig) :
    entry.equals other ↔ entry.compared = other.compared := by
  have policies := isEqv_iff_map_eq HashPolicy.equals_iff
  obtain ⟨⟨_, action, _⟩, _, _⟩ := entry
  obtain ⟨⟨_, action', _⟩, _, _⟩ := other
  cases action <;> cases action' <;>
    simp [RouteEntry.equals, Route.equals, Action.equals, RouteAction.equals, compared, stripped,
      RouteEntry.hashPolicies, policies] <;> tauto

theorem XdsConfigSelector.equals_iff (selector other : Selector FilterConfig) :
    selector.equals other ↔
      selector.routeTable.map RouteEntry.compared = other.routeTable.map RouteEntry.compared ∧
        ∀ cluster, cluster ∈ selector.clusters ↔ cluster ∈ other.clusters := by
  rw [equals, Bool.and_eq_true, isEqv_iff_map_eq RouteEntry.equals_iff, decide_eq_true_iff]
  refine and_congr_right fun _ => ?_
  exact ⟨fun both _ => ⟨@both.1 _, @both.2 _⟩,
    fun same => ⟨fun _ => (same _).mp, fun _ => (same _).mpr⟩⟩

/-- `Equals` is sound: selectors that it takes for equal give the same config for every call, and
have the same routes. -/
def EqualsSound (selector other : Selector FilterConfig) : Prop :=
  selector.equals other →
    (∀ lookups draws,
      selector.getCallConfig lookups draws = other.getCallConfig lookups draws) ∧
    selector.routeTable = other.routeTable

/-- `Equals` is sound for two selectors unless they differ in a part of the hash policies that
it does not compare, and in nothing else. -/
theorem equalsSound_iff (selector other : Selector FilterConfig) :
    EqualsSound selector other ↔ PoliciesTold selector other := by
  unfold EqualsSound
  rw [XdsConfigSelector.equals_iff]
  constructor
  · intro sound compared clusters
    rw [(sound ⟨compared, clusters⟩).2]
  · rintro told ⟨compared, clusters⟩
    have tables := table_ext compared (told compared clusters)
    refine ⟨fun lookups draws => ?_, tables⟩
    unfold XdsConfigSelector.getCallConfig
    rw [tables]
    exact callConfigOf_congr clusters lookups other.routeTable draws

/-- A selector with one route, which hashes the header of a name. -/
def hashing (headerName : String) : Selector Nat where
  routeTable := [
    { route :=
        { matchers := ⟨⟨.kPrefix, "", true⟩, [], none⟩
          action := .route
            ⟨[⟨.header, false, headerName, none, ""⟩], none, "cluster", [], some ⟨0, 0⟩⟩
          typedPerFilterConfig := [] }
      methodConfig := none
      weightedClusterState := [] }]
  clusters := ["cluster"]

/-- Selectors that hash different headers are equal, and hash a call differently. -/
theorem header_name_ignored :
    (hashing "user").equals (hashing "session") ∧ ¬EqualsSound (hashing "user") (hashing "session") := by
  refine ⟨by decide, fun sound => ?_⟩
  have same := (sound (by decide)).1
    ⟨"/service/method", fun name => if name = "user" then some "1" else none, fun _ _ => true,
      fun _ _ => true, fun _ _ text => text, fun _ => 7, 0⟩ fun _ => 0
  revert same
  decide

end

end GrpcCore.Xds.Resolver
