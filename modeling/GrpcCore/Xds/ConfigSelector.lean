import GrpcCore.Xds.WeightedClusters

/-!
# The config selector of the xDS resolver

`XdsConfigSelector` as its constructor builds it from the routes of the current virtual host, the
method config of every route, and the result that `GenerateResult` makes of them.
-/

namespace GrpcCore.Xds.Resolver

/-- `XdsApi::Duration`. -/
structure Duration where
  seconds : Int
  nanos : Int
deriving DecidableEq

/-- The status codes that a retry policy may name. -/
inductive StatusCode where
  | cancelled
  | deadlineExceeded
  | internal
  | resourceExhausted
  | unavailable
deriving DecidableEq

def StatusCode.name : StatusCode → String
  | cancelled => "CANCELLED"
  | deadlineExceeded => "DEADLINE_EXCEEDED"
  | internal => "INTERNAL"
  | resourceExhausted => "RESOURCE_EXHAUSTED"
  | unavailable => "UNAVAILABLE"

/-- `XdsApi::RetryPolicy`. -/
structure RetryPolicy where
  retryOn : List StatusCode
  numRetries : UInt32
  baseInterval : Duration
  maxInterval : Duration
deriving DecidableEq

inductive HashPolicyType where
  | header
  | channelId
deriving DecidableEq

/-- `XdsApi::Route::RouteAction::HashPolicy`; a regular expression is its pattern. -/
structure HashPolicy where
  type : HashPolicyType
  terminal : Bool
  headerName : String
  regex : Option String
  regexSubstitution : String
deriving DecidableEq

/-- `TypedPerFilterConfig`, by the names of the filter instances. -/
abbrev TypedPerFilterConfig (FilterConfig : Type) := List (String × FilterConfig)

/-- `XdsApi::Route::RouteAction`. -/
structure RouteAction (FilterConfig : Type) where
  hashPolicies : List HashPolicy
  retryPolicy : Option RetryPolicy
  clusterName : String
  weightedClusters : List (ClusterWeight (TypedPerFilterConfig FilterConfig))
  maxStreamDuration : Option Duration
deriving DecidableEq

inductive Action (FilterConfig : Type) where
  | unknown
  | route (action : RouteAction FilterConfig)
  | nonForwarding
deriving DecidableEq

/-- `XdsApi::Route`. -/
structure Route (Matchers FilterConfig : Type) where
  matchers : Matchers
  action : Action FilterConfig
  typedPerFilterConfig : TypedPerFilterConfig FilterConfig
deriving DecidableEq

/-- `XdsHttpFilterImpl`. -/
structure XdsHttpFilterImpl (FilterConfig Args : Type) where
  hasChannelFilter : Bool
  modifyChannelArgs : Args → Args
  generateServiceConfig : FilterConfig → Option FilterConfig → Except String (String × String)

structure HttpFilter (FilterConfig : Type) where
  name : String
  configProtoTypeName : String
  config : FilterConfig

variable {Matchers FilterConfig Args ServiceConfig : Type}

/-- What the selector takes from its resolver and from other libraries. -/
structure Environment (FilterConfig Args ServiceConfig : Type) where
  args : Args
  httpFilters : List (HttpFilter FilterConfig)
  httpMaxStreamDuration : Duration
  getFilterForType : String → XdsHttpFilterImpl FilterConfig Args
  vhostTypedPerFilterConfig : TypedPerFilterConfig FilterConfig
  createServiceConfig : Args → String → Except String ServiceConfig

section CreateMethodConfig

/-- `%d.%09ds`. -/
def printDuration (duration : Duration) : String :=
  let digits := toString duration.nanos.natAbs
  let sign := if duration.nanos < 0 then "-" else ""
  toString duration.seconds ++ "." ++ sign ++
    String.ofList (List.replicate (9 - sign.length - digits.length) '0') ++ digits ++ "s"

def retryField (policy : RetryPolicy) : List String :=
  if policy.retryOn = [] then []
  else
    let codes :=
      [StatusCode.cancelled, .deadlineExceeded, .internal, .resourceExhausted, .unavailable].filter
        (· ∈ policy.retryOn)
    ["\"retryPolicy\": \x7b\n" ++
      "      \"maxAttempts\": " ++ toString (policy.numRetries + 1).toNat ++ ",\n" ++
      "      \"initialBackoff\": \"" ++ printDuration policy.baseInterval ++ "\",\n" ++
      "      \"maxBackoff\": \"" ++ printDuration policy.maxInterval ++ "\",\n" ++
      "      \"backoffMultiplier\": 2,\n" ++
      "      \"retryableStatusCodes\": [\n " ++
      ",\n".intercalate (codes.map fun code => "        \"" ++ code.name ++ "\"") ++ " ]\n" ++
      "    \x7d"]

def timeoutField (duration : Duration) : List String :=
  if duration.seconds ≠ 0 ∨ duration.nanos ≠ 0 then
    ["    \"timeout\": \"" ++ printDuration duration ++ "\""]
  else []

/-- `FindFilterConfigOverride`. -/
def findFilterConfigOverride (environment : Environment FilterConfig Args ServiceConfig)
    (route : Route Matchers FilterConfig)
    (clusterWeight : Option (ClusterWeight (TypedPerFilterConfig FilterConfig))) (name : String) :
    Option FilterConfig :=
  ((clusterWeight.bind (·.typedPerFilterConfig)).bind (·.lookup name)).or
    ((route.typedPerFilterConfig.lookup name).or
      (environment.vhostTypedPerFilterConfig.lookup name))

/-- The loop over the HTTP filters, with `args` and the elements in the order of the filters. -/
def filterElements (environment : Environment FilterConfig Args ServiceConfig)
    (configOverride : String → Option FilterConfig) :
    List (HttpFilter FilterConfig) → Args → Except String (Args × List (String × String))
  | [], args => .ok (args, [])
  | filter :: filters, args =>
    let impl := environment.getFilterForType filter.configProtoTypeName
    if impl.hasChannelFilter then
      match impl.generateServiceConfig filter.config (configOverride filter.name) with
      | .error status =>
        .error ("failed to generate method config for HTTP filter " ++ filter.name ++ ": " ++
          status)
      | .ok element =>
        (filterElements environment configOverride filters (impl.modifyChannelArgs args)).map
          fun (args, elements) => (args, element :: elements)
    else filterElements environment configOverride filters args

/-- `per_filter_configs`, a field for each name in the order of the names. -/
def perFilterFields (elements : List (String × String)) : List String :=
  ((elements.map Prod.fst).dedup.mergeSort fun name other => decide (name ≤ other)).map fun name =>
    "    \"" ++ name ++ "\": [\n" ++
      ",\n".intercalate ((elements.filter (·.1 = name)).map Prod.snd) ++ "\n    ]"

/-- `CreateMethodConfig`; there is no method config when there are no fields. -/
def createMethodConfig (environment : Environment FilterConfig Args ServiceConfig)
    (route : Route Matchers FilterConfig) (action : RouteAction FilterConfig)
    (clusterWeight : Option (ClusterWeight (TypedPerFilterConfig FilterConfig))) :
    Except String (Option ServiceConfig) :=
  match filterElements environment (findFilterConfigOverride environment route clusterWeight)
      environment.httpFilters environment.args with
  | .error error => .error error
  | .ok (args, elements) =>
    let fields := (action.retryPolicy.map retryField).getD [] ++
      (action.maxStreamDuration.map timeoutField).getD [] ++ perFilterFields elements
    if fields = [] then .ok none
    else
      (environment.createServiceConfig args
        ("\x7b\n  \"methodConfig\": [ \x7b\n    \"name\": [\n      \x7b\x7d\n    ],\n    " ++
          ",\n".intercalate fields ++ "\n  \x7d ]\n\x7d")).map some

end CreateMethodConfig

/-- `ClusterWeightState`. -/
structure ClusterWeightState (ServiceConfig : Type) where
  rangeEnd : UInt32
  cluster : String
  methodConfig : Option ServiceConfig
deriving DecidableEq

/-- `XdsConfigSelector::Route`. -/
structure RouteEntry (Matchers FilterConfig ServiceConfig : Type) where
  route : Route Matchers FilterConfig
  methodConfig : Option ServiceConfig
  weightedClusterState : List (ClusterWeightState ServiceConfig)
deriving DecidableEq

/-- `XdsConfigSelector`; its clusters are the names that were added. -/
structure XdsConfigSelector (Matchers FilterConfig ServiceConfig : Type) where
  routeTable : List (RouteEntry Matchers FilterConfig ServiceConfig)
  clusters : List String
deriving DecidableEq

section Constructor

variable (environment : Environment FilterConfig Args ServiceConfig)

/-- The route as the table holds it: a timeout that it does not specify is the global one. -/
def Route.withTimeout (route : Route Matchers FilterConfig) : Route Matchers FilterConfig :=
  match route.action with
  | .route action =>
    { route with
      action := .route { action with
        maxStreamDuration := some
          (action.maxStreamDuration.getD environment.httpMaxStreamDuration) } }
  | _ => route

/-- The loop over the weighted clusters of a route, which ends with the first error. -/
def weightedClusterStates (route : Route Matchers FilterConfig) (action : RouteAction FilterConfig) :
    UInt32 → List (ClusterWeight (TypedPerFilterConfig FilterConfig)) →
      List (ClusterWeightState ServiceConfig) × Option String
  | _, [] => ([], none)
  | rangeEnd, cluster :: clusters =>
    match createMethodConfig environment route action (some cluster) with
    | .error error => ([], some error)
    | .ok methodConfig =>
      let (states, error) :=
        weightedClusterStates route action (rangeEnd + cluster.weight) clusters
      (⟨rangeEnd + cluster.weight, cluster.name, methodConfig⟩ :: states, error)

/-- The loop of the constructor over the routes, with `*error`: a single cluster sets it, and a
weighted cluster that fails ends the loop. -/
def addRoutes (selector : XdsConfigSelector Matchers FilterConfig ServiceConfig) :
    Option String → List (Route Matchers FilterConfig) →
      XdsConfigSelector Matchers FilterConfig ServiceConfig × Option String
  | error, [] => (selector, error)
  | error, route :: routes =>
    let route := route.withTimeout environment
    let entry : RouteEntry Matchers FilterConfig ServiceConfig := ⟨route, none, []⟩
    match route.action with
    | .route action =>
      if action.weightedClusters = [] then
        let created := createMethodConfig environment route action none
        addRoutes
          { routeTable := selector.routeTable ++
              [{ entry with methodConfig := created.toOption.join }]
            clusters := selector.clusters.insert action.clusterName }
          (match created with | .error error => some error | .ok _ => none) routes
      else
        let (states, failed) :=
          weightedClusterStates environment route action 0 action.weightedClusters
        let selector : XdsConfigSelector Matchers FilterConfig ServiceConfig :=
          { routeTable := selector.routeTable ++ [{ entry with weightedClusterState := states }]
            clusters := states.foldl (fun clusters state => clusters.insert state.cluster)
              selector.clusters }
        if failed.isSome then (selector, failed) else addRoutes selector none routes
    | _ => addRoutes { selector with routeTable := selector.routeTable ++ [entry] } error routes

/-- The constructor, with the error it reports. -/
def xdsConfigSelector (routes : List (Route Matchers FilterConfig)) :
    XdsConfigSelector Matchers FilterConfig ServiceConfig × Option String :=
  addRoutes environment ⟨[], []⟩ none routes

inductive Generated (Matchers FilterConfig ServiceConfig : Type) where
  | nothing
  | error (error : String)
  | result (selector : XdsConfigSelector Matchers FilterConfig ServiceConfig)
      (serviceConfig : ServiceConfig)

/-- `GenerateResult`, with what `CreateServiceConfig` makes of the clusters. -/
def generateResult (createServiceConfig : List String → Except String ServiceConfig)
    (routes : List (Route Matchers FilterConfig)) :
    Generated Matchers FilterConfig ServiceConfig :=
  if routes = [] then .nothing
  else
    match xdsConfigSelector environment routes with
    | (_, some error) => .error error
    | (selector, none) =>
      match createServiceConfig selector.clusters with
      | .error error => .error error
      | .ok serviceConfig => .result selector serviceConfig

end Constructor

/-! ### Errors of the constructor -/

section Errors

variable (environment : Environment FilterConfig Args ServiceConfig)

/-- The route forwards to a single cluster, and its method config fails. -/
def SingleFails (route : Route Matchers FilterConfig) : Prop :=
  ∃ action, (route.withTimeout environment).action = .route action ∧ action.weightedClusters = [] ∧
    ∃ error, createMethodConfig environment (route.withTimeout environment) action none =
      .error error

/-- The method config of one of the weighted clusters of the route fails. -/
def WeightedFails (route : Route Matchers FilterConfig) : Prop :=
  ∃ action, (route.withTimeout environment).action = .route action ∧
    ∃ cluster ∈ action.weightedClusters, ∃ error,
      createMethodConfig environment (route.withTimeout environment) action (some cluster) =
        .error error

/-- The method config of a route or of a weighted cluster fails. -/
def SomeFails (routes : List (Route Matchers FilterConfig)) : Prop :=
  ∃ route ∈ routes, SingleFails environment route ∨ WeightedFails environment route

def Route.forwards (route : Route Matchers FilterConfig) : Bool :=
  match route.action with
  | .route _ => true
  | _ => false

/-- The last route that forwards fails with a single cluster. -/
def LastFails (routes : List (Route Matchers FilterConfig)) : Prop :=
  ∃ route, (routes.filter Route.forwards).getLast? = some route ∧ SingleFails environment route

variable {environment}

theorem weightedClusterStates_isSome (route : Route Matchers FilterConfig)
    (action : RouteAction FilterConfig) (rangeEnd : UInt32)
    (clusters : List (ClusterWeight (TypedPerFilterConfig FilterConfig))) :
    (weightedClusterStates environment route action rangeEnd clusters).2.isSome ↔
      ∃ cluster ∈ clusters, ∃ error,
        createMethodConfig environment route action (some cluster) = .error error := by
  induction clusters generalizing rangeEnd with
  | nil => simp [weightedClusterStates]
  | cons cluster clusters ih =>
    rw [weightedClusterStates, List.exists_mem_cons_iff,
      ← ih (rangeEnd + cluster.weight)]
    cases created : createMethodConfig environment route action (some cluster) with
    | error error => exact iff_of_true rfl (.inl ⟨error, rfl⟩)
    | ok => exact (or_iff_right fun ⟨_, failed⟩ => nomatch failed).symm

variable (environment) in
theorem exists_action {route : Route Matchers FilterConfig} (forwards : route.forwards = true) :
    ∃ action, (route.withTimeout environment).action = .route action := by
  unfold Route.forwards at forwards
  unfold Route.withTimeout
  split at forwards
  · exact ⟨_, rfl⟩
  · cases forwards

variable (environment) in
theorem withTimeout_of_not_forwards {route : Route Matchers FilterConfig}
    (stays : route.forwards = false) (action : RouteAction FilterConfig) :
    (route.withTimeout environment).action ≠ .route action := by
  intro acts
  unfold Route.forwards at stays
  unfold Route.withTimeout at acts
  split at stays
  · cases stays
  · next other =>
      cases held : route.action with
      | route held' => exact other held' held
      | unknown => rw [held] at acts; simp [held] at acts
      | nonForwarding => rw [held] at acts; simp [held] at acts

theorem lastFails_cons (route : Route Matchers FilterConfig)
    (routes : List (Route Matchers FilterConfig)) :
    LastFails environment (route :: routes) ↔ LastFails environment routes ∨
      SingleFails environment route ∧ ∀ later ∈ routes, later.forwards = false := by
  cases forwards : route.forwards with
  | false =>
    have passes : ¬SingleFails environment route :=
      fun ⟨action, acts, _⟩ => withTimeout_of_not_forwards environment forwards action acts
    unfold LastFails
    rw [List.filter_cons_of_neg (by rw [forwards]; exact Bool.false_ne_true)]
    exact (or_iff_left fun fails => passes fails.1).symm
  | true =>
    unfold LastFails
    rw [List.filter_cons_of_pos forwards, List.getLast?_cons]
    cases last : (routes.filter Route.forwards).getLast? with
    | none =>
      have stay : ∀ later ∈ routes, later.forwards = false := by
        simpa using List.getLast?_eq_none_iff.mp last
      simpa using fun _ => stay
    | some final =>
      have within := List.mem_filter.mp (List.mem_of_getLast? last)
      exact (or_iff_left fun alone =>
        Bool.false_ne_true ((alone.2 final within.1).symm.trans within.2)).symm

/-- The loop ends with an error when it had one and no route forwards, when the last route that
forwards fails, and when a weighted cluster fails. -/
theorem addRoutes_isSome (selector : XdsConfigSelector Matchers FilterConfig ServiceConfig)
    (error : Option String) (routes : List (Route Matchers FilterConfig)) :
    (addRoutes environment selector error routes).2.isSome ↔
      (∃ route ∈ routes, WeightedFails environment route) ∨ LastFails environment routes ∨
        error.isSome ∧ ∀ route ∈ routes, route.forwards = false := by
  induction routes generalizing selector error with
  | nil => simp [addRoutes, LastFails]
  | cons route routes ih =>
    rw [lastFails_cons, List.exists_mem_cons_iff, List.forall_mem_cons]
    cases forwards : route.forwards with
    | false =>
      have other := withTimeout_of_not_forwards environment forwards
      have single : ¬SingleFails environment route := fun ⟨action, acts, _⟩ => other action acts
      have weighted : ¬WeightedFails environment route :=
        fun ⟨action, acts, _⟩ => other action acts
      simp only [single, weighted, false_and, false_or, or_false, true_and]
      cases acts : (route.withTimeout environment).action with
      | route action => exact absurd acts (other action)
      | unknown | nonForwarding =>
        simp only [addRoutes, acts]
        exact ih _ _
    | true =>
      obtain ⟨action, acts⟩ := exists_action environment forwards
      simp only [addRoutes, acts, Bool.true_eq_false, false_and, and_false, or_false]
      split
      · next alone =>
          have weighted : ¬WeightedFails environment route := by
            rintro ⟨other, acts', cluster, listed, _⟩
            cases acts.symm.trans acts'
            rw [alone] at listed
            cases listed
          have fails : SingleFails environment route ↔ ∃ error, createMethodConfig environment
              (route.withTimeout environment) action none = .error error := by
            constructor
            · rintro ⟨other, acts', _, fails⟩
              cases acts.symm.trans acts'
              exact fails
            · exact fun fails => ⟨action, acts, alone, fails⟩
          rw [ih, fails]
          simp only [weighted, false_or]
          cases createMethodConfig environment (route.withTimeout environment) action none with
          | error => simp
          | ok => simp
      · next several =>
          have single : ¬SingleFails environment route := by
            rintro ⟨other, acts', alone, _⟩
            cases acts.symm.trans acts'
            exact several alone
          have fails : WeightedFails environment route ↔ (weightedClusterStates environment
              (route.withTimeout environment) action 0 action.weightedClusters).2.isSome := by
            rw [weightedClusterStates_isSome]
            constructor
            · rintro ⟨other, acts', fails⟩
              cases acts.symm.trans acts'
              exact fails
            · exact fun fails => ⟨action, acts, fails⟩
          simp only [fails, single, false_and, or_false]
          split
          · next failed => exact iff_of_true failed (.inl (.inl failed))
          · next passed =>
              rw [ih]
              simp [passed]

/-- An error is reported exactly when the method config of a route or of a weighted cluster
fails, and no result has a route whose method config has failed. -/
def Reports (environment : Environment FilterConfig Args ServiceConfig)
    (createServiceConfig : List String → Except String ServiceConfig)
    (routes : List (Route Matchers FilterConfig)) : Prop :=
  ((xdsConfigSelector environment routes).2.isSome ↔ SomeFails environment routes) ∧
    ∀ selector serviceConfig, generateResult environment createServiceConfig routes =
      .result selector serviceConfig → ¬SomeFails environment routes

theorem xdsConfigSelector_isSome (routes : List (Route Matchers FilterConfig)) :
    (xdsConfigSelector environment routes).2.isSome ↔
      (∃ route ∈ routes, WeightedFails environment route) ∨ LastFails environment routes := by
  rw [xdsConfigSelector, addRoutes_isSome]
  simp

/-- A failure is reported when a weighted cluster fails or the last route that forwards does. -/
theorem reports_iff (environment : Environment FilterConfig Args ServiceConfig)
    (createServiceConfig : List String → Except String ServiceConfig)
    (routes : List (Route Matchers FilterConfig)) :
    Reports environment createServiceConfig routes ↔
      (SomeFails environment routes →
        (∃ route ∈ routes, WeightedFails environment route) ∨ LastFails environment routes) := by
  rw [← xdsConfigSelector_isSome]
  have sound : (xdsConfigSelector environment routes).2.isSome → SomeFails environment routes := by
    rw [xdsConfigSelector_isSome]
    rintro (⟨route, listed, fails⟩ | ⟨route, last, fails⟩)
    · exact ⟨route, listed, .inr fails⟩
    · exact ⟨route, (List.mem_filter.mp (List.mem_of_getLast? last)).1, .inl fails⟩
  constructor
  · exact fun reports => reports.1.mpr
  · intro seen
    refine ⟨⟨sound, seen⟩, fun selector serviceConfig generated fails => ?_⟩
    have error := seen fails
    unfold generateResult at generated
    split at generated
    · cases generated
    · split at generated
      · cases generated
      · next built =>
          rw [built] at error
          cases error

/-- A route whose retry policy allows `UINT32_MAX` retries, which are printed as 0 attempts. -/
def broken : RouteAction Unit where
  hashPolicies := []
  retryPolicy := some ⟨[.unavailable], 4294967295, ⟨0, 25000000⟩, ⟨0, 250000000⟩⟩
  clusterName := "broken"
  weightedClusters := []
  maxStreamDuration := none

def refusing : Environment Unit Unit Unit where
  args := ()
  httpFilters := []
  httpMaxStreamDuration := ⟨0, 0⟩
  getFilterForType _ := ⟨false, id, fun _ _ => .error ""⟩
  vhostTypedPerFilterConfig := []
  createServiceConfig _ _ := .error "field:maxAttempts error:should be at least 2"

/-- The error of the broken route is overwritten by the route behind it. -/
theorem broken_unreported : ¬Reports refusing (fun _ => .ok ())
    [⟨(), .route broken, []⟩, ⟨(), .route { broken with retryPolicy := none }, []⟩] := by
  intro reports
  have fails : SomeFails refusing
      [⟨(), .route broken, []⟩, ⟨(), .route { broken with retryPolicy := none }, []⟩] :=
    ⟨_, List.mem_cons_self, .inl ⟨_, rfl, rfl, _, rfl⟩⟩
  have reported := reports.1.mpr fails
  simp [xdsConfigSelector, addRoutes, Route.withTimeout, broken, createMethodConfig, filterElements,
    perFilterFields, timeoutField, refusing] at reported

end Errors

end GrpcCore.Xds.Resolver
