import GrpcCore.Lib.RangeSearch

/-!
# Weighted clusters

The weighted clusters of a route: how `RouteActionParse` accepts them, the ranges that
`XdsConfigSelector` makes of them, and the choice of a cluster by `GetCallConfig`. Both
sums of weights are in 32 bits.
-/

namespace GrpcCore.Xds

open RangeSearch

universe u v
variable {Raw : Type u} {Filters : Type v}

/-- `envoy.config.route.v3.WeightedCluster.ClusterWeight`. -/
structure ClusterWeightProto (Raw : Type u) where
  name : String
  weight : Option UInt32
  typedPerFilterConfig : Raw

/-- `envoy.config.route.v3.WeightedCluster`. -/
structure WeightedClusterProto (Raw : Type u) where
  totalWeight : Option UInt32
  clusters : List (ClusterWeightProto Raw)

/-- The cluster specifier of `envoy.config.route.v3.RouteAction`. -/
inductive ClusterSpecifier (Raw : Type u) where
  | cluster (name : String)
  | weightedClusters (weightedCluster : WeightedClusterProto Raw)
  | other

/-- `XdsApi::Route::RouteAction::ClusterWeight`. -/
structure ClusterWeight (Filters : Type v) where
  name : String
  weight : UInt32
  typedPerFilterConfig : Option Filters
deriving DecidableEq

structure RouteAction (Filters : Type v) where
  clusterName : String := ""
  weightedClusters : List (ClusterWeight Filters) := []

/-- The loop over the clusters, with `sum_of_weights`. -/
def clusterWeightsParse (useV3 : Bool) (parseFilters : Raw → Except String Filters) :
    UInt32 → List (ClusterWeightProto Raw) →
      Except String (UInt32 × List (ClusterWeight Filters))
  | sumOfWeights, [] => .ok (sumOfWeights, [])
  | sumOfWeights, cluster :: clusters =>
    if cluster.name = "" then
      .error "RouteAction weighted_cluster cluster contains empty cluster name."
    else
      match cluster.weight with
      | none => .error "RouteAction weighted_cluster cluster missing weight"
      | some weight =>
        if weight = 0 then clusterWeightsParse useV3 parseFilters sumOfWeights clusters
        else
          match if useV3 then (parseFilters cluster.typedPerFilterConfig).map some
            else .ok none with
          | .error error => .error error
          | .ok filters =>
            match clusterWeightsParse useV3 parseFilters (sumOfWeights + weight) clusters with
            | .error error => .error error
            | .ok (sumOfWeights, rest) =>
              .ok (sumOfWeights, ⟨cluster.name, weight, filters⟩ :: rest)

/-- `RouteActionParse` up to the choice of clusters; null when the route is ignored. -/
def routeActionParse (useV3 : Bool) (parseFilters : Raw → Except String Filters) :
    ClusterSpecifier Raw → Except String (Option (RouteAction Filters))
  | .cluster name =>
    if name = "" then .error "RouteAction cluster contains empty cluster name."
    else .ok (some { clusterName := name })
  | .weightedClusters weightedCluster =>
    match clusterWeightsParse useV3 parseFilters 0 weightedCluster.clusters with
    | .error error => .error error
    | .ok (sumOfWeights, clusters) =>
      if weightedCluster.totalWeight.getD 100 ≠ sumOfWeights then
        .error "RouteAction weighted_cluster has incorrect total weight"
      else if clusters = [] then
        .error "RouteAction weighted_cluster has no valid clusters specified."
      else .ok (some { weightedClusters := clusters })
  | .other => .ok none

/-- `ClusterWeightState`. -/
structure ClusterWeightState where
  rangeEnd : UInt32
  cluster : String

/-- The loop of `XdsConfigSelector` over the weighted clusters, with `end`. -/
def clusterWeightStates : UInt32 → List (ClusterWeight Filters) → List ClusterWeightState
  | _, [] => []
  | rangeEnd, cluster :: clusters =>
    ⟨rangeEnd + cluster.weight, cluster.name⟩ ::
      clusterWeightStates (rangeEnd + cluster.weight) clusters

/-- The choice among weighted clusters by `GetCallConfig`. It fails where the code
divides by zero, reads outside of the ranges or fails its assertion. -/
def chooseCluster (states : List ClusterWeightState) (random : Nat) : Option Nat :=
  match states[states.length - 1]? with
  | none => none
  | some last =>
    if last.rangeEnd = 0 then none
    else
      let key := random % last.rangeEnd.toNat
      (RangeSearch.find (states.map fun state => state.rangeEnd.toNat) key states.length 0
        (states.length - 1)).bind fun index =>
          match states[index]? with
          | none => none
          | some state => if state.rangeEnd.toNat > key then some index else none

def RouteAction.weights (route : RouteAction Filters) : List Nat :=
  route.weightedClusters.map fun cluster => cluster.weight.toNat

def RouteAction.states (route : RouteAction Filters) : List ClusterWeightState :=
  clusterWeightStates 0 route.weightedClusters

/-- The number of keys: the end of the last range. -/
def RouteAction.total (route : RouteAction Filters) : Nat :=
  (route.states.getLast?.map fun state => state.rangeEnd.toNat).getD 0

/-- A cluster can be chosen with every draw, it is the one whose range contains the
key, and every cluster has as many keys as its weight. -/
structure RouteAction.Servable (route : RouteAction Filters) : Prop where
  positive : 0 < route.total
  chosen : ∀ random, ∃ index, chooseCluster route.states random = some index ∧
    RangeSearch.Contains route.weights index (random % route.total)
  share : ∀ index weight, route.weights[index]? = some weight →
    ((Finset.range route.total).filter fun key =>
      chooseCluster route.states key = some index).card = weight

/-- The configured weights as mathematical integers, summed. -/
def WeightedClusterProto.sumOfWeights (weightedCluster : WeightedClusterProto Raw) : Nat :=
  (weightedCluster.clusters.map fun cluster => (cluster.weight.getD 0).toNat).sum

/-! ### What is accepted -/

theorem clusterWeightsParse_spec {useV3 : Bool} {parseFilters : Raw → Except String Filters}
    {sumOfWeights total : UInt32} {clusters : List (ClusterWeightProto Raw)}
    {parsed : List (ClusterWeight Filters)}
    (accepted : clusterWeightsParse useV3 parseFilters sumOfWeights clusters =
      .ok (total, parsed)) :
    (∀ cluster ∈ parsed, cluster.weight ≠ 0) ∧
      (parsed.map fun cluster => cluster.weight.toNat).sum =
        (clusters.map fun cluster => (cluster.weight.getD 0).toNat).sum := by
  induction clusters generalizing sumOfWeights total parsed with
  | nil =>
    cases accepted
    exact ⟨nofun, rfl⟩
  | cons cluster clusters ih =>
    unfold clusterWeightsParse at accepted
    split at accepted
    · cases accepted
    · split at accepted
      · cases accepted
      · rename_i weight present
        split at accepted
        · rename_i zero
          obtain ⟨positive, sum⟩ := ih accepted
          refine ⟨positive, ?_⟩
          rw [sum, List.map_cons, List.sum_cons, present, zero]
          exact (Nat.zero_add _).symm
        · rename_i nonzero
          split at accepted
          · cases accepted
          · split at accepted
            · cases accepted
            · rename_i rest parsedRest
              cases accepted
              obtain ⟨positive, sum⟩ := ih parsedRest
              refine ⟨List.forall_mem_cons.mpr ⟨nonzero, positive⟩, ?_⟩
              rw [List.map_cons, List.sum_cons, sum, List.map_cons, List.sum_cons, present]
              rfl

theorem routeActionParse_weighted {useV3 : Bool} {parseFilters : Raw → Except String Filters}
    {weightedCluster : WeightedClusterProto Raw} {route : RouteAction Filters}
    (accepted : routeActionParse useV3 parseFilters (.weightedClusters weightedCluster) =
      .ok (some route)) :
    (∀ weight ∈ route.weights, 0 < weight) ∧ route.weights ≠ [] ∧
      route.weights.sum = weightedCluster.sumOfWeights := by
  simp only [routeActionParse] at accepted
  split at accepted
  · cases accepted
  · rename_i sumOfWeights clusters parsed
    split at accepted
    · cases accepted
    · split at accepted
      · cases accepted
      · rename_i nonempty
        cases accepted
        obtain ⟨positive, sum⟩ := clusterWeightsParse_spec parsed
        refine ⟨List.forall_mem_map.mpr fun cluster member => ?_, ?_, sum⟩
        · exact Nat.pos_of_ne_zero fun zero =>
            positive cluster member (UInt32.toNat_inj.mp zero)
        · exact fun none_ => nonempty (List.map_eq_nil_iff.mp none_)

/-! ### The ranges -/

theorem length_clusterWeightStates (rangeEnd : UInt32) (clusters : List (ClusterWeight Filters)) :
    (clusterWeightStates rangeEnd clusters).length = clusters.length := by
  induction clusters generalizing rangeEnd with
  | nil => rfl
  | cons cluster clusters ih => exact congrArg Nat.succ (ih _)

theorem rangeEnd_clusterWeightStates (rangeEnd : UInt32) (clusters : List (ClusterWeight Filters))
    (fits : rangeEnd.toNat + (clusters.map fun cluster => cluster.weight.toNat).sum < 2 ^ 32)
    {index : Nat} (inside : index < clusters.length) :
    ((clusterWeightStates rangeEnd clusters)[index]?.map fun state => state.rangeEnd.toNat) =
      some (rangeEnd.toNat +
        cumulative (clusters.map fun cluster => cluster.weight.toNat) (index + 1)) := by
  induction clusters generalizing rangeEnd index with
  | nil => cases inside
  | cons cluster clusters ih =>
    rw [List.map_cons, List.sum_cons] at fits
    have next : (rangeEnd + cluster.weight).toNat = rangeEnd.toNat + cluster.weight.toNat := by
      rw [UInt32.toNat_add, Nat.mod_eq_of_lt (by omega)]
    cases index with
    | zero => simp [clusterWeightStates, next, cumulative]
    | succ index =>
      have rest := ih (rangeEnd + cluster.weight) (by omega) (Nat.lt_of_succ_lt_succ inside)
      rw [next] at rest
      simpa [clusterWeightStates, cumulative, Nat.add_assoc] using rest

namespace RouteAction

variable {route : RouteAction Filters}

theorem length_states : route.states.length = route.weights.length := by
  rw [states, length_clusterWeightStates, weights, List.length_map]

theorem ends_states (fits : route.weights.sum < 2 ^ 32) {index : Nat}
    (inside : index < route.weights.length) :
    (route.states.map fun state => state.rangeEnd.toNat)[index]? =
      some (cumulative route.weights (index + 1)) := by
  have ends := rangeEnd_clusterWeightStates 0 route.weightedClusters
    (by simpa [weights] using fits) (by simpa [weights] using inside : index < _)
  simpa [states, weights] using ends

theorem total_eq_sum (fits : route.weights.sum < 2 ^ 32) (nonempty : route.weights ≠ []) :
    route.total = route.weights.sum := by
  have positive : 0 < route.weights.length := List.length_pos_of_ne_nil nonempty
  have last := ends_states fits (Nat.sub_lt positive Nat.one_pos)
  rw [Nat.sub_add_cancel positive, cumulative_length, List.getElem?_map] at last
  rw [total, List.getLast?_eq_getElem?, length_states, last]
  rfl

theorem total_lt : route.total < 2 ^ 32 := by
  unfold total
  cases route.states.getLast? with
  | none => decide
  | some state => exact state.rangeEnd.toNat_lt

section

variable (fits : route.weights.sum < 2 ^ 32) (positive : ∀ weight ∈ route.weights, 0 < weight)
  (nonempty : route.weights ≠ [])
include fits positive nonempty

theorem chooseCluster_spec (random : Nat) :
    ∃ index, chooseCluster route.states random = some index ∧
      RangeSearch.Contains route.weights index (random % route.total) := by
  have length : 0 < route.weights.length := List.length_pos_of_ne_nil nonempty
  have total := total_eq_sum fits nonempty
  have totalPositive : 0 < route.total := by
    rw [total]
    exact List.sum_pos _ positive nonempty
  have inside : route.states.length - 1 < route.states.length := by
    rw [length_states]
    exact Nat.sub_lt length Nat.one_pos
  obtain ⟨last, there⟩ : ∃ last, route.states[route.states.length - 1]? = some last :=
    ⟨_, List.getElem?_eq_getElem inside⟩
  have end_ : last.rangeEnd.toNat = route.total := by
    rw [RouteAction.total, List.getLast?_eq_getElem?, there]
    rfl
  have nonzero : last.rangeEnd ≠ 0 := by
    intro zero
    rw [zero] at end_
    exact totalPositive.ne end_
  have below : random % route.total < route.total := Nat.mod_lt _ totalPositive
  have above : random % route.total < cumulative route.weights (route.states.length - 1 + 1) := by
    rw [Nat.sub_add_cancel (Nat.zero_lt_of_lt inside), length_states, cumulative_length, ← total]
    exact below
  obtain ⟨index, within, found, contains⟩ :
      ∃ index < route.weights.length,
        find (route.states.map fun state => state.rangeEnd.toNat)
          (random % route.total) route.states.length 0 (route.states.length - 1) = some index ∧
          RangeSearch.Contains route.weights index (random % route.total) :=
    find_spec (fun i => ends_states fits) positive (by omega) (Nat.zero_le _)
      (length_states ▸ inside) (Nat.zero_le _) above
  have ends := ends_states fits within
  rw [List.getElem?_map] at ends
  obtain ⟨state, at_, stateEnd⟩ := Option.map_eq_some_iff.mp ends
  refine ⟨index, ?_, contains⟩
  simp only [chooseCluster, there, if_neg nonzero, end_, found, Option.bind_some, at_, stateEnd,
    if_pos contains.2]

theorem servable_of_fits : route.Servable := by
  have chosen := chooseCluster_spec fits positive nonempty
  have total := total_eq_sum fits nonempty
  refine ⟨?_, chosen, fun index weight there => ?_⟩
  · rw [total]
    exact List.sum_pos _ positive nonempty
  · refine card_keys there ?_ fun key below => ?_
    · rw [total, ← cumulative_length]
      exact cumulative_mono (List.getElem?_eq_some_iff.mp there).1
    · have picked := chosen key
      rwa [Nat.mod_eq_of_lt below] at picked

end

theorem Servable.fits (servable : route.Servable)
    (positive : ∀ weight ∈ route.weights, 0 < weight) (nonempty : route.weights ≠ []) :
    route.weights.sum < 2 ^ 32 := by
  have length : 0 < route.weights.length := List.length_pos_of_ne_nil nonempty
  have inside : route.weights.length - 1 < route.weights.length := Nat.sub_lt length Nat.one_pos
  have there := List.getElem?_eq_getElem inside
  have share := servable.share _ _ there
  have sum := cumulative_succ there
  rw [Nat.sub_add_cancel length, cumulative_length] at sum
  have starts {key : Nat} (below : key < route.total)
      (picked : chooseCluster route.states key = some (route.weights.length - 1)) :
      cumulative route.weights (route.weights.length - 1) ≤ key := by
    obtain ⟨index, picked', contains⟩ := servable.chosen key
    obtain rfl := Option.mem_unique picked picked'
    rw [Nat.mod_eq_of_lt below] at contains
    exact contains.1
  have keys : (Finset.range route.total).filter (fun key =>
        chooseCluster route.states key = some (route.weights.length - 1)) ⊆
      Finset.Ico (cumulative route.weights (route.weights.length - 1)) route.total := by
    intro key member
    obtain ⟨below, picked⟩ := Finset.mem_filter.mp member
    rw [Finset.mem_range] at below
    exact Finset.mem_Ico.mpr ⟨starts below picked, below⟩
  have few := Finset.card_le_card keys
  rw [share, Nat.card_Ico] at few
  have some_ := positive _ (List.getElem_mem inside)
  have bound : route.total < 2 ^ 32 := total_lt
  omega

end RouteAction

/-- Weighted clusters that were accepted are always servable exactly if their weights
do not add up to `2 ^ 32` or more. -/
theorem servable_iff (useV3 : Bool) (parseFilters : Raw → Except String Filters)
    (weightedCluster : WeightedClusterProto Raw) (route : RouteAction Filters)
    (accepted : routeActionParse useV3 parseFilters (.weightedClusters weightedCluster) =
      .ok (some route)) :
    route.Servable ↔ weightedCluster.sumOfWeights < 2 ^ 32 := by
  obtain ⟨positive, nonempty, sum⟩ := routeActionParse_weighted accepted
  rw [← sum]
  exact ⟨fun servable => servable.fits positive nonempty,
    fun fits => RouteAction.servable_of_fits fits positive nonempty⟩

/-- Two clusters whose weights add up to `2 ^ 32`, with a total weight of zero. -/
def wrappingClusters : WeightedClusterProto Unit where
  totalWeight := some 0
  clusters := [⟨"a", some 2147483648, ()⟩, ⟨"b", some 2147483648, ()⟩]

def wrappingRoute : RouteAction Unit where
  weightedClusters := [⟨"a", 2147483648, some ()⟩, ⟨"b", 2147483648, some ()⟩]

/-- The route is accepted, and choosing a cluster divides by zero. -/
theorem wrappingRoute_divides_by_zero :
    routeActionParse true .ok (.weightedClusters wrappingClusters) = .ok (some wrappingRoute) ∧
      wrappingRoute.total = 0 ∧ ¬wrappingRoute.Servable := by
  have total : wrappingRoute.total = 0 := by decide
  exact ⟨rfl, total, fun servable => servable.positive.ne total.symm⟩

theorem servable_iff_wrappingClusters :
    wrappingRoute.Servable ↔ wrappingClusters.sumOfWeights < 2 ^ 32 :=
  servable_iff true .ok wrappingClusters wrappingRoute rfl

end GrpcCore.Xds
