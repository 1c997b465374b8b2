import GrpcCore.Lib.OrderedMap
import GrpcCore.Lib.SlotPool

/-!
# Load reports

The load report map of `XdsClient`, the stats objects that count for its entries and
the snapshots that are built from them. Objects are named by their position in the list
of all that have been made.
-/

namespace GrpcCore.Xds

open SlotPool

variable {Cluster Service Category Locality : Type}

section CategorizedDrops

variable [DecidableEq Category]

/-- `categorized_drops[category] += amount`. -/
def increase (category : Category) (amount : UInt64) :
    List (Category × UInt64) → List (Category × UInt64)
  | [] => [(category, amount)]
  | (head, value) :: rest =>
    if category = head then (head, value + amount) :: rest
    else (head, value) :: increase category amount rest

theorem keys_increase (category : Category) (amount : UInt64) (drops : List (Category × UInt64)) :
    (increase category amount drops).map Prod.fst =
      if category ∈ drops.map Prod.fst then drops.map Prod.fst
      else drops.map Prod.fst ++ [category] := by
  induction drops with
  | nil => simp [increase]
  | cons entry rest ih =>
    obtain ⟨head, value⟩ := entry
    unfold increase
    by_cases here : category = head
    · simp [here]
    · rw [if_neg here, List.map_cons, ih]
      simp only [List.map_cons, List.mem_cons, here, false_or]
      split
      · rfl
      · rfl

theorem lookup_increase (category other : Category) (amount : UInt64)
    (drops : List (Category × UInt64)) :
    ((increase category amount drops).lookup other).getD 0 =
      (drops.lookup other).getD 0 + if other = category then amount else 0 := by
  induction drops with
  | nil =>
    by_cases same : other = category
    · simp [increase, same]
    · simp [increase, List.lookup_cons, beq_eq_false_iff_ne.mpr same, same]
  | cons entry rest ih =>
    obtain ⟨head, value⟩ := entry
    unfold increase
    by_cases here : category = head
    · subst here
      by_cases same : other = category
      · simp [same]
      · simp [List.lookup_cons, beq_eq_false_iff_ne.mpr same, same]
    · rw [if_neg here]
      by_cases same : other = head
      · subst same
        simp [Ne.symm here]
      · simpa [List.lookup_cons, beq_eq_false_iff_ne.mpr same] using ih

/-- `XdsClusterDropStats::CategorizedDropsMap`. -/
structure CategorizedDrops (Category : Type) where
  entries : List (Category × UInt64)
  distinct : (entries.map Prod.fst).Nodup
deriving DecidableEq

namespace CategorizedDrops

def empty : CategorizedDrops Category := ⟨[], List.nodup_nil⟩

def value (drops : CategorizedDrops Category) (category : Category) : UInt64 :=
  (drops.entries.lookup category).getD 0

def add (drops : CategorizedDrops Category) (category : Category) (amount : UInt64) :
    CategorizedDrops Category where
  entries := increase category amount drops.entries
  distinct := by
    rw [keys_increase]
    split
    · exact drops.distinct
    · rename_i fresh
      exact List.nodup_append.mpr ⟨drops.distinct, List.nodup_singleton _,
        fun _ member _ single same => fresh (List.mem_singleton.mp single ▸ same ▸ member)⟩

/-- The loop of `Snapshot::operator+=` over the categories of the other snapshot. -/
def addAll (drops : CategorizedDrops Category) (others : List (Category × UInt64)) :
    CategorizedDrops Category :=
  others.foldl (fun drops entry => drops.add entry.1 entry.2) drops

@[simp]
theorem value_empty (category : Category) : empty.value category = 0 := rfl

theorem value_add (drops : CategorizedDrops Category) (category other : Category)
    (amount : UInt64) :
    (drops.add category amount).value other =
      drops.value other + if other = category then amount else 0 :=
  lookup_increase category other amount drops.entries

theorem value_addAll (drops : CategorizedDrops Category) {others : List (Category × UInt64)}
    (distinct : (others.map Prod.fst).Nodup) (category : Category) :
    (drops.addAll others).value category =
      drops.value category + (others.lookup category).getD 0 := by
  induction others generalizing drops with
  | nil => simp [addAll]
  | cons entry rest ih =>
    obtain ⟨head, amount⟩ := entry
    rw [List.map_cons, List.nodup_cons] at distinct
    have step : (drops.addAll ((head, amount) :: rest)).value category =
        ((drops.add head amount).addAll rest).value category := rfl
    rw [step, ih (drops.add head amount) distinct.2, value_add]
    by_cases same : category = head
    · subst same
      have absent : rest.lookup category = none := by
        cases found : rest.lookup category with
        | none => rfl
        | some value =>
          obtain ⟨before, after, rfl, _⟩ := List.lookup_eq_some_iff.mp found
          simp at distinct
      simp [absent]
    · simp [same, List.lookup_cons, beq_eq_false_iff_ne.mpr same]

end CategorizedDrops

end CategorizedDrops

/-- `XdsClusterDropStats::Snapshot`. -/
structure DropSnapshot (Category : Type) where
  uncategorizedDrops : UInt64
  categorizedDrops : CategorizedDrops Category
deriving DecidableEq

/-- `XdsClusterLocalityStats::Snapshot`. -/
structure LocalitySnapshot where
  totalSuccessfulRequests : UInt64
  totalRequestsInProgress : UInt64
  totalErrorRequests : UInt64
  totalIssuedRequests : UInt64
deriving DecidableEq

/-- A move empties the map of categories and leaves the number as it is. -/
instance [DecidableEq Category] : Counting (DropSnapshot Category) where
  zero := ⟨0, .empty⟩
  add snapshot other :=
    ⟨snapshot.uncategorizedDrops + other.uncategorizedDrops,
      snapshot.categorizedDrops.addAll other.categorizedDrops.entries⟩
  reset _ := ⟨0, .empty⟩
  moved snapshot := ⟨snapshot.uncategorizedDrops, .empty⟩

/-- `GetSnapshotAndReset` does not reset the requests in progress. A move of four
numbers copies them. -/
instance : Counting LocalitySnapshot where
  zero := ⟨0, 0, 0, 0⟩
  add snapshot other :=
    ⟨snapshot.totalSuccessfulRequests + other.totalSuccessfulRequests,
      snapshot.totalRequestsInProgress + other.totalRequestsInProgress,
      snapshot.totalErrorRequests + other.totalErrorRequests,
      snapshot.totalIssuedRequests + other.totalIssuedRequests⟩
  reset snapshot := ⟨0, snapshot.totalRequestsInProgress, 0, 0⟩
  moved snapshot := snapshot

/-- `std::pair<std::string, std::string>`, compared by the cluster first. -/
structure ClusterKey (Cluster Service : Type) where
  clusterName : Cluster
  edsServiceName : Service
deriving DecidableEq

theorem ClusterKey.toLex_injective : Function.Injective fun key : ClusterKey Cluster Service =>
    toLex (key.clusterName, key.edsServiceName) := by
  rintro ⟨_, _⟩ ⟨_, _⟩ same
  simpa using same

instance [LinearOrder Cluster] [LinearOrder Service] : LinearOrder (ClusterKey Cluster Service) :=
  let lifted := LinearOrder.lift' _ (@ClusterKey.toLex_injective Cluster Service)
  { lifted with
    toDecidableEq := inferInstance
    compare_eq_compareOfLessAndEq := fun first second => by
      rw [lifted.compare_eq_compareOfLessAndEq]
      congr }

/-- `XdsClient::LoadReportState`. A slot is a stats object with the final snapshots of
those that have been deleted. -/
structure LoadReportState (Category Locality : Type) where
  dropStats : Slot (DropSnapshot Category)
  localityStats : List (Locality × Slot LocalitySnapshot)
  lastReportTime : Int

/-- `XdsApi::ClusterLoadReport`. -/
structure ClusterLoadReport (Category Locality : Type) where
  droppedRequests : DropSnapshot Category
  localityStats : List (Locality × LocalitySnapshot)
  loadReportInterval : Int

abbrev ClusterLoadReportMap (Cluster Service Category Locality : Type) :=
  List (ClusterKey Cluster Service × ClusterLoadReport Category Locality)

inductive StatsEvent (Cluster Service Category Locality : Type) where
  | uncategorizedDrop (key : ClusterKey Cluster Service)
  | callDropped (key : ClusterKey Cluster Service) (category : Category)
  | callStarted (key : ClusterKey Cluster Service) (locality : Locality)
  | callFinished (key : ClusterKey Cluster Service) (locality : Locality) (fail : Bool)
deriving DecidableEq

inductive LogEntry (Cluster Service Category Locality : Type) where
  | event (event : StatsEvent Cluster Service Category Locality)
  | report (snapshot : ClusterLoadReportMap Cluster Service Category Locality)

abbrev DropStats (Cluster Service Category : Type) :=
  Object (ClusterKey Cluster Service) (DropSnapshot Category)

abbrev LocalityStats (Cluster Service Locality : Type) :=
  Object (ClusterKey Cluster Service × Locality) LocalitySnapshot

/-- The load reports of `XdsClient`, with what has been recorded and reported, the
last first. -/
structure XdsClient (Cluster Service Category Locality : Type) where
  loadReportMap : List (ClusterKey Cluster Service × LoadReportState Category Locality)
  dropStats : List (DropStats Cluster Service Category)
  localityStats : List (LocalityStats Cluster Service Locality)
  log : List (LogEntry Cluster Service Category Locality)

def XdsClient.initial : XdsClient Cluster Service Category Locality := ⟨[], [], [], []⟩

section Client

variable [LinearOrder Cluster] [LinearOrder Service] [DecidableEq Category] [LinearOrder Locality]

/-- `LoadReportState()` at a time. -/
def LoadReportState.initial (now : Int) : LoadReportState Category Locality := ⟨.empty, [], now⟩

namespace XdsClient

def addClusterDropStats (client : XdsClient Cluster Service Category Locality)
    (key : ClusterKey Cluster Service) (now : Int) : XdsClient Cluster Service Category Locality :=
  let loadReportMap := OrderedMap.emplace key (.initial now) client.loadReportMap
  match loadReportMap.lookup key with
  | none => client
  | some loadReportState =>
    let (slot, objects) := acquire key loadReportState.dropStats client.dropStats
    { client with
      loadReportMap := OrderedMap.modify key (fun state => { state with dropStats := slot })
        loadReportMap
      dropStats := objects }

def removeClusterDropStats (client : XdsClient Cluster Service Category Locality)
    (key : ClusterKey Cluster Service) (id : Nat) : XdsClient Cluster Service Category Locality :=
  match client.loadReportMap.lookup key with
  | none => client
  | some loadReportState =>
    let (slot, objects) := retire id loadReportState.dropStats client.dropStats
    { client with
      loadReportMap := OrderedMap.modify key (fun state => { state with dropStats := slot })
        client.loadReportMap
      dropStats := objects }

def addClusterLocalityStats (client : XdsClient Cluster Service Category Locality)
    (key : ClusterKey Cluster Service) (locality : Locality) (now : Int) :
    XdsClient Cluster Service Category Locality :=
  let loadReportMap := OrderedMap.emplace key (.initial now) client.loadReportMap
  match loadReportMap.lookup key with
  | none => client
  | some loadReportState =>
    let localities := OrderedMap.emplace locality .empty loadReportState.localityStats
    match localities.lookup locality with
    | none => client
    | some localityState =>
      let (slot, objects) := acquire (key, locality) localityState client.localityStats
      { client with
        loadReportMap := OrderedMap.modify key
          (fun state => { state with
            localityStats := OrderedMap.modify locality (fun _ => slot) localities })
          loadReportMap
        localityStats := objects }

def removeClusterLocalityStats (client : XdsClient Cluster Service Category Locality)
    (key : ClusterKey Cluster Service) (locality : Locality) (id : Nat) :
    XdsClient Cluster Service Category Locality :=
  match client.loadReportMap.lookup key with
  | none => client
  | some loadReportState =>
    match loadReportState.localityStats.lookup locality with
    | none => client
    | some localityState =>
      let (slot, objects) := retire id localityState client.localityStats
      { client with
        loadReportMap := OrderedMap.modify key
          (fun state => { state with
            localityStats := OrderedMap.modify locality (fun _ => slot) state.localityStats })
          client.loadReportMap
        localityStats := objects }

/-- The loop of `BuildLoadReportSnapshotLocked` over the localities of an entry: the
snapshots, the localities that stay and the objects. -/
def buildLocalities {Owner : Type} :
    List (Locality × Slot LocalitySnapshot) → List (Object Owner LocalitySnapshot) →
      List (Locality × LocalitySnapshot) × List (Locality × Slot LocalitySnapshot) ×
        List (Object Owner LocalitySnapshot)
  | [], objects => ([], [], objects)
  | (locality, localityState) :: rest, objects =>
    let (snapshot, slot, objects) := take localityState objects
    let (snapshots, localities, objects) := buildLocalities rest objects
    ((locality, snapshot) :: snapshots,
      if slot.registered = none then localities else (locality, slot) :: localities, objects)

def buildEntries (recordStats : Cluster → Bool) (now : Int) :
    List (ClusterKey Cluster Service × LoadReportState Category Locality) →
      List (DropStats Cluster Service Category) → List (LocalityStats Cluster Service Locality) →
        ClusterLoadReportMap Cluster Service Category Locality ×
          List (ClusterKey Cluster Service × LoadReportState Category Locality) ×
            List (DropStats Cluster Service Category) ×
              List (LocalityStats Cluster Service Locality)
  | [], dropStats, localityStats => ([], [], dropStats, localityStats)
  | (key, loadReport) :: rest, dropStats, localityStats =>
    let (droppedRequests, slot, dropStats) := take loadReport.dropStats dropStats
    let (snapshots, localities, localityStats) :=
      buildLocalities loadReport.localityStats localityStats
    let snapshot := ⟨droppedRequests, snapshots, now - loadReport.lastReportTime⟩
    let (snapshotMap, loadReportMap, dropStats, localityStats) :=
      buildEntries recordStats now rest dropStats localityStats
    (if recordStats key.clusterName then (key, snapshot) :: snapshotMap else snapshotMap,
      if localities.isEmpty && slot.registered.isNone then loadReportMap
        else (key, ⟨slot, localities, now⟩) :: loadReportMap,
      dropStats, localityStats)

def buildLoadReportSnapshotLocked (client : XdsClient Cluster Service Category Locality)
    (sendAllClusters : Bool) (clusters : List Cluster) (now : Int) :
    ClusterLoadReportMap Cluster Service Category Locality ×
      XdsClient Cluster Service Category Locality :=
  let (snapshotMap, loadReportMap, dropStats, localityStats) :=
    buildEntries (fun cluster => sendAllClusters || clusters.contains cluster) now
      client.loadReportMap client.dropStats client.localityStats
  (snapshotMap, { client with loadReportMap, dropStats, localityStats })

end XdsClient

end Client

/-! ## Steps -/

def onLive {Owner Counters : Type} (objects : List (Object Owner Counters)) (id : Nat)
    (change : Object Owner Counters → Object Owner Counters) :
    Option (Owner × List (Object Owner Counters)) :=
  match objects[id]? with
  | none => none
  | some object =>
    if 0 < object.refs then some (object.owner, objects.set id (change object)) else none

/-- The destructor of an object without references starts once. -/
def onDead {Owner Counters : Type} (objects : List (Object Owner Counters)) (id : Nat) :
    Option (Owner × List (Object Owner Counters)) :=
  match objects[id]? with
  | none => none
  | some object =>
    if object.refs = 0 ∧ object.destroyed = false then
      some (object.owner, objects.set id { object with destroyed := true })
    else none

inductive Action (Cluster Service Category Locality : Type) where
  | addClusterDropStats (key : ClusterKey Cluster Service) (now : Int)
  | addClusterLocalityStats (key : ClusterKey Cluster Service) (locality : Locality) (now : Int)
  | refDropStats (id : Nat)
  | refLocalityStats (id : Nat)
  | unrefDropStats (id : Nat)
  | unrefLocalityStats (id : Nat)
  | destroyDropStats (id : Nat)
  | destroyLocalityStats (id : Nat)
  | addUncategorizedDrops (id : Nat)
  | addCallDropped (id : Nat) (category : Category)
  | addCallStarted (id : Nat)
  | addCallFinished (id : Nat) (fail : Bool)
  | buildLoadReportSnapshot (clusters : List Cluster) (now : Int)

def addUncategorizedDrops [DecidableEq Category] (snapshot : DropSnapshot Category) :
    DropSnapshot Category :=
  { snapshot with uncategorizedDrops := snapshot.uncategorizedDrops + 1 }

def addCallDropped [DecidableEq Category] (category : Category) (snapshot : DropSnapshot Category) :
    DropSnapshot Category :=
  { snapshot with categorizedDrops := snapshot.categorizedDrops.add category 1 }

def addCallStarted (snapshot : LocalitySnapshot) : LocalitySnapshot :=
  { snapshot with
    totalIssuedRequests := snapshot.totalIssuedRequests + 1
    totalRequestsInProgress := snapshot.totalRequestsInProgress + 1 }

def addCallFinished (fail : Bool) (snapshot : LocalitySnapshot) : LocalitySnapshot :=
  if fail then
    { snapshot with
      totalErrorRequests := snapshot.totalErrorRequests + 1
      totalRequestsInProgress := snapshot.totalRequestsInProgress - 1 }
  else
    { snapshot with
      totalSuccessfulRequests := snapshot.totalSuccessfulRequests + 1
      totalRequestsInProgress := snapshot.totalRequestsInProgress - 1 }

variable [LinearOrder Cluster] [LinearOrder Service] [DecidableEq Category] [LinearOrder Locality]

/-- One call on the client or on a stats object. Snapshots are built for all clusters. -/
def XdsClient.step (client : XdsClient Cluster Service Category Locality) :
    Action Cluster Service Category Locality → Option (XdsClient Cluster Service Category Locality)
  | .addClusterDropStats key now => some (client.addClusterDropStats key now)
  | .addClusterLocalityStats key locality now =>
    some (client.addClusterLocalityStats key locality now)
  | .refDropStats id => do
    let (_, dropStats) ← onLive client.dropStats id fun object =>
      { object with refs := object.refs + 1 }
    some { client with dropStats }
  | .refLocalityStats id => do
    let (_, localityStats) ← onLive client.localityStats id fun object =>
      { object with refs := object.refs + 1 }
    some { client with localityStats }
  | .unrefDropStats id => do
    let (_, dropStats) ← onLive client.dropStats id fun object =>
      { object with refs := object.refs - 1 }
    some { client with dropStats }
  | .unrefLocalityStats id => do
    let (_, localityStats) ← onLive client.localityStats id fun object =>
      { object with refs := object.refs - 1 }
    some { client with localityStats }
  | .destroyDropStats id => do
    let (key, dropStats) ← onDead client.dropStats id
    some ({ client with dropStats }.removeClusterDropStats key id)
  | .destroyLocalityStats id => do
    let ((key, locality), localityStats) ← onDead client.localityStats id
    some ({ client with localityStats }.removeClusterLocalityStats key locality id)
  | .addUncategorizedDrops id => do
    let (key, dropStats) ← onLive client.dropStats id fun object =>
      { object with counters := addUncategorizedDrops object.counters }
    some { client with dropStats, log := .event (.uncategorizedDrop key) :: client.log }
  | .addCallDropped id category => do
    let (key, dropStats) ← onLive client.dropStats id fun object =>
      { object with counters := addCallDropped category object.counters }
    some { client with dropStats, log := .event (.callDropped key category) :: client.log }
  | .addCallStarted id => do
    let ((key, locality), localityStats) ← onLive client.localityStats id fun object =>
      { object with counters := addCallStarted object.counters }
    some { client with localityStats, log := .event (.callStarted key locality) :: client.log }
  | .addCallFinished id fail => do
    let ((key, locality), localityStats) ← onLive client.localityStats id fun object =>
      { object with counters := addCallFinished fail object.counters }
    some { client with localityStats, log := .event (.callFinished key locality fail) :: client.log }
  | .buildLoadReportSnapshot clusters now =>
    let (snapshot, client) := client.buildLoadReportSnapshotLocked true clusters now
    some { client with log := .report snapshot :: client.log }

end GrpcCore.Xds
