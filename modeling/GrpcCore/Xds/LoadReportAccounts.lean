import GrpcCore.Xds.LoadReportSweep

/-!
# The accounts of load reports

What has been recorded and not been reported is in the slots of the load report map. The
calls on the map move it, and an event adds one to it.
-/

set_option linter.unusedSectionVars false

namespace GrpcCore.Xds

open SlotPool OrderedMap

variable {Cluster Service Category Locality : Type}
variable [LinearOrder Cluster] [LinearOrder Service] [DecidableEq Category] [LinearOrder Locality]

/-! ## Counts of the log -/

/-- What a snapshot says about an event. -/
def reported (event : StatsEvent Cluster Service Category Locality)
    (snapshot : ClusterLoadReportMap Cluster Service Category Locality) : UInt64 :=
  match event with
  | .uncategorizedDrop key =>
    (snapshot.lookup key).elim 0 fun report => report.droppedRequests.uncategorizedDrops
  | .callDropped key category =>
    (snapshot.lookup key).elim 0 fun report =>
      report.droppedRequests.categorizedDrops.value category
  | .callStarted key locality =>
    (snapshot.lookup key).elim 0 fun report =>
      (report.localityStats.lookup locality).elim 0 fun counts => counts.totalIssuedRequests
  | .callFinished key locality fail =>
    (snapshot.lookup key).elim 0 fun report =>
      (report.localityStats.lookup locality).elim 0 fun counts =>
        if fail then counts.totalErrorRequests else counts.totalSuccessfulRequests

/-- The sum over all snapshots built so far. -/
def reportedTotal (event : StatsEvent Cluster Service Category Locality) :
    List (LogEntry Cluster Service Category Locality) → Nat
  | [] => 0
  | .event _ :: log => reportedTotal event log
  | .report snapshot :: log => (reported event snapshot).toNat + reportedTotal event log

def recorded (event : StatsEvent Cluster Service Category Locality) :
    List (LogEntry Cluster Service Category Locality) → Nat
  | [] => 0
  | .event other :: log => recorded event log + if event = other then 1 else 0
  | .report _ :: log => recorded event log

/-- How often an event has been recorded before the last snapshot. -/
def recordedBeforeReport (event : StatsEvent Cluster Service Category Locality) :
    List (LogEntry Cluster Service Category Locality) → Nat
  | [] => 0
  | .event _ :: log => recordedBeforeReport event log
  | .report _ :: log => recorded event log

/-- Every event is reported as often as it was recorded. -/
def Conserved (client : XdsClient Cluster Service Category Locality) : Prop :=
  ∀ event, reportedTotal event client.log = recordedBeforeReport event client.log

/-! ## Slots -/

namespace XdsClient

variable (client : XdsClient Cluster Service Category Locality)

def dropSlot (key : ClusterKey Cluster Service) : Option (Slot (DropSnapshot Category)) :=
  (client.loadReportMap.lookup key).map fun loadReport => loadReport.dropStats

def localitySlot (owner : ClusterKey Cluster Service × Locality) :
    Option (Slot LocalitySnapshot) :=
  (client.loadReportMap.lookup owner.1).bind fun loadReport =>
    loadReport.localityStats.lookup owner.2

/-- What has been recorded of an event and not been reported. -/
def pending : StatsEvent Cluster Service Category Locality → UInt64
  | .uncategorizedDrop key =>
    SlotPool.pending (fun counts => counts.uncategorizedDrops) client.dropSlot client.dropStats key
  | .callDropped key category =>
    SlotPool.pending (fun counts => counts.categorizedDrops.value category) client.dropSlot
      client.dropStats key
  | .callStarted key locality =>
    SlotPool.pending (fun counts => counts.totalIssuedRequests) client.localitySlot
      client.localityStats (key, locality)
  | .callFinished key locality fail =>
    SlotPool.pending (fun counts => if fail then counts.totalErrorRequests
      else counts.totalSuccessfulRequests) client.localitySlot client.localityStats (key, locality)

/-- The maps are in order and no object counts for two slots. -/
structure Sound : Prop where
  ordered : (client.loadReportMap.map Prod.fst).Pairwise (· < ·)
  localitiesOrdered : ∀ (key : ClusterKey Cluster Service)
    (loadReport : LoadReportState Category Locality),
    client.loadReportMap.lookup key = some loadReport →
      (loadReport.localityStats.map Prod.fst).Pairwise (· < ·)
  drops : SlotPool.Sound client.dropSlot client.dropStats
  localities : SlotPool.Sound client.localitySlot client.localityStats

end XdsClient

omit [LinearOrder Cluster] [LinearOrder Service] [LinearOrder Locality] in
theorem isCounter_uncategorizedDrops :
    IsCounter fun counts : DropSnapshot Category => counts.uncategorizedDrops where
  zero := rfl
  add _ _ := rfl
  reset _ := rfl

omit [LinearOrder Cluster] [LinearOrder Service] [LinearOrder Locality] in
theorem isCounter_categorizedDrops (category : Category) :
    IsCounter fun counts : DropSnapshot Category => counts.categorizedDrops.value category where
  zero := rfl
  add first second := first.categorizedDrops.value_addAll second.categorizedDrops.distinct category
  reset _ := rfl

theorem isCounter_issuedRequests :
    IsCounter fun counts : LocalitySnapshot => counts.totalIssuedRequests where
  zero := rfl
  add _ _ := rfl
  reset _ := rfl

theorem isCounter_finishedRequests (fail : Bool) :
    IsCounter fun counts : LocalitySnapshot =>
      if fail then counts.totalErrorRequests else counts.totalSuccessfulRequests where
  zero := by cases fail <;> rfl
  add _ _ := by cases fail <;> rfl
  reset _ := by cases fail <;> rfl

/-! ## Steps that record nothing -/

variable {client client' : XdsClient Cluster Service Category Locality}

structure Keeps (client client' : XdsClient Cluster Service Category Locality) : Prop where
  sound : client'.Sound
  pending : ∀ event, client'.pending event = client.pending event
  log : client'.log = client.log

theorem Keeps.of_slots (ordered : (client'.loadReportMap.map Prod.fst).Pairwise (· < ·))
    (localitiesOrdered : ∀ key loadReport, client'.loadReportMap.lookup key = some loadReport →
      (loadReport.localityStats.map Prod.fst).Pairwise (· < ·))
    (localities : SlotPool.Sound client'.localitySlot client'.localityStats)
    (counted : ∀ (count : LocalitySnapshot → UInt64), IsCounter count → ∀ owner,
      SlotPool.pending count client'.localitySlot client'.localityStats owner =
        SlotPool.pending count client.localitySlot client.localityStats owner)
    (drops : SlotPool.Sound client'.dropSlot client'.dropStats)
    (dropsCounted : ∀ (count : DropSnapshot Category → UInt64), IsCounter count → ∀ key,
      SlotPool.pending count client'.dropSlot client'.dropStats key =
        SlotPool.pending count client.dropSlot client.dropStats key)
    (log : client'.log = client.log) : Keeps client client' where
  sound := ⟨ordered, localitiesOrdered, drops, localities⟩
  pending event := by
    cases event with
    | uncategorizedDrop key => exact dropsCounted _ isCounter_uncategorizedDrops key
    | callDropped key category => exact dropsCounted _ (isCounter_categorizedDrops category) key
    | callStarted key locality => exact counted _ isCounter_issuedRequests (key, locality)
    | callFinished key locality fail =>
      exact counted _ (isCounter_finishedRequests fail) (key, locality)
  log := log

structure Writes (client client' : XdsClient Cluster Service Category Locality)
    (key : ClusterKey Cluster Service) (loadReport : LoadReportState Category Locality) : Prop where
  ordered : (client'.loadReportMap.map Prod.fst).Pairwise (· < ·)
  found : ∀ other, client'.loadReportMap.lookup other =
    if other = key then some loadReport else client.loadReportMap.lookup other

section Writes

variable {key : ClusterKey Cluster Service} {loadReport : LoadReportState Category Locality}
variable {change : LoadReportState Category Locality → LoadReportState Category Locality}

theorem Writes.of_emplace (sound : client.Sound) {now : Int}
    (entries : client'.loadReportMap = modify key change
      (emplace key (.initial now) client.loadReportMap)) :
    Writes client client' key (change ((client.loadReportMap.lookup key).getD (.initial now))) where
  ordered := entries ▸ ordered_modify change (ordered_emplace sound.ordered)
  found _ := entries ▸ lookup_modify_emplace sound.ordered change

theorem Writes.of_modify (sound : client.Sound)
    (present : client.loadReportMap.lookup key = some loadReport)
    (entries : client'.loadReportMap = modify key change client.loadReportMap) :
    Writes client client' key (change loadReport) where
  ordered := entries ▸ ordered_modify change sound.ordered
  found other := by rw [entries, lookup_modify, present, Option.map_some]

section

variable (writes : Writes client client' key loadReport)
include writes

theorem Writes.dropSlot :
    client'.dropSlot = Function.update client.dropSlot key (some loadReport.dropStats) := by
  funext other
  unfold XdsClient.dropSlot
  rw [writes.found]
  by_cases same : other = key
  · rw [if_pos same, same, Function.update_self, Option.map_some]
  · rw [if_neg same, Function.update_of_ne same]

theorem Writes.localitySlot {locality : Locality} {slot : Slot LocalitySnapshot}
    (changed : ∀ other, loadReport.localityStats.lookup other =
      if other = locality then some slot else client.localitySlot (key, other)) :
    client'.localitySlot = Function.update client.localitySlot (key, locality) (some slot) := by
  funext ⟨other, place⟩
  change (client'.loadReportMap.lookup other).bind _ = _
  rw [writes.found]
  by_cases same : other = key
  · subst same
    rw [if_pos rfl, Option.bind_some, changed]
    by_cases here : place = locality
    · rw [if_pos here, here, Function.update_self]
    · rw [if_neg here, Function.update_of_ne fun equal => here (congrArg Prod.snd equal)]
  · rw [if_neg same, Function.update_of_ne fun equal => same (congrArg Prod.fst equal)]
    rfl

theorem Writes.localitySlot_eq
    (kept : ∀ other, loadReport.localityStats.lookup other = client.localitySlot (key, other)) :
    client'.localitySlot = client.localitySlot := by
  funext ⟨other, place⟩
  change (client'.loadReportMap.lookup other).bind _ = _
  rw [writes.found]
  by_cases same : other = key
  · subst same
    rw [if_pos rfl, Option.bind_some, kept]
  · rw [if_neg same]
    rfl

theorem Writes.localitiesOrdered (sound : client.Sound)
    (ordered : (loadReport.localityStats.map Prod.fst).Pairwise (· < ·))
    (other : ClusterKey Cluster Service) (state : LoadReportState Category Locality)
    (there : client'.loadReportMap.lookup other = some state) :
    (state.localityStats.map Prod.fst).Pairwise (· < ·) := by
  rw [writes.found] at there
  by_cases same : other = key
  · rw [if_pos same, Option.some.injEq] at there
    rwa [← there]
  · rw [if_neg same] at there
    exact sound.localitiesOrdered other state there

end

theorem XdsClient.Sound.entry_localities (sound : client.Sound) (key : ClusterKey Cluster Service)
    (now : Int) :
    let loadReport := (client.loadReportMap.lookup key).getD (LoadReportState.initial now)
    (loadReport.localityStats.map Prod.fst).Pairwise (· < ·) ∧
      ∀ locality, loadReport.localityStats.lookup locality = client.localitySlot (key, locality) := by
  cases found : client.loadReportMap.lookup key with
  | none =>
    refine ⟨List.Pairwise.nil, fun locality => ?_⟩
    rw [XdsClient.localitySlot, found]
    rfl
  | some loadReport =>
    refine ⟨sound.localitiesOrdered key loadReport found, fun locality => ?_⟩
    rw [XdsClient.localitySlot, found]
    rfl

theorem XdsClient.entry_dropStats (client : XdsClient Cluster Service Category Locality)
    (key : ClusterKey Cluster Service) (now : Int) :
    (client.dropSlot key).getD .empty =
      ((client.loadReportMap.lookup key).getD (LoadReportState.initial now)).dropStats := by
  unfold XdsClient.dropSlot
  cases client.loadReportMap.lookup key with
  | none => rfl
  | some loadReport => rfl

theorem XdsClient.Sound.present (sound : client.Sound) (key : ClusterKey Cluster Service)
    (now : Int) :
    (emplace key (LoadReportState.initial now) client.loadReportMap).lookup key =
      some ((client.loadReportMap.lookup key).getD (LoadReportState.initial now)) := by
  rw [lookup_emplace_of_ordered sound.ordered, if_pos rfl]

theorem Writes.keeps_drops (writes : Writes client client' key loadReport) (sound : client.Sound)
    (ordered : (loadReport.localityStats.map Prod.fst).Pairwise (· < ·))
    (kept : ∀ other, loadReport.localityStats.lookup other = client.localitySlot (key, other))
    (drops : SlotPool.Sound (Function.update client.dropSlot key (some loadReport.dropStats))
      client'.dropStats)
    (counted : ∀ (count : DropSnapshot Category → UInt64), IsCounter count → ∀ other,
      SlotPool.pending count (Function.update client.dropSlot key (some loadReport.dropStats))
          client'.dropStats other =
        SlotPool.pending count client.dropSlot client.dropStats other)
    (objects : client'.localityStats = client.localityStats) (log : client'.log = client.log) :
    Keeps client client' := by
  refine .of_slots writes.ordered (writes.localitiesOrdered sound ordered) ?_ ?_ ?_ ?_ log
  · rw [writes.localitySlot_eq kept, objects]
    exact sound.localities
  · intro count _ owner
    rw [writes.localitySlot_eq kept, objects]
  · rwa [writes.dropSlot]
  · rwa [writes.dropSlot]

theorem Writes.keeps_localities (writes : Writes client client' key loadReport)
    (sound : client.Sound) (locality : Locality) (slot : Slot LocalitySnapshot)
    (ordered : (loadReport.localityStats.map Prod.fst).Pairwise (· < ·))
    (changed : ∀ other, loadReport.localityStats.lookup other =
      if other = locality then some slot else client.localitySlot (key, other))
    (localities : SlotPool.Sound
      (Function.update client.localitySlot (key, locality) (some slot)) client'.localityStats)
    (counted : ∀ (count : LocalitySnapshot → UInt64), IsCounter count → ∀ owner,
      SlotPool.pending count (Function.update client.localitySlot (key, locality) (some slot))
          client'.localityStats owner =
        SlotPool.pending count client.localitySlot client.localityStats owner)
    (drops : loadReport.dropStats = (client.dropSlot key).getD .empty)
    (objects : client'.dropStats = client.dropStats) (log : client'.log = client.log) :
    Keeps client client' := by
  refine .of_slots writes.ordered (writes.localitiesOrdered sound ordered) ?_ ?_ ?_ ?_ log
  · rwa [writes.localitySlot changed]
  · rwa [writes.localitySlot changed]
  · rw [writes.dropSlot, drops, objects]
    exact sound.drops.after_default key
  · intro count counter other
    rw [writes.dropSlot, drops, objects]
    exact pending_default counter key other

end Writes

theorem XdsClient.Sound.keeps_addClusterDropStats (sound : client.Sound)
    (key : ClusterKey Cluster Service) (now : Int) :
    Keeps client (client.addClusterDropStats key now) := by
  let acquired := acquire key ((client.dropSlot key).getD .empty) client.dropStats
  let change (state : LoadReportState Category Locality) := { state with dropStats := acquired.1 }
  have result : client.addClusterDropStats key now = { client with
      loadReportMap := modify key change (emplace key (.initial now) client.loadReportMap)
      dropStats := acquired.2 } := by
    unfold XdsClient.addClusterDropStats change acquired
    rw [client.entry_dropStats key now]
    simp only [sound.present]
  have entries : (client.addClusterDropStats key now).loadReportMap = modify key change
      (emplace key (.initial now) client.loadReportMap) := by rw [result]
  obtain ⟨ordered, kept⟩ := sound.entry_localities key now
  refine (Writes.of_emplace sound entries).keeps_drops sound ordered kept ?_ ?_ ?_ ?_
  · rw [result]
    exact sound.drops.after_add key
  · rw [result]
    exact fun count counter => sound.drops.pending_add counter key
  · rw [result]
  · rw [result]

theorem XdsClient.Sound.keeps_addClusterLocalityStats (sound : client.Sound)
    (key : ClusterKey Cluster Service) (locality : Locality) (now : Int) :
    Keeps client (client.addClusterLocalityStats key locality now) := by
  obtain ⟨ordered, kept⟩ := sound.entry_localities key now
  let loadReport := (client.loadReportMap.lookup key).getD (LoadReportState.initial now)
  let acquired := acquire (key, locality) ((client.localitySlot (key, locality)).getD .empty)
    client.localityStats
  let localities := emplace locality .empty loadReport.localityStats
  let change (state : LoadReportState Category Locality) :=
    { state with localityStats := modify locality (fun _ => acquired.1) localities }
  have there : localities.lookup locality =
      some ((client.localitySlot (key, locality)).getD .empty) := by
    rw [lookup_emplace_of_ordered ordered, if_pos rfl, kept]
  have result : client.addClusterLocalityStats key locality now = { client with
      loadReportMap := modify key change (emplace key (.initial now) client.loadReportMap)
      localityStats := acquired.2 } := by
    unfold XdsClient.addClusterLocalityStats
    simp only [sound.present]
    rw [there]
  have entries : (client.addClusterLocalityStats key locality now).loadReportMap =
      modify key change (emplace key (.initial now) client.loadReportMap) := by
    rw [result]
  refine (Writes.of_emplace sound entries).keeps_localities sound locality acquired.1
    ?_ ?_ ?_ ?_ (client.entry_dropStats key now).symm ?_ ?_
  · have shown : (localities.map Prod.fst).Pairwise (· < ·) := ordered_emplace ordered
    exact ordered_modify (fun _ => acquired.1) shown
  · intro other
    rw [← kept]
    exact lookup_modify_emplace ordered fun _ => acquired.1
  · rw [result]
    exact sound.localities.after_add (key, locality)
  · rw [result]
    exact fun count counter => sound.localities.pending_add counter (key, locality)
  · rw [result]
  · rw [result]

theorem Keeps.refl (sound : client.Sound) : Keeps client client := ⟨sound, fun _ => rfl, rfl⟩

theorem Keeps.trans {client'' : XdsClient Cluster Service Category Locality}
    (first : Keeps client client') (second : Keeps client' client'') : Keeps client client'' where
  sound := second.sound
  pending event := (second.pending event).trans (first.pending event)
  log := second.log.trans first.log

variable {id : Nat}

theorem XdsClient.Sound.keeps_removeClusterDropStats (sound : client.Sound)
    {object : DropStats Cluster Service Category} (found : client.dropStats[id]? = some object)
    (unreferenced : object.refs = 0) :
    Keeps client (client.removeClusterDropStats object.owner id) := by
  cases present : client.loadReportMap.lookup object.owner with
  | none =>
    have result : client.removeClusterDropStats object.owner id = client := by
      simp only [XdsClient.removeClusterDropStats, present]
    rw [result]
    exact .refl sound
  | some loadReport =>
    let retired := retire id loadReport.dropStats client.dropStats
    let change (state : LoadReportState Category Locality) := { state with dropStats := retired.1 }
    have own : client.dropSlot object.owner = some loadReport.dropStats := by
      rw [XdsClient.dropSlot, present, Option.map_some]
    have result : client.removeClusterDropStats object.owner id = { client with
        loadReportMap := modify object.owner change client.loadReportMap
        dropStats := retired.2 } := by
      simp only [XdsClient.removeClusterDropStats, present, retired, change]
    have entries : (client.removeClusterDropStats object.owner id).loadReportMap =
        modify object.owner change client.loadReportMap := by rw [result]
    have ordered := sound.localitiesOrdered object.owner loadReport present
    refine (Writes.of_modify sound present entries).keeps_drops sound ordered ?_ ?_ ?_ ?_ ?_
    · intro other
      rw [XdsClient.localitySlot, present]
      rfl
    · rw [result]
      exact sound.drops.after_retire found unreferenced own
    · rw [result]
      exact fun _ _ => sound.drops.pending_retire found own
    · rw [result]
    · rw [result]

variable {object : LocalityStats Cluster Service Locality}

theorem XdsClient.Sound.keeps_removeClusterLocalityStats (sound : client.Sound)
    (found : client.localityStats[id]? = some object) (unreferenced : object.refs = 0) :
    Keeps client (client.removeClusterLocalityStats object.owner.1 object.owner.2 id) := by
  cases present : client.loadReportMap.lookup object.owner.1 with
  | none =>
    have result : client.removeClusterLocalityStats object.owner.1 object.owner.2 id = client := by
      simp only [XdsClient.removeClusterLocalityStats, present]
    rw [result]
    exact .refl sound
  | some loadReport =>
    cases there : loadReport.localityStats.lookup object.owner.2 with
    | none =>
      have result : client.removeClusterLocalityStats object.owner.1 object.owner.2 id =
          client := by
        simp only [XdsClient.removeClusterLocalityStats, present, there]
      rw [result]
      exact .refl sound
    | some localityState =>
      let retired := retire id localityState client.localityStats
      let change (state : LoadReportState Category Locality) :=
        { state with
          localityStats :=
            modify object.owner.2 (fun _ => retired.1) state.localityStats }
      have slots (other : Locality) :
          loadReport.localityStats.lookup other = client.localitySlot (object.owner.1, other) := by
        rw [XdsClient.localitySlot, present]
        rfl
      have own : client.localitySlot object.owner = some localityState := by
        rw [← there, slots]
      have result : client.removeClusterLocalityStats object.owner.1 object.owner.2 id =
          { client with
            loadReportMap := modify object.owner.1 change client.loadReportMap
            localityStats := retired.2 } := by
        simp only [XdsClient.removeClusterLocalityStats, present, there, retired, change]
      have entries :
          (client.removeClusterLocalityStats object.owner.1 object.owner.2 id).loadReportMap =
            modify object.owner.1 change client.loadReportMap := by rw [result]
      refine (Writes.of_modify sound present entries).keeps_localities sound object.owner.2
        retired.1 ?_ ?_ ?_ ?_ ?_ ?_ ?_
      · exact ordered_modify (fun _ => retired.1)
          (sound.localitiesOrdered _ _ present)
      · intro other
        have lookup : (modify object.owner.2 (fun _ => retired.1)
            loadReport.localityStats).lookup other = _ := lookup_modify fun _ => retired.1
        rw [there, Option.map_some] at lookup
        rw [← slots]
        exact lookup
      · rw [result]
        exact sound.localities.after_retire found unreferenced own
      · rw [result]
        exact fun _ _ => sound.localities.pending_retire found own
      · rw [XdsClient.dropSlot, present]
        rfl
      · rw [result]
      · rw [result]

theorem XdsClient.Sound.keeps_setDropStats (sound : client.Sound)
    {object object' : DropStats Cluster Service Category}
    (found : client.dropStats[id]? = some object) (owner : object'.owner = object.owner)
    (counters : object'.counters = object.counters)
    (referenced : 0 < object'.refs → 0 < object.refs) :
    Keeps client { client with dropStats := client.dropStats.set id object' } :=
  .of_slots sound.ordered sound.localitiesOrdered sound.localities (fun _ _ _ => rfl)
    (sound.drops.set found owner referenced) (fun _ _ => pending_set found counters) rfl

theorem XdsClient.Sound.keeps_setLocalityStats (sound : client.Sound)
    {object' : LocalityStats Cluster Service Locality}
    (found : client.localityStats[id]? = some object) (owner : object'.owner = object.owner)
    (counters : object'.counters = object.counters)
    (referenced : 0 < object'.refs → 0 < object.refs) :
    Keeps client { client with localityStats := client.localityStats.set id object' } :=
  .of_slots sound.ordered sound.localitiesOrdered (sound.localities.set found owner referenced)
    (fun _ _ => pending_set found counters) sound.drops (fun _ _ _ => rfl) rfl

/-! ## Steps that record an event -/

structure Records (client client' : XdsClient Cluster Service Category Locality)
    (event : StatsEvent Cluster Service Category Locality) : Prop where
  sound : client'.Sound
  pending : ∀ other, client'.pending other = client.pending other + if other = event then 1 else 0
  log : client'.log = .event event :: client.log

theorem XdsClient.Sound.records_drop (sound : client.Sound)
    {object : DropStats Cluster Service Category} (found : client.dropStats[id]? = some object)
    (live : 0 < object.refs) (change : DropSnapshot Category → DropSnapshot Category)
    (event : StatsEvent Cluster Service Category Locality) (uncategorized : UInt64)
    (categorized : Category → UInt64) (counts : (change object.counters).uncategorizedDrops =
      object.counters.uncategorizedDrops + uncategorized)
    (values : ∀ category, (change object.counters).categorizedDrops.value category =
      object.counters.categorizedDrops.value category + categorized category)
    (isUncategorized : ∀ key, (if .uncategorizedDrop key = event then 1 else 0) =
      if key = object.owner then uncategorized else 0)
    (isCategorized : ∀ key category, (if .callDropped key category = event then 1 else 0) =
      if key = object.owner then categorized category else 0)
    (notStarted : ∀ key locality, .callStarted key locality ≠ event)
    (notFinished : ∀ key locality fail, .callFinished key locality fail ≠ event) :
    Records client { client with
      dropStats := client.dropStats.set id { object with counters := change object.counters }
      log := .event event :: client.log } event where
  sound := ⟨sound.ordered, sound.localitiesOrdered, sound.drops.set found rfl fun _ => live,
    sound.localities⟩
  pending other := by
    cases other with
    | uncategorizedDrop key =>
      rw [isUncategorized]
      exact sound.drops.pending_record isCounter_uncategorizedDrops found live counts key
    | callDropped key category =>
      rw [isCategorized]
      exact sound.drops.pending_record (isCounter_categorizedDrops category) found live
        (values category) key
    | callStarted key locality =>
      rw [if_neg (notStarted key locality), add_zero]
      rfl
    | callFinished key locality fail =>
      rw [if_neg (notFinished key locality fail), add_zero]
      rfl
  log := rfl

theorem XdsClient.Sound.records_uncategorizedDrop (sound : client.Sound)
    {object : DropStats Cluster Service Category} (found : client.dropStats[id]? = some object)
    (live : 0 < object.refs) :
    Records client { client with
      dropStats := client.dropStats.set id
        { object with counters := addUncategorizedDrops object.counters }
      log := .event (.uncategorizedDrop object.owner) :: client.log }
      (.uncategorizedDrop object.owner) :=
  sound.records_drop found live addUncategorizedDrops (.uncategorizedDrop object.owner) 1 (fun _ => 0)
    rfl (fun _ => (add_zero _).symm) (by simp) (by simp) nofun nofun

theorem XdsClient.Sound.records_callDropped (sound : client.Sound)
    {object : DropStats Cluster Service Category} (found : client.dropStats[id]? = some object)
    (live : 0 < object.refs) (category : Category) :
    Records client { client with
      dropStats := client.dropStats.set id
        { object with counters := addCallDropped category object.counters }
      log := .event (.callDropped object.owner category) :: client.log }
      (.callDropped object.owner category) := by
  refine sound.records_drop found live (addCallDropped category) (.callDropped object.owner category) 0
    (fun other => if other = category then 1 else 0) (add_zero _).symm ?_ (by simp) ?_ nofun nofun
  · intro other
    exact object.counters.categorizedDrops.value_add category other 1
  · intro key other
    by_cases own : key = object.owner
    · simp [own]
    · simp [own]

section

variable (sound : client.Sound) (found : client.localityStats[id]? = some object)
  (live : 0 < object.refs)
include sound found live

theorem XdsClient.Sound.records_call (change : LocalitySnapshot → LocalitySnapshot)
    (event : StatsEvent Cluster Service Category Locality) (started : UInt64)
    (finished : Bool → UInt64) (issued : (change object.counters).totalIssuedRequests =
      object.counters.totalIssuedRequests + started)
    (ended : ∀ fail, (if fail then (change object.counters).totalErrorRequests
        else (change object.counters).totalSuccessfulRequests) =
      (if fail then object.counters.totalErrorRequests
        else object.counters.totalSuccessfulRequests) + finished fail)
    (isStarted : ∀ key locality, (if .callStarted key locality = event then 1 else 0) =
      if (key, locality) = object.owner then started else 0)
    (isFinished : ∀ key locality fail, (if .callFinished key locality fail = event then 1 else 0) =
      if (key, locality) = object.owner then finished fail else 0)
    (notUncategorized : ∀ key, .uncategorizedDrop key ≠ event)
    (notCategorized : ∀ key category, .callDropped key category ≠ event) :
    Records client { client with
      localityStats := client.localityStats.set id { object with counters := change object.counters }
      log := .event event :: client.log } event where
  sound := ⟨sound.ordered, sound.localitiesOrdered, sound.drops,
    sound.localities.set found rfl fun _ => live⟩
  pending other := by
    cases other with
    | uncategorizedDrop key =>
      rw [if_neg (notUncategorized key), add_zero]
      rfl
    | callDropped key category =>
      rw [if_neg (notCategorized key category), add_zero]
      rfl
    | callStarted key locality =>
      rw [isStarted]
      exact sound.localities.pending_record isCounter_issuedRequests found live issued
        (key, locality)
    | callFinished key locality fail =>
      rw [isFinished]
      exact sound.localities.pending_record (isCounter_finishedRequests fail) found live
        (ended fail) (key, locality)
  log := rfl

theorem XdsClient.Sound.records_callStarted : Records client { client with
      localityStats := client.localityStats.set id
        { object with counters := addCallStarted object.counters }
      log := .event (.callStarted object.owner.1 object.owner.2) :: client.log }
      (.callStarted object.owner.1 object.owner.2) := by
  refine sound.records_call found live addCallStarted _ 1 (fun _ => 0) rfl ?_ ?_ (by simp) nofun nofun
  · intro fail
    exact (add_zero _).symm
  · simp [Prod.ext_iff]

theorem XdsClient.Sound.records_callFinished (fail : Bool) : Records client { client with
      localityStats := client.localityStats.set id
        { object with counters := addCallFinished fail object.counters }
      log := .event (.callFinished object.owner.1 object.owner.2 fail) :: client.log }
      (.callFinished object.owner.1 object.owner.2 fail) := by
  refine sound.records_call found live (addCallFinished fail) _ 0
    (fun other => if other = fail then 1 else 0) ?_ ?_ (by simp) ?_ nofun nofun
  · cases fail with
    | false => exact (add_zero _).symm
    | true => exact (add_zero _).symm
  · intro other
    cases fail <;> cases other <;> simp [addCallFinished]
  · intro key locality other
    by_cases own : (key, locality) = object.owner
    · rw [← own]
      simp
    · have foreign : ¬ (key = object.owner.1 ∧ locality = object.owner.2 ∧ other = fail) :=
        fun ⟨sameKey, sameLocality, _⟩ => own (Prod.ext sameKey sameLocality)
      simp [own, foreign]

end

end GrpcCore.Xds
