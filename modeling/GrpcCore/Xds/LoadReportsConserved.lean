import GrpcCore.Lib.Run
import GrpcCore.Xds.LoadReportAccounts

/-!
# Load reports conserve counts

A snapshot holds what is pending. It is pending no more, unless a move has left numbers
of deleted objects in an entry that stays.
-/

set_option linter.unusedSectionVars false

namespace GrpcCore.Xds

open SlotPool OrderedMap Slot

variable {Cluster Service Category Locality : Type}
variable [LinearOrder Cluster] [LinearOrder Service] [DecidableEq Category] [LinearOrder Locality]
variable {client client' : XdsClient Cluster Service Category Locality}

/-! ## Building a snapshot -/

theorem XdsClient.Sound.apart (sound : client.Sound) : Apart client.loadReportMap := by
  have increasing := List.pairwise_map.mp sound.ordered
  have found (entry) (member : entry ∈ client.loadReportMap) :
      client.loadReportMap.lookup entry.1 = some entry.2 :=
    lookup_of_mem sound.ordered member
  have localitySlot (entry) (member : entry ∈ client.loadReportMap)
      (locality : Locality × Slot LocalitySnapshot) (listed : locality ∈ entry.2.localityStats) :
      client.localitySlot (entry.1, locality.1) = some locality.2 := by
    rw [XdsClient.localitySlot, found entry member]
    exact lookup_of_mem (sound.localitiesOrdered _ _ (found entry member)) listed
  constructor
  · refine List.Pairwise.imp_of_mem ?_ increasing
    intro first second firstMember secondMember before id registers
    cases other : second.2.dropStats.registers id with
    | false => rfl
    | true =>
      have dropSlot (entry) (member : entry ∈ client.loadReportMap) :
          client.dropSlot entry.1 = some entry.2.dropStats := by
        rw [XdsClient.dropSlot, found entry member, Option.map_some]
      obtain ⟨object, there, owned⟩ := sound.drops.registered _ _ id
        (dropSlot first firstMember) (registers_iff.mp registers)
      obtain ⟨object', there', owned'⟩ := sound.drops.registered _ _ id
        (dropSlot second secondMember) (registers_iff.mp other)
      obtain rfl := Option.mem_unique there there'
      exact absurd (owned.symm.trans owned') (ne_of_lt before)
  · intro entry member
    have ordered := List.pairwise_map.mp (sound.localitiesOrdered _ _ (found entry member))
    refine List.Pairwise.imp_of_mem ?_ ordered
    intro first second firstMember secondMember before id registers
    cases other : second.2.registers id with
    | false => rfl
    | true =>
      obtain ⟨object, there, owned⟩ := sound.localities.registered _ _ id
        (localitySlot entry member first firstMember) (registers_iff.mp registers)
      obtain ⟨object', there', owned'⟩ := sound.localities.registered _ _ id
        (localitySlot entry member second secondMember) (registers_iff.mp other)
      obtain rfl := Option.mem_unique there there'
      exact absurd (congrArg Prod.snd (owned.symm.trans owned')) (ne_of_lt before)
  · refine List.Pairwise.imp_of_mem ?_ increasing
    intro first second firstMember secondMember before id registers
    cases other : second.2.registersLocality id with
    | false => rfl
    | true =>
      obtain ⟨locality, listed, registers⟩ := List.any_eq_true.mp registers
      obtain ⟨locality', listed', registers'⟩ := List.any_eq_true.mp other
      obtain ⟨object, there, owned⟩ := sound.localities.registered _ _ id
        (localitySlot first firstMember locality listed) (registers_iff.mp registers)
      obtain ⟨object', there', owned'⟩ := sound.localities.registered _ _ id
        (localitySlot second secondMember locality' listed') (registers_iff.mp registers')
      obtain rfl := Option.mem_unique there there'
      exact absurd (congrArg Prod.fst (owned.symm.trans owned')) (ne_of_lt before)

def XdsClient.swept (client : XdsClient Cluster Service Category Locality) (now : Int) :
    XdsClient Cluster Service Category Locality :=
  { client with
    loadReportMap := client.loadReportMap.filterMap fun entry =>
      (keptEntry now entry.2).map (Prod.mk entry.1)
    dropStats := resetWhere (fun id => client.loadReportMap.any (·.2.dropStats.registers id))
      client.dropStats
    localityStats := resetWhere (fun id => client.loadReportMap.any (·.2.registersLocality id))
      client.localityStats }

def XdsClient.snapshot (client : XdsClient Cluster Service Category Locality) (now : Int) :
    ClusterLoadReportMap Cluster Service Category Locality :=
  client.loadReportMap.map fun entry =>
    (entry.1, entrySnapshot now client.dropStats client.localityStats entry.2)

theorem XdsClient.Sound.buildLoadReportSnapshotLocked_eq (sound : client.Sound)
    (clusters : List Cluster) (now : Int) :
    client.buildLoadReportSnapshotLocked true clusters now =
      (client.snapshot now, client.swept now) := by
  unfold XdsClient.buildLoadReportSnapshotLocked
  rw [buildEntries_eq _ now client.loadReportMap sound.apart]
  simp [XdsClient.snapshot, XdsClient.swept]

theorem reported_snapshot (now : Int) (event : StatsEvent Cluster Service Category Locality) :
    reported event (client.snapshot now) = client.pending event := by
  have found (key : ClusterKey Cluster Service) : (client.snapshot now).lookup key =
      (client.loadReportMap.lookup key).map
        (entrySnapshot now client.dropStats client.localityStats) :=
    lookup_map_values _
  have counts (loadReport : LoadReportState Category Locality) (locality : Locality) :
      (entrySnapshot now client.dropStats client.localityStats
        loadReport).localityStats.lookup locality =
        (loadReport.localityStats.lookup locality).map fun slot =>
          slot.counters client.localityStats :=
    lookup_map_values fun slot : Slot LocalitySnapshot =>
      slot.counters client.localityStats
  cases event with
  | uncategorizedDrop key | callDropped key =>
    simp only [reported, XdsClient.pending, SlotPool.pending, XdsClient.dropSlot, found]
    cases client.loadReportMap.lookup key with
    | none => rfl
    | some => rfl
  | callStarted key locality | callFinished key locality =>
    simp only [reported, XdsClient.pending, SlotPool.pending, XdsClient.localitySlot, found]
    cases client.loadReportMap.lookup key with
    | none => rfl
    | some loadReport =>
      simp only [Option.map_some, Option.elim_some, Option.bind_some, counts]
      cases loadReport.localityStats.lookup locality with
      | none => rfl
      | some => rfl

/-! ## What a report leaves -/

/-- An entry that stays must not have numbers of deleted objects, which a move copies. -/
def LoadReportState.LeavesNothing (loadReport : LoadReportState Category Locality) : Prop :=
  ((keptLocalities loadReport.localityStats ≠ [] ∨ loadReport.dropStats.registered ≠ none) →
    loadReport.dropStats.retired.uncategorizedDrops = 0) ∧
  ∀ entry ∈ loadReport.localityStats, entry.2.registered ≠ none →
    entry.2.retired.totalIssuedRequests = 0 ∧ entry.2.retired.totalErrorRequests = 0 ∧
      entry.2.retired.totalSuccessfulRequests = 0

instance (loadReport : LoadReportState Category Locality) : Decidable loadReport.LeavesNothing :=
  inferInstanceAs (Decidable (_ ∧ _))

theorem XdsClient.Sound.lookup_swept (sound : client.Sound) (now : Int)
    (key : ClusterKey Cluster Service) :
    (client.swept now).loadReportMap.lookup key =
      (client.loadReportMap.lookup key).bind (keptEntry now) :=
  lookup_filterMap sound.ordered fun _ => keptEntry now

theorem lookup_keptLocalities {localities : List (Locality × Slot LocalitySnapshot)}
    (ordered : (localities.map Prod.fst).Pairwise (· < ·)) (locality : Locality) :
    (keptLocalities localities).lookup locality =
      (localities.lookup locality).bind keptLocality :=
  lookup_filterMap ordered fun _ => keptLocality

theorem keptLocality_some {slot slot' : Slot LocalitySnapshot} (kept : keptLocality slot = some slot') :
    slot.registered ≠ none ∧ slot' = slot.readOut := by
  unfold keptLocality at kept
  split at kept
  · cases kept
  · rename_i registered
    exact ⟨registered, (Option.some.inj kept).symm⟩

theorem keptEntry_some {now : Int} {loadReport loadReport' : LoadReportState Category Locality}
    (kept : keptEntry now loadReport = some loadReport') :
    (keptLocalities loadReport.localityStats ≠ [] ∨ loadReport.dropStats.registered ≠ none) ∧
      loadReport'.dropStats = loadReport.dropStats.readOut ∧
      loadReport'.localityStats = keptLocalities loadReport.localityStats := by
  unfold keptEntry at kept
  split at kept
  · cases kept
  · rename_i stays
    obtain rfl := Option.some.inj kept
    refine ⟨?_, rfl, rfl⟩
    rwa [Bool.and_eq_true, List.isEmpty_iff, Option.isNone_iff_eq_none, not_and_or] at stays

section

variable (sound : client.Sound) (now : Int)
include sound now

theorem XdsClient.Sound.swept_drops : Swept client.dropSlot (client.swept now).dropSlot where
  kept key slot there registered := by
    obtain ⟨loadReport, found, rfl⟩ := Option.map_eq_some_iff.mp there
    have stays : keptEntry now loadReport = some ⟨loadReport.dropStats.readOut,
        keptLocalities loadReport.localityStats, now⟩ := by
      refine if_neg ?_
      simp [registered]
    rw [XdsClient.dropSlot, sound.lookup_swept, found, Option.bind_some, stays, Option.map_some]
  origin key slot' there := by
    obtain ⟨loadReport', found, rfl⟩ := Option.map_eq_some_iff.mp there
    rw [sound.lookup_swept] at found
    obtain ⟨loadReport, before, kept⟩ := Option.bind_eq_some_iff.mp found
    refine ⟨loadReport.dropStats, ?_, (keptEntry_some kept).2.1⟩
    rw [XdsClient.dropSlot, before, Option.map_some]

theorem XdsClient.Sound.swept_localities :
    Swept client.localitySlot (client.swept now).localitySlot where
  kept owner slot there registered := by
    obtain ⟨loadReport, found, listed⟩ := Option.bind_eq_some_iff.mp there
    have ordered := sound.localitiesOrdered owner.1 loadReport found
    have here : (keptLocalities loadReport.localityStats).lookup owner.2 = some slot.readOut := by
      rw [lookup_keptLocalities ordered, listed, Option.bind_some]
      exact if_neg registered
    have stays : keptEntry now loadReport = some ⟨loadReport.dropStats.readOut,
        keptLocalities loadReport.localityStats, now⟩ := by
      refine if_neg ?_
      intro dropped
      rw [Bool.and_eq_true, List.isEmpty_iff] at dropped
      rw [dropped.1] at here
      cases here
    rw [XdsClient.localitySlot, sound.lookup_swept, found, Option.bind_some, stays, Option.bind_some]
    exact here
  origin owner slot' there := by
    obtain ⟨loadReport', found, listed⟩ := Option.bind_eq_some_iff.mp there
    rw [sound.lookup_swept] at found
    obtain ⟨loadReport, before, kept⟩ := Option.bind_eq_some_iff.mp found
    have ordered := sound.localitiesOrdered owner.1 loadReport before
    rw [(keptEntry_some kept).2.2, lookup_keptLocalities ordered] at listed
    obtain ⟨slot, old, keptSlot⟩ := Option.bind_eq_some_iff.mp listed
    refine ⟨slot, ?_, (keptLocality_some keptSlot).2⟩
    rw [XdsClient.localitySlot, before]
    exact old

theorem XdsClient.Sound.after_report : (client.swept now).Sound where
  ordered := by
    exact sound.ordered.sublist (keys_filterMap fun _ => keptEntry now)
  localitiesOrdered key loadReport' there := by
    rw [sound.lookup_swept] at there
    obtain ⟨loadReport, before, kept⟩ := Option.bind_eq_some_iff.mp there
    rw [(keptEntry_some kept).2.2]
    exact (sound.localitiesOrdered key loadReport before).sublist
      (keys_filterMap fun _ => keptLocality)
  drops := sound.drops.after_sweep (sound.swept_drops now) _
  localities := sound.localities.after_sweep (sound.swept_localities now) _

theorem XdsClient.Sound.pending_swept_drops
    {count : DropSnapshot Category → UInt64} (counter : IsCounter count)
    (none : ∀ entry ∈ client.loadReportMap,
      (keptLocalities entry.2.localityStats ≠ [] ∨ entry.2.dropStats.registered ≠ none) →
        count (Counting.moved entry.2.dropStats.retired) = 0) (key : ClusterKey Cluster Service) :
    SlotPool.pending count (client.swept now).dropSlot (client.swept now).dropStats key = 0 := by
  have chosen (key) (slot : Slot (DropSnapshot Category)) (id : Nat)
      (there : client.dropSlot key = some slot) (registered : slot.registered = some id) :
      client.loadReportMap.any (·.2.dropStats.registers id) = true := by
    obtain ⟨loadReport, found, rfl⟩ := Option.map_eq_some_iff.mp there
    exact List.any_eq_true.mpr ⟨_, mem_of_lookup found, registers_iff.mpr registered⟩
  have swept := sound.drops.pending_swept counter (sound.swept_drops now) chosen key
  refine swept.trans ?_
  cases there : (client.swept now).dropSlot key with
  | none => rfl
  | some =>
    obtain ⟨loadReport', found, rfl⟩ := Option.map_eq_some_iff.mp there
    rw [sound.lookup_swept] at found
    obtain ⟨loadReport, before, kept⟩ := Option.bind_eq_some_iff.mp found
    obtain ⟨stays, dropStats, _⟩ := keptEntry_some kept
    rw [Option.elim_some, dropStats]
    exact none (key, loadReport) (mem_of_lookup before) stays

theorem XdsClient.Sound.pending_swept_localities
    {count : LocalitySnapshot → UInt64} (counter : IsCounter count)
    (none : ∀ entry ∈ client.loadReportMap, ∀ locality ∈ entry.2.localityStats,
      locality.2.registered ≠ none → count locality.2.retired = 0)
    (owner : ClusterKey Cluster Service × Locality) :
    SlotPool.pending count (client.swept now).localitySlot (client.swept now).localityStats owner =
      0 := by
  have chosen (owner) (slot : Slot LocalitySnapshot) (id : Nat)
      (there : client.localitySlot owner = some slot) (registered : slot.registered = some id) :
      client.loadReportMap.any (·.2.registersLocality id) = true := by
    obtain ⟨loadReport, found, listed⟩ := Option.bind_eq_some_iff.mp there
    refine List.any_eq_true.mpr ⟨_, mem_of_lookup found, ?_⟩
    exact List.any_eq_true.mpr ⟨_, mem_of_lookup listed, registers_iff.mpr registered⟩
  have swept := sound.localities.pending_swept counter (sound.swept_localities now) chosen owner
  refine swept.trans ?_
  cases there : (client.swept now).localitySlot owner with
  | none => rfl
  | some =>
    obtain ⟨loadReport', found, listed⟩ := Option.bind_eq_some_iff.mp there
    rw [sound.lookup_swept] at found
    obtain ⟨loadReport, before, kept⟩ := Option.bind_eq_some_iff.mp found
    rw [(keptEntry_some kept).2.2,
      lookup_keptLocalities (sound.localitiesOrdered owner.1 loadReport before)] at listed
    obtain ⟨slot, old, keptSlot⟩ := Option.bind_eq_some_iff.mp listed
    obtain ⟨registered, rfl⟩ := keptLocality_some keptSlot
    exact none (owner.1, loadReport) (mem_of_lookup before) (owner.2, slot)
      (mem_of_lookup old) registered

theorem XdsClient.Sound.pending_swept
    (leaves : ∀ entry ∈ client.loadReportMap, entry.2.LeavesNothing)
    (event : StatsEvent Cluster Service Category Locality) :
    (client.swept now).pending event = 0 := by
  cases event with
  | uncategorizedDrop key =>
    refine sound.pending_swept_drops now isCounter_uncategorizedDrops ?_ key
    intro entry member
    exact (leaves entry member).1
  | callDropped key category =>
    refine sound.pending_swept_drops now (isCounter_categorizedDrops category) ?_ key
    intro entry _ _
    exact CategorizedDrops.value_empty category
  | callStarted key locality =>
    refine sound.pending_swept_localities now isCounter_issuedRequests ?_ (key, locality)
    intro entry member locality listed registered
    exact ((leaves entry member).2 locality listed registered).1
  | callFinished key locality fail =>
    refine sound.pending_swept_localities now (isCounter_finishedRequests fail) ?_ (key, locality)
    intro entry member locality listed registered
    obtain ⟨_, failed, successful⟩ := (leaves entry member).2 locality listed registered
    cases fail with
    | false => exact successful
    | true => exact failed

end

/-! ## Runs -/

def XdsClient.recordedBy (client : XdsClient Cluster Service Category Locality) :
    Action Cluster Service Category Locality → Option (StatsEvent Cluster Service Category Locality)
  | .addUncategorizedDrops id =>
    client.dropStats[id]?.map fun object => .uncategorizedDrop object.owner
  | .addCallDropped id category =>
    client.dropStats[id]?.map fun object => .callDropped object.owner category
  | .addCallStarted id =>
    client.localityStats[id]?.map fun object => .callStarted object.owner.1 object.owner.2
  | .addCallFinished id fail =>
    client.localityStats[id]?.map fun object => .callFinished object.owner.1 object.owner.2 fail
  | _ => none

def XdsClient.reportedBy (client : XdsClient Cluster Service Category Locality) :
    Action Cluster Service Category Locality →
      List (ClusterKey Cluster Service × LoadReportState Category Locality)
  | .buildLoadReportSnapshot _ _ => client.loadReportMap
  | _ => []

/-- No count passes 64 bits, and a report leaves no numbers of deleted objects behind. -/
def CountsOnce (client : XdsClient Cluster Service Category Locality)
    (action : Action Cluster Service Category Locality) : Prop :=
  (∀ event ∈ client.recordedBy action, (client.pending event).toNat + 1 < 2 ^ 64) ∧
    ∀ entry ∈ client.reportedBy action, entry.2.LeavesNothing

instance (client : XdsClient Cluster Service Category Locality)
    (action : Action Cluster Service Category Locality) : Decidable (CountsOnce client action) :=
  inferInstanceAs (Decidable (_ ∧ _))

theorem onLive_some {Owner Counters : Type} {objects objects' : List (Object Owner Counters)}
    {id : Nat} {change : Object Owner Counters → Object Owner Counters} {owner : Owner}
    (taken : onLive objects id change = some (owner, objects')) :
    ∃ object : Object Owner Counters, objects[id]? = some object ∧ 0 < object.refs ∧
      owner = object.owner ∧ objects' = objects.set id (change object) := by
  unfold onLive at taken
  split at taken
  · cases taken
  · rename_i object found
    obtain ⟨live, result⟩ := Option.ite_none_right_eq_some.mp taken
    cases result
    exact ⟨object, found, live, rfl, rfl⟩

theorem onDead_some {Owner Counters : Type} {objects objects' : List (Object Owner Counters)}
    {id : Nat} {owner : Owner} (taken : onDead objects id = some (owner, objects')) :
    ∃ object : Object Owner Counters, objects[id]? = some object ∧ object.refs = 0 ∧
      owner = object.owner ∧ objects' = objects.set id { object with destroyed := true } := by
  unfold onDead at taken
  split at taken
  · cases taken
  · rename_i object found
    obtain ⟨dead, result⟩ := Option.ite_none_right_eq_some.mp taken
    cases result
    exact ⟨object, found, dead.1, rfl, rfl⟩

variable {action : Action Cluster Service Category Locality}

theorem XdsClient.Sound.step_cases (sound : client.Sound)
    (taken : client.step action = some client') : Keeps client client' ∨
    (∃ event, client.recordedBy action = some event ∧ Records client client' event) ∨
    ∃ clusters now, action = .buildLoadReportSnapshot clusters now ∧
      client' = { client.swept now with log := .report (client.snapshot now) :: client.log } := by
  cases action with
  | addClusterDropStats key now =>
    obtain rfl := Option.some.inj taken
    exact .inl (sound.keeps_addClusterDropStats key now)
  | addClusterLocalityStats key locality now =>
    obtain rfl := Option.some.inj taken
    exact .inl (sound.keeps_addClusterLocalityStats key locality now)
  | refDropStats | unrefDropStats =>
    obtain ⟨⟨_, objects⟩, changed, result⟩ := Option.bind_eq_some_iff.mp taken
    obtain ⟨object, found, live, rfl, rfl⟩ := onLive_some changed
    obtain rfl := Option.some.inj result
    exact .inl (sound.keeps_setDropStats found rfl rfl fun _ => live)
  | refLocalityStats | unrefLocalityStats =>
    obtain ⟨⟨_, objects⟩, changed, result⟩ := Option.bind_eq_some_iff.mp taken
    obtain ⟨object, found, live, rfl, rfl⟩ := onLive_some changed
    obtain rfl := Option.some.inj result
    exact .inl (sound.keeps_setLocalityStats found rfl rfl fun _ => live)
  | destroyDropStats id =>
    obtain ⟨⟨_, objects⟩, changed, result⟩ := Option.bind_eq_some_iff.mp taken
    obtain ⟨object, found, dead, rfl, rfl⟩ := onDead_some changed
    obtain rfl := Option.some.inj result
    let marked := { object with destroyed := true }
    have keeps : Keeps client { client with dropStats := client.dropStats.set id marked } :=
      sound.keeps_setDropStats found rfl rfl fun live => live
    have found' : (client.dropStats.set id marked)[id]? = some marked :=
      List.getElem?_set_self (List.getElem?_eq_some_iff.mp found).1
    have removed := keeps.sound.keeps_removeClusterDropStats found' dead
    exact .inl (keeps.trans removed)
  | destroyLocalityStats id =>
    obtain ⟨⟨⟨key, locality⟩, objects⟩, changed, result⟩ := Option.bind_eq_some_iff.mp taken
    obtain ⟨⟨_, refs, destroyed, counters⟩, found, dead, rfl, rfl⟩ := onDead_some changed
    obtain rfl := Option.some.inj result
    let marked : LocalityStats Cluster Service Locality :=
      ⟨(key, locality), refs, true, counters⟩
    have keeps : Keeps client { client with localityStats := client.localityStats.set id marked } :=
      sound.keeps_setLocalityStats found rfl rfl fun live => live
    have found' : (client.localityStats.set id marked)[id]? = some marked :=
      List.getElem?_set_self (List.getElem?_eq_some_iff.mp found).1
    have removed := keeps.sound.keeps_removeClusterLocalityStats found' dead
    exact .inl (keeps.trans removed)
  | addUncategorizedDrops =>
    obtain ⟨⟨_, objects⟩, changed, result⟩ := Option.bind_eq_some_iff.mp taken
    obtain ⟨object, found, live, rfl, rfl⟩ := onLive_some changed
    obtain rfl := Option.some.inj result
    refine .inr (.inl ⟨_, ?_, sound.records_uncategorizedDrop found live⟩)
    rw [XdsClient.recordedBy, found, Option.map_some]
  | addCallDropped id category =>
    obtain ⟨⟨_, objects⟩, changed, result⟩ := Option.bind_eq_some_iff.mp taken
    obtain ⟨object, found, live, rfl, rfl⟩ := onLive_some changed
    obtain rfl := Option.some.inj result
    refine .inr (.inl ⟨_, ?_, sound.records_callDropped found live category⟩)
    rw [XdsClient.recordedBy, found, Option.map_some]
  | addCallStarted =>
    obtain ⟨⟨⟨_, _⟩, objects⟩, changed, result⟩ := Option.bind_eq_some_iff.mp taken
    obtain ⟨⟨_, refs, destroyed, counters⟩, found, live, rfl, rfl⟩ := onLive_some changed
    obtain rfl := Option.some.inj result
    refine .inr (.inl ⟨_, ?_, sound.records_callStarted found live⟩)
    rw [XdsClient.recordedBy, found, Option.map_some]
  | addCallFinished id fail =>
    obtain ⟨⟨⟨_, _⟩, objects⟩, changed, result⟩ := Option.bind_eq_some_iff.mp taken
    obtain ⟨⟨_, refs, destroyed, counters⟩, found, live, rfl, rfl⟩ := onLive_some changed
    obtain rfl := Option.some.inj result
    refine .inr (.inl ⟨_, ?_, sound.records_callFinished found live fail⟩)
    rw [XdsClient.recordedBy, found, Option.map_some]
  | buildLoadReportSnapshot clusters now =>
    simp only [XdsClient.step, sound.buildLoadReportSnapshotLocked_eq, Option.some.injEq] at taken
    exact .inr (.inr ⟨clusters, now, rfl, taken.symm⟩)

/-- What is pending has been recorded since the last report. -/
structure Accounted (client : XdsClient Cluster Service Category Locality) : Prop where
  sound : client.Sound
  pending : ∀ event, recorded event client.log =
    recordedBeforeReport event client.log + (client.pending event).toNat
  conserved : Conserved client

theorem Keeps.accounted (keeps : Keeps client client') (accounted : Accounted client) :
    Accounted client' where
  sound := keeps.sound
  pending event := by
    rw [keeps.log, keeps.pending]
    exact accounted.pending event
  conserved event := by
    rw [keeps.log]
    exact accounted.conserved event

theorem toNat_add_one {value : UInt64} (room : value.toNat + 1 < 2 ^ 64) :
    (value + 1).toNat = value.toNat + 1 := by
  exact Nat.mod_eq_of_lt room

theorem Records.accounted {event : StatsEvent Cluster Service Category Locality}
    (records : Records client client' event) (room : (client.pending event).toNat + 1 < 2 ^ 64)
    (accounted : Accounted client) : Accounted client' where
  sound := records.sound
  pending other := by
    have before := accounted.pending other
    rw [records.log, records.pending]
    change recorded other client.log + (if other = event then 1 else 0) =
      recordedBeforeReport other client.log + _
    by_cases same : other = event
    · subst same
      rw [if_pos rfl, if_pos rfl, toNat_add_one room, before, Nat.add_assoc]
    · rw [if_neg same, if_neg same, add_zero, add_zero, before]
  conserved other := by
    rw [records.log]
    exact accounted.conserved other

theorem Accounted.report (accounted : Accounted client) (now : Int)
    (leaves : ∀ entry ∈ client.loadReportMap, entry.2.LeavesNothing) :
    Accounted { client.swept now with log := .report (client.snapshot now) :: client.log } where
  sound :=
    have after := accounted.sound.after_report now
    ⟨after.ordered, after.localitiesOrdered, after.drops, after.localities⟩
  pending event := by
    have empty := accounted.sound.pending_swept now leaves event
    have same : XdsClient.pending
        { client.swept now with log := .report (client.snapshot now) :: client.log } event =
          (client.swept now).pending event := by
      cases event <;> rfl
    rw [same, empty]
    rfl
  conserved event := by
    change (reported event (client.snapshot now)).toNat + reportedTotal event client.log =
      recorded event client.log
    rw [reported_snapshot, accounted.conserved event, accounted.pending event, Nat.add_comm]

theorem Accounted.step (accounted : Accounted client) (once : CountsOnce client action)
    (taken : client.step action = some client') : Accounted client' := by
  rcases accounted.sound.step_cases taken with
    keeps | ⟨event, recordedBy, records⟩ | ⟨clusters, now, rfl, rfl⟩
  · exact keeps.accounted accounted
  · exact records.accounted (once.1 event recordedBy) accounted
  · exact accounted.report now once.2

theorem accounted_initial :
    Accounted (XdsClient.initial : XdsClient Cluster Service Category Locality) where
  sound :=
    { ordered := List.Pairwise.nil
      localitiesOrdered := nofun
      drops := ⟨nofun, nofun⟩
      localities := ⟨nofun, nofun⟩ }
  pending event := by cases event <;> rfl
  conserved _ := rfl

theorem load_reports_conserve_counts
    (actions : List (Action Cluster Service Category Locality))
    (run : Machine.Run XdsClient.step CountsOnce XdsClient.initial actions client) :
    Conserved client :=
  (run.invariant (fun accounted once taken => accounted.step once taken)
    accounted_initial).conserved

/-- Calls of a locality that has been left and found again, and reports in between. -/
theorem load_reports_conserve_counts_left :
    ∃ client : XdsClient Nat Nat Nat Nat,
      Machine.Run XdsClient.step CountsOnce XdsClient.initial
        [.addClusterLocalityStats ⟨1, 2⟩ 3 0, .addCallStarted 0, .addCallFinished 0 true,
          .unrefLocalityStats 0, .destroyLocalityStats 0, .buildLoadReportSnapshot [] 5,
          .addClusterLocalityStats ⟨1, 2⟩ 3 6, .addCallStarted 1, .buildLoadReportSnapshot [] 9]
        client ∧
      reportedTotal (.callStarted ⟨1, 2⟩ 3) client.log = 2 ∧ Conserved client := by
  obtain ⟨client, executed, counted⟩ := Option.map_eq_some_iff.mp (show
    (Machine.exec (fun client action =>
        if decide (CountsOnce client action) then XdsClient.step client action else none)
      (XdsClient.initial : XdsClient Nat Nat Nat Nat)
      [.addClusterLocalityStats ⟨1, 2⟩ 3 0, .addCallStarted 0, .addCallFinished 0 true,
        .unrefLocalityStats 0, .destroyLocalityStats 0, .buildLoadReportSnapshot [] 5,
        .addClusterLocalityStats ⟨1, 2⟩ 3 6, .addCallStarted 1, .buildLoadReportSnapshot [] 9]).map
      (fun client => reportedTotal (.callStarted ⟨1, 2⟩ 3) client.log) = some 2 by decide)
  have run : Machine.Run XdsClient.step CountsOnce _ _ client :=
    Machine.run_of_exec (fun _ _ => of_decide_eq_true) executed
  exact ⟨client, run, counted, load_reports_conserve_counts _ run⟩

/-- The drop of a deleted object is reported twice if its entry has a new object. -/
theorem drops_reported_twice :
    ∃ actions, ∃ client : XdsClient Nat Nat Nat Nat,
      Machine.Reach XdsClient.step XdsClient.initial actions client ∧ ¬ Conserved client := by
  obtain ⟨client, reach, counted⟩ := Machine.exists_reach XdsClient.step
    (XdsClient.initial : XdsClient Nat Nat Nat Nat)
    [.addClusterDropStats ⟨1, 2⟩ 0, .addUncategorizedDrops 0, .unrefDropStats 0, .destroyDropStats 0,
      .addClusterDropStats ⟨1, 2⟩ 3, .buildLoadReportSnapshot [] 5, .buildLoadReportSnapshot [] 9]
    (fun client => (reportedTotal (.uncategorizedDrop ⟨1, 2⟩) client.log,
      recordedBeforeReport (.uncategorizedDrop ⟨1, 2⟩) client.log)) (2, 1) (by decide)
  refine ⟨_, client, reach, fun conserved => ?_⟩
  have equal := conserved (.uncategorizedDrop ⟨1, 2⟩)
  obtain ⟨twice, once⟩ := Prod.mk.inj counted
  rw [twice, once] at equal
  exact absurd equal (by decide)

end GrpcCore.Xds
