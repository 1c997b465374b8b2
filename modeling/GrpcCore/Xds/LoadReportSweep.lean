import GrpcCore.Xds.LoadReports

/-!
# Building a load report

The loops of `BuildLoadReportSnapshotLocked` hand the objects from entry to entry. No
object counts for two entries, so every entry is reported as if it came first.
-/

namespace GrpcCore.Xds

open SlotPool XdsClient

variable {Cluster Service Category Locality : Type}

def keptLocality (slot : Slot LocalitySnapshot) : Option (Slot LocalitySnapshot) :=
  if slot.registered = none then none else some slot.readOut

def keptLocalities (localities : List (Locality × Slot LocalitySnapshot)) :
    List (Locality × Slot LocalitySnapshot) :=
  localities.filterMap fun entry => (keptLocality entry.2).map (Prod.mk entry.1)

def Disjoint {Counters : Type} (first second : Slot Counters) : Prop :=
  ∀ id, first.registers id = true → second.registers id = false

theorem buildLocalities_eq {Owner : Type} (localities : List (Locality × Slot LocalitySnapshot))
    (disjoint : localities.Pairwise fun first second => Disjoint first.2 second.2)
    (objects : List (Object Owner LocalitySnapshot)) :
    buildLocalities localities objects =
      (localities.map fun entry => (entry.1, entry.2.counters objects), keptLocalities localities,
        resetWhere (fun id => localities.any (·.2.registers id)) objects) := by
  induction localities generalizing objects with
  | nil =>
    simp only [buildLocalities, keptLocalities, List.map_nil, List.filterMap_nil]
    rw [resetWhere_eq_self (by simp)]
  | cons entry rest ih =>
    obtain ⟨locality, slot⟩ := entry
    rw [List.pairwise_cons] at disjoint
    simp only [buildLocalities, take_eq, ih disjoint.2]
    have apart : ∀ id, slot.registers id = true → rest.any (·.2.registers id) = false := by
      intro id registers
      refine List.any_eq_false.mpr fun other member => ?_
      rw [disjoint.1 other member id registers]
      exact Bool.false_ne_true
    refine congrArg₂ Prod.mk ?_ (congrArg₂ Prod.mk ?_ ?_)
    · refine List.cons_eq_cons.mpr ⟨rfl, List.map_congr_left fun other member => ?_⟩
      rw [counters_resetWhere]
      intro id registered
      cases registers : slot.registers id with
      | false => rfl
      | true =>
        have spared := disjoint.1 other member id registers
        simp [Slot.registers, registered] at spared
    · change (if slot.registered = none then keptLocalities rest
        else (locality, slot.readOut) :: keptLocalities rest) = _
      unfold keptLocalities
      by_cases unregistered : slot.registered = none
      · simp [keptLocality, unregistered]
      · simp [keptLocality, unregistered]
    · rw [resetWhere_resetWhere apart]
      rfl

variable [LinearOrder Cluster] [LinearOrder Service] [DecidableEq Category] [LinearOrder Locality]

def keptEntry (now : Int) (loadReport : LoadReportState Category Locality) :
    Option (LoadReportState Category Locality) :=
  if (keptLocalities loadReport.localityStats).isEmpty &&
      loadReport.dropStats.registered.isNone then none
  else some ⟨loadReport.dropStats.readOut, keptLocalities loadReport.localityStats, now⟩

def entrySnapshot (now : Int) (dropStats : List (DropStats Cluster Service Category))
    (localityStats : List (LocalityStats Cluster Service Locality))
    (loadReport : LoadReportState Category Locality) : ClusterLoadReport Category Locality where
  droppedRequests := loadReport.dropStats.counters dropStats
  localityStats := loadReport.localityStats.map fun entry =>
    (entry.1, entry.2.counters localityStats)
  loadReportInterval := now - loadReport.lastReportTime

def LoadReportState.registersLocality (loadReport : LoadReportState Category Locality) (id : Nat) :
    Bool :=
  loadReport.localityStats.any (·.2.registers id)

structure Apart (entries : List (ClusterKey Cluster Service × LoadReportState Category Locality)) :
    Prop where
  drops : entries.Pairwise fun first second => Disjoint first.2.dropStats second.2.dropStats
  within : ∀ entry ∈ entries,
    entry.2.localityStats.Pairwise fun first second => Disjoint first.2 second.2
  between : entries.Pairwise fun first second =>
    ∀ id, first.2.registersLocality id = true → second.2.registersLocality id = false

omit [LinearOrder Cluster] [LinearOrder Service] [LinearOrder Locality] in
theorem buildEntries_eq (recordStats : Cluster → Bool) (now : Int)
    (entries : List (ClusterKey Cluster Service × LoadReportState Category Locality))
    (apart : Apart entries) (dropStats : List (DropStats Cluster Service Category))
    (localityStats : List (LocalityStats Cluster Service Locality)) :
    buildEntries recordStats now entries dropStats localityStats =
      (entries.filterMap fun entry =>
          (if recordStats entry.1.clusterName then
            some (entrySnapshot now dropStats localityStats entry.2) else none).map
              (Prod.mk entry.1),
        entries.filterMap fun entry => (keptEntry now entry.2).map (Prod.mk entry.1),
        resetWhere (fun id => entries.any (·.2.dropStats.registers id)) dropStats,
        resetWhere (fun id => entries.any (·.2.registersLocality id)) localityStats) := by
  induction entries generalizing dropStats localityStats with
  | nil =>
    simp only [buildEntries, List.filterMap_nil]
    rw [resetWhere_eq_self (by simp), resetWhere_eq_self (by simp)]
  | cons entry rest ih =>
    obtain ⟨key, loadReport⟩ := entry
    obtain ⟨drops, within, between⟩ := apart
    rw [List.pairwise_cons] at drops between
    have here := within (key, loadReport) (List.mem_cons_self ..)
    have restApart : Apart rest :=
      ⟨drops.2, fun other member => within other (List.mem_cons_of_mem _ member), between.2⟩
    have dropsApart : ∀ id, loadReport.dropStats.registers id = true →
        rest.any (·.2.dropStats.registers id) = false := by
      intro id registers
      refine List.any_eq_false.mpr fun other member => ?_
      rw [drops.1 other member id registers]
      exact Bool.false_ne_true
    have localitiesApart : ∀ id, loadReport.registersLocality id = true →
        rest.any (·.2.registersLocality id) = false := by
      intro id registers
      refine List.any_eq_false.mpr fun other member => ?_
      rw [between.1 other member id registers]
      exact Bool.false_ne_true
    have same : ∀ other ∈ rest, entrySnapshot now
        (resetWhere loadReport.dropStats.registers dropStats)
        (resetWhere loadReport.registersLocality localityStats) other.2 =
          entrySnapshot now dropStats localityStats other.2 := by
      intro other member
      unfold entrySnapshot
      congr 1
      · refine counters_resetWhere (fun id registered => ?_) dropStats
        cases registers : loadReport.dropStats.registers id with
        | false => rfl
        | true =>
          have spared := drops.1 other member id registers
          simp [Slot.registers, registered] at spared
      · refine List.map_congr_left fun locality listed => ?_
        rw [counters_resetWhere]
        intro id registered
        cases registers : loadReport.registersLocality id with
        | false => rfl
        | true =>
          have spared := List.any_eq_false.mp (between.1 other member id registers) locality listed
          simp [Slot.registers, registered] at spared
    have later := ih restApart (resetWhere loadReport.dropStats.registers dropStats)
      (resetWhere (fun id => loadReport.localityStats.any (·.2.registers id)) localityStats)
    simp only [buildEntries, take_eq, buildLocalities_eq _ here, later]
    refine congrArg₂ Prod.mk ?_ (congrArg₂ Prod.mk ?_ (congrArg₂ Prod.mk ?_ ?_))
    · have tail : (rest.filterMap fun entry => (if recordStats entry.1.clusterName then
          some (entrySnapshot now (resetWhere loadReport.dropStats.registers dropStats)
            (resetWhere (fun id => loadReport.localityStats.any (·.2.registers id)) localityStats)
            entry.2) else none).map (Prod.mk entry.1)) =
          rest.filterMap fun entry => (if recordStats entry.1.clusterName then
            some (entrySnapshot now dropStats localityStats entry.2) else none).map
              (Prod.mk entry.1) := by
        refine List.filterMap_congr fun other member => ?_
        rw [← same other member]
        rfl
      rw [List.filterMap_cons, tail]
      by_cases recorded : recordStats key.clusterName = true
      · simp [recorded, entrySnapshot]
      · simp [recorded]
    · by_cases dropped : ((keptLocalities loadReport.localityStats).isEmpty &&
          loadReport.dropStats.registered.isNone) = true
      · have gone : keptEntry now loadReport = none := if_pos dropped
        rw [List.filterMap_cons_none (by rw [gone, Option.map_none])]
        exact if_pos dropped
      · have kept : keptEntry now loadReport =
            some ⟨loadReport.dropStats.readOut, keptLocalities loadReport.localityStats, now⟩ :=
          if_neg dropped
        rw [List.filterMap_cons_some (by rw [kept, Option.map_some])]
        exact if_neg dropped
    · exact resetWhere_resetWhere dropsApart dropStats
    · exact resetWhere_resetWhere localitiesApart localityStats

end GrpcCore.Xds
