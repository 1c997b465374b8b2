import GrpcCore.Iomgr.TimerList

/-!
# Shards of timers

What a shard keeps to, and what popping its expired timers leaves.
-/

namespace GrpcCore.Iomgr.Timers

open BinaryHeap Timer

theorem saturatingAdd_eq_min {a b : Int} : saturatingAdd a b = min (a + b) infFuture := by
  rw [saturatingAdd]
  split <;> omega

/-- The timers a shard holds. -/
def Shard.timers (shard : Shard) : List Timer := shard.heap ++ shard.list

structure Shard.Sorted (shard : Shard) : Prop where
  ordered : BinaryHeap.Ordered Timer.deadline shard.heap
  inHeap : ∀ timer ∈ shard.heap, timer.deadline < shard.queueDeadlineCap
  inList : ∀ timer ∈ shard.list, shard.queueDeadlineCap ≤ timer.deadline
  finite : ∀ timer ∈ shard.timers, timer.deadline < infFuture
  cap_le : shard.queueDeadlineCap ≤ infFuture

/-- The deadline a shard expects next comes before the heap, and at most one
millisecond after the list. -/
structure Shard.Bounded (shard : Shard) : Prop where
  le_cap : shard.minDeadline ≤ saturatingAdd shard.queueDeadlineCap 1
  le_heap : ∀ timer ∈ shard.heap, shard.minDeadline ≤ timer.deadline

variable {shard : Shard} {timer : Timer}

theorem Shard.Bounded.le_deadline (bounded : shard.Bounded) (sorted : shard.Sorted)
    (held : timer ∈ shard.timers) : shard.minDeadline ≤ timer.deadline + 1 := by
  rcases List.mem_append.mp held with in_heap | in_list
  · have := bounded.le_heap timer in_heap
    omega
  · have le_cap := bounded.le_cap
    have above := sorted.inList timer in_list
    rw [saturatingAdd_eq_min] at le_cap
    omega

theorem Shard.Bounded.le_infFuture (bounded : shard.Bounded) : shard.minDeadline ≤ infFuture := by
  have le_cap := bounded.le_cap
  rw [saturatingAdd_eq_min] at le_cap
  omega

theorem computeMinDeadline_bounded (sorted : shard.Sorted) :
    Shard.Bounded { shard with minDeadline := computeMinDeadline shard } := by
  have below := sorted.inHeap
  have cap_le := sorted.cap_le
  constructor
  · rw [computeMinDeadline, saturatingAdd_eq_min]
    cases heap : shard.heap with
    | nil => rfl
    | cons top =>
      have := below top (by rw [heap]; exact List.mem_cons_self)
      dsimp only
      omega
  · intro timer held
    rw [computeMinDeadline]
    cases heap : shard.heap with
    | nil => rw [heap] at held; exact absurd held List.not_mem_nil
    | cons =>
      exact sorted.ordered.head_le (by rw [heap]; rfl) held

/-! ## Refilling the heap -/

theorem foldl_add_perm (timers heap : List Timer) :
    (timers.foldl (fun heap timer => (add deadline heap timer).1) heap).Perm (heap ++ timers) := by
  induction timers generalizing heap with
  | nil => rw [List.append_nil, List.foldl_nil]
  | cons timer timers ih =>
    have added := add_perm deadline heap timer
    exact (ih _).trans ((added.append_right timers).trans List.perm_middle.symm)

theorem foldl_add_ordered (timers : List Timer) {heap : List Timer}
    (ordered : BinaryHeap.Ordered deadline heap) :
    BinaryHeap.Ordered deadline
      (timers.foldl (fun heap timer => (add deadline heap timer).1) heap) := by
  induction timers generalizing heap with
  | nil => exact ordered
  | cons timer timers ih => exact ih (add_ordered ordered timer)

theorem refillHeap_heap_perm (empty : shard.heap = []) (now : Int) :
    (refillHeap shard now).heap.Perm
      (shard.list.filter (·.deadline < (refillHeap shard now).queueDeadlineCap)) := by
  refine (foldl_add_perm _ shard.heap).trans ?_
  rw [empty, List.nil_append]
  exact .refl _

theorem refillHeap_perm (empty : shard.heap = []) (now : Int) :
    (refillHeap shard now).timers.Perm shard.timers := by
  have parts := List.filter_append_perm
    (fun timer : Timer => decide (timer.deadline < (refillHeap shard now).queueDeadlineCap))
    shard.list
  refine ((refillHeap_heap_perm empty now).append_right _).trans (.trans (.of_eq ?_) (.trans parts ?_))
  · simp only [refillHeap, decide_not]
  · rw [Shard.timers, empty, List.nil_append]

theorem refillHeap_cap (shard : Shard) (now : Int) :
    (refillHeap shard now).queueDeadlineCap =
      min (max now shard.queueDeadlineCap + (shard.stats 0).millis) infFuture :=
  saturatingAdd_eq_min

theorem refillHeap_sorted (sorted : shard.Sorted) (empty : shard.heap = []) (now : Int) :
    (refillHeap shard now).Sorted where
  ordered := foldl_add_ordered _ sorted.ordered
  inHeap := by
    intro timer held
    have kept := List.mem_filter.mp ((refillHeap_heap_perm empty now).mem_iff.mp held)
    exact of_decide_eq_true kept.2
  inList := by
    intro timer held
    have kept := List.mem_filter.mp held
    exact Int.not_lt.mp (of_decide_eq_true kept.2)
  finite := fun timer held => sorted.finite timer ((refillHeap_perm empty now).mem_iff.mp held)
  cap_le := by
    rw [refillHeap_cap]
    exact Int.min_le_right _ _

/-! ## Popping expired timers -/

/-- Nothing of a shard is due: its timers, and the deadline computed from them. -/
structure Quiet (shard : Shard) (now : Int) : Prop where
  later : ∀ timer ∈ shard.timers, now < timer.deadline
  not_due : shardDue (computeMinDeadline shard) now = false

variable {now : Int}

theorem shardDue_eq_false {deadline : Int} :
    shardDue deadline now = false ↔ now ≤ deadline ∧ (now = infFuture ∨ now ≠ deadline) := by
  simp only [shardDue, Bool.or_eq_false_iff, Bool.and_eq_false_iff, decide_eq_false_iff_not,
    Int.not_lt, bne_eq_false_iff_eq, beq_eq_false_iff_ne, ne_eq, eq_comm (a := now)]

theorem quiet_of_empty (sorted : shard.Sorted) (empty : shard.heap = []) (bound : now ≤ infFuture)
    (passed : now < shard.queueDeadlineCap ∨ shard.queueDeadlineCap = infFuture) :
    Quiet shard now := by
  constructor
  · intro timer held
    rw [Shard.timers, empty, List.nil_append] at held
    have above := sorted.inList timer held
    have finite := sorted.finite timer (List.mem_append_right _ held)
    omega
  · rw [shardDue_eq_false, computeMinDeadline, empty]
    dsimp only
    rw [saturatingAdd_eq_min]
    omega

variable {rest : List Timer}

theorem quiet_of_top (sorted : shard.Sorted) {top : Timer} (heap : shard.heap = top :: rest)
    (later : now < top.deadline) : Quiet shard now := by
  have below_cap := sorted.inHeap top (by rw [heap]; exact List.mem_cons_self)
  constructor
  · intro timer held
    rcases List.mem_append.mp held with in_heap | in_list
    · have := sorted.ordered.head_le (by rw [heap]; rfl) in_heap
      omega
    · have := sorted.inList timer in_list
      omega
  · rw [shardDue_eq_false, computeMinDeadline, heap]
    dsimp only
    omega

/-- What popping comes to: the timers popped are due, and what is left is sorted. -/
structure Popped (shard : Shard) (now : Int) (popped : List Timer) (shard' : Shard) : Prop where
  perm : shard.timers.Perm (popped ++ shard'.timers)
  due : ∀ timer ∈ popped, timer.deadline ≤ now
  sorted : shard'.Sorted

theorem Shard.Sorted.removeHeap (sorted : shard.Sorted) {index : Nat}
    (there : shard.heap[index]? = some timer) :
    Shard.Sorted { shard with heap := remove deadline shard.heap index } := by
  have perm : shard.heap.Perm (timer :: remove deadline shard.heap index) :=
    remove_perm there
  have bound := (List.getElem?_eq_some_iff.mp there).1
  have subset {other : Timer} (held : other ∈ remove deadline shard.heap index) :
      other ∈ shard.heap := perm.mem_iff.mpr (List.mem_cons_of_mem _ held)
  refine ⟨remove_ordered sorted.ordered bound, fun other held => ?_, sorted.inList,
    fun other held => ?_, sorted.cap_le⟩
  · exact sorted.inHeap other (subset held)
  · exact sorted.finite other (List.mem_append.mpr ((List.mem_append.mp held).imp subset id))

theorem remove_top (sorted : shard.Sorted) {top : Timer} (heap : shard.heap = top :: rest)
    (due : top.deadline ≤ now) :
    Popped shard now [top] { shard with heap := remove deadline shard.heap 0 } := by
  have at_top : shard.heap[0]? = some top := by rw [heap]; rfl
  have perm : shard.heap.Perm (top :: remove deadline shard.heap 0) :=
    remove_perm at_top
  exact ⟨perm.append_right shard.list, fun timer held => List.mem_singleton.mp held ▸ due,
    sorted.removeHeap at_top⟩

theorem popTop_spec (sorted : shard.Sorted) (bound : now ≤ infFuture)
    (passed : shard.heap = [] → now < shard.queueDeadlineCap ∨ shard.queueDeadlineCap = infFuture) :
    Popped shard now (popTop shard now).1.toList (popTop shard now).2 ∧
      ((popTop shard now).1 = none → Quiet (popTop shard now).2 now) := by
  rw [popTop]
  cases heap : shard.heap with
  | nil =>
    refine ⟨⟨.refl _, fun _ held => absurd held List.not_mem_nil, sorted⟩, fun _ => ?_⟩
    exact quiet_of_empty sorted heap bound (passed heap)
  | cons top =>
    dsimp only
    split
    next later =>
      refine ⟨⟨.refl _, fun _ held => absurd held List.not_mem_nil, sorted⟩, fun _ => ?_⟩
      exact quiet_of_top sorted heap later
    next due =>
      refine ⟨?_, fun nothing => absurd nothing (Option.some_ne_none top)⟩
      rw [← heap]
      exact remove_top sorted heap (Int.not_lt.mp due)

theorem popOne_spec (sorted : shard.Sorted) (bound : now ≤ infFuture) :
    Popped shard now (popOne shard now).1.toList (popOne shard now).2 ∧
      ((popOne shard now).1 = none → Quiet (popOne shard now).2 now) := by
  rw [popOne]
  split
  next empty =>
    have empty : shard.heap = [] := List.isEmpty_iff.mp empty
    split
    next passed =>
      refine ⟨⟨.refl _, fun _ held => absurd held List.not_mem_nil, sorted⟩, fun _ => ?_⟩
      exact quiet_of_empty sorted empty bound (.inl passed)
    next =>
      have passed : now < (refillHeap shard now).queueDeadlineCap ∨
          (refillHeap shard now).queueDeadlineCap = infFuture := by
        have window := (shard.stats 0).atLeast
        rw [refillHeap_cap]
        omega
      obtain ⟨popped, quiet⟩ := popTop_spec (refillHeap_sorted sorted empty now) bound fun _ => passed
      exact ⟨{ popped with perm := (refillHeap_perm empty now).symm.trans popped.perm }, quiet⟩
  next nonempty =>
    exact popTop_spec sorted bound fun empty => absurd (List.isEmpty_iff.mpr empty) nonempty

theorem popLoop_spec (bound : now ≤ infFuture) (fuel : Nat) (sorted : shard.Sorted)
    (enough : shard.timers.length < fuel) :
    Popped shard now (popLoop now fuel shard).1 (popLoop now fuel shard).2 ∧
      Quiet (popLoop now fuel shard).2 now := by
  induction fuel generalizing shard with
  | zero => exact absurd enough (Nat.not_lt_zero _)
  | succ fuel ih =>
    obtain ⟨one, quiet⟩ := popOne_spec sorted bound
    rw [popLoop]
    generalize popOne shard now = outcome at one quiet
    obtain ⟨_ | timer, left⟩ := outcome
    · exact ⟨one, quiet rfl⟩
    · have shorter : left.timers.length < fuel := by
        have lengths := one.perm.length_eq
        simp only [Option.toList_some, List.length_append, List.length_singleton] at lengths
        omega
      obtain ⟨rest, quiet⟩ := ih one.sorted shorter
      refine ⟨⟨one.perm.trans (rest.perm.cons timer), ?_, rest.sorted⟩, quiet⟩
      intro popped held
      rcases List.mem_cons.mp held with rfl | held
      · exact one.due popped List.mem_cons_self
      · exact rest.due popped held

theorem popTimers_spec (bound : now ≤ infFuture) (sorted : shard.Sorted) :
    Popped shard now (popTimers shard now).1 (popTimers shard now).2 ∧
      Quiet (popTimers shard now).2 now := by
  apply popLoop_spec bound _ sorted
  rw [Shard.timers, List.length_append]
  exact Nat.lt_succ_self _

end GrpcCore.Iomgr.Timers
