import GrpcCore.Iomgr.TimerShards
import GrpcCore.Lib.Ledger

/-!
# Timers fire on time

A timer that is set stays in its shard till it is cancelled or popped, and the
bounds the shards and the list of timers go by never pass it by more than a
millisecond.
-/

namespace GrpcCore.Iomgr.Timers

open BinaryHeap Ledger

/-! ## The queue of shards -/

section Queue

variable {shards : List Shard} {queue : List Nat} {i : Nat}

theorem minDeadlineOf_of_mem {shard : Shard} (there : shards[i]? = some shard) :
    minDeadlineOf shards i = shard.minDeadline := by
  rw [minDeadlineOf, there]

theorem minDeadlineOf_set_ne (shard : Shard) {j : Nat} (apart : i ≠ j) :
    minDeadlineOf (shards.set i shard) j = minDeadlineOf shards j := by
  rw [minDeadlineOf, minDeadlineOf, List.getElem?_set_ne apart]

theorem minDeadlineOf_set_self {shard : Shard} (shard' : Shard) (there : shards[i]? = some shard) :
    minDeadlineOf (shards.set i shard') i = shard'.minDeadline := by
  have bound := (List.getElem?_eq_some_iff.mp there).1
  rw [minDeadlineOf, List.getElem?_set_self bound]

theorem split_queue (membership : i ∈ queue) :
    queue = queue.takeWhile (· != i) ++ i :: (queue.dropWhile (· != i)).tail := by
  induction queue with
  | nil => exact absurd membership List.not_mem_nil
  | cons head queue ih =>
    by_cases here : head = i
    · subst here
      simp
    · have later := ih ((List.mem_cons.mp membership).resolve_left (Ne.symm here))
      have differs : (head != i) = true := bne_iff_ne.mpr here
      simp only [List.takeWhile_cons, List.dropWhile_cons, differs, if_true]
      rw [List.cons_append, ← later]

theorem noteDeadlineChange_perm (shards : List Shard) (membership : i ∈ queue) :
    (noteDeadlineChange shards queue i).Perm queue := by
  refine (Reposition.reposition_perm _ _ _).trans ?_
  rw [List.reverse_reverse]
  exact List.perm_middle.symm.trans (.of_eq (split_queue membership).symm)

theorem noteDeadlineChange_ascending {shards' : List Shard} (membership : i ∈ queue)
    (nodup : queue.Nodup)
    (ascending : queue.Pairwise fun a b => minDeadlineOf shards a ≤ minDeadlineOf shards b)
    (others : ∀ j, i ≠ j → minDeadlineOf shards' j = minDeadlineOf shards j) :
    (noteDeadlineChange shards' queue i).Pairwise fun a b =>
      minDeadlineOf shards' a ≤ minDeadlineOf shards' b := by
  apply Reposition.reposition_sorted
  rw [List.reverse_reverse]
  rw [split_queue membership] at nodup ascending
  have without := (List.nodup_cons.mp (List.nodup_middle.mp nodup)).1
  have rest := ascending.sublist ((List.sublist_cons_self i _).append_left _)
  refine rest.imp_of_mem fun {a b} a_mem b_mem le => ?_
  rw [others a fun same => without (same ▸ a_mem), others b fun same => without (same ▸ b_mem)]
  exact le

theorem head_le_of_ascending
    (ascending : queue.Pairwise fun a b => minDeadlineOf shards a ≤ minDeadlineOf shards b)
    (membership : i ∈ queue) : minDeadlineOf shards (queue.headD 0) ≤ minDeadlineOf shards i := by
  cases queue with
  | nil => exact absurd membership List.not_mem_nil
  | cons =>
    rcases List.mem_cons.mp membership with rfl | later
    · exact Int.le_refl _
    · exact (List.pairwise_cons.mp ascending).1 i later

end Queue

/-! ## What shards hold -/

/-- The timers of a shard hash to it, lie apart, and are the pending ones that hash
to it. -/
structure Shard.Holds (shard : Shard) (i range : Nat) (pending : Nat → Bool) : Prop where
  hashed : ∀ timer ∈ shard.timers, hashPointer timer.address range = i
  apart : (shard.timers.map Timer.address).Nodup
  flags : ∀ address, hashPointer address range = i →
    (pending address = true ↔ address ∈ shard.timers.map Timer.address)

variable {timer : Timer} {taken : List Timer}

section Holds

variable {shard shard' : Shard} {i range : Nat} {pending pending' : Nat → Bool}

section

variable (holds : shard.Holds i range pending)
include holds

theorem Shard.Holds.insert (hashed : hashPointer timer.address range = i)
    (unset : pending timer.address = false) (perm : shard'.timers.Perm (timer :: shard.timers)) :
    shard'.Holds i range (Function.update pending timer.address true) where
  hashed := by
    intro other held
    rcases List.mem_cons.mp (perm.mem_iff.mp held) with rfl | held
    · exact hashed
    · exact holds.hashed other held
  apart := by
    refine (perm.map Timer.address).nodup_iff.mpr (List.nodup_cons.mpr ⟨fun held => ?_, holds.apart⟩)
    rw [(holds.flags _ hashed).mpr held] at unset
    cases unset
  flags := by
    intro address same
    rw [(perm.map Timer.address).mem_iff, List.map_cons, List.mem_cons, ← holds.flags address same]
    by_cases here : address = timer.address
    · subst here
      simp
    · simp [here]

theorem Shard.Holds.removed (perm : shard.timers.Perm (taken ++ shard'.timers))
    (cleared : ∀ address, pending' address = (pending address && !taken.any (·.address == address))) :
    shard'.Holds i range pending' := by
  have addresses : (shard.timers.map Timer.address).Perm
      (taken.map Timer.address ++ shard'.timers.map Timer.address) := by
    rw [← List.map_append]
    exact perm.map Timer.address
  obtain ⟨-, apart, across⟩ := List.nodup_append.mp (addresses.nodup_iff.mp holds.apart)
  refine ⟨fun timer held => ?_, apart, fun address same => ?_⟩
  · exact holds.hashed timer (perm.mem_iff.mpr (List.mem_append_right _ held))
  · have taken_iff : taken.any (·.address == address) = true ↔
        address ∈ taken.map Timer.address := by simp [List.mem_map]
    rw [cleared, Bool.and_eq_true, holds.flags address same, addresses.mem_iff, List.mem_append,
      Bool.not_eq_true', ← Bool.not_eq_true, taken_iff]
    constructor
    · rintro ⟨held, kept⟩
      exact held.resolve_left kept
    · intro held
      exact ⟨.inr held, fun gone => across address gone address held rfl⟩

theorem Shard.Holds.congr
    (same : ∀ address, hashPointer address range = i → pending' address = pending address) :
    shard.Holds i range pending' :=
  ⟨holds.hashed, holds.apart, fun address here => by rw [same address here, holds.flags address here]⟩

end

end Holds

structure Shard.Good (shard : Shard) (i range : Nat) (pending : Nat → Bool) : Prop where
  sorted : shard.Sorted
  bounded : shard.Bounded
  holds : shard.Holds i range pending

/-! ## The list of timers -/

def heldCount (timer : Timer) (shard : Shard) : Int := shard.timers.count timer

/-- The list of timers as it always is: every timer set is held or has been
scheduled, as often as it has been set. -/
structure Consistent (timers : TimerList) : Prop where
  nonempty : 0 < timers.shards.length
  good : ∀ ⦃i : Nat⦄ ⦃shard : Shard⦄, timers.shards[i]? = some shard →
    shard.Good i timers.shards.length timers.pending
  queue : timers.shardQueue.Perm (List.range timers.shards.length)
  ascending : timers.shardQueue.Pairwise fun a b =>
    minDeadlineOf timers.shards a ≤ minDeadlineOf timers.shards b
  minTimer_le : ∀ ⦃i : Nat⦄ ⦃shard : Shard⦄, timers.shards[i]? = some shard → timers.minTimer ≤ shard.minDeadline
  accounts : ∀ timer, (timers.started.count timer : Int) =
    (timers.scheduled.map Firing.timer).count timer + Ledger.total (heldCount timer) timers.shards
  now_le : timers.now ≤ infFuture

section Consistent

variable {timers timers' : TimerList} {i : Nat} {shard shard' : Shard}

section

variable (consistent : Consistent timers)
include consistent

theorem Consistent.mem_queue (there : timers.shards[i]? = some shard) : i ∈ timers.shardQueue :=
  consistent.queue.mem_iff.mpr (List.mem_range.mpr (List.getElem?_eq_some_iff.mp there).1)

theorem Consistent.nodup : timers.shardQueue.Nodup :=
  consistent.queue.nodup_iff.mpr List.nodup_range

theorem Consistent.firstDeadline_le (there : timers.shards[i]? = some shard) :
    timers.firstDeadline ≤ shard.minDeadline := by
  have first := head_le_of_ascending consistent.ascending (consistent.mem_queue there)
  rwa [minDeadlineOf_of_mem there] at first

theorem Consistent.shard_of (address : Nat) :
    ∃ shard, timers.shards[hashPointer address timers.shards.length]? = some shard :=
  ⟨_, List.getElem?_eq_getElem (Nat.mod_lt _ consistent.nonempty)⟩

theorem Consistent.first : ∃ shard, timers.shards[timers.shardQueue.headD 0]? = some shard := by
  have membership : timers.shardQueue.headD 0 ∈ timers.shardQueue := by
    have length := consistent.queue.length_eq
    rw [List.length_range] at length
    cases queue : timers.shardQueue with
    | nil =>
      rw [queue, List.length_nil] at length
      exact absurd consistent.nonempty (by omega)
    | cons => exact List.mem_cons_self
  exact ⟨_, List.getElem?_eq_getElem (List.mem_range.mp (consistent.queue.mem_iff.mp membership))⟩

theorem Consistent.update (there : timers.shards[i]? = some shard)
    (shards : timers'.shards = timers.shards.set i shard')
    (good : shard'.Good i timers.shards.length timers'.pending)
    (others : ∀ address, hashPointer address timers.shards.length ≠ i →
      timers'.pending address = timers.pending address)
    (queue : timers'.shardQueue.Perm timers.shardQueue)
    (ascending : timers'.shardQueue.Pairwise fun a b =>
      minDeadlineOf timers'.shards a ≤ minDeadlineOf timers'.shards b)
    (minTimer_le : ∀ ⦃j : Nat⦄ ⦃other : Shard⦄, timers'.shards[j]? = some other →
      timers'.minTimer ≤ other.minDeadline)
    (accounts : ∀ timer, (timers'.started.count timer : Int) - timers.started.count timer =
      (timers'.scheduled.map Firing.timer).count timer -
        (timers.scheduled.map Firing.timer).count timer +
        (heldCount timer shard' - heldCount timer shard))
    (now_le : timers'.now ≤ infFuture) : Consistent timers' := by
  have length : timers'.shards.length = timers.shards.length := by rw [shards, List.length_set]
  refine ⟨?_, ?_, ?_, ascending, minTimer_le, ?_, now_le⟩
  · rw [length]
    exact consistent.nonempty
  · intro j other found
    rw [length]
    rw [shards] at found
    rcases set_cases found with ⟨rfl, rfl⟩ | ⟨apart, found⟩
    · exact good
    · have before := consistent.good found
      refine { before with holds := before.holds.congr fun address here => others address ?_ }
      rw [here]
      exact Ne.symm apart
  · rw [length]
    exact queue.trans consistent.queue
  · intro timer
    have before := consistent.accounts timer
    have change := accounts timer
    rw [shards, total_set there]
    omega

end

/-- What a timer's account comes to when one shard is replaced. -/
def Balanced (timers timers' : TimerList) (shard shard' : Shard) : Prop :=
  ∀ timer, (timers'.started.count timer : Int) - timers.started.count timer =
    (timers'.scheduled.map Firing.timer).count timer -
      (timers.scheduled.map Firing.timer).count timer +
      (heldCount timer shard' - heldCount timer shard)

section

variable (consistent : Consistent timers) (there : timers.shards[i]? = some shard)
  (shards : timers'.shards = timers.shards.set i shard')
include consistent there shards

theorem Consistent.replace (minDeadline : shard'.minDeadline = shard.minDeadline)
    (good : shard'.Good i timers.shards.length timers'.pending)
    (others : ∀ address, hashPointer address timers.shards.length ≠ i →
      timers'.pending address = timers.pending address)
    (queue : timers'.shardQueue = timers.shardQueue) (minTimer : timers'.minTimer = timers.minTimer)
    (accounts : Balanced timers timers' shard shard') (now_le : timers'.now ≤ infFuture) :
    Consistent timers' := by
  have same : ∀ j, minDeadlineOf timers'.shards j = minDeadlineOf timers.shards j := by
    intro j
    rw [shards]
    by_cases here : i = j
    · subst here
      rw [minDeadlineOf_set_self shard' there, minDeadlineOf_of_mem there, minDeadline]
    · exact minDeadlineOf_set_ne shard' here
  refine consistent.update there shards good others (.of_eq queue) ?_ ?_ accounts now_le
  · rw [queue]
    simp only [same]
    exact consistent.ascending
  · intro j other found
    rw [minTimer]
    rw [shards] at found
    rcases set_cases found with ⟨rfl, rfl⟩ | ⟨_, found⟩
    · rw [minDeadline]
      exact consistent.minTimer_le there
    · exact consistent.minTimer_le found

theorem Consistent.reposition (good : shard'.Good i timers.shards.length timers'.pending)
    (others : ∀ address, hashPointer address timers.shards.length ≠ i →
      timers'.pending address = timers.pending address)
    (queue : timers'.shardQueue = noteDeadlineChange timers'.shards timers.shardQueue i)
    (minTimer_le : timers'.minTimer ≤ shard'.minDeadline)
    (minTimer_le' : ∀ ⦃j : Nat⦄ ⦃other : Shard⦄, timers.shards[j]? = some other →
      timers'.minTimer ≤ other.minDeadline)
    (accounts : Balanced timers timers' shard shard') (now_le : timers'.now ≤ infFuture) :
    Consistent timers' := by
  have membership := consistent.mem_queue there
  refine consistent.update there shards good others ?_ ?_ ?_ accounts now_le
  · rw [queue]
    exact noteDeadlineChange_perm _ membership
  · rw [queue]
    refine noteDeadlineChange_ascending membership consistent.nodup consistent.ascending ?_
    intro j apart
    rw [shards]
    exact minDeadlineOf_set_ne shard' apart
  · intro j other found
    rw [shards] at found
    rcases set_cases found with ⟨rfl, rfl⟩ | ⟨_, found⟩
    · exact minTimer_le
    · exact minTimer_le' found

end

end Consistent

/-! ## Setting a timer -/

theorem Shard.Sorted.addHeap {shard : Shard} (sorted : shard.Sorted)
    (below : timer.deadline < shard.queueDeadlineCap) :
    Shard.Sorted { shard with heap := (add Timer.deadline shard.heap timer).1 } := by
  have perm := add_perm Timer.deadline shard.heap timer
  have finite := Int.lt_of_lt_of_le below sorted.cap_le
  refine ⟨add_ordered sorted.ordered timer, ?_, sorted.inList, ?_, sorted.cap_le⟩
  · intro other held
    rcases List.mem_cons.mp (perm.mem_iff.mp held) with rfl | held
    · exact below
    · exact sorted.inHeap other held
  · intro other held
    rcases List.mem_append.mp held with held | held
    · rcases List.mem_cons.mp (perm.mem_iff.mp held) with rfl | held
      · exact finite
      · exact sorted.finite other (List.mem_append_left _ held)
    · exact sorted.finite other (List.mem_append_right _ held)

/-- A timer that is not the first of the heap, or not before the deadline the shard
expects, leaves the bound as it is. -/
theorem Shard.Bounded.addHeap {shard : Shard} (bounded : shard.Bounded)
    (late : ¬ ((add Timer.deadline shard.heap timer).2 = true ∧
      timer.deadline < shard.minDeadline)) :
    Shard.Bounded { shard with heap := (add Timer.deadline shard.heap timer).1 } := by
  have perm := add_perm Timer.deadline shard.heap timer
  refine ⟨bounded.le_cap, fun other held => ?_⟩
  rcases List.mem_cons.mp (perm.mem_iff.mp held) with rfl | held
  · by_cases first : (add Timer.deadline shard.heap other).2 = true
    · exact Int.not_lt.mp fun early => late ⟨first, early⟩
    · obtain ⟨above, held, le⟩ := add_not_first (eq_false_of_ne_true first)
      exact Int.le_trans (bounded.le_heap above held) le
  · exact bounded.le_heap other held

theorem Shard.Bounded.lowered {shard : Shard} (bounded : shard.Bounded) (sorted : shard.Sorted)
    (below : timer.deadline < shard.queueDeadlineCap) (early : timer.deadline < shard.minDeadline) :
    Shard.Bounded { shard with
      heap := (add Timer.deadline shard.heap timer).1
      minDeadline := timer.deadline } := by
  have perm := add_perm Timer.deadline shard.heap timer
  have cap_le := sorted.cap_le
  constructor
  · dsimp only
    rw [saturatingAdd_eq_min]
    omega
  · intro other held
    rcases List.mem_cons.mp (perm.mem_iff.mp held) with rfl | held
    · exact Int.le_refl _
    · exact Int.le_of_lt (Int.lt_of_lt_of_le early (bounded.le_heap other held))

theorem Shard.Sorted.joinList {shard : Shard} (sorted : shard.Sorted)
    (above : shard.queueDeadlineCap ≤ timer.deadline) (finite : timer.deadline < infFuture) :
    Shard.Sorted { shard with list := shard.list ++ [timer] } := by
  refine ⟨sorted.ordered, sorted.inHeap, ?_, ?_, sorted.cap_le⟩
  · intro other held
    rcases List.mem_append.mp held with held | held
    · exact sorted.inList other held
    · exact List.mem_singleton.mp held ▸ above
  · intro other held
    rcases List.mem_append.mp held with in_heap | held
    · exact sorted.finite other (List.mem_append_left _ in_heap)
    · rcases List.mem_append.mp held with held | held
      · exact sorted.finite other (List.mem_append_right _ held)
      · exact List.mem_singleton.mp held ▸ finite

theorem Consistent.minTimer_le_first {timers : TimerList} (consistent : Consistent timers) :
    timers.minTimer ≤ timers.firstDeadline := by
  obtain ⟨shard, there⟩ := consistent.first
  rw [TimerList.firstDeadline, minDeadlineOf_of_mem there]
  exact consistent.minTimer_le there

variable {deadline : Int}

theorem Consistent.head_of_earliest {timers : TimerList} (consistent : Consistent timers) {i : Nat}
    {shard : Shard} (there : timers.shards[i]? = some shard) (shard' : Shard)
    (early : deadline < timers.firstDeadline) :
    (timers.setMinDeadline i shard' deadline).shardQueue.head? = some i := by
  have membership := consistent.mem_queue there
  have perm := noteDeadlineChange_perm
    (timers.shards.set i { shard' with minDeadline := deadline }) membership
  have ascending := noteDeadlineChange_ascending membership consistent.nodup consistent.ascending
    fun j apart => minDeadlineOf_set_ne { shard' with minDeadline := deadline } apart
  simp only [TimerList.setMinDeadline]
  cases queue : noteDeadlineChange
      (timers.shards.set i { shard' with minDeadline := deadline }) timers.shardQueue i with
  | nil =>
    rw [queue] at perm
    exact absurd membership (perm.nil_eq ▸ List.not_mem_nil)
  | cons head rest =>
    rw [queue] at perm ascending
    by_cases same : head = i
    · rw [same, List.head?_cons]
    · have later : i ∈ rest := (List.mem_cons.mp (perm.mem_iff.mpr membership)).resolve_left
        (Ne.symm same)
      have le := (List.pairwise_cons.mp ascending).1 i later
      have head_mem : head ∈ timers.shardQueue := perm.mem_iff.mp List.mem_cons_self
      have first := head_le_of_ascending consistent.ascending head_mem
      rw [minDeadlineOf_set_self _ there, minDeadlineOf_set_ne _ (Ne.symm same)] at le
      exact absurd (Int.lt_of_le_of_lt (Int.le_trans first le) early) (Int.lt_irrefl _)

variable {timers timers' : TimerList} {shard shard' : Shard}

theorem balanced_of_started (started : timers'.started = timers.started ++ [timer])
    (scheduled : timers'.scheduled = timers.scheduled)
    (perm : shard'.timers.Perm (timer :: shard.timers)) : Balanced timers timers' shard shard' := by
  intro other
  simp only [started, scheduled, heldCount, perm.count_eq, List.count_append, List.count_cons,
    List.count_nil]
  omega

variable {now : Int}

theorem timerInit_consistent {timers : TimerList} (consistent : Consistent timers)
    (clock : now ≤ infFuture) (unset : timers.pending timer.address = false)
    (finite : timer.deadline < infFuture) : Consistent (timerInit timers now timer) := by
  obtain ⟨shard, there⟩ := consistent.shard_of timer.address
  have before := consistent.good there
  have others : ∀ address, hashPointer address timers.shards.length ≠
      hashPointer timer.address timers.shards.length →
      Function.update timers.pending timer.address true address = timers.pending address :=
    fun address apart => Function.update_of_ne (fun same => apart (by rw [same])) _ _
  simp only [timerInit, there]
  split
  next expired =>
    have flags : Function.update timers.pending timer.address false = timers.pending :=
      unset ▸ Function.update_eq_self timer.address timers.pending
    refine { consistent with good := ?_, accounts := ?_, now_le := clock }
    · simp only [TimerList.schedule, TimerList.setPending, flags]
      exact consistent.good
    · intro other
      have account := consistent.accounts other
      simp only [TimerList.schedule, TimerList.setPending, List.map_append, List.count_append,
        List.map_cons, List.map_nil]
      omega
  next later =>
    split
    next below =>
      have perm := (add_perm Timer.deadline shard.heap timer).append_right shard.list
      have holds {minDeadline : Int} : Shard.Holds
          { shard with
            heap := (add Timer.deadline shard.heap timer).1
            minDeadline := minDeadline } _ _ _ := before.holds.insert rfl unset perm
      have sorted := before.sorted.addHeap below
      split
      next first =>
        have lowered := before.bounded.lowered before.sorted below first.2
        have good : Shard.Good { shard with
            heap := (add Timer.deadline shard.heap timer).1
            minDeadline := timer.deadline } _ _ _ := ⟨{ sorted with }, lowered, holds⟩
        split
        next earliest =>
          exact consistent.reposition there rfl good others rfl (Int.le_refl _)
            (fun j other found =>
              Int.le_of_lt (Int.lt_of_lt_of_le earliest.2 (consistent.firstDeadline_le found)))
            (balanced_of_started rfl rfl perm) clock
        next not_earliest =>
          have le : timers.minTimer ≤ timer.deadline := by
            by_cases early : timer.deadline < timers.firstDeadline
            · exact absurd ⟨consistent.head_of_earliest there _ early, early⟩ not_earliest
            · exact Int.le_trans consistent.minTimer_le_first (Int.not_lt.mp early)
          exact consistent.reposition there rfl good others rfl le consistent.minTimer_le
            (balanced_of_started rfl rfl perm) clock
      next not_first =>
        exact consistent.replace there rfl rfl
          ⟨sorted, before.bounded.addHeap not_first, holds⟩ others rfl rfl
          (balanced_of_started rfl rfl perm) clock
    next above =>
      have perm : (shard.heap ++ (shard.list ++ [timer])).Perm (timer :: shard.timers) := by
        rw [← List.append_assoc]
        exact List.perm_append_singleton timer shard.timers
      exact consistent.replace there rfl rfl
        ⟨before.sorted.joinList (Int.not_lt.mp above) finite, { before.bounded with },
          before.holds.insert rfl unset perm⟩ others rfl rfl
        (balanced_of_started rfl rfl perm) clock

/-! ## Cancelling a timer -/

theorem balanced_of_taken (started : timers'.started = timers.started)
    (scheduled : timers'.scheduled.map Firing.timer = timers.scheduled.map Firing.timer ++ taken)
    (perm : shard.timers.Perm (taken ++ shard'.timers)) : Balanced timers timers' shard shard' := by
  intro timer
  simp only [started, scheduled, heldCount, perm.count_eq, List.count_append]
  omega

theorem Shard.Sorted.removeList {shard : Shard} (sorted : shard.Sorted) (timer : Timer) :
    Shard.Sorted { shard with list := shard.list.erase timer } := by
  refine ⟨sorted.ordered, sorted.inHeap, fun other held => ?_, fun other held => ?_, sorted.cap_le⟩
  · exact sorted.inList other (List.mem_of_mem_erase held)
  · exact sorted.finite other
      (List.mem_append.mpr ((List.mem_append.mp held).imp id List.mem_of_mem_erase))

theorem Shard.Bounded.removeHeap {shard : Shard} (bounded : shard.Bounded) {index : Nat}
    (there : shard.heap[index]? = some timer) :
    Shard.Bounded { shard with heap := remove Timer.deadline shard.heap index } := by
  have perm : shard.heap.Perm (timer :: remove Timer.deadline shard.heap index) :=
    remove_perm there
  exact ⟨bounded.le_cap, fun other held =>
    bounded.le_heap other (perm.mem_iff.mpr (List.mem_cons_of_mem _ held))⟩

/-- What a cancel does: nothing to a timer that is not pending, and otherwise one
shard loses the timer, and its closure is scheduled. -/
inductive Cancelled (timers : TimerList) (address : Nat) : TimerList → Prop where
  | idle (unset : timers.pending address = false) : Cancelled timers address timers
  | taken {shard shard' : Shard} {timer : Timer}
      (there : timers.shards[hashPointer address timers.shards.length]? = some shard)
      (same : timer.address = address) (perm : shard.timers.Perm ([timer] ++ shard'.timers))
      (sorted : shard'.Sorted) (bounded : shard'.Bounded)
      (minDeadline : shard'.minDeadline = shard.minDeadline) :
      Cancelled timers address
        { timers with
          pending := Function.update timers.pending address false
          shards := timers.shards.set (hashPointer address timers.shards.length) shard'
          scheduled := timers.scheduled ++ [⟨timer, .cancelled⟩] }

theorem timerCancel_cancelled {timers : TimerList} (consistent : Consistent timers)
    (address : Nat) : Cancelled timers address (timerCancel timers address) := by
  obtain ⟨shard, there⟩ := consistent.shard_of address
  have good := consistent.good there
  simp only [timerCancel, there]
  split
  next pending =>
    cases index : shard.heap.findIdx? (·.address == address) with
    | some index =>
      obtain ⟨bound, same, -⟩ := List.findIdx?_eq_some_iff_getElem.mp index
      have found := List.getElem?_eq_getElem bound
      simp only [found]
      exact .taken there (beq_iff_eq.mp same)
        ((remove_perm found).append_right shard.list)
        (good.sorted.removeHeap found) (good.bounded.removeHeap found) rfl
    | none =>
      have not_in_heap := List.findIdx?_eq_none_iff.mp index
      obtain ⟨timer, held, same⟩ := List.mem_map.mp ((good.holds.flags address rfl).mp pending)
      have in_list : timer ∈ shard.list := by
        refine (List.mem_append.mp held).resolve_left fun in_heap => ?_
        have differs := not_in_heap timer in_heap
        rw [same, beq_self_eq_true] at differs
        cases differs
      cases found : shard.list.find? (·.address == address) with
      | none =>
        have differs := List.find?_eq_none.mp found timer in_list
        exact absurd (beq_iff_eq.mpr same) differs
      | some timer =>
        have same : timer.address = address := by simpa using List.find?_some found
        have perm := (List.perm_cons_erase (List.mem_of_find?_eq_some found)).append_left
          shard.heap
        exact .taken there same (perm.trans List.perm_middle) (good.sorted.removeList timer)
          { good.bounded with } rfl
  next unset => exact .idle (eq_false_of_ne_true unset)

theorem update_false_eq (pending : Nat → Bool) (timer : Timer) (address : Nat) :
    Function.update pending timer.address false address =
      (pending address && !([timer].any (·.address == address))) := by
  by_cases here : address = timer.address
  · subst here
    simp
  · rw [Function.update_of_ne here]
    simp [Ne.symm here]

theorem Cancelled.consistent {address : Nat} (cancelled : Cancelled timers address timers')
    (consistent : Consistent timers) : Consistent timers' := by
  cases cancelled with
  | idle => exact consistent
  | taken there same perm sorted bounded minDeadline =>
    subst same
    have holds := (consistent.good there).holds.removed perm (update_false_eq timers.pending _)
    refine consistent.replace there rfl minDeadline ⟨sorted, bounded, holds⟩ ?_ rfl rfl
      (balanced_of_taken rfl (by simp) perm) consistent.now_le
    intro address apart
    exact Function.update_of_ne (fun here => apart (by rw [here])) _ _

/-! ## Checking for expired timers -/

theorem shardDue_mono {deadline' : Int} (le : deadline ≤ deadline')
    (not_due : shardDue deadline now = false) : shardDue deadline' now = false := by
  rw [shardDue_eq_false] at not_due ⊢
  omega

theorem Consistent.fire {timers : TimerList} (consistent : Consistent timers) {i : Nat}
    (there : timers.shards[i]? = some shard) {now : Int} {popped : List Timer}
    (outcome : Popped shard now popped shard') (quiet : Quiet shard' now)
    (minTimer_le : timers.minTimer ≤ now) (verdict : Verdict) :
    Consistent ((timers.fire popped verdict).setMinDeadline i shard'
      (computeMinDeadline shard')) := by
  have before := consistent.good there
  have holds := before.holds.removed outcome.perm fun address => rfl
  have not_due := (shardDue_eq_false.mp quiet.not_due).1
  refine consistent.reposition there rfl
    ⟨{ outcome.sorted with }, computeMinDeadline_bounded outcome.sorted, { holds with }⟩ ?_ rfl
    (Int.le_trans minTimer_le not_due) consistent.minTimer_le
    (balanced_of_taken rfl ?_ outcome.perm) consistent.now_le
  · intro address apart
    have spared : popped.any (·.address == address) = false := by
      refine List.any_eq_false.mpr fun timer held same => apart ?_
      rw [← beq_iff_eq.mp same]
      exact before.holds.hashed timer (outcome.perm.mem_iff.mpr (List.mem_append_left _ held))
    simp only [TimerList.setMinDeadline, TimerList.fire, spared, Bool.not_false, Bool.and_true]
  · simp only [TimerList.setMinDeadline, TimerList.fire, List.map_append, List.map_map,
      List.append_cancel_left_eq]
    exact List.map_id' popped

def dueCount (timers : TimerList) (now : Int) : Nat :=
  timers.shards.countP fun shard => shardDue shard.minDeadline now

/-- What the loop over the shards comes to: no shard is due, timers that were due
have been scheduled, and shards that were not due are as before. -/
structure Checked (timers : TimerList) (now : Int) (verdict : Verdict) (timers' : TimerList) :
    Prop where
  consistent : Consistent timers'
  started : timers'.started = timers.started
  fired : ∃ popped : List Timer, (∀ timer ∈ popped, timer.deadline ≤ now) ∧
    timers'.scheduled = timers.scheduled ++ popped.map fun timer => ⟨timer, verdict⟩
  not_due : ∀ ⦃i : Nat⦄ ⦃shard : Shard⦄, timers'.shards[i]? = some shard →
    shardDue shard.minDeadline now = false
  spared : ∀ ⦃i : Nat⦄ ⦃shard : Shard⦄, timers.shards[i]? = some shard →
    shardDue shard.minDeadline now = false → timers'.shards[i]? = some shard
  looked_at : ∀ ⦃i : Nat⦄ ⦃shard' : Shard⦄, timers'.shards[i]? = some shard' →
    timers.shards[i]? = some shard' ∨ ∀ timer ∈ shard'.timers, now < timer.deadline

theorem Checked.refl {timers : TimerList} (consistent : Consistent timers) (verdict : Verdict)
    (not_due : ∀ ⦃i : Nat⦄ ⦃shard : Shard⦄, timers.shards[i]? = some shard →
      shardDue shard.minDeadline now = false) : Checked timers now verdict timers where
  consistent := consistent
  started := rfl
  fired := ⟨[], fun _ held => absurd held List.not_mem_nil, (List.append_nil _).symm⟩
  not_due := not_due
  spared := fun _ _ found _ => found
  looked_at := fun _ _ found => .inl found

theorem not_due_of_dueCount {timers : TimerList} (none_due : dueCount timers now = 0) ⦃i : Nat⦄
    ⦃shard : Shard⦄ (there : timers.shards[i]? = some shard) :
    shardDue shard.minDeadline now = false :=
  eq_false_of_ne_true (List.countP_eq_zero.mp none_due shard (List.mem_of_getElem? there))

theorem checkShards_checked (bound : now ≤ infFuture) (verdict : Verdict) (fuel : Nat)
    {timers : TimerList} (consistent : Consistent timers) (minTimer_le : timers.minTimer ≤ now)
    (enough : dueCount timers now ≤ fuel) :
    Checked timers now verdict (checkShards now verdict fuel timers).1 := by
  induction fuel generalizing timers with
  | zero =>
    exact .refl consistent verdict (not_due_of_dueCount (Nat.le_zero.mp enough))
  | succ fuel ih =>
    obtain ⟨shard, there⟩ := consistent.first
    rw [checkShards]
    simp only [there]
    split
    next due =>
      obtain ⟨outcome, quiet⟩ := popTimers_spec bound (consistent.good there).sorted
      generalize popTimers shard now = popped at outcome quiet
      obtain ⟨popped, shard'⟩ := popped
      have next := consistent.fire there outcome quiet minTimer_le verdict
      have place := (List.getElem?_eq_some_iff.mp there).1
      have fewer : dueCount ((timers.fire popped verdict).setMinDeadline
          (timers.shardQueue.headD 0) shard' (computeMinDeadline shard')) now ≤ fuel := by
        have here : shardDue (timers.shards[timers.shardQueue.headD 0]).minDeadline now = true := by
          rw [(List.getElem?_eq_some_iff.mp there).2]
          exact due
        have positive : 0 < dueCount timers now :=
          List.countP_pos_iff.mpr ⟨_, List.getElem_mem place, here⟩
        simp only [dueCount, TimerList.setMinDeadline, TimerList.fire, List.countP_set place, here,
          quiet.not_due, if_true, Bool.false_eq_true, if_false] at positive enough ⊢
        omega
      have rest := ih next minTimer_le fewer
      refine ⟨rest.consistent, rest.started, ?_, rest.not_due, ?_, ?_⟩
      · obtain ⟨later, later_due, scheduled⟩ := rest.fired
        refine ⟨popped ++ later, fun timer held => ?_, ?_⟩
        · exact (List.mem_append.mp held).elim (outcome.due timer) (later_due timer)
        · rw [scheduled, List.map_append, ← List.append_assoc]
          rfl
      · intro j other found spared
        refine rest.spared ?_ spared
        simp only [TimerList.setMinDeadline]
        by_cases here : timers.shardQueue.headD 0 = j
        · subst here
          obtain rfl := Option.mem_unique there found
          rw [due] at spared
          cases spared
        · rw [List.getElem?_set_ne here]
          exact found
      · intro j other found
        rcases rest.looked_at found with found | later
        · rcases set_cases found with ⟨-, rfl⟩ | ⟨_, found⟩
          · exact .inr quiet.later
          · exact .inl found
        · exact .inr later
    next not_due =>
      refine .refl consistent verdict fun j other found => ?_
      have le := consistent.firstDeadline_le found
      rw [TimerList.firstDeadline, minDeadlineOf_of_mem there] at le
      exact shardDue_mono le (eq_false_of_ne_true not_due)

end GrpcCore.Iomgr.Timers
