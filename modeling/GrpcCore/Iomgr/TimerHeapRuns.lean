import GrpcCore.Iomgr.TimerHeap
import GrpcCore.Lib.Run

/-!
# Runs of the timer heap

The block holds the items of a binary heap in order, and every timer knows its place. The
sifts keep this for all places but the hole they move.
-/

namespace GrpcCore.Iomgr.TimerHeap

open BinaryHeap (parent parent_lt)

variable {Timer : Type} {heap : TimerHeap Timer} {items : List Timer}
  {hole i j : Nat} {timer other : Timer}

/-! ## All places but one -/

/-- What the sifts leave as it is. -/
structure Frame (heap heap' : TimerHeap Timer) : Prop where
  block : heap'.timers.length = heap.timers.length
  count : heap'.timerCount = heap.timerCount
  capacity : heap'.timerCapacity = heap.timerCapacity
  deadline : heap'.deadline = heap.deadline

theorem Frame.trans {heap heap' heap'' : TimerHeap Timer} (first : Frame heap heap')
    (second : Frame heap' heap'') : Frame heap heap'' where
  block := second.block.trans first.block
  count := second.count.trans first.count
  capacity := second.capacity.trans first.capacity
  deadline := second.deadline.trans first.deadline

/-- The block shows the items, and every item knows its place, but for the hole. -/
structure Shows (heap : TimerHeap Timer) (items : List Timer) (hole : Nat) : Prop where
  fits : items.length ≤ heap.timers.length
  placed : ∀ ⦃j item⦄, j ≠ hole → items[j]? = some item →
    heap.load j = some item ∧ heap.heapIndex item = j

def Absent (items : List Timer) (hole : Nat) (timer : Timer) : Prop :=
  ∀ ⦃j⦄, j ≠ hole → items[j]? ≠ some timer

structure Holds (heap : TimerHeap Timer) (items : List Timer) : Prop where
  fits : items.length ≤ heap.timers.length
  placed : ∀ ⦃j item⦄, items[j]? = some item → heap.load j = some item ∧ heap.heapIndex item = j

theorem Holds.shows (holds : Holds heap items) (hole : Nat) : Shows heap items hole :=
  ⟨holds.fits, fun _ _ _ there => holds.placed there⟩

theorem Holds.absent (holds : Holds heap items) (there : items[i]? = some timer) :
    Absent items i timer := by
  intro j apart at_j
  exact apart ((holds.placed at_j).2.symm.trans (holds.placed there).2)

theorem Absent.move (absent : Absent items hole timer) (apart : j ≠ hole) (bound : hole < items.length)
    (there : items[j]? = some other) : Absent (items.set hole other) j timer := by
  intro k off at_k
  by_cases here : k = hole
  · subst here
    rw [List.getElem?_set_self bound, Option.some.injEq] at at_k
    exact absent apart (at_k ▸ there)
  · rw [List.getElem?_set_ne (Ne.symm here)] at at_k
    exact absent here at_k

variable {key : Timer → Int}

theorem nextChild_spec (reads : heap.deadline = key) (shown : Shows heap items hole)
    (left : 1 + 2 * hole < items.length) :
    heap.nextChild hole items.length = some (BinaryHeap.nextChild key items hole left : Nat) := by
  have loaded : ∀ {j : Nat} (inside : j < items.length), j ≠ hole → heap.load j = some items[j] :=
    fun inside apart => (shown.placed apart (List.getElem?_eq_getElem inside)).1
  rw [TimerHeap.nextChild, BinaryHeap.nextChild]
  split
  next right =>
    rw [loaded left (by omega), loaded right (by omega)]
    simp only [Option.bind_eq_bind, Option.bind_some, reads]
    split <;> rfl
  next => rfl

/-! ## The block -/

/-- The block holds as many items as counted, and has the size it is said to have. -/
structure Sized (heap : TimerHeap Timer) (items : List Timer) : Prop where
  holds : Holds heap items
  counted : heap.timerCount = items.length
  block : heap.timers.length = heap.timerCapacity

/-- The block holds the items of an ordered heap. -/
structure Represents (heap : TimerHeap Timer) (items : List Timer) : Prop
    extends Sized heap items where
  ordered : BinaryHeap.Ordered heap.deadline items

theorem init_represents (deadline : Timer → Int) (heapIndex : Timer → Nat) :
    Represents (init deadline heapIndex) [] where
  holds := ⟨Nat.le_refl 0, fun _ _ there => absurd there nofun⟩
  counted := rfl
  block := rfl
  ordered := .nil

theorem load_realloc {capacity : Nat} (kept : i < capacity) (inside : i < heap.timers.length) :
    (heap.realloc capacity).load i = heap.load i := by
  have bound : i < (heap.timers.take capacity).length := by
    rw [List.length_take]
    omega
  rw [load, realloc, List.getElem?_append_left bound, List.getElem?_take_of_lt kept, load]

theorem length_realloc (heap : TimerHeap Timer) (capacity : Nat) :
    (heap.realloc capacity).timers.length = capacity := by
  rw [realloc, List.length_append, List.length_take, List.length_replicate]
  omega

theorem Holds.realloc (holds : Holds heap items) {capacity : Nat}
    (fits : items.length ≤ capacity) : Holds (heap.realloc capacity) items where
  fits := by rwa [length_realloc]
  placed := by
    intro j item there
    have bound := (List.getElem?_eq_some_iff.mp there).1
    obtain ⟨loaded, index⟩ := holds.placed there
    refine ⟨(load_realloc (by omega) (Nat.lt_of_lt_of_le bound holds.fits)).trans loaded, ?_⟩
    exact index

theorem Sized.realloc (sized : Sized heap items) {capacity : Nat}
    (fits : items.length ≤ capacity) : Sized (heap.realloc capacity) items where
  holds := sized.holds.realloc fits
  counted := sized.counted
  block := length_realloc heap capacity

theorem Sized.maybeShrink (sized : Sized heap items) :
    Sized heap.maybeShrink items ∧ heap.maybeShrink.deadline = heap.deadline := by
  have counted := sized.counted
  rw [TimerHeap.maybeShrink]
  split
  · exact ⟨sized.realloc (by omega), rfl⟩
  · exact ⟨sized, rfl⟩

theorem Sized.dropLast {rest : List Timer} {last : Timer} (sized : Sized heap (rest ++ [last])) :
    Sized { heap with timerCount := heap.timerCount - 1 } rest where
  holds := by
    refine ⟨?_, fun j item there => ?_⟩
    · have fits := sized.holds.fits
      rw [List.length_append] at fits
      exact Nat.le_trans (Nat.le_add_right _ _) fits
    · have bound := (List.getElem?_eq_some_iff.mp there).1
      rw [← List.getElem?_append_left bound] at there
      exact sized.holds.placed there
  counted := by
    rw [sized.counted, List.length_append, List.length_singleton, Nat.add_sub_cancel]
  block := sized.block

theorem Represents.grow (represents : Represents heap items) :
    Represents heap.grow items ∧ heap.grow.deadline = heap.deadline ∧
      items.length < heap.grow.timers.length := by
  have within := represents.holds.fits
  have block := represents.block
  have counted := represents.counted
  rw [TimerHeap.grow]
  split
  next full =>
    refine ⟨⟨represents.realloc (by omega), represents.ordered⟩, rfl, ?_⟩
    rw [length_realloc]
    omega
  next => exact ⟨represents, rfl, by omega⟩

/-! ## One place -/

variable [DecidableEq Timer]

theorem load_place_self (bound : i < heap.timers.length) : (heap.place i timer).load i = some timer := by
  rw [load, place, List.getElem?_set_self bound]
  rfl

theorem load_place_of_ne (apart : j ≠ i) : (heap.place i timer).load j = heap.load j := by
  rw [load, place, List.getElem?_set_ne (Ne.symm apart), load]

theorem heapIndex_place_self : (heap.place i timer).heapIndex timer = i :=
  Function.update_self _ _ _

theorem heapIndex_place_of_ne (apart : other ≠ timer) :
    (heap.place i timer).heapIndex other = heap.heapIndex other :=
  Function.update_of_ne apart _ _

theorem store_of_lt (bound : i < heap.timers.length) :
    heap.store i timer = some (heap.place i timer) := if_pos bound

theorem frame_place : Frame heap (heap.place i timer) where
  block := List.length_set
  count := rfl
  capacity := rfl
  deadline := rfl

theorem Shows.move (shown : Shows heap items hole) (apart : j ≠ hole) (bound : hole < items.length)
    (there : items[j]? = some other) : Shows (heap.place hole other) (items.set hole other) j where
  fits := by
    rw [List.length_set, frame_place.block]
    exact shown.fits
  placed := by
    intro k item off at_k
    by_cases here : k = hole
    · subst here
      rw [List.getElem?_set_self bound, Option.some.injEq] at at_k
      subst at_k
      exact ⟨load_place_self (Nat.lt_of_lt_of_le bound shown.fits), heapIndex_place_self⟩
    · rw [List.getElem?_set_ne (Ne.symm here)] at at_k
      obtain ⟨loaded, index⟩ := shown.placed here at_k
      have distinct : item ≠ other := by
        rintro rfl
        exact off (index.symm.trans (shown.placed apart there).2)
      exact ⟨(load_place_of_ne here).trans loaded, (heapIndex_place_of_ne distinct).trans index⟩

theorem Shows.fill (shown : Shows heap items hole) (absent : Absent items hole timer)
    (bound : hole < items.length) : Holds (heap.place hole timer) (items.set hole timer) where
  fits := by
    rw [List.length_set, frame_place.block]
    exact shown.fits
  placed := by
    intro k item at_k
    by_cases here : k = hole
    · subst here
      rw [List.getElem?_set_self bound, Option.some.injEq] at at_k
      subst at_k
      exact ⟨load_place_self (Nat.lt_of_lt_of_le bound shown.fits), heapIndex_place_self⟩
    · rw [List.getElem?_set_ne (Ne.symm here)] at at_k
      obtain ⟨loaded, index⟩ := shown.placed here at_k
      have distinct : item ≠ timer := by
        rintro rfl
        exact absent here at_k
      exact ⟨(load_place_of_ne here).trans loaded, (heapIndex_place_of_ne distinct).trans index⟩

/-! ## The sifts -/

theorem adjustUpwards_spec (reads : heap.deadline = key) (shown : Shows heap items hole)
    (absent : Absent items hole timer) (bound : hole < items.length) :
    ∃ heap', heap.adjustUpwards hole timer = some heap' ∧ Frame heap heap' ∧
      Holds heap' (BinaryHeap.adjustUpwards key items hole timer).1 ∧
      heap'.heapIndex timer = (BinaryHeap.adjustUpwards key items hole timer).2 := by
  have stored : ∀ {heap : TimerHeap Timer} {items : List Timer} {hole : Nat},
      Shows heap items hole → Absent items hole timer → hole < items.length →
        ∃ heap', heap.store hole timer = some heap' ∧ Frame heap heap' ∧
          Holds heap' (items.set hole timer) ∧ heap'.heapIndex timer = hole :=
    fun shown absent bound => ⟨_, store_of_lt (Nat.lt_of_lt_of_le bound shown.fits), frame_place,
      shown.fill absent bound, heapIndex_place_self⟩
  fun_induction BinaryHeap.adjustUpwards key items hole timer generalizing heap with
  | case1 items hole positive missing =>
    have lower := parent_lt positive
    rw [List.getElem?_eq_getElem (by omega)] at missing
    cases missing
  | case2 items hole positive above at_parent fits =>
    have loaded := (shown.placed (Nat.ne_of_lt (parent_lt positive)) at_parent).1
    rw [TimerHeap.adjustUpwards, dif_pos positive, loaded]
    simp only [Option.bind_eq_bind, Option.bind_some, reads, if_pos fits]
    exact stored shown absent bound
  | case3 items hole positive above at_parent early lower ih =>
    have apart := Nat.ne_of_lt lower
    have loaded := (shown.placed apart at_parent).1
    rw [TimerHeap.adjustUpwards, dif_pos positive, loaded]
    simp only [Option.bind_eq_bind, Option.bind_some, reads, if_neg early,
      store_of_lt (Nat.lt_of_lt_of_le bound shown.fits)]
    obtain ⟨heap', sifted, frame, outcome⟩ := @ih (heap.place hole above)
      reads (shown.move apart bound at_parent) (absent.move apart bound at_parent)
      (by rw [List.length_set]; omega)
    exact ⟨heap', sifted, frame_place.trans frame, outcome⟩
  | case4 items hole root =>
    rw [TimerHeap.adjustUpwards, dif_neg root]
    exact stored shown absent bound

theorem adjustDownwards_of_next {length next : Nat} (inside : 1 + 2 * i < length)
    (chosen : heap.nextChild i length = some next) :
    heap.adjustDownwards i length timer = (heap.load next).bind fun below =>
      if heap.deadline timer ≤ heap.deadline below then heap.store i timer
      else (heap.store i below).bind fun heap' => heap'.adjustDownwards next length timer := by
  rw [adjustDownwards, if_pos inside]
  split
  next missing => cases missing.symm.trans chosen
  next next' found =>
    obtain rfl := Option.mem_unique found chosen
    rfl

theorem adjustDownwards_spec (reads : heap.deadline = key) (shown : Shows heap items hole)
    (absent : Absent items hole timer) (bound : hole < items.length) :
    ∃ heap', heap.adjustDownwards hole items.length timer = some heap' ∧ Frame heap heap' ∧
      Holds heap' (BinaryHeap.adjustDownwards key items hole timer) := by
  have stored : ∀ {heap : TimerHeap Timer} {items : List Timer} {hole : Nat},
      Shows heap items hole → Absent items hole timer → hole < items.length →
        ∃ heap', heap.store hole timer = some heap' ∧ Frame heap heap' ∧
          Holds heap' (items.set hole timer) :=
    fun shown absent bound => ⟨_, store_of_lt (Nat.lt_of_lt_of_le bound shown.fits), frame_place,
      shown.fill absent bound⟩
  fun_induction BinaryHeap.adjustDownwards key items hole timer generalizing heap with
  | case1 items hole left next =>
    rename_i fits

    have later := BinaryHeap.lt_nextChild key items hole left
    have loaded := (shown.placed (Nat.ne_of_gt later) (List.getElem?_eq_getElem next.isLt)).1
    rw [adjustDownwards_of_next left (nextChild_spec reads shown left)]
    simp only [loaded, Option.bind_some, reads, Fin.getElem_fin] at fits ⊢
    rw [if_pos fits]
    exact stored shown absent bound
  | case2 items hole left next late lower =>
    rename_i ih
    have loaded := (shown.placed (Nat.ne_of_gt lower) (List.getElem?_eq_getElem next.isLt)).1
    rw [adjustDownwards_of_next left (nextChild_spec reads shown left)]
    simp only [loaded, Option.bind_some, reads, Fin.getElem_fin] at late ⊢
    rw [if_neg late, store_of_lt (Nat.lt_of_lt_of_le bound shown.fits), Option.bind_some]
    have there := List.getElem?_eq_getElem next.isLt
    obtain ⟨heap', sifted, frame, holds⟩ := @ih (heap.place hole items[next])
      reads (shown.move (Nat.ne_of_gt lower) bound there)
      (absent.move (Nat.ne_of_gt lower) bound there)
      (by rw [List.length_set]; exact next.isLt)
    rw [List.length_set] at sifted
    exact ⟨heap', sifted, frame_place.trans frame, holds⟩
  | case3 items hole leaf =>
    rw [TimerHeap.adjustDownwards, if_neg leaf]
    exact stored shown absent bound

theorem noteChangedPriority_spec (reads : heap.deadline = key) (holds : Holds heap items)
    (counted : heap.timerCount = items.length) (there : items[i]? = some timer) :
    ∃ heap', heap.noteChangedPriority timer = some heap' ∧ Frame heap heap' ∧
      Holds heap' (BinaryHeap.noteChangedPriority key items i timer) := by
  have bound := (List.getElem?_eq_some_iff.mp there).1
  have at_parent : items[parent i]? = some _ := List.getElem?_eq_getElem (by rw [parent]; omega)
  have index : heap.heapIndex timer = i := (holds.placed there).2
  rw [noteChangedPriority, BinaryHeap.noteChangedPriority, at_parent]
  simp only [index, (holds.placed at_parent).1, Option.bind_eq_bind, Option.bind_some, reads]
  split
  · obtain ⟨heap', sifted, frame, holds', _⟩ :=
      adjustUpwards_spec reads (holds.shows i) (holds.absent there) bound
    exact ⟨heap', sifted, frame, holds'⟩
  · rw [counted]
    exact adjustDownwards_spec reads (holds.shows i) (holds.absent there) bound

/-! ## The operations -/

theorem add_spec (represents : Represents heap items) (fresh : timer ∉ items) :
    ∃ heap', heap.add timer = some (heap', (BinaryHeap.add heap.deadline items timer).2) ∧
      heap'.deadline = heap.deadline ∧
      Represents heap' (BinaryHeap.add heap.deadline items timer).1 := by
  obtain ⟨grown, sameDeadline, room⟩ := represents.grow
  have before : ∀ {j : Nat} {item : Timer}, j ≠ items.length →
      (items ++ [timer])[j]? = some item → items[j]? = some item := by
    intro j item apart there
    have bound := (List.getElem?_eq_some_iff.mp there).1
    rw [List.length_append, List.length_singleton] at bound
    rwa [List.getElem?_append_left (by omega)] at there
  have absent : Absent (items ++ [timer]) items.length timer :=
    fun j apart there => fresh (List.mem_of_getElem? (before apart there))
  let ready : TimerHeap Timer := { heap.grow with
    heapIndex := Function.update heap.grow.heapIndex timer heap.grow.timerCount }
  have shown : Shows ready (items ++ [timer]) items.length := by
    refine ⟨by rw [List.length_append]; exact room, fun j item apart there => ?_⟩
    have membership := before apart there
    obtain ⟨loaded, index⟩ := grown.holds.placed membership
    have distinct : item ≠ timer := by
      rintro rfl
      exact fresh (List.mem_of_getElem? membership)
    exact ⟨loaded, (Function.update_of_ne distinct _ _).trans index⟩
  have reads : ready.deadline = heap.deadline := sameDeadline
  obtain ⟨heap', sifted, frame, holds, index⟩ :=
    adjustUpwards_spec reads shown absent (by simp)
  have deadline := frame.deadline.trans reads
  have count : ready.timerCount = items.length := grown.counted
  have adds : heap.add timer = (ready.adjustUpwards ready.timerCount timer).bind fun heap' =>
      some ({ heap' with timerCount := heap'.timerCount + 1 }, heap'.heapIndex timer == 0) := rfl
  rw [adds, count, sifted, Option.bind_some, index]
  refine ⟨_, rfl, deadline, ⟨⟨⟨holds.fits, holds.placed⟩, ?_, ?_⟩, ?_⟩⟩
  · have length := (BinaryHeap.add_perm heap.deadline items timer).length_eq
    rw [length, List.length_cons]
    exact congrArg (· + 1) (frame.count.trans count)
  · exact (frame.block.trans grown.block).trans frame.capacity.symm
  · have ordered := BinaryHeap.add_ordered represents.ordered timer
    exact (congrArg (BinaryHeap.Ordered · _) deadline).mpr ordered

theorem Sized.replace {rest : List Timer} {last : Timer} (sized : Sized heap (rest ++ [last]))
    (inside : i < rest.length) :
    Sized { heap.place i last with timerCount := heap.timerCount - 1 } (rest.set i last) := by
  have shorter := sized.dropLast
  have at_last : (rest ++ [last])[rest.length]? = some last := List.getElem?_concat_length
  have absent : Absent rest i last := by
    intro j _ at_j
    have bound := (List.getElem?_eq_some_iff.mp at_j).1
    rw [← List.getElem?_append_left bound] at at_j
    have same := (sized.holds.placed at_j).2
    rw [(sized.holds.placed at_last).2] at same
    exact Nat.ne_of_gt bound same
  have filled := (shorter.holds.shows i).fill absent inside
  refine ⟨⟨filled.fits, filled.placed⟩, ?_, ?_⟩
  · rw [List.length_set]
    exact shorter.counted
  · exact frame_place.block.trans sized.block

theorem remove_of_last (index : heap.heapIndex timer = heap.timerCount - 1) :
    heap.remove timer =
      some { heap with timerCount := heap.timerCount - 1 }.maybeShrink := by
  exact if_pos index

theorem remove_of_inner {last : Timer} (index : heap.heapIndex timer ≠ heap.timerCount - 1)
    (at_last : heap.load (heap.timerCount - 1) = some last)
    (inside : heap.heapIndex timer < heap.timers.length)
    (at_index : { heap.place (heap.heapIndex timer) last with
      timerCount := heap.timerCount - 1 }.maybeShrink.load (heap.heapIndex timer) = some last) :
    heap.remove timer = { heap.place (heap.heapIndex timer) last with
      timerCount := heap.timerCount - 1 }.maybeShrink.noteChangedPriority last := by
  refine (if_neg index).trans ?_
  simp only [at_last, Option.bind_eq_bind, Option.bind_some, store_of_lt inside]
  exact (congrArg (Option.bind · _) at_index).trans (Option.bind_some _ _)

theorem remove_spec (represents : Represents heap items) (there : items[i]? = some timer) :
    ∃ heap', heap.remove timer = some heap' ∧ heap'.deadline = heap.deadline ∧
      Represents heap' (BinaryHeap.remove heap.deadline items i) := by
  have bound := (List.getElem?_eq_some_iff.mp there).1
  have ordered := BinaryHeap.remove_ordered represents.ordered bound
  obtain rfl := (represents.holds.placed there).2
  rcases List.eq_nil_or_concat' items with rfl | ⟨rest, last, rfl⟩
  · exact absurd bound (Nat.not_lt_zero _)
  · have counted := represents.counted
    rw [List.length_append, List.length_singleton] at bound counted
    have last_index : heap.timerCount - 1 = rest.length := by omega
    rw [BinaryHeap.remove_concat, ← last_index] at ordered ⊢
    split
    next is_last =>
      rw [if_pos is_last] at ordered
      obtain ⟨sized, deadline⟩ := represents.toSized.dropLast.maybeShrink
      exact ⟨_, remove_of_last is_last, deadline, sized,
        (congrArg (BinaryHeap.Ordered · _) deadline).mpr ordered⟩
    next inner =>
      rw [if_neg inner] at ordered
      have inside : heap.heapIndex timer < rest.length := by omega
      have at_last : (rest ++ [last])[rest.length]? = some last := List.getElem?_concat_length
      obtain ⟨sized, deadline⟩ := (represents.toSized.replace inside).maybeShrink
      have at_index := List.getElem?_set_self (a := last) inside
      obtain ⟨heap', noted, frame, holds⟩ :=
        noteChangedPriority_spec deadline sized.holds sized.counted at_index
      have block := represents.holds.fits
      rw [List.length_append] at block
      refine ⟨heap', ?_, frame.deadline.trans deadline, ⟨holds, ?_, ?_⟩, ?_⟩
      · rw [remove_of_inner inner (last_index ▸ (represents.holds.placed at_last).1) (by omega)
          (sized.holds.placed at_index).1]
        exact noted
      · have kept : (BinaryHeap.noteChangedPriority heap.deadline _ _ last).Perm _ :=
          BinaryHeap.noteChangedPriority_perm _ _ _ (by rwa [List.length_set]) at_index
        rw [frame.count, sized.counted]
        exact kept.length_eq.symm
      · rw [frame.block, frame.capacity]
        exact sized.block
      · have same : heap'.deadline = heap.deadline := frame.deadline.trans deadline
        rw [same]
        exact ordered

/-! ## Runs -/

/-- A heap and the timers that were added to it and not taken out again. -/
structure Client (Timer : Type) where
  heap : TimerHeap Timer
  contained : List Timer := []

inductive Call (Timer : Type) where
  | add (timer : Timer) (deadline : Int)
  | remove (timer : Timer)
  | pop

/-- A call to the heap. A timer is not added twice, only a contained one is removed, and
nothing is popped from an empty heap: such calls are not made. -/
def Client.call (client : Client Timer) : Call Timer → Option (Client Timer)
  | .add timer deadline =>
    if timer ∈ client.contained then some client
    else do
      let heap := { client.heap with
        deadline := Function.update client.heap.deadline timer deadline }
      let (heap, _) ← heap.add timer
      return { heap := heap, contained := timer :: client.contained }
  | .remove timer =>
    if timer ∈ client.contained then do
      return { heap := ← client.heap.remove timer, contained := client.contained.erase timer }
    else some client
  | .pop =>
    if client.heap.isEmpty then some client
    else do
      let first ← client.heap.top
      return { heap := ← client.heap.pop, contained := client.contained.erase first }

/-- The heap is a binary heap of the contained timers, each at the place it knows. -/
structure Client.Sound (client : Client Timer) : Prop where
  distinct : client.contained.Nodup
  counted : client.heap.timerCount = client.contained.length
  room : client.heap.timerCount ≤ client.heap.timerCapacity
  block : client.heap.timers.length = client.heap.timerCapacity
  placed : ∀ timer ∈ client.contained, client.heap.heapIndex timer < client.heap.timerCount ∧
    client.heap.load (client.heap.heapIndex timer) = some timer
  filled : ∀ i < client.heap.timerCount, ∃ timer ∈ client.contained,
    client.heap.load i = some timer
  ordered : ∀ i < client.heap.timerCount, 0 < i → ∀ above below,
    client.heap.load ((i - 1) / 2) = some above → client.heap.load i = some below →
      client.heap.deadline above ≤ client.heap.deadline below
  first : client.contained ≠ [] → ∃ timer ∈ client.contained, client.heap.top = some timer ∧
    ∀ other ∈ client.contained, client.heap.deadline timer ≤ client.heap.deadline other
  adds : ∀ timer ∉ client.contained, ∀ deadline, ∃ heap isFirst,
    { client.heap with
      deadline := Function.update client.heap.deadline timer deadline }.add timer =
        some (heap, isFirst) ∧ (isFirst = true ↔ heap.top = some timer)

structure Client.Represents (client : Client Timer) (items : List Timer) : Prop where
  represents : client.heap.Represents items
  contains : items.Perm client.contained
  distinct : client.contained.Nodup

theorem Represents.setDeadline (represents : Represents heap items) (fresh : timer ∉ items)
    (deadline : Int) :
    Represents { heap with deadline := Function.update heap.deadline timer deadline } items where
  holds := ⟨represents.holds.fits, represents.holds.placed⟩
  counted := represents.counted
  block := represents.block
  ordered := by
    intro i above below positive at_above at_below
    have unchanged : ∀ {item : Timer} {j : Nat}, items[j]? = some item →
        Function.update heap.deadline timer deadline item = heap.deadline item := by
      intro item j there
      refine Function.update_of_ne ?_ _ _
      rintro rfl
      exact fresh (List.mem_of_getElem? there)
    have le := represents.ordered positive at_above at_below
    rwa [← unchanged at_above, ← unchanged at_below] at le

theorem Client.Represents.removed {client : Client Timer} (sound : client.Represents items)
    (there : items[i]? = some timer) :
    ∃ heap, client.heap.remove timer = some heap ∧
      Client.Represents ⟨heap, client.contained.erase timer⟩
        (BinaryHeap.remove client.heap.deadline items i) := by
  obtain ⟨heap, removed, deadline, represents⟩ := remove_spec sound.represents there
  refine ⟨heap, removed, represents, ?_, sound.distinct.erase timer⟩
  have taken : items.Perm (timer :: BinaryHeap.remove client.heap.deadline items i) :=
    BinaryHeap.remove_perm there
  have erased := (taken.symm.trans sound.contains).erase timer
  rwa [List.erase_cons_head] at erased

theorem Client.Represents.call {client : Client Timer} (sound : client.Represents items)
    (call : Call Timer) :
    ∃ client' items', client.call call = some client' ∧ client'.Represents items' := by
  cases call with
  | add timer deadline =>
    rw [Client.call]
    split
    next => exact ⟨client, items, rfl, sound⟩
    next absent =>
      have fresh : timer ∉ items := fun there => absent (sound.contains.mem_iff.mp there)
      obtain ⟨heap, added, _, represents⟩ :=
        add_spec (sound.represents.setDeadline fresh deadline) fresh
      refine ⟨⟨heap, timer :: client.contained⟩, _, ?_, represents, ?_, ?_⟩
      · simp only [added, Option.bind_eq_bind, Option.bind_some]
        rfl
      · exact (BinaryHeap.add_perm _ items timer).trans (sound.contains.cons timer)
      · exact List.nodup_cons.mpr ⟨absent, sound.distinct⟩
  | remove timer =>
    rw [Client.call]
    split
    next there =>
      obtain ⟨i, at_i⟩ := List.mem_iff_getElem?.mp (sound.contains.mem_iff.mpr there)
      obtain ⟨heap, removed, represents⟩ := sound.removed at_i
      refine ⟨⟨heap, client.contained.erase timer⟩, _, ?_, represents⟩
      simp only [removed, Option.bind_eq_bind, Option.bind_some]
      rfl
    next => exact ⟨client, items, rfl, sound⟩
  | pop =>
    rw [Client.call]
    split
    next => exact ⟨client, items, rfl, sound⟩
    next filled =>
      have positive : 0 < items.length := by
        rw [← sound.represents.counted]
        exact Nat.pos_of_ne_zero fun none => filled (beq_iff_eq.mpr none)
      have at_top := List.getElem?_eq_getElem positive
      have top : client.heap.top = some items[0] := (sound.represents.holds.placed at_top).1
      obtain ⟨heap, removed, represents⟩ := sound.removed at_top
      refine ⟨⟨heap, client.contained.erase items[0]⟩, _, ?_, represents⟩
      simp only [TimerHeap.pop, top, removed, Option.bind_eq_bind, Option.bind_some]
      rfl

theorem add_isFirst {heap' : TimerHeap Timer} {isFirst : Bool}
    (added : heap.add timer = some (heap', isFirst)) :
    isFirst = (heap'.heapIndex timer == 0) := by
  obtain ⟨sifted, _, result⟩ := Option.bind_eq_some_iff.mp added
  obtain ⟨rfl, rfl⟩ := Prod.mk.inj (Option.some.inj result)
  rfl

omit [DecidableEq Timer] in
theorem Holds.heapIndex_eq_zero_iff (holds : Holds heap items) (there : timer ∈ items) :
    heap.heapIndex timer = 0 ↔ heap.top = some timer := by
  obtain ⟨i, at_i⟩ := List.mem_iff_getElem?.mp there
  obtain ⟨loaded, index⟩ := holds.placed at_i
  constructor
  · intro zero
    rw [index] at zero
    subst zero
    exact loaded
  · intro top
    have positive : 0 < items.length := List.length_pos_of_mem there
    have at_top := holds.placed (List.getElem?_eq_getElem positive)
    obtain rfl := Option.mem_unique top at_top.1
    exact at_top.2

theorem Client.Represents.sound {client : Client Timer} (sound : client.Represents items) :
    client.Sound := by
  have counted := sound.represents.counted
  have placed := sound.represents.holds.placed
  have at_ : ∀ {j : Nat} {timer : Timer}, j < client.heap.timerCount →
      client.heap.load j = some timer → items[j]? = some timer := by
    intro j timer bound loaded
    have there := List.getElem?_eq_getElem (counted ▸ bound)
    rw [there, ← (placed there).1, loaded]
  constructor
  · exact sound.distinct
  · exact counted.trans sound.contains.length_eq
  · rw [counted, ← sound.represents.block]
    exact sound.represents.holds.fits
  · exact sound.represents.block
  · intro timer there
    obtain ⟨i, at_i⟩ := List.mem_iff_getElem?.mp (sound.contains.mem_iff.mpr there)
    obtain ⟨loaded, rfl⟩ := placed at_i
    rw [counted]
    exact ⟨(List.getElem?_eq_some_iff.mp at_i).1, loaded⟩
  · intro i bound
    have there := List.getElem?_eq_getElem (counted ▸ bound)
    exact ⟨_, sound.contains.mem_iff.mp (List.mem_of_getElem? there), (placed there).1⟩
  · intro i bound positive above below at_above at_below
    have lower := parent_lt positive
    exact sound.represents.ordered positive (at_ (Nat.lt_trans lower bound) at_above)
      (at_ bound at_below)
  · intro filled
    have positive : 0 < items.length := by
      rw [sound.contains.length_eq]
      exact List.length_pos_of_ne_nil filled
    have there := List.getElem?_eq_getElem positive
    refine ⟨_, sound.contains.mem_iff.mp (List.mem_of_getElem? there), (placed there).1, ?_⟩
    intro other membership
    exact sound.represents.ordered.head_le there (sound.contains.mem_iff.mpr membership)
  · intro timer absent deadline
    have fresh : timer ∉ items := fun there => absent (sound.contains.mem_iff.mp there)
    obtain ⟨heap, added, _, represents⟩ :=
      add_spec (sound.represents.setDeadline fresh deadline) fresh
    refine ⟨heap, _, added, ?_⟩
    have there := (BinaryHeap.add_perm (Function.update client.heap.deadline timer deadline)
      items timer).mem_iff.mpr List.mem_cons_self
    rw [add_isFirst added, beq_iff_eq]
    exact represents.holds.heapIndex_eq_zero_iff there

/-- Every run of calls on a heap that was set up is answered, and leaves a sound heap. -/
theorem heap_keeps_timers (deadline : Timer → Int) (heapIndex : Timer → Nat)
    (calls : List (Call Timer)) :
    ∃ client, Machine.exec Client.call { heap := init deadline heapIndex } calls = some client ∧
      client.Sound := by
  have kept : ∀ {client : Client Timer} {items : List Timer}, client.Represents items →
      ∃ client', Machine.exec Client.call client calls = some client' ∧ client'.Sound := by
    induction calls with
    | nil =>
      intro client items represents
      exact ⟨client, rfl, represents.sound⟩
    | cons call calls ih =>
      intro client items represents
      obtain ⟨next, items', called, represents'⟩ := represents.call call
      obtain ⟨final, ran, sound⟩ := ih represents'
      refine ⟨final, ?_, sound⟩
      rw [Machine.exec, called, Option.bind_some, ran]
  exact kept ⟨init_represents deadline heapIndex, .refl [], List.nodup_nil⟩

end GrpcCore.Iomgr.TimerHeap
