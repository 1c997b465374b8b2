import Mathlib

/-!
# Binary heaps in a list

The children of position `i` stand at `2 * i + 1` and `2 * i + 2`. An item is
placed by moving a hole up or down until the item fits into it.
-/

namespace BinaryHeap

variable {Item Key : Type*} [LinearOrder Key] (key : Item → Key)

def parent (i : Nat) : Nat := (i - 1) / 2

theorem parent_lt {i : Nat} (positive : 0 < i) : parent i < i := by
  rw [parent]
  omega

/-- Move the hole at `i` towards the root, and put the item where it fits. The
position it is put at is returned with the list. -/
def adjustUpwards (items : List Item) (i : Nat) (item : Item) : List Item × Nat :=
  if positive : 0 < i then
    match items[parent i]? with
    | none => (items.set i item, i)
    | some above =>
      if key above ≤ key item then (items.set i item, i)
      else
        have := parent_lt positive
        adjustUpwards (items.set i above) (parent i) item
  else (items.set i item, i)
termination_by i

/-- The child the hole moves to: the right one only if it comes before the left. -/
def nextChild (items : List Item) (i : Nat) (left : 1 + 2 * i < items.length) : Fin items.length :=
  if right : 1 + 2 * i + 1 < items.length then
    if key items[1 + 2 * i] > key items[1 + 2 * i + 1] then ⟨1 + 2 * i + 1, right⟩
    else ⟨1 + 2 * i, left⟩
  else ⟨1 + 2 * i, left⟩

theorem nextChild_cases (items : List Item) (i : Nat) (left : 1 + 2 * i < items.length) :
    (nextChild key items i left : Nat) = 1 + 2 * i ∨
      (nextChild key items i left : Nat) = 1 + 2 * i + 1 := by
  rw [nextChild]
  split
  · split
    · exact .inr rfl
    · exact .inl rfl
  · exact .inl rfl

theorem lt_nextChild (items : List Item) (i : Nat) (left : 1 + 2 * i < items.length) :
    i < nextChild key items i left := by
  have cases := nextChild_cases key items i left
  omega

/-- Move the hole at `i` away from the root, and put the item where it fits. -/
def adjustDownwards (items : List Item) (i : Nat) (item : Item) : List Item :=
  if left : 1 + 2 * i < items.length then
    let next := nextChild key items i left
    if key item ≤ key items[next] then items.set i item
    else
      have := lt_nextChild key items i left
      adjustDownwards (items.set i items[next]) next item
  else items.set i item
termination_by items.length - i
decreasing_by
  rw [List.length_set]
  omega

/-- The item is put on its way from the last position; true if it comes first. -/
def add (items : List Item) (item : Item) : List Item × Bool :=
  let (items, i) := adjustUpwards key (items ++ [item]) items.length item
  (items, i == 0)

/-- The item at `i` has changed, and is moved to where it belongs. -/
def noteChangedPriority (items : List Item) (i : Nat) (item : Item) : List Item :=
  match items[parent i]? with
  | none => items
  | some above =>
    if key above > key item then (adjustUpwards key items i item).1
    else adjustDownwards key items i item

/-- The last item takes the place of the one at `i`. -/
def remove (items : List Item) (i : Nat) : List Item :=
  match items.getLast? with
  | none => []
  | some last =>
    if i = items.length - 1 then items.dropLast
    else noteChangedPriority key (items.dropLast.set i last) i last

theorem remove_concat (rest : List Item) (last : Item) (i : Nat) :
    remove key (rest ++ [last]) i =
      if i = rest.length then rest else noteChangedPriority key (rest.set i last) i last := by
  simp only [remove, List.getLast?_append, List.getLast?_singleton, Option.some_or,
    List.length_append, List.length_singleton, Nat.add_sub_cancel, List.dropLast_concat]

/-! ## The items -/

theorem set_swap_perm {items : List Item} {i j : Nat} {there : Item} (item : Item)
    (bound : i < items.length) (apart : i ≠ j) (at_j : items[j]? = some there) :
    ((items.set i there).set j item).Perm (items.set i item) := by
  obtain ⟨bound_j, rfl⟩ := List.getElem?_eq_some_iff.mp at_j
  have bound' : i < (items.set i item).length := by rwa [List.length_set]
  have bound_j' : j < (items.set i item).length := by rwa [List.length_set]
  have perm := List.set_set_perm bound' bound_j'
  rwa [List.getElem_set_self, List.getElem_set_ne apart, List.set_set] at perm

theorem cons_set_perm {items : List Item} {i : Nat} {there : Item} (item : Item)
    (at_i : items[i]? = some there) : (there :: items.set i item).Perm (item :: items) := by
  induction items generalizing i with
  | nil => cases at_i
  | cons head tail ih =>
    cases i with
    | zero =>
      obtain rfl := Option.some.inj at_i
      exact .swap item head tail
    | succ =>
      have inner := (ih at_i).cons head
      exact (List.Perm.swap head there _).trans (inner.trans (.swap item head tail))

theorem adjustUpwards_perm (items : List Item) (i : Nat) (item : Item) (bound : i < items.length) :
    (adjustUpwards key items i item).1.Perm (items.set i item) := by
  fun_induction adjustUpwards key items i item with
  | case1 => exact .refl _
  | case2 => exact .refl _
  | case3 items i positive above at_parent _ lower ih =>
    refine (ih (by rw [List.length_set]; omega)).trans ?_
    exact set_swap_perm item bound (Nat.ne_of_gt lower) at_parent
  | case4 => exact .refl _

theorem adjustDownwards_perm (items : List Item) (i : Nat) (item : Item)
    (bound : i < items.length) :
    (adjustDownwards key items i item).Perm (items.set i item) := by
  fun_induction adjustDownwards key items i item with
  | case1 => exact .refl _
  | case2 items i left next _ lower ih =>
    refine (ih (by rw [List.length_set]; exact next.isLt)).trans ?_
    exact set_swap_perm item bound (Nat.ne_of_lt lower) (List.getElem?_eq_getElem next.isLt)
  | case3 => exact .refl _

theorem add_perm (items : List Item) (item : Item) :
    (add key items item).1.Perm (item :: items) := by
  refine (adjustUpwards_perm key _ _ _ (by simp)).trans ?_
  rw [List.set_append_right _ _ (Nat.le_refl _), Nat.sub_self]
  exact List.perm_append_singleton item items

/-! ## The order -/

/-- No item comes before its parent. -/
def Ordered (items : List Item) : Prop :=
  ∀ ⦃i above below⦄, 0 < i → items[parent i]? = some above → items[i]? = some below →
    key above ≤ key below

structure Hole (items : List Item) (hole : Nat) : Prop where
  except : ∀ ⦃i above below⦄, 0 < i → i ≠ hole → parent i ≠ hole →
    items[parent i]? = some above → items[i]? = some below → key above ≤ key below
  grand : 0 < hole → ∀ ⦃i above below⦄, 0 < i → parent i = hole →
    items[parent hole]? = some above → items[i]? = some below → key above ≤ key below

variable {key} {items : List Item} {hole : Nat} {item : Item}

theorem Ordered.toHole (ordered : Ordered key items) (hole : Nat) : Hole key items hole where
  except := fun _ _ _ positive _ _ at_parent at_i => ordered positive at_parent at_i
  grand := by
    intro positive i above below i_positive is_child at_above at_below
    have bound := (List.getElem?_eq_some_iff.mp at_below).1
    have lower := parent_lt i_positive
    rw [is_child] at lower
    have at_hole := List.getElem?_eq_getElem (Nat.lt_trans lower bound)
    exact le_trans (ordered positive at_above at_hole)
      (ordered i_positive (by rw [is_child]; exact at_hole) at_below)

theorem Hole.set (there : Hole key items hole) (item : Item) :
    Hole key (items.set hole item) hole where
  except := by
    intro i above below positive off_hole parent_off at_parent at_i
    rw [List.getElem?_set_ne (Ne.symm parent_off)] at at_parent
    rw [List.getElem?_set_ne (Ne.symm off_hole)] at at_i
    exact there.except positive off_hole parent_off at_parent at_i
  grand := by
    intro positive i above below i_positive is_child at_above at_below
    have lower := parent_lt i_positive
    have above_lower := parent_lt positive
    rw [List.getElem?_set_ne (by omega)] at at_above
    rw [List.getElem?_set_ne (by omega)] at at_below
    exact there.grand positive i_positive is_child at_above at_below

theorem Hole.fill (there : Hole key items hole)
    (above : 0 < hole → ∀ ⦃above⦄, items[parent hole]? = some above → key above ≤ key item)
    (below : ∀ ⦃i below⦄, 0 < i → parent i = hole → items[i]? = some below →
      key item ≤ key below) : Ordered key (items.set hole item) := by
  intro i upper lower positive at_parent at_i
  have descends := parent_lt positive
  by_cases here : i = hole
  · subst here
    rw [List.getElem?_set_ne (by omega)] at at_parent
    rw [List.getElem?_set_self (by simpa using (List.getElem?_eq_some_iff.mp at_i).1),
      Option.some.injEq] at at_i
    subst at_i
    exact above positive at_parent
  · rw [List.getElem?_set_ne (Ne.symm here)] at at_i
    by_cases is_child : parent i = hole
    · have bound := (List.getElem?_eq_some_iff.mp at_i).1
      rw [is_child, List.getElem?_set_self (by omega), Option.some.injEq] at at_parent
      subst at_parent
      exact below positive is_child at_i
    · rw [List.getElem?_set_ne (Ne.symm is_child)] at at_parent
      exact there.except positive here is_child at_parent at_i

theorem Hole.up (there : Hole key items hole) (positive : 0 < hole) {above : Item}
    (bound : hole < items.length) (at_parent : items[parent hole]? = some above) :
    Hole key (items.set hole above) (parent hole) where
  except := by
    intro i upper lower i_positive off_hole parent_off at_upper at_lower
    by_cases here : i = hole
    · exact absurd (congrArg parent here) parent_off
    rw [List.getElem?_set_ne (Ne.symm here)] at at_lower
    by_cases is_child : parent i = hole
    · rw [is_child, List.getElem?_set_self bound, Option.some.injEq] at at_upper
      subst at_upper
      exact there.grand positive i_positive is_child at_parent at_lower
    · rw [List.getElem?_set_ne (Ne.symm is_child)] at at_upper
      exact there.except i_positive here is_child at_upper at_lower
  grand := by
    intro parent_positive i upper lower i_positive is_child at_upper at_lower
    have first := parent_lt positive
    have second := parent_lt parent_positive
    rw [List.getElem?_set_ne (by omega)] at at_upper
    have above_ordered : key upper ≤ key above :=
      there.except parent_positive (by omega) (by omega) at_upper at_parent
    by_cases here : i = hole
    · subst here
      rw [List.getElem?_set_self bound, Option.some.injEq] at at_lower
      subst at_lower
      exact above_ordered
    · rw [List.getElem?_set_ne (Ne.symm here)] at at_lower
      have sibling := there.except i_positive here (by omega) (is_child ▸ at_parent) at_lower
      exact le_trans above_ordered sibling

theorem adjustUpwards_ordered (items : List Item) (hole : Nat) (item : Item)
    (bound : hole < items.length) (there : Hole key items hole)
    (below : ∀ ⦃i below⦄, 0 < i → parent i = hole → items[i]? = some below →
      key item ≤ key below) :
    Ordered key (adjustUpwards key items hole item).1 := by
  fun_induction adjustUpwards key items hole item with
  | case1 items hole positive missing =>
    refine there.fill (fun _ above at_parent => ?_) below
    rw [missing] at at_parent
    cases at_parent
  | case2 items hole positive above at_parent fits =>
    refine there.fill (fun _ above' at_parent' => ?_) below
    obtain rfl := Option.mem_unique at_parent at_parent'
    exact fits
  | case3 items hole positive above at_parent early lower ih =>
    have before : key item ≤ key above := le_of_not_ge early
    refine ih (by rw [List.length_set]; omega) (there.up positive bound at_parent) ?_
    intro i child i_positive is_child at_child
    by_cases here : i = hole
    · subst here
      rw [List.getElem?_set_self bound, Option.some.injEq] at at_child
      exact at_child ▸ before
    · rw [List.getElem?_set_ne (Ne.symm here)] at at_child
      have sibling := there.except i_positive here (by omega) (is_child ▸ at_parent) at_child
      exact le_trans before sibling
  | case4 items hole root =>
    exact there.fill (fun positive => absurd positive root) below

theorem nextChild_le (items : List Item) (hole : Nat) (left : 1 + 2 * hole < items.length)
    {i : Nat} {child : Item} (positive : 0 < i) (is_child : parent i = hole)
    (at_child : items[i]? = some child) :
    key items[nextChild key items hole left] ≤ key child := by
  obtain ⟨bound, rfl⟩ := List.getElem?_eq_some_iff.mp at_child
  rw [parent] at is_child
  have which : i = 1 + 2 * hole ∨ i = 1 + 2 * hole + 1 := by omega
  simp only [nextChild]
  rcases which with rfl | rfl
  · split
    next right =>
      split
      next before => exact le_of_lt before
      next => exact le_refl _
    next => exact le_refl _
  · split
    next =>
      split
      next => exact le_refl _
      next before => exact le_of_not_gt before
    next missing => exact absurd bound missing

theorem Hole.down (there : Hole key items hole) (left : 1 + 2 * hole < items.length) :
    Hole key (items.set hole items[nextChild key items hole left])
      (nextChild key items hole left) := by
  have cases := nextChild_cases key items hole left
  have at_next := List.getElem?_eq_getElem (nextChild key items hole left).isLt
  have child_of : parent (nextChild key items hole left) = hole := by
    rw [parent]
    omega
  refine ⟨?_, ?_⟩
  · intro i upper lower positive off_hole parent_off at_upper at_lower
    have descends := parent_lt positive
    by_cases here : i = hole
    · subst here
      rw [List.getElem?_set_ne (by omega)] at at_upper
      rw [List.getElem?_set_self (by omega), Option.some.injEq] at at_lower
      subst at_lower
      exact there.grand positive (by omega) child_of at_upper at_next
    · rw [List.getElem?_set_ne (Ne.symm here)] at at_lower
      by_cases is_child : parent i = hole
      · rw [is_child, List.getElem?_set_self (by omega), Option.some.injEq] at at_upper
        subst at_upper
        exact nextChild_le items hole left positive is_child at_lower
      · rw [List.getElem?_set_ne (Ne.symm is_child)] at at_upper
        exact there.except positive here is_child at_upper at_lower
  · intro _ i upper lower positive is_child at_upper at_lower
    have descends := parent_lt positive
    rw [child_of, List.getElem?_set_self (by omega), Option.some.injEq] at at_upper
    subst at_upper
    rw [List.getElem?_set_ne (by omega)] at at_lower
    exact there.except positive (by omega) (by omega) (by rw [is_child]; exact at_next) at_lower

theorem adjustDownwards_ordered (items : List Item) (hole : Nat) (item : Item)
    (there : Hole key items hole)
    (above : 0 < hole → ∀ ⦃above⦄, items[parent hole]? = some above → key above ≤ key item) :
    Ordered key (adjustDownwards key items hole item) := by
  fun_induction adjustDownwards key items hole item with
  | case1 items hole left next fits =>
    refine there.fill above fun i child positive is_child at_child => ?_
    exact le_trans fits (nextChild_le items hole left positive is_child at_child)
  | case2 items hole left next late lower ih =>
    refine ih (there.down left) fun _ upper at_upper => ?_
    have cases := nextChild_cases key items hole left
    have child_of : parent next = hole := by
      rw [parent]
      omega
    rw [child_of, List.getElem?_set_self (by omega), Option.some.injEq] at at_upper
    exact at_upper ▸ le_of_not_ge late
  | case3 =>
    refine there.fill above fun i child positive is_child at_child => ?_
    have bound := (List.getElem?_eq_some_iff.mp at_child).1
    rw [parent] at is_child
    omega

/-! ## The operations -/

theorem Ordered.head_le (ordered : Ordered key items) {top : Item} (at_top : items[0]? = some top)
    {item : Item} (membership : item ∈ items) : key top ≤ key item := by
  obtain ⟨i, at_i⟩ := List.mem_iff_getElem?.mp membership
  induction i using Nat.strongRecOn generalizing item with
  | ind i ih =>
    rcases Nat.eq_zero_or_pos i with rfl | positive
    · obtain rfl := Option.mem_unique at_top at_i
      exact le_refl _
    · have lower := parent_lt positive
      have bound := (List.getElem?_eq_some_iff.mp at_i).1
      have at_parent := List.getElem?_eq_getElem (Nat.lt_trans lower bound)
      have parent_le := ih _ lower (List.mem_of_getElem? at_parent) at_parent
      exact le_trans parent_le (ordered positive at_parent at_i)

theorem Ordered.nil : Ordered key [] := by
  intro i above below _ at_parent
  cases at_parent

theorem Ordered.take_left {items later : List Item} (ordered : Ordered key (items ++ later)) :
    Ordered key items := by
  intro i above below positive at_parent at_i
  have bound := (List.getElem?_eq_some_iff.mp at_i).1
  have lower := parent_lt positive
  refine ordered positive ?_ ?_
  · rw [List.getElem?_append_left (by omega)]
    exact at_parent
  · rw [List.getElem?_append_left bound]
    exact at_i

theorem add_ordered (ordered : Ordered key items) (item : Item) :
    Ordered key (add key items item).1 := by
  have leaf : ∀ ⦃i below⦄, 0 < i → parent i = items.length →
      (items ++ [item])[i]? = some below → False := by
    intro i below positive is_child at_below
    have bound := (List.getElem?_eq_some_iff.mp at_below).1
    rw [List.length_append, List.length_singleton] at bound
    have lower := parent_lt positive
    omega
  refine adjustUpwards_ordered _ _ item (by simp) ⟨?_, ?_⟩
    fun i below positive is_child at_below => absurd at_below (leaf positive is_child)
  · intro i above below positive off _ at_parent at_i
    have bound := (List.getElem?_eq_some_iff.mp at_i).1
    have lower := parent_lt positive
    rw [List.length_append, List.length_singleton] at bound
    rw [List.getElem?_append_left (by omega)] at at_parent at_i
    exact ordered positive at_parent at_i
  · intro _ i above below positive is_child _ at_below
    exact absurd at_below (leaf positive is_child)

theorem adjustUpwards_stopped (items : List Item) (hole : Nat) (item : Item)
    (bound : hole ≤ items.length) :
    (adjustUpwards key items hole item).2 = 0 ∨
      ∃ i < hole, ∃ above, items[i]? = some above ∧ key above ≤ key item := by
  fun_induction adjustUpwards key items hole item with
  | case1 items hole positive missing =>
    have lower := parent_lt positive
    rw [List.getElem?_eq_getElem (by omega)] at missing
    cases missing
  | case2 items hole positive above at_parent fits =>
    exact .inr ⟨parent hole, parent_lt positive, above, at_parent, fits⟩
  | case3 items hole positive above at_parent early lower ih =>
    rcases ih (by rw [List.length_set]; omega) with top | ⟨i, before, upper, at_upper, le⟩
    · exact .inl top
    · rw [List.getElem?_set_ne (by omega)] at at_upper
      exact .inr ⟨i, Nat.lt_trans before lower, upper, at_upper, le⟩
  | case4 items hole root => exact .inl (Nat.eq_zero_of_not_pos root)

theorem add_not_first {item : Item} (not_first : (add key items item).2 = false) :
    ∃ above ∈ items, key above ≤ key item := by
  have stopped : (adjustUpwards key (items ++ [item]) items.length item).2 = 0 ∨ _ :=
    adjustUpwards_stopped (items ++ [item]) items.length item (by simp)
  rcases stopped with top | ⟨i, before, above, at_above, le⟩
  · simp [add, top] at not_first
  · rw [List.getElem?_append_left before] at at_above
    exact ⟨above, List.mem_of_getElem? at_above, le⟩

theorem noteChangedPriority_perm (items : List Item) (i : Nat) (item : Item)
    (bound : i < items.length) (there : items[i]? = some item) :
    (noteChangedPriority key items i item).Perm items := by
  have same : items.set i item = items := by
    obtain ⟨bound, rfl⟩ := List.getElem?_eq_some_iff.mp there
    exact List.set_getElem_self bound
  rw [noteChangedPriority]
  split
  · exact .refl _
  · split
    · exact (adjustUpwards_perm key items i item bound).trans (.of_eq same)
    · exact (adjustDownwards_perm key items i item bound).trans (.of_eq same)

theorem noteChangedPriority_ordered (ordered : Ordered key items) (i : Nat) (item : Item)
    (bound : i < items.length) :
    Ordered key (noteChangedPriority key (items.set i item) i item) := by
  have there := (ordered.toHole i).set item
  have parent_bound : parent i < (items.set i item).length := by
    rw [List.length_set, parent]
    omega
  rw [noteChangedPriority, List.getElem?_eq_getElem parent_bound]
  dsimp only
  split
  next before =>
    have positive : 0 < i := by
      refine Nat.pos_of_ne_zero fun root => ?_
      subst root
      exact lt_irrefl (key item) (by simpa [parent] using before)
    refine adjustUpwards_ordered _ i item (by rwa [List.length_set]) there ?_
    intro j child j_positive is_child at_child
    have grand := there.grand positive j_positive is_child
      (List.getElem?_eq_getElem parent_bound) at_child
    exact le_trans (le_of_lt before) grand
  next fits =>
    refine adjustDownwards_ordered _ i item there fun _ above at_above => ?_
    obtain rfl := Option.some.inj ((List.getElem?_eq_getElem parent_bound).symm.trans at_above)
    exact le_of_not_gt fits

theorem remove_ordered (ordered : Ordered key items) {i : Nat} (bound : i < items.length) :
    Ordered key (remove key items i) := by
  rcases List.eq_nil_or_concat' items with rfl | ⟨rest, last, rfl⟩
  · exact absurd bound (Nat.not_lt_zero i)
  · rw [List.length_append, List.length_singleton] at bound
    rw [remove_concat]
    split
    · exact ordered.take_left
    · exact noteChangedPriority_ordered ordered.take_left i last (by omega)

theorem remove_perm {i : Nat} {item : Item} (there : items[i]? = some item) :
    items.Perm (item :: remove key items i) := by
  have bound := (List.getElem?_eq_some_iff.mp there).1
  rcases List.eq_nil_or_concat' items with rfl | ⟨rest, last, rfl⟩
  · exact absurd bound (Nat.not_lt_zero i)
  · rw [List.length_append, List.length_singleton] at bound
    rw [remove_concat]
    split
    next is_last =>
      subst is_last
      rw [List.getElem?_concat_length, Option.some.injEq] at there
      subst there
      exact List.perm_append_singleton last rest
    next =>
      have inside : i < rest.length := by omega
      rw [List.getElem?_append_left inside] at there
      have placed : (noteChangedPriority key (rest.set i last) i last).Perm _ :=
        noteChangedPriority_perm _ i last (by rwa [List.length_set]) (List.getElem?_set_self inside)
      have swapped := (cons_set_perm last there).symm
      exact (List.perm_append_singleton last rest).trans (swapped.trans (placed.symm.cons item))

end BinaryHeap
