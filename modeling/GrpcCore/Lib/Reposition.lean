import Mathlib

/-!
# An item put back in its place

One item of a sorted list has changed. It is swapped with its neighbours, first
to the left and then to the right, until the list is sorted again. The items on
its left are given from the nearest on.
-/

namespace Reposition

variable {Item Key : Type*} [LinearOrder Key] (key : Item → Key)

def moveLeft (item : Item) : List Item → List Item → List Item × List Item
  | [], right => ([], right)
  | before :: left, right =>
    if key item < key before then moveLeft item left (before :: right)
    else (before :: left, right)

def moveRight (item : Item) (left : List Item) : List Item → List Item × List Item
  | [] => (left, [])
  | after :: right =>
    if key item > key after then moveRight item (after :: left) right
    else (left, after :: right)

def reposition (item : Item) (left right : List Item) : List Item :=
  let (left, right) := moveLeft key item left right
  let (left, right) := moveRight key item left right
  left.reverse ++ item :: right

theorem moveLeft_others (item : Item) (left right : List Item) :
    (moveLeft key item left right).1.reverse ++ (moveLeft key item left right).2 =
      left.reverse ++ right := by
  induction left generalizing right with
  | nil => rfl
  | cons before left ih =>
    rw [moveLeft]
    split
    · rw [ih, List.reverse_cons, List.append_assoc, List.singleton_append]
    · rfl

theorem moveRight_others (item : Item) (left right : List Item) :
    (moveRight key item left right).1.reverse ++ (moveRight key item left right).2 =
      left.reverse ++ right := by
  induction right generalizing left with
  | nil => rfl
  | cons after right ih =>
    rw [moveRight]
    split
    · rw [ih, List.reverse_cons, List.append_assoc, List.singleton_append]
    · rfl

def Descending (left : List Item) : Prop :=
  left.Pairwise fun near far => key far ≤ key near

variable {key}

theorem moveLeft_le {item : Item} {left : List Item} (descending : Descending key left)
    (right : List Item) : ∀ before ∈ (moveLeft key item left right).1, key before ≤ key item := by
  induction left generalizing right with
  | nil => exact fun _ membership => absurd membership List.not_mem_nil
  | cons nearest left ih =>
    obtain ⟨farther, rest⟩ := List.pairwise_cons.mp descending
    rw [moveLeft]
    split
    · exact ih rest _
    next fits =>
      intro before membership
      have nearest_le : key nearest ≤ key item := le_of_not_gt fits
      rcases List.mem_cons.mp membership with rfl | membership
      · exact nearest_le
      · exact le_trans (farther before membership) nearest_le

theorem moveRight_le {item : Item} {left right : List Item}
    (ascending : right.Pairwise fun near far => key near ≤ key far)
    (before_le : ∀ before ∈ left, key before ≤ key item) :
    (∀ before ∈ (moveRight key item left right).1, key before ≤ key item) ∧
      ∀ after ∈ (moveRight key item left right).2, key item ≤ key after := by
  induction right generalizing left with
  | nil => exact ⟨before_le, fun _ membership => absurd membership List.not_mem_nil⟩
  | cons nearest right ih =>
    obtain ⟨farther, rest⟩ := List.pairwise_cons.mp ascending
    rw [moveRight]
    split
    next early =>
      refine ih rest fun before membership => ?_
      rcases List.mem_cons.mp membership with rfl | membership
      · exact le_of_lt early
      · exact before_le before membership
    next fits =>
      refine ⟨before_le, fun after membership => ?_⟩
      have le_nearest : key item ≤ key nearest := le_of_not_gt fits
      rcases List.mem_cons.mp membership with rfl | membership
      · exact le_nearest
      · exact le_trans le_nearest (farther after membership)

theorem reposition_perm (item : Item) (left right : List Item) :
    (reposition key item left right).Perm (item :: (left.reverse ++ right)) := by
  rw [← moveLeft_others key item left right,
    ← moveRight_others key item (moveLeft key item left right).1]
  exact List.perm_middle

theorem reposition_sorted {item : Item} {left right : List Item}
    (sorted : (left.reverse ++ right).Pairwise fun a b => key a ≤ key b) :
    (reposition key item left right).Pairwise fun a b => key a ≤ key b := by
  have descending : Descending key left :=
    List.pairwise_reverse.mp (List.pairwise_append.mp sorted).1
  have before_le : ∀ before ∈ (moveLeft key item left right).1, key before ≤ key item :=
    moveLeft_le descending right
  rw [← moveLeft_others key item left right] at sorted
  have ascending := (List.pairwise_append.mp sorted).2.1
  obtain ⟨before_le, le_after⟩ := moveRight_le ascending before_le
  rw [← moveRight_others key item (moveLeft key item left right).1] at sorted
  obtain ⟨sorted_left, sorted_right, across⟩ := List.pairwise_append.mp sorted
  refine List.pairwise_append.mpr ⟨sorted_left, ?_, ?_⟩
  · exact List.pairwise_cons.mpr ⟨le_after, sorted_right⟩
  · intro before before_mem after after_mem
    rcases List.mem_cons.mp after_mem with rfl | after_mem
    · exact before_le before (List.mem_reverse.mp before_mem)
    · exact across before before_mem after after_mem

end Reposition
