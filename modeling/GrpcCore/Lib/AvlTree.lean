import Mathlib

/-!
# Height-balanced search trees

Trees that store their heights, for keys with a comparison function whose sign orders them.
-/

namespace AvlTree

universe u v
variable {Key : Type u} {Value : Type v}

inductive Tree (Key : Type u) (Value : Type v) where
  | nil
  | node (height : Int) (left : Tree Key Value) (key : Key) (value : Value)
      (right : Tree Key Value)

namespace Tree

def height : Tree Key Value → Int
  | nil => 0
  | node height _ _ _ _ => height

def mk (left : Tree Key Value) (key : Key) (value : Value) (right : Tree Key Value) :
    Tree Key Value :=
  node (1 + max left.height right.height) left key value right

def toList : Tree Key Value → List (Key × Value)
  | nil => []
  | node _ left key value right => left.toList ++ (key, value) :: right.toList

def rotateLeft (left : Tree Key Value) (key : Key) (value : Value) (right : Tree Key Value) :
    Tree Key Value :=
  match right with
  | nil => mk left key value nil
  | node _ middle key' value' right => mk (mk left key value middle) key' value' right

def rotateRight (left : Tree Key Value) (key : Key) (value : Value) (right : Tree Key Value) :
    Tree Key Value :=
  match left with
  | nil => mk nil key value right
  | node _ left key' value' middle => mk left key' value' (mk middle key value right)

def rotateLeftRight (left : Tree Key Value) (key : Key) (value : Value)
    (right : Tree Key Value) : Tree Key Value :=
  match left with
  | node _ first key' value' (node _ second key'' value'' third) =>
    mk (mk first key' value' second) key'' value'' (mk third key value right)
  | left => mk left key value right

def rotateRightLeft (left : Tree Key Value) (key : Key) (value : Value)
    (right : Tree Key Value) : Tree Key Value :=
  match right with
  | node _ (node _ second key'' value'' third) key' value' fourth =>
    mk (mk left key value second) key'' value'' (mk third key' value' fourth)
  | right => mk left key value right

def lean : Tree Key Value → Int
  | nil => 0
  | node _ left _ _ right => left.height - right.height

def rebalance (left : Tree Key Value) (key : Key) (value : Value) (right : Tree Key Value) :
    Tree Key Value :=
  if left.height - right.height = 2 then
    if left.lean = -1 then rotateLeftRight left key value right
    else rotateRight left key value right
  else if left.height - right.height = -2 then
    if right.lean = 1 then rotateRightLeft left key value right
    else rotateLeft left key value right
  else mk left key value right

/-- The stored heights are right, and children differ in height by at most one. -/
def Balanced : Tree Key Value → Prop
  | nil => True
  | node height left _ _ right =>
    height = 1 + max left.height right.height ∧
      -1 ≤ left.height - right.height ∧ left.height - right.height ≤ 1 ∧
      left.Balanced ∧ right.Balanced

section Rotations

variable (left right : Tree Key Value) (key : Key) (value : Value)

theorem toList_mk : (mk left key value right).toList = left.toList ++ (key, value) :: right.toList :=
  rfl

theorem toList_rotateLeft : (rotateLeft left key value right).toList =
    left.toList ++ (key, value) :: right.toList := by
  cases right with
  | nil => rfl
  | node => simp [rotateLeft, mk, toList]

theorem toList_rotateRight : (rotateRight left key value right).toList =
    left.toList ++ (key, value) :: right.toList := by
  cases left with
  | nil => rfl
  | node => simp [rotateRight, mk, toList]

theorem toList_rotateLeftRight : (rotateLeftRight left key value right).toList =
    left.toList ++ (key, value) :: right.toList := by
  unfold rotateLeftRight
  split
  · simp [mk, toList]
  · rfl

theorem toList_rotateRightLeft : (rotateRightLeft left key value right).toList =
    left.toList ++ (key, value) :: right.toList := by
  unfold rotateRightLeft
  split
  · simp [mk, toList]
  · rfl

theorem toList_rebalance : (rebalance left key value right).toList =
    left.toList ++ (key, value) :: right.toList := by
  unfold rebalance
  split_ifs
  · exact toList_rotateLeftRight left right key value
  · exact toList_rotateRight left right key value
  · exact toList_rotateRightLeft left right key value
  · exact toList_rotateLeft left right key value
  · exact toList_mk left right key value

end Rotations

section Balance

variable {left right tree : Tree Key Value} {key : Key} {value : Value}

theorem Balanced.height_nonneg (balanced : tree.Balanced) : 0 ≤ tree.height := by
  induction tree with
  | nil => exact le_refl 0
  | node height left key value right leftNonneg =>
    obtain ⟨stored, -, -, leftBalanced, -⟩ := balanced
    have nonneg := leftNonneg leftBalanced
    change 0 ≤ height
    omega

theorem Balanced.mk (leftBalanced : left.Balanced) (rightBalanced : right.Balanced)
    (low : -1 ≤ left.height - right.height) (high : left.height - right.height ≤ 1) :
    (Tree.mk left key value right).Balanced :=
  ⟨rfl, low, high, leftBalanced, rightBalanced⟩

theorem height_node {height : Int} : (node height left key value right).height = height := rfl

theorem height_mk : (mk left key value right).height = 1 + max left.height right.height := rfl

/-- A left child that is higher by two is a node, and so is its right child when that is higher. -/
theorem balanced_rebalance_left (leftBalanced : left.Balanced) (rightBalanced : right.Balanced)
    (differ : left.height - right.height = 2) :
    (rebalance left key value right).Balanced ∧
      left.height ≤ (rebalance left key value right).height ∧
      (rebalance left key value right).height ≤ left.height + 1 := by
  have nonneg := rightBalanced.height_nonneg
  rw [rebalance, if_pos differ]
  cases left with
  | nil =>
    change 0 - right.height = 2 at differ
    omega
  | node height first key' value' middle =>
    obtain ⟨stored, low, high, firstBalanced, middleBalanced⟩ := leftBalanced
    rw [height_node] at differ ⊢
    split_ifs with leans
    · cases middle with
      | nil =>
        change first.height - 0 = -1 at leans
        omega
      | node height' =>
        obtain ⟨stored', low', high', secondBalanced, thirdBalanced⟩ := middleBalanced
        change first.height - height' = -1 at leans
        rw [rotateLeftRight, height_mk, height_mk, height_mk]
        refine ⟨(firstBalanced.mk secondBalanced ?_ ?_).mk
          (thirdBalanced.mk rightBalanced ?_ ?_) ?_ ?_, ?_, ?_⟩
        any_goals rw [height_mk, height_mk]
        all_goals omega
    · change ¬ first.height - middle.height = -1 at leans
      rw [rotateRight, height_mk, height_mk]
      refine ⟨firstBalanced.mk (middleBalanced.mk rightBalanced ?_ ?_) ?_ ?_, ?_, ?_⟩
      any_goals rw [height_mk]
      all_goals omega

theorem balanced_rebalance_right (leftBalanced : left.Balanced) (rightBalanced : right.Balanced)
    (differ : left.height - right.height = -2) :
    (rebalance left key value right).Balanced ∧
      right.height ≤ (rebalance left key value right).height ∧
      (rebalance left key value right).height ≤ right.height + 1 := by
  have nonneg := leftBalanced.height_nonneg
  rw [rebalance, if_neg (by omega), if_pos differ]
  cases right with
  | nil =>
    change left.height - 0 = -2 at differ
    omega
  | node height middle key' value' last =>
    obtain ⟨stored, low, high, middleBalanced, lastBalanced⟩ := rightBalanced
    rw [height_node] at differ ⊢
    split_ifs with leans
    · cases middle with
      | nil =>
        change 0 - last.height = 1 at leans
        omega
      | node height' =>
        obtain ⟨stored', low', high', secondBalanced, thirdBalanced⟩ := middleBalanced
        change height' - last.height = 1 at leans
        rw [rotateRightLeft, height_mk, height_mk, height_mk]
        refine ⟨(leftBalanced.mk secondBalanced ?_ ?_).mk
          (thirdBalanced.mk lastBalanced ?_ ?_) ?_ ?_, ?_, ?_⟩
        any_goals rw [height_mk, height_mk]
        all_goals omega
    · change ¬ middle.height - last.height = 1 at leans
      rw [rotateLeft, height_mk, height_mk]
      refine ⟨(leftBalanced.mk middleBalanced ?_ ?_).mk lastBalanced ?_ ?_, ?_, ?_⟩
      any_goals rw [height_mk]
      all_goals omega

/-- One more than the higher child, or as high as a child that was higher by two. -/
def Between (left right : Tree Key Value) (height : Int) : Prop :=
  max left.height right.height ≤ height ∧ height ≤ 1 + max left.height right.height ∧
    (left.height - right.height ≠ 2 → left.height - right.height ≠ -2 →
      height = 1 + max left.height right.height)

theorem balanced_rebalance (leftBalanced : left.Balanced) (rightBalanced : right.Balanced)
    (low : -2 ≤ left.height - right.height) (high : left.height - right.height ≤ 2) :
    (rebalance left key value right).Balanced ∧
      Between left right (rebalance left key value right).height := by
  by_cases leftHigher : left.height - right.height = 2
  · obtain ⟨balanced, lower, upper⟩ :=
      @balanced_rebalance_left _ _ left right key value leftBalanced rightBalanced leftHigher
    exact ⟨balanced, by omega, by omega, fun other => absurd leftHigher other⟩
  · by_cases rightHigher : left.height - right.height = -2
    · obtain ⟨balanced, lower, upper⟩ :=
        @balanced_rebalance_right _ _ left right key value leftBalanced rightBalanced rightHigher
      exact ⟨balanced, by omega, by omega, fun _ other => absurd rightHigher other⟩
    · rw [rebalance, if_neg leftHigher, if_neg rightHigher]
      refine ⟨leftBalanced.mk rightBalanced (by omega) (by omega), ?_, ?_, fun _ _ => height_mk⟩
      all_goals rw [height_mk]
      all_goals omega

end Balance

section Operations

variable (compare : Key → Key → Int)

def lookup : Tree Key Value → Key → Option Value
  | nil, _ => none
  | node _ left key' value right, key =>
    if compare key' key = 0 then some value
    else if 0 < compare key' key then left.lookup key
    else right.lookup key

def add : Tree Key Value → Key → Value → Tree Key Value
  | nil, key, value => mk nil key value nil
  | node _ left key' value' right, key, value =>
    if compare key' key = 0 then mk left key value right
    else if 0 < compare key' key then rebalance (left.add key value) key' value' right
    else rebalance left key' value' (right.add key value)

def head : Tree Key Value → Key × Value → Key × Value
  | nil, entry => entry
  | node _ left key value _, _ => left.head (key, value)

/-- The last entry of a tree, with a default for the empty one. -/
def tail : Tree Key Value → Key × Value → Key × Value
  | nil, entry => entry
  | node _ _ key value right, _ => right.tail (key, value)

def isNil : Tree Key Value → Bool
  | nil => true
  | node .. => false

theorem toList_of_isNil {tree : Tree Key Value} (empty : tree.isNil = true) : tree.toList = [] := by
  cases tree with
  | nil => rfl
  | node => cases empty

theorem height_of_isNil {tree : Tree Key Value} (empty : tree.isNil = true) : tree.height = 0 := by
  cases tree with
  | nil => rfl
  | node => cases empty

/-- An entry between two others is replaced by its neighbour on the higher side. -/
def remove : Tree Key Value → Key → Tree Key Value
  | nil, _ => nil
  | node _ left key' value' right, key =>
    if compare key' key = 0 then
      if left.isNil then right
      else if right.isNil then left
      else if left.height < right.height then
        let entry := right.head (key', value')
        rebalance left entry.1 entry.2 (right.remove entry.1)
      else
        let entry := left.tail (key', value')
        rebalance (left.remove entry.1) entry.1 entry.2 right
    else if 0 < compare key' key then rebalance (left.remove key) key' value' right
    else rebalance left key' value' (right.remove key)

end Operations

section Heights

variable {compare : Key → Key → Int} {tree : Tree Key Value}

theorem balanced_add (balanced : tree.Balanced) (key : Key) (value : Value) :
    (tree.add compare key value).Balanced ∧ tree.height ≤ (tree.add compare key value).height ∧
      (tree.add compare key value).height ≤ tree.height + 1 := by
  induction tree with
  | nil =>
    refine ⟨Balanced.mk trivial trivial ?_ ?_, ?_, ?_⟩
    any_goals rw [add, height_mk]
    all_goals omega
  | node height left key' value' right leftAdd rightAdd =>
    obtain ⟨stored, low, high, leftBalanced, rightBalanced⟩ := balanced
    rw [add, height_node]
    split_ifs with same before
    · refine ⟨leftBalanced.mk rightBalanced low high, ?_, ?_⟩
      all_goals rw [height_mk]
      all_goals omega
    · obtain ⟨balanced, lower, upper⟩ := leftAdd leftBalanced
      obtain ⟨balanced, lower', upper', exact'⟩ :=
        @balanced_rebalance _ _ (left.add compare key value) right key' value' balanced rightBalanced
          (by omega) (by omega)
      refine ⟨balanced, ?_, ?_⟩
      all_goals omega
    · obtain ⟨balanced, lower, upper⟩ := rightAdd rightBalanced
      obtain ⟨balanced, lower', upper', exact'⟩ :=
        @balanced_rebalance _ _ left (right.add compare key value) key' value' leftBalanced balanced
          (by omega) (by omega)
      refine ⟨balanced, ?_, ?_⟩
      all_goals omega

theorem balanced_lower {left right left' right' : Tree Key Value} (key : Key) (value : Value)
    (leftBalanced : left'.Balanced) (rightBalanced : right'.Balanced)
    (low : -1 ≤ left.height - right.height) (high : left.height - right.height ≤ 1)
    (lower : (left'.height ≤ left.height ∧ left.height ≤ left'.height + 1) ∧ right' = right ∨
      left' = left ∧ right'.height ≤ right.height ∧ right.height ≤ right'.height + 1) :
    (rebalance left' key value right').Balanced ∧
      (rebalance left' key value right').height ≤ 1 + max left.height right.height ∧
      1 + max left.height right.height ≤ (rebalance left' key value right').height + 1 := by
  have differ : -2 ≤ left'.height - right'.height ∧ left'.height - right'.height ≤ 2 := by
    rcases lower with ⟨⟨_, _⟩, rfl⟩ | ⟨rfl, _, _⟩
    · omega
    · omega
  obtain ⟨balanced, lower', upper', exact'⟩ :=
    @balanced_rebalance _ _ left' right' key value leftBalanced rightBalanced differ.1 differ.2
  refine ⟨balanced, ?_, ?_⟩
  · rcases lower with ⟨⟨_, _⟩, rfl⟩ | ⟨rfl, _, _⟩
    · omega
    · omega
  · rcases lower with ⟨⟨_, _⟩, rfl⟩ | ⟨rfl, _, _⟩
    · omega
    · omega

theorem balanced_remove (balanced : tree.Balanced) (key : Key) :
    (tree.remove compare key).Balanced ∧ (tree.remove compare key).height ≤ tree.height ∧
      tree.height ≤ (tree.remove compare key).height + 1 := by
  induction tree generalizing key with
  | nil => exact ⟨trivial, le_refl _, Int.le_add_one (le_refl _)⟩
  | node height left key' value' right leftRemove rightRemove =>
    obtain ⟨stored, low, high, leftBalanced, rightBalanced⟩ := balanced
    have leftNonneg := leftBalanced.height_nonneg
    have rightNonneg := rightBalanced.height_nonneg
    rw [remove, height_node, stored]
    split_ifs with same leftNil rightNil higher before
    · have zero : left.height = 0 := height_of_isNil leftNil
      exact ⟨rightBalanced, by omega, by omega⟩
    · have zero : right.height = 0 := height_of_isNil rightNil
      exact ⟨leftBalanced, by omega, by omega⟩
    · have removed := rightRemove rightBalanced (right.head (key', value')).1
      exact balanced_lower _ _ leftBalanced removed.1 low high (.inr ⟨rfl, removed.2⟩)
    · have removed := leftRemove leftBalanced (left.tail (key', value')).1
      exact balanced_lower _ _ removed.1 rightBalanced low high (.inl ⟨removed.2, rfl⟩)
    · have removed := leftRemove leftBalanced key
      exact balanced_lower _ _ removed.1 rightBalanced low high (.inl ⟨removed.2, rfl⟩)
    · have removed := rightRemove rightBalanced key
      exact balanced_lower _ _ leftBalanced removed.1 low high (.inr ⟨rfl, removed.2⟩)

end Heights

end Tree

end AvlTree
