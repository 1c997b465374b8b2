import GrpcCore.Avl.Represents
import GrpcCore.Lib.AvlOrder

/-!
# Versions of the AVL tree

Adding and removing keys make nodes for the tree with the key added or removed, and reading finds what
the tree holds.
-/

namespace GrpcCore.Avl

open RefHeap (Pointer Counted Held deref retain release)
open AvlTree (Tree)

variable {Key Value : Type}

section Recursions

variable {compareKeys : Key → Key → Int} {heap : Heap Key Value} {owners : Multiset Pointer}
  {pointer : Pointer} {tree : Tree Key Value} {bound : Nat}

theorem get_eq (counted : Counted heap owners) (held : Held heap.cells owners pointer)
    (represented : Represents heap.cells pointer tree) (enough : ∀ a, pointer = some a → a < bound)
    (key : Key) : get compareKeys key heap bound pointer = some (tree.lookup compareKeys key) := by
  induction represented generalizing bound with
  | nil => rw [get, Tree.lookup]
  | @node a key' value' _ l r left right found leftTree rightTree leftGet rightGet =>
    cases bound with
    | zero => exact absurd (enough a rfl) (Nat.not_lt_zero a)
    | succ =>
      have below := Nat.le_of_lt_succ (enough a rfl)
      have older := counted.older a _ found
      rw [get, RefHeap.deref_of_held counted held found, Option.bind_eq_bind, Option.bind_some,
        Tree.lookup]
      dsimp only
      split_ifs
      · rfl
      · exact leftGet (held.left found)
          fun b child => Nat.lt_of_lt_of_le (older b (.inl child)) below
      · exact rightGet (held.right found)
          fun b child => Nat.lt_of_lt_of_le (older b (.inr child)) below

theorem retain_rebalance {heap' : Heap Key Value} {l r : Pointer} {left right : Tree Key Value}
    {key : Key} {value : Value} (counted : Counted heap' (l ::ₘ owners))
    (held : Held heap.cells owners r) (extended : heap.cells <+: heap'.cells)
    (leftTree : Represents heap'.cells l left) (rightTree : Represents heap.cells r right)
    (leftBalanced : left.Balanced) (rightBalanced : right.Balanced) :
    Makes heap' owners (retain r heap' >>= rebalance key value l r)
      (Tree.rebalance left key value right) := by
  apply retain_makes counted (held.mono extended (Multiset.le_cons_self _ _))
  intro heap'' extended' counted'
  rw [Multiset.cons_swap] at counted'
  exact rebalance_makes key value counted' (leftTree.mono extended')
    (rightTree.mono (extended.trans extended')) leftBalanced rightBalanced

section

variable (counted : Counted heap owners) (held : Held heap.cells owners pointer)
  (represented : Represents heap.cells pointer tree)
include counted held represented

theorem addKey_makes (balanced : tree.Balanced) (enough : ∀ a, pointer = some a → a < bound)
    (key : Key) (value : Value) :
    Makes heap owners (addKey compareKeys key value bound pointer heap)
      (tree.add compareKeys key value) := by
  induction tree generalizing heap owners pointer bound with
  | nil =>
    cases represented
    rw [addKey]
    apply newNode_makes key value _ .nil .nil
    exact RefHeap.counted_cons_none.mpr (RefHeap.counted_cons_none.mpr counted)
  | node height left key' value' right leftAdd rightAdd =>
    cases represented with
    | @node a _ _ _ l r _ _ found leftTree rightTree =>
      cases bound with
      | zero => exact absurd (enough a rfl) (Nat.not_lt_zero a)
      | succ =>
        have below := Nat.le_of_lt_succ (enough a rfl)
        have older := counted.older a _ found
        obtain ⟨-, -, -, leftBalanced, rightBalanced⟩ := balanced
        rw [addKey, RefHeap.deref_of_held counted held found, Option.bind_eq_bind,
          Option.bind_some, Tree.add]
        dsimp only
        split_ifs
        · apply retain_makes counted (held.left found)
          intro heap₁ extended₁ counted₁
          apply retain_makes counted₁
            ((held.right found).mono extended₁ (Multiset.le_cons_self _ _))
          intro heap₂ extended₂ counted₂
          rw [Multiset.cons_swap] at counted₂
          have extended := extended₁.trans extended₂
          exact newNode_makes key value counted₂ (leftTree.mono extended) (rightTree.mono extended)
        · apply (leftAdd counted (held.left found) leftTree leftBalanced
            fun b child => Nat.lt_of_lt_of_le (older b (.inl child)) below).bind
          intro l' heap₁ extended₁ counted₁ leftTree'
          exact retain_rebalance counted₁ (held.right found) extended₁ leftTree' rightTree
            (Tree.balanced_add leftBalanced key value).1 rightBalanced
        · apply retain_makes counted (held.left found)
          intro heap₁ extended₁ counted₁
          apply (rightAdd counted₁ ((held.right found).mono extended₁ (Multiset.le_cons_self _ _))
            (rightTree.mono extended₁) rightBalanced
            fun b child => Nat.lt_of_lt_of_le (older b (.inr child)) below).bind
          intro r' heap₂ extended₂ counted₂ rightTree'
          rw [Multiset.cons_swap] at counted₂
          exact rebalance_makes key' value' counted₂ (leftTree.mono (extended₁.trans extended₂))
            rightTree' leftBalanced (Tree.balanced_add rightBalanced key value).1

section

variable (nonempty : tree.isNil ≠ true) (enough : ∀ a, pointer = some a → a < bound)
  (entry : Key × Value)
include nonempty enough entry

theorem inOrderHead_eq : ∃ height, inOrderHead heap bound pointer =
      some ⟨(tree.head entry).1, (tree.head entry).2, height⟩ := by
  induction represented generalizing bound entry with
  | nil => exact absurd rfl nonempty
  | @node a key' value' height l r left right found leftTree rightTree leftHead rightHead =>
    cases bound with
    | zero => exact absurd (enough a rfl) (Nat.not_lt_zero a)
    | succ =>
      have below := Nat.le_of_lt_succ (enough a rfl)
      rw [inOrderHead, RefHeap.deref_of_held counted held found, Option.bind_eq_bind,
        Option.bind_some, Tree.head]
      split_ifs with child
      · exact leftHead (held.left found) (mt leftTree.eq_none.mpr child)
          (fun b equal => Nat.lt_of_lt_of_le (counted.older a _ found b (.inl equal)) below)
          (key', value')
      · have empty := leftTree.eq_none.mp (not_not.mp child)
        cases left with
        | nil => exact ⟨height, rfl⟩
        | node => cases empty

theorem inOrderTail_eq : ∃ height, inOrderTail heap bound pointer =
      some ⟨(tree.tail entry).1, (tree.tail entry).2, height⟩ := by
  induction represented generalizing bound entry with
  | nil => exact absurd rfl nonempty
  | @node a key' value' height l r left right found leftTree rightTree leftTail rightTail =>
    cases bound with
    | zero => exact absurd (enough a rfl) (Nat.not_lt_zero a)
    | succ =>
      have below := Nat.le_of_lt_succ (enough a rfl)
      rw [inOrderTail, RefHeap.deref_of_held counted held found, Option.bind_eq_bind,
        Option.bind_some, Tree.tail]
      split_ifs with child
      · exact rightTail (held.right found) (mt rightTree.eq_none.mpr child)
          (fun b equal => Nat.lt_of_lt_of_le (counted.older a _ found b (.inr equal)) below)
          (key', value')
      · have empty := rightTree.eq_none.mp (not_not.mp child)
        cases right with
        | nil => exact ⟨height, rfl⟩
        | node => cases empty

end

theorem removeKey_makes (balanced : tree.Balanced) (enough : ∀ a, pointer = some a → a < bound)
    (key : Key) : Makes heap owners (removeKey compareKeys bound pointer key heap)
      (tree.remove compareKeys key) := by
  induction tree generalizing heap owners pointer bound key with
  | nil =>
    cases represented
    rw [removeKey]
    exact ⟨none, heap, rfl, List.prefix_refl _, RefHeap.counted_cons_none.mpr counted, .nil⟩
  | node height left key' value' right leftRemove rightRemove =>
    cases represented with
    | @node a _ _ _ l r _ _ found leftTree rightTree =>
      cases bound with
      | zero => exact absurd (enough a rfl) (Nat.not_lt_zero a)
      | succ bound =>
        have below := Nat.le_of_lt_succ (enough a rfl)
        have olderLeft (b : Nat) (child : l = some b) : b < bound :=
          Nat.lt_of_lt_of_le (counted.older a _ found b (.inl child)) below
        have olderRight (b : Nat) (child : r = some b) : b < bound :=
          Nat.lt_of_lt_of_le (counted.older a _ found b (.inr child)) below
        obtain ⟨-, -, -, leftBalanced, rightBalanced⟩ := balanced
        -- the left child is removed from, and the right one kept
        have removeLeft (sought : Key) (key : Key) (value : Value) :
            Makes heap owners (do
              let removed ← removeKey compareKeys bound l sought heap
              let heap ← retain r removed.2
              rebalance key value removed.1 r heap)
              (Tree.rebalance (left.remove compareKeys sought) key value right) := by
          apply (leftRemove counted (held.left found) leftTree leftBalanced olderLeft sought).bind
          intro l' heap₁ extended₁ counted₁ leftTree'
          exact retain_rebalance counted₁ (held.right found) extended₁ leftTree' rightTree
            (Tree.balanced_remove leftBalanced sought).1 rightBalanced
        have removeRight (sought : Key) (key : Key) (value : Value) :
            Makes heap owners (do
              let heap ← retain l heap
              let removed ← removeKey compareKeys bound r sought heap
              rebalance key value l removed.1 removed.2)
              (Tree.rebalance left key value (right.remove compareKeys sought)) := by
          apply retain_makes counted (held.left found)
          intro heap₁ extended₁ counted₁
          apply (rightRemove counted₁
            ((held.right found).mono extended₁ (Multiset.le_cons_self _ _))
            (rightTree.mono extended₁) rightBalanced olderRight sought).bind
          intro r' heap₂ extended₂ counted₂ rightTree'
          rw [Multiset.cons_swap] at counted₂
          exact rebalance_makes key value counted₂ (leftTree.mono (extended₁.trans extended₂))
            rightTree' leftBalanced (Tree.balanced_remove rightBalanced sought).1
        have heights := nodeHeight_eq counted (held.left found) leftTree
        have heights' := nodeHeight_eq counted (held.right found) rightTree
        rw [removeKey, RefHeap.deref_of_held counted held found, Option.bind_eq_bind,
          Option.bind_some, Tree.remove]
        simp only [leftTree.eq_none, rightTree.eq_none]
        split_ifs with same leftNil rightNil higher before
        · apply retain_makes counted (held.right found)
          intro heap₁ extended₁ counted₁
          exact ⟨r, heap₁, rfl, List.prefix_refl _, counted₁, rightTree.mono extended₁⟩
        · apply retain_makes counted (held.left found)
          intro heap₁ extended₁ counted₁
          exact ⟨l, heap₁, rfl, List.prefix_refl _, counted₁, leftTree.mono extended₁⟩
        · obtain ⟨_, first⟩ := inOrderHead_eq counted (held.right found) rightTree rightNil
            olderRight (key', value')
          simp only [heights, heights', if_pos higher, first, Option.bind_eq_bind, Option.bind_some]
          exact removeRight _ _ _
        · obtain ⟨_, last⟩ := inOrderTail_eq counted (held.left found) leftTree leftNil
            olderLeft (key', value')
          simp only [heights, heights', if_neg higher, last, Option.bind_eq_bind, Option.bind_some]
          exact removeLeft _ _ _
        · exact removeLeft key key' value'
        · exact removeRight key key' value'

end

section

variable (counted : Counted heap (pointer ::ₘ owners))
  (represented : Represents heap.cells pointer tree) (balanced : tree.Balanced) (key : Key)
include counted represented balanced key

theorem grpcAvlAdd_makes (value : Value) :
    Makes heap owners (grpcAvlAdd compareKeys pointer key value heap)
      (tree.add compareKeys key value) := by
  have owned : pointer ∈ pointer ::ₘ owners := Multiset.mem_cons_self _ _
  have enough (a : Nat) (equal : pointer = some a) : a < heap.cells.length :=
    counted.lt_of_refs (counted.refs_of_mem (equal ▸ owned))
  apply (addKey_makes counted (.of_mem owned) represented balanced enough key value).bind
  intro root heap₁ _ counted₁ newTree
  exact release_makes counted₁ newTree

theorem grpcAvlRemove_makes : Makes heap owners (grpcAvlRemove compareKeys pointer key heap)
      (tree.remove compareKeys key) := by
  have owned : pointer ∈ pointer ::ₘ owners := Multiset.mem_cons_self _ _
  have enough (a : Nat) (equal : pointer = some a) : a < heap.cells.length :=
    counted.lt_of_refs (counted.refs_of_mem (equal ▸ owned))
  apply (removeKey_makes counted (.of_mem owned) represented balanced enough key).bind
  intro root heap₁ _ counted₁ newTree
  exact release_makes counted₁ newTree

end

end Recursions

end GrpcCore.Avl
