import GrpcCore.Avl.Avl
import GrpcCore.Lib.AvlTree

/-!
# Nodes as trees

What the functions of the AVL tree make of the trees that their nodes represent. Nodes never change,
so that the trees of other versions stay what they are.
-/

namespace GrpcCore.Avl

open RefHeap (Pointer Cell Counted Held deref retain alloc release)
open AvlTree (Tree)

variable {Key Value : Type}

/-- The tree of a node. -/
inductive Represents (cells : List (Cell (Content Key Value))) : Pointer → Tree Key Value → Prop where
  | nil : Represents cells none .nil
  | node {a : Nat} {key : Key} {value : Value} {height : Int} {l r : Pointer}
      {left right : Tree Key Value} (found : cells[a]? = some ⟨⟨key, value, height⟩, l, r⟩)
      (leftTree : Represents cells l left) (rightTree : Represents cells r right) :
      Represents cells (some a) (.node height left key value right)

section Representation

variable {cells cells' : List (Cell (Content Key Value))} {pointer : Pointer}
  {tree : Tree Key Value}

theorem Represents.mono (extended : cells <+: cells') (represented : Represents cells pointer tree) :
    Represents cells' pointer tree := by
  induction represented with
  | nil => exact .nil
  | node found leftTree rightTree leftMono rightMono =>
    exact .node (RefHeap.getElem?_extended extended found) leftMono rightMono

theorem Represents.eq_none (represented : Represents cells pointer tree) :
    pointer = none ↔ tree.isNil = true := by
  cases represented with
  | nil => exact iff_of_true rfl rfl
  | node => exact iff_of_false nofun nofun

end Representation

/-- A function has made a new node for a tree, and owns a reference to it. -/
def Makes (heap : Heap Key Value) (owners : Multiset Pointer)
    (outcome : Option (Pointer × Heap Key Value)) (tree : Tree Key Value) : Prop :=
  ∃ pointer heap', outcome = some (pointer, heap') ∧ heap.cells <+: heap'.cells ∧
    Counted heap' (pointer ::ₘ owners) ∧ Represents heap'.cells pointer tree

section Specifications

variable {heap : Heap Key Value} {owners : Multiset Pointer} {l r : Pointer}
  {left right tree : Tree Key Value}

theorem held_first : Held heap.cells (l ::ₘ owners) l := .of_mem (Multiset.mem_cons_self _ _)

theorem held_second : Held heap.cells (l ::ₘ r ::ₘ owners) r :=
  .of_mem (Multiset.mem_cons_of_mem (Multiset.mem_cons_self _ _))

theorem deref_node {a : Nat} (counted : Counted heap owners)
    (held : Held heap.cells owners (some a)) (represented : Represents heap.cells (some a) tree) :
    ∃ key value height l r left right, tree = .node height left key value right ∧
      deref (some a) heap = some ⟨⟨key, value, height⟩, l, r⟩ ∧
      Represents heap.cells l left ∧ Represents heap.cells r right ∧
      Held heap.cells owners l ∧ Held heap.cells owners r := by
  cases represented with
  | @node _ key value height l r left right found leftTree rightTree =>
    exact ⟨key, value, height, l, r, left, right, rfl, RefHeap.deref_of_held counted held found,
      leftTree, rightTree, held.left found, held.right found⟩

theorem nodeHeight_eq (counted : Counted heap owners) (held : Held heap.cells owners l)
    (represented : Represents heap.cells l left) : nodeHeight l heap = some left.height := by
  cases l with
  | none =>
    cases represented
    rfl
  | some =>
    obtain ⟨key, value, height, _, _, _, _, rfl, read, -⟩ := deref_node counted held represented
    rw [nodeHeight, if_neg nofun, read]
    rfl

section Rules

variable {owners' : Multiset Pointer}

/-- A step that makes a node, and what is done with the node. -/
theorem Makes.bind {first : Option (Pointer × Heap Key Value)}
    {rest : Pointer × Heap Key Value → Option (Pointer × Heap Key Value)}
    (makes : Makes heap owners first left)
    (next : ∀ made heap', heap.cells <+: heap'.cells → Counted heap' (made ::ₘ owners) →
      Represents heap'.cells made left → Makes heap' owners' (rest (made, heap')) tree) :
    Makes heap owners' (first >>= rest) tree := by
  obtain ⟨made, heap', rfl, extended, counted, represented⟩ := makes
  obtain ⟨pointer, heap'', result, extended', rest⟩ := next made heap' extended counted represented
  exact ⟨pointer, heap'', result, extended.trans extended', rest⟩

theorem retain_makes {rest : Heap Key Value → Option (Pointer × Heap Key Value)}
    (counted : Counted heap owners) (held : Held heap.cells owners l)
    (next : ∀ heap', heap.cells <+: heap'.cells → Counted heap' (l ::ₘ owners) →
      Makes heap' owners' (rest heap') tree) :
    Makes heap owners' (retain l heap >>= rest) tree := by
  obtain ⟨heap', retained, same, counted'⟩ := RefHeap.retain_of_held counted held
  have extended : heap.cells <+: heap'.cells := same ▸ List.prefix_refl _
  obtain ⟨pointer, heap'', result, extended', rest⟩ := next heap' extended counted'
  exact ⟨pointer, heap'', by rw [retained]; exact result, extended.trans extended', rest⟩

theorem release_makes (counted : Counted heap (l ::ₘ r ::ₘ owners))
    (represented : Represents heap.cells l tree) :
    Makes heap owners (release r heap >>= fun heap => pure (l, heap)) tree := by
  rw [Multiset.cons_swap] at counted
  obtain ⟨heap', released, same, counted'⟩ := RefHeap.counted_release counted
  exact ⟨l, heap', by rw [released]; rfl, same ▸ List.prefix_refl _, counted', same ▸ represented⟩

end Rules

theorem newNode_makes (key : Key) (value : Value) (counted : Counted heap (l ::ₘ r ::ₘ owners))
    (leftTree : Represents heap.cells l left) (rightTree : Represents heap.cells r right) :
    Makes heap owners (newNode key value l r heap) (Tree.mk left key value right) := by
  have extended : heap.cells <+:
      (alloc ⟨key, value, 1 + max left.height right.height⟩ l r heap).2.cells :=
    List.prefix_append _ _
  refine ⟨_, _, ?_, extended, RefHeap.counted_alloc counted _, ?_⟩
  · rw [newNode, nodeHeight_eq counted held_first leftTree, nodeHeight_eq counted held_second rightTree]
    rfl
  · exact .node List.getElem?_concat_length (leftTree.mono extended) (rightTree.mono extended)

end Specifications

section Rotations

variable {heap : Heap Key Value} {owners : Multiset Pointer} {l r : Pointer}
  {left right : Tree Key Value} (key : Key) (value : Value)

section

variable (counted : Counted heap (l ::ₘ r ::ₘ owners)) (leftTree : Represents heap.cells l left)
  (rightTree : Represents heap.cells r right)
include counted leftTree rightTree

theorem rotateLeft_makes (nonempty : right.isNil ≠ true) :
    Makes heap owners (rotateLeft key value l r heap) (Tree.rotateLeft left key value right) := by
  cases rightTree with
  | nil => exact absurd rfl nonempty
  | @node a key' value' _ m n middle last found middleTree lastTree =>
    rw [rotateLeft, RefHeap.deref_of_held counted held_second found]
    apply retain_makes counted (held_second.left found)
    intro heap₁ extended₁ counted₁
    rw [Multiset.cons_swap] at counted₁
    apply (newNode_makes key value counted₁ (leftTree.mono extended₁)
      (middleTree.mono extended₁)).bind
    intro inner heap₂ extended₂ counted₂ innerTree
    have extended := extended₁.trans extended₂
    apply retain_makes counted₂ (held_second.right (RefHeap.getElem?_extended extended found))
    intro heap₃ extended₃ counted₃
    rw [Multiset.cons_swap] at counted₃
    apply (newNode_makes key' value' counted₃ (innerTree.mono extended₃)
      (lastTree.mono (extended.trans extended₃))).bind
    intro top heap₄ _ counted₄ topTree
    exact release_makes counted₄ topTree

theorem rotateRight_makes (nonempty : left.isNil ≠ true) :
    Makes heap owners (rotateRight key value l r heap) (Tree.rotateRight left key value right) := by
  cases leftTree with
  | nil => exact absurd rfl nonempty
  | @node a key' value' _ m n first middle found firstTree middleTree =>
    have held : Held heap.cells (some a ::ₘ r ::ₘ owners) (some a) := held_first
    rw [rotateRight, RefHeap.deref_of_held counted held found]
    apply retain_makes counted (held.left found)
    intro heap₁ extended₁ counted₁
    apply retain_makes counted₁
      ((held.right found).mono extended₁ (Multiset.le_cons_self _ _))
    intro heap₂ extended₂ counted₂
    have extended := extended₁.trans extended₂
    -- the references are those to the second child, the right tree, the first child and the node
    rw [Multiset.cons_swap (some a) r, Multiset.cons_swap m r] at counted₂
    apply (newNode_makes key value counted₂ (middleTree.mono extended)
      (rightTree.mono extended)).bind
    intro inner heap₃ extended₃ counted₃ innerTree
    rw [Multiset.cons_swap] at counted₃
    apply (newNode_makes key' value' counted₃ (firstTree.mono (extended.trans extended₃))
      innerTree).bind
    intro top heap₄ _ counted₄ topTree
    exact release_makes counted₄ topTree

theorem rotateLeftRight_makes (balanced : left.Balanced) (leans : left.lean = -1) :
    Makes heap owners (rotateLeftRight key value l r heap)
      (Tree.rotateLeftRight left key value right) := by
  cases leftTree with
  | nil => cases leans
  | @node a key' value' _ m b first middle found firstTree middleTree =>
    have held : Held heap.cells (some a ::ₘ r ::ₘ owners) (some a) := held_first
    cases middleTree with
    | nil =>
      have nonneg := balanced.2.2.2.1.height_nonneg
      change first.height - 0 = -1 at leans
      omega
    | @node b key'' value'' _ s t second third found' secondTree thirdTree =>
      rw [rotateLeftRight, RefHeap.deref_of_held counted held found, Option.bind_eq_bind,
        Option.bind_some, RefHeap.deref_of_held counted (held.right found) found']
      apply retain_makes counted (held.left found)
      intro heap₁ extended₁ counted₁
      apply retain_makes counted₁
        (((held.right found).left found').mono extended₁ (Multiset.le_cons_self _ _))
      intro heap₂ extended₂ counted₂
      have to₂ := extended₁.trans extended₂
      rw [Multiset.cons_swap] at counted₂
      apply (newNode_makes key' value' counted₂ (firstTree.mono to₂) (secondTree.mono to₂)).bind
      intro f heap₃ extended₃ counted₃ fTree
      have to₃ := to₂.trans extended₃
      apply retain_makes counted₃
        (((held.right found).right found').mono to₃ (Multiset.le_cons_self _ _))
      intro heap₄ extended₄ counted₄
      have to₄ := to₃.trans extended₄
      rw [Multiset.cons_swap (some a) r, Multiset.cons_swap f r] at counted₄
      apply (newNode_makes key value counted₄ (thirdTree.mono to₄) (rightTree.mono to₄)).bind
      intro g heap₅ extended₅ counted₅ gTree
      rw [Multiset.cons_swap] at counted₅
      apply (newNode_makes key'' value'' counted₅ (fTree.mono (extended₄.trans extended₅))
        gTree).bind
      intro top heap₆ _ counted₆ topTree
      exact release_makes counted₆ topTree

theorem rotateRightLeft_makes (balanced : right.Balanced) (leans : right.lean = 1) :
    Makes heap owners (rotateRightLeft key value l r heap)
      (Tree.rotateRightLeft left key value right) := by
  cases rightTree with
  | nil => cases leans
  | @node a key' value' _ b q middle fourth found middleTree fourthTree =>
    cases middleTree with
    | nil =>
      have nonneg := balanced.2.2.2.2.height_nonneg
      change 0 - fourth.height = 1 at leans
      omega
    | @node b key'' value'' _ s t second third found' secondTree thirdTree =>
      have child : Held heap.cells (l ::ₘ some a ::ₘ owners) (some b) := held_second.left found
      rw [rotateRightLeft, RefHeap.deref_of_held counted held_second found, Option.bind_eq_bind,
        Option.bind_some, RefHeap.deref_of_held counted child found']
      apply retain_makes counted (child.left found')
      intro heap₁ extended₁ counted₁
      rw [Multiset.cons_swap] at counted₁
      apply (newNode_makes key value counted₁ (leftTree.mono extended₁)
        (secondTree.mono extended₁)).bind
      intro f heap₂ extended₂ counted₂ fTree
      have to₂ := extended₁.trans extended₂
      have found₂ := RefHeap.getElem?_extended to₂ found
      apply retain_makes counted₂
        ((held_second.left found₂).right (RefHeap.getElem?_extended to₂ found'))
      intro heap₃ extended₃ counted₃
      apply retain_makes counted₃
        ((held_second.right found₂).mono extended₃ (Multiset.le_cons_self _ _))
      intro heap₄ extended₄ counted₄
      have to₄ := (to₂.trans extended₃).trans extended₄
      rw [Multiset.cons_swap] at counted₄
      apply (newNode_makes key' value' counted₄ (thirdTree.mono to₄) (fourthTree.mono to₄)).bind
      intro g heap₅ extended₅ counted₅ gTree
      rw [Multiset.cons_swap] at counted₅
      apply (newNode_makes key'' value'' counted₅
        (fTree.mono ((extended₃.trans extended₄).trans extended₅)) gTree).bind
      intro top heap₆ _ counted₆ topTree
      exact release_makes counted₆ topTree

end

theorem leanOf_eq (counted : Counted heap owners) (held : Held heap.cells owners l)
    (leftTree : Represents heap.cells l left) (nonempty : left.isNil ≠ true) :
    leanOf l heap = some left.lean := by
  cases leftTree with
  | nil => exact absurd rfl nonempty
  | node found firstTree secondTree =>
    rw [leanOf, RefHeap.deref_of_held counted held found, Option.bind_eq_bind, Option.bind_some,
      nodeHeight_eq counted (held.left found) firstTree,
      nodeHeight_eq counted (held.right found) secondTree]
    rfl

theorem rebalance_makes (counted : Counted heap (l ::ₘ r ::ₘ owners))
    (leftTree : Represents heap.cells l left) (rightTree : Represents heap.cells r right)
    (leftBalanced : left.Balanced) (rightBalanced : right.Balanced) :
    Makes heap owners (rebalance key value l r heap) (Tree.rebalance left key value right) := by
  have leftNonneg := leftBalanced.height_nonneg
  have rightNonneg := rightBalanced.height_nonneg
  rw [rebalance, nodeHeight_eq counted held_first leftTree, nodeHeight_eq counted held_second rightTree]
  simp only [Option.bind_eq_bind, Option.bind_some]
  rw [Tree.rebalance]
  split_ifs with leftHigher leans rightHigher leans
  · have nonempty : left.isNil ≠ true := fun empty => by
      have zero := Tree.height_of_isNil empty
      omega
    rw [leanOf_eq counted held_first leftTree nonempty, Option.bind_some, if_pos leans]
    exact rotateLeftRight_makes key value counted leftTree rightTree leftBalanced leans
  · have nonempty : left.isNil ≠ true := fun empty => by
      have zero := Tree.height_of_isNil empty
      omega
    rw [leanOf_eq counted held_first leftTree nonempty, Option.bind_some, if_neg leans]
    exact rotateRight_makes key value counted leftTree rightTree nonempty
  · have nonempty : right.isNil ≠ true := fun empty => by
      have zero := Tree.height_of_isNil empty
      omega
    rw [leanOf_eq counted held_second rightTree nonempty, Option.bind_some, if_pos leans]
    exact rotateRightLeft_makes key value counted leftTree rightTree rightBalanced leans
  · have nonempty : right.isNil ≠ true := fun empty => by
      have zero := Tree.height_of_isNil empty
      omega
    rw [leanOf_eq counted held_second rightTree nonempty, Option.bind_some, if_neg leans]
    exact rotateLeft_makes key value counted leftTree rightTree nonempty
  · exact newNode_makes key value counted leftTree rightTree

end Rotations

end GrpcCore.Avl
