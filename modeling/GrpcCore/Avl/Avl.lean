import GrpcCore.Lib.RefHeap

/-!
# The persistent AVL tree

`avl.cc` on a heap of reference-counted nodes. A function that fails has read a null pointer or a node
that is gone. The arguments of a call are evaluated from the left to the right.
-/

namespace GrpcCore.Avl

open RefHeap (Pointer deref retain alloc release)

variable {Key Value : Type}

/-- The fields of `grpc_avl_node` besides its children and its count. -/
structure Content (Key Value : Type) where
  key : Key
  value : Value
  height : Int

abbrev Heap (Key Value : Type) := RefHeap.Heap (Content Key Value)

def nodeHeight (node : Pointer) (heap : Heap Key Value) : Option Int :=
  if node = none then some 0 else (deref node heap).map (·.data.height)

def newNode (key : Key) (value : Value) (left right : Pointer) (heap : Heap Key Value) :
    Option (Pointer × Heap Key Value) := do
  let leftHeight ← nodeHeight left heap
  let rightHeight ← nodeHeight right heap
  return alloc ⟨key, value, 1 + max leftHeight rightHeight⟩ left right heap

/-- `node_height(node->left) - node_height(node->right)`. -/
def leanOf (node : Pointer) (heap : Heap Key Value) : Option Int := do
  let node ← deref node heap
  let leftHeight ← nodeHeight node.left heap
  let rightHeight ← nodeHeight node.right heap
  return leftHeight - rightHeight

section Rotations

variable (key : Key) (value : Value) (left right : Pointer) (heap : Heap Key Value)

def rotateLeft : Option (Pointer × Heap Key Value) := do
  let node ← deref right heap
  let heap ← retain node.left heap
  let (inner, heap) ← newNode key value left node.left heap
  let heap ← retain node.right heap
  let (n, heap) ← newNode node.data.key node.data.value inner node.right heap
  let heap ← release right heap
  return (n, heap)

def rotateRight : Option (Pointer × Heap Key Value) := do
  let node ← deref left heap
  let heap ← retain node.left heap
  let heap ← retain node.right heap
  let (inner, heap) ← newNode key value node.right right heap
  let (n, heap) ← newNode node.data.key node.data.value node.left inner heap
  let heap ← release left heap
  return (n, heap)

def rotateLeftRight : Option (Pointer × Heap Key Value) := do
  let node ← deref left heap
  let middle ← deref node.right heap
  let heap ← retain node.left heap
  let heap ← retain middle.left heap
  let (first, heap) ← newNode node.data.key node.data.value node.left middle.left heap
  let heap ← retain middle.right heap
  let (second, heap) ← newNode key value middle.right right heap
  let (n, heap) ← newNode middle.data.key middle.data.value first second heap
  let heap ← release left heap
  return (n, heap)

def rotateRightLeft : Option (Pointer × Heap Key Value) := do
  let node ← deref right heap
  let middle ← deref node.left heap
  let heap ← retain middle.left heap
  let (first, heap) ← newNode key value left middle.left heap
  let heap ← retain middle.right heap
  let heap ← retain node.right heap
  let (second, heap) ← newNode node.data.key node.data.value middle.right node.right heap
  let (n, heap) ← newNode middle.data.key middle.data.value first second heap
  let heap ← release right heap
  return (n, heap)

def rebalance : Option (Pointer × Heap Key Value) := do
  let leftHeight ← nodeHeight left heap
  let rightHeight ← nodeHeight right heap
  if leftHeight - rightHeight = 2 then
    let lean ← leanOf left heap
    if lean = -1 then rotateLeftRight key value left right heap
    else rotateRight key value left right heap
  else if leftHeight - rightHeight = -2 then
    let lean ← leanOf right heap
    if lean = 1 then rotateRightLeft key value left right heap
    else rotateLeft key value left right heap
  else newNode key value left right heap

end Rotations

section Recursions

/-! The recursions and the loops go to older nodes, and are given a bound on them. -/

variable (compareKeys : Key → Key → Int)

def get (key : Key) (heap : Heap Key Value) : Nat → Pointer → Option (Option Value)
  | _, none => some none
  | 0, some _ => none
  | bound + 1, some a => do
    let node ← deref (some a) heap
    let cmp := compareKeys node.data.key key
    if cmp = 0 then some (some node.data.value)
    else if 0 < cmp then get key heap bound node.left
    else get key heap bound node.right

def addKey (key : Key) (value : Value) :
    Nat → Pointer → Heap Key Value → Option (Pointer × Heap Key Value)
  | _, none, heap => newNode key value none none heap
  | 0, some _, _ => none
  | bound + 1, some a, heap => do
    let node ← deref (some a) heap
    let cmp := compareKeys node.data.key key
    if cmp = 0 then
      let heap ← retain node.left heap
      let heap ← retain node.right heap
      newNode key value node.left node.right heap
    else if 0 < cmp then
      let (left, heap) ← addKey key value bound node.left heap
      let heap ← retain node.right heap
      rebalance node.data.key node.data.value left node.right heap
    else
      let heap ← retain node.left heap
      let (right, heap) ← addKey key value bound node.right heap
      rebalance node.data.key node.data.value node.left right heap

def inOrderHead (heap : Heap Key Value) : Nat → Pointer → Option (Content Key Value)
  | 0, _ => none
  | bound + 1, node => do
    let node ← deref node heap
    if node.left ≠ none then inOrderHead heap bound node.left else some node.data

def inOrderTail (heap : Heap Key Value) : Nat → Pointer → Option (Content Key Value)
  | 0, _ => none
  | bound + 1, node => do
    let node ← deref node heap
    if node.right ≠ none then inOrderTail heap bound node.right else some node.data

def removeKey : Nat → Pointer → Key → Heap Key Value → Option (Pointer × Heap Key Value)
  | _, none, _, heap => some (none, heap)
  | 0, some _, _, _ => none
  | bound + 1, some a, key, heap => do
    let node ← deref (some a) heap
    let cmp := compareKeys node.data.key key
    if cmp = 0 then
      if node.left = none then
        let heap ← retain node.right heap
        return (node.right, heap)
      else if node.right = none then
        let heap ← retain node.left heap
        return (node.left, heap)
      else
        let leftHeight ← nodeHeight node.left heap
        let rightHeight ← nodeHeight node.right heap
        if leftHeight < rightHeight then
          let h ← inOrderHead heap bound node.right
          let heap ← retain node.left heap
          let (right, heap) ← removeKey bound node.right h.key heap
          rebalance h.key h.value node.left right heap
        else
          let h ← inOrderTail heap bound node.left
          let (left, heap) ← removeKey bound node.left h.key heap
          let heap ← retain node.right heap
          rebalance h.key h.value left node.right heap
    else if 0 < cmp then
      let (left, heap) ← removeKey bound node.left key heap
      let heap ← retain node.right heap
      rebalance node.data.key node.data.value left node.right heap
    else
      let heap ← retain node.left heap
      let (right, heap) ← removeKey bound node.right key heap
      rebalance node.data.key node.data.value node.left right heap

/-- `grpc_avl_maybe_get`. -/
def grpcAvlGet (root : Pointer) (key : Key) (heap : Heap Key Value) : Option (Option Value) :=
  get compareKeys key heap heap.cells.length root

/-- The new version takes over the reference to the old one, and gives it up. -/
def grpcAvlAdd (root : Pointer) (key : Key) (value : Value) (heap : Heap Key Value) :
    Option (Pointer × Heap Key Value) := do
  let (newRoot, heap) ← addKey compareKeys key value heap.cells.length root heap
  let heap ← release root heap
  return (newRoot, heap)

def grpcAvlRemove (root : Pointer) (key : Key) (heap : Heap Key Value) :
    Option (Pointer × Heap Key Value) := do
  let (newRoot, heap) ← removeKey compareKeys heap.cells.length root key heap
  let heap ← release root heap
  return (newRoot, heap)

end Recursions

end GrpcCore.Avl
