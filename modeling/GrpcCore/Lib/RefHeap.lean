import Mathlib

/-!
# Reference-counted cells

A heap of cells with two pointers each that never change, and a count of references for each cell.
Whoever owns a reference gives it up with `release`; a cell without references is gone, and gives up
its own two. An address is never used again.
-/

namespace RefHeap

universe u v
variable {Data : Type u}

abbrev Pointer := Option Nat

structure Cell (Data : Type u) where
  data : Data
  left : Pointer
  right : Pointer

structure Heap (Data : Type u) where
  cells : List (Cell Data)
  refs : Nat → Nat

def Heap.empty : Heap Data := ⟨[], fun _ => 0⟩

/-- Reading a cell that is gone fails, as does reading or counting none at all. -/
def deref (pointer : Pointer) (heap : Heap Data) : Option (Cell Data) :=
  pointer.bind fun a => if heap.refs a = 0 then none else heap.cells[a]?

def setRefs (heap : Heap Data) (a n : Nat) : Heap Data :=
  { heap with refs := Function.update heap.refs a n }

theorem cells_setRefs (heap : Heap Data) (a n : Nat) : (setRefs heap a n).cells = heap.cells := rfl

theorem refs_setRefs (heap : Heap Data) (a n : Nat) : (setRefs heap a n).refs a = n := by
  exact Function.update_self _ _ _

theorem refs_setRefs_of_ne (heap : Heap Data) {a b : Nat} (other : b ≠ a) (n : Nat) :
    (setRefs heap a n).refs b = heap.refs b := by
  exact Function.update_of_ne other _ _

def retain (pointer : Pointer) (heap : Heap Data) : Option (Heap Data) :=
  match pointer with
  | none => some heap
  | some a => if heap.refs a = 0 then none else some (setRefs heap a (heap.refs a + 1))

/-- The new cell takes over the references to its children. -/
def alloc (data : Data) (left right : Pointer) (heap : Heap Data) : Pointer × Heap Data :=
  (some heap.cells.length,
    { cells := heap.cells ++ [⟨data, left, right⟩]
      refs := Function.update heap.refs heap.cells.length 1 })

section

variable (data : Data) (left right : Pointer) (heap : Heap Data)
include data left right heap

theorem cells_alloc :
    (alloc data left right heap).2.cells = heap.cells ++ [⟨data, left, right⟩] := rfl

theorem refs_alloc : (alloc data left right heap).2.refs heap.cells.length = 1 := by
  exact Function.update_self _ _ _

theorem refs_alloc_of_ne {b : Nat} (other : b ≠ heap.cells.length) :
    (alloc data left right heap).2.refs b = heap.refs b := by
  exact Function.update_of_ne other _ _

end

def releaseWith : Nat → Pointer → Heap Data → Option (Heap Data)
  | _, none, heap => some heap
  | 0, some _, _ => none
  | fuel + 1, some a, heap =>
    if heap.refs a = 0 then none
    else
      let released := setRefs heap a (heap.refs a - 1)
      if heap.refs a ≠ 1 then some released
      else
        (heap.cells[a]?).bind fun cell =>
          (releaseWith fuel cell.left released).bind (releaseWith fuel cell.right)

/-- Children are older than their parents, so that the number of cells bounds the recursion. -/
def release (pointer : Pointer) (heap : Heap Data) : Option (Heap Data) :=
  releaseWith heap.cells.length pointer heap

section Counting

def Cell.pointers (cell : Cell Data) (target : Nat) : Nat :=
  (if cell.left = some target then 1 else 0) + if cell.right = some target then 1 else 0

/-- How often the cell at an address points at another one, as long as it is there. -/
def pointers (heap : Heap Data) (target a : Nat) : Nat :=
  if heap.refs a = 0 then 0 else ((heap.cells[a]?).map (·.pointers target)).getD 0

def degree (heap : Heap Data) (target : Nat) : Nat :=
  ∑ a ∈ Finset.range heap.cells.length, pointers heap target a

structure Counted (heap : Heap Data) (owners : Multiset Pointer) : Prop where
  counted : ∀ a, heap.refs a = degree heap a + owners.count (some a)
  fresh : ∀ a, heap.cells.length ≤ a → heap.refs a = 0
  older : ∀ a (cell : Cell Data), heap.cells[a]? = some cell → ∀ b, cell.left = some b ∨ cell.right = some b → b < a

variable {heap : Heap Data} {owners : Multiset Pointer} {pointer : Pointer} {a : Nat}
  {cell : Cell Data}

theorem Counted.refs_of_mem (counted : Counted heap owners) (owned : some a ∈ owners) :
    heap.refs a ≠ 0 := by
  rw [counted.counted a]
  have positive := Multiset.count_pos.mpr owned
  omega

theorem Counted.lt_of_refs (counted : Counted heap owners) (live : heap.refs a ≠ 0) :
    a < heap.cells.length := by
  by_contra beyond
  exact live (counted.fresh a (Nat.le_of_not_lt beyond))

theorem Counted.exists_cell (counted : Counted heap owners) (live : heap.refs a ≠ 0) :
    ∃ cell, heap.cells[a]? = some cell :=
  ⟨_, List.getElem?_eq_getElem (counted.lt_of_refs live)⟩

theorem pointers_of_cell (live : heap.refs a ≠ 0) (found : heap.cells[a]? = some cell)
    (target : Nat) : pointers heap target a = cell.pointers target := by
  rw [pointers, if_neg live, found]
  rfl

theorem Counted.refs_of_child (counted : Counted heap owners) (live : heap.refs a ≠ 0)
    (found : heap.cells[a]? = some cell) {b : Nat} (child : cell.left = some b ∨ cell.right = some b) :
    heap.refs b ≠ 0 := by
  have bound : pointers heap b a ≤ degree heap b :=
    Finset.single_le_sum (fun _ _ => Nat.zero_le _)
      (Finset.mem_range.mpr (counted.lt_of_refs live))
  have positive : 0 < cell.pointers b := by
    rw [Cell.pointers]
    rcases child with left | right
    · rw [if_pos left]
      omega
    · rw [if_pos right]
      omega
  rw [pointers_of_cell live found] at bound
  rw [counted.counted b]
  omega

theorem degree_setRefs (below : a < heap.cells.length) (n target : Nat) :
    degree (setRefs heap a n) target + pointers heap target a =
      degree heap target + pointers (setRefs heap a n) target a := by
  have listed : a ∈ Finset.range heap.cells.length := Finset.mem_range.mpr below
  have others : ∑ b ∈ (Finset.range heap.cells.length).erase a, pointers (setRefs heap a n) target b =
      ∑ b ∈ (Finset.range heap.cells.length).erase a, pointers heap target b := by
    apply Finset.sum_congr rfl
    intro b other
    rw [pointers, pointers, refs_setRefs_of_ne heap (Finset.ne_of_mem_erase other), cells_setRefs]
  have before := Finset.add_sum_erase _ (pointers heap target) listed
  have after := Finset.add_sum_erase _ (pointers (setRefs heap a n) target) listed
  change _ = degree heap target at before
  change _ = degree (setRefs heap a n) target at after
  omega

theorem degree_setRefs_of_live (below : a < heap.cells.length) {n : Nat} (live : heap.refs a ≠ 0)
    (stays : n ≠ 0) (target : Nat) : degree (setRefs heap a n) target = degree heap target := by
  have change_ := @degree_setRefs _ heap _ below n target
  have same : pointers (setRefs heap a n) target a = pointers heap target a := by
    rw [pointers, pointers, refs_setRefs, cells_setRefs, if_neg stays, if_neg live]
  omega

theorem degree_setRefs_zero (below : a < heap.cells.length) (live : heap.refs a ≠ 0)
    (found : heap.cells[a]? = some cell) (target : Nat) :
    degree (setRefs heap a 0) target + cell.pointers target = degree heap target := by
  have change_ := @degree_setRefs _ heap _ below 0 target
  have gone : pointers (setRefs heap a 0) target a = 0 := by
    rw [pointers, refs_setRefs, if_pos rfl]
  rw [gone, pointers_of_cell live found] at change_
  exact change_

theorem degree_alloc (data : Data) (left right : Pointer)
    (target : Nat) :
    degree (alloc data left right heap).2 target =
      degree heap target + (Cell.mk data left right).pointers target := by
  have length : (alloc data left right heap).2.cells.length = heap.cells.length + 1 :=
    List.length_append
  rw [degree, length, Finset.sum_range_succ, degree]
  congr 1
  · apply Finset.sum_congr rfl
    intro b listed
    have below := Finset.mem_range.mp listed
    rw [pointers, pointers, refs_alloc_of_ne data left right heap (Nat.ne_of_lt below), cells_alloc,
      List.getElem?_append_left below]
  · rw [pointers, refs_alloc, if_neg (by decide), cells_alloc, List.getElem?_concat_length]
    rfl

theorem count_cons_some (pointer : Pointer) (target : Nat) :
    (pointer ::ₘ owners).count (some target) =
      owners.count (some target) + if pointer = some target then 1 else 0 := by
  rw [Multiset.count_cons]
  simp only [eq_comm]

end Counting

section Operations

variable {heap : Heap Data} {owners : Multiset Pointer} {pointer : Pointer}

theorem counted_empty : Counted (Heap.empty : Heap Data) 0 where
  counted a := rfl
  fresh a _ := rfl
  older a cell found := by cases found

theorem counted_cons_none : Counted heap (none ::ₘ owners) ↔ Counted heap owners := by
  have same (a : Nat) : (none ::ₘ owners).count (some a) = owners.count (some a) := by
    rw [count_cons_some, if_neg nofun, Nat.add_zero]
  exact ⟨fun counted => ⟨fun a => by rw [counted.counted a, same], counted.fresh, counted.older⟩,
    fun counted => ⟨fun a => by rw [counted.counted a, same], counted.fresh, counted.older⟩⟩

theorem deref_eq {a : Nat} {cell : Cell Data} (live : heap.refs a ≠ 0)
    (found : heap.cells[a]? = some cell) : deref (some a) heap = some cell := by
  rw [deref, Option.bind_some, if_neg live, found]

theorem counted_retain (counted : Counted heap owners)
    (live : ∀ a, pointer = some a → heap.refs a ≠ 0) :
    ∃ heap', retain pointer heap = some heap' ∧ heap'.cells = heap.cells ∧
      Counted heap' (pointer ::ₘ owners) := by
  cases pointer with
  | none => exact ⟨heap, rfl, rfl, counted_cons_none.mpr counted⟩
  | some a =>
    have there := live a rfl
    refine ⟨setRefs heap a (heap.refs a + 1), if_neg there, rfl, ?_, ?_, counted.older⟩
    · intro target
      rw [degree_setRefs_of_live (counted.lt_of_refs there) there (Nat.succ_ne_zero _),
        count_cons_some]
      by_cases same : target = a
      · subst same
        rw [refs_setRefs, if_pos rfl, counted.counted target]
        omega
      · rw [refs_setRefs_of_ne heap same, if_neg fun equal => same (Option.some.inj equal).symm,
          counted.counted target]
        omega
    · intro b beyond
      have other : b ≠ a := fun equal =>
        absurd (counted.lt_of_refs there) (Nat.not_lt_of_le (equal ▸ beyond))
      rw [refs_setRefs_of_ne heap other]
      exact counted.fresh b beyond

theorem counted_alloc {left right : Pointer} (counted : Counted heap (left ::ₘ right ::ₘ owners))
    (data : Data) :
    Counted (alloc data left right heap).2 (some heap.cells.length ::ₘ owners) := by
  have owned {b : Nat} (child : left = some b ∨ right = some b) : b < heap.cells.length := by
    apply counted.lt_of_refs
    apply counted.refs_of_mem
    rcases child with rfl | rfl
    · exact Multiset.mem_cons_self _ _
    · exact Multiset.mem_cons_of_mem (Multiset.mem_cons_self _ _)
  refine ⟨fun target => ?_, fun b beyond => ?_, fun b cell found child childOf => ?_⟩
  · have before := counted.counted target
    rw [count_cons_some, count_cons_some] at before
    have children : (Cell.mk data left right).pointers target =
        (if left = some target then 1 else 0) + if right = some target then 1 else 0 := rfl
    rw [degree_alloc, count_cons_some, children]
    by_cases same : target = heap.cells.length
    · subst same
      rw [counted.fresh _ (Nat.le_refl _)] at before
      rw [refs_alloc, if_pos rfl]
      omega
    · rw [refs_alloc_of_ne data left right heap same, if_neg fun equal => same (Option.some.inj equal).symm]
      omega
  · have longer : heap.cells.length < b := by
      rw [cells_alloc, List.length_append] at beyond
      exact beyond
    rw [refs_alloc_of_ne data left right heap (Nat.ne_of_gt longer)]
    exact counted.fresh b (Nat.le_of_lt longer)
  · rw [cells_alloc] at found
    rcases Nat.lt_trichotomy b heap.cells.length with below | rfl | beyond
    · rw [List.getElem?_append_left below] at found
      exact counted.older b cell found child childOf
    · rw [List.getElem?_concat_length] at found
      obtain rfl := Option.some.inj found
      exact owned childOf
    · rw [List.getElem?_eq_none (by rw [List.length_append]; exact beyond)] at found
      cases found

theorem counted_releaseWith {fuel : Nat} (counted : Counted heap (pointer ::ₘ owners))
    (enough : ∀ a, pointer = some a → a < fuel) :
    ∃ heap', releaseWith fuel pointer heap = some heap' ∧ heap'.cells = heap.cells ∧
      Counted heap' owners := by
  induction fuel generalizing heap pointer owners with
  | zero =>
    cases pointer with
    | none => exact ⟨heap, rfl, rfl, counted_cons_none.mp counted⟩
    | some a => exact absurd (enough a rfl) (Nat.not_lt_zero a)
  | succ fuel ih =>
    cases pointer with
    | none => exact ⟨heap, rfl, rfl, counted_cons_none.mp counted⟩
    | some a =>
      have live := counted.refs_of_mem (Multiset.mem_cons_self (some a) owners)
      have below := counted.lt_of_refs live
      obtain ⟨cell, found⟩ := counted.exists_cell live
      rw [releaseWith, if_neg live]
      have others (n : Nat) (b : Nat) (beyond : heap.cells.length ≤ b) :
          (setRefs heap a n).refs b = 0 := by
        rw [refs_setRefs_of_ne heap (Nat.ne_of_gt (Nat.lt_of_lt_of_le below beyond))]
        exact counted.fresh b beyond
      by_cases last : heap.refs a = 1
      · rw [if_neg (not_not.mpr last), found, Option.bind_some, last]
        have gone : Counted (setRefs heap a 0) (cell.left ::ₘ cell.right ::ₘ owners) := by
          refine ⟨fun target => ?_, others 0, counted.older⟩
          have degree_ := degree_setRefs_zero below live found target
          have before := counted.counted target
          rw [count_cons_some] at before
          rw [count_cons_some, count_cons_some]
          rw [Cell.pointers] at degree_
          by_cases same : target = a
          · subst same
            rw [if_pos rfl, last] at before
            rw [refs_setRefs]
            omega
          · rw [if_neg fun equal => same (Option.some.inj equal).symm] at before
            rw [refs_setRefs_of_ne heap same]
            omega
        have olderLeft (b : Nat) (child : cell.left = some b) : b < fuel :=
          Nat.lt_of_lt_of_le (counted.older a cell found b (.inl child))
            (Nat.le_of_lt_succ (enough a rfl))
        have olderRight (b : Nat) (child : cell.right = some b) : b < fuel :=
          Nat.lt_of_lt_of_le (counted.older a cell found b (.inr child))
            (Nat.le_of_lt_succ (enough a rfl))
        obtain ⟨heap', released, cells, counted'⟩ := ih gone olderLeft
        obtain ⟨heap'', released', cells', counted''⟩ := ih counted' olderRight
        refine ⟨heap'', ?_, cells'.trans cells, counted''⟩
        rw [Nat.sub_self, released, Option.bind_some, released']
      · rw [if_pos last]
        refine ⟨_, rfl, rfl, fun target => ?_, others _, counted.older⟩
        have before := counted.counted target
        rw [count_cons_some] at before
        have remain : heap.refs a - 1 ≠ 0 := by omega
        rw [degree_setRefs_of_live below live remain]
        by_cases same : target = a
        · subst same
          rw [if_pos rfl] at before
          rw [refs_setRefs]
          omega
        · rw [if_neg fun equal => same (Option.some.inj equal).symm] at before
          rw [refs_setRefs_of_ne heap same]
          omega

theorem counted_release (counted : Counted heap (pointer ::ₘ owners)) :
    ∃ heap', release pointer heap = some heap' ∧ heap'.cells = heap.cells ∧
      Counted heap' owners := by
  apply counted_releaseWith counted
  rintro a rfl
  exact counted.lt_of_refs (counted.refs_of_mem (Multiset.mem_cons_self _ _))

end Operations

section Reachable

inductive Reaches (cells : List (Cell Data)) (root : Pointer) : Pointer → Prop where
  | root : Reaches cells root root
  | left {a : Nat} {cell : Cell Data} (reached : Reaches cells root (some a))
      (found : cells[a]? = some cell) : Reaches cells root cell.left
  | right {a : Nat} {cell : Cell Data} (reached : Reaches cells root (some a))
      (found : cells[a]? = some cell) : Reaches cells root cell.right

def Held (cells : List (Cell Data)) (owners : Multiset Pointer) (pointer : Pointer) : Prop :=
  ∃ root ∈ owners, Reaches cells root pointer

variable {heap : Heap Data} {owners owners' : Multiset Pointer} {pointer : Pointer} {a : Nat}
  {cell : Cell Data} {cells cells' : List (Cell Data)}

theorem Held.of_mem (owned : pointer ∈ owners) : Held cells owners pointer :=
  ⟨pointer, owned, .root⟩

theorem Held.left (held : Held cells owners (some a)) (found : cells[a]? = some cell) :
    Held cells owners cell.left := by
  obtain ⟨root, owned, reached⟩ := held
  exact ⟨root, owned, reached.left found⟩

theorem Held.right (held : Held cells owners (some a)) (found : cells[a]? = some cell) :
    Held cells owners cell.right := by
  obtain ⟨root, owned, reached⟩ := held
  exact ⟨root, owned, reached.right found⟩

theorem getElem?_extended (extended : cells <+: cells') (found : cells[a]? = some cell) :
    cells'[a]? = some cell := by
  obtain ⟨rest, rfl⟩ := extended
  rw [List.getElem?_append_left (List.getElem?_eq_some_iff.mp found).1]
  exact found

theorem Reaches.mono {root : Pointer} (extended : cells <+: cells')
    (reached : Reaches cells root pointer) : Reaches cells' root pointer := by
  induction reached with
  | root => exact .root
  | left reached found ih =>
    exact ih.left (getElem?_extended extended found)
  | right reached found ih =>
    exact ih.right (getElem?_extended extended found)

theorem Held.mono (extended : cells <+: cells') (more : owners ≤ owners')
    (held : Held cells owners pointer) : Held cells' owners' pointer := by
  obtain ⟨root, owned, reached⟩ := held
  exact ⟨root, Multiset.mem_of_le more owned, reached.mono extended⟩

theorem Counted.refs_of_held (counted : Counted heap owners)
    (held : Held heap.cells owners pointer) : ∀ a, pointer = some a → heap.refs a ≠ 0 := by
  obtain ⟨root, owned, reached⟩ := held
  induction reached with
  | root =>
    rintro a rfl
    exact counted.refs_of_mem owned
  | left reached found ih =>
    intro b child
    exact counted.refs_of_child (ih _ rfl) found (.inl child)
  | right reached found ih =>
    intro b child
    exact counted.refs_of_child (ih _ rfl) found (.inr child)

theorem deref_of_held (counted : Counted heap owners) (held : Held heap.cells owners (some a))
    (found : heap.cells[a]? = some cell) : deref (some a) heap = some cell :=
  deref_eq (counted.refs_of_held held a rfl) found

theorem retain_of_held (counted : Counted heap owners) (held : Held heap.cells owners pointer) :
    ∃ heap', retain pointer heap = some heap' ∧ heap'.cells = heap.cells ∧
      Counted heap' (pointer ::ₘ owners) :=
  counted_retain counted (counted.refs_of_held held)

end Reachable

end RefHeap
