import GrpcCore.Avl.Recursions
import GrpcCore.Lib.Run

/-!
# Histories of the AVL tree

Versions are made from versions and given up, in any order, and share their nodes. Each version that
is held stays the finite map that it was made to be.
-/

namespace GrpcCore.Avl

open RefHeap (Pointer Counted Held deref retain release)
open AvlTree (Tree)
open Machine (exec)

variable {Key Value : Type}

/-- The roots of the versions that are held, each with a reference of its own. -/
structure State (Key Value : Type) where
  heap : Heap Key Value
  versions : List Pointer

def start : State Key Value := ⟨RefHeap.Heap.empty, []⟩

inductive Action (Key Value : Type) where
  /-- `grpc_avl_create` -/
  | create
  /-- `grpc_avl_ref` -/
  | ref (i : Nat)
  /-- `grpc_avl_unref` -/
  | unref (i : Nat)
  /-- `grpc_avl_add`, which takes the version over -/
  | add (i : Nat) (key : Key) (value : Value)
  /-- `grpc_avl_remove`, which takes the version over -/
  | remove (i : Nat) (key : Key)

def step (compareKeys : Key → Key → Int) (state : State Key Value) :
    Action Key Value → Option (State Key Value)
  | .create => some ⟨state.heap, state.versions ++ [none]⟩
  | .ref i => do
    let root ← state.versions[i]?
    let heap ← retain root state.heap
    return ⟨heap, state.versions ++ [root]⟩
  | .unref i => do
    let root ← state.versions[i]?
    let heap ← release root state.heap
    return ⟨heap, state.versions.eraseIdx i⟩
  | .add i key value => do
    let root ← state.versions[i]?
    let (root, heap) ← grpcAvlAdd compareKeys root key value state.heap
    return ⟨heap, state.versions.set i root⟩
  | .remove i key => do
    let root ← state.versions[i]?
    let (root, heap) ← grpcAvlRemove compareKeys root key state.heap
    return ⟨heap, state.versions.set i root⟩

def update [DecidableEq Key] (map : Key → Option Value) (key : Key) (entry : Option Value) :
    Key → Option Value :=
  Function.update map key entry

/-- What the versions are for: finite maps. -/
def specify [DecidableEq Key] (maps : List (Key → Option Value)) :
    Action Key Value → Option (List (Key → Option Value))
  | .create => some (maps ++ [(fun _ => none : Key → Option Value)])
  | .ref i => maps[i]?.map fun map => maps ++ [map]
  | .unref i => maps[i]?.map fun _ => maps.eraseIdx i
  | .add i key value => maps[i]?.map fun map => maps.set i (update map key (some value))
  | .remove i key => maps[i]?.map fun map => maps.set i (update map key none)

def IsMap (compareKeys : Key → Key → Int) (heap : Heap Key Value) (root : Pointer)
    (map : Key → Option Value) : Prop :=
  ∃ tree, Represents heap.cells root tree ∧ tree.Ordered compareKeys ∧ tree.Balanced ∧
    tree.lookup compareKeys = map

structure Sound (compareKeys : Key → Key → Int) (state : State Key Value)
    (maps : List (Key → Option Value)) : Prop where
  counted : Counted state.heap state.versions
  length : state.versions.length = maps.length
  isMap : ∀ (j : Nat) root map, state.versions[j]? = some root → maps[j]? = some map →
    IsMap compareKeys state.heap root map

section Versions

variable {compareKeys : Key → Key → Int} {state : State Key Value}
  {maps : List (Key → Option Value)} {heap : Heap Key Value} {root root' : Pointer}
  {map map' : Key → Option Value} {i : Nat}

theorem IsMap.mono (extended : state.heap.cells <+: heap.cells)
    (isMap : IsMap compareKeys state.heap root map) : IsMap compareKeys heap root map := by
  obtain ⟨tree, represented, sound⟩ := isMap
  exact ⟨tree, represented.mono extended, sound⟩

theorem Sound.exists_root (sound : Sound compareKeys state maps) (found : maps[i]? = some map) :
    ∃ root, state.versions[i]? = some root := by
  have below := (List.getElem?_eq_some_iff.mp found).1
  exact ⟨_, List.getElem?_eq_getElem (sound.length ▸ below)⟩

theorem owners_eq {versions : List Pointer} (found : versions[i]? = some root) :
    (versions : Multiset Pointer) = root ::ₘ (versions.eraseIdx i : Multiset Pointer) := by
  obtain ⟨below, rfl⟩ := List.getElem?_eq_some_iff.mp found
  rw [Multiset.cons_coe, Multiset.coe_eq_coe]
  exact (List.getElem_cons_eraseIdx_perm below).symm

theorem owners_set {versions : List Pointer} (found : versions[i]? = some root) :
    (versions.set i root' : Multiset Pointer) =
      root' ::ₘ (versions.eraseIdx i : Multiset Pointer) := by
  rw [Multiset.cons_coe, Multiset.coe_eq_coe]
  exact List.set_perm_cons_eraseIdx (List.getElem?_eq_some_iff.mp found).1 root'

section

variable (sound : Sound compareKeys state maps)
include sound

theorem Sound.snoc (extended : state.heap.cells <+: heap.cells)
    (counted : Counted heap (root ::ₘ state.versions)) (isMap : IsMap compareKeys heap root map) :
    Sound compareKeys ⟨heap, state.versions ++ [root]⟩ (maps ++ [map]) where
  counted := by
    rwa [Multiset.coe_eq_coe.mpr (List.perm_append_singleton root state.versions)]
  length := by
    rw [List.length_append, List.length_append, sound.length]
    rfl
  isMap j root' map' listed listed' := by
    rcases Nat.lt_or_ge j maps.length with below | beyond
    · rw [List.getElem?_append_left (sound.length ▸ below)] at listed
      rw [List.getElem?_append_left below] at listed'
      exact (sound.isMap j root' map' listed listed').mono extended
    · have below := (List.getElem?_eq_some_iff.mp listed').1
      rw [List.length_append, List.length_singleton] at below
      obtain rfl : j = maps.length := by omega
      rw [List.getElem?_concat_length] at listed'
      rw [← sound.length, List.getElem?_concat_length] at listed
      cases listed
      cases listed'
      exact isMap

theorem Sound.set (extended : state.heap.cells <+: heap.cells)
    (counted : Counted heap (root ::ₘ (state.versions.eraseIdx i : Multiset Pointer)))
    (found : state.versions[i]? = some root') (isMap : IsMap compareKeys heap root map) :
    Sound compareKeys ⟨heap, state.versions.set i root⟩ (maps.set i map) where
  counted := by rwa [owners_set found]
  length := by rw [List.length_set, List.length_set, sound.length]
  isMap j root' map' listed listed' := by
    rcases eq_or_ne i j with rfl | other
    · have below := (List.getElem?_eq_some_iff.mp found).1
      rw [List.getElem?_set_self below] at listed
      rw [List.getElem?_set_self (sound.length ▸ below)] at listed'
      cases listed
      cases listed'
      exact isMap
    · rw [List.getElem?_set_ne other] at listed listed'
      exact (sound.isMap j root' map' listed listed').mono extended

theorem Sound.eraseIdx (same : heap.cells = state.heap.cells)
    (counted : Counted heap (state.versions.eraseIdx i)) :
    Sound compareKeys ⟨heap, state.versions.eraseIdx i⟩ (maps.eraseIdx i) where
  counted := counted
  length := by rw [List.length_eraseIdx, List.length_eraseIdx, sound.length]
  isMap j root map listed listed' := by
    rw [List.getElem?_eraseIdx] at listed listed'
    have extended : state.heap.cells <+: heap.cells := same ▸ List.prefix_refl _
    split_ifs at listed listed'
    · exact (sound.isMap j root map listed listed').mono extended
    · exact (sound.isMap (j + 1) root map listed listed').mono extended

end

theorem sound_start : Sound compareKeys (start : State Key Value) [] where
  counted := RefHeap.counted_empty
  length := rfl
  isMap j root map listed := by cases listed

variable [DecidableEq Key]

theorem step_sound (total : Tree.TotalOrder compareKeys) {action : Action Key Value}
    {maps' : List (Key → Option Value)} (sound : Sound compareKeys state maps)
    (specified : specify maps action = some maps') :
    ∃ state', step compareKeys state action = some state' ∧ Sound compareKeys state' maps' := by
  cases action with
  | create =>
    obtain rfl := Option.some.inj specified
    refine ⟨_, rfl, sound.snoc (List.prefix_refl _) ?_ ⟨.nil, .nil, List.Pairwise.nil, trivial, rfl⟩⟩
    exact RefHeap.counted_cons_none.mpr sound.counted
  | ref i =>
    obtain ⟨map, found, rfl⟩ := Option.map_eq_some_iff.mp specified
    obtain ⟨root, listed⟩ := sound.exists_root found
    obtain ⟨heap, retained, same, counted⟩ := RefHeap.retain_of_held sound.counted
      (.of_mem (Multiset.mem_coe.mpr (List.mem_of_getElem? listed)))
    have extended : state.heap.cells <+: heap.cells := same ▸ List.prefix_refl _
    refine ⟨⟨heap, state.versions ++ [root]⟩, ?_, sound.snoc extended counted ?_⟩
    · simp only [step, listed, retained, Option.bind_eq_bind, Option.bind_some]
      rfl
    · exact (sound.isMap i root map listed found).mono extended
  | unref i =>
    obtain ⟨map, found, rfl⟩ := Option.map_eq_some_iff.mp specified
    obtain ⟨root, listed⟩ := sound.exists_root found
    obtain ⟨heap, released, same, counted⟩ :=
      RefHeap.counted_release (owners_eq listed ▸ sound.counted)
    refine ⟨⟨heap, state.versions.eraseIdx i⟩, ?_, sound.eraseIdx same counted⟩
    simp only [step, listed, released, Option.bind_eq_bind, Option.bind_some]
    rfl
  | add i key value =>
    obtain ⟨map, found, rfl⟩ := Option.map_eq_some_iff.mp specified
    obtain ⟨root, listed⟩ := sound.exists_root found
    obtain ⟨tree, represented, ordered, balanced, rfl⟩ := sound.isMap i root map listed found
    obtain ⟨root', heap, added, extended, counted, represented'⟩ :=
      @grpcAvlAdd_makes _ _ compareKeys _ _ _ _ (owners_eq listed ▸ sound.counted) represented
        balanced key value
    refine ⟨⟨heap, state.versions.set i root'⟩, ?_, sound.set extended counted listed ?_⟩
    · simp only [step, listed, added, Option.bind_eq_bind, Option.bind_some]
      rfl
    · exact ⟨_, represented', Tree.ordered_add total ordered key value,
        (Tree.balanced_add balanced key value).1, Tree.lookup_add total ordered key value⟩
  | remove i key =>
    obtain ⟨map, found, rfl⟩ := Option.map_eq_some_iff.mp specified
    obtain ⟨root, listed⟩ := sound.exists_root found
    obtain ⟨tree, represented, ordered, balanced, rfl⟩ := sound.isMap i root map listed found
    obtain ⟨root', heap, removed, extended, counted, represented'⟩ :=
      @grpcAvlRemove_makes _ _ compareKeys _ _ _ _ (owners_eq listed ▸ sound.counted) represented
        balanced key
    refine ⟨⟨heap, state.versions.set i root'⟩, ?_, sound.set extended counted listed ?_⟩
    · simp only [step, listed, removed, Option.bind_eq_bind, Option.bind_some]
      rfl
    · exact ⟨_, represented', Tree.ordered_remove total ordered key,
        (Tree.balanced_remove balanced key).1, Tree.lookup_remove total ordered key⟩

/-- Whatever is added to and removed from whichever versions, every version that is held is a balanced
search tree, and reads as the finite map that its own history made it. -/
theorem versions_are_maps (total : Tree.TotalOrder compareKeys) {actions : List (Action Key Value)}
    {maps : List (Key → Option Value)} (specified : exec specify [] actions = some maps) :
    ∃ state, exec (step compareKeys) start actions = some state ∧
      state.versions.length = maps.length ∧
      ∀ (j : Nat) root map, state.versions[j]? = some root → maps[j]? = some map →
        (∃ tree, Represents state.heap.cells root tree ∧ tree.Ordered compareKeys ∧ tree.Balanced) ∧
          ∀ key, grpcAvlGet compareKeys root key state.heap = some (map key) := by
  obtain ⟨state, done, sound⟩ :=
    @Machine.exec_forward _ _ (step compareKeys) _ (Sound compareKeys) specify
      (fun sound specified => step_sound total sound specified) _ _ _ _ sound_start specified
  refine ⟨state, done, sound.length, fun j root map listed listed' => ?_⟩
  obtain ⟨tree, represented, ordered, balanced, rfl⟩ := sound.isMap j root map listed listed'
  refine ⟨⟨tree, represented, ordered, balanced⟩, fun key => ?_⟩
  have owned : root ∈ (state.versions : Multiset Pointer) :=
    Multiset.mem_coe.mpr (List.mem_of_getElem? listed)
  apply get_eq sound.counted (.of_mem owned) represented
  rintro a rfl
  exact sound.counted.lt_of_refs (sound.counted.refs_of_mem owned)

end Versions

theorem total_sub : Tree.TotalOrder (fun a b : Int => a - b) where
  eq_iff a b := sub_eq_zero
  swap a b := by omega
  trans a b c before after := by omega

/-- An old version is kept, and differs from the new one in two keys. -/
theorem versions_are_maps_kept :
    ∃ state : State Int Nat, exec (step fun a b => a - b) start
      [.create, .add 0 1 10, .add 0 2 20, .ref 0, .add 1 3 30, .remove 1 1] = some state ∧
      state.versions.length = 2 ∧
      ∀ root root', state.versions = [root, root'] →
        grpcAvlGet (fun a b => a - b) root 1 state.heap = some (some 10) ∧
          grpcAvlGet (fun a b => a - b) root' 1 state.heap = some none ∧
          grpcAvlGet (fun a b => a - b) root' 3 state.heap = some (some 30) := by
  obtain ⟨state, done, length, isMap⟩ := @versions_are_maps _ Nat _ _ total_sub
    [.create, .add 0 1 10, .add 0 2 20, .ref 0, .add 1 3 30, .remove 1 1] _ rfl
  refine ⟨state, done, length, fun root root' listed => ?_⟩
  have old := (isMap 0 root _ (by rw [listed]; rfl) rfl).2
  have new := (isMap 1 root' _ (by rw [listed]; rfl) rfl).2
  exact ⟨old 1, new 1, new 3⟩

end GrpcCore.Avl
