import GrpcCore.Lib.AvlTree

/-!
# Order in height-balanced search trees

Search trees as finite maps: what their operations do to the entries, and what is found in them.
-/

namespace AvlTree

universe u v
variable {Key : Type u} {Value : Type v}

namespace Tree

/-- A comparison whose sign is a total order: it is negative for the smaller key first. -/
structure TotalOrder (compare : Key → Key → Int) : Prop where
  eq_iff : ∀ a b, compare a b = 0 ↔ a = b
  swap : ∀ a b, 0 < compare a b ↔ compare b a < 0
  trans : ∀ a b c, compare a b < 0 → compare b c < 0 → compare a c < 0

section Order

variable {compare : Key → Key → Int} {tree : Tree Key Value}

/-- The keys rise from the first entry to the last one. -/
def Ordered (compare : Key → Key → Int) (tree : Tree Key Value) : Prop :=
  tree.toList.Pairwise fun entry entry' => compare entry.1 entry'.1 < 0

theorem ordered_iff {left right : Tree Key Value} {entry : Key × Value}
    (entries : tree.toList = left.toList ++ entry :: right.toList) :
    tree.Ordered compare ↔
      left.Ordered compare ∧ right.Ordered compare ∧
        (∀ before ∈ left.toList, compare before.1 entry.1 < 0) ∧
        (∀ after ∈ right.toList, compare entry.1 after.1 < 0) ∧
        ∀ before ∈ left.toList, ∀ after ∈ right.toList, compare before.1 after.1 < 0 := by
  unfold Ordered
  rw [entries, List.pairwise_append, List.pairwise_cons]
  constructor
  · rintro ⟨leftOrdered, ⟨after, rightOrdered⟩, across⟩
    exact ⟨leftOrdered, rightOrdered, fun before listed => across before listed _ List.mem_cons_self,
      after, fun before listed after listed' =>
        across before listed after (List.mem_cons_of_mem _ listed')⟩
  · rintro ⟨leftOrdered, rightOrdered, below, above, across⟩
    exact ⟨leftOrdered, ⟨above, rightOrdered⟩, fun before listed =>
      List.forall_mem_cons.mpr ⟨below before listed, across before listed⟩⟩

theorem mem_iff {left right : Tree Key Value} {entry : Key × Value}
    (entries : tree.toList = left.toList ++ entry :: right.toList) (sought : Key × Value) :
    sought ∈ tree.toList ↔ sought ∈ left.toList ∨ sought = entry ∨ sought ∈ right.toList := by
  rw [entries, List.mem_append, List.mem_cons]

theorem toList_head {tree : Tree Key Value} (nonempty : tree.isNil ≠ true) (entry : Key × Value) :
    ∃ rest, tree.toList = tree.head entry :: rest := by
  induction tree generalizing entry with
  | nil => exact absurd rfl nonempty
  | node height left key value right leftHead rightHead =>
    by_cases empty : left.isNil = true
    · cases left with
      | nil => exact ⟨right.toList, rfl⟩
      | node => cases empty
    · obtain ⟨rest, entries⟩ := leftHead empty (key, value)
      exact ⟨rest ++ (key, value) :: right.toList, by rw [toList, entries, head]; rfl⟩

theorem toList_tail {tree : Tree Key Value} (nonempty : tree.isNil ≠ true) (entry : Key × Value) :
    ∃ rest, tree.toList = rest ++ [tree.tail entry] := by
  induction tree generalizing entry with
  | nil => exact absurd rfl nonempty
  | node height left key value right leftTail rightTail =>
    by_cases empty : right.isNil = true
    · cases right with
      | nil => exact ⟨left.toList, rfl⟩
      | node => cases empty
    · obtain ⟨rest, entries⟩ := rightTail empty (key, value)
      exact ⟨left.toList ++ (key, value) :: rest, by
        rw [toList, entries, tail, List.append_assoc, List.cons_append]⟩

theorem head_spec (ordered : tree.Ordered compare) (nonempty : tree.isNil ≠ true)
    (entry : Key × Value) :
    tree.head entry ∈ tree.toList ∧
      ∀ other ∈ tree.toList, other.1 ≠ (tree.head entry).1 →
        compare (tree.head entry).1 other.1 < 0 := by
  obtain ⟨rest, entries⟩ := toList_head nonempty entry
  unfold Ordered at ordered
  rw [entries] at ordered ⊢
  refine ⟨List.mem_cons_self, fun other listed different => ?_⟩
  rcases List.mem_cons.mp listed with rfl | listed
  · exact absurd rfl different
  · exact (List.pairwise_cons.mp ordered).1 other listed

theorem tail_spec (ordered : tree.Ordered compare) (nonempty : tree.isNil ≠ true)
    (entry : Key × Value) :
    tree.tail entry ∈ tree.toList ∧
      ∀ other ∈ tree.toList, other.1 ≠ (tree.tail entry).1 →
        compare other.1 (tree.tail entry).1 < 0 := by
  obtain ⟨rest, entries⟩ := toList_tail nonempty entry
  unfold Ordered at ordered
  rw [entries] at ordered ⊢
  refine ⟨List.mem_append_right _ (List.mem_singleton_self _), fun other listed different => ?_⟩
  rcases List.mem_append.mp listed with listed | last
  · exact (List.pairwise_append.mp ordered).2.2 other listed _ (List.mem_singleton_self _)
  · exact absurd (congrArg Prod.fst (List.mem_singleton.mp last)) different

section Total

variable (total : TotalOrder compare)
include total

theorem TotalOrder.ne_of_neg {a b : Key} (before : compare a b < 0) : a ≠ b := fun same =>
  absurd ((total.eq_iff a b).mpr same) (ne_of_lt before)

section Node

variable {height : Int} {left right : Tree Key Value} {key key' : Key} {value' : Value}
  {sought : Key × Value}

section

variable (ordered : (node height left key' value' right).Ordered compare)
include ordered

theorem mem_other : sought.1 ≠ key' ∧ sought ∈ (node height left key' value' right).toList ↔
      sought ∈ left.toList ∨ sought ∈ right.toList := by
  obtain ⟨-, -, below, above, -⟩ := (ordered_iff rfl).mp ordered
  rw [mem_iff rfl]
  constructor
  · rintro ⟨other, listed | rfl | listed⟩
    · exact .inl listed
    · exact absurd rfl other
    · exact .inr listed
  · rintro (listed | listed)
    · exact ⟨total.ne_of_neg (below sought listed), .inl listed⟩
    · exact ⟨(total.ne_of_neg (above sought listed)).symm, .inr (.inr listed)⟩

/-- A key before that of the node is not found above it. -/
theorem mem_lower (before : compare key key' < 0) :
    sought.1 ≠ key ∧ sought ∈ (node height left key' value' right).toList ↔
      sought.1 ≠ key ∧ sought ∈ left.toList ∨ sought = (key', value') ∨ sought ∈ right.toList := by
  obtain ⟨-, -, -, above, -⟩ := (ordered_iff rfl).mp ordered
  have other : sought = (key', value') ∨ sought ∈ right.toList → sought.1 ≠ key := by
    rintro (rfl | listed)
    · exact (total.ne_of_neg before).symm
    · exact (total.ne_of_neg (total.trans key key' sought.1 before (above sought listed))).symm
  rw [mem_iff rfl, and_or_left, and_iff_right_of_imp other]

theorem mem_higher (after : compare key' key < 0) :
    sought.1 ≠ key ∧ sought ∈ (node height left key' value' right).toList ↔
      sought ∈ left.toList ∨ sought = (key', value') ∨ sought.1 ≠ key ∧ sought ∈ right.toList := by
  obtain ⟨-, -, below, -⟩ := (ordered_iff rfl).mp ordered
  have other : sought ∈ left.toList ∨ sought = (key', value') → sought.1 ≠ key := by
    rintro (listed | rfl)
    · exact total.ne_of_neg (total.trans sought.1 key' key (below sought listed) after)
    · exact total.ne_of_neg after
  rw [mem_iff rfl, ← or_assoc, and_or_left, and_iff_right_of_imp other, or_assoc]

end

end Node

section

variable (ordered : tree.Ordered compare)
include ordered

theorem mem_add (key : Key) (value : Value) (sought : Key × Value) :
    sought ∈ (tree.add compare key value).toList ↔
      sought = (key, value) ∨ sought.1 ≠ key ∧ sought ∈ tree.toList := by
  induction tree with
  | nil => simp [add, mk, toList]
  | node height left key' value' right leftAdd rightAdd =>
    obtain ⟨leftOrdered, rightOrdered, -⟩ := (ordered_iff rfl).mp ordered
    rw [add]
    split_ifs with same before
    · obtain rfl := (total.eq_iff key' key).mp same
      rw [mem_iff (toList_mk left right key' value), mem_other total ordered, or_left_comm]
    · rw [mem_iff (toList_rebalance _ _ _ _), leftAdd leftOrdered,
        mem_lower total ordered ((total.swap key' key).mp before), or_assoc]
    · rw [mem_iff (toList_rebalance _ _ _ _), rightAdd rightOrdered,
        mem_higher total ordered (lt_of_le_of_ne (not_lt.mp before) same),
        @or_left_comm (sought = (key', value')), or_left_comm]

theorem ordered_add (key : Key) (value : Value) : (tree.add compare key value).Ordered compare := by
  induction tree with
  | nil => exact List.pairwise_singleton _ _
  | node height left key' value' right leftAdd rightAdd =>
    obtain ⟨leftOrdered, rightOrdered, below, above, across⟩ := (ordered_iff rfl).mp ordered
    rw [add]
    split_ifs with same before
    · obtain rfl := (total.eq_iff key' key).mp same
      exact (ordered_iff (toList_mk left right key' value)).mpr
        ⟨leftOrdered, rightOrdered, below, above, across⟩
    · refine (ordered_iff (toList_rebalance _ _ _ _)).mpr
        ⟨leftAdd leftOrdered, rightOrdered, ?_, above, ?_⟩
      · intro entry listed
        rcases (mem_add total leftOrdered key value entry).mp listed with rfl | ⟨-, listed⟩
        · exact (total.swap key' key).mp before
        · exact below entry listed
      · intro entry listed entry' listed'
        rcases (mem_add total leftOrdered key value entry).mp listed with rfl | ⟨-, listed⟩
        · exact total.trans key key' entry'.1 ((total.swap key' key).mp before)
            (above entry' listed')
        · exact across entry listed entry' listed'
    · have after : compare key' key < 0 := lt_of_le_of_ne (not_lt.mp before) same
      refine (ordered_iff (toList_rebalance _ _ _ _)).mpr
        ⟨leftOrdered, rightAdd rightOrdered, below, ?_, ?_⟩
      · intro entry listed
        rcases (mem_add total rightOrdered key value entry).mp listed with rfl | ⟨-, listed⟩
        · exact after
        · exact above entry listed
      · intro entry listed entry' listed'
        rcases (mem_add total rightOrdered key value entry').mp listed' with rfl | ⟨-, listed'⟩
        · exact total.trans entry.1 key' key (below entry listed) after
        · exact across entry listed entry' listed'

theorem entry_unique {entry entry' : Key × Value} (listed : entry ∈ tree.toList)
    (listed' : entry' ∈ tree.toList) (same : entry.1 = entry'.1) : entry = entry' := by
  have keys : (tree.toList.map Prod.fst).Nodup :=
    List.pairwise_map.mpr (ordered.imp fun before => total.ne_of_neg before)
  exact List.inj_on_of_nodup_map keys listed listed' same

theorem mem_iff_other {entry : Key × Value} (listed : entry ∈ tree.toList) (sought : Key × Value) :
    sought ∈ tree.toList ↔ sought = entry ∨ sought.1 ≠ entry.1 ∧ sought ∈ tree.toList := by
  constructor
  · intro found
    by_cases same : sought.1 = entry.1
    · exact .inl (entry_unique total ordered found listed same)
    · exact .inr ⟨same, found⟩
  · rintro (rfl | ⟨-, found⟩)
    · exact listed
    · exact found

theorem mem_remove (key : Key) (sought : Key × Value) :
    sought ∈ (tree.remove compare key).toList ↔ sought.1 ≠ key ∧ sought ∈ tree.toList := by
  induction tree generalizing key with
  | nil => simp [remove, toList]
  | node height left key' value' right leftRemove rightRemove =>
    obtain ⟨leftOrdered, rightOrdered, -⟩ := (ordered_iff rfl).mp ordered
    rw [remove]
    split_ifs with same leftNil rightNil higher before
    · obtain rfl := (total.eq_iff key' key).mp same
      rw [mem_other total ordered, toList_of_isNil leftNil]
      exact (or_iff_right List.not_mem_nil).symm
    · obtain rfl := (total.eq_iff key' key).mp same
      rw [mem_other total ordered, toList_of_isNil rightNil]
      exact (or_iff_left List.not_mem_nil).symm
    · obtain rfl := (total.eq_iff key' key).mp same
      obtain ⟨first, -⟩ := head_spec rightOrdered rightNil (key', value')
      rw [mem_iff (toList_rebalance _ _ _ _), rightRemove rightOrdered,
        ← mem_iff_other total rightOrdered first, mem_other total ordered]
    · obtain rfl := (total.eq_iff key' key).mp same
      obtain ⟨last, -⟩ := tail_spec leftOrdered leftNil (key', value')
      rw [mem_iff (toList_rebalance _ _ _ _), leftRemove leftOrdered, or_left_comm, ← or_assoc,
        ← mem_iff_other total leftOrdered last, mem_other total ordered]
    · rw [mem_iff (toList_rebalance _ _ _ _), leftRemove leftOrdered,
        mem_lower total ordered ((total.swap key' key).mp before)]
    · rw [mem_iff (toList_rebalance _ _ _ _), rightRemove rightOrdered,
        mem_higher total ordered (lt_of_le_of_ne (not_lt.mp before) same)]

theorem ordered_remove (key : Key) : (tree.remove compare key).Ordered compare := by
  induction tree generalizing key with
  | nil => exact ordered
  | node height left key' value' right leftRemove rightRemove =>
    obtain ⟨leftOrdered, rightOrdered, below, above, across⟩ := (ordered_iff rfl).mp ordered
    have inLeft {key : Key} {entry : Key × Value}
        (listed : entry ∈ (left.remove compare key).toList) :=
      (mem_remove total leftOrdered key entry).mp listed
    have inRight {key : Key} {entry : Key × Value}
        (listed : entry ∈ (right.remove compare key).toList) :=
      (mem_remove total rightOrdered key entry).mp listed
    rw [remove]
    split_ifs with same leftNil rightNil higher before
    · exact rightOrdered
    · exact leftOrdered
    · obtain ⟨first, least⟩ := head_spec rightOrdered rightNil (key', value')
      exact (ordered_iff (toList_rebalance _ _ _ _)).mpr
        ⟨leftOrdered, rightRemove rightOrdered _, fun entry listed => across entry listed _ first,
          fun entry listed => least entry (inRight listed).2 (inRight listed).1,
          fun entry listed entry' listed' => across entry listed entry' (inRight listed').2⟩
    · obtain ⟨last, greatest⟩ := tail_spec leftOrdered leftNil (key', value')
      exact (ordered_iff (toList_rebalance _ _ _ _)).mpr
        ⟨leftRemove leftOrdered _, rightOrdered,
          fun entry listed => greatest entry (inLeft listed).2 (inLeft listed).1,
          fun entry listed => across _ last entry listed,
          fun entry listed entry' listed' => across entry (inLeft listed).2 entry' listed'⟩
    · exact (ordered_iff (toList_rebalance _ _ _ _)).mpr
        ⟨leftRemove leftOrdered key, rightOrdered, fun entry listed => below entry (inLeft listed).2,
          above, fun entry listed entry' listed' => across entry (inLeft listed).2 entry' listed'⟩
    · exact (ordered_iff (toList_rebalance _ _ _ _)).mpr
        ⟨leftOrdered, rightRemove rightOrdered key, below,
          fun entry listed => above entry (inRight listed).2,
          fun entry listed entry' listed' => across entry listed entry' (inRight listed').2⟩

theorem lookup_eq_some_iff (key : Key) (value : Value) :
    tree.lookup compare key = some value ↔ (key, value) ∈ tree.toList := by
  induction tree with
  | nil => exact iff_of_false nofun List.not_mem_nil
  | node height left key' value' right leftLookup rightLookup =>
    obtain ⟨leftOrdered, rightOrdered, below, above, -⟩ := (ordered_iff rfl).mp ordered
    have entries : (key, value) ∈ (node height left key' value' right).toList ↔ _ :=
      mem_iff rfl (key, value)
    rw [lookup, entries]
    split_ifs with same before
    · obtain rfl := (total.eq_iff key' key).mp same
      constructor
      · rintro ⟨⟩
        exact .inr (.inl rfl)
      · rintro (listed | equal | listed)
        · exact absurd rfl (total.ne_of_neg (below (key', value) listed))
        · rw [(Prod.mk.inj equal).2]
        · exact absurd rfl (total.ne_of_neg (above (key', value) listed))
    · rw [leftLookup leftOrdered]
      constructor
      · exact .inl
      · rintro (listed | equal | listed)
        · exact listed
        · exact absurd ((total.eq_iff key' key).mpr (Prod.mk.inj equal).1.symm) same
        · have later := total.trans key key' key ((total.swap key' key).mp before) (above _ listed)
          exact absurd rfl (total.ne_of_neg later)
    · rw [rightLookup rightOrdered]
      have after : compare key' key < 0 := lt_of_le_of_ne (not_lt.mp before) same
      constructor
      · exact fun listed => .inr (.inr listed)
      · rintro (listed | equal | listed)
        · exact absurd rfl (total.ne_of_neg (total.trans key key' key (below _ listed) after))
        · exact absurd ((total.eq_iff key' key).mpr (Prod.mk.inj equal).1.symm) same
        · exact listed

end

variable [DecidableEq Key]

theorem lookup_add (ordered : tree.Ordered compare) (key : Key) (value : Value) :
    (tree.add compare key value).lookup compare =
      Function.update (tree.lookup compare) key (some value) := by
  funext sought
  apply Option.ext
  intro found
  rw [lookup_eq_some_iff total (ordered_add total ordered key value), mem_add total ordered]
  by_cases same : sought = key
  · subst same
    simp [eq_comm]
  · rw [Function.update_of_ne same, lookup_eq_some_iff total ordered]
    simp [same]

theorem lookup_remove (ordered : tree.Ordered compare) (key : Key) :
    (tree.remove compare key).lookup compare = Function.update (tree.lookup compare) key none := by
  funext sought
  apply Option.ext
  intro found
  rw [lookup_eq_some_iff total (ordered_remove total ordered key), mem_remove total ordered]
  by_cases same : sought = key
  · subst same
    simp
  · rw [Function.update_of_ne same, lookup_eq_some_iff total ordered]
    simp [same]

end Total

end Order

end Tree

end AvlTree
