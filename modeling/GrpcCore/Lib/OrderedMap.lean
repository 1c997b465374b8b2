import Mathlib

/-!
# Ordered maps

A map as the list of its entries in the order of their keys.
-/

namespace OrderedMap

universe u v
variable {Key : Type u} {Value : Type v} [LinearOrder Key]

def emplace (key : Key) (value : Value) : List (Key × Value) → List (Key × Value)
  | [] => [(key, value)]
  | (head, old) :: rest =>
    if key < head then (key, value) :: (head, old) :: rest
    else if head < key then (head, old) :: emplace key value rest
    else (head, old) :: rest

def modify (key : Key) (change : Value → Value) (map : List (Key × Value)) : List (Key × Value) :=
  map.map fun entry => if entry.1 = key then (entry.1, change entry.2) else entry

def erase (key : Key) (map : List (Key × Value)) : List (Key × Value) :=
  map.filter fun entry => entry.1 ≠ key

/-- `map[key] = value`. -/
def assign (key : Key) (value : Value) (map : List (Key × Value)) : List (Key × Value) :=
  if (map.lookup key).isSome then modify key (fun _ => value) map else emplace key value map

/-- `map[key]` makes an entry for a key that has none. -/
def touch (key : Key) (value : Value) (map : List (Key × Value)) : List (Key × Value) :=
  if (map.lookup key).isSome then map else emplace key value map

variable {map : List (Key × Value)} {key other : Key} {value new : Value}

theorem mem_of_mem_emplace (member : (other, value) ∈ emplace key new map) :
    (other, value) ∈ map ∨ other = key ∧ value = new := by
  induction map with
  | nil =>
    simp only [emplace, List.mem_singleton, Prod.mk.injEq] at member
    exact .inr member
  | cons entry rest ih =>
    unfold emplace at member
    split at member
    · rcases List.mem_cons.mp member with here | there
      · exact .inr (by simpa using here)
      · exact .inl there
    · split at member
      · rcases List.mem_cons.mp member with here | there
        · exact .inl (here ▸ List.mem_cons_self ..)
        · exact (ih there).imp_left (List.mem_cons_of_mem _)
      · exact .inl member

theorem mem_modify {change : Value → Value} (member : (other, value) ∈ modify key change map) :
    ∃ old, (other, old) ∈ map ∧ (other = key ∧ value = change old ∨ other ≠ key ∧ value = old) := by
  obtain ⟨⟨found, old⟩, listed, changed⟩ := List.mem_map.mp member
  by_cases same : found = key
  · simp only [same, if_true, Prod.mk.injEq] at changed
    obtain ⟨rfl, rfl⟩ := changed
    exact ⟨old, same ▸ listed, .inl ⟨rfl, rfl⟩⟩
  · simp only [same, if_false, Prod.mk.injEq] at changed
    obtain ⟨rfl, rfl⟩ := changed
    exact ⟨old, listed, .inr ⟨same, rfl⟩⟩

theorem mem_of_mem_erase (member : (other, value) ∈ erase key map) : (other, value) ∈ map :=
  (List.mem_filter.mp member).1

theorem mem_of_lookup (found : map.lookup key = some value) : (key, value) ∈ map := by
  obtain ⟨before, after, rfl, _⟩ := List.lookup_eq_some_iff.mp found
  simp

theorem isSome_lookup_iff : (map.lookup key).isSome ↔ key ∈ map.map Prod.fst := by
  constructor
  · intro present
    obtain ⟨value, found⟩ := Option.isSome_iff_exists.mp present
    exact List.mem_map_of_mem (mem_of_lookup found)
  · intro member
    by_contra absent
    obtain ⟨entry, listed, rfl⟩ := List.mem_map.mp member
    have none := List.lookup_eq_none_iff.mp (Option.not_isSome_iff_eq_none.mp absent) entry listed
    simp at none

theorem lookup_emplace (absent : map.lookup key = none) :
    (emplace key new map).lookup other = if other = key then some new else map.lookup other := by
  induction map with
  | nil =>
    by_cases same : other = key
    · simp [emplace, same]
    · simp [emplace, List.lookup, same, beq_eq_false_iff_ne.mpr same]
  | cons entry rest ih =>
    obtain ⟨head, old⟩ := entry
    have different : key ≠ head := by
      rintro rfl
      simp [List.lookup] at absent
    have absentRest : rest.lookup key = none := by
      simpa [List.lookup, beq_eq_false_iff_ne.mpr different] using absent
    unfold emplace
    rcases lt_or_gt_of_ne different with before | after
    · rw [if_pos before]
      by_cases same : other = key
      · simp [same]
      · simp [List.lookup_cons, same, beq_eq_false_iff_ne.mpr same]
    · rw [if_neg (not_lt_of_gt after), if_pos after]
      by_cases here : other = head
      · subst here
        simp [Ne.symm different]
      · simp only [List.lookup_cons, beq_eq_false_iff_ne.mpr here]
        exact ih absentRest

theorem modify_of_fresh (fresh : key ∉ map.map Prod.fst) (change : Value → Value) :
    modify key change map = map := by
  induction map with
  | nil => rfl
  | cons entry rest ih =>
    rw [List.map_cons, List.mem_cons, not_or] at fresh
    have kept : modify key change (entry :: rest) = entry :: modify key change rest :=
      congrArg (· :: _) (if_neg (Ne.symm fresh.1))
    rw [kept, ih fresh.2]

theorem modify_emplace_of_fresh (fresh : key ∉ map.map Prod.fst) (change : Value → Value) :
    modify key change (emplace key new map) = emplace key (change new) map := by
  induction map with
  | nil => simp [modify, emplace]
  | cons entry rest ih =>
    have unchanged := modify_of_fresh fresh change
    rw [List.map_cons, List.mem_cons, not_or] at fresh
    obtain ⟨head, old⟩ := entry
    rw [emplace, emplace]
    rcases lt_or_gt_of_ne fresh.1 with before | after
    · rw [if_pos before, if_pos before]
      have changed : modify key change ((key, new) :: (head, old) :: rest) =
          (key, change new) :: modify key change ((head, old) :: rest) :=
        congrArg (· :: _) (if_pos rfl)
      rw [changed, unchanged]
    · rw [if_neg (not_lt_of_gt after), if_pos after, if_neg (not_lt_of_gt after), if_pos after]
      have kept : modify key change ((head, old) :: emplace key new rest) =
          (head, old) :: modify key change (emplace key new rest) :=
        congrArg (· :: _) (if_neg (Ne.symm fresh.1))
      rw [kept, ih fresh.2]

theorem touch_of_fresh (fresh : key ∉ map.map Prod.fst) :
    touch key value map = emplace key value map :=
  if_neg (mt isSome_lookup_iff.mp fresh)

theorem lookup_erase : (erase key map).lookup other = if other = key then none else map.lookup other := by
  induction map with
  | nil => simp [erase]
  | cons entry rest ih =>
    unfold erase at ih ⊢
    by_cases removed : entry.1 = key
    · rw [List.filter_cons_of_neg (by simpa using removed), ih]
      split
      · rfl
      · rename_i different
        have later : (other == entry.1) = false :=
          beq_eq_false_iff_ne.mpr fun same => different (same.trans removed)
        rw [List.lookup_cons, later]
    · rw [List.filter_cons_of_pos (by simpa using removed), List.lookup_cons, List.lookup_cons]
      by_cases here : other = entry.1
      · subst here
        simp [removed]
      · simp only [beq_eq_false_iff_ne.mpr here, ih]

theorem lookup_modify (change : Value → Value) :
    (modify key change map).lookup other =
      if other = key then (map.lookup key).map change else map.lookup other := by
  induction map with
  | nil => simp [modify]
  | cons entry rest ih =>
    unfold modify at ih ⊢
    rw [List.map_cons, List.lookup_cons, List.lookup_cons, List.lookup_cons, ih]
    by_cases changed : entry.1 = key
    · by_cases here : other = key
      · simp [changed, here]
      · simp [changed, here, beq_eq_false_iff_ne.mpr here]
    · have later : (key == entry.1) = false := beq_eq_false_iff_ne.mpr fun same => changed same.symm
      by_cases here : other = entry.1
      · simp [changed, here]
      · simp [changed, later, beq_eq_false_iff_ne.mpr here]

theorem lookup_assign :
    (assign key value map).lookup other = if other = key then some value else map.lookup other := by
  unfold assign
  split
  · rename_i present
    obtain ⟨old, found⟩ := Option.isSome_iff_exists.mp present
    rw [lookup_modify, found]
    rfl
  · rename_i absent
    exact lookup_emplace (Option.not_isSome_iff_eq_none.mp absent)

theorem lookup_touch :
    (touch key value map).lookup other =
      if other = key then some ((map.lookup key).getD value) else map.lookup other := by
  unfold touch
  split
  · rename_i present
    obtain ⟨old, found⟩ := Option.isSome_iff_exists.mp present
    split
    · rename_i same
      rw [same, found]
      rfl
    · rfl
  · rename_i absent
    have none := Option.not_isSome_iff_eq_none.mp absent
    rw [lookup_emplace none, none]
    rfl

theorem keys_modify (change : Value → Value) :
    (modify key change map).map Prod.fst = map.map Prod.fst := by
  rw [modify, List.map_map]
  apply List.map_congr_left
  intro entry _
  simp only [Function.comp]
  split
  · rfl
  · rfl

theorem ordered_modify (change : Value → Value) (ordered : (map.map Prod.fst).Pairwise (· < ·)) :
    ((modify key change map).map Prod.fst).Pairwise (· < ·) := by
  rwa [keys_modify]

theorem lookup_map_values {Image : Type*} (change : Value → Image) :
    (map.map fun entry => (entry.1, change entry.2)).lookup key = (map.lookup key).map change := by
  induction map with
  | nil => rfl
  | cons entry rest ih =>
    rw [List.map_cons, List.lookup_cons, List.lookup_cons, ih]
    split
    · rfl
    · rfl

theorem lookup_modify_self (change : Value → Value) (found : map.lookup key = some value) :
    (modify key change map).lookup key = some (change value) := by
  rw [lookup_modify, if_pos rfl, found, Option.map_some]

section

variable (ordered : (map.map Prod.fst).Pairwise (· < ·))
include ordered

theorem lookup_emplace_of_present (present : map.lookup key = some value) :
    emplace key new map = map := by
  induction map with
  | nil => cases present
  | cons entry rest ih =>
    obtain ⟨head, old⟩ := entry
    rw [List.map_cons, List.pairwise_cons] at ordered
    unfold emplace
    by_cases here : key = head
    · subst here
      rw [if_neg (lt_irrefl key), if_neg (lt_irrefl key)]
    · rw [List.lookup_cons, beq_eq_false_iff_ne.mpr here] at present
      have later : head < key :=
        ordered.1 key (List.mem_map_of_mem (mem_of_lookup present))
      rw [if_neg (not_lt_of_gt later), if_pos later, ih ordered.2 present]

theorem lookup_emplace_of_ordered : (emplace key new map).lookup other =
      if other = key then some ((map.lookup key).getD new) else map.lookup other := by
  cases found : map.lookup key with
  | none => exact lookup_emplace found
  | some =>
    rw [lookup_emplace_of_present ordered found]
    split
    · rename_i same
      rw [same, found, Option.getD_some]
    · rfl

theorem ordered_emplace : ((emplace key new map).map Prod.fst).Pairwise (· < ·) := by
  induction map with
  | nil => exact List.pairwise_singleton ..
  | cons entry rest ih =>
    have later := List.pairwise_cons.mp ordered
    unfold emplace
    split
    · rename_i before
      refine List.pairwise_cons.mpr ⟨?_, ordered⟩
      intro other member
      rcases List.mem_cons.mp member with rfl | member
      · exact before
      · exact lt_trans before (later.1 other member)
    · split
      · rename_i after
        refine List.pairwise_cons.mpr ⟨?_, ih later.2⟩
        intro other member
        obtain ⟨⟨_, value⟩, listed, rfl⟩ := List.mem_map.mp member
        rcases mem_of_mem_emplace listed with old | ⟨rfl, _⟩
        · exact later.1 _ (List.mem_map_of_mem old)
        · exact after
      · exact ordered

theorem lookup_modify_emplace (change : Value → Value) :
    (modify key change (emplace key new map)).lookup other =
      if other = key then some (change ((map.lookup key).getD new)) else map.lookup other := by
  rw [lookup_modify, lookup_emplace_of_ordered ordered, lookup_emplace_of_ordered ordered,
    if_pos rfl]
  split
  · rfl
  · rfl

end

theorem lookup_eq_none_of_lt (later : ∀ found ∈ map.map Prod.fst, key < found) :
    map.lookup key = none := by
  cases found : map.lookup key with
  | none => rfl
  | some =>
    exact absurd (later key (List.mem_map_of_mem (mem_of_lookup found))) (lt_irrefl key)

omit [LinearOrder Key] in
theorem keys_filterMap {Image : Type*} (keep : Key → Value → Option Image) :
    ((map.filterMap fun entry => (keep entry.1 entry.2).map (Prod.mk entry.1)).map Prod.fst).Sublist
      (map.map Prod.fst) := by
  induction map with
  | nil => exact List.Sublist.refl _
  | cons entry rest ih =>
    rw [List.filterMap_cons, List.map_cons]
    cases keep entry.1 entry.2 with
    | none => exact ih.cons _
    | some => exact ih.cons_cons _

section

variable (ordered : (map.map Prod.fst).Pairwise (· < ·))
include ordered

theorem lookup_filterMap {Image : Type*} (keep : Key → Value → Option Image) :
    (map.filterMap fun entry => (keep entry.1 entry.2).map (Prod.mk entry.1)).lookup key =
      (map.lookup key).bind (keep key) := by
  induction map with
  | nil => rfl
  | cons entry rest ih =>
    obtain ⟨head, value⟩ := entry
    rw [List.map_cons, List.pairwise_cons] at ordered
    rw [List.filterMap_cons, List.lookup_cons]
    by_cases here : key = head
    · subst here
      cases kept : keep key value with
      | none =>
        have absent : (rest.filterMap fun entry =>
            (keep entry.1 entry.2).map (Prod.mk entry.1)).lookup key = none :=
          lookup_eq_none_of_lt fun found member =>
            ordered.1 found ((keys_filterMap keep).subset member)
        simp [kept, absent]
      | some => simp [kept]
    · have different : (key == head) = false := beq_eq_false_iff_ne.mpr here
      cases kept : keep head value with
      | none => simpa [different, kept] using ih ordered.2
      | some => simpa [List.lookup_cons, different, kept] using ih ordered.2

theorem lookup_of_mem (member : (key, value) ∈ map) : map.lookup key = some value := by
  induction map with
  | nil => cases member
  | cons entry rest ih =>
    rw [List.map_cons, List.pairwise_cons] at ordered
    rcases List.mem_cons.mp member with rfl | member
    · simp [List.lookup]
    · have later : entry.1 < key := ordered.1 key (List.mem_map_of_mem member)
      have different : (key == entry.1) = false := beq_eq_false_iff_ne.mpr (ne_of_gt later)
      simpa [List.lookup, different] using ih ordered.2 member

theorem ordered_assign : ((assign key value map).map Prod.fst).Pairwise (· < ·) := by
  unfold assign
  split
  · exact ordered_modify _ ordered
  · exact ordered_emplace ordered

end

def LastOf (key : Key) (value : Value) (entries : List (Key × Value)) : Prop :=
  ∃ earlier later, entries = earlier ++ (key, value) :: later ∧ ∀ entry ∈ later, entry.1 ≠ key

variable {entries : List (Key × Value)}

omit [LinearOrder Key] in
theorem lastOf_cons_iff {entry : Key × Value} : LastOf key value (entry :: entries) ↔
      (entry = (key, value) ∧ ∀ later ∈ entries, later.1 ≠ key) ∨ LastOf key value entries := by
  constructor
  · rintro ⟨earlier, later, same, unseen⟩
    cases earlier with
    | nil =>
      obtain ⟨rfl, rfl⟩ := List.cons.inj same
      exact .inl ⟨rfl, unseen⟩
    | cons first earlier => exact .inr ⟨earlier, later, (List.cons.inj same).2, unseen⟩
  · rintro (⟨rfl, unseen⟩ | ⟨earlier, later, rfl, unseen⟩)
    · exact ⟨[], entries, rfl, unseen⟩
    · exact ⟨entry :: earlier, later, rfl, unseen⟩

omit [LinearOrder Key] in
theorem lastOf_concat_iff {last : Key × Value} : LastOf key value (entries ++ [last]) ↔
      last = (key, value) ∨ last.1 ≠ key ∧ LastOf key value entries := by
  constructor
  · rintro ⟨earlier, later, same, unseen⟩
    cases later using List.reverseRecOn with
    | nil => exact .inl (List.append_inj_right' same rfl |> fun heads => (List.cons.inj heads).1)
    | append_singleton later final =>
      rw [← List.cons_append, ← List.append_assoc] at same
      obtain ⟨front, back⟩ := List.append_inj' same rfl
      rw [(List.cons.inj back).1]
      refine .inr ⟨unseen final (by simp), earlier, later, front, ?_⟩
      intro entry listed
      exact unseen entry (List.mem_append_left _ listed)
  · rintro (rfl | ⟨different, earlier, later, rfl, unseen⟩)
    · exact ⟨entries, [], rfl, nofun⟩
    · refine ⟨earlier, later ++ [last], by simp, ?_⟩
      intro entry listed
      rcases List.mem_append.mp listed with listed | listed
      · exact unseen entry listed
      · rw [List.mem_singleton.mp listed]
        exact different

theorem ordered_foldl_assign (entries : List (Key × Value)) :
    ((entries.foldl (fun map entry => assign entry.1 entry.2 map) []).map
      Prod.fst).Pairwise (· < ·) := by
  induction entries using List.reverseRecOn with
  | nil => exact List.Pairwise.nil
  | append_singleton entries last ih =>
    rw [List.foldl_append, List.foldl_cons, List.foldl_nil]
    exact ordered_assign ih

theorem lookup_foldl_assign_iff :
    (entries.foldl (fun map entry => assign entry.1 entry.2 map) []).lookup key = some value ↔
      LastOf key value entries := by
  induction entries using List.reverseRecOn with
  | nil =>
    refine iff_of_false nofun ?_
    rintro ⟨earlier, later, empty, _⟩
    simp at empty
  | append_singleton entries last ih =>
    rw [List.foldl_append, List.foldl_cons, List.foldl_nil, lookup_assign, lastOf_concat_iff, ← ih]
    by_cases here : key = last.1
    · rw [if_pos here, Option.some_inj]
      constructor
      · intro same
        exact .inl (Prod.ext here.symm same)
      · rintro (same | elsewhere)
        · rw [same]
        · exact absurd here.symm elsewhere.1
    · rw [if_neg here]
      constructor
      · intro found
        exact .inr ⟨Ne.symm here, found⟩
      · rintro (rfl | elsewhere)
        · exact absurd rfl here
        · exact elsewhere.2

theorem mem_foldl_assign_iff :
    (key, value) ∈ entries.foldl (fun map entry => assign entry.1 entry.2 map) [] ↔
      LastOf key value entries := by
  rw [← lookup_foldl_assign_iff]
  exact ⟨lookup_of_mem (ordered_foldl_assign entries), mem_of_lookup⟩

end OrderedMap
