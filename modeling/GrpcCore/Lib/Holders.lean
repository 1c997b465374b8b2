import Mathlib

/-!
# Items and their holders

A map from holders to sets of items, as a list of entries. The items of all holders
together tell how they are divided.
-/

namespace Holders

universe u v
variable {Holder : Type u} {Item : Type v}

def holders (entries : List (Holder × List Item)) : List Holder := entries.map Prod.fst

def items (entries : List (Holder × List Item)) : List Item := entries.flatMap Prod.snd

variable [DecidableEq Holder]

def give [DecidableEq Item] (item : Item) (holder : Holder) (entries : List (Holder × List Item)) :
    List (Holder × List Item) :=
  entries.map fun entry => if entry.1 = holder then (entry.1, entry.2.insert item) else entry

def drop (holder : Holder) (entries : List (Holder × List Item)) : List (Holder × List Item) :=
  entries.filter fun entry => entry.1 ≠ holder

variable {entries : List (Holder × List Item)} {holder : Holder} {item : Item}

@[simp]
theorem holders_give [DecidableEq Item] : holders (give item holder entries) = holders entries := by
  unfold holders give
  rw [List.map_map]
  refine List.map_congr_left fun entry _ => ?_
  by_cases here : entry.1 = holder
  · simp [here]
  · simp [here]

theorem give_of_absent [DecidableEq Item] (absent : holder ∉ holders entries) :
    give item holder entries = entries := by
  refine (List.map_congr_left fun entry membership => ?_).trans (List.map_id entries)
  refine if_neg fun same => absent ?_
  exact same ▸ List.mem_map_of_mem membership

theorem items_give [DecidableEq Item] (nodup : (holders entries).Nodup)
    (there : holder ∈ holders entries) (new : item ∉ items entries) :
    (items (give item holder entries)).Perm (item :: items entries) := by
  induction entries with
  | nil => cases there
  | cons entry rest ih =>
    obtain ⟨first, others⟩ := List.nodup_cons.mp nodup
    have newHere : item ∉ entry.2 := fun membership =>
      new (List.mem_append_left _ membership)
    have newThere : item ∉ items rest := fun membership =>
      new (List.mem_append_right _ membership)
    by_cases here : entry.1 = holder
    · have absent : holder ∉ holders rest := here ▸ first
      have same : give item holder rest = rest := give_of_absent absent
      simp only [items, give, List.map_cons, if_pos here, List.flatMap_cons] at same ⊢
      rw [same, List.insert_of_not_mem newHere]
      exact List.Perm.refl _
    · have later : holder ∈ holders rest := by
        rcases List.mem_cons.mp there with same | later
        · exact absurd same.symm here
        · exact later
      have moved := (ih others later newThere).append_left entry.2
      simp only [items, give, List.map_cons, if_neg here, List.flatMap_cons] at moved ⊢
      exact moved.trans List.perm_middle

theorem holders_drop : holders (drop holder entries) =
    (holders entries).filter fun other => other ≠ holder := by
  unfold holders drop
  rw [List.filter_map]
  rfl

theorem drop_of_absent (absent : holder ∉ holders entries) : drop holder entries = entries := by
  refine List.filter_eq_self.mpr fun entry membership => ?_
  refine decide_eq_true fun same => absent ?_
  exact same ▸ List.mem_map_of_mem membership

theorem items_drop (nodup : (holders entries).Nodup) :
    (items entries).Perm ((entries.lookup holder).getD [] ++ items (drop holder entries)) := by
  induction entries with
  | nil => exact List.Perm.refl _
  | cons entry rest ih =>
    obtain ⟨first, others⟩ := List.nodup_cons.mp nodup
    obtain ⟨head, held⟩ := entry
    by_cases here : head = holder
    · subst here
      have absent : head ∉ holders rest := first
      have same : drop head ((head, held) :: rest) = rest := by
        refine Eq.trans ?_ (drop_of_absent absent)
        exact List.filter_cons_of_neg (by simp)
      rw [same, List.lookup_cons_self]
      exact List.Perm.refl _
    · have later : (holder == head) = false := beq_eq_false_iff_ne.mpr (Ne.symm here)
      have moved := (ih others).append_left held
      simp only [items, drop, List.filter_cons, List.lookup_cons, later, here, ne_eq,
        not_false_eq_true, decide_true, if_true, List.flatMap_cons] at moved ⊢
      refine moved.trans ?_
      rw [← List.append_assoc, ← List.append_assoc]
      exact List.perm_append_comm.append_right _

end Holders
