import Mathlib

/-!
# Binary search

The search of an increasing list for a key, over the half-open interval of
indices that is still open. The fuel is the length of the interval.
-/

namespace BinarySearch

universe u
variable {Key : Type u} [LinearOrder Key]

def search (keys : List Key) (key : Key) : (fuel low high : Nat) → Option Nat
  | 0, _, _ => none
  | fuel + 1, low, high =>
    if low < high then
      let mid := low + (high - low) / 2
      match keys[mid]? with
      | none => none
      | some midKey =>
        if midKey < key then search keys key fuel (mid + 1) high
        else if key < midKey then search keys key fuel low mid
        else some mid
    else none

theorem getElem?_of_search {keys : List Key} {key : Key} {fuel low high index : Nat}
    (found : search keys key fuel low high = some index) : keys[index]? = some key := by
  induction fuel generalizing low high with
  | zero => simp [search] at found
  | succ fuel ih =>
    unfold search at found
    split at found
    · cases read : keys[low + (high - low) / 2]? with
      | none => simp [read] at found
      | some midKey =>
        simp only [read] at found
        rcases lt_trichotomy midKey key with smaller | same | greater
        · rw [if_pos smaller] at found
          exact ih found
        · subst same
          simp only [lt_irrefl, if_false, Option.some.injEq] at found
          rw [← found, read]
        · rw [if_neg (not_lt.mpr (le_of_lt greater)), if_pos greater] at found
          exact ih found
    · simp at found

theorem search_of_getElem? {keys : List Key} {key : Key} {fuel low high index : Nat}
    (increasing : keys.Pairwise (· < ·)) (bounded : high ≤ keys.length)
    (enough : high ≤ low + fuel) (lower : low ≤ index) (upper : index < high)
    (present : keys[index]? = some key) : search keys key fuel low high = some index := by
  induction fuel generalizing low high with
  | zero => omega
  | succ fuel ih =>
    obtain ⟨inside, at_index⟩ := List.getElem?_eq_some_iff.mp present
    have ordered := List.pairwise_iff_getElem.mp increasing
    have middle : low + (high - low) / 2 < keys.length := by omega
    have nonempty : low < high := by omega
    unfold search
    simp only [nonempty, if_true, List.getElem?_eq_getElem middle]
    rcases Nat.lt_trichotomy (low + (high - low) / 2) index with before | same | after
    · have smaller := ordered _ _ middle inside before
      rw [at_index] at smaller
      rw [if_pos smaller]
      exact ih bounded (by omega) before upper
    · subst same
      simp only [at_index, lt_irrefl, if_false]
    · have greater := ordered _ _ inside middle after
      rw [at_index] at greater
      rw [if_neg (not_lt.mpr (le_of_lt greater)), if_pos greater]
      exact ih (by omega) (by omega) lower after

end BinarySearch
