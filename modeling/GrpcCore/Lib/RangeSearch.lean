import Mathlib

/-!
# The search for a weighted range

Consecutive ranges of positive widths, given by their ends, and the search for the one
that contains a key.
-/

namespace RangeSearch

def cumulative (weights : List Nat) (index : Nat) : Nat := (weights.take index).sum

/-- The loop of the search, with a bound on its iterations. An end that is the key is
the start of the next range. -/
def find (ends : List Nat) (key : Nat) : (fuel low high : Nat) → Option Nat
  | 0, low, high => if low < high then none else some low
  | fuel + 1, low, high =>
    if low < high then
      let mid := (low + high) / 2
      match ends[mid]? with
      | none => none
      | some rangeEnd =>
        if key < rangeEnd then find ends key fuel low mid
        else if rangeEnd < key then find ends key fuel (mid + 1) high
        else some (mid + 1)
    else some low

variable {weights : List Nat}

theorem cumulative_succ {index weight : Nat} (there : weights[index]? = some weight) :
    cumulative weights (index + 1) = cumulative weights index + weight := by
  obtain ⟨inside, rfl⟩ := List.getElem?_eq_some_iff.mp there
  rw [cumulative, cumulative, ← List.take_concat_get' _ _ inside, List.sum_append,
    List.sum_singleton]

theorem cumulative_length : cumulative weights weights.length = weights.sum := by
  rw [cumulative, List.take_length]

theorem cumulative_mono {low high : Nat} (le : low ≤ high) :
    cumulative weights low ≤ cumulative weights high := by
  induction high, le using Nat.le_induction with
  | base => exact Nat.le_refl _
  | succ high _ ih =>
    cases there : weights[high]? with
    | none =>
      have past := List.getElem?_eq_none_iff.mp there
      rw [cumulative, cumulative, List.take_of_length_le past] at ih
      rwa [cumulative, cumulative, List.take_of_length_le (Nat.le_succ_of_le past)]
    | some weight =>
      rw [cumulative_succ there]
      exact Nat.le_add_right_of_le ih

def Contains (weights : List Nat) (index key : Nat) : Prop :=
  cumulative weights index ≤ key ∧ key < cumulative weights (index + 1)

theorem Contains.unique {index other key : Nat} (here : Contains weights index key)
    (there : Contains weights other key) : index = other := by
  rcases Nat.lt_trichotomy index other with before | same | after
  · have apart : cumulative weights (index + 1) ≤ cumulative weights other :=
      cumulative_mono (Nat.succ_le_of_lt before)
    exact absurd (here.2.trans_le apart) (Nat.not_lt_of_le there.1)
  · exact same
  · have apart : cumulative weights (other + 1) ≤ cumulative weights index :=
      cumulative_mono (Nat.succ_le_of_lt after)
    exact absurd (there.2.trans_le apart) (Nat.not_lt_of_le here.1)

theorem find_spec {ends : List Nat}
    (sums : ∀ i < weights.length, ends[i]? = some (cumulative weights (i + 1)))
    (positive : ∀ weight ∈ weights, 0 < weight) {key fuel low high : Nat}
    (enough : high ≤ low + fuel) (interval : low ≤ high) (inside : high < weights.length)
    (below : cumulative weights low ≤ key) (above : key < cumulative weights (high + 1)) :
    ∃ index < weights.length, find ends key fuel low high = some index ∧
      Contains weights index key := by
  induction fuel generalizing low high with
  | zero =>
    obtain rfl : low = high := by omega
    exact ⟨low, inside, by simp [find], below, above⟩
  | succ fuel ih =>
    unfold find
    by_cases more : low < high
    · have middle : (low + high) / 2 < high := by omega
      simp only [if_pos more, sums _ (middle.trans inside)]
      rcases Nat.lt_trichotomy key (cumulative weights ((low + high) / 2 + 1)) with
        smaller | same | greater
      · rw [if_pos smaller]
        exact ih (by omega) (by omega) (middle.trans inside) below smaller
      · rw [if_neg (by omega), if_neg (by omega)]
        have next : (low + high) / 2 + 1 < weights.length := by omega
        refine ⟨_, next, rfl, same.ge, ?_⟩
        have width := positive _ (List.getElem_mem next)
        rw [cumulative_succ (List.getElem?_eq_getElem next), ← same]
        omega
      · rw [if_neg (by omega), if_pos greater]
        exact ih (by omega) (by omega) inside greater.le above
    · rw [if_neg more]
      obtain rfl : low = high := by omega
      exact ⟨low, inside, rfl, below, above⟩

theorem card_keys {index weight total : Nat} (there : weights[index]? = some weight)
    (within : cumulative weights (index + 1) ≤ total) {chosen : Nat → Option Nat}
    (choose : ∀ key < total, ∃ i, chosen key = some i ∧ Contains weights i key) :
    ((Finset.range total).filter fun key => chosen key = some index).card = weight := by
  have interval : (Finset.range total).filter (fun key => chosen key = some index) =
      Finset.Ico (cumulative weights index) (cumulative weights (index + 1)) := by
    ext key
    simp only [Finset.mem_filter, Finset.mem_range, Finset.mem_Ico]
    constructor
    · rintro ⟨below, picked⟩
      obtain ⟨i, picked', contains⟩ := choose key below
      obtain rfl := Option.mem_unique picked picked'
      exact contains
    · intro contains
      have below : key < total := contains.2.trans_le within
      obtain ⟨i, picked, contains'⟩ := choose key below
      obtain rfl := Contains.unique contains contains'
      exact ⟨below, picked⟩
  rw [interval, Nat.card_Ico, cumulative_succ there, Nat.add_sub_cancel_left]

end RangeSearch
