import Mathlib

/-!
# The picker of the weighted-target policy

Ranges of a random key, one for each ready child, and the search for the range of a key.
The ends of the ranges are sums in 32 bits.
-/

namespace GrpcCore.ClientChannel

/-- `PickerList`: the end of a range and the picker of its child, which may be null. -/
abbrev PickerList := List (Nat × Option Nat)

namespace PickerList

/-- The loop of `Pick`, with a bound on its iterations. -/
def findIndex (pickers : PickerList) (key : Nat) : (fuel startIndex endIndex : Nat) → Option Nat
  | 0, startIndex, endIndex => if endIndex > startIndex then none else some startIndex
  | fuel + 1, startIndex, endIndex =>
    if endIndex > startIndex then
      let mid := (startIndex + endIndex) / 2
      match pickers[mid]? with
      | none => none
      | some (first, _) =>
        if first > key then findIndex pickers key fuel startIndex mid
        else if first < key then findIndex pickers key fuel (mid + 1) endIndex
        else some (mid + 1)
    else some startIndex

/-- `Pick`. It fails where the code divides by zero, reads outside of the list, calls a
picker that is null or fails its assertion. -/
def pick (pickers : PickerList) (random : Nat) : Option Nat :=
  match pickers[pickers.length - 1]? with
  | none => none
  | some (total, _) =>
    if total = 0 then none
    else
      let key := random % total
      (pickers.findIndex key pickers.length 0 (pickers.length - 1)).bind fun index =>
        pickers[index]?.bind fun (first, picker) =>
          if first > key then picker else none

def rangeStart (pickers : PickerList) : Nat → Nat
  | 0 => 0
  | index + 1 => (pickers[index]?.map Prod.fst).getD 0

def InRange (pickers : PickerList) (index key : Nat) : Prop :=
  ∃ entry, pickers[index]? = some entry ∧ pickers.rangeStart index ≤ key ∧ key < entry.1

/-- What `Pick` relies on. -/
structure WellFormed (pickers : PickerList) (total : Nat) : Prop where
  increasing : (pickers.map Prod.fst).Pairwise (· < ·)
  positive : ∀ entry ∈ pickers, 0 < entry.1
  last : (pickers.map Prod.fst).getLast? = some total
  pickers : ∀ entry ∈ pickers, entry.2.isSome

variable {pickers : PickerList} {total : Nat}

section

variable (increasing : (pickers.map Prod.fst).Pairwise (· < ·))
include increasing

theorem lt_of_increasing {i j : Nat} {first second : Nat × Option Nat} (before : i < j)
    (at_i : pickers[i]? = some first) (at_j : pickers[j]? = some second) : first.1 < second.1 := by
  obtain ⟨inside, rfl⟩ := List.getElem?_eq_some_iff.mp at_i
  obtain ⟨inside', rfl⟩ := List.getElem?_eq_some_iff.mp at_j
  have ordered := List.pairwise_iff_getElem.mp increasing i j (by simpa) (by simpa) before
  simpa using ordered

theorem findIndex_spec {key : Nat} {fuel startIndex endIndex : Nat}
    (enough : endIndex ≤ startIndex + fuel) (interval : startIndex ≤ endIndex)
    (below : pickers.rangeStart startIndex ≤ key)
    (above : ∃ entry, pickers[endIndex]? = some entry ∧ key < entry.1) :
    ∃ index, pickers.findIndex key fuel startIndex endIndex = some index ∧
      pickers.InRange index key := by
  induction fuel generalizing startIndex endIndex with
  | zero =>
    have same : startIndex = endIndex := by omega
    subst same
    obtain ⟨entry, there, upper⟩ := above
    exact ⟨startIndex, by simp [findIndex], entry, there, below, upper⟩
  | succ fuel ih =>
    unfold findIndex
    by_cases more : endIndex > startIndex
    · rw [if_pos more]
      obtain ⟨last, atEnd, upper⟩ := above
      have inside : (startIndex + endIndex) / 2 < pickers.length := by
        have := (List.getElem?_eq_some_iff.mp atEnd).1
        omega
      obtain ⟨⟨first, picker⟩, there⟩ :
          ∃ entry, pickers[(startIndex + endIndex) / 2]? = some entry :=
        ⟨_, List.getElem?_eq_getElem inside⟩
      simp only [there]
      rcases Nat.lt_trichotomy first key with smaller | same | greater
      · rw [if_neg (by omega), if_pos smaller]
        refine ih (by omega) (by omega) ?_ ⟨last, atEnd, upper⟩
        simpa [rangeStart, there] using Nat.le_of_lt smaller
      · rw [if_neg (by omega), if_neg (by omega)]
        have next : (startIndex + endIndex) / 2 + 1 < pickers.length := by
          have := (List.getElem?_eq_some_iff.mp atEnd).1
          omega
        refine ⟨_, rfl, pickers[(startIndex + endIndex) / 2 + 1],
          List.getElem?_eq_getElem next, ?_, ?_⟩
        · simp [rangeStart, there, same]
        · rw [← same]
          exact lt_of_increasing increasing (Nat.lt_succ_self _) there
            (List.getElem?_eq_getElem next)
      · rw [if_pos greater]
        exact ih (by omega) (by omega) below ⟨(first, picker), there, greater⟩
    · rw [if_neg more]
      have same : startIndex = endIndex := by omega
      subst same
      obtain ⟨entry, there, upper⟩ := above
      exact ⟨startIndex, rfl, entry, there, below, upper⟩

theorem InRange.unique {index other key : Nat} (range : pickers.InRange index key)
    (range' : pickers.InRange other key) : index = other := by
  have apart : ∀ {i j : Nat}, pickers.InRange i key → pickers.InRange j key → ¬ i < j := by
    rintro i j ⟨first, at_i, _, upper⟩ ⟨second, at_j, lower, _⟩ before
    obtain ⟨j, rfl⟩ : ∃ k, j = k + 1 := ⟨j - 1, by omega⟩
    have inside : j < pickers.length := by
      have := (List.getElem?_eq_some_iff.mp at_j).1
      omega
    have at_start : pickers[j]? = some pickers[j] := List.getElem?_eq_getElem inside
    simp only [rangeStart, at_start, Option.map_some, Option.getD_some] at lower
    rcases Nat.lt_or_eq_of_le (Nat.le_of_lt_succ before) with smaller | rfl
    · have := lt_of_increasing increasing smaller at_i at_start
      omega
    · obtain rfl := Option.mem_unique at_i at_start
      omega
  have notBefore := apart range range'
  have notAfter := apart range' range
  omega

end

/-- `Pick` calls the picker of the one child whose range contains the key. -/
def PicksByRange (pickers : PickerList) (total : Nat) : Prop :=
  ∀ random, ∃ index entry, pickers[index]? = some entry ∧
    pickers.pick random = entry.2 ∧ entry.2.isSome ∧ pickers.InRange index (random % total) ∧
    ∀ other, pickers.InRange other (random % total) → other = index

theorem WellFormed.picksByRange (wellFormed : pickers.WellFormed total) :
    pickers.PicksByRange total := by
  intro random
  obtain ⟨inside, atLast⟩ : ∃ inside : pickers.length - 1 < pickers.length,
      pickers[pickers.length - 1].1 = total := by
    have last := wellFormed.last
    rw [List.getLast?_eq_getElem?] at last
    obtain ⟨inside, at_⟩ := List.getElem?_eq_some_iff.mp last
    exact ⟨by simpa using inside, by simpa using at_⟩
  have there : pickers[pickers.length - 1]? = some pickers[pickers.length - 1] :=
    List.getElem?_eq_getElem inside
  have positive : 0 < total := by
    rw [← atLast]
    exact wellFormed.positive _ (List.getElem_mem inside)
  have below : random % total < total := Nat.mod_lt _ positive
  obtain ⟨index, found, range⟩ : ∃ index,
      pickers.findIndex (random % total) pickers.length 0 (pickers.length - 1) = some index ∧
        pickers.InRange index (random % total) :=
    findIndex_spec wellFormed.increasing (by omega) (Nat.zero_le _) (Nat.zero_le _)
      ⟨_, there, atLast ▸ below⟩
  obtain ⟨entry, at_index, lower, upper⟩ := range
  refine ⟨index, entry, at_index, ?_, ?_, ⟨entry, at_index, lower, upper⟩, ?_⟩
  · simp only [PickerList.pick, there, atLast, if_neg (Nat.pos_iff_ne_zero.mp positive), found,
      Option.bind_some, at_index, if_pos upper]
  · exact wellFormed.pickers entry (List.mem_of_getElem? at_index)
  · intro other range'
    exact InRange.unique wellFormed.increasing range' ⟨entry, at_index, lower, upper⟩

def ranges (rangeEnd : Nat) : List (Nat × Option Nat) → PickerList
  | [] => []
  | (weight, picker) :: children =>
    let rangeEnd := (rangeEnd + weight) % 4294967296
    (rangeEnd, picker) :: ranges rangeEnd children

variable {children : List (Nat × Option Nat)}

@[simp] theorem map_snd_ranges (rangeEnd : Nat) :
    (ranges rangeEnd children).map Prod.snd = children.map Prod.snd := by
  induction children generalizing rangeEnd with
  | nil => rfl
  | cons child children ih => simp [ranges, ih]

theorem increasing_ranges_iff (rangeEnd : Nat) (fits : rangeEnd < 4294967296)
    (weights : ∀ child ∈ children, child.1 < 4294967296) :
    (rangeEnd :: (ranges rangeEnd children).map Prod.fst).Pairwise (· < ·) ↔
      (∀ child ∈ children, 0 < child.1) ∧ rangeEnd + (children.map Prod.fst).sum < 4294967296 := by
  induction children generalizing rangeEnd with
  | nil => simp [ranges, fits]
  | cons child children ih =>
    obtain ⟨weight, picker⟩ := child
    have weightFits : weight < 4294967296 := weights (weight, picker) (List.mem_cons_self ..)
    have rest := ih ((rangeEnd + weight) % 4294967296)
      (Nat.mod_lt _ (by decide)) (fun child member => weights child (List.mem_cons_of_mem _ member))
    have grows : rangeEnd < (rangeEnd + weight) % 4294967296 ↔
        0 < weight ∧ rangeEnd + weight < 4294967296 := by omega
    rw [ranges, List.map_cons, List.pairwise_cons, rest]
    simp only [List.mem_cons, forall_eq_or_imp, List.map_cons, List.sum_cons]
    constructor
    · rintro ⟨⟨first, _⟩, positive, fits'⟩
      obtain ⟨weightPositive, small⟩ := grows.mp first
      exact ⟨⟨weightPositive, positive⟩, by omega⟩
    · rintro ⟨⟨weightPositive, positive⟩, fits'⟩
      have small : rangeEnd + weight < 4294967296 := by omega
      have first := grows.mpr ⟨weightPositive, small⟩
      have increasing := rest.mpr ⟨positive, by omega⟩
      refine ⟨⟨first, ?_⟩, positive, by omega⟩
      intro later member
      exact Nat.lt_trans first (List.rel_of_pairwise_cons increasing member)

theorem getLast?_ranges (rangeEnd : Nat) (nonempty : children ≠ [])
    (fits : rangeEnd + (children.map Prod.fst).sum < 4294967296) :
    ((ranges rangeEnd children).map Prod.fst).getLast? =
      some (rangeEnd + (children.map Prod.fst).sum) := by
  induction children generalizing rangeEnd with
  | nil => exact absurd rfl nonempty
  | cons child children ih =>
    obtain ⟨weight, picker⟩ := child
    simp only [List.map_cons, List.sum_cons] at fits
    have small : (rangeEnd + weight) % 4294967296 = rangeEnd + weight :=
      Nat.mod_eq_of_lt (by omega)
    rw [ranges, small]
    cases children with
    | nil => simp [ranges]
    | cons =>
      have rest := ih (rangeEnd + weight) (by simp) (by omega)
      rw [List.map_cons, ranges, List.map_cons, List.getLast?_cons_cons]
      rw [ranges, List.map_cons] at rest
      rw [rest]
      simp only [List.map_cons, List.sum_cons]
      congr 1
      omega

theorem wellFormed_ranges_iff (nonempty : children ≠ [])
    (weights : ∀ child ∈ children, child.1 < 4294967296)
    (reported : ∀ child ∈ children, child.2.isSome) :
    (ranges 0 children).WellFormed total ↔
      (∀ child ∈ children, 0 < child.1) ∧ (children.map Prod.fst).sum < 4294967296 ∧
        (children.map Prod.fst).sum = total := by
  have iff := increasing_ranges_iff 0 (by decide) weights
  rw [Nat.zero_add, List.pairwise_cons] at iff
  constructor
  · intro wellFormed
    have positive : ∀ later ∈ (ranges 0 children).map Prod.fst, 0 < later := by
      intro later member
      obtain ⟨entry, listed, rfl⟩ := List.mem_map.mp member
      exact wellFormed.positive entry listed
    obtain ⟨weightsPositive, fits⟩ := iff.mp ⟨positive, wellFormed.increasing⟩
    have last := getLast?_ranges 0 nonempty (by omega)
    rw [wellFormed.last, Nat.zero_add] at last
    exact ⟨weightsPositive, fits, (Option.some.inj last).symm⟩
  · rintro ⟨positive, fits, rfl⟩
    obtain ⟨above, increasing⟩ := iff.mpr ⟨positive, fits⟩
    refine ⟨increasing, ?_, ?_, ?_⟩
    · intro entry member
      exact above entry.1 (List.mem_map_of_mem member)
    · rw [getLast?_ranges 0 nonempty (by omega), Nat.zero_add]
    · intro entry member
      have known : entry.2 ∈ (ranges 0 children).map Prod.snd := List.mem_map_of_mem member
      rw [map_snd_ranges] at known
      obtain ⟨child, member', same⟩ := List.mem_map.mp known
      rw [← same]
      exact reported child member'

end PickerList

end GrpcCore.ClientChannel
