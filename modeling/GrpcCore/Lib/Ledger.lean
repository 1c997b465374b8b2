import Mathlib

/-!
# Sums over indexed accounts

Accounts are kept in a list and named by their position. A change to one of them
moves the total by what it changed there.
-/

namespace Ledger

variable {Account : Type*} (amount : Account → Int)

/-- The sum of an amount over all accounts. -/
def total (accounts : List Account) : Int := (accounts.map amount).sum

@[simp]
theorem total_nil : total amount [] = 0 := rfl

theorem total_append_singleton (accounts : List Account) (account : Account) :
    total amount (accounts ++ [account]) = total amount accounts + amount account := by
  simp [total]

theorem total_append (accounts more : List Account) :
    total amount (accounts ++ more) = total amount accounts + total amount more := by
  simp [total]

variable {amount}

theorem total_mono {larger : Account → Int} (accounts : List Account)
    (le : ∀ account, amount account ≤ larger account) :
    total amount accounts ≤ total larger accounts :=
  List.sum_le_sum fun account _ => le account

variable {accounts : List Account}

theorem total_set {index : Nat} {old : Account} (there : accounts[index]? = some old)
    (new : Account) :
    total amount (accounts.set index new) = total amount accounts - amount old + amount new := by
  induction accounts generalizing index with
  | nil => simp at there
  | cons account accounts ih =>
    cases index with
    | zero =>
      obtain rfl := Option.some.inj there
      simp only [total, List.set_cons_zero, List.map_cons, List.sum_cons]
      omega
    | succ index =>
      have tail := ih there
      simp only [total, List.set_cons_succ, List.map_cons, List.sum_cons] at tail ⊢
      omega

theorem total_nonneg (nonneg : ∀ account ∈ accounts, 0 ≤ amount account) :
    0 ≤ total amount accounts :=
  List.sum_nonneg (List.forall_mem_map.mpr nonneg)

theorem le_total (nonneg : ∀ account ∈ accounts, 0 ≤ amount account) {account : Account}
    (membership : account ∈ accounts) : amount account ≤ total amount accounts :=
  List.single_le_sum (List.forall_mem_map.mpr nonneg) _ (List.mem_map_of_mem membership)

theorem set_cases {Item : Type*} {items : List Item} {i j : Nat} {new item : Item}
    (there : (items.set i new)[j]? = some item) :
    i = j ∧ item = new ∨ i ≠ j ∧ items[j]? = some item := by
  by_cases same : i = j
  · subst same
    obtain ⟨bound, at_⟩ := List.getElem?_eq_some_iff.mp there
    rw [List.getElem_set_self] at at_
    exact .inl ⟨rfl, at_.symm⟩
  · rw [List.getElem?_set_ne same] at there
    exact .inr ⟨same, there⟩

theorem append_cases {Item : Type*} {items : List Item} {i : Nat} {new item : Item}
    (there : (items ++ [new])[i]? = some item) :
    items[i]? = some item ∨ i = items.length ∧ item = new := by
  rcases Nat.lt_trichotomy i items.length with before | here | after
  · rw [List.getElem?_append_left before] at there
    exact .inl there
  · subst here
    rw [List.getElem?_concat_length] at there
    exact .inr ⟨rfl, (Option.some.inj there).symm⟩
  · have bound := (List.getElem?_eq_some_iff.mp there).1
    rw [List.length_append, List.length_singleton] at bound
    omega

end Ledger
