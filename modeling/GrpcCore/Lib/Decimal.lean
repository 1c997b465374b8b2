import Mathlib

/-!
# Decimal numbers

Numbers written with ASCII digits, the highest first, and read digit by digit.
-/

namespace Decimal

def digit (value : Nat) : UInt8 := UInt8.ofNat (48 + value)

def isDigit (byte : UInt8) : Bool := 48 ≤ byte && byte ≤ 57

/-- The digits come from the lowest to the highest and are reversed. -/
def write (n : Nat) : List UInt8 :=
  if n = 0 then [digit 0] else ((Nat.digits 10 n).map digit).reverse

theorem toNat_digit {value : Nat} (small : value < 10) : (digit value).toNat = 48 + value := by
  rw [digit, UInt8.toNat_ofNat']
  omega

theorem isDigit_digit {value : Nat} (small : value < 10) : isDigit (digit value) = true := by
  rw [isDigit, Bool.and_eq_true, decide_eq_true_eq, decide_eq_true_eq, UInt8.le_iff_toNat_le,
    UInt8.le_iff_toNat_le, toNat_digit small]
  exact ⟨Nat.le_add_right 48 value, by change 48 + value ≤ 57; omega⟩

theorem write_of_lt {n : Nat} (small : n < 10) : write n = [digit n] := by
  by_cases zero : n = 0
  · rw [write, if_pos zero, zero]
  · rw [write, if_neg zero, Nat.digits_of_lt 10 n zero small]
    rfl

theorem write_of_le {n : Nat} (large : 10 ≤ n) : write n = write (n / 10) ++ [digit (n % 10)] := by
  have nonzero : n ≠ 0 := Nat.ne_of_gt (Nat.lt_of_lt_of_le (by decide) large)
  have nonzero' : n / 10 ≠ 0 := by omega
  rw [write, if_neg nonzero, Nat.digits_def' (by decide) (Nat.pos_of_ne_zero nonzero), List.map_cons,
    List.reverse_cons, write, if_neg nonzero']

theorem write_ne_nil (n : Nat) : write n ≠ [] := by
  rcases Nat.lt_or_ge n 10 with small | large
  · rw [write_of_lt small]
    exact List.cons_ne_nil _ _
  · rw [write_of_le large]
    exact List.append_ne_nil_of_right_ne_nil _ (List.cons_ne_nil _ _)

theorem isDigit_of_mem_write {n : Nat} {byte : UInt8} (listed : byte ∈ write n) :
    isDigit byte = true := by
  induction n using Nat.strongRecOn with
  | _ n ih =>
    rcases Nat.lt_or_ge n 10 with small | large
    · rw [write_of_lt small] at listed
      rw [List.mem_singleton.mp listed]
      exact isDigit_digit small
    · rw [write_of_le large] at listed
      rcases List.mem_append.mp listed with earlier | last
      · exact ih (n / 10) (by omega) earlier
      · rw [List.mem_singleton.mp last]
        exact isDigit_digit (Nat.mod_lt n (by decide))

theorem length_write_le_iff {n k : Nat} (some_ : 0 < k) : (write n).length ≤ k ↔ n < 10 ^ k := by
  by_cases zero : n = 0
  · rw [zero]
    exact iff_of_true some_ (Nat.pow_pos (by decide))
  · rw [write, if_neg zero, List.length_reverse, List.length_map]
    exact Nat.digits_length_le_iff (by decide) n

end Decimal
