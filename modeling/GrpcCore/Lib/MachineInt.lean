import Mathlib

/-!
# Fixed-width conversions

Unbounded integers stand for machine words that do not overflow. Where a
program converts to a narrower type, the conversion is written out.
-/

namespace MachineInt

/-- The value of an integer after a conversion to an unsigned 32-bit word. -/
def uint32 (value : Int) : Nat := (value % 4294967296).toNat

theorem uint32_lt (value : Int) : uint32 value < 4294967296 := by
  simp only [uint32]
  omega

variable {value : Int}

theorem uint32_le (nonneg : 0 ≤ value) : (uint32 value : Int) ≤ value := by
  simp only [uint32]
  omega

theorem uint32_of_lt (nonneg : 0 ≤ value) (small : value < 4294967296) :
    (uint32 value : Int) = value := by
  simp only [uint32]
  omega

/-- The value of an integer after a conversion to a signed 32-bit word. -/
def int32 (value : Int) : Int := Int.bmod value 4294967296

theorem int32_eq_self (nonneg : 0 ≤ value) (small : value < 2147483648) : int32 value = value := by
  simp only [int32, Int.bmod]
  omega

theorem int32_le (nonneg : 0 ≤ value) : int32 value ≤ value := by
  simp only [int32, Int.bmod]
  omega

theorem int32_lt (large : 2147483648 ≤ value) : int32 value < value := by
  simp only [int32, Int.bmod]
  omega

/-- The value of an integer after a conversion to an unsigned 64-bit word. -/
def uint64 (value : Int) : Nat := (value % 18446744073709551616).toNat

def int64 (value : Int) : Int := Int.bmod value 18446744073709551616

theorem int64_emod (value : Int) :
    int64 value % 18446744073709551616 = value % 18446744073709551616 := by
  simp only [int64, Int.bmod]
  omega

theorem int64_mem (value : Int) :
    -9223372036854775808 ≤ int64 value ∧ int64 value < 9223372036854775808 := by
  simp only [int64, Int.bmod]
  omega

theorem int64_congr {value value' : Int}
    (same : value % 18446744073709551616 = value' % 18446744073709551616) :
    int64 value = int64 value' := by
  simp only [int64, Int.bmod]
  omega

theorem int64_eq_self (low : -9223372036854775808 ≤ value) (high : value < 9223372036854775808) :
    int64 value = value := by
  simp only [int64, Int.bmod]
  omega

/-- The order of the arguments is the one of the C++ helper: value, then bounds. -/
def clamp (value low high : Int) : Int :=
  if value < low then low else if high < value then high else value

theorem clamp_mem {low high : Int} (ordered : low ≤ high) (value : Int) :
    low ≤ clamp value low high ∧ clamp value low high ≤ high := by
  simp only [clamp]
  split_ifs <;> omega

section Signed64

/-! A 64-bit word read as a signed integer. -/

variable {word change : BitVec 64}

theorem toNat_of_nonneg (nonneg : 0 ≤ word.toInt) : (word.toNat : Int) = word.toInt := by
  rw [BitVec.toInt_eq_toNat_cond] at nonneg ⊢
  split at nonneg
  case isTrue small => rw [if_pos small]
  case isFalse => omega

theorem add_nonneg_iff (nonneg : 0 ≤ word.toInt) (sum : 0 ≤ word.toInt + change.toInt) :
    0 ≤ (word + change).toInt ↔ word.toInt + change.toInt < 2 ^ 63 := by
  have bound := BitVec.toInt_lt (x := word)
  have bound' := BitVec.toInt_lt (x := change)
  rw [BitVec.toInt_add, Int.bmod]
  split <;> omega

theorem toNat_add_of_nonneg (nonneg : 0 ≤ word.toInt) (sum : 0 ≤ word.toInt + change.toInt)
    (after : 0 ≤ (word + change).toInt) :
    ((word + change).toNat : Int) = word.toInt + change.toInt := by
  have bound := (add_nonneg_iff nonneg sum).mp after
  rw [toNat_of_nonneg after, BitVec.toInt_add]
  refine Int.bmod_eq_of_le ?_ ?_ <;> omega

end Signed64

end MachineInt
