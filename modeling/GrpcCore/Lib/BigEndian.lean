import Mathlib

/-!
# Numbers in network byte order

The bytes of a number, the highest first, and the number that shifts and
disjunctions make of them.
-/

namespace BigEndian

def bytes16 (value : Nat) : List UInt8 :=
  [UInt8.ofNat (value >>> 8), UInt8.ofNat value]

def bytes24 (value : Nat) : List UInt8 :=
  [UInt8.ofNat (value >>> 16), UInt8.ofNat (value >>> 8), UInt8.ofNat value]

def bytes32 (value : Nat) : List UInt8 :=
  [UInt8.ofNat (value >>> 24), UInt8.ofNat (value >>> 16), UInt8.ofNat (value >>> 8),
    UInt8.ofNat value]

theorem shift_or_byte (high : Nat) (byte : UInt8) :
    high <<< 8 ||| byte.toNat = high * 256 + byte.toNat := by
  rw [← Nat.shiftLeft_add_eq_or_of_lt byte.toNat_lt, Nat.shiftLeft_eq]

theorem join16 (b0 b1 : UInt8) :
    b0.toNat <<< 8 ||| b1.toNat = b0.toNat * 256 + b1.toNat :=
  shift_or_byte b0.toNat b1

theorem join24 (b0 b1 b2 : UInt8) :
    b0.toNat <<< 16 ||| b1.toNat <<< 8 ||| b2.toNat =
      (b0.toNat * 256 + b1.toNat) * 256 + b2.toNat := by
  rw [← shift_or_byte, ← join16, Nat.shiftLeft_or_distrib, ← Nat.shiftLeft_add]

theorem join32 (b0 b1 b2 b3 : UInt8) :
    b0.toNat <<< 24 ||| b1.toNat <<< 16 ||| b2.toNat <<< 8 ||| b3.toNat =
      ((b0.toNat * 256 + b1.toNat) * 256 + b2.toNat) * 256 + b3.toNat := by
  rw [← shift_or_byte, ← join24, Nat.shiftLeft_or_distrib, Nat.shiftLeft_or_distrib,
    ← Nat.shiftLeft_add, ← Nat.shiftLeft_add]

theorem toNat_ofNat_shift (value shift : Nat) :
    (UInt8.ofNat (value >>> shift)).toNat = value / 2 ^ shift % 256 := by
  rw [UInt8.toNat_ofNat', Nat.shiftRight_eq_div_pow]

theorem join_bytes24 {value : Nat} (small : value < 16777216) :
    (UInt8.ofNat (value >>> 16)).toNat <<< 16 ||| (UInt8.ofNat (value >>> 8)).toNat <<< 8 |||
      (UInt8.ofNat value).toNat = value := by
  rw [join24, toNat_ofNat_shift, toNat_ofNat_shift, UInt8.toNat_ofNat']
  omega

theorem join_bytes32 {value : Nat} (small : value < 4294967296) :
    (UInt8.ofNat (value >>> 24)).toNat <<< 24 ||| (UInt8.ofNat (value >>> 16)).toNat <<< 16 |||
      (UInt8.ofNat (value >>> 8)).toNat <<< 8 ||| (UInt8.ofNat value).toNat = value := by
  rw [join32, toNat_ofNat_shift, toNat_ofNat_shift, toNat_ofNat_shift, UInt8.toNat_ofNat']
  omega

theorem mask_high_byte {value : Nat} (small : value < 2147483648) :
    UInt8.ofNat (value >>> 24) &&& (0x7f : UInt8) = UInt8.ofNat (value >>> 24) := by
  apply UInt8.toNat_inj.mp
  have high : (UInt8.ofNat (value >>> 24)).toNat < 2 ^ 7 := by
    rw [toNat_ofNat_shift]
    omega
  exact (UInt8.toNat_and _ _).trans (Nat.and_two_pow_sub_one_of_lt_two_pow high)

end BigEndian
