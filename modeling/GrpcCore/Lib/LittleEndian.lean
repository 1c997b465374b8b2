import Mathlib

/-!
# Little endian numbers

The number that bytes make up, the lowest first, and its increment in place.
-/

namespace LittleEndian

def value (bytes : List UInt8) : Nat := Nat.ofDigits 256 (bytes.map UInt8.toNat)

@[simp]
theorem value_nil : value [] = 0 := rfl

theorem value_cons (byte : UInt8) (bytes : List UInt8) :
    value (byte :: bytes) = byte.toNat + 256 * value bytes := by
  rfl

theorem digits_lt (bytes : List UInt8) : ∀ digit ∈ bytes.map UInt8.toNat, digit < 256 := by
  intro digit member
  obtain ⟨byte, _, rfl⟩ := List.mem_map.mp member
  exact byte.toNat_lt

theorem value_lt (bytes : List UInt8) : value bytes < 256 ^ bytes.length := by
  have bound := Nat.ofDigits_lt_base_pow_length (by decide) (digits_lt bytes)
  rwa [List.length_map] at bound

theorem value_injective {first second : List UInt8} (length : first.length = second.length)
    (same : value first = value second) : first = second := by
  have digits := Nat.ofDigits_inj_of_len_eq (by decide) (by simpa using length) (digits_lt first)
    (digits_lt second) same
  exact List.map_injective_iff.mpr (fun _ _ => UInt8.toNat_inj.mp) digits

def increment : Nat → List UInt8 → List UInt8 × Bool
  | 0, bytes => (bytes, true)
  | _ + 1, [] => ([], true)
  | count + 1, byte :: bytes =>
    if byte + 1 ≠ 0 then ((byte + 1) :: bytes, false)
    else
      let (rest, wrapped) := increment count bytes
      ((byte + 1) :: rest, wrapped)

theorem length_increment (count : Nat) (bytes : List UInt8) :
    (increment count bytes).1.length = bytes.length := by
  induction count generalizing bytes with
  | zero => rfl
  | succ count ih =>
    cases bytes with
    | nil => rfl
    | cons byte bytes =>
      unfold increment
      split
      · rfl
      · simp [ih]

theorem drop_increment (count : Nat) (bytes : List UInt8) :
    (increment count bytes).1.drop count = bytes.drop count := by
  induction count generalizing bytes with
  | zero => rfl
  | succ count ih =>
    cases bytes with
    | nil => rfl
    | cons byte bytes =>
      unfold increment
      split
      · rfl
      · simpa using ih bytes

theorem toNat_add_one (byte : UInt8) :
    (byte + 1).toNat = if byte + 1 = 0 then 0 else byte.toNat + 1 := by
  have bound := byte.toNat_lt
  have sum : (byte + 1).toNat = (byte.toNat + 1) % 256 := UInt8.toNat_add byte 1
  by_cases zero : byte + 1 = 0
  · rw [if_pos zero, zero]
    rfl
  · have positive : (byte + 1).toNat ≠ 0 := fun none => zero (UInt8.toNat_inj.mp none)
    rw [if_neg zero]
    omega

theorem eq_max_of_add_one {byte : UInt8} (zero : byte + 1 = 0) : byte.toNat = 255 := by
  have bound := byte.toNat_lt
  have sum : (byte + 1).toNat = (byte.toNat + 1) % 256 := UInt8.toNat_add byte 1
  rw [zero] at sum
  have none : (byte.toNat + 1) % 256 = 0 := sum.symm
  omega

theorem value_increment {count : Nat} {bytes : List UInt8} (room : count ≤ bytes.length) :
    value ((increment count bytes).1.take count) =
      (if (increment count bytes).2 then 0 else value (bytes.take count) + 1) ∧
    ((increment count bytes).2 = true ↔ value (bytes.take count) + 1 = 256 ^ count) := by
  induction count generalizing bytes with
  | zero => exact ⟨rfl, by simp [increment]⟩
  | succ count ih =>
    cases bytes with
    | nil => cases room
    | cons byte bytes =>
      have room' : count ≤ bytes.length := Nat.le_of_succ_le_succ room
      obtain ⟨counted, wraps⟩ := ih room'
      have bound : value (bytes.take count) < 256 ^ count := by
        have below := value_lt (bytes.take count)
        rwa [List.length_take, Nat.min_eq_left room'] at below
      have power : 256 ^ (count + 1) = 256 * 256 ^ count := Nat.pow_succ'
      unfold increment
      by_cases zero : byte + 1 = 0
      · have full := eq_max_of_add_one zero
        simp only [zero, ne_eq, not_true_eq_false, if_false, List.take_succ_cons, value_cons,
          counted, full, power]
        cases wrapped : (increment count bytes).2 with
        | true =>
          have all := wraps.mp wrapped
          refine ⟨by simp, ?_⟩
          simp only [true_iff]
          omega
        | false =>
          have some : ¬ value (bytes.take count) + 1 = 256 ^ count := by
            intro all
            rw [wraps.mpr all] at wrapped
            cases wrapped
          have zero' : (0 : UInt8).toNat = 0 := rfl
          constructor
          · simp only [Bool.false_eq_true, if_false, zero']
            ring
          · simp only [Bool.false_eq_true, false_iff]
            omega
      · have next := toNat_add_one byte
        rw [if_neg zero] at next
        have digit' := (byte + 1).toNat_lt
        simp only [ne_eq, zero, not_false_eq_true, if_true, List.take_succ_cons, value_cons,
          next, power, Bool.false_eq_true, if_false, false_iff]
        omega

end LittleEndian
