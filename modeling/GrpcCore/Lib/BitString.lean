import Mathlib

/-!
# Bit strings

The low bits of a number as a list, most significant bit first, and a sequence
of bytes read that way.
-/

namespace BitString

/-- The `length` low bits of `value`, the highest of them first. -/
def bits : Nat → Nat → List Bool
  | 0, _ => []
  | length + 1, value => value.testBit length :: bits length value

@[simp] theorem bits_zero (value : Nat) : bits 0 value = [] := rfl

theorem bits_succ (length value : Nat) :
    bits (length + 1) value = value.testBit length :: bits length value := rfl

@[simp] theorem length_bits (length value : Nat) : (bits length value).length = length := by
  induction length with
  | zero => rfl
  | succ length ih => rw [bits_succ, List.length_cons, ih]

variable {length value value' : Nat}

theorem bits_congr (same : ∀ i < length, value.testBit i = value'.testBit i) :
    bits length value = bits length value' := by
  induction length with
  | zero => rfl
  | succ length ih =>
    rw [bits_succ, bits_succ, same length (Nat.lt_succ_self length),
      ih fun i below => same i (Nat.lt_succ_of_lt below)]

theorem testBit_of_bits_eq (same : bits length value = bits length value') :
    ∀ i < length, value.testBit i = value'.testBit i := by
  induction length with
  | zero => exact fun i below => absurd below (Nat.not_lt_zero i)
  | succ length ih =>
    have parts := List.cons_eq_cons.mp same
    intro i below
    rcases Nat.lt_succ_iff_lt_or_eq.mp below with lower | last
    · exact ih parts.2 i lower
    · rw [last]
      exact parts.1

theorem bits_injective (fits : value < 2 ^ length) (fits' : value' < 2 ^ length)
    (same : bits length value = bits length value') : value = value' := by
  apply Nat.eq_of_testBit_eq
  intro i
  by_cases below : i < length
  · exact testBit_of_bits_eq same i below
  · have bound : 2 ^ length ≤ 2 ^ i := Nat.pow_le_pow_right (by decide) (Nat.le_of_not_lt below)
    rw [Nat.testBit_lt_two_pow (Nat.lt_of_lt_of_le fits bound),
      Nat.testBit_lt_two_pow (Nat.lt_of_lt_of_le fits' bound)]

theorem bits_add (high low value : Nat) :
    bits (high + low) value = bits high (value >>> low) ++ bits low value := by
  induction high with
  | zero => rw [Nat.zero_add, bits_zero, List.nil_append]
  | succ high ih =>
    rw [Nat.succ_add, bits_succ, bits_succ, ih, Nat.testBit_shiftRight,
      Nat.add_comm low high, List.cons_append]

theorem bits_shiftLeft_or {value code low : Nat} (fits : code < 2 ^ low) (high : Nat) :
    bits (high + low) (value <<< low ||| code) = bits high value ++ bits low code := by
  have front : (value <<< low ||| code) >>> low = value := by
    rw [Nat.shiftRight_or_distrib, Nat.shiftLeft_shiftRight, Nat.shiftRight_eq_div_pow code,
      Nat.div_eq_of_lt fits, Nat.or_zero]
  have back : bits low (value <<< low ||| code) = bits low code := by
    apply bits_congr
    intro i below
    rw [Nat.testBit_or, Nat.testBit_shiftLeft, decide_eq_false (by omega), Bool.false_and,
      Bool.false_or]
  rw [bits_add, front, back]

@[simp] theorem bits_mod (length value : Nat) : bits length (value % 2 ^ length) =
    bits length value := by
  apply bits_congr
  intro i below
  rw [Nat.testBit_mod_two_pow, decide_eq_true below, Bool.true_and]

theorem bits_truncated (above width value : Nat) :
    bits (above + width) (value % 2 ^ width) =
      List.replicate above false ++ bits width value := by
  rw [bits_add, bits_mod, Nat.shiftRight_eq_div_pow,
    Nat.div_eq_of_lt (Nat.mod_lt value (Nat.two_pow_pos width))]
  congr 1
  induction above with
  | zero => rfl
  | succ above ih =>
    rw [bits_succ, Nat.zero_testBit, ih, List.replicate_succ]

def clearFront (count : Nat) (word : List Bool) : List Bool :=
  List.replicate count false ++ word.drop count

@[simp] theorem clearFront_zero (word : List Bool) : clearFront 0 word = word := rfl

theorem clearFront_eq_self {count : Nat} {word : List Bool} (inside : count ≤ word.length)
    (zeros : ∀ bit ∈ word.take count, bit = false) : clearFront count word = word := by
  have front : word.take count = List.replicate count false := by
    rw [List.eq_replicate_iff, List.length_take, Nat.min_eq_left inside]
    exact ⟨rfl, zeros⟩
  rw [clearFront, ← front, List.take_append_drop]

@[simp] theorem length_clearFront {count : Nat} {word : List Bool} (inside : count ≤ word.length) :
    (clearFront count word).length = word.length := by
  rw [clearFront, List.length_append, List.length_replicate, List.length_drop]
  omega

theorem count_clearFront (count : Nat) (word : List Bool) :
    (clearFront count word).count true + (word.take count).count true = word.count true := by
  have split := congrArg (List.count true) (List.take_append_drop count word)
  rw [List.count_append] at split
  rw [clearFront, List.count_append, List.count_replicate, if_neg (by decide), Nat.zero_add,
    Nat.add_comm, split]

theorem bits_mod_two_pow (length value width : Nat) :
    bits length (value % 2 ^ width) = clearFront (length - width) (bits length value) := by
  by_cases narrow : length ≤ width
  · rw [Nat.sub_eq_zero_of_le narrow, clearFront_zero]
    apply bits_congr
    intro i below
    rw [Nat.testBit_mod_two_pow, decide_eq_true (Nat.lt_of_lt_of_le below narrow), Bool.true_and]
  · obtain ⟨above, split⟩ := Nat.exists_eq_add_of_lt (Nat.lt_of_not_le narrow)
    have split : length = (above + 1) + width := by omega
    rw [split, bits_truncated, Nat.add_sub_cancel, clearFront, bits_add, List.drop_left' (by simp)]

theorem bits_ones (length : Nat) : bits length (2 ^ length - 1) = List.replicate length true := by
  induction length with
  | zero => rfl
  | succ length ih =>
    have rest : bits length (2 ^ (length + 1) - 1) = bits length (2 ^ length - 1) := by
      apply bits_congr
      intro i below
      rw [Nat.testBit_two_pow_sub_one, Nat.testBit_two_pow_sub_one,
        decide_eq_true below, decide_eq_true (Nat.lt_succ_of_lt below)]
    rw [bits_succ, rest, ih, Nat.testBit_two_pow_sub_one,
      decide_eq_true (Nat.lt_succ_self length), List.replicate_succ]

def ofBytes (bytes : List UInt8) : List Bool := bytes.flatMap fun byte => bits 8 byte.toNat

@[simp] theorem ofBytes_nil : ofBytes [] = [] := rfl

@[simp] theorem ofBytes_cons (byte : UInt8) (bytes : List UInt8) :
    ofBytes (byte :: bytes) = bits 8 byte.toNat ++ ofBytes bytes := rfl

@[simp] theorem ofBytes_append (bytes bytes' : List UInt8) :
    ofBytes (bytes ++ bytes') = ofBytes bytes ++ ofBytes bytes' := List.flatMap_append

@[simp] theorem length_ofBytes (bytes : List UInt8) :
    (ofBytes bytes).length = 8 * bytes.length := by
  induction bytes with
  | nil => rfl
  | cons byte bytes ih =>
    rw [ofBytes_cons, List.length_append, length_bits, ih, List.length_cons]
    omega

theorem bits_toUInt8 (value : Nat) : bits 8 value.toUInt8.toNat = bits 8 value := by
  have cast : value.toUInt8.toNat = value % 2 ^ 8 := UInt8.toNat_ofNat'
  rw [cast, bits_mod]

theorem bits_or_toUInt8 (value value' : Nat) :
    bits 8 (value.toUInt8 ||| value'.toUInt8).toNat = bits 8 (value ||| value') := by
  have cast (value : Nat) : value.toUInt8.toNat = value % 2 ^ 8 := UInt8.toNat_ofNat'
  rw [UInt8.toNat_or, cast, cast]
  apply bits_congr
  intro i below
  rw [Nat.testBit_or, Nat.testBit_or, Nat.testBit_mod_two_pow, Nat.testBit_mod_two_pow,
    decide_eq_true below, Bool.true_and, Bool.true_and]

theorem ofBytes_injective {bytes bytes' : List UInt8} (same : ofBytes bytes = ofBytes bytes') :
    bytes = bytes' := by
  induction bytes generalizing bytes' with
  | nil =>
    have lengths := congrArg List.length same
    rw [length_ofBytes, length_ofBytes, List.length_nil] at lengths
    exact (List.eq_nil_of_length_eq_zero (by omega)).symm
  | cons byte bytes ih =>
    cases bytes' with
    | nil =>
      have lengths := congrArg List.length same
      rw [length_ofBytes, length_ofBytes, List.length_cons, List.length_nil] at lengths
      omega
    | cons byte' bytes' =>
      have parts := List.append_inj same (by rw [length_bits, length_bits])
      have first := bits_injective byte.toNat_lt byte'.toNat_lt parts.1
      rw [UInt8.toNat_inj.mp first, ih parts.2]

end BitString
