import GrpcCore.Hpack.Input

/-!
# Writing integers and strings

`VarintWriter` and strings that are written as they are, with what the parser reads
from them.
-/

namespace GrpcCore.Hpack

open Incremental Outcome

def maxInVarintPrefix (prefixBits : Nat) : Nat := 2 ^ (8 - prefixBits) - 1

/-- The bytes of an integer that does not fit its prefix, the first byte included. -/
def varintLength (tailValue : Nat) : Nat :=
  if tailValue < 128 then 2
  else if tailValue < 16384 then 3
  else if tailValue < 2097152 then 4
  else if tailValue < 268435456 then 5
  else 6

/-- Seven bits in each byte, the lowest first; all but the last have the top bit. -/
def varintWriteTail (tailValue tailLength : Nat) : Bytes :=
  (List.range tailLength).map fun i =>
    let target := UInt8.ofNat (tailValue >>> (7 * i)) ||| 0x80
    if i + 1 = tailLength then target &&& 0x7f else target

/-- `VarintWriter::Write`. -/
def varintWrite (prefixBits : Nat) (pfx : UInt8) (value : Nat) : Bytes :=
  let kMaxInPrefix := maxInVarintPrefix prefixBits
  if value < kMaxInPrefix then [pfx ||| UInt8.ofNat value]
  else
    (pfx ||| UInt8.ofNat kMaxInPrefix) ::
      varintWriteTail (value - kMaxInPrefix) (varintLength (value - kMaxInPrefix) - 1)

def plainString (text : Bytes) : Bytes := varintWrite 1 0 text.length ++ text

namespace Input

theorem high_bit (byte : UInt8) :
    (byte ||| 0x80) &&& 0x7f = byte &&& 0x7f ∧ (byte ||| 0x80) &&& 0x80 = 0x80 ∧
      (byte &&& 0x7f) &&& 0x7f = byte &&& 0x7f ∧ (byte &&& 0x7f) &&& 0x80 = 0 := by
  simp only [← UInt8.toBitVec_inj, UInt8.toBitVec_and, UInt8.toBitVec_or]
  generalize byte.toBitVec = bits
  revert bits
  decide

theorem toNat_low_bits (value : Nat) : (UInt8.ofNat value &&& (0x7f : UInt8)).toNat = value % 128 := by
  rw [UInt8.toNat_and, UInt8.toNat_ofNat']
  have mask : (0x7f : UInt8).toNat = 2 ^ 7 - 1 := rfl
  rw [mask, Nat.and_two_pow_sub_one_eq_mod]
  omega

theorem varintByte_more (value shift tail : Nat) (more : Nat → Input Nat) (rest : Bytes) :
    varintByte value shift more ((UInt8.ofNat tail ||| 0x80) :: rest) =
      more ((value + (tail % 128) <<< shift) % 4294967296) rest := by
  obtain ⟨low, high, -, -⟩ := high_bit (UInt8.ofNat tail)
  simp only [varintByte, Reader.bind, Reader.next, low, high, toNat_low_bits]
  rfl

theorem varintByte_last (value shift tail : Nat) (more : Nat → Input Nat) (rest : Bytes) :
    varintByte value shift more (((UInt8.ofNat tail ||| 0x80) &&& 0x7f) :: rest) =
      .done ((value + (tail % 128) <<< shift) % 4294967296) rest := by
  obtain ⟨low, -, same, clear⟩ := high_bit (UInt8.ofNat tail)
  simp only [varintByte, Reader.bind, Reader.next, low, same, clear, toNat_low_bits]
  rfl

theorem varintLastByte_tail {value tail : Nat} (small : value + tail <<< 28 < 4294967296)
    (rest : Bytes) :
    varintLastByte value (((UInt8.ofNat tail ||| 0x80) &&& 0x7f) :: rest) =
      .done (value + tail <<< 28) rest := by
  obtain ⟨low, -, same, clear⟩ := high_bit (UInt8.ofNat tail)
  rw [Nat.shiftLeft_eq] at small
  have bits : tail % 128 = tail := Nat.mod_eq_of_lt (by omega)
  have fits : ¬ tail > 0xf := by omega
  have adds : ¬ tail <<< 28 > 0xffffffff - value := by
    rw [Nat.shiftLeft_eq]
    omega
  simp only [varintLastByte, Reader.bind, Reader.next, low, same, clear, toNat_low_bits, bits,
    if_neg fits, if_neg adds]
  rfl

theorem parseVarint_tail {offset tail : Nat} (small : offset + tail < 4294967296) (rest : Bytes) :
    parseVarint offset (varintWriteTail tail (varintLength tail - 1) ++ rest) =
      .done (offset + tail) rest := by
  unfold varintLength parseVarint
  split_ifs with one two three four
  · change varintByte offset 0 _ (((UInt8.ofNat tail ||| 0x80) &&& 0x7f) :: rest) = _
    rw [varintByte_last]
    simp only [Nat.shiftLeft_eq, done.injEq, and_true]
    omega
  · change varintByte offset 0 _ ((UInt8.ofNat tail ||| 0x80) ::
      ((UInt8.ofNat (tail >>> 7) ||| 0x80) &&& 0x7f) :: rest) = _
    rw [varintByte_more, varintByte_last]
    simp only [Nat.shiftLeft_eq, Nat.shiftRight_eq_div_pow, done.injEq, and_true]
    omega
  · change varintByte offset 0 _ ((UInt8.ofNat tail ||| 0x80) ::
      (UInt8.ofNat (tail >>> 7) ||| 0x80) ::
      ((UInt8.ofNat (tail >>> 14) ||| 0x80) &&& 0x7f) :: rest) = _
    rw [varintByte_more, varintByte_more, varintByte_last]
    simp only [Nat.shiftLeft_eq, Nat.shiftRight_eq_div_pow, done.injEq, and_true]
    omega
  · change varintByte offset 0 _ ((UInt8.ofNat tail ||| 0x80) ::
      (UInt8.ofNat (tail >>> 7) ||| 0x80) :: (UInt8.ofNat (tail >>> 14) ||| 0x80) ::
      ((UInt8.ofNat (tail >>> 21) ||| 0x80) &&& 0x7f) :: rest) = _
    rw [varintByte_more, varintByte_more, varintByte_more, varintByte_last]
    simp only [Nat.shiftLeft_eq, Nat.shiftRight_eq_div_pow, done.injEq, and_true]
    omega
  · change varintByte offset 0 _ ((UInt8.ofNat tail ||| 0x80) ::
      (UInt8.ofNat (tail >>> 7) ||| 0x80) :: (UInt8.ofNat (tail >>> 14) ||| 0x80) ::
      (UInt8.ofNat (tail >>> 21) ||| 0x80) ::
      ((UInt8.ofNat (tail >>> 28) ||| 0x80) &&& 0x7f) :: rest) = _
    rw [varintByte_more, varintByte_more, varintByte_more, varintByte_more, varintLastByte_tail]
    · simp only [Nat.shiftLeft_eq, Nat.shiftRight_eq_div_pow, done.injEq, and_true]
      omega
    · simp only [Nat.shiftLeft_eq, Nat.shiftRight_eq_div_pow]
      omega

theorem low_byte {value : Nat} (small : value < 128) :
    (0 : UInt8) ||| UInt8.ofNat value = UInt8.ofNat value &&& 0x7f := by
  apply UInt8.toNat_inj.mp
  rw [toNat_low_bits, UInt8.zero_or, UInt8.toNat_ofNat']
  omega

theorem parseStringPrefix_varintWrite {length : Nat} (small : length < 4294967296) (rest : Bytes) :
    parseStringPrefix (varintWrite 1 0 length ++ rest) = .done ⟨length, false⟩ rest := by
  have most : maxInVarintPrefix 1 = 127 := rfl
  unfold varintWrite
  rw [most]
  dsimp only
  split_ifs with fits
  · obtain ⟨-, -, same, clear⟩ := high_bit (UInt8.ofNat length)
    have bits : length % 128 = length := Nat.mod_eq_of_lt (by omega)
    have inPrefix : ¬ length = 0x7f := by omega
    simp only [parseStringPrefix, Reader.bind, Reader.next, List.singleton_append,
      low_byte (show length < 128 by omega), same, clear, toNat_low_bits, bits, if_neg inPrefix]
    rfl
  · have read := parseVarint_tail (show 127 + (length - 127) < 4294967296 by omega) rest
    have full : (0 ||| UInt8.ofNat 127 : UInt8) = 0x7f := by decide
    have isFull : ((0x7f : UInt8) &&& 0x7f).toNat = 0x7f := by decide
    have clear : (0x7f : UInt8) &&& 0x80 = 0 := by decide
    simp only [parseStringPrefix, Reader.bind, Reader.next, List.cons_append, full, isFull, clear,
      if_true, read, ne_eq, not_true_eq_false, decide_false]
    rw [Nat.add_sub_cancel' (by omega)]
    rfl

theorem parseString_plainString {text : Bytes} (short : text.length < 4294967296) (rest : Bytes) :
    parseString (plainString text ++ rest) = .done text rest := by
  have taken : (Reader.take text.length : Input Bytes) (text ++ rest) = .done text rest := by
    simp [Reader.take]
  simp only [parseString, plainString, Reader.bind, List.append_assoc,
    parseStringPrefix_varintWrite short, Bool.false_eq_true, if_false, parseUncompressed]
  exact taken

open Reader

/-- The sum of the base-128 digits, up to the byte that ends the number. -/
def digitSum : Bytes → Nat
  | [] => 0
  | byte :: rest => (byte &&& 0x7f).toNat + if byte &&& 0x80 = 0 then 0 else 128 * digitSum rest

/-- What stands behind the byte that ends the number. -/
def behindNumber : Bytes → Option Bytes
  | [] => none
  | byte :: rest => if byte &&& 0x80 = 0 then some rest else behindNumber rest

/-- Overflow, when the bytes that are there sum to more than 32 bits. -/
def Reads (value : Nat) (bytes : Bytes) (outcome : Outcome UInt8 HPackError Nat) : Prop :=
  (4294967296 ≤ value → ∃ before cur, outcome = .failed (.integerOverflow before cur)) ∧
    (value < 4294967296 → outcome = (behindNumber bytes).elim .eof (.done value))

variable {value shift : Nat} {cur : UInt8} {rest : Bytes}

theorem reads_overflow {sum before : Nat} {bytes : Bytes} {last : UInt8}
    (large : 4294967296 ≤ sum) : Reads sum bytes (.failed (.integerOverflow before last)) :=
  ⟨fun _ => ⟨_, _, rfl⟩, fun small => absurd large (Nat.not_le.mpr small)⟩

theorem reads_nil (small : value < 4294967296) : Reads (value + digitSum [] * 2 ^ shift) [] .eof := by
  rw [digitSum, Nat.zero_mul, Nat.add_zero]
  exact ⟨fun large => absurd large (Nat.not_le.mpr small), fun _ => rfl⟩

variable {value' : Nat}

theorem reads_last (clear : cur &&& 0x80 = 0)
    (sum : value + (cur &&& 0x7f).toNat * 2 ^ shift = value') (small : value' < 4294967296) :
    Reads (value + digitSum (cur :: rest) * 2 ^ shift) (cur :: rest) (.done value' rest) := by
  rw [digitSum, if_pos clear, Nat.add_zero, sum]
  refine ⟨fun large => absurd large (Nat.not_le.mpr small), fun _ => ?_⟩
  rw [behindNumber, if_pos clear]
  rfl

theorem reads_more {outcome : Outcome UInt8 HPackError Nat} (more : ¬ cur &&& 0x80 = 0)
    (sum : value + (cur &&& 0x7f).toNat * 2 ^ shift = value')
    (reads : Reads (value' + digitSum rest * 2 ^ (shift + 7)) rest outcome) :
    Reads (value + digitSum (cur :: rest) * 2 ^ shift) (cur :: rest) outcome := by
  have digits : digitSum (cur :: rest) * 2 ^ shift =
      (cur &&& 0x7f).toNat * 2 ^ shift + digitSum rest * 2 ^ (shift + 7) := by
    rw [digitSum, if_neg more, Nat.add_mul, Nat.pow_add, Nat.mul_comm 128, Nat.mul_assoc,
      Nat.mul_comm 128]
  rw [Reads, behindNumber, if_neg more, digits, ← Nat.add_assoc, sum]
  exact reads

theorem low_le_digitSum : (cur &&& 0x7f).toNat ≤ digitSum (cur :: rest) := Nat.le_add_right _ _

theorem low_bits (cur : UInt8) : (cur &&& 0x7f).toNat = cur.toNat % 128 := by
  have low := toNat_low_bits cur.toNat
  rwa [UInt8.ofNat_toNat] at low

theorem reads_varintByte {next : Nat → Input Nat} (bytes : Bytes)
    (small : value + 127 * 2 ^ shift < 4294967296)
    (later : ∀ {value' rest}, value' ≤ value + 127 * 2 ^ shift →
      Reads (value' + digitSum rest * 2 ^ (shift + 7)) rest (next value' rest)) :
    Reads (value + digitSum bytes * 2 ^ shift) bytes (varintByte value shift next bytes) := by
  cases bytes with
  | nil => exact reads_nil (by omega)
  | cons cur rest =>
    have low := low_bits cur
    have digit : (cur &&& 0x7f).toNat * 2 ^ shift ≤ 127 * 2 ^ shift :=
      Nat.mul_le_mul_right _ (by omega)
    have sum : (value + (cur &&& 0x7f).toNat <<< shift) % 4294967296 =
        value + (cur &&& 0x7f).toNat * 2 ^ shift := by
      rw [Nat.shiftLeft_eq]
      exact Nat.mod_eq_of_lt (by omega)
    by_cases clear : cur &&& 0x80 = 0
    · simp only [varintByte, Reader.bind, Reader.next, sum, if_pos clear]
      exact reads_last clear rfl (by omega)
    · simp only [varintByte, Reader.bind, Reader.next, sum, if_neg clear]
      exact reads_more clear rfl (later (by omega))

theorem reads_padding (small : value < 4294967296) (high : 32 ≤ shift) (bytes : Bytes) :
    Reads (value + digitSum bytes * 2 ^ shift) bytes (varintPadding value bytes) := by
  induction bytes generalizing shift with
  | nil => exact reads_nil small
  | cons cur rest ih =>
    rw [varintPadding]
    split_ifs with more last
    · subst more
      exact reads_more (by decide) (by simp) (ih (by omega))
    · subst last
      exact reads_last rfl (by simp) small
    · have digit : 0 < (cur &&& 0x7f).toNat := by
        have low := low_bits cur
        have bound := cur.toNat_lt
        have notMore : cur.toNat ≠ 128 := fun same => more (UInt8.toNat_inj.mp same)
        have notLast : cur.toNat ≠ 0 := fun same => last (UInt8.toNat_inj.mp same)
        omega
      have sum : 1 * 2 ^ 32 ≤ digitSum (cur :: rest) * 2 ^ shift :=
        Nat.mul_le_mul (Nat.le_trans digit low_le_digitSum) (Nat.pow_le_pow_right (by decide) high)
      exact reads_overflow (by omega)

theorem reads_varintLastByte (small : value < 4294967296) (bytes : Bytes) :
    Reads (value + digitSum bytes * 2 ^ 28) bytes (varintLastByte value bytes) := by
  cases bytes with
  | nil => exact reads_nil small
  | cons cur rest =>
    have sum := @low_le_digitSum cur rest
    simp only [varintLastByte, Reader.bind, Reader.next, Nat.shiftLeft_eq]
    split_ifs with high carries clear
    · exact reads_overflow (by omega)
    · exact reads_overflow (by omega)
    · exact reads_last clear rfl (by omega)
    · exact reads_more clear rfl (reads_padding (by omega) (by decide) rest)

theorem reads_parseVarint (small : value + 268435456 ≤ 4294967296) (bytes : Bytes) :
    Reads (value + digitSum bytes) bytes (parseVarint value bytes) := by
  have first : Reads (value + digitSum bytes * 2 ^ 0) bytes (parseVarint value bytes) := by
    iterate 4 refine reads_varintByte _ (by omega) fun _ => ?_
    exact reads_varintLastByte (by omega) _
  rwa [Nat.pow_zero, Nat.mul_one] at first

theorem length_varintWriteTail (tailValue tailLength : Nat) :
    (varintWriteTail tailValue tailLength).length = tailLength := by
  rw [varintWriteTail, List.length_map, List.length_range]

/-- What is written is read again, and of any bytes the number is read that they spell, an overflow
when it has more than 32 bits, and else an end of the input when no byte ends it. -/
theorem parseVarint_exact (prefixBits : Nat) :
    (∀ {pfx : UInt8} {value : Nat}, value < 4294967296 → ∃ first tail,
      varintWrite prefixBits pfx value = first :: tail ∧
      (value < maxInVarintPrefix prefixBits → tail = [] ∧ first = pfx ||| UInt8.ofNat value) ∧
      (maxInVarintPrefix prefixBits ≤ value →
        first = pfx ||| UInt8.ofNat (maxInVarintPrefix prefixBits) ∧
        tail.length + 1 = varintLength (value - maxInVarintPrefix prefixBits) ∧
        ∀ rest, parseVarint (maxInVarintPrefix prefixBits) (tail ++ rest) = .done value rest)) ∧
    ∀ bytes : Bytes, Reads (maxInVarintPrefix prefixBits + digitSum bytes) bytes
      (parseVarint (maxInVarintPrefix prefixBits) bytes) := by
  refine ⟨fun {pfx value} small => ?_, fun bytes => reads_parseVarint ?_ bytes⟩
  · unfold varintWrite
    dsimp only
    split_ifs with fits
    · exact ⟨_, _, rfl, fun _ => ⟨rfl, rfl⟩, fun large => absurd fits (Nat.not_lt.mpr large)⟩
    · refine ⟨_, _, rfl, fun less => absurd less fits, fun large => ⟨rfl, ?_, fun rest => ?_⟩⟩
      · have some_ : 1 ≤ varintLength (value - maxInVarintPrefix prefixBits) := by
          unfold varintLength
          split_ifs <;> decide
        rw [length_varintWriteTail, Nat.sub_add_cancel some_]
      · have whole := Nat.add_sub_cancel' large
        have read := parseVarint_tail (by rwa [whole]) rest
        rwa [whole] at read
  · have bound : 2 ^ (8 - prefixBits) ≤ 2 ^ 8 := Nat.pow_le_pow_right (by decide) (Nat.sub_le _ _)
    unfold maxInVarintPrefix
    omega

/-- No byte ends the number, which has already too many bits. -/
theorem long_number_overflows : behindNumber [0xff, 0xff, 0xff, 0xff, 0xff] = none ∧
    parseVarint 127 [0xff, 0xff, 0xff, 0xff, 0xff] ≠ .eof := by
  decide

end Input

end GrpcCore.Hpack
