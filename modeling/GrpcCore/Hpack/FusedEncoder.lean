import GrpcCore.Hpack.HuffmanRoundTrip

/-!
# The calls of the fused base64 and Huffman encoder

The two-step encoder and the fused one walk the input alike, one or two base64
characters at a time. The fused one adds the code words of those characters, never
more than 22 bits to at most eight that wait.
-/

namespace GrpcCore.Hpack

open BitString PrefixCode Incremental

/-- A call of `enc_add1` or `enc_add2`, with the values to encode. -/
inductive EncCall where
  | add1 (a : UInt8)
  | add2 (a b : UInt8)
deriving DecidableEq

namespace EncCall

def values : EncCall → List UInt8
  | add1 a => [a]
  | add2 a b => [a, b]

def run (out : HuffOut) : EncCall → HuffOut
  | add1 a => out.add (huffChar a)
  | add2 a b => out.add2 (huffChar a) (huffChar b)

/-- The bits a call shifts in. -/
def length (call : EncCall) : Nat := (call.values.map fun value => (huffChar value).length).sum

end EncCall

/-- The calls made for an input, in order. -/
def encCalls : Bytes → List EncCall
  | in0 :: in1 :: in2 :: input =>
    .add2 (in0 >>> 2) (((in0 &&& 0x3) <<< 4) ||| (in1 >>> 4)) ::
      .add2 (((in1 &&& 0xf) <<< 2) ||| (in2 >>> 6)) (in2 &&& 0x3f) :: encCalls input
  | [in0, in1] =>
    [.add2 (in0 >>> 2) (((in0 &&& 0x3) <<< 4) ||| (in1 >>> 4)), .add1 ((in1 &&& 0xf) <<< 2)]
  | [in0] => [.add2 (in0 >>> 2) ((in0 &&& 0x3) <<< 4)]
  | [] => []

def sextets (input : Bytes) : Bytes := (encCalls input).flatMap EncCall.values

theorem toNat_shiftRight_two (byte : UInt8) : (byte >>> 2).toNat = byte.toNat / 4 := by
  exact Nat.shiftRight_eq_div_pow byte.toNat 2

theorem toNat_and_three (byte : UInt8) : ((byte &&& 0x3) <<< 4).toNat = byte.toNat % 4 * 16 := by
  have low : (byte &&& 0x3).toNat = byte.toNat % 4 := by
    exact Nat.and_two_pow_sub_one_eq_mod byte.toNat 2
  have shifted : ((byte &&& 0x3) <<< 4).toNat = (byte &&& 0x3).toNat <<< 4 % 2 ^ 8 :=
    UInt8.toNat_shiftLeft _ _
  rw [shifted, low, Nat.shiftLeft_eq]
  exact Nat.mod_eq_of_lt (by omega)

theorem toNat_and_fifteen (byte : UInt8) : ((byte &&& 0xf) <<< 2).toNat = byte.toNat % 16 * 4 := by
  have low : (byte &&& 0xf).toNat = byte.toNat % 16 := by
    exact Nat.and_two_pow_sub_one_eq_mod byte.toNat 4
  have shifted : ((byte &&& 0xf) <<< 2).toNat = (byte &&& 0xf).toNat <<< 2 % 2 ^ 8 :=
    UInt8.toNat_shiftLeft _ _
  rw [shifted, low, Nat.shiftLeft_eq]
  exact Nat.mod_eq_of_lt (by omega)

theorem toNat_and_sixtyThree (byte : UInt8) : (byte &&& 0x3f).toNat = byte.toNat % 64 := by
  exact Nat.and_two_pow_sub_one_eq_mod byte.toNat 6

theorem toNat_second (in0 in1 : UInt8) :
    (((in0 &&& 0x3) <<< 4) ||| (in1 >>> 4)).toNat = in0.toNat % 4 * 16 + in1.toNat / 16 := by
  have high : (in1 >>> 4).toNat = in1.toNat / 16 := by
    exact Nat.shiftRight_eq_div_pow in1.toNat 4
  have fits : in1.toNat / 16 < 2 ^ 4 := Nat.div_lt_of_lt_mul in1.toNat_lt
  rw [UInt8.toNat_or, toNat_and_three, high]
  have joined := Nat.shiftLeft_add_eq_or_of_lt fits (in0.toNat % 4)
  rw [Nat.shiftLeft_eq] at joined
  exact joined.symm

theorem toNat_third (in1 in2 : UInt8) :
    (((in1 &&& 0xf) <<< 2) ||| (in2 >>> 6)).toNat = in1.toNat % 16 * 4 + in2.toNat / 64 := by
  have high : (in2 >>> 6).toNat = in2.toNat / 64 := by
    exact Nat.shiftRight_eq_div_pow in2.toNat 6
  have fits : in2.toNat / 64 < 2 ^ 2 := Nat.div_lt_of_lt_mul in2.toNat_lt
  rw [UInt8.toNat_or, toNat_and_fifteen, high]
  have joined := Nat.shiftLeft_add_eq_or_of_lt fits (in1.toNat % 16)
  rw [Nat.shiftLeft_eq] at joined
  exact joined.symm

theorem encCalls_values (input : Bytes) :
    ∀ call ∈ encCalls input, ∀ value ∈ call.values, value.toNat < 64 := by
  fun_induction encCalls input with
  | case1 in0 in1 in2 input ih =>
    intro call listed value passed
    have bound0 := in0.toNat_lt
    have bound1 := in1.toNat_lt
    have bound2 := in2.toNat_lt
    rcases List.mem_cons.mp listed with rfl | listed
    · rcases List.mem_pair.mp passed with rfl | rfl
      · rw [toNat_shiftRight_two]
        omega
      · rw [toNat_second]
        omega
    · rcases List.mem_cons.mp listed with rfl | listed
      · rcases List.mem_pair.mp passed with rfl | rfl
        · rw [toNat_third]
          omega
        · rw [toNat_and_sixtyThree]
          omega
      · exact ih call listed value passed
  | case2 in0 in1 =>
    intro call listed value passed
    have bound0 := in0.toNat_lt
    have bound1 := in1.toNat_lt
    rcases List.mem_pair.mp listed with rfl | rfl
    · rcases List.mem_pair.mp passed with rfl | rfl
      · rw [toNat_shiftRight_two]
        omega
      · rw [toNat_second]
        omega
    · rw [List.mem_singleton.mp passed, toNat_and_fifteen]
      omega
  | case3 in0 =>
    intro call listed value passed
    have bound0 := in0.toNat_lt
    rw [List.mem_singleton.mp listed] at passed
    rcases List.mem_pair.mp passed with rfl | rfl
    · rw [toNat_shiftRight_two]
      omega
    · rw [toNat_and_three]
      omega
  | case4 => exact List.forall_mem_nil _

theorem huffAlphabet_eq : ∀ value < 64,
    huffAlphabet.getD value ⟨0, 0⟩ = huffsym (alphabet.getD value 0).toNat ∧
      (huffAlphabet.getD value ⟨0, 0⟩).length ≤ 11 := by decide +kernel

section Calls

variable {value : UInt8}

theorem huffChar_mem (six : value.toNat < 64) : huffChar value ∈ huffsyms := by
  rw [huffChar, (huffAlphabet_eq _ six).1]
  exact huffsym_mem (byteSymbol (base64Char value))

theorem huffChar_code (six : value.toNat < 64) :
    (huffChar value).code = symbolCode (byteSymbol (base64Char value)) := by
  rw [huffChar, (huffAlphabet_eq _ six).1]
  rfl

theorem huffChar_short (six : value.toNat < 64) : (huffChar value).length ≤ 11 :=
  (huffAlphabet_eq _ six).2

end Calls

namespace EncCall

variable {call : EncCall}

theorem length_le (six : ∀ value ∈ call.values, value.toNat < 64) : call.length ≤ 22 := by
  cases call with
  | add1 a =>
    have short := huffChar_short (six a (List.mem_singleton.mpr rfl))
    change (huffChar a).length + 0 ≤ 22
    omega
  | add2 a b =>
    have short := huffChar_short (six a List.mem_cons_self)
    have short' := huffChar_short (six b (List.mem_cons_of_mem a List.mem_cons_self))
    change (huffChar a).length + ((huffChar b).length + 0) ≤ 22
    omega

theorem stream_run {out : HuffOut} (settled : out.Settled)
    (six : ∀ value ∈ call.values, value.toNat < 64) :
    (call.run out).Settled ∧
      (call.run out).stream = out.stream ++ huffmanCode (call.values.map base64Char) := by
  cases call with
  | add1 a =>
    have six := six a (List.mem_singleton.mpr rfl)
    have short : (huffChar a).code.length ≤ 24 := by
      rw [HuffSym.code, length_bits]
      exact Nat.le_trans (huffChar_short six) (by decide)
    obtain ⟨settled, stream⟩ := settled.add (huffChar_mem six)
    refine ⟨settled, ?_⟩
    change (out.add (huffChar a)).stream = _
    rw [stream, pushed_of_short _ short, huffChar_code six]
    exact congrArg (out.stream ++ ·) (List.append_nil _).symm
  | add2 a b =>
    have sixA := six a List.mem_cons_self
    have sixB := six b (List.mem_cons_of_mem a List.mem_cons_self)
    have shortA := huffChar_short sixA
    have shortB := huffChar_short sixB
    obtain ⟨longA, _, fitsA, _⟩ := huffsyms_bounds _ (huffChar_mem sixA)
    obtain ⟨_, _, fitsB, _⟩ := huffsyms_bounds _ (huffChar_mem sixB)
    have fits : (huffChar a).bits <<< (huffChar b).length ||| (huffChar b).bits <
        2 ^ ((huffChar a).length + (huffChar b).length) := by
      apply Nat.or_lt_two_pow
      · rw [Nat.shiftLeft_eq, Nat.pow_add]
        exact Nat.mul_lt_mul_of_pos_right fitsA (Nat.two_pow_pos _)
      · exact Nat.lt_of_lt_of_le fitsB (Nat.pow_le_pow_right (by decide) (Nat.le_add_left _ _))
    have shift := HuffOut.stream_shift settled fits (by omega)
    have short : (bits ((huffChar a).length + (huffChar b).length)
        ((huffChar a).bits <<< (huffChar b).length ||| (huffChar b).bits)).length ≤ 24 := by
      rw [length_bits]
      omega
    rw [pushed_of_short _ short, bits_shiftLeft_or fitsB, ← Nat.or_assoc] at shift
    refine ⟨HuffOut.settled_flushSome _ _ (by omega), ?_⟩
    have codes : huffmanCode ((add2 a b).values.map base64Char) =
        (huffChar a).code ++ ((huffChar b).code ++ []) := by
      rw [huffChar_code sixA, huffChar_code sixB]
      rfl
    rw [codes, List.append_nil]
    exact shift

theorem stream_foldl {out : HuffOut} (settled : out.Settled) {calls : List EncCall}
    (six : ∀ call ∈ calls, ∀ value ∈ call.values, value.toNat < 64) :
    (calls.foldl run out).Settled ∧ (calls.foldl run out).stream =
      out.stream ++ huffmanCode ((calls.flatMap values).map base64Char) := by
  induction calls generalizing out with
  | nil => exact ⟨settled, (List.append_nil _).symm⟩
  | cons call calls ih =>
    obtain ⟨settled, stream⟩ := stream_run settled (six call List.mem_cons_self)
    obtain ⟨settled, rest⟩ := ih settled fun call' listed =>
      six call' (List.mem_cons_of_mem call listed)
    refine ⟨settled, ?_⟩
    rw [stream, List.append_assoc] at rest
    rw [List.flatMap_cons, List.map_append, huffmanCode, List.flatMap_append]
    exact rest

end EncCall

def base64Chars (input : Bytes) : Bytes := (sextets input).map base64Char

theorem loop_counts {Byte : Type} (in0 in1 in2 : Byte) (input : List Byte) :
    (in0 :: in1 :: in2 :: input).length / 3 = input.length / 3 + 1 ∧
      (in0 :: in1 :: in2 :: input).length % 3 = input.length % 3 := by
  rw [List.length_cons, List.length_cons, List.length_cons]
  exact ⟨by omega, by omega⟩

theorem huffTriplets_eq (out : HuffOut) (input : Bytes) :
    ((encodeTriplets huffTriplet (input.length / 3) out input).bind fun (out, rest) =>
        huffTail (input.length % 3) out rest) =
      some ((encCalls input).foldl EncCall.run out, []) := by
  fun_induction encCalls input generalizing out with
  | case1 in0 in1 in2 input ih =>
    obtain ⟨triplets, tail⟩ := loop_counts in0 in1 in2 input
    rw [triplets, tail, encodeTriplets]
    exact ih (huffTriplet out in0 in1 in2)
  | case2 in0 in1 =>
    have two : [in0, in1].length = 2 := rfl
    rw [two]
    rfl
  | case3 in0 =>
    have one : [in0].length = 1 := rfl
    rw [one]
    rfl
  | case4 => rfl

theorem base64Triplets_eq (out input : Bytes) :
    ((encodeTriplets base64Triplet (input.length / 3) out input).bind fun (out, rest) =>
        base64Tail (input.length % 3) out rest) =
      some (out ++ base64Chars input, []) := by
  fun_induction encCalls input generalizing out with
  | case1 in0 in1 in2 input ih =>
    obtain ⟨triplets, tail⟩ := loop_counts in0 in1 in2 input
    rw [triplets, tail, encodeTriplets]
    have rest := ih (base64Triplet out in0 in1 in2)
    rw [base64Triplet, List.append_assoc] at rest
    exact rest
  | case2 in0 in1 =>
    have two : [in0, in1].length = 2 := rfl
    rw [two]
    rfl
  | case3 in0 =>
    have one : [in0].length = 1 := rfl
    rw [one]
    rfl
  | case4 => exact congrArg (fun out => some (out, [])) (List.append_nil out).symm

theorem length_base64Chars (input : Bytes) :
    (base64Chars input).length = input.length / 3 * 4 + tailXtra (input.length % 3) := by
  rw [base64Chars, List.length_map, sextets]
  fun_induction encCalls input with
  | case1 in0 in1 in2 input ih =>
    obtain ⟨triplets, tail⟩ := loop_counts in0 in1 in2 input
    rw [triplets, tail, List.flatMap_cons, List.flatMap_cons, List.length_append,
      List.length_append, ih]
    change 2 + (2 + _) = _
    omega
  | case2 in0 in1 =>
    have two : [in0, in1].length = 2 := rfl
    rw [two]
    rfl
  | case3 in0 =>
    have one : [in0].length = 1 := rfl
    rw [one]
    rfl
  | case4 => rfl

theorem base64Encode_eq (input : Bytes) : base64Encode input = some (base64Chars input) := by
  rw [base64Encode]
  rw [base64Triplets_eq, Option.bind_some, List.nil_append]
  exact if_pos ⟨length_base64Chars input, rfl⟩

end GrpcCore.Hpack
