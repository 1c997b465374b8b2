import GrpcCore.Hpack.FusedEncoder

/-!
# The fused encoder agrees with its two steps and is inverted by the parser

Both write the code words of the same characters, padded with ones; the parser
reads those characters, and the groups of four give the input back.
-/

namespace GrpcCore.Hpack

open BitString PrefixCode Incremental

theorem sextets_lt (input : Bytes) : ∀ value ∈ sextets input, value.toNat < 64 := by
  intro value listed
  obtain ⟨call, called, passed⟩ := List.mem_flatMap.mp listed
  exact encCalls_values input call called value passed

theorem base64Bits_alphabet : ∀ value < 64,
    Input.base64Bits (alphabet.getD value 0) = some value ∧ alphabet.getD value 0 ≠ 0x3d := by
  decide +kernel

theorem base64Bits_base64Char {value : UInt8} (six : value.toNat < 64) :
    Input.base64Bits (base64Char value) = some value.toNat :=
  (base64Bits_alphabet _ six).1

theorem stripBase64Padding_base64Chars (input : Bytes) :
    Input.stripBase64Padding (base64Chars input) = base64Chars input := by
  have unpadded : ∀ char ∈ base64Chars input, char ≠ 0x3d := by
    intro char listed
    obtain ⟨value, passed, rfl⟩ := List.mem_map.mp listed
    exact (base64Bits_alphabet _ (sextets_lt input value passed)).2
  rw [Input.stripBase64Padding]
  generalize base64Chars input = chars at unpadded
  cases reversed : chars.reverse with
  | nil => rw [List.dropWhile_nil, ← reversed, List.reverse_reverse]
  | cons last rest =>
    have listed : last ∈ chars := by
      rw [← List.mem_reverse, reversed]
      exact List.mem_cons_self
    rw [List.dropWhile_cons_of_neg (by simpa using unpadded last listed), ← reversed,
      List.reverse_reverse]

theorem toUInt8_eq {value : Nat} {byte : UInt8} (same : value % 256 = byte.toNat) :
    value.toUInt8 = byte :=
  UInt8.toNat_inj.mp (UInt8.toNat_ofNat'.trans same)

section Groups

variable {a b c d : UInt8} {bits0 bits1 bits2 bits3 : Nat}
  (first : Input.base64Bits a = some bits0) (second : Input.base64Bits b = some bits1)
include first second

theorem unbase64Groups_four (third : Input.base64Bits c = some bits2)
    (fourth : Input.base64Bits d = some bits3) {rest out : Bytes}
    (tail : Input.unbase64Groups rest = some out) :
    Input.unbase64Groups (a :: b :: c :: d :: rest) =
      some (((bits0 * 262144 + bits1 * 4096 + bits2 * 64 + bits3) / 65536).toUInt8 ::
        ((bits0 * 262144 + bits1 * 4096 + bits2 * 64 + bits3) / 256).toUInt8 ::
          (bits0 * 262144 + bits1 * 4096 + bits2 * 64 + bits3).toUInt8 :: out) := by
  simp only [Input.unbase64Groups, first, second, third, fourth, tail, Option.bind_eq_bind,
    Option.bind_some, Option.pure_def]

theorem unbase64Groups_three (third : Input.base64Bits c = some bits2)
    (unused : (bits0 * 262144 + bits1 * 4096 + bits2 * 64) % 256 = 0) :
    Input.unbase64Groups [a, b, c] =
      some [((bits0 * 262144 + bits1 * 4096 + bits2 * 64) / 65536).toUInt8,
        ((bits0 * 262144 + bits1 * 4096 + bits2 * 64) / 256).toUInt8] := by
  have groups : Input.unbase64Groups [a, b, c] = (Input.base64Bits a).bind fun bits0 =>
      (Input.base64Bits b).bind fun bits1 => (Input.base64Bits c).bind fun bits2 =>
        if (bits0 * 262144 + bits1 * 4096 + bits2 * 64) % 256 ≠ 0 then none
        else some [((bits0 * 262144 + bits1 * 4096 + bits2 * 64) / 65536).toUInt8,
          ((bits0 * 262144 + bits1 * 4096 + bits2 * 64) / 256).toUInt8] := rfl
  rw [groups, first, Option.bind_some, second, Option.bind_some, third, Option.bind_some,
    if_neg (not_not_intro unused)]

theorem unbase64Groups_two (unused : (bits0 * 262144 + bits1 * 4096) % 65536 = 0) :
    Input.unbase64Groups [a, b] = some [((bits0 * 262144 + bits1 * 4096) / 65536).toUInt8] := by
  have groups : Input.unbase64Groups [a, b] = (Input.base64Bits a).bind fun bits0 =>
      (Input.base64Bits b).bind fun bits1 =>
        if (bits0 * 262144 + bits1 * 4096) % 65536 ≠ 0 then none
        else some [((bits0 * 262144 + bits1 * 4096) / 65536).toUInt8] := rfl
  rw [groups, first, Option.bind_some, second, Option.bind_some, if_neg (not_not_intro unused)]

end Groups

theorem unbase64Groups_base64Chars (input : Bytes) :
    Input.unbase64Groups (base64Chars input) = some input := by
  have six := encCalls_values input
  fun_induction encCalls input with
  | case1 in0 in1 in2 input ih =>
    have rest := ih fun call listed =>
      six call (List.mem_cons_of_mem _ (List.mem_cons_of_mem _ listed))
    have sixFirst := six _ List.mem_cons_self
    have sixSecond := six _ (List.mem_cons_of_mem _ List.mem_cons_self)
    have bits0 := base64Bits_base64Char (sixFirst _ List.mem_cons_self)
    have bits1 := base64Bits_base64Char (sixFirst _ (List.mem_cons_of_mem _ List.mem_cons_self))
    have bits2 := base64Bits_base64Char (sixSecond _ List.mem_cons_self)
    have bits3 := base64Bits_base64Char (sixSecond _ (List.mem_cons_of_mem _ List.mem_cons_self))
    rw [toNat_shiftRight_two] at bits0
    rw [toNat_second] at bits1
    rw [toNat_third] at bits2
    rw [toNat_and_sixtyThree] at bits3
    have bound0 := in0.toNat_lt
    have bound1 := in1.toNat_lt
    have bound2 := in2.toNat_lt
    apply (unbase64Groups_four bits0 bits1 bits2 bits3 rest).trans
    exact congrArg some (List.cons_eq_cons.mpr ⟨toUInt8_eq (by omega),
      List.cons_eq_cons.mpr ⟨toUInt8_eq (by omega),
        List.cons_eq_cons.mpr ⟨toUInt8_eq (by omega), rfl⟩⟩⟩)
  | case2 in0 in1 =>
    have sixFirst := six _ List.mem_cons_self
    have sixSecond := six _ (List.mem_cons_of_mem _ List.mem_cons_self)
    have bits0 := base64Bits_base64Char (sixFirst _ List.mem_cons_self)
    have bits1 := base64Bits_base64Char (sixFirst _ (List.mem_cons_of_mem _ List.mem_cons_self))
    have bits2 := base64Bits_base64Char (sixSecond _ List.mem_cons_self)
    rw [toNat_shiftRight_two] at bits0
    rw [toNat_second] at bits1
    rw [toNat_and_fifteen] at bits2
    have bound0 := in0.toNat_lt
    have bound1 := in1.toNat_lt
    apply (unbase64Groups_three bits0 bits1 bits2 (by omega)).trans
    exact congrArg some (List.cons_eq_cons.mpr ⟨toUInt8_eq (by omega),
      List.cons_eq_cons.mpr ⟨toUInt8_eq (by omega), rfl⟩⟩)
  | case3 in0 =>
    have six := six _ List.mem_cons_self
    have bits0 := base64Bits_base64Char (six _ List.mem_cons_self)
    have bits1 := base64Bits_base64Char (six _ (List.mem_cons_of_mem _ List.mem_cons_self))
    rw [toNat_shiftRight_two] at bits0
    rw [toNat_and_three] at bits1
    have bound0 := in0.toNat_lt
    apply (unbase64Groups_two bits0 bits1 (by omega)).trans
    exact congrArg some (List.cons_eq_cons.mpr ⟨toUInt8_eq (by omega), rfl⟩)
  | case4 => rfl

theorem pushBytes_base64Chars (input : Bytes) :
    pushBytes [] (base64Chars input) = huffmanCode (base64Chars input) := by
  have short : ∀ char ∈ base64Chars input, (symbolCode (byteSymbol char)).length ≤ 24 := by
    intro char listed
    obtain ⟨value, passed, rfl⟩ := List.mem_map.mp listed
    have six := sextets_lt input value passed
    rw [← huffChar_code six, HuffSym.code, length_bits]
    exact Nat.le_trans (huffChar_short six) (by decide)
  rw [← List.nil_append (huffmanCode (base64Chars input))]
  generalize base64Chars input = chars at short
  generalize ([] : List Bool) = coded
  induction chars generalizing coded with
  | nil => exact (List.append_nil coded).symm
  | cons char chars ih =>
    have step : pushBytes coded (char :: chars) =
        pushBytes (pushed coded (symbolCode (byteSymbol char))) chars := rfl
    rw [step, pushed_of_short coded (short char List.mem_cons_self), huffmanCode_cons,
      ← List.append_assoc]
    exact ih (fun char' listed => short char' (List.mem_cons_of_mem char listed))
      _

theorem length_huffmanCode_le {chars : Bytes} {most : Nat}
    (short : ∀ char ∈ chars, (symbolCode (byteSymbol char)).length ≤ most) :
    (huffmanCode chars).length ≤ most * chars.length := by
  induction chars with
  | nil => exact Nat.zero_le _
  | cons char chars ih =>
    have first := short char List.mem_cons_self
    have rest := ih fun char' listed =>
      short char' (List.mem_cons_of_mem char listed)
    rw [huffmanCode_cons, List.length_append, List.length_cons, Nat.mul_succ]
    omega

theorem eq_of_padded {out out' : Bytes} {coded : List Bool} {count count' : Nat}
    (short : count < 8) (short' : count' < 8)
    (padded : ofBytes out = coded ++ List.replicate count true)
    (padded' : ofBytes out' = coded ++ List.replicate count' true) : out = out' := by
  have lengths := congrArg List.length padded
  have lengths' := congrArg List.length padded'
  rw [length_ofBytes, List.length_append, List.length_replicate] at lengths lengths'
  have same : count = count' := by omega
  exact ofBytes_injective (by rw [padded, padded', same])

theorem le_bytesFor {nbits bytes : Nat} (fits : 8 * bytes < nbits + 8) :
    bytes ≤ bytesFor nbits := by
  rw [bytesFor]
  split
  next => omega
  next => omega

theorem fused_eq (input : Bytes) : ∃ count < 8,
    base64EncodeAndHuffmanCompress input = some ((encCalls input).foldl EncCall.run {}).finish ∧
      ofBytes ((encCalls input).foldl EncCall.run {}).finish =
        huffmanCode (base64Chars input) ++ List.replicate count true := by
  obtain ⟨settled, stream⟩ :=
    EncCall.stream_foldl HuffOut.settled_initial (encCalls_values input)
  obtain ⟨count, short, finished⟩ := HuffOut.ofBytes_finish settled
  rw [stream] at finished
  have finished : ofBytes ((encCalls input).foldl EncCall.run {}).finish =
      huffmanCode (base64Chars input) ++ List.replicate count true := finished
  refine ⟨count, short, ?_, finished⟩
  have eleven : ∀ char ∈ base64Chars input, (symbolCode (byteSymbol char)).length ≤ 11 := by
    intro char listed
    obtain ⟨value, passed, rfl⟩ := List.mem_map.mp listed
    have six := sextets_lt input value passed
    rw [← huffChar_code six, HuffSym.code, length_bits]
    exact huffChar_short six
  have most := length_huffmanCode_le eleven
  have lengths := congrArg List.length finished
  rw [length_ofBytes, List.length_append, List.length_replicate] at lengths
  rw [length_base64Chars] at most
  have inside : ((encCalls input).foldl EncCall.run {}).finish.length ≤
      bytesFor (11 * (input.length / 3 * 4 + tailXtra (input.length % 3))) :=
    le_bytesFor (by omega)
  rw [base64EncodeAndHuffmanCompress]
  rw [huffTriplets_eq, Option.bind_some]
  exact if_pos ⟨inside, rfl⟩

/-- The fused encoder is the two-step one, keeps every waiting bit, and is inverted
by the parser. -/
theorem fused_agrees (input : Bytes) : ∃ chars encoded,
    base64Encode input = some chars ∧ huffmanCompress chars = some encoded ∧
      base64EncodeAndHuffmanCompress input = some encoded ∧
      encoded = ((encCalls input).foldl EncCall.run {}).finish ∧
      (∀ before call after, encCalls input = before ++ call :: after →
        (before.foldl EncCall.run {}).tempLength + call.length ≤ 32) ∧
      ∀ rest, ((Input.parseHuff encoded.length).bind Input.unbase64) (encoded ++ rest) =
        .done input rest := by
  obtain ⟨count, short, fused, padded⟩ := fused_eq input
  obtain ⟨compressed, count', short', twoStep, padded'⟩ := huffmanCompress_eq (base64Chars input)
  rw [pushBytes_base64Chars] at padded'
  have same := eq_of_padded short' short padded' padded
  refine ⟨base64Chars input, _, base64Encode_eq input, same ▸ twoStep, fused, rfl, ?_, ?_⟩
  · intro before call after split
    have listed : ∀ call ∈ encCalls input, ∀ value ∈ call.values, value.toNat < 64 :=
      encCalls_values input
    rw [split] at listed
    have settled := (EncCall.stream_foldl HuffOut.settled_initial fun call' earlier =>
      listed call' (List.mem_append_left _ earlier)).1
    have waiting := settled.short
    have added := EncCall.length_le (listed call (List.mem_append_right _ List.mem_cons_self))
    omega
  · intro rest
    rw [Reader.bind, parseHuff_append, huffOutput_of_code short padded]
    dsimp only
    rw [Input.unbase64, Input.unbase64Loop, stripBase64Padding_base64Chars,
      unbase64Groups_base64Chars]
    rfl

end GrpcCore.Hpack
