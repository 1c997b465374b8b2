import GrpcCore.Slice.Base64

/-!
# Base64 and back

Encoded data decodes to itself, and fits the size that is estimated for it.
-/

namespace GrpcCore.Slice.Base64

section Sextets

theorem shiftLeft_or {y k : Nat} (small : y < 2 ^ k) (x : Nat) : x <<< k ||| y = x * 2 ^ k + y := by
  rw [← Nat.shiftLeft_add_eq_or_of_lt small, Nat.shiftLeft_eq]

theorem and_three (n : Nat) : n &&& 3 = n % 2 ^ 2 := Nat.and_two_pow_sub_one_eq_mod n 2

theorem and_fifteen (n : Nat) : n &&& 15 = n % 2 ^ 4 := Nat.and_two_pow_sub_one_eq_mod n 4

theorem and_sixtyThree (n : Nat) : n &&& 63 = n % 2 ^ 6 := Nat.and_two_pow_sub_one_eq_mod n 6

theorem ofNat_eq {n : Nat} (byte : UInt8) (same : n % 256 = byte.toNat) : UInt8.ofNat n = byte :=
  UInt8.toNat_inj.mp ((UInt8.toNat_ofNat' (n := n)).trans same)

variable (b0 b1 b2 : UInt8)

theorem sextet0 : (b0.toNat >>> 2) &&& 0x3F = b0.toNat / 4 := by
  have bound := b0.toNat_lt
  rw [and_sixtyThree, Nat.shiftRight_eq_div_pow]
  omega

theorem sextet1 : ((b0.toNat &&& 0x03) <<< 4) ||| ((b1.toNat >>> 4) &&& 0x0F) =
    b0.toNat % 4 * 16 + b1.toNat / 16 := by
  have bound := b1.toNat_lt
  rw [and_three, and_fifteen, Nat.shiftRight_eq_div_pow, shiftLeft_or (Nat.mod_lt _ (by decide))]
  omega

theorem sextet1_last : (b0.toNat &&& 0x03) <<< 4 = b0.toNat % 4 * 16 :=
  (congrArg (· <<< 4) (and_three _)).trans (Nat.shiftLeft_eq _ _)

theorem sextet2 : ((b1.toNat &&& 0x0F) <<< 2) ||| ((b2.toNat >>> 6) &&& 0x03) =
    b1.toNat % 16 * 4 + b2.toNat / 64 := by
  have bound := b2.toNat_lt
  rw [and_fifteen, and_three, Nat.shiftRight_eq_div_pow, shiftLeft_or (Nat.mod_lt _ (by decide))]
  omega

theorem sextet2_last : (b1.toNat &&& 0x0F) <<< 2 = b1.toNat % 16 * 4 :=
  (congrArg (· <<< 2) (and_fifteen _)).trans (Nat.shiftLeft_eq _ _)

theorem sextet3 : b2.toNat &&& 0x3F = b2.toNat % 64 := and_sixtyThree _

theorem decodeOneChar_sextets :
    decodeOneChar (b0.toNat / 4) (b0.toNat % 4 * 16) = [b0] := by
  have split := Nat.div_add_mod b0.toNat 4
  have bound : b0.toNat % 4 * 16 / 16 < 2 ^ 2 := by omega
  rw [decodeOneChar, Nat.shiftRight_eq_div_pow, shiftLeft_or bound]
  have small := b0.toNat_lt
  rw [ofNat_eq b0]
  omega

theorem decodeTwoChars_sextets :
    decodeTwoChars (b0.toNat / 4) (b0.toNat % 4 * 16 + b1.toNat / 16) (b1.toNat % 16 * 4) =
      [b0, b1] := by
  have small0 := b0.toNat_lt
  have small1 := b1.toNat_lt
  have low : b1.toNat % 16 * 4 / 2 ^ 2 < 2 ^ 4 := by omega
  have middle : (b0.toNat % 4 * 16 + b1.toNat / 16) * 2 ^ 4 + b1.toNat % 16 * 4 / 2 ^ 2 < 2 ^ 10 := by
    omega
  rw [decodeTwoChars, Nat.or_assoc, Nat.shiftRight_eq_div_pow (b1.toNat % 16 * 4), shiftLeft_or low,
    shiftLeft_or middle]
  rw [Nat.shiftRight_eq_div_pow, ofNat_eq b0, ofNat_eq b1]
  · omega
  · omega

theorem decodeThreeChars_sextets :
    decodeThreeChars (b0.toNat / 4) (b0.toNat % 4 * 16 + b1.toNat / 16)
      (b1.toNat % 16 * 4 + b2.toNat / 64) (b2.toNat % 64) = [b0, b1, b2] := by
  have small0 := b0.toNat_lt
  have small1 := b1.toNat_lt
  have small2 := b2.toNat_lt
  have low : b2.toNat % 64 < 2 ^ 6 := by omega
  have middle : (b1.toNat % 16 * 4 + b2.toNat / 64) * 2 ^ 6 + b2.toNat % 64 < 2 ^ 12 := by omega
  have high : (b0.toNat % 4 * 16 + b1.toNat / 16) * 2 ^ 12 +
      ((b1.toNat % 16 * 4 + b2.toNat / 64) * 2 ^ 6 + b2.toNat % 64) < 2 ^ 18 := by
    omega
  rw [decodeThreeChars, Nat.or_assoc, Nat.or_assoc, shiftLeft_or low, shiftLeft_or middle,
    shiftLeft_or high]
  rw [Nat.shiftRight_eq_div_pow, Nat.shiftRight_eq_div_pow, ofNat_eq b0, ofNat_eq b1, ofNat_eq b2]
  · omega
  · omega
  · omega

end Sextets

section Characters

variable (urlSafe : Bool)

theorem map_charCode :
    (if urlSafe then base64UrlSafeChars else base64UrlUnsafeChars).map (charCode urlSafe) =
      (List.range 64).map fun code => some (some code) := by
  cases urlSafe <;> rfl

theorem charCode_base64Char {code : Nat} (small : code < 64) :
    charCode urlSafe (base64Char urlSafe code) = some (some code) := by
  have placed := congrArg (·[code]?) (map_charCode urlSafe)
  simp only [List.getElem?_map, List.getElem?_range small, Option.map_some,
    Option.map_eq_some_iff] at placed
  obtain ⟨char, found, stands⟩ := placed
  rw [base64Char, List.getD_eq_getElem?_getD, found]
  exact stands

theorem charCode_pad : charCode urlSafe GRPC_BASE64_PAD_CHAR = some (some GRPC_BASE64_PAD_BYTE) := by
  cases urlSafe <;> decide

theorem charCode_lineBreak : ∀ char ∈ lineBreak, charCode urlSafe char = some none := by
  rw [lineBreak, List.forall_mem_cons, List.forall_mem_singleton]
  cases urlSafe <;> decide

theorem lineBreak_ne_zero : ∀ char ∈ lineBreak, char ≠ 0 := by
  rw [lineBreak, List.forall_mem_cons, List.forall_mem_singleton]
  decide

theorem base64Char_ne_zero {code : Nat} (small : code < 64) : base64Char urlSafe code ≠ 0 := by
  intro zero
  have invalid : ∀ urlSafe, charCode urlSafe 0 = none := by decide
  have stands := charCode_base64Char urlSafe small
  rw [zero, invalid] at stands
  cases stands

end Characters

section RoundTrip

variable {urlSafe multiline : Bool} {result rest : Bytes}

theorem decodeLoop_group {c0 c1 c2 c3 : UInt8} {k0 k1 k2 k3 : Nat}
    (code0 : charCode urlSafe c0 = some (some k0)) (code1 : charCode urlSafe c1 = some (some k1))
    (code2 : charCode urlSafe c2 = some (some k2)) (code3 : charCode urlSafe c3 = some (some k3)) :
    decodeLoop urlSafe (c0 :: c1 :: c2 :: c3 :: rest) [] result =
      match decodeGroup result [k0, k1, k2, k3] with
      | .error result => .error result
      | .ok result => decodeLoop urlSafe rest [] result := by
  rw [decodeLoop, code0]
  dsimp only
  rw [if_neg (by simp), decodeLoop, code1]
  dsimp only
  rw [if_neg (by simp), decodeLoop, code2]
  dsimp only
  rw [if_neg (by simp), decodeLoop, code3]
  dsimp only
  rw [if_pos (by simp)]
  rfl

theorem decodeLoop_lineBreak :
    decodeLoop urlSafe (lineBreak ++ rest) [] result = decodeLoop urlSafe rest [] result := by
  have skip := charCode_lineBreak urlSafe
  rw [lineBreak, List.cons_append, List.singleton_append, decodeLoop, skip _ List.mem_cons_self]
  dsimp only
  rw [decodeLoop, skip _ (List.mem_cons_of_mem _ List.mem_cons_self)]

theorem ne_pad_of_lt {code : Nat} (small : code < 64) : code ≠ GRPC_BASE64_PAD_BYTE := by
  rintro rfl
  exact absurd small (by decide)

variable (b0 b1 b2 : UInt8)

theorem decodeLoop_encodeBlock :
    decodeLoop urlSafe (encodeBlock urlSafe b0 b1 b2 ++ rest) [] result =
      decodeLoop urlSafe rest [] (result ++ [b0, b1, b2]) := by
  have small0 := b0.toNat_lt
  have small1 := b1.toNat_lt
  have small2 := b2.toNat_lt
  have sextet_lt0 : b0.toNat / 4 < 64 := by omega
  have sextet_lt1 : b0.toNat % 4 * 16 + b1.toNat / 16 < 64 := by omega
  have sextet_lt2 : b1.toNat % 16 * 4 + b2.toNat / 64 < 64 := by omega
  have sextet_lt3 : b2.toNat % 64 < 64 := by omega
  have group : decodeGroup result [b0.toNat / 4, b0.toNat % 4 * 16 + b1.toNat / 16,
      b1.toNat % 16 * 4 + b2.toNat / 64, b2.toNat % 64] = .ok (result ++ [b0, b1, b2]) := by
    rw [decodeGroup,
      if_neg (not_or.mpr ⟨ne_pad_of_lt sextet_lt0, ne_pad_of_lt sextet_lt1⟩),
      if_neg (ne_pad_of_lt sextet_lt2), if_neg (ne_pad_of_lt sextet_lt3), decodeThreeChars_sextets]
  rw [encodeBlock, sextet0, sextet1, sextet2, sextet3]
  dsimp only [List.cons_append, List.nil_append]
  rw [decodeLoop_group (charCode_base64Char urlSafe sextet_lt0)
    (charCode_base64Char urlSafe sextet_lt1) (charCode_base64Char urlSafe sextet_lt2)
    (charCode_base64Char urlSafe sextet_lt3), group]

theorem decodeLoop_tail_two (numBlocks : Nat) :
    decodeLoop urlSafe (encodeData urlSafe multiline numBlocks [b0, b1]) [] result =
      .ok ([], result ++ [b0, b1]) := by
  have small0 := b0.toNat_lt
  have small1 := b1.toNat_lt
  have sextet_lt0 : b0.toNat / 4 < 64 := by omega
  have sextet_lt1 : b0.toNat % 4 * 16 + b1.toNat / 16 < 64 := by omega
  have sextet_lt2 : b1.toNat % 16 * 4 < 64 := by omega
  have group : decodeGroup result [b0.toNat / 4, b0.toNat % 4 * 16 + b1.toNat / 16,
      b1.toNat % 16 * 4, GRPC_BASE64_PAD_BYTE] = .ok (result ++ [b0, b1]) := by
    rw [decodeGroup,
      if_neg (not_or.mpr ⟨ne_pad_of_lt sextet_lt0, ne_pad_of_lt sextet_lt1⟩),
      if_neg (ne_pad_of_lt sextet_lt2), if_pos rfl, decodeTwoChars_sextets]
  rw [encodeData, sextet0, sextet1, sextet2_last,
    decodeLoop_group (charCode_base64Char urlSafe sextet_lt0)
      (charCode_base64Char urlSafe sextet_lt1) (charCode_base64Char urlSafe sextet_lt2)
      (charCode_pad urlSafe), group]
  rfl

theorem decodeLoop_tail_one (numBlocks : Nat) :
    decodeLoop urlSafe (encodeData urlSafe multiline numBlocks [b0]) [] result =
      .ok ([], result ++ [b0]) := by
  have small0 := b0.toNat_lt
  have sextet_lt0 : b0.toNat / 4 < 64 := by omega
  have sextet_lt1 : b0.toNat % 4 * 16 < 64 := by omega
  have group : decodeGroup result [b0.toNat / 4, b0.toNat % 4 * 16, GRPC_BASE64_PAD_BYTE,
      GRPC_BASE64_PAD_BYTE] = .ok (result ++ [b0]) := by
    rw [decodeGroup,
      if_neg (not_or.mpr ⟨ne_pad_of_lt sextet_lt0, ne_pad_of_lt sextet_lt1⟩), if_pos rfl,
      if_pos rfl, decodeOneChar_sextets]
  rw [encodeData, sextet0, sextet1_last,
    decodeLoop_group (charCode_base64Char urlSafe sextet_lt0)
      (charCode_base64Char urlSafe sextet_lt1) (charCode_pad urlSafe) (charCode_pad urlSafe), group]
  rfl

theorem decodeLoop_encodeData (numBlocks : Nat) (data result : Bytes) :
    decodeLoop urlSafe (encodeData urlSafe multiline numBlocks data) [] result =
      .ok ([], result ++ data) := by
  induction numBlocks, data using encodeData.induct generalizing result with
  | case1 numBlocks b0 b1 b2 data restarted counted uncounted =>
    rw [encodeData, decodeLoop_encodeBlock]
    split_ifs
    · rw [decodeLoop_lineBreak, restarted, List.append_assoc]
      rfl
    · rw [counted, List.append_assoc]
      rfl
    · rw [uncounted, List.append_assoc]
      rfl
  | case2 numBlocks b0 b1 => exact decodeLoop_tail_two b0 b1 numBlocks
  | case3 numBlocks b0 => exact decodeLoop_tail_one b0 numBlocks
  | case4 =>
    rw [List.append_nil]
    rfl

end RoundTrip

section Sizes

variable {urlSafe multiline : Bool}

theorem pad_ne_zero : GRPC_BASE64_PAD_CHAR ≠ 0 := by decide

theorem encodeBlock_ne_zero (b0 b1 b2 : UInt8) : ∀ char ∈ encodeBlock urlSafe b0 b1 b2, char ≠ 0 := by
  have small0 := b0.toNat_lt
  have small1 := b1.toNat_lt
  have small2 := b2.toNat_lt
  rw [encodeBlock, sextet0, sextet1, sextet2, sextet3]
  simp only [List.forall_mem_cons]
  refine ⟨base64Char_ne_zero urlSafe ?_, base64Char_ne_zero urlSafe ?_,
    base64Char_ne_zero urlSafe ?_, base64Char_ne_zero urlSafe ?_, List.forall_mem_nil _⟩
  all_goals omega

theorem encodeData_ne_zero (numBlocks : Nat) (data : Bytes) :
    ∀ char ∈ encodeData urlSafe multiline numBlocks data, char ≠ 0 := by
  induction numBlocks, data using encodeData.induct with
  | case1 numBlocks b0 b1 b2 data restarted counted uncounted =>
    intro char listed
    rw [encodeData] at listed
    rcases List.mem_append.mp listed with block | later
    · exact encodeBlock_ne_zero b0 b1 b2 char block
    · split_ifs at later
      · rcases List.mem_append.mp later with broken | later
        · exact lineBreak_ne_zero char broken
        · exact restarted char later
      · exact counted char later
      · exact uncounted char later
  | case2 numBlocks b0 b1 =>
    have small0 := b0.toNat_lt
    have small1 := b1.toNat_lt
    rw [encodeData, sextet0, sextet1, sextet2_last]
    simp only [List.forall_mem_cons]
    refine ⟨base64Char_ne_zero urlSafe ?_, base64Char_ne_zero urlSafe ?_,
      base64Char_ne_zero urlSafe ?_, pad_ne_zero, List.forall_mem_nil _⟩
    all_goals omega
  | case3 numBlocks b0 =>
    have small0 := b0.toNat_lt
    rw [encodeData, sextet0, sextet1_last]
    simp only [List.forall_mem_cons]
    refine ⟨base64Char_ne_zero urlSafe ?_, base64Char_ne_zero urlSafe ?_, pad_ne_zero, pad_ne_zero,
      List.forall_mem_nil _⟩
    all_goals omega
  | case4 => exact List.forall_mem_nil _

theorem length_encodeData (numBlocks : Nat) (data : Bytes)
    (unfilled : numBlocks < GRPC_BASE64_MULTILINE_NUM_BLOCKS) :
    (encodeData urlSafe multiline numBlocks data).length =
      4 * ((data.length + 2) / 3) +
        2 * if multiline then
          (numBlocks + data.length / 3) / GRPC_BASE64_MULTILINE_NUM_BLOCKS else 0 := by
  have blocks : GRPC_BASE64_MULTILINE_NUM_BLOCKS = 19 := rfl
  rw [blocks] at unfilled ⊢
  induction numBlocks, data using encodeData.induct with
  | case1 numBlocks b0 b1 b2 data restarted counted uncounted =>
    have block : (encodeBlock urlSafe b0 b1 b2).length = 4 := rfl
    have line : lineBreak.length = 2 := rfl
    rw [encodeData, List.length_append, block, List.length_cons, List.length_cons, List.length_cons]
    cases multiline with
    | false =>
      rw [if_neg (by decide), uncounted unfilled, if_neg (by decide), if_neg (by decide)]
      omega
    | true =>
      rw [if_pos rfl, if_pos rfl, blocks]
      split_ifs with full
      · rw [List.length_append, line, restarted (by decide), if_pos rfl]
        omega
      · rw [counted (by omega), if_pos rfl]
        omega
  | case2 | case3 =>
    rw [encodeData]
    simp only [List.length_cons, List.length_nil]
    cases multiline with
    | false =>
      rw [if_neg (by decide)]
    | true =>
      rw [if_pos rfl]
      omega
  | case4 =>
    rw [encodeData]
    cases multiline with
    | false => rfl
    | true =>
      rw [if_pos rfl]
      simp only [List.length_nil]
      omega

theorem encode_eq (data : Bytes) :
    encode urlSafe multiline data = some (encodeData urlSafe multiline 0 data ++ [0]) ∧
      (encodeData urlSafe multiline 0 data ++ [0]).length ≤
        estimateEncodedSize data.length multiline := by
  have blocks : GRPC_BASE64_MULTILINE_NUM_BLOCKS = 19 := rfl
  have fits : (encodeData urlSafe multiline 0 data).length <
      estimateEncodedSize data.length multiline := by
    rw [length_encodeData 0 data (by decide), estimateEncodedSize, blocks]
    cases multiline with
    | false =>
      rw [if_neg (by decide), if_neg (by decide)]
      omega
    | true =>
      rw [if_pos rfl, if_pos rfl]
      omega
  refine ⟨if_pos fits, ?_⟩
  rw [List.length_append]
  exact fits

theorem decode_encodeData (data : Bytes) :
    decode urlSafe (encodeData urlSafe multiline 0 data ++ [0]) = .ok data := by
  have string : (encodeData urlSafe multiline 0 data ++ [0]).takeWhile (· ≠ 0) =
      encodeData urlSafe multiline 0 data := by
    rw [List.takeWhile_append_of_pos]
    · exact List.append_nil _
    · intro char listed
      exact decide_eq_true (encodeData_ne_zero 0 data char listed)
  rw [decode, string, decodeWithLen, decodeLoop_encodeData]
  rfl

end Sizes

end GrpcCore.Slice.Base64
