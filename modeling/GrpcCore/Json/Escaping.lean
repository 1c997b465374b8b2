import GrpcCore.Json.Strings
import GrpcCore.Json.Writer

/-!
# Escaped strings

The writer decodes the UTF-8 of a string, and what it puts out spells the same string to the reader.
-/

namespace GrpcCore.Json

section Hexadecimal

theorem hexValue_lowerHexDigit {value : Nat} (small : value < 16) :
    hexValue (lowerHexDigit value) = some value := by
  have every : ∀ value : Fin 16, hexValue (lowerHexDigit value) = some value.val := by decide
  exact every ⟨value, small⟩

theorem hexQuad_escapeUtf16 {code : Nat} (small : code < 2 ^ 16) :
    ∃ digits, escapeUtf16 code = 92 :: 117 :: digits ∧ hexQuad digits = some code := by
  have nibble (n : Nat) : (code >>> n) &&& 0x0f = code / 2 ^ n % 16 := by
    rw [Nat.shiftRight_eq_div_pow]
    exact Nat.and_two_pow_sub_one_eq_mod _ 4
  have last : code &&& 0x0f = code % 16 := Nat.and_two_pow_sub_one_eq_mod _ 4
  refine ⟨_, rfl, ?_⟩
  rw [nibble, nibble, nibble, last, hexQuad, hexValue_lowerHexDigit (Nat.mod_lt _ (by decide)),
    hexValue_lowerHexDigit (Nat.mod_lt _ (by decide)),
    hexValue_lowerHexDigit (Nat.mod_lt _ (by decide)),
    hexValue_lowerHexDigit (Nat.mod_lt _ (by decide))]
  have joined : ((code / 2 ^ 12 % 16 * 16 + code / 2 ^ 8 % 16) * 16 + code / 2 ^ 4 % 16) * 16 +
      code % 16 = code := by omega
  exact congrArg some joined

end Hexadecimal

section Surrogates

theorem and_fc00 {code bits : Nat} (small : code < 2 ^ 16) (same : code &&& 0xfc00 = bits) :
    code / 1024 = bits / 1024 := by
  have shifted := congrArg (· >>> 10) same
  rw [Nat.shiftRight_and_distrib, Nat.shiftRight_eq_div_pow, Nat.shiftRight_eq_div_pow bits] at shifted
  have masked : code / 2 ^ 10 &&& 0xfc00 >>> 10 = code / 2 ^ 10 % 64 :=
    Nat.and_two_pow_sub_one_eq_mod _ 6
  omega

theorem noSurrogate {code : Nat} (small : code < 2 ^ 16) (other : ¬ (0xd800 ≤ code ∧ code ≤ 0xdfff)) :
    isHighSurrogate code = false ∧ isLowSurrogate code = false := by
  constructor
  · apply decide_eq_false
    intro same
    have part := and_fc00 small same
    omega
  · apply decide_eq_false
    intro same
    have part := and_fc00 small same
    omega

theorem surrogate_bits : ∀ bits : Fin 1024,
    0xd800 ||| bits.val = 0xd800 + bits.val ∧ 0xdc00 ||| bits.val = 0xdc00 + bits.val ∧
      isHighSurrogate (0xd800 + bits.val) = true ∧ isLowSurrogate (0xdc00 + bits.val) = true := by
  decide +kernel

end Surrogates

section Utf8

def ValidUtf8 (text : Bytes) : Prop := ∃ chars : List Char, text = chars.flatMap String.utf8EncodeChar

theorem lead_bits : (∀ x : Fin 32, UInt8.ofNat (0xc0 ||| x.val) = UInt8.ofNat (x.val + 0xc0)) ∧
    (∀ x : Fin 16, UInt8.ofNat (0xe0 ||| x.val) = UInt8.ofNat (x.val + 0xe0)) ∧
    (∀ x : Fin 8, UInt8.ofNat (0xf0 ||| x.val) = UInt8.ofNat (x.val + 0xf0)) ∧
    ∀ x : Fin 64, UInt8.ofNat (0x80 ||| x.val) = UInt8.ofNat (x.val + 0x80) := by
  decide

theorem utf8OfUtf32_eq (char : Char) : utf8OfUtf32 char.val.toNat = String.utf8EncodeChar char := by
  have bound : char.val.toNat < 0x110000 := by
    rcases char.valid with small | ⟨-, large⟩
    · exact lt_trans small (by decide)
    · exact large
  have low (n : Nat) : n &&& 0x3f = n % 64 := Nat.and_two_pow_sub_one_eq_mod n 6
  have five (n : Nat) : n &&& 0x1f = n % 32 := Nat.and_two_pow_sub_one_eq_mod n 5
  have four (n : Nat) : n &&& 0x0f = n % 16 := Nat.and_two_pow_sub_one_eq_mod n 4
  have three (n : Nat) : n &&& 0x07 = n % 8 := Nat.and_two_pow_sub_one_eq_mod n 3
  have lead₂ (n : Nat) := lead_bits.1 ⟨n % 32, Nat.mod_lt _ (by decide)⟩
  have lead₃ (n : Nat) := lead_bits.2.1 ⟨n % 16, Nat.mod_lt _ (by decide)⟩
  have lead₄ (n : Nat) := lead_bits.2.2.1 ⟨n % 8, Nat.mod_lt _ (by decide)⟩
  have tail (n : Nat) := lead_bits.2.2.2 ⟨n % 64, Nat.mod_lt _ (by decide)⟩
  unfold utf8OfUtf32 String.utf8EncodeChar
  simp only [Nat.shiftRight_eq_div_pow, low, five, four, three, lead₂, lead₃, lead₄, tail]
  split_ifs
  · rfl
  · rfl
  · rfl
  · rfl
  · omega

end Utf8

section Escapes

variable {c : UInt8} {raw text rest : Bytes}

theorem chars_escapeUtf16 {code : Nat} (small : code < 2 ^ 16)
    (other : ¬ (0xd800 ≤ code ∧ code ≤ 0xdfff)) (chars : Chars raw text) :
    Chars (escapeUtf16 code ++ raw) (utf8OfUtf32 code ++ text) := by
  obtain ⟨digits, escaped, spelled⟩ := hexQuad_escapeUtf16 small
  obtain ⟨noHigh, noLow⟩ := noSurrogate small other
  rw [escaped]
  exact .unicode spelled noHigh noLow chars

theorem chars_escapeUtf32 {code : Nat} (small : code < 0x110000)
    (other : ¬ (0xd800 ≤ code ∧ code ≤ 0xdfff)) (chars : Chars raw text) :
    Chars (escapeUtf32 code raw) (utf8OfUtf32 code ++ text) := by
  rw [escapeUtf32, if_neg (by omega)]
  split_ifs with large
  · have quotient : (code - 0x10000) >>> 10 = (code - 0x10000) / 1024 := Nat.shiftRight_eq_div_pow _ _
    have remainder : (code - 0x10000) &&& 0x3ff = (code - 0x10000) % 1024 :=
      Nat.and_two_pow_sub_one_eq_mod _ 10
    obtain ⟨orHigh, -, isHigh, -⟩ := surrogate_bits ⟨(code - 0x10000) / 1024, by omega⟩
    obtain ⟨-, orLow, -, isLow⟩ := surrogate_bits ⟨(code - 0x10000) % 1024, by omega⟩
    obtain ⟨digits, escaped, spelled⟩ :=
      @hexQuad_escapeUtf16 (0xd800 + (code - 0x10000) / 1024) (by omega)
    obtain ⟨digits', escaped', spelled'⟩ :=
      @hexQuad_escapeUtf16 (0xdc00 + (code - 0x10000) % 1024) (by omega)
    have whole := Chars.pair spelled isHigh spelled' isLow chars
    have code_eq : pairCode (0xd800 + (code - 0x10000) / 1024)
        (0xdc00 + (code - 0x10000) % 1024) = code := by
      unfold pairCode
      omega
    rw [code_eq] at whole
    rw [quotient, remainder, orHigh, orLow, escaped, escaped']
    exact whole
  · exact chars_escapeUtf16 (by omega) other chars

theorem escapeBytes_printable (range : 32 ≤ c ∧ c ≤ 126) :
    escapeBytes (c :: rest) = (if c = 92 ∨ c = 34 then [92, c] else [c]) ++ escapeBytes rest := by
  have nonzero : c ≠ 0 := by
    rintro rfl
    exact absurd range.1 (by decide)
  rw [escapeBytes.eq_def]
  exact (if_neg nonzero).trans (if_pos range)

theorem escapeBytes_control (nonzero : c ≠ 0) (range : c < 32 ∨ c = 127) :
    escapeBytes (c :: rest) = escapeControl c ++ escapeBytes rest := by
  have noPrintable : ¬ (32 ≤ c ∧ c ≤ 126) := by
    rcases range with small | rfl
    · exact fun printable => absurd small (UInt8.not_lt.mpr printable.1)
    · decide
  rw [escapeBytes.eq_def]
  exact (if_neg nonzero).trans ((if_neg noPrintable).trans (if_pos range))

theorem chars_ascii (nonzero : c ≠ 0) (ascii : c < 128) (chars : Chars (escapeBytes rest) text) :
    Chars (escapeBytes (c :: rest)) (c :: text) := by
  by_cases range : 32 ≤ c ∧ c ≤ 126
  · rw [escapeBytes_printable range]
    split_ifs with special
    · apply Chars.escape _ chars
      rcases special with rfl | rfl
      · rfl
      · rfl
    · exact .plain range.1 (fun quote => special (.inr quote)) (fun slash => special (.inl slash)) chars
  · have control : c < 32 ∨ c = 127 := by grind
    rw [escapeBytes_control nonzero control, escapeControl]
    have same : utf8OfUtf32 c.toNat = [c] := by
      have small : c.toNat ≤ 0x7f := Nat.le_of_lt_succ (UInt8.lt_iff_toNat_lt.mp ascii)
      rw [utf8OfUtf32, if_pos small, UInt8.ofNat_toNat]
    split_ifs with backspace feed newline return_ tab
    · exact backspace ▸ .escape rfl chars
    · exact feed ▸ .escape rfl chars
    · exact newline ▸ .escape rfl chars
    · exact return_ ▸ .escape rfl chars
    · exact tab ▸ .escape rfl chars
    · have below : c.toNat < 256 := UInt8.toNat_lt c
      have whole := @chars_escapeUtf16 _ _ c.toNat (by omega) (by omega) chars
      rw [same] at whole
      exact whole

def leads (c : UInt8) : Prop := c ≠ 0 ∧ ¬ (32 ≤ c ∧ c ≤ 126) ∧ ¬ (c < 32 ∨ c = 127)

instance : Decidable (leads c) := inferInstanceAs (Decidable (_ ∧ _))

theorem lead₂_spec : ∀ x : Fin 32, leads (UInt8.ofNat (x.val + 0xc0)) ∧
    UInt8.ofNat (x.val + 0xc0) &&& 0xe0 = 0xc0 ∧
    (UInt8.ofNat (x.val + 0xc0) &&& 0x1f).toNat = x.val := by
  decide

theorem lead₃_spec : ∀ x : Fin 16, leads (UInt8.ofNat (x.val + 0xe0)) ∧
    UInt8.ofNat (x.val + 0xe0) &&& 0xe0 ≠ 0xc0 ∧ UInt8.ofNat (x.val + 0xe0) &&& 0xf0 = 0xe0 ∧
    (UInt8.ofNat (x.val + 0xe0) &&& 0x0f).toNat = x.val := by
  decide

theorem lead₄_spec : ∀ x : Fin 8, leads (UInt8.ofNat (x.val + 0xf0)) ∧
    UInt8.ofNat (x.val + 0xf0) &&& 0xe0 ≠ 0xc0 ∧ UInt8.ofNat (x.val + 0xf0) &&& 0xf0 ≠ 0xe0 ∧
    UInt8.ofNat (x.val + 0xf0) &&& 0xf8 = 0xf0 ∧
    (UInt8.ofNat (x.val + 0xf0) &&& 0x07).toNat = x.val := by
  decide

theorem continuation_spec : ∀ x : Fin 64, isContinuation (UInt8.ofNat (x.val + 0x80)) = true ∧
    (UInt8.ofNat (x.val + 0x80) &&& 0x3f).toNat = x.val := by
  decide

theorem shiftIn_continuation (utf32 n : Nat) :
    isContinuation (UInt8.ofNat (n % 64 + 0x80)) = true ∧
      shiftIn utf32 (UInt8.ofNat (n % 64 + 0x80)) = utf32 * 64 + n % 64 := by
  have below : n % 64 < 64 := Nat.mod_lt _ (by decide)
  obtain ⟨continues, bits⟩ := continuation_spec ⟨n % 64, below⟩
  refine ⟨continues, ?_⟩
  rw [shiftIn, bits, ← Nat.shiftLeft_add_eq_or_of_lt below, Nat.shiftLeft_eq]

theorem escapeBytes_wide {n : Nat} (wide : 0x80 ≤ n) (bound : n < 0x110000) :
    escapeBytes ((if n ≤ 0x7ff then
        [UInt8.ofNat (n / 64 % 32 + 0xc0), UInt8.ofNat (n % 64 + 0x80)]
      else if n ≤ 0xffff then
        [UInt8.ofNat (n / 4096 % 16 + 0xe0), UInt8.ofNat (n / 64 % 64 + 0x80),
          UInt8.ofNat (n % 64 + 0x80)]
      else
        [UInt8.ofNat (n / 262144 % 8 + 0xf0), UInt8.ofNat (n / 4096 % 64 + 0x80),
          UInt8.ofNat (n / 64 % 64 + 0x80), UInt8.ofNat (n % 64 + 0x80)]) ++ rest) =
      escapeUtf32 n (escapeBytes rest) := by
  split_ifs with two three
  · obtain ⟨⟨h₁, h₂, h₃⟩, lead, bits⟩ := lead₂_spec ⟨n / 64 % 32, Nat.mod_lt _ (by decide)⟩
    obtain ⟨continues, shifted⟩ := shiftIn_continuation (n / 64 % 32) n
    have whole : n / 64 % 32 * 64 + n % 64 = n := by omega
    rw [List.cons_append, escapeBytes.eq_def]
    dsimp only [List.cons_append, List.nil_append]
    rw [if_neg h₁, if_neg h₂, if_neg h₃, if_pos lead, if_pos continues, bits, shifted, whole]
  · obtain ⟨⟨h₁, h₂, h₃⟩, other, lead, bits⟩ := lead₃_spec ⟨n / 4096 % 16, Nat.mod_lt _ (by decide)⟩
    obtain ⟨continues₁, shifted₁⟩ := shiftIn_continuation (n / 4096 % 16) (n / 64)
    obtain ⟨continues₂, shifted₂⟩ := shiftIn_continuation (n / 4096 % 16 * 64 + n / 64 % 64) n
    have whole : (n / 4096 % 16 * 64 + n / 64 % 64) * 64 + n % 64 = n := by omega
    rw [List.cons_append, escapeBytes.eq_def]
    dsimp only [List.cons_append, List.nil_append]
    rw [if_neg h₁, if_neg h₂, if_neg h₃, if_neg other, if_pos lead, continues₁, continues₂,
      Bool.and_self, if_pos rfl, bits, shifted₁, shifted₂, whole]
  · obtain ⟨⟨h₁, h₂, h₃⟩, other, other', lead, bits⟩ :=
      lead₄_spec ⟨n / 262144 % 8, Nat.mod_lt _ (by decide)⟩
    obtain ⟨continues₁, shifted₁⟩ := shiftIn_continuation (n / 262144 % 8) (n / 4096)
    obtain ⟨continues₂, shifted₂⟩ :=
      shiftIn_continuation (n / 262144 % 8 * 64 + n / 4096 % 64) (n / 64)
    obtain ⟨continues₃, shifted₃⟩ :=
      shiftIn_continuation ((n / 262144 % 8 * 64 + n / 4096 % 64) * 64 + n / 64 % 64) n
    have whole : ((n / 262144 % 8 * 64 + n / 4096 % 64) * 64 + n / 64 % 64) * 64 + n % 64 = n := by
      omega
    rw [List.cons_append, escapeBytes.eq_def]
    dsimp only [List.cons_append, List.nil_append]
    rw [if_neg h₁, if_neg h₂, if_neg h₃, if_neg other, if_neg other', if_pos lead, continues₁,
      continues₂, continues₃, Bool.and_self, Bool.and_self, if_pos rfl, bits, shifted₁, shifted₂,
      shifted₃, whole]

theorem chars_escapeChar (char : Char) (noNul : char.val.toNat ≠ 0)
    (chars : Chars (escapeBytes rest) text) :
    Chars (escapeBytes (String.utf8EncodeChar char ++ rest))
      (String.utf8EncodeChar char ++ text) := by
  have bound : char.val.toNat < 0x110000 ∧
      ¬ (0xd800 ≤ char.val.toNat ∧ char.val.toNat ≤ 0xdfff) := by
    rcases char.valid with small | ⟨large, bound⟩
    · omega
    · exact ⟨bound, by omega⟩
  by_cases ascii : char.val.toNat ≤ 0x7f
  · have same : String.utf8EncodeChar char = [UInt8.ofNat char.val.toNat] := if_pos ascii
    have value : (UInt8.ofNat char.val.toNat).toNat = char.val.toNat := by
      rw [UInt8.toNat_ofNat']
      omega
    rw [same]
    apply chars_ascii _ _ chars
    · intro zero
      rw [zero] at value
      exact noNul value.symm
    · rw [UInt8.lt_iff_toNat_lt, value]
      exact Nat.lt_of_le_of_lt ascii (by decide)
  · have wide := @escapeBytes_wide rest char.val.toNat (by omega) bound.1
    have encoded : String.utf8EncodeChar char = _ := if_neg ascii
    have escaped := chars_escapeUtf32 bound.1 bound.2 chars
    rw [utf8OfUtf32_eq] at escaped
    rw [← wide, ← encoded] at escaped
    exact escaped

theorem chars_escapeBytes (valid : ValidUtf8 text) (noNul : 0 ∉ text) :
    Chars (escapeBytes text) text := by
  obtain ⟨chars, rfl⟩ := valid
  induction chars with
  | nil => exact .nil
  | cons char chars ih =>
    apply chars_escapeChar char
    · intro zero
      apply noNul
      apply List.mem_append_left
      have same : String.utf8EncodeChar char = [UInt8.ofNat char.val.toNat] :=
        if_pos (by rw [zero]; decide)
      rw [same, zero]
      exact List.mem_singleton_self _
    · exact ih fun listed => noNul (List.mem_append_right _ listed)

end Escapes

end GrpcCore.Json
