import GrpcCore.Json.Reader

/-!
# Strings of JSON texts

How the reader reads what stands between the quotes of a string.
-/

namespace GrpcCore.Json

section Feed

def feed : Nat → Bytes → JsonReader → Except JsonReader JsonReader
  | _, [], reader => .ok reader
  | index, c :: input, reader =>
    if c = 0 then .error reader
    else
      match step index c reader with
      | .error reader => .error reader
      | .ok reader => feed (index + 1) input reader

variable {index : Nat} {reader reader' : JsonReader} {input input' : Bytes} {c : UInt8}

theorem feed_cons (nonzero : c ≠ 0) (taken : step index c reader = .ok reader') :
    feed index (c :: input) reader = feed (index + 1) input reader' := by
  rw [feed, if_neg nonzero, taken]

theorem feed_append (fed : feed index input reader = .ok reader') :
    feed index (input ++ input') reader = feed (index + input.length) input' reader' := by
  induction input generalizing index reader with
  | nil =>
    cases fed
    rfl
  | cons c input ih =>
    rw [feed] at fed
    split_ifs at fed with zero
    cases taken : step index c reader with
    | error =>
      rw [taken] at fed
      cases fed
    | ok =>
      rw [taken] at fed
      rw [List.cons_append, feed_cons zero taken, ih fed, List.length_cons,
        Nat.add_comm input.length 1, Nat.add_assoc]

theorem run_of_feed (fed : feed index input reader = .ok reader') :
    run index (input ++ input') reader = run (index + input.length) input' reader' := by
  induction input generalizing index reader with
  | nil =>
    cases fed
    rfl
  | cons c input ih =>
    rw [feed] at fed
    split_ifs at fed with zero
    cases taken : step index c reader with
    | error =>
      rw [taken] at fed
      cases fed
    | ok =>
      rw [taken] at fed
      rw [List.cons_append, run, if_neg zero, taken, List.length_cons,
        Nat.add_comm input.length 1, ← Nat.add_assoc]
      exact ih fed

end Feed

section Chars

def escapeOf (c : UInt8) : Option UInt8 :=
  if c = 34 ∨ c = 47 ∨ c = 92 then some c
  else if c = 98 then some 8
  else if c = 102 then some 12
  else if c = 110 then some 10
  else if c = 114 then some 13
  else if c = 116 then some 9
  else none

def hexQuad (digits : Bytes) : Option Nat :=
  match digits with
  | [first, second, third, fourth] => do
    let first ← hexValue first
    let second ← hexValue second
    let third ← hexValue third
    let fourth ← hexValue fourth
    return ((first * 16 + second) * 16 + third) * 16 + fourth
  | _ => none

def isHighSurrogate (code : Nat) : Bool := code &&& 0xfc00 = 0xd800

def isLowSurrogate (code : Nat) : Bool := code &&& 0xfc00 = 0xdc00

def pairCode (high low : Nat) : Nat := 0x10000 + (high - 0xd800) * 0x400 + (low - 0xdc00)

inductive Chars : Bytes → Bytes → Prop where
  | nil : Chars [] []
  | plain {c : UInt8} {raw text : Bytes} (noControl : 32 ≤ c) (noQuote : c ≠ 34)
      (noBackslash : c ≠ 92) (rest : Chars raw text) : Chars (c :: raw) (c :: text)
  | escape {c value : UInt8} {raw text : Bytes} (escaped : escapeOf c = some value)
      (rest : Chars raw text) : Chars (92 :: c :: raw) (value :: text)
  | unicode {digits raw text : Bytes} {code : Nat} (spelled : hexQuad digits = some code)
      (noHigh : isHighSurrogate code = false) (noLow : isLowSurrogate code = false)
      (rest : Chars raw text) :
      Chars (92 :: 117 :: digits ++ raw) (utf8OfUtf32 code ++ text)
  | pair {digits digits' raw text : Bytes} {high low : Nat} (spelled : hexQuad digits = some high)
      (isHigh : isHighSurrogate high = true) (spelled' : hexQuad digits' = some low)
      (isLow : isLowSurrogate low = true) (rest : Chars raw text) :
      Chars (92 :: 117 :: digits ++ 92 :: 117 :: digits' ++ raw)
        (utf8OfUtf32 (pairCode high low) ++ text)

end Chars

section Steps

variable {index : Nat} {c : UInt8}

theorem step_whitespace (space : isWhitespace c = true) (reader : JsonReader) :
    step index c reader = readWhitespace index c reader := if_pos space

theorem step_separator (separator : c = 44 ∨ c = 125 ∨ c = 93) (reader : JsonReader) :
    step index c reader = readSeparator index c reader := by
  have noSpace : ¬ isWhitespace c = true := by
    rcases separator with rfl | rfl | rfl
    all_goals decide
  rw [step, if_neg noSpace, if_pos separator]

theorem step_backslash (reader : JsonReader) : step index 92 reader = readBackslash reader := by
  rw [step, if_neg (by decide), if_neg (by decide), if_pos rfl]

theorem step_other (noSpace : isWhitespace c = false) (noSeparator : ¬ (c = 44 ∨ c = 125 ∨ c = 93))
    (noBackslash : c ≠ 92) (reader : JsonReader) :
    step index c reader = readOther index c reader := by
  rw [step, if_neg (Bool.eq_false_iff.mp noSpace), if_neg noSeparator, if_neg noBackslash]

end Steps

section Reading

def State.inString : State → Bool
  | .objectKeyString | .valueString => true
  | _ => false

theorem inString_cases {state : State} (inside : state.inString = true) :
    state = .objectKeyString ∨ state = .valueString := by
  cases state with
  | objectKeyString => exact .inl rfl
  | valueString => exact .inr rfl
  | _ => cases inside

variable {index : Nat} {reader reader' : JsonReader} {c : UInt8}

section

variable (inside : reader.state.inString = true) (complete : reader.unicodeHighSurrogate = 0)
include inside complete

theorem readWhitespace_inString :
    readWhitespace index 32 reader = .ok (stringAddChar 32 reader) := by
  rcases inString_cases inside with state | state
  all_goals rw [readWhitespace, state]
  all_goals exact (if_neg (fun other => other rfl)).trans (if_neg (not_not.mpr complete))

theorem readSeparator_inString : readSeparator index c reader = .ok (stringAddChar c reader) := by
  rcases inString_cases inside with state | state
  all_goals rw [readSeparator, state]
  all_goals exact if_neg (not_not.mpr complete)

end

theorem readString_plain (closed : JsonReader → JsonReader)
    (complete : reader.unicodeHighSurrogate = 0) (noControl : 32 ≤ c) (noQuote : c ≠ 34) :
    readString c closed reader = .ok (stringAddChar c reader) := by
  rw [readString, if_neg (not_not.mpr complete), if_neg noQuote,
    if_neg (UInt8.not_lt.mpr noControl)]

section

variable (inside : reader.state.inString = true)
include inside

theorem step_plain (complete : reader.unicodeHighSurrogate = 0)
    (opened : reader.containerJustBegun = false) (noControl : 32 ≤ c) (noQuote : c ≠ 34)
    (noBackslash : c ≠ 92) : step index c reader = .ok (stringAddChar c reader) := by
  have same : { reader with containerJustBegun := false } = reader := by
    cases reader
    cases opened
    rfl
  by_cases space : isWhitespace c = true
  · have small : c = 32 := by
      unfold isWhitespace at space
      simp only [Bool.or_eq_true, decide_eq_true_eq] at space
      rcases space with ((rfl | rfl) | rfl) | rfl
      · rfl
      all_goals exact absurd noControl (by decide)
    subst small
    rw [step_whitespace space, readWhitespace_inString inside complete]
  · by_cases separator : c = 44 ∨ c = 125 ∨ c = 93
    · rw [step_separator separator, readSeparator_inString inside complete]
    · rw [step_other (Bool.eq_false_iff.mpr space) separator noBackslash, readOther, same]
      rcases inString_cases inside with state | state
      all_goals
        rw [state]
        exact readString_plain _ complete noControl noQuote

theorem escapedState_eq (state : State) :
    escapedState { reader with escapedStringWasKey := reader.state == .objectKeyString, state } =
      reader.state := by
  rcases inString_cases inside with found | found
  all_goals rw [found]; rfl

theorem step_backslash_inString : step index 92 reader =
      .ok { reader with
        escapedStringWasKey := reader.state == .objectKeyString, state := .stringEscape } := by
  rw [step_backslash, readBackslash]
  rcases inString_cases inside with state | state
  all_goals rw [state]; rfl

end

theorem escapeOf_cases {value : UInt8} (escaped : escapeOf c = some value) :
    c = 92 ∧ value = 92 ∨ c = 34 ∧ value = 34 ∨ c = 47 ∧ value = 47 ∨ c = 98 ∧ value = 8 ∨
      c = 102 ∧ value = 12 ∨ c = 110 ∧ value = 10 ∨ c = 114 ∧ value = 13 ∨ c = 116 ∧ value = 9 := by
  unfold escapeOf at escaped
  split_ifs at escaped
  all_goals grind

theorem step_escape {value : UInt8} (inside : reader.state.inString = true)
    (complete : reader.unicodeHighSurrogate = 0) (opened : reader.containerJustBegun = false)
    (escaped : escapeOf c = some value) :
    step index c { reader with
      escapedStringWasKey := reader.state == .objectKeyString, state := .stringEscape } =
      .ok { stringAddChar value reader with
        escapedStringWasKey := reader.state == .objectKeyString } := by
  obtain ⟨state, _, begun, _, high, _⟩ := reader
  subst complete opened
  rcases inString_cases inside with rfl | rfl
  all_goals
    rcases escapeOf_cases escaped with ⟨rfl, rfl⟩ | ⟨rfl, rfl⟩ | ⟨rfl, rfl⟩ | ⟨rfl, rfl⟩ |
      ⟨rfl, rfl⟩ | ⟨rfl, rfl⟩ | ⟨rfl, rfl⟩ | ⟨rfl, rfl⟩
  all_goals rfl

theorem hexValue_lt {value : Nat} (digit : hexValue c = some value) : value < 16 := by
  unfold hexValue at digit
  simp only [UInt8.le_iff_toNat_le, UInt8.reduceToNat] at digit
  split_ifs at digit
  all_goals cases digit
  all_goals omega

theorem hexValue_other {value : Nat} (digit : hexValue c = some value) :
    isWhitespace c = false ∧ ¬ (c = 44 ∨ c = 125 ∨ c = 93) ∧ c ≠ 92 ∧ c ≠ 0 := by
  unfold hexValue at digit
  unfold isWhitespace
  split_ifs at digit
  all_goals grind

theorem shiftIn_hex {char value : Nat} (small : char < 2 ^ 12) (digit : value < 16) :
    ((char <<< 4) % 2 ^ 16) ||| value = char * 16 + value := by
  have fits : char <<< 4 < 2 ^ 16 := by
    omega
  rw [Nat.mod_eq_of_lt fits, ← Nat.shiftLeft_add_eq_or_of_lt (by omega), Nat.shiftLeft_eq]

theorem step_hex (reader : JsonReader) {value : Nat} (digit : hexValue c = some value)
    (state : State) (char : Nat) (small : char < 2 ^ 12)
    (inside : state = .stringEscapeU1 ∨ state = .stringEscapeU2 ∨ state = .stringEscapeU3 ∨
      state = .stringEscapeU4) :
    step index c { reader with state := state, unicodeChar := char } =
      match state with
      | .stringEscapeU1 => .ok { reader with
          containerJustBegun := false, state := .stringEscapeU2, unicodeChar := char * 16 + value }
      | .stringEscapeU2 => .ok { reader with
          containerJustBegun := false, state := .stringEscapeU3, unicodeChar := char * 16 + value }
      | .stringEscapeU3 => .ok { reader with
          containerJustBegun := false, state := .stringEscapeU4, unicodeChar := char * 16 + value }
      | _ => endEscape { reader with
          containerJustBegun := false, state := state, unicodeChar := char * 16 + value } := by
  obtain ⟨noSpace, noSeparator, noBackslash, -⟩ := hexValue_other digit
  rw [step_other noSpace noSeparator noBackslash, ← shiftIn_hex small (hexValue_lt digit)]
  rcases inside with rfl | rfl | rfl | rfl
  all_goals
    rw [readOther]
    rw [readHex, digit]

theorem feed_hexQuad {digits : Bytes} {code : Nat} (spelled : hexQuad digits = some code) :
    feed index digits { reader with state := .stringEscapeU1, unicodeChar := 0 } =
      endEscape { reader with
        containerJustBegun := false, state := .stringEscapeU4, unicodeChar := code } := by
  unfold hexQuad at spelled
  split at spelled
  · obtain ⟨v₁, digit₁, spelled⟩ := Option.bind_eq_some_iff.mp spelled
    obtain ⟨v₂, digit₂, spelled⟩ := Option.bind_eq_some_iff.mp spelled
    obtain ⟨v₃, digit₃, spelled⟩ := Option.bind_eq_some_iff.mp spelled
    obtain ⟨v₄, digit₄, spelled⟩ := Option.bind_eq_some_iff.mp spelled
    cases spelled
    have small₁ := hexValue_lt digit₁
    have small₂ := hexValue_lt digit₂
    have small₃ := hexValue_lt digit₃
    have fourth : 0 * 16 + v₁ < 2 ^ 12 ∧ (0 * 16 + v₁) * 16 + v₂ < 2 ^ 12 ∧
        ((0 * 16 + v₁) * 16 + v₂) * 16 + v₃ < 2 ^ 12 := by omega
    rw [feed_cons (hexValue_other digit₁).2.2.2 (step_hex reader digit₁ _ 0 (by decide) (.inl rfl)),
      feed_cons (hexValue_other digit₂).2.2.2
        (step_hex { reader with containerJustBegun := false } digit₂ _ _ fourth.1
          (.inr (.inl rfl))),
      feed_cons (hexValue_other digit₃).2.2.2
        (step_hex { reader with containerJustBegun := false } digit₃ _ _ fourth.2.1
          (.inr (.inr (.inl rfl)))),
      feed, if_neg (hexValue_other digit₄).2.2.2,
      step_hex { reader with containerJustBegun := false } digit₄ _ _ fourth.2.2
        (.inr (.inr (.inr rfl)))]
    rw [Nat.zero_mul, Nat.zero_add]
    generalize endEscape _ = ended
    cases ended with
    | error => rfl
    | ok => rfl
  · cases spelled

theorem step_u :
    step index 117 { reader with
      escapedStringWasKey := reader.state == .objectKeyString, state := .stringEscape } =
      .ok { reader with
        escapedStringWasKey := reader.state == .objectKeyString, containerJustBegun := false,
        state := .stringEscapeU1, unicodeChar := 0 } := by
  rw [step_other (by decide) (by decide) (by decide), readOther]
  exact if_neg fun other => other.2 rfl

/-- The reader at the end of a code unit that is written in digits. -/
abbrev codeRead (code : Nat) (reader : JsonReader) : JsonReader :=
  { reader with
    escapedStringWasKey := reader.state == .objectKeyString
    containerJustBegun := false
    unicodeChar := code }

section

variable (inside : reader.state.inString = true)
include inside

theorem feed_unicode {digits : Bytes} {code : Nat} (spelled : hexQuad digits = some code) :
    feed index (92 :: 117 :: digits) reader =
      endEscape { codeRead code reader with state := .stringEscapeU4 } := by
  rw [feed_cons (by decide) (step_backslash_inString inside), feed_cons (by decide) step_u]
  exact @feed_hexQuad _ { reader with
    escapedStringWasKey := reader.state == .objectKeyString, containerJustBegun := false }
    digits code spelled

theorem endEscape_plain (complete : reader.unicodeHighSurrogate = 0) {code : Nat}
    (noHigh : isHighSurrogate code = false) (noLow : isLowSurrogate code = false) :
    endEscape { codeRead code reader with state := .stringEscapeU4 } =
      .ok { codeRead code reader with string := reader.string ++ utf8OfUtf32 code } := by
  rw [endEscape, if_neg (of_decide_eq_false noHigh), if_neg (of_decide_eq_false noLow),
    if_neg (not_not.mpr complete)]
  exact congrArg (fun state => Except.ok { codeRead code reader with
    state, string := reader.string ++ utf8OfUtf32 code }) (escapedState_eq inside .stringEscapeU4)

theorem endEscape_high (complete : reader.unicodeHighSurrogate = 0) {code : Nat}
    (isHigh : isHighSurrogate code = true) :
    endEscape { codeRead code reader with state := .stringEscapeU4 } =
      .ok { codeRead code reader with unicodeHighSurrogate := code } := by
  rw [endEscape, if_pos (of_decide_eq_true isHigh), if_neg (not_not.mpr complete)]
  exact congrArg (fun state => Except.ok { codeRead code reader with
    state, unicodeHighSurrogate := code }) (escapedState_eq inside .stringEscapeU4)

theorem endEscape_low (pending : reader.unicodeHighSurrogate ≠ 0) {code : Nat}
    (isLow : isLowSurrogate code = true) :
    endEscape { codeRead code reader with state := .stringEscapeU4 } =
      .ok { codeRead code reader with
        unicodeHighSurrogate := 0
        string := reader.string ++ utf8OfUtf32 (pairCode reader.unicodeHighSurrogate code) } := by
  have low := of_decide_eq_true isLow
  rw [endEscape, if_neg (by rw [low]; decide), if_pos low, if_neg pending]
  exact congrArg (fun state => Except.ok { codeRead code reader with
    state, unicodeHighSurrogate := 0
    string := reader.string ++ utf8OfUtf32 (pairCode reader.unicodeHighSurrogate code) })
    (escapedState_eq inside .stringEscapeU4)

end

theorem feed_chars {raw text : Bytes} (chars : Chars raw text)
    (inside : reader.state.inString = true) (complete : reader.unicodeHighSurrogate = 0)
    (opened : reader.containerJustBegun = false) :
    ∃ flag char, feed index raw reader =
      .ok { reader with
        string := reader.string ++ text, escapedStringWasKey := flag, unicodeChar := char } := by
  induction chars generalizing index reader with
  | nil => exact ⟨_, _, by rw [List.append_nil]; rfl⟩
  | @plain c raw text noControl noQuote noBackslash rest ih =>
    have nonzero : c ≠ 0 := by
      rintro rfl
      exact absurd noControl (by decide)
    obtain ⟨flag, char, fed⟩ :=
      @ih (index + 1) (stringAddChar c reader) inside complete opened
    refine ⟨flag, char, ?_⟩
    rw [feed_cons nonzero (step_plain inside complete opened noControl noQuote noBackslash), fed]
    simp [stringAddChar]
  | @escape c value raw text escaped rest ih =>
    have nonzero : c ≠ 0 := by
      rintro rfl
      cases escaped
    obtain ⟨flag, char, fed⟩ := @ih (index + 1 + 1)
      { stringAddChar value reader with
        escapedStringWasKey := reader.state == .objectKeyString } inside complete opened
    refine ⟨flag, char, ?_⟩
    rw [feed_cons (by decide) (step_backslash_inString inside),
      feed_cons nonzero (step_escape inside complete opened escaped), fed]
    simp [stringAddChar]
  | @unicode digits raw text code spelled noHigh noLow rest ih =>
    have fed := (@feed_unicode index _ inside _ _ spelled).trans
      (endEscape_plain inside complete noHigh noLow)
    obtain ⟨flag, char, fed'⟩ := @ih (index + (92 :: 117 :: digits).length)
      { codeRead code reader with string := reader.string ++ utf8OfUtf32 code } inside complete rfl
    refine ⟨flag, char, ?_⟩
    rw [feed_append fed, fed']
    dsimp only [codeRead]
    rw [← opened, List.append_assoc]
  | @pair digits digits' raw text high low spelled isHigh spelled' isLow rest ih =>
    have pending : high ≠ 0 := by
      rintro rfl
      cases isHigh
    have fed := (@feed_unicode index _ inside _ _ spelled).trans
      (endEscape_high inside complete isHigh)
    let between : JsonReader := { codeRead high reader with unicodeHighSurrogate := high }
    have fed' := (@feed_unicode (index + (92 :: 117 :: digits).length) between inside _ _
      spelled').trans (@endEscape_low between inside pending _ isLow)
    have both := (feed_append fed).trans fed'
    obtain ⟨flag, char, fed''⟩ := @ih
      (index + (92 :: 117 :: digits ++ 92 :: 117 :: digits').length)
      { codeRead low reader with
        unicodeHighSurrogate := 0
        string := reader.string ++ utf8OfUtf32 (pairCode high low) } inside rfl rfl
    refine ⟨flag, char, ?_⟩
    rw [feed_append both, fed'']
    dsimp only [codeRead]
    rw [← opened, ← complete, List.append_assoc]

end Reading

end GrpcCore.Json
