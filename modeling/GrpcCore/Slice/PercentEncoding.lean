import GrpcCore.Lib.PercentEscapes

/-!
# Percent encoding

`percent_encoding.cc`: every pass reads the slice from its start, the first one for the length of
the output and the second one to write it.
-/

namespace GrpcCore.Slice.Percent

open Hex (digit high low join)
open PercentEscapes (percent Spells)

inductive PercentEncodingType where
  | url
  | compatible
deriving DecidableEq

def urlTable (byte : UInt8) : Bool :=
  ('a'.toUInt8 ≤ byte && byte ≤ 'z'.toUInt8) || ('A'.toUInt8 ≤ byte && byte ≤ 'Z'.toUInt8) ||
    ('0'.toUInt8 ≤ byte && byte ≤ '9'.toUInt8) || byte == '-'.toUInt8 || byte == '_'.toUInt8 ||
    byte == '.'.toUInt8 || byte == '~'.toUInt8

def compatibleTable (byte : UInt8) : Bool := 32 ≤ byte && byte ≤ 126 && byte != percent

def lookupTableForPercentEncodingType : PercentEncodingType → UInt8 → Bool
  | .url => urlTable
  | .compatible => compatibleTable

/-- The bytes needed for the output, and whether there is a reserved byte. -/
def measureEncoded (lut : UInt8 → Bool) : List UInt8 → Nat × Bool
  | [] => (0, false)
  | p :: rest =>
    let (outputLength, anyReservedBytes) := measureEncoded lut rest
    (outputLength + (if lut p then 1 else 3), anyReservedBytes || !lut p)

def writeEncoded (lut : UInt8 → Bool) : List UInt8 → List UInt8
  | [] => []
  | p :: rest =>
    if lut p then p :: writeEncoded lut rest
    else percent :: digit (high p) :: digit (low p) :: writeEncoded lut rest

abbrev validHex : UInt8 → Bool := Hex.isDigit

abbrev dehex : UInt8 → Option UInt8 := Hex.value

/-- The assertion that a second pass fills the slice; `none` when it fails. -/
def filled (outLength : Nat) (out : List UInt8) : Option (List UInt8) :=
  if out.length = outLength then some out else none

/-- `none` is a failed assertion. -/
def percentEncodeSlice (slice : List UInt8) (type : PercentEncodingType) : Option (List UInt8) :=
  let lut := lookupTableForPercentEncodingType type
  let (outputLength, anyReservedBytes) := measureEncoded lut slice
  if anyReservedBytes then filled outputLength (writeEncoded lut slice) else some slice

/-- The length of the decoded slice and whether there is an escape. `none` is a refused slice. -/
def measureStrict (lut : UInt8 → Bool) : List UInt8 → Option (Nat × Bool)
  | [] => some (0, false)
  | p :: rest =>
    if p = percent then
      match rest with
      | first :: second :: rest =>
        if validHex first && validHex second then
          (measureStrict lut rest).map fun measured => (measured.1 + 1, true)
        else none
      | _ => none
    else if lut p then (measureStrict lut rest).map fun measured => (measured.1 + 1, measured.2)
    else none

/-- `none` is a byte read behind the slice, or one that `dehex` does not know. -/
def writeStrict : List UInt8 → Option (List UInt8)
  | [] => some []
  | p :: rest =>
    if p = percent then
      match rest with
      | first :: second :: rest => do
        let high ← dehex first
        let low ← dehex second
        (writeStrict rest).map (join high low :: ·)
      | _ => none
    else (writeStrict rest).map (p :: ·)

/-- `none` is a failed assertion, and `some none` a refused slice. -/
def percentDecodeSlice (sliceIn : List UInt8) (type : PercentEncodingType) :
    Option (Option (List UInt8)) :=
  match measureStrict (lookupTableForPercentEncodingType type) sliceIn with
  | none => some none
  | some (outLength, anyPercentEncodedStuff) =>
    (if anyPercentEncodedStuff then (writeStrict sliceIn).bind (filled outLength)
    else some sliceIn).map some

/-- The length of the decoded slice and whether there is an escape. -/
def measurePermissive : List UInt8 → Nat × Bool
  | [] => (0, false)
  | p :: rest =>
    if p = percent then
      match rest with
      | first :: second :: rest =>
        if validHex first && validHex second then ((measurePermissive rest).1 + 1, true)
        else
          let measured := measurePermissive (first :: second :: rest)
          (measured.1 + 1, measured.2)
      | rest => ((measurePermissive rest).1 + 1, (measurePermissive rest).2)
    else ((measurePermissive rest).1 + 1, (measurePermissive rest).2)

/-- `none` is a byte that `dehex` does not know. -/
def writePermissive : List UInt8 → Option (List UInt8)
  | [] => some []
  | p :: rest =>
    if p = percent then
      match rest with
      | first :: second :: rest =>
        if validHex first && validHex second then do
          let high ← dehex first
          let low ← dehex second
          (writePermissive rest).map (join high low :: ·)
        else (writePermissive (first :: second :: rest)).map (p :: ·)
      | rest => (writePermissive rest).map (p :: ·)
    else (writePermissive rest).map (p :: ·)

/-- `none` is a failed assertion. -/
def permissivePercentDecodeSlice (sliceIn : List UInt8) : Option (List UInt8) :=
  let (outLength, anyPercentEncodedStuff) := measurePermissive sliceIn
  if anyPercentEncodedStuff then (writePermissive sliceIn).bind (filled outLength)
  else some sliceIn

variable {byte : UInt8}

section Encoding

variable (lut : UInt8 → Bool)

variable (slice : List UInt8)

theorem measureEncoded_eq : (measureEncoded lut slice).1 = (writeEncoded lut slice).length := by
  induction slice with
  | nil => rfl
  | cons p rest ih =>
    unfold measureEncoded writeEncoded
    cases unreserved : lut p with
    | false => simp [ih]
    | true => simp [ih]

theorem writeEncoded_of_unreserved {slice : List UInt8}
    (unreserved : (measureEncoded lut slice).2 = false) : writeEncoded lut slice = slice := by
  induction slice with
  | nil => rfl
  | cons p rest ih =>
    obtain ⟨none, plain⟩ := Bool.or_eq_false_iff.mp unreserved
    rw [writeEncoded, if_pos (by simpa using plain), ih none]

theorem percentEncodeSlice_eq (type : PercentEncodingType) :
    percentEncodeSlice slice type =
      some (writeEncoded (lookupTableForPercentEncodingType type) slice) := by
  unfold percentEncodeSlice
  dsimp only
  cases reserved : (measureEncoded (lookupTableForPercentEncodingType type) slice).2 with
  | false => rw [if_neg (by decide), writeEncoded_of_unreserved _ reserved]
  | true => rw [if_pos rfl, filled, if_pos (measureEncoded_eq _ slice).symm]

theorem writeEncoded_spells (escapes : lut percent = false) (slice : List UInt8) :
    Spells (lut · = true) (writeEncoded lut slice) slice := by
  induction slice with
  | nil => exact .nil
  | cons p rest ih =>
    unfold writeEncoded
    cases unreserved : lut p with
    | false =>
      exact ih.escape p
    | true =>
      refine .plain ?_ unreserved ih
      rintro rfl
      exact absurd (unreserved.symm.trans escapes) (by decide)

theorem mem_writeEncoded (digits : ∀ half < 16, lut (digit half) = true) {slice : List UInt8}
    (listed : byte ∈ writeEncoded lut slice) : byte = percent ∨ lut byte = true := by
  induction slice with
  | nil => exact absurd listed List.not_mem_nil
  | cons p rest ih =>
    unfold writeEncoded at listed
    split_ifs at listed with unreserved
    · rcases List.mem_cons.mp listed with rfl | later
      · exact .inr unreserved
      · exact ih later
    · simp only [List.mem_cons] at listed
      rcases listed with rfl | rfl | rfl | later
      · exact .inl rfl
      · exact .inr (digits _ (Hex.high_lt p))
      · exact .inr (digits _ (Hex.low_lt p))
      · exact ih later

variable (type : PercentEncodingType)

theorem lookupTable_percent : lookupTableForPercentEncodingType type percent = false := by
  cases type <;> decide

theorem lookupTable_digit {half : UInt8} (small : half < 16) :
    lookupTableForPercentEncodingType type (digit half) = true := by
  have bounds : (48 ≤ digit half ∧ digit half ≤ 57) ∨ (65 ≤ digit half ∧ digit half ≤ 70) := by
    unfold digit
    grind
  cases type with
  | url =>
    change urlTable (digit half) = true
    simp only [urlTable, Bool.or_eq_true, Bool.and_eq_true, decide_eq_true_eq]
    rcases bounds with ⟨lower, upper⟩ | ⟨lower, upper⟩
    · exact .inl (.inl (.inl (.inl (.inr ⟨lower, upper⟩))))
    · exact .inl (.inl (.inl (.inl (.inl (.inr ⟨lower, UInt8.le_trans upper (by decide)⟩)))))
  | compatible =>
    change compatibleTable (digit half) = true
    have sign : percent = 37 := by decide
    simp only [compatibleTable, Bool.and_eq_true, decide_eq_true_eq, bne_iff_ne, sign]
    grind

end Encoding

section Decoding

variable {lut : UInt8 → Bool} {text bytes : List UInt8}

theorem measureStrict_escape (first second : UInt8) (rest : List UInt8) :
    measureStrict lut (percent :: first :: second :: rest) =
      if validHex first && validHex second then
        (measureStrict lut rest).map fun measured => (measured.1 + 1, true)
      else none :=
  if_pos rfl

variable {p : UInt8}

section

variable (other : p ≠ percent) (rest : List UInt8)
include other rest

theorem measureStrict_plain : measureStrict lut (p :: rest) =
      if lut p then (measureStrict lut rest).map fun measured => (measured.1 + 1, measured.2)
      else none := by
  rcases rest with _ | ⟨first, _ | ⟨second, rest⟩⟩
  all_goals exact if_neg other

theorem writeStrict_plain : writeStrict (p :: rest) = (writeStrict rest).map (p :: ·) := by
  rcases rest with _ | ⟨first, _ | ⟨second, rest⟩⟩
  all_goals exact if_neg other

theorem measurePermissive_plain : measurePermissive (p :: rest) =
      ((measurePermissive rest).1 + 1, (measurePermissive rest).2) := by
  rcases rest with _ | ⟨first, _ | ⟨second, rest⟩⟩
  all_goals exact if_neg other

theorem writePermissive_plain :
    writePermissive (p :: rest) = (writePermissive rest).map (p :: ·) := by
  rcases rest with _ | ⟨first, _ | ⟨second, rest⟩⟩
  all_goals exact if_neg other

end

theorem dehex_of_validHex (valid : validHex byte = true) : ∃ half, dehex byte = some half :=
  Option.isSome_iff_exists.mp ((Hex.isSome_value byte).trans valid)

theorem validHex_of_dehex {half : UInt8} (read : dehex byte = some half) : validHex byte = true :=
  (Hex.isSome_value byte).symm.trans (Option.isSome_of_eq_some read)

theorem validHex_both {first second high low : UInt8} (readHigh : dehex first = some high)
    (readLow : dehex second = some low) : (validHex first && validHex second) = true :=
  Bool.and_eq_true_iff.mpr ⟨validHex_of_dehex readHigh, validHex_of_dehex readLow⟩

variable {measured : Nat × Bool}

theorem spells_of_measureStrict (accepts : measureStrict lut text = some measured) :
    ∃ bytes, Spells (lut · = true) text bytes := by
  induction text using measureStrict.induct lut generalizing measured with
  | case1 => exact ⟨[], .nil⟩
  | case2 first second rest digits ih =>
    obtain ⟨validFirst, validSecond⟩ := Bool.and_eq_true_iff.mp digits
    rw [measureStrict_escape, if_pos digits] at accepts
    obtain ⟨behind, acceptsRest, -⟩ := Option.map_eq_some_iff.mp accepts
    obtain ⟨bytes, spells⟩ := ih acceptsRest
    obtain ⟨high, readHigh⟩ := dehex_of_validHex validFirst
    obtain ⟨low, readLow⟩ := dehex_of_validHex validSecond
    exact ⟨join high low :: bytes, .escaped readHigh readLow spells⟩
  | case3 first second rest digits =>
    rw [measureStrict_escape, if_neg digits] at accepts
    cases accepts
  | case4 rest short =>
    cases rest with
    | nil => cases accepts
    | cons first rest =>
      cases rest with
      | nil => cases accepts
      | cons second rest => exact absurd rfl (short first second rest)
  | case5 p rest other unreserved ih =>
    rw [measureStrict_plain other, if_pos unreserved] at accepts
    obtain ⟨behind, acceptsRest, -⟩ := Option.map_eq_some_iff.mp accepts
    obtain ⟨bytes, spells⟩ := ih acceptsRest
    exact ⟨p :: bytes, .plain other unreserved spells⟩
  | case6 p rest other reserved =>
    rw [measureStrict_plain other, if_neg reserved] at accepts
    cases accepts

/-- What both decoders compute on a spelling: the length of the bytes, whether the text has an
escape, and in the second pass the bytes. -/
structure Reads (text bytes : List UInt8) (measured : Nat × Bool) (written : Option (List UInt8)) :
    Prop where
  length : measured.1 = bytes.length
  unescaped : measured.2 = false → text = bytes
  written : written = some bytes

theorem Reads.nil : Reads [] [] (0, false) (some []) := ⟨rfl, fun _ => rfl, rfl⟩

variable {written : Option (List UInt8)}

theorem Reads.plain {measured : Nat × Bool} (reads : Reads text bytes measured written) (p : UInt8) :
    Reads (p :: text) (p :: bytes) (measured.1 + 1, measured.2) (written.map (p :: ·)) where
  length := congrArg (· + 1) reads.length
  unescaped none := congrArg (p :: ·) (reads.unescaped none)
  written := congrArg (Option.map (p :: ·)) reads.written

theorem Reads.escaped {measured : Nat × Bool} (reads : Reads text bytes measured written)
    (first second byte : UInt8) :
    Reads (percent :: first :: second :: text) (byte :: bytes) (measured.1 + 1, true)
      (written.map (byte :: ·)) where
  length := congrArg (· + 1) reads.length
  unescaped none := Bool.noConfusion none
  written := congrArg (Option.map (byte :: ·)) reads.written

theorem Reads.result (reads : Reads text bytes measured written) :
    (if measured.2 then written.bind (filled measured.1) else some text) = some bytes := by
  cases escaped : measured.2 with
  | false => rw [if_neg (by decide), reads.unescaped escaped]
  | true => rw [if_pos rfl, reads.written, Option.bind_some, filled, if_pos reads.length.symm]

theorem reads_strict (spells : Spells (lut · = true) text bytes) :
    ∃ measured, measureStrict lut text = some measured ∧
      Reads text bytes measured (writeStrict text) := by
  induction spells with
  | nil => exact ⟨(0, false), rfl, .nil⟩
  | @plain p text bytes other unreserved rest ih =>
    obtain ⟨measured, accepts, reads⟩ := ih
    refine ⟨(measured.1 + 1, measured.2), ?_, ?_⟩
    · rw [measureStrict_plain other, if_pos unreserved, accepts]
      rfl
    · rw [writeStrict_plain other]
      exact reads.plain p
  | @escaped first second high low text bytes readHigh readLow rest ih =>
    obtain ⟨measured, accepts, reads⟩ := ih
    refine ⟨(measured.1 + 1, true), ?_, ?_⟩
    · rw [measureStrict_escape, if_pos (validHex_both readHigh readLow), accepts]
      rfl
    · have written : writeStrict (percent :: first :: second :: text) =
          (writeStrict text).map (join high low :: ·) := by
        rw [writeStrict, if_pos rfl, dehex, readHigh, Option.bind_eq_bind, Option.bind_some,
          readLow]
        rfl
      rw [written]
      exact reads.escaped first second (join high low)

theorem reads_permissive (spells : Spells (lut · = true) text bytes) :
    Reads text bytes (measurePermissive text) (writePermissive text) := by
  induction spells with
  | nil => exact .nil
  | @plain p text bytes other unreserved rest ih =>
    rw [measurePermissive_plain other, writePermissive_plain other]
    exact ih.plain p
  | @escaped first second high low text bytes readHigh readLow rest ih =>
    have digits := validHex_both readHigh readLow
    have written : writePermissive (percent :: first :: second :: text) =
        (writePermissive text).map (join high low :: ·) := by
      rw [writePermissive, if_pos rfl, if_pos digits, dehex, readHigh, Option.bind_eq_bind,
        Option.bind_some, readLow]
      rfl
    rw [measurePermissive, if_pos rfl, if_pos digits, written]
    exact ih.escaped first second (join high low)

variable {type : PercentEncodingType}

theorem percentDecodeSlice_of_spells
    (spells : Spells (lookupTableForPercentEncodingType type · = true) text bytes) :
    percentDecodeSlice text type = some (some bytes) := by
  obtain ⟨measured, accepts, reads⟩ := reads_strict spells
  unfold percentDecodeSlice
  rw [accepts]
  exact congrArg (Option.map some) reads.result

theorem permissive_of_spells (spells : Spells (lut · = true) text bytes) :
    permissivePercentDecodeSlice text = some bytes :=
  (reads_permissive spells).result

theorem percentDecodeSlice_eq_some_iff :
    percentDecodeSlice text type = some (some bytes) ↔
      Spells (lookupTableForPercentEncodingType type · = true) text bytes := by
  refine ⟨fun decoded => ?_, percentDecodeSlice_of_spells⟩
  cases measure : measureStrict (lookupTableForPercentEncodingType type) text with
  | none =>
    rw [percentDecodeSlice, measure] at decoded
    cases decoded
  | some measured =>
    obtain ⟨bytes', spells⟩ := spells_of_measureStrict measure
    have same := decoded.symm.trans (percentDecodeSlice_of_spells spells)
    cases same
    exact spells

def Agree (written : Option (List UInt8)) (length : Nat) : Prop :=
  ∃ out, written = some out ∧ out.length = length

theorem Agree.cons {length : Nat} (agree : Agree written length) (byte : UInt8) :
    Agree (written.map (byte :: ·)) (length + 1) := by
  obtain ⟨out, rfl, rfl⟩ := agree
  exact ⟨byte :: out, rfl, rfl⟩

theorem permissive_passes_agree (text : List UInt8) :
    Agree (writePermissive text) (measurePermissive text).1 := by
  induction text using measurePermissive.induct with
  | case1 => exact ⟨[], rfl, rfl⟩
  | case2 first second rest digits ih =>
    obtain ⟨validFirst, validSecond⟩ := Bool.and_eq_true_iff.mp digits
    obtain ⟨high, readHigh⟩ := dehex_of_validHex validFirst
    obtain ⟨low, readLow⟩ := dehex_of_validHex validSecond
    rw [writePermissive, if_pos rfl, if_pos digits, measurePermissive, if_pos rfl, if_pos digits,
      readHigh, Option.bind_eq_bind, Option.bind_some, readLow, Option.bind_some]
    exact ih.cons (join high low)
  | case3 first second rest digits ih =>
    rw [writePermissive, if_pos rfl, if_neg digits, measurePermissive, if_pos rfl, if_neg digits]
    exact ih.cons percent
  | case4 rest short ih =>
    rcases rest with _ | ⟨first, _ | ⟨second, rest⟩⟩
    · exact ih.cons percent
    · exact ih.cons percent
    · exact absurd rfl (short first second rest)
  | case5 p rest other ih =>
    rw [writePermissive_plain other, measurePermissive_plain other]
    exact ih.cons p

end Decoding

/-- Encodings decode to what was encoded, consist of percent signs and table bytes, and the
permissive decoder extends the strict one without failing its assertion. -/
theorem percent_encoding_round_trips :
    (∀ (x : List UInt8) (type : PercentEncodingType), ∃ encoded,
      percentEncodeSlice x type = some encoded ∧
        percentDecodeSlice encoded type = some (some x) ∧
        permissivePercentDecodeSlice encoded = some x ∧
        ∀ byte ∈ encoded,
          byte = percent ∨ lookupTableForPercentEncodingType type byte = true) ∧
      (∀ (y : List UInt8) (type : PercentEncodingType) (bytes : List UInt8),
        percentDecodeSlice y type = some (some bytes) →
          permissivePercentDecodeSlice y = some bytes) ∧
      ∀ y : List UInt8,
        (∃ out, writePermissive y = some out ∧ out.length = (measurePermissive y).1) ∧
          (permissivePercentDecodeSlice y).isSome := by
  refine ⟨fun x type => ?_, fun y type bytes decoded => ?_, fun y => ?_⟩
  · have spells := writeEncoded_spells _ (lookupTable_percent type) x
    exact ⟨_, percentEncodeSlice_eq x type, percentDecodeSlice_of_spells spells,
      permissive_of_spells spells, fun byte listed =>
        mem_writeEncoded _ (fun half small => lookupTable_digit type small) listed⟩
  · exact permissive_of_spells (percentDecodeSlice_eq_some_iff.mp decoded)
  · obtain ⟨out, written, length⟩ := permissive_passes_agree y
    refine ⟨⟨out, written, length⟩, ?_⟩
    unfold permissivePercentDecodeSlice
    dsimp only
    split_ifs with escaped
    · rw [written, Option.bind_some, filled, if_pos length]
      rfl
    · rfl

end GrpcCore.Slice.Percent
