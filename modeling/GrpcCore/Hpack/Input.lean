import GrpcCore.Lib.Incremental
import GrpcCore.Hpack.HuffmanTables
import GrpcCore.Hpack.Metadata

/-!
# Integers and strings of the header block format

`HPackParser::Input` and `HPackParser::String`. Every function here is a reader
that is stable: what it decides on a prefix of a block stands whatever follows.
-/

namespace GrpcCore.Hpack

open Incremental

abbrev Input (Value : Type) := Reader UInt8 HPackError Value

namespace Input

open Reader

def varintByte (value shift : Nat) (more : Nat → Input Nat) : Input Nat :=
  next.bind fun cur =>
    let value := (value + ((cur &&& 0x7f).toNat <<< shift)) % 4294967296
    if cur &&& 0x80 = 0 then pure value else more value

/-- Any number of 0x80 bytes may follow the fifth one; the last must be 0. -/
def varintPadding (value : Nat) : Input Nat
  | [] => .eof
  | cur :: rest =>
    if cur = 0x80 then varintPadding value rest
    else if cur = 0 then .done value rest
    else .failed (.integerOverflow value cur)

def varintLastByte (value : Nat) : Input Nat :=
  next.bind fun cur =>
    let c := (cur &&& 0x7f).toNat
    if c > 0xf then fail (.integerOverflow value cur)
    else
      let add := c <<< 28
      if add > 0xffffffff - value then fail (.integerOverflow value cur)
      else if cur &&& 0x80 = 0 then pure (value + add) else varintPadding (value + add)

def parseVarint (value : Nat) : Input Nat :=
  varintByte value 0 fun value => varintByte value 7 fun value =>
    varintByte value 14 fun value => varintByte value 21 varintLastByte

structure StringPrefix where
  length : Nat
  huff : Bool
deriving DecidableEq

def parseStringPrefix : Input StringPrefix :=
  next.bind fun cur =>
    let huff := decide (cur &&& 0x80 ≠ 0)
    let strlen := (cur &&& 0x7f).toNat
    if strlen = 0x7f then (parseVarint 0x7f).bind fun strlen => pure ⟨strlen, huff⟩
    else pure ⟨strlen, huff⟩

/-- The decoder's step on half a byte: what it outputs and the state it enters. -/
def nibble (state value : Nat) : Option UInt8 × Nat :=
  let emit := emitSubTbl.getD (16 * emitTbl.getD state 0 + value) 0
  let next := nextSubTbl.getD (16 * nextTbl.getD state 0 + value) 0
  (if emit < 256 then some emit.toUInt8 else none, next)

/-- The bytes output from a state, high half of each input byte first. -/
def huffOutput : Nat → Bytes → Bytes
  | _, [] => []
  | state, byte :: rest =>
    let high := nibble state (byte >>> 4).toNat
    let low := nibble high.2 (byte &&& 0xf).toNat
    high.1.toList ++ low.1.toList ++ huffOutput low.2 rest

def parseHuff (length : Nat) : Input Bytes :=
  (take length).bind fun bytes => pure (huffOutput 0 bytes)

def parseUncompressed (length : Nat) : Input Bytes := take length

def kBase64Alphabet : Bytes :=
  ascii "ABCDEFGHIJKLMNOPQRSTUVWXYZabcdefghijklmnopqrstuvwxyz0123456789+/="

/-- `kBase64InverseTable`. -/
def base64Inverse (char : UInt8) : Nat :=
  if char ∈ kBase64Alphabet then kBase64Alphabet.idxOf char else 255

/-- Six bits, or nothing for a character outside the alphabet. The padding
character is the alphabet's 65th, so it is refused too. -/
def base64Bits (char : UInt8) : Option Nat :=
  let bits := base64Inverse char
  if bits > 63 then none else some bits

def stripBase64Padding (input : Bytes) : Bytes :=
  (input.reverse.dropWhile (· == 0x3d)).reverse

/-- Four characters at a time, then the last two or three, whose unused bits
must be zero. The six-bit fields do not overlap, so `|` is addition. -/
def unbase64Groups : Bytes → Option Bytes
  | a :: b :: c :: d :: rest => do
    let buffer := (← base64Bits a) * 262144 + (← base64Bits b) * 4096 +
      (← base64Bits c) * 64 + (← base64Bits d)
    let out ← unbase64Groups rest
    return (buffer / 65536).toUInt8 :: (buffer / 256).toUInt8 :: buffer.toUInt8 :: out
  | [a, b, c] => do
    let buffer := (← base64Bits a) * 262144 + (← base64Bits b) * 4096 +
      (← base64Bits c) * 64
    if buffer % 256 ≠ 0 then none
    else return [(buffer / 65536).toUInt8, (buffer / 256).toUInt8]
  | [a, b] => do
    let buffer := (← base64Bits a) * 262144 + (← base64Bits b) * 4096
    if buffer % 65536 ≠ 0 then none else return [(buffer / 65536).toUInt8]
  | [_] => none
  | [] => some []

def unbase64Loop (input : Bytes) : Option Bytes := unbase64Groups (stripBase64Padding input)

def unbase64 (bytes : Bytes) : Input Bytes :=
  match unbase64Loop bytes with
  | some out => pure out
  | none => fail .illegalBase64

def parseString : Input Bytes :=
  parseStringPrefix.bind fun pfx =>
    if pfx.huff then parseHuff pfx.length else parseUncompressed pfx.length

inductive BinaryKind where
  | unsure
  | binary
  | base64
deriving DecidableEq

structure Decompressed where
  kind : BinaryKind := .unsure
  bytes : Bytes := []
deriving DecidableEq

def Decompressed.output (d : Decompressed) (c : UInt8) : Decompressed :=
  match d.kind with
  | .unsure => if c = 0 then { d with kind := .binary } else ⟨.base64, d.bytes ++ [c]⟩
  | .binary => { d with bytes := d.bytes ++ [c] }
  | .base64 => { d with bytes := d.bytes ++ [c] }

/-- The marker of a value sent as it is. At the end of the input the marker is
not there yet, and the string that follows meets the same end. -/
def parseTrueBinaryOrBase64 (length : Nat) : Input Bytes := fun input =>
  if length > 0 ∧ input.head? = some 0 then parseUncompressed (length - 1) (input.drop 1)
  else ((parseUncompressed length).bind unbase64) input

def parseBinary : Input Bytes :=
  parseStringPrefix.bind fun pfx =>
    if pfx.huff then
      (parseHuff pfx.length).bind fun emitted =>
        let decompressed := emitted.foldl Decompressed.output {}
        match decompressed.kind with
        | .unsure => pure []
        | .binary => pure decompressed.bytes
        | .base64 => unbase64 decompressed.bytes
    else parseTrueBinaryOrBase64 pfx.length

def parseValueString (isBinary : Bool) : Input Bytes :=
  if isBinary then parseBinary else parseString

theorem stable_varintByte (value shift : Nat) {more : Nat → Input Nat}
    (stable : ∀ value, Stable (more value)) : Stable (varintByte value shift more) := by
  apply stable_bind stable_next
  intro cur
  split
  · exact stable_pure _
  · exact stable _

theorem stable_varintPadding (value : Nat) : Stable (varintPadding value) := by
  constructor
  · intro input more finished
    induction input with
    | nil => exact absurd rfl finished
    | cons cur rest ih =>
      simp only [List.cons_append, varintPadding] at finished ⊢
      split
      · exact ih (by simpa [*] using finished)
      · split <;> rfl
  · intro input found rest read
    induction input with
    | nil => cases read
    | cons cur tail ih =>
      simp only [varintPadding] at read
      split at read
      · exact Nat.le_succ_of_le (ih read)
      · split at read
        · cases read
          exact Nat.le_succ _
        · cases read

theorem stable_varintLastByte (value : Nat) : Stable (varintLastByte value) := by
  apply stable_bind stable_next
  intro cur
  dsimp only
  split
  · exact stable_fail _
  · split
    · exact stable_fail _
    · split
      · exact stable_pure _
      · exact stable_varintPadding _

theorem stable_parseVarint (value : Nat) : Stable (parseVarint value) := by
  apply stable_varintByte
  intro value
  apply stable_varintByte
  intro value
  apply stable_varintByte
  intro value
  exact stable_varintByte _ _ stable_varintLastByte

theorem stable_parseStringPrefix : Stable parseStringPrefix := by
  apply stable_bind stable_next
  intro cur
  dsimp only
  split
  · exact stable_bind (stable_parseVarint _) fun _ => stable_pure _
  · exact stable_pure _

theorem stable_parseHuff (length : Nat) : Stable (parseHuff length) :=
  stable_bind (stable_take length) fun _ => stable_pure _

theorem stable_unbase64 (bytes : Bytes) : Stable (unbase64 bytes) := by
  simp only [unbase64]
  split
  · exact stable_pure _
  · exact stable_fail _

theorem stable_parseString : Stable parseString := by
  apply stable_bind stable_parseStringPrefix
  intro pfx
  split
  · exact stable_parseHuff _
  · exact stable_take _

theorem stable_parseTrueBinaryOrBase64 (length : Nat) :
    Stable (parseTrueBinaryOrBase64 length) := by
  have raw : Stable (parseUncompressed (length - 1)) := stable_take _
  have base64 : Stable ((parseUncompressed length).bind unbase64) :=
    stable_bind (stable_take length) stable_unbase64
  constructor
  · intro input more finished
    cases input with
    | nil =>
      -- only an empty string can be finished here, and it has no marker
      simp only [parseTrueBinaryOrBase64, List.head?_nil, reduceCtorEq, and_false, if_false]
        at finished ⊢
      have empty : length = 0 := by
        by_contra positive
        apply finished
        have short : 0 < length := Nat.pos_of_ne_zero positive
        simp [parseUncompressed, Reader.bind, take, short]
      subst empty
      simpa using base64.extend more finished
    | cons =>
      simp only [parseTrueBinaryOrBase64, List.cons_append, List.head?_cons,
        List.drop_succ_cons, List.drop_zero] at finished ⊢
      split at finished
      · rename_i marked
        simp only [if_pos marked]
        exact raw.extend more finished
      · rename_i unmarked
        simp only [if_neg unmarked]
        exact base64.extend more finished
  · intro input found rest read
    simp only [parseTrueBinaryOrBase64] at read
    split at read
    · have shorter := raw.shrinks read
      simp only [List.length_drop] at shorter
      omega
    · exact base64.shrinks read

theorem stable_parseBinary : Stable parseBinary := by
  apply stable_bind stable_parseStringPrefix
  intro pfx
  split
  · apply stable_bind (stable_parseHuff _)
    intro emitted
    dsimp only
    split
    · exact stable_pure _
    · exact stable_pure _
    · exact stable_unbase64 _
  · exact stable_parseTrueBinaryOrBase64 _

theorem stable_parseValueString (isBinary : Bool) : Stable (parseValueString isBinary) := by
  simp only [parseValueString]
  split
  · exact stable_parseBinary
  · exact stable_parseString

end Input

end GrpcCore.Hpack
