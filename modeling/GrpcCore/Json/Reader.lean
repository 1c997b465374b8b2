import GrpcCore.Json.Value
import GrpcCore.Lib.OrderedMap

/-!
# The JSON reader

`json_reader.cc`, a state machine on the bytes of a text with a stack of the containers that are open.
-/

namespace GrpcCore.Json

/-- The states of the reader, `GRPC_JSON_STATE_OBJECT_KEY_BEGIN` to `GRPC_JSON_STATE_END`. -/
inductive State where
  | objectKeyBegin
  | objectKeyString
  | objectKeyEnd
  | valueBegin
  | valueString
  | stringEscape
  | stringEscapeU1
  | stringEscapeU2
  | stringEscapeU3
  | stringEscapeU4
  | valueNumber
  | valueNumberWithDecimal
  | valueNumberZero
  | valueNumberDot
  | valueNumberE
  | valueNumberEpm
  | valueTrueR
  | valueTrueU
  | valueTrueE
  | valueFalseA
  | valueFalseL
  | valueFalseS
  | valueFalseE
  | valueNullU
  | valueNullL1
  | valueNullL2
  | valueEnd
  | end
  deriving DecidableEq

/-- What is put into `errors_`, with the index where it was found. -/
inductive ReadError where
  | duplicateKey (key : Bytes) (index : Nat)
  | exceededMaxStackDepth (index : Nat)
  | tooManyErrors
  | parseError (index : Nat)
  deriving DecidableEq

inductive Container where
  | object (entries : List (Bytes × Json))
  | array (items : List Json)

def Container.type : Container → ContainerType
  | .object _ => .object
  | .array _ => .array

def Container.toJson : Container → Json
  | .object entries => .object entries
  | .array items => .array items

def ContainerType.empty : ContainerType → Container
  | .object => .object []
  | .array => .array []

/-- An open container of `stack_`, with the key that it has when its parent is an object. What it holds is
written to its place in the parent when it is closed. -/
structure Frame where
  content : Container
  slot : Bytes

structure JsonReader where
  state : State
  escapedStringWasKey : Bool
  containerJustBegun : Bool
  unicodeChar : Nat
  unicodeHighSurrogate : Nat
  errors : List ReadError
  truncatedErrors : Bool
  rootValue : Json
  stack : List Frame
  key : Bytes
  string : Bytes

def JsonReader.initial : JsonReader where
  state := .valueBegin
  escapedStringWasKey := false
  containerJustBegun := false
  unicodeChar := 0
  unicodeHighSurrogate := 0
  errors := []
  truncatedErrors := false
  rootValue := .null
  stack := []
  key := []
  string := []

def maxDepth : Nat := 255

def maxErrors : Nat := 16

section Values

/-! ## Strings and values -/

def addError (error : ReadError) (reader : JsonReader) : JsonReader :=
  if reader.errors.length = maxErrors then { reader with truncatedErrors := true }
  else { reader with errors := reader.errors ++ [error] }

def stringAddChar (c : UInt8) (reader : JsonReader) : JsonReader :=
  { reader with string := reader.string ++ [c] }

def utf8OfUtf32 (c : Nat) : Bytes :=
  if c ≤ 0x7f then [UInt8.ofNat c]
  else if c ≤ 0x7ff then
    [UInt8.ofNat (0xc0 ||| ((c >>> 6) &&& 0x1f)), UInt8.ofNat (0x80 ||| (c &&& 0x3f))]
  else if c ≤ 0xffff then
    [UInt8.ofNat (0xe0 ||| ((c >>> 12) &&& 0x0f)), UInt8.ofNat (0x80 ||| ((c >>> 6) &&& 0x3f)),
      UInt8.ofNat (0x80 ||| (c &&& 0x3f))]
  else if c ≤ 0x1fffff then
    [UInt8.ofNat (0xf0 ||| ((c >>> 18) &&& 0x07)), UInt8.ofNat (0x80 ||| ((c >>> 12) &&& 0x3f)),
      UInt8.ofNat (0x80 ||| ((c >>> 6) &&& 0x3f)), UInt8.ofNat (0x80 ||| (c &&& 0x3f))]
  else []

def stringAddUtf32 (c : Nat) (reader : JsonReader) : JsonReader :=
  { reader with string := reader.string ++ utf8OfUtf32 c }

local instance : LawfulBEq Bytes := inferInstance

/-- `CreateAndLinkValue`, with what is assigned to the value. -/
def createAndLinkValue (index : Nat) (assign : Json → Json) (reader : JsonReader) : JsonReader :=
  match reader.stack with
  | [] => { reader with rootValue := assign reader.rootValue }
  | ⟨.object entries, slot⟩ :: stack =>
    let reader :=
      if reader.key ∈ entries.map Prod.fst then
        addError (.duplicateKey reader.key index) reader
      else reader
    let entries := OrderedMap.modify reader.key assign (OrderedMap.touch reader.key .null entries)
    { reader with stack := ⟨.object entries, slot⟩ :: stack }
  | ⟨.array items, slot⟩ :: stack =>
    { reader with stack := ⟨.array (items ++ [assign .null]), slot⟩ :: stack }

def startContainer (index : Nat) (type : ContainerType) (reader : JsonReader) :
    Except JsonReader JsonReader :=
  if reader.stack.length = maxDepth then .error (addError (.exceededMaxStackDepth index) reader)
  else
    let linked := createAndLinkValue index (fun _ => type.empty.toJson) reader
    .ok { linked with stack := ⟨type.empty, reader.key⟩ :: linked.stack }

def endContainer (reader : JsonReader) : JsonReader :=
  match reader.stack with
  | [] => reader
  | [⟨content, _⟩] => { reader with rootValue := content.toJson, stack := [] }
  | ⟨content, slot⟩ :: ⟨.object entries, slot'⟩ :: stack =>
    let entries := OrderedMap.modify slot (fun _ => content.toJson) entries
    { reader with stack := ⟨.object entries, slot'⟩ :: stack }
  | ⟨content, _⟩ :: ⟨.array items, slot'⟩ :: stack =>
    { reader with stack := ⟨.array (items.dropLast ++ [content.toJson]), slot'⟩ :: stack }

def setKey (reader : JsonReader) : JsonReader :=
  { reader with key := reader.string, string := [] }

def setString (index : Nat) (reader : JsonReader) : JsonReader :=
  { createAndLinkValue index (fun _ => .string reader.string) reader with string := [] }

def setNumber (index : Nat) (reader : JsonReader) : JsonReader :=
  { createAndLinkValue index (fun _ => .number reader.string) reader with string := [] }

def setTrue (index : Nat) (reader : JsonReader) : JsonReader :=
  { createAndLinkValue index (fun _ => .bool true) reader with string := [] }

def setFalse (index : Nat) (reader : JsonReader) : JsonReader :=
  { createAndLinkValue index (fun _ => .bool false) reader with string := [] }

def setNull (index : Nat) (reader : JsonReader) : JsonReader :=
  createAndLinkValue index id reader

end Values

section Run

/-! ## The machine

A step fails with the reader as it is when `GRPC_JSON_PARSE_ERROR` is returned. -/

def topType (reader : JsonReader) : Option ContainerType :=
  reader.stack.head?.map (·.content.type)

/-- `' '`, `'\t'`, `'\n'` and `'\r'`. -/
def isWhitespace (c : UInt8) : Bool := c = 32 || c = 9 || c = 10 || c = 13

def isDigit (c : UInt8) : Bool := 48 ≤ c && c ≤ 57

def State.endsNumber : State → Bool
  | .valueNumber | .valueNumberWithDecimal | .valueNumberZero | .valueNumberEpm => true
  | _ => false

def readWhitespace (index : Nat) (c : UInt8) (reader : JsonReader) : Except JsonReader JsonReader :=
  match reader.state with
  | .objectKeyBegin | .objectKeyEnd | .valueBegin | .valueEnd | .end => .ok reader
  | .objectKeyString | .valueString =>
    if c ≠ 32 then .error reader
    else if reader.unicodeHighSurrogate ≠ 0 then .error reader
    else .ok (stringAddChar c reader)
  | .valueNumber | .valueNumberWithDecimal | .valueNumberZero | .valueNumberEpm =>
    .ok { setNumber index reader with state := .valueEnd }
  | _ => .error reader

/-- `,`, `}` and `]` after a value or before one. -/
def readTermination (c : UInt8) (reader : JsonReader) : Except JsonReader JsonReader :=
  if c = 44 then
    if reader.state ≠ .valueEnd then .error reader
    else
      match topType reader with
      | some .object => .ok { reader with state := .objectKeyBegin }
      | some .array => .ok { reader with state := .valueBegin }
      | none => .error reader
  else
    if reader.stack.isEmpty then .error reader
    else if c = 125 ∧ topType reader ≠ some .object then .error reader
    else if c = 125 ∧ reader.state = .objectKeyBegin ∧ reader.containerJustBegun = false then
      .error reader
    else if c = 93 ∧ topType reader ≠ some .array then .error reader
    else if c = 93 ∧ reader.state = .valueBegin ∧ reader.containerJustBegun = false then
      .error reader
    else
      let reader := endContainer { reader with state := .valueEnd }
      if reader.stack.isEmpty then .ok { reader with state := .end } else .ok reader

def readSeparator (index : Nat) (c : UInt8) (reader : JsonReader) : Except JsonReader JsonReader :=
  match reader.state with
  | .objectKeyString | .valueString =>
    if reader.unicodeHighSurrogate ≠ 0 then .error reader else .ok (stringAddChar c reader)
  | .valueNumber | .valueNumberWithDecimal | .valueNumberZero | .valueNumberEpm =>
    if reader.stack.isEmpty then .error reader
    else if c = 125 ∧ topType reader ≠ some .object then .error reader
    else if c = 93 ∧ topType reader ≠ some .array then .error reader
    else readTermination c { setNumber index reader with state := .valueEnd }
  | .valueEnd | .objectKeyBegin | .valueBegin => readTermination c reader
  | _ => .error reader

def escapedState (reader : JsonReader) : State :=
  if reader.escapedStringWasKey then .objectKeyString else .valueString

def readBackslash (reader : JsonReader) : Except JsonReader JsonReader :=
  match reader.state with
  | .objectKeyString => .ok { reader with escapedStringWasKey := true, state := .stringEscape }
  | .valueString => .ok { reader with escapedStringWasKey := false, state := .stringEscape }
  | .stringEscape =>
    if reader.unicodeHighSurrogate ≠ 0 then .error reader
    else .ok { stringAddChar 92 reader with state := escapedState reader }
  | _ => .error reader

def beginValue (index : Nat) (c : UInt8) (reader : JsonReader) : Except JsonReader JsonReader :=
  if c = 116 then .ok { reader with state := .valueTrueR }
  else if c = 102 then .ok { reader with state := .valueFalseA }
  else if c = 110 then .ok { reader with state := .valueNullU }
  else if c = 34 then .ok { reader with state := .valueString }
  else if c = 48 then .ok { stringAddChar c reader with state := .valueNumberZero }
  else if isDigit c ∨ c = 45 then .ok { stringAddChar c reader with state := .valueNumber }
  else if c = 123 then
    match startContainer index .object { reader with containerJustBegun := true } with
    | .error reader => .error reader
    | .ok reader => .ok { reader with state := .objectKeyBegin }
  else if c = 91 then startContainer index .array { reader with containerJustBegun := true }
  else .error reader

def readEscape (c : UInt8) (reader : JsonReader) : Except JsonReader JsonReader :=
  let reader := { reader with state := escapedState reader }
  if reader.unicodeHighSurrogate ≠ 0 ∧ c ≠ 117 then .error reader
  else if c = 34 ∨ c = 47 then .ok (stringAddChar c reader)
  else if c = 98 then .ok (stringAddChar 8 reader)
  else if c = 102 then .ok (stringAddChar 12 reader)
  else if c = 110 then .ok (stringAddChar 10 reader)
  else if c = 114 then .ok (stringAddChar 13 reader)
  else if c = 116 then .ok (stringAddChar 9 reader)
  else if c = 117 then .ok { reader with state := .stringEscapeU1, unicodeChar := 0 }
  else .error reader

def hexValue (c : UInt8) : Option Nat :=
  if 48 ≤ c ∧ c ≤ 57 then some (c.toNat - 48)
  else if 65 ≤ c ∧ c ≤ 70 then some (c.toNat - 55)
  else if 97 ≤ c ∧ c ≤ 102 then some (c.toNat - 87)
  else none

/-- The last digit of a `\u` sequence has been read. -/
def endEscape (reader : JsonReader) : Except JsonReader JsonReader :=
  let reader' := { reader with state := escapedState reader }
  if reader.unicodeChar &&& 0xfc00 = 0xd800 then
    if reader.unicodeHighSurrogate ≠ 0 then .error reader
    else .ok { reader' with unicodeHighSurrogate := reader.unicodeChar }
  else if reader.unicodeChar &&& 0xfc00 = 0xdc00 then
    if reader.unicodeHighSurrogate = 0 then .error reader
    else
      let utf32 := 0x10000 + (reader.unicodeHighSurrogate - 0xd800) * 0x400 +
        (reader.unicodeChar - 0xdc00)
      .ok { stringAddUtf32 utf32 reader' with unicodeHighSurrogate := 0 }
  else if reader.unicodeHighSurrogate ≠ 0 then .error reader
  else .ok (stringAddUtf32 reader.unicodeChar reader')

def readHex (c : UInt8) (reader : JsonReader) : Except JsonReader JsonReader :=
  match hexValue c with
  | none => .error reader
  | some value =>
    let reader :=
      { reader with unicodeChar := ((reader.unicodeChar <<< 4) % 2 ^ 16) ||| value }
    match reader.state with
    | .stringEscapeU1 => .ok { reader with state := .stringEscapeU2 }
    | .stringEscapeU2 => .ok { reader with state := .stringEscapeU3 }
    | .stringEscapeU3 => .ok { reader with state := .stringEscapeU4 }
    | _ => endEscape reader

def numberNext (state : State) (c : UInt8) : Option State :=
  match state with
  | .valueNumber =>
    if isDigit c then some .valueNumber
    else if c = 101 ∨ c = 69 then some .valueNumberE
    else if c = 46 then some .valueNumberDot
    else none
  | .valueNumberWithDecimal =>
    if isDigit c then some .valueNumberWithDecimal
    else if c = 101 ∨ c = 69 then some .valueNumberE
    else none
  | .valueNumberZero => if c = 46 then some .valueNumberDot else none
  | .valueNumberDot => if isDigit c then some .valueNumberWithDecimal else none
  | .valueNumberE => if isDigit c ∨ c = 43 ∨ c = 45 then some .valueNumberEpm else none
  | .valueNumberEpm => if isDigit c then some .valueNumberEpm else none
  | _ => none

def readNumber (c : UInt8) (reader : JsonReader) : Except JsonReader JsonReader :=
  match numberNext reader.state c with
  | none => .error reader
  | some state => .ok { stringAddChar c reader with state }

def readString (c : UInt8) (closed : JsonReader → JsonReader) (reader : JsonReader) :
    Except JsonReader JsonReader :=
  if reader.unicodeHighSurrogate ≠ 0 then .error reader
  else if c = 34 then .ok (closed reader)
  else if c < 32 then .error reader
  else .ok (stringAddChar c reader)

/-- The next byte of `true`, `false` or `null`. -/
def expect (c expected : UInt8) (next : State) (done : JsonReader → JsonReader)
    (reader : JsonReader) : Except JsonReader JsonReader :=
  if c ≠ expected then .error reader else .ok { done reader with state := next }

def readOther (index : Nat) (c : UInt8) (reader : JsonReader) : Except JsonReader JsonReader :=
  let reader := { reader with containerJustBegun := false }
  match reader.state with
  | .objectKeyBegin => expect c 34 .objectKeyString id reader
  | .objectKeyString =>
    readString c (fun reader => setKey { reader with state := .objectKeyEnd }) reader
  | .valueString =>
    readString c (fun reader => setString index { reader with state := .valueEnd }) reader
  | .objectKeyEnd => expect c 58 .valueBegin id reader
  | .valueBegin => beginValue index c reader
  | .stringEscape => readEscape c reader
  | .stringEscapeU1 | .stringEscapeU2 | .stringEscapeU3 | .stringEscapeU4 => readHex c reader
  | .valueNumber | .valueNumberWithDecimal | .valueNumberZero | .valueNumberDot
  | .valueNumberE | .valueNumberEpm => readNumber c reader
  | .valueTrueR => expect c 114 .valueTrueU id reader
  | .valueTrueU => expect c 117 .valueTrueE id reader
  | .valueTrueE => expect c 101 .valueEnd (setTrue index) reader
  | .valueFalseA => expect c 97 .valueFalseL id reader
  | .valueFalseL => expect c 108 .valueFalseS id reader
  | .valueFalseS => expect c 115 .valueFalseE id reader
  | .valueFalseE => expect c 101 .valueEnd (setFalse index) reader
  | .valueNullU => expect c 117 .valueNullL1 id reader
  | .valueNullL1 => expect c 108 .valueNullL2 id reader
  | .valueNullL2 => expect c 108 .valueEnd (setNull index) reader
  | .valueEnd | .end => .error reader

def step (index : Nat) (c : UInt8) (reader : JsonReader) : Except JsonReader JsonReader :=
  if isWhitespace c then readWhitespace index c reader
  else if c = 44 ∨ c = 125 ∨ c = 93 then readSeparator index c reader
  else if c = 92 then readBackslash reader
  else readOther index c reader

def isComplete (reader : JsonReader) : Bool :=
  reader.stack.isEmpty && (reader.state = .end || reader.state = .valueEnd)

def endOfText (reader : JsonReader) : Except JsonReader JsonReader :=
  if isComplete reader then .ok reader else .error reader

/-- The reader at the end, with the number of bytes that were read. -/
def run : Nat → Bytes → JsonReader → Nat × Except JsonReader JsonReader
  | index, [], reader => (index, endOfText reader)
  | index, c :: input, reader =>
    if c = 0 then (index + 1, endOfText reader)
    else
      match step index c reader with
      | .error reader => (index + 1, .error reader)
      | .ok reader => run (index + 1) input reader

/-- `JsonReader::Parse`. The last error has the index of the last byte that was read, a `size_t`. -/
def parse (input : Bytes) : Except (List ReadError) Json :=
  let (read, result) := run 0 input .initial
  let (reader, failed) :=
    match result with
    | .ok reader => (reader, [])
    | .error reader => (reader, [ReadError.parseError ((read + 2 ^ 64 - 1) % 2 ^ 64)])
  let truncated := if reader.truncatedErrors then [ReadError.tooManyErrors] else []
  match reader.errors ++ truncated ++ failed with
  | [] => .ok reader.rootValue
  | error :: errors => .error (error :: errors)

end Run

end GrpcCore.Json
