import GrpcCore.Json.Value

/-!
# The JSON writer

`json_writer.cc`, which puts out a value with its containers indented.
-/

namespace GrpcCore.Json

structure JsonWriter where
  depth : Nat
  containerEmpty : Bool
  gotKey : Bool
  output : Bytes

def JsonWriter.initial : JsonWriter where
  depth := 0
  containerEmpty := true
  gotKey := false
  output := []

section Strings

def lowerHexDigit (value : Nat) : UInt8 :=
  if value < 10 then UInt8.ofNat (48 + value) else UInt8.ofNat (87 + value)

def escapeUtf16 (utf16 : Nat) : Bytes :=
  [92, 117, lowerHexDigit ((utf16 >>> 12) &&& 0x0f), lowerHexDigit ((utf16 >>> 8) &&& 0x0f),
    lowerHexDigit ((utf16 >>> 4) &&& 0x0f), lowerHexDigit (utf16 &&& 0x0f)]

def escapeControl (c : UInt8) : Bytes :=
  if c = 8 then [92, 98]
  else if c = 12 then [92, 102]
  else if c = 10 then [92, 110]
  else if c = 13 then [92, 114]
  else if c = 9 then [92, 116]
  else escapeUtf16 c.toNat

/-- A code point outside of ASCII, and what follows it. The string is cut short at a surrogate and behind
the last code point. -/
def escapeUtf32 (utf32 : Nat) (rest : Bytes) : Bytes :=
  if (0xd800 ≤ utf32 ∧ utf32 ≤ 0xdfff) ∨ 0x110000 ≤ utf32 then []
  else if 0x10000 ≤ utf32 then
    escapeUtf16 (0xd800 ||| ((utf32 - 0x10000) >>> 10)) ++
      escapeUtf16 (0xdc00 ||| ((utf32 - 0x10000) &&& 0x3ff)) ++ rest
  else escapeUtf16 utf32 ++ rest

def isContinuation (c : UInt8) : Bool := c &&& 0xc0 = 0x80

def shiftIn (utf32 : Nat) (c : UInt8) : Nat := (utf32 <<< 6) ||| (c &&& 0x3f).toNat

/-- The loop of `EscapeString`, which ends at a zero byte and at what is no UTF-8. -/
def escapeBytes : Bytes → Bytes
  | [] => []
  | c :: rest =>
    if c = 0 then []
    else if 32 ≤ c ∧ c ≤ 126 then
      (if c = 92 ∨ c = 34 then [92, c] else [c]) ++ escapeBytes rest
    else if c < 32 ∨ c = 127 then escapeControl c ++ escapeBytes rest
    else if c &&& 0xe0 = 0xc0 then
      match rest with
      | c₁ :: rest =>
        if isContinuation c₁ then
          escapeUtf32 (shiftIn (c &&& 0x1f).toNat c₁) (escapeBytes rest)
        else []
      | [] => []
    else if c &&& 0xf0 = 0xe0 then
      match rest with
      | c₁ :: c₂ :: rest =>
        if isContinuation c₁ && isContinuation c₂ then
          escapeUtf32 (shiftIn (shiftIn (c &&& 0x0f).toNat c₁) c₂) (escapeBytes rest)
        else []
      | _ => []
    else if c &&& 0xf8 = 0xf0 then
      match rest with
      | c₁ :: c₂ :: c₃ :: rest =>
        if isContinuation c₁ && isContinuation c₂ && isContinuation c₃ then
          escapeUtf32 (shiftIn (shiftIn (shiftIn (c &&& 0x07).toNat c₁) c₂) c₃)
            (escapeBytes rest)
        else []
      | _ => []
    else []

def escapeString (text : Bytes) : Bytes := 34 :: escapeBytes text ++ [34]

end Strings

section Output

variable (indent : Nat)

def outputChar (c : UInt8) (writer : JsonWriter) : JsonWriter :=
  { writer with output := writer.output ++ [c] }

def outputString (text : Bytes) (writer : JsonWriter) : JsonWriter :=
  { writer with output := writer.output ++ text }

/-- The number of spaces is an `unsigned`. -/
def outputIndent (writer : JsonWriter) : JsonWriter :=
  if indent = 0 then writer
  else if writer.gotKey then outputChar 32 writer
  else outputString (List.replicate (writer.depth * indent % 2 ^ 32) 32) writer

def valueEnd (writer : JsonWriter) : JsonWriter :=
  if writer.containerEmpty then
    let writer := { writer with containerEmpty := false }
    if indent = 0 ∨ writer.depth = 0 then writer else outputChar 10 writer
  else
    let writer := outputChar 44 writer
    if indent = 0 then writer else outputChar 10 writer

def containerBegins (type : ContainerType) (writer : JsonWriter) : JsonWriter :=
  let writer := if writer.gotKey then writer else valueEnd indent writer
  let writer := outputIndent indent writer
  let writer := outputChar (if type = .object then 123 else 91) writer
  { writer with containerEmpty := true, gotKey := false, depth := writer.depth + 1 }

def containerEnds (type : ContainerType) (writer : JsonWriter) : JsonWriter :=
  let writer := if indent ≠ 0 ∧ writer.containerEmpty = false then outputChar 10 writer else writer
  let writer := { writer with depth := writer.depth - 1 }
  let writer := if writer.containerEmpty then writer else outputIndent indent writer
  let writer := outputChar (if type = .object then 125 else 93) writer
  { writer with containerEmpty := false, gotKey := false }

def objectKey (key : Bytes) (writer : JsonWriter) : JsonWriter :=
  let writer := outputIndent indent (valueEnd indent writer)
  { outputChar 58 (outputString (escapeString key) writer) with gotKey := true }

def valueRaw (text : Bytes) (writer : JsonWriter) : JsonWriter :=
  let writer := if writer.gotKey then writer else valueEnd indent writer
  { outputString text (outputIndent indent writer) with gotKey := false }

def valueString (text : Bytes) (writer : JsonWriter) : JsonWriter :=
  let writer := if writer.gotKey then writer else valueEnd indent writer
  { outputString (escapeString text) (outputIndent indent writer) with gotKey := false }

mutual

def dumpValue : Json → JsonWriter → JsonWriter
  | .object entries, writer =>
    containerEnds indent .object (dumpObject entries (containerBegins indent .object writer))
  | .array items, writer =>
    containerEnds indent .array (dumpArray items (containerBegins indent .array writer))
  | .string text, writer => valueString indent text writer
  | .number text, writer => valueRaw indent text writer
  | .bool true, writer => valueRaw indent [116, 114, 117, 101] writer
  | .bool false, writer => valueRaw indent [102, 97, 108, 115, 101] writer
  | .null, writer => valueRaw indent [110, 117, 108, 108] writer

/-- A key is a C string to `ObjectKey`. -/
def dumpObject : List (Bytes × Json) → JsonWriter → JsonWriter
  | [], writer => writer
  | (key, value) :: entries, writer =>
    let writer := objectKey indent (key.takeWhile (· ≠ 0)) writer
    dumpObject entries (dumpValue value writer)

def dumpArray : List Json → JsonWriter → JsonWriter
  | [], writer => writer
  | value :: items, writer => dumpArray items (dumpValue value writer)

end

/-- `Json::Dump`. -/
def dump (value : Json) : Bytes := (dumpValue indent value .initial).output

end Output

end GrpcCore.Json
