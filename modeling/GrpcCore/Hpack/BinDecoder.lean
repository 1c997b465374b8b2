import GrpcCore.Hpack.Input

/-!
# Decoding base64 with an inferred length

`bin_decoder.cc`. A call returns a slice, fails an assertion, or reads a table
outside its bounds.
-/

namespace GrpcCore.Hpack.BinDecoder

/-- `decode_table`. -/
def decodeTable (char : UInt8) : UInt8 :=
  if 0x41 ≤ char ∧ char ≤ 0x5a then char - 0x41
  else if 0x61 ≤ char ∧ char ≤ 0x7a then char - 0x61 + 26
  else if 0x30 ≤ char ∧ char ≤ 0x39 then char - 0x30 + 52
  else if char = 0x2b then 62
  else if char = 0x2f then 63
  else 0x40

/-- `tail_xtra`; there is no entry past the third. -/
def tailXtra : List Nat := [0, 0, 1, 2]

def inputIsValid (input : Bytes) : Bool := input.all fun char => decodeTable char &&& 0xc0 == 0

def composeOutputByte0 (c0 c1 : UInt8) : UInt8 := decodeTable c0 <<< 2 ||| decodeTable c1 >>> 4

def composeOutputByte1 (c1 c2 : UInt8) : UInt8 := decodeTable c1 <<< 4 ||| decodeTable c2 >>> 2

def composeOutputByte2 (c2 c3 : UInt8) : UInt8 := decodeTable c2 <<< 6 ||| decodeTable c3

/-- `'='`. -/
def pad : UInt8 := 0x3d

def unpaddedLength (slice : Bytes) : Nat := (Input.stripBase64Padding slice).length

/-- `grpc_chttp2_base64_infer_length_after_decode`. -/
def inferLength (slice : Bytes) : Nat :=
  let len := unpaddedLength slice
  if slice.length - len > 2 then 0
  else
    let tuples := len / 4
    let tailCase := len % 4
    if tailCase = 1 then 0 else tuples * 3 + tailXtra.getD tailCase 0

/-- `grpc_base64_decode_context`: the input left, the room left for output, and the
output written. -/
structure Context where
  input : Bytes
  room : Nat
  output : Bytes := []
  containsTail : Bool
deriving DecidableEq

/-- How `grpc_base64_decode_partial` ends: with `false`, with `true`, or behind the
end of `tail_xtra`. -/
inductive Decoding where
  | failed
  | decoded (ctx : Context)
  | outOfBounds
deriving DecidableEq

def decodeBlocks : Bytes → Nat → Bytes → Option (Bytes × Nat × Bytes)
  | c0 :: c1 :: c2 :: c3 :: input, room + 3, output =>
    if inputIsValid [c0, c1, c2, c3] then
      decodeBlocks input room (output ++
        [composeOutputByte0 c0 c1, composeOutputByte1 c1 c2, composeOutputByte2 c2 c3])
    else none
  | input, room, output => some (input, room, output)

def decodePadded (ctx : Context) (c0 c1 c2 c3 : UInt8) : Decoding :=
  if c3 = pad then
    if c2 = pad ∧ ctx.room ≥ 1 then
      if inputIsValid [c0, c1] then
        .decoded { ctx with
          input := [], room := ctx.room - 1, output := ctx.output ++ [composeOutputByte0 c0 c1] }
      else .failed
    else if ctx.room ≥ 2 then
      if inputIsValid [c0, c1, c2] then
        .decoded { ctx with
          input := [], room := ctx.room - 2,
          output := ctx.output ++ [composeOutputByte0 c0 c1, composeOutputByte1 c1 c2] }
      else .failed
    else .decoded ctx
  else .decoded ctx

def tailBytes : Bytes → Bytes
  | [c0, c1, c2] => [composeOutputByte0 c0 c1, composeOutputByte1 c1 c2]
  | [c0, c1] => [composeOutputByte0 c0 c1]
  | _ => []

def decodeUnpadded (ctx : Context) : Decoding :=
  match tailXtra[ctx.input.length]? with
  | none => .outOfBounds
  | some xtra =>
    if ctx.room ≥ xtra then
      if inputIsValid ctx.input then
        .decoded { ctx with
          input := [], room := ctx.room - xtra, output := ctx.output ++ tailBytes ctx.input }
      else .failed
    else .decoded ctx

def decodeTail (ctx : Context) : Decoding :=
  match ctx.input with
  | [c0, c1, c2, c3] => decodePadded ctx c0 c1 c2 c3
  | input => if ctx.containsTail ∧ input.length > 1 then decodeUnpadded ctx else .decoded ctx

/-- `grpc_base64_decode_partial`. -/
def decodePartial (ctx : Context) : Decoding :=
  match decodeBlocks ctx.input ctx.room ctx.output with
  | none => .failed
  | some (input, room, output) => decodeTail { ctx with input, room, output }

inductive Outcome where
  | returned (slice : Bytes)
  | aborted
  | outOfBounds
deriving DecidableEq

/-- Decoding that fails returns nothing; decoding that ends is asserted to be complete. -/
def conclude (complete : Context → Bool) : Decoding → Outcome
  | .failed => .returned []
  | .outOfBounds => .outOfBounds
  | .decoded ctx => if complete ctx then .returned ctx.output else .aborted

/-- `grpc_chttp2_base64_decode_with_length`. -/
def decodeWithLength (input : Bytes) (outputLength : Nat) : Outcome :=
  if input.length % 4 = 1 then .returned []
  else if outputLength > input.length / 4 * 3 + tailXtra.getD (input.length % 4) 0 then .returned []
  else
    conclude (fun ctx => ctx.room == 0)
      (decodePartial { input, room := outputLength, containsTail := true })

/-- The output length `grpc_chttp2_base64_decode` reserves for four characters times `blocks`. -/
def paddedLength (input : Bytes) : Nat :=
  let outputLength := input.length / 4 * 3
  match input.reverse with
  | c3 :: c2 :: _ =>
    if c3 = pad then if c2 = pad then outputLength - 2 else outputLength - 1 else outputLength
  | _ => outputLength

/-- `grpc_chttp2_base64_decode`. -/
def decode (input : Bytes) : Outcome :=
  if input.length % 4 ≠ 0 then .returned []
  else
    conclude (fun ctx => ctx.room == 0 && ctx.input.isEmpty)
      (decodePartial { input, room := paddedLength input, containsTail := false })

/-- A call returns nothing, or as many bytes as were inferred. -/
def Returns (outcome : Outcome) (length : Nat) : Prop :=
  ∃ slice, outcome = .returned slice ∧ (slice = [] ∨ slice.length = length)

/-- One pad character where two belong, behind full blocks that are valid. -/
def HalfPadded (slice : Bytes) : Prop :=
  slice.length = unpaddedLength slice + 1 ∧ unpaddedLength slice % 4 = 2 ∧
    inputIsValid (slice.take (unpaddedLength slice / 4 * 4)) = true

/-- No length is inferred for more characters than `tail_xtra` has entries. -/
def OverlongTail (slice : Bytes) : Prop :=
  4 < slice.length ∧ slice.length % 4 ≠ 1 ∧
    (unpaddedLength slice + 2 < slice.length ∨ unpaddedLength slice % 4 = 1)

instance (slice : Bytes) : Decidable (HalfPadded slice) := inferInstanceAs (Decidable (_ ∧ _ ∧ _))

instance (slice : Bytes) : Decidable (OverlongTail slice) := inferInstanceAs (Decidable (_ ∧ _ ∧ _))

end GrpcCore.Hpack.BinDecoder
