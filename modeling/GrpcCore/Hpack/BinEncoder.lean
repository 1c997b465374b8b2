import GrpcCore.Hpack.HuffmanCode

/-!
# Encoding binary metadata

`bin_encoder.cc`: base64, the Huffman compressor, and the encoder that does both
at once. A failed assertion is `none`.
-/

namespace GrpcCore.Hpack

/-- `alphabet`. -/
def alphabet : Bytes := ascii "ABCDEFGHIJKLMNOPQRSTUVWXYZabcdefghijklmnopqrstuvwxyz0123456789+/"

/-- `huff_alphabet`: the code words of the base64 characters. -/
def huffAlphabet : List HuffSym := [
    ⟨0x21, 6⟩, ⟨0x5d, 7⟩, ⟨0x5e, 7⟩, ⟨0x5f, 7⟩, ⟨0x60, 7⟩, ⟨0x61, 7⟩, ⟨0x62, 7⟩, ⟨0x63, 7⟩,
    ⟨0x64, 7⟩, ⟨0x65, 7⟩, ⟨0x66, 7⟩, ⟨0x67, 7⟩, ⟨0x68, 7⟩, ⟨0x69, 7⟩, ⟨0x6a, 7⟩, ⟨0x6b, 7⟩,
    ⟨0x6c, 7⟩, ⟨0x6d, 7⟩, ⟨0x6e, 7⟩, ⟨0x6f, 7⟩, ⟨0x70, 7⟩, ⟨0x71, 7⟩, ⟨0x72, 7⟩, ⟨0xfc, 8⟩,
    ⟨0x73, 7⟩, ⟨0xfd, 8⟩, ⟨0x3, 5⟩, ⟨0x23, 6⟩, ⟨0x4, 5⟩, ⟨0x24, 6⟩, ⟨0x5, 5⟩, ⟨0x25, 6⟩,
    ⟨0x26, 6⟩, ⟨0x27, 6⟩, ⟨0x6, 5⟩, ⟨0x74, 7⟩, ⟨0x75, 7⟩, ⟨0x28, 6⟩, ⟨0x29, 6⟩, ⟨0x2a, 6⟩,
    ⟨0x7, 5⟩, ⟨0x2b, 6⟩, ⟨0x76, 7⟩, ⟨0x2c, 6⟩, ⟨0x8, 5⟩, ⟨0x9, 5⟩, ⟨0x2d, 6⟩, ⟨0x77, 7⟩,
    ⟨0x78, 7⟩, ⟨0x79, 7⟩, ⟨0x7a, 7⟩, ⟨0x7b, 7⟩, ⟨0x0, 5⟩, ⟨0x1, 5⟩, ⟨0x2, 5⟩, ⟨0x19, 6⟩,
    ⟨0x1a, 6⟩, ⟨0x1b, 6⟩, ⟨0x1c, 6⟩, ⟨0x1d, 6⟩, ⟨0x1e, 6⟩, ⟨0x1f, 6⟩, ⟨0x7fb, 11⟩, ⟨0x18, 6⟩]

def tailXtra (tailCase : Nat) : Nat := [0, 2, 3].getD tailCase 0

def base64Char (value : UInt8) : UInt8 := alphabet.getD value.toNat 0

/-- The loop over full triplets, with the output it makes and the input it leaves. -/
def encodeTriplets {Output : Type} (put : Output → UInt8 → UInt8 → UInt8 → Output) :
    Nat → Output → Bytes → Option (Output × Bytes)
  | 0, out, input => some (out, input)
  | triplets + 1, out, in0 :: in1 :: in2 :: input =>
    encodeTriplets put triplets (put out in0 in1 in2) input
  | _ + 1, _, _ => none

def base64Triplet (out : Bytes) (in0 in1 in2 : UInt8) : Bytes :=
  out ++ [base64Char (in0 >>> 2), base64Char (((in0 &&& 0x3) <<< 4) ||| (in1 >>> 4)),
    base64Char (((in1 &&& 0xf) <<< 2) ||| (in2 >>> 6)), base64Char (in2 &&& 0x3f)]

def base64Tail (tailCase : Nat) (out : Bytes) (input : Bytes) : Option (Bytes × Bytes) :=
  match tailCase, input with
  | 0, input => some (out, input)
  | 1, in0 :: input =>
    some (out ++ [base64Char (in0 >>> 2), base64Char ((in0 &&& 0x3) <<< 4)], input)
  | 2, in0 :: in1 :: input =>
    some (out ++ [base64Char (in0 >>> 2), base64Char (((in0 &&& 0x3) <<< 4) ||| (in1 >>> 4)),
      base64Char ((in1 &&& 0xf) <<< 2)], input)
  | _, _ => none

/-- `grpc_chttp2_base64_encode`. -/
def base64Encode (input : Bytes) : Option Bytes :=
  let inputTriplets := input.length / 3
  let tailCase := input.length % 3
  let outputLength := inputTriplets * 4 + tailXtra tailCase
  ((encodeTriplets base64Triplet inputTriplets [] input).bind fun (out, input) =>
    base64Tail tailCase out input).bind fun (out, input) =>
      if out.length = outputLength ∧ input = [] then some out else none

/-- `huff_out`, with the bytes written so far. -/
structure HuffOut where
  temp : Nat := 0
  tempLength : Nat := 0
  out : Bytes := []
deriving DecidableEq

namespace HuffOut

/-- `enc_flush_some`: whole bytes are written while more than eight bits wait. -/
def flushSome (temp : Nat) : Nat → Bytes → HuffOut
  | more + 9, out => flushSome temp (more + 1) (out ++ [(temp >>> (more + 1)).toUInt8])
  | tempLength, out => { temp, tempLength, out }

def shifted (temp length : Nat) : Nat := (temp <<< length) % 4294967296

/-- `enc_add1`, and the body of the compressor's loop. -/
def add (out : HuffOut) (sym : HuffSym) : HuffOut :=
  flushSome (shifted out.temp sym.length ||| sym.bits) (out.tempLength + sym.length) out.out

/-- `enc_add2`. -/
def add2 (out : HuffOut) (sa sb : HuffSym) : HuffOut :=
  flushSome (shifted out.temp (sa.length + sb.length) ||| sa.bits <<< sb.length ||| sb.bits)
    (out.tempLength + (sa.length + sb.length)) out.out

/-- The last byte, filled up with ones. -/
def finish (out : HuffOut) : Bytes :=
  if out.tempLength ≠ 0 then
    out.out ++ [(out.temp <<< (8 - out.tempLength)).toUInt8 |||
      (0xff >>> out.tempLength : Nat).toUInt8]
  else out.out

end HuffOut

def bytesFor (nbits : Nat) : Nat := nbits / 8 + if nbits % 8 ≠ 0 then 1 else 0

/-- `grpc_chttp2_huffman_compress`. -/
def huffmanCompress (input : Bytes) : Option Bytes :=
  let nbits := (input.map fun byte => (huffsym byte.toNat).length).sum
  let out := (input.foldl (fun (out : HuffOut) byte => out.add (huffsym byte.toNat)) {}).finish
  if out.length = bytesFor nbits then some out else none

def huffChar (value : UInt8) : HuffSym := huffAlphabet.getD value.toNat ⟨0, 0⟩

/-- `grpc_chttp2_base64_encode_and_huffman_compress` on a full triplet. -/
def huffTriplet (out : HuffOut) (in0 in1 in2 : UInt8) : HuffOut :=
  let lowToHigh := (in0 &&& 0x3) <<< 4
  let highToLow := in1 >>> 4
  let out := out.add2 (huffChar (in0 >>> 2)) (huffChar (lowToHigh ||| highToLow))
  let a := (in1 &&& 0xf) <<< 2
  let b := in2 >>> 6
  out.add2 (huffChar (a ||| b)) (huffChar (in2 &&& 0x3f))

def huffTail (tailCase : Nat) (out : HuffOut) (input : Bytes) : Option (HuffOut × Bytes) :=
  match tailCase, input with
  | 0, input => some (out, input)
  | 1, in0 :: input =>
    some (out.add2 (huffChar (in0 >>> 2)) (huffChar ((in0 &&& 0x3) <<< 4)), input)
  | 2, in0 :: in1 :: input =>
    let out := out.add2 (huffChar (in0 >>> 2)) (huffChar (((in0 &&& 0x3) <<< 4) ||| (in1 >>> 4)))
    some (out.add (huffChar ((in1 &&& 0xf) <<< 2)), input)
  | _, _ => none

/-- `grpc_chttp2_base64_encode_and_huffman_compress`. -/
def base64EncodeAndHuffmanCompress (input : Bytes) : Option Bytes :=
  let inputTriplets := input.length / 3
  let tailCase := input.length % 3
  let outputSyms := inputTriplets * 4 + tailXtra tailCase
  let maxOutputLength := bytesFor (11 * outputSyms)
  ((encodeTriplets huffTriplet inputTriplets {} input).bind fun (out, input) =>
    huffTail tailCase out input).bind fun (out, input) =>
      if out.finish.length ≤ maxOutputLength ∧ input = [] then some out.finish else none

end GrpcCore.Hpack
