import Mathlib

/-!
# Base64

`b64.cc`. Output is a list of bytes; codes are numbers below 128, of which 127 is padding.
-/

namespace GrpcCore.Slice.Base64

abbrev Bytes := List UInt8

def GRPC_BASE64_PAD_CHAR : UInt8 := '='.toUInt8
def GRPC_BASE64_PAD_BYTE : Nat := 0x7F
def GRPC_BASE64_MULTILINE_LINE_LEN : Nat := 76
def GRPC_BASE64_MULTILINE_NUM_BLOCKS : Nat := GRPC_BASE64_MULTILINE_LINE_LEN / 4

/-- `base64_bytes`; `none` is -1. -/
def base64Bytes (c : UInt8) : Option Nat :=
  if c = '+'.toUInt8 then some 0x3E
  else if c = '/'.toUInt8 then some 0x3F
  else if '0'.toUInt8 ≤ c ∧ c ≤ '9'.toUInt8 then some (c.toNat + 4)
  else if c = GRPC_BASE64_PAD_CHAR then some GRPC_BASE64_PAD_BYTE
  else if 'A'.toUInt8 ≤ c ∧ c ≤ 'Z'.toUInt8 then some (c.toNat - 65)
  else if 'a'.toUInt8 ≤ c ∧ c ≤ 'z'.toUInt8 then some (c.toNat - 71)
  else none

def base64UrlUnsafeChars : Bytes :=
  "ABCDEFGHIJKLMNOPQRSTUVWXYZabcdefghijklmnopqrstuvwxyz0123456789+/".toList.map
    fun char => char.toUInt8

def base64UrlSafeChars : Bytes :=
  "ABCDEFGHIJKLMNOPQRSTUVWXYZabcdefghijklmnopqrstuvwxyz0123456789-_".toList.map
    fun char => char.toUInt8

def base64Char (urlSafe : Bool) (code : Nat) : UInt8 :=
  (if urlSafe then base64UrlSafeChars else base64UrlUnsafeChars).getD code 0

section Encode

def estimateEncodedSize (dataSize : Nat) (multiline : Bool) : Nat :=
  4 * ((dataSize + 3) / 3) +
    2 * (if multiline then dataSize / (3 * GRPC_BASE64_MULTILINE_NUM_BLOCKS) else 0) + 1

variable (urlSafe multiline : Bool)

def lineBreak : Bytes := ['\r'.toUInt8, '\n'.toUInt8]

def encodeBlock (b0 b1 b2 : UInt8) : Bytes :=
  [base64Char urlSafe ((b0.toNat >>> 2) &&& 0x3F),
    base64Char urlSafe (((b0.toNat &&& 0x03) <<< 4) ||| ((b1.toNat >>> 4) &&& 0x0F)),
    base64Char urlSafe (((b1.toNat &&& 0x0F) <<< 2) ||| ((b2.toNat >>> 6) &&& 0x03)),
    base64Char urlSafe (b2.toNat &&& 0x3F)]

/-- Both parts of `grpc_base64_encode_core`: the blocks, and the tail. -/
def encodeData : Nat → Bytes → Bytes
  | numBlocks, b0 :: b1 :: b2 :: data =>
    encodeBlock urlSafe b0 b1 b2 ++
      if multiline then
        if numBlocks + 1 = GRPC_BASE64_MULTILINE_NUM_BLOCKS then lineBreak ++ encodeData 0 data
        else encodeData (numBlocks + 1) data
      else encodeData numBlocks data
  | _, [b0, b1] =>
    [base64Char urlSafe ((b0.toNat >>> 2) &&& 0x3F),
      base64Char urlSafe (((b0.toNat &&& 0x03) <<< 4) ||| ((b1.toNat >>> 4) &&& 0x0F)),
      base64Char urlSafe ((b1.toNat &&& 0x0F) <<< 2), GRPC_BASE64_PAD_CHAR]
  | _, [b0] =>
    [base64Char urlSafe ((b0.toNat >>> 2) &&& 0x3F),
      base64Char urlSafe ((b0.toNat &&& 0x03) <<< 4),
      GRPC_BASE64_PAD_CHAR, GRPC_BASE64_PAD_CHAR]
  | _, [] => []

/-- `grpc_base64_encode_core`, with the terminating zero; `none` is the failed assertion that the
characters leave room for it. -/
def encodeCore (data : Bytes) : Option Bytes :=
  let current := encodeData urlSafe multiline 0 data
  if current.length < estimateEncodedSize data.length multiline then some (current ++ [0]) else none

/-- `grpc_base64_encode` allocates as much as the core expects. -/
def encode (data : Bytes) : Option Bytes := encodeCore urlSafe multiline data

end Encode

section Decode

def decodeOneChar (c0 c1 : Nat) : Bytes := [UInt8.ofNat ((c0 <<< 2) ||| (c1 >>> 4))]

def decodeTwoChars (c0 c1 c2 : Nat) : Bytes :=
  let packed := ((c0 <<< 10) ||| (c1 <<< 4)) ||| (c2 >>> 2)
  [UInt8.ofNat (packed >>> 8), UInt8.ofNat packed]

def decodeThreeChars (c0 c1 c2 c3 : Nat) : Bytes :=
  let packed := (((c0 <<< 18) ||| (c1 <<< 12)) ||| (c2 <<< 6)) ||| c3
  [UInt8.ofNat (packed >>> 16), UInt8.ofNat (packed >>> 8), UInt8.ofNat packed]

/-- `decode_group` after some bytes. An error keeps what has been written. -/
def decodeGroup (result : Bytes) : List Nat → Except Bytes Bytes
  | [c0, c1] => .ok (result ++ decodeOneChar c0 c1)
  | [c0, c1, c2] => .ok (result ++ decodeTwoChars c0 c1 c2)
  | [c0, c1, c2, c3] =>
    if c0 = GRPC_BASE64_PAD_BYTE ∨ c1 = GRPC_BASE64_PAD_BYTE then .error result
    else if c2 = GRPC_BASE64_PAD_BYTE then
      if c3 = GRPC_BASE64_PAD_BYTE then .ok (result ++ decodeOneChar c0 c1) else .error result
    else if c3 = GRPC_BASE64_PAD_BYTE then .ok (result ++ decodeTwoChars c0 c1 c2)
    else .ok (result ++ decodeThreeChars c0 c1 c2 c3)
  | _ => .error result

variable (urlSafe : Bool)

/-- What a character stands for: `none` is an invalid one, and `some none` one that is skipped. -/
def charCode (c : UInt8) : Option (Option Nat) :=
  if 128 ≤ c then some none
  else if urlSafe ∧ (c = '+'.toUInt8 ∨ c = '/'.toUInt8) then none
  else
    let c :=
      if urlSafe then
        if c = '-'.toUInt8 then '+'.toUInt8 else if c = '_'.toUInt8 then '/'.toUInt8 else c
      else c
    match base64Bytes c with
    | none => if c ≠ '\r'.toUInt8 ∧ c ≠ '\n'.toUInt8 then none else some none
    | some code => some (some code)

/-- The loop over the characters, with the codes of the group that has begun. -/
def decodeLoop : Bytes → List Nat → Bytes → Except Bytes (List Nat × Bytes)
  | [], codes, result => .ok (codes, result)
  | c :: b64, codes, result =>
    match charCode urlSafe c with
    | none => .error result
    | some none => decodeLoop b64 codes result
    | some (some code) =>
      let codes := codes ++ [code]
      if codes.length = 4 then
        match decodeGroup result codes with
        | .error result => .error result
        | .ok result => decodeLoop b64 [] result
      else decodeLoop b64 codes result

/-- `grpc_base64_decode_with_len`. An error is an empty slice, and keeps what has been written. -/
def decodeWithLen (b64 : Bytes) : Except Bytes Bytes :=
  match decodeLoop urlSafe b64 [] [] with
  | .error result => .error result
  | .ok (codes, result) => if codes.length ≠ 0 then decodeGroup result codes else .ok result

/-- `grpc_base64_decode` of a string that ends with a zero. -/
def decode (b64 : Bytes) : Except Bytes Bytes :=
  decodeWithLen urlSafe (b64.takeWhile (· ≠ 0))

end Decode

end GrpcCore.Slice.Base64
