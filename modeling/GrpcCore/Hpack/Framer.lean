import GrpcCore.Lib.BigEndian
import GrpcCore.Hpack.BinEncoder
import GrpcCore.Hpack.Varint
import GrpcCore.Slice.SliceBuffer

/-!
# The framer of the header compressor

`HPackCompressor::Framer`: what the compressor emits for each header, and how it is cut
into frames. A header of nine bytes is reserved in the output and written when the frame
is finished. Which form a header takes is left to the compressor's tables.
-/

namespace GrpcCore.Hpack

def GRPC_CHTTP2_FRAME_HEADER : UInt8 := 1
def GRPC_CHTTP2_FRAME_CONTINUATION : UInt8 := 9
def GRPC_CHTTP2_DATA_FLAG_END_STREAM : UInt8 := 1
def GRPC_CHTTP2_DATA_FLAG_END_HEADERS : UInt8 := 4
def kDataFrameHeaderSize : Nat := 9

/-- The frame size is one the peer's settings can have. -/
structure EncodeHeaderOptions where
  streamId : UInt32
  isEndOfStream : Bool
  useTrueBinaryMetadata : Bool
  maxFrameSize : Nat
  atLeast : 16384 ≤ maxFrameSize
  atMost : maxFrameSize ≤ 16777215

/-- `FillHeader`. -/
def fillHeader (type : UInt8) (id : UInt32) (len : Nat) (flags : UInt8) : Bytes :=
  BigEndian.bytes24 len ++ [type, flags] ++ BigEndian.bytes32 id.toNat

end GrpcCore.Hpack

namespace GrpcCore.Slice

theorem length_writeStart {bytes : List UInt8} (header : List UInt8)
    (small : bytes.length ≤ GRPC_SLICE_INLINED_SIZE) :
    (header.take bytes.length ++ bytes.drop header.length).length ≤ GRPC_SLICE_INLINED_SIZE := by
  rw [List.length_append, List.length_take, List.length_drop]
  omega

def writeStart (header : List UInt8) : Slice → Slice
  | inlined bytes small =>
    .inlined (header.take bytes.length ++ bytes.drop header.length) (length_writeStart header small)
  | refcounted bytes => .refcounted (header.take bytes.length ++ bytes.drop header.length)

theorem bytes_writeStart (header : List UInt8) (slice : Slice) :
    (slice.writeStart header).bytes =
      header.take slice.bytes.length ++ slice.bytes.drop header.length := by
  cases slice with
  | inlined => rfl
  | refcounted => rfl

end GrpcCore.Slice

namespace GrpcCore.Hpack

structure Framer where
  options : EncodeHeaderOptions
  isFirstFrame : Bool
  output : SliceBuffer
  /-- `prefix_`: the index of the frame's header in the output, and the length of the output
  behind that header. -/
  headerIdx : Nat
  outputLengthAtStartOfFrame : Nat

namespace Framer

/-- A slice for the header; its bytes are written when the frame is finished. -/
def reserved : Slice := .inlined (List.replicate kDataFrameHeaderSize 0) (by decide)

variable (framer : Framer)

def currentFrameSize : Nat := framer.output.length - framer.outputLengthAtStartOfFrame

def finishFrame (isHeaderBoundary : Bool) : Framer :=
  let type :=
    if framer.isFirstFrame then GRPC_CHTTP2_FRAME_HEADER else GRPC_CHTTP2_FRAME_CONTINUATION
  let flags :=
    if framer.isFirstFrame && framer.options.isEndOfStream then GRPC_CHTTP2_DATA_FLAG_END_STREAM
    else 0
  let flags := if isHeaderBoundary then flags ||| GRPC_CHTTP2_DATA_FLAG_END_HEADERS else flags
  let header := fillHeader type framer.options.streamId framer.currentFrameSize flags
  { framer with
    output := { framer.output with
      slices := framer.output.slices.modify framer.headerIdx (Slice.writeStart header) }
    isFirstFrame := false }

def beginFrame : Framer :=
  let output := framer.output.addIndexed reserved
  { framer with
    output, headerIdx := framer.output.count, outputLengthAtStartOfFrame := output.length }

/-- The constructor, without the change of the table size. -/
def init (options : EncodeHeaderOptions) (output : SliceBuffer) : Framer :=
  beginFrame { options, isFirstFrame := true, output, headerIdx := 0, outputLengthAtStartOfFrame := 0 }

def ensureSpace (needBytes : Nat) : Framer :=
  if framer.currentFrameSize + needBytes ≤ framer.options.maxFrameSize then framer
  else (framer.finishFrame false).beginFrame

/-- `AddTiny`, with the bytes that the caller writes. -/
def addTiny (bytes : Bytes) (small : bytes.length ≤ GRPC_SLICE_INLINED_SIZE) : Framer :=
  let framer := framer.ensureSpace bytes.length
  { framer with output := framer.output.tinyAdd bytes small }

theorem currentFrameSize_beginFrame : framer.beginFrame.currentFrameSize = 0 := Nat.sub_self _

/-- A slice that does not fit is split, and what is left goes into the next frame. -/
def add (framer : Framer) (slice : Slice) : Framer :=
  let len := slice.length
  if len = 0 then framer
  else
    let remaining := framer.options.maxFrameSize - framer.currentFrameSize
    if len ≤ remaining then { framer with output := framer.output.add slice }
    else
      let split := slice.splitHead remaining
      let filled := { framer with output := framer.output.add split.1 }
      add (filled.finishFrame false).beginFrame split.2
termination_by (slice.length, framer.currentFrameSize)
decreasing_by
  have rest : (slice.splitHead remaining).2.length = slice.length - remaining := by
    rw [Slice.length, (Slice.bytes_splitHead slice remaining).2, List.length_drop]
    rfl
  rw [rest, currentFrameSize_beginFrame]
  by_cases full : remaining = 0
  · have least := framer.options.atLeast
    rw [full, Nat.sub_zero]
    exact Prod.Lex.right _ (by omega)
  · exact Prod.Lex.left _ _ (by omega)

end Framer

/-- A piece of the encoding: bytes written at once, or a slice. -/
inductive Piece where
  | tiny (bytes : Bytes) (small : bytes.length ≤ GRPC_SLICE_INLINED_SIZE)
  | whole (slice : Slice)

namespace Piece

def bytes : Piece → Bytes
  | tiny bytes _ => bytes
  | whole slice => slice.bytes

end Piece

def Framer.emit (framer : Framer) : Piece → Framer
  | .tiny bytes small => framer.addTiny bytes small
  | .whole slice => framer.add slice

theorem varintLength_le (tailValue : Nat) : varintLength tailValue ≤ 6 := by
  unfold varintLength
  split
  next => decide
  next =>
    split
    next => decide
    next =>
      split
      next => decide
      next =>
        split
        next => decide
        next => decide

theorem length_varintWrite_le (prefixBits : Nat) (pfx : UInt8) (value : Nat) :
    (varintWrite prefixBits pfx value).length ≤ 6 := by
  by_cases inPrefix : value < maxInVarintPrefix prefixBits
  · rw [varintWrite, if_pos inPrefix]
    exact Nat.le_add_left 1 5
  · rw [varintWrite, if_neg inPrefix, List.length_cons, Input.length_varintWriteTail]
    have bound := varintLength_le (value - maxInVarintPrefix prefixBits)
    omega

/-- `GRPC_SLICE_MALLOC`, with what is written to it. -/
def mallocSlice (bytes : Bytes) : Slice :=
  if small : bytes.length ≤ GRPC_SLICE_INLINED_SIZE then .inlined bytes small
  else .refcounted bytes

structure WireValue where
  data : Slice
  huffmanPrefix : UInt8
  insertNullBeforeWireValue : Bool

/-- `GetWireValue`; `none` is a failed assertion of the base64 encoder. -/
def getWireValue (value : Slice) (trueBinaryEnabled isBinHdr : Bool) : Option WireValue :=
  if isBinHdr then
    if trueBinaryEnabled then some ⟨value, 0x00, true⟩
    else (base64EncodeAndHuffmanCompress value.bytes).map fun data =>
      ⟨mallocSlice data, 0x80, false⟩
  else some ⟨value, 0x00, false⟩

/-- What `StringValue::WritePrefix` writes. The length is a `uint32_t`. -/
def WireValue.writePrefix (wireValue : WireValue) : Bytes :=
  let length := wireValue.data.length + if wireValue.insertNullBeforeWireValue then 1 else 0
  varintWrite 1 wireValue.huffmanPrefix (length % 4294967296) ++
    if wireValue.insertNullBeforeWireValue then [0] else []

theorem WireValue.length_writePrefix (wireValue : WireValue) :
    wireValue.writePrefix.length ≤ 7 := by
  have null : (if wireValue.insertNullBeforeWireValue then [0] else [] : Bytes).length ≤ 1 := by
    cases wireValue.insertNullBeforeWireValue with
    | false => exact Nat.zero_le 1
    | true => exact Nat.le_refl 1
  rw [writePrefix, List.length_append]
  exact Nat.add_le_add (length_varintWrite_le _ _ _) null

/-- `StringKey::WritePrefix`. -/
def stringKeyPrefix (type : UInt8) (key : Slice) : Bytes :=
  type :: varintWrite 1 0x00 (key.length % 4294967296)

/-- What the compressor emits for a header, and at the start for a new size of its table. -/
inductive Emission where
  | indexed (elemIndex : Nat)
  | litHdrIncIdx (keyIndex : Nat) (key value : Slice)
  | litHdrNotIdx (keyIndex : Nat) (key value : Slice)
  | litHdrWithStringKeyIncIdx (key value : Slice)
  | litHdrWithNonBinaryStringKeyIncIdx (key value : Slice)
  | litHdrWithStringKeyNotIdx (key value : Slice)
  | advertiseTableSizeChange (maxSize : Nat)

namespace Emission

def indexedKeyPieces (useTrueBinary : Bool) (prefixBits : Nat) (type : UInt8) (keyIndex : Nat)
    (key value : Slice) : Option (List Piece) :=
  (getWireValue value useTrueBinary (isBinaryHeader key.bytes)).map fun emit =>
    [.tiny (varintWrite prefixBits type keyIndex ++ emit.writePrefix) (by
        have first := length_varintWrite_le prefixBits type keyIndex
        have second := emit.length_writePrefix
        rw [List.length_append, GRPC_SLICE_INLINED_SIZE]
        omega),
      .whole emit.data]

def stringKeyPieces (useTrueBinary : Bool) (type : UInt8) (isBinary : Bool) (key value : Slice) :
    Option (List Piece) :=
  (getWireValue value useTrueBinary isBinary).map fun emit =>
    [.tiny (stringKeyPrefix type key) (by
        have varint := length_varintWrite_le 1 0x00 (key.length % 4294967296)
        rw [stringKeyPrefix, List.length_cons, GRPC_SLICE_INLINED_SIZE]
        omega),
      .whole key,
      .tiny emit.writePrefix (by
        have short := emit.length_writePrefix
        rw [GRPC_SLICE_INLINED_SIZE]
        omega),
      .whole emit.data]

def indexPiece (prefixBits : Nat) (type : UInt8) (index : Nat) : Piece :=
  .tiny (varintWrite prefixBits type index) (Nat.le_trans (length_varintWrite_le _ _ _) (by decide))

def pieces (useTrueBinary : Bool) : Emission → Option (List Piece)
  | indexed elemIndex => some [indexPiece 1 0x80 elemIndex]
  | litHdrIncIdx keyIndex key value => indexedKeyPieces useTrueBinary 2 0x40 keyIndex key value
  | litHdrNotIdx keyIndex key value => indexedKeyPieces useTrueBinary 4 0x00 keyIndex key value
  | litHdrWithStringKeyIncIdx key value =>
    stringKeyPieces useTrueBinary 0x40 (isBinaryHeader key.bytes) key value
  | litHdrWithNonBinaryStringKeyIncIdx key value => stringKeyPieces useTrueBinary 0x40 false key value
  | litHdrWithStringKeyNotIdx key value =>
    stringKeyPieces useTrueBinary 0x00 (isBinaryHeader key.bytes) key value
  | advertiseTableSizeChange maxSize => some [indexPiece 3 0x20 maxSize]

end Emission

/-- All pieces of a header block, unless an assertion fails. -/
def blockPieces (useTrueBinary : Bool) : List Emission → Option (List Piece)
  | [] => some []
  | emission :: emissions =>
    (emission.pieces useTrueBinary).bind fun pieces =>
      (blockPieces useTrueBinary emissions).map (pieces ++ ·)

/-- The encoding of a header block before it is cut into frames. -/
def unframed (useTrueBinary : Bool) (emissions : List Emission) : Option Bytes :=
  (blockPieces useTrueBinary emissions).map fun pieces => pieces.flatMap Piece.bytes

/-- `EncodeHeaders`: the framer is made, the headers are encoded, and the destructor finishes
the last frame. -/
def encodeHeaders (options : EncodeHeaderOptions) (emissions : List Emission)
    (output : SliceBuffer) : Option SliceBuffer :=
  (blockPieces options.useTrueBinaryMetadata emissions).map fun pieces =>
    ((pieces.foldl Framer.emit (Framer.init options output)).finishFrame true).output

end GrpcCore.Hpack
