import GrpcCore.Slice.SliceContent

/-!
# Messages out of data frames

`grpc_deframe_unprocessed_incoming_frames`: each call takes bytes from the front of a slice
buffer until a message has begun, a part of its payload has been handed over, or no slice is
left.
-/

namespace GrpcCore.Transport.Data

open SliceBuffer

inductive DataState where
  | fh0
  | fh1
  | fh2
  | fh3
  | fh4
  | frame
  | error
deriving DecidableEq

/-- The errors that a call returns. A bad type comes with what is attached to it. -/
inductive DataError where
  | badFrameType (frameType : UInt8) (streamId : Nat) (rawBytes : List UInt8) (offset : Nat)
  | tooManyBytes
  | truncated
deriving DecidableEq

def GRPC_WRITE_INTERNAL_COMPRESS : UInt32 := 0x80000000

/-- `Chttp2IncomingByteStream`, with the length and the flags of `ByteStream`. -/
structure IncomingByteStream where
  length : Nat
  flags : UInt32
  remainingBytes : Nat
deriving DecidableEq

namespace IncomingByteStream

def create (frameSize : Nat) (flags : UInt32) : IncomingByteStream := ⟨frameSize, flags, frameSize⟩

variable (stream : IncomingByteStream)

/-- `Push`; if there is no error the slice is handed over. -/
def push (slice : Slice) : Except DataError IncomingByteStream :=
  if stream.remainingBytes < slice.length then .error .tooManyBytes
  else .ok { stream with remainingBytes := stream.remainingBytes - slice.length }

/-- `Finished`, without an earlier error. -/
def finished : Option DataError := if stream.remainingBytes ≠ 0 then some .truncated else none

end IncomingByteStream

/-- `grpc_chttp2_data_parser`. -/
structure DataParser where
  state : DataState := .fh0
  frameType : UInt8 := 0
  frameSize : Nat := 0
  error : Option DataError := none
  isFrameCompressed : Bool := false
  parsingFrame : Option IncomingByteStream := none
deriving DecidableEq

/-- How the bytes of a slice are left: the slice has ended inside a header, its first byte is
no type, a message has begun, or it is for the other two states. -/
inductive DataPass where
  | ended (parser : DataParser)
  | failed (parser : DataParser) (error : DataError)
  | began (parser : DataParser) (stream : IncomingByteStream) (rest : List UInt8)
  | payload
  | repeats

namespace DataParser

variable (p : DataParser)

def fh4 : List UInt8 → DataPass
  | [] => .ended { p with state := .fh4 }
  | cur :: rest =>
    let frameSize := p.frameSize ||| cur.toNat
    let messageFlags := if p.isFrameCompressed then GRPC_WRITE_INTERNAL_COMPRESS else 0
    .began { p with frameSize } (.create frameSize messageFlags) rest

def fh3 : List UInt8 → DataPass
  | [] => .ended { p with state := .fh3 }
  | cur :: rest => fh4 { p with frameSize := p.frameSize ||| cur.toNat <<< 8 } rest

def fh2 : List UInt8 → DataPass
  | [] => .ended { p with state := .fh2 }
  | cur :: rest => fh3 { p with frameSize := p.frameSize ||| cur.toNat <<< 16 } rest

def fh1 : List UInt8 → DataPass
  | [] => .ended { p with state := .fh1 }
  | cur :: rest => fh2 { p with frameSize := cur.toNat <<< 24 } rest

/-- A bad type is the first byte that is looked at, so its offset is 0. -/
def fh0 (streamId : Nat) : List UInt8 → DataPass
  | [] => .ended { p with state := .fh0 }
  | cur :: rest =>
    if cur = 0 then fh1 { p with frameType := cur, isFrameCompressed := false } rest
    else if cur = 1 then fh1 { p with frameType := cur, isFrameCompressed := true } rest
    else
      let error := .badFrameType cur streamId (cur :: rest) 0
      .failed { p with frameType := cur, error := some error, state := .error } error

def pass (streamId : Nat) (bytes : List UInt8) : DataPass :=
  match p.state with
  | .error => .repeats
  | .fh0 => p.fh0 streamId bytes
  | .fh1 => p.fh1 bytes
  | .fh2 => p.fh2 bytes
  | .fh3 => p.fh3 bytes
  | .fh4 => p.fh4 bytes
  | .frame => .payload

end DataParser

/-- What a call leaves and returns. With `streamOut`, `pending_byte_stream` is set. -/
structure Deframed where
  parser : DataParser
  slices : SliceBuffer
  error : Option DataError := none
  streamOut : Option IncomingByteStream := none
  sliceOut : Option Slice := none

namespace DataParser

variable (p : DataParser) (slices : SliceBuffer) (slice : Slice)

/-- `grpc_slice_sub`, which copies what is short. -/
def sub (slice : Slice) (begin_ end_ : Nat) : Slice :=
  if short : ((slice.bytes.take end_).drop begin_).length ≤ GRPC_SLICE_INLINED_SIZE then
    .inlined ((slice.bytes.take end_).drop begin_) short
  else slice.sub begin_ end_

/-- A message begins, and is over at once if it is empty. `rest` is what is left of the first
slice. -/
def beginMessage (stream : IncomingByteStream) (rest : List UInt8) : Option Deframed :=
  let parser :=
    if stream.remainingBytes = 0 then { p with parsingFrame := none, state := .fh0 }
    else { p with parsingFrame := some stream, state := .frame }
  let slices :=
    if rest ≠ [] then slices.subFirst (slice.length - rest.length) slice.length
    else slices.removeFirst
  slices.map fun slices => { parser, slices, streamOut := some stream }

/-- The last bytes of a message. -/
def finish (stream : IncomingByteStream) (sliceOut : Slice) (slices : Option SliceBuffer)
    (removed : Option SliceBuffer) : Option Deframed :=
  match stream.finished with
  | some error => removed.map fun slices =>
    { parser := { p with parsingFrame := some stream }, slices, error := some error,
      sliceOut := some sliceOut }
  | none => slices.map fun slices =>
    { parser := { p with parsingFrame := none, state := .fh0 }, slices,
      sliceOut := some sliceOut }

/-- The payload: the slice ends with it, is a part of it, or goes beyond it. The length of the
slice is cast to `uint32_t`. In the last case a failed `Push` is not returned. -/
def readPayload (stream : IncomingByteStream) : Option Deframed :=
  let remaining := slice.length % 4294967296
  if remaining = p.frameSize then
    match stream.push (sub slice 0 slice.length) with
    | .error error => slices.removeFirst.map fun slices => { parser := p, slices, error := some error }
    | .ok stream => p.finish stream (sub slice 0 slice.length) slices.removeFirst slices.removeFirst
  else if remaining < p.frameSize then
    match stream.push (sub slice 0 slice.length) with
    | .error error => some { parser := p, slices, error := some error }
    | .ok stream => slices.removeFirst.map fun slices =>
      { parser := { p with parsingFrame := some stream, frameSize := p.frameSize - remaining },
        slices, sliceOut := some (sub slice 0 slice.length) }
  else
    match stream.push (sub slice 0 p.frameSize) with
    | .error _ => slices.removeFirst.map fun slices => { parser := p, slices }
    | .ok stream => p.finish stream (sub slice 0 p.frameSize)
        (slices.subFirst p.frameSize slice.length) slices.removeFirst

end DataParser

/-- The loop over the slices of the buffer. `none` is a failed assertion. -/
def deframeLoop (streamId : Nat) (streamOut sliceOut : Bool) :
    List Slice → DataParser → SliceBuffer → Option Deframed
  | [], p, slices => some { parser := p, slices }
  | slice :: rest, p, slices =>
    if slice.bytes = [] then
      slices.removeFirst.bind fun slices => deframeLoop streamId streamOut sliceOut rest p slices
    else
      match p.pass streamId slice.bytes with
      | .repeats => slices.removeFirst.map fun slices => { parser := p, slices, error := p.error }
      | .ended p => slices.removeFirst.bind fun slices =>
        deframeLoop streamId streamOut sliceOut rest p slices
      | .failed p error => slices.removeFirst.map fun slices =>
        { parser := p, slices, error := some error }
      | .began p stream left =>
        if streamOut && p.parsingFrame.isNone then p.beginMessage slices slice stream left
        else none
      | .payload =>
        match p.parsingFrame with
        | some stream => if sliceOut then p.readPayload slices slice stream else none
        | none => none

/-- `grpc_deframe_unprocessed_incoming_frames`; the last two arguments say which of the pointers
are not null. -/
def deframeUnprocessedIncomingFrames (streamId : Nat) (p : DataParser) (slices : SliceBuffer)
    (sliceOut streamOut : Bool) : Option Deframed :=
  deframeLoop streamId streamOut sliceOut slices.slices p slices

end GrpcCore.Transport.Data
