import GrpcCore.Hpack.SliceSplit

/-!
# HEADERS and CONTINUATION frames

`init_header_frame_parser`, its skip path and `grpc_chttp2_header_parser_parse`
over the part of the transport they use. A frame is delivered in slices; what
other events do to streams between frames is an explicit step.
-/

namespace GrpcCore.Transport

open Hpack

def flagEndStream : UInt8 := 1
def flagEndHeaders : UInt8 := 4
def flagHasPriority : UInt8 := 0x20

inductive HeaderFrameType where
  | headers
  | continuation
deriving DecidableEq

/-- A deframed frame and the slices its payload arrived in. `accepted` is the
answer of the accept-stream callback, asked for new streams on a server. -/
structure HeaderFrame where
  type : HeaderFrameType
  flags : UInt8
  streamId : Nat
  slice : Bytes := []
  moreSlices : List Bytes := []
  accepted : Bool := true
deriving DecidableEq

namespace HeaderFrame

def isEoh (frame : HeaderFrame) : Bool := frame.flags &&& flagEndHeaders ≠ 0
def isEos (frame : HeaderFrame) : Bool := frame.flags &&& flagEndStream ≠ 0
def isContinuation (frame : HeaderFrame) : Bool := frame.type = .continuation
def payload (frame : HeaderFrame) : Bytes := (frame.slice :: frame.moreSlices).flatten

def priorityType (frame : HeaderFrame) : Priority :=
  if !frame.isContinuation && frame.flags &&& flagHasPriority ≠ 0 then .included else .none

end HeaderFrame

/-- The receiving side of a stream, as far as headers go. -/
structure IncomingStream where
  readClosed : Bool := false
  eosReceived : Bool := false
  headerFramesReceived : Nat := 0
  initialMetadataBuffer : MetadataBatch := {}
  trailingMetadataBuffer : MetadataBatch := {}
deriving DecidableEq

inductive MetadataSlot where
  | initial
  | trailing
deriving DecidableEq

namespace IncomingStream

def buffer (s : IncomingStream) : MetadataSlot → MetadataBatch
  | .initial => s.initialMetadataBuffer
  | .trailing => s.trailingMetadataBuffer

def setBuffer (s : IncomingStream) (slot : MetadataSlot) (batch : MetadataBatch) :
    IncomingStream :=
  match slot with
  | .initial => { s with initialMetadataBuffer := batch }
  | .trailing => { s with trailingMetadataBuffer := batch }

end IncomingStream

inductive HeaderError where
  | hpack (error : HPackError)
  | expectedContinuation (type : HeaderFrameType)
  | expectedContinuationForStream (expected got : Nat)
  | unexpectedContinuation
  | maxStreamCountExceeded
  | tooManyTrailerFrames
deriving DecidableEq

/-- The transport's state for reading headers. `incomingStream` names the stream
of the current frame with the batch its headers go to. -/
structure HeaderReader where
  isClient : Bool
  nextStreamId : Nat := 1
  lastNewStreamId : Nat := 0
  expectContinuationStreamId : Nat := 0
  headerEof : Bool := false
  maxHeaderListSize : Nat := 16777216
  maxConcurrentStreams : Nat := 4294967295
  streams : List (Nat × IncomingStream) := []
  incomingStream : Option Nat := none
  incomingBuffer : Option MetadataSlot := none
  hpackParser : HPackParser := {}
deriving DecidableEq

namespace HeaderReader

def lookupStream (r : HeaderReader) (id : Nat) : Option IncomingStream := r.streams.lookup id

def setStream (r : HeaderReader) (id : Nat) (s : IncomingStream) : HeaderReader :=
  { r with streams := r.streams.map fun entry => if entry.1 = id then (id, s) else entry }

def hpackBoundaryType (r : HeaderReader) (isEoh : Bool) : Boundary :=
  if isEoh then if r.headerEof then .endOfStream else .endOfHeaders else .none

/-- The headers are parsed, to keep the dynamic table in step, and dropped. The
end of the headers is taken from the expected continuation, which the caller
has already set from the flags. -/
def initHeaderSkipFrameParser (r : HeaderReader) (priorityType : Priority) : HeaderReader :=
  let isEoh := decide (r.expectContinuationStreamId ≠ 0)
  { r with
    incomingBuffer := none
    hpackParser := r.hpackParser.beginFrame none r.maxHeaderListSize
      (r.hpackBoundaryType isEoh) priorityType }

/-- The fields set from the flags before the stream is looked up. -/
def noteFlags (r : HeaderReader) (frame : HeaderFrame) : HeaderReader :=
  { r with
    expectContinuationStreamId := if frame.isEoh then 0 else frame.streamId
    headerEof := if frame.isContinuation then r.headerEof else frame.isEos }

/-- The batch for a stream's next block; a third block has none. -/
def metadataSlot (r : HeaderReader) (s : IncomingStream) : Option MetadataSlot :=
  match s.headerFramesReceived with
  | 0 => some (if r.isClient && r.headerEof then .trailing else .initial)
  | 1 => some .trailing
  | _ => none

def noteEos (r : HeaderReader) (s : IncomingStream) : IncomingStream :=
  if r.headerEof then { s with eosReceived := true } else s

def initLiveFrameParser (r : HeaderReader) (frame : HeaderFrame) (s : IncomingStream) :
    HeaderReader :=
  let s := r.noteEos s
  let r := r.setStream frame.streamId s
  match r.metadataSlot s with
  | none => r.initHeaderSkipFrameParser frame.priorityType
  | some slot =>
    { r with
      incomingBuffer := some slot
      hpackParser := r.hpackParser.beginFrame (some (s.buffer slot)) r.maxHeaderListSize
        (r.hpackBoundaryType frame.isEoh) frame.priorityType }

def initKnownStream (r : HeaderReader) (frame : HeaderFrame) (s : IncomingStream) :
    HeaderReader :=
  if s.readClosed then
    { r with incomingStream := none }.initHeaderSkipFrameParser frame.priorityType
  else { r with incomingStream := some frame.streamId }.initLiveFrameParser frame s

def initHeaderFrameParser (r : HeaderReader) (frame : HeaderFrame) :
    Except HeaderError HeaderReader :=
  let r := r.noteFlags frame
  match r.lookupStream frame.streamId with
  | some s => .ok (r.initKnownStream frame s)
  | none =>
    if frame.isContinuation then .ok (r.initHeaderSkipFrameParser frame.priorityType)
    else if r.isClient then .ok (r.initHeaderSkipFrameParser frame.priorityType)
    else if r.lastNewStreamId ≥ frame.streamId then
      .ok (r.initHeaderSkipFrameParser frame.priorityType)
    else if frame.streamId % 2 = 0 then
      .ok (r.initHeaderSkipFrameParser frame.priorityType)
    else if r.streams.length ≥ r.maxConcurrentStreams then .error .maxStreamCountExceeded
    else
      let r := { r with lastNewStreamId := frame.streamId }
      if frame.accepted then
        let s : IncomingStream := {}
        .ok ({ r with streams := r.streams ++ [(frame.streamId, s)] }.initKnownStream frame s)
      else .ok ({ r with incomingStream := none }.initHeaderSkipFrameParser frame.priorityType)

def initFrameParser (r : HeaderReader) (frame : HeaderFrame) :
    Except HeaderError HeaderReader :=
  if r.expectContinuationStreamId ≠ 0 then
    if frame.type ≠ .continuation then .error (.expectedContinuation frame.type)
    else if r.expectContinuationStreamId ≠ frame.streamId then
      .error (.expectedContinuationForStream r.expectContinuationStreamId frame.streamId)
    else r.initHeaderFrameParser frame
  else
    match frame.type with
    | .headers => r.initHeaderFrameParser frame
    | .continuation => .error .unexpectedContinuation

/-- Through the parser's pointer, what was parsed is in the stream's batch. -/
def storeBuffer (r : HeaderReader) : HeaderReader :=
  match r.incomingStream, r.incomingBuffer, r.hpackParser.metadataBuffer with
  | some id, some slot, some batch =>
    match r.lookupStream id with
    | some s => r.setStream id (s.setBuffer slot batch)
    | none => r
  | _, _, _ => r

/-- What the end of a frame does to its stream: a finished block is published,
and the end of the stream closes the read side. -/
def publish (boundary : Boundary) (s : IncomingStream) : IncomingStream :=
  let s := if boundary ≠ .none then
      { s with headerFramesReceived := s.headerFramesReceived + 1 } else s
  if boundary = .endOfStream then { s with readClosed := true } else s

def publishHeaders (r : HeaderReader) (id : Nat) : Option HeaderError × HeaderReader :=
  match r.lookupStream id with
  | none => (none, r)
  | some s =>
    if r.hpackParser.isBoundary && s.headerFramesReceived == 2 then
      (some .tooManyTrailerFrames, r)
    else (none, r.setStream id (publish r.hpackParser.boundary s))

/-- After the last slice: publish, then forget the batch. -/
def finishFrame (r : HeaderReader) : Option HeaderError × HeaderReader :=
  let published :=
    match r.incomingStream with
    | some id => r.publishHeaders id
    | none => (none, r)
  match published with
  | (some error, r) => (some error, r)
  | (none, r) =>
    (none, { r with
      hpackParser := r.hpackParser.finishFrame
      incomingBuffer := none
      incomingStream := none })

def parsePayload (r : HeaderReader) (frame : HeaderFrame) : Option HeaderError × HeaderReader :=
  match r.hpackParser.parseSlices frame.slice frame.moreSlices with
  | (some error, hpackParser) =>
    (some (.hpack error), { r with hpackParser }.storeBuffer)
  | (none, hpackParser) => { r with hpackParser }.storeBuffer.finishFrame

/-- One whole frame. -/
def consume (r : HeaderReader) (frame : HeaderFrame) : Option HeaderError × HeaderReader :=
  match r.initFrameParser frame with
  | .error error => (some error, r)
  | .ok r => r.parsePayload frame

/-- Frames in order, up to the first error. -/
def consumeAll (r : HeaderReader) : List HeaderFrame → Option HeaderError × HeaderReader
  | [] => (none, r)
  | frame :: frames =>
    match r.consume frame with
    | (some error, r) => (some error, r)
    | (none, r) => r.consumeAll frames

/-- Whether an accepted frame's headers are parsed only to be dropped. -/
def takesSkipPath (r : HeaderReader) (frame : HeaderFrame) : Bool :=
  match r.lookupStream frame.streamId with
  | some s => s.readClosed || 2 ≤ s.headerFramesReceived
  | none =>
    frame.isContinuation || r.isClient || r.lastNewStreamId ≥ frame.streamId ||
      frame.streamId % 2 = 0 || !frame.accepted

end HeaderReader

end GrpcCore.Transport
