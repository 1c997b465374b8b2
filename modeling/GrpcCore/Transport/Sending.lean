import GrpcCore.Transport.SendSide

/-!
# The transport that sends

Reads, write passes and stream operations of one transport, as one machine. A
read is taken slice by slice; nothing comes between its slices, and
`read_action_locked` is over with `finishRead`.
-/

namespace GrpcCore.Transport

open Hpack MachineInt Segments

namespace HeaderReader

/-- A stream that is not in the map has nothing to read. -/
def readClosed (r : HeaderReader) (id : Nat) : Bool :=
  match r.lookupStream id with
  | some s => s.readClosed
  | none => true

def closeReads (r : HeaderReader) (id : Nat) : HeaderReader :=
  match r.lookupStream id with
  | some s => r.setStream id { s with readClosed := true }
  | none => r

/-- `remove_stream`: the rest of a header block of the stream is skipped. -/
def removeStream (r : HeaderReader) (id : Nat) : HeaderReader :=
  let streams := r.streams.filter (·.1 ≠ id)
  if r.incomingStream = some id then
    { r with
      streams
      incomingStream := none
      hpackParser := { r.hpackParser with metadataBuffer := none } }
  else { r with streams }

end HeaderReader

namespace SendSide

def closeWrites (w : SendSide) (id : Nat) : SendSide :=
  if (w.streams id).writeClosed then w else w.setStream id (w.streams id).closeWrites

/-- `grpc_chttp2_mark_stream_closed`. -/
def markStreamClosed (id : Nat) (reads writes : Bool) (r : HeaderReader) (w : SendSide) :
    HeaderReader × SendSide :=
  let r := if reads then r.closeReads id else r
  let w := if writes then w.closeWrites id else w
  if r.readClosed id && (w.streams id).writeClosed then (r.removeStream id, w.removeFromLists id)
  else (r, w)

/-- The sending side as the host of the reading side. Which streams a server
accepts and which DATA frames overflow its windows is left open. -/
def host (accept : SendSide → Nat → Bool)
    (overflow : FrameHeader → HeaderReader → SendSide → Option FlowControlError) :
    Host SendSide where
  acceptStream := accept
  recvData header r w :=
    match overflow header r w with
    | some error => .error error
    | none => .ok w
  act
    | .windowUpdated id amount, r, w => (r, w.windowUpdated id amount)
    | .streamReset id _, r, w => markStreamClosed id true true r w
    | .dataRefused id, r, w => markStreamClosed id true false r w
    | .dataEnded id, r, w => markStreamClosed id true false r w
    | .headersEnded id, r, w => markStreamClosed id false false r w
    | _, r, w => (r, w)

end SendSide

/-- `grpc_chttp2_parsing_become_skip_parser`, when the frame is of the stream. -/
def FrameParser.skipStream (parser : FrameParser) (id : Nat) : FrameParser :=
  match parser with
  | .data streamId _ => if streamId = id then .skip else parser
  | .windowUpdate streamId _ => if streamId = id then .skip else parser
  | .rstStream streamId _ => if streamId = id then .skip else parser
  | _ => parser

namespace Frames

def setWorld (f : Frames SendSide) (world : SendSide) : Frames SendSide := { f with world }

def markStreamClosed (f : Frames SendSide) (id : Nat) (reads writes : Bool) : Frames SendSide :=
  let closed := SendSide.markStreamClosed id reads writes f.headers f.world
  { f with
    headers := closed.1
    world := closed.2
    parser := if closed.1.lookupStream id = none then f.parser.skipStream id else f.parser }

/-- `SentLastFrame`. A server is done with the stream. -/
def sentLastFrame (f : Frames SendSide) (id : Nat) : Frames SendSide :=
  (f.setWorld (f.world.setStream id
    { f.world.streams id with sendTrailingMetadata := none })).markStreamClosed id
      (!f.headers.isClient) true

def flushInitialMetadata (f : Frames SendSide) (id : Nat) : Frames SendSide :=
  let s := f.world.streams id
  if s.sentInitialMetadata ∨ !s.sendInitialMetadata then f
  else f.setWorld (f.world.setStream id
    { s with sendInitialMetadata := false, sentInitialMetadata := true })

def flushBytes (f : Frames SendSide) (id : Nat) (outcomes : List SendSide.Compressed) :
    Bool × SendSide :=
  if (f.world.streams id).streamCompression then
    SendSide.flushCompressed f.peerSettings id outcomes (false, f.world)
  else
    SendSide.flushUncompressed f.peerSettings id (f.world.streams id).flowControlledBuffer
      (false, f.world)

/-- After the bytes: the end of the stream, or another turn for what is left. -/
def afterBytes (f : Frames SendSide) (id : Nat) (isLastFrame : Bool) : Frames SendSide :=
  let f := if isLastFrame then f.sentLastFrame id else f
  if (f.world.streams id).hasBytes then
    f.setWorld { f.world with writable := streamListAdd f.world.writable id }
  else f

def flushData (f : Frames SendSide) (id : Nat) (outcomes : List SendSide.Compressed) :
    Frames SendSide :=
  if !(f.world.streams id).sentInitialMetadata ∨ ¬ (f.world.streams id).hasBytes then f
  else if f.world.maxOutgoing f.peerSettings id = 0 then
    f.setWorld (f.world.stall f.peerSettings id)
  else
    let sent := f.flushBytes id outcomes
    (f.setWorld sent.2).afterBytes id sent.1

/-- An empty batch is a DATA frame without data. It takes nothing from a window. -/
def flushTrailingMetadata (f : Frames SendSide) (id : Nat) : Frames SendSide :=
  let s := f.world.streams id
  if !s.sentInitialMetadata ∨ s.fetchingSendMessage ∨ s.hasBytes then f
  else
    match s.sendTrailingMetadata with
    | none => f
    | some true => (f.setWorld (f.world.encodeData f.peerSettings id 0 true)).sentLastFrame id
    | some false => f.sentLastFrame id

def writeStream (f : Frames SendSide) (id : Nat) (outcomes : List SendSide.Compressed) :
    Frames SendSide :=
  ((f.flushInitialMetadata id).flushData id outcomes).flushTrailingMetadata id

/-- The loop over the writable streams, for as many as the output has room for. -/
def writeStreams (f : Frames SendSide) : List (List SendSide.Compressed) → Frames SendSide
  | [] => f
  | outcomes :: pass =>
    match f.world.writable with
    | [] => f
    | id :: writable =>
      ((f.setWorld { f.world with writable }).writeStream id outcomes).writeStreams pass

/-- `FlushSettings`. -/
def flushSettings (f : Frames SendSide) : Option Settings → Frames SendSide
  | some settings => { f with sentSettings := settings }
  | none => f

/-- The streams that waited for the transport's window, if there is one now. -/
def wakeStalledByTransport (f : Frames SendSide) : Frames SendSide :=
  if 0 < f.world.tfc.remoteWindow then f.setWorld f.world.updateStreamsNoLongerStalled else f

/-- `grpc_chttp2_begin_write`, which a closed transport does not come to. -/
def beginWrite (f : Frames SendSide) (settings : Option Settings)
    (pass : List (List SendSide.Compressed)) : Frames SendSide :=
  if f.world.closedWithError then f
  else ((f.flushSettings settings).wakeStalledByTransport).writeStreams pass

/-- The streams are woken that a settings change may have given a window. -/
def postParse (f : Frames SendSide) : Frames SendSide :=
  if 0 < f.initialWindowUpdate then
    { f with world := f.world.wakeStalledByStream, initialWindowUpdate := 0 }
  else { f with initialWindowUpdate := 0 }

/-- `close_transport_locked` cancels every stream. -/
def closeTransport (f : Frames SendSide) : Frames SendSide :=
  if f.world.closedWithError then f
  else
    (f.headers.streams.map Prod.fst).foldl (fun f id => f.markStreamClosed id true true)
      (f.setWorld { f.world with closedWithError := true })

/-- What a batch does to a stream it may still write to, which may become
writable by it. -/
def performStreamOp (f : Frames SendSide) (id : Nat) (s : SendStream) (writable : Bool) :
    Frames SendSide :=
  if (f.world.streams id).writeClosed then f
  else if writable then f.setWorld ((f.world.setStream id s).markStreamWritable id)
  else f.setWorld (f.world.setStream id s)

def sendInitialMetadata (f : Frames SendSide) (id : Nat) (compression : Bool) :
    Frames SendSide :=
  let s := f.world.streams id
  f.performStreamOp id
    { s with
      sendInitialMetadata := true
      streamCompression := compression
      streamCompressionCtx := if compression then false else s.streamCompressionCtx
      compressedDataBuffer := if compression then 0 else s.compressedDataBuffer }
    (!f.headers.isClient)

/-- Bytes of a message, with whether more are to be fetched and whether they are
enough for the stream to become writable. -/
def sendMessage (f : Frames SendSide) (id bytes : Nat) (fetching writable : Bool) :
    Frames SendSide :=
  let s := f.world.streams id
  f.performStreamOp id
    { s with
      flowControlledBuffer := s.flowControlledBuffer + bytes
      fetchingSendMessage := fetching }
    (writable && (f.headers.lookupStream id).isSome)

def sendTrailingMetadata (f : Frames SendSide) (id : Nat) (isEmpty : Bool) : Frames SendSide :=
  f.performStreamOp id { f.world.streams id with sendTrailingMetadata := some isEmpty }
    (f.headers.lookupStream id).isSome

/-- A client's stream gets its id and becomes writable. -/
def startStream (f : Frames SendSide) (id : Nat) : Frames SendSide :=
  { f with
    headers := { f.headers with streams := f.headers.streams ++ [(id, {})] }
    world := f.world.markStreamWritable id }

end Frames

/-- What `read_action_locked` has done so far. The initial window at its start is
a record. -/
structure ReadAction where
  initialWindow : Nat
  failed : Bool := false
deriving DecidableEq

structure SendingTransport where
  deframer : Deframer SendSide
  reading : Option ReadAction := none

inductive SendAction where
  | beginRead
  | readSlice (slice : Bytes)
  | finishRead (endpointFailed : Bool)
  | beginWrite (settings : Option Settings) (pass : List (List SendSide.Compressed))
  | startStream (id : Nat)
  | sendInitialMetadata (id : Nat) (compression : Bool)
  | sendMessage (id bytes : Nat) (fetching writable : Bool)
  | sendTrailingMetadata (id : Nat) (isEmpty : Bool)
  | cancelStream (id : Nat)
  | closeTransport
deriving DecidableEq

namespace SendingTransport

def frames (t : SendingTransport) : Frames SendSide := t.deframer.frames

def world (t : SendingTransport) : SendSide := t.deframer.frames.world

def setFrames (t : SendingTransport) (frames : Frames SendSide) : SendingTransport :=
  { t with deframer := { t.deframer with frames } }

/-- A new transport. Without flow control all windows are as large as they get. -/
def initially (isClient flowControlEnabled : Bool) : SendingTransport :=
  let settings : Settings :=
    if flowControlEnabled then {} else { initialWindowSize := 2147483647, maxFrameSize := 1048576 }
  { deframer :=
      { deframeState := if isClient then .fh0 else .clientPrefix 0
        frames :=
          { headers := { isClient }
            flowControlEnabled
            peerSettings := settings
            sentSettings := settings
            ackedSettings := settings
            world :=
              { flowControlEnabled
                tfc := if flowControlEnabled then {} else
                  { remoteWindow := kMaxWindow
                    targetInitialWindowSize := kMaxWindow
                    announcedWindow := kMaxWindow } } } } }

variable (host : Host SendSide)

def readSlice (t : SendingTransport) (r : ReadAction) (slice : Bytes) : SendingTransport :=
  let read := t.deframer.performRead host slice
  { deframer := read.2, reading := some { r with failed := read.1.isSome } }

def finishRead (t : SendingTransport) (failed : Bool) : SendingTransport :=
  let frames := t.frames.postParse
  { t.setFrames (if failed then frames.closeTransport else frames) with reading := none }

def operate (f : Frames SendSide) : SendAction → Option (Frames SendSide)
  | .beginWrite settings pass => some (f.beginWrite settings pass)
  | .startStream id =>
    if f.world.closedWithError = false ∧ f.headers.isClient ∧ id ≠ 0 ∧
        f.headers.lookupStream id = none ∧ (f.world.streams id).writeClosed = false then
      some (f.startStream id)
    else none
  | .sendInitialMetadata id compression => some (f.sendInitialMetadata id compression)
  | .sendMessage id bytes fetching writable => some (f.sendMessage id bytes fetching writable)
  | .sendTrailingMetadata id isEmpty => some (f.sendTrailingMetadata id isEmpty)
  | .cancelStream id => some (f.markStreamClosed id true true)
  | .closeTransport => some f.closeTransport
  | _ => none

def beginRead (t : SendingTransport) : SendingTransport :=
  { t with reading := some { initialWindow := t.frames.peerSettings.initialWindowSize } }

/-- One action. A transport that is closed reads no more. -/
def step (t : SendingTransport) (action : SendAction) : Option SendingTransport :=
  match t.reading, action with
  | some r, .readSlice slice => if r.failed then none else some (t.readSlice host r slice)
  | some r, .finishRead endpointFailed => some (t.finishRead (r.failed || endpointFailed))
  | some _, _ => none
  | none, .beginRead => if t.world.closedWithError then none else some t.beginRead
  | none, action => (operate t.frames action).map t.setFrames

end SendingTransport

end GrpcCore.Transport
