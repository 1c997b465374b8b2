import GrpcCore.Transport.Deframer

/-!
# The sending side

What `writing.cc` sends of the data that streams have buffered, within the
peer's windows, and how the frames of the peer change these windows. The reading
side is the deframer; its host is the sending side.
-/

namespace GrpcCore.Transport

open Hpack MachineInt

/-- The sending half of a stream. The last field is a record that is read by
nothing. -/
structure SendStream where
  sfc : StreamFlowControl := {}
  flowControlledBuffer : Nat := 0
  compressedDataBuffer : Nat := 0
  streamCompression : Bool := false
  streamCompressionCtx : Bool := false
  sendInitialMetadata : Bool := false
  sentInitialMetadata : Bool := false
  fetchingSendMessage : Bool := false
  /-- The batch to send, if there is one, and whether it is empty. -/
  sendTrailingMetadata : Option Bool := none
  writeClosed : Bool := false
  incrementsReceived : Nat := 0
deriving DecidableEq

/-- A DATA frame with the limits of the moment it was sent: the peer's largest
frame, and for the connection and for the stream the initial window plus the
increments received less the bytes sent. -/
structure DataFrame where
  streamId : Nat
  length : Nat
  endStream : Bool
  maxFrameSize : Nat
  transportWindow : Int
  streamWindow : Int
deriving DecidableEq

/-- The last two fields are a record that is read by nothing: the increments of
the connection's window and the DATA frames sent. -/
structure SendSide where
  flowControlEnabled : Bool := true
  tfc : TransportFlowControl := {}
  streams : Nat → SendStream := fun _ => {}
  writable : List Nat := []
  stalledByTransport : List Nat := []
  stalledByStream : List Nat := []
  closedWithError : Bool := false
  incrementsReceived : Nat := 0
  dataFrames : List DataFrame := []

/-- `stream_list_add`. -/
def streamListAdd (list : List Nat) (id : Nat) : List Nat :=
  if id ∈ list then list else list ++ [id]

/-- `grpc_chttp2_fail_pending_writes`, with the mark that makes it happen once. -/
def SendStream.closeWrites (s : SendStream) : SendStream :=
  { s with
    writeClosed := true
    sendInitialMetadata := false
    sendTrailingMetadata := none
    fetchingSendMessage := false }

def SendStream.compressedDataBufferLen (s : SendStream) : Nat :=
  if s.streamCompression then s.compressedDataBuffer else 0

def SendStream.hasBytes (s : SendStream) : Prop :=
  0 < s.flowControlledBuffer ∨ 0 < s.compressedDataBufferLen

instance (s : SendStream) : Decidable s.hasBytes := inferInstanceAs (Decidable (_ ∨ _))

namespace SendSide

def setStream (w : SendSide) (id : Nat) (s : SendStream) : SendSide :=
  { w with streams := Function.update w.streams id s }

def markStreamWritable (w : SendSide) (id : Nat) : SendSide :=
  if w.closedWithError then w else { w with writable := streamListAdd w.writable id }

/-- `RecvUpdate` of a stream. Without flow control it does nothing. -/
def recvStreamUpdate (w : SendSide) (id amount : Nat) : SendSide :=
  let s := w.streams id
  w.setStream id { s with
    sfc := if w.flowControlEnabled then s.sfc.recvUpdate amount else s.sfc
    incrementsReceived := s.incrementsReceived + amount }

/-- `RecvUpdate` of the transport. -/
def recvTransportUpdate (w : SendSide) (amount : Nat) : SendSide :=
  { w with
    tfc := if w.flowControlEnabled then w.tfc.recvUpdate amount else w.tfc
    incrementsReceived := w.incrementsReceived + amount }

def unstall (w : SendSide) (id : Nat) : SendSide :=
  if id ∈ w.stalledByStream then
    { w with stalledByStream := w.stalledByStream.filter (· ≠ id) }.markStreamWritable id
  else w

def windowUpdated (w : SendSide) (id amount : Nat) : SendSide :=
  if id = 0 then w.recvTransportUpdate amount else (w.recvStreamUpdate id amount).unstall id

/-- `remove_stream` takes the stream off the lists. -/
def removeFromLists (w : SendSide) (id : Nat) : SendSide :=
  { w with
    writable := w.writable.filter (· ≠ id)
    stalledByStream := w.stalledByStream.filter (· ≠ id)
    stalledByTransport := w.stalledByTransport.filter (· ≠ id) }

def wakeStalledByStream (w : SendSide) : SendSide :=
  w.stalledByStream.foldl markStreamWritable { w with stalledByStream := [] }

/-- `UpdateStreamsNoLongerStalled`. -/
def updateStreamsNoLongerStalled (w : SendSide) : SendSide :=
  w.stalledByTransport.foldl markStreamWritable { w with stalledByTransport := [] }

/-- The window a stream really has. -/
def streamWindow (peer : Settings) (w : SendSide) (id : Nat) : Int :=
  (w.streams id).sfc.remoteWindowDelta + peer.initialWindowSize

def streamRemoteWindow (peer : Settings) (w : SendSide) (id : Nat) : Nat :=
  uint32 (max 0 (w.streamWindow peer id))

/-- The window of the transport is compared as a signed number and cast after. -/
def maxOutgoing (peer : Settings) (w : SendSide) (id : Nat) : Nat :=
  min peer.maxFrameSize (uint32 (min (w.streamRemoteWindow peer id) w.tfc.remoteWindow))

def bytesSent (w : SendSide) : Nat := (w.dataFrames.map DataFrame.length).sum

def streamBytesSent (w : SendSide) (id : Nat) : Nat :=
  ((w.dataFrames.filter (·.streamId = id)).map DataFrame.length).sum

/-- `grpc_chttp2_encode_data` puts a frame into the output. -/
def encodeData (peer : Settings) (w : SendSide) (id sendBytes : Nat) (isEof : Bool) : SendSide :=
  let frame : DataFrame :=
    { streamId := id
      length := sendBytes
      endStream := isEof
      maxFrameSize := peer.maxFrameSize
      transportWindow := kDefaultWindow + w.incrementsReceived - w.bytesSent
      streamWindow := peer.initialWindowSize + (w.streams id).incrementsReceived -
        w.streamBytesSent id }
  { w with dataFrames := w.dataFrames ++ [frame] }

/-- `SentData`. -/
def sentData (w : SendSide) (id sendBytes : Nat) : SendSide :=
  let s := w.streams id
  let (tfc, sfc) := StreamFlowControl.sentData w.tfc s.sfc sendBytes
  if w.flowControlEnabled then { w.setStream id { s with sfc } with tfc } else w

/-- `FlushUncompressedBytes`, with whether the frame was the last one. -/
def flushUncompressedBytes (peer : Settings) (w : SendSide) (id : Nat) : Bool × SendSide :=
  let s := w.streams id
  let sendBytes := min (w.maxOutgoing peer id) s.flowControlledBuffer
  let isLastFrame := decide (sendBytes = s.flowControlledBuffer) && !s.fetchingSendMessage &&
    s.sendTrailingMetadata = some true
  let w := w.setStream id { s with flowControlledBuffer := s.flowControlledBuffer - sendBytes }
  (isLastFrame, (w.encodeData peer id sendBytes isLastFrame).sentData id sendBytes)

/-- The loop of `FlushData` for a stream without compression. Every round sends a
byte at least. -/
def flushUncompressed (peer : Settings) (id : Nat) : Nat → Bool × SendSide → Bool × SendSide
  | 0, sent => sent
  | fuel + 1, (isLastFrame, w) =>
    if 0 < (w.streams id).flowControlledBuffer ∧ 0 < w.maxOutgoing peer id then
      flushUncompressed peer id fuel (w.flushUncompressedBytes peer id)
    else (isLastFrame, w)

/-- The outcome of `grpc_stream_compress`: the bytes it leaves and those it adds
to what is compressed. -/
structure Compressed where
  left : Nat
  produced : Nat
deriving DecidableEq

def compress (w : SendSide) (id : Nat) (outcome : Compressed) (ctx : Bool) : SendSide :=
  let s := w.streams id
  w.setStream id { s with
    flowControlledBuffer := outcome.left
    compressedDataBuffer := s.compressedDataBuffer + outcome.produced
    streamCompressionCtx := ctx }

/-- `FlushCompressedBytes`. The first time the last bytes are reached, the
compression is finished instead, which may produce more. -/
def flushCompressedBytes (peer : Settings) (outcome : Compressed) (isLastFrame : Bool)
    (w : SendSide) (id : Nat) : Bool × SendSide :=
  let s := w.streams id
  let sendBytes := min (w.maxOutgoing peer id) s.compressedDataBuffer
  let isLastDataFrame := decide (sendBytes = s.compressedDataBuffer) &&
    decide (s.flowControlledBuffer = 0) && !s.fetchingSendMessage
  if isLastDataFrame && s.sendTrailingMetadata.isSome && s.streamCompressionCtx then
    (isLastFrame, w.compress id outcome false)
  else
    let isLastFrame := isLastDataFrame && s.sendTrailingMetadata = some true
    let w := w.setStream id { s with compressedDataBuffer := s.compressedDataBuffer - sendBytes }
    (isLastFrame, (w.encodeData peer id sendBytes isLastFrame).sentData id sendBytes)

/-- The loop of `FlushData` for a compressed stream, one outcome for each round. -/
def flushCompressed (peer : Settings) (id : Nat) :
    List Compressed → Bool × SendSide → Bool × SendSide
  | [], sent => sent
  | outcome :: outcomes, (isLastFrame, w) =>
    if (0 < (w.streams id).flowControlledBuffer ∨ 0 < (w.streams id).compressedDataBuffer) ∧
        0 < w.maxOutgoing peer id then
      flushCompressed peer id outcomes
        (if 0 < (w.streams id).compressedDataBuffer then
          w.flushCompressedBytes peer outcome isLastFrame id
        else (isLastFrame, w.compress id outcome true))
    else (isLastFrame, w)

def stall (peer : Settings) (w : SendSide) (id : Nat) : SendSide :=
  if w.tfc.remoteWindow ≤ 0 then
    { w with stalledByTransport := streamListAdd w.stalledByTransport id }
  else if w.streamRemoteWindow peer id = 0 then
    { w with stalledByStream := streamListAdd w.stalledByStream id }
  else w

end SendSide

end GrpcCore.Transport
