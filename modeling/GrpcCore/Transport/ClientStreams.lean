import GrpcCore.Transport.Settings
import GrpcCore.Transport.StreamMap

/-!
# Streams of a client transport

How `chttp2_transport.cc` starts, removes and cancels the streams of a client,
and how it closes the transport. The functions call each other in a circle in
the source (cancelling a stream removes it, removing the last one may close the
transport, closing cancels all streams). Here the circle is cut at the two calls
whose argument makes the inner call trivial: a stream that has no id is not
removed from the map, and an empty map has no calls to end.
-/

namespace GrpcCore.Transport

/-- A `grpc_chttp2_stream*`. -/
abbrev StreamRef := Nat

structure ClientStream where
  id : Nat := 0
  readClosed : Bool := false
  writeClosed : Bool := false
deriving DecidableEq

namespace ClientStream

def closed (stream : ClientStream) : Bool := stream.readClosed && stream.writeClosed

def close (stream : ClientStream) (closeReads closeWrites : Bool) : ClientStream :=
  { stream with
    readClosed := stream.readClosed || closeReads
    writeClosed := stream.writeClosed || closeWrites }

end ClientStream

inductive WriteState where
  | idle
  | writing
  | writingWithMore
deriving DecidableEq

def WriteState.level : WriteState → Nat
  | .idle => 0
  | .writing => 1
  | .writingWithMore => 2

inductive SentGoawayState where
  | noGoawaySend
  | sendScheduled
  | sent
deriving DecidableEq

/-- One stream's start: the id it got, and what was compared with what. -/
structure StreamStart where
  stream : StreamRef
  id : Nat
  mapSize : Nat
  maxConcurrentStreams : Nat
deriving DecidableEq

/-- The two last fields record what has happened and are read by nothing. -/
structure ClientTransport where
  streams : StreamRef → ClientStream := fun _ => {}
  streamMap : StreamMap StreamRef := {}
  waitingForConcurrency : List StreamRef := []
  nextStreamId : Nat := 1
  peerSettings : Settings := {}
  goawayError : Bool := false
  sentGoawayState : SentGoawayState := .noGoawaySend
  writeState : WriteState := .idle
  closedWithError : Bool := false
  closeTransportOnWritesFinished : Bool := false
  requested : List StreamRef := []
  started : List StreamStart := []

def maxClientStreamId : Nat := 0x7fffffff

namespace ClientTransport

def setStream (t : ClientTransport) (s : StreamRef) (stream : ClientStream) : ClientTransport :=
  { t with streams := Function.update t.streams s stream }

def setWaiting (t : ClientTransport) (waitingForConcurrency : List StreamRef) :
    ClientTransport :=
  { t with waitingForConcurrency }

/-- `grpc_chttp2_initiate_write`. The begin of the write is a later action. -/
def initiateWrite (t : ClientTransport) : ClientTransport :=
  match t.writeState with
  | .idle => { t with writeState := .writing }
  | .writing => { t with writeState := .writingWithMore }
  | .writingWithMore => t

/-- `grpc_chttp2_cancel_stream` of a stream that has no id yet. -/
def cancelUnstarted (t : ClientTransport) (s : StreamRef) : ClientTransport :=
  if (t.streams s).closed then t
  else
    (t.setStream s ((t.streams s).close true true)).setWaiting
      (t.waitingForConcurrency.erase s)

def cancelWaiting (t : ClientTransport) : ClientTransport :=
  t.waitingForConcurrency.foldl cancelUnstarted (t.setWaiting [])

def maxConcurrentStreams (t : ClientTransport) : Nat := t.peerSettings.get .maxConcurrentStreams

def startStream (t : ClientTransport) (s : StreamRef) : ClientTransport :=
  let id := t.nextStreamId
  let start : StreamStart := ⟨s, id, t.streamMap.size, t.maxConcurrentStreams⟩
  initiateWrite
    { t.setStream s { t.streams s with id } with
      nextStreamId := t.nextStreamId + 2
      streamMap := t.streamMap.add id s
      started := t.started ++ [start] }

/-- The loop of `maybe_start_some_streams`, over the list it pops from. -/
def startStreams : ClientTransport → List StreamRef → ClientTransport
  | t, [] => t.setWaiting []
  | t, s :: waiting =>
    if t.nextStreamId ≤ maxClientStreamId ∧ t.streamMap.size < t.maxConcurrentStreams then
      startStreams ((t.setWaiting waiting).startStream s) waiting
    else t.setWaiting (s :: waiting)

def maybeStartSomeStreams (t : ClientTransport) : ClientTransport :=
  if t.goawayError then t.cancelWaiting
  else
    let t := t.startStreams t.waitingForConcurrency
    if t.nextStreamId ≥ maxClientStreamId then t.cancelWaiting else t

def delayClose (t : ClientTransport) : ClientTransport :=
  { t with closeTransportOnWritesFinished := true }

def setClosedWithError (t : ClientTransport) : ClientTransport :=
  { t with closedWithError := true }

/-- `close_transport_locked` after `end_all_the_calls`. -/
def finishClose (t : ClientTransport) : ClientTransport :=
  if t.closedWithError then t
  else if t.writeState ≠ .idle then t.delayClose
  else t.setClosedWithError

def deleteStream (t : ClientTransport) (id : Nat) : ClientTransport :=
  { t with streamMap := t.streamMap.delete id }

/-- The map is empty where the transport is closed from here, so there are no
calls to end. -/
def removeStream (t : ClientTransport) (id : Nat) : ClientTransport :=
  let t := t.deleteStream id
  if t.streamMap.size = 0 ∧ t.sentGoawayState = .sent then t.finishClose.maybeStartSomeStreams
  else t.maybeStartSomeStreams

def markStreamClosed (t : ClientTransport) (s : StreamRef) (closeReads closeWrites : Bool) :
    ClientTransport :=
  if (t.streams s).closed then t
  else
    let stream := (t.streams s).close closeReads closeWrites
    if stream.closed then
      if stream.id ≠ 0 then (t.setStream s stream).removeStream stream.id
      else (t.setStream s stream).setWaiting (t.waitingForConcurrency.erase s)
    else t.setStream s stream

/-- The RST_STREAM frame is queued for the write that is initiated. -/
def cancelStream (t : ClientTransport) (s : StreamRef) : ClientTransport :=
  if !(t.streams s).closed ∧ (t.streams s).id ≠ 0 then t.initiateWrite.markStreamClosed s true true
  else t.markStreamClosed s true true

/-- Every round of the loop either passes a cell of the map or moves a waiting
stream into it. -/
def endAllTheCalls (t : ClientTransport) : ClientTransport :=
  StreamMap.forEachFrom streamMap (fun t _ s => t.cancelStream s)
    (t.streamMap.count + t.waitingForConcurrency.length) 0 t

def closeTransportLocked (t : ClientTransport) : ClientTransport := t.endAllTheCalls.finishClose

def setWriteState (t : ClientTransport) (writeState : WriteState) : ClientTransport :=
  { t with writeState }

def takeDelayedClose (t : ClientTransport) : ClientTransport :=
  { t with closeTransportOnWritesFinished := false }

/-- `set_write_state` to idle, which is when a close that was put off is made. -/
def setWriteStateIdle (t : ClientTransport) : ClientTransport :=
  if t.closeTransportOnWritesFinished then
    (t.setWriteState .idle).takeDelayedClose.closeTransportLocked
  else t.setWriteState .idle

/-- What `grpc_chttp2_begin_write` did: the streams whose last frame it wrote,
whether it wrote anything else, and whether it stopped early. -/
structure BeginWrite where
  lastFrames : List StreamRef := []
  otherBytes : Bool := false
  partialWrite : Bool := false
deriving DecidableEq

def BeginWrite.writing (result : BeginWrite) : Bool :=
  !result.lastFrames.isEmpty || result.otherBytes

/-- `SentLastFrame` for one stream after the other. -/
def sentLastFrames (t : ClientTransport) (lastFrames : List StreamRef) : ClientTransport :=
  lastFrames.foldl (fun t s => t.markStreamClosed s false true) t

def writeActionBeginLocked (t : ClientTransport) (result : BeginWrite) : ClientTransport :=
  if t.closedWithError then t.setWriteStateIdle
  else if result.writing then
    (t.sentLastFrames result.lastFrames).setWriteState
      (if result.partialWrite then .writingWithMore else .writing)
  else (t.sentLastFrames result.lastFrames).setWriteStateIdle

def setSentGoawayState (t : ClientTransport) (sentGoawayState : SentGoawayState) :
    ClientTransport :=
  { t with sentGoawayState }

def noteGoawaySent (t : ClientTransport) : ClientTransport :=
  if t.sentGoawayState = .sendScheduled then
    if t.streamMap.size = 0 then (t.setSentGoawayState .sent).closeTransportLocked
    else t.setSentGoawayState .sent
  else t

def writeActionEndLocked (t : ClientTransport) (error : Bool) : ClientTransport :=
  let t := if error then t.closeTransportLocked.noteGoawaySent else t.noteGoawaySent
  match t.writeState with
  | .idle => t
  | .writing => t.setWriteStateIdle
  | .writingWithMore => t.setWriteState .writing

def sendGoaway (t : ClientTransport) : ClientTransport :=
  (t.setSentGoawayState .sendScheduled).initiateWrite

def sendInitialMetadata (t : ClientTransport) (s : StreamRef) : ClientTransport :=
  if (t.streams s).writeClosed then t
  else if t.closedWithError then t.cancelStream s
  else if s ∈ t.waitingForConcurrency then t.maybeStartSomeStreams
  else
    { t.setWaiting (t.waitingForConcurrency ++ [s]) with
      requested := t.requested ++ [s] }.maybeStartSomeStreams

def destructiveReclaimerLocked (t : ClientTransport) (random : Nat) : ClientTransport :=
  let (drawn, streamMap) := t.streamMap.rand random
  match drawn with
  | some s => { t with streamMap }.cancelStream s
  | none => { t with streamMap }

/-- The steps of a transport, each run under its combiner. A read is one step for
each frame that does something to the streams. -/
inductive Action where
  /-- `perform_stream_op_locked` with send_initial_metadata. -/
  | sendInitialMetadata (s : StreamRef)
  /-- Any operation or frame that does no more here than ask for a write. -/
  | initiateWrite
  /-- A cancellation by the application, or after an error of the stream. -/
  | cancelStream (s : StreamRef)
  /-- A received END_STREAM flag or RST_STREAM frame. -/
  | markStreamClosed (s : StreamRef) (closeReads closeWrites : Bool)
  | settings (incoming : Settings)
  | goaway
  | sendGoaway
  | destructiveReclaimer (random : Nat)
  /-- A disconnect, a failed read or parse, or a keepalive timeout. -/
  | closeTransport
  | writeActionBegin (result : BeginWrite)
  | writeActionEnd (error : Bool)

/-- A step fails where the source has an assertion. -/
def step (t : ClientTransport) : Action → Option ClientTransport
  | .sendInitialMetadata s =>
    if !(t.streams s).writeClosed ∧ !t.closedWithError ∧ (t.streams s).id ≠ 0 then none
    else some (t.sendInitialMetadata s)
  | .initiateWrite => some t.initiateWrite
  | .cancelStream s => some (t.cancelStream s)
  | .markStreamClosed s closeReads closeWrites =>
    some (t.markStreamClosed s closeReads closeWrites)
  | .settings incoming => some { t with peerSettings := incoming }
  | .goaway => some { t with goawayError := true }
  | .sendGoaway => some t.sendGoaway
  | .destructiveReclaimer random => some (t.destructiveReclaimerLocked random)
  | .closeTransport => some t.closeTransportLocked
  | .writeActionBegin result =>
    if t.writeState = .idle then none else some (t.writeActionBeginLocked result)
  | .writeActionEnd error =>
    if t.writeState = .idle then none else some (t.writeActionEndLocked error)

end ClientTransport

end GrpcCore.Transport
