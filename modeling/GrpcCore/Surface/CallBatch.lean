import GrpcCore.Hpack.Metadata
import GrpcCore.Lib.Run

/-!
# Batches of a call

`call_start_batch` rewrites the application's ops into one batch for the
transport, op after op, and undoes what it did when an op is refused. A call is
seen with the application's byte buffers and the closures the transport owes it.
-/

namespace GrpcCore.Surface

open Hpack (Bytes Header ascii isBinaryHeader callouts)

/-- `grpc_call_error`, as far as a batch is answered with it. -/
inductive CallError where
  | ok
  | callError
  | notOnServer
  | notOnClient
  | tooManyOperations
  | invalidFlags
  | invalidMetadata
  | invalidMessage
deriving DecidableEq

/-! ## Compression levels -/

inductive CompressionAlgorithm where
  | none
  | deflate
  | gzip
  | streamGzip
deriving DecidableEq

/-- `encodings_accepted_by_peer`: the bit of no compression is always set. -/
structure AcceptedEncodings where
  deflate : Bool := false
  gzip : Bool := false
deriving DecidableEq

def AcceptedEncodings.sortedSupportedAlgos (accepted : AcceptedEncodings) :
    List CompressionAlgorithm :=
  (if accepted.gzip then [.gzip] else []) ++ if accepted.deflate then [.deflate] else []

def messageCompressionAlgorithmForLevel (level : Nat) (accepted : AcceptedEncodings) :
    CompressionAlgorithm :=
  let algos := accepted.sortedSupportedAlgos
  match level with
  | 0 => .none
  | 1 => algos.getD 0 .none
  | 2 => algos.getD (algos.length / 2) .none
  | _ => algos.getD (algos.length - 1) .none

def compressionAlgorithmForLevel (level : Nat) (accepted : AcceptedEncodings) :
    CompressionAlgorithm :=
  if level ≤ 3 then messageCompressionAlgorithmForLevel level accepted else .none

def CompressionAlgorithm.slice : CompressionAlgorithm → Bytes
  | .none => ascii "identity"
  | .deflate => ascii "deflate"
  | .gzip => ascii "gzip"
  | .streamGzip => ascii "stream/gzip"

/-! ## Metadata -/

/-- `grpc_metadata_batch`: the linked elements, and the deadline kept beside them. -/
structure MetadataBatch where
  list : List Header := []
  grpcTimeout : Option Int := none
deriving DecidableEq

local instance : LawfulBEq Bytes := inferInstance

def MetadataBatch.linkTail (batch : MetadataBatch) (md : Header) : MetadataBatch :=
  if md.key ∈ callouts ∧ md.key ∈ batch.list.map Header.key then batch
  else { batch with list := batch.list ++ [md] }

def uint32Max : Nat := 2 ^ 32 - 1
def intMax : Nat := 2 ^ 31 - 1

def legalHeaderKeyBit (byte : UInt8) : Bool :=
  (97 ≤ byte && byte ≤ 122) || (48 ≤ byte && byte ≤ 57) || byte == 45 || byte == 95 || byte == 46

/-- `grpc_validate_header_key_is_legal`. -/
def headerKeyIsLegal (key : Bytes) : Bool :=
  key.length ≠ 0 && key.length ≤ uint32Max && key.head? != some 58 && key.all legalHeaderKeyBit

/-- `grpc_validate_header_nonbin_value_is_legal`. -/
def headerNonbinValueIsLegal (value : Bytes) : Bool :=
  value.all fun byte => 32 ≤ byte && byte ≤ 126

/-- What `prepare_application_metadata` asks of an element. -/
def metadataIsLegal (md : Header) : Bool :=
  headerKeyIsLegal md.key && (isBinaryHeader md.key || headerNonbinValueIsLegal md.value) &&
    md.value.length < uint32Max

/-! ## Ops -/

/-- A `grpc_byte_buffer`: its compression and the bytes of its slices. -/
structure ByteBuffer where
  compression : CompressionAlgorithm := .none
  data : Bytes := []
deriving DecidableEq

/-- The payload of an op. Where the application takes results or hands over a
buffer, it names the place. -/
inductive OpData where
  | sendInitialMetadata (metadata : List Header) (maybeCompressionLevel : Option Nat)
  | sendMessage (sendMessage : Option Nat)
  | sendCloseFromClient
  | sendStatusFromServer (trailingMetadata : List Header) (status : Int)
      (statusDetails : Option Bytes)
  | recvInitialMetadata (recvInitialMetadata : Nat)
  | recvMessage (recvMessage : Nat)
  | recvStatusOnClient (trailingMetadata status : Nat)
  | recvCloseOnServer (cancelled : Nat)
deriving DecidableEq

/-- `grpc_op`. -/
structure Op where
  data : OpData
  flags : UInt32 := 0
  reserved : Bool := false
deriving DecidableEq

def batchSlotForOp : OpData → Fin 6
  | .sendInitialMetadata _ _ => 0
  | .sendMessage _ => 1
  | .sendCloseFromClient => 2
  | .sendStatusFromServer _ _ _ => 2
  | .recvInitialMetadata _ => 3
  | .recvMessage _ => 4
  | .recvStatusOnClient _ _ => 5
  | .recvCloseOnServer _ => 5

def writeUsedMask : UInt32 := 0x00000007
def writeInternalCompress : UInt32 := 0x80000000
def writeInternalUsedMask : UInt32 := 0xc0000000
def initialMetadataUsedMask : UInt32 := 0x000001f4
def initialMetadataIdempotentRequest : UInt32 := 0x00000010

def areWriteFlagsValid (flags : UInt32) : Bool :=
  flags &&& ~~~(writeUsedMask ||| writeInternalUsedMask) == 0

def areInitialMetadataFlagsValid (flags : UInt32) (isClient : Bool) : Bool :=
  let invalidPositions := ~~~initialMetadataUsedMask
  let invalidPositions :=
    if isClient then invalidPositions else invalidPositions ||| initialMetadataIdempotentRequest
  flags &&& invalidPositions == 0

/-! ## The call -/

/-- `grpc_transport_stream_op_batch`: which operations a batch asks for. -/
structure StreamOp where
  sendInitialMetadata : Bool := false
  sendMessage : Bool := false
  sendTrailingMetadata : Bool := false
  recvInitialMetadata : Bool := false
  recvMessage : Bool := false
  recvTrailingMetadata : Bool := false
deriving DecidableEq

/-- `batch_control`. It is taken as long as it points to its call. -/
structure BatchControl where
  call : Bool := false
  op : StreamOp := {}
  tag : Nat := 0
  isClosure : Bool := false
  stepsToComplete : Nat := 0
  batchError : Bool := false
deriving DecidableEq

/-- The callbacks a batch leaves behind, each for the slot of its batch. -/
inductive Closure where
  | finishBatch (slot : Fin 6)
  | receivingInitialMetadataReady (slot : Fin 6)
  | receivingStreamReady (slot : Fin 6)
  | receivingSliceReady (slot : Fin 6)
  | receivingTrailingMetadataReady (slot : Fin 6)
  | finishBatchCompletion (slot : Fin 6) (error : Bool)
deriving DecidableEq

inductive RecvState where
  | none
  | initialMetadataFirst
  | batch (slot : Fin 6)
deriving DecidableEq

/-- A `SliceBufferByteStream` over the bytes taken out of a byte buffer. -/
structure ByteStream where
  data : Bytes
  flags : UInt32
deriving DecidableEq

/-- `grpc_call`, with the closures it is still owed. -/
structure Call where
  isClient : Bool
  defaultLevel : Option Nat := none
  sentInitialMetadata : Bool := false
  sendingMessage : Bool := false
  sentFinalOp : Bool := false
  receivedInitialMetadata : Bool := false
  receivingMessage : Bool := false
  requestedFinalOp : Bool := false
  anyOpsSent : Bool := false
  receivedFinalOp : Bool := false
  activeBatches : Fin 6 → Option BatchControl := fun _ => none
  sendInitialMetadata : MetadataBatch := {}
  sendInitialMetadataFlags : UInt32 := 0
  sendTrailingMetadata : MetadataBatch := {}
  bufferedInitialMetadata : Nat := 0
  bufferedTrailingMetadata : Nat := 0
  compressionMd : Header := ⟨[], []⟩
  encodingsAcceptedByPeer : AcceptedEncodings := {}
  sendExtraMetadata : List Header := []
  sendDeadline : Option Int := none
  sendingStream : Option ByteStream := none
  receivingStream : Bool := false
  receivingBuffer : Nat := 0
  finalOp : Nat := 0
  cancelledWithError : Bool := false
  recvState : RecvState := .none
  scheduled : List Closure := []

/-- A call and the byte buffers of the application. -/
structure World where
  call : Call
  buffers : Nat → ByteBuffer := fun _ => {}

def Call.slotTaken (call : Call) (slot : Fin 6) : Bool :=
  match call.activeBatches slot with
  | none => false
  | some bctl => bctl.call

/-- The slot of the first op, taken anew; `none` if a batch holds it. -/
def Call.reuseOrAllocateBatchControl (call : Call) (first : Op) (tag : Nat) (isClosure : Bool) :
    Option Call :=
  let slot := batchSlotForOp first.data
  if call.slotTaken slot then none
  else
    let bctl := { (call.activeBatches slot).getD {} with
      call := true, op := {}, batchError := false, tag := tag, isClosure := isClosure }
    some { call with activeBatches := Function.update call.activeBatches slot (some bctl) }

/-- `prepare_application_metadata` on one of the two batches of sent metadata:
`none` if an element is not legal. -/
def prepareApplicationMetadata (batch : MetadataBatch) (metadata sendExtraMetadata : List Header) :
    Option MetadataBatch :=
  if metadata.all metadataIsLegal then
    some ((sendExtraMetadata ++ metadata).foldl MetadataBatch.linkTail batch)
  else none

def compressionMetadata (call : Call) (maybeCompressionLevel : Option Nat) : Option Header :=
  match maybeCompressionLevel.or call.defaultLevel with
  | some level =>
    if call.isClient then none
    else some ⟨ascii "grpc-internal-encoding-request",
      (compressionAlgorithmForLevel level call.encodingsAcceptedByPeer).slice⟩
  | none => none

/-- The batch as it is built: the call and the buffers as they are by now, the
operations asked for and the counts of steps to complete. -/
structure Progress where
  world : World
  streamOp : StreamOp := {}
  hasSendOps : Bool := false
  numRecvOps : Nat := 0

/-- What an op comes to: the batch goes on, is refused, or an assertion fails. -/
inductive Outcome where
  | next (progress : Progress)
  | doneWithError (error : CallError) (progress : Progress)
  | aborted

def sendInitialMetadataOp (progress : Progress) (flags : UInt32) (metadata : List Header)
    (maybeCompressionLevel : Option Nat) : Outcome :=
  let call := progress.world.call
  if !areInitialMetadataFlagsValid flags call.isClient then .doneWithError .invalidFlags progress
  else if call.sentInitialMetadata then .doneWithError .tooManyOperations progress
  else
    let additional := compressionMetadata call maybeCompressionLevel
    let call := { call with compressionMd := additional.getD ⟨[], []⟩ }
    if metadata.length + additional.toList.length > intMax then
      .doneWithError .invalidMetadata { progress with world.call := call }
    else
      let streamOp := { progress.streamOp with sendInitialMetadata := true }
      let call := { call with sentInitialMetadata := true }
      -- only a client sends the elements given at the call's creation here
      let extra := if call.isClient then call.sendExtraMetadata else []
      match prepareApplicationMetadata call.sendInitialMetadata (metadata ++ additional.toList)
          extra with
      | none =>
        .doneWithError .invalidMetadata { progress with world.call := call, streamOp := streamOp }
      | some batch =>
        let batch :=
          if call.isClient then
            { batch with grpcTimeout := call.sendDeadline.or batch.grpcTimeout } else batch
        .next { progress with
          world.call := { call with
            sendInitialMetadata := batch
            sendInitialMetadataFlags := flags
            sendExtraMetadata := [] }
          streamOp := streamOp
          hasSendOps := true }

def sendMessageOp (progress : Progress) (flags : UInt32) (sendMessage : Option Nat) : Outcome :=
  let call := progress.world.call
  if !areWriteFlagsValid flags then .doneWithError .invalidFlags progress
  else
    match sendMessage with
    | none => .doneWithError .invalidMessage progress
    | some place =>
      if call.sendingMessage then .doneWithError .tooManyOperations progress
      else
        let buffer := progress.world.buffers place
        let flags :=
          if buffer.compression ≠ .none then flags ||| writeInternalCompress else flags
        if buffer.data.length > uint32Max then .aborted
        else
          -- the stream takes the slices and leaves an empty buffer behind
          .next { progress with
            world.call := { call with
              sendingMessage := true
              sendingStream := some ⟨buffer.data, flags⟩ }
            world.buffers :=
              Function.update progress.world.buffers place { buffer with data := [] }
            streamOp.sendMessage := true
            hasSendOps := true }

def sendCloseFromClientOp (progress : Progress) (flags : UInt32) : Outcome :=
  let call := progress.world.call
  if flags ≠ 0 then .doneWithError .invalidFlags progress
  else if !call.isClient then .doneWithError .notOnServer progress
  else if call.sentFinalOp then .doneWithError .tooManyOperations progress
  else
    .next { progress with
      world.call := { call with sentFinalOp := true }
      streamOp.sendTrailingMetadata := true
      hasSendOps := true }

def sendStatusFromServerOp (progress : Progress) (flags : UInt32)
    (trailingMetadata : List Header) (status : Int) (statusDetails : Option Bytes) : Outcome :=
  let call := progress.world.call
  if flags ≠ 0 then .doneWithError .invalidFlags progress
  else if call.isClient then .doneWithError .notOnClient progress
  else if call.sentFinalOp then .doneWithError .tooManyOperations progress
  else if trailingMetadata.length > intMax then .doneWithError .invalidMetadata progress
  else if call.sendExtraMetadata ≠ [] then .aborted
  else
    let streamOp := { progress.streamOp with sendTrailingMetadata := true }
    let call := { call with sentFinalOp := true }
    let extra := ⟨ascii "grpc-status", ascii (toString status)⟩ ::
      (statusDetails.map fun details => ⟨ascii "grpc-message", details⟩).toList
    match prepareApplicationMetadata call.sendTrailingMetadata trailingMetadata extra with
    | none =>
      .doneWithError .invalidMetadata { progress with world.call := call, streamOp := streamOp }
    | some batch =>
      .next { progress with
        world.call := { call with sendTrailingMetadata := batch }
        streamOp := streamOp
        hasSendOps := true }

def recvInitialMetadataOp (progress : Progress) (flags : UInt32) (place : Nat) : Outcome :=
  let call := progress.world.call
  if flags ≠ 0 then .doneWithError .invalidFlags progress
  else if call.receivedInitialMetadata then .doneWithError .tooManyOperations progress
  else
    .next { progress with
      world.call := { call with receivedInitialMetadata := true, bufferedInitialMetadata := place }
      streamOp.recvInitialMetadata := true
      numRecvOps := progress.numRecvOps + 1 }

def recvMessageOp (progress : Progress) (flags : UInt32) (place : Nat) : Outcome :=
  let call := progress.world.call
  if flags ≠ 0 then .doneWithError .invalidFlags progress
  else if call.receivingMessage then .doneWithError .tooManyOperations progress
  else
    .next { progress with
      world.call := { call with receivingMessage := true, receivingBuffer := place }
      streamOp.recvMessage := true
      numRecvOps := progress.numRecvOps + 1 }

def recvStatusOnClientOp (progress : Progress) (flags : UInt32) (trailingMetadata status : Nat) :
    Outcome :=
  let call := progress.world.call
  if flags ≠ 0 then .doneWithError .invalidFlags progress
  else if !call.isClient then .doneWithError .notOnServer progress
  else if call.requestedFinalOp then .doneWithError .tooManyOperations progress
  else
    .next { progress with
      world.call := { call with
        requestedFinalOp := true
        bufferedTrailingMetadata := trailingMetadata
        finalOp := status }
      streamOp.recvTrailingMetadata := true
      numRecvOps := progress.numRecvOps + 1 }

def recvCloseOnServerOp (progress : Progress) (flags : UInt32) (cancelled : Nat) : Outcome :=
  let call := progress.world.call
  if flags ≠ 0 then .doneWithError .invalidFlags progress
  else if call.isClient then .doneWithError .notOnClient progress
  else if call.requestedFinalOp then .doneWithError .tooManyOperations progress
  else
    .next { progress with
      world.call := { call with requestedFinalOp := true, finalOp := cancelled }
      streamOp.recvTrailingMetadata := true
      numRecvOps := progress.numRecvOps + 1 }

def rewriteOp (progress : Progress) (op : Op) : Outcome :=
  if op.reserved then .doneWithError .callError progress
  else
    match op.data with
    | .sendInitialMetadata metadata level =>
      sendInitialMetadataOp progress op.flags metadata level
    | .sendMessage place => sendMessageOp progress op.flags place
    | .sendCloseFromClient => sendCloseFromClientOp progress op.flags
    | .sendStatusFromServer metadata status details =>
      sendStatusFromServerOp progress op.flags metadata status details
    | .recvInitialMetadata place => recvInitialMetadataOp progress op.flags place
    | .recvMessage place => recvMessageOp progress op.flags place
    | .recvStatusOnClient metadata status => recvStatusOnClientOp progress op.flags metadata status
    | .recvCloseOnServer cancelled => recvCloseOnServerOp progress op.flags cancelled

def rewriteOps (progress : Progress) : List Op → Outcome
  | [] => .next progress
  | op :: ops =>
    match rewriteOp progress op with
    | .next progress => rewriteOps progress ops
    | .doneWithError error progress => .doneWithError error progress
    | .aborted => .aborted

/-- `done_with_error`: reverse any mutations that occurred. -/
def reverseMutations (progress : Progress) : World :=
  let op := progress.streamOp
  let call := progress.world.call
  { progress.world with
    call := { call with
      sentInitialMetadata := call.sentInitialMetadata && !op.sendInitialMetadata
      sendInitialMetadata := if op.sendInitialMetadata then {} else call.sendInitialMetadata
      sendingMessage := call.sendingMessage && !op.sendMessage
      -- the stream is orphaned, and the slices in it are released
      sendingStream := if op.sendMessage then none else call.sendingStream
      sentFinalOp := call.sentFinalOp && !op.sendTrailingMetadata
      sendTrailingMetadata := if op.sendTrailingMetadata then {} else call.sendTrailingMetadata
      receivedInitialMetadata := call.receivedInitialMetadata && !op.recvInitialMetadata
      receivingMessage := call.receivingMessage && !op.recvMessage
      requestedFinalOp := call.requestedFinalOp && !op.recvTrailingMetadata } }

/-- What is seen of a call: the answers to the application, the batches handed
to the transport, and the results published to the application. -/
inductive Output where
  | answer (error : CallError)
  | executeBatch (sendInitialMetadata : Option (MetadataBatch × UInt32))
      (sendMessage : Option ByteStream) (sendTrailingMetadata : Option MetadataBatch)
      (recvInitialMetadata recvMessage recvTrailingMetadata : Bool)
  | cancelStream
  | initialMetadata (place : Nat)
  | message (place : Nat) (received : Bool)
  | finalStatus (trailingMetadata status : Nat) (error : Bool)
  | completion (tag : Nat) (error : Bool)
deriving DecidableEq

def Call.executedBatch (call : Call) (op : StreamOp) : Output :=
  .executeBatch
    (if op.sendInitialMetadata then some (call.sendInitialMetadata, call.sendInitialMetadataFlags)
      else none)
    (if op.sendMessage then call.sendingStream else none)
    (if op.sendTrailingMetadata then some call.sendTrailingMetadata else none)
    op.recvInitialMetadata op.recvMessage op.recvTrailingMetadata

def StreamOp.closures (op : StreamOp) (slot : Fin 6) (hasSendOps : Bool) : List Closure :=
  (if hasSendOps then [.finishBatch slot] else []) ++
    (if op.recvInitialMetadata then [.receivingInitialMetadataReady slot] else []) ++
    (if op.recvMessage then [.receivingStreamReady slot] else []) ++
    if op.recvTrailingMetadata then [.receivingTrailingMetadataReady slot] else []

def Call.modifyBatch (call : Call) (slot : Fin 6) (change : BatchControl → BatchControl) : Call :=
  { call with activeBatches :=
      Function.update call.activeBatches slot ((call.activeBatches slot).map change) }

/-- The end of `call_start_batch`, once every op is rewritten. -/
def executeRewritten (progress : Progress) (slot : Fin 6) : World × List Output :=
  let call := progress.world.call
  let call := call.modifyBatch slot fun bctl => { bctl with
    op := progress.streamOp
    stepsToComplete := (if progress.hasSendOps then 1 else 0) + progress.numRecvOps }
  let call := { call with
    anyOpsSent := true
    scheduled := call.scheduled ++ progress.streamOp.closures slot progress.hasSendOps }
  ({ progress.world with call := call }, [call.executedBatch progress.streamOp, .answer .ok])

/-- A batch without ops is complete at once. `none` where an assertion fails. -/
def callStartBatch (world : World) (ops : List Op) (tag : Nat) (isClosure : Bool) :
    Option (World × List Output) :=
  match ops with
  | [] => some (world, [.completion tag false, .answer .ok])
  | first :: _ =>
    match world.call.reuseOrAllocateBatchControl first tag isClosure with
    | none => some (world, [.answer .tooManyOperations])
    | some call =>
      match rewriteOps { world := { world with call := call } } ops with
      | .next progress => some (executeRewritten progress (batchSlotForOp first.data))
      | .doneWithError error progress => some (reverseMutations progress, [.answer error])
      | .aborted => none

/-- `grpc_call_start_batch`, and with a closure `grpc_call_start_batch_and_execute`,
which has no reserved argument. -/
def grpcCallStartBatch (world : World) (ops : List Op) (tag : Nat) (isClosure reserved : Bool) :
    Option (World × List Output) :=
  if reserved && !isClosure then some (world, [.answer .callError])
  else callStartBatch world ops tag isClosure

/-! ## Completions -/

def Call.cancelWithError (call : Call) : Call × List Output :=
  if call.cancelledWithError then (call, [])
  else ({ call with cancelledWithError := true }, [.cancelStream])

def Call.schedule (call : Call) (closure : Closure) : Call :=
  { call with scheduled := call.scheduled ++ [closure] }

/-- `post_batch_completion`, with what the transport says of the stream: whether it
was closed when the message came to be written. -/
def Call.postBatchCompletion (call : Call) (slot : Fin 6) (bctl : BatchControl)
    (streamWriteClosed : Bool) : Call × List Output :=
  let op := bctl.op
  let error := (bctl.batchError || op.sendMessage && streamWriteClosed) && !op.recvTrailingMetadata
  let call := { call with
    sendInitialMetadata := if op.sendInitialMetadata then {} else call.sendInitialMetadata
    sendingMessage := call.sendingMessage && !op.sendMessage
    sendTrailingMetadata := if op.sendTrailingMetadata then {} else call.sendTrailingMetadata
    receivedFinalOp := call.receivedFinalOp || op.recvTrailingMetadata }
  let dropped :=
    if error && op.recvMessage then [Output.message call.receivingBuffer false] else []
  if bctl.isClosure then
    (call.modifyBatch slot fun bctl => { bctl with call := false, batchError := false },
      dropped ++ [.completion bctl.tag error])
  else
    ((call.modifyBatch slot fun bctl => { bctl with batchError := false }).schedule
      (.finishBatchCompletion slot error), dropped)

def Call.finishBatchStep (call : Call) (slot : Fin 6) (streamWriteClosed : Bool) :
    Call × List Output :=
  match call.activeBatches slot with
  | none => (call, [])
  | some bctl =>
    let call := call.modifyBatch slot fun bctl =>
      { bctl with stepsToComplete := bctl.stepsToComplete - 1 }
    if bctl.stepsToComplete = 1 then call.postBatchCompletion slot bctl streamWriteClosed
    else (call, [])

def Call.setBatchError (call : Call) (slot : Fin 6) (error : Bool) : Call :=
  call.modifyBatch slot fun bctl => { bctl with batchError := bctl.batchError || error }

inductive Slices where
  | complete
  | failed
  | waiting
deriving DecidableEq

/-- `continue_receiving_slices`. -/
def Call.continueReceivingSlices (call : Call) (slot : Fin 6) (slices : Slices)
    (streamWriteClosed : Bool) : Call × List Output :=
  match slices with
  | .waiting => (call.schedule (.receivingSliceReady slot), [])
  | _ =>
    let (finished, outputs) :=
      { call with receivingMessage := false, receivingStream := false }.finishBatchStep slot
        streamWriteClosed
    (finished, .message call.receivingBuffer (slices == .complete) :: outputs)

def Call.processDataAfterMd (call : Call) (slot : Fin 6) (slices : Slices)
    (streamWriteClosed : Bool) : Call × List Output :=
  if call.receivingStream then call.continueReceivingSlices slot slices streamWriteClosed
  else
    let (finished, outputs) :=
      { call with receivingMessage := false }.finishBatchStep slot streamWriteClosed
    (finished, .message call.receivingBuffer false :: outputs)

/-- `receiving_stream_ready`, run for a message before the initial metadata once
more when that has come. -/
def Call.receivingStreamReady (call : Call) (slot : Fin 6) (error : Bool) (slices : Slices)
    (streamWriteClosed : Bool) : Call × List Output :=
  let (call, cancelled) :=
    if error then
      ({ call with receivingStream := false }.setBatchError slot true).cancelWithError
    else (call, [])
  if !error && call.receivingStream && call.recvState == .none then
    ({ call with recvState := .batch slot }, cancelled)
  else
    let (call, outputs) := call.processDataAfterMd slot slices streamWriteClosed
    (call, cancelled ++ outputs)

/-- What `recv_initial_filter` makes of the received initial metadata: the
encodings the peer accepts, the deadline, and whether the compression named in
it cancels the call. -/
structure ReceivedInitialMetadata where
  encodingsAcceptedByPeer : AcceptedEncodings := {}
  deadline : Option Int := none
  invalidCompression : Bool := false
deriving DecidableEq

/-- `none` where the assertion fails that initial metadata comes only once. -/
def Call.receivingInitialMetadataReady (call : Call) (slot : Fin 6) (error : Bool)
    (received : ReceivedInitialMetadata) (slices : Slices) (streamWriteClosed : Bool) :
    Option (Call × List Output) := do
  let (call, outputs) :=
    if error then (call.setBatchError slot true).cancelWithError
    else
      let call := { call with
        encodingsAcceptedByPeer := received.encodingsAcceptedByPeer
        sendDeadline :=
          if call.isClient then call.sendDeadline else received.deadline.or call.sendDeadline }
      let (call, cancelled) :=
        if received.invalidCompression then call.cancelWithError else (call, [])
      (call, .initialMetadata call.bufferedInitialMetadata :: cancelled)
  let (call, outputs') ←
    match call.recvState with
    | .initialMetadataFirst => none
    | .none => some ({ call with recvState := .initialMetadataFirst }, [])
    | .batch saved => some (call.receivingStreamReady saved error slices streamWriteClosed)
  let (call, outputs'') := call.finishBatchStep slot streamWriteClosed
  return (call, outputs ++ outputs' ++ outputs'')

/-- What happens to a call: a batch is started, the application writes to a byte
buffer of its own, or a closure that was scheduled runs with what the transport
reports in it. -/
inductive Event where
  | startBatch (ops : List Op) (tag : Nat) (isClosure reserved : Bool)
  | writeBuffer (place : Nat) (buffer : ByteBuffer)
  | finishBatch (slot : Fin 6) (error streamWriteClosed : Bool)
  | receivingInitialMetadataReady (slot : Fin 6) (error : Bool)
      (received : ReceivedInitialMetadata) (slices : Slices) (streamWriteClosed : Bool)
  | receivingStreamReady (slot : Fin 6) (error stream : Bool) (slices : Slices)
      (streamWriteClosed : Bool)
  | receivingSliceReady (slot : Fin 6) (slices : Slices) (streamWriteClosed : Bool)
  | receivingTrailingMetadataReady (slot : Fin 6) (error streamWriteClosed : Bool)
  | finishBatchCompletion (slot : Fin 6) (error : Bool)
deriving DecidableEq

def Call.take (call : Call) (closure : Closure) : Option Call :=
  if closure ∈ call.scheduled then
    some { call with scheduled := call.scheduled.erase closure }
  else none

/-- A step of the call; `none` if the closure is not scheduled or an assertion
fails. -/
def World.react (world : World) : Event → Option (World × List Output)
  | .startBatch ops tag isClosure reserved => grpcCallStartBatch world ops tag isClosure reserved
  | .writeBuffer place buffer =>
    some ({ world with buffers := Function.update world.buffers place buffer }, [])
  | .finishBatch slot error streamWriteClosed => do
    let call ← world.call.take (.finishBatch slot)
    let (call, cancelled) :=
      if error then (call.setBatchError slot true).cancelWithError else (call, [])
    let (call, outputs) := call.finishBatchStep slot streamWriteClosed
    return ({ world with call := call }, cancelled ++ outputs)
  | .receivingInitialMetadataReady slot error received slices streamWriteClosed => do
    let call ← world.call.take (.receivingInitialMetadataReady slot)
    let (call, outputs) ←
      call.receivingInitialMetadataReady slot error received slices streamWriteClosed
    return ({ world with call := call }, outputs)
  | .receivingStreamReady slot error stream slices streamWriteClosed => do
    let call ← world.call.take (.receivingStreamReady slot)
    let (call, outputs) :=
      { call with receivingStream := stream }.receivingStreamReady slot error slices
        streamWriteClosed
    return ({ world with call := call }, outputs)
  | .receivingSliceReady slot slices streamWriteClosed => do
    let call ← world.call.take (.receivingSliceReady slot)
    let (call, outputs) := call.continueReceivingSlices slot slices streamWriteClosed
    return ({ world with call := call }, outputs)
  | .receivingTrailingMetadataReady slot error streamWriteClosed => do
    let call ← world.call.take (.receivingTrailingMetadataReady slot)
    let status := Output.finalStatus call.bufferedTrailingMetadata call.finalOp error
    let (call, outputs) := call.finishBatchStep slot streamWriteClosed
    return ({ world with call := call }, status :: outputs)
  | .finishBatchCompletion slot error => do
    let call ← world.call.take (.finishBatchCompletion slot error)
    let bctl ← call.activeBatches slot
    let call := call.modifyBatch slot fun bctl => { bctl with call := false }
    return ({ world with call := call }, [.completion bctl.tag error])

/-- What is seen of a list of events, up to the first that cannot happen. -/
def observe : World → List Event → List (List Output)
  | _, [] => []
  | world, event :: events =>
    match world.react event with
    | none => []
    | some (next, outputs) => outputs :: observe next events

/-- A call as it is created. A client's is given the elements it sends in front
of the application's initial metadata. -/
def created (isClient : Bool) (defaultLevel : Option Nat) (addInitialMetadata : List Header)
    (sendDeadline : Option Int) (buffers : Nat → ByteBuffer) : World where
  call := {
    isClient := isClient
    defaultLevel := defaultLevel
    sendExtraMetadata := if isClient then addInitialMetadata else []
    sendDeadline := sendDeadline }
  buffers := buffers

end GrpcCore.Surface
