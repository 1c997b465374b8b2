import GrpcCore.Binder.Transaction

/-!
# The reader of streaming transactions

A transaction is read part by part. What fails cancels the callbacks that its flags announce and
that have not been made.
-/

namespace GrpcCore.Binder

/-- What a reader tells the stream receiver of a call. -/
inductive Notification where
  | recvInitialMetadata (code : Nat) (metadata : Except ReadError Metadata)
  | recvMessage (code : Nat) (data : Except ReadError ByteString)
  | recvTrailingMetadata (code : Nat) (metadata : Except ReadError Metadata) (status : Int)

def Notification.code : Notification → Nat
  | recvInitialMetadata code _ => code
  | recvMessage code _ => code
  | recvTrailingMetadata code _ _ => code

def kFlowControlAckBytes : Nat := 16 * 1024

/-- The bytes that a reader has counted, and those of its last acknowledgement. -/
structure IncomingBytes where
  numIncomingBytes : Nat
  numAcknowledgedBytes : Nat
deriving DecidableEq

def IncomingBytes.received (bytes : IncomingBytes) (size : Nat) : IncomingBytes :=
  { bytes with numIncomingBytes := bytes.numIncomingBytes + size }

/-- The acknowledgement that is due, if enough bytes have come since the last. -/
def IncomingBytes.acknowledge (bytes : IncomingBytes) : IncomingBytes × Option Nat :=
  if kFlowControlAckBytes ≤ bytes.numIncomingBytes - bytes.numAcknowledgedBytes then
    ({ bytes with numAcknowledgedBytes := bytes.numIncomingBytes }, some bytes.numIncomingBytes)
  else (bytes, none)

/-- A connected reader, with what it has told the stream receiver. -/
structure WireReader where
  isClient : Bool
  bytes : IncomingBytes
  expectedSeqNum : Nat → Nat
  messageBuffer : Nat → ByteString
  notifications : List Notification

/-- A reader at a parcel, with the flags of the callbacks that are still to be made. -/
structure Reading where
  reader : WireReader
  cancellationFlags : Flags
  parcel : Parcel

namespace Reading

variable (reading : Reading)

def notify (notification : Notification) : Reading :=
  { reading with
    reader := { reading.reader with
      notifications := reading.reader.notifications ++ [notification] } }

def completed (flag : Flags) : Reading :=
  { reading with cancellationFlags := reading.cancellationFlags &&& ~~~flag }

def read {Value : Type} (reads : Parcel → Except ReadError (Value × Parcel)) :
    Except (ReadError × Reading) (Value × Reading) :=
  match reads reading.parcel with
  | .error error => .error (error, reading)
  | .ok (value, parcel) => .ok (value, { reading with parcel := parcel })

variable (code : Nat) (flags : Flags)

def readMethodRef (isClient : Bool) (parcel : Parcel) : Except ReadError (ByteString × Parcel) :=
  if isClient then .ok ([], parcel) else readString parcel

def pathKey : ByteString := [58, 112, 97, 116, 104]

def withPath (isClient : Bool) (metadata : Metadata) (methodRef : ByteString) : Metadata :=
  if isClient then metadata else metadata ++ [(pathKey, 47 :: methodRef)]

def receivePrefix : Except (ReadError × Reading) Reading :=
  if flags.has kFlagPrefix then
    (reading.read (readMethodRef reading.reader.isClient)).bind fun (methodRef, reading) =>
      (reading.read parseMetadata).bind fun (metadata, reading) =>
        .ok ((reading.notify (.recvInitialMetadata code
          (.ok (withPath reading.reader.isClient metadata methodRef)))).completed kFlagPrefix)
  else .ok reading

def appendMessage (data : ByteString) : Reading :=
  { reading with
    reader := { reading.reader with
      messageBuffer :=
        Function.update reading.reader.messageBuffer code
          (reading.reader.messageBuffer code ++ data) } }

def takeMessage : Reading :=
  { reading with
    reader := { reading.reader with
      messageBuffer := Function.update reading.reader.messageBuffer code []
      notifications :=
        reading.reader.notifications ++
          [.recvMessage code (.ok (reading.reader.messageBuffer code))] } }

def receiveMessageData : Except (ReadError × Reading) Reading :=
  if flags.has kFlagMessageData then
    (reading.read readByteArrayWithLength).bind fun (data, reading) =>
      let reading := reading.appendMessage code data
      .ok ((if flags.has kFlagMessageDataIsPartial then reading
        else reading.takeMessage code).completed kFlagMessageData)
  else .ok reading

def readDescription (parcel : Parcel) : Except ReadError (ByteString × Parcel) :=
  if flags.has kFlagStatusDescription then readString parcel else .ok ([], parcel)

def readTrailingMetadata (isClient : Bool) (parcel : Parcel) :
    Except ReadError (Metadata × Parcel) :=
  if isClient then parseMetadata parcel else .ok ([], parcel)

def receiveSuffix : Except (ReadError × Reading) Reading :=
  if flags.has kFlagSuffix then
    (reading.read (readDescription flags)).bind fun (_, reading) =>
      (reading.read (readTrailingMetadata reading.reader.isClient)).bind fun (metadata, reading) =>
        .ok ((reading.notify (.recvTrailingMetadata code (.ok metadata)
          flags.status)).completed kFlagSuffix)
  else .ok reading

def receive : Except (ReadError × Reading) Reading :=
  (reading.receivePrefix code flags).bind fun reading =>
    (reading.receiveMessageData code flags).bind fun reading => reading.receiveSuffix code flags

end Reading

namespace WireReader

variable (reader : WireReader) (code : Nat)

def created (isClient : Bool) : WireReader := ⟨isClient, ⟨0, 0⟩, fun _ => 0, fun _ => [], []⟩

/-- The sequence number must be the one that is expected. `none` is a failed assertion. -/
def processSeqNum (flags : Flags) (seqNum : Int) (parcel : Parcel) :
    Option (Except (ReadError × Reading) Reading) :=
  if seqNum < 0 ∨ seqNum ≠ reader.expectedSeqNum code then
    some (.error (.unexpectedSequenceNumber, ⟨reader, flags, parcel⟩))
  else if reader.expectedSeqNum code < 2 ^ 31 - 1 then
    some (Reading.receive
      ⟨{ reader with
          expectedSeqNum :=
            Function.update reader.expectedSeqNum code (reader.expectedSeqNum code + 1) },
        flags, parcel⟩ code flags)
  else none

def processStreamingTransactionImpl (parcel : Parcel) :
    Option (Except (ReadError × Reading) Reading) :=
  match readInt32 parcel with
  | .error error => some (.error (error, ⟨reader, 0#32, parcel⟩))
  | .ok (value, parcel) =>
    let flags := BitVec.ofInt 32 value
    if flags = 0#32 then some (.ok ⟨reader, flags, parcel⟩)
    else
      match readInt32 parcel with
      | .error error => some (.error (error, ⟨reader, flags, parcel⟩))
      | .ok (seqNum, parcel) => reader.processSeqNum code flags seqNum parcel

def cancel (reading : Reading) (error : ReadError) : WireReader :=
  { reading.reader with
    notifications := reading.reader.notifications ++
      (if reading.cancellationFlags.has kFlagPrefix then
        [.recvInitialMetadata code (.error error)]
      else []) ++
      (if reading.cancellationFlags.has kFlagMessageData then [.recvMessage code (.error error)]
      else []) ++
      (if reading.cancellationFlags.has kFlagSuffix then
        [.recvTrailingMetadata code (.error error) 0]
      else []) }

/-- The reader after a transaction, and whether it was accepted. -/
def finish : Except (ReadError × Reading) Reading → WireReader × Bool
  | .ok reading => (reading.reader, true)
  | .error (error, reading) => (cancel code reading error, false)

/-- The reader, whether the transaction was accepted, and the acknowledgement that is due. -/
def processStreamingTransaction (dataSize : Parcel → Nat) (parcel : Parcel) :
    Option (WireReader × Bool × Option Nat) :=
  let reader := { reader with bytes := reader.bytes.received (dataSize parcel) }
  (reader.processStreamingTransactionImpl code parcel).map fun result =>
    let (reader, accepted) := finish code result
    ({ reader with bytes := reader.bytes.acknowledge.1 }, accepted, reader.bytes.acknowledge.2)

end WireReader

end GrpcCore.Binder
