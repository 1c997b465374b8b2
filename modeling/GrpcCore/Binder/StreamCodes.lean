import GrpcCore.Lib.Run

/-!
# Transaction codes of streams

A transport draws the codes of its streams from a counter of its own. That of a client advances
when a stream is created, and that of a server when a stream is accepted, which is some time after
the initial metadata of the stream have come.
-/

namespace GrpcCore.Binder

open Machine

def FIRST_CALL_TRANSACTION : Nat := 0x00000001

def LAST_CALL_TRANSACTION : Nat := 0x00FFFFFF

def kFirstCallId : Nat := FIRST_CALL_TRANSACTION + 1000

/-- A stream. It has started when a client's has sent its initial metadata, or a server's has
asked for them. -/
structure BinderStream where
  txCode : Nat
  isClosed : Bool
  started : Bool
deriving DecidableEq

/-- A transport with its streams, in the order of their creation. -/
structure BinderTransport where
  nextFreeTxCode : Nat
  streams : List BinderStream

namespace BinderTransport

variable (transport : BinderTransport)

def created : BinderTransport := ⟨kFirstCallId, []⟩

/-- `none` is a failed assertion: all codes are used. -/
def newStreamTxCode : Option (Nat × BinderTransport) :=
  if transport.nextFreeTxCode ≤ LAST_CALL_TRANSACTION then
    some (transport.nextFreeTxCode,
      { transport with nextFreeTxCode := transport.nextFreeTxCode + 1 })
  else none

def initStream : Option BinderTransport :=
  transport.newStreamTxCode.map fun (txCode, transport) =>
    { transport with streams := transport.streams ++ [⟨txCode, false, false⟩] }

def start (stream : Nat) : BinderTransport :=
  { transport with
    streams := transport.streams.modify stream fun stream => { stream with started := true } }

def close (stream : Nat) : BinderTransport :=
  { transport with
    streams := transport.streams.modify stream fun stream => { stream with isClosed := true } }

def txCodes : List Nat := transport.streams.map BinderStream.txCode

end BinderTransport

/-- What a stream receiver keeps of initial metadata, by the codes of their transactions. -/
structure InitialMetadata where
  initialMetadataCbs : List Nat
  pendingInitialMetadata : List Nat
  trailingMetadataRecvd : List Nat

namespace InitialMetadata

variable (receiver : InitialMetadata) (id : Nat)

/-- A callback takes what is pending, or waits unless the stream has ended. `none` is a failed
assertion. -/
def registerRecvInitialMetadata : Option InitialMetadata :=
  if id ∈ receiver.initialMetadataCbs then none
  else if id ∈ receiver.pendingInitialMetadata then
    some { receiver with pendingInitialMetadata := receiver.pendingInitialMetadata.erase id }
  else if id ∈ receiver.trailingMetadataRecvd then some receiver
  else some { receiver with initialMetadataCbs := receiver.initialMetadataCbs ++ [id] }

/-- `NotifyRecvInitialMetadata` after the call of the accept callback. -/
def notifyRecvInitialMetadata : InitialMetadata :=
  if id ∈ receiver.initialMetadataCbs then
    { receiver with initialMetadataCbs := receiver.initialMetadataCbs.filter (· != id) }
  else { receiver with pendingInitialMetadata := receiver.pendingInitialMetadata ++ [id] }

def onRecvTrailingMetadata : InitialMetadata :=
  { receiver with
    initialMetadataCbs := receiver.initialMetadataCbs.filter (· != id)
    trailingMetadataRecvd := receiver.trailingMetadataRecvd ++ [id] }

def cancelStream : InitialMetadata where
  initialMetadataCbs := receiver.initialMetadataCbs.filter (· != id)
  pendingInitialMetadata := receiver.pendingInitialMetadata.filter (· != id)
  trailingMetadataRecvd := receiver.trailingMetadataRecvd.filter (· != id)

end InitialMetadata

/-- The transactions of a client that a server's streams depend on. -/
inductive ClientTransaction where
  | initialMetadata (code : Nat)
  | trailingMetadata (code : Nat)
deriving DecidableEq

def ClientTransaction.initialCode : ClientTransaction → Option Nat
  | initialMetadata code => some code
  | trailingMetadata _ => none

/-- A client and a server with the transactions under way between them. The accept closure of the
server is one: it is `torn` when it is put in the queue of the combiner twice. `delivered` are the
codes of the initial metadata that have come, and `received` of those that streams were created
for, both in order. -/
structure TransportPair where
  client : BinderTransport
  underWay : List ClientTransaction
  server : BinderTransport
  receiver : InitialMetadata
  /-- Notifications that have called the accept callback and not returned. -/
  notifying : List Nat
  acceptStreamClosure : Option Nat
  torn : Bool
  delivered : List Nat
  received : List Nat

namespace TransportPair

def created : TransportPair where
  client := .created
  underWay := []
  server := .created
  receiver := ⟨[], [], []⟩
  notifying := []
  acceptStreamClosure := none
  torn := false
  delivered := []
  received := []

inductive Action where
  | createStream
  | closeClientStream (stream : Nat)
  /-- `transacted` says whether the transaction could be handed to the binder. -/
  | sendInitialMetadata (stream : Nat) (transacted : Bool)
  | sendTrailingMetadata (stream : Nat) (transacted : Bool)
  | deliver (transaction : Nat)
  | acceptStream
  | notify (notification : Nat)
  | recvInitialMetadata (stream : Nat)
  | closeServerStream (stream : Nat)

variable (pair : TransportPair)

def send (transacted : Bool) (transaction : ClientTransaction) : TransportPair :=
  if transacted then { pair with underWay := pair.underWay ++ [transaction] } else pair

/-- A closed stream sends nothing, and initial metadata are sent once. -/
def sendInitialMetadata (index : Nat) (transacted : Bool) : Option TransportPair :=
  pair.client.streams[index]?.bind fun stream =>
    if stream.isClosed then some pair
    else if stream.started then none
    else some ({ pair with client := pair.client.start index }.send transacted
      (.initialMetadata stream.txCode))

def sendTrailingMetadata (index : Nat) (transacted : Bool) : Option TransportPair :=
  pair.client.streams[index]?.map fun stream =>
    if stream.isClosed then pair else pair.send transacted (.trailingMetadata stream.txCode)

/-- The accept callback puts the accept closure in the queue of the combiner. -/
def acceptStreamCallback (code : Nat) : TransportPair :=
  let pair :=
    { pair with notifying := pair.notifying ++ [code], delivered := pair.delivered ++ [code] }
  if pair.acceptStreamClosure.isSome then { pair with torn := true }
  else { pair with acceptStreamClosure := some code }

def deliver (index : Nat) : Option TransportPair :=
  pair.underWay[index]?.map fun transaction =>
    let pair := { pair with underWay := pair.underWay.eraseIdx index }
    match transaction with
    | .initialMetadata code => pair.acceptStreamCallback code
    | .trailingMetadata code =>
      { pair with receiver := pair.receiver.onRecvTrailingMetadata code }

/-- `accept_stream_locked`: the call of the new stream has a stream of the server. -/
def acceptStreamLocked : Option TransportPair :=
  pair.acceptStreamClosure.bind fun code => pair.server.initStream.map fun server =>
    { pair with
      server := server
      acceptStreamClosure := none
      received := pair.received ++ [code] }

def notify (index : Nat) : Option TransportPair :=
  pair.notifying[index]?.map fun code =>
    { pair with
      notifying := pair.notifying.eraseIdx index
      receiver := pair.receiver.notifyRecvInitialMetadata code }

def recvInitialMetadata (index : Nat) : Option TransportPair :=
  pair.server.streams[index]?.bind fun stream =>
    if stream.isClosed then some pair
    else if stream.started then none
    else (pair.receiver.registerRecvInitialMetadata stream.txCode).map fun receiver =>
      { pair with server := pair.server.start index, receiver := receiver }

/-- `cancel_stream_locked` at a server. -/
def closeServerStream (index : Nat) : Option TransportPair :=
  pair.server.streams[index]?.map fun stream =>
    if stream.isClosed then pair
    else
      { pair with
        server := pair.server.close index
        receiver := pair.receiver.cancelStream stream.txCode }

/-- Nothing is known of what a combiner with a torn queue does. -/
def step (action : Action) : Option TransportPair :=
  if pair.torn then none
  else
    match action with
    | .createStream => pair.client.initStream.map fun client => { pair with client := client }
    | .closeClientStream stream => some { pair with client := pair.client.close stream }
    | .sendInitialMetadata stream transacted => pair.sendInitialMetadata stream transacted
    | .sendTrailingMetadata stream transacted => pair.sendTrailingMetadata stream transacted
    | .deliver transaction => pair.deliver transaction
    | .acceptStream => pair.acceptStreamLocked
    | .notify notification => pair.notify notification
    | .recvInitialMetadata stream => pair.recvInitialMetadata stream
    | .closeServerStream stream => pair.closeServerStream stream

/-- Every stream of the server has the code of the transaction it was created for. -/
def Own : Prop := pair.server.txCodes = pair.received

/-- Streams of the two transports belong together by their codes. -/
structure Matched : Prop where
  intact : pair.torn = false
  own : pair.Own
  served : ∀ code ∈ pair.delivered, pair.acceptStreamClosure = some code ∨
    pair.server.txCodes.count code = 1
  awaited : ∀ code ∈ pair.receiver.initialMetadataCbs, code ∈ pair.notifying
  used : ∀ code ∈ pair.server.txCodes, ∃ stream ∈ pair.client.streams,
    stream.txCode = code ∧ stream.started = true

/-- Initial metadata come only when no stream waits to be accepted, and a stream is accepted only
after all that the client created before it. -/
def InOrder : Action → Prop
  | .deliver transaction =>
    (∃ code, pair.underWay[transaction]? = some (.initialMetadata code)) →
      pair.acceptStreamClosure = none
  | .acceptStream => ∀ (index : Nat) (stream : BinderStream),
      pair.client.streams[index]? = some stream →
      pair.acceptStreamClosure = some stream.txCode →
      ∀ (earlier : Nat) (before : BinderStream), earlier < index →
        pair.client.streams[earlier]? = some before → before.txCode ∈ pair.received
  | _ => True

end TransportPair

end GrpcCore.Binder
