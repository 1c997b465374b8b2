import GrpcCore.Lib.MachineInt

/-!
# The INCI stub

`InciStub::IncSend` copies one container of a request into memory shared with a
server, has the server's callback change it in place, and copies the result into
the reply. Lengths of buffers are `int`, in bytes; the words of a buffer are
`int32`.
-/

namespace GrpcCore.Inci

open MachineInt

/-- The arguments of a message, as `createArgs` lays them out. -/
structure MsgArgs where
  key : Int
  dataLength : Int
  workerNum : Int
  memSz : Int
  memOffset : Int
  op : Int
  pType : Int
  flag : Int
deriving DecidableEq

inductive InciError where
  | emptyContainer
  | opMismatch
  | notInitialised
  | keyMismatch
  | dataTooLong
  | outOfBounds
  | reflectionUsage
deriving DecidableEq

/-- The callback of the server changes the buffer in place. -/
structure Callback where
  run : MsgArgs → List Int32 → List Int32
  length_run : ∀ args buffer, (run args buffer).length = buffer.length

/-- A client with its segment, which it has only if its length is positive. What
was handed to the callback is a record. -/
structure CommClient where
  key : Int
  dataLength : Int
  shm : Option (List Int32)
  handed : List (List Int32) := []
deriving DecidableEq

def CommClient.create (key length : Int) : CommClient :=
  { key
    dataLength := length
    shm := if 0 < length then some (List.replicate (length / 4).toNat 0) else none }

/-- `CommClient::PushPull` with the server's answer. An empty message is answered
without the callback; a negative length is a copy of almost all of memory. -/
def CommClient.pushPull (callback : Callback) (client : CommClient) (data : List Int32)
    (args : MsgArgs) : Except InciError (List Int32 × CommClient) :=
  if args.key ≠ client.key then .error .keyMismatch
  else if client.dataLength < args.dataLength then .error .dataTooLong
  else if args.dataLength = 0 then .ok (data, client)
  else
    match client.shm with
    | none => .error .outOfBounds
    | some shm =>
      let words := (args.dataLength / 4).toNat
      if args.dataLength < 0 ∨ shm.length < words ∨ data.length < words then
        .error .outOfBounds
      else
        let result := callback.run args (data.take words)
        .ok (result ++ data.drop words,
          { client with
            shm := some (result ++ shm.drop words)
            handed := client.handed ++ [data.take words] })

/-- The configuration in a container. -/
structure ConfInfo where
  cntForward : Int := 0
  pType : Int := 0
  flag : Int := 0
deriving DecidableEq

inductive ContainerKind where
  | aggtrArray
  | aggtrMap
  | monitorMap
  | voteMap
  | customMap
deriving DecidableEq

/-- A container with its data: words, or the entries of a map in the order of its
iterator. -/
inductive Container where
  | aggtrArray (data : List Int32)
  | aggtrMap (data : List Int32)
  | monitorMap (data : List (Int32 × Int32))
  | voteMap (data : List (Int32 × Int32))
  | customMap (data : List (Int32 × Int32))
deriving DecidableEq

namespace ContainerKind

def op : ContainerKind → Int
  | .aggtrArray => 1
  | .aggtrMap => 2
  | .monitorMap => 3
  | .voteMap => 4
  | .customMap => 6

/-- The empty container of a kind. -/
def empty : ContainerKind → Container
  | .aggtrArray => .aggtrArray []
  | .aggtrMap => .aggtrMap []
  | .monitorMap => .monitorMap []
  | .voteMap => .voteMap []
  | .customMap => .customMap []

/-- The flag of a message. Only a `CustomMap` has one. -/
def flag (conf : ConfInfo) : ContainerKind → Int
  | .customMap => conf.flag
  | _ => 0

end ContainerKind

def flattenEntries (entries : List (Int32 × Int32)) : List Int32 :=
  entries.flatMap fun entry => [entry.1, entry.2]

/-- The first `sz` pairs of words. -/
def pairs : Nat → List Int32 → List (Int32 × Int32)
  | sz + 1, key :: value :: data => (key, value) :: pairs sz data
  | _, _ => []

/-- `InsertOrLookupMapValue` and the assignment to what it found. -/
def setEntry (entries : List (Int32 × Int32)) (key value : Int32) : List (Int32 × Int32) :=
  match entries with
  | [] => [(key, value)]
  | (key', value') :: entries =>
    if key' = key then (key, value) :: entries else (key', value') :: setEntry entries key value

def setEntries (entries : List (Int32 × Int32)) (news : List (Int32 × Int32)) :
    List (Int32 × Int32) :=
  news.foldl (fun entries entry => setEntry entries entry.1 entry.2) entries

namespace Container

def kind : Container → ContainerKind
  | .aggtrArray _ => .aggtrArray
  | .aggtrMap _ => .aggtrMap
  | .monitorMap _ => .monitorMap
  | .voteMap _ => .voteMap
  | .customMap _ => .customMap

/-- `FieldSize` of the data. -/
def size : Container → Nat
  | .aggtrArray data => data.length
  | .aggtrMap data => data.length
  | .monitorMap data => data.length
  | .voteMap data => data.length
  | .customMap data => data.length

/-- What is copied into the shared memory. -/
def flatten : Container → List Int32
  | .aggtrArray data => data
  | .aggtrMap data => data
  | .monitorMap data => flattenEntries data
  | .voteMap data => flattenEntries data
  | .customMap data => flattenEntries data

/-- The bytes of the data, as an `int`. -/
def dataLength (c : Container) : Int := int32 (4 * c.flatten.length)

/-- A container of a reply takes `sz` words or entries of the result. That of a
`MonitorMap` is taken for a repeated field of words, which a map is not. -/
def fill (sz : Nat) (data : List Int32) : Container → Except InciError Container
  | .aggtrArray _ => .ok (.aggtrArray (data.take sz))
  | .aggtrMap _ => .ok (.aggtrMap (data.take sz))
  | .monitorMap _ => .error .reflectionUsage
  | .voteMap entries => .ok (.voteMap (setEntries entries (pairs sz data)))
  | .customMap entries => .ok (.customMap (setEntries entries (pairs sz data)))

end Container

/-- The members that `initService` sets. -/
structure Service where
  memSz : Int
  memOffset : Int
  op : Int
  dataLength : Int
  pType : Int
  globalId : Int
  client : CommClient
deriving DecidableEq

/-- A stub has no members worth reading before `initService`. -/
structure InciStub where
  service : Option Service := none
deriving DecidableEq

inductive RequestField where
  | other
  | container (c : Container) (conf : ConfInfo)
deriving DecidableEq

inductive ReplyField where
  | other
  | container (c : Container)
  | queryArray (data : List Int32)
deriving DecidableEq

def initService (newOp pType dataLength globalId memSz memOffset : Int) : Service :=
  { memSz, memOffset, op := newOp, dataLength, pType, globalId
    client := .create globalId dataLength }

def fillReply (kind : ContainerKind) (sz : Nat) (data : List Int32) :
    List ReplyField → Except InciError (List ReplyField)
  | [] => .ok []
  | .container c :: reply =>
    if c.kind = kind then (c.fill sz data).map fun c => .container c :: reply
    else (fillReply kind sz data reply).map fun reply => .container c :: reply
  | field :: reply => (fillReply kind sz data reply).map fun reply => field :: reply

namespace Service

/-- The message that goes with the data of a container. -/
def args (service : Service) (c : Container) (conf : ConfInfo) : MsgArgs :=
  { key := service.globalId
    dataLength := c.dataLength
    workerNum := conf.cntForward
    memSz := service.memSz
    memOffset := service.memOffset
    op := service.op
    pType := conf.pType
    flag := c.kind.flag conf }

def push (callback : Callback) (service : Service) (c : Container) (conf : ConfInfo) :
    Except InciError (List Int32 × CommClient) :=
  service.client.pushPull callback c.flatten (service.args c conf)

def querySize (service : Service) : Int := min (32 * service.memSz * 4) service.dataLength

def queryArgs (service : Service) : MsgArgs :=
  { key := service.globalId
    dataLength := service.querySize
    workerNum := 0
    memSz := service.memSz
    memOffset := service.memOffset
    op := service.op
    pType := service.pType
    flag := 5 }

def query (callback : Callback) (service : Service) : Except InciError (List Int32 × CommClient) :=
  service.client.pushPull callback (List.replicate (service.querySize / 4).toNat 0)
    service.queryArgs

end Service

namespace InciStub

/-- The service of the stub, which the first call sets up. -/
def serve (stub : InciStub) (c : Container) (conf : ConfInfo) : Except InciError Service :=
  match stub.service with
  | none => .ok (initService c.kind.op conf.pType c.dataLength 1 2000 0)
  | some service => if service.op = c.kind.op then .ok service else .error .opMismatch

/-- The branches of `IncSend`, one for each kind of container. -/
def sendContainer (callback : Callback) (stub : InciStub) (c : Container) (conf : ConfInfo)
    (reply : List ReplyField) : Except InciError (InciStub × List ReplyField) :=
  if c.size = 0 then .error .emptyContainer
  else
    (stub.serve c conf).bind fun service =>
      (service.push callback c conf).bind fun pushed =>
        (fillReply c.kind c.size pushed.1 reply).map fun reply =>
          ({ service := some { service with client := pushed.2 } }, reply)

/-- The loop over the fields of the request stops at the first container. -/
def sendRequest (callback : Callback) (stub : InciStub) (reply : List ReplyField) :
    List RequestField → Except InciError (Bool × InciStub × List ReplyField)
  | [] => .ok (false, stub, reply)
  | .other :: request => sendRequest callback stub reply request
  | .container c conf :: _ =>
    (stub.sendContainer callback c conf reply).map fun sent => (true, sent)

/-- A `QueryArray` of the reply is filled by a query of its own. -/
def query (callback : Callback) (stub : InciStub) :
    List ReplyField → Except InciError (InciStub × List ReplyField)
  | [] => .ok (stub, [])
  | .queryArray _ :: reply =>
    match stub.service with
    | none => .error .notInitialised
    | some service =>
      (service.query callback).map fun queried =>
        ({ service := some { service with client := queried.2 } },
          .queryArray queried.1 :: reply)
  | field :: reply =>
    (query callback stub reply).map fun queried => (queried.1, field :: queried.2)

/-- `InciStub::IncSend`. -/
def incSend (callback : Callback) (stub : InciStub) (request : List RequestField)
    (reply : List ReplyField) : Except InciError (Bool × InciStub × List ReplyField) :=
  (stub.sendRequest callback reply request).bind fun sent =>
    (sent.2.1.query callback sent.2.2).map fun queried => (sent.1, queried)

end InciStub

end GrpcCore.Inci
