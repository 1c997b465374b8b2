import GrpcCore.Inci.Stub
import GrpcCore.Lib.Run

/-!
# Stubs, server and kernel

The steps in which `CommClient` and `CommServer` exchange a buffer: segments and
queues of the kernel are named by keys, every stub has the key that `initService` is
given, and each message to the server is handled by a thread of its own. The queue
of the server is there from the start.
-/

namespace GrpcCore.Inci

def globalId : Int := 1

def wordCount (bytes : Int) : Nat := (bytes / 4).toNat

/-- A message. The stub it came from is a record. -/
structure Message where
  args : MsgArgs
  sender : Nat
deriving DecidableEq

structure Segment where
  words : List Int32 := []
  writer : Option Nat := none
deriving DecidableEq

/-- Segments and queues. A segment that is removed gives up its key, but those who
have attached it keep it. -/
structure Kernel where
  shmKeys : Int → Option Nat := fun _ => none
  segments : Nat → Segment := fun _ => {}
  nextShm : Nat := 0
  msgKeys : Int → Option Nat := fun _ => none
  queues : Nat → Option (List Message) := fun _ => none
  nextMsg : Nat := 0

namespace Kernel

def newShareMem (kernel : Kernel) (key size : Int) : Kernel :=
  { kernel with
    shmKeys := Function.update kernel.shmKeys key (some kernel.nextShm)
    segments := Function.update kernel.segments kernel.nextShm
      { words := List.replicate (wordCount size) 0 }
    nextShm := kernel.nextShm + 1 }

/-- `IPC_CREAT|IPC_EXCL`: a key in use is an error. -/
def createShareMem (kernel : Kernel) (key size : Int) : Option Nat × Kernel :=
  match kernel.shmKeys key with
  | some _ => (none, kernel)
  | none => (some kernel.nextShm, kernel.newShareMem key size)

/-- `IPC_CREAT`: a segment with the key is taken if it is large enough. -/
def getShareMem (kernel : Kernel) (key size : Int) : Option Nat × Kernel :=
  match kernel.shmKeys key with
  | some shm =>
    if (kernel.segments shm).words.length < wordCount size then (none, kernel)
    else (some shm, kernel)
  | none => (some kernel.nextShm, kernel.newShareMem key size)

def destroyShareMem (kernel : Kernel) (shm : Nat) : Kernel :=
  { kernel with
    shmKeys := fun key => if kernel.shmKeys key = some shm then none else kernel.shmKeys key }

def write (kernel : Kernel) (shm : Nat) (words : List Int32) (writer : Option Nat) : Kernel :=
  { kernel with
    segments := Function.update kernel.segments shm
      { words := words ++ (kernel.segments shm).words.drop words.length, writer } }

def newMsgQueue (kernel : Kernel) (key : Int) : Kernel :=
  { kernel with
    msgKeys := Function.update kernel.msgKeys key (some kernel.nextMsg)
    queues := Function.update kernel.queues kernel.nextMsg (some [])
    nextMsg := kernel.nextMsg + 1 }

def createMsgQueue (kernel : Kernel) (key : Int) : Option Nat × Kernel :=
  match kernel.msgKeys key with
  | some _ => (none, kernel)
  | none => (some kernel.nextMsg, kernel.newMsgQueue key)

def getMsgQueue (kernel : Kernel) (key : Int) : Option Nat × Kernel :=
  match kernel.msgKeys key with
  | some queue => (some queue, kernel)
  | none => (some kernel.nextMsg, kernel.newMsgQueue key)

def setQueue (kernel : Kernel) (queue : Nat) (messages : Option (List Message)) : Kernel :=
  { kernel with queues := Function.update kernel.queues queue messages }

def sendMsg (kernel : Kernel) (queue : Option Nat) (message : Message) : Kernel :=
  match queue with
  | none => kernel
  | some queue =>
    match kernel.queues queue with
    | none => kernel
    | some messages => kernel.setQueue queue (some (messages ++ [message]))

/-- An error returns at once and is not looked at; an empty queue blocks. -/
def recvMsg (kernel : Kernel) (queue : Option Nat) : Option (Option Message × Kernel) :=
  match queue with
  | none => some (none, kernel)
  | some queue =>
    match kernel.queues queue with
    | none => some (none, kernel)
    | some [] => none
    | some (message :: messages) => some (some message, kernel.setQueue queue (some messages))

def destroyMsgQueue (kernel : Kernel) (queue : Option Nat) : Kernel :=
  match queue with
  | none => kernel
  | some queue =>
    { kernel.setQueue queue none with
      msgKeys := fun key => if kernel.msgKeys key = some queue then none
        else kernel.msgKeys key }

end Kernel

/-- The members of a client. A segment or a queue that could not be created is
`none`. -/
structure Connection where
  dataLength : Int
  shm : Option Nat
  msgidr : Option Nat
deriving DecidableEq

/-- Where a stub is: without a client, within its constructor, between calls, within
`PushPull`, or within its destructor. -/
inductive Stage where
  | absent
  | attached (dataLength : Int) (shm : Option Nat)
  | idle (client : Connection)
  | copied (client : Connection) (data : List Int32) (args : MsgArgs)
  | sent (client : Connection) (data : List Int32) (args : MsgArgs)
  | received (client : Connection) (data : List Int32) (args : MsgArgs) (token : Option Nat)
  | detached (msgidr : Option Nat)
deriving DecidableEq

/-- Where a thread of the server is within `Handle`. -/
inductive Handler where
  | spawned (message : Message)
  | attached (message : Message) (shm : Option Nat)
  | answering (message : Message)
  | replying (message : Message) (queue : Option Nat)
deriving DecidableEq

/-- A `PushPull` that has returned, with the stub whose request its reply answered
and the stub that had copied into the segment. -/
structure Returned where
  stub : Nat
  data : List Int32
  args : MsgArgs
  result : List Int32
  token : Option Nat
  writer : Option Nat
deriving DecidableEq

structure Exchange where
  kernel : Kernel := {}
  inbox : List Message := []
  stage : Nat → Stage := fun _ => .absent
  handlers : List Handler := []
  returned : List Returned := []

inductive ExchangeAction where
  | createShareMem (stub : Nat) (length : Int)
  | createMsgQueue (stub : Nat)
  | copyIn (stub : Nat) (data : List Int32) (args : MsgArgs)
  | sendMsg (stub : Nat)
  | recvMsg (stub : Nat)
  | copyOut (stub : Nat)
  | destroyShareMem (stub : Nat)
  | destroyMsgQueue (stub : Nat)
  | serve
  | getShareMem (handler : Nat)
  | callback (handler : Nat)
  | getMsgQueue (handler : Nat)
  | reply (handler : Nat)
deriving DecidableEq

namespace Exchange

def enter (state : Exchange) (stub : Nat) (stage : Stage) (kernel : Kernel) : Exchange :=
  { state with stage := Function.update state.stage stub stage, kernel }

def createShareMem (state : Exchange) (stub : Nat) (length : Int) : Option Exchange :=
  match state.stage stub with
  | .absent =>
    if 0 < length then
      let made := state.kernel.createShareMem globalId length
      some (state.enter stub (.attached length made.1) made.2)
    else some (state.enter stub (.attached length none) state.kernel)
  | _ => none

def createMsgQueue (state : Exchange) (stub : Nat) : Option Exchange :=
  match state.stage stub with
  | .attached dataLength shm =>
    let made := state.kernel.createMsgQueue globalId
    some (state.enter stub (.idle { dataLength, shm, msgidr := made.1 }) made.2)
  | _ => none

/-- `PushPull` up to the copy. Without a segment, or outside of it, the copy does not
come to an end. -/
def copyIn (state : Exchange) (stub : Nat) (data : List Int32) (args : MsgArgs) :
    Option Exchange :=
  match state.stage stub with
  | .idle client =>
    if args.key = globalId ∧ args.dataLength ≤ client.dataLength then
      if args.dataLength = 0 then some (state.enter stub (.copied client data args) state.kernel)
      else
        match client.shm with
        | none => none
        | some shm =>
          if 0 ≤ args.dataLength ∧ wordCount args.dataLength ≤ data.length ∧
              wordCount args.dataLength ≤ (state.kernel.segments shm).words.length then
            some (state.enter stub (.copied client data args)
              (state.kernel.write shm (data.take (wordCount args.dataLength)) (some stub)))
          else none
    else none
  | _ => none

def sendMsg (state : Exchange) (stub : Nat) : Option Exchange :=
  match state.stage stub with
  | .copied client data args =>
    some { state.enter stub (.sent client data args) state.kernel with
      inbox := state.inbox ++ [{ args, sender := stub }] }
  | _ => none

def recvMsg (state : Exchange) (stub : Nat) : Option Exchange :=
  match state.stage stub with
  | .sent client data args =>
    (state.kernel.recvMsg client.msgidr).map fun got =>
      state.enter stub (.received client data args (got.1.map Message.sender)) got.2
  | _ => none

/-- `PushPull` from the copy on. -/
def copyOut (state : Exchange) (stub : Nat) : Option Exchange :=
  match state.stage stub with
  | .received client data args token =>
    if args.dataLength = 0 then
      some { state.enter stub (.idle client) state.kernel with
        returned := state.returned ++ [
          { stub, data, args, result := data, token, writer := none }] }
    else
      match client.shm with
      | none => none
      | some shm =>
        let segment := state.kernel.segments shm
        some { state.enter stub (.idle client) state.kernel with
          returned := state.returned ++ [
            { stub, data, args, token, writer := segment.writer
              result := segment.words.take (wordCount args.dataLength) ++
                data.drop (wordCount args.dataLength) }] }
  | _ => none

/-- The destructor, up to the segment. To detach a segment that is not there is the
end of the process. -/
def destroyShareMem (state : Exchange) (stub : Nat) : Option Exchange :=
  match state.stage stub with
  | .idle client =>
    if 0 < client.dataLength then
      client.shm.map fun shm =>
        state.enter stub (.detached client.msgidr) (state.kernel.destroyShareMem shm)
    else some (state.enter stub (.detached client.msgidr) state.kernel)
  | _ => none

def destroyMsgQueue (state : Exchange) (stub : Nat) : Option Exchange :=
  match state.stage stub with
  | .detached msgidr => some (state.enter stub .absent (state.kernel.destroyMsgQueue msgidr))
  | _ => none

/-- The loop of `Serve`. -/
def serve (state : Exchange) : Option Exchange :=
  match state.inbox with
  | [] => none
  | message :: inbox =>
    some { state with inbox, handlers := state.handlers ++ [.spawned message] }

/-- The next step of `Handle`, with the kernel after it. -/
def handle (state : Exchange) (handler : Nat) (next : Handler) (kernel : Kernel) : Exchange :=
  { state with handlers := state.handlers.set handler next, kernel }

def getShareMem (state : Exchange) (handler : Nat) : Option Exchange :=
  match state.handlers[handler]? with
  | some (.spawned message) =>
    if message.args.dataLength = 0 then
      some (state.handle handler (.answering message) state.kernel)
    else
      let got := state.kernel.getShareMem message.args.key message.args.dataLength
      some (state.handle handler (.attached message got.1) got.2)
  | _ => none

/-- The callback has the first `dataLength` bytes of the segment. -/
def runCallback (callback : Callback) (state : Exchange) (handler : Nat) : Option Exchange :=
  match state.handlers[handler]? with
  | some (.attached message (some shm)) =>
    let segment := state.kernel.segments shm
    some (state.handle handler (.answering message)
      (state.kernel.write shm
        (callback.run message.args (segment.words.take (wordCount message.args.dataLength)))
        segment.writer))
  | _ => none

def getMsgQueue (state : Exchange) (handler : Nat) : Option Exchange :=
  match state.handlers[handler]? with
  | some (.answering message) =>
    let got := state.kernel.getMsgQueue message.args.key
    some (state.handle handler (.replying message got.1) got.2)
  | _ => none

def reply (state : Exchange) (handler : Nat) : Option Exchange :=
  match state.handlers[handler]? with
  | some (.replying message queue) =>
    some { state with
      handlers := state.handlers.eraseIdx handler
      kernel := state.kernel.sendMsg queue message }
  | _ => none

def step (callback : Callback) (state : Exchange) : ExchangeAction → Option Exchange
  | .createShareMem stub length => state.createShareMem stub length
  | .createMsgQueue stub => state.createMsgQueue stub
  | .copyIn stub data args => state.copyIn stub data args
  | .sendMsg stub => state.sendMsg stub
  | .recvMsg stub => state.recvMsg stub
  | .copyOut stub => state.copyOut stub
  | .destroyShareMem stub => state.destroyShareMem stub
  | .destroyMsgQueue stub => state.destroyMsgQueue stub
  | .serve => state.serve
  | .getShareMem handler => state.getShareMem handler
  | .callback handler => state.runCallback callback handler
  | .getMsgQueue handler => state.getMsgQueue handler
  | .reply handler => state.reply handler

end Exchange

end GrpcCore.Inci
