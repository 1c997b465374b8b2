import GrpcCore.Lib.Ledger
import GrpcCore.Lib.Run

/-!
# The work serializer

The atomic steps of `WorkSerializerImpl::Run`, `Orphan` and `DrainQueue`, taken by any number of
threads. The queue is first in first out, and a pop may fail while it is not empty.
-/

namespace GrpcCore.Iomgr

/-- A call on the stack of a thread. Callbacks are numbered as they are passed to `Run`. -/
inductive Frame where
  /-- `Run` between its increment and its push. -/
  | pushing (callback : Nat)
  | executing (callback : Nat)
  /-- `DrainQueue` before its decrement. -/
  | draining
  /-- `DrainQueue` before a pop that succeeds. -/
  | popping
deriving DecidableEq

/-- The fields of the implementation object, with the histories of what has been done. -/
structure WorkSerializerImpl where
  size : Nat
  queue : List Nat
  /-- `Orphan` has been called. -/
  orphaned : Bool
  /-- How often the object has been deleted. -/
  deleted : Nat
  /-- How many callbacks have been passed to `Run`. -/
  passed : Nat
  pushed : List Nat
  started : List Nat
  finished : List Nat
deriving DecidableEq

namespace WorkSerializerImpl

def created : WorkSerializerImpl := ⟨1, [], false, 0, 0, [], [], []⟩

variable (impl : WorkSerializerImpl)

/-- The increment of `Run`, and what it does next. -/
def run : WorkSerializerImpl × Frame :=
  let prevSize := impl.size
  let callback := impl.passed
  let impl := { impl with size := prevSize + 1, passed := callback + 1 }
  if prevSize = 1 then
    ({ impl with started := impl.started ++ [callback] }, .executing callback)
  else (impl, .pushing callback)

def push (callback : Nat) : WorkSerializerImpl :=
  { impl with queue := impl.queue ++ [callback], pushed := impl.pushed ++ [callback] }

def orphan : WorkSerializerImpl :=
  let prevSize := impl.size
  let impl := { impl with size := prevSize - 1, orphaned := true }
  if prevSize = 1 then { impl with deleted := impl.deleted + 1 } else impl

/-- The decrement of `DrainQueue`, and what is left of the call. -/
def drainQueue : WorkSerializerImpl × List Frame :=
  let prevSize := impl.size
  let impl := { impl with size := prevSize - 1 }
  if prevSize = 1 then ({ impl with deleted := impl.deleted + 1 }, [])
  else if prevSize = 2 then (impl, [])
  else (impl, [.popping])

def pop : Option (WorkSerializerImpl × Nat) :=
  match impl.queue with
  | [] => none
  | callback :: queue =>
    some ({ impl with queue, started := impl.started ++ [callback] }, callback)

def finish (callback : Nat) : WorkSerializerImpl :=
  { impl with finished := impl.finished ++ [callback] }

end WorkSerializerImpl

inductive ThreadEvent where
  | run
  | orphan
  | push
  /-- The running callback returns. -/
  | return
  | drain
  | pop (spuriousFailure : Bool)
deriving DecidableEq

def atCall : List Frame → Bool
  | [] => true
  | .executing _ :: _ => true
  | _ => false

/-- What a thread does next. There is one call of `Orphan`, and no call of `Run` after it. -/
def advance (impl : WorkSerializerImpl) :
    List Frame → ThreadEvent → Option (WorkSerializerImpl × List Frame)
  | frames, .run =>
    if atCall frames = true ∧ impl.orphaned = false then some (impl.run.1, impl.run.2 :: frames)
    else none
  | frames, .orphan =>
    if atCall frames = true ∧ impl.orphaned = false then some (impl.orphan, frames) else none
  | .pushing callback :: frames, .push => some (impl.push callback, frames)
  | .executing callback :: frames, .return => some (impl.finish callback, .draining :: frames)
  | .draining :: frames, .drain => some (impl.drainQueue.1, impl.drainQueue.2 ++ frames)
  | .popping :: frames, .pop true => some (impl, .popping :: frames)
  | .popping :: frames, .pop false =>
    impl.pop.map fun (impl, callback) => (impl, .executing callback :: frames)
  | _, _ => none

structure WorkSerializer where
  impl : WorkSerializerImpl
  threads : List (List Frame)
deriving DecidableEq

namespace WorkSerializer

def created (threads : Nat) : WorkSerializer := ⟨.created, List.replicate threads []⟩

structure Action where
  thread : Nat
  event : ThreadEvent
deriving DecidableEq

def step (serializer : WorkSerializer) (action : Action) : Option WorkSerializer := do
  let frames ← serializer.threads[action.thread]?
  let (impl, frames) ← advance serializer.impl frames action.event
  some ⟨impl, serializer.threads.set action.thread frames⟩

end WorkSerializer

end GrpcCore.Iomgr
