import GrpcCore.Lib.Ledger
import GrpcCore.Lib.Run

/-!
# The threads of the synchronous server

The counters of a `ThreadManager` and the loop of its workers. A step is what a worker does
between two points where others may take the lock.
-/

namespace GrpcCore.Cpp

/-- The bounds that a manager is created with. -/
structure PollerBounds where
  minPollers : Int
  maxPollers : Int
  one_le_min : 1 ≤ minPollers
  min_le_max : minPollers ≤ maxPollers

inductive WorkStatus where
  | workFound
  | shutdown
  | timeout
deriving DecidableEq

inductive WorkerPhase where
  /-- `Initialize` is still to start it. -/
  | starting
  | polling
  /-- It has found work and creates another worker. -/
  | creating
  | working (resources : Bool)
  /-- It has left the loop. -/
  | exiting
  /-- It has cleaned up, and then it has listed itself. -/
  | completing
  | listed
  /-- It has given up its place but not its thread quota. -/
  | returning
  | completed
deriving DecidableEq

/-- The data of a `ThreadManager`, with the threads it holds from the resource quota. -/
structure Counters where
  shutdown : Bool
  numPollers : Int
  numThreads : Int
  maxActiveThreadsSofar : Int
  quota : Int
  completedThreads : List Nat
deriving DecidableEq

namespace Counters

variable (bounds : PollerBounds) (counters : Counters)

/-- The end of an iteration of `MainWorkLoop`. -/
def goBackToPolling : Counters × WorkerPhase :=
  if counters.numPollers < bounds.maxPollers then
    ({ counters with numPollers := counters.numPollers + 1 }, .polling)
  else (counters, .exiting)

/-- Work has been found, and another poller may be needed. -/
def workFound (granted : Bool) : Counters × WorkerPhase :=
  if ¬ counters.shutdown ∧ counters.numPollers < bounds.minPollers then
    if granted then
      ({ counters with
        numPollers := counters.numPollers + 1
        numThreads := counters.numThreads + 1
        maxActiveThreadsSofar := max counters.maxActiveThreadsSofar (counters.numThreads + 1)
        quota := counters.quota + 1 }, .creating)
    else (counters, .working (decide (0 < counters.numPollers)))
  else (counters, .working true)

/-- `MainWorkLoop` after `PollForWork`. -/
def polled (status : WorkStatus) (granted : Bool) : Counters × WorkerPhase :=
  let counters := { counters with numPollers := counters.numPollers - 1 }
  match status with
  | .timeout =>
    if counters.shutdown ∨ bounds.maxPollers < counters.numPollers then (counters, .exiting)
    else counters.goBackToPolling bounds
  | .shutdown => (counters, .exiting)
  | .workFound => counters.workFound bounds granted

/-- `MainWorkLoop` after the thread of a new worker could be created or not, with the new
worker. -/
def created : Bool → Counters × WorkerPhase × List WorkerPhase
  | true => (counters, .working true, [.polling])
  | false =>
    ({ counters with
      numPollers := counters.numPollers - 1
      numThreads := counters.numThreads - 1 }, .working false, [])

/-- `MainWorkLoop` after `DoWork`. -/
def workDone : Counters × WorkerPhase :=
  if counters.shutdown then (counters, .exiting) else counters.goBackToPolling bounds

end Counters

inductive WorkerEvent where
  | start
  | poll (status : WorkStatus) (granted : Bool)
  | create (created : Bool)
  | doWork
  | cleanupCompletedThreads
  | list
  | release
  | freeThreads
deriving DecidableEq

/-- What a worker does next, with the workers that it starts. -/
def advance (bounds : PollerBounds) (worker : Nat) (counters : Counters) :
    WorkerPhase → WorkerEvent → Option (Counters × WorkerPhase × List WorkerPhase)
  | .starting, .start => some (counters, .polling, [])
  | .polling, .poll status granted =>
    if status = .shutdown ∧ ¬ counters.shutdown then none
    else
      let (counters, phase) := counters.polled bounds status granted
      some (counters, phase, [])
  | .creating, .create created => some (counters.created created)
  | .working _, .doWork =>
    let (counters, phase) := counters.workDone bounds
    some (counters, phase, [])
  | .exiting, .cleanupCompletedThreads =>
    some ({ counters with completedThreads := [] }, .completing, [])
  | .completing, .list =>
    some ({ counters with completedThreads := counters.completedThreads ++ [worker] }, .listed,
      [])
  | .listed, .release =>
    some ({ counters with numThreads := counters.numThreads - 1 }, .returning, [])
  | .returning, .freeThreads => some ({ counters with quota := counters.quota - 1 }, .completed, [])
  | _, _ => none

structure ThreadManager where
  counters : Counters
  workers : List WorkerPhase
deriving DecidableEq

namespace ThreadManager

/-- `Initialize`, before it starts its workers. -/
def initialized (bounds : PollerBounds) : ThreadManager where
  counters := {
    shutdown := false
    numPollers := bounds.minPollers
    numThreads := bounds.minPollers
    maxActiveThreadsSofar := bounds.minPollers
    quota := bounds.minPollers
    completedThreads := [] }
  workers := List.replicate bounds.minPollers.toNat .starting

inductive Action where
  | shutdown
  | worker (index : Nat) (event : WorkerEvent)
deriving DecidableEq

def step (bounds : PollerBounds) (manager : ThreadManager) : Action → Option ThreadManager
  | .shutdown => some { manager with counters := { manager.counters with shutdown := true } }
  | .worker index event => do
    let phase ← manager.workers[index]?
    let (counters, phase, started) ← advance bounds index manager.counters phase event
    some ⟨counters, manager.workers.set index phase ++ started⟩

end ThreadManager

end GrpcCore.Cpp
