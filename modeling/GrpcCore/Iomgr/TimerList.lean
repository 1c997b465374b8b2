import GrpcCore.Lib.BinaryHeap
import GrpcCore.Lib.Reposition
import GrpcCore.Lib.Run

/-!
# The timer list

Timers are spread over shards. A shard keeps the timers below its cap in a heap
and the others in an unordered list, and the shards stand in a queue sorted by
the deadline each expects next.
-/

namespace GrpcCore.Iomgr.Timers

/-- `GRPC_MILLIS_INF_FUTURE`. -/
def infFuture : Int := 2 ^ 63 - 1

def saturatingAdd (a b : Int) : Int :=
  if a > infFuture - b then infFuture else a + b

/-- A timer that has been set: where it lies, when it is due, what it runs. -/
structure Timer where
  address : Nat
  deadline : Int
  closure : Nat
deriving DecidableEq

/-- `deadline_delta` in milliseconds, clamped to the limits of the queue window. -/
structure QueueWindow where
  millis : Int
  atLeast : 10 ≤ millis
  atMost : millis ≤ 1000

/-- `timer_shard`. Of `stats` only what it comes to at each refill is kept. -/
structure Shard where
  stats : Nat → QueueWindow
  queueDeadlineCap : Int
  minDeadline : Int
  heap : List Timer := []
  list : List Timer := []

/-- With what a closure is scheduled: without an error, as cancelled, or with the
error given to the check. -/
inductive Verdict where
  | success
  | cancelled
  | error
deriving DecidableEq

structure Firing where
  timer : Timer
  verdict : Verdict
deriving DecidableEq

/-- The shards and what they share, with the clock as last seen, the timers set so
far and the closures scheduled. -/
structure TimerList where
  shards : List Shard
  shardQueue : List Nat
  minTimer : Int
  pending : Nat → Bool := fun _ => false
  now : Int
  started : List Timer := []
  scheduled : List Firing := []

def hashPointer (pointer range : Nat) : Nat :=
  (pointer >>> 4 ^^^ pointer >>> 9 ^^^ pointer >>> 14) % range

def computeMinDeadline (shard : Shard) : Int :=
  match shard.heap with
  | [] => saturatingAdd shard.queueDeadlineCap 1
  | top :: _ => top.deadline

/-- `timer_list_init`, with a shard for each of the streams of queue windows. -/
def timerListInit (now : Int) (stats : List (Nat → QueueWindow)) : TimerList where
  shards := stats.map fun stats =>
    { stats := stats, queueDeadlineCap := now, minDeadline := saturatingAdd now 1 }
  shardQueue := List.range stats.length
  minTimer := now
  now := now

/-! ## The queue of shards -/

def minDeadlineOf (shards : List Shard) (i : Nat) : Int :=
  match shards[i]? with
  | none => infFuture
  | some shard => shard.minDeadline

def noteDeadlineChange (shards : List Shard) (shardQueue : List Nat) (i : Nat) : List Nat :=
  Reposition.reposition (minDeadlineOf shards) i (shardQueue.takeWhile (· != i)).reverse
    (shardQueue.dropWhile (· != i)).tail

/-- `g_shard_queue[0]->min_deadline`. -/
def TimerList.firstDeadline (timers : TimerList) : Int :=
  minDeadlineOf timers.shards (timers.shardQueue.headD 0)

def TimerList.setMinDeadline (timers : TimerList) (i : Nat) (shard : Shard) (deadline : Int) :
    TimerList :=
  let shards := timers.shards.set i { shard with minDeadline := deadline }
  { timers with shards := shards, shardQueue := noteDeadlineChange shards timers.shardQueue i }

/-! ## Setting and cancelling a timer -/

def TimerList.schedule (timers : TimerList) (timer : Timer) (verdict : Verdict) : TimerList :=
  { timers with scheduled := timers.scheduled ++ [⟨timer, verdict⟩] }

def TimerList.setPending (timers : TimerList) (address : Nat) (pending : Bool) : TimerList :=
  { timers with pending := Function.update timers.pending address pending }

def timerInit (timers : TimerList) (now : Int) (timer : Timer) : TimerList :=
  let timers := { timers with now := now, started := timers.started ++ [timer] }
  let i := hashPointer timer.address timers.shards.length
  match timers.shards[i]? with
  | none => timers
  | some shard =>
    if timer.deadline ≤ now then
      (timers.setPending timer.address false).schedule timer .success
    else
      let timers := timers.setPending timer.address true
      if timer.deadline < shard.queueDeadlineCap then
        let (heap, isFirstTimer) := BinaryHeap.add Timer.deadline shard.heap timer
        let shard := { shard with heap := heap }
        if isFirstTimer = true ∧ timer.deadline < shard.minDeadline then
          let oldMinDeadline := timers.firstDeadline
          let timers := timers.setMinDeadline i shard timer.deadline
          if timers.shardQueue.head? = some i ∧ timer.deadline < oldMinDeadline then
            { timers with minTimer := timer.deadline }
          else timers
        else { timers with shards := timers.shards.set i shard }
      else
        { timers with shards := timers.shards.set i { shard with list := shard.list ++ [timer] } }

def timerCancel (timers : TimerList) (address : Nat) : TimerList :=
  let i := hashPointer address timers.shards.length
  match timers.shards[i]? with
  | none => timers
  | some shard =>
    if timers.pending address then
      let timers := timers.setPending address false
      -- a timer that is not in the heap is in the list
      match shard.heap.findIdx? (·.address == address) with
      | some index =>
        match shard.heap[index]? with
        | none => timers
        | some timer =>
          let shard := { shard with heap := BinaryHeap.remove Timer.deadline shard.heap index }
          { timers with shards := timers.shards.set i shard }.schedule timer .cancelled
      | none =>
        match shard.list.find? (·.address == address) with
        | none => timers
        | some timer =>
          let shard := { shard with list := shard.list.erase timer }
          { timers with shards := timers.shards.set i shard }.schedule timer .cancelled
    else timers

/-! ## Checking for expired timers -/

def refillHeap (shard : Shard) (now : Int) : Shard :=
  let cap := saturatingAdd (max now shard.queueDeadlineCap) (shard.stats 0).millis
  { shard with
    stats := fun refill => shard.stats (refill + 1)
    queueDeadlineCap := cap
    heap := (shard.list.filter (·.deadline < cap)).foldl
      (fun heap timer => (BinaryHeap.add Timer.deadline heap timer).1) shard.heap
    list := shard.list.filter fun timer => ¬ timer.deadline < cap }

/-- The end of `pop_one`, on the top of the heap. -/
def popTop (shard : Shard) (now : Int) : Option Timer × Shard :=
  match shard.heap with
  | [] => (none, shard)
  | timer :: _ =>
    if timer.deadline > now then (none, shard)
    else (some timer, { shard with heap := BinaryHeap.remove Timer.deadline shard.heap 0 })

def popOne (shard : Shard) (now : Int) : Option Timer × Shard :=
  if shard.heap.isEmpty then
    if now < shard.queueDeadlineCap then (none, shard)
    else popTop (refillHeap shard now) now
  else popTop shard now

/-- The loop of `pop_timers`: the timers popped and the shard left. -/
def popLoop (now : Int) : Nat → Shard → List Timer × Shard
  | 0, shard => ([], shard)
  | fuel + 1, shard =>
    match popOne shard now with
    | (none, shard) => ([], shard)
    | (some timer, shard) =>
      let (timers, shard) := popLoop now fuel shard
      (timer :: timers, shard)

def popTimers (shard : Shard) (now : Int) : List Timer × Shard :=
  popLoop now (shard.heap.length + shard.list.length + 1) shard

inductive CheckResult where
  | notChecked
  | checkedAndEmpty
  | fired
deriving DecidableEq

def shardDue (deadline now : Int) : Bool :=
  deadline < now || now != infFuture && deadline == now

def TimerList.fire (timers : TimerList) (popped : List Timer) (verdict : Verdict) : TimerList :=
  { timers with
    pending := fun address => timers.pending address && !popped.any (·.address == address)
    scheduled := timers.scheduled ++ popped.map fun timer => ⟨timer, verdict⟩ }

/-- The loop over the queue of shards, which looks at each shard once at most. -/
def checkShards (now : Int) (verdict : Verdict) : Nat → TimerList → TimerList × CheckResult
  | 0, timers => (timers, .checkedAndEmpty)
  | fuel + 1, timers =>
    let i := timers.shardQueue.headD 0
    match timers.shards[i]? with
    | none => (timers, .checkedAndEmpty)
    | some shard =>
      if shardDue shard.minDeadline now then
        let (popped, shard) := popTimers shard now
        let fired := (timers.fire popped verdict).setMinDeadline i shard
          (computeMinDeadline shard)
        let (timers, result) := checkShards now verdict fuel fired
        (timers, if popped.isEmpty then result else .fired)
      else (timers, .checkedAndEmpty)

/-- `run_some_expired_timers`. `gotLock` tells what `gpr_spinlock_trylock` returns;
`next` is read and written unless it is null. -/
def runSomeExpiredTimers (timers : TimerList) (now : Int) (next : Option Int) (error gotLock : Bool) :
    TimerList × CheckResult × Option Int :=
  let timers := { timers with now := now }
  if now < timers.minTimer then (timers, .checkedAndEmpty, next.map (min · timers.minTimer))
  else if gotLock then
    let verdict := if error then .error else .success
    let (timers, result) := checkShards now verdict timers.shards.length timers
    ({ timers with minTimer := timers.firstDeadline }, result,
      next.map (min · timers.firstDeadline))
  else (timers, .notChecked, next)

/-! ## Steps -/

inductive Action where
  | timerInit (now : Int) (timer : Timer)
  | timerCancel (address : Nat)
  | runSomeExpiredTimers (now : Int) (next : Option Int) (error gotLock : Bool)
deriving DecidableEq

/-- A step. The clock does not go back, a timer that is set is not pending, and its
deadline is not infinite. -/
def step (timers : TimerList) : Action → Option TimerList
  | .timerInit now timer =>
    if timers.now ≤ now ∧ now ≤ infFuture ∧ timers.pending timer.address = false ∧
        timer.deadline < infFuture then
      some (timerInit timers now timer)
    else none
  | .timerCancel address => some (timerCancel timers address)
  | .runSomeExpiredTimers now next error gotLock =>
    if timers.now ≤ now ∧ now ≤ infFuture then
      some (runSomeExpiredTimers timers now next error gotLock).1
    else none

end GrpcCore.Iomgr.Timers
