import GrpcCore.Lib.BinaryHeap

/-!
# The timer heap

A block of pointers to timers, grown and shrunk by hand, with the index of each timer
written into the timer itself.
-/

namespace GrpcCore.Iomgr

open BinaryHeap (parent parent_lt)

/-- `grpc_timer_heap` with the two fields of the timers that it reads and writes. The
places of `timers` that were not written since the block was allocated are `none`. -/
structure TimerHeap (Timer : Type) where
  timers : List (Option Timer) := []
  timerCount : Nat := 0
  timerCapacity : Nat := 0
  deadline : Timer → Int
  heapIndex : Timer → Nat

namespace TimerHeap

variable {Timer : Type}

def load (heap : TimerHeap Timer) (i : Nat) : Option Timer := heap.timers[i]?.join

/-- `gpr_realloc`: what fits into the new block is kept. -/
def realloc (heap : TimerHeap Timer) (capacity : Nat) : TimerHeap Timer :=
  { heap with
    timerCapacity := capacity
    timers := heap.timers.take capacity ++ List.replicate (capacity - heap.timers.length) none }

def grow (heap : TimerHeap Timer) : TimerHeap Timer :=
  if heap.timerCount = heap.timerCapacity then
    heap.realloc (max (heap.timerCapacity + 1) (heap.timerCapacity * 3 / 2))
  else heap

def maybeShrink (heap : TimerHeap Timer) : TimerHeap Timer :=
  if heap.timerCount ≥ 8 ∧ heap.timerCount ≤ heap.timerCapacity / 2 / 2 then
    heap.realloc (heap.timerCount * 2)
  else heap

/-- The child the hole at `i` moves to. -/
def nextChild (heap : TimerHeap Timer) (i length : Nat) : Option Nat :=
  if 1 + 2 * i + 1 < length then do
    let left ← heap.load (1 + 2 * i)
    let right ← heap.load (1 + 2 * i + 1)
    some (if heap.deadline left > heap.deadline right then 1 + 2 * i + 1 else 1 + 2 * i)
  else some (1 + 2 * i)

theorem lt_of_nextChild {heap : TimerHeap Timer} {i length next : Nat}
    (found : nextChild heap i length = some next) : i < next := by
  rw [nextChild] at found
  split at found
  · obtain ⟨left, _, found⟩ := Option.bind_eq_some_iff.mp found
    obtain ⟨right, _, found⟩ := Option.bind_eq_some_iff.mp found
    obtain rfl := Option.some.inj found
    split <;> omega
  · obtain rfl := Option.some.inj found
    omega

variable [DecidableEq Timer]

/-- `first[i] = t; t->heap_index = i`. -/
def place (heap : TimerHeap Timer) (i : Nat) (timer : Timer) : TimerHeap Timer :=
  { heap with
    timers := heap.timers.set i (some timer)
    heapIndex := Function.update heap.heapIndex timer i }

def store (heap : TimerHeap Timer) (i : Nat) (timer : Timer) : Option (TimerHeap Timer) :=
  if i < heap.timers.length then some (heap.place i timer) else none

def adjustUpwards (heap : TimerHeap Timer) (i : Nat) (timer : Timer) :
    Option (TimerHeap Timer) :=
  if positive : 0 < i then do
    let above ← heap.load (parent i)
    if heap.deadline above ≤ heap.deadline timer then heap.store i timer
    else
      have := parent_lt positive
      adjustUpwards (← heap.store i above) (parent i) timer
  else heap.store i timer
termination_by i

def adjustDownwards (heap : TimerHeap Timer) (i length : Nat) (timer : Timer) :
    Option (TimerHeap Timer) :=
  if 1 + 2 * i < length then
    match _found : nextChild heap i length with
    | none => none
    | some next => do
      let below ← heap.load next
      if heap.deadline timer ≤ heap.deadline below then heap.store i timer
      else adjustDownwards (← heap.store i below) next length timer
  else heap.store i timer
termination_by length - i
decreasing_by
  have later := lt_of_nextChild _found
  omega

def noteChangedPriority (heap : TimerHeap Timer) (timer : Timer) : Option (TimerHeap Timer) := do
  let i := heap.heapIndex timer
  let above ← heap.load (parent i)
  if heap.deadline above > heap.deadline timer then adjustUpwards heap i timer
  else adjustDownwards heap i heap.timerCount timer

/-- `grpc_timer_heap_init`, for timers with any deadlines and indices. -/
def init (deadline : Timer → Int) (heapIndex : Timer → Nat) : TimerHeap Timer :=
  { deadline := deadline, heapIndex := heapIndex }

/-- `grpc_timer_heap_add`, which returns whether the timer is the first. -/
def add (heap : TimerHeap Timer) (timer : Timer) : Option (TimerHeap Timer × Bool) := do
  let heap := heap.grow
  let heap := { heap with heapIndex := Function.update heap.heapIndex timer heap.timerCount }
  let heap ← adjustUpwards heap heap.timerCount timer
  let heap := { heap with timerCount := heap.timerCount + 1 }
  some (heap, heap.heapIndex timer == 0)

/-- `grpc_timer_heap_remove`. -/
def remove (heap : TimerHeap Timer) (timer : Timer) : Option (TimerHeap Timer) := do
  let i := heap.heapIndex timer
  if i = heap.timerCount - 1 then
    return maybeShrink { heap with timerCount := heap.timerCount - 1 }
  let last ← heap.load (heap.timerCount - 1)
  let heap ← heap.store i last
  let heap := maybeShrink { heap with timerCount := heap.timerCount - 1 }
  noteChangedPriority heap (← heap.load i)

def isEmpty (heap : TimerHeap Timer) : Bool := heap.timerCount == 0

def top (heap : TimerHeap Timer) : Option Timer := heap.load 0

def pop (heap : TimerHeap Timer) : Option (TimerHeap Timer) := do
  remove heap (← top heap)

end TimerHeap

end GrpcCore.Iomgr
