import GrpcCore.ClientIdle.FilterState
import GrpcCore.Lib.Run

/-!
# The client idle filter

Threads count their calls in one word. A thread that has decided to start the timer starts it some
time later, and the callback of a timer runs some time after the timer has fired or has been
cancelled.
-/

namespace GrpcCore.ClientIdle

open Machine

/-- How far a timer callback has come: it has an error if the timer was cancelled, and it is to
start the timer again if the check says so. -/
inductive CallbackStage where
  | fired
  | cancelled
  | restarting
deriving DecidableEq

/-- A timer callback that has not returned, and whether it had not when the channel was
disconnected. -/
structure TimerCallback where
  stage : CallbackStage
  outstanding : Bool
deriving DecidableEq

/-- A disconnect counts a call that never ends and then cancels the timer. -/
inductive Disconnect where
  | before
  | counted
  | cancelled
deriving DecidableEq

/-- The filter of a channel. `calls` are in progress, `armed` timers will fire, and `starting`
threads have ended the last call and are to start the timer. `callsSinceArmed` counts the calls
that have started since a timer was last armed, `endedSinceIdle` says whether one has ended since
the last decision to enter idle, and `idleDecisions` has the calls in progress and those since a
timer was armed at every such decision. -/
structure IdleFilter where
  state : StateWord
  calls : Nat
  armed : Nat
  starting : Nat
  callbacks : List TimerCallback
  disconnect : Disconnect
  /-- References to the channel stack that timers hold. -/
  channelStackRefs : Nat
  callsSinceArmed : Nat
  endedSinceIdle : Bool
  idleDecisions : List (Nat × Nat)
deriving DecidableEq

namespace IdleFilter

def created : IdleFilter where
  state := initialState false
  calls := 0
  armed := 0
  starting := 0
  callbacks := []
  disconnect := .before
  channelStackRefs := 0
  callsSinceArmed := 0
  endedSinceIdle := false
  idleDecisions := []

inductive Action where
  | callInit
  | callDestroy
  /-- A thread that has ended the last call starts the timer. -/
  | startIdleTimer
  | expire
  /-- A callback takes its next step. -/
  | idleTimerCallback (callback : Nat)
  | startTransportOp
  | cancelTimer

def maxCalls : Nat := 2 ^ 61

variable (filter : IdleFilter)

def callInit : Option IdleFilter :=
  if filter.calls < maxCalls then
    some { filter with
      state := increaseCallCount filter.state
      calls := filter.calls + 1
      callsSinceArmed := filter.callsSinceArmed + 1 }
  else none

def callDestroy : Option IdleFilter :=
  if filter.calls = 0 then none
  else
    let (state, startTimer) := decreaseCallCount filter.state
    some { filter with
      state := state
      calls := filter.calls - 1
      starting := if startTimer then filter.starting + 1 else filter.starting
      endedSinceIdle := true }

def armTimer : IdleFilter :=
  { filter with
    armed := filter.armed + 1
    channelStackRefs := filter.channelStackRefs + 1
    callsSinceArmed := 0 }

def startIdleTimer : Option IdleFilter :=
  if filter.starting = 0 then none
  else some { filter with starting := filter.starting - 1 }.armTimer

def expire : Option IdleFilter :=
  if filter.armed = 0 then none
  else
    some { filter with
      armed := filter.armed - 1
      callbacks := filter.callbacks ++ [⟨.fired, false⟩] }

def unref (index : Nat) : IdleFilter :=
  { filter with
    callbacks := filter.callbacks.eraseIdx index
    channelStackRefs := filter.channelStackRefs - 1 }

def enterIdle : IdleFilter :=
  { filter with
    endedSinceIdle := false
    idleDecisions := filter.idleDecisions ++ [(filter.calls, filter.callsSinceArmed)] }

def check (index : Nat) (callback : TimerCallback) : IdleFilter :=
  let (state, startTimer) := checkTimer filter.state
  let filter := { filter with state := state }
  if startTimer then
    { filter with callbacks := filter.callbacks.set index { callback with stage := .restarting } }
  else filter.enterIdle.unref index

def idleTimerCallback (index : Nat) : Option IdleFilter :=
  filter.callbacks[index]?.map fun callback =>
    match callback.stage with
    | .cancelled => filter.unref index
    | .fired => filter.check index callback
    | .restarting => filter.armTimer.unref index

def startTransportOp : Option IdleFilter :=
  if filter.disconnect = .before then
    some { filter with
      state := increaseCallCount filter.state
      disconnect := .counted }
  else none

/-- A timer that is armed is cancelled, and its callback gets an error. -/
def cancelTimer : Option IdleFilter :=
  if filter.disconnect = .counted then
    let cancelled :=
      if filter.armed = 0 then filter
      else { filter with
        armed := filter.armed - 1
        callbacks := filter.callbacks ++ [⟨.cancelled, false⟩] }
    some { cancelled with
      disconnect := .cancelled
      callbacks := cancelled.callbacks.map fun callback => { callback with outstanding := true } }
  else none

def step : Action → Option IdleFilter
  | .callInit => filter.callInit
  | .callDestroy => filter.callDestroy
  | .startIdleTimer => filter.startIdleTimer
  | .expire => filter.expire
  | .idleTimerCallback callback => filter.idleTimerCallback callback
  | .startTransportOp => filter.startTransportOp
  | .cancelTimer => filter.cancelTimer

/-- The timers whose callbacks have not run `CheckTimer`. -/
def fired : Nat := filter.callbacks.countP (·.stage = .fired)

def toStart : Nat := filter.starting + filter.callbacks.countP (·.stage = .restarting)

def phonyCalls : Nat := if filter.disconnect = .before then 0 else 1

/-- The channel stack is not kept alive: whatever happens, no timer is armed when the callbacks
that were outstanding at the disconnect have run. -/
def Released : Prop :=
  filter.disconnect = .cancelled → ∀ actions final, Reach step filter actions final →
    (∀ callback ∈ final.callbacks, callback.outstanding = false) →
      final.armed = 0 ∧ final.channelStackRefs = 0

/-- The filter keeps its timer. -/
structure Kept : Prop where
  counted : (callsInProgress filter.state).toNat = filter.calls + filter.phonyCalls
  single : filter.armed ≤ 1 ∧ (filter.fired ≠ 0 → filter.armed = 0)
  idle : ∀ decision ∈ filter.idleDecisions, decision = (0, 0)
  running : filter.disconnect = .before → filter.calls = 0 → filter.endedSinceIdle = true →
    filter.armed ≠ 0 ∨ filter.toStart ≠ 0 ∨ filter.fired ≠ 0
  released : filter.Released

/-- When a disconnect cancels the timer, no timer has fired whose callback is still to check it,
and no thread is about to start one. -/
def CancelsInTime : Action → Prop
  | .cancelTimer => filter.fired = 0 ∧ filter.toStart = 0
  | _ => True

end IdleFilter

end GrpcCore.ClientIdle
