import GrpcCore.Gprpp.LockedMpscq
import GrpcCore.Lib.Run

/-!
# Matching calls to requested calls

The server's request matchers and its shutdown. Application threads queue requested
calls, incoming calls are matched to them or wait, and shutting down fails what has
not been matched. A task is a thread inside one of these functions; it takes one
atomic step at a time.
-/

namespace GrpcCore.Surface.Matching

open Gprpp

/-- The real request matchers, the completion queues and the listeners of a server. -/
structure Layout where
  matchers : Nat
  cqs : Nat
  listeners : Nat

inductive CallState where
  | notStarted
  | pending
  | activated
  | zombied
deriving DecidableEq

/-- The `grpc_cq_end_op` of a requested call: published with an incoming call, or failed. -/
structure Completion where
  request : Nat
  cq : Nat
  call : Option Nat
deriving DecidableEq

/-- Where `QueueRequestedCall` is: before `ShutdownCalled()`, in the two halves of
`Push`, before `mu_call_` in `pop_next_pending`, in its `Pop`, or out of it with a
request and a pending call. -/
inductive RequestPc where
  | checking
  | pushing
  | linking (prev : Node Nat)
  | locking
  | popping
  | matched (request call : Nat)
  | done
deriving DecidableEq

/-- Where `PublishNewRpc` is: before `ShutdownCalled()`, in `MatchOrQueue` with the
`TryPop` of a loop index, before `mu_call_`, with the `Pop` of a loop index under it,
or before `Publish`. -/
inductive CallPc where
  | checking
  | trying (i : Nat)
  | locking
  | scanning (i : Nat)
  | publishing (cqIdx request : Nat)
  | done
deriving DecidableEq

/-- What may lead to `MaybeFinishShutdown`. -/
inductive Cause where
  | shutdownAndNotify
  | listenerDestroyDone
  | channelDestroyed
  | allocatedRequest
deriving DecidableEq

/-- Where such a thread is: before `mu_global_` (or `ShutdownRefOnRequest`), before
`ShutdownUnrefOnRequest`, after its last unref, before the `mu_call_` of
`KillPendingWorkLocked`, killing the requests of a queue, before
`ShutdownUnrefOnShutdownCall`, or at the start of `MaybeFinishShutdown`. A kill is final
when it is the one of `MaybeFinishShutdown`. -/
inductive ShutdownPc where
  | entering (cause : Cause)
  | allocated
  | unreffed
  | locking (final : Bool)
  | killing (final : Bool) (matcher cq : Nat)
  | unreffing
  | finishing
  | done
deriving DecidableEq

/-- A thread inside the server. A requested call and an incoming call are named by the
index of the task that brought them. -/
inductive Task where
  | request (queue : Nat × Nat) (pc : RequestPc)
  | call (matcher startIndex : Nat) (pc : CallPc)
  | shutdown (pc : ShutdownPc)
deriving DecidableEq

/-- The server. A request queue is named by its matcher and its completion queue. -/
structure Server where
  requestsPerCq : Nat × Nat → LockedMpscq Nat := fun _ => {}
  pending : Nat → List Nat := fun _ => []
  state : Nat → CallState := fun _ => .notStarted
  muCall : Option Nat := none
  muGlobal : Option Nat := none
  shutdownRefs : Int := 1
  shutdownPublished : Bool := false
  channels : Nat := 0
  listenersDestroyed : Nat := 0
  completions : List Completion := []

variable {server' server : Server} {layout : Layout} {self : Nat}

namespace Server

def shutdownCalled (server : Server) : Bool := server.shutdownRefs % 2 == 0

def shutdownReady (server : Server) : Bool := server.shutdownRefs == 0

def lastPass (layout : Layout) (server : Server) : Bool :=
  server.channels == 0 && decide (layout.listeners ≤ server.listenersDestroyed)

def setQueue (server : Server) (queue : Nat × Nat) (requests : LockedMpscq Nat) : Server :=
  { server with requestsPerCq := Function.update server.requestsPerCq queue requests }

def setState (server : Server) (call : Nat) (state : CallState) : Server :=
  { server with state := Function.update server.state call state }

def endOp (server : Server) (completion : Completion) : Server :=
  { server with completions := server.completions ++ [completion] }

@[simp]
theorem setQueue_self (server : Server) (queue : Nat × Nat) (requests : LockedMpscq Nat) :
    (server.setQueue queue requests).requestsPerCq queue = requests :=
  Function.update_self _ _ _

variable {queue : Nat × Nat}

theorem setQueue_of_ne (server : Server) {other : Nat × Nat} (ne : other ≠ queue)
    (requests : LockedMpscq Nat) :
    (server.setQueue queue requests).requestsPerCq other = server.requestsPerCq other :=
  Function.update_of_ne ne _ _

/-- `ZombifyPending`. -/
def zombifyPending (server : Server) (matcher : Nat) : Server :=
  { server with
    pending := Function.update server.pending matcher []
    state := fun call =>
      if call ∈ server.pending matcher then .zombied else server.state call }

/-- `QueueRequestedCall` and `RequestCallWithPossiblePublish`. -/
def requestStep (server : Server) (self : Nat) (queue : Nat × Nat) :
    RequestPc → Option (Server × RequestPc)
  | .checking =>
    if server.shutdownCalled then some (server.endOp ⟨self, queue.2, none⟩, .done)
    else some (server, .pushing)
  | .pushing =>
    let (requests, prev) := (server.requestsPerCq queue).exchange self
    some (server.setQueue queue requests, .linking prev)
  | .linking prev =>
    some (server.setQueue queue ((server.requestsPerCq queue).link self),
      if prev = none then .locking else .done)
  | .locking =>
    if server.muCall = none then
      if server.pending queue.1 = [] then some (server, .done)
      else some ({ server with muCall := some self }, .popping)
    else none
  | .popping =>
    match (server.requestsPerCq queue).pop self with
    | none => none
    | some (requests, .working) => some (server.setQueue queue requests, .popping)
    | some (requests, .got none) =>
      some ({ server.setQueue queue requests with muCall := none }, .done)
    | some (requests, .got (some request)) =>
      match server.pending queue.1 with
      | [] => none
      | call :: pending =>
        some ({ server.setQueue queue requests with
          muCall := none
          pending := Function.update server.pending queue.1 pending }, .matched request call)
  | .matched request call =>
    if server.state call = .pending then
      some ((server.setState call .activated).endOp ⟨request, queue.2, some call⟩, .locking)
    else some (server, .locking)
  | .done => none

/-- `PublishNewRpc` and `MatchOrQueue`. -/
def callStep (layout : Layout) (server : Server) (self matcher startIndex : Nat) :
    CallPc → Option (Server × CallPc)
  | .checking =>
    if server.shutdownCalled then some (server.setState self .zombied, .done)
    else some (server, .trying 0)
  | .trying i =>
    if i < layout.cqs then
      let cqIdx := (startIndex + i) % layout.cqs
      match (server.requestsPerCq (matcher, cqIdx)).tryPop self with
      | none => none
      | some (requests, .working) => some (server.setQueue (matcher, cqIdx) requests, .trying i)
      | some (requests, .got none) =>
        some (server.setQueue (matcher, cqIdx) requests, .trying (i + 1))
      | some (requests, .got (some request)) =>
        some (server.setQueue (matcher, cqIdx) requests, .publishing cqIdx request)
    else some (server, .locking)
  | .locking =>
    if server.muCall = none then some ({ server with muCall := some self }, .scanning 0) else none
  | .scanning i =>
    if i < layout.cqs then
      let cqIdx := (startIndex + i) % layout.cqs
      match (server.requestsPerCq (matcher, cqIdx)).pop self with
      | none => none
      | some (requests, .working) => some (server.setQueue (matcher, cqIdx) requests, .scanning i)
      | some (requests, .got none) =>
        some (server.setQueue (matcher, cqIdx) requests, .scanning (i + 1))
      | some (requests, .got (some request)) =>
        some ({ server.setQueue (matcher, cqIdx) requests with muCall := none },
          .publishing cqIdx request)
    else
      some ({ server.setState self .pending with
        muCall := none
        pending := Function.update server.pending matcher (server.pending matcher ++ [self]) },
        .done)
  | .publishing cqIdx request =>
    some ((server.setState self .activated).endOp ⟨request, cqIdx, some self⟩, .done)
  | .done => none

/-- `ShutdownAndNotify` and the callers of `MaybeFinishShutdown`. -/
def shutdownStep (layout : Layout) (server : Server) (self : Nat) :
    ShutdownPc → Option (Server × ShutdownPc)
  | .entering .shutdownAndNotify =>
    if server.muGlobal = none then
      if server.shutdownPublished || server.shutdownCalled then some (server, .done)
      else some ({ server with muGlobal := some self }, .locking false)
    else none
  | .entering .listenerDestroyDone =>
    if server.muGlobal = none ∧ server.listenersDestroyed < layout.listeners then
      some ({ server with
        muGlobal := some self
        listenersDestroyed := server.listenersDestroyed + 1 }, .finishing)
    else none
  | .entering .channelDestroyed =>
    if server.muGlobal = none ∧ 0 < server.channels then
      some ({ server with muGlobal := some self, channels := server.channels - 1 }, .finishing)
    else none
  | .entering .allocatedRequest =>
    some ({ server with shutdownRefs := server.shutdownRefs + 2 }, .allocated)
  | .allocated =>
    some ({ server with shutdownRefs := server.shutdownRefs - 2 },
      if server.shutdownRefs = 2 then .unreffed else .done)
  | .unreffed =>
    if server.muGlobal = none then some ({ server with muGlobal := some self }, .finishing)
    else none
  | .locking final =>
    if server.muCall = none then some ({ server with muCall := some self }, .killing final 0 0)
    else none
  | .killing final matcher cq =>
    if matcher < layout.matchers then
      if cq < layout.cqs then
        match (server.requestsPerCq (matcher, cq)).pop self with
        | none => none
        | some (requests, .working) =>
          some (server.setQueue (matcher, cq) requests, .killing final matcher cq)
        | some (requests, .got none) =>
          some (server.setQueue (matcher, cq) requests, .killing final matcher (cq + 1))
        | some (requests, .got (some request)) =>
          some ((server.setQueue (matcher, cq) requests).endOp ⟨request, cq, none⟩,
            .killing final matcher cq)
      else some (server.zombifyPending matcher, .killing final (matcher + 1) 0)
    else if final then
      some ({ server with
        muCall := none
        muGlobal := none
        shutdownPublished := server.shutdownPublished || server.lastPass layout }, .done)
    else some ({ server with muCall := none }, .unreffing)
  | .unreffing =>
    if server.shutdownRefs = 1 then
      some ({ server with shutdownRefs := server.shutdownRefs - 1 }, .finishing)
    else
      some ({ server with shutdownRefs := server.shutdownRefs - 1, muGlobal := none }, .done)
  | .finishing =>
    if server.shutdownReady && !server.shutdownPublished then some (server, .locking true)
    else some ({ server with muGlobal := none }, .done)
  | .done => none

/-! ### What a step can do -/

inductive RequestStep (server : Server) (self : Nat) (queue : Nat × Nat) :
    RequestPc → Server → RequestPc → Prop where
  | failed (called : server.shutdownCalled = true) :
      RequestStep server self queue .checking (server.endOp ⟨self, queue.2, none⟩) .done
  | accepted (running : server.shutdownCalled = false) :
      RequestStep server self queue .checking server .pushing
  | exchanged :
      RequestStep server self queue .pushing
        (server.setQueue queue ((server.requestsPerCq queue).exchange self).1)
        (.linking ((server.requestsPerCq queue).exchange self).2)
  | linkedFirst :
      RequestStep server self queue (.linking none)
        (server.setQueue queue ((server.requestsPerCq queue).link self)) .locking
  | linked {prev : Nat} :
      RequestStep server self queue (.linking (some prev))
        (server.setQueue queue ((server.requestsPerCq queue).link self)) .done
  | nothingPending (free : server.muCall = none) (nothing : server.pending queue.1 = []) :
      RequestStep server self queue .locking server .done
  | locked (free : server.muCall = none) (waiting : server.pending queue.1 ≠ []) :
      RequestStep server self queue .locking { server with muCall := some self } .popping
  | working {requests : LockedMpscq Nat}
      (popped : (server.requestsPerCq queue).pop self = some (requests, .working)) :
      RequestStep server self queue .popping (server.setQueue queue requests) .popping
  | foundEmpty {requests : LockedMpscq Nat}
      (popped : (server.requestsPerCq queue).pop self = some (requests, .got none)) :
      RequestStep server self queue .popping
        { server.setQueue queue requests with muCall := none } .done
  | matched {requests : LockedMpscq Nat} {request call : Nat} {pending : List Nat}
      (popped : (server.requestsPerCq queue).pop self = some (requests, .got (some request)))
      (waiting : server.pending queue.1 = call :: pending) :
      RequestStep server self queue .popping
        { server.setQueue queue requests with
          muCall := none
          pending := Function.update server.pending queue.1 pending } (.matched request call)
  | published {request call : Nat} (pending : server.state call = .pending) :
      RequestStep server self queue (.matched request call)
        ((server.setState call .activated).endOp ⟨request, queue.2, some call⟩) .locking
  | killedZombie {request call : Nat} (zombied : server.state call ≠ .pending) :
      RequestStep server self queue (.matched request call) server .locking

theorem requestStep_cases {pc pc' : RequestPc}
    (taken : server.requestStep self queue pc = some (server', pc')) :
    RequestStep server self queue pc server' pc' := by
  cases pc with
  | checking =>
    simp only [requestStep] at taken
    split at taken <;> cases taken
    · exact .failed ‹_›
    · exact .accepted (eq_false_of_ne_true ‹_›)
  | pushing =>
    cases taken
    exact .exchanged
  | linking prev =>
    cases prev <;> cases taken
    · exact .linkedFirst
    · exact .linked
  | locking =>
    obtain ⟨free, taken⟩ := Option.ite_none_right_eq_some.mp taken
    split at taken <;> cases taken
    · exact .nothingPending free ‹_›
    · exact .locked free ‹_›
  | popping =>
    simp only [requestStep] at taken
    split at taken
    · cases taken
    · cases taken
      exact .working ‹_›
    · cases taken
      exact .foundEmpty ‹_›
    · split at taken
      · cases taken
      · cases taken
        exact .matched ‹_› ‹_›
  | matched =>
    simp only [requestStep] at taken
    split at taken <;> cases taken
    · exact .published ‹_›
    · exact .killedZombie ‹_›
  | done => cases taken

inductive CallStep (layout : Layout) (server : Server) (self matcher startIndex : Nat) :
    CallPc → Server → CallPc → Prop where
  | refused (called : server.shutdownCalled = true) :
      CallStep layout server self matcher startIndex .checking
        (server.setState self .zombied) .done
  | accepted : CallStep layout server self matcher startIndex .checking server (.trying 0)
  | trying {i : Nat} {requests : LockedMpscq Nat} {pulled : Pulled Nat} {pc : CallPc}
      (within : i < layout.cqs)
      (popped : (server.requestsPerCq (matcher, (startIndex + i) % layout.cqs)).tryPop self =
        some (requests, pulled))
      (next : pulled = .working ∧ pc = .trying i ∨ pulled = .got none ∧ pc = .trying (i + 1)) :
      CallStep layout server self matcher startIndex (.trying i)
        (server.setQueue (matcher, (startIndex + i) % layout.cqs) requests) pc
  | tried {i request : Nat} {requests : LockedMpscq Nat} (within : i < layout.cqs)
      (popped : (server.requestsPerCq (matcher, (startIndex + i) % layout.cqs)).tryPop self =
        some (requests, .got (some request))) :
      CallStep layout server self matcher startIndex (.trying i)
        (server.setQueue (matcher, (startIndex + i) % layout.cqs) requests)
        (.publishing ((startIndex + i) % layout.cqs) request)
  | slowPath {i : Nat} (past : ¬i < layout.cqs) :
      CallStep layout server self matcher startIndex (.trying i) server .locking
  | locked (free : server.muCall = none) :
      CallStep layout server self matcher startIndex .locking
        { server with muCall := some self } (.scanning 0)
  | working {i : Nat} {requests : LockedMpscq Nat} (within : i < layout.cqs)
      (popped : (server.requestsPerCq (matcher, (startIndex + i) % layout.cqs)).pop self =
        some (requests, .working)) :
      CallStep layout server self matcher startIndex (.scanning i)
        (server.setQueue (matcher, (startIndex + i) % layout.cqs) requests) (.scanning i)
  | foundEmpty {i : Nat} {requests : LockedMpscq Nat} (within : i < layout.cqs)
      (popped : (server.requestsPerCq (matcher, (startIndex + i) % layout.cqs)).pop self =
        some (requests, .got none)) :
      CallStep layout server self matcher startIndex (.scanning i)
        (server.setQueue (matcher, (startIndex + i) % layout.cqs) requests) (.scanning (i + 1))
  | found {i request : Nat} {requests : LockedMpscq Nat} (within : i < layout.cqs)
      (popped : (server.requestsPerCq (matcher, (startIndex + i) % layout.cqs)).pop self =
        some (requests, .got (some request))) :
      CallStep layout server self matcher startIndex (.scanning i)
        { server.setQueue (matcher, (startIndex + i) % layout.cqs) requests with muCall := none }
        (.publishing ((startIndex + i) % layout.cqs) request)
  | queued {i : Nat} (past : ¬i < layout.cqs) :
      CallStep layout server self matcher startIndex (.scanning i)
        { server.setState self .pending with
          muCall := none
          pending := Function.update server.pending matcher (server.pending matcher ++ [self]) }
        .done
  | published {cqIdx request : Nat} :
      CallStep layout server self matcher startIndex (.publishing cqIdx request)
        ((server.setState self .activated).endOp ⟨request, cqIdx, some self⟩) .done

theorem callStep_cases {matcher startIndex : Nat} {pc pc' : CallPc}
    (taken : server.callStep layout self matcher startIndex pc = some (server', pc')) :
    CallStep layout server self matcher startIndex pc server' pc' := by
  cases pc with
  | checking =>
    simp only [callStep] at taken
    split at taken <;> cases taken
    · exact .refused ‹_›
    · exact .accepted
  | trying =>
    simp only [callStep] at taken
    split at taken
    · split at taken
      · cases taken
      · cases taken
        exact .trying ‹_› ‹_› (.inl ⟨rfl, rfl⟩)
      · cases taken
        exact .trying ‹_› ‹_› (.inr ⟨rfl, rfl⟩)
      · cases taken
        exact .tried ‹_› ‹_›
    · cases taken
      exact .slowPath ‹_›
  | locking =>
    obtain ⟨free, taken⟩ := Option.ite_none_right_eq_some.mp taken
    cases taken
    exact .locked free
  | scanning =>
    simp only [callStep] at taken
    split at taken
    · split at taken
      · cases taken
      · cases taken
        exact .working ‹_› ‹_›
      · cases taken
        exact .foundEmpty ‹_› ‹_›
      · cases taken
        exact .found ‹_› ‹_›
    · cases taken
      exact .queued ‹_›
  | publishing =>
    cases taken
    exact .published
  | done => cases taken

inductive ShutdownStep (layout : Layout) (server : Server) (self : Nat) :
    ShutdownPc → Server → ShutdownPc → Prop where
  | calledBefore :
      ShutdownStep layout server self (.entering .shutdownAndNotify) server .done
  | called (free : server.muGlobal = none) (running : server.shutdownCalled = false) :
      ShutdownStep layout server self (.entering .shutdownAndNotify)
        { server with muGlobal := some self } (.locking false)
  | listenerDestroyed (free : server.muGlobal = none) :
      ShutdownStep layout server self (.entering .listenerDestroyDone)
        { server with
          muGlobal := some self
          listenersDestroyed := server.listenersDestroyed + 1 } .finishing
  | channelDestroyed (free : server.muGlobal = none) :
      ShutdownStep layout server self (.entering .channelDestroyed)
        { server with muGlobal := some self, channels := server.channels - 1 } .finishing
  | referenced :
      ShutdownStep layout server self (.entering .allocatedRequest)
        { server with shutdownRefs := server.shutdownRefs + 2 } .allocated
  | unreferenced {pc : ShutdownPc} (next : pc = .unreffed ∨ pc = .done) :
      ShutdownStep layout server self .allocated
        { server with shutdownRefs := server.shutdownRefs - 2 } pc
  | lockedGlobal (free : server.muGlobal = none) :
      ShutdownStep layout server self .unreffed { server with muGlobal := some self } .finishing
  | locked {final : Bool} (free : server.muCall = none) :
      ShutdownStep layout server self (.locking final)
        { server with muCall := some self } (.killing final 0 0)
  | working {final : Bool} {matcher cq : Nat} {requests : LockedMpscq Nat}
      (within : matcher < layout.matchers ∧ cq < layout.cqs)
      (popped : (server.requestsPerCq (matcher, cq)).pop self = some (requests, .working)) :
      ShutdownStep layout server self (.killing final matcher cq)
        (server.setQueue (matcher, cq) requests) (.killing final matcher cq)
  | foundEmpty {final : Bool} {matcher cq : Nat} {requests : LockedMpscq Nat}
      (within : matcher < layout.matchers ∧ cq < layout.cqs)
      (popped : (server.requestsPerCq (matcher, cq)).pop self = some (requests, .got none)) :
      ShutdownStep layout server self (.killing final matcher cq)
        (server.setQueue (matcher, cq) requests) (.killing final matcher (cq + 1))
  | failed {final : Bool} {matcher cq request : Nat} {requests : LockedMpscq Nat}
      (within : matcher < layout.matchers ∧ cq < layout.cqs)
      (popped : (server.requestsPerCq (matcher, cq)).pop self =
        some (requests, .got (some request))) :
      ShutdownStep layout server self (.killing final matcher cq)
        ((server.setQueue (matcher, cq) requests).endOp ⟨request, cq, none⟩)
        (.killing final matcher cq)
  | zombified {final : Bool} {matcher cq : Nat}
      (past : matcher < layout.matchers ∧ ¬cq < layout.cqs) :
      ShutdownStep layout server self (.killing final matcher cq)
        (server.zombifyPending matcher) (.killing final (matcher + 1) 0)
  | finished {matcher cq : Nat} (past : ¬matcher < layout.matchers) :
      ShutdownStep layout server self (.killing true matcher cq)
        { server with
          muCall := none
          muGlobal := none
          shutdownPublished := server.shutdownPublished || server.lastPass layout } .done
  | killed {matcher cq : Nat} (past : ¬matcher < layout.matchers) :
      ShutdownStep layout server self (.killing false matcher cq)
        { server with muCall := none } .unreffing
  | unreferencedLast :
      ShutdownStep layout server self .unreffing
        { server with shutdownRefs := server.shutdownRefs - 1 } .finishing
  | unreferencedEarly :
      ShutdownStep layout server self .unreffing
        { server with shutdownRefs := server.shutdownRefs - 1, muGlobal := none } .done
  | ready (ready : server.shutdownReady = true) :
      ShutdownStep layout server self .finishing server (.locking true)
  | notReady :
      ShutdownStep layout server self .finishing { server with muGlobal := none } .done

theorem shutdownStep_cases {pc pc' : ShutdownPc}
    (taken : server.shutdownStep layout self pc = some (server', pc')) :
    ShutdownStep layout server self pc server' pc' := by
  cases pc with
  | entering cause =>
    cases cause <;> simp only [shutdownStep] at taken
    · obtain ⟨free, taken⟩ := Option.ite_none_right_eq_some.mp taken
      split at taken <;> cases taken
      · exact .calledBefore
      · rename_i running
        rw [Bool.or_eq_true, not_or] at running
        exact .called free (eq_false_of_ne_true running.2)
    · obtain ⟨⟨free, -⟩, taken⟩ := Option.ite_none_right_eq_some.mp taken
      cases taken
      exact .listenerDestroyed free
    · obtain ⟨⟨free, -⟩, taken⟩ := Option.ite_none_right_eq_some.mp taken
      cases taken
      exact .channelDestroyed free
    · cases taken
      exact .referenced
  | allocated =>
    cases taken
    exact .unreferenced (ite_eq_or_eq _ _ _)
  | unreffed =>
    obtain ⟨free, taken⟩ := Option.ite_none_right_eq_some.mp taken
    cases taken
    exact .lockedGlobal free
  | locking =>
    obtain ⟨free, taken⟩ := Option.ite_none_right_eq_some.mp taken
    cases taken
    exact .locked free
  | killing final =>
    simp only [shutdownStep] at taken
    split at taken
    · split at taken
      · split at taken
        · cases taken
        · cases taken
          exact .working ⟨‹_›, ‹_›⟩ ‹_›
        · cases taken
          exact .foundEmpty ⟨‹_›, ‹_›⟩ ‹_›
        · cases taken
          exact .failed ⟨‹_›, ‹_›⟩ ‹_›
      · cases taken
        exact .zombified ⟨‹_›, ‹_›⟩
    · cases final <;> cases taken
      · exact .killed ‹_›
      · exact .finished ‹_›
  | unreffing =>
    simp only [shutdownStep] at taken
    split at taken <;> cases taken
    · exact .unreferencedLast
    · exact .unreferencedEarly
  | finishing =>
    simp only [shutdownStep] at taken
    split at taken <;> cases taken
    · rename_i both
      exact .ready (Bool.and_eq_true_iff.mp both).1
    · exact .notReady
  | done => cases taken

end Server

/-- The server and the threads inside it. -/
structure System where
  server : Server := {}
  tasks : List Task := []

/-- What can happen: the application requests a call, a call comes in, one of the
causes of a shutdown arises, a channel is created, or a task takes its next step. -/
inductive Action where
  | requestCall (matcher cq : Nat)
  | publishNewRpc (matcher startIndex : Nat)
  | arise (cause : Cause)
  | createChannel
  | run (task : Nat)
deriving DecidableEq

/-- A task's next step. -/
def Task.step (layout : Layout) (server : Server) (self : Nat) : Task → Option (Server × Task)
  | .request queue pc =>
    (server.requestStep self queue pc).map fun (server, pc) => (server, .request queue pc)
  | .call matcher startIndex pc =>
    (server.callStep layout self matcher startIndex pc).map fun (server, pc) =>
      (server, .call matcher startIndex pc)
  | .shutdown pc =>
    (server.shutdownStep layout self pc).map fun (server, pc) => (server, .shutdown pc)

namespace System

def spawn (system : System) (task : Task) : System :=
  { system with tasks := system.tasks ++ [task] }

def step (layout : Layout) (system : System) : Action → Option System
  | .requestCall matcher cq =>
    if matcher < layout.matchers ∧ cq < layout.cqs then
      some (system.spawn (.request (matcher, cq) .checking))
    else none
  | .publishNewRpc matcher startIndex =>
    if matcher < layout.matchers ∧ startIndex < layout.cqs then
      some (system.spawn (.call matcher startIndex .checking))
    else none
  | .arise cause => some (system.spawn (.shutdown (.entering cause)))
  | .createChannel =>
    if system.server.muGlobal = none then
      some { system with
        server := { system.server with channels := system.server.channels + 1 } }
    else none
  | .run self => do
    let task ← system.tasks[self]?
    let (server, task) ← task.step layout system.server self
    some ⟨server, system.tasks.set self task⟩

end System

inductive Task.Fresh : Task → Prop where
  | request (queue : Nat × Nat) : Fresh (.request queue .checking)
  | call (matcher startIndex : Nat) : Fresh (.call matcher startIndex .checking)
  | shutdown (cause : Cause) : Fresh (.shutdown (.entering cause))

inductive TaskStep (layout : Layout) (server : Server) (self : Nat) :
    Task → Server → Task → Prop where
  | request {queue : Nat × Nat} {pc pc' : RequestPc} {server' : Server}
      (step : server.RequestStep self queue pc server' pc') :
      TaskStep layout server self (.request queue pc) server' (.request queue pc')
  | call {matcher startIndex : Nat} {pc pc' : CallPc} {server' : Server}
      (step : server.CallStep layout self matcher startIndex pc server' pc') :
      TaskStep layout server self (.call matcher startIndex pc) server'
        (.call matcher startIndex pc')
  | shutdown {pc pc' : ShutdownPc} {server' : Server}
      (step : server.ShutdownStep layout self pc server' pc') :
      TaskStep layout server self (.shutdown pc) server' (.shutdown pc')

inductive SystemStep (layout : Layout) (system : System) : Action → System → Prop where
  | spawned {action : Action} {task : Task} (fresh : task.Fresh) :
      SystemStep layout system action (system.spawn task)
  | createdChannel (free : system.server.muGlobal = none) :
      SystemStep layout system .createChannel
        { system with server := { system.server with channels := system.server.channels + 1 } }
  | ran {self : Nat} {task task' : Task} {server' : Server}
      (there : system.tasks[self]? = some task)
      (step : TaskStep layout system.server self task server' task') :
      SystemStep layout system (.run self) ⟨server', system.tasks.set self task'⟩

theorem taskStep_cases {task task' : Task}
    (taken : task.step layout server self = some (server', task')) :
    TaskStep layout server self task server' task' := by
  cases task with
  | request =>
    obtain ⟨⟨next, pc'⟩, stepped, same⟩ := Option.map_eq_some_iff.mp taken
    cases same
    exact .request (Server.requestStep_cases stepped)
  | call =>
    obtain ⟨⟨next, pc'⟩, stepped, same⟩ := Option.map_eq_some_iff.mp taken
    cases same
    exact .call (Server.callStep_cases stepped)
  | shutdown =>
    obtain ⟨⟨next, pc'⟩, stepped, same⟩ := Option.map_eq_some_iff.mp taken
    cases same
    exact .shutdown (Server.shutdownStep_cases stepped)

theorem step_cases {system system' : System} {action : Action}
    (taken : system.step layout action = some system') :
    SystemStep layout system action system' := by
  cases action with
  | requestCall =>
    obtain ⟨-, rfl⟩ := Option.ite_some_none_eq_some.mp taken
    exact .spawned (.request _)
  | publishNewRpc =>
    obtain ⟨-, rfl⟩ := Option.ite_some_none_eq_some.mp taken
    exact .spawned (.call _ _)
  | arise =>
    cases taken
    exact .spawned (.shutdown _)
  | createChannel =>
    obtain ⟨free, rfl⟩ := Option.ite_some_none_eq_some.mp taken
    exact .createdChannel free
  | run =>
    obtain ⟨task, there, taken⟩ := Option.bind_eq_some_iff.mp taken
    obtain ⟨⟨server', task'⟩, stepped, taken⟩ := Option.bind_eq_some_iff.mp taken
    cases taken
    exact .ran there (taskStep_cases stepped)

end GrpcCore.Surface.Matching
