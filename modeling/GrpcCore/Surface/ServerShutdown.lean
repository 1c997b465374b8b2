import GrpcCore.Surface.MatcherAccounts
import GrpcCore.Surface.MatcherCalls
import GrpcCore.Surface.MatcherWakeups

/-!
# Shutting down the server

`QueueRequestedCall` tests for a shutdown without `mu_call_`. When no push is under way
at the last kill of a queue, the queue stays empty for good; a push that is under way
is stranded.
-/

namespace GrpcCore.Surface.Matching

open Gprpp Ledger Server

/-- The task has passed `ShutdownCalled()` and has not finished its push. -/
inductive Task.Pushing (queue : Nat × Nat) : Task → Prop where
  | exchanging : Pushing queue (.request queue .pushing)
  | linking (prev : Node Nat) : Pushing queue (.request queue (.linking prev))

instance (queue : Nat × Nat) : (task : Task) → Decidable (task.Pushing queue)
  | .request other .pushing =>
    if same : other = queue then .isTrue (same ▸ .exchanging)
    else .isFalse fun pushing => by cases pushing; exact same rfl
  | .request other (.linking prev) =>
    if same : other = queue then .isTrue (same ▸ .linking prev)
    else .isFalse fun pushing => by cases pushing; exact same rfl
  | .request _ .checking | .request _ .locking | .request _ .popping
  | .request _ (.matched _ _) | .request _ .done | .call _ _ _ | .shutdown _ =>
    .isFalse nofun

structure Dead (system : System) (queue : Nat × Nat) : Prop where
  called : system.server.shutdownCalled = true
  empty : (system.server.requestsPerCq queue).contents = []
  noPush : ∀ task ∈ system.tasks, ¬Task.Pushing queue task

/-- The task is in the part of `ShutdownAndNotify` that ends with its unref. -/
def Task.calling : Task → Bool
  | .shutdown (.locking false) | .shutdown (.killing false _ _) | .shutdown .unreffing => true
  | _ => false

/-- The task is in the kill of `MaybeFinishShutdown`. -/
def Task.finishing : Task → Bool
  | .shutdown (.locking true) | .shutdown (.killing true _ _) => true
  | _ => false

variable {task : Task}

theorem Task.insideGlobal_of_calling (calling : task.calling = true) :
    task.insideGlobal = true := by
  unfold Task.calling at calling
  split at calling <;> first | rfl | cases calling

variable {layout : Layout} {server server' : Server} {task task' : Task}

theorem TaskStep.shutdownCalled {self : Nat} (step : TaskStep layout server self task server' task') :
    server'.shutdownCalled = server.shutdownCalled ∨ task = .shutdown .unreffing := by
  cases step with
  | request step => cases step <;> exact .inl rfl
  | call step => cases step <;> exact .inl rfl
  | shutdown step =>
    cases step with
    | referenced | unreferenced => exact .inl (by simp [shutdownCalled])
    | unreferencedLast | unreferencedEarly => exact .inr rfl
    | _ => exact .inl rfl

variable {layout : Layout} {server server' : Server} {self : Nat}

theorem TaskStep.lastPass {task' : Task} (step : TaskStep layout server self task server' task') :
    server'.lastPass layout = server.lastPass layout ∨ server.muGlobal = none := by
  cases step with
  | request step => cases step <;> exact .inl rfl
  | call step => cases step <;> exact .inl rfl
  | shutdown step =>
    cases step with
    | listenerDestroyed free | channelDestroyed free => exact .inr free
    | _ => exact .inl rfl

theorem TaskStep.calling {self : Nat} (step : TaskStep layout server self task server' task')
    (calling : task'.calling = true) : server'.shutdownCalled = server.shutdownCalled ∧
      (task.calling = true ∨ server.shutdownCalled = false) := by
  cases step with
  | request => cases calling
  | call => cases calling
  | shutdown step =>
    cases step with
    | called free running => exact ⟨rfl, .inr running⟩
    | @locked final => cases final <;> first | exact ⟨rfl, .inl rfl⟩ | cases calling
    | @working final | @foundEmpty final | @failed final | @zombified final =>
      cases final <;> first | exact ⟨rfl, .inl rfl⟩ | cases calling
    | killed => exact ⟨rfl, .inl rfl⟩
    | unreferenced next => rcases next with rfl | rfl <;> cases calling
    | _ => cases calling

theorem TaskStep.finishing {self : Nat} (step : TaskStep layout server self task server' task')
    (finishing : task'.finishing = true) : server'.shutdownCalled = server.shutdownCalled ∧
      (task.finishing = true ∨ server.shutdownReady = true) := by
  cases step with
  | request => cases finishing
  | call => cases finishing
  | shutdown step =>
    cases step with
    | ready ready => exact ⟨rfl, .inr ready⟩
    | @locked final => cases final <;> first | exact ⟨rfl, .inl rfl⟩ | cases finishing
    | @working final | @foundEmpty final | @failed final | @zombified final =>
      cases final <;> first | exact ⟨rfl, .inl rfl⟩ | cases finishing
    | unreferenced next => rcases next with rfl | rfl <;> cases finishing
    | _ => cases finishing

/-- Before the unref of `ShutdownAndNotify` no shutdown counts as called; after a
`ShutdownReady()` one does. -/
structure Parity (system : System) : Prop where
  calling : ∀ task ∈ system.tasks, task.calling = true → system.server.shutdownCalled = false
  finishing : ∀ task ∈ system.tasks, task.finishing = true → system.server.shutdownCalled = true

theorem parity_init : Parity {} := ⟨nofun, nofun⟩

theorem Task.Fresh.idle (fresh : task.Fresh) : task.calling = false ∧ task.finishing = false := by
  cases fresh <;> exact ⟨rfl, rfl⟩

theorem Server.called_of_ready (ready : server.shutdownReady = true) :
    server.shutdownCalled = true := by
  have zero : server.shutdownRefs = 0 := eq_of_beq ready
  simp [shutdownCalled, zero]

variable {system system' : System}

theorem Parity.step {action : Action} (parity : Parity system) (locks : Locks system)
    (step : SystemStep layout system action system') : Parity system' := by
  cases step with
  | spawned fresh =>
    refine ⟨fun task member calling => ?_, fun task member finishing => ?_⟩
    · rcases List.mem_append.mp member with before | new
      · exact parity.calling task before calling
      · cases (fresh.idle.1.symm.trans (List.mem_singleton.mp new ▸ calling))
    · rcases List.mem_append.mp member with before | new
      · exact parity.finishing task before finishing
      · cases (fresh.idle.2.symm.trans (List.mem_singleton.mp new ▸ finishing))
  | createdChannel => exact ⟨parity.calling, parity.finishing⟩
  | @ran self task task' server' there step =>
    have member := List.mem_of_getElem? there
    refine ⟨fun other at_ calling => ?_, fun other at_ finishing => ?_⟩
    · obtain ⟨index, at_⟩ := List.mem_iff_getElem?.mp at_
      rcases set_cases at_ with ⟨rfl, rfl⟩ | ⟨ne, before⟩
      · obtain ⟨same, before | running⟩ := step.calling calling
        · exact same.trans (parity.calling task member before)
        · exact same.trans running
      · rcases step.shutdownCalled with same | rfl
        · exact same.trans (parity.calling other (List.mem_of_getElem? before) calling)
        · exact absurd (locks.global.unique there rfl before
            (Task.insideGlobal_of_calling calling)) ne
    · obtain ⟨index, at_⟩ := List.mem_iff_getElem?.mp at_
      rcases set_cases at_ with ⟨rfl, rfl⟩ | ⟨ne, before⟩
      · obtain ⟨same, before | ready⟩ := step.finishing finishing
        · exact same.trans (parity.finishing task member before)
        · exact same.trans (called_of_ready ready)
      · have called := parity.finishing other (List.mem_of_getElem? before) finishing
        rcases step.shutdownCalled with same | rfl
        · exact same.trans called
        · cases (parity.calling _ member rfl).symm.trans called

theorem TaskStep.pushing {self : Nat} {queue : Nat × Nat}
    (step : TaskStep layout server self task server' task') (pushing : task'.Pushing queue) :
    task.Pushing queue ∨ server.shutdownCalled = false := by
  cases pushing with
  | exchanging =>
    cases step with
    | request step => cases step with
      | accepted running => exact .inr running
  | linking prev =>
    cases step with
    | request step => cases step with
      | exchanged => exact .inl .exchanging

theorem Dead.step {action : Action} {queue : Nat × Nat} (dead : Dead system queue)
    (parity : Parity system) (queues : Queues system)
    (step : SystemStep layout system action system') : Dead system' queue := by
  cases step with
  | spawned fresh =>
    refine ⟨dead.called, dead.empty, fun task member pushing => ?_⟩
    rcases List.mem_append.mp member with before | new
    · exact dead.noPush task before pushing
    · obtain rfl := List.mem_singleton.mp new
      cases fresh <;> cases pushing
  | createdChannel => exact ⟨dead.called, dead.empty, dead.noPush⟩
  | @ran self task task' server' there step =>
    have member := List.mem_of_getElem? there
    refine ⟨?_, ?_, fun other at_ pushing => ?_⟩
    · rcases step.shutdownCalled with same | rfl
      · exact same.trans dead.called
      · cases (parity.calling _ member rfl).symm.trans dead.called
    · have touched := step.touches queues.valid queue
      generalize server'.requestsPerCq queue = after at touched ⊢
      cases touched with
      | same => exact dead.empty
      | pulled _ pulls =>
        refine List.eq_nil_iff_forall_not_mem.mpr fun request inside => ?_
        have before := pulls.contents_subset inside
        rw [dead.empty] at before
        cases before
      | exchanged pushing => exact absurd (pushing ▸ .exchanging) (dead.noPush task member)
      | linked linking => exact absurd (linking ▸ .linking _) (dead.noPush task member)
    · obtain ⟨index, at_⟩ := List.mem_iff_getElem?.mp at_
      rcases set_cases at_ with ⟨rfl, rfl⟩ | ⟨-, before⟩
      · rcases step.pushing pushing with before | running
        · exact dead.noPush task member before
        · cases running.symm.trans dead.called
      · exact dead.noPush other (List.mem_of_getElem? before) pushing

/-- Whether a `Pop` comes back with null. -/
def foundNull : Option (LockedMpscq Nat × Pulled Nat) → Bool
  | some (_, .got none) => true
  | _ => false

/-- When the last kill finds a queue empty, no `QueueRequestedCall` is between its
`ShutdownCalled()` and the end of its push into that queue. -/
def Undisturbed (layout : Layout) (system : System) : Action → Prop
  | .run self =>
    match system.tasks[self]? with
    | some (.shutdown (.killing true matcher cq)) =>
      system.server.lastPass layout = true →
      foundNull ((system.server.requestsPerCq (matcher, cq)).pop self) = true →
      ∀ task ∈ system.tasks, ¬task.Pushing (matcher, cq)
    | _ => True
  | _ => True

instance (layout : Layout) (system : System) (action : Action) :
    Decidable (Undisturbed layout system action) := by
  unfold Undisturbed
  split
  · split <;> infer_instance
  · infer_instance

/-- The queues a last kill has passed are dead, and when the shutdown is published all
are. -/
structure Drained (layout : Layout) (system : System) : Prop where
  killed : ∀ (index matcher cq : Nat),
    system.tasks[index]? = some (.shutdown (.killing true matcher cq)) →
    system.server.lastPass layout = true → ∀ m i, m < layout.matchers → i < layout.cqs →
    m < matcher ∨ m = matcher ∧ i < cq → Dead system (m, i)
  published : system.server.shutdownPublished = true → ∀ m i, m < layout.matchers →
    i < layout.cqs → Dead system (m, i)

theorem drained_init (layout : Layout) : Drained layout {} := ⟨nofun, nofun⟩

variable {system : System} {queue : Nat × Nat}

theorem Queues.empty_of_null (queues : Queues system) {requests : LockedMpscq Nat}
    (popped : (system.server.requestsPerCq queue).pop self = some (requests, .got none))
    (noPush : ∀ task ∈ system.tasks, ¬task.Pushing queue) :
    (system.server.requestsPerCq queue).contents = [] := by
  obtain ⟨pulls, null⟩ := LockedMpscq.pop_pulls (queues.valid queue) popped
  rcases null rfl with empty | ⟨request, unlinked⟩
  · rcases pulls.contents with ⟨same, -⟩ | ⟨element, got, -⟩
    · exact same.trans empty
    · cases got
  · have linking := queues.linking queue none request (pulls.unlinked unlinked)
    exact absurd (.linking none) (noPush _ (List.mem_of_getElem? linking))

variable {matcher : Nat}

theorem TaskStep.kills {cq : Nat}
    (step : TaskStep layout server self task server' (.shutdown (.killing true matcher cq))) :
    (matcher = 0 ∧ cq = 0) ∨ task = .shutdown (.killing true matcher cq) ∨
      (∃ cq' requests, cq = cq' + 1 ∧ task = .shutdown (.killing true matcher cq') ∧
        (server.requestsPerCq (matcher, cq')).pop self = some (requests, .got none)) ∨
      ∃ matcher' cq', matcher = matcher' + 1 ∧ cq = 0 ∧
        task = .shutdown (.killing true matcher' cq') ∧ ¬cq' < layout.cqs := by
  cases step with
  | shutdown step =>
    cases step with
    | locked => exact .inl ⟨rfl, rfl⟩
    | working | failed => exact .inr (.inl rfl)
    | @foundEmpty _ _ cq' requests _ popped =>
      exact .inr (.inr (.inl ⟨cq', requests, rfl, rfl, popped⟩))
    | @zombified _ matcher' cq' past =>
      exact .inr (.inr (.inr ⟨matcher', cq', rfl, rfl, rfl, past.2⟩))
    | unreferenced next => rcases next with next | next <;> cases next

theorem TaskStep.publishes {task' : Task} (step : TaskStep layout server self task server' task')
    (published : server'.shutdownPublished = true) :
    server.shutdownPublished = true ∨ server.lastPass layout = true ∧
      ∃ matcher cq, task = .shutdown (.killing true matcher cq) ∧ ¬matcher < layout.matchers := by
  cases step with
  | request step => cases step <;> exact .inl published
  | call step => cases step <;> exact .inl published
  | shutdown step =>
    cases step with
    | finished past =>
      exact (Bool.or_eq_true_iff.mp published).imp_right fun last => ⟨last, _, _, rfl, past⟩
    | _ => exact .inl published

theorem Drained.step {action : Action} (drained : Drained layout system)
    (undisturbed : Undisturbed layout system action) (parity : Parity system) (locks : Locks system)
    (queues : Queues system) (taken : system.step layout action = some system') :
    Drained layout system' := by
  have step := step_cases taken
  have still {queue : Nat × Nat} (dead : Dead system queue) : Dead system' queue :=
    dead.step parity queues step
  cases step with
  | spawned fresh =>
    refine ⟨fun index matcher cq there last m i inM inI before => ?_,
      fun published m i inM inI => still (drained.published published m i inM inI)⟩
    rcases append_cases there with old | ⟨-, rfl⟩
    · exact still (drained.killed index matcher cq old last m i inM inI before)
    · cases fresh
  | createdChannel free =>
    refine ⟨fun index matcher cq there _ m i inM inI before => ?_,
      fun published m i inM inI => still (drained.published published m i inM inI)⟩
    cases free.symm.trans (locks.global index _ there rfl)
  | @ran self task task' server' there step =>
    refine ⟨fun index matcher cq at_ last m i inM inI before => ?_,
      fun published m i inM inI => ?_⟩
    · rcases set_cases at_ with ⟨rfl, rfl⟩ | ⟨-, old⟩
      · have lasted {matcher cq : Nat} (same : task = .shutdown (.killing true matcher cq)) :
            system.server.lastPass layout = true := by
          subst same
          rcases step.lastPass with same | free
          · exact same.symm.trans last
          · cases free.symm.trans (locks.global self _ there rfl)
        rcases step.kills with ⟨rfl, rfl⟩ | rfl | found | ⟨matcher', cq', rfl, rfl, rfl, past⟩
        · rcases before with before | ⟨-, before⟩ <;> cases before
        · exact still (drained.killed self matcher cq there (lasted rfl) m i inM inI before)
        · obtain ⟨cq', requests, rfl, rfl, popped⟩ := found
          have earlier := drained.killed self matcher cq' there (lasted rfl) m i inM inI
          rcases before with before | ⟨rfl, before⟩
          · exact still (earlier (.inl before))
          · rcases Nat.lt_succ_iff_lt_or_eq.mp before with before | rfl
            · exact still (earlier (.inr ⟨rfl, before⟩))
            · simp only [Undisturbed, there] at undisturbed
              have noPush := undisturbed (lasted rfl) (by rw [popped]; rfl)
              refine still ⟨?_, ?_, noPush⟩
              · exact parity.finishing _ (List.mem_of_getElem? there) rfl
              · exact queues.empty_of_null popped noPush
        · refine still (drained.killed self matcher' cq' there (lasted rfl) m i inM inI ?_)
          rcases before with before | ⟨-, before⟩
          · rcases Nat.lt_succ_iff_lt_or_eq.mp before with before | rfl
            · exact .inl before
            · exact .inr ⟨rfl, inI.trans_le (Nat.le_of_not_lt past)⟩
          · cases before
      · rcases step.lastPass with same | free
        · exact still (drained.killed index matcher cq old (same.symm.trans last) m i inM inI before)
        · cases free.symm.trans (locks.global index _ old rfl)
    · rcases step.publishes published with earlier | ⟨last, matcher, cq, rfl, past⟩
      · exact still (drained.published earlier m i inM inI)
      · refine still (drained.killed self matcher cq there last m i inM inI (.inl ?_))
        exact inM.trans_le (Nat.le_of_not_lt past)

/-- What holds in every state, whatever the shutdown does. -/
structure Sound (layout : Layout) (system : System) : Prop where
  queues : Queues system
  locks : Locks system
  wakeups : Wakeups layout system
  requests : RequestAccounts system
  calls : CallAccounts system
  states : CallStates system
  parity : Parity system

theorem sound_init (layout : Layout) : Sound layout {} where
  queues := queues_init
  locks := locks_init
  wakeups := wakeups_init layout
  requests := requestAccounts_init
  calls := callAccounts_init
  states := callStates_init
  parity := parity_init

theorem Sound.step {action : Action} (sound : Sound layout system)
    (taken : system.step layout action = some system') : Sound layout system' := by
  have step := step_cases taken
  exact
    { queues := sound.queues.step step
      locks := sound.locks.step step
      wakeups := sound.wakeups.step sound.queues sound.locks step
      requests := sound.requests.step sound.queues sound.states.paired step
      calls := sound.calls.step step
      states := sound.states.step sound.calls step
      parity := sound.parity.step sound.locks step }

/-- Matching neither loses nor strands anything: a requested call is in one place, so it
is published with one call, failed or still queued once all threads have left; a call is
published at most once; between the functions no matcher holds both a pending call and a
queued request; and after the shutdown no request stays queued. -/
structure Matches (layout : Layout) (system : System) : Prop where
  requests : ∀ request queue pc, system.tasks[request]? = some (.request queue pc) →
    pc.owed + system.placed queue request = 1
  returned : (∀ task ∈ system.tasks, task.finished = true) →
    ∀ request queue pc, system.tasks[request]? = some (.request queue pc) →
      (system.server.requestsPerCq queue).contents.count request +
        system.server.completions.countP (·.request == request) = 1
  calls : ∀ calld matcher startIndex pc,
    system.tasks[calld]? = some (.call matcher startIndex pc) →
      system.server.completions.countP (·.call == some calld) ≤ 1
  quiet : (∀ task ∈ system.tasks, task.finished = true) → ∀ matcher cq, cq < layout.cqs →
    system.server.pending matcher = [] ∨
      (system.server.requestsPerCq (matcher, cq)).contents = []
  drained : system.server.shutdownPublished = true →
    (∀ (request : Nat) queue pc, system.tasks[request]? = some (.request queue pc) →
      pc = .done) →
    ∀ matcher cq, matcher < layout.matchers → cq < layout.cqs →
      (system.server.requestsPerCq (matcher, cq)).contents = []

theorem Task.holding_of_finished (finished : task.finished = true) (request : Nat) :
    task.holding request = 0 := by
  unfold Task.finished at finished
  split at finished <;> first | rfl | cases finished

theorem Sound.returned (sound : Sound layout system)
    (finished : ∀ task ∈ system.tasks, task.finished = true) {request : Nat} {pc : RequestPc}
    (there : system.tasks[request]? = some (.request queue pc)) :
    (system.server.requestsPerCq queue).contents.count request +
      system.server.completions.countP (·.request == request) = 1 := by
  have own := sound.requests.own request queue pc there
  have none_ : total (Task.holding request) system.tasks = 0 :=
    List.sum_eq_zero (List.forall_mem_map.mpr fun task member =>
      Task.holding_of_finished (finished task member) request)
  have done : pc = .done := by
    have finished := finished _ (List.mem_of_getElem? there)
    cases pc <;> first | rfl | cases finished
  subst done
  have owed : RequestPc.owed .done = 0 := rfl
  simp only [System.placed, settled] at own
  omega

theorem Sound.published_once (sound : Sound layout system) {calld startIndex : Nat} {pc : CallPc}
    (there : system.tasks[calld]? = some (.call matcher startIndex pc)) :
    system.server.completions.countP (·.call == some calld) ≤ 1 := by
  have own := sound.calls.own calld matcher startIndex pc there
  have live : 0 ≤ pc.live := by
    unfold CallPc.live
    split <;> decide
  have nonneg := total_nonneg fun task (_ : task ∈ system.tasks) =>
    task.pairing_nonneg calld
  simp only [System.committed, disposed] at own
  omega

theorem server_matching (layout : Layout) (actions : List Action) (system : System)
    (run : Machine.Run (System.step layout) (Undisturbed layout) {} actions system) :
    Matches layout system := by
  have preserved : ∀ {system action system'},
      Sound layout system ∧ Drained layout system → Undisturbed layout system action →
      System.step layout system action = some system' →
      Sound layout system' ∧ Drained layout system' := by
    rintro system action system' ⟨sound, drained⟩ undisturbed taken
    exact ⟨sound.step taken,
      drained.step undisturbed sound.parity sound.locks sound.queues taken⟩
  obtain ⟨sound, drained⟩ := run.invariant preserved ⟨sound_init layout, drained_init layout⟩
  exact
    { requests := sound.requests.own
      returned := fun finished _ _ _ there => sound.returned finished there
      calls := fun _ _ _ _ there => sound.published_once there
      quiet := fun finished _ _ within => sound.wakeups.quiet finished within
      drained := fun published _ matcher cq inM inI =>
        (drained.published published matcher cq inM inI).empty }

/-- One matcher and one completion queue; a requested call, its thread, and the thread
that shuts the server down. -/
def singleLayout : Layout := ⟨1, 1, 0⟩

/-- The requested call is queued and matched to an incoming one, then the server is
shut down. -/
def matchedRun : List Action :=
  [.requestCall 0 0, .publishNewRpc 0 0, .arise .shutdownAndNotify] ++
    List.replicate 4 (.run 0) ++ List.replicate 9 (.run 1) ++ List.replicate 13 (.run 2)

theorem server_matching_matchedRun :
    ∃ system, Matches singleLayout system ∧
      system.server.completions = [⟨0, 0, some 1⟩] ∧ system.server.shutdownPublished = true := by
  have runs : (Machine.exec (fun system action =>
      if decide (Undisturbed singleLayout system action) then System.step singleLayout system action
      else none) {} matchedRun).map
        (fun system => (system.server.completions, system.server.shutdownPublished)) =
      some ([⟨0, 0, some 1⟩], true) := by
    decide
  obtain ⟨system, executed, view⟩ := Option.map_eq_some_iff.mp runs
  have run := Machine.run_of_exec (fun _ _ => of_decide_eq_true) executed
  obtain ⟨completions, published⟩ := Prod.mk.injEq .. ▸ view
  exact ⟨system, server_matching singleLayout matchedRun system run, completions, published⟩

/-- The shutdown runs while the requested call has passed `ShutdownCalled()`. -/
def strandedRun : List Action :=
  [.requestCall 0 0, .arise .shutdownAndNotify, .run 0] ++ List.replicate 13 (.run 1) ++
    List.replicate 3 (.run 0)

/-- The request is queued after the last kill: it is still there when all threads have
left and the shutdown has been published. -/
theorem request_stranded :
    ∃ system, Machine.Reach (System.step singleLayout) {} strandedRun system ∧
      ¬Matches singleLayout system := by
  obtain ⟨system, reach, view⟩ := Machine.exists_reach (System.step singleLayout) {} strandedRun
    (fun system => (system.server.shutdownPublished, system.tasks,
      (system.server.requestsPerCq (0, 0)).contents))
    (true, [.request (0, 0) .done, .shutdown .done], [0]) (by decide)
  simp only [Prod.mk.injEq] at view
  obtain ⟨published, tasks, stranded⟩ := view
  refine ⟨system, reach, fun sound => ?_⟩
  have returned (request : Nat) (queue : Nat × Nat) (pc : RequestPc)
      (there : system.tasks[request]? = some (.request queue pc)) : pc = .done := by
    have member := List.mem_of_getElem? there
    rw [tasks] at member
    simp only [List.mem_cons, Task.request.injEq, reduceCtorEq, List.not_mem_nil, or_false] at member
    exact member.2
  have empty := sound.drained published returned 0 0 Nat.one_pos Nat.one_pos
  rw [stranded] at empty
  cases empty

/-- In every run, whatever meets the shutdown: critical sections of a mutex do not overlap, a
requested call is in one place, a call is published at most once, and between the functions no
matcher has both a call that waits and a request in a queue. -/
theorem matching_safe {layout : Layout} {actions : List Action} {system : System}
    (reach : Machine.Reach (System.step layout) {} actions system) :
    Mutex.Exclusive Task.insideCall system.server.muCall system.tasks ∧
      Mutex.Exclusive Task.insideGlobal system.server.muGlobal system.tasks ∧
      (∀ request queue pc, system.tasks[request]? = some (.request queue pc) →
        pc.owed + system.placed queue request = 1) ∧
      (∀ calld matcher startIndex pc,
        system.tasks[calld]? = some (.call matcher startIndex pc) →
          system.server.completions.countP (·.call == some calld) ≤ 1) ∧
      ((∀ task ∈ system.tasks, task.finished = true) → ∀ matcher cq, cq < layout.cqs →
        system.server.pending matcher = [] ∨
          (system.server.requestsPerCq (matcher, cq)).contents = []) := by
  have sound : Sound layout system :=
    reach.invariant (fun sound _ taken => Sound.step sound taken) (sound_init layout)
  exact ⟨sound.locks.call, sound.locks.global, sound.requests.own,
    fun _ _ _ _ there => sound.published_once there,
    fun finished _ _ within => sound.wakeups.quiet finished within⟩

/-- The run in which a request is stranded meets no call that waits. -/
theorem matching_safe_stranded : ∃ system : System,
    (system.server.requestsPerCq (0, 0)).contents = [0] ∧
      Mutex.Exclusive Task.insideCall system.server.muCall system.tasks := by
  obtain ⟨system, reach, stranded⟩ := Machine.exists_reach (System.step singleLayout) {} strandedRun
    (fun system => (system.server.requestsPerCq (0, 0)).contents) [0] (by decide)
  exact ⟨system, stranded, (matching_safe reach).1⟩

end GrpcCore.Surface.Matching
