import GrpcCore.Cpp.ThreadManager

/-!
# The accounts of the synchronous server's threads

A worker that cannot be created is taken off the counters, but the thread that the resource
quota granted for it is not given back.
-/

namespace GrpcCore.Cpp

open Ledger Machine WorkerEvent

namespace WorkerPhase

/-- The threads that a worker accounts for: itself until it is marked completed, and the one
that it is creating. -/
def threads : WorkerPhase → Int
  | .creating => 2
  | .returning => 0
  | .completed => 0
  | _ => 1

/-- The pollers that a worker accounts for: itself while it polls or is about to, and the one
that it is creating. -/
def pollers : WorkerPhase → Int
  | .starting => 1
  | .polling => 1
  | .creating => 1
  | _ => 0

def looping : WorkerPhase → Int
  | .starting => 1
  | .polling => 1
  | .creating => 1
  | .working _ => 1
  | _ => 0

/-- The worker is between its decrement and `grpc_resource_user_free_threads`. -/
def owing : WorkerPhase → Int
  | .returning => 1
  | _ => 0

theorem pollers_nonneg (phase : WorkerPhase) : 0 ≤ phase.pollers := by
  cases phase <;> simp [pollers]

theorem pollers_le_looping (phase : WorkerPhase) : phase.pollers ≤ phase.looping := by
  cases phase <;> simp [pollers, looping]

theorem looping_nonneg (phase : WorkerPhase) : 0 ≤ phase.looping :=
  phase.pollers_nonneg.trans phase.pollers_le_looping

theorem looping_le_threads (phase : WorkerPhase) : phase.looping ≤ phase.threads := by
  cases phase <;> simp [looping, threads]

end WorkerPhase

def WorkerEvent.lost : WorkerEvent → Int
  | .create false => 1
  | _ => 0

theorem WorkerEvent.lost_eq_zero_iff (event : WorkerEvent) :
    event.lost = 0 ↔ event ≠ .create false := by
  cases event with
  | create created => cases created <;> simp [lost]
  | _ => simp [lost]

/-- What a worker changes of the counters is what it changes of its own account. -/
structure Moved (bounds : PollerBounds) (before : Counters) (phase : WorkerPhase) (lost : Int)
    (after : Counters) (phase' : WorkerPhase) (started : List WorkerPhase) : Prop where
  shutdown : after.shutdown = before.shutdown
  threads : after.numThreads - before.numThreads =
    phase'.threads + total WorkerPhase.threads started - phase.threads
  pollers : after.numPollers - before.numPollers =
    phase'.pollers + total WorkerPhase.pollers started - phase.pollers
  bounded : before.numPollers ≤ bounds.maxPollers → after.numPollers ≤ bounds.maxPollers
  stays : before.shutdown = true ∨ phase.looping = 0 ∨ phase'.looping = 1 ∨
    bounds.maxPollers ≤ after.numPollers
  quota : after.quota - before.quota =
    after.numThreads - before.numThreads + phase'.owing + total WorkerPhase.owing started -
      phase.owing + lost

attribute [local simp] WorkerPhase.threads WorkerPhase.pollers WorkerPhase.looping
  WorkerPhase.owing

namespace Moved

variable {bounds : PollerBounds} {counters : Counters}

theorem goBackToPolling {before : Counters} {phase : WorkerPhase}
    (same : counters = { before with numPollers := before.numPollers - phase.pollers })
    (origin : phase = .polling ∨ ∃ resources, phase = .working resources) :
    Moved bounds before phase 0 (counters.goBackToPolling bounds).1
      (counters.goBackToPolling bounds).2 [] := by
  subst same
  unfold Counters.goBackToPolling
  split
  case isTrue below =>
    rcases origin with rfl | ⟨resources, rfl⟩
    · constructor <;> simp
    · simp only [WorkerPhase.pollers] at below
      constructor <;> simp
      omega
  case isFalse full =>
    rcases origin with rfl | ⟨resources, rfl⟩
    · simp only [WorkerPhase.pollers] at full
      constructor <;> simp <;> omega
    · simp only [WorkerPhase.pollers] at full
      constructor <;> simp
      omega

theorem workFound {before : Counters} (granted : Bool)
    (same : counters = { before with numPollers := before.numPollers - 1 }) :
    Moved bounds before .polling 0 (counters.workFound bounds granted).1
      (counters.workFound bounds granted).2 [] := by
  subst same
  unfold Counters.workFound
  split
  case isTrue scarce =>
    cases granted with
    | true =>
      constructor <;> simp
    | false =>
      constructor <;> simp
      omega
  case isFalse enough =>
    constructor <;> simp
    omega

theorem polled (status : WorkStatus) (granted : Bool)
    (ends : status = .shutdown → counters.shutdown = true) :
    Moved bounds counters .polling 0 (counters.polled bounds status granted).1
      (counters.polled bounds status granted).2 [] := by
  unfold Counters.polled
  cases status with
  | workFound => exact workFound granted rfl
  | shutdown =>
    have stopped := ends rfl
    constructor <;> simp [stopped]
    omega
  | timeout =>
    dsimp only
    split
    case isTrue leaves =>
      rcases leaves with stopped | crowded
      · constructor <;> simp [stopped]
        omega
      · constructor <;> simp <;> omega
    case isFalse => exact goBackToPolling rfl (.inl rfl)

theorem created (made : Bool) :
    Moved bounds counters .creating (create made).lost (counters.created made).1
      (counters.created made).2.1 (counters.created made).2.2 := by
  cases made with
  | true =>
    constructor <;> simp [Counters.created, lost, total]
  | false =>
    constructor <;> simp [Counters.created, lost]
    omega

theorem workDone (resources : Bool) :
    Moved bounds counters (.working resources) 0 (counters.workDone bounds).1
      (counters.workDone bounds).2 [] := by
  unfold Counters.workDone
  split
  case isTrue stopped =>
    constructor <;> simp [stopped]
  case isFalse =>
    refine goBackToPolling ?_ (.inr ⟨resources, rfl⟩)
    simp

end Moved

theorem advance_moved {bounds : PollerBounds} {worker : Nat} {counters counters' : Counters}
    {phase phase' : WorkerPhase} {event : WorkerEvent} {started : List WorkerPhase}
    (taken : advance bounds worker counters phase event = some (counters', phase', started)) :
    Moved bounds counters phase event.lost counters' phase' started := by
  unfold advance at taken
  split at taken
  case h_1 =>
    cases taken
    constructor <;> simp [lost]
  case h_2 status granted =>
    obtain ⟨bad, taken⟩ := Option.ite_none_left_eq_some.mp taken
    cases taken
    refine Moved.polled status granted fun stops => ?_
    by_contra open_
    exact bad ⟨stops, open_⟩
  case h_3 made =>
    have moved : Moved bounds counters .creating (create made).lost
        (counters.created made).1 (counters.created made).2.1 (counters.created made).2.2 :=
      Moved.created made
    rwa [Option.some.inj taken] at moved
  case h_4 resources =>
    cases taken
    exact Moved.workDone resources
  case h_5 =>
    cases taken
    constructor <;> simp [lost]
  case h_6 =>
    cases taken
    constructor <;> simp [lost]
  case h_7 =>
    cases taken
    constructor <;> simp [lost]
  case h_8 =>
    cases taken
    constructor <;> simp [lost]
  case h_9 => cases taken

theorem step_worker {bounds : PollerBounds} {manager manager' : ThreadManager} {index : Nat}
    {event : WorkerEvent}
    (taken : manager.step bounds (.worker index event) = some manager') :
    ∃ phase phase' started, manager.workers[index]? = some phase ∧
      Moved bounds manager.counters phase event.lost manager'.counters phase' started ∧
      (∀ amount : WorkerPhase → Int, total amount manager'.workers =
        total amount manager.workers - amount phase + amount phase' + total amount started) ∧
      (phase' ∈ manager'.workers) := by
  obtain ⟨phase, there, taken⟩ := Option.bind_eq_some_iff.mp taken
  obtain ⟨⟨counters, phase', started⟩, advanced, taken⟩ := Option.bind_eq_some_iff.mp taken
  cases taken
  refine ⟨phase, phase', started, there, advance_moved advanced, fun amount => ?_, ?_⟩
  · rw [total_append, total_set there]
  · have bound := (List.getElem?_eq_some_iff.mp there).1
    exact List.mem_append_left _ (List.mem_of_getElem? (List.getElem?_set_self bound))

structure Counted (bounds : PollerBounds) (manager : ThreadManager) : Prop where
  threads : manager.counters.numThreads = total WorkerPhase.threads manager.workers
  pollers : manager.counters.numPollers = total WorkerPhase.pollers manager.workers
  bounded : manager.counters.numPollers ≤ bounds.maxPollers
  loops : manager.counters.shutdown = false → 1 ≤ total WorkerPhase.looping manager.workers

/-- What is promised of the counters and of the threads held from the resource quota. -/
structure Accounted (bounds : PollerBounds) (manager : ThreadManager) : Prop where
  threads : manager.counters.numThreads = total WorkerPhase.threads manager.workers
  pollers : manager.counters.numPollers = total WorkerPhase.pollers manager.workers
  pollers_nonneg : 0 ≤ manager.counters.numPollers
  pollers_le : manager.counters.numPollers ≤ bounds.maxPollers
  quota : manager.counters.quota =
    manager.counters.numThreads + total WorkerPhase.owing manager.workers
  serves : manager.counters.shutdown = false → 0 < manager.counters.numThreads
  returned : (∀ phase ∈ manager.workers, phase = .completed) → manager.counters.quota = 0

namespace Counted

variable {bounds : PollerBounds} {manager manager' : ThreadManager}

theorem initialized : Counted bounds (.initialized bounds) := by
  have positive := bounds.one_le_min
  have count (amount : WorkerPhase → Int) (one : amount .starting = 1) :
      total amount (ThreadManager.initialized bounds).workers = bounds.minPollers := by
    simp only [ThreadManager.initialized, total, List.map_replicate, List.sum_replicate, one]
    simp
    omega
  refine ⟨(count _ rfl).symm, (count _ rfl).symm, bounds.min_le_max, fun _ => ?_⟩
  rw [count WorkerPhase.looping rfl]
  exact positive

theorem step {action : ThreadManager.Action} (counted : Counted bounds manager)
    (taken : manager.step bounds action = some manager') : Counted bounds manager' := by
  cases action with
  | shutdown =>
    cases taken
    exact ⟨counted.threads, counted.pollers, counted.bounded, nofun⟩
  | worker =>
    obtain ⟨phase, phase', started, there, moved, totals, arrived⟩ := step_worker taken
    have threads : manager'.counters.numThreads = total WorkerPhase.threads manager'.workers := by
      have before := counted.threads
      have change := moved.threads
      have after := totals WorkerPhase.threads
      omega
    have pollers : manager'.counters.numPollers = total WorkerPhase.pollers manager'.workers := by
      have before := counted.pollers
      have change := moved.pollers
      have after := totals WorkerPhase.pollers
      omega
    refine ⟨threads, pollers, moved.bounded counted.bounded, fun running => ?_⟩
    rw [moved.shutdown] at running
    have nonneg (workers : List WorkerPhase) : 0 ≤ total WorkerPhase.looping workers :=
      total_nonneg fun phase _ => phase.looping_nonneg
    rcases moved.stays with stopped | outside | inside | crowded
    · rw [running] at stopped
      cases stopped
    · -- a worker outside the loop is not one of those that are counted
      have before := counted.loops running
      have after := totals WorkerPhase.looping
      have more := nonneg started
      have back := phase'.looping_nonneg
      omega
    · have le := le_total (fun phase _ => WorkerPhase.looping_nonneg phase) arrived
      omega
    · -- it leaves because there are enough pollers
      have positive := bounds.one_le_min.trans bounds.min_le_max
      have le := total_mono manager'.workers WorkerPhase.pollers_le_looping
      omega

theorem total_completed (all : ∀ phase ∈ manager.workers, phase = .completed)
    (amount : WorkerPhase → Int) (zero : amount .completed = 0) :
    total amount manager.workers = 0 := by
  refine List.sum_eq_zero fun value membership => ?_
  obtain ⟨phase, member, rfl⟩ := List.mem_map.mp membership
  rw [all phase member, zero]

theorem accounted_iff (counted : Counted bounds manager) :
    Accounted bounds manager ↔ manager.counters.quota =
      manager.counters.numThreads + total WorkerPhase.owing manager.workers := by
  constructor
  · exact Accounted.quota
  · intro quota
    refine ⟨counted.threads, counted.pollers, ?_, counted.bounded, quota, fun running => ?_,
      fun all => ?_⟩
    · rw [counted.pollers]
      exact total_nonneg fun phase _ => phase.pollers_nonneg
    · have loops := counted.loops running
      have le := total_mono manager.workers WorkerPhase.looping_le_threads
      have threads := counted.threads
      omega
    · rw [quota, counted.threads, total_completed all _ rfl, total_completed all _ rfl]
      rfl

end Counted

/-- The thread of a worker is created whenever the quota has granted one. -/
def Creates (_ : ThreadManager) : ThreadManager.Action → Prop
  | .worker _ event => event ≠ .create false
  | .shutdown => True

instance (manager : ThreadManager) (action : ThreadManager.Action) :
    Decidable (Creates manager action) :=
  match action with
  | .worker _ event => inferInstanceAs (Decidable (event ≠ .create false))
  | .shutdown => inferInstanceAs (Decidable True)

theorem accounted_step_iff {bounds : PollerBounds} {manager manager' : ThreadManager}
    {action : ThreadManager.Action} (counted : Counted bounds manager)
    (accounted : Accounted bounds manager)
    (taken : manager.step bounds action = some manager') :
    Accounted bounds manager' ↔ Creates manager action := by
  rw [(counted.step taken).accounted_iff]
  have quota := accounted.quota
  cases action with
  | shutdown =>
    cases taken
    exact iff_of_true quota trivial
  | worker index event =>
    obtain ⟨phase, phase', started, there, moved, totals, arrived⟩ := step_worker taken
    have change := moved.quota
    have after := totals WorkerPhase.owing
    refine Iff.trans ?_ event.lost_eq_zero_iff
    omega

/-- The threads of the server are accounted for in every state of exactly the runs in which no
creation of a worker fails. -/
theorem accounted_iff_creates (bounds : PollerBounds) (actions : List ThreadManager.Action)
    (final : ThreadManager) :
    Run (ThreadManager.step bounds) Creates (.initialized bounds) actions final ↔
      Reach (ThreadManager.step bounds) (.initialized bounds) actions final ∧
        ∀ done later, actions = done ++ later → ∀ middle,
          Reach (ThreadManager.step bounds) (.initialized bounds) done middle →
            Accounted bounds middle := by
  refine Run.iff_always (fun (counted : Counted bounds _) taken => counted.step taken)
    accounted_step_iff Counted.initialized ?_ actions final
  rw [Counted.initialized.accounted_iff]
  have none : total WorkerPhase.owing (ThreadManager.initialized bounds).workers = 0 := by
    simp [ThreadManager.initialized, total]
  rw [none, Int.add_zero]
  rfl

/-- A server with one poller that fails once to create a second worker, and shuts down. -/
def exhaustedRun : List ThreadManager.Action :=
  [.worker 0 .start, .worker 0 (.poll .workFound true), .worker 0 (.create false),
    .worker 0 .doWork, .shutdown, .worker 0 (.poll .shutdown false),
    .worker 0 .cleanupCompletedThreads, .worker 0 .list, .worker 0 .release,
    .worker 0 .freeThreads]

/-- Every worker has completed, and a thread is still held from the quota. -/
theorem quota_leaked :
    ∃ manager, Reach (ThreadManager.step ⟨1, 1, by decide, by decide⟩)
        (.initialized ⟨1, 1, by decide, by decide⟩) exhaustedRun manager ∧
      ¬ Accounted ⟨1, 1, by decide, by decide⟩ manager := by
  obtain ⟨manager, reach, seen⟩ := exists_reach
    (ThreadManager.step ⟨1, 1, by decide, by decide⟩)
    (.initialized ⟨1, 1, by decide, by decide⟩) exhaustedRun
    (fun manager => (manager.workers, manager.counters.quota)) ([.completed], 1)
    (by decide)
  obtain ⟨completed, held⟩ := Prod.mk.inj seen
  refine ⟨manager, reach, fun accounted => ?_⟩
  have none := accounted.returned fun phase membership => by
    rw [completed] at membership
    exact List.mem_singleton.mp membership
  rw [held] at none
  cases none

/-- The threads that are lost by failed creations. -/
def ThreadManager.Action.lost : ThreadManager.Action → Int
  | .shutdown => 0
  | .worker _ event => event.lost

theorem quota_of_reach {bounds : PollerBounds} {actions : List ThreadManager.Action}
    {manager manager' : ThreadManager}
    (reach : Reach (ThreadManager.step bounds) manager actions manager') :
    manager'.counters.quota - manager'.counters.numThreads -
        total WorkerPhase.owing manager'.workers =
      manager.counters.quota - manager.counters.numThreads -
        total WorkerPhase.owing manager.workers + (actions.map ThreadManager.Action.lost).sum := by
  induction reach with
  | nil => simp
  | @cons _ _ _ action _ _ taken _ ih =>
    rw [ih, List.map_cons, List.sum_cons]
    cases action with
    | shutdown =>
      cases taken
      simp only [ThreadManager.Action.lost]
      omega
    | worker index event =>
      obtain ⟨phase, phase', started, there, moved, totals, arrived⟩ := step_worker taken
      have change := moved.quota
      have after := totals WorkerPhase.owing
      simp only [ThreadManager.Action.lost]
      omega

/-- In every run, also if workers cannot be created: the counters count the threads and the
pollers, there are at most `maxPollers` of these, a worker is in the loop until the shutdown, and
the quota is held for the threads there are and for those whose creation has failed; for these
alone when every worker has completed. -/
theorem quota_accounts_failures {bounds : PollerBounds} {actions : List ThreadManager.Action}
    {manager : ThreadManager}
    (reach : Reach (ThreadManager.step bounds) (.initialized bounds) actions manager) :
    Counted bounds manager ∧
      manager.counters.quota = manager.counters.numThreads +
        total WorkerPhase.owing manager.workers + (actions.map ThreadManager.Action.lost).sum ∧
      ((∀ phase ∈ manager.workers, phase = .completed) →
        manager.counters.quota = (actions.map ThreadManager.Action.lost).sum) := by
  have counted : Counted bounds manager :=
    reach.invariant (fun counted _ taken => Counted.step counted taken) .initialized
  have moved := quota_of_reach reach
  have none : total WorkerPhase.owing (ThreadManager.initialized bounds).workers = 0 := by
    simp [ThreadManager.initialized, total]
  have same : (ThreadManager.initialized bounds).counters.quota =
    (ThreadManager.initialized bounds).counters.numThreads := rfl
  refine ⟨counted, by omega, fun all => ?_⟩
  have threads := counted.threads
  rw [Counted.total_completed all _ rfl] at threads moved
  omega

theorem quota_accounts_failures_exhausted : ∃ manager : ThreadManager,
    manager.workers = [.completed] ∧ manager.counters.quota = 1 := by
  obtain ⟨manager, reach, completed⟩ := exists_reach
    (ThreadManager.step ⟨1, 1, by decide, by decide⟩)
    (.initialized ⟨1, 1, by decide, by decide⟩) exhaustedRun (·.workers) [.completed] (by decide)
  refine ⟨manager, completed, (quota_accounts_failures reach).2.2 ?_⟩
  rw [completed]
  exact fun _ => List.mem_singleton.mp

end GrpcCore.Cpp
