import GrpcCore.Lib.Mutex
import GrpcCore.Surface.MatcherQueues

/-!
# No call is left waiting beside a queued request

A queue that is not empty while calls wait has a task that will still look at both:
the first push into an empty queue goes on to the slow path, and a call waits only
after it has found every queue empty under `mu_call_`.
-/

namespace GrpcCore.Surface.Matching

open Gprpp LockedMpscq

/-- The task is in a critical section of `mu_call_`. -/
def Task.insideCall : Task → Bool
  | .request _ .popping | .call _ _ (.scanning _) | .shutdown (.killing _ _ _) => true
  | _ => false

/-- The task is in a critical section of `mu_global_`. -/
def Task.insideGlobal : Task → Bool
  | .shutdown (.locking _) | .shutdown (.killing _ _ _) | .shutdown .unreffing
  | .shutdown .finishing => true
  | _ => false

structure Locks (system : System) : Prop where
  call : Mutex.Exclusive Task.insideCall system.server.muCall system.tasks
  global : Mutex.Exclusive Task.insideGlobal system.server.muGlobal system.tasks

variable {task : Task} {server' server : Server} {layout : Layout} {self : Nat}

theorem TaskStep.passesCall {task' : Task} (step : TaskStep layout server self task server' task') :
    Mutex.Passes self task.insideCall server.muCall task'.insideCall server'.muCall := by
  cases step with
  | request step =>
    cases step with
    | locked free => exact .entered free rfl
    | foundEmpty | matched => exact .left rfl rfl
    | _ => exact .kept rfl id
  | call step =>
    cases step with
    | locked free => exact .entered free rfl
    | found | queued => exact .left rfl rfl
    | trying _ _ next => rcases next with ⟨-, rfl⟩ | ⟨-, rfl⟩ <;> exact .kept rfl id
    | _ => exact .kept rfl id
  | shutdown step =>
    cases step with
    | locked free => exact .entered free rfl
    | finished | killed => exact .left rfl rfl
    | unreferenced next => rcases next with rfl | rfl <;> exact .kept rfl id
    | _ => exact .kept rfl id

theorem TaskStep.passesGlobal {task' : Task} (step : TaskStep layout server self task server' task') :
    Mutex.Passes self task.insideGlobal server.muGlobal task'.insideGlobal server'.muGlobal := by
  cases step with
  | request step => cases step <;> exact .kept rfl id
  | call step =>
    cases step <;> exact .kept rfl id
  | shutdown step =>
    cases step with
    | called free | listenerDestroyed free | channelDestroyed free | lockedGlobal free =>
      exact .entered free rfl
    | finished | unreferencedEarly | notReady => exact .left rfl rfl
    | unreferenced next => rcases next with rfl | rfl <;> exact .kept rfl id
    | _ => exact .kept rfl id

theorem Task.Fresh.outside (fresh : task.Fresh) :
    task.insideCall = false ∧ task.insideGlobal = false := by
  cases fresh <;> exact ⟨rfl, rfl⟩

theorem locks_init : Locks {} := ⟨Mutex.exclusive_nil, Mutex.exclusive_nil⟩

theorem Locks.step {layout : Layout} {system system' : System} {action : Action}
    (locks : Locks system) (step : SystemStep layout system action system') : Locks system' := by
  cases step with
  | spawned fresh =>
    exact ⟨locks.call.spawn fresh.outside.1, locks.global.spawn fresh.outside.2⟩
  | createdChannel => exact ⟨locks.call, locks.global⟩
  | ran there step =>
    exact ⟨locks.call.step there step.passesCall, locks.global.step there step.passesGlobal⟩

inductive Task.Attends (queue : Nat × Nat) : Task → Prop where
  | linking : Attends queue (.request queue (.linking none))
  | locking : Attends queue (.request queue .locking)
  | popping : Attends queue (.request queue .popping)
  | matched (request call : Nat) : Attends queue (.request queue (.matched request call))

def Attended (system : System) (queue : Nat × Nat) : Prop :=
  (system.server.requestsPerCq queue).contents ≠ [] →
    ∃ (index : Nat) (task : Task), system.tasks[index]? = some task ∧ task.Attends queue

variable {queue : Nat × Nat}

theorem Queues.attended {system : System} (queues : Queues system)
    (empty : (system.server.requestsPerCq queue).FoundEmpty) : Attended system queue := by
  intro nonempty
  obtain ⟨request, unlinked⟩ := empty.resolve_left nonempty
  exact ⟨request, _, queues.linking queue none request unlinked, .linking⟩

theorem TaskStep.attends {layout : Layout} {server server' : Server} {self : Nat}
    {task task' : Task} (step : TaskStep layout server self task server' task')
    (attends : task.Attends queue) (valid : (server.requestsPerCq queue).Valid) :
    task'.Attends queue ∨ server'.pending queue.1 = [] ∧ server'.muCall = none ∨
      (server'.requestsPerCq queue).FoundEmpty := by
  cases attends with
  | linking =>
    cases step with
    | request step =>
      cases step with
      | linkedFirst => exact .inl .locking
  | locking =>
    cases step with
    | request step =>
      cases step with
      | nothingPending free nothing => exact .inr (.inl ⟨nothing, free⟩)
      | locked => exact .inl .popping
  | popping =>
    cases step with
    | request step =>
      cases step with
      | working => exact .inl .popping
      | foundEmpty popped =>
        refine .inr (.inr ?_)
        have found := (pop_pulls valid popped).2 rfl
        simpa using found
      | matched => exact .inl (.matched _ _)
  | matched =>
    cases step with
    | request step => cases step <;> exact .inl .locking

theorem Attended.step {layout : Layout} {system system' : System} {action : Action}
    (attended : Attended system queue) (queues : Queues system) (queues' : Queues system')
    (step : SystemStep layout system action system') : Attended system' queue ∨
      system'.server.pending queue.1 = [] ∧ system'.server.muCall = none := by
  cases step with
  | spawned fresh =>
    left
    intro nonempty
    obtain ⟨index, task, there, attends⟩ := attended nonempty
    exact ⟨index, task, getElem?_spawn there, attends⟩
  | createdChannel => exact .inl attended
  | @ran self task task' server' there step =>
    have bound : self < system.tasks.length := (List.getElem?_eq_some_iff.mp there).1
    have self_ : (system.tasks.set self task')[self]? = some task' :=
      List.getElem?_set_self bound
    by_cases empty : (system.server.requestsPerCq queue).contents = []
    · left
      intro nonempty
      have touched := step.touches queues.valid queue
      generalize server'.requestsPerCq queue = after at touched nonempty
      cases touched with
      | same => exact absurd empty nonempty
      | pulled _ pulls =>
        obtain ⟨request, member⟩ := List.exists_mem_of_ne_nil _ nonempty
        have earlier := pulls.contents_subset member
        rw [empty] at earlier
        cases earlier
      | exchanged pushing linking =>
        rw [exchange_of_empty empty] at linking
        exact ⟨self, _, self_, linking ▸ .linking⟩
      | linked =>
        rw [contents_link] at nonempty
        exact absurd empty nonempty
    · obtain ⟨index, other, at_, attends⟩ := attended empty
      by_cases same : self = index
      · subst same
        obtain rfl := Option.mem_unique there at_
        rcases step.attends attends (queues.valid queue) with still | nothing | found
        · exact .inl fun _ => ⟨self, task', self_, still⟩
        · exact .inr nothing
        · exact .inl (queues'.attended found)
      · exact .inl fun _ => ⟨index, other, (List.getElem?_set_ne same).trans at_, attends⟩

/-- While calls wait every queue is attended; and so is, for a call that looks for a
request under `mu_call_`, every queue it has found empty. -/
structure Wakeups (layout : Layout) (system : System) : Prop where
  waiting : ∀ matcher cq : Nat, cq < layout.cqs → system.server.pending matcher ≠ [] →
    Attended system (matcher, cq)
  scanned : ∀ (index matcher startIndex i : Nat),
    system.tasks[index]? = some (.call matcher startIndex (.scanning i)) →
    ∀ j < i, Attended system (matcher, (startIndex + j) % layout.cqs)

theorem exists_offset {cqs cq : Nat} (startIndex : Nat) (within : cq < cqs) :
    ∃ j < cqs, (startIndex + j) % cqs = cq := by
  have positive : 0 < cqs := Nat.zero_lt_of_lt within
  have bound := Nat.mod_lt startIndex positive
  refine ⟨(cq + (cqs - startIndex % cqs)) % cqs, Nat.mod_lt _ positive, ?_⟩
  rw [Nat.add_mod_mod, ← Nat.mod_add_mod, ← Nat.add_assoc, Nat.add_comm (startIndex % cqs),
    Nat.add_assoc, Nat.add_sub_cancel' bound.le, Nat.add_mod_right, Nat.mod_eq_of_lt within]

theorem TaskStep.pending {layout : Layout} {server server' : Server} {self matcher : Nat}
    {task task' : Task} (step : TaskStep layout server self task server' task')
    (waiting : server'.pending matcher ≠ []) :
    server.pending matcher ≠ [] ∨
      ∃ startIndex i, task = .call matcher startIndex (.scanning i) ∧ ¬i < layout.cqs := by
  have update {other : Nat} {calls : List Nat}
      (waiting : Function.update server.pending other calls matcher ≠ [])
      (before : calls ≠ [] → server.pending other ≠ []) : server.pending matcher ≠ [] := by
    by_cases same : matcher = other
    · subst same
      rw [Function.update_self] at waiting
      exact before waiting
    · rwa [Function.update_of_ne same] at waiting
  cases step with
  | request step =>
    cases step with
    | matched _ calls =>
      refine .inl (update waiting fun _ => ?_)
      rw [calls]
      nofun
    | _ => exact .inl waiting
  | call step =>
    cases step with
    | @queued i past =>
      rename_i other startIndex
      by_cases same : matcher = other
      · subst same
        exact .inr ⟨startIndex, i, rfl, past⟩
      · left
        dsimp only at waiting
        rwa [Function.update_of_ne same] at waiting
    | _ => exact .inl waiting
  | shutdown step =>
    cases step with
    | zombified => exact .inl (update waiting fun nonempty => absurd rfl nonempty)
    | _ => exact .inl waiting

theorem TaskStep.scanning {matcher startIndex i : Nat}
    (step : TaskStep layout server self task server' (.call matcher startIndex (.scanning i)))
    (valid : ∀ queue, (server.requestsPerCq queue).Valid) {j : Nat} (before : j < i) :
    (∃ i', task = .call matcher startIndex (.scanning i') ∧ j < i') ∨
      (server'.requestsPerCq (matcher, (startIndex + j) % layout.cqs)).FoundEmpty := by
  cases step with
  | call step =>
    cases step with
    | trying _ _ next => rcases next with ⟨-, next⟩ | ⟨-, next⟩ <;> cases next
    | locked => cases before
    | working => exact .inl ⟨i, rfl, before⟩
    | @foundEmpty i' _ _ popped =>
      rcases Nat.lt_succ_iff_lt_or_eq.mp before with earlier | rfl
      · exact .inl ⟨i', rfl, earlier⟩
      · refine .inr ?_
        rw [Server.setQueue_self]
        exact (pop_pulls (valid _) popped).2 rfl

theorem wakeups_init (layout : Layout) : Wakeups layout {} where
  waiting _ _ _ waiting := absurd rfl waiting
  scanned _ _ _ _ there := nomatch there

theorem Wakeups.step {layout : Layout} {system system' : System} {action : Action}
    (wakeups : Wakeups layout system) (queues : Queues system) (locks : Locks system)
    (step : SystemStep layout system action system') : Wakeups layout system' := by
  have queues' := queues.step step
  have locks' := locks.step step
  have waits {matcher cq : Nat} (attended : Attended system (matcher, cq))
      (waiting : system'.server.pending matcher ≠ []) : Attended system' (matcher, cq) :=
    (attended.step queues queues' step).resolve_right fun nothing => waiting nothing.1
  have scans {index matcher startIndex i cq : Nat}
      (there : system'.tasks[index]? = some (.call matcher startIndex (.scanning i)))
      (attended : Attended system (matcher, cq)) : Attended system' (matcher, cq) := by
    refine (attended.step queues queues' step).resolve_right fun nothing => ?_
    cases nothing.2.symm.trans (locks'.call index _ there rfl)
  cases step with
  | spawned fresh =>
    refine ⟨fun matcher cq within waiting => ?_, fun index matcher startIndex i there => ?_⟩
    · exact waits (wakeups.waiting matcher cq within waiting) waiting
    · rcases Ledger.append_cases there with before | ⟨-, rfl⟩
      · exact fun j less => scans there (wakeups.scanned index _ _ _ before j less)
      · cases fresh
  | createdChannel =>
    refine ⟨fun matcher cq within waiting => ?_, fun index matcher startIndex i there => ?_⟩
    · exact waits (wakeups.waiting matcher cq within waiting) waiting
    · exact fun j less => scans there (wakeups.scanned index _ _ _ there j less)
  | @ran self task task' server' at_ step =>
    refine ⟨fun matcher cq within waiting => ?_, fun index matcher startIndex i there j less => ?_⟩
    · refine waits ?_ waiting
      rcases step.pending waiting with before | ⟨startIndex, i, rfl, past⟩
      · exact wakeups.waiting matcher cq within before
      · obtain ⟨j, less, rfl⟩ := exists_offset startIndex within
        exact wakeups.scanned self _ _ _ at_ j (less.trans_le (Nat.le_of_not_lt past))
    · rcases Ledger.set_cases there with ⟨rfl, same⟩ | ⟨-, before⟩
      · subst same
        rcases step.scanning queues.valid less with ⟨i', rfl, earlier⟩ | found
        · exact scans there (wakeups.scanned self _ _ _ at_ j earlier)
        · exact queues'.attended found
      · exact scans there (wakeups.scanned index _ _ _ before j less)

def Task.finished : Task → Bool
  | .request _ .done | .call _ _ .done | .shutdown .done => true
  | _ => false

theorem Wakeups.quiet {layout : Layout} {system : System} (wakeups : Wakeups layout system)
    (quiet : ∀ task ∈ system.tasks, task.finished = true) {matcher cq : Nat}
    (within : cq < layout.cqs) :
    system.server.pending matcher = [] ∨
      (system.server.requestsPerCq (matcher, cq)).contents = [] := by
  by_contra! both
  obtain ⟨index, task, there, attends⟩ := wakeups.waiting matcher cq within both.1 both.2
  have finished := quiet task (List.mem_of_getElem? there)
  cases attends <;> cases finished

end GrpcCore.Surface.Matching
