import GrpcCore.Surface.MatcherQueues

/-!
# The accounts of incoming calls

An incoming call waits, is paired with a request, or is published, in one of these
and once; and while it waits or is paired nothing else has changed its state, so
`MaybeActivate` succeeds.
-/

namespace GrpcCore.Surface.Matching

open Gprpp Ledger Server

def Task.pairing (calld : Nat) : Task → Int
  | .request _ (.matched _ paired) => if paired = calld then 1 else 0
  | _ => 0

def CallPc.live (pc : CallPc) : Int := if pc = .done then 0 else 1

def Task.brings (self calld : Nat) : Task → Int
  | .call _ _ pc => if self = calld then pc.live else 0
  | _ => 0

def Server.disposed (server : Server) (matcher calld : Nat) : Int :=
  (server.pending matcher).count calld + server.completions.countP (·.call == some calld)

def System.committed (system : System) (matcher calld : Nat) : Int :=
  Ledger.total (Task.pairing calld) system.tasks + system.server.disposed matcher calld

theorem Task.pairing_nonneg (calld : Nat) (task : Task) : 0 ≤ task.pairing calld := by
  unfold Task.pairing
  split
  · split <;> decide
  · decide

variable {self calld : Nat}

theorem Task.brings_of_ne (ne : self ≠ calld) (task : Task) : task.brings self calld = 0 := by
  cases task with
  | call => exact if_neg ne
  | request | shutdown => rfl

variable {server' : Server}

namespace Server

variable (server : Server)

theorem disposed_endOp (completion : Completion) (matcher calld : Nat) :
    (server.endOp completion).disposed matcher calld =
      server.disposed matcher calld + if completion.call = some calld then 1 else 0 := by
  by_cases same : completion.call = some calld <;>
    simp [disposed, endOp, List.countP_append, same, ← Int.add_assoc]

@[simp]
theorem disposed_setState (call : Nat) (state : CallState) (matcher calld : Nat) :
    (server.setState call state).disposed matcher calld = server.disposed matcher calld := rfl

theorem disposed_congr {server : Server} (pending : server'.pending = server.pending)
    (completions : server'.completions = server.completions) (matcher calld : Nat) :
    server'.disposed matcher calld = server.disposed matcher calld := by
  rw [disposed, disposed, pending, completions]

theorem disposed_update (server' : Server) {at_ : Nat} {calls : List Nat}
    (pending : server'.pending = Function.update server.pending at_ calls)
    (completions : server'.completions = server.completions) (matcher calld : Nat) :
    server'.disposed matcher calld =
      server.disposed matcher calld +
        if matcher = at_ then (calls.count calld - (server.pending at_).count calld : Int) else 0 := by
  rw [disposed, disposed, pending, completions]
  by_cases same : matcher = at_
  · subst same
    rw [Function.update_self, if_pos rfl]
    omega
  · rw [Function.update_of_ne same, if_neg same]
    omega

theorem disposed_nonneg (matcher calld : Nat) : 0 ≤ server.disposed matcher calld := by
  unfold disposed
  omega

end Server

variable {task task' : Task} {layout : Layout} {matcher : Nat}

theorem TaskStep.commits {server : Server} (step : TaskStep layout server self task server' task')
    (home : ∀ other, calld ∈ server.pending other → other = matcher)
    (mine : ∀ other startIndex pc, self = calld → task = .call other startIndex pc →
      other = matcher) :
    task'.brings self calld + task'.pairing calld + server'.disposed matcher calld ≤
      task.brings self calld + task.pairing calld + server.disposed matcher calld := by
  have kept {server' : Server} {task task' : Task} (pending : server'.pending = server.pending)
      (completions : server'.completions = server.completions)
      (brings : task'.brings self calld ≤ task.brings self calld)
      (pairing : task'.pairing calld ≤ task.pairing calld) :
      task'.brings self calld + task'.pairing calld + server'.disposed matcher calld ≤
        task.brings self calld + task.pairing calld + server.disposed matcher calld := by
    rw [disposed_congr pending completions]
    omega
  have lives {other startIndex : Nat} {pc : CallPc} (live : pc.live = 1) (pc' : CallPc) :
      (Task.call other startIndex pc').brings self calld ≤
        (Task.call other startIndex pc).brings self calld := by
    have bound : pc'.live ≤ 1 := by
      unfold CallPc.live
      split <;> decide
    by_cases same : self = calld
    · simp only [Task.brings, if_pos same, live]
      exact bound
    · simp only [Task.brings, if_neg same, Int.le_refl]
  cases step with
  | @request queue _ _ _ step =>
    cases step with
    | failed =>
      rw [disposed_endOp, if_neg (by nofun)]
      exact (Int.add_zero _).le
    | @matched requests taken paired rest _ waiting =>
      have moved := server.disposed_update { server.setQueue queue requests with
        muCall := none, pending := Function.update server.pending queue.1 rest }
        rfl rfl matcher calld
      rw [moved, waiting, List.count_cons]
      by_cases same : paired = calld
      · have here := home queue.1 (by rw [waiting, same]; exact List.mem_cons_self)
        simp [Task.brings, Task.pairing, same, here]
      · simp [Task.brings, Task.pairing, same]
    | @published _ paired =>
      rw [disposed_endOp, disposed_setState]
      simp only [Task.brings, Task.pairing, Option.some.injEq]
      omega
    | killedZombie => exact kept rfl rfl (Int.le_refl _) (Task.pairing_nonneg calld _)
    | _ => exact kept rfl rfl (Int.le_refl _) (Int.le_refl _)
  | @call other startIndex _ _ _ step =>
    cases step with
    | trying _ _ next =>
      rcases next with ⟨-, rfl⟩ | ⟨-, rfl⟩ <;> exact kept rfl rfl (lives rfl _) (Int.le_refl _)
    | @queued i past =>
      have moved := server.disposed_update { server.setState self .pending with
        muCall := none
        pending := Function.update server.pending other (server.pending other ++ [self]) }
        rfl rfl matcher calld
      rw [moved, List.count_append, List.count_singleton]
      by_cases same : self = calld
      · have here := mine other startIndex _ same rfl
        simp [Task.brings, CallPc.live, Task.pairing, same, here]
      · simp [Task.brings, Task.pairing, same]
    | published =>
      rw [disposed_endOp, disposed_setState]
      by_cases same : self = calld <;>
        simp [Task.brings, CallPc.live, Task.pairing, same]
    | _ => exact kept rfl rfl (lives rfl _) (Int.le_refl _)
  | shutdown step =>
    cases step with
    | failed =>
      rw [disposed_endOp, if_neg (by nofun)]
      exact (Int.add_zero _).le
    | @zombified final at_ cq =>
      have moved := server.disposed_update (server.zombifyPending at_) rfl rfl matcher calld
      rw [moved]
      simp only [Task.brings, Task.pairing, List.count_nil]
      split <;> omega
    | _ => exact kept rfl rfl (Int.le_refl _) (Int.le_refl _)

theorem TaskStep.call_iff {server : Server} (step : TaskStep layout server self task server' task')
    {startIndex : Nat} :
    (∃ pc, task' = .call matcher startIndex pc) ↔ ∃ pc, task = .call matcher startIndex pc := by
  cases step with
  | call => simp
  | request | shutdown => exact iff_of_false nofun nofun

theorem TaskStep.waiting {layout : Layout} {server server' : Server} {self : Nat}
    {task task' : Task} (step : TaskStep layout server self task server' task')
    {matcher calld : Nat} (waiting : calld ∈ server'.pending matcher) :
    calld ∈ server.pending matcher ∨
      (self = calld ∧ server'.state calld = .pending) ∧
        ∃ startIndex pc, task = .call matcher startIndex pc := by
  cases step with
  | @request queue _ _ _ step =>
    cases step with
    | @matched _ _ paired rest _ calls =>
      left
      by_cases same : matcher = queue.1
      · subst same
        dsimp only at waiting
        rw [Function.update_self] at waiting
        exact calls ▸ List.mem_cons_of_mem _ waiting
      · dsimp only at waiting
        rwa [Function.update_of_ne same] at waiting
    | _ => exact .inl waiting
  | @call other startIndex _ _ _ step =>
    cases step with
    | queued =>
      dsimp only at waiting
      by_cases same : matcher = other
      · subst same
        rw [Function.update_self, List.mem_append, List.mem_singleton] at waiting
        refine waiting.imp_right fun same => ⟨⟨same.symm, ?_⟩, startIndex, _, rfl⟩
        exact same ▸ Function.update_self _ _ _
      · rw [Function.update_of_ne same] at waiting
        exact .inl waiting
    | _ => exact .inl waiting
  | shutdown step =>
    cases step with
    | @zombified final other cq =>
      left
      dsimp only [zombifyPending] at waiting
      by_cases same : matcher = other
      · subst same
        rw [Function.update_self] at waiting
        cases waiting
      · rwa [Function.update_of_ne same] at waiting
    | _ => exact .inl waiting

/-- An incoming call is in at most one place, and what is not one is in none. -/
structure CallAccounts (system : System) : Prop where
  homed : ∀ matcher calld, calld ∈ system.server.pending matcher →
    ∃ startIndex pc, system.tasks[calld]? = some (.call matcher startIndex pc)
  own : ∀ calld matcher startIndex pc,
    system.tasks[calld]? = some (.call matcher startIndex pc) →
    pc.live + system.committed matcher calld ≤ 1
  strange : ∀ calld, (∀ matcher startIndex pc,
    system.tasks[calld]? ≠ some (.call matcher startIndex pc)) →
    ∀ matcher, system.committed matcher calld ≤ 0

theorem callAccounts_init : CallAccounts {} where
  homed _ _ there := nomatch there
  own _ _ _ _ there := nomatch there
  strange _ _ _ := Int.le_refl _

theorem Task.Fresh.pairing (fresh : task.Fresh) (calld : Nat) : task.pairing calld = 0 := by
  cases fresh <;> rfl

theorem CallAccounts.step {layout : Layout} {system system' : System} {action : Action}
    (accounts : CallAccounts system) (step : SystemStep layout system action system') :
    CallAccounts system' := by
  cases step with
  | @spawned _ task fresh =>
    have kept (matcher calld : Nat) :
        (system.spawn task).committed matcher calld = system.committed matcher calld := by
      simp only [System.committed, System.spawn, total_append_singleton, fresh.pairing,
        Int.add_zero]
    refine ⟨fun matcher calld waiting => ?_, fun calld matcher startIndex pc there => ?_,
      fun calld none_ matcher => ?_⟩
    · obtain ⟨startIndex, pc, there⟩ := accounts.homed matcher calld waiting
      exact ⟨startIndex, pc, getElem?_spawn there⟩
    · rw [kept]
      rcases append_cases there with before | ⟨rfl, rfl⟩
      · exact accounts.own calld matcher startIndex pc before
      · cases fresh
        have none_ := accounts.strange system.tasks.length (fun _ _ _ => by simp) matcher
        have live : CallPc.live .checking = 1 := rfl
        omega
    · rw [kept]
      refine accounts.strange calld (fun matcher startIndex pc before => ?_) matcher
      exact none_ matcher startIndex pc (getElem?_spawn before)
  | createdChannel => exact ⟨accounts.homed, accounts.own, accounts.strange⟩
  | @ran self task task' server' there step =>
    have bound : self < system.tasks.length := (List.getElem?_eq_some_iff.mp there).1
    have here : (system.tasks.set self task')[self]? = some task' := List.getElem?_set_self bound
    have committed (matcher : Nat) {calld : Nat}
        (home : ∀ other, calld ∈ system.server.pending other → other = matcher)
        (mine : ∀ other startIndex pc, self = calld → task = .call other startIndex pc →
          other = matcher) :
        task'.brings self calld +
            (⟨server', system.tasks.set self task'⟩ : System).committed matcher calld ≤
          task.brings self calld + system.committed matcher calld := by
      have moved := step.commits home mine
      have total : Ledger.total (Task.pairing calld) (system.tasks.set self task') = _ :=
        total_set there task'
      simp only [System.committed]
      omega
    have home {matcher startIndex calld : Nat} {pc : CallPc}
        (at_ : system.tasks[calld]? = some (.call matcher startIndex pc)) (other : Nat)
        (waiting : calld ∈ system.server.pending other) : other = matcher := by
      obtain ⟨startIndex', pc', at_'⟩ := accounts.homed other calld waiting
      cases at_.symm.trans at_'
      rfl
    refine ⟨fun matcher calld waiting => ?_, fun calld matcher startIndex pc at_ => ?_,
      fun calld none_ matcher => ?_⟩
    · have known : ∃ startIndex pc,
          system.tasks[calld]? = some (.call matcher startIndex pc) := by
        rcases step.waiting waiting with before | ⟨⟨rfl, -⟩, startIndex, pc, rfl⟩
        · exact accounts.homed matcher calld before
        · exact ⟨startIndex, pc, there⟩
      obtain ⟨startIndex, pc, at_⟩ := known
      by_cases same : self = calld
      · subst same
        obtain rfl := Option.mem_unique there at_
        obtain ⟨pc', rfl⟩ := step.call_iff.mpr ⟨pc, rfl⟩
        exact ⟨startIndex, pc', here⟩
      · exact ⟨startIndex, pc, (List.getElem?_set_ne same).trans at_⟩
    · rcases set_cases at_ with ⟨rfl, rfl⟩ | ⟨ne, before⟩
      · obtain ⟨pc₀, rfl⟩ := step.call_iff.mp ⟨pc, rfl⟩
        have committed := committed matcher (home there) (by rintro _ _ _ _ ⟨⟩; rfl)
        have own := accounts.own self matcher startIndex pc₀ there
        simp only [Task.brings, if_true] at committed
        omega
      · have committed := committed matcher (home before) fun _ _ _ same => absurd same ne
        have own := accounts.own calld matcher startIndex pc before
        rw [Task.brings_of_ne ne, Task.brings_of_ne ne] at committed
        omega
    · have stranger (matcher startIndex : Nat) (pc : CallPc) :
          system.tasks[calld]? ≠ some (.call matcher startIndex pc) := by
        intro before
        by_cases same : self = calld
        · subst same
          obtain rfl := Option.mem_unique there before
          obtain ⟨pc', rfl⟩ := step.call_iff.mpr ⟨pc, rfl⟩
          exact none_ matcher startIndex pc' here
        · exact none_ matcher startIndex pc ((List.getElem?_set_ne same).trans before)
      have notLive {task : Task}
          (at_ : self = calld → ∀ matcher startIndex pc, task ≠ .call matcher startIndex pc) :
          task.brings self calld = 0 := by
        cases task with
        | call matcher startIndex pc =>
          rw [Task.brings, if_neg]
          exact fun same => at_ same matcher startIndex pc rfl
        | request | shutdown => rfl
      have brings : task.brings self calld = 0 := notLive fun same matcher startIndex pc is_ =>
        stranger matcher startIndex pc (same ▸ is_ ▸ there)
      have brings' : task'.brings self calld = 0 := notLive fun same matcher startIndex pc is_ =>
        none_ matcher startIndex pc (same ▸ is_ ▸ here)
      have nowhere : ∀ other, calld ∈ system.server.pending other → other = matcher := by
        intro other waiting
        obtain ⟨startIndex, pc, at_⟩ := accounts.homed other calld waiting
        exact absurd at_ (stranger other startIndex pc)
      have committed := committed matcher nowhere
        (fun other startIndex pc same is_ =>
          absurd (same ▸ is_ ▸ there) (stranger other startIndex pc))
      have none_ := accounts.strange calld stranger matcher
      omega

variable {system : System}

theorem CallAccounts.waits (accounts : CallAccounts system)
    (waiting : calld ∈ system.server.pending matcher) :
    total (Task.pairing calld) system.tasks ≤ 0 ∧
      ∀ other startIndex pc, system.tasks[calld]? = some (.call other startIndex pc) →
        pc = .done := by
  obtain ⟨startIndex, pc, there⟩ := accounts.homed matcher calld waiting
  have own := accounts.own calld matcher startIndex pc there
  have count := List.one_le_count_iff.mpr waiting
  have nonneg := total_nonneg fun task (_ : task ∈ system.tasks) =>
    task.pairing_nonneg calld
  simp only [System.committed, disposed] at own
  refine ⟨?_, ?_⟩
  · have live : 0 ≤ pc.live := by
      unfold CallPc.live
      split <;> decide
    omega
  · intro other startIndex' pc' there'
    cases there.symm.trans there'
    by_contra notDone
    rw [CallPc.live, if_neg notDone] at own
    omega

theorem CallAccounts.pairs (accounts : CallAccounts system) (calld : Nat) :
    total (Task.pairing calld) system.tasks ≤ 1 ∧
      ∀ matcher startIndex pc, system.tasks[calld]? = some (.call matcher startIndex pc) →
        pc ≠ .done → total (Task.pairing calld) system.tasks ≤ 0 := by
  have settled (matcher : Nat) := system.server.disposed_nonneg matcher calld
  refine ⟨?_, fun matcher startIndex pc there live => ?_⟩
  · by_cases known : ∃ matcher startIndex pc,
        system.tasks[calld]? = some (.call matcher startIndex pc)
    · obtain ⟨matcher, startIndex, pc, there⟩ := known
      have own := accounts.own calld matcher startIndex pc there
      have live : 0 ≤ pc.live := by
        unfold CallPc.live
        split <;> decide
      have settled := settled matcher
      unfold System.committed at own
      omega
    · have none_ := accounts.strange calld (fun matcher startIndex pc there =>
        known ⟨matcher, startIndex, pc, there⟩) 0
      have settled := settled 0
      unfold System.committed at none_
      omega
  · have own := accounts.own calld matcher startIndex pc there
    have settled := settled matcher
    unfold System.committed CallPc.live at own
    rw [if_neg live] at own
    omega

structure CallStates (system : System) : Prop where
  waiting : ∀ matcher calld, calld ∈ system.server.pending matcher →
    system.server.state calld = .pending
  paired : ∀ (index : Nat) queue request calld,
    system.tasks[index]? = some (.request queue (.matched request calld)) →
    system.server.state calld = .pending

theorem callStates_init : CallStates {} where
  waiting _ _ there := nomatch there
  paired _ _ _ _ there := nomatch there

/-- Who changes the state of a call: its own thread, the thread it is paired in, or the
one that removes all calls that wait. -/
theorem TaskStep.state {server : Server} (step : TaskStep layout server self task server' task')
    (calld : Nat) :
    server'.state calld = server.state calld ∨ server'.state calld = .pending ∨
      (self = calld ∧ ∃ matcher startIndex pc, task = .call matcher startIndex pc ∧ pc ≠ .done) ∨
      (∃ queue request, task = .request queue (.matched request calld)) ∨
      ∃ matcher, calld ∈ server.pending matcher ∧ server'.pending matcher = [] := by
  cases step with
  | request step =>
    cases step with
    | @published request paired =>
      by_cases same : calld = paired
      · subst same
        exact .inr (.inr (.inr (.inl ⟨_, _, rfl⟩)))
      · exact .inl (Function.update_of_ne same _ _)
    | _ => exact .inl rfl
  | call step =>
    cases step with
    | refused | published =>
      by_cases same : calld = self
      · exact .inr (.inr (.inl ⟨same.symm, _, _, _, rfl, by nofun⟩))
      · exact .inl (Function.update_of_ne same _ _)
    | queued =>
      by_cases same : calld = self
      · exact .inr (.inl (same ▸ Function.update_self _ _ _))
      · exact .inl (Function.update_of_ne same _ _)
    | _ => exact .inl rfl
  | shutdown step =>
    cases step with
    | @zombified final matcher cq =>
      by_cases waiting : calld ∈ server.pending matcher
      · exact .inr (.inr (.inr (.inr ⟨matcher, waiting, Function.update_self _ _ _⟩)))
      · exact .inl (if_neg waiting)
    | _ => exact .inl rfl

theorem TaskStep.paired {server : Server} {queue : Nat × Nat} {request : Nat}
    (step : TaskStep layout server self task server' (.request queue (.matched request calld))) :
    calld ∈ server.pending queue.1 ∧ server'.state = server.state := by
  cases step with
  | request step =>
    cases step with
    | matched _ calls => exact ⟨calls ▸ List.mem_cons_self, rfl⟩

theorem CallStates.step {layout : Layout} {system system' : System} {action : Action}
    (states : CallStates system) (accounts : CallAccounts system)
    (step : SystemStep layout system action system') : CallStates system' := by
  cases step with
  | spawned fresh =>
    refine ⟨states.waiting, fun index queue request calld there => ?_⟩
    rcases append_cases there with before | ⟨-, rfl⟩
    · exact states.paired index queue request calld before
    · cases fresh
  | createdChannel => exact ⟨states.waiting, states.paired⟩
  | @ran self task task' server' there step =>
    have pairing {tasks : List Task} {index request calld : Nat} {queue : Nat × Nat}
        (at_ : tasks[index]? = some (.request queue (.matched request calld))) :
        1 ≤ total (Task.pairing calld) tasks := by
      have least := le_total (fun task (_ : task ∈ tasks) =>
        task.pairing_nonneg calld) (List.mem_of_getElem? at_)
      rwa [Task.pairing, if_pos rfl] at least
    refine ⟨fun matcher calld waiting => ?_, fun index queue request calld at_ => ?_⟩
    · rcases step.waiting waiting with before | ⟨⟨-, pending⟩, -⟩
      · have alone := accounts.waits before
        rcases step.state calld with same | pending | ⟨rfl, own⟩ | paired | removed
        · exact same.trans (states.waiting matcher calld before)
        · exact pending
        · obtain ⟨matcher', startIndex, pc, rfl, live⟩ := own
          exact absurd (alone.2 _ _ _ there) live
        · obtain ⟨queue, request, rfl⟩ := paired
          have once := pairing there
          omega
        · obtain ⟨other, before', empty⟩ := removed
          obtain ⟨startIndex, pc, at_⟩ := accounts.homed matcher calld before
          obtain ⟨startIndex', pc', at_'⟩ := accounts.homed other calld before'
          cases at_.symm.trans at_'
          rw [empty] at waiting
          cases waiting
      · exact pending
    · rcases set_cases at_ with ⟨rfl, rfl⟩ | ⟨ne, before⟩
      · obtain ⟨waiting, same⟩ := step.paired
        exact (congrFun same calld).trans (states.waiting queue.1 calld waiting)
      · have once := pairing before
        rcases step.state calld with same | pending | ⟨rfl, own⟩ | paired | removed
        · exact same.trans (states.paired index queue request calld before)
        · exact pending
        · obtain ⟨matcher, startIndex, pc, rfl, live⟩ := own
          have none_ := (accounts.pairs self).2 _ _ _ there live
          omega
        · obtain ⟨queue', request', rfl⟩ := paired
          -- Without the step's own pairing there is still this one: it was paired twice.
          have still := pairing ((List.getElem?_set_ne ne).trans before :
            (system.tasks.set self (.shutdown .done))[index]? = _)
          have none_ : Task.pairing calld (.shutdown .done) = 0 := rfl
          rw [total_set there, none_, Task.pairing, if_pos rfl] at still
          have unique := (accounts.pairs calld).1
          omega
        · obtain ⟨other, before', -⟩ := removed
          have none_ := (accounts.waits before').1
          omega

end GrpcCore.Surface.Matching
