import GrpcCore.Surface.MatcherQueues

/-!
# The accounts of requested calls

A requested call is still to be queued, in its queue, in the hands of one thread, or
completed, and in one of these once.
-/

namespace GrpcCore.Surface.Matching

open Gprpp Server LockedMpscq RequestPc Ledger

def Task.held : Task → Option Nat
  | .request _ (.matched rc _) => some rc
  | .call _ _ (.publishing _ rc) => some rc
  | _ => none

def Task.holding (rc : Nat) (task : Task) : Int := if task.held = some rc then 1 else 0

def RequestPc.owed (pc : RequestPc) : Int := if pc.pushed then 0 else 1

def Task.owes (self rc : Nat) : Task → Int
  | .request _ pc => if self = rc then pc.owed else 0
  | _ => 0

theorem Task.owes_of_ne {self rc : Nat} (ne : self ≠ rc) (task : Task) : task.owes self rc = 0 := by
  cases task with
  | request => exact if_neg ne
  | call | shutdown => rfl

def Server.settled (server : Server) (queue : Nat × Nat) (request : Nat) : Int :=
  (server.requestsPerCq queue).contents.count request +
    server.completions.countP (·.request == request)

/-- How often the request is in its queue, completed, or in the hands of a thread. -/
def System.placed (system : System) (queue : Nat × Nat) (request : Nat) : Int :=
  Ledger.total (Task.holding request) system.tasks + system.server.settled queue request

namespace Server

variable (server : Server) {queue : Nat × Nat}

@[simp]
theorem settled_endOp (at_ : Nat × Nat) (completion : Completion) (request : Nat) :
    (server.endOp completion).settled at_ request =
      server.settled at_ request + if completion.request = request then 1 else 0 := by
  by_cases same : completion.request = request <;>
    simp [settled, endOp, List.countP_append, same, ← Int.add_assoc]

@[simp]
theorem settled_setState (call : Nat) (state : CallState) (at_ : Nat × Nat) (request : Nat) :
    (server.setState call state).settled at_ request = server.settled at_ request := rfl

variable {server} {requests : LockedMpscq Nat}

theorem settled_setQueue (at_ : Nat × Nat) (request : Nat)
    (same : (server.requestsPerCq queue).contents = requests.contents) :
    (server.setQueue queue requests).settled at_ request = server.settled at_ request := by
  by_cases here : at_ = queue
  · subst here
    simp only [settled, setQueue_self, same]
    rfl
  · simp only [settled, setQueue_of_ne server here]
    rfl

theorem settled_pushed (server : Server) (queue : Nat × Nat) (pushed : Nat) (at_ : Nat × Nat)
    (request : Nat) (mine : pushed = request → queue = at_) :
    (server.setQueue queue ((server.requestsPerCq queue).exchange pushed).1).settled at_ request =
      server.settled at_ request + if pushed = request then 1 else 0 := by
  by_cases here : at_ = queue
  · subst here
    have kept : (server.setQueue at_ ((server.requestsPerCq at_).exchange pushed).1).completions =
      server.completions := rfl
    simp only [settled, setQueue_self, contents_exchange, List.count_append,
      List.count_singleton, beq_iff_eq, kept]
    by_cases same : pushed = request <;> simp only [same, if_true, if_false] <;> omega
  · have other : pushed ≠ request := fun same => here (mine same).symm
    simp only [settled, setQueue_of_ne server here, if_neg other, add_zero]
    rfl

theorem settled_taken {at_ : Nat × Nat} {request taken : Nat}
    (home : ∀ other, request ∈ (server.requestsPerCq other).contents → other = at_)
    (first : (server.requestsPerCq queue).contents = taken :: requests.contents) :
    (server.setQueue queue requests).settled at_ request + (if taken = request then 1 else 0) =
      server.settled at_ request := by
  by_cases here : at_ = queue
  · subst here
    have kept : (server.setQueue at_ requests).completions = server.completions := rfl
    simp only [settled, setQueue_self, first, List.count_cons, beq_iff_eq, kept]
    by_cases same : taken = request <;> simp only [same, if_true, if_false] <;> omega
  · have other : taken ≠ request := by
      rintro rfl
      refine here (home queue ?_).symm
      rw [first]
      exact List.mem_cons_self
    simp only [settled, setQueue_of_ne server here, if_neg other, add_zero]
    rfl

end Server

theorem TaskStep.conserves {layout : Layout} {server server' : Server} {self : Nat}
    {task task' : Task} (step : TaskStep layout server self task server' task')
    (valid : ∀ queue, (server.requestsPerCq queue).Valid) {at_ : Nat × Nat} {request : Nat}
    (home : ∀ other, request ∈ (server.requestsPerCq other).contents → other = at_)
    (mine : ∀ queue pc, self = request → task = .request queue pc → queue = at_)
    (active : ∀ queue request call, task = .request queue (.matched request call) →
      server.state call = .pending) :
    task'.owes self request + task'.holding request + server'.settled at_ request =
      task.owes self request + task.holding request + server.settled at_ request := by
  have unmoved {queue : Nat × Nat} {requests : LockedMpscq Nat} {pulled : Pulled Nat}
      (pulls : (server.requestsPerCq queue).Pulls requests pulled)
      (nothing : ∀ element, pulled ≠ .got (some element)) :
      (server.setQueue queue requests).settled at_ request = server.settled at_ request := by
    rcases pulls.contents with ⟨same, -⟩ | ⟨element, got, -⟩
    · exact settled_setQueue at_ request same
    · exact absurd got (nothing element)
  have moved {queue : Nat × Nat} {requests : LockedMpscq Nat} {taken : Nat}
      (pulls : (server.requestsPerCq queue).Pulls requests (.got (some taken))) :
      (server.setQueue queue requests).settled at_ request + (if taken = request then 1 else 0) =
        server.settled at_ request := by
    rcases pulls.contents with ⟨-, nothing⟩ | ⟨element, got, first⟩
    · exact absurd rfl (nothing taken)
    · cases got
      exact settled_taken home first
  have popped {queue : Nat × Nat} {requests : LockedMpscq Nat} {pulled : Pulled Nat}
      (taken : (server.requestsPerCq queue).pop self = some (requests, pulled)) :=
    (pop_pulls (valid queue) taken).1
  have open_ {queue : Nat × Nat} {pc : RequestPc} (pushed : pc.pushed = true) :
      (Task.request queue pc).owes self request = 0 := by
    simp only [Task.owes, owed, pushed, if_true, ite_self]
  cases step with
  | @request queue _ _ _ step =>
    cases step with
    | failed =>
      rw [open_ rfl, settled_endOp]
      simp only [Task.owes, Task.holding, Task.held, owed, RequestPc.pushed, reduceCtorEq,
        if_false]
      omega
    | accepted => rfl
    | exchanged =>
      rw [open_ rfl]
      have moved := settled_pushed server queue self at_ request
        fun same => mine queue .pushing same rfl
      simp only [Task.owes, Task.holding, Task.held, owed, RequestPc.pushed, reduceCtorEq,
        if_false, moved]
      omega
    | linkedFirst | linked =>
      rw [open_ rfl, open_ rfl, settled_setQueue at_ request]
      · rfl
      · exact (contents_link _ _).symm
    | nothingPending | locked =>
      rfl
    | working taken => rw [open_ rfl, unmoved (popped taken) nofun]
    | foundEmpty taken =>
      have kept := unmoved (popped taken) nofun
      rw [open_ rfl, open_ rfl, ← kept]
      rfl
    | @matched requests _ _ _ taken =>
      have left := moved (popped taken)
      change _ + (server.setQueue queue requests).settled at_ request = _
      rw [open_ rfl, open_ rfl, ← left]
      simp only [Task.holding, Task.held, Option.some.injEq, reduceCtorEq, if_false]
      omega
    | published =>
      rw [open_ rfl, open_ rfl, settled_endOp, settled_setState]
      simp only [Task.holding, Task.held, Option.some.injEq, reduceCtorEq, if_false]
      omega
    | killedZombie zombied => exact absurd (active queue _ _ rfl) zombied
  | call step =>
    cases step with
    | trying _ taken next =>
      have pulls := tryPop_pulls (valid _) taken
      rcases next with ⟨rfl, rfl⟩ | ⟨rfl, rfl⟩ <;> exact congrArg _ (unmoved pulls nofun)
    | tried _ taken =>
      have left := moved (tryPop_pulls (valid _) taken)
      simp only [Task.owes, Task.holding, Task.held, Option.some.injEq, reduceCtorEq, if_false,
        ← left]
      omega
    | working _ taken | foundEmpty _ taken => exact congrArg _ (unmoved (popped taken) nofun)
    | @found _ _ requests _ taken =>
      have left := moved (popped taken)
      change _ + (server.setQueue _ requests).settled at_ request = _
      simp only [Task.owes, Task.holding, Task.held, Option.some.injEq, reduceCtorEq, if_false,
        ← left]
      omega
    | published =>
      rw [settled_endOp, settled_setState]
      simp only [Task.owes, Task.holding, Task.held, Option.some.injEq, reduceCtorEq, if_false]
      omega
    | _ => rfl
  | shutdown step =>
    cases step with
    | working _ taken | foundEmpty _ taken => exact congrArg _ (unmoved (popped taken) nofun)
    | failed _ taken =>
      have left := moved (popped taken)
      rw [settled_endOp, left]
    | _ => rfl

theorem TaskStep.request_iff {layout : Layout} {server server' : Server} {self : Nat}
    {task task' : Task} (step : TaskStep layout server self task server' task')
    {queue : Nat × Nat} :
    (∃ pc, task' = .request queue pc) ↔ ∃ pc, task = .request queue pc := by
  cases step with
  | request => simp
  | call | shutdown => exact iff_of_false nofun nofun

/-- A requested call is in exactly one place, and what is not one is in none. -/
structure RequestAccounts (system : System) : Prop where
  own : ∀ request queue pc, system.tasks[request]? = some (.request queue pc) →
    pc.owed + system.placed queue request = 1
  strange : ∀ request, (∀ queue pc, system.tasks[request]? ≠ some (.request queue pc)) →
    ∀ queue, system.placed queue request = 0

theorem requestAccounts_init : RequestAccounts {} where
  own _ _ _ there := nomatch there
  strange _ _ _ := rfl

theorem Task.Fresh.holding {task : Task} (fresh : task.Fresh) (request : Nat) :
    task.holding request = 0 := by
  cases fresh <;> rfl

theorem RequestAccounts.step {layout : Layout} {system system' : System} {action : Action}
    (accounts : RequestAccounts system) (queues : Queues system)
    (active : ∀ (index : Nat) queue request call,
      system.tasks[index]? = some (.request queue (.matched request call)) →
      system.server.state call = .pending)
    (step : SystemStep layout system action system') : RequestAccounts system' := by
  cases step with
  | @spawned _ task fresh =>
    have kept (queue : Nat × Nat) (request : Nat) :
        (system.spawn task).placed queue request = system.placed queue request := by
      simp only [System.placed, System.spawn, total_append_singleton, fresh.holding,
        Int.add_zero]
    refine ⟨fun request queue pc there => ?_, fun request none_ queue => ?_⟩
    · rw [kept]
      rcases append_cases there with before | ⟨rfl, rfl⟩
      · exact accounts.own request queue pc before
      · cases fresh
        rw [accounts.strange _ fun _ _ => by simp]
        rfl
    · rw [kept]
      refine accounts.strange request (fun queue pc before => ?_) queue
      exact none_ queue pc (getElem?_spawn before)
  | createdChannel => exact ⟨accounts.own, accounts.strange⟩
  | @ran self task task' server' there step =>
    have bound : self < system.tasks.length := (List.getElem?_eq_some_iff.mp there).1
    have here : (system.tasks.set self task')[self]? = some task' := List.getElem?_set_self bound
    have conserved (queue : Nat × Nat) {request : Nat}
        (home : ∀ other, request ∈ (system.server.requestsPerCq other).contents → other = queue)
        (mine : ∀ other pc, self = request → task = .request other pc → other = queue) :
        task'.owes self request +
            (⟨server', system.tasks.set self task'⟩ : System).placed queue request =
          task.owes self request + system.placed queue request := by
      have moved := step.conserves queues.valid home mine
        fun queue request call same => active self queue request call (same ▸ there)
      have total : Ledger.total (Task.holding request) (system.tasks.set self task') = _ :=
        total_set there task'
      simp only [System.placed]
      omega
    have home {queue : Nat × Nat} {request : Nat} {pc : RequestPc}
        (at_ : system.tasks[request]? = some (.request queue pc)) (other : Nat × Nat)
        (member : request ∈ (system.server.requestsPerCq other).contents) : other = queue := by
      obtain ⟨pc', at_', -⟩ := queues.homed other request member
      cases at_.symm.trans at_'
      rfl
    refine ⟨fun request queue pc at_ => ?_, fun request none_ queue => ?_⟩
    · rcases set_cases at_ with ⟨rfl, rfl⟩ | ⟨ne, before⟩
      · obtain ⟨pc₀, rfl⟩ := step.request_iff.mp ⟨pc, rfl⟩
        have conserved := conserved queue (home there) (by rintro _ _ _ ⟨⟩; rfl)
        have own := accounts.own self queue pc₀ there
        simp only [Task.owes, if_true] at conserved
        omega
      · have conserved := conserved queue (home before) fun _ _ same => absurd same ne
        have own := accounts.own request queue pc before
        rw [Task.owes_of_ne ne, Task.owes_of_ne ne] at conserved
        omega
    · have stranger (queue : Nat × Nat) (pc : RequestPc) :
          system.tasks[request]? ≠ some (.request queue pc) := by
        intro before
        by_cases same : self = request
        · subst same
          obtain rfl := Option.mem_unique there before
          obtain ⟨pc', rfl⟩ := step.request_iff.mpr ⟨pc, rfl⟩
          exact none_ queue pc' here
        · exact none_ queue pc ((List.getElem?_set_ne same).trans before)
      have notOwed {task : Task} (at_ : self = request → ∀ queue pc, task ≠ .request queue pc) :
          task.owes self request = 0 := by
        cases task with
        | request queue pc =>
          rw [Task.owes, if_neg]
          exact fun same => at_ same queue pc rfl
        | call | shutdown => rfl
      have owes : task.owes self request = 0 := notOwed fun same queue pc is_ =>
        stranger queue pc (same ▸ is_ ▸ there)
      have owes' : task'.owes self request = 0 := notOwed fun same queue pc is_ =>
        none_ queue pc (same ▸ is_ ▸ here)
      have nowhere : ∀ other, request ∈ (system.server.requestsPerCq other).contents →
          other = queue := by
        intro other member
        obtain ⟨pc, at_, _⟩ := queues.homed other request member
        exact absurd at_ (stranger other pc)
      have conserved := conserved queue nowhere
        (fun other pc same is_ => absurd (same ▸ is_ ▸ there) (stranger other pc))
      have none_ := accounts.strange request stranger queue
      omega

end GrpcCore.Surface.Matching
