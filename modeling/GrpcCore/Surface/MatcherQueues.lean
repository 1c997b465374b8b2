import GrpcCore.Lib.Ledger
import GrpcCore.Surface.RequestMatcher

/-!
# The request queues of the matchers

What a task's step can do to a request queue, and what every queue holds between
steps: requests of its own tasks, with an unlinked push only where its task is still
to link it.
-/

namespace GrpcCore.Surface.Matching

open Gprpp LockedMpscq

def RequestPc.pushed : RequestPc → Bool
  | .checking | .pushing => false
  | _ => true

inductive Touches (self : Nat) (task task' : Task) (queue : Nat × Nat)
    (before : LockedMpscq Nat) : LockedMpscq Nat → Prop where
  | same (idle : ∀ prev, task ≠ .request queue (.linking prev)) :
      Touches self task task' queue before before
  | pulled (idle : ∀ prev, task ≠ .request queue (.linking prev)) {after : LockedMpscq Nat}
      {pulled : Pulled Nat} (pulls : before.Pulls after pulled) :
      Touches self task task' queue before after
  | exchanged (pushing : task = .request queue .pushing)
      (linking : task' = .request queue (.linking (before.exchange self).2)) :
      Touches self task task' queue before (before.exchange self).1
  | linked {prev : Node Nat} (linking : task = .request queue (.linking prev)) :
      Touches self task task' queue before (before.link self)

variable {queue : Nat × Nat}

theorem Touches.of_write {self : Nat} {task task' : Task}
    {queues queues' : Nat × Nat → LockedMpscq Nat}
    (others : ∀ other ≠ queue, queues' other = queues other)
    (elsewhere : ∀ other ≠ queue, ∀ prev, task ≠ .request other (.linking prev))
    (here : Touches self task task' queue (queues queue) (queues' queue)) (other : Nat × Nat) :
    Touches self task task' other (queues other) (queues' other) := by
  by_cases same : other = queue
  · rw [same]
    exact here
  · rw [others other same]
    exact .same (elsewhere other same)

variable {server server' : Server}

theorem TaskStep.touches {layout : Layout} {self : Nat} {task task' : Task}
    (step : TaskStep layout server self task server' task')
    (valid : ∀ queue, (server.requestsPerCq queue).Valid) (queue : Nat × Nat) :
    Touches self task task' queue (server.requestsPerCq queue) (server'.requestsPerCq queue) := by
  have write {at_ : Nat × Nat} {requests : LockedMpscq Nat} {task task' : Task}
      (elsewhere : ∀ other ≠ at_, ∀ prev, task ≠ .request other (.linking prev))
      (here : Touches self task task' at_ (server.requestsPerCq at_) requests) :
      Touches self task task' queue (server.requestsPerCq queue)
        ((server.setQueue at_ requests).requestsPerCq queue) := by
    refine Touches.of_write (fun other ne => server.setQueue_of_ne ne _) elsewhere ?_ queue
    rw [Server.setQueue_self]
    exact here
  have popped {at_ : Nat × Nat} {requests : LockedMpscq Nat} {pulled : Pulled Nat}
      (taken : (server.requestsPerCq at_).pop self = some (requests, pulled)) :=
    (pop_pulls (valid at_) taken).1
  cases step with
  | request step =>
    cases step with
    | failed | accepted | nothingPending | locked | published | killedZombie => exact .same nofun
    | exchanged => exact write (by nofun) (.exchanged rfl rfl)
    | linkedFirst | linked =>
      refine write ?_ (.linked rfl)
      rintro other ne prev ⟨⟩
      exact ne rfl
    | working taken | foundEmpty taken | matched taken =>
      exact write (by nofun) (.pulled (by nofun) (popped taken))
  | call step =>
    cases step with
    | refused | accepted | slowPath | locked | queued | published => exact .same nofun
    | trying _ taken | tried _ taken =>
      exact write (by nofun) (.pulled (by nofun) (tryPop_pulls (valid _) taken))
    | working _ taken | foundEmpty _ taken | found _ taken =>
      exact write (by nofun) (.pulled (by nofun) (popped taken))
  | shutdown step =>
    cases step with
    | working _ taken | foundEmpty _ taken | failed _ taken =>
      exact write (by nofun) (.pulled (by nofun) (popped taken))
    | _ => exact .same nofun

structure Queues (system : System) : Prop where
  valid : ∀ queue, (system.server.requestsPerCq queue).Valid
  linking : ∀ queue prev request, (system.server.requestsPerCq queue).Unlinked prev request →
    system.tasks[request]? = some (.request queue (.linking prev))
  homed : ∀ queue request, request ∈ (system.server.requestsPerCq queue).contents →
    ∃ pc, system.tasks[request]? = some (.request queue pc) ∧ pc.pushed = true

theorem Server.RequestStep.pushed {self : Nat} {pc pc' : RequestPc}
    (step : server.RequestStep self queue pc server' pc') (pushed : pc.pushed = true) :
    pc'.pushed = true := by
  cases step <;> first | rfl | cases pushed

theorem TaskStep.pushed {layout : Layout} {self : Nat} {task' : Task} {pc : RequestPc}
    (step : TaskStep layout server self (.request queue pc) server' task')
    (pushed : pc.pushed = true) : ∃ pc', task' = .request queue pc' ∧ pc'.pushed = true := by
  cases step with
  | request step => exact ⟨_, rfl, step.pushed pushed⟩

theorem queues_init : Queues {} where
  valid _ := valid_init
  linking _ _ _ there := nomatch there
  homed _ _ there := nomatch there

theorem getElem?_spawn {system : System} {index : Nat} {task new : Task}
    (there : system.tasks[index]? = some task) : (system.spawn new).tasks[index]? = some task := by
  rw [System.spawn, List.getElem?_append_left (List.getElem?_eq_some_iff.mp there).1]
  exact there

theorem Queues.step {layout : Layout} {system system' : System} {action : Action}
    (queues : Queues system) (step : SystemStep layout system action system') :
    Queues system' := by
  cases step with
  | spawned fresh =>
    refine ⟨queues.valid, ?_, ?_⟩
    · exact fun queue prev request there => getElem?_spawn (queues.linking queue prev request there)
    · intro queue request there
      obtain ⟨pc, at_, pushed⟩ := queues.homed queue request there
      exact ⟨pc, getElem?_spawn at_, pushed⟩
  | createdChannel => exact ⟨queues.valid, queues.linking, queues.homed⟩
  | @ran self task task' server' there step =>
    have touches := step.touches queues.valid
    have bound : self < system.tasks.length := (List.getElem?_eq_some_iff.mp there).1
    have stays {queue : Nat × Nat} {request : Nat} {pc : RequestPc}
        (at_ : system.tasks[request]? = some (.request queue pc)) (pushed : pc.pushed = true) :
        ∃ pc', (system.tasks.set self task')[request]? = some (.request queue pc') ∧
          pc'.pushed = true := by
      by_cases same : self = request
      · subst same
        obtain rfl := Option.mem_unique there at_
        obtain ⟨pc', rfl, pushed'⟩ := step.pushed pushed
        exact ⟨pc', List.getElem?_set_self bound, pushed'⟩
      · exact ⟨pc, (List.getElem?_set_ne same).trans at_, pushed⟩
    have untouched {queue : Nat × Nat} {prev : Node Nat} {request : Nat}
        (unlinked : (system.server.requestsPerCq queue).Unlinked prev request)
        (other : request ≠ self) :
        (system.tasks.set self task')[request]? = some (.request queue (.linking prev)) :=
      (List.getElem?_set_ne other.symm).trans (queues.linking queue prev request unlinked)
    have not_self {queue : Nat × Nat} {prev : Node Nat} {request : Nat}
        (idle : ∀ prev, task ≠ .request queue (.linking prev))
        (unlinked : (system.server.requestsPerCq queue).Unlinked prev request) :
        request ≠ self := by
      rintro rfl
      have at_ := queues.linking queue prev request unlinked
      exact idle prev (Option.mem_unique there at_)
    have absent {queue : Nat × Nat} (pushing : task = .request queue .pushing) :
        self ∉ (system.server.requestsPerCq queue).contents := by
      intro member
      obtain ⟨pc, at_, pushed⟩ := queues.homed queue self member
      obtain rfl := pushing
      cases Option.mem_unique there at_
      cases pushed
    refine ⟨fun queue => ?_, fun queue prev request unlinked => ?_, fun queue request member => ?_⟩
    · have before := queues.valid queue
      have touched := touches queue
      generalize server'.requestsPerCq queue = after at touched ⊢
      cases touched with
      | same => exact before
      | pulled _ pulls => exact pulls.valid
      | exchanged pushing => exact before.exchange (absent pushing)
      | linked => exact before.link _
    · have touched := touches queue
      generalize server'.requestsPerCq queue = after at touched unlinked
      cases touched with
      | same idle => exact untouched unlinked (not_self idle unlinked)
      | pulled idle pulls =>
        have earlier := pulls.unlinked unlinked
        exact untouched earlier (not_self idle earlier)
      | exchanged pushing linking =>
        rcases unlinked_exchange.mp unlinked with earlier | ⟨rfl, rfl⟩
        · refine untouched earlier (not_self ?_ earlier)
          rw [pushing]
          nofun
        · rw [List.getElem?_set_self bound, linking]
      | linked =>
        obtain ⟨earlier, other⟩ := unlinked_link.mp unlinked
        exact untouched earlier other
    · have kept (member : request ∈ (system.server.requestsPerCq queue).contents) :
          ∃ pc, (system.tasks.set self task')[request]? = some (.request queue pc) ∧
            pc.pushed = true := by
        obtain ⟨pc, at_, pushed⟩ := queues.homed queue request member
        exact stays at_ pushed
      have touched := touches queue
      generalize server'.requestsPerCq queue = after at touched member
      cases touched with
      | same => exact kept member
      | pulled _ pulls => exact kept (pulls.contents_subset member)
      | exchanged pushing linking =>
        rw [contents_exchange, List.mem_append, List.mem_singleton] at member
        rcases member with earlier | rfl
        · exact kept earlier
        · exact ⟨_, by rw [List.getElem?_set_self bound, linking], rfl⟩
      | linked =>
        rw [contents_link] at member
        exact kept member

end GrpcCore.Surface.Matching
