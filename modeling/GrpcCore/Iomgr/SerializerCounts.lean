import GrpcCore.Iomgr.WorkSerializer

/-!
# What the size of a work serializer counts

The size stands for the callbacks that are unfinished, and for the owner until `Orphan`. A
thread that has found the size at one runs callbacks until it gives up the last of them.
-/

namespace GrpcCore.Iomgr

open Ledger WorkSerializerImpl

inductive Advances (impl : WorkSerializerImpl) :
    List Frame → ThreadEvent → WorkSerializerImpl → List Frame → Prop where
  | runs {frames} (call : atCall frames = true) (owned : impl.orphaned = false)
      (first : impl.size = 1) :
      Advances impl frames .run
        { impl with
          size := impl.size + 1
          passed := impl.passed + 1
          started := impl.started ++ [impl.passed] }
        (.executing impl.passed :: frames)
  | schedules {frames} (call : atCall frames = true) (owned : impl.orphaned = false)
      (busy : impl.size ≠ 1) :
      Advances impl frames .run { impl with size := impl.size + 1, passed := impl.passed + 1 }
        (.pushing impl.passed :: frames)
  | destroys {frames} (owned : impl.orphaned = false) (last : impl.size = 1) :
      Advances impl frames .orphan
        { impl with size := impl.size - 1, orphaned := true, deleted := impl.deleted + 1 } frames
  | orphans {frames} (owned : impl.orphaned = false) (busy : impl.size ≠ 1) :
      Advances impl frames .orphan { impl with size := impl.size - 1, orphaned := true } frames
  | pushes {callback frames} :
      Advances impl (.pushing callback :: frames) .push
        { impl with queue := impl.queue ++ [callback], pushed := impl.pushed ++ [callback] } frames
  | returns {callback frames} :
      Advances impl (.executing callback :: frames) .return
        { impl with finished := impl.finished ++ [callback] } (.draining :: frames)
  | drainsLast {frames} (last : impl.size = 1) :
      Advances impl (.draining :: frames) .drain
        { impl with size := impl.size - 1, deleted := impl.deleted + 1 } frames
  | drains {frames} (drained : impl.size = 2) :
      Advances impl (.draining :: frames) .drain { impl with size := impl.size - 1 } frames
  | continues {frames} (more : impl.size ≠ 1) (queued : impl.size ≠ 2) :
      Advances impl (.draining :: frames) .drain { impl with size := impl.size - 1 }
        (.popping :: frames)
  | retries {frames} : Advances impl (.popping :: frames) (.pop true) impl (.popping :: frames)
  | pops {frames callback queue} (head : impl.queue = callback :: queue) :
      Advances impl (.popping :: frames) (.pop false)
        { impl with queue, started := impl.started ++ [callback] } (.executing callback :: frames)

theorem advances_of_advance {impl impl' : WorkSerializerImpl} {frames frames' : List Frame}
    {event : ThreadEvent} (taken : advance impl frames event = some (impl', frames')) :
    Advances impl frames event impl' frames' := by
  unfold advance at taken
  split at taken
  case h_1 =>
    obtain ⟨⟨call, owned⟩, taken⟩ := Option.ite_none_right_eq_some.mp taken
    cases taken
    by_cases first : impl.size = 1
    · simp only [run, if_pos first]
      exact .runs call owned first
    · simp only [run, if_neg first]
      exact .schedules call owned first
  case h_2 =>
    obtain ⟨⟨call, owned⟩, taken⟩ := Option.ite_none_right_eq_some.mp taken
    cases taken
    by_cases last : impl.size = 1
    · simp only [orphan, if_pos last]
      exact .destroys owned last
    · simp only [orphan, if_neg last]
      exact .orphans owned last
  case h_3 =>
    cases taken
    exact .pushes
  case h_4 =>
    cases taken
    exact .returns
  case h_5 =>
    cases taken
    by_cases last : impl.size = 1
    · simp only [drainQueue, if_pos last]
      exact .drainsLast last
    · by_cases drained : impl.size = 2
      · simp only [drainQueue, if_neg last, if_pos drained]
        exact .drains drained
      · simp only [drainQueue, if_neg last, if_neg drained]
        exact .continues last drained
  case h_6 =>
    cases taken
    exact .retries
  case h_7 =>
    obtain ⟨⟨impl', callback⟩, popped, taken⟩ := Option.map_eq_some_iff.mp taken
    cases taken
    unfold pop at popped
    split at popped
    case h_1 => cases popped
    case h_2 head =>
      cases popped
      exact .pops head
  case h_8 => cases taken

namespace Frame

def isBusy : Frame → Bool
  | executing _ => true
  | draining => true
  | _ => false

def isPopping : Frame → Bool
  | popping => true
  | _ => false

def isPushing : Frame → Bool
  | pushing _ => true
  | _ => false

def isExecuting : Frame → Bool
  | executing _ => true
  | _ => false

def pushes (callback : Nat) : Frame → Bool
  | pushing callback' => callback' == callback
  | _ => false

def executes (callback : Nat) : Frame → Bool
  | executing callback' => callback' == callback
  | _ => false

end Frame

/-- How many calls of a kind are in progress on all threads. -/
def calls (kind : Frame → Bool) (threads : List (List Frame)) : Int :=
  total (fun frames => (frames.countP kind : Int)) threads

section Calls

variable (kind : Frame → Bool) {threads : List (List Frame)}

theorem calls_nonneg : 0 ≤ calls kind threads :=
  total_nonneg fun _ _ => Int.natCast_nonneg _

theorem calls_set {thread : Nat} {frames : List Frame} (there : threads[thread]? = some frames)
    (frames' : List Frame) :
    calls kind (threads.set thread frames') =
      calls kind threads - frames.countP kind + frames'.countP kind :=
  total_set there frames'

theorem countP_le_calls {thread : Nat} {frames : List Frame}
    (there : threads[thread]? = some frames) : (frames.countP kind : Int) ≤ calls kind threads :=
  le_total (fun _ _ => Int.natCast_nonneg _) (List.mem_of_getElem? there)

variable {kind}

theorem calls_mono {wider : Frame → Bool} (implies : ∀ frame, kind frame = true → wider frame = true) :
    calls kind threads ≤ calls wider threads :=
  total_mono threads fun _ =>
    Int.ofNat_le.mpr (List.countP_mono_left fun frame _ => implies frame)

theorem calls_quiet (quiet : ∀ frames ∈ threads, frames = []) : calls kind threads = 0 := by
  refine List.sum_eq_zero fun count membership => ?_
  obtain ⟨frames, member, rfl⟩ := List.mem_map.mp membership
  rw [quiet frames member]
  rfl

theorem exists_of_calls_pos (positive : 0 < calls kind threads) :
    ∃ (thread : Nat) (frames : List Frame), threads[thread]? = some frames ∧
      ∃ frame ∈ frames, kind frame = true := by
  by_contra none
  have zero : calls kind threads = 0 := by
    refine List.sum_eq_zero fun count membership => ?_
    obtain ⟨frames, member, rfl⟩ := List.mem_map.mp membership
    obtain ⟨thread, there⟩ := List.getElem?_of_mem member
    refine Int.natCast_eq_zero.mpr (List.countP_eq_zero.mpr fun frame in_ is => ?_)
    exact none ⟨thread, frames, there, frame, in_, is⟩
  omega

end Calls

/-- The size and the deletion, against the numbers of threads that run callbacks or look for the
next one and of callbacks that wait. -/
structure Agrees (impl : WorkSerializerImpl) (busy popping waiting : Int) : Prop where
  busy_nonneg : 0 ≤ busy
  popping_nonneg : 0 ≤ popping
  waiting_nonneg : 0 ≤ waiting
  size : (impl.size : Int) = (if impl.orphaned = true then 0 else 1) + busy + waiting
  runner : busy + popping ≤ 1
  demand : popping = 1 → 1 ≤ waiting
  idle : impl.orphaned = false → busy + popping = 0 → waiting = 0
  gone : impl.deleted = 1 → impl.orphaned = true ∧ busy + popping = 0 ∧ waiting = 0
  goes : impl.orphaned = true → busy + popping = 0 → waiting = 0 → impl.deleted = 1
  once : impl.deleted ≤ 1

namespace Agrees

variable {impl : WorkSerializerImpl} {busy popping waiting : Int}

section

variable (agrees : Agrees impl busy popping waiting)
include agrees

theorem size_owned (owned : impl.orphaned = false) : (impl.size : Int) = 1 + busy + waiting := by
  have size := agrees.size
  rw [owned] at size
  exact size

theorem deleted_owned (owned : impl.orphaned = false) : impl.deleted = 0 := by
  have once := agrees.once
  by_contra some_
  have gone := agrees.gone (by omega)
  rw [owned] at gone
  cases gone.1

theorem deleted_running (runs : 1 ≤ busy + popping) : impl.deleted = 0 := by
  have once := agrees.once
  by_contra some_
  have gone := agrees.gone (by omega)
  omega

theorem congr {impl' : WorkSerializerImpl} {busy' popping' waiting' : Int}
    (size : impl'.size = impl.size) (orphaned : impl'.orphaned = impl.orphaned)
    (deleted : impl'.deleted = impl.deleted) (sameBusy : busy' = busy)
    (samePopping : popping' = popping) (sameWaiting : waiting' = waiting) :
    Agrees impl' busy' popping' waiting' := by
  subst sameBusy samePopping sameWaiting
  constructor
  case size =>
    rw [size, orphaned]
    exact agrees.size
  case idle =>
    rw [orphaned]
    exact agrees.idle
  case gone =>
    rw [deleted, orphaned]
    exact agrees.gone
  case goes =>
    rw [deleted, orphaned]
    exact agrees.goes
  case once => exact deleted ▸ agrees.once
  all_goals first
    | exact agrees.busy_nonneg
    | exact agrees.popping_nonneg
    | exact agrees.waiting_nonneg
    | exact agrees.runner
    | exact agrees.demand

theorem alone (owned : impl.orphaned = false) (first : impl.size = 1) :
    busy = 0 ∧ popping = 0 ∧ waiting = 0 := by
  have size := agrees.size_owned owned
  have demand := agrees.demand
  have bounds := And.intro agrees.busy_nonneg (And.intro agrees.popping_nonneg agrees.waiting_nonneg)
  have runner := agrees.runner
  omega

theorem runs (owned : impl.orphaned = false) (other : impl.size ≠ 1) : busy + popping = 1 := by
  have size := agrees.size_owned owned
  have idle := agrees.idle owned
  have bounds := And.intro agrees.busy_nonneg (And.intro agrees.popping_nonneg agrees.waiting_nonneg)
  have runner := agrees.runner
  omega

end

end Agrees

end GrpcCore.Iomgr
