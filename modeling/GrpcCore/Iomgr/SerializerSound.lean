import GrpcCore.Iomgr.SerializerCounts

/-!
# The invariant of a work serializer

At most one thread runs callbacks, and every callback that has been passed is in one place: on
its way to the queue, in the queue, or started.
-/

namespace GrpcCore.Iomgr

open Ledger

/-- The calls of one thread: one of `Run`, or a callback that calls it. -/
inductive Shaped : List Frame → Prop where
  | idle : Shaped []
  | call (frame : Frame) : Shaped [frame]
  | nested (callback running : Nat) : Shaped [.pushing callback, .executing running]

namespace WorkSerializer

def busy (serializer : WorkSerializer) : Int := calls Frame.isBusy serializer.threads

def popping (serializer : WorkSerializer) : Int := calls Frame.isPopping serializer.threads

def waiting (serializer : WorkSerializer) : Int :=
  calls Frame.isPushing serializer.threads + serializer.impl.queue.length

structure Sound (serializer : WorkSerializer) : Prop where
  shaped : ∀ frames ∈ serializer.threads, Shaped frames
  agrees : Agrees serializer.impl serializer.busy serializer.popping serializer.waiting
  places : ∀ callback, (serializer.impl.started.count callback : Int) +
    serializer.impl.queue.count callback + calls (Frame.pushes callback) serializer.threads =
      if callback < serializer.impl.passed then 1 else 0
  ends : ∀ callback, (serializer.impl.started.count callback : Int) =
    serializer.impl.finished.count callback +
      calls (Frame.executes callback) serializer.threads
  order : serializer.impl.started.filter (fun callback => callback ∈ serializer.impl.pushed) ++
    serializer.impl.queue = serializer.impl.pushed

theorem step_cases {serializer serializer' : WorkSerializer} {action : Action}
    (taken : serializer.step action = some serializer') :
    ∃ frames impl' frames', serializer.threads[action.thread]? = some frames ∧
      Advances serializer.impl frames action.event impl' frames' ∧
      serializer' = ⟨impl', serializer.threads.set action.thread frames'⟩ := by
  obtain ⟨frames, there, taken⟩ := Option.bind_eq_some_iff.mp taken
  obtain ⟨⟨impl', frames'⟩, advanced, taken⟩ := Option.bind_eq_some_iff.mp taken
  cases taken
  exact ⟨frames, impl', frames', there, advances_of_advance advanced, rfl⟩

namespace Sound

variable {serializer : WorkSerializer} {thread : Nat} {frames frames' : List Frame}
  {event : ThreadEvent} {impl' : WorkSerializerImpl}

attribute [local simp] Frame.isBusy Frame.isPopping Frame.isPushing

section

variable (sound : Sound serializer) (there : serializer.threads[thread]? = some frames)
  (advances : Advances serializer.impl frames event impl' frames')
include sound there advances

theorem agrees_step :
    Agrees impl' (WorkSerializer.busy ⟨impl', serializer.threads.set thread frames'⟩)
      (WorkSerializer.popping ⟨impl', serializer.threads.set thread frames'⟩)
      (WorkSerializer.waiting ⟨impl', serializer.threads.set thread frames'⟩) := by
  have agrees := sound.agrees
  have busy := countP_le_calls Frame.isBusy there
  have popping := countP_le_calls Frame.isPopping there
  have pushing := countP_le_calls Frame.isPushing there
  unfold WorkSerializer.busy WorkSerializer.popping WorkSerializer.waiting at agrees ⊢
  simp only [calls_set _ there]
  cases advances with
  | runs call owned first =>
    have alone := agrees.alone owned first
    have none := agrees.deleted_owned owned
    constructor <;> simp [owned, none, List.countP_cons] <;> omega
  | schedules call owned other =>
    have runs := agrees.runs owned other
    have size := agrees.size_owned owned
    have none := agrees.deleted_owned owned
    constructor <;> simp [owned, none, List.countP_cons] <;> omega
  | destroys owned last =>
    have alone := agrees.alone owned last
    have none := agrees.deleted_owned owned
    constructor <;> simp [none, last] <;> omega
  | orphans owned other =>
    have runs := agrees.runs owned other
    have size := agrees.size_owned owned
    have none := agrees.deleted_owned owned
    constructor <;> simp [none] <;> omega
  | pushes =>
    refine agrees.congr rfl rfl rfl ?_ ?_ ?_
    · simp
    · simp
    · simp [List.countP_cons]
      omega
  | returns =>
    refine agrees.congr rfl rfl rfl ?_ ?_ ?_
    · simp [List.countP_cons]
    · simp
    · simp
  | drainsLast last =>
    rw [List.countP_cons_of_pos rfl] at busy
    have size := agrees.size
    have none := agrees.deleted_running (by omega)
    have runner := agrees.runner
    cases owned : serializer.impl.orphaned with
    | false =>
      rw [owned] at size
      simp at size
      omega
    | true =>
      constructor <;> simp [none, last, List.countP_cons] <;> omega
  | drains | continues =>
    rw [List.countP_cons_of_pos rfl] at busy
    have size := agrees.size
    have none := agrees.deleted_running (by omega)
    have runner := agrees.runner
    cases owned : serializer.impl.orphaned with
    | false | true =>
      rw [owned] at size
      simp at size
      constructor <;> simp [*, List.countP_cons] <;> omega
  | retries =>
    refine agrees.congr rfl rfl rfl ?_ ?_ ?_
    · simp
    · simp [List.countP_cons]
    · simp
  | pops head =>
    rw [List.countP_cons_of_pos rfl] at popping
    have size := agrees.size
    have runner := agrees.runner
    have none := agrees.deleted_running (by omega)
    have bounds := And.intro agrees.busy_nonneg agrees.waiting_nonneg
    rw [head] at size bounds
    simp at size bounds
    constructor <;> simp [none, List.countP_cons] <;> omega

theorem shaped_step : ∀ frames ∈ serializer.threads.set thread frames', Shaped frames := by
  have shape := sound.shaped frames (List.mem_of_getElem? there)
  have new : Shaped frames' := by
    cases advances with
    | runs call owned first =>
      have alone := sound.agrees.alone owned first
      cases shape with
      | idle => exact .call _
      | call frame =>
        have here := countP_le_calls Frame.isBusy there
        cases frame with
        | executing =>
          rw [List.countP_cons_of_pos rfl] at here
          exact absurd alone.1 (by unfold WorkSerializer.busy; omega)
        | _ => cases call
      | nested => cases call
    | schedules call =>
      cases shape with
      | idle => exact .call _
      | call frame =>
        cases frame with
        | executing callback => exact .nested _ callback
        | _ => cases call
      | nested => cases call
    | destroys => exact shape
    | orphans => exact shape
    | pushes =>
      cases shape with
      | call => exact .idle
      | nested _ running => exact .call (.executing running)
    | returns =>
      cases shape with
      | call => exact .call .draining
    | drainsLast | drains =>
      cases shape with
      | call => exact .idle
    | continues =>
      cases shape with
      | call => exact .call .popping
    | retries => exact shape
    | pops =>
      cases shape with
      | call => exact .call _
  intro frames'' membership
  rcases List.mem_or_eq_of_mem_set membership with old | rfl
  · exact sound.shaped frames'' old
  · exact new

end

attribute [local simp] Frame.pushes Frame.executes

section

variable (sound : Sound serializer) (there : serializer.threads[thread]? = some frames)
  (advances : Advances serializer.impl frames event impl' frames') (callback : Nat)
include sound there advances callback

theorem places_step : (impl'.started.count callback : Int) + impl'.queue.count callback +
      calls (Frame.pushes callback) (serializer.threads.set thread frames') =
        if callback < impl'.passed then 1 else 0 := by
  have before := sound.places callback
  rw [calls_set _ there]
  cases advances with
  | runs | schedules =>
    rcases Nat.lt_trichotomy callback serializer.impl.passed with old | rfl | later
    · simp [Nat.lt_succ_of_lt old, old.ne']
      omega
    · simp at before ⊢
      omega
    · simp [later.ne]
      omega
  | @pushes other _ =>
    rw [← before]
    by_cases same : other = callback
    · simp [same]
      omega
    · simp [same]
  | @pops _ other _ head =>
    rw [← before, head]
    by_cases same : other = callback
    · simp [same]
      omega
    · simp [same]
  | _ =>
    rw [← before]
    simp

theorem ends_step : (impl'.started.count callback : Int) = impl'.finished.count callback +
      calls (Frame.executes callback) (serializer.threads.set thread frames') := by
  have before := sound.ends callback
  rw [calls_set _ there]
  cases advances with
  | runs =>
    by_cases same : serializer.impl.passed = callback
    · simp [same]
      omega
    · simp [same]
      omega
  | @pops _ other _ head | @returns other _ =>
    by_cases same : other = callback
    · simp [same]
      omega
    · simp [same]
      omega
  | _ =>
    rw [before]
    simp

end

section

variable (sound : Sound serializer)
include sound

theorem known {callback : Nat} (positive : 0 < (serializer.impl.started.count callback : Int) +
      serializer.impl.queue.count callback + calls (Frame.pushes callback) serializer.threads) :
    callback < serializer.impl.passed := by
  rw [sound.places callback] at positive
  by_contra unknown
  rw [if_neg unknown] at positive
  cases positive

theorem started_known {callback : Nat} (started : callback ∈ serializer.impl.started) :
    callback < serializer.impl.passed := by
  have positive := List.count_pos_iff.mpr started
  have nonneg : 0 ≤ calls (Frame.pushes callback) serializer.threads := calls_nonneg _
  exact sound.known (by omega)

theorem pushed_known {callback : Nat} (pushed : callback ∈ serializer.impl.pushed) :
    callback < serializer.impl.passed := by
  have nonneg : 0 ≤ calls (Frame.pushes callback) serializer.threads := calls_nonneg _
  rw [← sound.order] at pushed
  rcases List.mem_append.mp pushed with started | queued
  · exact sound.started_known (List.mem_filter.mp started).1
  · have positive := List.count_pos_iff.mpr queued
    exact sound.known (by omega)

theorem order_step (there : serializer.threads[thread]? = some frames)
    (advances : Advances serializer.impl frames event impl' frames') :
    impl'.started.filter (fun callback => callback ∈ impl'.pushed) ++ impl'.queue =
      impl'.pushed := by
  have order := sound.order
  cases advances with
  | runs =>
    have new : serializer.impl.passed ∉ serializer.impl.pushed := fun pushed =>
      Nat.lt_irrefl _ (sound.pushed_known pushed)
    rw [List.filter_append, List.filter_singleton, decide_eq_false new]
    simpa using order
  | @pushes callback _ =>
    have here := countP_le_calls (Frame.pushes callback) there
    rw [List.countP_cons_of_pos (by simp [Frame.pushes])] at here
    have place := sound.places callback
    have new : callback ∉ serializer.impl.started := by
      intro started
      have positive := List.count_pos_iff.mpr started
      split at place <;> omega
    have same : serializer.impl.started.filter
        (fun started => started ∈ serializer.impl.pushed ++ [callback]) =
          serializer.impl.started.filter (fun started => started ∈ serializer.impl.pushed) := by
      refine List.filter_congr fun started membership => ?_
      have ne : started ≠ callback := by
        rintro rfl
        exact new membership
      simp [ne]
    rw [same, ← List.append_assoc, order]
  | @pops _ callback queue head =>
    have pushed : callback ∈ serializer.impl.pushed := by
      rw [← order, head]
      exact List.mem_append_right _ (List.mem_cons_self ..)
    rw [head] at order
    rw [List.filter_append, List.filter_singleton, decide_eq_true pushed]
    simpa using order
  | _ => exact order

end

protected theorem step (sound : Sound serializer) {serializer' : WorkSerializer} {action : Action}
    (taken : serializer.step action = some serializer') : Sound serializer' := by
  obtain ⟨frames, impl', frames', there, advances, rfl⟩ := step_cases taken
  exact ⟨sound.shaped_step there advances, sound.agrees_step there advances,
    sound.places_step there advances, sound.ends_step there advances,
    sound.order_step there advances⟩

theorem created (threads : Nat) : Sound (.created threads) := by
  have quiet : ∀ frames ∈ (WorkSerializer.created threads).threads, frames = [] :=
    fun frames membership => List.eq_of_mem_replicate membership
  have none (kind : Frame → Bool) : calls kind (WorkSerializer.created threads).threads = 0 :=
    calls_quiet quiet
  refine ⟨fun frames membership => ?_, ?_, fun callback => ?_, fun callback => ?_, rfl⟩
  · rw [quiet frames membership]
    exact .idle
  · unfold WorkSerializer.busy WorkSerializer.popping WorkSerializer.waiting
    rw [none, none, none]
    constructor <;> simp [WorkSerializer.created, WorkSerializerImpl.created]
  · rw [none]
    simp [WorkSerializer.created, WorkSerializerImpl.created]
  · rw [none]
    simp [WorkSerializer.created, WorkSerializerImpl.created]

end Sound

end WorkSerializer

end GrpcCore.Iomgr
