import GrpcCore.Iomgr.SerializerSound

/-!
# A work serializer runs every callback once

If no more than one callback is unfinished when `Orphan` is called. Otherwise the thread that
drains the queue takes the last callback for the owner, and leaves it there.
-/

namespace GrpcCore.Iomgr

open Machine

namespace WorkSerializer

/-- Every call has returned. -/
def Quiescent (serializer : WorkSerializer) : Prop := ∀ frames ∈ serializer.threads, frames = []

/-- The events by which the calls that are in progress go on. -/
def Settles (action : Action) : Prop :=
  action.event ≠ .run ∧ action.event ≠ .orphan ∧ action.event ≠ .pop true

/-- The callbacks do not overlap, are started at most once and in the order they were pushed in,
the object is deleted at most once and after the last callback, the calls in progress can go on,
and when they have all returned nothing is left undone. -/
structure RunsOnce (serializer : WorkSerializer) : Prop where
  noOverlap : calls Frame.isExecuting serializer.threads ≤ 1
  passed : ∀ callback ∈ serializer.impl.started, callback < serializer.impl.passed
  once : serializer.impl.started.Nodup
  pushOrder : serializer.impl.started.filter
    (fun callback => callback ∈ serializer.impl.pushed) <+: serializer.impl.pushed
  deletedOnce : serializer.impl.deleted ≤ 1
  deletedLast : serializer.impl.deleted = 1 → serializer.impl.orphaned = true ∧
    ∀ callback < serializer.impl.passed, callback ∈ serializer.impl.finished
  progress : ¬ serializer.Quiescent →
    ∃ action next, Settles action ∧ serializer.step action = some next
  complete : serializer.Quiescent →
    (∀ callback < serializer.impl.passed, serializer.impl.finished.count callback = 1) ∧
      (serializer.impl.deleted = 1 ↔ serializer.impl.orphaned = true)

/-- The callbacks that have been passed and not finished. -/
def unfinished (serializer : WorkSerializer) : Int := serializer.busy + serializer.waiting

/-- `Orphan` is called when at most one callback is unfinished. -/
def Timely (serializer : WorkSerializer) (action : Action) : Prop :=
  action.event = .orphan → serializer.unfinished ≤ 1

instance (serializer : WorkSerializer) (action : Action) : Decidable (Timely serializer action) :=
  inferInstanceAs (Decidable (_ → _))

/-- No callback has been left behind, and none will be. -/
def Kept (serializer : WorkSerializer) : Prop :=
  serializer.impl.orphaned = true → serializer.unfinished ≤ 1 ∧
    (serializer.busy + serializer.popping = 0 → serializer.waiting = 0)

section Step

variable {serializer serializer' : WorkSerializer} {thread : Nat} {frames frames' : List Frame}
  {event : ThreadEvent} {impl' : WorkSerializerImpl}

attribute [local simp] Frame.isBusy Frame.isPopping Frame.isPushing Frame.isExecuting

section

variable (there : serializer.threads[thread]? = some frames)
include there

theorem busy_set : busy ⟨impl', serializer.threads.set thread frames'⟩ =
      serializer.busy - frames.countP Frame.isBusy + frames'.countP Frame.isBusy :=
  calls_set _ there _

theorem popping_set : popping ⟨impl', serializer.threads.set thread frames'⟩ =
      serializer.popping - frames.countP Frame.isPopping + frames'.countP Frame.isPopping :=
  calls_set _ there _

theorem waiting_set : waiting ⟨impl', serializer.threads.set thread frames'⟩ =
      serializer.waiting - frames.countP Frame.isPushing - serializer.impl.queue.length +
        frames'.countP Frame.isPushing + impl'.queue.length := by
  unfold waiting
  rw [calls_set _ there]
  dsimp only
  omega

end

theorem timely_of_ne (other : event ≠ .orphan) : Timely serializer ⟨thread, event⟩ :=
  fun same => absurd same other

theorem kept_congr (orphaned : serializer'.impl.orphaned = serializer.impl.orphaned)
    (busy : serializer'.busy = serializer.busy) (popping : serializer'.popping = serializer.popping)
    (waiting : serializer'.waiting = serializer.waiting) : Kept serializer' ↔ Kept serializer := by
  unfold Kept unfinished
  rw [orphaned, busy, popping, waiting]

theorem kept_owned (owned : serializer.impl.orphaned = false) : Kept serializer := fun orphaned => by
  rw [owned] at orphaned
  cases orphaned

theorem kept_advances (sound : Sound serializer)
    (there : serializer.threads[thread]? = some frames)
    (advances : Advances serializer.impl frames event impl' frames') :
    Kept ⟨impl', serializer.threads.set thread frames'⟩ ↔
      Kept serializer ∧ Timely serializer ⟨thread, event⟩ := by
  have agrees := sound.agrees
  have bounds := And.intro agrees.busy_nonneg
    (And.intro agrees.popping_nonneg agrees.waiting_nonneg)
  have runner := agrees.runner
  cases advances with
  | runs call owned | schedules call owned =>
    exact iff_of_true (kept_owned owned) ⟨kept_owned owned, nofun⟩
  | destroys owned last =>
    have alone := agrees.alone owned last
    refine iff_of_true (fun _ => ?_) ⟨kept_owned owned, fun _ => ?_⟩
    · unfold unfinished
      rw [busy_set there, popping_set there, waiting_set there]
      dsimp only
      omega
    · unfold unfinished
      omega
  | orphans owned other =>
    have runs := agrees.runs owned other
    unfold Kept Timely unfinished
    rw [busy_set there, popping_set there, waiting_set there]
    simp [owned]
    omega
  | pushes =>
    refine Iff.trans ?_ (and_iff_left (timely_of_ne (by nofun))).symm
    refine kept_congr rfl ?_ ?_ ?_
    · simp [busy_set there]
    · simp [popping_set there]
    · simp [waiting_set there, List.countP_cons]
      omega
  | returns =>
    refine Iff.trans ?_ (and_iff_left (timely_of_ne (by nofun))).symm
    refine kept_congr rfl ?_ ?_ ?_
    · simp [busy_set there, List.countP_cons]
    · simp [popping_set there]
    · simp [waiting_set there]
      omega
  | drainsLast | drains | continues =>
    refine Iff.trans ?_ (and_iff_left (timely_of_ne (by nofun))).symm
    have here := countP_le_calls Frame.isBusy there
    have size := agrees.size
    rw [List.countP_cons_of_pos rfl] at here
    refine imp_congr_right fun orphaned => ?_
    rw [if_pos orphaned] at size
    unfold unfinished
    rw [busy_set there, popping_set there, waiting_set there, List.countP_cons_of_pos rfl]
    unfold busy at *
    simp
    omega
  | retries =>
    refine Iff.trans ?_ (and_iff_left (timely_of_ne (by nofun))).symm
    refine kept_congr rfl ?_ ?_ ?_
    · simp [busy_set there]
    · simp [popping_set there]
    · simp [waiting_set there]
      omega
  | pops head =>
    refine Iff.trans ?_ (and_iff_left (timely_of_ne (by nofun))).symm
    have here := countP_le_calls Frame.isPopping there
    rw [List.countP_cons_of_pos rfl] at here
    refine imp_congr_right fun orphaned => ?_
    unfold unfinished
    rw [busy_set there, popping_set there, waiting_set there, head,
      List.countP_cons_of_pos (p := Frame.isPopping) rfl]
    unfold popping at *
    simp [List.countP_cons]
    omega

theorem kept_step (sound : Sound serializer) {action : Action}
    (taken : serializer.step action = some serializer') :
    Kept serializer' ↔ Kept serializer ∧ Timely serializer action := by
  obtain ⟨frames, impl', frames', there, advances, rfl⟩ := step_cases taken
  exact kept_advances sound there advances

theorem step_of_advance (there : serializer.threads[thread]? = some frames)
    (advanced : advance serializer.impl frames event = some (impl', frames')) :
    serializer.step ⟨thread, event⟩ = some ⟨impl', serializer.threads.set thread frames'⟩ := by
  unfold step
  rw [there]
  simp only [Option.bind_eq_bind, Option.bind_some]
  rw [advanced]
  rfl

theorem Sound.push_progress (sound : Sound serializer)
    (entering : 0 < calls Frame.isPushing serializer.threads) :
    ∃ action next, Settles action ∧ serializer.step action = some next := by
  obtain ⟨thread, frames, there, frame, membership, is⟩ := exists_of_calls_pos entering
  cases sound.shaped frames (List.mem_of_getElem? there) with
  | idle => cases membership
  | call =>
    obtain rfl := List.mem_singleton.mp membership
    cases frame with
    | pushing =>
      exact ⟨⟨thread, .push⟩, _, ⟨nofun, nofun, nofun⟩, step_of_advance there rfl⟩
    | _ => cases is
  | nested =>
    exact ⟨⟨thread, .push⟩, _, ⟨nofun, nofun, nofun⟩, step_of_advance there rfl⟩

theorem Sound.progress (sound : Sound serializer) (active : ¬ serializer.Quiescent) :
    ∃ action next, Settles action ∧ serializer.step action = some next := by
  simp only [Quiescent, not_forall] at active
  obtain ⟨frames, membership, nonempty⟩ := active
  obtain ⟨thread, there⟩ := List.getElem?_of_mem membership
  match frames, nonempty with
  | .pushing callback :: frames, _ =>
    exact ⟨⟨thread, .push⟩, _, ⟨nofun, nofun, nofun⟩, step_of_advance there rfl⟩
  | .executing callback :: frames, _ =>
    exact ⟨⟨thread, .return⟩, _, ⟨nofun, nofun, nofun⟩, step_of_advance there rfl⟩
  | .draining :: frames, _ =>
    exact ⟨⟨thread, .drain⟩, _, ⟨nofun, nofun, nofun⟩, step_of_advance there rfl⟩
  | .popping :: frames, _ =>
    cases queued : serializer.impl.queue with
    | cons callback queue =>
      have advanced : advance serializer.impl (.popping :: frames) (.pop false) =
          some ({ serializer.impl with
            queue, started := serializer.impl.started ++ [callback] },
            .executing callback :: frames) := by
        simp only [advance, WorkSerializerImpl.pop, queued, Option.map_some]
      exact ⟨⟨thread, .pop false⟩, _, ⟨nofun, nofun, nofun⟩, step_of_advance there advanced⟩
    | nil =>
      -- the callback that the thread waits for is still to be pushed
      have here := countP_le_calls Frame.isPopping there
      rw [List.countP_cons_of_pos rfl] at here
      have agrees := sound.agrees
      have runner := agrees.runner
      have busy := agrees.busy_nonneg
      have demand := agrees.demand
      unfold waiting at demand
      rw [queued] at demand
      refine sound.push_progress ?_
      unfold WorkSerializer.popping at *
      simp at demand
      omega

def work (serializer : WorkSerializer) : Int :=
  4 * calls Frame.isPushing serializer.threads + 3 * serializer.impl.queue.length +
    serializer.busy + calls Frame.isExecuting serializer.threads

theorem work_nonneg : 0 ≤ serializer.work := by
  have pushing : 0 ≤ calls Frame.isPushing serializer.threads := calls_nonneg _
  have busy : 0 ≤ serializer.busy := calls_nonneg _
  have executing : 0 ≤ calls Frame.isExecuting serializer.threads := calls_nonneg _
  unfold work
  omega

theorem work_lt {action : Action} (taken : serializer.step action = some serializer')
    (settles : Settles action) : serializer'.work < serializer.work := by
  obtain ⟨frames, impl', frames', there, advances, rfl⟩ := step_cases taken
  obtain ⟨thread, event⟩ := action
  obtain ⟨noRun, noOrphan, noRetry⟩ := settles
  unfold work
  rw [busy_set there, calls_set _ there, calls_set _ there]
  cases advances with
  | pushes | returns | drainsLast | drains | continues =>
    simp [List.countP_cons]
    omega
  | pops head =>
    simp [List.countP_cons, head]
    omega
  | runs | schedules => exact absurd rfl noRun
  | destroys | orphans => exact absurd rfl noOrphan
  | retries => exact absurd rfl noRetry

section

variable (sound : Sound serializer)
include sound

theorem Sound.settles : ∃ actions last, (∀ action ∈ actions, Settles action) ∧
      Reach step serializer actions last ∧ last.Quiescent := by
  induction measure : serializer.work.toNat using Nat.strong_induction_on generalizing serializer with
  | _ bound ih =>
    by_cases quiet : serializer.Quiescent
    · exact ⟨[], serializer, nofun, .nil serializer, quiet⟩
    · obtain ⟨action, next, settles, taken⟩ := sound.progress quiet
      have less := work_lt taken settles
      have nonneg : 0 ≤ next.work := work_nonneg
      obtain ⟨actions, last, all, reach, ends⟩ :=
        ih next.work.toNat (by omega) (sound.step taken) rfl
      refine ⟨action :: actions, last, ?_, .cons trivial taken reach, ends⟩
      exact List.forall_mem_cons.mpr ⟨settles, all⟩

theorem Sound.finished (idle : serializer.busy + serializer.popping = 0)
    (empty : serializer.waiting = 0) {callback : Nat} (passed : callback < serializer.impl.passed) :
    serializer.impl.finished.count callback = 1 := by
  have agrees := sound.agrees
  have bounds := And.intro agrees.busy_nonneg agrees.popping_nonneg
  have place := sound.places callback
  have ends := sound.ends callback
  have pushes : calls (Frame.pushes callback) serializer.threads ≤
      calls Frame.isPushing serializer.threads := by
    refine calls_mono fun frame is => ?_
    cases frame with
    | pushing => rfl
    | _ => cases is
  have executes : calls (Frame.executes callback) serializer.threads ≤ serializer.busy := by
    refine calls_mono fun frame is => ?_
    cases frame with
    | executing => rfl
    | _ => cases is
  have pushesNonneg : 0 ≤ calls (Frame.pushes callback) serializer.threads := calls_nonneg _
  have executesNonneg : 0 ≤ calls (Frame.executes callback) serializer.threads := calls_nonneg _
  unfold waiting at empty
  have queued : serializer.impl.queue = [] := List.eq_nil_of_length_eq_zero (by omega)
  rw [queued] at place
  simp only [List.count_nil] at place
  omega

theorem Sound.noOverlap : calls Frame.isExecuting serializer.threads ≤ 1 := by
  have executing : calls Frame.isExecuting serializer.threads ≤ serializer.busy := by
    refine calls_mono fun frame is => ?_
    cases frame with
    | executing => rfl
    | _ => cases is
  have runner := sound.agrees.runner
  have bound := sound.agrees.popping_nonneg
  omega

theorem Sound.started_once : serializer.impl.started.Nodup := by
  refine List.nodup_iff_count_le_one.mpr fun callback => ?_
  have place := sound.places callback
  have nonneg : 0 ≤ calls (Frame.pushes callback) serializer.threads := calls_nonneg _
  split at place <;> omega

theorem Sound.deleted_last (deleted : serializer.impl.deleted = 1) :
    serializer.impl.orphaned = true ∧
      ∀ callback < serializer.impl.passed, callback ∈ serializer.impl.finished := by
  obtain ⟨orphaned, idle, empty⟩ := sound.agrees.gone deleted
  refine ⟨orphaned, fun callback passed => List.count_pos_iff.mp ?_⟩
  rw [sound.finished idle empty passed]
  exact Nat.one_pos

theorem runsOnce_of_kept (kept : Kept serializer) : RunsOnce serializer := by
  have agrees := sound.agrees
  constructor
  case noOverlap => exact sound.noOverlap
  case passed => exact fun callback started => sound.started_known started
  case once => exact sound.started_once
  case pushOrder => exact ⟨serializer.impl.queue, sound.order⟩
  case deletedOnce => exact agrees.once
  case deletedLast => exact sound.deleted_last
  case progress => exact sound.progress
  case complete =>
    intro quiet
    have idle : serializer.busy + serializer.popping = 0 := by
      unfold busy popping
      rw [calls_quiet quiet, calls_quiet quiet]
      rfl
    have empty : serializer.waiting = 0 := by
      cases owned : serializer.impl.orphaned with
      | false => exact agrees.idle owned idle
      | true => exact (kept owned).2 idle
    exact ⟨fun callback passed => sound.finished idle empty passed,
      fun deleted => (agrees.gone deleted).1, fun orphaned => agrees.goes orphaned idle empty⟩

theorem kept_of_runsOnce (quiet : serializer.Quiescent) (runsOnce : RunsOnce serializer) :
    Kept serializer := by
  intro orphaned
  have deleted := (runsOnce.complete quiet).2.mpr orphaned
  obtain ⟨_, idle, empty⟩ := sound.agrees.gone deleted
  have bounds := And.intro sound.agrees.busy_nonneg sound.agrees.popping_nonneg
  unfold unfinished
  omega

end

/-- What is promised holds now, and as the calls in progress return. -/
def Delivers (serializer : WorkSerializer) : Prop :=
  ∀ actions last, (∀ action ∈ actions, Settles action) → Reach step serializer actions last →
    RunsOnce last

theorem Sound.reach (sound : Sound serializer) {actions : List Action}
    (reach : Reach step serializer actions serializer') : Sound serializer' :=
  reach.invariant (fun sound _ taken => sound.step taken) sound

theorem kept_settling (sound : Sound serializer) {actions : List Action}
    (settles : ∀ action ∈ actions, Settles action)
    (reach : Reach step serializer actions serializer') :
    Kept serializer' ↔ Kept serializer := by
  induction reach with
  | nil => rfl
  | cons _ taken _ ih =>
    obtain ⟨first, rest⟩ := List.forall_mem_cons.mp settles
    rw [ih (sound.step taken) rest, kept_step sound taken]
    exact and_iff_left fun orphans => absurd orphans first.2.1

theorem delivers_iff_kept (sound : Sound serializer) : Delivers serializer ↔ Kept serializer := by
  constructor
  · intro delivers
    obtain ⟨actions, last, settles, reach, quiet⟩ := sound.settles
    have kept := kept_of_runsOnce (sound.reach reach) quiet (delivers actions last settles reach)
    exact (kept_settling sound settles reach).mp kept
  · intro kept actions last settles reach
    exact runsOnce_of_kept (sound.reach reach) ((kept_settling sound settles reach).mpr kept)

end Step

/-- Every callback is run once, in exactly the runs in which at most one callback is unfinished
when `Orphan` is called. -/
theorem delivers_iff_timely (threads : Nat) (actions : List Action) (final : WorkSerializer) :
    Run step Timely (created threads) actions final ↔
      Reach step (created threads) actions final ∧
        ∀ done later, actions = done ++ later → ∀ middle,
          Reach step (created threads) done middle → Delivers middle := by
  refine Run.iff_always (fun (sound : Sound _) taken => sound.step taken) ?_
    (Sound.created threads) ?_ actions final
  · intro serializer action serializer' sound delivers taken
    rw [delivers_iff_kept (sound.step taken), kept_step sound taken]
    exact and_iff_right ((delivers_iff_kept sound).mp delivers)
  · exact (delivers_iff_kept (Sound.created threads)).mpr (kept_owned rfl)

/-- A second callback waits in the queue when the owner goes. -/
def orphanedEarly : List Action :=
  [⟨0, .run⟩, ⟨1, .run⟩, ⟨1, .push⟩, ⟨1, .orphan⟩, ⟨0, .return⟩, ⟨0, .drain⟩]

/-- Every call has returned, the second callback has not run, and the object is not deleted. -/
theorem callback_lost :
    ∃ serializer, Reach step (created 2) orphanedEarly serializer ∧ ¬ RunsOnce serializer := by
  obtain ⟨serializer, reach, seen⟩ := exists_reach step (created 2) orphanedEarly
    (fun serializer => (serializer.threads, serializer.impl.passed, serializer.impl.finished))
    ([[], []], 2, [0]) (by decide)
  obtain ⟨threads, seen⟩ := Prod.mk.inj seen
  obtain ⟨passed, finished⟩ := Prod.mk.inj seen
  refine ⟨serializer, reach, fun runsOnce => ?_⟩
  have quiet : serializer.Quiescent := by
    unfold Quiescent
    rw [threads]
    decide
  have last := (runsOnce.complete quiet).1 1 (by rw [passed]; decide)
  rw [finished] at last
  cases last

/-- In every run, whenever the owner goes: callbacks do not overlap, each is started at most once
and in the order of the pushes, the calls in progress can go on, the object is deleted at most
once and with no callback left, and until the owner goes nothing at all is lost. -/
theorem runs_safely {threads : Nat} {actions : List Action} {serializer : WorkSerializer}
    (reach : Reach step (created threads) actions serializer) :
    calls Frame.isExecuting serializer.threads ≤ 1 ∧ serializer.impl.started.Nodup ∧
      serializer.impl.started.filter (fun callback => callback ∈ serializer.impl.pushed) <+:
        serializer.impl.pushed ∧
      (¬ serializer.Quiescent → ∃ action next, Settles action ∧ serializer.step action = some next) ∧
      serializer.impl.deleted ≤ 1 ∧
      (serializer.impl.deleted = 1 → serializer.impl.orphaned = true ∧
        ∀ callback < serializer.impl.passed, callback ∈ serializer.impl.finished) ∧
      (serializer.impl.orphaned = false → RunsOnce serializer) := by
  have sound : Sound serializer :=
    reach.invariant (fun sound _ taken => Sound.step sound taken) (Sound.created threads)
  exact ⟨sound.noOverlap, sound.started_once, ⟨_, sound.order⟩, sound.progress, sound.agrees.once,
    sound.deleted_last, fun owned => runsOnce_of_kept sound (kept_owned owned)⟩

theorem runs_safely_lost : ∃ serializer : WorkSerializer, serializer.impl.finished = [0] ∧
    serializer.impl.started.Nodup := by
  obtain ⟨serializer, reach, finished⟩ :=
    exists_reach step (created 2) orphanedEarly (·.impl.finished) [0] (by decide)
  exact ⟨serializer, finished, (runs_safely reach).2.1⟩

end WorkSerializer

end GrpcCore.Iomgr
