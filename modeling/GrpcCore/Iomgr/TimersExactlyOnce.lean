import GrpcCore.Iomgr.TimersOnTime

/-!
# Timers fire exactly once

What every step of the timer list keeps to, and the one check that misses a
timer: at infinity, in a shard that already expects nothing before infinity.
-/

namespace GrpcCore.Iomgr.Timers

/-- The timers that are held by the shards. -/
def TimerList.pendingTimers (timers : TimerList) : List Timer :=
  timers.shards.flatMap Shard.timers

variable {timer : Timer}

theorem mem_pendingTimers {timers : TimerList} :
    timer ∈ timers.pendingTimers ↔
      ∃ (i : Nat) (shard : Shard), timers.shards[i]? = some shard ∧ timer ∈ shard.timers := by
  rw [TimerList.pendingTimers, List.mem_flatMap]
  constructor
  · rintro ⟨shard, membership, held⟩
    obtain ⟨i, there⟩ := List.mem_iff_getElem?.mp membership
    exact ⟨i, shard, there, held⟩
  · rintro ⟨i, shard, there, held⟩
    exact ⟨shard, List.mem_of_getElem? there, held⟩

theorem total_heldCount (timer : Timer) (shards : List Shard) :
    Ledger.total (heldCount timer) shards = (shards.flatMap Shard.timers).count timer := by
  induction shards with
  | nil => rfl
  | cons shard shards ih =>
    rw [List.flatMap_cons, List.count_append, Int.natCast_add, ← ih]
    rfl

/-! ## What a step keeps to -/

def Action.clock : Action → Option Int
  | .timerInit now _ => some now
  | .timerCancel _ => none
  | .runSomeExpiredTimers now _ _ _ => some now

/-- A closure scheduled by a step: with success only once its deadline has come, and as
cancelled only by a cancel while pending. -/
def Scheduled (timers : TimerList) (action : Action) (firing : Firing) : Prop :=
  (firing.verdict = .success → ∃ now, action.clock = some now ∧ firing.timer.deadline ≤ now) ∧
    (firing.verdict = .cancelled →
      action = .timerCancel firing.timer.address ∧ firing.timer ∈ timers.pendingTimers)

/-- A step and what it leaves. Every timer set so far is pending or has been
scheduled, as often as it was set. The deadlines given back pass no pending timer
by more than a millisecond, a check leaves none that has expired, and at infinity
none at all. -/
structure Sound (timers : TimerList) (action : Action) (timers' : TimerList) : Prop where
  once : ∀ timer, timers'.started.count timer =
    (timers'.scheduled.map Firing.timer).count timer + timers'.pendingTimers.count timer
  flags : ∀ address, timers'.pending address = true ↔
    ∃ timer ∈ timers'.pendingTimers, timer.address = address
  firings : ∃ new, timers'.scheduled = timers.scheduled ++ new ∧
    ∀ firing ∈ new, Scheduled timers action firing
  minTimer : ∀ timer ∈ timers'.pendingTimers, timers'.minTimer ≤ timer.deadline + 1
  next : ∀ now next error gotLock, action = .runSomeExpiredTimers now (some next) error gotLock →
    (runSomeExpiredTimers timers now (some next) error gotLock).2.1 ≠ .notChecked →
    ∃ next', (runSomeExpiredTimers timers now (some next) error gotLock).2.2 = some next' ∧
      ∀ timer ∈ timers'.pendingTimers, next' ≤ timer.deadline + 1
  checked : ∀ now next error, action = .runSomeExpiredTimers now next error true →
    timers.minTimer ≤ now → ∀ timer ∈ timers'.pendingTimers, now ≤ timer.deadline
  shutdown : ∀ next error, action = .runSomeExpiredTimers infFuture next error true →
    timers'.pendingTimers = []

/-- A check at infinity finds no timer in a shard that expects nothing before infinity.
There such a timer has the last deadline before infinity, which is the shard's cap. -/
def Covered (timers : TimerList) (action : Action) : Prop :=
  ∀ next error, action = .runSomeExpiredTimers infFuture next error true →
    ∀ shard ∈ timers.shards, shard.minDeadline = infFuture → shard.timers = []

variable {now : Int}

section Consistent

variable {timers : TimerList}

section

variable (consistent : Consistent timers)
include consistent

theorem Consistent.once (timer : Timer) : timers.started.count timer =
      (timers.scheduled.map Firing.timer).count timer + timers.pendingTimers.count timer := by
  have account := consistent.accounts timer
  rw [total_heldCount] at account
  exact Int.ofNat_inj.mp account

theorem Consistent.flags (address : Nat) :
    timers.pending address = true ↔ ∃ timer ∈ timers.pendingTimers, timer.address = address := by
  constructor
  · intro pending
    obtain ⟨shard, there⟩ := consistent.shard_of address
    have held := ((consistent.good there).holds.flags address rfl).mp pending
    obtain ⟨timer, held, same⟩ := List.mem_map.mp held
    exact ⟨timer, mem_pendingTimers.mpr ⟨_, shard, there, held⟩, same⟩
  · rintro ⟨timer, held, rfl⟩
    obtain ⟨i, shard, there, held⟩ := mem_pendingTimers.mp held
    have holds := (consistent.good there).holds
    exact (holds.flags _ (holds.hashed timer held)).mpr (List.mem_map_of_mem held)

theorem Consistent.minTimer_le_deadline (pending : timer ∈ timers.pendingTimers) :
    timers.minTimer ≤ timer.deadline + 1 := by
  obtain ⟨i, shard, there, held⟩ := mem_pendingTimers.mp pending
  have good := consistent.good there
  exact Int.le_trans (consistent.minTimer_le there) (good.bounded.le_deadline good.sorted held)

theorem Consistent.minTimer_le_infFuture : timers.minTimer ≤ infFuture := by
  obtain ⟨shard, there⟩ := consistent.first
  exact Int.le_trans (consistent.minTimer_le there) (consistent.good there).bounded.le_infFuture

theorem Consistent.atClock (clock : now ≤ infFuture) :
    Consistent { timers with now := now } := { consistent with now_le := clock }

theorem Consistent.tightened : Consistent { timers with minTimer := timers.firstDeadline } :=
  { consistent with minTimer_le := fun _ _ there => consistent.firstDeadline_le there }

end

end Consistent

/-! ## One check -/

/-- How a check goes: it finds nothing to do, leaves it to the one that has the
lock, or looks at the shards. -/
inductive Check (timers : TimerList) (now : Int) (next : Option Int) (verdict : Verdict) :
    Bool → TimerList × CheckResult × Option Int → Prop where
  | early {gotLock : Bool} (before : now < timers.minTimer) :
      Check timers now next verdict gotLock
        ({ timers with now := now }, .checkedAndEmpty, next.map (min · timers.minTimer))
  | busy : Check timers now next verdict false ({ timers with now := now }, .notChecked, next)
  | locked {timers' : TimerList} {result : CheckResult} (reached : timers.minTimer ≤ now)
      (checked : Checked { timers with now := now } now verdict timers') :
      Check timers now next verdict true
        ({ timers' with minTimer := timers'.firstDeadline }, result,
          next.map (min · timers'.firstDeadline))

theorem runSomeExpiredTimers_check {timers : TimerList} (consistent : Consistent timers)
    (clock : now ≤ infFuture) (next : Option Int) (error gotLock : Bool) :
    Check timers now next (if error then .error else .success) gotLock
      (runSomeExpiredTimers timers now next error gotLock) := by
  rw [runSomeExpiredTimers]
  generalize (if error then Verdict.error else Verdict.success) = verdict
  split
  next before => exact .early before
  next reached =>
    have reached := Int.not_lt.mp reached
    cases gotLock with
    | false => exact .busy
    | true =>
      exact .locked reached (checkShards_checked clock _ _ (consistent.atClock clock) reached
        List.countP_le_length)

theorem Check.consistent {timers : TimerList} {now : Int} {next : Option Int} {verdict : Verdict}
    {gotLock : Bool} {outcome : TimerList × CheckResult × Option Int}
    (check : Check timers now next verdict gotLock outcome) (consistent : Consistent timers)
    (clock : now ≤ infFuture) : Consistent outcome.1 := by
  cases check with
  | early => exact consistent.atClock clock
  | busy => exact consistent.atClock clock
  | locked _ checked => exact checked.consistent.tightened

variable {shard : Shard}

theorem expired_of_not_due (bounded : shard.Bounded) (sorted : shard.Sorted)
    (finite : now < infFuture) (not_due : shardDue shard.minDeadline now = false)
    (held : timer ∈ shard.timers) : now ≤ timer.deadline := by
  have le := bounded.le_deadline sorted held
  rw [shardDue_eq_false] at not_due
  omega

theorem minDeadline_of_not_due (bounded : shard.Bounded)
    (not_due : shardDue shard.minDeadline infFuture = false) : shard.minDeadline = infFuture :=
  Int.le_antisymm bounded.le_infFuture (shardDue_eq_false.mp not_due).1

theorem not_due_infFuture (nothing : shard.minDeadline = infFuture) :
    shardDue shard.minDeadline infFuture = false := by
  rw [shardDue_eq_false]
  omega

variable {timers' : TimerList} {verdict : Verdict}

theorem Checked.empties {timers : TimerList} (checked : Checked timers infFuture verdict timers')
    (covered : ∀ shard ∈ timers.shards, shard.minDeadline = infFuture → shard.timers = []) :
    timers'.pendingTimers = [] := by
  refine List.eq_nil_iff_forall_not_mem.mpr fun timer pending => ?_
  obtain ⟨i, shard, there, held⟩ := mem_pendingTimers.mp pending
  have good := checked.consistent.good there
  rcases checked.looked_at there with before | later
  · have nothing := minDeadline_of_not_due good.bounded (checked.not_due there)
    have empty := covered shard (List.mem_of_getElem? before) nothing
    rw [empty] at held
    exact absurd held List.not_mem_nil
  · exact absurd (later timer held) (Int.not_lt.mpr (Int.le_of_lt (good.sorted.finite timer held)))

theorem Checked.covered {timers : TimerList} (checked : Checked timers infFuture verdict timers')
    (empty : timers'.pendingTimers = []) :
    ∀ shard ∈ timers.shards, shard.minDeadline = infFuture → shard.timers = [] := by
  intro shard membership nothing
  obtain ⟨i, there⟩ := List.mem_iff_getElem?.mp membership
  have still := checked.spared there (not_due_infFuture nothing)
  refine List.eq_nil_iff_forall_not_mem.mpr fun timer held => ?_
  have pending : timer ∈ timers'.pendingTimers := mem_pendingTimers.mpr ⟨i, shard, still, held⟩
  rw [empty] at pending
  exact absurd pending List.not_mem_nil

theorem Checked.not_expired {timers : TimerList} (checked : Checked timers now verdict timers')
    (finite : now < infFuture) : ∀ timer ∈ timers'.pendingTimers, now ≤ timer.deadline := by
  intro timer pending
  obtain ⟨i, shard, there, held⟩ := mem_pendingTimers.mp pending
  have good := checked.consistent.good there
  exact expired_of_not_due good.bounded good.sorted finite (checked.not_due there) held

/-! ## Every step -/

variable {action : Action}

theorem Consistent.step {timers : TimerList} (consistent : Consistent timers)
    (taken : step timers action = some timers') : Consistent timers' := by
  cases action with
  | timerInit =>
    obtain ⟨⟨_, clock, unset, finite⟩, rfl⟩ := Option.ite_some_none_eq_some.mp taken
    exact timerInit_consistent consistent clock unset finite
  | timerCancel address =>
    obtain rfl := Option.some.inj taken
    exact (timerCancel_cancelled consistent address).consistent consistent
  | runSomeExpiredTimers now next error gotLock =>
    obtain ⟨⟨_, clock⟩, rfl⟩ := Option.ite_some_none_eq_some.mp taken
    exact (runSomeExpiredTimers_check consistent clock next error gotLock).consistent consistent
      clock

theorem timerInit_scheduled (timers : TimerList) (now : Int) (timer : Timer) :
    (timerInit timers now timer).scheduled = timers.scheduled ∨
      timer.deadline ≤ now ∧
        (timerInit timers now timer).scheduled = timers.scheduled ++ [⟨timer, .success⟩] := by
  rw [timerInit]
  dsimp only
  split
  · exact .inl rfl
  · split
    next expired => exact .inr ⟨expired, rfl⟩
    next =>
      split
      · split
        · split <;> exact .inl rfl
        · exact .inl rfl
      · exact .inl rfl

theorem scheduled_of_step {timers : TimerList} (consistent : Consistent timers)
    (taken : step timers action = some timers') :
    ∃ new, timers'.scheduled = timers.scheduled ++ new ∧
      ∀ firing ∈ new, Scheduled timers action firing := by
  have nothing : ∃ new, timers.scheduled = timers.scheduled ++ new ∧
      ∀ firing ∈ new, Scheduled timers action firing :=
    ⟨[], (List.append_nil _).symm, fun _ held => absurd held List.not_mem_nil⟩
  cases action with
  | timerInit now timer =>
    obtain ⟨-, rfl⟩ := Option.ite_some_none_eq_some.mp taken
    rcases timerInit_scheduled timers now timer with same | ⟨expired, scheduled⟩
    · rw [same]
      exact nothing
    · refine ⟨_, scheduled, fun firing held => ?_⟩
      obtain rfl := List.mem_singleton.mp held
      exact ⟨fun _ => ⟨now, rfl, expired⟩, fun cancelled => nomatch cancelled⟩
  | timerCancel address =>
    obtain rfl := Option.some.inj taken
    have cancelled := timerCancel_cancelled consistent address
    generalize timerCancel timers address = timers' at cancelled
    cases cancelled with
    | idle => exact nothing
    | @taken shard shard' timer there same perm =>
      refine ⟨_, rfl, fun firing held => ?_⟩
      obtain rfl := List.mem_singleton.mp held
      refine ⟨fun success => (nomatch success), fun _ => ⟨by rw [← same], ?_⟩⟩
      exact mem_pendingTimers.mpr
        ⟨_, shard, there, perm.mem_iff.mpr (List.mem_append_left _ (List.mem_singleton.mpr rfl))⟩
  | runSomeExpiredTimers now next error gotLock =>
    obtain ⟨⟨_, clock⟩, rfl⟩ := Option.ite_some_none_eq_some.mp taken
    have check := runSomeExpiredTimers_check consistent clock next error gotLock
    generalize runSomeExpiredTimers timers now next error gotLock = outcome at check
    have not_cancelled : (if error then Verdict.error else .success) ≠ .cancelled := by
      cases error <;> decide
    cases check with
    | early => exact nothing
    | busy => exact nothing
    | locked _ checked =>
      obtain ⟨popped, due, scheduled⟩ := checked.fired
      refine ⟨_, scheduled, fun firing held => ?_⟩
      obtain ⟨timer, was_popped, rfl⟩ := List.mem_map.mp held
      exact ⟨fun _ => ⟨now, rfl, due timer was_popped⟩,
        fun cancelled => absurd cancelled not_cancelled⟩

theorem sound_iff_covered {timers : TimerList} (consistent : Consistent timers)
    (taken : step timers action = some timers') :
    Sound timers action timers' ↔ Covered timers action := by
  have after := consistent.step taken
  constructor
  · rintro sound next error rfl
    obtain ⟨⟨_, clock⟩, taken⟩ := Option.ite_none_right_eq_some.mp taken
    have empty := sound.shutdown next error rfl
    obtain rfl := Option.some.inj taken
    have check := runSomeExpiredTimers_check consistent clock next error true
    generalize runSomeExpiredTimers timers infFuture next error true = outcome at check empty
    cases check with
    | early before => exact absurd before (Int.not_lt.mpr consistent.minTimer_le_infFuture)
    | locked _ checked => exact checked.covered empty
  · intro covered
    refine ⟨after.once, after.flags, scheduled_of_step consistent taken,
      fun _ => after.minTimer_le_deadline, ?_, ?_, ?_⟩
    · rintro now next error gotLock rfl answered
      obtain ⟨⟨_, clock⟩, rfl⟩ := Option.ite_some_none_eq_some.mp taken
      have check := runSomeExpiredTimers_check consistent clock (some next) error gotLock
      generalize runSomeExpiredTimers timers now (some next) error gotLock = outcome
        at check answered after
      cases check with
      | early | locked =>
        exact ⟨_, rfl, fun timer pending =>
          Int.le_trans (Int.min_le_right _ _) (after.minTimer_le_deadline pending)⟩
      | busy => exact absurd rfl answered
    · rintro now next error rfl reached
      obtain ⟨⟨_, clock⟩, rfl⟩ := Option.ite_some_none_eq_some.mp taken
      have check := runSomeExpiredTimers_check consistent clock next error true
      generalize runSomeExpiredTimers timers now next error true = outcome at check
      cases check with
      | early before => exact absurd before (Int.not_lt.mpr reached)
      | locked _ checked =>
        rcases Int.lt_or_eq_of_le clock with finite | rfl
        · exact checked.not_expired finite
        · have empty := checked.empties (covered next error rfl)
          intro timer pending
          exact absurd (empty ▸ pending : timer ∈ []) List.not_mem_nil
    · rintro next error rfl
      obtain ⟨⟨_, clock⟩, rfl⟩ := Option.ite_some_none_eq_some.mp taken
      have check := runSomeExpiredTimers_check consistent clock next error true
      generalize runSomeExpiredTimers timers infFuture next error true = outcome at check
      cases check with
      | early before => exact absurd before (Int.not_lt.mpr consistent.minTimer_le_infFuture)
      | locked _ checked => exact checked.empties (covered next error rfl)

/-! ## Every run -/

theorem timerListInit_consistent {stats : List (Nat → QueueWindow)} (some_shard : 0 < stats.length)
    (clock : now ≤ infFuture) : Consistent (timerListInit now stats) := by
  have shard_eq {i : Nat} {shard : Shard}
      (there : (timerListInit now stats).shards[i]? = some shard) :
      shard.heap = [] ∧ shard.list = [] ∧ shard.queueDeadlineCap = now ∧
        shard.minDeadline = saturatingAdd now 1 := by
    obtain ⟨stats, -, rfl⟩ := List.mem_map.mp (List.mem_of_getElem? there)
    exact ⟨rfl, rfl, rfl, rfl⟩
  have empty : (timerListInit now stats).pendingTimers = [] := by
    refine List.eq_nil_iff_forall_not_mem.mpr fun timer pending => ?_
    obtain ⟨i, shard, there, held⟩ := mem_pendingTimers.mp pending
    obtain ⟨heap, list, -⟩ := shard_eq there
    rw [Shard.timers, heap, list] at held
    exact absurd held List.not_mem_nil
  have same {i : Nat} (bound : i < stats.length) :
      minDeadlineOf (timerListInit now stats).shards i = saturatingAdd now 1 := by
    have there : i < (timerListInit now stats).shards.length := by
      simpa [timerListInit] using bound
    rw [minDeadlineOf_of_mem (List.getElem?_eq_getElem there)]
    exact (shard_eq (List.getElem?_eq_getElem there)).2.2.2
  refine ⟨by simpa [timerListInit] using some_shard, ?_, ?_, ?_, ?_, ?_, clock⟩
  · intro i shard there
    obtain ⟨heap, list, cap, minDeadline⟩ := shard_eq there
    have nothing : shard.timers = [] := by rw [Shard.timers, heap, list]; rfl
    refine ⟨⟨heap ▸ BinaryHeap.Ordered.nil, ?_, ?_, ?_, cap ▸ clock⟩, ⟨?_, ?_⟩, ⟨?_, ?_, ?_⟩⟩
    · exact fun timer held => absurd (heap ▸ held : timer ∈ []) List.not_mem_nil
    · exact fun timer held => absurd (list ▸ held : timer ∈ []) List.not_mem_nil
    · exact fun timer held => absurd (nothing ▸ held : timer ∈ []) List.not_mem_nil
    · rw [minDeadline, cap]
    · exact fun timer held => absurd (heap ▸ held : timer ∈ []) List.not_mem_nil
    · exact fun timer held => absurd (nothing ▸ held : timer ∈ []) List.not_mem_nil
    · rw [nothing]
      exact List.nodup_nil
    · intro address _
      rw [nothing]
      exact ⟨(fun unset => by cases unset), fun held => absurd held List.not_mem_nil⟩
  · exact .of_eq (by simp [timerListInit])
  · refine List.Pairwise.imp_of_mem (R := fun _ _ => True) ?_ (List.pairwise_of_forall fun _ _ => trivial)
    intro a b a_mem b_mem _
    rw [same (List.mem_range.mp a_mem), same (List.mem_range.mp b_mem)]
  · intro i shard there
    rw [(shard_eq there).2.2.2, saturatingAdd_eq_min]
    simp only [timerListInit]
    omega
  · intro timer
    rw [total_heldCount]
    change _ = _ + ((timerListInit now stats).pendingTimers.count timer : Int)
    rw [empty]
    rfl

instance (timers : TimerList) (action : Action) : Decidable (Covered timers action) :=
  match action with
  | .timerInit _ _ => isTrue fun _ _ same => nomatch same
  | .timerCancel _ => isTrue fun _ _ same => nomatch same
  | .runSomeExpiredTimers now next error gotLock =>
    decidable_of_iff (now = infFuture → gotLock = true → ∀ shard ∈ timers.shards,
        shard.minDeadline = infFuture → shard.timers = [])
      ⟨fun covered _ _ same => by cases same; exact covered rfl rfl,
        fun covered clock locked => covered next error (by rw [clock, locked])⟩

/-- A shard whose queue window is always half a second. -/
def halfSecond : Nat → QueueWindow := fun _ => ⟨500, by decide, by decide⟩

/-- Two timers on two shards: the first expires, the second is set anew and waits for
the check at infinity. -/
def twoTimers : List Action :=
  [.timerInit 0 ⟨16, 5, 1⟩, .timerInit 0 ⟨32, 5000, 2⟩, .runSomeExpiredTimers 7 none false true,
    .timerCancel 32, .timerInit 8 ⟨32, 9000, 3⟩, .runSomeExpiredTimers infFuture none true true]

end GrpcCore.Iomgr.Timers
