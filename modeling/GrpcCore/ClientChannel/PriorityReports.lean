import GrpcCore.ClientChannel.PriorityCurrent

/-!
# The reports of the priority policy

When a report of `READY` stays true of the child whose picker it gave to the parent.
-/

namespace GrpcCore.ClientChannel.PriorityLb

open ChildPriority

/-- The last report to the parent was `READY`. -/
def LastReady (s : PriorityLb) : Prop :=
  ∃ report, s.reports.getLast? = some report ∧ report.connectivityState = .ready

/-- A child is ready, and its latest picker was given to the parent last. -/
def InUse (s : PriorityLb) (name : String) : Prop :=
  ∃ report child, s.reports.getLast? = some report ∧ s.children.lookup name = some child ∧
    child.connectivityState = .ready ∧ report.picker = .child child.picker

/-- If the parent was told `READY`, the current child or the one from before the update is
ready and in use. -/
def ReportsReady (s : PriorityLb) : Prop :=
  s.LastReady → ∃ name,
    (s.currentName = some name ∨ s.currentChildFromBeforeUpdate = some name) ∧ s.InUse name

def KeptReady (s : PriorityLb) : Prop :=
  s.LastReady → ∃ name, s.currentChildFromBeforeUpdate = some name ∧ s.InUse name

/-- Between updates, the failure of a child above the current one makes the policy wait for
another child above it, and so leave the current one. -/
def FailsSilently (s : PriorityLb) (name : String) : Prop :=
  s.updating = none ∧ s.currentChildFromBeforeUpdate ≠ some name ∧ ∃ current priority,
    s.currentPriority = some current ∧ s.getChildPriority name = some priority ∧
      priority < current ∧
      (s.modifyChild name (.record .transientFailure "" none)).waits s.config.priorities = true

/-- The condition on one step. -/
structure ReportsChange (s : PriorityLb) (action : PriorityAction) : Prop where
  fails : ∀ name, (∃ status picker, action = .report name .transientFailure status picker) ∨
    action = .failoverTimer name → s.FailsSilently name → ¬ s.LastReady
  finishes : action = .finishUpdate → s.children ≠ [] → s.waits s.config.priorities = true →
    s.KeptReady
  deletes : ∀ name, action = .deactivationTimer name → s.currentName = some name → ¬ s.LastReady

variable {s s' : PriorityLb}

theorem not_lastReady {report : PriorityReport} (last : s.reports.getLast? = some report)
    (other : report.connectivityState ≠ .ready) : ¬ s.LastReady := by
  rintro ⟨found, last', ready⟩
  obtain rfl := Option.mem_unique last last'
  exact other ready

variable {deleted : Option String}

theorem reportsReady_selectPriority {selected : Nat}
    (concludes : s.Concludes (some selected) deleted) :
    (s.conclude (some selected) deleted).ReportsReady := by
  obtain ⟨name, child, listed, _, there, _⟩ := concludes.selectable selected rfl
  obtain ⟨chosen, equation, found, _⟩ := selectPriority_eq listed there
  have last : (s.selectPriority selected).reports.getLast? = some (childReport chosen) := by
    rw [equation]
    simp
  have current : (s.selectPriority selected).currentName = some name := by
    rw [equation]
    exact listed
  rintro ⟨report, last', ready⟩
  have same : (s.conclude (some selected) deleted).reports = (s.selectPriority selected).reports := by
    cases deleted <;> rfl
  rw [same, last] at last'
  obtain rfl := Option.some.inj last'
  refine ⟨name, .inl ?_, childReport chosen, chosen, ?_, ?_, ready, rfl⟩
  · cases deleted <;> exact current
  · rw [same, last]
  · cases deleted with
    | none => exact found
    | some gone =>
      have other : name ≠ gone := by
        rintro rfl
        exact concludes.notSelected name selected rfl rfl listed
      simp only [conclude, Option.elim_some, OrderedMap.lookup_erase, if_neg other]
      exact found

theorem reportsReady_tryNextPriority
    (known : ∀ {kept}, s.currentChildFromBeforeUpdate = some kept → (s.children.lookup kept).isSome)
    {reportConnecting : Bool} (concludes : (s.tryNextPriority reportConnecting).1.Concludes
      (s.tryNextPriority reportConnecting).2 deleted)
    (silent : reportConnecting = false → deleted = none) :
    ((s.tryNextPriority reportConnecting).1.conclude
      (s.tryNextPriority reportConnecting).2 deleted).ReportsReady ↔
        (reportConnecting = false → s.waits s.config.priorities = true → s.KeptReady) := by
  have frame := tryNextPriority_frame s reportConnecting
  have outcome := tryNextPriority_outcome s reportConnecting
  have waits_eq : ({ s with currentPriority := none } : PriorityLb).waits s.config.priorities =
      s.waits s.config.priorities := by
    apply waits_congr
    rfl
  rw [← waits_eq]
  generalize s.tryNextPriority reportConnecting = result at concludes frame outcome ⊢
  obtain ⟨after, selected⟩ := result
  have reports_eq : (after.conclude none deleted).reports = after.reports := by
    cases deleted <;> rfl
  cases outcome with
  | selected index name child listed first there usable active quiet before goes =>
    refine iff_of_true (reportsReady_selectPriority concludes) ?_
    intro _ stops
    cases goes.symm.trans stops
  | exhausted reported before goes =>
    refine iff_of_true ?_ ?_
    · intro ready
      refine absurd ready ?_
      apply not_lastReady
      · rw [reports_eq, reported, List.getLast?_append, List.getLast?_singleton]
        rfl
      · simp [noReadyPriority]
    · intro _ stops
      cases goes.symm.trans stops
  | waiting reported before stops =>
    cases reportConnecting with
    | true =>
      refine iff_of_true ?_ fun quiet => Bool.noConfusion quiet
      intro ready
      refine absurd ready ?_
      apply not_lastReady
      · rw [reports_eq, reported, if_pos rfl, List.getLast?_append, List.getLast?_singleton]
        rfl
      · simp [connecting]
    | false =>
      obtain rfl := silent rfl
      have same : after.reports = s.reports := reported
      have noCurrent : after.currentName = none := currentName_of_none frame.currentPriority
      have inUse : ∀ name, (s.children.lookup name).isSome → (after.InUse name ↔ s.InUse name) := by
        intro name known
        obtain ⟨child, there⟩ := Option.isSome_iff_exists.mp known
        unfold InUse
        rw [same]
        rcases frame.kept there with unchanged | reactivated
        · rw [unchanged, there]
        · rw [reactivated, there]
          constructor
          · rintro ⟨report, found, last, looked, ready, picker⟩
            obtain rfl := Option.some.inj looked
            exact ⟨report, child, last, rfl, ready, picker⟩
          · rintro ⟨report, found, last, looked, ready, picker⟩
            obtain rfl := Option.some.inj looked
            exact ⟨report, _, last, rfl, ready, picker⟩
      have lastReady : after.LastReady ↔ s.LastReady := by
        unfold LastReady
        rw [same]
      constructor
      · intro ready _ _ last
        obtain ⟨name, current | kept, use⟩ := ready (lastReady.mpr last)
        · cases noCurrent.symm.trans current
        · have isKept := before.symm.trans kept
          exact ⟨name, isKept, (inUse name (known isKept)).mp use⟩
      · intro kept last
        obtain ⟨name, isKept, use⟩ := kept rfl stops (lastReady.mp last)
        exact ⟨name, .inr (before.trans isKept), (inUse name (known isKept)).mpr use⟩

/-! ## One step -/

variable {name : String}

theorem InUse.modifyChild {other : String} {change : ChildPriority → ChildPriority}
    (use : s.InUse other)
    (same : other = name → ∀ child, (change child).connectivityState = child.connectivityState ∧
      (change child).picker = child.picker) : (s.modifyChild name change).InUse other := by
  obtain ⟨report, child, last, there, ready, picker⟩ := use
  by_cases here : other = name
  · obtain ⟨sameState, samePicker⟩ := same here child
    subst here
    exact ⟨report, change child, last, by simp [there], sameState.trans ready,
      samePicker.symm ▸ picker⟩
  · exact ⟨report, child, last, by simp [here, there], ready, picker⟩

theorem ReportsReady.modifyChild (ready : s.ReportsReady) {name : String}
    {change : ChildPriority → ChildPriority}
    (same : ∀ child, (change child).connectivityState = child.connectivityState ∧
      (change child).picker = child.picker) : (s.modifyChild name change).ReportsReady := by
  intro last
  obtain ⟨other, inUse, use⟩ := ready last
  exact ⟨other, inUse, use.modifyChild fun _ => same⟩

variable {child : ChildPriority}

theorem reportsReady_updateState (there : s.children.lookup name = some child)
    (inUse : s.currentName = some name ∨ s.currentChildFromBeforeUpdate = some name) :
    (s.updateState (childReport child)).ReportsReady := by
  rintro ⟨report, last, ready⟩
  rw [updateState, List.getLast?_append, List.getLast?_singleton] at last
  obtain rfl := Option.some.inj last
  refine ⟨name, inUse, childReport child, child, ?_, there, ready, rfl⟩
  rw [updateState, List.getLast?_append, List.getLast?_singleton]
  rfl

variable {old : ChildPriority} {picker : Option Nat} {status : String}

theorem waits_record (there : s.children.lookup name = some old) :
    (s.modifyChild name fun _ => child.record .transientFailure status picker).waits
        s.config.priorities =
      (s.modifyChild name (.record .transientFailure "" none)).waits s.config.priorities := by
  have general : ∀ names,
      (s.modifyChild name fun _ => child.record .transientFailure status picker).waits names =
        (s.modifyChild name (.record .transientFailure "" none)).waits names := by
    intro names
    induction names with
    | nil => rfl
    | cons first rest ih =>
      simp only [waits, lookup_modifyChild, ih]
      by_cases here : first = name
      · subst here
        simp [there, usable, record]
      · simp [here]
  exact general _

theorem currentName_eq {priority : Nat} (listed : s.config.priorities[priority]? = some name)
    (isCurrent : s.currentPriority = some priority) : s.currentName = some name := by
  rw [currentName, isCurrent, Option.bind_some, listed]

theorem Sound.currentName (sound : s.Sound) (current : s.currentName = some name) :
    ∃ priority, s.currentPriority = some priority ∧ s.getChildPriority name = some priority ∧
      s.currentChildFromBeforeUpdate = none := by
  obtain ⟨priority, isCurrent, listed⟩ := Option.bind_eq_some_iff.mp current
  obtain ⟨noneKept, name', listed', first⟩ := sound.current isCurrent
  obtain rfl := Option.mem_unique listed listed'
  exact ⟨priority, isCurrent, first, noneKept⟩

theorem reportsReady_onConnectivityStateUpdate (sound : s.Sound) (idle : s.updating = none)
    (good : s.ReportsReady) {state : ConnectivityState} (there : s.children.lookup name = some old)
    (acted : (s.onConnectivityStateUpdate name child state status picker).1.Acted
      (s.onConnectivityStateUpdate name child state status picker).2) :
    ((s.onConnectivityStateUpdate name child state status picker).1.conclude
      (s.onConnectivityStateUpdate name child state status picker).2 none).ReportsReady ↔
        (state = .transientFailure → s.FailsSilently name → ¬ s.LastReady) := by
  have there' : (s.modifyChild name fun _ => child.record state status picker).children.lookup name =
      some (child.record state status picker) := by simp [there]
  have outcome := handled (s.modifyChild name fun _ => child.record state status picker) name
    (child.record state status picker)
  have recorded : ∀ other, other ≠ name → s.InUse other →
      (s.modifyChild name fun _ => child.record state status picker).InUse other :=
    fun other different use => use.modifyChild fun same => absurd same different
  have knownKept : ∀ {kept}, s.currentChildFromBeforeUpdate = some kept →
      ((s.modifyChild name fun _ => child.record state status picker).children.lookup kept).isSome := by
    intro kept isKept
    rw [lookup_modifyChild]
    split
    · simp [there]
    · exact sound.before isKept
  have concludes := acted.concludes
  unfold onConnectivityStateUpdate at concludes ⊢
  generalize handled_ : handleChildConnectivityStateChange _ name (child.record state status picker)
    = result at outcome concludes ⊢
  cases outcome with
  | kept before =>
    refine iff_of_true (reportsReady_updateState there' (.inr before)) ?_
    rintro _ ⟨_, notKept, _⟩
    exact absurd before notKept
  | dropped before =>
    refine iff_of_true ?_ ?_
    · refine (reportsReady_tryNextPriority ?_ concludes nofun).mpr
        nofun
      intro kept isKept
      cases isKept
    · rintro _ ⟨_, notKept, _⟩
      exact absurd before notKept
  | ignored before other unusable alive =>
    refine iff_of_true ?_ ?_
    · intro last
      obtain ⟨used, inUse, use⟩ := good last
      refine ⟨used, inUse, recorded used ?_ use⟩
      rintro rfl
      rcases inUse with current | kept
      · obtain ⟨priority, isCurrent, first, _⟩ := sound.currentName current
        exact other priority first isCurrent
      · exact before kept
    · rintro failed ⟨_, _, current, priority, isCurrent, listed, above, _⟩
      have below : s.currentPriority.any (· < priority) = true := alive failed priority listed
      simp only [isCurrent, Option.any_some, decide_eq_true_eq] at below
      omega
  | failed priority before listed above failed =>
    have failure : state = .transientFailure := failed
    subst failure
    rw [reportsReady_tryNextPriority knownKept concludes (fun _ => rfl)]
    have waits_eq : (s.modifyChild name fun _ =>
        child.record .transientFailure status picker).waits s.config.priorities = _ :=
      waits_record there
    constructor
    · rintro silent _ ⟨_, _, current, priority', isCurrent, listed', isAbove, stops⟩ last
      obtain rfl := Option.mem_unique listed listed'
      obtain ⟨kept, isKept, _⟩ := silent
        (decide_eq_false fun same => by
          obtain rfl := Option.mem_unique isCurrent same
          exact Nat.lt_irrefl _ isAbove)
        (waits_eq.trans stops) last
      cases (sound.current isCurrent).1.symm.trans isKept
    · intro condition notCurrent stops last
      have other : s.currentPriority ≠ some priority := of_decide_eq_false notCurrent
      cases isCurrent : s.currentPriority with
      | none =>
        obtain ⟨used, current | kept, use⟩ := good last
        · simp [currentName, isCurrent] at current
        · refine ⟨used, kept, recorded used ?_ use⟩
          rintro rfl
          exact before kept
      | some current =>
        have isAbove : priority < current := by
          have notBelow : ¬ current < priority := by
            intro below
            have contra : s.currentPriority.any (· < priority) = false := above
            simp [isCurrent, below] at contra
          have different : current ≠ priority := fun same => other (same ▸ isCurrent)
          omega
        exact absurd last (condition rfl
          ⟨idle, before, current, priority, isCurrent, listed, isAbove, waits_eq.symm.trans stops⟩)
  | selected priority before listed above other usable =>
    refine iff_of_true (reportsReady_selectPriority concludes) ?_
    intro isFailure
    subst isFailure
    cases usable
  | current priority before listed isCurrent alive =>
    refine iff_of_true ?_ (fun isFailure => absurd isFailure alive)
    exact reportsReady_updateState there'
      (.inl (currentName_eq (getChildPriority_spec listed) isCurrent))

theorem status_tryNextPriority (s : PriorityLb) (reportConnecting : Bool) :
    (s.tryNextPriority reportConnecting).1.status = s.status := by
  have frame := tryNextPriority_frame s reportConnecting
  simp only [status, frame.shuttingDown, frame.crashed, frame.updating]

theorem status_onConnectivityStateUpdate (s : PriorityLb) (name : String) (child : ChildPriority)
    (state : ConnectivityState) (status : String) (picker : Option Nat) :
    (s.onConnectivityStateUpdate name child state status picker).1.status = s.status := by
  have outcome := handled (s.modifyChild name fun _ => child.record state status picker) name
    (child.record state status picker)
  unfold onConnectivityStateUpdate
  generalize handleChildConnectivityStateChange _ name (child.record state status picker) = result
    at outcome
  cases outcome with
  | kept => rfl
  | dropped => exact status_tryNextPriority _ _
  | ignored => rfl
  | failed => exact status_tryNextPriority _ _
  | selected => rfl
  | current => rfl

/-- Between events the report of `READY` is true. -/
def ReportsTrue (s : PriorityLb) : Prop := s.status = (false, false, none) → s.ReportsReady

theorem reportsReady_deleteChild (sound : s.Sound) (good : s.ReportsReady)
    (concludes : ((s.modifyChild name .maybeReactivateLocked).deleteChild name).1.Concludes
      ((s.modifyChild name .maybeReactivateLocked).deleteChild name).2 (some name)) :
    (((s.modifyChild name .maybeReactivateLocked).deleteChild name).1.conclude
      ((s.modifyChild name .maybeReactivateLocked).deleteChild name).2 (some name)).ReportsReady ↔
        (s.currentName = some name → ¬ s.LastReady) := by
  unfold deleteChild at concludes ⊢
  split at concludes
  · rename_i before
    rw [if_pos before]
    refine iff_of_true ?_ ?_
    · refine (reportsReady_tryNextPriority ?_ concludes nofun).mpr
        nofun
      intro kept isKept
      cases isKept
    · intro current
      obtain ⟨_, _, _, noneKept⟩ := sound.currentName current
      cases before.symm.trans noneKept
  · rename_i notKept
    rw [if_neg notKept]
    constructor
    · intro ready current last
      obtain ⟨_, _, _, noneKept⟩ := sound.currentName current
      obtain ⟨used, current' | kept, report, child, _, there, _⟩ := ready last
      · obtain rfl : name = used := Option.mem_unique current current'
        simp [conclude, OrderedMap.lookup_erase] at there
      · cases noneKept.symm.trans kept
    · intro condition last
      obtain ⟨used, inUse, use⟩ := good last
      have different : used ≠ name := by
        rintro rfl
        rcases inUse with current | kept
        · exact condition current last
        · exact notKept kept
      obtain ⟨report, child, last', there, ready, picker⟩ := use
      refine ⟨used, inUse, report, child, last', ?_, ready, picker⟩
      simp only [conclude, Option.elim_none, Option.elim_some, OrderedMap.lookup_erase,
        if_neg different, lookup_modifyChild]
      exact there

theorem reportsTrue_step_iff (sound : s.Sound) (blocked : s.KeptBlocked)
    (works : s.shuttingDown = false ∧ s.crashed = false) (good : s.ReportsTrue)
    {action : PriorityAction} {selected : Option Nat}
    (acted : s.act action = some (s', selected, deleted)) :
    (s'.conclude selected deleted).ReportsTrue ↔ s.ReportsChange action := by
  have between : s.updating = none → s.status = (false, false, none) := by
    intro idle
    simp only [status, works.1, works.2, idle]
  cases action with
  | startUpdate config =>
    obtain ⟨_, acted⟩ := Option.ite_none_right_eq_some.mp acted
    cases acted
    refine iff_of_true ?_ ⟨?_, ?_, ?_⟩
    · intro isBetween
      have busy : (s.startUpdate config).status ≠ (false, false, none) := by
        unfold startUpdate
        split
        · simp [status]
        · split <;> simp [status]
      exact absurd isBetween busy
    · rintro name (⟨status, picker, same⟩ | same) <;> cases same
    · intro same
      cases same
    · intro name same
      cases same
  | updateChild =>
    obtain ⟨visited, looping, acted⟩ := Option.bind_eq_some_iff.mp acted
    obtain ⟨⟨name, child⟩, _, acted⟩ := Option.map_eq_some_iff.mp acted
    cases acted
    refine iff_of_true ?_ ⟨?_, ?_, ?_⟩
    · intro isBetween
      cases (congrArg (·.2.2) isBetween)
    · rintro name (⟨status, picker, same⟩ | same) <;> cases same
    · intro same
      cases same
    · intro name same
      cases same
  | finishUpdate =>
    have whole := sound.act blocked acted
    obtain ⟨visited, looping, acted⟩ := Option.bind_eq_some_iff.mp acted
    split at acted
    · cases acted
    · simp only [Option.some.injEq, Prod.mk.injEq] at acted
      obtain ⟨rfl, rfl, rfl⟩ := acted
      have at_work := status_tryNextPriority ({ s with updating := none } : PriorityLb)
        s.children.isEmpty
      have running : (({ s with updating := none } : PriorityLb).tryNextPriority
          s.children.isEmpty).1.status = (false, false, none) := by
        rw [at_work]
        simp only [status, works.1, works.2]
      rcases whole with ⟨down, _, _⟩ | concludes
      · cases down.symm.trans (congrArg Prod.fst running)
      · have known : ∀ {kept}, ({ s with updating := none } : PriorityLb).currentChildFromBeforeUpdate
            = some kept → (s.children.lookup kept).isSome := sound.before
        rw [ReportsTrue, status_conclude concludes, running, forall_prop_of_true rfl,
          reportsReady_tryNextPriority known concludes (fun _ => rfl)]
        have same : ({ s with updating := none } : PriorityLb).waits s.config.priorities =
            s.waits s.config.priorities := by
          apply waits_congr
          rfl
        rw [same]
        constructor
        · intro kept
          refine ⟨?_, ?_, ?_⟩
          · rintro name (⟨status, picker, same⟩ | same) <;> cases same
          · intro _ nonempty stops
            exact kept (by simpa using nonempty) stops
          · intro name same
            cases same
        · intro change notEmpty stops
          exact change.finishes rfl (by simpa using notEmpty) stops
  | report name state status picker =>
    have whole := sound.act blocked acted
    obtain ⟨child, there, acted⟩ := Option.map_eq_some_iff.mp acted
    simp only [Prod.mk.injEq] at acted
    obtain ⟨rfl, rfl, rfl⟩ := acted
    have at_work := status_onConnectivityStateUpdate s name child state status (some picker)
    rcases whole with ⟨down, _, _⟩ | concludes
    · cases down.symm.trans ((congrArg Prod.fst at_work).trans works.1)
    · rw [ReportsTrue, status_conclude concludes, at_work]
      cases idle : s.updating with
      | some =>
        refine iff_of_true ?_ ⟨?_, ?_, ?_⟩
        · intro isBetween
          cases idle.symm.trans (congrArg (·.2.2) isBetween)
        · rintro other same ⟨isIdle, _⟩
          cases idle.symm.trans isIdle
        · intro same
          cases same
        · intro other same
          cases same
      | none =>
        rw [forall_prop_of_true (between idle), reportsReady_onConnectivityStateUpdate sound idle
          (good (between idle)) there concludes.toActed]
        constructor
        · intro fails
          refine ⟨?_, ?_, ?_⟩
          · rintro other (⟨status', picker', same⟩ | same)
            · cases same
              exact fails rfl
            · cases same
          · intro same
            cases same
          · intro other same
            cases same
        · rintro change rfl
          exact change.fails name (.inl ⟨status, picker, rfl⟩)
  | failoverTimer name =>
    have whole := sound.act blocked acted
    obtain ⟨child, there, acted⟩ := Option.bind_eq_some_iff.mp acted
    obtain ⟨⟨idle, _⟩, acted⟩ := Option.ite_none_right_eq_some.mp acted
    have isIdle : s.updating = none := by simpa using idle
    simp only [Option.some.injEq, Prod.mk.injEq] at acted
    obtain ⟨rfl, rfl, rfl⟩ := acted
    have at_work := status_onConnectivityStateUpdate s name
      { child with failoverTimerCallbackPending := false } .transientFailure
      "failover timer fired" none
    rcases whole with ⟨down, _, _⟩ | concludes
    · cases down.symm.trans ((congrArg Prod.fst at_work).trans works.1)
    · rw [ReportsTrue, status_conclude concludes, at_work, forall_prop_of_true (between isIdle),
        reportsReady_onConnectivityStateUpdate sound isIdle (good (between isIdle)) there
          concludes.toActed]
      constructor
      · intro fails
        refine ⟨?_, ?_, ?_⟩
        · rintro other (⟨status', picker', same⟩ | same)
          · cases same
          · cases same
            exact fails rfl
        · intro same
          cases same
        · intro other same
          cases same
      · intro change _
        exact change.fails name (.inr rfl)
  | deactivationTimer name =>
    have whole := sound.act blocked acted
    obtain ⟨child, there, acted⟩ := Option.bind_eq_some_iff.mp acted
    obtain ⟨⟨idle, _⟩, acted⟩ := Option.ite_none_right_eq_some.mp acted
    have isIdle : s.updating = none := by simpa using idle
    simp only [Option.some.injEq, Prod.mk.injEq] at acted
    obtain ⟨rfl, rfl, rfl⟩ := acted
    have at_work : ((s.modifyChild name .maybeReactivateLocked).deleteChild name).1.status =
        s.status := by
      unfold deleteChild
      split
      · exact status_tryNextPriority _ _
      · rfl
    rcases whole with ⟨down, _, _⟩ | concludes
    · cases down.symm.trans ((congrArg Prod.fst at_work).trans works.1)
    · rw [ReportsTrue, status_conclude concludes, at_work, forall_prop_of_true (between isIdle),
        reportsReady_deleteChild sound (good (between isIdle)) concludes]
      constructor
      · intro deletes
        refine ⟨?_, ?_, ?_⟩
        · rintro other (⟨status', picker', same⟩ | same) <;> cases same
        · intro same
          cases same
        · rintro other same
          cases same
          exact deletes
      · intro change
        exact change.deletes name rfl
  | exitIdle =>
    refine iff_of_true ?_ ⟨?_, ?_, ?_⟩
    · simp only [PriorityLb.act] at acted
      split at acted
      · cases acted
        exact good
      · split at acted
        · cases acted
          intro isBetween
          apply (good isBetween).modifyChild
          intro child
          unfold exitIdleLocked
          split <;> exact ⟨rfl, rfl⟩
        · cases acted
          intro isBetween
          cases (congrArg (·.2.1) isBetween)
    · rintro name (⟨status, picker, same⟩ | same) <;> cases same
    · intro same
      cases same
    · intro name same
      cases same
  | shutdown =>
    obtain ⟨_, acted⟩ := Option.ite_none_right_eq_some.mp acted
    cases acted
    refine iff_of_true ?_ ⟨?_, ?_, ?_⟩
    · intro isBetween
      cases (congrArg Prod.fst isBetween)
    · rintro name (⟨status, picker, same⟩ | same) <;> cases same
    · intro same
      cases same
    · intro name same
      cases same

/-- A run reports the truth between events exactly if every step of it meets its condition. -/
theorem reportsTrue_iff (actions : List PriorityAction) (final : PriorityLb) :
    Machine.Run step ReportsChange {} actions final ↔
      Machine.Reach step {} actions final ∧
        ∀ done later, actions = done ++ later → ∀ middle, Machine.Reach step {} done middle →
          middle.ReportsTrue := by
  refine Machine.Run.iff_always (fun invariant taken => Invariant.step invariant taken) ?_
    invariant_initially ?_ actions final
  · intro s action s' invariant good taken
    obtain ⟨running, works, acted, selected, deleted, done, rfl⟩ := step_cases taken
    obtain ⟨sound, blocked⟩ := Invariant.holds invariant running
    exact reportsTrue_step_iff sound blocked ⟨running, works⟩ good done
  · rintro _ ⟨report, last, _⟩
    cases last

/-- A child that is selected while an update visits the children is given up for one that
still connects, and the parent does not hear that it has left `READY`. -/
theorem dead_child_reported :
    ¬ ∀ actions s, Machine.Reach step {} actions s → s.ReportsTrue := by
  intro always
  obtain ⟨s, reach, seen⟩ := Machine.exists_reach step {}
    [.startUpdate { children := ["a", "b"], priorities := ["a", "b"] }, .finishUpdate,
      .report "a" .transientFailure "" 0, .report "b" .ready "" 1, .report "a" .ready "" 2,
      .report "a" .idle "" 3, .exitIdle, .report "a" .connecting "" 4,
      .startUpdate { children := ["a", "b"], priorities := ["a", "b"] }, .updateChild,
      .updateChild, .report "b" .ready "" 5, .finishUpdate, .report "b" .connecting "" 6]
    (fun s => (s.status, s.reports.getLast?, s.children.map (·.2.connectivityState)))
    ((false, false, none), some ⟨.ready, "", .child (some 5)⟩, [.connecting, .connecting])
    (by decide)
  simp only [Prod.mk.injEq] at seen
  obtain ⟨between, last, states⟩ := seen
  obtain ⟨name, _, _, child, _, there, ready, _⟩ :=
    always _ s reach between ⟨_, last, rfl⟩
  have listed : child.connectivityState ∈ s.children.map (·.2.connectivityState) :=
    List.mem_map_of_mem (OrderedMap.mem_of_lookup there)
  rw [states, ready] at listed
  simp at listed

end GrpcCore.ClientChannel.PriorityLb
