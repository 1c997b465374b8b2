import GrpcCore.ClientChannel.Priority

/-!
# The current child of the priority policy

What holds of the policy in every run, and when the child in use is kept alive.
-/

namespace GrpcCore.ClientChannel.PriorityLb

open ChildPriority

/-- What every run keeps, but for the child that is kept from before an update. -/
structure Sound (s : PriorityLb) : Prop where
  pickers : ∀ report ∈ s.reports, report.picker ≠ .child none
  usable : ∀ {name : String} {child : ChildPriority}, s.children.lookup name = some child →
    child.usable = true → child.picker.isSome
  current : ∀ {priority : Nat}, s.currentPriority = some priority →
    s.currentChildFromBeforeUpdate = none ∧
      ∃ name, s.config.priorities[priority]? = some name ∧ s.getChildPriority name = some priority
  before : ∀ {kept : String}, s.currentChildFromBeforeUpdate = some kept →
    (s.children.lookup kept).isSome
  looping : s.updating.isSome → ∀ {name : String}, s.currentName = some name →
    (s.children.lookup name).isSome

/-- Between updates, the next priority that is tried is not the kept child if this one is
scheduled for removal. -/
def KeptBlocked (s : PriorityLb) : Prop :=
  s.updating = none → ∀ kept child, s.currentChildFromBeforeUpdate = some kept →
    s.children.lookup kept = some child → child.deactivationTimerCallbackPending = true →
      s.Blocked kept s.config.priorities

/-- A priority that a handler selects is that of a child that can be used. -/
def Selectable (s : PriorityLb) (selected : Option Nat) : Prop :=
  ∀ priority, selected = some priority → ∃ name child,
    s.config.priorities[priority]? = some name ∧ s.getChildPriority name = some priority ∧
      s.children.lookup name = some child ∧ child.usable = true

variable {s s' : PriorityLb}

theorem currentName_of_none (none_ : s.currentPriority = none) : s.currentName = none := by
  simp [currentName, none_]

theorem Sound.modifyChild (sound : s.Sound) {name : String}
    {change : ChildPriority → ChildPriority}
    (usable : ∀ child, s.children.lookup name = some child → (change child).usable = true →
      (change child).picker.isSome) : (s.modifyChild name change).Sound := by
  have present : ∀ other : String, (s.children.lookup other).isSome →
      ((s.modifyChild name change).children.lookup other).isSome := by
    intro other there
    rw [lookup_modifyChild]
    split
    · rename_i same
      subst same
      simpa using there
    · exact there
  refine ⟨sound.pickers, ?_, sound.current, ?_, ?_⟩
  · intro other child there isUsable
    rw [lookup_modifyChild] at there
    split at there
    · obtain ⟨old, before, rfl⟩ := Option.map_eq_some_iff.mp there
      exact usable old before isUsable
    · exact sound.usable there isUsable
  · intro kept isKept
    exact present kept (sound.before isKept)
  · intro loops other isCurrent
    exact present other (sound.looping loops isCurrent)

theorem Sound.updateState (sound : s.Sound) {report : PriorityReport}
    (told : report.picker ≠ .child none) : (s.updateState report).Sound := by
  refine ⟨?_, sound.usable, sound.current, sound.before, sound.looping⟩
  intro other member
  rcases List.mem_append.mp member with old | new
  · exact sound.pickers other old
  · rw [List.mem_singleton.mp new]
    exact told

variable {name : String}

theorem TryFrame.isSome (frame : TryFrame s s') (there : (s.children.lookup name).isSome) :
    (s'.children.lookup name).isSome := by
  obtain ⟨child, there⟩ := Option.isSome_iff_exists.mp there
  rcases frame.kept there with same | reactivated
  · exact Option.isSome_iff_exists.mpr ⟨_, same⟩
  · exact Option.isSome_iff_exists.mpr ⟨_, reactivated⟩

theorem Sound.tryNextPriority (sound : s.Sound) (reportConnecting : Bool) :
    (s.tryNextPriority reportConnecting).1.Sound := by
  have frame := tryNextPriority_frame s reportConnecting
  have outcome := tryNextPriority_outcome s reportConnecting
  generalize s.tryNextPriority reportConnecting = result at frame outcome
  obtain ⟨after, selected⟩ := result
  have noCurrent : after.currentPriority = none := frame.currentPriority
  refine ⟨?_, ?_, ?_, ?_, ?_⟩
  · intro report member
    cases outcome with
    | selected index name child listed first there usable active quiet =>
      rw [quiet] at member
      exact sound.pickers report member
    | exhausted reported =>
      rw [reported] at member
      rcases List.mem_append.mp member with old | new
      · exact sound.pickers report old
      · rw [List.mem_singleton.mp new]
        simp [noReadyPriority]
    | waiting reported =>
      rw [reported] at member
      split at member
      · rcases List.mem_append.mp member with old | new
        · exact sound.pickers report old
        · rw [List.mem_singleton.mp new]
          simp [connecting]
      · exact sound.pickers report member
  · intro name child there isUsable
    cases known : s.children.lookup name with
    | none =>
      obtain rfl := frame.created there known
      cases isUsable
    | some =>
      rcases frame.kept known with same | reactivated
      · obtain rfl := Option.mem_unique same there
        exact sound.usable known isUsable
      · obtain rfl := Option.mem_unique reactivated there
        have picker := sound.usable known isUsable
        exact picker
  · intro priority isCurrent
    rw [noCurrent] at isCurrent
    cases isCurrent
  · intro kept isKept
    cases outcome with
    | selected index name child listed first there usable active quiet before goes
    | waiting reported before =>
      exact frame.isSome (sound.before (before.symm.trans isKept))
    | exhausted reported before =>
      rw [before] at isKept
      cases isKept
  · intro _ name isCurrent
    rw [currentName_of_none noCurrent] at isCurrent
    cases isCurrent

theorem keptBlocked_tryNextPriority {reportConnecting : Bool}
    (stays : (s.tryNextPriority reportConnecting).2 = none) :
    (s.tryNextPriority reportConnecting).1.KeptBlocked := by
  have frame := tryNextPriority_frame s reportConnecting
  have outcome := tryNextPriority_outcome s reportConnecting
  generalize s.tryNextPriority reportConnecting = result at frame outcome stays
  obtain ⟨after, selected⟩ := result
  intro _ kept child isKept there pending
  cases outcome with
  | selected => cases stays
  | exhausted reported before =>
    rw [before] at isKept
    cases isKept
  | waiting reported before stops blocked =>
    rw [frame.config]
    exact blocked kept child there pending

theorem selectable_tryNextPriority (s : PriorityLb) (reportConnecting : Bool) :
    (s.tryNextPriority reportConnecting).1.Selectable (s.tryNextPriority reportConnecting).2 := by
  have frame := tryNextPriority_frame s reportConnecting
  have outcome := tryNextPriority_outcome s reportConnecting
  generalize s.tryNextPriority reportConnecting = result at frame outcome
  obtain ⟨after, selected⟩ := result
  intro priority isSelected
  cases outcome with
  | selected index name child listed first there usable active quiet before =>
    obtain rfl := Option.some.inj isSelected
    rw [Nat.zero_add]
    obtain ⟨bound, at_⟩ := List.getElem?_eq_some_iff.mp listed
    refine ⟨name, child, by rw [frame.config]; exact listed, ?_, there, usable⟩
    rw [getChildPriority, frame.config, List.findIdx?_eq_some_iff_getElem]
    refine ⟨bound, by simpa using at_, ?_⟩
    intro earlier before same
    refine first (List.mem_take_iff_getElem.mpr ⟨earlier, ?_, by simpa using same⟩)
    omega
  | exhausted => cases isSelected
  | waiting => cases isSelected

variable {names : List String} {kept : String}

theorem Blocked.congr (blocked : s.Blocked kept names) (same : s'.children = s.children) :
    s'.Blocked kept names := by
  induction names with
  | nil => trivial
  | cons name rest ih =>
    refine ⟨blocked.1, ?_⟩
    intro child there
    rw [same] at there
    obtain ⟨unusable, waits⟩ := blocked.2 child there
    exact ⟨unusable, waits.imp_right ih⟩

/-- A change of the kept child, of a child that is not listed, or of one that stays in the way. -/
theorem Blocked.modifyChild {kept name : String} {names : List String}
    {change : ChildPriority → ChildPriority} (blocked : s.Blocked kept names)
    (harmless : name = kept ∨ name ∉ names ∨ ∀ child, s.children.lookup name = some child →
      (child.usable = false → (change child).usable = false) ∧
        (child.failoverTimerCallbackPending = true →
          (change child).failoverTimerCallbackPending = true)) :
    (s.modifyChild name change).Blocked kept names := by
  induction names with
  | nil => trivial
  | cons first rest ih =>
    obtain ⟨different, stays⟩ := blocked
    refine ⟨different, ?_⟩
    have later : s.Blocked kept rest → (s.modifyChild name change).Blocked kept rest := by
      intro blocked
      refine ih blocked ?_
      rcases harmless with same | unlisted | quiet
      · exact .inl same
      · exact .inr (.inl fun member => unlisted (List.mem_cons_of_mem _ member))
      · exact .inr (.inr quiet)
    intro child there
    rw [lookup_modifyChild] at there
    split at there
    · rename_i same
      subst same
      obtain ⟨old, before, rfl⟩ := Option.map_eq_some_iff.mp there
      rcases harmless with same | unlisted | quiet
      · exact absurd same different
      · exact absurd (List.mem_cons_self ..) unlisted
      · obtain ⟨unusable, pending⟩ := quiet old before
        obtain ⟨wasUnusable, waits⟩ := stays old before
        exact ⟨unusable wasUnusable, waits.imp pending later⟩
    · obtain ⟨unusable, waits⟩ := stays child there
      exact ⟨unusable, waits.imp_right later⟩

structure Acted (s : PriorityLb) (selected : Option Nat) : Prop where
  sound : s.Sound
  selectable : s.Selectable selected
  blocked : selected = none → s.KeptBlocked

theorem acted_none (sound : s.Sound) (blocked : s.KeptBlocked) : s.Acted none :=
  ⟨sound, nofun, fun _ => blocked⟩

theorem acted_tryNextPriority (sound : s.Sound) (reportConnecting : Bool) :
    (s.tryNextPriority reportConnecting).1.Acted (s.tryNextPriority reportConnecting).2 :=
  ⟨sound.tryNextPriority reportConnecting, selectable_tryNextPriority s reportConnecting,
    keptBlocked_tryNextPriority⟩

theorem record_pending (state : ConnectivityState) (status : String) (picker : Option Nat)
    (child : ChildPriority) : (child.record state status picker).deactivationTimerCallbackPending =
      child.deactivationTimerCallbackPending := rfl

theorem getChildPriority_eq_none (unlisted : s.getChildPriority name = none) :
    name ∉ s.config.priorities := by
  intro member
  have absent := List.findIdx?_eq_none_iff.mp unlisted name member
  simp at absent

variable {child : ChildPriority}

theorem usable_of_connecting (unusable : child.usable = false)
    (alive : child.connectivityState ≠ .transientFailure) :
    child.connectivityState = .connecting := by
  cases state : child.connectivityState <;> simp_all [usable]

variable {state : ConnectivityState} {old : ChildPriority} {picker : Option Nat}

theorem Sound.acted_onConnectivityStateUpdate (sound : s.Sound) (blocked : s.KeptBlocked)
    {status : String} (there : s.children.lookup name = some old)
    (pending : child.deactivationTimerCallbackPending = old.deactivationTimerCallbackPending)
    (failover : state = .connecting →
      child.failoverTimerCallbackPending = old.failoverTimerCallbackPending)
    (told : state ≠ .transientFailure → picker.isSome) :
    (s.onConnectivityStateUpdate name child state status picker).1.Acted
      (s.onConnectivityStateUpdate name child state status picker).2 := by
  have usable_state : (child.record state status picker).usable = true → state ≠ .transientFailure := by
    rintro usable rfl
    cases usable
  have recorded : (s.modifyChild name fun _ => child.record state status picker).Sound := by
    apply sound.modifyChild
    intro _ _ usable
    exact told (usable_state usable)
  have there' : (s.modifyChild name fun _ => child.record state status picker).children.lookup name =
      some (child.record state status picker) := by simp [there]
  have outcome := handled (s.modifyChild name fun _ => child.record state status picker) name
    (child.record state status picker)
  unfold onConnectivityStateUpdate
  generalize handleChildConnectivityStateChange _ name (child.record state status picker) = result
    at outcome
  have kept_pending : ∀ kept other,
      (s.modifyChild name fun _ => child.record state status picker).children.lookup kept =
        some other → other.deactivationTimerCallbackPending = true →
      ∃ before, s.children.lookup kept = some before ∧
        before.deactivationTimerCallbackPending = true := by
    intro kept other found isPending
    rw [lookup_modifyChild] at found
    split at found
    · rename_i same
      subst same
      rw [there] at found
      obtain rfl := Option.some.inj found
      exact ⟨old, there, pending ▸ isPending⟩
    · exact ⟨other, found, isPending⟩
  cases outcome with
  | kept before usable =>
    refine acted_none (recorded.updateState ?_) ?_
    · have picker := recorded.usable there' usable
      intro null
      rw [childReport, PriorityPicker.child.injEq] at null
      rw [null] at picker
      cases picker
    · intro idle kept other isKept found isPending
      obtain ⟨before', found', isPending'⟩ := kept_pending kept other found isPending
      have same : name = kept := Option.mem_unique before isKept
      have stays : (s.modifyChild name fun _ => child.record state status picker).Blocked kept
          s.config.priorities :=
        (blocked idle kept before' isKept found' isPending').modifyChild (.inl same)
      exact stays.congr rfl
  | dropped =>
    refine acted_tryNextPriority ?_ true
    exact ⟨recorded.pickers, recorded.usable,
      fun isCurrent => ⟨rfl, (recorded.current isCurrent).2⟩, nofun,
      recorded.looping⟩
  | ignored before other unusable alive =>
    refine acted_none recorded ?_
    intro idle kept other' isKept found isPending
    obtain ⟨before', found', isPending'⟩ := kept_pending kept other' found isPending
    have noCurrent : s.currentPriority = none := by
      cases isCurrent : s.currentPriority with
      | none => rfl
      | some =>
        have none_ := (sound.current isCurrent).1
        cases none_.symm.trans isKept
    refine (blocked idle kept before' isKept found' isPending').modifyChild (.inr ?_)
    by_cases listed : name ∈ s.config.priorities
    · refine .inr ?_
      intro found'' same
      obtain ⟨priority, isListed⟩ : ∃ priority, s.getChildPriority name = some priority := by
        cases isListed : s.getChildPriority name with
        | none => exact absurd listed (getChildPriority_eq_none isListed)
        | some priority => exact ⟨priority, rfl⟩
      have notBelow : ¬ s.currentPriority.any (· < priority) = true := by simp [noCurrent]
      have notUsable : (child.record state status picker).usable = false :=
        eq_false_of_ne_true fun usable => notBelow (unusable usable priority isListed)
      have notFailed : (child.record state status picker).connectivityState ≠ .transientFailure :=
        fun failed => notBelow (alive failed priority isListed)
      have isConnecting : state = .connecting := usable_of_connecting notUsable notFailed
      refine ⟨fun _ => notUsable, ?_⟩
      intro wasPending
      rw [there] at same
      obtain rfl := Option.some.inj same
      subst isConnecting
      simp [record, failover rfl, wasPending]
    · exact .inl listed
  | failed => exact acted_tryNextPriority recorded _
  | selected priority before listed above other usable =>
    refine ⟨recorded, ?_, nofun⟩
    intro priority' same
    obtain rfl := Option.some.inj same
    exact ⟨name, _, getChildPriority_spec listed, listed, there', usable⟩
  | current priority before listed isCurrent alive =>
    refine acted_none (recorded.updateState ?_) ?_
    · have picker := told alive
      intro null
      rw [childReport, PriorityPicker.child.injEq] at null
      rw [record] at null
      simp only at null
      rw [null] at picker
      cases picker
    · intro idle kept other isKept found isPending
      have none_ := (recorded.current isCurrent).1
      cases none_.symm.trans isKept

theorem Blocked.not_mem (blocked : s.Blocked kept names) (goes : s.waits names = false) :
    kept ∉ names := by
  induction names with
  | nil => exact List.not_mem_nil
  | cons name rest ih =>
    obtain ⟨different, stays⟩ := blocked
    simp only [waits] at goes
    cases there : s.children.lookup name with
    | none => simp [there] at goes
    | some child =>
      obtain ⟨unusable, pending | later⟩ := stays child there
      · simp [there, unusable, pending] at goes
      · simp only [there, unusable, Bool.not_false, Bool.true_and, Bool.or_eq_false_iff] at goes
        rw [List.mem_cons, not_or]
        exact ⟨Ne.symm different, ih later goes.2⟩

theorem deactivateLocked_usable (child : ChildPriority) :
    child.deactivateLocked.usable = child.usable ∧ child.deactivateLocked.picker = child.picker := by
  unfold deactivateLocked
  split <;> exact ⟨rfl, rfl⟩

variable {priority : Nat}

theorem Sound.selectPriority (sound : s.Sound) (selectable : s.Selectable (some priority)) :
    (s.selectPriority priority).Sound := by
  obtain ⟨name, child, listed, first, there, usable⟩ := selectable priority rfl
  obtain ⟨selected, equation, found, _, picker, _⟩ := selectPriority_eq listed there
  have told := sound.usable there usable
  rw [equation] at found ⊢
  refine ⟨?_, ?_, ?_, nofun, ?_⟩
  · intro report member
    rcases List.mem_append.mp member with old | new
    · exact sound.pickers report old
    · rw [List.mem_singleton.mp new]
      intro null
      rw [childReport, PriorityPicker.child.injEq, picker] at null
      rw [null] at told
      cases told
  · intro other new there' isUsable
    simp only [lookup_deactivateAll] at there'
    split at there'
    · obtain ⟨old, before, rfl⟩ := Option.map_eq_some_iff.mp there'
      obtain ⟨sameUsable, samePicker⟩ := deactivateLocked_usable old
      rw [samePicker]
      exact sound.usable before (sameUsable.symm.trans isUsable)
    · exact sound.usable there' isUsable
  · intro priority' isCurrent
    obtain rfl := Option.some.inj isCurrent
    exact ⟨rfl, name, listed, first⟩
  · intro _ other isCurrent
    simp only [currentName, Option.bind_some, listed, Option.some.injEq] at isCurrent
    subst isCurrent
    exact Option.isSome_iff_exists.mpr ⟨selected, found⟩

theorem Sound.erase (sound : s.Sound) (idle : s.updating = none)
    (notKept : s.currentChildFromBeforeUpdate ≠ some name) :
    ({ s with children := OrderedMap.erase name s.children } : PriorityLb).Sound := by
  refine ⟨sound.pickers, ?_, sound.current, ?_, ?_⟩
  · intro other child there usable
    simp only [OrderedMap.lookup_erase] at there
    split at there
    · cases there
    · exact sound.usable there usable
  · intro kept isKept
    have different : kept ≠ name := by
      rintro rfl
      exact notKept isKept
    simp only [OrderedMap.lookup_erase, if_neg different]
    exact sound.before isKept
  · intro loops
    simp [idle] at loops

theorem KeptBlocked.erase (blocked : s.KeptBlocked) (name : String) :
    ({ s with children := OrderedMap.erase name s.children } : PriorityLb).KeptBlocked := by
  have erased : ∀ {kept : String} {names : List String}, s.Blocked kept names →
      ({ s with children := OrderedMap.erase name s.children } : PriorityLb).Blocked kept names := by
    intro kept names blocked
    induction names with
    | nil => trivial
    | cons first rest ih =>
      refine ⟨blocked.1, ?_⟩
      intro child there
      simp only [OrderedMap.lookup_erase] at there
      split at there
      · cases there
      · obtain ⟨unusable, waits⟩ := blocked.2 child there
        exact ⟨unusable, waits.imp_right ih⟩
  intro idle kept child isKept there pending
  simp only [OrderedMap.lookup_erase] at there
  split at there
  · cases there
  · exact erased (blocked idle kept child isKept there pending)

structure Concludes (s : PriorityLb) (selected : Option Nat) (deleted : Option String) : Prop
    extends s.Acted selected where
  idle : ∀ name, deleted = some name → s.updating = none
  notKept : ∀ name, deleted = some name → s.currentChildFromBeforeUpdate ≠ some name
  notSelected : ∀ name priority, deleted = some name → selected = some priority →
    s.config.priorities[priority]? ≠ some name

variable {selected : Option Nat}

theorem Acted.concludes (acted : s.Acted selected) : s.Concludes selected none :=
  ⟨acted, nofun, nofun, nofun⟩

theorem Concludes.conclude {selected : Option Nat} {deleted : Option String}
    (concludes : s.Concludes selected deleted) :
    (s.conclude selected deleted).Sound ∧ (s.conclude selected deleted).KeptBlocked := by
  have kept : (selected.elim s s.selectPriority).Sound ∧
      (selected.elim s s.selectPriority).KeptBlocked ∧
      (∀ name, deleted = some name → (selected.elim s s.selectPriority).updating = none ∧
        (selected.elim s s.selectPriority).currentChildFromBeforeUpdate ≠ some name) := by
    cases selected with
    | none => exact ⟨concludes.toActed.sound, concludes.blocked rfl,
        fun name isDeleted => ⟨concludes.idle name isDeleted, concludes.notKept name isDeleted⟩⟩
    | some priority =>
      obtain ⟨name, child, listed, _, there, _⟩ := concludes.selectable priority rfl
      obtain ⟨chosen, equation, _⟩ := selectPriority_eq listed there
      refine ⟨concludes.toActed.sound.selectPriority concludes.selectable, ?_, ?_⟩
      · intro _ kept child isKept
        simp only [Option.elim_some, equation] at isKept
        cases isKept
      · intro name isDeleted
        simp only [Option.elim_some, equation]
        exact ⟨concludes.idle name isDeleted, by simp⟩
  cases deleted with
  | none => exact ⟨kept.1, kept.2.1⟩
  | some name =>
    obtain ⟨idle, notKept⟩ := kept.2.2 name rfl
    exact ⟨kept.1.erase idle notKept, kept.2.1.erase name⟩

theorem Sound.concludes_tryNextPriority (sound : s.Sound) (idle : s.updating = none)
    (noneKept : s.currentChildFromBeforeUpdate = none) (away : s.Blocked name s.config.priorities) :
    (s.tryNextPriority true).1.Concludes (s.tryNextPriority true).2 (some name) := by
  have acted := acted_tryNextPriority sound true
  have frame := tryNextPriority_frame s true
  have outcome := tryNextPriority_outcome s true
  generalize s.tryNextPriority true = result at acted frame outcome
  obtain ⟨after, chosen⟩ := result
  refine ⟨acted, fun _ _ => frame.updating.trans idle, ?_, ?_⟩
  · intro other _ isKept
    cases outcome with
    | selected index chosen child listed first there usable active quiet before =>
      cases (before.trans noneKept).symm.trans isKept
    | exhausted reported before => cases before.symm.trans isKept
    | waiting reported before => cases (before.trans noneKept).symm.trans isKept
  · intro other priority same isSelected listed
    obtain rfl := Option.some.inj same
    cases outcome with
    | selected index chosen child listed' first there usable active quiet before goes =>
      have goes' : s.waits s.config.priorities = false := by
        refine Eq.trans ?_ goes
        apply waits_congr
        rfl
      have unlisted := away.not_mem goes'
      rw [Nat.zero_add, frame.config] at listed
      exact unlisted (List.mem_of_getElem? listed)
    | exhausted => cases isSelected
    | waiting => cases isSelected

theorem Sound.concludes_deleteChild (sound : s.Sound) (blocked : s.KeptBlocked)
    (idle : s.updating = none) (there : s.children.lookup name = some child)
    (pending : child.deactivationTimerCallbackPending = true) :
    ((s.modifyChild name .maybeReactivateLocked).deleteChild name).1.Concludes
      ((s.modifyChild name .maybeReactivateLocked).deleteChild name).2 (some name) := by
  have active : (s.modifyChild name .maybeReactivateLocked).Sound := by
    apply sound.modifyChild
    intro old there usable
    have told := sound.usable there usable
    exact told
  unfold deleteChild
  split
  · rename_i before
    -- the kept child is scheduled for removal: the loop does not come to it
    have away : s.Blocked name s.config.priorities := blocked idle name child before there pending
    have later : (s.modifyChild name .maybeReactivateLocked).Blocked name s.config.priorities :=
      away.modifyChild (.inl rfl)
    have dropped : ({ s.modifyChild name .maybeReactivateLocked with
        currentChildFromBeforeUpdate := none } : PriorityLb).Sound :=
      ⟨active.pickers, active.usable, fun isCurrent => ⟨rfl, (active.current isCurrent).2⟩,
        nofun, active.looping⟩
    exact dropped.concludes_tryNextPriority idle rfl (later.congr rfl)
  · rename_i notKept
    refine ⟨acted_none active ?_, fun _ _ => idle, ?_, nofun⟩
    · intro _ kept other isKept there' isPending
      have different : kept ≠ name := by
        rintro rfl
        exact notKept isKept
      rw [lookup_modifyChild, if_neg different] at there'
      exact (blocked idle kept other isKept there' isPending).modifyChild
        (.inr (.inr fun _ _ => ⟨id, id⟩))
    · intro other same
      obtain rfl := Option.some.inj same
      exact notKept

theorem Sound.act (sound : s.Sound) (blocked : s.KeptBlocked) {action : PriorityAction}
    {selected : Option Nat} {deleted : Option String}
    (acted : s.act action = some (s', selected, deleted)) :
    s'.shuttingDown = true ∧ selected = none ∧ deleted = none ∨ s'.Concludes selected deleted := by
  cases action with
  | startUpdate =>
    obtain ⟨_, acted⟩ := Option.ite_none_right_eq_some.mp acted
    cases acted
    refine .inr (acted_none ?_ ?_).concludes
    · unfold startUpdate
      split
      · rename_i noName
        refine ⟨sound.pickers, sound.usable, ?_, sound.before, ?_⟩
        · intro priority isCurrent
          obtain ⟨_, name, listed, _⟩ := sound.current isCurrent
          have named : s.currentName = some name := by
            rw [currentName, isCurrent, Option.bind_some, listed]
          cases noName.symm.trans named
        · intro _ name isCurrent
          obtain ⟨priority, current, _⟩ := Option.bind_eq_some_iff.mp isCurrent
          obtain ⟨_, name, listed, _⟩ := sound.current current
          have named : s.currentName = some name := by
            rw [currentName, current, Option.bind_some, listed]
          cases noName.symm.trans named
      · split
        · rename_i name _ there
          refine ⟨sound.pickers, sound.usable, nofun, ?_, ?_⟩
          · intro kept isKept
            obtain rfl := Option.some.inj isKept
            exact there
          · intro _ other isCurrent
            cases isCurrent
        · exact ⟨sound.pickers, sound.usable, sound.current, sound.before, sound.looping⟩
    · unfold startUpdate
      split
      · intro idle
        cases idle
      · split
        · intro idle
          cases idle
        · intro idle kept child isKept there pending
          exact (blocked idle kept child isKept there pending).congr rfl
  | updateChild =>
    obtain ⟨visited, looping, acted⟩ := Option.bind_eq_some_iff.mp acted
    obtain ⟨⟨name, child⟩, _, acted⟩ := Option.map_eq_some_iff.mp acted
    cases acted
    refine .inr (acted_none ?_ fun idle => (by cases idle)).concludes
    have visit : (if name ∈ s.config.children then s
        else s.modifyChild name .deactivateLocked).Sound := by
      split
      · exact sound
      · apply sound.modifyChild
        intro old there usable
        obtain ⟨sameUsable, samePicker⟩ := deactivateLocked_usable old
        rw [samePicker]
        exact sound.usable there (sameUsable.symm.trans usable)
    refine ⟨visit.pickers, visit.usable, visit.current, visit.before, ?_⟩
    intro _ other isCurrent
    refine visit.looping ?_ isCurrent
    have same : (if name ∈ s.config.children then s
        else s.modifyChild name .deactivateLocked).updating = s.updating := by
      split <;> rfl
    rw [same, looping]
    rfl
  | finishUpdate =>
    obtain ⟨visited, looping, acted⟩ := Option.bind_eq_some_iff.mp acted
    split at acted
    · cases acted
    · cases acted
      refine .inr (acted_tryNextPriority ?_ _).concludes
      exact ⟨sound.pickers, sound.usable, sound.current, sound.before, nofun⟩
  | report =>
    obtain ⟨child, there, acted⟩ := Option.map_eq_some_iff.mp acted
    cases acted
    refine .inr (sound.acted_onConnectivityStateUpdate blocked there rfl (fun _ => rfl)
      (fun _ => rfl)).concludes
  | failoverTimer name =>
    obtain ⟨child, there, acted⟩ := Option.bind_eq_some_iff.mp acted
    obtain ⟨_, acted⟩ := Option.ite_none_right_eq_some.mp acted
    have reported : (s.onConnectivityStateUpdate name
        { child with failoverTimerCallbackPending := false } .transientFailure
        "failover timer fired" none).1.Acted _ :=
      sound.acted_onConnectivityStateUpdate blocked there rfl
        nofun (fun alive => absurd rfl alive)
    obtain ⟨rfl, rfl, rfl⟩ := acted
    exact .inr reported.concludes
  | deactivationTimer =>
    obtain ⟨child, there, acted⟩ := Option.bind_eq_some_iff.mp acted
    obtain ⟨⟨idle, pending⟩, acted⟩ := Option.ite_none_right_eq_some.mp acted
    have isIdle : s.updating = none := by simpa using idle
    obtain ⟨rfl, rfl, rfl⟩ := acted
    exact .inr (sound.concludes_deleteChild blocked isIdle there pending)
  | exitIdle =>
    simp only [PriorityLb.act] at acted
    split at acted
    · cases acted
      exact .inr (acted_none sound blocked).concludes
    · rename_i name isCurrent
      obtain ⟨priority, current, _⟩ := Option.bind_eq_some_iff.mp isCurrent
      have noneKept := (sound.current current).1
      have notKept : ∀ t : PriorityLb, t.currentChildFromBeforeUpdate = none → t.KeptBlocked := by
        intro t none_ _ kept child isKept
        cases none_.symm.trans isKept
      split at acted
      · cases acted
        have exits : (s.modifyChild name .exitIdleLocked).Sound := by
          apply sound.modifyChild
          intro old there usable
          have same : old.exitIdleLocked.usable = old.usable ∧
              old.exitIdleLocked.picker = old.picker := by
            unfold exitIdleLocked
            split <;> exact ⟨rfl, rfl⟩
          rw [same.2]
          exact sound.usable there (same.1.symm.trans usable)
        exact .inr (acted_none exits (notKept _ noneKept)).concludes
      · cases acted
        have crashes : ({ s with crashed := true } : PriorityLb).Sound :=
          ⟨sound.pickers, sound.usable, sound.current, sound.before, sound.looping⟩
        exact .inr (acted_none crashes (notKept _ noneKept)).concludes
  | shutdown =>
    obtain ⟨_, acted⟩ := Option.ite_none_right_eq_some.mp acted
    cases acted
    exact .inl ⟨rfl, rfl, rfl⟩

variable {action : PriorityAction}

theorem step_cases (taken : s.step action = some s') :
    s.shuttingDown = false ∧ s.crashed = false ∧ ∃ acted selected deleted,
      s.act action = some (acted, selected, deleted) ∧ s' = acted.conclude selected deleted := by
  obtain ⟨running, taken⟩ := Option.ite_none_left_eq_some.mp taken
  obtain ⟨⟨acted, selected, deleted⟩, done, rfl⟩ := Option.map_eq_some_iff.mp taken
  rw [not_or] at running
  exact ⟨eq_false_of_ne_true running.1, eq_false_of_ne_true running.2, acted, selected, deleted,
    done, rfl⟩

def Invariant (s : PriorityLb) : Prop := s.shuttingDown = true ∨ s.Sound ∧ s.KeptBlocked

theorem Invariant.holds (invariant : s.Invariant) (running : s.shuttingDown = false) :
    s.Sound ∧ s.KeptBlocked :=
  invariant.resolve_left (by rw [running]; exact Bool.false_ne_true)

theorem Invariant.step (invariant : s.Invariant) (taken : s.step action = some s') :
    s'.Invariant := by
  obtain ⟨running, _, acted, selected, deleted, done, rfl⟩ := step_cases taken
  obtain ⟨sound, blocked⟩ := invariant.holds running
  rcases sound.act blocked done with ⟨down, rfl, rfl⟩ | concludes
  · exact .inl down
  · exact .inr concludes.conclude

theorem invariant_initially : ({} : PriorityLb).Invariant := by
  refine .inr ⟨⟨?_, ?_, ?_, ?_, ?_⟩, ?_⟩
  · intro report member
    cases member
  · intro name child there
    cases there
  · intro priority isCurrent
    cases isCurrent
  · intro kept isKept
    cases isKept
  · intro loops
    cases loops
  · intro _ kept child isKept
    cases isKept

/-! ## The child in use is kept -/

def CurrentActive (s : PriorityLb) : Prop :=
  ∀ priority, s.currentPriority = some priority → ∃ name child,
    s.config.priorities[priority]? = some name ∧ s.children.lookup name = some child ∧
      child.deactivationTimerCallbackPending = false

/-- No null entry has come to be used, the current child is kept, the one from before the
update is there, and no picker was null. -/
structure CurrentKept (s : PriorityLb) : Prop where
  crashed : s.crashed = false
  current : s.updating = none → s.CurrentActive
  before : ∀ kept, s.currentChildFromBeforeUpdate = some kept → (s.children.lookup kept).isSome
  pickers : ∀ report ∈ s.reports, report.picker ≠ .child none

/-- A report between updates selects its child: the child is not the one from before the
update, it can be used, and its priority is above the current one. -/
def ReportSelects (s : PriorityLb) (name : String) (state : ConnectivityState) : Prop :=
  s.updating = none ∧ (state = .ready ∨ state = .idle) ∧
    s.currentChildFromBeforeUpdate ≠ some name ∧ ∃ priority,
      s.getChildPriority name = some priority ∧ s.currentPriority.any (· < priority) = false ∧
        s.currentPriority ≠ some priority

/-- A child that is selected for its report is not scheduled for removal. -/
def ReportsActive (s : PriorityLb) (action : PriorityAction) : Prop :=
  ∀ name state status picker child, action = .report name state status picker →
    s.ReportSelects name state → s.children.lookup name = some child →
      child.deactivationTimerCallbackPending = false

/-- A name that is selected does not come again among the lower priorities. -/
def SelectsOnce (s : PriorityLb) (action : PriorityAction) : Prop :=
  ∀ acted priority deleted name, s.act action = some (acted, some priority, deleted) →
    acted.updating = none → acted.config.priorities[priority]? = some name →
    name ∉ acted.config.priorities.drop (priority + 1)

/-- What an action leaves behind of the current child, and of the one that it selects, which
is not scheduled for removal under a condition. -/
structure Chooses (s : PriorityLb) (selected : Option Nat) (deleted : Option String)
    (active : Prop) : Prop where
  works : s.shuttingDown = false ∧ s.crashed = false
  stays : selected = none → s.updating = none → ∀ priority, s.currentPriority = some priority →
    ∃ name child, s.config.priorities[priority]? = some name ∧
      s.children.lookup name = some child ∧ child.deactivationTimerCallbackPending = false ∧
      deleted ≠ some name
  chosen : s.updating = none → ∀ priority name child, selected = some priority →
    s.config.priorities[priority]? = some name → s.children.lookup name = some child →
      (child.deactivationTimerCallbackPending = false ↔ active)
  otherwise : selected = none ∨ s.updating ≠ none → active

variable {active : Prop}

theorem chooses_tryNextPriority (works : s.shuttingDown = false ∧ s.crashed = false)
    (holds : active) (reportConnecting : Bool) (deleted : Option String) :
    (s.tryNextPriority reportConnecting).1.Chooses (s.tryNextPriority reportConnecting).2 deleted
      active := by
  have frame := tryNextPriority_frame s reportConnecting
  have outcome := tryNextPriority_outcome s reportConnecting
  generalize s.tryNextPriority reportConnecting = result at frame outcome
  obtain ⟨after, selected⟩ := result
  refine ⟨⟨frame.shuttingDown.trans works.1, frame.crashed.trans works.2⟩, ?_, ?_, fun _ => holds⟩
  · intro _ _ priority isCurrent
    cases frame.currentPriority.symm.trans isCurrent
  · intro _ priority name child isSelected listed there
    refine iff_of_true ?_ holds
    cases outcome with
    | selected index chosen found listed' first there' usable isActive =>
      obtain rfl := Option.some.inj isSelected
      rw [frame.config, Nat.zero_add] at listed
      obtain rfl := Option.mem_unique listed' listed
      obtain rfl := Option.mem_unique there' there
      exact isActive
    | exhausted => cases isSelected
    | waiting => cases isSelected

theorem CurrentActive.modifyChild (kept : s.CurrentActive) {change : ChildPriority → ChildPriority}
    (active : ∀ child, s.children.lookup name = some child →
      child.deactivationTimerCallbackPending = false →
        (change child).deactivationTimerCallbackPending = false) :
    (s.modifyChild name change).CurrentActive := by
  intro priority isCurrent
  obtain ⟨current, child, listed, there, isActive⟩ := kept priority isCurrent
  by_cases same : current = name
  · subst same
    exact ⟨current, change child, listed, by simp [there], active child there isActive⟩
  · exact ⟨current, child, listed, by simp [there, same], isActive⟩

theorem CurrentActive.stays (kept : s.updating = none → s.CurrentActive) :
    s.updating = none → ∀ priority, s.currentPriority = some priority → ∃ name child,
      s.config.priorities[priority]? = some name ∧ s.children.lookup name = some child ∧
        child.deactivationTimerCallbackPending = false ∧ (none : Option String) ≠ some name := by
  intro idle priority isCurrent
  obtain ⟨name, child, listed, there, active⟩ := kept idle priority isCurrent
  exact ⟨name, child, listed, there, active, by simp⟩

theorem chooses_onConnectivityStateUpdate (works : s.shuttingDown = false ∧ s.crashed = false)
    (kept : s.updating = none → s.CurrentActive) {status : String}
    (there : s.children.lookup name = some old)
    (pending : child.deactivationTimerCallbackPending = old.deactivationTimerCallbackPending)
    (otherwise : ¬ s.ReportSelects name state → active)
    (selects : s.ReportSelects name state → (old.deactivationTimerCallbackPending = false ↔ active)) :
    (s.onConnectivityStateUpdate name child state status picker).1.Chooses
      (s.onConnectivityStateUpdate name child state status picker).2 none active := by
  have outcome := handled (s.modifyChild name fun _ => child.record state status picker) name
    (child.record state status picker)
  have recorded : s.updating = none →
      (s.modifyChild name fun _ => child.record state status picker).CurrentActive := by
    intro idle
    apply (kept idle).modifyChild
    intro before there' isActive
    obtain rfl := Option.mem_unique there there'
    rw [record_pending, pending]
    exact isActive
  unfold onConnectivityStateUpdate
  simp only
  generalize handleChildConnectivityStateChange _ name (child.record state status picker) = result
    at outcome
  cases outcome with
  | kept before =>
    have holds : active := otherwise fun selects => selects.2.2.1 before
    exact ⟨works, fun _ => CurrentActive.stays recorded, nofun, fun _ => holds⟩
  | dropped before =>
    have holds : active := otherwise fun selects => selects.2.2.1 before
    apply chooses_tryNextPriority
    · exact works
    · exact holds
  | ignored before other unusable =>
    have holds : active := by
      apply otherwise
      rintro ⟨_, state_, _, priority, listed, above, _⟩
      have usable : (child.record state status picker).usable = true := by
        rcases state_ with rfl | rfl <;> rfl
      rw [show s.currentPriority.any (· < priority) = true from unusable usable priority listed]
        at above
      cases above
    exact ⟨works, fun _ => CurrentActive.stays recorded, nofun, fun _ => holds⟩
  | failed priority before listed above failed =>
    have holds : active := by
      apply otherwise
      rintro ⟨_, usable | usable, _⟩
      · cases usable.symm.trans failed
      · cases usable.symm.trans failed
    apply chooses_tryNextPriority
    · exact works
    · exact holds
  | selected priority before listed above other usable =>
    have isUsable : state = .ready ∨ state = .idle := by
      cases state <;> simp_all [ChildPriority.usable, record]
    have selectsNow : s.updating = none → s.ReportSelects name state :=
      fun idle => ⟨idle, isUsable, before, priority, listed, above, other⟩
    refine ⟨works, nofun, ?_, ?_⟩
    · intro idle priority' chosen found isSelected listed' there'
      obtain rfl := Option.some.inj isSelected
      obtain rfl := Option.some.inj ((getChildPriority_spec listed).symm.trans listed')
      rw [lookup_modifyChild, if_pos rfl, there] at there'
      obtain rfl := Option.some.inj there'
      rw [record_pending, pending]
      exact selects (selectsNow idle)
    · rintro (none_ | looping)
      · cases none_
      · exact otherwise fun selects => looping selects.1
  | current priority before listed isCurrent =>
    have holds : active := by
      apply otherwise
      rintro ⟨_, _, _, priority', listed', _, other⟩
      obtain rfl := Option.mem_unique listed listed'
      exact other isCurrent
    exact ⟨works, fun _ => CurrentActive.stays recorded, nofun, fun _ => holds⟩

theorem reportsActive_of_ne
    (other : ∀ name state status picker, action ≠ .report name state status picker) :
    s.ReportsActive action :=
  fun name state status picker _ same => absurd same (other name state status picker)

variable {deleted : Option String}

theorem chooses_act (sound : s.Sound) (works : s.shuttingDown = false ∧ s.crashed = false)
    (good : s.CurrentKept) (acted : s.act action = some (s', selected, deleted)) :
    s'.shuttingDown = true ∧ selected = none ∧ s.ReportsActive action ∨
      s'.Chooses selected deleted (s.ReportsActive action) := by
  cases action with
  | startUpdate config =>
    obtain ⟨idle, acted⟩ := Option.ite_none_right_eq_some.mp acted
    have isIdle : s.updating = none := by simpa using idle
    cases acted
    have holds : s.ReportsActive (.startUpdate config) := reportsActive_of_ne nofun
    obtain ⟨starts, fine⟩ : (s.startUpdate config).updating ≠ none ∧
        (s.startUpdate config).shuttingDown = false ∧ (s.startUpdate config).crashed = false := by
      unfold startUpdate
      split
      · exact ⟨by simp, works⟩
      · rename_i name isCurrent
        obtain ⟨priority, current, listed⟩ := Option.bind_eq_some_iff.mp isCurrent
        obtain ⟨name', child, listed', there, _⟩ := good.current isIdle priority current
        obtain rfl := Option.mem_unique listed listed'
        rw [if_pos (by simp [there])]
        exact ⟨by simp, works⟩
    exact .inr ⟨fine, fun _ idle => absurd idle starts, fun idle => absurd idle starts,
      fun _ => holds⟩
  | updateChild =>
    obtain ⟨visited, looping, acted⟩ := Option.bind_eq_some_iff.mp acted
    obtain ⟨⟨name, child⟩, _, acted⟩ := Option.map_eq_some_iff.mp acted
    cases acted
    have holds : s.ReportsActive .updateChild := reportsActive_of_ne nofun
    refine .inr ⟨?_, nofun, nofun, fun _ => holds⟩
    have same : (if name ∈ s.config.children then s
        else s.modifyChild name .deactivateLocked).shuttingDown = s.shuttingDown ∧
        (if name ∈ s.config.children then s
          else s.modifyChild name .deactivateLocked).crashed = s.crashed := by
      split <;> exact ⟨rfl, rfl⟩
    exact ⟨same.1.trans works.1, same.2.trans works.2⟩
  | finishUpdate =>
    obtain ⟨visited, looping, acted⟩ := Option.bind_eq_some_iff.mp acted
    have holds : s.ReportsActive .finishUpdate := reportsActive_of_ne nofun
    split at acted
    · cases acted
    · cases acted
      refine .inr ?_
      apply chooses_tryNextPriority
      · exact works
      · exact holds
  | report name state status picker =>
    obtain ⟨child, there, acted⟩ := Option.map_eq_some_iff.mp acted
    cases acted
    refine .inr ?_
    apply chooses_onConnectivityStateUpdate works good.current there rfl
    · intro doesNot name' state' status' picker' child' same selects
      cases same
      exact absurd selects doesNot
    · intro selects
      constructor
      · intro active name' state' status' picker' child' same _ there'
        cases same
        obtain rfl := Option.mem_unique there there'
        exact active
      · intro active
        exact active name state status picker child rfl selects there
  | failoverTimer name =>
    obtain ⟨child, there, acted⟩ := Option.bind_eq_some_iff.mp acted
    obtain ⟨_, acted⟩ := Option.ite_none_right_eq_some.mp acted
    have holds : s.ReportsActive (.failoverTimer name) := reportsActive_of_ne nofun
    obtain ⟨rfl, rfl, rfl⟩ := acted
    refine .inr ?_
    refine chooses_onConnectivityStateUpdate works good.current there ?_ (fun _ => holds) ?_
    · rfl
    · rintro ⟨_, usable | usable, _⟩ <;> cases usable
  | deactivationTimer name =>
    obtain ⟨child, there, acted⟩ := Option.bind_eq_some_iff.mp acted
    obtain ⟨⟨idle, pending⟩, acted⟩ := Option.ite_none_right_eq_some.mp acted
    have isIdle : s.updating = none := by simpa using idle
    have holds : s.ReportsActive (.deactivationTimer name) := reportsActive_of_ne nofun
    simp only [Option.some.injEq, Prod.mk.injEq] at acted
    obtain ⟨rfl, rfl, rfl⟩ := acted
    refine .inr ?_
    unfold deleteChild
    split
    · apply chooses_tryNextPriority
      · exact works
      · exact holds
    · refine ⟨works, ?_, nofun, fun _ => holds⟩
      intro _ _ priority isCurrent
      obtain ⟨current, child', listed, there', active⟩ := good.current isIdle priority isCurrent
      have different : current ≠ name := by
        rintro rfl
        obtain rfl := Option.mem_unique there there'
        rw [active] at pending
        cases pending
      exact ⟨current, child', listed, by simp [different, there'], active,
        fun same => different (Option.some.inj same).symm⟩
  | exitIdle =>
    have holds : s.ReportsActive .exitIdle := reportsActive_of_ne nofun
    simp only [PriorityLb.act] at acted
    split at acted
    · cases acted
      exact .inr ⟨works, fun _ => CurrentActive.stays good.current, nofun, fun _ => holds⟩
    · rename_i name isCurrent
      have there : (s.children.lookup name).isSome := by
        cases looping : s.updating with
        | some => exact sound.looping (by simp [looping]) isCurrent
        | none =>
          obtain ⟨priority, current, listed⟩ := Option.bind_eq_some_iff.mp isCurrent
          obtain ⟨name', child, listed', there, _⟩ := good.current looping priority current
          obtain rfl := Option.mem_unique listed listed'
          simp [there]
      rw [if_pos there] at acted
      cases acted
      refine .inr ⟨works, fun _ => CurrentActive.stays ?_, nofun, fun _ => holds⟩
      intro idle
      apply (good.current idle).modifyChild
      intro child _ active
      unfold exitIdleLocked
      split <;> exact active
  | shutdown =>
    obtain ⟨_, acted⟩ := Option.ite_none_right_eq_some.mp acted
    cases acted
    exact .inl ⟨rfl, rfl, reportsActive_of_ne nofun⟩

/-- After a selection the current child is kept exactly if the child was not scheduled for
removal, and is not so as a lower priority of its own. -/
theorem currentActive_selectPriority (listed : s.config.priorities[priority]? = some name)
    (there : s.children.lookup name = some child) :
    (s.selectPriority priority).CurrentActive ↔
      child.deactivationTimerCallbackPending = false ∧
        name ∉ s.config.priorities.drop (priority + 1) := by
  obtain ⟨chosen, equation, found, _, _, pending⟩ := selectPriority_eq listed there
  rw [← pending]
  have isCurrent : (s.selectPriority priority).currentPriority = some priority := by rw [equation]
  have config : (s.selectPriority priority).config = s.config := by rw [equation]
  constructor
  · intro active
    obtain ⟨name', child', listed', there', isActive⟩ := active priority isCurrent
    rw [config, listed] at listed'
    obtain rfl := Option.some.inj listed'
    obtain rfl := Option.mem_unique found there'
    exact isActive
  · intro isActive priority' isCurrent'
    obtain rfl := Option.mem_unique isCurrent isCurrent'
    exact ⟨name, chosen, by rw [config]; exact listed, found, isActive⟩

/-- A state in which the policy is at work. -/
def status (s : PriorityLb) : Bool × Bool × Option (Option String) :=
  (s.shuttingDown, s.crashed, s.updating)

theorem status_conclude (concludes : s.Concludes selected deleted) :
    (s.conclude selected deleted).status = s.status := by
  have selects : (selected.elim s s.selectPriority).status = s.status := by
    cases selected with
    | none => rfl
    | some priority =>
      obtain ⟨name, child, listed, _, there, _⟩ := concludes.selectable priority rfl
      obtain ⟨chosen, equation, _⟩ := selectPriority_eq listed there
      simp only [Option.elim_some, equation, status]
  cases deleted <;> exact selects

theorem currentKept_conclude_iff (concludes : s.Concludes selected deleted)
    (chooses : s.Chooses selected deleted active) :
    (s.conclude selected deleted).CurrentKept ↔
      active ∧ ∀ priority name, selected = some priority → s.updating = none →
        s.config.priorities[priority]? = some name →
          name ∉ s.config.priorities.drop (priority + 1) := by
  have sound := concludes.conclude.1
  have kept_iff : ∀ works : (s.conclude selected deleted).crashed = false,
      ((s.conclude selected deleted).CurrentKept ↔
        ((s.conclude selected deleted).updating = none →
          (s.conclude selected deleted).CurrentActive)) := by
    intro works
    exact ⟨fun kept => kept.current,
      fun current => ⟨works, current, fun kept isKept => sound.before isKept, sound.pickers⟩⟩
  cases selected with
  | none =>
    have fields : (s.conclude none deleted).crashed = s.crashed ∧
        (s.conclude none deleted).updating = s.updating ∧
        (s.conclude none deleted).currentPriority = s.currentPriority ∧
        (s.conclude none deleted).config = s.config := by
      cases deleted <;> exact ⟨rfl, rfl, rfl, rfl⟩
    obtain ⟨works, idle, current, config⟩ := fields
    rw [kept_iff (works.trans chooses.works.2)]
    refine iff_of_true ?_ ⟨chooses.otherwise (.inl rfl), nofun⟩
    intro isIdle priority isCurrent
    obtain ⟨name, child, listed, there, isActive, different⟩ :=
      chooses.stays rfl (idle ▸ isIdle) priority (current ▸ isCurrent)
    refine ⟨name, child, config ▸ listed, ?_, isActive⟩
    cases deleted with
    | none => exact there
    | some gone =>
      have other : name ≠ gone := fun same => different (congrArg some same.symm)
      simp only [conclude, Option.elim_none, Option.elim_some, OrderedMap.lookup_erase,
        if_neg other]
      exact there
  | some priority =>
    obtain ⟨name, child, listed, _, there, _⟩ := concludes.selectable priority rfl
    obtain ⟨chosen, equation, found, _⟩ := selectPriority_eq listed there
    have fields : (s.conclude (some priority) deleted).crashed = s.crashed ∧
        (s.conclude (some priority) deleted).updating = s.updating := by
      unfold conclude
      cases deleted with
      | none => simp only [Option.elim_some, Option.elim_none, equation, and_self]
      | some => simp only [Option.elim_some, equation, and_self]
    obtain ⟨works, idle⟩ := fields
    rw [kept_iff (works.trans chooses.works.2), idle]
    have deletes : (s.conclude (some priority) deleted).CurrentActive ↔
        (s.selectPriority priority).CurrentActive := by
      cases deleted with
      | none => exact Iff.rfl
      | some gone =>
        have other : name ≠ gone := by
          rintro rfl
          exact concludes.notSelected name priority rfl rfl listed
        constructor
        · intro active
          obtain ⟨name', child', listed', there', isActive⟩ := active priority (by
            simp [conclude, equation])
          intro priority' isCurrent
          obtain rfl : priority = priority' := by
            rw [equation] at isCurrent
            exact Option.some.inj isCurrent
          simp only [conclude, Option.elim_some, OrderedMap.lookup_erase] at there' listed'
          split at there'
          · cases there'
          · exact ⟨name', child', listed', there', isActive⟩
        · intro active
          obtain ⟨name', child', listed', there', isActive⟩ := active priority (by
            simp [equation])
          intro priority' isCurrent
          obtain rfl : priority = priority' := by
            simp only [conclude, Option.elim_some, equation] at isCurrent
            exact Option.some.inj isCurrent
          have same : name' = name := by
            rw [equation] at listed'
            exact Option.mem_unique listed' listed
          subst same
          refine ⟨name', child', listed', ?_, isActive⟩
          simp only [conclude, Option.elim_some, OrderedMap.lookup_erase, if_neg other]
          exact there'
    rw [deletes, currentActive_selectPriority listed there]
    constructor
    · intro kept
      cases looping : s.updating with
      | none =>
        obtain ⟨isActive, once⟩ := kept looping
        refine ⟨(chooses.chosen looping priority name child rfl listed there).mp isActive, ?_⟩
        intro priority' name' same _ listed'
        obtain rfl := Option.some.inj same
        obtain rfl := Option.mem_unique listed listed'
        exact once
      | some =>
        refine ⟨chooses.otherwise (.inr (by simp [looping])), ?_⟩
        intro _ _ _ idle
        cases idle
    · rintro ⟨holds, once⟩ isIdle
      exact ⟨(chooses.chosen isIdle priority name child rfl listed there).mpr holds,
        once priority name rfl isIdle listed⟩

/-- The condition on one step. -/
def KeepsCurrent (s : PriorityLb) (action : PriorityAction) : Prop :=
  s.ReportsActive action ∧ s.SelectsOnce action

/-- A run keeps the current child exactly if every child that is selected for its report is
not scheduled for removal, and no name is selected that comes again. -/
theorem currentKept_iff (actions : List PriorityAction) (final : PriorityLb) :
    Machine.Run step KeepsCurrent {} actions final ↔
      Machine.Reach step {} actions final ∧
        ∀ done later, actions = done ++ later → ∀ middle, Machine.Reach step {} done middle →
          middle.shuttingDown = false → middle.CurrentKept := by
  refine Machine.Run.iff_always (fun invariant taken => Invariant.step invariant taken) ?_
    invariant_initially ?_ actions final
  · intro s action s' invariant good taken
    obtain ⟨running, works, acted, selected, deleted, done, rfl⟩ := step_cases taken
    obtain ⟨sound, blocked⟩ := invariant.holds running
    have once_iff : s.SelectsOnce action ↔ ∀ priority name, selected = some priority →
        acted.updating = none → acted.config.priorities[priority]? = some name →
          name ∉ acted.config.priorities.drop (priority + 1) := by
      constructor
      · intro once priority name same
        subst same
        exact once acted priority deleted name done
      · intro once acted' priority deleted' name done'
        obtain ⟨rfl, rfl, rfl⟩ : acted = acted' ∧ selected = some priority ∧ deleted = deleted' := by
          simpa using done.symm.trans done'
        exact once priority name rfl
    rw [KeepsCurrent, once_iff]
    rcases chooses_act sound ⟨running, works⟩ (good running) done with ⟨down, rfl, holds⟩ | chooses
    · refine iff_of_true ?_ ⟨holds, nofun⟩
      intro up
      have same : (acted.conclude none deleted).shuttingDown = acted.shuttingDown := by
        cases deleted <;> rfl
      rw [same, down] at up
      cases up
    · rcases sound.act blocked done with ⟨down, _, _⟩ | concludes
      · cases chooses.works.1.symm.trans down
      · rw [← currentKept_conclude_iff concludes chooses, forall_prop_of_true]
        have same := congrArg Prod.fst (status_conclude concludes)
        exact same.trans chooses.works.1
  · intro _
    refine ⟨rfl, nofun, nofun,
      nofun⟩

/-- A child that is kept for removal is selected while the first one is still connecting,
and is deleted later although it is the current one. -/
theorem current_scheduled_for_removal :
    ¬ ∀ actions s, Machine.Reach step {} actions s → s.shuttingDown = false → s.CurrentKept := by
  intro always
  obtain ⟨s, reach, seen⟩ := Machine.exists_reach step {}
    [.startUpdate { children := ["a", "b"], priorities := ["a", "b"] }, .finishUpdate,
      .report "a" .transientFailure "" 0, .report "b" .ready "" 1, .report "a" .ready "" 2,
      .report "a" .idle "" 3, .exitIdle, .report "a" .connecting "" 4,
      .startUpdate { children := ["a", "b"], priorities := ["a", "b"] }, .updateChild,
      .updateChild, .finishUpdate, .report "b" .ready "" 5]
    (fun s => ((s.shuttingDown, s.updating, s.currentPriority), s.config.priorities,
      (s.children.lookup "b").map (·.deactivationTimerCallbackPending)))
    ((false, none, some 1), ["a", "b"], some true) (by decide)
  simp only [Prod.mk.injEq] at seen
  obtain ⟨⟨running, idle, isCurrent⟩, listed, pending⟩ := seen
  obtain ⟨name, child, listed', there, active⟩ := (always _ s reach running).current idle 1 isCurrent
  rw [listed] at listed'
  obtain rfl := Option.some.inj listed'
  rw [there, Option.map_some, active] at pending
  cases pending

/-- In every run, also while an update is under way: every report has a picker, the current priority
names the child it is the priority of and none is kept from before the update, and each child
that can be used has a picker. -/
theorem reports_have_pickers {actions : List PriorityAction} {s : PriorityLb}
    (reach : Machine.Reach step {} actions s) (running : s.shuttingDown = false) :
    (∀ report ∈ s.reports, report.picker ≠ .child none) ∧
      (∀ priority, s.currentPriority = some priority → s.currentChildFromBeforeUpdate = none ∧
        ∃ name, s.config.priorities[priority]? = some name ∧
          s.getChildPriority name = some priority) ∧
      ∀ name child, s.children.lookup name = some child → child.usable = true →
        child.picker.isSome := by
  have invariant : Invariant s :=
    reach.invariant (fun invariant _ taken => Invariant.step invariant taken) invariant_initially
  obtain ⟨sound, _⟩ := invariant.holds running
  exact ⟨sound.pickers, fun _ => sound.current, fun _ _ => sound.usable⟩

theorem reports_have_pickers_selected : ∃ s : PriorityLb, s.currentPriority = some 0 ∧
    ∀ report ∈ s.reports, report.picker ≠ .child none := by
  obtain ⟨s, reach, seen⟩ := Machine.exists_reach step {}
    [.startUpdate { children := ["a", "b"], priorities := ["a", "b"] }, .finishUpdate,
      .report "a" .ready "" 0] (fun s => (s.shuttingDown, s.currentPriority)) (false, some 0)
    (by decide)
  obtain ⟨running, isCurrent⟩ := Prod.mk.inj seen
  exact ⟨s, isCurrent, (reports_have_pickers reach running).1⟩

end GrpcCore.ClientChannel.PriorityLb
