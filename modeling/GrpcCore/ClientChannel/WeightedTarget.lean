import GrpcCore.ClientChannel.WeightedPicker
import GrpcCore.ClientChannel.LbConfig
import GrpcCore.Lib.OrderedMap
import GrpcCore.Lib.Run

/-!
# The weighted-target policy

The children of a policy with the weights of its configuration. The children are updated
one after another, and every report of a child scans all of them.
-/

namespace GrpcCore.ClientChannel

open OrderedMap

/-- `WeightedChild`. Pickers are named by numbers. The weight is not initialised by the
constructor; nothing reads it before the first update. -/
structure WeightedChild where
  weight : Nat := 0
  pickerWrapper : Option Nat := none
  connectivityState : ConnectivityState := .connecting
  seenFailureSinceReady : Bool := false
  delayedRemovalTimerCallbackPending : Bool := false
  childPolicy : Bool := false
deriving DecidableEq

/-- What `UpdateState` of the parent is given as a picker. -/
inductive SubchannelPicker where
  | weighted (pickers : PickerList)
  | queue
  | transientFailure
deriving DecidableEq

/-- A report to the parent, with the configured weights of the children that were ready. -/
structure StateReport where
  connectivityState : ConnectivityState
  picker : SubchannelPicker
  readyWeights : List Nat
deriving DecidableEq

/-- The policy. The loop of an update that is under way is kept with the targets that it has
still to visit, and reports of `IDLE` with the calls of `ExitIdleLocked` that they wait for. -/
structure WeightedTargetLb where
  config : WeightedTargetLbConfig := {}
  shuttingDown : Bool := false
  targets : List (String × WeightedChild) := []
  updating : Option (List (String × Nat)) := none
  idling : List String := []
  reports : List StateReport := []
deriving DecidableEq

def WeightedChild.deactivateLocked (child : WeightedChild) : WeightedChild :=
  if child.weight = 0 then child
  else { child with weight := 0, delayedRemovalTimerCallbackPending := true }

/-- `WeightedChild::UpdateLocked`, before it updates the child policy. -/
def WeightedChild.updateLocked (weight : Nat) (child : WeightedChild) : WeightedChild :=
  { child with weight, delayedRemovalTimerCallbackPending := false, childPolicy := true }

/-- The state that a child is taken to be in after a report, if it is not ignored. -/
def WeightedChild.aggregate (state : ConnectivityState) (child : WeightedChild) :
    Option WeightedChild :=
  if child.seenFailureSinceReady then
    if state = .ready then
      some { child with seenFailureSinceReady := false, connectivityState := state }
    else none
  else
    some { child with
      seenFailureSinceReady := state = .transientFailure
      connectivityState := state }

namespace WeightedTargetLb

/-- The children of the latest configuration. -/
def children (s : WeightedTargetLb) : List (String × WeightedChild) :=
  s.targets.filter fun target => (s.config.targetMap.lookup target.1).isSome

def readyChildren (s : WeightedTargetLb) : List (String × WeightedChild) :=
  s.children.filter fun target => target.2.connectivityState = .ready

def configuredWeight (s : WeightedTargetLb) (name : String) : Nat :=
  (s.config.targetMap.lookup name).getD 0

def pickerList (s : WeightedTargetLb) : PickerList :=
  .ranges 0 (s.readyChildren.map fun target => (target.2.weight, target.2.pickerWrapper))

def aggregatedState (s : WeightedTargetLb) : ConnectivityState :=
  if !s.pickerList.isEmpty then .ready
  else if s.children.any fun target => target.2.connectivityState = .connecting then .connecting
  else if s.children.any fun target => target.2.connectivityState = .idle then .idle
  else .transientFailure

/-- `UpdateStateLocked`: the scan of all children and the report of what it has found. -/
def updateStateLocked (s : WeightedTargetLb) : WeightedTargetLb :=
  { s with
    reports := s.reports ++
      [{ connectivityState := s.aggregatedState
         picker :=
          match s.aggregatedState with
          | .ready => .weighted s.pickerList
          | .connecting | .idle => .queue
          | .transientFailure => .transientFailure
         readyWeights := s.readyChildren.map fun target => s.configuredWeight target.1 }] }

/-- `UpdateLocked`, up to its last loop. -/
def startUpdate (s : WeightedTargetLb) (config : WeightedTargetLbConfig) : WeightedTargetLb :=
  if s.shuttingDown then s
  else
    let kept := s.targets.map fun target =>
      if (config.targetMap.lookup target.1).isSome then target
      else (target.1, target.2.deactivateLocked)
    { s with
      config
      targets := config.targetMap.foldl (fun targets target =>
        OrderedMap.emplace target.1 {} targets) kept
      updating := some config.targetMap }

/-- The rest of `OnConnectivityStateUpdateLocked` after the picker has been kept. The flag
says that `UpdateStateLocked` is called. -/
def aggregate (s : WeightedTargetLb) (name : String) (child : WeightedChild)
    (state : ConnectivityState) : WeightedTargetLb × Bool :=
  match child.aggregate state with
  | none => (s, false)
  | some child => ({ s with targets := OrderedMap.modify name (fun _ => child) s.targets }, true)

end WeightedTargetLb

inductive WeightedTargetAction where
  | startUpdate (config : WeightedTargetLbConfig)
  | updateChild
  | finishUpdate
  | report (name : String) (state : ConnectivityState) (picker : Nat)
  | exitedIdle
  | removalTimer (name : String)
  | shutdown
deriving DecidableEq

namespace WeightedTargetLb

/-- What an action does before the scan that it may end with. Reports come at any time, also
from within the update of a child and from `ExitIdleLocked`; the rest is serialised. -/
def act (s : WeightedTargetLb) : WeightedTargetAction → Option (WeightedTargetLb × Bool)
  | .startUpdate config =>
    if s.updating.isNone ∧ s.idling = [] then some (s.startUpdate config, false) else none
  | .updateChild =>
    match s.updating, s.idling with
    | some ((name, weight) :: rest), [] =>
      some ({ s with
        targets := OrderedMap.modify name (WeightedChild.updateLocked weight) s.targets
        updating := some rest }, false)
    | _, _ => none
  | .finishUpdate =>
    match s.updating, s.idling with
    | some [], [] => some ({ s with updating := none }, true)
    | _, _ => none
  | .report name state picker =>
    (s.targets.lookup name).bind fun child =>
      if child.childPolicy then
        let child := { child with pickerWrapper := some picker }
        let s := { s with targets := OrderedMap.modify name (fun _ => child) s.targets }
        if state = .idle then some ({ s with idling := name :: s.idling }, false)
        else some (s.aggregate name child state)
      else none
  | .exitedIdle =>
    match s.idling with
    | [] => none
    | name :: rest =>
      (s.targets.lookup name).map fun child =>
        ({ s with idling := rest } : WeightedTargetLb).aggregate name child .idle
  | .removalTimer name =>
    if s.updating.isNone ∧ s.idling = [] then
      match s.targets.lookup name with
      | none => some (s, false)
      | some child =>
        if child.delayedRemovalTimerCallbackPending ∧ child.weight = 0 then
          some ({ s with targets := OrderedMap.erase name s.targets }, false)
        else some (s, false)
    else none
  | .shutdown =>
    if s.updating.isNone ∧ s.idling = [] then
      some ({ s with shuttingDown := true, targets := [] }, false)
    else none

def step (s : WeightedTargetLb) (action : WeightedTargetAction) : Option WeightedTargetLb :=
  (s.act action).map fun (s, scans) => if scans then s.updateStateLocked else s

/-- The weights of the ready children are those of the configuration as far as the sum goes,
none of them is zero, and the sum fits into 32 bits. -/
structure Balanced (s : WeightedTargetLb) : Prop where
  positive : ∀ target ∈ s.readyChildren, 0 < target.2.weight
  fits : (s.readyChildren.map (·.2.weight)).sum < 4294967296
  configured : (s.readyChildren.map (·.2.weight)).sum =
    (s.readyChildren.map fun target => s.configuredWeight target.1).sum

/-- A step of the policy whose scan finds its children balanced. -/
def BalancedScan (s : WeightedTargetLb) (action : WeightedTargetAction) : Prop :=
  ∀ scanned, s.act action = some (scanned, true) → scanned.Balanced

/-- Every picker that was handed to the parent. -/
def PickersWellFormed (s : WeightedTargetLb) : Prop :=
  ∀ report ∈ s.reports, ∀ pickers, report.picker = .weighted pickers →
    pickers.WellFormed report.readyWeights.sum ∧ pickers.PicksByRange report.readyWeights.sum

/-- What holds in every run. Children that the update has passed have their new weight. -/
structure Sound (s : WeightedTargetLb) : Prop where
  weights : ∀ target ∈ s.targets, target.2.weight < 4294967296
  reported : ∀ target ∈ s.targets, target.2.connectivityState = .ready →
    target.2.pickerWrapper.isSome
  remaining : ∀ rest, s.updating = some rest → rest ⊆ s.config.targetMap
  settled : ∀ target ∈ s.targets, ∀ weight, s.config.targetMap.lookup target.1 = some weight →
    (∀ rest, s.updating = some rest → (target.1, weight) ∉ rest) → target.2.weight = weight

variable {s s' : WeightedTargetLb}

variable {target : String × WeightedChild}

theorem mem_startUpdate {kept : List (String × WeightedChild)} {targets : List (String × Nat)}
    (member : target ∈ targets.foldl (fun targets target =>
      OrderedMap.emplace target.1 ({} : WeightedChild) targets) kept) :
    target ∈ kept ∨ target.2 = {} := by
  induction targets generalizing kept with
  | nil => exact .inl member
  | cons head rest ih =>
    rcases ih member with found | new
    · exact (mem_of_mem_emplace found).imp_right And.right
    · exact .inr new

theorem Sound.startUpdate (sound : s.Sound) (config : WeightedTargetLbConfig) :
    (s.startUpdate config).Sound := by
  unfold WeightedTargetLb.startUpdate
  split
  · exact sound
  · have origin : ∀ target ∈ config.targetMap.foldl (fun targets target =>
        OrderedMap.emplace target.1 ({} : WeightedChild) targets)
          (s.targets.map fun target =>
            if (config.targetMap.lookup target.1).isSome then target
            else (target.1, target.2.deactivateLocked)),
        (∃ old ∈ s.targets, target.2 = old.2 ∨ target.2 = old.2.deactivateLocked) ∨
          target.2 = {} := by
      intro target member
      rcases mem_startUpdate member with kept | new
      · obtain ⟨old, listed, rfl⟩ := List.mem_map.mp kept
        refine .inl ⟨old, listed, ?_⟩
        split
        · exact .inl rfl
        · exact .inr rfl
      · exact .inr new
    refine ⟨?_, ?_, ?_, ?_⟩
    · intro target member
      rcases origin target member with ⟨old, listed, same | deactivated⟩ | new
      · exact same ▸ sound.weights old listed
      · rw [deactivated, WeightedChild.deactivateLocked]
        split <;> simp_all
      · simp [new]
    · intro target member ready
      rcases origin target member with ⟨old, listed, same | deactivated⟩ | new
      · rw [same] at ready ⊢
        exact sound.reported old listed ready
      · have before := sound.reported old listed
        rw [deactivated, WeightedChild.deactivateLocked] at ready ⊢
        split <;> simp_all
      · simp [new] at ready
    · intro rest started
      obtain rfl := Option.some.inj started
      exact fun _ member => member
    · intro target member weight looked passed
      exact absurd (mem_of_lookup looked) (passed _ rfl)

variable {name : String}

theorem Sound.updateChild (sound : s.Sound) {weight : Nat} {rest : List (String × Nat)}
    (updating : s.updating = some ((name, weight) :: rest)) :
    ({ s with
      targets := modify name (WeightedChild.updateLocked weight) s.targets
      updating := some rest } : WeightedTargetLb).Sound := by
  have listed : (name, weight) ∈ s.config.targetMap :=
    sound.remaining _ updating (List.mem_cons_self ..)
  refine ⟨?_, ?_, ?_, ?_⟩
  · rintro ⟨other, child⟩ member
    obtain ⟨old, before, ⟨_, rfl⟩ | ⟨_, rfl⟩⟩ := mem_modify member
    · have range := s.config.weights _ listed
      simp only [WeightedChild.updateLocked]
      omega
    · exact sound.weights _ before
  · rintro ⟨other, child⟩ member ready
    obtain ⟨old, before, ⟨_, rfl⟩ | ⟨_, rfl⟩⟩ := mem_modify member
    · exact sound.reported (other, old) before ready
    · exact sound.reported _ before ready
  · intro left started
    obtain rfl := Option.some.inj started
    exact fun _ member => sound.remaining _ updating (List.mem_cons_of_mem _ member)
  · rintro ⟨other, child⟩ member found looked passed
    obtain ⟨old, before, ⟨rfl, rfl⟩ | ⟨different, rfl⟩⟩ := mem_modify member
    · have own := lookup_of_mem s.config.ordered listed
      exact Option.mem_unique own looked
    · refine sound.settled _ before found looked ?_
      intro left started
      obtain rfl := Option.mem_unique updating started
      rintro (_ | ⟨_, later⟩)
      · exact different rfl
      · exact passed rest rfl later

variable {child' child : WeightedChild}

theorem Sound.recorded (sound : s.Sound) (found : s.targets.lookup name = some child)
    (same : child'.weight = child.weight)
    (reported : child'.connectivityState = .ready → child'.pickerWrapper.isSome) :
    ({ s with
      targets := modify name (fun _ => child') s.targets } : WeightedTargetLb).Sound := by
  have listed := mem_of_lookup found
  have cases_ : ∀ target ∈ modify name (fun _ => child') s.targets,
      target = (name, child') ∨ target ∈ s.targets := by
    rintro ⟨other, new⟩ member
    obtain ⟨old, before, ⟨rfl, rfl⟩ | ⟨_, rfl⟩⟩ := mem_modify member
    · exact .inl rfl
    · exact .inr before
  refine ⟨?_, ?_, sound.remaining, ?_⟩
  · intro target member
    rcases cases_ target member with rfl | before
    · have range := sound.weights _ listed
      exact same ▸ range
    · exact sound.weights target before
  · intro target member ready
    rcases cases_ target member with rfl | before
    · exact reported ready
    · exact sound.reported target before ready
  · intro target member weight looked passed
    rcases cases_ target member with rfl | before
    · exact same.trans (sound.settled _ listed weight looked passed)
    · exact sound.settled target before weight looked passed

theorem WeightedChild.aggregate_eq_some {state : ConnectivityState}
    (aggregated : child.aggregate state = some child') :
    child'.weight = child.weight ∧ child'.pickerWrapper = child.pickerWrapper ∧
      child'.connectivityState = state := by
  unfold WeightedChild.aggregate at aggregated
  split at aggregated
  · split at aggregated
    · obtain rfl := Option.some.inj aggregated
      exact ⟨rfl, rfl, rfl⟩
    · cases aggregated
  · obtain rfl := Option.some.inj aggregated
    exact ⟨rfl, rfl, rfl⟩

theorem Sound.aggregate (sound : s.Sound) {name : String} {child : WeightedChild}
    {state : ConnectivityState} (found : s.targets.lookup name = some child)
    (reported : state = .ready → child.pickerWrapper.isSome) :
    (s.aggregate name child state).1.Sound := by
  unfold WeightedTargetLb.aggregate
  split
  · exact sound
  · rename_i child' aggregated
    obtain ⟨weight, picker, recorded⟩ := WeightedChild.aggregate_eq_some aggregated
    refine sound.recorded found weight ?_
    rw [picker, recorded]
    exact reported

theorem Sound.act (sound : s.Sound) {action : WeightedTargetAction} {scans : Bool}
    (acted : s.act action = some (s', scans)) : s'.Sound := by
  cases action with
  | startUpdate config =>
    obtain ⟨_, acted⟩ := Option.ite_none_right_eq_some.mp acted
    cases acted
    exact sound.startUpdate config
  | updateChild =>
    simp only [WeightedTargetLb.act] at acted
    split at acted
    · rename_i updating _
      cases acted
      exact sound.updateChild updating
    · cases acted
  | finishUpdate =>
    simp only [WeightedTargetLb.act] at acted
    split at acted
    · rename_i updating _
      cases acted
      refine ⟨sound.weights, sound.reported, ?_, ?_⟩
      · intro rest started
        cases started
      · intro target member weight looked _
        refine sound.settled target member weight looked ?_
        intro rest started
        obtain rfl := Option.mem_unique updating started
        exact List.not_mem_nil
    · cases acted
  | report name state picker =>
    obtain ⟨child, found, acted⟩ := Option.bind_eq_some_iff.mp acted
    obtain ⟨_, acted⟩ := Option.ite_none_right_eq_some.mp acted
    have kept : ({ s with
        targets := modify name (fun _ => { child with pickerWrapper := some picker })
          s.targets } : WeightedTargetLb).Sound :=
      sound.recorded found rfl fun _ => rfl
    split at acted
    · cases acted
      exact ⟨kept.weights, kept.reported, kept.remaining, kept.settled⟩
    · have again := lookup_modify_self
        (fun _ => { child with pickerWrapper := some picker }) found
      have after : (WeightedTargetLb.aggregate _ name { child with pickerWrapper := some picker }
          state).1.Sound := kept.aggregate again fun _ => rfl
      rw [Option.some.inj acted] at after
      exact after
  | exitedIdle =>
    simp only [WeightedTargetLb.act] at acted
    split at acted
    · cases acted
    · rename_i name rest _
      obtain ⟨child, found, acted⟩ := Option.map_eq_some_iff.mp acted
      have kept : ({ s with idling := rest } : WeightedTargetLb).Sound :=
        ⟨sound.weights, sound.reported, sound.remaining, sound.settled⟩
      have after : (WeightedTargetLb.aggregate _ name child .idle).1.Sound :=
        kept.aggregate found (by simp)
      rw [acted] at after
      exact after
  | removalTimer =>
    obtain ⟨_, acted⟩ := Option.ite_none_right_eq_some.mp acted
    split at acted
    · cases acted
      exact sound
    · split at acted
      · cases acted
        refine ⟨?_, ?_, sound.remaining, ?_⟩
        · intro target member
          exact sound.weights target (mem_of_mem_erase member)
        · intro target member
          exact sound.reported target (mem_of_mem_erase member)
        · intro target member
          exact sound.settled target (mem_of_mem_erase member)
      · cases acted
        exact sound
  | shutdown =>
    obtain ⟨_, acted⟩ := Option.ite_none_right_eq_some.mp acted
    cases acted
    refine ⟨?_, ?_, sound.remaining, ?_⟩
    · intro target member
      cases member
    · intro target member
      cases member
    · intro target member
      cases member

theorem Sound.updateStateLocked (sound : s.Sound) : s.updateStateLocked.Sound :=
  ⟨sound.weights, sound.reported, sound.remaining, sound.settled⟩

variable {action : WeightedTargetAction}

theorem step_cases (taken : s.step action = some s') :
    ∃ acted scans, s.act action = some (acted, scans) ∧
      s' = if scans then acted.updateStateLocked else acted := by
  obtain ⟨⟨acted, scans⟩, done, rfl⟩ := Option.map_eq_some_iff.mp taken
  exact ⟨acted, scans, done, rfl⟩

theorem Sound.step (sound : s.Sound) (taken : s.step action = some s') : s'.Sound := by
  obtain ⟨acted, scans, done, rfl⟩ := step_cases taken
  split
  · exact (sound.act done).updateStateLocked
  · exact sound.act done

theorem sound_initially : ({} : WeightedTargetLb).Sound := by
  refine ⟨?_, ?_, ?_, ?_⟩
  · intro target member
    cases member
  · intro target member
    cases member
  · intro rest started
    cases started
  · intro target member
    cases member

theorem mem_targets_of_ready (member : target ∈ s.readyChildren) :
    target ∈ s.targets ∧ target.2.connectivityState = .ready ∧
      (s.config.targetMap.lookup target.1).isSome := by
  simp only [readyChildren, children, List.mem_filter, decide_eq_true_eq] at member
  exact ⟨member.1.1, member.2, member.1.2⟩

theorem wellFormed_pickerList_iff (sound : s.Sound) (ready : s.readyChildren ≠ []) :
    s.pickerList.WellFormed (s.readyChildren.map fun target => s.configuredWeight target.1).sum ↔
      s.Balanced := by
  have weights : ∀ child ∈ s.readyChildren.map fun target =>
      (target.2.weight, target.2.pickerWrapper), child.1 < 4294967296 := by
    intro child member
    obtain ⟨target, listed, rfl⟩ := List.mem_map.mp member
    exact sound.weights target (mem_targets_of_ready listed).1
  have reported : ∀ child ∈ s.readyChildren.map fun target =>
      (target.2.weight, target.2.pickerWrapper), child.2.isSome := by
    intro child member
    obtain ⟨target, listed, rfl⟩ := List.mem_map.mp member
    obtain ⟨known, isReady, _⟩ := mem_targets_of_ready listed
    exact sound.reported target known isReady
  rw [pickerList, PickerList.wellFormed_ranges_iff (by simpa using ready) weights reported]
  simp only [List.mem_map, forall_exists_index, and_imp, forall_apply_eq_imp_iff₂, List.map_map,
    Function.comp_def]
  constructor
  · rintro ⟨positive, fits, configured⟩
    exact ⟨positive, fits, configured⟩
  · rintro ⟨positive, fits, configured⟩
    exact ⟨positive, fits, configured⟩

theorem balanced_of_none_ready (none_ : s.readyChildren = []) : s.Balanced := by
  refine ⟨?_, ?_, ?_⟩ <;> simp [none_]

theorem pickerList_eq_nil_iff : s.pickerList = [] ↔ s.readyChildren = [] := by
  unfold pickerList
  cases s.readyChildren with
  | nil => simp [PickerList.ranges]
  | cons => simp [PickerList.ranges]

theorem pickersWellFormed_updateStateLocked (sound : s.Sound) (before : s.PickersWellFormed) :
    s.updateStateLocked.PickersWellFormed ↔ s.Balanced := by
  by_cases none_ : s.readyChildren = []
  · refine iff_of_true ?_ (balanced_of_none_ready none_)
    have empty : s.pickerList = [] := pickerList_eq_nil_iff.mpr none_
    intro report member pickers picked
    rcases List.mem_append.mp member with old | new
    · exact before report old pickers picked
    · obtain rfl := List.mem_singleton.mp new
      have notReady : s.aggregatedState ≠ .ready := by
        unfold aggregatedState
        rw [empty]
        simp only [List.isEmpty_nil, Bool.not_true, Bool.false_eq_true, if_false]
        split_ifs <;> simp
      split at picked <;> simp_all
  · have nonempty : s.pickerList ≠ [] := fun empty => none_ (pickerList_eq_nil_iff.mp empty)
    have isReady : s.aggregatedState = .ready := by
      unfold aggregatedState
      simp [nonempty]
    rw [← wellFormed_pickerList_iff sound none_]
    constructor
    · intro after
      refine (after _ (List.mem_append_right _ (List.mem_singleton.mpr rfl)) s.pickerList ?_).1
      simp [isReady]
    · intro wellFormed report member pickers picked
      rcases List.mem_append.mp member with old | new
      · exact before report old pickers picked
      · obtain rfl := List.mem_singleton.mp new
        simp only [isReady, SubchannelPicker.weighted.injEq] at picked
        subst picked
        exact ⟨wellFormed, wellFormed.picksByRange⟩

theorem reports_act {scans : Bool} (acted : s.act action = some (s', scans)) :
    s'.reports = s.reports := by
  cases action with
  | startUpdate =>
    obtain ⟨_, acted⟩ := Option.ite_none_right_eq_some.mp acted
    cases acted
    unfold WeightedTargetLb.startUpdate
    split <;> rfl
  | updateChild | finishUpdate =>
    simp only [WeightedTargetLb.act] at acted
    split at acted <;> cases acted
    rfl
  | report =>
    obtain ⟨child, found, acted⟩ := Option.bind_eq_some_iff.mp acted
    obtain ⟨_, acted⟩ := Option.ite_none_right_eq_some.mp acted
    split at acted
    · cases acted
      rfl
    · simp only [WeightedTargetLb.aggregate] at acted
      split at acted <;> cases acted <;> rfl
  | exitedIdle =>
    simp only [WeightedTargetLb.act] at acted
    split at acted
    · cases acted
    · obtain ⟨child, found, acted⟩ := Option.map_eq_some_iff.mp acted
      simp only [WeightedTargetLb.aggregate] at acted
      split at acted <;> cases acted <;> rfl
  | removalTimer =>
    obtain ⟨_, acted⟩ := Option.ite_none_right_eq_some.mp acted
    split at acted
    · cases acted
      rfl
    · split at acted <;> cases acted <;> rfl
  | shutdown =>
    obtain ⟨_, acted⟩ := Option.ite_none_right_eq_some.mp acted
    cases acted
    rfl

/-- A run keeps all its pickers well formed if and only if each of its scans finds the
children balanced. -/
theorem wellFormed_pickers_iff (actions : List WeightedTargetAction) (final : WeightedTargetLb) :
    Machine.Run step BalancedScan {} actions final ↔
      Machine.Reach step {} actions final ∧
        ∀ done later, actions = done ++ later → ∀ middle, Machine.Reach step {} done middle →
          middle.PickersWellFormed := by
  refine Machine.Run.iff_always (fun sound taken => Sound.step sound taken) ?_ sound_initially ?_
    actions final
  · intro s action s' sound good taken
    obtain ⟨acted, scans, done, rfl⟩ := step_cases taken
    have kept : acted.PickersWellFormed := by
      unfold PickersWellFormed
      rw [reports_act done]
      exact good
    cases scans with
    | false =>
      refine iff_of_true kept ?_
      intro scanned done'
      cases done.symm.trans done'
    | true =>
      rw [if_pos rfl, pickersWellFormed_updateStateLocked (sound.act done) kept]
      constructor
      · intro balanced scanned done'
        cases done.symm.trans done'
        exact balanced
      · intro condition
        exact condition acted done
  · intro report member
    cases member

/-- A child that left the configuration and comes back is ready with weight zero when the
child before it fails: the picker divides by zero. -/
theorem picker_divides_by_zero :
    ¬ ∀ actions s, Machine.Reach step {} actions s → s.PickersWellFormed := by
  intro always
  obtain ⟨s, reach, seen⟩ := Machine.exists_reach step {}
    [.startUpdate { targetMap := [("a", 1), ("b", 1)] }, .updateChild, .report "a" .ready 0,
      .updateChild, .report "b" .ready 1, .finishUpdate,
      .startUpdate { targetMap := [("a", 1)] }, .updateChild, .finishUpdate,
      .startUpdate { targetMap := [("a", 1), ("b", 1)] }, .updateChild,
      .report "a" .transientFailure 2]
    (fun s => s.reports.getLast?) (some ⟨.ready, .weighted [(0, some 1)], [1]⟩) (by decide)
  have wellFormed := (always _ s reach _ (List.mem_of_getLast? seen) _ rfl).1
  have positive := wellFormed.positive (0, some 1) (List.mem_singleton.mpr rfl)
  exact absurd positive (by decide)

end WeightedTargetLb

end GrpcCore.ClientChannel
