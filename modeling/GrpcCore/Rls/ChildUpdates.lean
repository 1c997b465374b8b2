import GrpcCore.Rls.PolicyRuns

/-!
# Updates of child policies

Which child policies an update of the policy is passed on to, with the channel arguments.
-/

namespace GrpcCore.Rls

set_option linter.unusedSectionVars false

variable {Key Target ChildConfig ParsedConfig Addresses Args : Type}

/-- `LoadBalancingPolicy::UpdateArgs`. -/
structure UpdateArgs (Config Addresses Args : Type) where
  config : Config
  addresses : Addresses
  args : Args
deriving DecidableEq

/-- The wrappers that `StartUpdate` is called on and the updates that `MaybeFinishUpdate` sends. -/
structure ChildUpdates (Target ParsedConfig Addresses Args : Type) where
  started : List Target
  sent : List (Target × UpdateArgs ParsedConfig Addresses Args)
deriving DecidableEq

namespace RlsLb

variable [DecidableEq Key] [LinearOrder Target] [DecidableEq ChildConfig] [DecidableEq Addresses]
  [DecidableEq Args] (environment : Environment Key Target ChildConfig ParsedConfig)
  (lb : RlsLb Key Target ChildConfig ParsedConfig Addresses)
  (update : UpdateArgs (RlsLbConfig Target ChildConfig) Addresses Args) (now : Int)

/-- The decision of `UpdateLocked`, made after `channel_args_` has become a copy of the arguments. -/
def updateChildPolicies : Bool :=
  let channelArgs := update.args
  decide (lb.config.map (·.childPolicyConfig) ≠ some update.config.childPolicyConfig ∨
    lb.addresses ≠ some update.addresses ∨ update.args ≠ channelArgs)

/-- What `UpdateLocked` passes on to the wrappers of the map. -/
def childUpdates : ChildUpdates Target ParsedConfig Addresses Args :=
  let updated := lb.updateState environment update.config update.addresses now
  let started :=
    if lb.updateChildPolicies update then updated.childPolicyMap.map Prod.fst
    else if (lb.updateDefault update.config).2 then update.config.defaultTarget.toList
    else []
  { started
    sent := started.filterMap fun target =>
      (environment.parseLoadBalancingConfig update.config.childPolicyConfig target).map fun parsed =>
        (target, ⟨parsed, update.addresses, update.args⟩) }

/-- A wrapper that is there at the call, and not dropped with an old default target. -/
def Existing (target : Target) : Prop :=
  target ∈ lb.childPolicyMap.map Prod.fst ∧ target ∈
    (lb.updateState environment update.config update.addresses now).childPolicyMap.map Prod.fst

variable (previous : UpdateArgs (RlsLbConfig Target ChildConfig) Addresses Args)

/-- The configuration of the children or the addresses differ from those of the update before. -/
def Moved : Prop :=
  previous.config.childPolicyConfig ≠ update.config.childPolicyConfig ∨
    previous.addresses ≠ update.addresses

/-- Existing children are updated when one of the three differs, and left alone when none does. -/
def ChildrenFollow : Prop :=
  (Moved update previous ∨ previous.args ≠ update.args →
    ∀ target, lb.Existing environment update now target →
      target ∈ (lb.childUpdates environment update now).started ∧
      ∀ parsed, environment.parseLoadBalancingConfig update.config.childPolicyConfig target =
        some parsed →
        (target, ⟨parsed, update.addresses, update.args⟩) ∈
          (lb.childUpdates environment update now).sent) ∧
  (¬(Moved update previous ∨ previous.args ≠ update.args) →
    ∀ target, lb.Existing environment update now target →
      target ∉ (lb.childUpdates environment update now).started ∧
      ∀ args, (target, args) ∉ (lb.childUpdates environment update now).sent)

variable {environment lb update now previous}

theorem updateLocked_eq : lb.updateLocked environment update.config update.addresses now =
    ((lb.updateState environment update.config update.addresses now).updatePolicies environment
      update.config (lb.updateChildPolicies update)
      (lb.updateDefault update.config).2).updatePickerLocked := by
  simp only [updateLocked, updateChildPolicies, ne_eq, not_true_eq_false, or_false]

theorem updateChildPolicies_iff (config : lb.config = some previous.config)
    (addresses : lb.addresses = some previous.addresses) :
    lb.updateChildPolicies update = true ↔ Moved update previous := by
  simp [updateChildPolicies, Moved, config, addresses]

theorem started_of_sent {target : Target} {args : UpdateArgs ParsedConfig Addresses Args}
    (sent : (target, args) ∈ (lb.childUpdates environment update now).sent) :
    target ∈ (lb.childUpdates environment update now).started := by
  obtain ⟨other, started, found⟩ := List.mem_filterMap.mp sent
  obtain ⟨_, _, same⟩ := Option.map_eq_some_iff.mp found
  cases same
  exact started

theorem absent_of_created {config : RlsLbConfig Target ChildConfig} {target : Target}
    (created : (lb.updateDefault config).2 = true) (default_ : target ∈ config.defaultTarget) :
    target ∉ lb.childPolicyMap.map Prod.fst := by
  unfold updateDefault at created
  rw [Option.mem_def.mp default_] at created
  split at created
  · cases created
  · dsimp only at created
    split at created
    · cases created
    · next absent =>
        intro member
        obtain ⟨entry, listed, rfl⟩ := List.mem_map.mp member
        have none_ := Option.not_isSome_iff_eq_none.mp absent
        simpa using List.lookup_eq_none_iff.mp none_ entry listed

theorem childrenFollow_of (config : lb.config = some previous.config)
    (addresses : lb.addresses = some previous.addresses) :
    lb.ChildrenFollow environment update now previous ↔
      (previous.args ≠ update.args → Moved update previous ∨
        ∀ target, ¬lb.Existing environment update now target) := by
  by_cases moved : Moved update previous
  · have all : (lb.childUpdates environment update now).started =
        (lb.updateState environment update.config update.addresses now).childPolicyMap.map
          Prod.fst := by
      simp only [childUpdates, (updateChildPolicies_iff config addresses).mpr moved, if_true]
    refine iff_of_true ⟨fun _ target existing => ?_, fun same => absurd (.inl moved) same⟩
      fun _ => .inl moved
    have started := all ▸ existing.2
    exact ⟨started, fun parsed valid => List.mem_filterMap.mpr ⟨target, started, by rw [valid]; rfl⟩⟩
  · have stays : lb.updateChildPolicies update = false :=
      Bool.eq_false_iff.mpr fun updates =>
        moved ((updateChildPolicies_iff config addresses).mp updates)
    have alone {target : Target} (existing : lb.Existing environment update now target) :
        target ∉ (lb.childUpdates environment update now).started := by
      simp only [childUpdates, stays, Bool.false_eq_true, if_false]
      split
      case isTrue created =>
        exact fun default_ => absent_of_created created (Option.mem_toList.mp default_) existing.1
      case isFalse => exact List.not_mem_nil
    constructor
    · intro follow changed
      exact .inr fun target existing =>
        alone existing (follow.1 (.inr changed) target existing).1
    · intro unseen
      refine ⟨fun differs target existing => ?_, fun _ target existing =>
        ⟨alone existing, fun args sent => alone existing (started_of_sent sent)⟩⟩
      have changed := differs.resolve_left moved
      exact ((unseen changed).resolve_left moved target existing).elim

section Addresses

variable {key : Key}

theorem addresses_updatePickerLocked : lb.updatePickerLocked.addresses = lb.addresses := by
  unfold updatePickerLocked
  split <;> rfl

theorem addresses_find : (lb.find key).addresses = lb.addresses := by
  unfold find
  split <;> rfl

theorem addresses_finish (targets : List Target) :
    (targets.foldl maybeFinishUpdate lb).addresses = lb.addresses := by
  induction targets generalizing lb with
  | nil => rfl
  | cons target targets ih =>
    refine ih.trans ?_
    unfold maybeFinishUpdate
    split
    · rfl
    · split <;> rfl

theorem addresses_updateLocked :
    (lb.updateLocked environment update.config update.addresses now).addresses =
      some update.addresses := by
  rw [updateLocked_eq, addresses_updatePickerLocked]
  unfold updatePolicies
  split
  · exact addresses_finish _
  · split
    · exact addresses_finish _
    · rfl

theorem addresses_findOrInsert :
    (lb.findOrInsert environment key now).2.addresses = lb.addresses := by
  unfold findOrInsert
  split <;> rfl

theorem addresses_onRlsResponseLocked (config : RlsLbConfig Target ChildConfig)
    (entry : Entry Target) (response : ResponseInfo Target) (nextAttemptTime : Int) :
    (lb.onRlsResponseLocked environment config key entry response nextAttemptTime now).1.addresses =
      lb.addresses := by
  unfold onRlsResponseLocked
  split
  · split
    · rfl
    · unfold changeTargets
      dsimp only
      split <;> rfl
  · rfl

theorem addresses_onRlsCallCompleteLocked (config : RlsLbConfig Target ChildConfig)
    (request : RlsRequest) (response : ResponseInfo Target) (nextAttemptTime : Int) :
    (lb.onRlsCallCompleteLocked environment config key request response nextAttemptTime
      now).addresses = lb.addresses :=
  (addresses_finish _).trans ((addresses_onRlsResponseLocked ..).trans addresses_findOrInsert)

end Addresses

end RlsLb

/-- Actions that leave what the last update has brought. -/
def Action.Remembers : Action Key Target ChildConfig Addresses → Prop
  | .updateLocked _ _ _ => False
  | .shutdownLocked => False
  | _ => True

namespace System

open RlsLb

variable [DecidableEq Key] [LinearOrder Target] [DecidableEq ChildConfig] [DecidableEq Addresses]
variable {environment : Environment Key Target ChildConfig ParsedConfig}
variable {system middle system' : System Key Target ChildConfig ParsedConfig Addresses}

theorem step_remembers {action : Action Key Target ChildConfig Addresses}
    (remembers : action.Remembers) (taken : system.step environment action = some system') :
    system'.lb.config = system.lb.config ∧ system'.lb.addresses = system.lb.addresses := by
  cases action with
  | updateLocked => exact remembers.elim
  | shutdownLocked => exact remembers.elim
  | pick picker key =>
    obtain ⟨_, _, lb, done, rfl⟩ := step_pick taken
    have found : (system.lb.find key).config = system.lb.config := (keeps_find key).config
    cases pick_steps done with
    | shutdown => exact ⟨rfl, rfl⟩
    | answered | throttled | started => exact ⟨found, addresses_find⟩
  | rlsCallComplete key result nextAttemptTime now =>
    obtain ⟨request, config, _, _, _, rfl, rfl⟩ := step_complete taken
    exact ⟨(keeps_onRlsCallCompleteLocked config key request _ nextAttemptTime now).config,
      addresses_onRlsCallCompleteLocked ..⟩
  | backoffTimer key =>
    obtain rfl := Option.some.inj taken
    refine ⟨(keeps_onBackoffTimer key).config, ?_⟩
    unfold onBackoffTimer
    split
    · split
      · exact addresses_updatePickerLocked
      · rfl
    · rfl
  | cleanupTimer now =>
    obtain rfl := Option.some.inj taken
    refine ⟨(keeps_onCleanupTimer now).config, ?_⟩
    unfold onCleanupTimer
    split <;> rfl
  | connectivityChange channel state =>
    obtain rfl := Option.some.inj taken
    refine ⟨(keeps_onConnectivityStateChange channel state).config, ?_⟩
    unfold onConnectivityStateChange
    split
    · rfl
    · split_ifs <;> rfl
  | childUpdateState target state =>
    obtain rfl := Option.some.inj taken
    refine ⟨(keeps_childUpdateState target state).config, ?_⟩
    unfold childUpdateState
    split
    · rfl
    · split
      · rfl
      · exact addresses_updatePickerLocked
  | updatePickerCallback =>
    obtain ⟨_, rfl⟩ := Option.ite_some_none_eq_some.mp taken
    exact ⟨keeps_updatePickerLocked.config, addresses_updatePickerLocked⟩
  | destroyPicker | resetBackoffLocked =>
    obtain ⟨_, rfl⟩ := Option.ite_some_none_eq_some.mp taken
    exact ⟨rfl, rfl⟩

theorem reach_remembers {actions : List (Action Key Target ChildConfig Addresses)}
    (run : Machine.Reach (step environment) system actions system')
    (between : ∀ action ∈ actions, action.Remembers) :
    system'.lb.config = system.lb.config ∧ system'.lb.addresses = system.lb.addresses := by
  induction run with
  | nil => exact ⟨rfl, rfl⟩
  | cons _ taken _ ih =>
    obtain ⟨remembers, between⟩ := List.forall_mem_cons.mp between
    have first := step_remembers remembers taken
    have rest := ih between
    exact ⟨rest.1.trans first.1, rest.2.trans first.2⟩

/-- Children follow the next update unless it differs in the channel arguments alone, and there
are some. -/
theorem childrenFollow_iff {Args : Type} [DecidableEq Args]
    {actions : List (Action Key Target ChildConfig Addresses)}
    {previous : UpdateArgs (RlsLbConfig Target ChildConfig) Addresses Args} {start : Int}
    (updated : system.step environment (.updateLocked previous.config previous.addresses start) =
      some middle)
    (run : Machine.Reach (step environment) middle actions system')
    (between : ∀ action ∈ actions, action.Remembers)
    (update : UpdateArgs (RlsLbConfig Target ChildConfig) Addresses Args) (now : Int) :
    system'.lb.ChildrenFollow environment update now previous ↔
      (previous.args ≠ update.args → Moved update previous ∨
        ∀ target, ¬system'.lb.Existing environment update now target) := by
  obtain ⟨_, updated⟩ := Option.ite_none_left_eq_some.mp updated
  obtain rfl := Option.some.inj updated
  have remembered := reach_remembers run between
  refine childrenFollow_of (remembered.1.trans ?_) (remembered.2.trans addresses_updateLocked)
  exact (keeps_finishUpdate previous.config previous.addresses start).config

/-- A policy with a child for its default target. -/
def oneChild : UpdateArgs (RlsLbConfig Nat Nat) Nat Nat :=
  ⟨⟨"lookup", 10, 5, by decide, 100, some 0, 0⟩, 0, 0⟩

/-- New addresses reach the child with the new channel arguments. -/
theorem childrenFollow_addresses : ∃ system : System Nat Nat Nat Nat Nat,
    step ⟨fun _ => 1, fun _ _ => some 0⟩ initial (.updateLocked oneChild.config 0 0) = some system ∧
      system.lb.ChildrenFollow ⟨fun _ => 1, fun _ _ => some 0⟩
        { oneChild with addresses := 1, args := 1 } 0 oneChild :=
  have updated : step ⟨fun _ => 1, fun _ _ => some 0⟩ initial
      (.updateLocked oneChild.config oneChild.addresses 0) = some _ := rfl
  ⟨_, updated, (childrenFollow_iff updated (.nil _) nofun _ 0).mpr fun _ => .inl (.inr (by decide))⟩

/-- New channel arguments alone do not. -/
theorem args_unseen : ∃ system : System Nat Nat Nat Nat Nat,
    step ⟨fun _ => 1, fun _ _ => some 0⟩ initial (.updateLocked oneChild.config 0 0) = some system ∧
      ¬system.lb.ChildrenFollow ⟨fun _ => 1, fun _ _ => some 0⟩ { oneChild with args := 1 } 0
        oneChild := by
  refine ⟨_, rfl, fun follow => ?_⟩
  have started := (follow.1 (.inr (by decide)) 0 ⟨by decide, by decide⟩).1
  revert started
  decide

end System

end GrpcCore.Rls
