import GrpcCore.Rls.RlsLb

/-!
# Runs of the route lookup policy

The policy takes picks, responses of lookup calls, timers, connectivity changes, updates
of its configuration and its own picker updates in any order. What picks and completed
calls have done is kept in a history.
-/

namespace GrpcCore.Rls

open RlsLb

set_option linter.unusedSectionVars false

variable {Key Target ChildConfig ParsedConfig Addresses : Type}

/-- A pick, with the requests that were pending for its key when it returned. -/
structure PickRecord (Key : Type) where
  key : Key
  queued : Bool
  pending : Nat
deriving DecidableEq

/-- A throttle decision, with whether its pick has started an RLS call, or a response
received on a channel. -/
inductive ThrottleEvent where
  | decision (decision : Decision) (started : Bool)
  | response (channel : Nat) (time : Int) (ok : Bool)
deriving DecidableEq

/-- A completed request, with the picker updates that were scheduled and the child
policies that were created while it completed. -/
structure Completion (Key : Type) where
  key : Key
  pickerUpdates : Nat
  childPoliciesCreated : Nat
deriving DecidableEq

/-- The policy with its history, the latest first. -/
structure System (Key Target ChildConfig ParsedConfig Addresses : Type) where
  lb : RlsLb Key Target ChildConfig ParsedConfig Addresses
  picks : List (PickRecord Key)
  events : List ThrottleEvent
  completions : List (Completion Key)
  /-- The time of the last pick or response. -/
  clock : Option Int

inductive Action (Key Target ChildConfig Addresses : Type) where
  | pick (picker : Nat) (key : Key) (now : Int) (draw : Nat)
  | rlsCallComplete (key : Key) (result : CallResult Target) (nextAttemptTime now : Int)
  | backoffTimer (key : Key)
  | cleanupTimer (now : Int)
  | connectivityChange (channel : Nat) (state : ConnectivityState)
  | childUpdateState (target : Target) (state : ConnectivityState)
  | updatePickerCallback
  | destroyPicker (picker : Nat)
  | updateLocked (config : RlsLbConfig Target ChildConfig) (addresses : Addresses) (now : Int)
  | resetBackoffLocked
  | shutdownLocked

namespace System

variable [DecidableEq Key] [LinearOrder Target] [DecidableEq ChildConfig] [DecidableEq Addresses]
variable (environment : Environment Key Target ChildConfig ParsedConfig)

def initial : System Key Target ChildConfig ParsedConfig Addresses :=
  ⟨.initial, [], [], [], none⟩

/-- One step of the policy with its history. -/
def step (system : System Key Target ChildConfig ParsedConfig Addresses) :
    Action Key Target ChildConfig Addresses →
      Option (System Key Target ChildConfig ParsedConfig Addresses)
  | .pick picker key now draw => do
    let defaultChildPolicy ← system.lb.pickers[picker]?
    let (picked, lb) ← system.lb.pick defaultChildPolicy key now draw
    some { system with
      lb
      picks := ⟨key, picked.result = .queue, (lb.requestMap.map Prod.fst).count key⟩ ::
        system.picks
      events := (picked.decision.map (.decision · picked.started)).toList ++ system.events
      clock := some now }
  | .rlsCallComplete key result nextAttemptTime now => do
    let request ← system.lb.requestMap.lookup key
    let config ← system.lb.config
    let lb := system.lb.onRlsCallCompleteLocked environment config key request result.response
      nextAttemptTime now
    some { system with
      lb
      events := .response request.rlsChannel now result.response.status.ok :: system.events
      completions := ⟨key, lb.pickerUpdates - system.lb.pickerUpdates,
        lb.childPoliciesCreated - system.lb.childPoliciesCreated⟩ :: system.completions
      clock := some now }
  | .backoffTimer key => some { system with lb := system.lb.onBackoffTimer key }
  | .cleanupTimer now => some { system with lb := system.lb.onCleanupTimer environment now }
  | .connectivityChange channel state =>
    some { system with lb := system.lb.onConnectivityStateChange channel state }
  | .childUpdateState target state =>
    some { system with lb := system.lb.childUpdateState target state }
  | .updatePickerCallback =>
    if 0 < system.lb.pickerUpdates then
      some { system with
        lb := RlsLb.updatePickerLocked
          { system.lb with pickerUpdates := system.lb.pickerUpdates - 1 } }
    else none
  | .destroyPicker picker =>
    if picker < system.lb.pickers.length then
      some { system with
        lb := RlsLb.collect { system.lb with pickers := system.lb.pickers.eraseIdx picker } }
    else none
  | .updateLocked config addresses now =>
    if system.lb.isShutdown then none
    else some { system with lb := system.lb.updateLocked environment config addresses now }
  | .resetBackoffLocked =>
    if system.lb.rlsChannel.isSome then
      some { system with lb := system.lb.resetBackoffLocked }
    else none
  | .shutdownLocked => some { system with lb := system.lb.shutdownLocked }

end System

variable {now : Int}

namespace RlsLb

variable [DecidableEq Key] [LinearOrder Target] [DecidableEq ChildConfig] [DecidableEq Addresses]
variable {environment : Environment Key Target ChildConfig ParsedConfig}
variable {lb lb' lb'' : RlsLb Key Target ChildConfig ParsedConfig Addresses}

/-- The pending requests, the channel and the configuration stay as they are. -/
structure Keeps (lb lb' : RlsLb Key Target ChildConfig ParsedConfig Addresses) : Prop where
  requestMap : lb'.requestMap = lb.requestMap
  throttles : lb'.channels.map (·.throttle) = lb.channels.map (·.throttle)
  rlsChannel : lb'.rlsChannel = lb.rlsChannel
  config : lb'.config = lb.config
  isShutdown : lb'.isShutdown = lb.isShutdown

theorem Keeps.refl (lb : RlsLb Key Target ChildConfig ParsedConfig Addresses) : Keeps lb lb :=
  ⟨rfl, rfl, rfl, rfl, rfl⟩

theorem Keeps.trans (first : Keeps lb lb') (second : Keeps lb' lb'') : Keeps lb lb'' where
  requestMap := second.requestMap.trans first.requestMap
  throttles := second.throttles.trans first.throttles
  rlsChannel := second.rlsChannel.trans first.rlsChannel
  config := second.config.trans first.config
  isShutdown := second.isShutdown.trans first.isShutdown

theorem keeps_updatePickerLocked : Keeps lb lb.updatePickerLocked := by
  unfold updatePickerLocked
  split
  · exact .refl lb
  · exact ⟨rfl, rfl, rfl, rfl, rfl⟩

variable (key : Key)

theorem keeps_find : Keeps lb (lb.find key) := by
  unfold find
  split
  · exact .refl lb
  · exact ⟨rfl, rfl, rfl, rfl, rfl⟩

theorem keeps_findOrInsert (now : Int) : Keeps lb (lb.findOrInsert environment key now).2 := by
  unfold findOrInsert
  split
  · exact ⟨rfl, rfl, rfl, rfl, rfl⟩
  · exact ⟨rfl, rfl, rfl, rfl, rfl⟩

variable (target : Target)

theorem keeps_maybeFinishUpdate : Keeps lb (lb.maybeFinishUpdate target) := by
  unfold maybeFinishUpdate
  split
  · exact .refl lb
  · split
    · exact .refl lb
    · exact ⟨rfl, rfl, rfl, rfl, rfl⟩

theorem keeps_finish (targets : List Target) :
    Keeps lb (targets.foldl maybeFinishUpdate lb) := by
  induction targets generalizing lb with
  | nil => exact .refl lb
  | cons target targets ih => exact (keeps_maybeFinishUpdate target).trans ih

variable (config : RlsLbConfig Target ChildConfig)

theorem keeps_onRlsResponseLocked (key : Key) (entry : Entry Target)
    (response : ResponseInfo Target) (nextAttemptTime now : Int) :
    Keeps lb
      (lb.onRlsResponseLocked environment config key entry response nextAttemptTime now).1 := by
  unfold onRlsResponseLocked
  split
  · split
    · exact ⟨rfl, rfl, rfl, rfl, rfl⟩
    · unfold changeTargets
      dsimp only
      split
      · exact ⟨rfl, rfl, rfl, rfl, rfl⟩
      · exact ⟨rfl, rfl, rfl, rfl, rfl⟩
  · exact ⟨rfl, rfl, rfl, rfl, rfl⟩

theorem keeps_onRlsCallCompleteLocked (key : Key) (request : RlsRequest)
    (response : ResponseInfo Target) (nextAttemptTime now : Int) :
    Keeps
      { lb.reportResponseLocked request.rlsChannel (!response.status.ok) now with
        requestMap := lb.requestMap.filter fun other => other.1 ≠ key }
      (lb.onRlsCallCompleteLocked environment config key request response nextAttemptTime now) := by
  let reported := lb.reportResponseLocked request.rlsChannel (!response.status.ok) now
  let found := reported.findOrInsert environment key now
  let answered :=
    found.2.onRlsResponseLocked environment config key found.1 response nextAttemptTime now
  have inserted : Keeps reported found.2 := keeps_findOrInsert key now
  have answers : Keeps reported answered.1 :=
    inserted.trans (keeps_onRlsResponseLocked config key found.1 response nextAttemptTime now)
  refine .trans ?_ (keeps_finish answered.2)
  have erased := congrArg
    (List.filter fun other : Key × RlsRequest => other.1 ≠ key) answers.requestMap
  exact ⟨erased, answers.throttles, answers.rlsChannel, answers.config,
    answers.isShutdown⟩

theorem keeps_onBackoffTimer : Keeps lb (lb.onBackoffTimer key) := by
  unfold onBackoffTimer
  split
  · split
    · refine .trans ?_ keeps_updatePickerLocked
      exact ⟨rfl, rfl, rfl, rfl, rfl⟩
    · exact .refl lb
  · exact .refl lb

theorem keeps_onCleanupTimer (now : Int) : Keeps lb (lb.onCleanupTimer environment now) := by
  unfold onCleanupTimer
  split
  · exact .refl lb
  · exact ⟨rfl, rfl, rfl, rfl, rfl⟩

theorem keeps_childUpdateState (state : ConnectivityState) :
    Keeps lb (lb.childUpdateState target state) := by
  unfold childUpdateState
  split
  · exact .refl lb
  · split
    · exact .refl lb
    · refine .trans ?_ keeps_updatePickerLocked
      exact ⟨rfl, rfl, rfl, rfl, rfl⟩

theorem throttles_set {channels : List RlsChannel} {channel : Nat} {rlsChannel : RlsChannel}
    (found : channels[channel]? = some rlsChannel) (flag : Bool) :
    (channels.set channel { rlsChannel with wasTransientFailure := flag }).map (·.throttle) =
      channels.map (·.throttle) := by
  apply List.ext_getElem?
  intro index
  rw [List.getElem?_map, List.getElem?_set, List.getElem?_map]
  split
  · rename_i same
    subst same
    have bound := (List.getElem?_eq_some_iff.mp found).1
    rw [if_pos bound, found]
    rfl
  · rfl

theorem keeps_onConnectivityStateChange (channel : Nat) (state : ConnectivityState) :
    Keeps lb (lb.onConnectivityStateChange channel state) := by
  unfold onConnectivityStateChange
  split
  · exact .refl lb
  · rename_i rlsChannel found
    split
    · exact .refl lb
    · split
      · exact ⟨rfl, throttles_set found false, rfl, rfl, rfl⟩
      · split
        · exact ⟨rfl, throttles_set found true, rfl, rfl, rfl⟩
        · exact .refl lb

theorem keeps_updateDefault : Keeps lb (lb.updateDefault config).1 := by
  unfold updateDefault
  split
  · exact .refl lb
  · split
    · exact ⟨rfl, rfl, rfl, rfl, rfl⟩
    · split
      · exact ⟨rfl, rfl, rfl, rfl, rfl⟩
      · exact ⟨rfl, rfl, rfl, rfl, rfl⟩

theorem keeps_updateCacheSize (now : Int) :
    Keeps lb (lb.updateCacheSize environment config now) := by
  unfold updateCacheSize
  split
  · exact .refl lb
  · exact ⟨rfl, rfl, rfl, rfl, rfl⟩

theorem keeps_updateChildren (targets : List Target) :
    Keeps lb (lb.updateChildren environment config targets) := by
  refine .trans ?_ (keeps_finish targets)
  exact ⟨rfl, rfl, rfl, rfl, rfl⟩

inductive PickSteps (lb : RlsLb Key Target ChildConfig ParsedConfig Addresses)
    (defaultChildPolicy : Option Target) (key : Key) (now : Int) (draw : Nat) :
    Picked Target → RlsLb Key Target ChildConfig ParsedConfig Addresses → Prop where
  | shutdown (down : lb.isShutdown = true) :
      PickSteps lb defaultChildPolicy key now draw
        ⟨.fail (.unavailable "LB policy already shut down"), none, false⟩ lb
  | answered (noCall : ¬ lb.mayStartCall key now) :
      PickSteps lb defaultChildPolicy key now draw
        ⟨lb.answer (lb.cache.lookup key) defaultChildPolicy now, none, false⟩ (lb.find key)
  | throttled {channel : Nat} {rlsChannel : RlsChannel} {decision : Decision} {throttle : Throttle}
      (call : lb.mayStartCall key now) (current : lb.rlsChannel = some channel)
      (found : lb.channels[channel]? = some rlsChannel)
      (decided : rlsChannel.throttle.shouldThrottle channel now draw = (decision, throttle))
      (throttled : decision.throttled = true)
      (empty : noData (lb.cache.lookup key) now = true) :
      PickSteps lb defaultChildPolicy key now draw
        ⟨defaultPick defaultChildPolicy (.unavailable "RLS request throttled"), some decision, false⟩
        { lb.find key with channels := lb.channels.set channel { rlsChannel with throttle } }
  | started {channel : Nat} {rlsChannel : RlsChannel} {decision : Decision} {throttle : Throttle}
      (call : lb.mayStartCall key now) (current : lb.rlsChannel = some channel)
      (found : lb.channels[channel]? = some rlsChannel)
      (decided : rlsChannel.throttle.shouldThrottle channel now draw = (decision, throttle))
      (goesOn : ¬ (decision.throttled = true ∧ noData (lb.cache.lookup key) now = true)) :
      PickSteps lb defaultChildPolicy key now draw
        ⟨lb.answer (lb.cache.lookup key) defaultChildPolicy now, some decision, true⟩
        (startRlsCall
          { lb.find key with channels := lb.channels.set channel { rlsChannel with throttle } }
          channel key (if noData (lb.cache.lookup key) now then none else lb.cache.lookup key))

theorem pick_steps {defaultChildPolicy : Option Target} {key : Key} {draw : Nat}
    {picked : Picked Target} (done : lb.pick defaultChildPolicy key now draw = some (picked, lb')) :
    PickSteps lb defaultChildPolicy key now draw picked lb' := by
  unfold pick at done
  split at done
  · rename_i down
    obtain ⟨rfl, rfl⟩ := Prod.mk.inj (Option.some.inj done)
    exact .shutdown down
  · dsimp only at done
    split at done
    · rename_i call
      obtain ⟨channel, current, done⟩ := Option.bind_eq_some_iff.mp done
      obtain ⟨rlsChannel, found, done⟩ := Option.bind_eq_some_iff.mp done
      split at done
      · rename_i throttled
        obtain ⟨rfl, rfl⟩ := Prod.mk.inj (Option.some.inj done)
        obtain ⟨throttled, empty⟩ := Bool.and_eq_true_iff.mp throttled
        exact .throttled call current found rfl throttled empty
      · rename_i goesOn
        obtain ⟨rfl, rfl⟩ := Prod.mk.inj (Option.some.inj done)
        rw [Bool.and_eq_true_iff] at goesOn
        exact .started call current found rfl goesOn
    · rename_i noCall
      obtain ⟨rfl, rfl⟩ := Prod.mk.inj (Option.some.inj done)
      exact .answered noCall

/-- What a step that is neither a pick nor a response does to the pending requests and the
throttles. -/
structure Quiet (lb lb' : RlsLb Key Target ChildConfig ParsedConfig Addresses) : Prop where
  requestMap : lb'.requestMap = lb.requestMap ∨ lb'.requestMap = []
  throttles : lb'.channels.map (·.throttle) = lb.channels.map (·.throttle) ∨
    lb'.channels.map (·.throttle) = lb.channels.map (·.throttle) ++ [Throttle.new]

theorem Keeps.quiet (keeps : Keeps lb lb') : Quiet lb lb' := ⟨.inl keeps.requestMap, .inl keeps.throttles⟩

theorem Quiet.after (quiet : Quiet lb' lb'') (keeps : Keeps lb lb') : Quiet lb lb'' where
  requestMap := keeps.requestMap ▸ quiet.requestMap
  throttles := keeps.throttles ▸ quiet.throttles

theorem Quiet.keeps (quiet : Quiet lb lb') (keeps : Keeps lb' lb'') : Quiet lb lb'' where
  requestMap := keeps.requestMap ▸ quiet.requestMap
  throttles := keeps.throttles ▸ quiet.throttles

theorem quiet_updateChannel : Quiet lb (lb.updateChannel config) := by
  unfold updateChannel
  split
  · exact (Keeps.refl lb).quiet
  · exact ⟨.inl rfl, .inr List.map_append⟩

theorem quiet_updateState (addresses : Addresses) (now : Int) :
    Quiet lb (lb.updateState environment config addresses now) := by
  let defaulted := (lb.updateDefault config).1
  have defaults : Keeps lb defaulted := keeps_updateDefault config
  have channel : Quiet lb (defaulted.updateChannel config) :=
    (quiet_updateChannel config).after defaults
  have resized : Quiet lb
      ((defaulted.updateChannel config).updateCacheSize environment config now) :=
    channel.keeps (keeps_updateCacheSize config now)
  exact ⟨resized.requestMap, resized.throttles⟩

theorem keeps_updatePolicies (updateChildPolicies createdDefaultChild : Bool) :
    Keeps lb (lb.updatePolicies environment config updateChildPolicies createdDefaultChild) := by
  unfold updatePolicies
  split
  · exact keeps_updateChildren config _
  · split
    · exact keeps_updateChildren config _
    · exact .refl lb

theorem keeps_finishUpdate (addresses : Addresses) (now : Int) :
    Keeps (lb.updateState environment config addresses now)
      (lb.updateLocked environment config addresses now) :=
  .trans (keeps_updatePolicies config _ _) keeps_updatePickerLocked

theorem quiet_updateLocked (addresses : Addresses) (now : Int) :
    Quiet lb (lb.updateLocked environment config addresses now) :=
  (quiet_updateState config addresses now).keeps (keeps_finishUpdate config addresses now)

end RlsLb

def Action.Quiet : Action Key Target ChildConfig Addresses → Prop
  | .pick _ _ _ _ => False
  | .rlsCallComplete _ _ _ _ => False
  | _ => True

namespace System

variable [DecidableEq Key] [LinearOrder Target] [DecidableEq ChildConfig] [DecidableEq Addresses]
variable {environment : Environment Key Target ChildConfig ParsedConfig}
variable {system system' : System Key Target ChildConfig ParsedConfig Addresses}

theorem step_pick {picker : Nat} {key : Key} {draw : Nat}
    (taken : system.step environment (.pick picker key now draw) = some system') :
    ∃ defaultChildPolicy picked lb, system.lb.pick defaultChildPolicy key now draw = some (picked, lb) ∧
      system' = { system with
        lb
        picks := ⟨key, picked.result = .queue, (lb.requestMap.map Prod.fst).count key⟩ ::
          system.picks
        events := (picked.decision.map (.decision · picked.started)).toList ++ system.events
        clock := some now } := by
  obtain ⟨defaultChildPolicy, _, taken⟩ := Option.bind_eq_some_iff.mp taken
  obtain ⟨⟨picked, lb⟩, done, taken⟩ := Option.bind_eq_some_iff.mp taken
  exact ⟨defaultChildPolicy, picked, lb, done, (Option.some.inj taken).symm⟩

theorem step_complete {key : Key} {result : CallResult Target} {nextAttemptTime : Int}
    (taken : system.step environment (.rlsCallComplete key result nextAttemptTime now) =
      some system') :
    ∃ request config lb, system.lb.requestMap.lookup key = some request ∧
      system.lb.config = some config ∧
      lb = system.lb.onRlsCallCompleteLocked environment config key request result.response
        nextAttemptTime now ∧
      system' = { system with
        lb
        events := .response request.rlsChannel now result.response.status.ok :: system.events
        completions := ⟨key, lb.pickerUpdates - system.lb.pickerUpdates,
          lb.childPoliciesCreated - system.lb.childPoliciesCreated⟩ :: system.completions
        clock := some now } := by
  obtain ⟨request, found, taken⟩ := Option.bind_eq_some_iff.mp taken
  obtain ⟨config, configured, taken⟩ := Option.bind_eq_some_iff.mp taken
  exact ⟨request, config, _, found, configured, rfl, (Option.some.inj taken).symm⟩

theorem step_quiet {action : Action Key Target ChildConfig Addresses} (quiet : action.Quiet)
    (taken : system.step environment action = some system') :
    ∃ lb, system.lb.Quiet lb ∧ system' = { system with lb } := by
  cases action with
  | pick => exact quiet.elim
  | rlsCallComplete => exact quiet.elim
  | backoffTimer key =>
    exact ⟨_, (keeps_onBackoffTimer key).quiet, (Option.some.inj taken).symm⟩
  | cleanupTimer now =>
    exact ⟨_, (keeps_onCleanupTimer now).quiet, (Option.some.inj taken).symm⟩
  | connectivityChange channel state =>
    exact ⟨_, (keeps_onConnectivityStateChange channel state).quiet,
      (Option.some.inj taken).symm⟩
  | childUpdateState target state =>
    exact ⟨_, (keeps_childUpdateState target state).quiet, (Option.some.inj taken).symm⟩
  | updatePickerCallback =>
    obtain ⟨_, taken⟩ := Option.ite_none_right_eq_some.mp taken
    refine ⟨_, RlsLb.Keeps.quiet ?_, (Option.some.inj taken).symm⟩
    refine .trans ?_ keeps_updatePickerLocked
    exact ⟨rfl, rfl, rfl, rfl, rfl⟩
  | destroyPicker | resetBackoffLocked =>
    obtain ⟨_, taken⟩ := Option.ite_none_right_eq_some.mp taken
    refine ⟨_, ?_, (Option.some.inj taken).symm⟩
    exact ⟨.inl rfl, .inl rfl⟩
  | updateLocked config addresses now =>
    obtain ⟨_, taken⟩ := Option.ite_none_left_eq_some.mp taken
    exact ⟨_, quiet_updateLocked config addresses now, (Option.some.inj taken).symm⟩
  | shutdownLocked =>
    refine ⟨_, ?_, (Option.some.inj taken).symm⟩
    exact ⟨.inr rfl, .inl rfl⟩

end System

end GrpcCore.Rls
