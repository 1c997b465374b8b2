import GrpcCore.ClientChannel.LbConfig
import GrpcCore.Lib.OrderedMap
import GrpcCore.Lib.Run

/-!
# The priority policy

A list of children in the order of their priorities. The first one that is ready is used;
the ones after it are kept for some time and then deleted.
-/

namespace GrpcCore.ClientChannel

open OrderedMap

/-- `ChildPriority`. Pickers are named by numbers; the failover timer leaves a null picker. -/
structure ChildPriority where
  connectivityState : ConnectivityState := .connecting
  connectivityStatus : String := ""
  picker : Option Nat := none
  deactivationTimerCallbackPending : Bool := false
  failoverTimerCallbackPending : Bool := false
deriving DecidableEq

namespace ChildPriority

def usable (child : ChildPriority) : Bool :=
  child.connectivityState = .ready || child.connectivityState = .idle

/-- The constructor starts the failover timer. -/
def create : ChildPriority := { failoverTimerCallbackPending := true }

def deactivateLocked (child : ChildPriority) : ChildPriority :=
  if child.deactivationTimerCallbackPending then child
  else
    { child with
      failoverTimerCallbackPending := false
      deactivationTimerCallbackPending := true }

def maybeReactivateLocked (child : ChildPriority) : ChildPriority :=
  { child with deactivationTimerCallbackPending := false }

def exitIdleLocked (child : ChildPriority) : ChildPriority :=
  if child.connectivityState = .idle ∧ !child.failoverTimerCallbackPending then
    { child with failoverTimerCallbackPending := true }
  else child

/-- `OnConnectivityStateUpdateLocked`, before the policy is told. -/
def record (state : ConnectivityState) (status : String) (picker : Option Nat)
    (child : ChildPriority) : ChildPriority :=
  { child with
    connectivityState := state
    connectivityStatus := status
    picker
    failoverTimerCallbackPending := child.failoverTimerCallbackPending &&
      !(state = .ready || state = .transientFailure) }

end ChildPriority

/-- What `UpdateState` of the parent is given as a picker. -/
inductive PriorityPicker where
  | child (picker : Option Nat)
  | queue
  | transientFailure
deriving DecidableEq

structure PriorityReport where
  connectivityState : ConnectivityState
  status : String
  picker : PriorityPicker
deriving DecidableEq

/-- The policy. No current priority stands for `UINT32_MAX`. The loop of an update that is
under way is kept as the name of the last child that it has visited. A call through a null
entry of `children_` is where the policy has crashed. -/
structure PriorityLb where
  config : PriorityLbConfig := {}
  children : List (String × ChildPriority) := []
  currentPriority : Option Nat := none
  currentChildFromBeforeUpdate : Option String := none
  updating : Option (Option String) := none
  shuttingDown : Bool := false
  crashed : Bool := false
  reports : List PriorityReport := []
deriving DecidableEq

namespace PriorityLb

def updateState (s : PriorityLb) (report : PriorityReport) : PriorityLb :=
  { s with reports := s.reports ++ [report] }

def childReport (child : ChildPriority) : PriorityReport :=
  { connectivityState := child.connectivityState
    status := child.connectivityStatus
    picker := .child child.picker }

def connecting : PriorityReport :=
  { connectivityState := .connecting, status := "", picker := .queue }

def noReadyPriority : PriorityReport :=
  { connectivityState := .transientFailure
    status := "no ready priority"
    picker := .transientFailure }

def modifyChild (s : PriorityLb) (name : String) (change : ChildPriority → ChildPriority) :
    PriorityLb :=
  { s with children := OrderedMap.modify name change s.children }

/-- `GetChildPriorityLocked`. -/
def getChildPriority (s : PriorityLb) (name : String) : Option Nat :=
  s.config.priorities.findIdx? (· = name)

def currentName (s : PriorityLb) : Option String :=
  s.currentPriority.bind fun priority => s.config.priorities[priority]?

def deactivateAll (s : PriorityLb) (names : List String) : PriorityLb :=
  { s with
    children := names.foldl (fun children name =>
      OrderedMap.modify name ChildPriority.deactivateLocked children) s.children }

/-- `SelectPriorityLocked`. -/
def selectPriority (s : PriorityLb) (priority : Nat) : PriorityLb :=
  let s := { s with currentPriority := some priority, currentChildFromBeforeUpdate := none }
  let s := s.deactivateAll (s.config.priorities.drop (priority + 1))
  match (s.config.priorities[priority]?).bind fun name => s.children.lookup name with
  | none => { s with crashed := true }
  | some child => s.updateState (childReport child)

/-- The loop of `TryNextPriorityLocked`, up to the selection of a priority. -/
def tryPriorities (reportConnecting : Bool) (s : PriorityLb) (priority : Nat) :
    List String → PriorityLb × Option Nat
  | [] => (({ s with currentChildFromBeforeUpdate := none } : PriorityLb).updateState noReadyPriority,
      none)
  | name :: rest =>
    let reported := if reportConnecting then s.updateState connecting else s
    match s.children.lookup name with
    | none =>
      ({ reported with children := OrderedMap.emplace name .create reported.children }, none)
    | some child =>
      if child.usable then (s.modifyChild name .maybeReactivateLocked, some priority)
      else if child.failoverTimerCallbackPending then
        (reported.modifyChild name .maybeReactivateLocked, none)
      else
        tryPriorities reportConnecting (s.modifyChild name .maybeReactivateLocked)
          (priority + 1) rest

/-- `TryNextPriorityLocked`, up to the selection of a priority. -/
def tryNextPriority (s : PriorityLb) (reportConnecting : Bool) : PriorityLb × Option Nat :=
  tryPriorities reportConnecting { s with currentPriority := none } 0 s.config.priorities

/-- `HandleChildConnectivityStateChangeLocked`, up to the selection of a priority. -/
def handleChildConnectivityStateChange (s : PriorityLb) (name : String) (child : ChildPriority) :
    PriorityLb × Option Nat :=
  if s.currentChildFromBeforeUpdate = some name then
    if child.usable then (s.updateState (childReport child), none)
    else ({ s with currentChildFromBeforeUpdate := none } : PriorityLb).tryNextPriority true
  else
    match s.getChildPriority name with
    | none => (s, none)
    | some childPriority =>
      if s.currentPriority.any (· < childPriority) then (s, none)
      else if child.connectivityState = .transientFailure then
        s.tryNextPriority (s.currentPriority = some childPriority)
      else if s.currentPriority ≠ some childPriority then
        if child.usable then (s, some childPriority) else (s, none)
      else (s.updateState (childReport child), none)

/-- `DeleteChild`, up to the selection of a priority and the deletion. -/
def deleteChild (s : PriorityLb) (name : String) : PriorityLb × Option Nat :=
  if s.currentChildFromBeforeUpdate = some name then
    ({ s with currentChildFromBeforeUpdate := none } : PriorityLb).tryNextPriority true
  else (s, none)

/-- `OnConnectivityStateUpdateLocked` of a child. -/
def onConnectivityStateUpdate (s : PriorityLb) (name : String) (child : ChildPriority)
    (state : ConnectivityState) (status : String) (picker : Option Nat) :
    PriorityLb × Option Nat :=
  let child := child.record state status picker
  (s.modifyChild name fun _ => child).handleChildConnectivityStateChange name child

/-- `UpdateLocked`, up to its loop. -/
def startUpdate (s : PriorityLb) (config : PriorityLbConfig) : PriorityLb :=
  match s.currentName with
  | none => { s with config, updating := some none }
  | some name =>
    if (s.children.lookup name).isSome then
      { s with
        config
        currentChildFromBeforeUpdate := some name
        currentPriority := none
        updating := some none }
    else { s with crashed := true }

def nextChild (s : PriorityLb) (visited : Option String) : Option (String × ChildPriority) :=
  s.children.find? fun entry => visited.all (· < entry.1)

end PriorityLb

inductive PriorityAction where
  | startUpdate (config : PriorityLbConfig)
  | updateChild
  | finishUpdate
  | report (name : String) (state : ConnectivityState) (status : String) (picker : Nat)
  | failoverTimer (name : String)
  | deactivationTimer (name : String)
  | exitIdle
  | shutdown
deriving DecidableEq

namespace PriorityLb

/-- What an action does up to the selection of a priority, and the child that it then
deletes. Reports and `ExitIdleLocked` come at any time, also while the loop of an update
visits the children. -/
def act (s : PriorityLb) : PriorityAction → Option (PriorityLb × Option Nat × Option String)
  | .startUpdate config =>
    if s.updating.isNone then some (s.startUpdate config, none, none) else none
  | .updateChild =>
    s.updating.bind fun visited =>
      (s.nextChild visited).map fun (name, _) =>
        let s :=
          if name ∈ s.config.children then s else s.modifyChild name .deactivateLocked
        ({ s with updating := some (some name) }, none, none)
  | .finishUpdate =>
    s.updating.bind fun visited =>
      match s.nextChild visited with
      | some _ => none
      | none =>
        let (s, selected) :=
          ({ s with updating := none } : PriorityLb).tryNextPriority s.children.isEmpty
        some (s, selected, none)
  | .report name state status picker =>
    (s.children.lookup name).map fun child =>
      let (s, selected) := s.onConnectivityStateUpdate name child state status (some picker)
      (s, selected, none)
  | .failoverTimer name =>
    (s.children.lookup name).bind fun child =>
      if s.updating.isNone ∧ child.failoverTimerCallbackPending then
        let child := { child with failoverTimerCallbackPending := false }
        let (s, selected) :=
          s.onConnectivityStateUpdate name child .transientFailure "failover timer fired" none
        some (s, selected, none)
      else none
  | .deactivationTimer name =>
    (s.children.lookup name).bind fun child =>
      if s.updating.isNone ∧ child.deactivationTimerCallbackPending then
        let (s, selected) := (s.modifyChild name .maybeReactivateLocked).deleteChild name
        some (s, selected, some name)
      else none
  | .exitIdle =>
    match s.currentName with
    | none => some (s, none, none)
    | some name =>
      if (s.children.lookup name).isSome then
        some (s.modifyChild name .exitIdleLocked, none, none)
      else some ({ s with crashed := true }, none, none)
  | .shutdown =>
    if s.updating.isNone then some ({ s with shuttingDown := true, children := [] }, none, none)
    else none

/-- The selection that an action ends with, and the deletion after it. -/
def conclude (s : PriorityLb) (selected : Option Nat) (deleted : Option String) : PriorityLb :=
  let s := selected.elim s s.selectPriority
  deleted.elim s fun name => { s with children := OrderedMap.erase name s.children }

def step (s : PriorityLb) (action : PriorityAction) : Option PriorityLb :=
  if s.shuttingDown ∨ s.crashed then none
  else (s.act action).map fun (s, selected, deleted) => s.conclude selected deleted

/-! ## What the loop of `TryNextPriorityLocked` does -/

/-- The loop ends at a child that is missing, or that has time left to connect. -/
def waits (s : PriorityLb) : List String → Bool
  | [] => false
  | name :: rest =>
    match s.children.lookup name with
    | none => true
    | some child => !child.usable && (child.failoverTimerCallbackPending || s.waits rest)

/-- The loop does not come to a child: it ends before it, or passes the list without it. -/
def Blocked (s : PriorityLb) (kept : String) : List String → Prop
  | [] => True
  | name :: rest =>
    name ≠ kept ∧ ∀ child, s.children.lookup name = some child → child.usable = false ∧
      (child.failoverTimerCallbackPending = true ∨ s.Blocked kept rest)

variable {s s' : PriorityLb}

@[simp] theorem lookup_modifyChild (name other : String) (change : ChildPriority → ChildPriority) :
    (s.modifyChild name change).children.lookup other =
      if other = name then (s.children.lookup name).map change else s.children.lookup other :=
  lookup_modify change

theorem waits_modifyChild {name : String} {change : ChildPriority → ChildPriority}
    (usable : ∀ child, (change child).usable = child.usable)
    (pending : ∀ child, (change child).failoverTimerCallbackPending =
      child.failoverTimerCallbackPending) (names : List String) :
    (s.modifyChild name change).waits names = s.waits names := by
  induction names with
  | nil => rfl
  | cons first rest ih =>
    simp only [waits, lookup_modifyChild, ih]
    by_cases here : first = name
    · subst here
      rw [if_pos rfl]
      cases s.children.lookup first with
      | none => rfl
      | some => simp [usable, pending]
    · rw [if_neg here]

theorem waits_reactivate (name : String) (names : List String) :
    (s.modifyChild name .maybeReactivateLocked).waits names = s.waits names := by
  apply waits_modifyChild
  · intro child
    rfl
  · intro child
    rfl

inductive TryOutcome (reportConnecting : Bool) (s : PriorityLb) (priority : Nat)
    (names : List String) (s' : PriorityLb) : Option Nat → Prop where
  | selected (index : Nat) (name : String) (child : ChildPriority)
      (listed : names[index]? = some name) (first : name ∉ names.take index)
      (there : s'.children.lookup name = some child)
      (usable : child.usable = true) (active : child.deactivationTimerCallbackPending = false)
      (quiet : s'.reports = s.reports)
      (before : s'.currentChildFromBeforeUpdate = s.currentChildFromBeforeUpdate)
      (goes : s.waits names = false) :
      TryOutcome reportConnecting s priority names s' (some (priority + index))
  | exhausted (reported : s'.reports = s.reports ++ [noReadyPriority])
      (before : s'.currentChildFromBeforeUpdate = none) (goes : s.waits names = false) :
      TryOutcome reportConnecting s priority names s' none
  | waiting (reported : s'.reports = if reportConnecting then s.reports ++ [connecting] else s.reports)
      (before : s'.currentChildFromBeforeUpdate = s.currentChildFromBeforeUpdate)
      (stops : s.waits names = true)
      (blocked : ∀ kept child, s'.children.lookup kept = some child →
        child.deactivationTimerCallbackPending = true → s'.Blocked kept names) :
      TryOutcome reportConnecting s priority names s' none

structure TryFrame (s s' : PriorityLb) : Prop where
  config : s'.config = s.config
  updating : s'.updating = s.updating
  shuttingDown : s'.shuttingDown = s.shuttingDown
  crashed : s'.crashed = s.crashed
  currentPriority : s'.currentPriority = s.currentPriority
  kept : ∀ {name : String} {child : ChildPriority}, s.children.lookup name = some child →
    s'.children.lookup name = some child ∨
      s'.children.lookup name = some child.maybeReactivateLocked
  created : ∀ {name : String} {child : ChildPriority}, s'.children.lookup name = some child →
    s.children.lookup name = none → child = .create

theorem TryFrame.refl (s : PriorityLb) : TryFrame s s :=
  ⟨rfl, rfl, rfl, rfl, rfl, .inl, fun there absent => by rw [there] at absent; cases absent⟩

theorem TryFrame.trans {s₁ s₂ s₃ : PriorityLb} (first : TryFrame s₁ s₂) (second : TryFrame s₂ s₃) :
    TryFrame s₁ s₃ := by
  refine ⟨second.config.trans first.config, second.updating.trans first.updating,
    second.shuttingDown.trans first.shuttingDown, second.crashed.trans first.crashed,
    second.currentPriority.trans first.currentPriority, ?_, ?_⟩
  · intro name child there
    rcases first.kept there with same | reactivated
    · exact second.kept same
    · rcases second.kept reactivated with same | again
      · exact .inr same
      · exact .inr again
  · intro name child there absent
    cases between : s₂.children.lookup name with
    | none => exact second.created there between
    | some =>
      obtain rfl := first.created between absent
      rcases second.kept between with same | again
      · rw [there] at same
        exact Option.some.inj same
      · rw [there] at again
        exact Option.some.inj again

theorem tryFrame_reactivate (s : PriorityLb) (name : String) :
    TryFrame s (s.modifyChild name .maybeReactivateLocked) := by
  refine ⟨rfl, rfl, rfl, rfl, rfl, ?_, ?_⟩
  · intro other child there
    rw [lookup_modifyChild]
    split
    · rename_i same
      subst same
      exact .inr (by rw [there]; rfl)
    · exact .inl there
  · intro other child there absent
    rw [lookup_modifyChild] at there
    split at there
    · rename_i same
      subst same
      rw [absent] at there
      cases there
    · rw [absent] at there
      cases there

theorem tryFrame_updateState (s : PriorityLb) (report : PriorityReport) :
    TryFrame s (s.updateState report) :=
  ⟨rfl, rfl, rfl, rfl, rfl, .inl, (TryFrame.refl s).created⟩

theorem tryFrame_create {s : PriorityLb} {name : String} (absent : s.children.lookup name = none) :
    TryFrame s { s with children := emplace name .create s.children } := by
  refine ⟨rfl, rfl, rfl, rfl, rfl, ?_, ?_⟩
  · intro other child there
    have different : other ≠ name := by
      rintro rfl
      rw [absent] at there
      cases there
    refine .inl ?_
    simp only [lookup_emplace absent, if_neg different, there]
  · intro other child there before
    simp only [lookup_emplace absent] at there
    split at there
    · exact (Option.some.inj there).symm
    · rw [before] at there
      cases there

theorem tryPriorities_frame (reportConnecting : Bool) (s : PriorityLb) (priority : Nat)
    (names : List String) :
    TryFrame s (tryPriorities reportConnecting s priority names).1 := by
  have told : ∀ s : PriorityLb,
      TryFrame s (if reportConnecting then s.updateState connecting else s) := by
    intro s
    split
    · exact tryFrame_updateState s connecting
    · exact TryFrame.refl s
  induction names generalizing s priority with
  | nil => exact ⟨rfl, rfl, rfl, rfl, rfl, .inl, (TryFrame.refl s).created⟩
  | cons name rest ih =>
    simp only [tryPriorities]
    split
    · rename_i absent
      refine (told s).trans (tryFrame_create ?_)
      split <;> exact absent
    · split
      · exact tryFrame_reactivate s name
      · split
        · exact (told s).trans (tryFrame_reactivate _ name)
        · exact (tryFrame_reactivate s name).trans (ih _ _)

theorem TryFrame.active (frame : TryFrame s s') {name : String} {child child' : ChildPriority}
    (there : s.children.lookup name = some child)
    (active : child.deactivationTimerCallbackPending = false)
    (there' : s'.children.lookup name = some child') :
    child'.deactivationTimerCallbackPending = false ∧ child'.usable = child.usable ∧
      child'.failoverTimerCallbackPending = child.failoverTimerCallbackPending := by
  rcases frame.kept there with same | reactivated
  · obtain rfl := Option.mem_unique same there'
    exact ⟨active, rfl, rfl⟩
  · obtain rfl := Option.mem_unique reactivated there'
    exact ⟨rfl, rfl, rfl⟩

theorem tryPriorities_outcome (reportConnecting : Bool) (s : PriorityLb) (priority : Nat)
    (names : List String) :
    TryOutcome reportConnecting s priority names (tryPriorities reportConnecting s priority names).1
      (tryPriorities reportConnecting s priority names).2 := by
  induction names generalizing s priority with
  | nil => exact .exhausted rfl rfl rfl
  | cons name rest ih =>
    simp only [tryPriorities]
    cases there : s.children.lookup name with
    | none =>
      simp only
      refine .waiting ?_ ?_ (by simp [waits, there]) ?_
      · split <;> rfl
      · split <;> rfl
      · intro kept child there' pending
        have absent : (if reportConnecting then s.updateState connecting else s).children.lookup
            name = none := by split <;> exact there
        simp only [lookup_emplace absent] at there'
        split at there'
        · obtain rfl := Option.some.inj there'
          cases pending
        · rename_i different
          refine ⟨Ne.symm different, ?_⟩
          intro new created
          simp only [lookup_emplace absent, if_true] at created
          obtain rfl := Option.some.inj created
          exact ⟨rfl, .inl rfl⟩
    | some child =>
      have reactivated : (s.modifyChild name .maybeReactivateLocked).children.lookup name =
          some child.maybeReactivateLocked := by simp [there]
      simp only
      cases usable : child.usable with
      | true =>
        exact .selected 0 name child.maybeReactivateLocked rfl (by simp) reactivated usable rfl
          rfl rfl (by simp [waits, there, usable])
      | false =>
        simp only [Bool.false_eq_true, if_false]
        cases pending : child.failoverTimerCallbackPending with
        | true =>
          simp only [if_true]
          refine .waiting ?_ ?_ (by simp [waits, there, usable, pending]) ?_
          · split <;> rfl
          · split <;> rfl
          · intro kept other there' isPending
            have same : (if reportConnecting then s.updateState connecting else s).children =
                s.children := by split <;> rfl
            simp only [lookup_modifyChild, same] at there'
            split at there'
            · rw [there] at there'
              obtain rfl := Option.some.inj there'
              cases isPending
            · rename_i different
              refine ⟨Ne.symm different, ?_⟩
              intro visited found
              simp only [lookup_modifyChild, same, if_pos, there, Option.map_some] at found
              obtain rfl := Option.some.inj found
              exact ⟨usable, .inl pending⟩
        | false =>
          have frame := tryPriorities_frame reportConnecting
            (s.modifyChild name .maybeReactivateLocked) (priority + 1) rest
          have waiting : s.waits (name :: rest) =
              (s.modifyChild name .maybeReactivateLocked).waits rest := by
            simp [waits, there, usable, pending, waits_reactivate]
          generalize eq : tryPriorities reportConnecting
            (s.modifyChild name .maybeReactivateLocked) (priority + 1) rest = result at frame
          obtain ⟨final, chosen⟩ := result
          have outcome := ih (s.modifyChild name .maybeReactivateLocked) (priority + 1)
          rw [eq] at outcome
          cases outcome with
          | selected index chosenName chosenChild listed first found isUsable active quiet
              before goes =>
              have index_eq : priority + 1 + index = priority + (index + 1) := by omega
              rw [index_eq]
              refine .selected (index + 1) chosenName chosenChild listed ?_ found isUsable
                active quiet before (waiting.trans goes)
              rw [List.take_succ_cons, List.mem_cons, not_or]
              refine ⟨?_, first⟩
              rintro rfl
              have same := (frame.active reactivated rfl found).2.1
              rw [isUsable] at same
              exact absurd (same.trans usable) (by simp)
          | exhausted reported before goes =>
            exact .exhausted reported before (waiting.trans goes)
          | waiting reported before stops blocked =>
            refine .waiting reported before (waiting.trans stops) ?_
            intro kept other found isPending
            have rest := blocked kept other found isPending
            refine ⟨?_, ?_⟩
            · rintro rfl
              rw [(frame.active reactivated rfl found).1] at isPending
              cases isPending
            · intro visited found'
              obtain ⟨_, sameUsable, _⟩ := frame.active reactivated rfl found'
              exact ⟨sameUsable.trans usable, .inr rest⟩

/-! ## What the handlers do -/

/-- The cases of `HandleChildConnectivityStateChangeLocked`. -/
inductive Handled (s : PriorityLb) (name : String) (child : ChildPriority) :
    PriorityLb × Option Nat → Prop where
  | kept (before : s.currentChildFromBeforeUpdate = some name) (usable : child.usable = true) :
      Handled s name child (s.updateState (childReport child), none)
  | dropped (before : s.currentChildFromBeforeUpdate = some name) (unusable : child.usable = false) :
      Handled s name child
        (({ s with currentChildFromBeforeUpdate := none } : PriorityLb).tryNextPriority true)
  | ignored (before : s.currentChildFromBeforeUpdate ≠ some name)
      (other : ∀ priority, s.getChildPriority name = some priority →
        s.currentPriority ≠ some priority)
      (unusable : child.usable = true → ∀ priority, s.getChildPriority name = some priority →
        s.currentPriority.any (· < priority) = true)
      (alive : child.connectivityState = .transientFailure → ∀ priority,
        s.getChildPriority name = some priority → s.currentPriority.any (· < priority) = true) :
      Handled s name child (s, none)
  | failed (priority : Nat) (before : s.currentChildFromBeforeUpdate ≠ some name)
      (listed : s.getChildPriority name = some priority)
      (above : s.currentPriority.any (· < priority) = false)
      (state : child.connectivityState = .transientFailure) :
      Handled s name child (s.tryNextPriority (s.currentPriority = some priority))
  | selected (priority : Nat) (before : s.currentChildFromBeforeUpdate ≠ some name)
      (listed : s.getChildPriority name = some priority)
      (above : s.currentPriority.any (· < priority) = false)
      (other : s.currentPriority ≠ some priority) (usable : child.usable = true) :
      Handled s name child (s, some priority)
  | current (priority : Nat) (before : s.currentChildFromBeforeUpdate ≠ some name)
      (listed : s.getChildPriority name = some priority)
      (isCurrent : s.currentPriority = some priority)
      (alive : child.connectivityState ≠ .transientFailure) :
      Handled s name child (s.updateState (childReport child), none)

theorem getChildPriority_spec {name : String} {priority : Nat}
    (listed : s.getChildPriority name = some priority) :
    s.config.priorities[priority]? = some name := by
  obtain ⟨bound, found, _⟩ := List.findIdx?_eq_some_iff_getElem.mp listed
  rw [List.getElem?_eq_getElem bound]
  simpa using found

theorem handled (s : PriorityLb) (name : String) (child : ChildPriority) :
    Handled s name child (s.handleChildConnectivityStateChange name child) := by
  unfold handleChildConnectivityStateChange
  split
  · rename_i before
    cases usable : child.usable with
    | true => exact .kept before usable
    | false => exact .dropped before usable
  · rename_i before
    cases listed : s.getChildPriority name with
    | none =>
      refine .ignored before ?_ ?_ ?_
      · intro priority listed'
        rw [listed] at listed'
        cases listed'
      · intro _ priority listed'
        rw [listed] at listed'
        cases listed'
      · intro _ priority listed'
        rw [listed] at listed'
        cases listed'
    | some priority =>
      simp only
      split
      · rename_i below
        refine .ignored before ?_ ?_ ?_
        · intro priority' listed' isCurrent
          obtain rfl := Option.mem_unique listed listed'
          simp [isCurrent] at below
        · intro _ priority' listed'
          obtain rfl := Option.mem_unique listed listed'
          exact below
        · intro _ priority' listed'
          obtain rfl := Option.mem_unique listed listed'
          exact below
      · rename_i notBelow
        have above : s.currentPriority.any (· < priority) = false := eq_false_of_ne_true notBelow
        split
        · rename_i state
          exact .failed priority before listed above state
        · rename_i alive
          split
          · rename_i other
            cases usable : child.usable with
            | true => exact .selected priority before listed above other usable
            | false =>
              refine .ignored before ?_ (by simp [usable]) (fun state => absurd state alive)
              intro priority' listed'
              obtain rfl := Option.mem_unique listed listed'
              exact other
          · rename_i isCurrent
            exact .current priority before listed (by simpa using isCurrent) alive

theorem waits_congr (same : s'.children = s.children) (names : List String) :
    s'.waits names = s.waits names := by
  induction names with
  | nil => rfl
  | cons name rest ih => simp only [waits, same, ih]

theorem tryNextPriority_frame (s : PriorityLb) (reportConnecting : Bool) :
    TryFrame { s with currentPriority := none } (s.tryNextPriority reportConnecting).1 :=
  tryPriorities_frame reportConnecting _ 0 _

theorem tryNextPriority_outcome (s : PriorityLb) (reportConnecting : Bool) :
    TryOutcome reportConnecting { s with currentPriority := none } 0 s.config.priorities
      (s.tryNextPriority reportConnecting).1 (s.tryNextPriority reportConnecting).2 :=
  tryPriorities_outcome reportConnecting _ 0 _

/-! ## Selection -/

theorem deactivateLocked_idem (child : ChildPriority) :
    child.deactivateLocked.deactivateLocked = child.deactivateLocked := by
  unfold ChildPriority.deactivateLocked
  split <;> simp_all

@[simp] theorem lookup_deactivateAll (s : PriorityLb) (names : List String) (other : String) :
    (s.deactivateAll names).children.lookup other =
      if other ∈ names then (s.children.lookup other).map .deactivateLocked
      else s.children.lookup other := by
  unfold deactivateAll
  induction names generalizing s with
  | nil => simp
  | cons name rest ih =>
    have later := ih (s.modifyChild name .deactivateLocked)
    simp only [lookup_modifyChild] at later
    refine later.trans ?_
    by_cases here : other = name
    · subst here
      simp only [if_true, Option.map_map, List.mem_cons, true_or]
      split
      · cases s.children.lookup other with
        | none => rfl
        | some => simp [deactivateLocked_idem]
      · rfl
    · simp [here]

theorem selectPriority_eq {priority : Nat} {name : String} {child : ChildPriority}
    (listed : s.config.priorities[priority]? = some name)
    (there : s.children.lookup name = some child) :
    ∃ selected, s.selectPriority priority =
        { s with
          currentPriority := some priority
          currentChildFromBeforeUpdate := none
          children := (s.deactivateAll (s.config.priorities.drop (priority + 1))).children
          reports := s.reports ++ [childReport selected] } ∧
      (s.selectPriority priority).children.lookup name = some selected ∧
      selected.connectivityState = child.connectivityState ∧ selected.picker = child.picker ∧
      (selected.deactivationTimerCallbackPending = false ↔
        child.deactivationTimerCallbackPending = false ∧
          name ∉ s.config.priorities.drop (priority + 1)) := by
  have looked := lookup_deactivateAll s (s.config.priorities.drop (priority + 1)) name
  rw [there, Option.map_some] at looked
  obtain ⟨selected, found, state, picker, pending⟩ : ∃ selected,
      (s.deactivateAll (s.config.priorities.drop (priority + 1))).children.lookup name =
        some selected ∧
      selected.connectivityState = child.connectivityState ∧ selected.picker = child.picker ∧
      (selected.deactivationTimerCallbackPending = false ↔
        child.deactivationTimerCallbackPending = false ∧
          name ∉ s.config.priorities.drop (priority + 1)) := by
    split at looked
    · refine ⟨_, looked, ?_, ?_, ?_⟩
      · unfold ChildPriority.deactivateLocked
        split <;> rfl
      · unfold ChildPriority.deactivateLocked
        split <;> rfl
      · unfold ChildPriority.deactivateLocked
        split <;> simp_all
    · rename_i once
      exact ⟨child, looked, rfl, rfl, by simp [once]⟩
  have equation : s.selectPriority priority =
      { s with
        currentPriority := some priority
        currentChildFromBeforeUpdate := none
        children := (s.deactivateAll (s.config.priorities.drop (priority + 1))).children
        reports := s.reports ++ [childReport selected] } := by
    unfold selectPriority
    simp only [deactivateAll, listed, Option.bind_some] at found ⊢
    rw [found]
    rfl
  refine ⟨selected, equation, ?_, state, picker, pending⟩
  rw [equation]
  exact found

end PriorityLb

end GrpcCore.ClientChannel
