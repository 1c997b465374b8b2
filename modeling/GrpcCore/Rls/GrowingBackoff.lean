import GrpcCore.Rls.PolicyRuns

/-!
# Backoff of failing lookups

The `BackOff` objects of one key as the attempts they have counted since their reset. The
cache entry owns one, and lends it to the request that a pick starts.
-/

namespace GrpcCore.Rls

set_option linter.unusedSectionVars false

/-- The backoff objects for a key. The failures in a row are not known after an entry is
evicted under a pending request. -/
structure KeyBackoff where
  entry : Option Nat
  request : Option Nat
  failures : Option Nat
  /-- A failure in a row with the delay of the sequence that followed it, the latest first. -/
  delays : List (Nat × Nat)
deriving DecidableEq

namespace KeyBackoff

/-- `StartRlsCall` takes the backoff state of a stale entry. -/
def startRlsCall (backoff : KeyBackoff) : Reason → KeyBackoff
  | .stale => { backoff with entry := none, request := backoff.entry }
  | .miss => { backoff with request := none }

/-- `OnRlsResponseLocked`. Without a backoff state in the request the entry makes a new one. -/
def onRlsResponseLocked (backoff : KeyBackoff) (ok : Bool) : KeyBackoff :=
  if ok then { backoff with entry := none, request := none, failures := some 0 }
  else
    let attempt := backoff.request.getD 0 + 1
    { entry := some attempt
      request := none
      failures := backoff.failures.map (· + 1)
      delays := (backoff.failures.map fun failures => (failures + 1, attempt)).toList ++
        backoff.delays }

/-- The entry is orphaned. -/
def evict (backoff : KeyBackoff) (pending : Bool) : KeyBackoff :=
  { backoff with entry := none, failures := if pending then none else some 0 }

/-- The request is orphaned. -/
def cancel (backoff : KeyBackoff) : KeyBackoff := { backoff with request := none, failures := none }

/-- Every failure in a row is followed by the delay of its number. -/
def Grows (backoff : KeyBackoff) : Prop := ∀ delay ∈ backoff.delays, delay.2 = delay.1

/-- The failures in a row are counted by the owner of the backoff state: the entry, or the
request that was started with it. -/
def Counted (backoff : KeyBackoff) : Option Reason → Prop
  | none => ∀ failures ∈ backoff.failures, backoff.entry.getD 0 = failures
  | some .stale => ∀ failures ∈ backoff.failures, backoff.request.getD 0 = failures
  | some .miss => backoff.request = none

variable {backoff : KeyBackoff}

theorem grows_onRlsResponseLocked_iff {reason : Reason} (counted : backoff.Counted (some reason))
    (grows : backoff.Grows) (ok : Bool) :
    (backoff.onRlsResponseLocked ok).Grows ↔
      (ok = false → ∀ failures ∈ backoff.failures, failures ≠ 0 → reason = .stale) := by
  cases ok with
  | true => exact iff_of_true grows nofun
  | false =>
    cases known : backoff.failures with
    | none =>
      have same : (backoff.onRlsResponseLocked false).delays = backoff.delays := by
        simp only [onRlsResponseLocked, known]
        rfl
      exact iff_of_true (fun delay listed => grows delay (same ▸ listed)) fun _ => nofun
    | some failures =>
      have first : (backoff.onRlsResponseLocked false).Grows ↔
          backoff.request.getD 0 = failures := by
        simp only [Grows, onRlsResponseLocked, known]
        refine List.forall_mem_cons.trans ?_
        exact (and_iff_left grows).trans (Nat.add_left_inj ..)
      rw [first]
      cases reason with
      | stale => exact iff_of_true (counted failures known) fun _ _ _ _ => rfl
      | miss =>
        have unowned : backoff.request = none := counted
        rw [unowned]
        constructor
        · rintro rfl _ _ same positive
          exact absurd (Option.some.inj same).symm positive
        · intro stale
          by_contra positive
          exact Reason.noConfusion (stale rfl failures rfl (Ne.symm positive))

theorem counted_onRlsResponseLocked {ok : Bool} (grows : (backoff.onRlsResponseLocked ok).Grows) :
    (backoff.onRlsResponseLocked ok).Counted none := by
  cases ok with
  | true =>
    rintro _ ⟨⟩
    rfl
  | false =>
    rintro _ after
    obtain ⟨failures, known, rfl⟩ := Option.map_eq_some_iff.mp after
    refine grows (failures + 1, _) ?_
    simp [onRlsResponseLocked, known]

end KeyBackoff

variable {Key Target ChildConfig ParsedConfig Addresses : Type} [DecidableEq Key]

/-- The response to a request of the key, as whether it has succeeded. -/
def Action.responseFor (key : Key) : Action Key Target ChildConfig Addresses → Option Bool
  | .rlsCallComplete completed result _ _ =>
    if completed = key then some result.response.status.ok else none
  | _ => none

/-- What a step that completes no request of the key does to its backoff states. -/
def KeyBackoff.follow (backoff : KeyBackoff) (key : Key)
    (before after : RlsLb Key Target ChildConfig ParsedConfig Addresses) : KeyBackoff :=
  match before.requestMap.lookup key, after.requestMap.lookup key with
  | none, some request => backoff.startRlsCall request.reason
  | some _, none => backoff.cancel
  | pending, _ =>
    if (before.cache.lookup key).isSome ∧ after.cache.lookup key = none then
      backoff.evict pending.isSome
    else backoff

section Follow

variable {backoff : KeyBackoff} {key : Key}
variable {before after : RlsLb Key Target ChildConfig ParsedConfig Addresses}

theorem KeyBackoff.delays_follow : (backoff.follow key before after).delays = backoff.delays := by
  unfold follow
  split
  · unfold startRlsCall
    split <;> rfl
  · rfl
  · split <;> rfl

theorem KeyBackoff.counted_follow
    (kept : ∀ request, before.requestMap.lookup key = some request →
      after.requestMap.lookup key = none ∨ after.requestMap.lookup key = some request)
    (counted : backoff.Counted ((before.requestMap.lookup key).map (·.reason))) :
    (backoff.follow key before after).Counted ((after.requestMap.lookup key).map (·.reason)) := by
  cases pending : before.requestMap.lookup key with
  | none =>
    rw [pending] at counted
    cases later : after.requestMap.lookup key with
    | none =>
      simp only [follow, pending, later]
      split
      · rintro _ ⟨⟩
        rfl
      · exact counted
    | some request =>
      simp only [follow, pending, later, Option.map_some]
      cases request.reason with
      | stale => exact counted
      | miss => rfl
  | some request =>
    rcases kept request pending with gone | same
    · simp only [follow, pending, gone]
      nofun
    · simp only [follow, pending, same, Option.map_some] at counted ⊢
      split
      · cases reason : request.reason with
        | stale => nofun
        | miss =>
          rw [reason] at counted
          exact counted
      · exact counted

end Follow

/-- The policy with the backoff states of a key. -/
structure Backed (Key Target ChildConfig ParsedConfig Addresses : Type) where
  system : System Key Target ChildConfig ParsedConfig Addresses
  backoff : KeyBackoff

namespace Backed

variable [LinearOrder Target] [DecidableEq ChildConfig] [DecidableEq Addresses]
variable (environment : Environment Key Target ChildConfig ParsedConfig) (key : Key)

def initial : Backed Key Target ChildConfig ParsedConfig Addresses :=
  ⟨.initial, none, none, some 0, []⟩

def step (state : Backed Key Target ChildConfig ParsedConfig Addresses)
    (action : Action Key Target ChildConfig Addresses) :
    Option (Backed Key Target ChildConfig ParsedConfig Addresses) :=
  (state.system.step environment action).map fun system =>
    ⟨system, match action.responseFor key with
      | some ok => state.backoff.onRlsResponseLocked ok
      | none => state.backoff.follow key state.system.lb system.lb⟩

/-- A request that fails after a failure was started while there was data that had not
expired. -/
def FailsStale (state : Backed Key Target ChildConfig ParsedConfig Addresses)
    (action : Action Key Target ChildConfig Addresses) : Prop :=
  action.responseFor key = some false → ∀ failures ∈ state.backoff.failures, failures ≠ 0 →
    ∀ request ∈ state.system.lb.requestMap.lookup key, request.reason = .stale

/-- As long as the delays have grown, the backoff state of the key has counted its failures. -/
def Counted (state : Backed Key Target ChildConfig ParsedConfig Addresses) : Prop :=
  state.backoff.Grows → state.backoff.Counted ((state.system.lb.requestMap.lookup key).map (·.reason))

variable {environment : Environment Key Target ChildConfig ParsedConfig} {key : Key}
variable {state state' : Backed Key Target ChildConfig ParsedConfig Addresses}

theorem lookup_filter_of_ne {Value : Type*} {completed : Key} (other : completed ≠ key)
    (map : List (Key × Value)) :
    (map.filter fun entry => entry.1 ≠ completed).lookup key = map.lookup key := by
  induction map with
  | nil => rfl
  | cons entry rest ih =>
    by_cases same : entry.1 = completed
    · have later : (key == entry.1) = false := beq_eq_false_iff_ne.mpr fun here =>
        other (same.symm.trans here.symm)
      rw [List.filter_cons_of_neg (by simpa using same), ih, List.lookup_cons, later]
    · rw [List.filter_cons_of_pos (by simpa using same), List.lookup_cons, List.lookup_cons, ih]

variable {system system' : System Key Target ChildConfig ParsedConfig Addresses}

theorem kept_pick {picker : Nat} {picked : Key} {now : Int} {draw : Nat} {request : RlsRequest}
    (taken : system.step environment (.pick picker picked now draw) = some system')
    (pending : system.lb.requestMap.lookup key = some request) :
    system'.lb.requestMap.lookup key = some request := by
  obtain ⟨_, _, lb, done, rfl⟩ := System.step_pick taken
  have found : (system.lb.find picked).requestMap = system.lb.requestMap :=
    (RlsLb.keeps_find picked).requestMap
  cases RlsLb.pick_steps done with
  | shutdown => exact pending
  | answered => exact found ▸ pending
  | throttled => exact found ▸ pending
  | started =>
    simp only [RlsLb.startRlsCall, found]
    rw [List.lookup_append, pending]
    rfl

variable {action : Action Key Target ChildConfig Addresses}

theorem kept_step (taken : system.step environment action = some system')
    (other : action.responseFor key = none) (request : RlsRequest)
    (pending : system.lb.requestMap.lookup key = some request) :
    system'.lb.requestMap.lookup key = none ∨ system'.lb.requestMap.lookup key = some request := by
  have quietly : action.Quiet → system'.lb.requestMap.lookup key = none ∨
      system'.lb.requestMap.lookup key = some request := by
    intro quiet
    obtain ⟨lb, calm, rfl⟩ := System.step_quiet quiet taken
    rcases calm.requestMap with same | empty
    · exact .inr (same ▸ pending)
    · exact .inl (empty ▸ rfl)
  cases action with
  | pick => exact .inr (kept_pick taken pending)
  | rlsCallComplete completed result nextAttemptTime now =>
    obtain ⟨completing, config, _, _, _, rfl, rfl⟩ := System.step_complete taken
    have different : completed ≠ key := fun same => nomatch (if_pos same).symm.trans other
    have keeps : RlsLb.Keeps _ (system.lb.onRlsCallCompleteLocked environment config completed
        completing result.response nextAttemptTime now) :=
      RlsLb.keeps_onRlsCallCompleteLocked config completed completing _ nextAttemptTime now
    refine .inr ?_
    rw [keeps.requestMap]
    exact (lookup_filter_of_ne different _).trans pending
  | _ => exact quietly trivial

theorem completed_step {ok : Bool} (taken : system.step environment action = some system')
    (response : action.responseFor key = some ok) :
    (∃ request, system.lb.requestMap.lookup key = some request) ∧
      system'.lb.requestMap.lookup key = none := by
  cases action with
  | rlsCallComplete completed =>
    obtain ⟨request, config, _, found, _, rfl, rfl⟩ := System.step_complete taken
    obtain ⟨rfl, _⟩ := Option.ite_none_right_eq_some.mp response
    refine ⟨⟨request, found⟩, List.lookup_eq_none_iff.mpr ?_⟩
    intro entry listed
    rw [(RlsLb.keeps_onRlsCallCompleteLocked config completed request _ _ _).requestMap] at listed
    exact bne_iff_ne.mpr (Ne.symm (of_decide_eq_true (List.mem_filter.mp listed).2))
  | _ => cases response

theorem step_iff (counted : state.Counted key) (grows : state.backoff.Grows)
    (taken : state.step environment key action = some state') :
    state'.backoff.Grows ↔ state.FailsStale key action := by
  obtain ⟨system, stepped, rfl⟩ := Option.map_eq_some_iff.mp taken
  unfold FailsStale
  cases response : action.responseFor key with
  | none =>
    have same : (state.backoff.follow key state.system.lb system.lb).delays =
        state.backoff.delays := KeyBackoff.delays_follow
    exact iff_of_true (fun delay listed => grows delay (same ▸ listed)) nofun
  | some ok =>
    obtain ⟨⟨request, found⟩, _⟩ := completed_step stepped response
    have owned := counted grows
    rw [found] at owned
    refine (KeyBackoff.grows_onRlsResponseLocked_iff owned grows ok).trans ?_
    simp only [found, Option.mem_def, Option.some.injEq, forall_eq']

theorem step_counted (counted : state.Counted key)
    (taken : state.step environment key action = some state') : state'.Counted key := by
  obtain ⟨system, stepped, rfl⟩ := Option.map_eq_some_iff.mp taken
  intro grows
  cases response : action.responseFor key with
  | none =>
    rw [response] at grows
    have same : (state.backoff.follow key state.system.lb system.lb).delays =
        state.backoff.delays := KeyBackoff.delays_follow
    refine KeyBackoff.counted_follow (kept_step stepped response) (counted fun delay listed => ?_)
    exact grows delay (same ▸ listed)
  | some =>
    rw [response] at grows
    rw [(completed_step stepped response).2]
    exact KeyBackoff.counted_onRlsResponseLocked grows

end Backed

end GrpcCore.Rls
