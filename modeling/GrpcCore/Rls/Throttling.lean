import GrpcCore.Lib.SlidingWindow
import GrpcCore.Rls.PolicyRuns

/-!
# Adaptive throttling

The throttle of a channel counts the decisions and responses that its window holds. The
specification counts the decisions and the successful responses of the last 30 seconds.
-/

namespace GrpcCore.Rls

open ThrottleEvent RlsLb

set_option linter.unusedSectionVars false

open SlidingWindow

namespace ThrottleEvent

def time : ThrottleEvent → Int
  | .decision made _ => made.time
  | .response _ time _ => time

def channel : ThrottleEvent → Nat
  | .decision made _ => made.channel
  | .response channel _ _ => channel

def decidedOn (channel : Nat) : ThrottleEvent → Bool
  | .decision made _ => made.channel = channel
  | .response _ _ _ => false

def answeredOn (channel : Nat) (ok : Bool) : ThrottleEvent → Bool
  | .decision _ _ => false
  | .response other _ ok' => decide (other = channel) && (ok' == ok)

end ThrottleEvent

def tally (kind : ThrottleEvent → Bool) (window : Int) (events : List ThrottleEvent) (now : Int) :
    Nat :=
  events.countP fun event => kind event && decide (Recent window now event.time)

theorem tally_cons (kind : ThrottleEvent → Bool) (window : Int) (event : ThrottleEvent)
    (events : List ThrottleEvent) (now : Int) :
    tally kind window (event :: events) now = tally kind window events now +
      if kind event = true ∧ Recent window now event.time then 1 else 0 := by
  unfold tally
  rw [List.countP_cons]
  simp

theorem tally_cons_of_other {kind : ThrottleEvent → Bool} {event : ThrottleEvent}
    (other : kind event = false) (window : Int) (events : List ThrottleEvent) (now : Int) :
    tally kind window (event :: events) now = tally kind window events now := by
  rw [tally_cons, if_neg (by simp [other]), Nat.add_zero]

theorem tally_eq_iff (kind : ThrottleEvent → Bool) {small large : Int} (le : small ≤ large)
    (events : List ThrottleEvent) (now : Int) :
    tally kind small events now = tally kind large events now ↔
      ∀ event ∈ events, kind event = true → Recent large now event.time →
        Recent small now event.time := by
  have monotone (events : List ThrottleEvent) :
      tally kind small events now ≤ tally kind large events now := by
    refine List.countP_mono_left fun event _ counted => ?_
    rw [Bool.and_eq_true_iff, decide_eq_true_iff] at counted ⊢
    exact counted.imp_right fun recent => le_trans recent le
  induction events with
  | nil => exact iff_of_true rfl nofun
  | cons event events ih =>
    rw [tally_cons, tally_cons, List.forall_mem_cons, ← propext ih]
    have rest := monotone events
    by_cases which : kind event = true
    · by_cases large : Recent large now event.time
      · by_cases small : Recent small now event.time
        · simp [which, large, small]
        · simp only [which, large, small, and_false, and_true, if_false, if_true, forall_const,
            false_and, iff_false]
          omega
      · have small : ¬ Recent small now event.time := fun recent => large (le_trans recent le)
        simp [large, small]
    · simp [which]

def specifiedWindow : Int := 30 * 1000

def throttles (requests successes draw : Nat) : Bool :=
  decide (((draw % (requests + 8) : Nat) : Int) < requests - 2 * successes)

structure Specified (earlier : List ThrottleEvent) (decision : Decision) (started : Bool) : Prop where
  requests : decision.requests =
    tally (ThrottleEvent.decidedOn decision.channel) specifiedWindow earlier decision.time
  successes : decision.successes =
    tally (ThrottleEvent.answeredOn decision.channel true) specifiedWindow earlier decision.time
  throttled : decision.throttled = throttles decision.requests decision.successes decision.draw
  obeyed : decision.throttled = true → started = false

/-- Every decision follows the specification. -/
def Follows : List ThrottleEvent → Prop
  | [] => True
  | .decision made started :: earlier => Specified earlier made started ∧ Follows earlier
  | .response _ _ _ :: earlier => Follows earlier

/-- What the queues of a throttle hold. They keep the failed responses as successes. -/
structure Tracked (events : List ThrottleEvent) (clock : Option Int) (channel : Nat)
    (throttle : Throttle) : Prop where
  windowSize : throttle.windowSize = 0
  ratioForSuccesses : throttle.ratioForSuccesses = 2
  paddings : throttle.paddings = 8
  requests : Tracks 0 throttle.requests clock (tally (ThrottleEvent.decidedOn channel) 0 events)
  successes : Tracks 0 throttle.successes clock (tally (ThrottleEvent.answeredOn channel false) 0 events)

variable {events : List ThrottleEvent} {clock : Option Int} {channel : Nat} {throttle : Throttle}
variable {now : Int}

theorem decidedOn_of_ne {event : ThrottleEvent} (other : event.channel ≠ channel) :
    event.decidedOn channel = false := by
  cases event with
  | decision => exact decide_eq_false other
  | response => rfl

theorem answeredOn_of_ne {event : ThrottleEvent} (other : event.channel ≠ channel) (ok : Bool) :
    event.answeredOn channel ok = false := by
  cases event with
  | decision => rfl
  | response other' =>
    have differs : decide (other' = channel) = false := decide_eq_false other
    simp only [answeredOn, differs, Bool.false_and]

theorem tally_eq_zero {kind : ThrottleEvent → Bool}
    (none : ∀ event ∈ events, kind event = false) (window now : Int) :
    tally kind window events now = 0 :=
  List.countP_eq_zero.mpr fun event member => by simp [none event member]

theorem tracked_new (unknown : ∀ event ∈ events, event.channel ≠ channel) :
    Tracked events clock channel Throttle.new where
  windowSize := rfl
  ratioForSuccesses := rfl
  paddings := rfl
  requests := tracks_nil.congr fun now _ =>
    tally_eq_zero (fun event member => decidedOn_of_ne (unknown event member)) 0 now
  successes := tracks_nil.congr fun now _ =>
    tally_eq_zero (fun event member => answeredOn_of_ne (unknown event member) false) 0 now

theorem Tracked.advance (tracked : Tracked events clock channel throttle)
    (after : ∀ last ∈ clock, last ≤ now) : Tracked events (some now) channel throttle :=
  { tracked with
    requests := tracked.requests.advance after
    successes := tracked.successes.advance after }

theorem Tracked.other (tracked : Tracked events clock channel throttle)
    {event : ThrottleEvent} (noDecision : event.decidedOn channel = false)
    (noFailure : event.answeredOn channel false = false) :
    Tracked (event :: events) clock channel throttle :=
  { tracked with
    requests := tracked.requests.congr fun now _ => tally_cons_of_other noDecision 0 events now
    successes := tracked.successes.congr fun now _ => tally_cons_of_other noFailure 0 events now }

theorem prune_eq (throttle : Throttle) (now : Int) (times : List Int) :
    throttle.prune now times = SlidingWindow.prune throttle.windowSize now times := by
  unfold Throttle.prune SlidingWindow.prune Recent
  simp only [not_le, gt_iff_lt]

variable {throttle' : Throttle}

section

variable (tracked : Tracked events clock channel throttle) (after : ∀ last ∈ clock, last ≤ now)
include tracked after

theorem Tracked.shouldThrottle (draw : Nat) {decision : Decision}
    (decided : throttle.shouldThrottle channel now draw = (decision, throttle')) (started : Bool) :
    Tracked (.decision decision started :: events) (some now) channel throttle' := by
  obtain ⟨rfl, rfl⟩ := Prod.mk.inj decided
  have pruned := tracked.requests.prune after
  refine
    { windowSize := tracked.windowSize
      ratioForSuccesses := tracked.ratioForSuccesses
      paddings := tracked.paddings
      requests := ?_
      successes := ?_ }
  · rw [prune_eq, tracked.windowSize]
    refine pruned.push.congr fun moment _ => ?_
    rw [tally_cons]
    simp [decidedOn, time]
  · dsimp only
    rw [prune_eq, tracked.windowSize]
    refine (tracked.successes.prune after).congr fun moment _ => ?_
    exact tally_cons_of_other rfl 0 events moment

theorem Tracked.registerResponse (ok : Bool) :
    Tracked (.response channel now ok :: events) (some now) channel
      (throttle.registerResponse (!ok) now) := by
  have advanced := tracked.advance after
  cases ok with
  | true => exact advanced.other rfl (by simp [answeredOn])
  | false =>
    refine { advanced with requests := ?_, successes := ?_ }
    · exact advanced.requests.congr fun moment _ => tally_cons_of_other rfl 0 events moment
    · refine advanced.successes.push.congr fun moment _ => ?_
      rw [tally_cons]
      simp [answeredOn, time]

theorem Tracked.other_channel {event : ThrottleEvent} (other : event.channel ≠ channel) :
    Tracked (event :: events) (some now) channel throttle :=
  (tracked.advance after).other (decidedOn_of_ne other) (answeredOn_of_ne other false)

end

variable {Key Target ChildConfig ParsedConfig Addresses : Type}
variable [DecidableEq Key] [LinearOrder Target] [DecidableEq ChildConfig] [DecidableEq Addresses]

variable {draw : Nat} {action : Action Key Target ChildConfig Addresses} {key : Key}
  {rlsChannel : RlsChannel}

namespace System

variable {environment : Environment Key Target ChildConfig ParsedConfig}
variable {system system' : System Key Target ChildConfig ParsedConfig Addresses}

def throttles (system : System Key Target ChildConfig ParsedConfig Addresses) : List Throttle :=
  system.lb.channels.map (·.throttle)

/-- The throttles hold what the history says, and everything is about channels there are. -/
structure Accounts (system : System Key Target ChildConfig ParsedConfig Addresses) : Prop where
  past : ∀ event ∈ system.events, ∃ last ∈ system.clock, event.time ≤ last
  known : ∀ event ∈ system.events, event.channel < system.throttles.length
  pending : ∀ request ∈ system.lb.requestMap, request.2.rlsChannel < system.throttles.length
  tracked : ∀ channel throttle, system.throttles[channel]? = some throttle →
    Tracked system.events system.clock channel throttle

/-- Picks and responses come at times that do not decrease. -/
def OnTime (system : System Key Target ChildConfig ParsedConfig Addresses) :
    Action Key Target ChildConfig Addresses → Prop
  | .pick _ _ now _ => ∀ last ∈ system.clock, last ≤ now
  | .rlsCallComplete _ _ _ now => ∀ last ∈ system.clock, last ≤ now
  | _ => True

instance : (action : Action Key Target ChildConfig Addresses) → Decidable (system.OnTime action)
  | .pick _ _ now _ | .rlsCallComplete _ _ _ now =>
    inferInstanceAs (Decidable (∀ last ∈ system.clock, last ≤ now))
  | .backoffTimer _ | .cleanupTimer _ | .connectivityChange .. | .childUpdateState .. |
    .updatePickerCallback | .destroyPicker _ | .updateLocked .. | .resetBackoffLocked |
    .shutdownLocked => isTrue trivial

/-- The step at times that do not decrease. -/
def timedStep (environment : Environment Key Target ChildConfig ParsedConfig)
    (system : System Key Target ChildConfig ParsedConfig Addresses)
    (action : Action Key Target ChildConfig Addresses) :
    Option (System Key Target ChildConfig ParsedConfig Addresses) :=
  if system.OnTime action then system.step environment action else none

theorem accounts_initial :
    (initial : System Key Target ChildConfig ParsedConfig Addresses).Accounts :=
  ⟨nofun, nofun, nofun, nofun⟩

section

variable (accounts : system.Accounts)
include accounts

theorem Accounts.quiet {action : Action Key Target ChildConfig Addresses} (quiet : action.Quiet)
    (taken : system.step environment action = some system') : system'.Accounts := by
  obtain ⟨lb, calm, rfl⟩ := step_quiet quiet taken
  have longer : system.throttles.length ≤ (lb.channels.map (·.throttle)).length := by
    rcases calm.throttles with same | more
    · exact le_of_eq (congrArg List.length same.symm)
    · rw [more, List.length_append]
      exact Nat.le_add_right _ _
  refine
    { past := accounts.past
      known := fun event member => lt_of_lt_of_le (accounts.known event member) longer
      pending := ?_
      tracked := ?_ }
  · intro request member
    rcases calm.requestMap with same | empty
    · exact lt_of_lt_of_le (accounts.pending request (same ▸ member)) longer
    · exact absurd (empty ▸ member) List.not_mem_nil
  · intro channel throttle found
    rcases calm.throttles with same | more
    · exact accounts.tracked channel throttle (by rwa [throttles, same] at found)
    · rw [throttles, more, List.getElem?_append] at found
      split at found
      · exact accounts.tracked channel throttle found
      · rename_i beyond
        rw [List.getElem?_singleton] at found
        obtain ⟨_, rfl⟩ := Option.ite_some_none_eq_some.mp found
        refine tracked_new fun event member same => beyond ?_
        exact same ▸ accounts.known event member

theorem Accounts.event {now : Int}
    (after : ∀ last ∈ system.clock, last ≤ now) {event : ThrottleEvent} (atTime : event.time = now)
    (known : event.channel < system.throttles.length)
    (length : system'.throttles.length = system.throttles.length)
    (events : system'.events = event :: system.events) (clock : system'.clock = some now)
    (pending : ∀ request ∈ system'.lb.requestMap,
      request ∈ system.lb.requestMap ∨ request.2.rlsChannel = event.channel)
    (tracked : ∀ channel throttle, system'.throttles[channel]? = some throttle →
      channel ≠ event.channel ∧ system.throttles[channel]? = some throttle ∨
        Tracked (event :: system.events) (some now) channel throttle) : system'.Accounts where
  past := by
    intro other member
    rw [events] at member
    refine ⟨now, clock, ?_⟩
    rcases List.mem_cons.mp member with rfl | earlier
    · exact le_of_eq atTime
    · obtain ⟨last, before, past⟩ := accounts.past other earlier
      exact le_trans past (after last before)
  known := by
    intro other member
    rw [events] at member
    rw [length]
    rcases List.mem_cons.mp member with rfl | earlier
    · exact known
    · exact accounts.known other earlier
  pending := by
    intro request member
    rw [length]
    rcases pending request member with before | new
    · exact accounts.pending request before
    · exact new ▸ known
  tracked := by
    intro channel throttle found
    rw [events, clock]
    rcases tracked channel throttle found with ⟨other, before⟩ | own
    · exact (accounts.tracked channel throttle before).other_channel after (Ne.symm other)
    · exact own

theorem Accounts.later {now : Int} (after : ∀ last ∈ system.clock, last ≤ now)
    (throttles : system'.throttles = system.throttles) (events : system'.events = system.events)
    (clock : system'.clock = some now) (pending : system'.lb.requestMap = system.lb.requestMap) :
    system'.Accounts where
  past := by
    intro event member
    obtain ⟨last, before, past⟩ := accounts.past event (events ▸ member)
    exact ⟨now, clock, le_trans past (after last before)⟩
  known := by
    rw [events, throttles]
    exact accounts.known
  pending := by
    rw [pending, throttles]
    exact accounts.pending
  tracked := by
    rw [events, throttles, clock]
    exact fun channel throttle found => (accounts.tracked channel throttle found).advance after

theorem Accounts.decision {now : Int} {channel : Nat} {decision : Decision} {throttle : Throttle}
    (after : ∀ last ∈ system.clock, last ≤ now)
    (found : system.lb.channels[channel]? = some rlsChannel)
    (decided : rlsChannel.throttle.shouldThrottle channel now draw = (decision, throttle))
    (started : Bool)
    (channels : system'.lb.channels = system.lb.channels.set channel { rlsChannel with throttle })
    (events : system'.events = .decision decision started :: system.events)
    (clock : system'.clock = some now) (pending : ∀ request ∈ system'.lb.requestMap,
      request ∈ system.lb.requestMap ∨ request.2.rlsChannel = channel) : system'.Accounts := by
  have current : system.throttles[channel]? = some rlsChannel.throttle := by
    rw [throttles, List.getElem?_map, found]
    rfl
  have throttles' : system'.throttles = system.throttles.set channel throttle := by
    rw [throttles, channels, List.map_set]
    rfl
  have own := (accounts.tracked channel _ current).shouldThrottle after draw decided started
  obtain ⟨rfl, rfl⟩ := Prod.mk.inj decided
  refine accounts.event after rfl ?_ ?_ events clock pending ?_
  · exact (List.getElem?_eq_some_iff.mp current).1
  · rw [throttles', List.length_set]
  · intro other throttle' at'
    rw [throttles', List.getElem?_set] at at'
    split at at'
    · rename_i same
      subst same
      obtain ⟨_, at'⟩ := Option.ite_none_right_eq_some.mp at'
      obtain rfl := Option.some.inj at'
      exact .inr own
    · rename_i differs
      exact .inl ⟨Ne.symm differs, at'⟩

theorem Accounts.pick {picker : Nat} {now : Int} (after : ∀ last ∈ system.clock, last ≤ now)
    (taken : system.step environment (.pick picker key now draw) = some system') :
    system'.Accounts := by
  obtain ⟨defaultChildPolicy, picked, lb, done, rfl⟩ := step_pick taken
  have found : system.lb.Keeps (system.lb.find key) := keeps_find key
  cases pick_steps done with
  | shutdown => exact accounts.later after rfl rfl rfl rfl
  | answered => exact accounts.later after found.throttles rfl rfl found.requestMap
  | throttled _ _ known decided =>
    refine accounts.decision after known decided false rfl rfl rfl ?_
    exact fun request member => .inl (found.requestMap ▸ member)
  | started _ _ known decided =>
    refine accounts.decision after known decided true rfl rfl rfl ?_
    intro request member
    rcases List.mem_append.mp member with before | new
    · exact .inl (found.requestMap ▸ before)
    · rw [List.mem_singleton] at new
      exact .inr (new ▸ rfl)

theorem Accounts.complete {result : CallResult Target} {nextAttemptTime now : Int}
    (after : ∀ last ∈ system.clock, last ≤ now)
    (taken : system.step environment (.rlsCallComplete key result nextAttemptTime now) =
      some system') : system'.Accounts := by
  obtain ⟨request, config, lb, found, _, completed, rfl⟩ := step_complete taken
  have keeps : RlsLb.Keeps _ (system.lb.onRlsCallCompleteLocked environment config key request
      result.response nextAttemptTime now) :=
    keeps_onRlsCallCompleteLocked config key request result.response nextAttemptTime now
  rw [← completed] at keeps
  obtain ⟨first, last, split, _⟩ := List.lookup_eq_some_iff.mp found
  have requested := accounts.pending (key, request) (by simp [split])
  have reported (channel : Nat) : (lb.channels.map (·.throttle))[channel]? =
      system.throttles[channel]?.map fun throttle =>
        if request.rlsChannel = channel then
          throttle.registerResponse (!result.response.status.ok) now
        else throttle := by
    rw [keeps.throttles, throttles, List.getElem?_map, List.getElem?_map]
    unfold reportResponseLocked
    rw [List.getElem?_modify]
    cases system.lb.channels[channel]? with
    | none => rfl
    | some rlsChannel =>
      by_cases own : request.rlsChannel = channel
      · simp [own]
      · simp [own]
  have atTime : time (.response request.rlsChannel now result.response.status.ok) =
      now := rfl
  refine accounts.event after atTime requested ?_ rfl rfl ?_ ?_
  · change (lb.channels.map (·.throttle)).length = _
    rw [keeps.throttles, throttles, List.length_map, List.length_map]
    exact List.length_modify _ _ _
  · intro other member
    rw [keeps.requestMap] at member
    exact .inl (List.mem_filter.mp member).1
  · intro channel throttle found'
    obtain ⟨before, at', rfl⟩ := Option.map_eq_some_iff.mp ((reported channel).symm.trans found')
    by_cases own : request.rlsChannel = channel
    · subst own
      rw [if_pos rfl]
      exact .inr ((accounts.tracked _ before at').registerResponse after result.response.status.ok)
    · rw [if_neg own]
      exact .inl ⟨Ne.symm own, at'⟩

theorem Accounts.step (taken : system.timedStep environment action = some system') :
    system'.Accounts := by
  obtain ⟨onTime, taken⟩ := Option.ite_none_right_eq_some.mp taken
  cases action with
  | pick => exact accounts.pick onTime taken
  | rlsCallComplete => exact accounts.complete onTime taken
  | _ =>
    refine accounts.quiet ?_ taken
    trivial

end

end System

theorem lt_iff_lt (rest requests successes : Nat) :
    (rest : ℚ) < requests - successes * 2 ↔ (rest : Int) < requests - 2 * successes := by
  rw [mul_comm (successes : ℚ)]
  exact_mod_cast Iff.rfl

theorem Tracked.decided (tracked : Tracked events clock channel throttle)
    (after : ∀ last ∈ clock, last ≤ now) (draw : Nat) {decision : Decision} {throttle' : Throttle}
    (decided : throttle.shouldThrottle channel now draw = (decision, throttle')) :
    decision.channel = channel ∧ decision.time = now ∧ decision.draw = draw ∧
      decision.requests = tally (decidedOn channel) 0 events now ∧
      decision.successes = tally (answeredOn channel false) 0 events now ∧
      decision.throttled = throttles decision.requests decision.successes draw := by
  obtain ⟨rfl, rfl⟩ := Prod.mk.inj decided
  dsimp only
  refine ⟨rfl, rfl, rfl, ?_, ?_, ?_⟩
  · rw [prune_eq, tracked.windowSize]
    exact tracked.requests.length_prune after
  · rw [prune_eq, tracked.windowSize]
    exact tracked.successes.length_prune after
  · rw [tracked.paddings, tracked.ratioForSuccesses]
    exact decide_eq_decide.mpr (lt_iff_lt _ _ _)

namespace System

variable {environment : Environment Key Target ChildConfig ParsedConfig}
variable {system system' : System Key Target ChildConfig ParsedConfig Addresses}

/-- The earlier decisions that the specification counts were made at this very moment, as many
responses have failed at this moment as it counts successful ones, and it does not throttle the
pick if the cache has data for it. -/
def SpecifiedAt (system : System Key Target ChildConfig ParsedConfig Addresses) (key : Key)
    (now : Int) (draw channel : Nat) : Prop :=
  (∀ event ∈ system.events, event.decidedOn channel = true →
    Recent specifiedWindow now event.time → event.time = now) ∧
  tally (ThrottleEvent.answeredOn channel false) 0 system.events now =
    tally (ThrottleEvent.answeredOn channel true) specifiedWindow system.events now ∧
  (RlsLb.noData (system.lb.cache.lookup key) now = true ∨
    Rls.throttles (tally (ThrottleEvent.decidedOn channel) specifiedWindow system.events now)
      (tally (ThrottleEvent.answeredOn channel true) specifiedWindow system.events now) draw = false)

instance (key : Key) (now : Int) (draw channel : Nat) :
    Decidable (system.SpecifiedAt key now draw channel) :=
  inferInstanceAs (Decidable (_ ∧ _ ∧ (_ ∨ _)))

/-- A pick that makes a decision makes the specified one. -/
def DecidesAsSpecified (system : System Key Target ChildConfig ParsedConfig Addresses) :
    Action Key Target ChildConfig Addresses → Prop
  | .pick _ key now draw => system.lb.isShutdown = false → system.lb.mayStartCall key now →
      ∀ channel ∈ system.lb.rlsChannel, system.SpecifiedAt key now draw channel
  | _ => True

instance : (action : Action Key Target ChildConfig Addresses) →
    Decidable (system.DecidesAsSpecified action)
  | .pick _ key now draw =>
    inferInstanceAs (Decidable (system.lb.isShutdown = false → system.lb.mayStartCall key now →
      ∀ channel ∈ system.lb.rlsChannel, system.SpecifiedAt key now draw channel))
  | .rlsCallComplete .. | .backoffTimer _ | .cleanupTimer _ | .connectivityChange .. |
    .childUpdateState .. | .updatePickerCallback | .destroyPicker _ | .updateLocked .. |
    .resetBackoffLocked | .shutdownLocked => isTrue trivial

section

variable (accounts : system.Accounts)
include accounts

theorem Accounts.time_eq_iff {now : Int} (after : ∀ last ∈ system.clock, last ≤ now)
    {event : ThrottleEvent} (member : event ∈ system.events) :
    Recent 0 now event.time ↔ event.time = now := by
  obtain ⟨last, before, past⟩ := accounts.past event member
  have earlier : event.time ≤ now := le_trans past (after last before)
  unfold Recent
  rw [sub_nonpos]
  exact ⟨fun later => le_antisymm earlier later, fun same => le_of_eq same.symm⟩

theorem Accounts.specified_iff {now : Int} {channel : Nat} {throttle : Throttle}
    {decision : Decision}  (after : ∀ last ∈ system.clock, last ≤ now)
    (found : system.throttles[channel]? = some throttle)
    (decided : throttle.shouldThrottle channel now draw = (decision, throttle')) (started : Bool)
    (starts : started = false ↔ decision.throttled = true ∧
      noData (system.lb.cache.lookup key) now = true) :
    Specified system.events decision started ↔ system.SpecifiedAt key now draw channel := by
  obtain ⟨onChannel, atTime, drawn, requests, successes, throttled⟩ :=
    (accounts.tracked channel throttle found).decided after draw decided
  have decisions : decision.requests =
      tally (decidedOn channel) specifiedWindow system.events now ↔
        ∀ event ∈ system.events, event.decidedOn channel = true →
          Recent specifiedWindow now event.time → event.time = now := by
    rw [requests, tally_eq_iff _ (by decide)]
    refine forall₂_congr fun event member => ?_
    rw [accounts.time_eq_iff after member]
  unfold SpecifiedAt
  rw [← decisions, ← successes]
  constructor
  · intro specified
    have requests' := specified.requests
    have successes' := specified.successes
    rw [onChannel, atTime] at requests' successes'
    refine ⟨requests', successes', ?_⟩
    rw [← requests', ← successes', ← throttled]
    cases throttles : decision.throttled with
    | false => exact .inr rfl
    | true => exact .inl (starts.mp (specified.obeyed throttles)).2
  · rintro ⟨requests', successes', obeyed⟩
    refine ⟨?_, ?_, drawn ▸ throttled, ?_⟩
    · rw [onChannel, atTime]
      exact requests'
    · rw [onChannel, atTime]
      exact successes'
    · intro throttles
      refine starts.mpr ⟨throttles, obeyed.resolve_right ?_⟩
      rw [← requests', ← successes', ← throttled, throttles]
      exact nofun

theorem follows_decision {now : Int} {channel : Nat} {throttle : Throttle} {decision : Decision}
    (after : ∀ last ∈ system.clock, last ≤ now)
    (follows : Follows system.events) (current : system.lb.rlsChannel = some channel)
    (found : system.lb.channels[channel]? = some rlsChannel)
    (decided : rlsChannel.throttle.shouldThrottle channel now draw = (decision, throttle))
    (started : Bool) (starts : started = false ↔ decision.throttled = true ∧
      noData (system.lb.cache.lookup key) now = true) :
    Follows (.decision decision started :: system.events) ↔
      ∀ channel ∈ system.lb.rlsChannel, system.SpecifiedAt key now draw channel := by
  have at' : system.throttles[channel]? = some rlsChannel.throttle := by
    rw [throttles, List.getElem?_map, found]
    rfl
  have specified := accounts.specified_iff after at' decided started starts
  rw [current]
  constructor
  · rintro ⟨right, _⟩ other known
    obtain rfl := Option.some.inj known
    exact specified.mp right
  · exact fun right => ⟨specified.mpr (right channel rfl), follows⟩

theorem follows_pick_iff {picker : Nat} {now : Int} (after : ∀ last ∈ system.clock, last ≤ now)
    (follows : Follows system.events)
    (taken : system.step environment (.pick picker key now draw) = some system') :
    Follows system'.events ↔ system.DecidesAsSpecified (.pick picker key now draw) := by
  obtain ⟨defaultChildPolicy, picked, lb, done, rfl⟩ := step_pick taken
  have noDecision (skips : system.lb.isShutdown = true ∨ ¬ system.lb.mayStartCall key now) :
      Follows system.events ↔ system.DecidesAsSpecified (.pick picker key now draw) := by
    refine iff_of_true follows fun running call => ?_
    rcases skips with down | noCall
    · cases running.symm.trans down
    · exact absurd call noCall
  by_cases down : system.lb.isShutdown = true
  · have same : picked.decision = none := by
      rw [pick, if_pos down] at done
      obtain ⟨rfl, -⟩ := Prod.mk.inj (Option.some.inj done)
      rfl
    rw [same]
    exact noDecision (.inl down)
  · rw [Bool.not_eq_true] at down
    cases pick_steps done with
    | shutdown isDown => cases down.symm.trans isDown
    | answered noCall => exact noDecision (.inr noCall)
    | throttled call current found decided throttled empty =>
      have specified := follows_decision accounts after follows current found decided false
        (iff_of_true rfl ⟨throttled, empty⟩)
      exact specified.trans ⟨fun right _ _ => right, fun right => right down call⟩
    | started call current found decided goesOn =>
      have specified := follows_decision accounts after follows current found decided true
        (iff_of_false Bool.noConfusion goesOn)
      exact specified.trans ⟨fun right _ _ => right, fun right => right down call⟩

theorem follows_step_iff (follows : Follows system.events)
    (taken : system.timedStep environment action = some system') :
    Follows system'.events ↔ system.DecidesAsSpecified action := by
  obtain ⟨onTime, taken⟩ := Option.ite_none_right_eq_some.mp taken
  have quiet (isQuiet : action.Quiet) : Follows system'.events := by
    obtain ⟨lb, _, rfl⟩ := step_quiet isQuiet taken
    exact follows
  cases action with
  | pick => exact follows_pick_iff accounts onTime follows taken
  | rlsCallComplete =>
    obtain ⟨request, config, lb, _, _, _, rfl⟩ := step_complete taken
    exact iff_of_true follows trivial
  | _ =>
    refine iff_of_true (quiet ?_) trivial
    trivial

end

/-- The throttle follows its specification in a run exactly when every pick in it decides as
specified. -/
theorem throttle_follows_specification_iff
    (actions : List (Action Key Target ChildConfig Addresses))
    (final : System Key Target ChildConfig ParsedConfig Addresses) :
    Machine.Run (timedStep environment) DecidesAsSpecified initial actions final ↔
      Machine.Reach (timedStep environment) initial actions final ∧
        ∀ done later, actions = done ++ later →
          ∀ middle, Machine.Reach (timedStep environment) initial done middle →
            Follows middle.events :=
  Machine.Run.iff_always (fun (accounts : Accounts _) taken => accounts.step taken)
    (fun accounts (follows : Follows (System.events _)) taken =>
      follows_step_iff accounts follows taken) accounts_initial trivial actions final

/-- A decision that was made 10 seconds ago is not counted. -/
theorem recent_decision_not_counted :
    ∃ actions, ∃ system : System Nat Nat Nat Nat Nat,
      Machine.Reach (timedStep ⟨fun _ => 1, fun _ _ => some 0⟩) initial actions system ∧
        ¬ Follows system.events := by
  obtain ⟨system, reach, decided⟩ := Machine.exists_reach
    (timedStep ⟨fun _ => 1, fun _ _ => some 0⟩) (initial : System Nat Nat Nat Nat Nat)
    [.updateLocked ⟨"lookup", 10, 5, by decide, 100, none, 0⟩ 0 0,
      .pick 0 1 0 7, .pick 0 2 10000 7]
    (fun system => system.events)
    [.decision ⟨0, 10000, 7, 0, 0, false⟩ true, .decision ⟨0, 0, 7, 0, 0, false⟩ true]
    (by decide +kernel)
  refine ⟨_, system, reach, fun follows => ?_⟩
  rw [decided] at follows
  exact absurd follows.1.requests (by decide)

end System

end GrpcCore.Rls
