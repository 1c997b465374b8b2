import GrpcCore.ClientIdle.IdleFilter

/-!
# The idle timer and the end of a channel

The flag of a started timer stands for one token: a timer that is armed, a thread that is to start
it, or a callback that is to check it. A disconnect takes the token only from an armed timer. Any
other comes back as an armed timer, and the call that the disconnect counts keeps it running.
-/

namespace GrpcCore.ClientIdle.IdleFilter

open Machine

variable {filter filter' : IdleFilter}

def tokens (filter : IdleFilter) : Nat := filter.armed + filter.fired + filter.toStart

/-- What every run keeps, with the flags in the word. -/
structure Sound (filter : IdleFilter) (active timer : Bool) : Prop where
  word : filter.state = packed (filter.calls + filter.phonyCalls) active timer
  bounded : filter.calls ≤ maxCalls
  token : filter.tokens ≤ timer.toNat
  kept : filter.disconnect ≠ .cancelled → filter.tokens = timer.toNat
  uncancelled : filter.disconnect ≠ .cancelled →
    ∀ callback ∈ filter.callbacks, callback.stage ≠ .cancelled
  refs : filter.channelStackRefs = filter.armed + filter.callbacks.length
  decided : ∀ decision ∈ filter.idleDecisions, decision = (0, 0)
  inactive : active = false → filter.armed ≠ 0 ∨ filter.fired ≠ 0 → filter.callsSinceArmed = 0
  running : filter.disconnect = .before → filter.calls = 0 → filter.endedSinceIdle = true →
    timer = true

theorem Sound.created : Sound .created false false where
  word := by decide
  bounded := Nat.zero_le _
  token := Nat.le_refl _
  kept _ := rfl
  uncancelled _ := List.forall_mem_nil _
  refs := rfl
  decided := List.forall_mem_nil _
  inactive _ _ := rfl
  running _ _ := nofun

variable {active timer : Bool}

theorem phonyCalls_le (filter : IdleFilter) : filter.phonyCalls ≤ 1 := by
  unfold phonyCalls
  split
  · exact Nat.zero_le 1
  · exact Nat.le_refl 1

theorem Sound.small (sound : filter.Sound active timer) :
    filter.calls + filter.phonyCalls < 2 ^ 62 := by
  have bounded := sound.bounded
  have phony := filter.phonyCalls_le
  unfold maxCalls at bounded
  omega

variable {callback : TimerCallback} {index : Nat}

theorem callbacks_perm {callbacks : List TimerCallback} (at_ : callbacks[index]? = some callback) :
    callbacks.Perm (callback :: callbacks.eraseIdx index) := by
  obtain ⟨inside, rfl⟩ := List.getElem?_eq_some_iff.mp at_
  exact (List.getElem_cons_eraseIdx_perm inside).symm

section

variable (sound : filter.Sound active timer)
include sound

theorem Sound.callInit (taken : filter.callInit = some filter') : filter'.Sound true timer := by
  obtain ⟨room, rfl⟩ := Option.ite_some_none_eq_some.mp taken
  refine { sound with word := ?_, bounded := room, inactive := nofun, running := nofun }
  refine (congrArg increaseCallCount sound.word).trans ?_
  rw [increaseCallCount_packed]
  exact congrArg (packed · true timer) (Nat.add_right_comm ..)

theorem Sound.callDestroy (taken : filter.callDestroy = some filter') :
    ∃ active timer, filter'.Sound active timer := by
  obtain ⟨some_, same⟩ := Option.ite_none_left_eq_some.mp taken
  obtain ⟨calls, isCalls⟩ := Nat.exists_eq_succ_of_ne_zero some_
  have word : filter.state = packed (calls + filter.phonyCalls + 1) active timer := by
    rw [sound.word, isCalls, Nat.succ_eq_add_one, Nat.add_right_comm]
  have small : calls + filter.phonyCalls < 2 ^ 62 := by
    have := sound.small
    omega
  have bounded : calls ≤ maxCalls := Nat.le_trans (Nat.le_succ calls) (isCalls ▸ sound.bounded)
  rw [word, decreaseCallCount_packed small, isCalls] at same
  by_cases last : calls + filter.phonyCalls = 0 ∧ timer = false
  · rw [if_pos last] at same
    obtain rfl := Option.some.inj same
    obtain ⟨noCalls, rfl⟩ := last
    obtain ⟨rfl, noPhony⟩ := Nat.add_eq_zero_iff.mp noCalls
    have none : filter.tokens = 0 := Nat.le_zero.mp sound.token
    have one : filter.armed + filter.fired + (filter.starting + 1 +
        filter.callbacks.countP (·.stage = .restarting)) = 1 := by
      unfold tokens toStart at none
      omega
    refine ⟨false, true, { sound with
      word := ?_
      bounded := bounded
      token := Nat.le_of_eq one
      kept := fun _ => one
      inactive := ?_
      running := fun _ _ _ => rfl }⟩
    · exact congrArg (packed · false true) ((Nat.zero_add _).trans noPhony).symm
    · intro _ outstanding
      have idle : filter.armed = 0 ∧ filter.fired = 0 := by
        omega
      rcases outstanding with armed | fired
      · exact absurd idle.1 armed
      · exact absurd idle.2 fired
  · rw [if_neg last] at same
    obtain rfl := Option.some.inj same
    refine ⟨active, timer, { sound with word := rfl, bounded := bounded, running := ?_ }⟩
    intro before noCalls _
    have noPhony : filter.phonyCalls = 0 := if_pos before
    refine Bool.eq_true_of_not_eq_false fun off => last ⟨?_, off⟩
    exact Nat.add_eq_zero_iff.mpr ⟨noCalls, noPhony⟩

theorem Sound.startIdleTimer (taken : filter.startIdleTimer = some filter') :
    filter'.Sound active timer := by
  obtain ⟨some_, rfl⟩ := Machine.guarded_taken taken
  have moved : filter.armed + 1 + filter.fired + (filter.starting - 1 +
      filter.callbacks.countP (·.stage = .restarting)) = filter.tokens := by
    unfold tokens toStart
    omega
  refine { sound with
    token := moved.trans_le sound.token
    kept := fun before => moved.trans (sound.kept before)
    refs := ?_
    inactive := fun _ _ => rfl }
  exact (congrArg (· + 1) sound.refs).trans (Nat.add_right_comm ..)

theorem Sound.expire (taken : filter.expire = some filter') : filter'.Sound active timer := by
  obtain ⟨some_, rfl⟩ := Machine.guarded_taken taken
  have moved : ({ filter with
      armed := filter.armed - 1
      callbacks := filter.callbacks ++ [⟨.fired, false⟩] } : IdleFilter).tokens =
        filter.tokens := by
    unfold tokens fired toStart
    rw [List.countP_append, List.countP_append]
    have one : [TimerCallback.mk .fired false].countP (·.stage = .fired) = 1 := rfl
    have none : [TimerCallback.mk .fired false].countP (·.stage = .restarting) = 0 := rfl
    dsimp only
    omega
  refine { sound with
    token := moved.trans_le sound.token
    kept := fun before => moved.trans (sound.kept before)
    uncancelled := ?_
    refs := ?_
    inactive := fun quiet _ => sound.inactive quiet (.inl some_) }
  · intro before callback member
    rcases List.mem_append.mp member with old | new
    · exact sound.uncancelled before callback old
    · obtain rfl := List.mem_singleton.mp new
      exact nofun
  · refine sound.refs.trans ?_
    rw [List.length_append, List.length_singleton]
    dsimp only
    omega

end

theorem callbacks_count (at_ : filter.callbacks[index]? = some callback) (stage : CallbackStage) :
    filter.callbacks.countP (·.stage = stage) =
      (filter.callbacks.eraseIdx index).countP (·.stage = stage) +
        if callback.stage = stage then 1 else 0 := by
  rw [(callbacks_perm at_).countP_eq, List.countP_cons]
  simp only [decide_eq_true_eq]

theorem length_callbacks (at_ : filter.callbacks[index]? = some callback) :
    filter.callbacks.length = (filter.callbacks.eraseIdx index).length + 1 :=
  (callbacks_perm at_).length_eq

section

variable (sound : filter.Sound active timer) (at_ : filter.callbacks[index]? = some callback)
include sound at_

theorem Sound.unrefCancelled (cancelled : callback.stage = .cancelled) :
    (filter.unref index).Sound active timer := by
  have fired := callbacks_count at_ .fired
  have restarting := callbacks_count at_ .restarting
  rw [cancelled, if_neg (by decide)] at fired restarting
  have same : (filter.unref index).tokens = filter.tokens := by
    unfold tokens toStart IdleFilter.fired
    rw [fired, restarting]
    rfl
  refine { sound with
    token := same.trans_le sound.token
    kept := fun before => same.trans (sound.kept before)
    uncancelled := ?_
    refs := ?_
    inactive := ?_ }
  · exact fun before other member =>
      sound.uncancelled before other ((List.eraseIdx_sublist ..).subset member)
  · have refs := sound.refs
    have length := length_callbacks at_
    unfold unref
    dsimp only
    omega
  · intro quiet outstanding
    refine sound.inactive quiet (outstanding.imp_right fun some_ none => some_ ?_)
    exact fired.symm.trans none

theorem Sound.restart (restarting : callback.stage = .restarting) :
    (filter.armTimer.unref index).Sound active timer := by
  have fired := callbacks_count at_ .fired
  have toStart := callbacks_count at_ .restarting
  rw [restarting, if_neg (by decide)] at fired
  rw [restarting, if_pos rfl] at toStart
  have moved : (filter.armTimer.unref index).tokens = filter.tokens := by
    unfold tokens IdleFilter.toStart IdleFilter.fired
    unfold unref armTimer
    dsimp only
    omega
  refine { sound with
    token := moved.trans_le sound.token
    kept := fun before => moved.trans (sound.kept before)
    uncancelled := ?_
    refs := ?_
    inactive := fun _ _ => rfl }
  · exact fun before other member =>
      sound.uncancelled before other ((List.eraseIdx_sublist ..).subset member)
  · have refs := sound.refs
    have length := length_callbacks at_
    unfold unref armTimer
    dsimp only
    omega

theorem Sound.checked (isFired : callback.stage = .fired) {state : StateWord} {active' : Bool}
    (word : state = packed (filter.calls + filter.phonyCalls) active' timer) : ({ filter with
       state := state
       callbacks := filter.callbacks.set index { callback with stage := .restarting } } :
      IdleFilter).Sound active' timer := by
  have inside := (List.getElem?_eq_some_iff.mp at_).1
  have perm := List.set_perm_cons_eraseIdx inside { callback with stage := .restarting }
  have fired := callbacks_count at_ .fired
  have toStart := callbacks_count at_ .restarting
  rw [isFired, if_pos rfl] at fired
  rw [isFired, if_neg (by decide)] at toStart
  have fired' : (filter.callbacks.set index { callback with stage := .restarting }).countP
      (·.stage = .fired) = (filter.callbacks.eraseIdx index).countP (·.stage = .fired) := by
    rw [perm.countP_eq, List.countP_cons]
    rfl
  have toStart' : (filter.callbacks.set index { callback with stage := .restarting }).countP
      (·.stage = .restarting) =
        (filter.callbacks.eraseIdx index).countP (·.stage = .restarting) + 1 := by
    rw [perm.countP_eq, List.countP_cons]
    rfl
  have one : filter.fired = (filter.callbacks.eraseIdx index).countP (·.stage = .fired) + 1 := fired
  have single : filter.tokens ≤ 1 := Nat.le_trans sound.token (Bool.toNat_le timer)
  refine { sound with
    word := word
    token := ?_
    kept := ?_
    uncancelled := ?_
    refs := ?_
    inactive := ?_ }
  · refine Nat.le_trans (Nat.le_of_eq ?_) sound.token
    unfold tokens IdleFilter.toStart IdleFilter.fired
    dsimp only
    omega
  · intro before
    refine Eq.trans ?_ (sound.kept before)
    unfold tokens IdleFilter.toStart IdleFilter.fired
    dsimp only
    omega
  · intro before other member
    rcases List.mem_or_eq_of_mem_set member with old | rfl
    · exact sound.uncancelled before other old
    · exact nofun
  · exact sound.refs.trans (congrArg (filter.armed + ·) (List.length_set ..).symm)
  · intro _ outstanding
    have none : filter.armed = 0 ∧
        (filter.callbacks.eraseIdx index).countP (·.stage = .fired) = 0 := by
      unfold tokens at single
      omega
    rcases outstanding with armed | others
    · exact absurd none.1 armed
    · exact absurd (fired'.trans none.2) others

end

theorem Sound.entersIdle (sound : filter.Sound false timer)
    (at_ : filter.callbacks[index]? = some callback) (isFired : callback.stage = .fired)
    (noCalls : filter.calls + filter.phonyCalls = 0) :
    (({ filter with state := packed 0 false false } : IdleFilter).enterIdle.unref index).Sound
      false false := by
  have fired := callbacks_count at_ .fired
  have toStart := callbacks_count at_ .restarting
  rw [isFired, if_pos rfl] at fired
  have one : filter.fired = (filter.callbacks.eraseIdx index).countP (·.stage = .fired) + 1 := fired
  have single : filter.tokens ≤ 1 := Nat.le_trans sound.token (Bool.toNat_le timer)
  have none : (({ filter with state := packed 0 false false } :
      IdleFilter).enterIdle.unref index).tokens = 0 := by
    unfold tokens IdleFilter.toStart at single ⊢
    unfold IdleFilter.fired unref enterIdle
    dsimp only
    omega
  obtain ⟨calls, phony⟩ := Nat.add_eq_zero_iff.mp noCalls
  refine { sound with
    word := ?_
    token := Nat.le_of_eq none
    kept := fun _ => none
    uncancelled := ?_
    refs := ?_
    decided := ?_
    inactive := ?_
    running := fun _ _ => nofun }
  · exact congrArg (packed · false false) noCalls.symm
  · exact fun before other member =>
      sound.uncancelled before other ((List.eraseIdx_sublist ..).subset member)
  · have refs := sound.refs
    have length := length_callbacks at_
    unfold unref enterIdle
    dsimp only
    omega
  · intro decision member
    rcases List.mem_append.mp member with old | new
    · exact sound.decided decision old
    · obtain rfl := List.mem_singleton.mp new
      have quiet := sound.inactive rfl (.inr (one.trans_ne (Nat.succ_ne_zero _)))
      exact Prod.ext calls quiet
  · unfold tokens at none
    omega

theorem Sound.check (sound : filter.Sound active timer) {index : Nat} {callback : TimerCallback}
    (at_ : filter.callbacks[index]? = some callback) (isFired : callback.stage = .fired) :
    ∃ active timer, (filter.check index callback).Sound active timer := by
  unfold IdleFilter.check
  rw [sound.word, checkTimer_packed sound.small]
  by_cases busy : filter.calls + filter.phonyCalls = 0
  · rw [if_neg (not_not_intro busy)]
    cases active with
    | true =>
      refine ⟨false, timer, sound.checked at_ isFired ?_⟩
      exact congrArg (packed · false timer) busy.symm
    | false => exact ⟨false, false, sound.entersIdle at_ isFired busy⟩
  · rw [if_pos busy]
    exact ⟨active, timer, sound.checked at_ isFired rfl⟩

theorem Sound.idleTimerCallback (sound : filter.Sound active timer)
    (taken : filter.idleTimerCallback index = some filter') :
    ∃ active timer, filter'.Sound active timer := by
  obtain ⟨callback, at_, rfl⟩ := Option.map_eq_some_iff.mp taken
  cases stage : callback.stage with
  | cancelled => exact ⟨active, timer, sound.unrefCancelled at_ stage⟩
  | fired => exact sound.check at_ stage
  | restarting => exact ⟨active, timer, sound.restart at_ stage⟩

theorem Sound.startTransportOp (sound : filter.Sound active timer)
    (taken : filter.startTransportOp = some filter') : filter'.Sound true timer := by
  obtain ⟨before, rfl⟩ := Option.ite_some_none_eq_some.mp taken
  have noPhony : filter.phonyCalls = 0 := if_pos before
  have kept := sound.kept (before.trans_ne (by decide))
  refine { sound with
    word := ?_
    kept := fun _ => kept
    uncancelled := fun _ => sound.uncancelled (before.trans_ne (by decide))
    inactive := nofun
    running := nofun }
  refine (congrArg increaseCallCount sound.word).trans ?_
  rw [increaseCallCount_packed, noPhony]
  rfl

theorem countP_outstanding (callbacks : List TimerCallback) (stage : CallbackStage) :
    (callbacks.map fun callback => { callback with outstanding := true }).countP
      (·.stage = stage) = callbacks.countP (·.stage = stage) := by
  rw [List.countP_map]
  rfl

structure Cancelled (filter filter' : IdleFilter) : Prop where
  disconnect : filter'.disconnect = .cancelled
  armed : filter'.armed = filter.armed - 1
  fired : filter'.fired = filter.fired
  toStart : filter'.toStart = filter.toStart
  starting : filter'.starting = filter.starting
  state : filter'.state = filter.state
  calls : filter'.calls = filter.calls
  callsSinceArmed : filter'.callsSinceArmed = filter.callsSinceArmed
  idleDecisions : filter'.idleDecisions = filter.idleDecisions
  channelStackRefs : filter'.channelStackRefs = filter.channelStackRefs
  length : filter'.armed + filter'.callbacks.length = filter.armed + filter.callbacks.length
  outstanding : ∀ callback ∈ filter'.callbacks, callback.outstanding = true
  alone : filter.armed = 0 → filter'.callbacks.map TimerCallback.stage =
    filter.callbacks.map TimerCallback.stage

theorem cancelled (taken : filter.cancelTimer = some filter') : filter.Cancelled filter' := by
  obtain ⟨counted, rfl⟩ := Option.ite_some_none_eq_some.mp taken
  have none : ∀ stage, stage ≠ CallbackStage.cancelled →
      [TimerCallback.mk .cancelled false].countP (·.stage = stage) = 0 := by
    intro stage ne
    cases stage with
    | fired => rfl
    | cancelled => contradiction
    | restarting => rfl
  constructor
  · rfl
  · split
    · next idle => exact idle.trans (congrArg (· - 1) idle).symm
    · rfl
  · unfold fired
    rw [countP_outstanding]
    split
    · rfl
    · rw [List.countP_append, none _ (by decide), Nat.add_zero]
  · unfold toStart
    rw [countP_outstanding]
    split
    · rfl
    · rw [List.countP_append, none _ (by decide), Nat.add_zero]
  · split <;> rfl
  · split <;> rfl
  · split <;> rfl
  · split <;> rfl
  · dsimp only
    split <;> rfl
  · split <;> rfl
  · rw [List.length_map]
    split
    · rfl
    · dsimp only
      rw [List.length_append, List.length_singleton]
      omega
  · intro callback member
    obtain ⟨old, _, rfl⟩ := List.mem_map.mp member
    rfl
  · intro idle
    rw [if_pos idle, List.map_map]
    rfl

theorem Sound.cancelTimer (sound : filter.Sound active timer)
    (taken : filter.cancelTimer = some filter') : filter'.Sound active timer := by
  have left := cancelled taken
  have counted := (Option.ite_none_right_eq_some.mp taken).1
  have phony : filter.phonyCalls = 1 := if_neg (counted.trans_ne (by decide))
  have phony' : filter'.phonyCalls = 1 := if_neg (left.disconnect.trans_ne (by decide))
  have ended : ¬filter'.disconnect ≠ .cancelled := not_not_intro left.disconnect
  have earlier : filter'.disconnect ≠ .before := left.disconnect.trans_ne (by decide)
  constructor
  · rw [left.state, left.calls, phony', ← phony]
    exact sound.word
  · exact left.calls.trans_le sound.bounded
  · refine Nat.le_trans ?_ sound.token
    unfold tokens
    rw [left.armed, left.fired, left.toStart]
    omega
  · exact fun before => absurd before ended
  · exact fun before => absurd before ended
  · rw [left.channelStackRefs, left.length]
    exact sound.refs
  · rw [left.idleDecisions]
    exact sound.decided
  · intro quiet outstanding
    rw [left.armed, left.fired] at outstanding
    rw [left.callsSinceArmed]
    exact sound.inactive quiet (outstanding.imp_left (mt (congrArg (· - 1))))
  · exact fun before => absurd before earlier

variable {action : Action}

theorem Sound.step (sound : filter.Sound active timer) (taken : filter.step action = some filter') :
    ∃ active timer, filter'.Sound active timer := by
  cases action with
  | callInit => exact ⟨true, timer, sound.callInit taken⟩
  | callDestroy => exact sound.callDestroy taken
  | startIdleTimer => exact ⟨active, timer, sound.startIdleTimer taken⟩
  | expire => exact ⟨active, timer, sound.expire taken⟩
  | idleTimerCallback => exact sound.idleTimerCallback taken
  | startTransportOp => exact ⟨true, timer, sound.startTransportOp taken⟩
  | cancelTimer => exact ⟨active, timer, sound.cancelTimer taken⟩

/-- After a disconnect that has taken the token, only callbacks that were outstanding are left. -/
structure Quiet (filter : IdleFilter) : Prop where
  disconnect : filter.disconnect = .cancelled
  armed : filter.armed = 0
  starting : filter.starting = 0
  outstanding : ∀ callback ∈ filter.callbacks,
    callback.stage = .cancelled ∧ callback.outstanding = true

theorem Quiet.step (quiet : filter.Quiet) (sound : filter.Sound active timer)
    (taken : filter.step action = some filter') : filter'.Quiet := by
  cases action with
  | callInit =>
    obtain ⟨_, rfl⟩ := Option.ite_some_none_eq_some.mp taken
    exact { quiet with }
  | callDestroy =>
    have taken : filter.callDestroy = some filter' := taken
    obtain ⟨some_, same⟩ := Option.ite_none_left_eq_some.mp taken
    have phony : filter.phonyCalls = 1 := if_neg (quiet.disconnect.trans_ne (by decide))
    have word : filter.state = packed (filter.calls + 1) active timer := by
      rw [sound.word, phony]
    have small : filter.calls < 2 ^ 62 :=
      Nat.lt_of_le_of_lt (Nat.le_add_right ..) sound.small
    rw [word, decreaseCallCount_packed small, if_neg fun idle => some_ idle.1] at same
    obtain rfl := Option.some.inj same
    exact { quiet with }
  | startIdleTimer => exact absurd quiet.starting (Option.ite_none_left_eq_some.mp taken).1
  | expire => exact absurd quiet.armed (Option.ite_none_left_eq_some.mp taken).1
  | idleTimerCallback =>
    obtain ⟨callback, at_, rfl⟩ := Option.map_eq_some_iff.mp taken
    have isCancelled := (quiet.outstanding callback (List.mem_of_getElem? at_)).1
    rw [isCancelled]
    exact { quiet with
      outstanding := fun other member =>
        quiet.outstanding other ((List.eraseIdx_sublist ..).subset member) }
  | startTransportOp =>
    have before := (Option.ite_none_right_eq_some.mp taken).1
    cases quiet.disconnect.symm.trans before
  | cancelTimer =>
    have counted := (Option.ite_none_right_eq_some.mp taken).1
    cases quiet.disconnect.symm.trans counted

def Consistent (filter : IdleFilter) : Prop := ∃ active timer, filter.Sound active timer

theorem Consistent.step (consistent : filter.Consistent) {action : Action}
    (taken : filter.step action = some filter') : filter'.Consistent := by
  obtain ⟨_, _, sound⟩ := consistent
  exact sound.step taken

theorem Quiet.run {actions : List Action} (run : Reach IdleFilter.step filter actions filter')
    (quiet : filter.Quiet) (consistent : filter.Consistent) :
    filter'.Quiet ∧ filter'.Consistent := by
  induction run with
  | nil => exact ⟨quiet, consistent⟩
  | cons _ taken _ ih =>
    obtain ⟨_, _, sound⟩ := consistent
    exact ih (quiet.step sound taken) (sound.step taken)

theorem Quiet.released (quiet : filter.Quiet) (sound : filter.Sound active timer) :
    filter.Released := by
  intro _ actions final reach returned
  obtain ⟨quiet, _, _, sound⟩ := quiet.run reach ⟨_, _, sound⟩
  have none : final.callbacks = [] := by
    apply List.eq_nil_iff_forall_not_mem.mpr
    intro callback member
    cases (quiet.outstanding callback member).2.symm.trans (returned callback member)
  refine ⟨quiet.armed, ?_⟩
  rw [sound.refs, quiet.armed, none]
  rfl

theorem not_released_of_starting (ended : filter.disconnect = .cancelled)
    (some_ : filter.starting ≠ 0) (none : filter.callbacks = []) : ¬filter.Released := by
  intro released
  have taken : filter.step .startIdleTimer =
      some { filter with starting := filter.starting - 1 }.armTimer := if_neg some_
  have run : Reach step filter [.startIdleTimer] _ := .cons trivial taken (.nil _)
  have spent := released ended _ _ run (none ▸ List.forall_mem_nil _)
  exact Nat.succ_ne_zero _ spent.1

theorem not_released_of_restarting (ended : filter.disconnect = .cancelled)
    (callback : TimerCallback) (one : filter.callbacks = [callback])
    (restarting : callback.stage = .restarting) : ¬filter.Released := by
  intro released
  have taken : filter.step (.idleTimerCallback 0) = some (filter.armTimer.unref 0) := by
    unfold IdleFilter.step IdleFilter.idleTimerCallback
    dsimp only
    rw [one, List.getElem?_cons_zero, Option.map_some, restarting]
  have run : Reach step filter [.idleTimerCallback 0] _ := .cons trivial taken (.nil _)
  have none : (filter.armTimer.unref 0).callbacks = [] := congrArg (List.eraseIdx · 0) one
  have spent := released ended _ _ run (none ▸ List.forall_mem_nil _)
  exact Nat.succ_ne_zero _ spent.1

section

variable (sound : filter.Sound active timer)
include sound

theorem not_released_of_fired (ended : filter.disconnect = .cancelled)
    (one : filter.callbacks = [callback]) (fired : callback.stage = .fired) : ¬filter.Released := by
  intro released
  have phony : filter.phonyCalls = 1 := if_neg (ended.trans_ne (by decide))
  have busy : filter.calls + filter.phonyCalls ≠ 0 := phony ▸ Nat.succ_ne_zero _
  have at_ : filter.callbacks[0]? = some callback := by rw [one]; rfl
  have taken : filter.step (.idleTimerCallback 0) = some (filter.check 0 callback) := by
    unfold IdleFilter.step IdleFilter.idleTimerCallback
    dsimp only
    rw [at_, Option.map_some, fired]
  have checked : filter.check 0 callback =
      { filter with callbacks := [{ callback with stage := .restarting }] } := by
    unfold IdleFilter.check
    rw [sound.word, checkTimer_packed sound.small, if_pos busy, one, ← sound.word]
    rfl
  rw [checked] at taken
  have restarting : ¬({ filter with
      callbacks := [{ callback with stage := .restarting }] } : IdleFilter).Released :=
    not_released_of_restarting ended _ rfl rfl
  apply restarting
  intro _ actions final run
  exact released ended _ _ (.cons trivial taken run)

theorem Sound.length_callbacks (before : filter.disconnect ≠ .cancelled) :
    filter.callbacks.length = filter.fired + filter.callbacks.countP (·.stage = .restarting) := by
  have uncancelled := sound.uncancelled before
  unfold fired
  generalize filter.callbacks = callbacks at uncancelled
  induction callbacks with
  | nil => rfl
  | cons callback callbacks ih =>
    have here := uncancelled callback List.mem_cons_self
    have rest := ih fun other member => uncancelled other (List.mem_cons_of_mem _ member)
    rw [List.length_cons, List.countP_cons, List.countP_cons, rest]
    cases stage : callback.stage with
    | fired => simp; omega
    | cancelled => contradiction
    | restarting => simp; omega

theorem Sound.kept_iff : filter.Kept ↔ filter.Released := by
  constructor
  · exact Kept.released
  · intro released
    have single : filter.tokens ≤ 1 := Nat.le_trans sound.token (Bool.toNat_le timer)
    constructor
    · rw [sound.word, callsInProgress_packed sound.small]
    · unfold tokens at single
      omega
    · exact sound.decided
    · intro before noCalls ended
      have one := sound.kept (before.trans_ne (by decide))
      rw [sound.running before noCalls ended] at one
      unfold tokens at one
      rw [Bool.toNat_true] at one
      omega
    · exact released

theorem Sound.released_cancelTimer_iff (taken : filter.cancelTimer = some filter') :
    filter'.Released ↔ filter.fired = 0 ∧ filter.toStart = 0 := by
  have left := cancelled taken
  have sound' := sound.cancelTimer taken
  have counted := (Option.ite_none_right_eq_some.mp taken).1
  have before : filter.disconnect ≠ .cancelled := counted.trans_ne (by decide)
  have single : filter.tokens ≤ 1 := Nat.le_trans sound.token (Bool.toNat_le timer)
  have length := sound.length_callbacks before
  constructor
  · intro released
    have alone : filter.armed = 0 → filter.callbacks.length = 1 → ∃ callback callback',
        filter.callbacks = [callback] ∧ filter'.callbacks = [callback'] ∧
          callback'.stage = callback.stage := by
      intro idle one
      obtain ⟨callback, isOne⟩ := List.length_eq_one_iff.mp one
      have stages := left.alone idle
      rw [isOne, List.map_singleton] at stages
      obtain ⟨callback', isOne', same⟩ := List.map_eq_singleton_iff.mp stages
      exact ⟨callback, callback', isOne, isOne', same⟩
    unfold tokens toStart at single
    refine ⟨?_, ?_⟩
    · by_contra fired
      obtain ⟨callback, callback', isOne, isOne', same⟩ := alone (by omega) (by omega)
      have isFired : callback.stage = .fired := by
        by_contra other
        unfold IdleFilter.fired at fired
        rw [isOne, List.countP_singleton, if_neg (by simpa using other)] at fired
        exact fired rfl
      exact not_released_of_fired sound' left.disconnect isOne' (same.trans isFired) released
    · by_contra toStart
      unfold IdleFilter.toStart at toStart
      by_cases starting : filter.starting = 0
      · obtain ⟨callback, callback', isOne, isOne', same⟩ := alone (by omega) (by omega)
        have isRestarting : callback.stage = .restarting := by
          by_contra other
          rw [isOne, List.countP_singleton, if_neg (by simpa using other)] at toStart
          exact toStart starting
        exact not_released_of_restarting left.disconnect _ isOne' (same.trans isRestarting)
          released
      · have empty : filter.callbacks = [] := List.length_eq_zero_iff.mp (by omega)
        have none : filter'.callbacks.map TimerCallback.stage = [] := by
          rw [left.alone (by omega), empty, List.map_nil]
        exact not_released_of_starting left.disconnect (left.starting.trans_ne starting)
          (List.map_eq_nil_iff.mp none) released
  · rintro ⟨fired, toStart⟩
    have noStarting := Nat.add_eq_zero_iff.mp toStart
    refine Quiet.released ⟨left.disconnect, ?_, left.starting.trans noStarting.1, ?_⟩ sound'
    · rw [left.armed]
      unfold tokens at single
      omega
    · intro callback member
      refine ⟨?_, left.outstanding callback member⟩
      have notFired := List.countP_eq_zero.mp (left.fired.trans fired) callback member
      have notRestarting := List.countP_eq_zero.mp
        (Nat.add_eq_zero_iff.mp (left.toStart.trans toStart)).2 callback member
      cases stage : callback.stage with
      | fired => simp [stage] at notFired
      | cancelled => rfl
      | restarting => simp [stage] at notRestarting

theorem Sound.kept_step_iff (kept : filter.Kept) (taken : filter.step action = some filter') :
    filter'.Kept ↔ filter.CancelsInTime action := by
  obtain ⟨_, _, sound'⟩ := sound.step taken
  rw [sound'.kept_iff]
  have later : filter'.disconnect = filter.disconnect → filter'.Released := by
    intro same ended actions final run
    exact kept.released (same.symm.trans ended) _ _ (.cons trivial taken run)
  cases action with
  | callInit =>
    obtain ⟨_, same⟩ := Option.ite_none_right_eq_some.mp taken
    exact iff_of_true (later (Option.some.inj same ▸ rfl)) trivial
  | callDestroy | startIdleTimer | expire =>
    obtain ⟨_, same⟩ := Option.ite_none_left_eq_some.mp taken
    exact iff_of_true (later (Option.some.inj same ▸ rfl)) trivial
  | idleTimerCallback =>
    refine iff_of_true (later ?_) trivial
    obtain ⟨callback, at_, rfl⟩ := Option.map_eq_some_iff.mp taken
    cases callback.stage with
    | fired =>
      unfold IdleFilter.check
      dsimp only
      split <;> rfl
    | cancelled => rfl
    | restarting => rfl
  | startTransportOp =>
    refine iff_of_true ?_ trivial
    obtain ⟨_, rfl⟩ := Option.ite_some_none_eq_some.mp taken
    exact nofun
  | cancelTimer => exact sound.released_cancelTimer_iff taken

end

theorem Kept.created : Kept .created :=
  Sound.created.kept_iff.mpr nofun

/-- The filter keeps its timer, and the channel stack is released, in exactly the runs in which the
disconnect cancels the timer in time. -/
theorem kept_iff_cancelsInTime (actions : List Action) (final : IdleFilter) :
    Run step CancelsInTime created actions final ↔
      Reach step created actions final ∧
        ∀ done later, actions = done ++ later → ∀ middle, Reach step created done middle →
          middle.Kept := by
  apply Run.iff_always (fun (consistent : Consistent _) taken => consistent.step taken)
  · intro filter action filter' consistent kept taken
    obtain ⟨_, _, sound⟩ := consistent
    exact sound.kept_step_iff kept taken
  · exact ⟨_, _, Sound.created⟩
  · exact Kept.created

/-- The timer fires just before the disconnect. Its callback finds the call that the disconnect
counts and arms the timer again. -/
theorem fired_timer_restarts :
    ¬ ∀ (actions : List Action) (final : IdleFilter),
      Reach step created actions final → final.Kept := by
  intro always
  have reach : Reach step created
      [.callInit, .callDestroy, .startIdleTimer, .expire, .startTransportOp, .cancelTimer]
      ⟨packed 1 true true, 0, 0, 0, [⟨.fired, true⟩], .cancelled, 1, 0, true, []⟩ :=
    reach_of_exec (by decide)
  obtain ⟨final, rest, seen⟩ := exists_reach step
    ⟨packed 1 true true, 0, 0, 0, [⟨.fired, true⟩], .cancelled, 1, 0, true, []⟩
    [.idleTimerCallback 0, .idleTimerCallback 0]
    (fun filter => (filter.armed, filter.callbacks)) (1, []) (by decide)
  rw [Prod.mk.injEq] at seen
  have spent := (always _ _ reach).released rfl _ final rest (seen.2 ▸ List.forall_mem_nil _)
  exact absurd (seen.1.symm.trans spent.1) (by decide)

end GrpcCore.ClientIdle.IdleFilter
