import Mathlib

/-!
# The state word of the idle filter

The number of calls in progress and two flags share one word, which is changed by compare and swap.
-/

namespace GrpcCore.ClientIdle

abbrev StateWord := BitVec 64

def kTimerStarted : StateWord := 1

def kCallsStartedSinceLastTimerCheck : StateWord := 2

def kCallsInProgressShift : StateWord := 2

def kCallIncrement : StateWord := (1 : StateWord) <<< kCallsInProgressShift

def initialState (startTimer : Bool) : StateWord := if startTimer then kTimerStarted else 0

def callsInProgress (state : StateWord) : StateWord := state >>> kCallsInProgressShift

def increaseCallCount (state : StateWord) : StateWord :=
  (state ||| kCallsStartedSinceLastTimerCheck) + kCallIncrement

/-- The last call starts the timer unless it is started. The mask is the shift, which is the bit of
the calls that have started. -/
def decreaseCallCount (state : StateWord) : StateWord × Bool :=
  let newState := state - kCallIncrement
  if callsInProgress newState = 0 ∧ newState &&& kTimerStarted = 0 then
    ((newState ||| kTimerStarted) &&& ~~~kCallsInProgressShift, true)
  else (newState, false)

def checkTimer (state : StateWord) : StateWord × Bool :=
  if callsInProgress state ≠ 0 then (state, true)
  else if state &&& kCallsStartedSinceLastTimerCheck ≠ 0 then
    (state &&& ~~~kCallsStartedSinceLastTimerCheck, true)
  else (state &&& ~~~kTimerStarted, false)

/-- The word of a number of calls and the flags that calls have started and that the timer has. -/
def packed (calls : Nat) (active timer : Bool) : StateWord :=
  BitVec.ofNat 62 calls ++ (BitVec.ofBool active ++ BitVec.ofBool timer)

theorem toNat_packed (calls : Nat) (active timer : Bool) :
    (packed calls active timer).toNat = 4 * (calls % 2 ^ 62) + 2 * active.toNat + timer.toNat := by
  unfold packed
  rw [BitVec.toNat_append, BitVec.toNat_ofNat, ← Nat.shiftLeft_add_eq_or_of_lt (BitVec.isLt _),
    Nat.shiftLeft_eq]
  cases active <;> cases timer <;> simp <;> omega

section

variable (calls : Nat) (active timer active' timer' : Bool)
include calls active timer active' timer'

theorem packed_or : packed calls active timer ||| packed 0 active' timer' =
      packed calls (active || active') (timer || timer') := by
  have halves :
      packed calls active timer ||| packed 0 active' timer' =
        (BitVec.ofNat 62 calls ||| 0#62) ++
          ((BitVec.ofBool active ++ BitVec.ofBool timer) |||
            (BitVec.ofBool active' ++ BitVec.ofBool timer')) := BitVec.or_append
  rw [halves, BitVec.or_zero, BitVec.or_append]
  cases active <;> cases timer <;> cases active' <;> cases timer' <;> rfl

theorem packed_and : packed calls active timer &&& packed 0 active' timer' =
      packed 0 (active && active') (timer && timer') := by
  have halves :
      packed calls active timer &&& packed 0 active' timer' =
        (BitVec.ofNat 62 calls &&& 0#62) ++
          ((BitVec.ofBool active ++ BitVec.ofBool timer) &&&
            (BitVec.ofBool active' ++ BitVec.ofBool timer')) := BitVec.and_append
  rw [halves, BitVec.and_zero, BitVec.and_append]
  cases active <;> cases timer <;> cases active' <;> cases timer' <;> rfl

theorem packed_and_not : packed calls active timer &&& ~~~packed 0 active' timer' =
      packed calls (active && !active') (timer && !timer') := by
  have complement : ~~~packed 0 active' timer' =
      ~~~0#62 ++ ~~~(BitVec.ofBool active' ++ BitVec.ofBool timer') := BitVec.not_append
  have halves :
      packed calls active timer &&&
          (~~~0#62 ++ ~~~(BitVec.ofBool active' ++ BitVec.ofBool timer')) =
        (BitVec.ofNat 62 calls &&& ~~~0#62) ++
          ((BitVec.ofBool active ++ BitVec.ofBool timer) &&&
            ~~~(BitVec.ofBool active' ++ BitVec.ofBool timer')) := BitVec.and_append
  rw [complement, halves, BitVec.not_zero, BitVec.and_allOnes]
  cases active <;> cases timer <;> cases active' <;> cases timer' <;> rfl

end

theorem packed_add (calls : Nat) (active timer : Bool) :
    packed calls active timer + kCallIncrement = packed (calls + 1) active timer := by
  have increment : kCallIncrement.toNat = 4 := by decide
  apply BitVec.eq_of_toNat_eq
  rw [BitVec.toNat_add, toNat_packed, toNat_packed, increment]
  cases active <;> cases timer <;> simp <;> omega

theorem packed_sub (calls : Nat) (active timer : Bool) :
    packed (calls + 1) active timer - kCallIncrement = packed calls active timer := by
  rw [← packed_add, BitVec.add_sub_cancel]

theorem callsInProgress_packed {calls : Nat} (small : calls < 2 ^ 62) (active timer : Bool) :
    (callsInProgress (packed calls active timer)).toNat = calls := by
  have shift : kCallsInProgressShift.toNat = 2 := by decide
  unfold callsInProgress
  rw [BitVec.ushiftRight_eq', shift, BitVec.toNat_ushiftRight, toNat_packed,
    Nat.shiftRight_eq_div_pow, Nat.mod_eq_of_lt small]
  cases active <;> cases timer <;> simp <;> omega

theorem callsInProgress_packed_eq_zero {calls : Nat} (small : calls < 2 ^ 62)
    (active timer : Bool) : callsInProgress (packed calls active timer) = 0 ↔ calls = 0 := by
  rw [← BitVec.toNat_inj, callsInProgress_packed small]
  rfl

theorem packed_eq_zero (active timer : Bool) :
    packed 0 active timer = 0 ↔ active = false ∧ timer = false := by
  cases active <;> cases timer <;> decide

theorem increaseCallCount_packed (calls : Nat) (active timer : Bool) :
    increaseCallCount (packed calls active timer) = packed (calls + 1) true timer := by
  have flag : kCallsStartedSinceLastTimerCheck = packed 0 true false := by decide
  unfold increaseCallCount
  rw [flag, packed_or, packed_add, Bool.or_true, Bool.or_false]

theorem decreaseCallCount_packed {calls : Nat} (small : calls < 2 ^ 62) (active timer : Bool) :
    decreaseCallCount (packed (calls + 1) active timer) =
      if calls = 0 ∧ timer = false then (packed 0 false true, true)
      else (packed calls active timer, false) := by
  have flag : kTimerStarted = packed 0 false true := by decide
  have mask : kCallsInProgressShift = packed 0 true false := by decide
  have idle : callsInProgress (packed calls active timer) = 0 ∧
      packed calls active timer &&& packed 0 false true = 0 ↔ calls = 0 ∧ timer = false := by
    rw [callsInProgress_packed_eq_zero small, packed_and, packed_eq_zero]
    simp
  unfold decreaseCallCount
  rw [packed_sub, flag]
  by_cases last : calls = 0 ∧ timer = false
  · rw [if_pos last, if_pos (idle.mpr last), packed_or, mask, packed_and_not, last.1]
    simp
  · rw [if_neg last, if_neg (mt idle.mp last)]

theorem checkTimer_packed {calls : Nat} (small : calls < 2 ^ 62) (active timer : Bool) :
    checkTimer (packed calls active timer) =
      if calls ≠ 0 then (packed calls active timer, true)
      else if active then (packed 0 false timer, true)
      else (packed 0 false false, false) := by
  have busy := callsInProgress_packed_eq_zero small active timer
  unfold checkTimer
  by_cases none : calls = 0
  · subst none
    cases active with
    | false => cases timer <;> rfl
    | true => cases timer <;> rfl
  · rw [if_pos (mt busy.mp none), if_pos none]

end GrpcCore.ClientIdle
