import Mathlib

/-!
# Reading a stream in segments

A reader takes one step after another on what is left of a segment. A step may
take all that is there as part of something longer, so where a segment ends
shows in the steps; it must not show in the outcome.
-/

namespace Segments

universe u v w
variable {Symbol : Type u} {Error : Type v} {State : Type w}

/-- One step: the state after it with what is left of the segment, or an error. -/
inductive Taken (Symbol : Type u) (Error : Type v) (State : Type w) where
  | took (state : State) (rest : List Symbol)
  | failed (error : Error) (state : State)
deriving DecidableEq

section Reader

variable (step : State → List Symbol → Taken Symbol Error State)

def readFuel : Nat → State → List Symbol → Option Error × State
  | _, state, [] => (none, state)
  | 0, state, _ :: _ => (none, state)
  | fuel + 1, state, symbol :: segment =>
    match step state (symbol :: segment) with
    | .took state rest => readFuel fuel state rest
    | .failed error state => (some error, state)

/-- Read a whole segment. Every step takes at least one symbol. -/
def read (state : State) (segment : List Symbol) : Option Error × State :=
  readFuel step segment.length state segment

/-- Read segments in order, up to the first error. -/
def readAll : State → List (List Symbol) → Option Error × State
  | state, [] => (none, state)
  | state, segment :: segments =>
    match read step state segment with
    | (none, state) => readAll state segments
    | (some error, state) => (some error, state)

end Reader

/-- The same success, or the same error in related states. -/
def Agrees (Fails : State → State → Prop) (first second : Option Error × State) : Prop :=
  match first with
  | (none, state) => second = (none, state)
  | (some error, state) => ∃ state', second = (some error, state') ∧ Fails state state'

def Taken.Agrees (Fails : State → State → Prop) (first second : Taken Symbol Error State) :
    Prop :=
  match first with
  | .took state rest => second = .took state rest
  | .failed error state => ∃ state', second = .failed error state' ∧ Fails state state'

/-- What a step needs so that segments shorter than `limit` may be cut anywhere:
a step that does not use up its segment takes no notice of what follows, and one
that does either takes no notice or is continued by the next step. -/
structure Cuttable (step : State → List Symbol → Taken Symbol Error State)
    (Inv : State → Prop) (Fails : State → State → Prop) (limit : Nat) : Prop where
  shrinks : ∀ {state symbol segment state' rest}, Inv state →
    step state (symbol :: segment) = .took state' rest → rest.length ≤ segment.length
  keeps : ∀ {state symbol segment state' rest}, Inv state → segment.length + 1 < limit →
    step state (symbol :: segment) = .took state' rest → Inv state'
  cut : ∀ {state segment more}, Inv state → segment ≠ [] → more ≠ [] →
    (segment ++ more).length < limit →
    match step state segment with
    | .took state' rest =>
      step state (segment ++ more) = .took state' (rest ++ more) ∨
        rest = [] ∧ (step state' more).Agrees Fails (step state (segment ++ more))
    | .failed error state' =>
      ∃ state'', step state (segment ++ more) = .failed error state'' ∧ Fails state' state''

variable {step : State → List Symbol → Taken Symbol Error State} {Inv : State → Prop}
  {Fails : State → State → Prop} {limit : Nat}

@[simp] theorem read_nil (state : State) : read step state [] = (none, state) := rfl

theorem readFuel_stable
    (shrinks : ∀ {state symbol segment state' rest}, Inv state →
      step state (symbol :: segment) = .took state' rest → rest.length ≤ segment.length)
    (keeps : ∀ {state symbol segment state' rest}, Inv state → segment.length + 1 < limit →
      step state (symbol :: segment) = .took state' rest → Inv state')
    {fuel fuel' : Nat} {state : State} {segment : List Symbol} (holds : Inv state)
    (short : segment.length < limit) (enough : segment.length ≤ fuel)
    (enough' : segment.length ≤ fuel') :
    readFuel step fuel state segment = readFuel step fuel' state segment := by
  induction fuel generalizing fuel' state segment with
  | zero =>
    obtain rfl := List.length_eq_zero_iff.mp (Nat.le_zero.mp enough)
    simp [readFuel]
  | succ fuel ih =>
    cases segment with
    | nil => simp [readFuel]
    | cons symbol segment =>
      obtain _ | fuel' := fuel'
      · simp at enough'
      · simp only [readFuel]
        cases taken : step state (symbol :: segment) with
        | failed => rfl
        | took =>
          have shorter := shrinks holds taken
          simp only [List.length_cons] at short enough enough'
          exact ih (keeps holds short taken) (by omega) (by omega) (by omega)

theorem readFuel_enough (cuttable : Cuttable step Inv Fails limit) {fuel fuel' : Nat}
    {state : State} {segment : List Symbol} (holds : Inv state) (short : segment.length < limit)
    (enough : segment.length ≤ fuel) (enough' : segment.length ≤ fuel') :
    readFuel step fuel state segment = readFuel step fuel' state segment :=
  readFuel_stable cuttable.shrinks cuttable.keeps holds short enough enough'

theorem read_cons (cuttable : Cuttable step Inv Fails limit) {state : State} (holds : Inv state)
    {symbol : Symbol} {segment : List Symbol} (short : segment.length + 1 < limit) :
    read step state (symbol :: segment) =
      match step state (symbol :: segment) with
      | .took state' rest => read step state' rest
      | .failed error state' => (some error, state') := by
  simp only [read, List.length_cons, readFuel]
  cases taken : step state (symbol :: segment) with
  | failed => rfl
  | took =>
    have shorter := cuttable.shrinks holds taken
    exact readFuel_enough cuttable (cuttable.keeps holds short taken) (by omega) shorter
      (Nat.le_refl _)

theorem Agrees.refl (reflexive : ∀ state, Fails state state) (outcome : Option Error × State) :
    Agrees Fails outcome outcome := by
  rcases outcome with ⟨_ | error, state⟩
  · rfl
  · exact ⟨state, rfl, reflexive state⟩

theorem Agrees.trans (transitive : ∀ first second third, Fails first second →
      Fails second third → Fails first third) {first second third : Option Error × State}
    (left : Agrees Fails first second) (right : Agrees Fails second third) :
    Agrees Fails first third := by
  rcases first with ⟨_ | error, state⟩
  · obtain rfl : second = (none, state) := left
    exact right
  · obtain ⟨state', rfl, fails⟩ := left
    obtain ⟨state'', rfl, fails'⟩ := right
    exact ⟨state'', rfl, transitive _ _ _ fails fails'⟩

theorem read_keeps (cuttable : Cuttable step Inv Fails limit) {state state' : State}
    {segment : List Symbol} (holds : Inv state) (short : segment.length < limit)
    (done : read step state segment = (none, state')) : Inv state' := by
  generalize size : segment.length = bound
  induction bound using Nat.strongRecOn generalizing state segment with
  | _ bound ih =>
    cases segment with
    | nil =>
      obtain rfl := (Prod.mk.inj done).2
      exact holds
    | cons symbol segment =>
      simp only [List.length_cons] at short
      rw [read_cons cuttable holds short] at done
      cases taken : step state (symbol :: segment) with
      | failed => simp [taken] at done
      | took state'' rest =>
        rw [taken] at done
        have shorter := cuttable.shrinks holds taken
        simp only [List.length_cons] at size
        exact ih rest.length (by omega) (cuttable.keeps holds short taken) (by omega) done rfl

def Taken.state : Taken Symbol Error State → State
  | .took state _ => state
  | .failed _ state => state

theorem read_invariant (Holds : State → Prop)
    (kept : ∀ {state symbol segment}, Holds state → Holds (step state (symbol :: segment)).state)
    {state : State} (holds : Holds state) (segment : List Symbol) :
    Holds (read step state segment).2 := by
  unfold read
  generalize segment.length = fuel
  induction fuel generalizing state segment with
  | zero => cases segment <;> exact holds
  | succ fuel ih =>
    cases segment with
    | nil => exact holds
    | cons symbol segment =>
      have next : Holds (step state (symbol :: segment)).state := kept holds
      unfold readFuel
      cases taken : step state (symbol :: segment) with
      | took state' rest =>
        rw [taken] at next
        exact ih next rest
      | failed =>
        rw [taken] at next
        exact next

/-- What holds after every successful step on a segment shorter than `limit` holds
after a successful read. -/
theorem read_success (Holds : State → Prop) {limit : Nat}
    (kept : ∀ {state symbol segment state' rest}, Holds state → segment.length + 1 < limit →
      step state (symbol :: segment) = .took state' rest →
      Holds state' ∧ rest.length ≤ segment.length)
    {state state' : State} {segment : List Symbol} (holds : Holds state)
    (short : segment.length < limit) (done : read step state segment = (none, state')) :
    Holds state' := by
  unfold read at done
  generalize segment.length = fuel at done
  induction fuel generalizing state segment with
  | zero =>
    cases segment <;>
    · obtain rfl := (Prod.mk.inj done).2
      exact holds
  | succ fuel ih =>
    cases segment with
    | nil =>
      obtain rfl := (Prod.mk.inj done).2
      exact holds
    | cons =>
      unfold readFuel at done
      split at done
      · rename_i next rest taken
        obtain ⟨holds', shorter⟩ := kept holds short taken
        exact ih holds' (by simp only [List.length_cons] at short; omega) done
      · cases done

section

variable (cuttable : Cuttable step Inv Fails limit)
include cuttable

theorem Cuttable.strengthen (Also : State → Prop)
    (kept : ∀ {state symbol segment state' rest}, Inv state → Also state →
      segment.length + 1 < limit → step state (symbol :: segment) = .took state' rest →
      Also state') :
    Cuttable step (fun state => Inv state ∧ Also state) Fails limit where
  shrinks := fun holds taken => cuttable.shrinks holds.1 taken
  keeps := fun holds short taken =>
    ⟨cuttable.keeps holds.1 short taken, kept holds.1 holds.2 short taken⟩
  cut := fun holds nonempty nonempty' short => cuttable.cut holds.1 nonempty nonempty' short

theorem read_append (reflexive : ∀ state, Fails state state) {state : State}
    {segment more : List Symbol} (holds : Inv state) (short : (segment ++ more).length < limit) :
    Agrees Fails
      (match read step state segment with
        | (none, state') => read step state' more
        | (some error, state') => (some error, state'))
      (read step state (segment ++ more)) := by
  generalize size : segment.length = bound
  induction bound using Nat.strongRecOn generalizing state segment with
  | _ bound ih =>
    cases segment with
    | nil => exact Agrees.refl reflexive _
    | cons symbol segment =>
      cases more with
      | nil =>
        rw [List.append_nil]
        rcases read step state (symbol :: segment) with ⟨_ | error, state'⟩
        · rfl
        · exact ⟨state', rfl, reflexive state'⟩
      | cons next more =>
        have cut := cuttable.cut holds (List.cons_ne_nil symbol segment)
          (List.cons_ne_nil next more) short
        simp only [List.length_cons, List.length_append] at short
        rw [read_cons cuttable holds (by omega), List.cons_append,
          read_cons cuttable holds (by simp only [List.length_append, List.length_cons]; omega),
          ← List.cons_append]
        cases taken : step state (symbol :: segment) with
        | failed =>
          rw [taken] at cut
          obtain ⟨state'', failed, fails⟩ := cut
          rw [failed]
          exact ⟨state'', rfl, fails⟩
        | took state' rest =>
          rw [taken] at cut
          have shorter := cuttable.shrinks holds taken
          simp only [List.length_cons] at size
          rcases cut with unnoticed | ⟨rfl, continued⟩
          · rw [unnoticed]
            exact ih rest.length (by omega) (cuttable.keeps holds (by omega) taken)
              (by simp only [List.length_append, List.length_cons]; omega) rfl
          · simp only [read_nil]
            rw [read_cons cuttable (cuttable.keeps holds (by omega) taken) (by omega)]
            cases taken' : step state' (next :: more) with
            | took state'' rest' =>
              rw [taken'] at continued
              rw [show step state (symbol :: segment ++ next :: more) =
                .took state'' rest' from continued]
              exact Agrees.refl reflexive _
            | failed =>
              rw [taken'] at continued
              obtain ⟨state₃, failed, fails⟩ := continued
              rw [failed]
              exact ⟨state₃, rfl, fails⟩

theorem readAll_agrees (reflexive : ∀ state, Fails state state)
    (transitive : ∀ first second third, Fails first second → Fails second third → Fails first third)
    {state : State} {segments : List (List Symbol)} (holds : Inv state)
    (short : segments.flatten.length < limit) :
    Agrees Fails (readAll step state segments) (read step state segments.flatten) := by
  induction segments generalizing state with
  | nil => rfl
  | cons segment segments ih =>
    have whole := read_append cuttable reflexive holds short
    simp only [readAll, List.flatten_cons]
    rcases first : read step state segment with ⟨_ | error, state'⟩
    · rw [first] at whole
      simp only [List.flatten_cons, List.length_append] at short
      have rest := ih (read_keeps cuttable holds (by omega) first) (by omega)
      exact Agrees.trans transitive rest whole
    · rw [first] at whole
      exact whole

end

def Taken.map (forget : State → State) : Taken Symbol Error State → Taken Symbol Error State
  | .took state rest => .took (forget state) rest
  | .failed error state => .failed error (forget state)

theorem readFuel_forget {forget : State → State}
    (unread : ∀ state symbol segment,
      step (forget state) (symbol :: segment) = step state (symbol :: segment))
    (fuel : Nat) (state : State) (segment : List Symbol) :
    readFuel (fun state segment => (step state segment).map forget) fuel (forget state) segment =
      ((readFuel step fuel state segment).1, forget (readFuel step fuel state segment).2) := by
  induction fuel generalizing state segment with
  | zero => cases segment <;> rfl
  | succ fuel ih =>
    cases segment with
    | nil => rfl
    | cons symbol segment =>
      simp only [readFuel, unread]
      cases step state (symbol :: segment) with
      | took state' rest => exact ih state' rest
      | failed => rfl

theorem read_forget {forget : State → State}
    (unread : ∀ state symbol segment,
      step (forget state) (symbol :: segment) = step state (symbol :: segment))
    (state : State) (segment : List Symbol) :
    read (fun state segment => (step state segment).map forget) (forget state) segment =
      ((read step state segment).1, forget (read step state segment).2) :=
  readFuel_forget unread segment.length state segment

theorem readAll_forget {forget : State → State}
    (unread : ∀ state symbol segment,
      step (forget state) (symbol :: segment) = step state (symbol :: segment))
    (state : State) (segments : List (List Symbol)) :
    readAll (fun state segment => (step state segment).map forget) (forget state) segments =
      ((readAll step state segments).1, forget (readAll step state segments).2) := by
  induction segments generalizing state with
  | nil => rfl
  | cons segment segments ih =>
    simp only [readAll, read_forget unread]
    rcases read step state segment with ⟨_ | error, state'⟩
    · exact ih state'
    · rfl

end Segments
