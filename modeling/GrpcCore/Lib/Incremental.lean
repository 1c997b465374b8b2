import Mathlib

/-!
# Incremental parsing

Readers that either finish, fail, or find that the input ends too early, and
machines that apply one such reader after another to input arriving in pieces.
A stable reader decides the same way when more input follows, and a resumable
machine that stops at the end of a piece can start its element again.
-/

namespace Incremental

universe u v w x
variable {Symbol : Type u} {Error : Type v} {Value : Type w} {Next : Type x} {State : Type w}

inductive Outcome (Symbol : Type u) (Error : Type v) (Value : Type w) where
  | done (value : Value) (rest : List Symbol)
  | eof
  | failed (error : Error)
deriving DecidableEq

def Outcome.extend (more : List Symbol) :
    Outcome Symbol Error Value → Outcome Symbol Error Value
  | .done value rest => .done value (rest ++ more)
  | .eof => .eof
  | .failed error => .failed error

@[simp] theorem Outcome.extend_done (more rest : List Symbol) (value : Value) :
    (.done value rest : Outcome Symbol Error Value).extend more =
      .done value (rest ++ more) := rfl

@[simp] theorem Outcome.extend_failed (more : List Symbol) (error : Error) :
    (.failed error : Outcome Symbol Error Value).extend more = .failed error := rfl

def Reader (Symbol : Type u) (Error : Type v) (Value : Type w) :=
  List Symbol → Outcome Symbol Error Value

namespace Reader

def pure (value : Value) : Reader Symbol Error Value := fun input => .done value input

def fail (error : Error) : Reader Symbol Error Value := fun _ => .failed error

def bind (reader : Reader Symbol Error Value) (next : Value → Reader Symbol Error Next) :
    Reader Symbol Error Next := fun input =>
  match reader input with
  | .done value rest => next value rest
  | .eof => .eof
  | .failed error => .failed error

def next : Reader Symbol Error Symbol
  | [] => .eof
  | symbol :: rest => .done symbol rest

/-- Exactly `count` symbols. -/
def take (count : Nat) : Reader Symbol Error (List Symbol) := fun input =>
  if input.length < count then .eof else .done (input.take count) (input.drop count)

/-- A decision taken on some input stands when more input follows, and what is
left over is no longer than the input. -/
structure Stable (reader : Reader Symbol Error Value) : Prop where
  extend : ∀ {input} more, reader input ≠ .eof →
    reader (input ++ more) = (reader input).extend more
  shrinks : ∀ {input value rest}, reader input = .done value rest →
    rest.length ≤ input.length

theorem stable_pure (value : Value) : Stable (pure value : Reader Symbol Error Value) := by
  refine ⟨fun more _ => rfl, ?_⟩
  intro input found rest read
  cases read
  exact Nat.le_refl _

theorem stable_fail (error : Error) : Stable (fail error : Reader Symbol Error Value) := by
  refine ⟨fun more _ => rfl, ?_⟩
  intro input found rest read
  cases read

theorem stable_next : Stable (next : Reader Symbol Error Symbol) := by
  constructor
  · intro input more finished
    cases input with
    | nil => exact absurd rfl finished
    | cons => rfl
  · intro input found rest read
    cases input with
    | nil => cases read
    | cons =>
      cases read
      exact Nat.le_succ _

theorem stable_take (count : Nat) :
    Stable (take count : Reader Symbol Error (List Symbol)) := by
  constructor
  · intro input more finished
    by_cases short : input.length < count
    · exact absurd (if_pos short) finished
    · have enough : ¬ (input ++ more).length < count := by simp; omega
      have bound : count ≤ input.length := by omega
      simp only [take, if_neg short, if_neg enough, Outcome.extend,
        List.take_append_of_le_length bound, List.drop_append_of_le_length bound]
  · intro input found rest read
    simp only [take] at read
    split at read
    · cases read
    · cases read
      simp

theorem stable_bind {reader : Reader Symbol Error Value}
    {next : Value → Reader Symbol Error Next} (first : Stable reader)
    (second : ∀ value, Stable (next value)) : Stable (bind reader next) := by
  constructor
  · intro input more finished
    cases outcome : reader input with
    | eof => exact absurd (by simp only [bind, outcome]) finished
    | failed =>
      have extended := first.extend more (show reader input ≠ .eof by simp [outcome])
      simp only [bind, outcome, extended, Outcome.extend_failed]
    | done value =>
      have extended := first.extend more (show reader input ≠ .eof by simp [outcome])
      simp only [bind, outcome] at finished
      simp only [bind, outcome, extended, Outcome.extend_done]
      exact (second value).extend more finished
  · intro input found rest read
    cases outcome : reader input with
    | eof => simp [bind, outcome] at read
    | failed => simp [bind, outcome] at read
    | done value =>
      simp only [bind, outcome] at read
      exact Nat.le_trans ((second value).shrinks read) (first.shrinks outcome)

end Reader

/-- One element parsed by a machine with state: what it reads and what it changes. -/
inductive Progress (Symbol : Type u) (Error : Type v) (State : Type w) where
  | done (state : State) (rest : List Symbol)
  | eof (state : State)
  | failed (error : Error) (state : State)
deriving DecidableEq

def Progress.extend (more : List Symbol) :
    Progress Symbol Error State → Progress Symbol Error State
  | .done state rest => .done state (rest ++ more)
  | .eof state => .eof state
  | .failed error state => .failed error state

/-- All elements of one piece: the piece is used up, an element is cut at its
end, or one fails. -/
inductive Drained (Symbol : Type u) (Error : Type v) (State : Type w) where
  | complete (state : State)
  | pending (state : State) (rest : List Symbol)
  | failed (error : Error) (state : State)
deriving DecidableEq

def Progress.state : Progress Symbol Error State → State
  | .done state _ => state
  | .eof state => state
  | .failed _ state => state

def Drained.state : Drained Symbol Error State → State
  | .complete state => state
  | .pending state _ => state
  | .failed _ state => state

section Machine

variable (element : State → List Symbol → Progress Symbol Error State)

def drainFuel : Nat → State → List Symbol → Drained Symbol Error State
  | _, state, [] => .complete state
  | 0, state, rest => .pending state rest
  | fuel + 1, state, rest =>
    match element state rest with
    | .done state' rest' => drainFuel fuel state' rest'
    | .eof state' => .pending state' rest
    | .failed error state' => .failed error state'

/-- Parse elements until the input is used up. Every element takes at least one
symbol, so the length of the input bounds their number. -/
def drain (state : State) (input : List Symbol) : Drained Symbol Error State :=
  drainFuel element input.length state input

/-- What a machine needs so that input may be cut anywhere. -/
structure Resumable : Prop where
  progress : ∀ {state state' input rest},
    element state input = .done state' rest → rest.length < input.length
  extend : ∀ {state input} more, (∀ state', element state input ≠ .eof state') →
    element state (input ++ more) = (element state input).extend more
  resume : ∀ {state state' input} more,
    element state input = .eof state' →
    element state' (input ++ more) = element state (input ++ more)

variable {element}

@[simp] theorem drain_nil (state : State) : drain element state [] = .complete state := rfl

theorem drainFuel_enough (resumable : Resumable element) {fuel fuel' : Nat} {state : State}
    {input : List Symbol} (enough : input.length ≤ fuel) (enough' : input.length ≤ fuel') :
    drainFuel element fuel state input = drainFuel element fuel' state input := by
  induction fuel generalizing fuel' state input with
  | zero =>
    have empty := List.length_eq_zero_iff.mp (Nat.le_zero.mp enough)
    subst empty
    simp [drainFuel]
  | succ fuel ih =>
    cases input with
    | nil => simp [drainFuel]
    | cons symbol rest =>
      obtain _ | fuel' := fuel'
      · simp at enough'
      · simp only [drainFuel]
        cases parsed : element state (symbol :: rest) with
        | eof => rfl
        | failed => rfl
        | done =>
          have shorter := resumable.progress parsed
          exact ih (by omega) (by omega)

theorem drain_cons (resumable : Resumable element) (state : State) (symbol : Symbol)
    (rest : List Symbol) :
    drain element state (symbol :: rest) =
      match element state (symbol :: rest) with
      | .done state' rest' => drain element state' rest'
      | .eof state' => .pending state' (symbol :: rest)
      | .failed error state' => .failed error state' := by
  simp only [drain, List.length_cons, drainFuel]
  cases parsed : element state (symbol :: rest) with
  | eof => rfl
  | failed => rfl
  | done =>
    have shorter := resumable.progress parsed
    simp only [List.length_cons] at shorter
    exact drainFuel_enough resumable (by omega) (Nat.le_refl _)

def Drained.continue (element : State → List Symbol → Progress Symbol Error State)
    (more : List Symbol) : Drained Symbol Error State → Drained Symbol Error State
  | .complete state => drain element state more
  | .pending state rest => drain element state (rest ++ more)
  | .failed error state => .failed error state

theorem drain_append (resumable : Resumable element) (state : State)
    (input more : List Symbol) :
    drain element state (input ++ more) = (drain element state input).continue element more := by
  generalize size : input.length = bound
  induction bound using Nat.strongRecOn generalizing state input with
  | _ bound ih =>
    cases input with
    | nil => rfl
    | cons symbol rest =>
      rw [drain_cons resumable]
      cases parsed : element state (symbol :: rest) with
      | eof state' =>
        have resumed := resumable.resume more parsed
        simp only [Drained.continue, List.cons_append] at resumed ⊢
        -- started again from `state'`, the element does what it would have
        -- done from `state` with the whole input
        rw [drain_cons resumable, drain_cons resumable, resumed]
      | failed error state' =>
        have extended := resumable.extend more
          (show ∀ state', element state (symbol :: rest) ≠ .eof state' by simp [parsed])
        rw [parsed, List.cons_append] at extended
        rw [List.cons_append, drain_cons resumable, extended]
        rfl
      | done state' rest' =>
        have extended := resumable.extend more
          (show ∀ state', element state (symbol :: rest) ≠ .eof state' by simp [parsed])
        have shorter := resumable.progress parsed
        rw [parsed, List.cons_append] at extended
        rw [List.cons_append, drain_cons resumable, extended]
        exact ih rest'.length (size ▸ shorter) state' rest' rfl

theorem drain_preserves (resumable : Resumable element) (Inv : State → Prop)
    (preserves : ∀ state input, Inv state → Inv (element state input).state)
    {state : State} (holds : Inv state) (input : List Symbol) :
    Inv (drain element state input).state := by
  generalize size : input.length = bound
  induction bound using Nat.strongRecOn generalizing state input with
  | _ bound ih =>
    cases input with
    | nil => exact holds
    | cons symbol rest =>
      have kept := preserves state (symbol :: rest) holds
      rw [drain_cons resumable]
      cases parsed : element state (symbol :: rest) with
      | eof state' => exact (parsed ▸ kept : Inv (Progress.eof state').state)
      | failed error state' =>
        exact (parsed ▸ kept : Inv (Progress.failed error state').state)
      | done state' rest' =>
        rw [parsed] at kept
        exact ih rest'.length (size ▸ resumable.progress parsed) kept rest' rfl

end Machine

end Incremental
