import Mathlib

/-!
# Runs of a machine

Runs of a partial step function, with a condition that every step of the run
meets in the state it is taken from.
-/

namespace Machine

universe u v
variable {State : Type u} {Action : Type v}

inductive Run (step : State → Action → Option State) (meets : State → Action → Prop) :
    State → List Action → State → Prop where
  | nil (state : State) : Run step meets state [] state
  | cons {state state' state'' : State} {action : Action} {actions : List Action}
      (allowed : meets state action) (taken : step state action = some state')
      (rest : Run step meets state' actions state'') :
      Run step meets state (action :: actions) state''

variable {step : State → Action → Option State} {meets : State → Action → Prop}

theorem Run.invariant {Inv : State → Prop}
    (preserved : ∀ {state action state'}, Inv state → meets state action →
      step state action = some state' → Inv state')
    {state state' : State} {actions : List Action} (run : Run step meets state actions state')
    (initially : Inv state) : Inv state' := by
  induction run with
  | nil => exact initially
  | cons allowed taken rest ih => exact ih (preserved initially allowed taken)

/-- A run with no condition on its steps. -/
abbrev Reach (step : State → Action → Option State) : State → List Action → State → Prop :=
  Run step fun _ _ => True

theorem Run.reach {state state' : State} {actions : List Action}
    (run : Run step meets state actions state') : Reach step state actions state' := by
  induction run with
  | nil state => exact .nil state
  | cons _ taken _ ih => exact .cons trivial taken ih

theorem guarded_taken {guard : Prop} [Decidable guard] {next state' : State}
    (taken : (if guard then none else some next) = some state') : ¬ guard ∧ next = state' := by
  simpa using taken

/-- The run of a list of actions, if they can all be taken. -/
def exec (step : State → Action → Option State) : State → List Action → Option State
  | state, [] => some state
  | state, action :: actions => (step state action).bind fun state' => exec step state' actions

theorem reach_of_exec {state state' : State} {actions : List Action}
    (done : exec step state actions = some state') : Reach step state actions state' := by
  induction actions generalizing state with
  | nil =>
    obtain rfl := Option.some.inj done
    exact .nil state
  | cons action actions ih =>
    obtain ⟨next, taken, rest⟩ := Option.bind_eq_some_iff.mp done
    exact .cons trivial taken (ih rest)

theorem exec_forward {Abstract : Type*} {Related : State → Abstract → Prop}
    {specify : Abstract → Action → Option Abstract}
    (forward : ∀ {state abstract action abstract'}, Related state abstract →
      specify abstract action = some abstract' →
        ∃ state', step state action = some state' ∧ Related state' abstract')
    {state : State} {abstract abstract' : Abstract} {actions : List Action}
    (related : Related state abstract) (specified : exec specify abstract actions = some abstract') :
    ∃ state', exec step state actions = some state' ∧ Related state' abstract' := by
  induction actions generalizing state abstract with
  | nil =>
    obtain rfl := Option.some.inj specified
    exact ⟨state, rfl, related⟩
  | cons action actions ih =>
    obtain ⟨next, specifiedStep, rest⟩ := Option.bind_eq_some_iff.mp specified
    obtain ⟨state', taken, related'⟩ := forward related specifiedStep
    obtain ⟨final, done, finally_⟩ := ih related' rest
    exact ⟨final, by rw [exec, taken, Option.bind_some, done], finally_⟩

theorem run_of_exec {check : State → Action → Bool}
    (sound : ∀ state action, check state action = true → meets state action)
    {state state' : State} {actions : List Action}
    (done : exec (fun state action => if check state action then step state action else none)
      state actions = some state') : Run step meets state actions state' := by
  induction actions generalizing state with
  | nil =>
    obtain rfl := Option.some.inj done
    exact .nil state
  | cons action actions ih =>
    obtain ⟨next, taken, rest⟩ := Option.bind_eq_some_iff.mp done
    obtain ⟨checked, taken⟩ := Option.ite_none_right_eq_some.mp taken
    exact .cons (sound state action checked) taken (ih rest)

theorem Run.append {state state' state'' : State} {actions actions' : List Action}
    (run : Run step meets state actions state') (run' : Run step meets state' actions' state'') :
    Run step meets state (actions ++ actions') state'' := by
  induction run with
  | nil => exact run'
  | cons allowed taken _ ih => exact .cons allowed taken (ih run')

theorem exists_reach {View : Type*} (step : State → Action → Option State) (state : State)
    (actions : List Action) (view : State → View) (seen : View)
    (done : (exec step state actions).map view = some seen) :
    ∃ state', Reach step state actions state' ∧ view state' = seen := by
  obtain ⟨state', executed, viewed⟩ := Option.map_eq_some_iff.mp done
  exact ⟨state', reach_of_exec executed, viewed⟩

/-- If the condition on a step says exactly that it leads from a good state to a
good state, the runs whose steps all meet it are those that stay in good states. -/
theorem Run.iff_always {Inv Good : State → Prop}
    (preserved : ∀ {state action state'}, Inv state → step state action = some state' → Inv state')
    (exact_ : ∀ {state action state'}, Inv state → Good state →
      step state action = some state' → (Good state' ↔ meets state action))
    {state : State} (initially : Inv state) (good : Good state) (actions : List Action)
    (final : State) :
    Run step meets state actions final ↔
      Reach step state actions final ∧
        ∀ done later, actions = done ++ later → ∀ middle, Reach step state done middle →
          Good middle := by
  constructor
  · intro run
    refine ⟨run.reach, ?_⟩
    induction run with
    | nil =>
      intro done later split middle reach
      obtain ⟨rfl, rfl⟩ := List.append_eq_nil_iff.mp split.symm
      cases reach with
      | nil => exact good
    | cons allowed taken rest ih =>
      intro done later split middle reach
      cases reach with
      | nil => exact good
      | cons _ taken' reach =>
        rw [List.cons_append, List.cons.injEq] at split
        obtain ⟨rfl, split⟩ := split
        obtain rfl := Option.mem_unique taken taken'
        refine ih (preserved initially taken) ?_ _ later split middle reach
        exact (exact_ initially good taken).mpr allowed
  · rintro ⟨reach, always⟩
    induction reach with
    | nil state => exact .nil state
    | cons _ taken rest ih =>
      have next := always [_] _ rfl _ (.cons trivial taken (.nil _))
      refine .cons ((exact_ initially good taken).mp next) taken ?_
      refine ih (preserved initially taken) next ?_
      intro done later split middle middleReach
      refine always (_ :: done) later ?_ middle (.cons trivial taken middleReach)
      rw [split, List.cons_append]

theorem Run.congr {Inv : State → Prop} {meets' : State → Action → Prop}
    (preserved : ∀ {state action state'}, Inv state → step state action = some state' → Inv state')
    (agree : ∀ {state action state'}, Inv state → step state action = some state' →
      (meets state action ↔ meets' state action))
    {state : State} (initially : Inv state) (actions : List Action) (final : State) :
    Run step meets state actions final ↔ Run step meets' state actions final := by
  constructor
  · intro run
    induction run with
    | nil state => exact .nil state
    | cons allowed taken _ ih =>
      exact .cons ((agree initially taken).mp allowed) taken (ih (preserved initially taken))
  · intro run
    induction run with
    | nil state => exact .nil state
    | cons allowed taken _ ih =>
      exact .cons ((agree initially taken).mpr allowed) taken (ih (preserved initially taken))

end Machine
