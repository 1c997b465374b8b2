import GrpcCore.Lib.Ledger

/-!
# Mutual exclusion

A mutex records the index of the task that holds it. If a step of a task takes the
mutex only when it is free and gives it back only when the task has it, whoever is in
a critical section holds the mutex.
-/

namespace Mutex

variable {Task : Type*}

def Exclusive (inside : Task → Bool) (mu : Option Nat) (tasks : List Task) : Prop :=
  ∀ index task, tasks[index]? = some task → inside task = true → mu = some index

/-- What a step of a task may do with a mutex: nothing, enter when it is free, or leave. -/
inductive Passes (self : Nat) (inside : Bool) (mu : Option Nat) (inside' : Bool)
    (mu' : Option Nat) : Prop where
  | kept (same : mu' = mu) (stays : inside' = true → inside = true)
  | entered (free : mu = none) (taken : mu' = some self)
  | left (held : inside = true) (released : inside' = false)

variable {inside : Task → Bool} {mu mu' : Option Nat} {tasks : List Task}

theorem exclusive_nil : Exclusive inside mu [] := nofun

section

variable (exclusive : Exclusive inside mu tasks)
include exclusive

theorem Exclusive.unique {i j : Nat} {task task' : Task} (there : tasks[i]? = some task)
    (in_ : inside task = true) (there' : tasks[j]? = some task') (in_' : inside task' = true) :
    i = j :=
  Option.some.inj ((exclusive i task there in_).symm.trans (exclusive j task' there' in_'))

theorem Exclusive.spawn {task : Task} (outside : inside task = false) :
    Exclusive inside mu (tasks ++ [task]) := by
  intro index task' there in_
  rcases Ledger.append_cases there with before | ⟨-, rfl⟩
  · exact exclusive index task' before in_
  · rw [outside] at in_
    cases in_

theorem Exclusive.step {self : Nat} {task task' : Task} (there : tasks[self]? = some task)
    (passes : Passes self (inside task) mu (inside task') mu') :
    Exclusive inside mu' (tasks.set self task') := by
  intro index other at_ in_
  rcases Ledger.set_cases at_ with ⟨rfl, rfl⟩ | ⟨ne, before⟩
  · cases passes with
    | kept same stays => exact same ▸ exclusive self task there (stays in_)
    | entered _ taken => exact taken
    | left _ released =>
      rw [released] at in_
      cases in_
  · have held := exclusive index other before in_
    cases passes with
    | kept same => exact same ▸ held
    | entered free => cases free.symm.trans held
    | left in_self => exact absurd (exclusive.unique there in_self before in_) ne

end

end Mutex
