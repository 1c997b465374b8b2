import GrpcCore.Lib.Ledger

/-!
# Pools of counting objects

Reference-counted objects that count for an owner. The slot of an owner names the
object that counts for it now and keeps what its former objects counted. A slot is
read out by moving the retired counters and resetting those of its object.
-/

namespace SlotPool

universe u v w
variable {Owner : Type u} {Counters : Type v} {Amount : Type w}

/-- Counters that add up, with what is left of them where they were reset or moved. -/
class Counting (Counters : Type v) where
  zero : Counters
  add : Counters → Counters → Counters
  reset : Counters → Counters
  moved : Counters → Counters

structure Object (Owner : Type u) (Counters : Type v) where
  owner : Owner
  refs : Nat
  destroyed : Bool
  counters : Counters

structure Slot (Counters : Type v) where
  registered : Option Nat
  retired : Counters

variable [Counting Counters]

open Counting

def Slot.empty : Slot Counters := ⟨none, zero⟩

def Object.fresh (owner : Owner) : Object Owner Counters := ⟨owner, 1, false, zero⟩

def Object.reset (object : Object Owner Counters) : Object Owner Counters :=
  { object with counters := Counting.reset object.counters }

/-- Another reference to the registered object if it still has one, else a new
object that takes its place. -/
def acquire (owner : Owner) (slot : Slot Counters) (objects : List (Object Owner Counters)) :
    Slot Counters × List (Object Owner Counters) :=
  match slot.registered with
  | none => (⟨some objects.length, slot.retired⟩, objects ++ [.fresh owner])
  | some id =>
    match objects[id]? with
    | none => (slot, objects)
    | some object =>
      if 0 < object.refs then
        (slot, objects.set id { object with refs := object.refs + 1 })
      else
        (⟨some objects.length, add slot.retired object.counters⟩,
          objects.set id object.reset ++ [.fresh owner])

/-- An object that is destroyed leaves its counters in the slot if it is registered there. -/
def retire (id : Nat) (slot : Slot Counters) (objects : List (Object Owner Counters)) :
    Slot Counters × List (Object Owner Counters) :=
  if slot.registered = some id then
    match objects[id]? with
    | none => (slot, objects)
    | some object => (⟨none, add slot.retired object.counters⟩, objects.set id object.reset)
  else (slot, objects)

/-- The counters of a slot, which are moved and reset. -/
def take (slot : Slot Counters) (objects : List (Object Owner Counters)) :
    Counters × Slot Counters × List (Object Owner Counters) :=
  match slot.registered with
  | none => (slot.retired, ⟨none, moved slot.retired⟩, objects)
  | some id =>
    match objects[id]? with
    | none => (slot.retired, ⟨some id, moved slot.retired⟩, objects)
    | some object =>
      (add slot.retired object.counters, ⟨some id, moved slot.retired⟩,
        objects.set id object.reset)

def Slot.object (slot : Slot Counters) (objects : List (Object Owner Counters)) :
    Option (Object Owner Counters) :=
  slot.registered.bind (objects[·]?)

def Slot.counters (slot : Slot Counters) (objects : List (Object Owner Counters)) : Counters :=
  match slot.object objects with
  | none => slot.retired
  | some object => add slot.retired object.counters

def resetWhere (chosen : Nat → Bool) (objects : List (Object Owner Counters)) :
    List (Object Owner Counters) :=
  objects.mapIdx fun id object => if chosen id then object.reset else object

theorem getElem?_resetWhere (chosen : Nat → Bool) (objects : List (Object Owner Counters))
    (id : Nat) :
    (resetWhere chosen objects)[id]? =
      objects[id]?.map fun object => if chosen id then object.reset else object := by
  simp [resetWhere]

def Slot.registers (slot : Slot Counters) (id : Nat) : Bool := slot.registered == some id

variable {slot : Slot Counters} {id : Nat}

omit [Counting Counters] in
@[simp]
theorem Slot.registers_iff : slot.registers id = true ↔ slot.registered = some id := by
  simp [Slot.registers]

variable {objects : List (Object Owner Counters)}

theorem resetWhere_eq_self {chosen : Nat → Bool}
    (absent : ∀ id, chosen id = true → objects[id]? = none) :
    resetWhere chosen objects = objects := by
  apply List.ext_getElem?
  intro id
  rw [getElem?_resetWhere]
  by_cases here : chosen id = true
  · rw [absent id here, Option.map_none]
  · simp [here]

variable {object : Object Owner Counters}

theorem resetWhere_eq_set {chosen : Nat → Bool} (found : objects[id]? = some object)
    (only : ∀ other, chosen other = true ↔ other = id) :
    resetWhere chosen objects = objects.set id object.reset := by
  apply List.ext_getElem?
  intro other
  rw [getElem?_resetWhere]
  by_cases here : other = id
  · subst here
    rw [found, List.getElem?_set_self (List.getElem?_eq_some_iff.mp found).1]
    simp [(only other).mpr rfl]
  · have spared : chosen other = false := by simpa [here] using only other
    rw [List.getElem?_set_ne (Ne.symm here)]
    simp [spared]

def Slot.readOut (slot : Slot Counters) : Slot Counters := ⟨slot.registered, moved slot.retired⟩

theorem take_eq (slot : Slot Counters) (objects : List (Object Owner Counters)) :
    take slot objects =
      (slot.counters objects, slot.readOut, resetWhere slot.registers objects) := by
  unfold take Slot.counters Slot.object Slot.readOut
  cases registered : slot.registered with
  | none =>
    rw [resetWhere_eq_self (by simp [registered])]
    rfl
  | some id =>
    cases found : objects[id]? with
    | none =>
      have absent : ∀ other, slot.registers other = true → objects[other]? = none := by
        intro other registers
        obtain rfl := Option.some.inj (registered.symm.trans (Slot.registers_iff.mp registers))
        exact found
      rw [resetWhere_eq_self absent]
      simp [found]
    | some =>
      have only : ∀ other, slot.registers other = true ↔ other = id := by
        intro other
        rw [Slot.registers_iff, registered, Option.some.injEq]
        exact eq_comm
      rw [resetWhere_eq_set found only]
      simp [found]

theorem resetWhere_resetWhere {first second : Nat → Bool}
    (disjoint : ∀ id, first id = true → second id = false)
    (objects : List (Object Owner Counters)) :
    resetWhere second (resetWhere first objects) =
      resetWhere (fun id => first id || second id) objects := by
  apply List.ext_getElem?
  intro id
  simp only [getElem?_resetWhere, Option.map_map]
  congr 1
  funext object
  cases chosen : first id with
  | false => simp
  | true => simp [disjoint id chosen]

theorem counters_resetWhere {chosen : Nat → Bool}
    (spared : ∀ id, slot.registered = some id → chosen id = false)
    (objects : List (Object Owner Counters)) :
    slot.counters (resetWhere chosen objects) = slot.counters objects := by
  unfold Slot.counters Slot.object
  cases registered : slot.registered with
  | none => rfl
  | some id => simp [getElem?_resetWhere, spared id registered]

structure IsCounter [AddCommMonoid Amount] (count : Counters → Amount) : Prop where
  zero : count Counting.zero = 0
  add : ∀ a b, count (Counting.add a b) = count a + count b
  reset : ∀ a, count (Counting.reset a) = 0

/-- Registered objects count for the owner of the slot, and an object that is still
referenced is registered. -/
structure Sound (slotOf : Owner → Option (Slot Counters)) (objects : List (Object Owner Counters)) :
    Prop where
  registered : ∀ (owner : Owner) (slot : Slot Counters) (id : Nat), slotOf owner = some slot →
    slot.registered = some id →
      ∃ object : Object Owner Counters, objects[id]? = some object ∧ object.owner = owner
  live : ∀ (id : Nat) (object : Object Owner Counters), objects[id]? = some object →
    0 < object.refs →
      ∃ slot : Slot Counters, slotOf object.owner = some slot ∧ slot.registered = some id

section Soundness

variable {slotOf : Owner → Option (Slot Counters)} {objects : List (Object Owner Counters)}
  {owner : Owner}

theorem Sound.emplace [DecidableEq Owner] (sound : Sound slotOf objects)
    (absent : slotOf owner = none) :
    Sound (Function.update slotOf owner (some .empty)) objects where
  registered other slot id there registered := by
    by_cases same : other = owner
    · subst same
      rw [Function.update_self, Option.some.injEq] at there
      subst there
      cases registered
    · rw [Function.update_of_ne same] at there
      exact sound.registered other slot id there registered
  live id object found referenced := by
    obtain ⟨slot, there, registered⟩ := sound.live id object found referenced
    have different : object.owner ≠ owner := by
      intro same
      rw [same, absent] at there
      cases there
    exact ⟨slot, by rwa [Function.update_of_ne different], registered⟩

omit [Counting Counters] in
theorem Sound.set (sound : Sound slotOf objects) {object object' : Object Owner Counters}
    (found : objects[id]? = some object) (owner : object'.owner = object.owner)
    (referenced : 0 < object'.refs → 0 < object.refs) : Sound slotOf (objects.set id object') where
  registered other slot index there registered := by
    obtain ⟨old, oldFound, owned⟩ := sound.registered other slot index there registered
    by_cases same : id = index
    · subst same
      obtain rfl := Option.mem_unique found oldFound
      exact ⟨object', List.getElem?_set_self (List.getElem?_eq_some_iff.mp found).1,
        owner.trans owned⟩
    · exact ⟨old, by rwa [List.getElem?_set_ne same], owned⟩
  live index current there live := by
    rcases Ledger.set_cases there with ⟨rfl, rfl⟩ | ⟨_, there⟩
    · rw [owner]
      exact sound.live _ object found (referenced live)
    · exact sound.live index current there live

def Unreferenced (slotOf : Owner → Option (Slot Counters)) (objects : List (Object Owner Counters))
    (owner : Owner) : Prop :=
  ∀ (slot : Slot Counters) (id : Nat) (object : Object Owner Counters), slotOf owner = some slot →
    slot.registered = some id → objects[id]? = some object → object.refs = 0

omit [Counting Counters] in
theorem Sound.not_live (sound : Sound slotOf objects)
    (unreferenced : Unreferenced slotOf objects owner) (found : objects[id]? = some object)
    (live : 0 < object.refs) : object.owner ≠ owner := by
  rintro rfl
  obtain ⟨slot, there, registered⟩ := sound.live id object found live
  exact absurd (unreferenced slot id object there registered found) (by omega)

omit [Counting Counters] in
theorem Sound.unregister [DecidableEq Owner] (sound : Sound slotOf objects)
    (unreferenced : Unreferenced slotOf objects owner) (retired : Counters) :
    Sound (Function.update slotOf owner (some ⟨none, retired⟩)) objects where
  registered other slot id there registered := by
    by_cases same : other = owner
    · subst same
      rw [Function.update_self, Option.some.injEq] at there
      subst there
      cases registered
    · rw [Function.update_of_ne same] at there
      exact sound.registered other slot id there registered
  live id object found live := by
    rw [Function.update_of_ne (sound.not_live unreferenced found live)]
    exact sound.live id object found live

section

variable (sound : Sound slotOf objects)
include sound

theorem Sound.register [DecidableEq Owner] (unreferenced : Unreferenced slotOf objects owner)
    (retired : Counters) :
    Sound (Function.update slotOf owner (some ⟨some objects.length, retired⟩))
      (objects ++ [.fresh owner]) where
  registered other slot id there registered := by
    by_cases same : other = owner
    · subst same
      rw [Function.update_self, Option.some.injEq] at there
      subst there
      obtain rfl := Option.some.inj registered
      exact ⟨.fresh other, List.getElem?_concat_length, rfl⟩
    · rw [Function.update_of_ne same] at there
      obtain ⟨object, found, owned⟩ := sound.registered other slot id there registered
      exact ⟨object, by rw [List.getElem?_append_left (List.getElem?_eq_some_iff.mp found).1, found],
        owned⟩
  live id object found live := by
    rcases Ledger.append_cases found with old | ⟨rfl, rfl⟩
    · rw [Function.update_of_ne (sound.not_live unreferenced old live)]
      exact sound.live id object old live
    · exact ⟨_, Function.update_self .., rfl⟩

theorem Sound.acquire_cases (own : slotOf owner = some slot) :
    (slot.registered = none ∧ acquire owner slot objects =
      (⟨some objects.length, slot.retired⟩, objects ++ [.fresh owner])) ∨
    ∃ (id : Nat) (object : Object Owner Counters), slot.registered = some id ∧
      objects[id]? = some object ∧ object.owner = owner ∧
      ((0 < object.refs ∧ acquire owner slot objects =
          (slot, objects.set id { object with refs := object.refs + 1 })) ∨
        (object.refs = 0 ∧ acquire owner slot objects =
          (⟨some objects.length, add slot.retired object.counters⟩,
            objects.set id object.reset ++ [.fresh owner]))) := by
  cases registered : slot.registered with
  | none => exact .inl ⟨rfl, by simp [acquire, registered]⟩
  | some id =>
    obtain ⟨object, found, owned⟩ := sound.registered owner slot id own registered
    refine .inr ⟨id, object, rfl, found, owned, ?_⟩
    by_cases live : 0 < object.refs
    · exact .inl ⟨live, by simp [acquire, registered, found, live]⟩
    · exact .inr ⟨by omega, by simp [acquire, registered, found, live]⟩

theorem Sound.after_acquire [DecidableEq Owner] (own : slotOf owner = some slot) :
    Sound (Function.update slotOf owner (some (acquire owner slot objects).1))
      (acquire owner slot objects).2 := by
  rcases sound.acquire_cases own with
    ⟨unregistered, acquired⟩ | ⟨id, object, registered, found, owned, ⟨live, acquired⟩ | ⟨dead, acquired⟩⟩
  · rw [acquired]
    refine sound.register ?_ slot.retired
    intro slot' id' object' there registered'
    rw [own, Option.some.injEq] at there
    rw [← there, unregistered] at registered'
    cases registered'
  · rw [acquired]
    rw [← own, Function.update_eq_self]
    exact sound.set found rfl fun _ => live
  · rw [acquired]
    have reset : Sound slotOf (objects.set id object.reset) := sound.set found rfl fun live => live
    have unreferenced : Unreferenced slotOf (objects.set id object.reset) owner := by
      intro slot' id' object' there registered' found'
      rw [own, Option.some.injEq] at there
      rw [← there, registered, Option.some.injEq] at registered'
      subst registered'
      rw [List.getElem?_set_self (List.getElem?_eq_some_iff.mp found).1, Option.some.injEq] at found'
      rw [← found']
      exact dead
    have registered' := reset.register unreferenced (add slot.retired object.counters)
    rwa [List.length_set] at registered'

theorem Sound.after_default [DecidableEq Owner] (owner : Owner) :
    Sound (Function.update slotOf owner (some ((slotOf owner).getD .empty))) objects := by
  cases own : slotOf owner with
  | some =>
    rw [Option.getD_some, ← own, Function.update_eq_self]
    exact sound
  | none => exact sound.emplace own

theorem Sound.after_add [DecidableEq Owner] (owner : Owner) : Sound (Function.update slotOf owner
        (some (acquire owner ((slotOf owner).getD .empty) objects).1))
      (acquire owner ((slotOf owner).getD .empty) objects).2 := by
  cases own : slotOf owner with
  | some => exact sound.after_acquire own
  | none =>
    have acquired := (sound.emplace own).after_acquire (Function.update_self owner _ slotOf)
    rwa [Function.update_idem] at acquired

end

theorem retire_cases (found : objects[id]? = some object) (slot : Slot Counters) :
    (slot.registered = some id ∧ retire id slot objects =
      (⟨none, add slot.retired object.counters⟩, objects.set id object.reset)) ∨
    (slot.registered ≠ some id ∧ retire id slot objects = (slot, objects)) := by
  unfold retire
  by_cases here : slot.registered = some id
  · exact .inl ⟨here, by simp [here, found]⟩
  · exact .inr ⟨here, by simp [here]⟩

theorem Sound.after_retire [DecidableEq Owner] (sound : Sound slotOf objects)
    (found : objects[id]? = some object) (unreferenced : object.refs = 0)
    (own : slotOf object.owner = some slot) :
    Sound (Function.update slotOf object.owner (some (retire id slot objects).1))
      (retire id slot objects).2 := by
  rcases retire_cases found slot with ⟨registered, retired⟩ | ⟨_, retired⟩
  · rw [retired]
    have reset : Sound slotOf (objects.set id object.reset) := sound.set found rfl fun live => live
    refine reset.unregister ?_ (add slot.retired object.counters)
    intro slot' id' object' there registered' found'
    rw [own, Option.some.injEq] at there
    rw [← there, registered, Option.some.injEq] at registered'
    subst registered'
    rw [List.getElem?_set_self (List.getElem?_eq_some_iff.mp found).1, Option.some.injEq] at found'
    rw [← found']
    exact unreferenced
  · rw [retired, ← own, Function.update_eq_self]
    exact sound

structure Swept (slotOf slotOf' : Owner → Option (Slot Counters)) : Prop where
  kept : ∀ (owner : Owner) (slot : Slot Counters), slotOf owner = some slot →
    slot.registered ≠ none → slotOf' owner = some slot.readOut
  origin : ∀ (owner : Owner) (slot' : Slot Counters), slotOf' owner = some slot' →
    ∃ slot : Slot Counters, slotOf owner = some slot ∧ slot' = slot.readOut

theorem Sound.after_sweep {slotOf' : Owner → Option (Slot Counters)} (sound : Sound slotOf objects)
    (swept : Swept slotOf slotOf') (chosen : Nat → Bool) :
    Sound slotOf' (resetWhere chosen objects) where
  registered owner slot' id there registered := by
    obtain ⟨slot, before, rfl⟩ := swept.origin owner slot' there
    obtain ⟨object, found, owned⟩ := sound.registered owner slot id before registered
    refine ⟨if chosen id then object.reset else object, by rw [getElem?_resetWhere, found]; rfl, ?_⟩
    split
    · exact owned
    · exact owned
  live id object' found live := by
    rw [getElem?_resetWhere] at found
    obtain ⟨object, before, rfl⟩ := Option.map_eq_some_iff.mp found
    have same : (if chosen id then object.reset else object).owner = object.owner := by
      split <;> rfl
    have refs : (if chosen id then object.reset else object).refs = object.refs := by
      split <;> rfl
    rw [refs] at live
    obtain ⟨slot, there, registered⟩ := sound.live id object before live
    rw [same]
    exact ⟨_, swept.kept object.owner slot there (by simp [registered]), registered⟩

end Soundness

section Accounts

variable [AddCommMonoid Amount] (count : Counters → Amount)

/-- What has been counted for an owner and not been read out. -/
def pending (slotOf : Owner → Option (Slot Counters)) (objects : List (Object Owner Counters))
    (owner : Owner) : Amount :=
  (slotOf owner).elim 0 fun slot => count (slot.counters objects)

variable {count} {slotOf : Owner → Option (Slot Counters)} {objects : List (Object Owner Counters)}

theorem counters_of_object (registered : slot.registered = some id)
    (found : objects[id]? = some object) :
    slot.counters objects = add slot.retired object.counters := by
  simp [Slot.counters, Slot.object, registered, found]

theorem counters_of_unregistered (unregistered : slot.registered = none) :
    slot.counters objects = slot.retired := by
  simp [Slot.counters, Slot.object, unregistered]

theorem counters_set (elsewhere : slot.registered ≠ some id) (object : Object Owner Counters) :
    slot.counters (objects.set id object) = slot.counters objects := by
  unfold Slot.counters Slot.object
  cases registered : slot.registered with
  | none => rfl
  | some other =>
    have different : id ≠ other := fun same => elsewhere (registered.trans (same ▸ rfl))
    simp only [Option.bind_some, List.getElem?_set_ne different]

theorem Sound.counters_append {owner : Owner} (sound : Sound slotOf objects)
    (there : slotOf owner = some slot) (object : Object Owner Counters) :
    slot.counters (objects ++ [object]) = slot.counters objects := by
  unfold Slot.counters Slot.object
  cases registered : slot.registered with
  | none => rfl
  | some id =>
    obtain ⟨old, found, _⟩ := sound.registered owner slot id there registered
    simp only [Option.bind_some,
      List.getElem?_append_left (List.getElem?_eq_some_iff.mp found).1]

omit [Counting Counters] in
theorem Sound.owner_unique {owner : Owner} (sound : Sound slotOf objects)
    (there : slotOf owner = some slot) (found : objects[id]? = some object)
    (foreign : owner ≠ object.owner) : slot.registered ≠ some id := by
  intro registered
  obtain ⟨same, sameFound, owned⟩ := sound.registered owner slot id there registered
  obtain rfl := Option.mem_unique found sameFound
  exact foreign owned.symm

theorem pending_emplace [DecidableEq Owner] (counter : IsCounter count) {owner : Owner}
    (absent : slotOf owner = none) (other : Owner) :
    pending count (Function.update slotOf owner (some .empty)) objects other =
      pending count slotOf objects other := by
  by_cases same : other = owner
  · subst same
    simp [pending, absent, Slot.empty, counters_of_unregistered, counter.zero]
  · simp [pending, Function.update_of_ne same]

theorem pending_default [DecidableEq Owner] (counter : IsCounter count) (owner other : Owner) :
    pending count (Function.update slotOf owner (some ((slotOf owner).getD .empty))) objects other =
      pending count slotOf objects other := by
  cases own : slotOf owner with
  | some => rw [Option.getD_some, ← own, Function.update_eq_self]
  | none => exact pending_emplace counter own other

variable {object object' : Object Owner Counters}

theorem pending_set (found : objects[id]? = some object) (same : object'.counters = object.counters)
    (owner : Owner) :
    pending count slotOf (objects.set id object') owner = pending count slotOf objects owner := by
  unfold pending
  cases there : slotOf owner with
  | none => rfl
  | some slot =>
    change count _ = count _
    by_cases registered : slot.registered = some id
    · have found' : (objects.set id object')[id]? = some object' :=
        List.getElem?_set_self (List.getElem?_eq_some_iff.mp found).1
      rw [counters_of_object registered found', counters_of_object registered found, same]
    · rw [counters_set registered]

section

variable (counter : IsCounter count) (sound : Sound slotOf objects)
include counter sound

theorem Sound.pending_record [DecidableEq Owner] {gain : Amount}
    (found : objects[id]? = some object) (live : 0 < object.refs)
    (gained : count object'.counters = count object.counters + gain) (owner : Owner) :
    pending count slotOf (objects.set id object') owner =
      pending count slotOf objects owner + if owner = object.owner then gain else 0 := by
  by_cases own : owner = object.owner
  · obtain ⟨slot, there, registered⟩ := sound.live id object found live
    have found' : (objects.set id object')[id]? = some object' :=
      List.getElem?_set_self (List.getElem?_eq_some_iff.mp found).1
    simp only [pending, own, there, Option.elim_some, if_true]
    rw [counters_of_object registered found', counters_of_object registered found, counter.add,
      counter.add, gained, add_assoc]
  · unfold pending
    rw [if_neg own, add_zero]
    cases there : slotOf owner with
    | none => rfl
    | some =>
      change count _ = count _
      rw [counters_set (sound.owner_unique there found own)]

theorem Sound.pending_acquire [DecidableEq Owner] {owner : Owner} (own : slotOf owner = some slot)
    (other : Owner) :
    pending count (Function.update slotOf owner (some (acquire owner slot objects).1))
        (acquire owner slot objects).2 other =
      pending count slotOf objects other := by
  rcases sound.acquire_cases own with
    ⟨unregistered, acquired⟩ | ⟨id, object, registered, found, owned, ⟨live, acquired⟩ | ⟨dead, acquired⟩⟩
  · rw [acquired]
    unfold pending
    by_cases same : other = owner
    · subst same
      rw [Function.update_self, own]
      change count _ = count _
      rw [counters_of_object rfl List.getElem?_concat_length, counters_of_unregistered unregistered,
        counter.add, Object.fresh, counter.zero, add_zero]
    · rw [Function.update_of_ne same]
      cases there : slotOf other with
      | none => rfl
      | some => exact congrArg count (sound.counters_append there _)
  · rw [acquired, ← own, Function.update_eq_self]
    exact pending_set found (by rfl) other
  · rw [acquired]
    have reset : Sound slotOf (objects.set id object.reset) := sound.set found rfl fun live => live
    unfold pending
    by_cases same : other = owner
    · subst same
      rw [Function.update_self, own]
      change count _ = count _
      have fresh : (objects.set id object.reset ++ [.fresh other])[objects.length]? =
          some (.fresh other) := by
        have last := List.getElem?_concat_length (l := objects.set id object.reset)
          (a := .fresh other)
        rwa [List.length_set] at last
      rw [counters_of_object rfl fresh, counters_of_object registered found, counter.add,
        Object.fresh, counter.zero, add_zero]
    · rw [Function.update_of_ne same]
      cases there : slotOf other with
      | none => rfl
      | some foreign =>
        have elsewhere : foreign.registered ≠ some id :=
          sound.owner_unique there found (owned ▸ same)
        change count _ = count _
        rw [reset.counters_append there, counters_set elsewhere]

theorem Sound.pending_add [DecidableEq Owner] (owner other : Owner) :
    pending count (Function.update slotOf owner
        (some (acquire owner ((slotOf owner).getD .empty) objects).1))
        (acquire owner ((slotOf owner).getD .empty) objects).2 other =
      pending count slotOf objects other := by
  cases own : slotOf owner with
  | some => exact sound.pending_acquire counter own other
  | none =>
    have acquired := (sound.emplace own).pending_acquire counter
      (Function.update_self owner _ slotOf) other
    rw [Function.update_idem, pending_emplace counter own] at acquired
    exact acquired

end

theorem Sound.pending_retire [DecidableEq Owner] (sound : Sound slotOf objects)
    (found : objects[id]? = some object) (own : slotOf object.owner = some slot) (other : Owner) :
    pending count (Function.update slotOf object.owner (some (retire id slot objects).1))
        (retire id slot objects).2 other =
      pending count slotOf objects other := by
  rcases retire_cases found slot with ⟨registered, retired⟩ | ⟨_, retired⟩
  · rw [retired]
    unfold pending
    by_cases same : other = object.owner
    · rw [same, Function.update_self, own]
      change count _ = count _
      rw [counters_of_unregistered rfl, counters_of_object registered found]
    · rw [Function.update_of_ne same]
      cases there : slotOf other with
      | none => rfl
      | some =>
        change count _ = count _
        rw [counters_set (sound.owner_unique there found same)]
  · rw [retired, ← own, Function.update_eq_self]

theorem Sound.pending_swept (counter : IsCounter count) {slotOf' : Owner → Option (Slot Counters)}
    (sound : Sound slotOf objects) (swept : Swept slotOf slotOf') {chosen : Nat → Bool}
    (all : ∀ (owner : Owner) (slot : Slot Counters) (id : Nat), slotOf owner = some slot →
      slot.registered = some id → chosen id = true) (owner : Owner) :
    pending count slotOf' (resetWhere chosen objects) owner =
      (slotOf' owner).elim 0 fun slot => count slot.retired := by
  unfold pending
  cases there : slotOf' owner with
  | none => rfl
  | some slot' =>
    obtain ⟨slot, before, rfl⟩ := swept.origin owner slot' there
    change count _ = count _
    cases registered : slot.registered with
    | none => rw [counters_of_unregistered (by exact registered)]
    | some id =>
      obtain ⟨object, found, _⟩ := sound.registered owner slot id before registered
      have reset : (resetWhere chosen objects)[id]? = some object.reset := by
        rw [getElem?_resetWhere, found, Option.map_some,
          if_pos (all owner slot id before registered)]
      rw [counters_of_object (by exact registered) reset, counter.add, Object.reset,
        counter.reset, add_zero]

end Accounts

end SlotPool
