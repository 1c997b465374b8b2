import GrpcCore.Gprpp.Mpscq

/-!
# The queue with a lock for its consumers

`LockedMultiProducerSingleConsumerQueue`: producers push without the lock, consumers
go through `PopAndCheckEnd` under it.
-/

namespace GrpcCore.Gprpp

universe u

/-- The queue and its mutex, with the thread that holds it and where that is in
`PopAndCheckEnd`. -/
structure LockedMpscq (Element : Type u) where
  queue : Mpscq Element := {}
  mu : Option (Nat × PopStep Element) := none

/-- What a step of a consumer comes to: it is still inside, or it returns a node or
null. -/
inductive Pulled (Element : Type u) where
  | working
  | got (element : Option Element)

namespace LockedMpscq

variable {Element : Type u}

/-- The step the consumer under the lock takes next. -/
def step (locked : LockedMpscq Element) : PopStep Element :=
  match locked.mu with
  | none => .begin
  | some (_, step) => step

def contents (locked : LockedMpscq Element) : List Element := locked.queue.contents

def Unlinked (locked : LockedMpscq Element) (prev : Node Element) (element : Element) : Prop :=
  (prev, some element, false) ∈ locked.queue.links

/-- The first half of `Push`. -/
def exchange (locked : LockedMpscq Element) (element : Element) :
    LockedMpscq Element × Node Element :=
  ({ locked with queue := (locked.queue.exchange (some element)).1 },
    (locked.queue.exchange (some element)).2)

def Valid (locked : LockedMpscq Element) : Prop := locked.queue.Valid locked.step

theorem valid_init : ({} : LockedMpscq Element).Valid := Mpscq.valid_init

theorem Valid.exchange {locked : LockedMpscq Element} (valid : locked.Valid) {element : Element}
    (absent : element ∉ locked.contents) : (locked.exchange element).1.Valid :=
  Mpscq.Valid.exchange valid absent

@[simp]
theorem contents_exchange (locked : LockedMpscq Element) (element : Element) :
    (locked.exchange element).1.contents = locked.contents ++ [element] :=
  Mpscq.contents_exchange _ _

variable {locked : LockedMpscq Element} {element : Element} {prev : Node Element}

theorem unlinked_exchange {pushed : Element} :
    (locked.exchange pushed).1.Unlinked prev element ↔
      locked.Unlinked prev element ∨ prev = (locked.exchange pushed).2 ∧ element = pushed := by
  have links := Mpscq.links_exchange locked.queue (some pushed)
  simp only [Unlinked, LockedMpscq.exchange, links, List.mem_append, List.mem_singleton,
    Prod.mk.injEq, Option.some.injEq, and_true]
  rfl

theorem exchange_of_empty (empty : locked.contents = []) (element : Element) :
    (locked.exchange element).2 = none :=
  Mpscq.head_eq_stub empty

structure Pulls (locked locked' : LockedMpscq Element) (pulled : Pulled Element) : Prop where
  valid : locked'.Valid
  unlinked : ∀ {prev element}, locked'.Unlinked prev element → locked.Unlinked prev element
  contents : locked.contents = locked'.contents ∧ (∀ element, pulled ≠ .got (some element)) ∨
    ∃ element, pulled = .got (some element) ∧ locked.contents = element :: locked'.contents

variable {locked' : LockedMpscq Element} {pulled : Pulled Element}

theorem Pulls.contents_subset (pulls : locked.Pulls locked' pulled)
    (member : element ∈ locked'.contents) : element ∈ locked.contents := by
  rcases pulls.contents with ⟨same, -⟩ | ⟨first, -, rest⟩
  · exact same ▸ member
  · rw [rest]
    exact List.mem_cons_of_mem _ member

/-- Nothing is in the queue, or the push that follows the stub is still to be linked. -/
def FoundEmpty (locked : LockedMpscq Element) : Prop :=
  locked.contents = [] ∨ ∃ element, locked.Unlinked none element

theorem lock_pulls (valid : locked.Valid) (free : locked.mu = none) (thread : Nat) :
    Pulls locked { locked with mu := some (thread, .begin) } .working := by
  refine ⟨?_, fun there => there, .inl ⟨rfl, nofun⟩⟩
  simpa only [Valid, step, free] using valid

variable [DecidableEq Element]

/-- The second half of `Push`. -/
def link (locked : LockedMpscq Element) (element : Element) : LockedMpscq Element :=
  { locked with queue := locked.queue.link (some element) }

/-- A step of the thread that holds the lock; `Pop` stays in its loop where `TryPop`
gives up. The stub is never returned. -/
def consume (locked : LockedMpscq Element) (thread : Nat) (step : PopStep Element)
    (loops : Bool) : Option (LockedMpscq Element × Pulled Element) :=
  match locked.queue.popStep step with
  | (queue, .goOn step) => some (⟨queue, some (thread, step)⟩, .working)
  | (queue, .node (some element)) => some (⟨queue, none⟩, .got (some element))
  | (_, .node none) => none
  | (queue, .empty) => some (⟨queue, none⟩, .got none)
  | (queue, .retry) =>
    if loops then some (⟨queue, some (thread, .begin)⟩, .working)
    else some (⟨queue, none⟩, .got none)

def tryPop (locked : LockedMpscq Element) (thread : Nat) :
    Option (LockedMpscq Element × Pulled Element) :=
  match locked.mu with
  | none => some ({ locked with mu := some (thread, .begin) }, .working)
  | some (holder, step) =>
    if holder = thread then locked.consume thread step false else some (locked, .got none)

def pop (locked : LockedMpscq Element) (thread : Nat) :
    Option (LockedMpscq Element × Pulled Element) :=
  match locked.mu with
  | none => some ({ locked with mu := some (thread, .begin) }, .working)
  | some (holder, step) =>
    if holder = thread then locked.consume thread step true else none

theorem Valid.link {locked : LockedMpscq Element} (valid : locked.Valid) (element : Element) :
    (locked.link element).Valid :=
  Mpscq.Valid.link valid element

@[simp]
theorem contents_link (locked : LockedMpscq Element) (element : Element) :
    (locked.link element).contents = locked.contents :=
  Mpscq.contents_link _ _

theorem unlinked_link {linked : Element} :
    (locked.link linked).Unlinked prev element ↔
      locked.Unlinked prev element ∧ element ≠ linked := by
  exact Mpscq.mem_links_link.trans (and_congr Iff.rfl (not_congr Option.some_inj))


variable {thread : Nat}

theorem consume_pulls {loops : Bool} (valid : locked.Valid)
    (taken : locked.consume thread locked.step loops = some (locked', pulled)) :
    Pulls locked locked' pulled ∧
      (loops = true → pulled = .got none → locked'.FoundEmpty) := by
  have pops := Mpscq.popStep_pops valid
  unfold consume at taken
  generalize locked.queue.popStep locked.step = result at taken pops
  obtain ⟨queue, outcome⟩ := result
  have valid' := pops.valid valid
  have unlinked {prev : Node Element} {element : Element}
      (there : (prev, some element, false) ∈ queue.links) :
      (prev, some element, false) ∈ locked.queue.links := pops.unlinked_iff.mp there
  rcases pops.contents with ⟨element, rfl, contents⟩ | ⟨noNode, contents⟩
  · obtain ⟨rfl, rfl⟩ : ⟨queue, none⟩ = locked' ∧ .got (some element) = pulled := by
      simpa using taken
    exact ⟨⟨valid', unlinked, .inr ⟨element, rfl, contents⟩⟩, nofun⟩
  · cases outcome with
    | goOn step =>
      obtain ⟨rfl, rfl⟩ : ⟨queue, some (thread, step)⟩ = locked' ∧ .working = pulled := by
        simpa using taken
      exact ⟨⟨valid', unlinked, .inl ⟨contents.symm, nofun⟩⟩, nofun⟩
    | node node => exact absurd rfl (noNode node)
    | retry =>
      cases loops with
      | true =>
        obtain ⟨rfl, rfl⟩ : ⟨queue, some (thread, .begin)⟩ = locked' ∧ .working = pulled := by
          simpa using taken
        exact ⟨⟨valid', unlinked, .inl ⟨contents.symm, nofun⟩⟩, nofun⟩
      | false =>
        obtain ⟨rfl, rfl⟩ : ⟨queue, none⟩ = locked' ∧ .got none = pulled := by
          simpa using taken
        exact ⟨⟨valid', unlinked, .inl ⟨contents.symm, nofun⟩⟩, nofun⟩
    | empty =>
      obtain ⟨rfl, rfl⟩ : ⟨queue, none⟩ = locked' ∧ .got none = pulled := by
        simpa using taken
      refine ⟨⟨valid', unlinked, .inl ⟨contents.symm, nofun⟩⟩, fun _ _ => ?_⟩
      obtain ⟨rfl, found⟩ := pops.of_empty valid
      exact found

theorem tryPop_pulls (valid : locked.Valid) (taken : locked.tryPop thread = some (locked', pulled)) :
    Pulls locked locked' pulled := by
  unfold tryPop at taken
  split at taken
  · rename_i free
    obtain ⟨rfl, rfl⟩ : { locked with mu := some (thread, .begin) } = locked' ∧
        .working = pulled := by
      simpa using taken
    exact lock_pulls valid free thread
  · rename_i holder step held
    split at taken
    · have here : locked.step = step := by simp only [LockedMpscq.step, held]
      rw [← here] at taken
      exact (consume_pulls valid taken).1
    · obtain ⟨rfl, rfl⟩ : locked = locked' ∧ .got none = pulled := by simpa using taken
      exact ⟨valid, fun there => there, .inl ⟨rfl, nofun⟩⟩

theorem pop_pulls (valid : locked.Valid) (taken : locked.pop thread = some (locked', pulled)) :
    Pulls locked locked' pulled ∧ (pulled = .got none → locked'.FoundEmpty) := by
  unfold pop at taken
  split at taken
  · rename_i free
    obtain ⟨rfl, rfl⟩ : { locked with mu := some (thread, .begin) } = locked' ∧
        .working = pulled := by
      simpa using taken
    exact ⟨lock_pulls valid free thread, nofun⟩
  · rename_i holder step held
    obtain ⟨rfl, taken⟩ := Option.ite_none_right_eq_some.mp taken
    have here : locked.step = step := by simp only [LockedMpscq.step, held]
    rw [← here] at taken
    obtain ⟨pulls, found⟩ := consume_pulls valid taken
    exact ⟨pulls, found rfl⟩

end LockedMpscq

end GrpcCore.Gprpp
