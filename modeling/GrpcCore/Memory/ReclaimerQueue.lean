import Mathlib

/-!
# Reclaimer queues

A queue of the functions that a quota calls to get memory back. What is queued are
indices of entries. An entry is emptied when it is cancelled, and its index is free
again once it has been popped.
-/

namespace GrpcCore.Memory

/-- Allocators are named by the order of their creation. -/
abbrev AllocatorId := Nat

/-- A `ReclamationFunction`: the one that an allocator registers for itself, or one
that its owner has posted. -/
inductive Reclaimer where
  | sweeper (self : AllocatorId)
  | posted (tag : Nat)
deriving DecidableEq

structure ReclaimerQueue.Entry where
  allocator : Option AllocatorId
  reclaimer : Reclaimer
deriving DecidableEq

/-- `waker` says that an activity waits for an entry. -/
structure ReclaimerQueue where
  entries : List ReclaimerQueue.Entry := []
  freeEntries : List Nat := []
  queue : List Nat := []
  waker : Bool := false
deriving DecidableEq

namespace ReclaimerQueue

/-- The entry at an index, if it is the allocator's. The index is the one that the
allocator remembers; `none` is `kInvalidIndex`. -/
def own (rq : ReclaimerQueue) (index : Option Nat) (allocator : AllocatorId) :
    Option (Nat × Entry) :=
  index.bind fun i =>
    rq.entries[i]?.bind fun entry =>
      if entry.allocator = some allocator then some (i, entry) else none

/-- Queue an entry that has been written. The wakeup is taken from the waker. -/
def push (rq : ReclaimerQueue) (i : Nat) : ReclaimerQueue × Bool :=
  if rq.queue = [] then ({ rq with queue := [i], waker := false }, rq.waker)
  else ({ rq with queue := rq.queue ++ [i] }, false)

/-- The queue, the index of the entry, and whether the activity is woken. -/
def insert (rq : ReclaimerQueue) (allocator : AllocatorId) (reclaimer : Reclaimer)
    (index : Option Nat) : ReclaimerQueue × Nat × Bool :=
  match rq.own index allocator with
  | some (i, entry) =>
    ({ rq with entries := rq.entries.set i { entry with reclaimer } }, i, false)
  | none =>
    match rq.freeEntries.getLast? with
    | none =>
      let i := rq.entries.length
      let written := { rq with entries := rq.entries ++ [⟨some allocator, reclaimer⟩] }
      ((push written i).1, i, (push written i).2)
    | some i =>
      let written :=
        { rq with
          freeEntries := rq.freeEntries.dropLast
          entries := rq.entries.set i ⟨some allocator, reclaimer⟩ }
      ((push written i).1, i, (push written i).2)

def cancel (rq : ReclaimerQueue) (index : Option Nat) (allocator : AllocatorId) :
    ReclaimerQueue × Option Reclaimer :=
  match rq.own index allocator with
  | some (i, entry) =>
    ({ rq with entries := rq.entries.set i { entry with allocator := none } },
      some entry.reclaimer)
  | none => (rq, none)

def pollFrom (rq : ReclaimerQueue) : List Nat → ReclaimerQueue × Option Reclaimer
  | [] => ({ rq with queue := [], waker := true }, none)
  | i :: rest =>
    let popped := { rq with queue := rest, freeEntries := rq.freeEntries ++ [i] }
    match rq.entries[i]? with
    | some ⟨some _, reclaimer⟩ =>
      ({ popped with entries := rq.entries.set i ⟨none, reclaimer⟩ }, some reclaimer)
    | _ => pollFrom popped rest

def pollNext (rq : ReclaimerQueue) : ReclaimerQueue × Option Reclaimer := rq.pollFrom rq.queue

/-- An entry that has been neither cancelled nor taken. -/
def Holds (rq : ReclaimerQueue) (i : Nat) (allocator : AllocatorId) (reclaimer : Reclaimer) :
    Prop :=
  rq.entries[i]? = some ⟨some allocator, reclaimer⟩

instance (rq : ReclaimerQueue) (i : Nat) (allocator : AllocatorId) (reclaimer : Reclaimer) :
    Decidable (rq.Holds i allocator reclaimer) :=
  inferInstanceAs (Decidable (_ = _))

/-- Indices are queued once, and every entry in use is queued. -/
structure WellFormed (rq : ReclaimerQueue) : Prop where
  distinct : (rq.queue ++ rq.freeEntries).Nodup
  inRange : ∀ i ∈ rq.queue ++ rq.freeEntries, i < rq.entries.length
  queued : ∀ {i allocator reclaimer}, rq.Holds i allocator reclaimer → i ∈ rq.queue

theorem wellFormed_empty : ({} : ReclaimerQueue).WellFormed where
  distinct := List.nodup_nil
  inRange := by simp
  queued := by simp [Holds]

variable {allocator : AllocatorId} {i : Nat} {entry : Entry} {index : Option Nat}
  {rq : ReclaimerQueue}

theorem own_eq_some : rq.own index allocator = some (i, entry) ↔
      index = some i ∧ rq.entries[i]? = some entry ∧ entry.allocator = some allocator := by
  constructor
  · intro owned
    obtain ⟨j, rfl, found⟩ := Option.bind_eq_some_iff.mp owned
    obtain ⟨entry', there, own⟩ := Option.bind_eq_some_iff.mp found
    obtain ⟨mine, same⟩ := Option.ite_none_right_eq_some.mp own
    obtain ⟨rfl, rfl⟩ := Prod.mk.inj (Option.some.inj same)
    exact ⟨rfl, there, mine⟩
  · rintro ⟨rfl, there, mine⟩
    simp only [own, Option.bind_some, there, mine, if_true]

variable {reclaimer : Reclaimer}

theorem holds_of_own (owned : rq.own index allocator = some (i, entry)) :
    rq.Holds i allocator entry.reclaimer := by
  obtain ⟨-, there, mine⟩ := own_eq_some.mp owned
  rw [Holds, there, ← mine]

namespace WellFormed

variable {rq : ReclaimerQueue}

theorem not_holds_of_free (wellFormed : rq.WellFormed) (free : i ∈ rq.freeEntries)
    (allocator : AllocatorId) (reclaimer : Reclaimer) : ¬ rq.Holds i allocator reclaimer := by
  intro held
  have disjoint := (List.nodup_append.mp wellFormed.distinct).2.2
  exact disjoint i (wellFormed.queued held) i free rfl

theorem set (wellFormed : rq.WellFormed) (member : i ∈ rq.queue) :
    ({ rq with entries := rq.entries.set i entry } : ReclaimerQueue).WellFormed where
  distinct := wellFormed.distinct
  inRange := by
    intro j membership
    rw [List.length_set]
    exact wellFormed.inRange j membership
  queued := by
    intro j allocator reclaimer held
    by_cases same : i = j
    · exact same ▸ member
    · rw [Holds, List.getElem?_set_ne same] at held
      exact wellFormed.queued held

end WellFormed

theorem wellFormed_push (distinct : (rq.queue ++ rq.freeEntries).Nodup)
    (fresh : i ∉ rq.queue ++ rq.freeEntries)
    (inRange : ∀ j ∈ rq.queue ++ rq.freeEntries, j < rq.entries.length)
    (bound : i < rq.entries.length)
    (queued : ∀ {j allocator reclaimer}, rq.Holds j allocator reclaimer → j = i ∨ j ∈ rq.queue) :
    (rq.push i).1.WellFormed := by
  have pushed : (rq.push i).1.queue = rq.queue ++ [i] ∧
      (rq.push i).1.freeEntries = rq.freeEntries ∧ (rq.push i).1.entries = rq.entries := by
    unfold push
    split_ifs with empty
    · exact ⟨by rw [empty]; rfl, rfl, rfl⟩
    · exact ⟨rfl, rfl, rfl⟩
  obtain ⟨queue, freeEntries, entries⟩ := pushed
  constructor
  · rw [queue, freeEntries, List.append_assoc]
    exact (List.perm_middle.nodup_iff).mpr (List.nodup_cons.mpr ⟨fresh, distinct⟩)
  · intro j membership
    rw [queue, freeEntries, List.append_assoc] at membership
    rw [entries]
    rcases List.mem_cons.mp (List.perm_middle.mem_iff.mp membership) with rfl | old
    · exact bound
    · exact inRange j old
  · intro j allocator reclaimer held
    rw [Holds, entries] at held
    rw [queue]
    rcases queued held with rfl | old
    · exact List.mem_append_right _ List.mem_cons_self
    · exact List.mem_append_left _ old

theorem push_entries (rq : ReclaimerQueue) (i : Nat) : (rq.push i).1.entries = rq.entries := by
  unfold push
  split_ifs <;> rfl

/-- What `insert` leaves: the new entry at its index, and the entries of others. -/
structure Inserted (rq : ReclaimerQueue) (allocator : AllocatorId) (reclaimer : Reclaimer)
    (result : ReclaimerQueue × Nat × Bool) : Prop where
  wellFormed : result.1.WellFormed
  new : result.1.Holds result.2.1 allocator reclaimer
  old : ∀ {i other reclaimer'}, result.1.Holds i other reclaimer' →
    other = allocator ∧ reclaimer' = reclaimer ∨ rq.Holds i other reclaimer'
  others : ∀ {i other reclaimer'}, rq.Holds i other reclaimer' → other ≠ allocator →
    result.1.Holds i other reclaimer'
  -- An empty queue with a waiting activity wakes it.
  woken : rq.queue = [] → rq.waker = true → result.2.2 = true

theorem insert_own (wellFormed : rq.WellFormed) (owned : rq.own index allocator = some (i, entry))
    (reclaimer : Reclaimer) :
    Inserted rq allocator reclaimer (rq.insert allocator reclaimer index) := by
  have held := holds_of_own owned
  obtain ⟨-, there, mine⟩ := own_eq_some.mp owned
  have queued := wellFormed.queued held
  have bound := wellFormed.inRange i (List.mem_append_left _ queued)
  simp only [insert, owned]
  constructor
  · exact wellFormed.set queued
  · simp only [Holds, List.getElem?_set_self bound, mine]
  · intro j other reclaimer' held'
    by_cases same : i = j
    · subst same
      simp only [Holds, List.getElem?_set_self bound, mine, Option.some.injEq, Entry.mk.injEq]
        at held'
      exact .inl ⟨held'.1.symm, held'.2.symm⟩
    · rw [Holds, List.getElem?_set_ne same] at held'
      exact .inr held'
  · intro j other reclaimer' held' different
    have same : i ≠ j := by
      rintro rfl
      rw [Holds, there] at held'
      have other' := congrArg Entry.allocator (Option.some.inj held')
      exact different (Option.mem_unique other' mine)
    rw [Holds, List.getElem?_set_ne same]
    exact held'
  · intro empty
    rw [empty] at queued
    cases queued

theorem inserted_push {rq written : ReclaimerQueue} (queue : written.queue = rq.queue)
    (waker : written.waker = rq.waker) (unused : ∀ other reclaimer', ¬ rq.Holds i other reclaimer')
    (new : written.Holds i allocator reclaimer)
    (same : ∀ j, i ≠ j → written.entries[j]? = rq.entries[j]?)
    (wellFormed : (written.push i).1.WellFormed) :
    Inserted rq allocator reclaimer ((written.push i).1, i, (written.push i).2) := by
  constructor
  · exact wellFormed
  · rw [Holds, push_entries]
    exact new
  · intro j other reclaimer' held
    rw [Holds, push_entries] at held
    by_cases here : i = j
    · subst here
      have entry := Option.mem_unique held new
      exact .inl ⟨Option.some.inj (congrArg Entry.allocator entry), congrArg Entry.reclaimer entry⟩
    · rw [same j here] at held
      exact .inr held
  · intro j other reclaimer' held _
    have here : i ≠ j := by
      rintro rfl
      exact unused other reclaimer' held
    rw [Holds, push_entries, same j here]
    exact held
  · intro empty waiting
    rw [← queue] at empty
    simp only [push, if_pos empty, waker, waiting]

theorem insert_spec (wellFormed : rq.WellFormed) (allocator : AllocatorId) (reclaimer : Reclaimer)
    (index : Option Nat) :
    Inserted rq allocator reclaimer (rq.insert allocator reclaimer index) := by
  rcases owned : rq.own index allocator with _ | ⟨i, entry⟩
  · rcases last : rq.freeEntries.getLast? with _ | i
    · -- A new entry behind the others.
      have unused : ∀ other reclaimer', ¬ rq.Holds rq.entries.length other reclaimer' := by
        simp [Holds]
      have fresh : rq.entries.length ∉ rq.queue ++ rq.freeEntries := fun member =>
        Nat.lt_irrefl _ (wellFormed.inRange _ member)
      simp only [insert, owned, last]
      refine inserted_push rfl rfl unused ?_ ?_ ?_
      · simp [Holds]
      · intro j here
        rcases Nat.lt_or_ge j rq.entries.length with before | after
        · exact List.getElem?_append_left before
        · rw [List.getElem?_eq_none after, List.getElem?_eq_none]
          rw [List.length_append, List.length_singleton]
          omega
      · refine wellFormed_push wellFormed.distinct fresh ?_ (by simp) ?_
        · intro j member
          have bound := wellFormed.inRange j member
          rw [List.length_append]
          omega
        · intro j other reclaimer' held
          rcases Nat.lt_or_ge j rq.entries.length with before | after
          · rw [Holds, List.getElem?_append_left before] at held
            exact .inr (wellFormed.queued held)
          · have bound := (List.getElem?_eq_some_iff.mp held).1
            rw [List.length_append, List.length_singleton] at bound
            exact .inl (by omega)
    · -- An entry that is free again.
      obtain ⟨front, split⟩ := List.getLast?_eq_some_iff.mp last
      have free : i ∈ rq.freeEntries := by simp [split]
      have bound := wellFormed.inRange i (List.mem_append_right _ free)
      have distinct := wellFormed.distinct
      rw [split, ← List.append_assoc] at distinct
      have parts := List.nodup_append.mp distinct
      have others : rq.freeEntries.dropLast = front := by rw [split, List.dropLast_concat]
      simp only [insert, owned, last, others]
      refine inserted_push rfl rfl (wellFormed.not_holds_of_free free) ?_ ?_ ?_
      · simp only [Holds, List.getElem?_set_self bound]
      · intro j here
        exact List.getElem?_set_ne here
      · refine wellFormed_push parts.1 ?_ ?_ (by rw [List.length_set]; exact bound) ?_
        · exact fun member => parts.2.2 i member i (List.mem_singleton_self i) rfl
        · intro j member
          rw [List.length_set]
          refine wellFormed.inRange j ?_
          rw [split, ← List.append_assoc]
          exact List.mem_append_left _ member
        · intro j other reclaimer' held
          by_cases here : i = j
          · exact .inl here.symm
          · rw [Holds, List.getElem?_set_ne here] at held
            exact .inr (wellFormed.queued held)
  · exact insert_own wellFormed owned reclaimer

/-- What `cancel` leaves: everything but the allocator's own entry. -/
structure Cancelled (rq : ReclaimerQueue) (allocator : AllocatorId)
    (result : ReclaimerQueue × Option Reclaimer) : Prop where
  wellFormed : result.1.WellFormed
  queue : result.1.queue = rq.queue
  waker : result.1.waker = rq.waker
  old : ∀ {i other reclaimer}, result.1.Holds i other reclaimer → rq.Holds i other reclaimer
  others : ∀ {i other reclaimer}, rq.Holds i other reclaimer → other ≠ allocator →
    result.1.Holds i other reclaimer
  fetched : ∀ {reclaimer}, result.2 = some reclaimer → ∃ i, rq.Holds i allocator reclaimer

theorem cancel_spec (wellFormed : rq.WellFormed) (index : Option Nat) (allocator : AllocatorId) :
    Cancelled rq allocator (rq.cancel index allocator) := by
  rcases owned : rq.own index allocator with _ | ⟨i, entry⟩
  · simp only [cancel, owned]
    exact ⟨wellFormed, rfl, rfl, id, fun held _ => held, by simp⟩
  · have held := holds_of_own owned
    obtain ⟨-, there, mine⟩ := own_eq_some.mp owned
    have queued := wellFormed.queued held
    have bound := wellFormed.inRange i (List.mem_append_left _ queued)
    simp only [cancel, owned]
    refine ⟨wellFormed.set queued, rfl, rfl, ?_, ?_, ?_⟩
    · intro j other reclaimer held'
      by_cases same : i = j
      · subst same
        simp [Holds, List.getElem?_set_self bound] at held'
      · rw [Holds, List.getElem?_set_ne same] at held'
        exact held'
    · intro j other reclaimer held' different
      have same : i ≠ j := by
        rintro rfl
        rw [Holds, there] at held'
        have other' := congrArg Entry.allocator (Option.some.inj held')
        exact different (Option.mem_unique other' mine)
      rw [Holds, List.getElem?_set_ne same]
      exact held'
    · intro reclaimer fetched
      obtain rfl := Option.some.inj fetched
      exact ⟨i, held⟩

/-- What `pollNext` leaves: everything but the entry it has taken, and nothing in the
queue if there was none to take. -/
structure Polled (rq : ReclaimerQueue) (result : ReclaimerQueue × Option Reclaimer) : Prop where
  wellFormed : result.1.WellFormed
  old : ∀ {i other reclaimer}, result.1.Holds i other reclaimer → rq.Holds i other reclaimer
  nothing : result.2 = none → result.1.queue = [] ∧ result.1.waker = true
  others : ∀ {i other reclaimer}, rq.Holds i other reclaimer →
    result.1.Holds i other reclaimer ∨ result.2 = some reclaimer
  taken : ∀ {reclaimer}, result.2 = some reclaimer → ∃ i allocator, rq.Holds i allocator reclaimer

theorem WellFormed.pop (wellFormed : rq.WellFormed) {rest : List Nat} (split : rq.queue = i :: rest)
    (empty : entry.allocator = none) : ({ rq with
        queue := rest
        freeEntries := rq.freeEntries ++ [i]
        entries := rq.entries.set i entry } : ReclaimerQueue).WellFormed := by
  obtain ⟨distinct, inRange, queued⟩ := wellFormed
  rw [split] at distinct inRange
  have bound := inRange i List.mem_cons_self
  have moved : (rest ++ (rq.freeEntries ++ [i])).Perm (i :: rest ++ rq.freeEntries) := by
    rw [← List.append_assoc]
    exact List.perm_append_singleton i (rest ++ rq.freeEntries)
  constructor
  · exact moved.nodup_iff.mpr distinct
  · intro j member
    rw [List.length_set]
    exact inRange j (moved.mem_iff.mp member)
  · intro j other reclaimer held
    by_cases same : i = j
    · subst same
      rw [Holds, List.getElem?_set_self bound] at held
      rw [Option.some.inj held] at empty
      cases empty
    · rw [Holds, List.getElem?_set_ne same] at held
      have member := queued held
      rw [split] at member
      rcases List.mem_cons.mp member with rfl | later
      · exact absurd rfl same
      · exact later

theorem pollFrom_spec {queue : List Nat} (wellFormed : rq.WellFormed) (same : rq.queue = queue) :
    Polled rq (rq.pollFrom queue) := by
  induction queue generalizing rq with
  | nil =>
    have nothing : ∀ {i other reclaimer}, ¬ rq.Holds i other reclaimer := by
      intro i other reclaimer held
      have member := wellFormed.queued held
      rw [same] at member
      cases member
    obtain ⟨distinct, inRange, queued⟩ := wellFormed
    rw [same] at distinct inRange
    refine ⟨⟨distinct, inRange, fun held => absurd held nothing⟩, id, fun _ => ⟨rfl, rfl⟩, .inl, ?_⟩
    intro reclaimer taken
    cases taken
  | cons i rest ih =>
    have bound := wellFormed.inRange i (by simp [same])
    have there : rq.entries[i]? = some rq.entries[i] := List.getElem?_eq_getElem bound
    rcases entry : rq.entries[i] with ⟨_ | allocator, reclaimer⟩
    · -- A cancelled entry is skipped.
      rw [entry] at there
      have unchanged : rq.entries.set i ⟨none, reclaimer⟩ = rq.entries := by
        rw [← entry]
        exact List.set_getElem_self bound
      have popped := wellFormed.pop same (rfl : (⟨none, reclaimer⟩ : Entry).allocator = none)
      rw [unchanged] at popped
      obtain ⟨wellFormed', old, nothing, others, taken⟩ := ih popped rfl
      simp only [pollFrom, there]
      exact ⟨wellFormed', old, nothing, others, taken⟩
    · rw [entry] at there
      simp only [pollFrom, there]
      refine ⟨wellFormed.pop same rfl, ?_, by simp, ?_, ?_⟩
      · intro j other reclaimer' held
        by_cases here : i = j
        · subst here
          simp [Holds, List.getElem?_set_self bound] at held
        · rw [Holds, List.getElem?_set_ne here] at held
          exact held
      · intro j other reclaimer' held
        by_cases here : i = j
        · subst here
          have entry' := Option.mem_unique there held
          exact .inr (congrArg some (congrArg Entry.reclaimer entry'))
        · refine .inl ?_
          rw [Holds, List.getElem?_set_ne here]
          exact held
      · intro reclaimer' taken
        obtain rfl := Option.some.inj taken
        exact ⟨i, allocator, there⟩

theorem pollNext_spec (wellFormed : rq.WellFormed) : Polled rq rq.pollNext :=
  pollFrom_spec wellFormed rfl

end ReclaimerQueue

end GrpcCore.Memory
