import Mathlib

/-!
# The encoder's index

`HPackEncoderIndex`, which keeps each key in one of two slots. Keys never equal the default
`StoredKey` that marks an empty slot.
-/

namespace GrpcCore.Hpack

/-- A slot of the index; an empty one has no key. -/
structure IndexEntry (Key : Type) where
  key : Option Key := none
  index : Nat := 0

/-- `HPackEncoderIndex`. -/
structure HPackEncoderIndex (Key : Type) where
  entries : Nat → IndexEntry Key := fun _ => {}

variable {Key : Type}

namespace HPackEncoderIndex

variable (hash : Key → Nat) (kNumEntries : Nat)

def firstSlot (key : Key) : Nat := hash key % kNumEntries

def secondSlot (key : Key) : Nat := hash key / kNumEntries % kNumEntries

def older (index : HPackEncoderIndex Key) (a b : Nat) : Nat :=
  if (index.entries a).index < (index.entries b).index then a else b

def store (index : HPackEncoderIndex Key) (slot : Nat) (key : Key) (newIndex : Nat) :
    HPackEncoderIndex Key :=
  ⟨Function.update index.entries slot ⟨some key, newIndex⟩⟩

variable [DecidableEq Key]

/-- `Entry::UpdateOrAdd`. -/
def updateOrAdd (index : HPackEncoderIndex Key) (slot : Nat) (key : Key) (newIndex : Nat) :
    Option (HPackEncoderIndex Key) :=
  if (index.entries slot).key = some key then some (index.store slot key newIndex)
  else if (index.entries slot).key = none then some (index.store slot key newIndex)
  else none

def insert (index : HPackEncoderIndex Key) (key : Key) (newIndex : Nat) : HPackEncoderIndex Key :=
  match index.updateOrAdd (firstSlot hash kNumEntries key) key newIndex with
  | some updated => updated
  | none =>
    match index.updateOrAdd (secondSlot hash kNumEntries key) key newIndex with
    | some updated => updated
    | none =>
      index.store (index.older (firstSlot hash kNumEntries key) (secondSlot hash kNumEntries key)) key
        newIndex

def lookup (index : HPackEncoderIndex Key) (key : Key) : Option Nat :=
  let first := index.entries (firstSlot hash kNumEntries key)
  let second := index.entries (secondSlot hash kNumEntries key)
  if first.key = some key then some first.index
  else if second.key = some key then some second.index
  else none

/-- The index after insertions, the latest of which is the first of the list. -/
def inserted : List (Key × Nat) → HPackEncoderIndex Key
  | [] => {}
  | (key, newIndex) :: earlier => (inserted earlier).insert hash kNumEntries key newIndex

variable {hash kNumEntries} {index : HPackEncoderIndex Key} {history : List (Key × Nat)}

/-- A key is in one of its slots, in the second only when the first is taken, with its last index. -/
structure Sound (hash : Key → Nat) (kNumEntries : Nat) (history : List (Key × Nat))
    (index : HPackEncoderIndex Key) : Prop where
  placed : ∀ {slot key}, (index.entries slot).key = some key →
    slot = firstSlot hash kNumEntries key ∨
      slot = secondSlot hash kNumEntries key ∧
        (index.entries (firstSlot hash kNumEntries key)).key ≠ none
  unique : ∀ {slot other key}, (index.entries slot).key = some key →
    (index.entries other).key = some key → slot = other
  current : ∀ {slot key}, (index.entries slot).key = some key →
    history.lookup key = some (index.entries slot).index

omit [DecidableEq Key] in
theorem store_self (slot : Nat) (key : Key) (newIndex : Nat) :
    (index.store slot key newIndex).entries slot = ⟨some key, newIndex⟩ := Function.update_self ..

theorem updateOrAdd_cases (index : HPackEncoderIndex Key) (slot : Nat) (key : Key) (newIndex : Nat) :
    index.updateOrAdd slot key newIndex = some (index.store slot key newIndex) ∧
        ((index.entries slot).key = some key ∨ (index.entries slot).key = none) ∨
      index.updateOrAdd slot key newIndex = none ∧
        (index.entries slot).key ≠ some key ∧ (index.entries slot).key ≠ none := by
  unfold updateOrAdd
  split_ifs with here empty
  · exact .inl ⟨rfl, .inl here⟩
  · exact .inl ⟨rfl, .inr empty⟩
  · exact .inr ⟨rfl, here, empty⟩

/-- An insertion writes one slot of the key, and the key is in no other one. -/
theorem Sound.insert_cases (sound : Sound hash kNumEntries history index) (key : Key)
    (newIndex : Nat) : ∃ slot, index.insert hash kNumEntries key newIndex =
        index.store slot key newIndex ∧
      (slot = firstSlot hash kNumEntries key ∨
        slot = secondSlot hash kNumEntries key ∧
          (index.entries (firstSlot hash kNumEntries key)).key ≠ none) ∧
      ∀ {other}, (index.entries other).key = some key → other = slot := by
  unfold insert
  rcases updateOrAdd_cases index (firstSlot hash kNumEntries key) key newIndex with
    ⟨first, here | empty⟩ | ⟨first, apart, taken⟩
  · rw [first]
    exact ⟨_, rfl, .inl rfl, fun there => sound.unique there here⟩
  · rw [first]
    refine ⟨_, rfl, .inl rfl, fun there => ?_⟩
    exact (sound.placed there).resolve_right fun second => second.2 empty
  · rw [first]
    have nowhere {other : Nat} (there : (index.entries other).key = some key) :
        other = secondSlot hash kNumEntries key := by
      rcases sound.placed there with rfl | second
      · exact absurd there apart
      · exact second.1
    rcases updateOrAdd_cases index (secondSlot hash kNumEntries key) key newIndex with
      ⟨second, -⟩ | ⟨second, apart', -⟩
    · rw [second]
      exact ⟨_, rfl, .inr ⟨rfl, taken⟩, nowhere⟩
    · rw [second]
      refine ⟨_, rfl, ?_, fun there => absurd there ?_⟩
      · unfold older
        split_ifs
        · exact .inl rfl
        · exact .inr ⟨rfl, taken⟩
      · rw [nowhere there]
        exact apart'

theorem Sound.insert (sound : Sound hash kNumEntries history index) (key : Key) (newIndex : Nat) :
    Sound hash kNumEntries ((key, newIndex) :: history)
      (index.insert hash kNumEntries key newIndex) := by
  obtain ⟨slot, stored, place, alone⟩ := sound.insert_cases key newIndex
  rw [stored]
  have elsewhere {other : Nat} (apart : other ≠ slot) :
      (index.store slot key newIndex).entries other = index.entries other :=
    Function.update_of_ne apart ..
  have filled {other : Nat} (taken : (index.entries other).key ≠ none) :
      ((index.store slot key newIndex).entries other).key ≠ none := by
    by_cases same : other = slot
    · rw [same, store_self]
      exact nofun
    · rwa [elsewhere same]
  constructor
  · intro other found there
    by_cases same : other = slot
    · subst same
      rw [store_self] at there
      obtain rfl := Option.some.inj there
      exact place.imp_right (And.imp_right filled)
    · rw [elsewhere same] at there
      exact (sound.placed there).imp_right (And.imp_right filled)
  · intro first second found there there'
    by_cases same : first = slot <;> by_cases same' : second = slot
    · exact same.trans same'.symm
    · rw [same, store_self] at there
      rw [elsewhere same', ← there] at there'
      exact absurd (alone there') same'
    · rw [same', store_self] at there'
      rw [elsewhere same, ← there'] at there
      exact absurd (alone there) same
    · rw [elsewhere same] at there
      rw [elsewhere same'] at there'
      exact sound.unique there there'
  · intro other found there
    by_cases same : other = slot
    · subst same
      rw [store_self] at there ⊢
      obtain rfl := Option.some.inj there
      exact List.lookup_cons_self
    · rw [elsewhere same] at there ⊢
      have different : (found == key) = false :=
        beq_eq_false_iff_ne.mpr fun equal => same (alone (equal ▸ there))
      rw [List.lookup_cons, different]
      exact sound.current there

theorem sound_inserted (history : List (Key × Nat)) :
    Sound hash kNumEntries history (inserted hash kNumEntries history) := by
  induction history with
  | nil => exact ⟨nofun, nofun, nofun⟩
  | cons entry earlier ih => exact ih.insert entry.1 entry.2

/-- Every key is in one slot at most and is found with its last index or not at all, and directly
after its insertion it is found. -/
theorem lookup_fresh (hash : Key → Nat) (kNumEntries : Nat) (history : List (Key × Nat)) :
    (∀ {slot other key}, ((inserted hash kNumEntries history).entries slot).key = some key →
      ((inserted hash kNumEntries history).entries other).key = some key → slot = other) ∧
    (∀ key, (inserted hash kNumEntries history).lookup hash kNumEntries key = none ∨
      (inserted hash kNumEntries history).lookup hash kNumEntries key = history.lookup key) ∧
    ∀ key newIndex, (inserted hash kNumEntries ((key, newIndex) :: history)).lookup hash kNumEntries
      key = some newIndex := by
  have sound := @sound_inserted Key hash kNumEntries _
  refine ⟨(sound history).unique, fun key => ?_, fun key newIndex => ?_⟩
  · unfold lookup
    dsimp only
    split_ifs with first second
    · exact .inr ((sound history).current first).symm
    · exact .inr ((sound history).current second).symm
    · exact .inl rfl
  · obtain ⟨slot, stored, place, -⟩ := (sound history).insert_cases key newIndex
    have here : ((inserted hash kNumEntries ((key, newIndex) :: history)).entries slot).key =
        some key := by
      rw [inserted, stored, store_self]
    have last {slot : Nat} (there : ((inserted hash kNumEntries
        ((key, newIndex) :: history)).entries slot).key = some key) :=
      ((sound _).current there).symm.trans List.lookup_cons_self
    unfold lookup
    dsimp only
    split_ifs with first second
    · exact last first
    · exact last second
    · rcases place with rfl | ⟨rfl, -⟩
      · exact absurd here first
      · exact absurd here second

end HPackEncoderIndex

end GrpcCore.Hpack
