import GrpcCore.Lib.BinarySearch

/-!
# The stream map

`grpc_chttp2_stream_map`: an array of increasing stream ids. A deleted stream
leaves its key behind, and the array is compacted only when it is full and more
than a quarter of it is free.
-/

namespace GrpcCore.Transport

universe u
variable {Value : Type u}

/-- The first `count` cells of the two arrays. A cell without a value is free. -/
structure StreamMap (Value : Type u) where
  entries : List (Nat × Option Value) := []
  free : Nat := 0
  capacity : Nat := 8

namespace StreamMap

def count (map : StreamMap Value) : Nat := map.entries.length

def keys (map : StreamMap Value) : List Nat := map.entries.map Prod.fst

def size (map : StreamMap Value) : Nat := map.count - map.free

def compact (map : StreamMap Value) : StreamMap Value :=
  { map with
    entries := map.entries.filter (·.2.isSome)
    free := 0 }

def reserve (map : StreamMap Value) : StreamMap Value :=
  if map.count = map.capacity then
    if map.free > map.capacity / 4 then map.compact
    else { map with capacity := 2 * map.capacity }
  else map

def add (map : StreamMap Value) (key : Nat) (value : Value) : StreamMap Value :=
  { map.reserve with entries := map.reserve.entries ++ [(key, some value)] }

def findIndex (map : StreamMap Value) (key : Nat) : Option Nat :=
  BinarySearch.search map.keys key map.count 0 map.count

def find (map : StreamMap Value) (key : Nat) : Option Value :=
  (map.findIndex key).bind fun index => (map.entries[index]?).bind Prod.snd

/-- A map of which every cell is free is reset, which spares a later compaction. -/
def delete (map : StreamMap Value) (key : Nat) : StreamMap Value :=
  match map.findIndex key with
  | none => map
  | some index =>
    if map.free + 1 = map.count then { map with entries := [], free := 0 }
    else
      { map with
        entries := map.entries.set index (key, none)
        free := map.free + 1 }

def rand (map : StreamMap Value) (random : Nat) : Option Value × StreamMap Value :=
  if map.count = map.free then (none, map)
  else
    let map := if map.free ≠ 0 then map.compact else map
    ((map.entries[random % map.count]?).bind Prod.snd, map)

/-- `grpc_chttp2_stream_map_for_each` from an index on. The map is read anew in
every round, out of the state the callback has left. -/
def forEachFrom {State : Type*} (mapOf : State → StreamMap Value)
    (f : State → Nat → Value → State) : (fuel index : Nat) → State → State
  | 0, _, state => state
  | fuel + 1, index, state =>
    match (mapOf state).entries[index]? with
    | none => state
    | some (_, none) => forEachFrom mapOf f fuel (index + 1) state
    | some (key, some value) => forEachFrom mapOf f fuel (index + 1) (f state key value)

def live (map : StreamMap Value) : List (Nat × Value) :=
  map.entries.filterMap fun entry => entry.2.map (entry.1, ·)

structure WellFormed (map : StreamMap Value) : Prop where
  keysIncreasing : map.keys.Pairwise (· < ·)
  freeCounted : map.free = map.entries.countP (·.2.isNone)
  /-- A map without streams has been reset. -/
  resetWhenEmpty : map.free = map.count → map.entries = []

variable {value : Value} {key : Nat} {map : StreamMap Value}

theorem mem_live : (key, value) ∈ map.live ↔ (key, some value) ∈ map.entries := by
  simp only [live, List.mem_filterMap]
  constructor
  · rintro ⟨⟨key', value'⟩, mem, eq⟩
    cases value' with
    | none => simp at eq
    | some =>
      obtain ⟨rfl, rfl⟩ := eq
      exact mem
  · intro mem
    exact ⟨(key, some value), mem, rfl⟩

variable (entries : List (Nat × Option Value))

theorem length_filterMap_add_countP :
    (entries.filterMap fun entry => entry.2.map (entry.1, ·)).length +
      entries.countP (·.2.isNone) = entries.length := by
  induction entries with
  | nil => rfl
  | cons entry =>
    obtain ⟨key, value | value⟩ := entry
    · simp only [List.filterMap_cons, Option.map_none, List.countP_cons, Option.isNone_none,
        if_true, List.length_cons]
      omega
    · simp only [List.filterMap_cons, Option.map_some, List.countP_cons, Option.isNone_some,
        Bool.false_eq_true, if_false, List.length_cons]
      omega

namespace WellFormed

variable {map : StreamMap Value} (wf : map.WellFormed)
include wf

theorem size_eq : map.size = map.live.length := by
  have counted := length_filterMap_add_countP map.entries
  rw [← wf.freeCounted] at counted
  simp only [size, count, live]
  omega

theorem entries_nil_of_size (empty : map.size = 0) : map.entries = [] := by
  refine wf.resetWhenEmpty ?_
  have bounded := List.countP_le_length (p := (·.2.isNone)) (l := map.entries)
  rw [← wf.freeCounted] at bounded
  simp only [size, count] at empty ⊢
  omega

theorem findIndex_of_mem {value : Option Value} (mem : (key, value) ∈ map.entries) :
    ∃ index, map.findIndex key = some index ∧ map.entries[index]? = some (key, value) := by
  obtain ⟨index, inside, read⟩ := List.getElem_of_mem mem
  refine ⟨index, ?_, List.getElem?_eq_some_iff.mpr ⟨inside, read⟩⟩
  have bound : map.count ≤ map.keys.length := by simp [count, keys]
  refine BinarySearch.search_of_getElem? wf.keysIncreasing bound (Nat.le_add_left ..)
    (Nat.zero_le _) inside ?_
  simp [keys, inside, read]

theorem find_eq_some : map.find key = some value ↔ (key, value) ∈ map.live := by
  rw [mem_live]
  constructor
  · intro found
    obtain ⟨index, search, entry, read, eq⟩ : ∃ index, map.findIndex key = some index ∧
        ∃ entry, map.entries[index]? = some entry ∧ entry.2 = some value := by
      simpa [find, Option.bind_eq_some_iff] using found
    have same := BinarySearch.getElem?_of_search search
    simp only [keys, List.getElem?_map, read, Option.map_some, Option.some.injEq] at same
    rw [← same, ← eq]
    exact List.mem_of_getElem? read
  · intro mem
    obtain ⟨index, search, read⟩ := wf.findIndex_of_mem mem
    simp [find, search, read]

end WellFormed

theorem wellFormed_default : ({} : StreamMap Value).WellFormed where
  keysIncreasing := List.Pairwise.nil
  freeCounted := rfl
  resetWhenEmpty _ := rfl

theorem filterMap_filter_isSome :
    (entries.filter (·.2.isSome)).filterMap (fun entry => entry.2.map (entry.1, ·)) =
      entries.filterMap fun entry => entry.2.map (entry.1, ·) := by
  induction entries with
  | nil => rfl
  | cons entry entries ih =>
    obtain ⟨key, value | value⟩ := entry
    · simpa using ih
    · simpa using ih

theorem live_compact (map : StreamMap Value) : map.compact.live = map.live :=
  filterMap_filter_isSome map.entries

theorem keys_compact (map : StreamMap Value) : map.compact.keys.Sublist map.keys :=
  List.filter_sublist.map Prod.fst

theorem live_reserve (map : StreamMap Value) : map.reserve.live = map.live := by
  unfold reserve
  split_ifs
  · exact map.live_compact
  · rfl
  · rfl

theorem keys_reserve (map : StreamMap Value) : map.reserve.keys.Sublist map.keys := by
  unfold reserve
  split_ifs
  · exact map.keys_compact
  · exact List.Sublist.refl _
  · exact List.Sublist.refl _

theorem live_add (map : StreamMap Value) (key : Nat) (value : Value) :
    (map.add key value).live = map.live ++ [(key, value)] := by
  have reserved := map.live_reserve
  simp only [live] at reserved
  simp [add, live, List.filterMap_append, reserved]

theorem keys_add (map : StreamMap Value) (key : Nat) (value : Value) :
    (map.add key value).keys = map.reserve.keys ++ [key] := by
  simp [add, keys]

theorem count_reserve_le (map : StreamMap Value) : map.reserve.count ≤ map.count := by
  simpa [keys, count] using map.keys_reserve.length_le

theorem count_add_le (map : StreamMap Value) (key : Nat) (value : Value) :
    (map.add key value).count ≤ map.count + 1 := by
  have reserved := map.count_reserve_le
  simp only [add, count, List.length_append, List.length_singleton] at reserved ⊢
  omega

namespace WellFormed

variable {map : StreamMap Value}

theorem compact (wf : map.WellFormed) : map.compact.WellFormed where
  keysIncreasing := wf.keysIncreasing.sublist map.keys_compact
  freeCounted := by
    refine (List.countP_eq_zero.mpr ?_).symm
    intro entry mem
    have present := (List.mem_filter.mp mem).2
    simpa [Option.isSome_iff_ne_none] using present
  resetWhenEmpty same := List.eq_nil_of_length_eq_zero same.symm

theorem reserve (wf : map.WellFormed) : map.reserve.WellFormed := by
  unfold StreamMap.reserve
  split_ifs
  · exact wf.compact
  · exact ⟨wf.keysIncreasing, wf.freeCounted, wf.resetWhenEmpty⟩
  · exact wf

theorem add (wf : map.WellFormed) {key : Nat} (value : Value)
    (above : ∀ other ∈ map.keys, other < key) : (map.add key value).WellFormed where
  keysIncreasing := by
    rw [keys_add]
    refine List.pairwise_append.mpr ⟨wf.reserve.keysIncreasing, List.pairwise_singleton .., ?_⟩
    intro other mem key' mem'
    rw [List.mem_singleton.mp mem']
    exact above other (map.keys_reserve.subset mem)
  freeCounted := by
    have counted := wf.reserve.freeCounted
    simpa [StreamMap.add] using counted
  resetWhenEmpty same := by
    have counted := wf.reserve.freeCounted
    have bounded := List.countP_le_length (p := (·.2.isNone)) (l := map.reserve.entries)
    simp only [StreamMap.add, count, List.length_append, List.length_singleton] at same
    omega

theorem live_keys_increasing (wf : map.WellFormed) :
    (map.live.map Prod.fst).Pairwise (· < ·) := by
  refine wf.keysIncreasing.sublist ?_
  have general : ∀ entries : List (Nat × Option Value),
      ((entries.filterMap fun entry => entry.2.map (entry.1, ·)).map Prod.fst).Sublist
        (entries.map Prod.fst) := by
    intro entries
    induction entries with
    | nil => exact List.Sublist.refl _
    | cons entry entries ih =>
      obtain ⟨key, value | value⟩ := entry
      · exact ih.cons key
      · exact ih.cons_cons key
  exact general map.entries

end WellFormed

theorem keys_delete (map : StreamMap Value) (key : Nat) :
    ∀ other ∈ (map.delete key).keys, other ∈ map.keys := by
  intro other mem
  unfold delete at mem
  cases search : map.findIndex key with
  | none => simpa [search] using mem
  | some =>
    have found := BinarySearch.getElem?_of_search search
    simp only [search] at mem
    split at mem
    · simp [keys] at mem
    · simp only [keys, List.map_set] at mem
      rcases List.mem_or_eq_of_mem_set mem with old | same
      · exact old
      · rw [same]
        exact List.mem_of_getElem? found

section

variable (wf : map.WellFormed)
include wf

theorem WellFormed.split_of_mem (mem : (key, value) ∈ map.live) :
    ∃ before after, map.entries = before ++ (key, some value) :: after ∧
      map.findIndex key = some before.length := by
  obtain ⟨index, search, read⟩ := wf.findIndex_of_mem (mem_live.mp mem)
  obtain ⟨inside, same⟩ := List.getElem?_eq_some_iff.mp read
  refine ⟨map.entries.take index, map.entries.drop (index + 1), ?_, ?_⟩
  · rw [← same, ← List.drop_eq_getElem_cons inside, List.take_append_drop]
  · rw [search, List.length_take, Nat.min_eq_left (Nat.le_of_lt inside)]

theorem live_delete_of_split {before after : List (Nat × Option Value)}
    (split : map.entries = before ++ (key, some value) :: after)
    (search : map.findIndex key = some before.length) : (map.delete key).live =
      (before ++ after).filterMap fun entry => entry.2.map (entry.1, ·) := by
  unfold delete
  simp only [search]
  split_ifs with last
  · have counted := length_filterMap_add_countP (before ++ after)
    have free := wf.freeCounted
    simp only [count, split] at last free
    simp only [List.length_append, List.length_cons, List.countP_append, List.countP_cons,
      Option.isNone_some, Bool.false_eq_true, if_false] at last free counted
    refine (List.eq_nil_of_length_eq_zero ?_).symm
    omega
  · simp [live, split]

theorem WellFormed.live_delete (mem : (key, value) ∈ map.live) :
    ∃ before after, map.live = before ++ (key, value) :: after ∧
      (map.delete key).live = before ++ after := by
  obtain ⟨before, after, split, search⟩ := wf.split_of_mem mem
  refine ⟨_, _, ?_, (live_delete_of_split wf split search).trans List.filterMap_append⟩
  simp [live, split]

theorem WellFormed.mem_live_delete (mem : (key, value) ∈ map.live) (other : Nat × Value) :
    other ∈ (map.delete key).live ↔ other ∈ map.live ∧ other.1 ≠ key := by
  obtain ⟨before, after, split, deleted⟩ := wf.live_delete mem
  have increasing := wf.live_keys_increasing
  rw [split, List.map_append, List.map_cons, List.pairwise_append, List.pairwise_cons] at increasing
  obtain ⟨-, ⟨later, -⟩, earlier⟩ := increasing
  rw [deleted, split]
  simp only [List.mem_append, List.mem_cons]
  constructor
  · rintro (inBefore | inAfter)
    · refine ⟨.inl inBefore, Nat.ne_of_lt ?_⟩
      exact earlier _ (List.mem_map_of_mem inBefore) key (List.mem_cons_self ..)
    · exact ⟨.inr (.inr inAfter), Nat.ne_of_gt (later _ (List.mem_map_of_mem inAfter))⟩
  · rintro ⟨inBefore | rfl | inAfter, different⟩
    · exact .inl inBefore
    · exact absurd rfl different
    · exact .inr inAfter

theorem WellFormed.delete {key : Nat} {value : Value} (mem : (key, value) ∈ map.live) :
    (map.delete key).WellFormed := by
  obtain ⟨before, after, split, search⟩ := wf.split_of_mem mem
  unfold StreamMap.delete
  simp only [search]
  split_ifs with last
  · exact ⟨List.Pairwise.nil, rfl, fun _ => rfl⟩
  · have free := wf.freeCounted
    have increasing := wf.keysIncreasing
    refine ⟨?_, ?_, fun same => absurd same ?_⟩
    · simpa [keys, split, List.set_append] using increasing
    · simp only [split, List.set_append, Nat.lt_irrefl, if_false, Nat.sub_self, List.set_cons_zero,
        List.countP_append, List.countP_cons, free]
      simp
      omega
    · simpa [count] using last

theorem WellFormed.size_delete (mem : (key, value) ∈ map.live) :
    (map.delete key).size + 1 = map.size := by
  obtain ⟨before, after, split, deleted⟩ := wf.live_delete mem
  rw [(wf.delete mem).size_eq, wf.size_eq, split, deleted]
  simp only [List.length_append, List.length_cons]
  omega

end

theorem count_delete_le (map : StreamMap Value) (key : Nat) :
    (map.delete key).count ≤ map.count := by
  unfold delete
  cases map.findIndex key with
  | none => exact Nat.le_refl _
  | some =>
    split_ifs
    · exact Nat.zero_le _
    · simp [count]

theorem rand_snd (map : StreamMap Value) (random : Nat) :
    (map.rand random).2 = map ∨ (map.rand random).2 = map.compact := by
  unfold rand
  split_ifs
  · exact .inl rfl
  · exact .inr rfl
  · exact .inl rfl

theorem WellFormed.rand (wf : map.WellFormed) (random : Nat) : (map.rand random).2.WellFormed := by
  rcases map.rand_snd random with same | compacted
  · rw [same]
    exact wf
  · rw [compacted]
    exact wf.compact

theorem live_rand (map : StreamMap Value) (random : Nat) : (map.rand random).2.live = map.live := by
  rcases map.rand_snd random with same | compacted
  · rw [same]
  · rw [compacted, live_compact]

theorem WellFormed.size_rand (wf : map.WellFormed) (random : Nat) :
    (map.rand random).2.size = map.size := by
  rw [(wf.rand random).size_eq, map.live_rand random, wf.size_eq]

theorem keys_rand (map : StreamMap Value) (random : Nat) :
    (map.rand random).2.keys.Sublist map.keys := by
  rcases map.rand_snd random with same | compacted
  · exact same.symm ▸ List.Sublist.refl _
  · rw [compacted]
    exact map.keys_compact

theorem mem_live_of_rand {random : Nat} (drawn : (map.rand random).1 = some value) :
    ∃ key, (key, value) ∈ map.live := by
  have from_entries : ((map.rand random).2.entries[random % (map.rand random).2.count]?).bind
      Prod.snd = some value := by
    rw [← drawn]
    unfold rand at drawn ⊢
    split_ifs at drawn ⊢ <;> rfl
  obtain ⟨⟨key, value'⟩, read, same⟩ := Option.bind_eq_some_iff.mp from_entries
  obtain rfl : value' = some value := same
  rw [← map.live_rand random]
  exact ⟨key, mem_live.mpr (List.mem_of_getElem? read)⟩

section ForEach

variable {State : Type*} {mapOf : State → StreamMap Value} {f : State → Nat → Value → State}

variable {state : State} {index fuel : Nat}

theorem forEachFrom_free (read : (mapOf state).entries[index]? = some (key, none)) :
    forEachFrom mapOf f (fuel + 1) index state = forEachFrom mapOf f fuel (index + 1) state := by
  rw [forEachFrom, read]

theorem forEachFrom_used (read : (mapOf state).entries[index]? = some (key, some value)) :
    forEachFrom mapOf f (fuel + 1) index state =
      forEachFrom mapOf f fuel (index + 1) (f state key value) := by
  rw [forEachFrom, read]

theorem forEachFrom_invariant {Inv : State → Prop}
    (preserved : ∀ state key value, Inv state → (key, value) ∈ (mapOf state).live →
      Inv (f state key value)) (fuel index : Nat) (initially : Inv state) :
    Inv (forEachFrom mapOf f fuel index state) := by
  induction fuel generalizing index state with
  | zero => exact initially
  | succ fuel ih =>
    unfold forEachFrom
    cases read : (mapOf state).entries[index]? with
    | none => exact initially
    | some entry =>
      obtain ⟨key, value | value⟩ := entry
      · exact ih (index + 1) initially
      · have mem := mem_live.mpr (List.mem_of_getElem? read)
        exact ih (index + 1) (preserved state key value initially mem)

/-- A loop over a map that holds a stream calls back for one of its streams before
anything has changed. -/
theorem forEachFrom_first {position : Nat}
    (present : (mapOf state).entries[position]? = some (key, some value)) (ahead : index ≤ position)
    (enough : position < index + fuel) :
    ∃ key value fuel' index', (key, value) ∈ (mapOf state).live ∧
      forEachFrom mapOf f fuel index state = forEachFrom mapOf f fuel' index' (f state key value) := by
  induction fuel generalizing index with
  | zero => exact absurd enough (Nat.not_lt.mpr ahead)
  | succ fuel ih =>
    have inside : index < (mapOf state).entries.length :=
      Nat.lt_of_le_of_lt ahead (List.getElem?_eq_some_iff.mp present).1
    cases read : (mapOf state).entries[index]? with
    | none => exact absurd inside (Nat.not_lt.mpr (List.getElem?_eq_none_iff.mp read))
    | some entry =>
      obtain ⟨key', value' | value'⟩ := entry
      · have other : index ≠ position := by
          rintro rfl
          rw [read] at present
          simp at present
        rw [forEachFrom_free read]
        exact ih (Nat.lt_of_le_of_ne ahead other) (by omega)
      · rw [forEachFrom_used read]
        exact ⟨key', value', fuel, index + 1, mem_live.mpr (List.mem_of_getElem? read), rfl⟩

/-- The loop ends at the end of the array, however much fuel there is, when no
callback makes more of a measure that bounds the array. -/
theorem forEachFrom_fuel (measure : State → Nat)
    (bounds : ∀ state, (mapOf state).count ≤ measure state)
    (decreasing : ∀ state key value, (key, value) ∈ (mapOf state).live →
      measure (f state key value) ≤ measure state) (enough : measure state ≤ index + fuel)
    (more : Nat) :
    forEachFrom mapOf f (fuel + more) index state = forEachFrom mapOf f fuel index state := by
  induction fuel generalizing index state with
  | zero =>
    have past : (mapOf state).entries[index]? = none :=
      List.getElem?_eq_none_iff.mpr (Nat.le_trans (bounds state) enough)
    cases more with
    | zero => rfl
    | succ => simp [forEachFrom, past]
  | succ fuel ih =>
    rw [Nat.add_right_comm]
    unfold forEachFrom
    cases read : (mapOf state).entries[index]? with
    | none => rfl
    | some entry =>
      obtain ⟨key, value | value⟩ := entry
      · exact ih (by omega)
      · have mem := mem_live.mpr (List.mem_of_getElem? read)
        have smaller := decreasing state key value mem
        exact ih (by omega)

end ForEach

end StreamMap

end GrpcCore.Transport
