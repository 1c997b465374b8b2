import GrpcCore.Lib.Run
import GrpcCore.Transport.StreamMap

/-!
# The stream map as a finite map

What a stream map holds is a finite map from stream ids, and every operation does to it what
it would do to the finite map, whatever the free cells and the growth of the arrays.
-/

namespace GrpcCore.Transport.StreamMap

open Machine

universe u
variable {Value : Type u}

inductive Operation (Value : Type u) where
  | add (key : Nat) (value : Value)
  | delete (key : Nat)
  | find (key : Nat)
  | rand (random : Nat)
  | forEach

/-- What an operation gives back: at most one stream, or the calls of `for_each`. -/
inductive Output (Value : Type u) where
  | nothing
  | value (value : Option Value)
  | visited (streams : List (Nat × Value))

/-- The stream map, what it has given back last, the finite map it stands for, and all keys that
have ever been added. -/
structure Mapping (Value : Type u) where
  map : StreamMap Value
  output : Output Value := .nothing
  bindings : Nat → Option Value := fun _ => none
  added : List Nat := []

/-- `for_each` with a callback that leaves the map alone. -/
def forEach (map : StreamMap Value) : List (Nat × Value) :=
  forEachFrom (fun _ => map) (fun visited key value => visited ++ [(key, value)]) map.count 0 []

/-- `none` is a failed assertion: a key that is added must be above the last one stored, and one
that is deleted must be there. -/
def Mapping.step (s : Mapping Value) : Operation Value → Option (Mapping Value)
  | .add key value =>
    match s.map.keys.getLast? with
    | some last =>
      if last < key then
        some ⟨s.map.add key value, .nothing, Function.update s.bindings key (some value),
          s.added ++ [key]⟩
      else none
    | none =>
      some ⟨s.map.add key value, .nothing, Function.update s.bindings key (some value),
        s.added ++ [key]⟩
  | .delete key =>
    match s.map.find key with
    | some value =>
      some { s with
        map := s.map.delete key
        output := .value (some value)
        bindings := Function.update s.bindings key none }
    | none => none
  | .find key => some { s with output := .value (s.map.find key) }
  | .rand random =>
    some { s with map := (s.map.rand random).2, output := .value (s.map.rand random).1 }
  | .forEach => some { s with output := .visited s.map.forEach }

/-- Keys are added above all earlier ones, and deleted only while they are there. -/
def Allowed (s : Mapping Value) : Operation Value → Prop
  | .add key _ => ∀ other ∈ s.added, other < key
  | .delete key => s.bindings key ≠ none
  | _ => True

/-- What a finite map would give back. -/
def Answers (bindings : Nat → Option Value) : Operation Value → Output Value → Prop
  | .add _ _, output => output = .nothing
  | .delete key, output | .find key, output => output = .value (bindings key)
  | .rand _, output => ∃ value, output = .value value ∧
      match value with
      | none => ∀ key, bindings key = none
      | some value => ∃ key, bindings key = some value
  | .forEach, output => ∃ streams : List (Nat × Value), output = .visited streams ∧
      (streams.map Prod.fst).Pairwise (· < ·) ∧
        ∀ key value, (key, value) ∈ streams ↔ bindings key = some value

/-- The arrays are in order, and the bindings are those of the finite map. -/
structure Refines (s : Mapping Value) : Prop where
  increasing : s.map.keys.Pairwise (· < ·)
  free : s.map.free = s.map.entries.countP (·.2.isNone)
  fits : s.map.count ≤ s.map.capacity
  finds : ∀ key, s.map.find key = s.bindings key
  size : s.map.size = {key | s.bindings key ≠ none}.ncard

/-- What every operation keeps. -/
structure Kept (s : Mapping Value) : Prop where
  wellFormed : s.map.WellFormed
  room : 1 < s.map.capacity
  fits : s.map.count ≤ s.map.capacity
  finds : ∀ key, s.map.find key = s.bindings key
  stored : ∀ key ∈ s.map.keys, key ∈ s.added

variable {value : Value} {key : Nat}

section Arrays

variable {map : StreamMap Value}

theorem capacity_reserve (map : StreamMap Value) : map.capacity ≤ map.reserve.capacity := by
  unfold reserve
  split_ifs
  · exact Nat.le_refl _
  · exact Nat.le_mul_of_pos_left _ (by decide)
  · exact Nat.le_refl _

section

variable (wf : map.WellFormed)
include wf

theorem count_reserve_lt (room : 1 < map.capacity) (fits : map.count ≤ map.capacity) :
    map.reserve.count < map.reserve.capacity := by
  unfold reserve
  split_ifs with full waste
  · have split := length_filterMap_add_countP map.entries
    have same : map.compact.count = map.live.length := by
      rw [← live_compact, ← wf.compact.size_eq, size]
      exact (Nat.sub_zero _).symm
    rw [← wf.freeCounted] at split
    change map.compact.count < map.capacity
    have live : map.live.length + map.free = map.count := split
    omega
  · change map.count < 2 * map.capacity
    omega
  · omega

theorem find_eq_none_iff : map.find key = none ↔ ∀ value, (key, value) ∉ map.live := by
  rw [Option.eq_none_iff_forall_ne_some]
  exact forall_congr' fun value => not_congr wf.find_eq_some

theorem find_eq_iff {map' : StreamMap Value} (wf' : map'.WellFormed) (same : map'.live = map.live)
    (key : Nat) : map'.find key = map.find key := by
  apply Option.ext
  intro value
  rw [wf'.find_eq_some, wf.find_eq_some, same]

theorem find_add (above : ∀ other ∈ map.keys, other < key) (other : Nat) :
    (map.add key value).find other = Function.update map.find key (some value) other := by
  apply Option.ext
  intro found
  rw [(wf.add value above).find_eq_some, live_add, List.mem_append, List.mem_singleton]
  by_cases same : other = key
  · rw [same, Function.update_self]
    have absent : (key, found) ∉ map.live := by
      intro mem
      have stored := List.mem_map_of_mem (mem_live.mp mem) (f := Prod.fst)
      exact absurd (above key stored) (Nat.lt_irrefl key)
    simp only [absent, false_or, Prod.mk.injEq, true_and, Option.some.injEq]
    exact eq_comm
  · rw [Function.update_of_ne same, wf.find_eq_some]
    simp only [Prod.mk.injEq, same, false_and, or_false]

theorem find_delete (mem : (key, value) ∈ map.live) (other : Nat) :
    (map.delete key).find other = Function.update map.find key none other := by
  apply Option.ext
  intro found
  rw [(wf.delete mem).find_eq_some, wf.mem_live_delete mem]
  by_cases same : other = key
  · rw [same, Function.update_self]
    simp
  · rw [Function.update_of_ne same, wf.find_eq_some]
    simp [same]

end

theorem capacity_delete (map : StreamMap Value) (key : Nat) :
    (map.delete key).capacity = map.capacity := by
  unfold delete
  split
  · rfl
  · split_ifs <;> rfl

theorem keys_delete_subset (wf : map.WellFormed) (mem : (key, value) ∈ map.live) {other : Nat}
    (stored : other ∈ (map.delete key).keys) : other ∈ map.keys := by
  obtain ⟨before, after, split, search⟩ := wf.split_of_mem mem
  unfold delete at stored
  rw [search] at stored
  split_ifs at stored with last
  · exact absurd stored List.not_mem_nil
  · have same : before.length - before.length = 0 := Nat.sub_self _
    simpa [keys, split, List.set_append, same] using stored

theorem capacity_rand (map : StreamMap Value) (random : Nat) :
    (map.rand random).2.capacity = map.capacity := by
  rcases map.rand_snd random with same | compacted
  · rw [same]
  · rw [compacted]
    rfl

theorem count_rand_le (map : StreamMap Value) (random : Nat) :
    (map.rand random).2.count ≤ map.count := by
  have shorter := (map.keys_rand random).length_le
  simpa [keys, count] using shorter

theorem drawn_of_used {entries : List (Nat × Option Value)}
    (used : ∀ entry ∈ entries, entry.2.isSome = true) (some_ : entries ≠ []) (random : Nat) :
    ∃ value, (entries[random % entries.length]?).bind Prod.snd = some value := by
  have inside := Nat.mod_lt random (List.length_pos_of_ne_nil some_)
  obtain ⟨value, isValue⟩ := Option.isSome_iff_exists.mp (used _ (List.getElem_mem inside))
  refine ⟨value, ?_⟩
  rw [List.getElem?_eq_getElem inside, Option.bind_some]
  exact isValue

theorem live_of_rand (wf : map.WellFormed) {random : Nat} (missing : (map.rand random).1 = none) :
    map.live = [] := by
  by_contra streams
  have some_ : map.count ≠ map.free := by
    intro empty
    rw [live, wf.resetWhenEmpty empty.symm] at streams
    exact streams rfl
  obtain ⟨value, drawn⟩ : ∃ value, (map.rand random).1 = some value := by
    rw [rand, if_neg some_]
    by_cases dirty : map.free ≠ 0
    · rw [if_pos dirty]
      apply drawn_of_used
      · exact fun entry listed => (List.mem_filter.mp listed).2
      · intro empty
        rw [← live_compact, live, empty] at streams
        exact streams rfl
    · rw [if_neg dirty]
      apply drawn_of_used
      · intro entry listed
        have counted := wf.freeCounted
        rw [not_not.mp dirty] at counted
        have used := List.countP_eq_zero.mp counted.symm entry listed
        rw [Option.isNone_iff_eq_none] at used
        exact Option.isSome_iff_ne_none.mpr used
      · intro empty
        rw [live, empty] at streams
        exact streams rfl
  cases drawn.symm.trans missing

theorem forEachFrom_const (map : StreamMap Value) {fuel index : Nat}
    (enough : map.count ≤ index + fuel) (visited : List (Nat × Value)) :
    forEachFrom (fun _ => map) (fun visited key value => visited ++ [(key, value)]) fuel index visited =
      visited ++ (map.entries.drop index).filterMap fun entry => entry.2.map (entry.1, ·) := by
  induction fuel generalizing index visited with
  | zero =>
    have past : map.entries.drop index = [] := List.drop_eq_nil_of_le enough
    rw [past, List.filterMap_nil, List.append_nil]
    rfl
  | succ fuel ih =>
    unfold forEachFrom
    cases read : map.entries[index]? with
    | none =>
      rw [List.drop_eq_nil_of_le (List.getElem?_eq_none_iff.mp read), List.filterMap_nil,
        List.append_nil]
    | some entry =>
      obtain ⟨inside, same⟩ := List.getElem?_eq_some_iff.mp read
      rw [List.drop_eq_getElem_cons inside, same]
      obtain ⟨key, value | value⟩ := entry
      · exact ih (by omega) visited
      · dsimp only
        rw [ih (by omega), List.append_assoc]
        rfl

theorem forEach_eq_live (map : StreamMap Value) : map.forEach = map.live := by
  rw [forEach, forEachFrom_const map (Nat.le_add_left _ _)]
  rfl

end Arrays

section Refinement

variable {s s' : Mapping Value}

theorem Kept.live_iff (kept : Kept s) :
    (key, value) ∈ s.map.live ↔ s.bindings key = some value := by
  rw [← kept.wellFormed.find_eq_some, kept.finds]

theorem Kept.ncard (kept : Kept s) : {key | s.bindings key ≠ none}.ncard = s.map.live.length := by
  have keys : {key | s.bindings key ≠ none} = ↑(s.map.live.map Prod.fst).toFinset := by
    apply Set.ext
    intro key
    rw [Set.mem_ofPred_eq, Finset.mem_coe, List.mem_toFinset, List.mem_map]
    constructor
    · intro bound
      obtain ⟨value, isValue⟩ := Option.ne_none_iff_exists'.mp bound
      exact ⟨(key, value), kept.live_iff.mpr isValue, rfl⟩
    · rintro ⟨⟨key, value⟩, mem, rfl⟩
      rw [kept.live_iff.mp mem]
      exact Option.some_ne_none value
  have distinct : (s.map.live.map Prod.fst).Nodup :=
    kept.wellFormed.live_keys_increasing.imp Nat.ne_of_lt
  rw [keys, Set.ncard_coe_finset, List.toFinset_card_of_nodup distinct, List.length_map]

theorem Kept.refines (kept : Kept s) : Refines s where
  increasing := kept.wellFormed.keysIncreasing
  free := kept.wellFormed.freeCounted
  fits := kept.fits
  finds := kept.finds
  size := by rw [kept.ncard, kept.wellFormed.size_eq]

theorem Kept.init {capacity : Nat} (room : 1 < capacity) :
    Kept (⟨{ capacity }, .nothing, fun _ => none, []⟩ : Mapping Value) where
  wellFormed := ⟨.nil, rfl, fun _ => rfl⟩
  room := room
  fits := Nat.zero_le _
  finds _ := rfl
  stored := List.forall_mem_nil _

theorem Kept.step_add (kept : Kept s) (above : ∀ other ∈ s.added, other < key) :
    s.step (.add key value) =
      some ⟨s.map.add key value, .nothing, Function.update s.bindings key (some value),
        s.added ++ [key]⟩ := by
  unfold Mapping.step
  dsimp only
  split
  · next last isLast =>
      rw [if_pos (above last (kept.stored last (List.mem_of_getLast? isLast)))]
  · rfl

theorem Kept.add (kept : Kept s) {key : Nat} (value : Value) (above : ∀ other ∈ s.added, other < key) :
    Kept (⟨s.map.add key value, .nothing, Function.update s.bindings key (some value),
      s.added ++ [key]⟩ : Mapping Value) := by
  have stored : ∀ other ∈ s.map.keys, other < key := fun other isStored =>
    above other (kept.stored other isStored)
  have larger := s.map.capacity_reserve
  refine ⟨kept.wellFormed.add value stored, Nat.lt_of_lt_of_le kept.room larger, ?_, ?_, ?_⟩
  · change (s.map.reserve.entries ++ [(key, some value)]).length ≤ s.map.reserve.capacity
    rw [List.length_append]
    exact count_reserve_lt kept.wellFormed kept.room kept.fits
  · intro other
    rw [find_add kept.wellFormed stored]
    exact congrFun (congrArg (Function.update · key (some value)) (funext kept.finds)) other
  · intro other isStored
    rw [keys_add] at isStored
    rcases List.mem_append.mp isStored with earlier | last
    · exact List.mem_append_left _ (kept.stored other (s.map.keys_reserve.subset earlier))
    · exact List.mem_append_right _ last

theorem Kept.delete (kept : Kept s) {key : Nat} {value : Value} (isBound : s.bindings key = some value)
    (output : Output Value) :
    Kept { s with
      map := s.map.delete key, output, bindings := Function.update s.bindings key none } := by
  have mem := kept.live_iff.mpr isBound
  refine ⟨kept.wellFormed.delete mem, ?_, ?_, ?_, ?_⟩
  · rw [capacity_delete]
    exact kept.room
  · rw [capacity_delete]
    exact Nat.le_trans (s.map.count_delete_le key) kept.fits
  · intro other
    rw [find_delete kept.wellFormed mem]
    exact congrFun (congrArg (Function.update · key none) (funext kept.finds)) other
  · exact fun other isStored => kept.stored other (keys_delete_subset kept.wellFormed mem isStored)

theorem Kept.rand (kept : Kept s) (random : Nat) (output : Output Value) :
    Kept { s with map := (s.map.rand random).2, output } := by
  refine ⟨kept.wellFormed.rand random, ?_, ?_, ?_, ?_⟩
  · rw [capacity_rand]
    exact kept.room
  · rw [capacity_rand]
    exact Nat.le_trans (s.map.count_rand_le random) kept.fits
  · intro key
    rw [← kept.finds]
    exact find_eq_iff kept.wellFormed (kept.wellFormed.rand random) (s.map.live_rand random) key
  · exact fun key isStored => kept.stored key ((s.map.keys_rand random).subset isStored)

/-- An operation that is allowed passes its assertions, gives back what the finite map would, and
keeps everything. -/
theorem Kept.step (kept : Kept s) {operation : Operation Value} (allowed : Allowed s operation) :
    ∃ next, s.step operation = some next ∧ Kept next ∧ Answers s.bindings operation next.output := by
  cases operation with
  | add key value => exact ⟨_, kept.step_add allowed, kept.add value allowed, rfl⟩
  | delete =>
    obtain ⟨value, isBound⟩ := Option.ne_none_iff_exists'.mp allowed
    refine ⟨_, ?_, kept.delete isBound (.value (some value)), ?_⟩
    · rw [Mapping.step, kept.finds, isBound]
    · exact congrArg Output.value isBound.symm
  | find key =>
    refine ⟨_, rfl, ⟨kept.wellFormed, kept.room, kept.fits, kept.finds, kept.stored⟩, ?_⟩
    exact congrArg Output.value (kept.finds key)
  | rand random =>
    refine ⟨_, rfl, kept.rand random _, _, rfl, ?_⟩
    cases drawn : (s.map.rand random).1 with
    | none =>
      intro key
      rw [← kept.finds, find_eq_none_iff kept.wellFormed, live_of_rand kept.wellFormed drawn]
      exact fun _ => List.not_mem_nil
    | some =>
      obtain ⟨key, mem⟩ := mem_live_of_rand drawn
      exact ⟨key, kept.live_iff.mp mem⟩
  | forEach =>
    refine ⟨_, rfl, ⟨kept.wellFormed, kept.room, kept.fits, kept.finds, kept.stored⟩, _, rfl, ?_⟩
    rw [forEach_eq_live]
    exact ⟨kept.wellFormed.live_keys_increasing, fun key value => kept.live_iff⟩

end Refinement

/-- After any operations on a stream map it stands for the finite map that they make of the empty
one, and gives back what that would. -/
theorem run_refines {capacity : Nat} (room : 1 < capacity) {operations : List (Operation Value)}
    {final : Mapping Value}
    (run : Run Mapping.step Allowed ⟨{ capacity }, .nothing, fun _ => none, []⟩ operations final) :
    Refines final ∧ ∀ operation, Allowed final operation → ∃ next,
      final.step operation = some next ∧ Refines next ∧
        Answers final.bindings operation next.output := by
  have kept : Kept final := by
    apply run.invariant _ (Kept.init room)
    intro s operation next kept allowed taken
    obtain ⟨next', taken', kept', _⟩ := kept.step allowed
    rw [Option.mem_unique taken taken']
    exact kept'
  refine ⟨kept.refines, fun operation allowed => ?_⟩
  obtain ⟨next, taken, kept', answers⟩ := kept.step allowed
  exact ⟨next, taken, kept'.refines, answers⟩

theorem run_refines_deleted : ∃ final : Mapping Nat,
    Run Mapping.step Allowed ⟨{ capacity := 2 }, .nothing, fun _ => none, []⟩
      [.add 1 10, .add 3 30, .delete 1, .add 5 50] final ∧ Refines final := by
  obtain ⟨final, run⟩ : ∃ final : Mapping Nat,
      Run Mapping.step Allowed ⟨{ capacity := 2 }, .nothing, fun _ => none, []⟩
        [.add 1 10, .add 3 30, .delete 1, .add 5 50] final := by
    refine ⟨_, .cons ?_ rfl (.cons ?_ rfl (.cons ?_ rfl (.cons ?_ rfl (.nil _))))⟩
    · exact List.forall_mem_nil _
    · exact (by decide : ∀ other ∈ [1], other < 3)
    · exact Option.some_ne_none 10
    · exact (by decide : ∀ other ∈ [1, 3], other < 5)
  exact ⟨final, run, (run_refines (by decide) run).1⟩

end GrpcCore.Transport.StreamMap
