import GrpcCore.Slice.SliceWindow

/-!
# Slice buffers stay in their arrays

Over a run of operations on any number of buffers, every window stays inside its array exactly if
no tiny slice is added behind the end of the array and nothing is trimmed from before it.
-/

namespace GrpcCore.SliceBuffers

open Machine

variable {state state' : SliceBuffers}

/-- What every run keeps: the accounts of all buffers, and the slice that can be put back. -/
structure Consistent (state : SliceBuffers) : Prop where
  accounted : ∀ address, (state.buffers address).Accounted
  undoable : ∀ address, state.taken = some address → (state.buffers address).front ≠ []

theorem Consistent.init : Consistent .init := ⟨fun _ => .init, nofun⟩

theorem InBounds.init : InBounds .init := fun _ => .init

theorem forall_update {holds : SliceBuffer → Prop} {address : Nat} {sb : SliceBuffer}
    (others : ∀ address, holds (state.buffers address)) (new : holds sb) (other : Nat) :
    holds ((state.set address sb).buffers other) := by
  change holds (Function.update state.buffers address sb other)
  rw [Function.update_apply]
  split
  · exact new
  · exact others other

theorem Consistent.set (consistent : state.Consistent) {sb : SliceBuffer} (address : Nat)
    (accounted : sb.Accounted) : (state.set address sb).Consistent :=
  ⟨forall_update consistent.accounted accounted, nofun⟩

theorem InBounds.set_iff (inBounds : state.InBounds) (address : Nat) (sb : SliceBuffer) :
    (state.set address sb).InBounds ↔ sb.InBounds := by
  constructor
  · intro all
    have here := all address
    rwa [show (state.set address sb).buffers address = sb from Function.update_self ..] at here
  · exact forall_update inBounds

variable {changed : SliceBuffer × SliceBuffer}

theorem Consistent.setBoth (consistent : state.Consistent) (a b : Nat)
    (accounted : changed.1.Accounted ∧ changed.2.Accounted) :
    (state.setBoth a b changed).Consistent :=
  (consistent.set a accounted.1).set b accounted.2

theorem InBounds.setBoth (inBounds : state.InBounds) (a b : Nat)
    (both : changed.1.InBounds ∧ changed.2.InBounds) : (state.setBoth a b changed).InBounds :=
  (((inBounds.set_iff a changed.1).mpr both.1).set_iff b changed.2).mpr both.2

theorem InBounds.setBoth_iff (inBounds : state.InBounds) {a b : Nat} (different : b ≠ a)
    (second : changed.2.InBounds) : (state.setBoth a b changed).InBounds ↔ changed.1.InBounds := by
  constructor
  · intro all
    have here := all a
    have kept : (state.setBoth a b changed).buffers a = changed.1 := by
      change Function.update (Function.update state.buffers a changed.1) b changed.2 a = changed.1
      rw [Function.update_of_ne different.symm, Function.update_self]
    rwa [kept] at here
  · exact fun first => inBounds.setBoth a b ⟨first, second⟩

variable {garbage : Option Nat}

theorem trimEnd_cases {sb n : Nat} (taken : state.trimEnd sb n garbage = some state') :
    ∃ trimmed : SliceBuffer × Option SliceBuffer,
      (state.buffers sb).trimEnd n (garbage.map state.buffers) = some trimmed ∧
        (state' = state.set sb trimmed.1 ∨
          ∃ address other, garbage = some address ∧ trimmed.2 = some other ∧
            state' = state.setBoth sb address (trimmed.1, other)) := by
  obtain ⟨⟨trimmed, garbage'⟩, done, same⟩ := Option.map_eq_some_iff.mp taken
  refine ⟨(trimmed, garbage'), done, ?_⟩
  cases garbage with
  | none => exact .inl same.symm
  | some address =>
    cases garbage' with
    | none => exact .inl same.symm
    | some other => exact .inr ⟨address, other, rfl, rfl, same.symm⟩

theorem Consistent.trimEnd (consistent : state.Consistent) {sb n : Nat}
    (taken : state.trimEnd sb n garbage = some state') : state'.Consistent := by
  obtain ⟨trimmed, done, rfl | ⟨address, other, rfl, isOther, rfl⟩⟩ := trimEnd_cases taken
  · exact consistent.set sb ((consistent.accounted sb).trimEnd done)
  · have kept : SliceBuffer.Garbage SliceBuffer.Accounted trimmed.2 := by
      obtain ⟨_, rfl⟩ := Option.ite_some_none_eq_some.mp done
      apply SliceBuffer.Garbage.trimEndLoop SliceBuffer.Garbage.discard_accounted
      intro old isOld
      obtain rfl := Option.some.inj isOld
      exact consistent.accounted address
    exact consistent.setBoth sb address ⟨(consistent.accounted sb).trimEnd done, kept other isOther⟩

theorem InBounds.trimEnd_iff (inBounds : state.InBounds) (consistent : state.Consistent)
    {sb n : Nat} (apart : garbage ≠ some sb) (taken : state.trimEnd sb n garbage = some state') :
    state'.InBounds ↔ state.Fits (.trimEnd sb n garbage) := by
  obtain ⟨trimmed, done, same⟩ := trimEnd_cases taken
  have exact_ := (inBounds sb).trimEnd_iff (consistent.accounted sb) done
  refine Iff.trans ?_ exact_
  rcases same with rfl | ⟨address, other, rfl, isOther, rfl⟩
  · exact inBounds.set_iff sb trimmed.1
  · have kept : SliceBuffer.Garbage SliceBuffer.Kept trimmed.2 := by
      obtain ⟨_, rfl⟩ := Option.ite_some_none_eq_some.mp done
      apply SliceBuffer.Garbage.trimEndLoop SliceBuffer.Garbage.discard_kept
      intro old isOld
      obtain rfl := Option.some.inj isOld
      exact { toInBounds := inBounds address, toAccounted := consistent.accounted address }
    exact inBounds.setBoth_iff (fun same => apart (congrArg some same))
      (kept other isOther).toInBounds

theorem Consistent.step (consistent : state.Consistent) {operation : Operation}
    (taken : state.step operation = some state') : state'.Consistent := by
  have accounted := consistent.accounted
  cases operation with
  | add sb slice =>
    obtain rfl := Option.some.inj taken
    exact consistent.set sb ((accounted sb).add slice)
  | addn sb slices =>
    obtain rfl := Option.some.inj taken
    exact consistent.set sb ((accounted sb).addn slices)
  | addIndexed sb slice =>
    obtain rfl := Option.some.inj taken
    exact consistent.set sb ((accounted sb).addIndexed slice)
  | tinyAdd sb =>
    dsimp only [SliceBuffers.step] at taken
    split at taken
    · next small =>
        obtain rfl := Option.some.inj taken
        exact consistent.set sb ((accounted sb).tinyAdd small)
    · contradiction
  | pop sb =>
    obtain rfl := Option.some.inj taken
    exact consistent.set sb (accounted sb).pop
  | takeFirst sb =>
    obtain ⟨⟨slice, left⟩, done, rfl⟩ := Option.map_eq_some_iff.mp taken
    obtain ⟨slices, isFirst, rfl⟩ := SliceBuffer.takeFirst_eq_some done
    refine ⟨forall_update accounted ((accounted sb).leaveFirst isFirst), ?_⟩
    intro address isTaken
    obtain rfl := Option.some.inj isTaken
    change (Function.update state.buffers sb _ sb).front ≠ []
    rw [Function.update_self]
    exact List.append_ne_nil_of_right_ne_nil _ (List.cons_ne_nil _ _)
  | undoTakeFirst sb slice =>
    obtain ⟨_, rfl⟩ := Option.ite_some_none_eq_some.mp taken
    exact consistent.set sb ((accounted sb).undoTakeFirst slice)
  | removeFirst sb =>
    obtain ⟨left, done, rfl⟩ := Option.map_eq_some_iff.mp taken
    exact consistent.set sb ((accounted sb).removeFirst done)
  | subFirst sb =>
    obtain ⟨left, done, rfl⟩ := Option.map_eq_some_iff.mp taken
    exact consistent.set sb ((accounted sb).subFirst done)
  | moveFirst src n dst | moveFirstNoRef src n dst =>
    obtain ⟨_, moves⟩ := Option.ite_none_left_eq_some.mp taken
    obtain ⟨moved, done, rfl⟩ := Option.map_eq_some_iff.mp moves
    exact consistent.setBoth src dst ((accounted src).moveFirst (accounted dst) done)
  | moveInto src dst =>
    obtain ⟨_, rfl⟩ := Machine.guarded_taken taken
    exact consistent.setBoth src dst ((accounted src).moveInto (accounted dst))
  | trimEnd =>
    exact consistent.trimEnd (Option.ite_none_left_eq_some.mp taken).2
  | swap a b =>
    obtain ⟨_, rfl⟩ := Machine.guarded_taken taken
    exact consistent.setBoth a b ((accounted a).swap (accounted b))
  | reset sb =>
    obtain rfl := Option.some.inj taken
    exact consistent.set sb (accounted sb).reset

theorem InBounds.step_iff (inBounds : state.InBounds) (consistent : state.Consistent)
    {operation : Operation} (taken : state.step operation = some state') :
    state'.InBounds ↔ state.Fits operation := by
  have accounted := consistent.accounted
  have one : ∀ {sb : SliceBuffer} (address : Nat), sb.InBounds →
      ((state.set address sb).InBounds ↔ True) :=
    fun address kept => iff_of_true ((inBounds.set_iff address _).mpr kept) trivial
  have both : ∀ {changed : SliceBuffer × SliceBuffer} (a b : Nat),
      changed.1.InBounds ∧ changed.2.InBounds → ((state.setBoth a b changed).InBounds ↔ True) :=
    fun a b kept => iff_of_true (inBounds.setBoth a b kept) trivial
  cases operation with
  | add sb slice =>
    obtain rfl := Option.some.inj taken
    exact one sb ((inBounds sb).add (accounted sb).toSized slice)
  | addn sb slices =>
    obtain rfl := Option.some.inj taken
    exact one sb ((inBounds sb).addn (accounted sb) slices)
  | addIndexed sb slice =>
    obtain rfl := Option.some.inj taken
    exact one sb ((inBounds sb).addIndexed (accounted sb).toSized slice)
  | tinyAdd sb =>
    dsimp only [SliceBuffers.step] at taken
    split at taken
    · next small =>
        obtain rfl := Option.some.inj taken
        exact (inBounds.set_iff sb _).trans ((inBounds sb).tinyAdd_iff (accounted sb).toSized small)
    · contradiction
  | pop sb =>
    obtain rfl := Option.some.inj taken
    exact one sb (inBounds sb).pop
  | takeFirst sb =>
    obtain ⟨⟨slice, left⟩, done, rfl⟩ := Option.map_eq_some_iff.mp taken
    obtain ⟨slices, isFirst, rfl⟩ := SliceBuffer.takeFirst_eq_some done
    exact one sb ((inBounds sb).leaveFirst isFirst)
  | undoTakeFirst sb slice =>
    obtain ⟨isTaken, rfl⟩ := Option.ite_some_none_eq_some.mp taken
    exact one sb ((inBounds sb).undoTakeFirst (consistent.undoable sb isTaken) slice)
  | removeFirst sb =>
    obtain ⟨left, done, rfl⟩ := Option.map_eq_some_iff.mp taken
    exact one sb ((inBounds sb).removeFirst done)
  | subFirst sb =>
    obtain ⟨left, done, rfl⟩ := Option.map_eq_some_iff.mp taken
    exact one sb ((inBounds sb).subFirst done)
  | moveFirst src n dst | moveFirstNoRef src n dst =>
    obtain ⟨_, moves⟩ := Option.ite_none_left_eq_some.mp taken
    obtain ⟨moved, done, rfl⟩ := Option.map_eq_some_iff.mp moves
    exact both src dst
      ((inBounds src).moveFirst (inBounds dst) (accounted src) (accounted dst) done)
  | moveInto src dst =>
    obtain ⟨_, rfl⟩ := Machine.guarded_taken taken
    exact both src dst ((inBounds src).moveInto (inBounds dst) (accounted src) (accounted dst))
  | trimEnd =>
    obtain ⟨apart, trims⟩ := Option.ite_none_left_eq_some.mp taken
    exact inBounds.trimEnd_iff consistent apart trims
  | swap a b =>
    obtain ⟨_, rfl⟩ := Machine.guarded_taken taken
    exact both a b
      ((inBounds a).swap (inBounds b) (accounted a).toSized (accounted b).toSized)
  | reset sb =>
    obtain rfl := Option.some.inj taken
    exact one sb (inBounds sb).reset

/-- All buffers stay in their arrays in exactly the runs in which every operation fits. -/
theorem inBounds_iff_fits (operations : List Operation) (final : SliceBuffers) :
    Run step Fits init operations final ↔
      Reach step init operations final ∧
        ∀ done later, operations = done ++ later → ∀ middle, Reach step init done middle →
          middle.InBounds :=
  Run.iff_always (fun (consistent : Consistent _) taken => consistent.step taken)
    (fun consistent inBounds taken => inBounds.step_iff consistent taken)
    Consistent.init InBounds.init operations final

/-- Eight slices are taken from the front of an inlined array. The tiny slice that comes next is
written behind it. -/
theorem tiny_slice_behind_array :
    ¬ ∀ (operations : List Operation) (final : SliceBuffers),
      Reach step init operations final → final.InBounds := by
  intro always
  obtain ⟨final, reach, seen⟩ := exists_reach step init
    (List.replicate 8 (.addIndexed 0 (.refcounted [1])) ++ List.replicate 8 (.takeFirst 0) ++
      [.tinyAdd 0 [2]])
    (fun state => (state.buffers 0).outside) true (by decide)
  exact absurd (seen.symm.trans (always _ final reach 0).inside) (by decide)

end GrpcCore.SliceBuffers
