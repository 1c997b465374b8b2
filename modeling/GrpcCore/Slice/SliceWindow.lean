import GrpcCore.Slice.SliceBuffer

/-!
# The window of a slice buffer

`maybe_embiggen` leaves a slot behind the window, and all that append go through it but one: a tiny
slice is put into an empty buffer where the window happens to be.
-/

namespace GrpcCore.SliceBuffer

variable {sb : SliceBuffer}

/-- The array of a buffer can grow, and an array in the buffer has its fixed size. -/
structure Sized (sb : SliceBuffer) : Prop where
  room : 2 ≤ sb.capacity
  array : sb.inlined = true → sb.capacity = GRPC_SLICE_BUFFER_INLINE_ELEMENTS

structure HasRoom (sb : SliceBuffer) : Prop extends sb.InBounds where
  behind : sb.offset + sb.count < sb.capacity

theorem lt_grow {capacity : Nat} (room : 2 ≤ capacity) : capacity < grow capacity := by
  unfold grow
  omega

theorem Sized.init : SliceBuffer.init.Sized := ⟨by decide, fun _ => rfl⟩

theorem InBounds.init : SliceBuffer.init.InBounds := ⟨rfl, by decide⟩

theorem InBounds.writeBase (inBounds : sb.InBounds) {slots : Nat} (fits : slots ≤ sb.capacity) :
    (sb.writeBase slots).InBounds := by
  refine ⟨?_, inBounds.window⟩
  unfold SliceBuffer.writeBase
  rw [inBounds.inside, decide_eq_false (Nat.not_lt.mpr fits)]
  rfl

theorem InBounds.write (inBounds : sb.InBounds) {slot : Nat}
    (fits : sb.offset + slot < sb.capacity) : (sb.write slot).InBounds := by
  refine ⟨?_, inBounds.window⟩
  unfold SliceBuffer.write
  rw [inBounds.inside, decide_eq_false (Nat.not_le.mpr fits)]
  rfl

theorem InBounds.writeInlined (inBounds : sb.InBounds) {slots : Nat}
    (fits : slots ≤ GRPC_SLICE_BUFFER_INLINE_ELEMENTS) : (sb.writeInlined slots).InBounds := by
  refine ⟨?_, inBounds.window⟩
  unfold SliceBuffer.writeInlined
  rw [inBounds.inside, decide_eq_false (Nat.not_lt.mpr fits)]
  rfl

theorem Sized.doEmbiggen (sized : sb.Sized) (sliceCount : Nat) :
    (sb.doEmbiggen sliceCount).Sized := by
  unfold SliceBuffer.doEmbiggen
  split
  · exact ⟨sized.room, sized.array⟩
  · exact ⟨Nat.le_trans sized.room (Nat.le_of_lt (lt_grow sized.room)), nofun⟩

theorem Sized.maybeEmbiggen (sized : sb.Sized) : sb.maybeEmbiggen.Sized := by
  unfold SliceBuffer.maybeEmbiggen
  split
  · exact ⟨sized.room, sized.array⟩
  · split
    · exact sized.doEmbiggen _
    · exact sized

theorem InBounds.doEmbiggen (inBounds : sb.InBounds) (sized : sb.Sized)
    (full : sb.count + sb.offset = sb.capacity) :
    (sb.doEmbiggen (sb.count + sb.offset)).HasRoom := by
  unfold SliceBuffer.doEmbiggen
  split
  · next moved =>
      have fits : sb.count < sb.capacity := by omega
      have written := (inBounds.writeBase (Nat.le_of_lt fits)).inside
      refine { inside := written, window := ?_, behind := ?_ }
      · exact (Nat.zero_add _).trans_le (Nat.le_of_lt fits)
      · exact (Nat.zero_add _).trans_lt fits
  · have more := lt_grow sized.room
    have grown : ({ sb with
        inlined := false, capacity := grow sb.capacity } : SliceBuffer).InBounds :=
      ⟨inBounds.inside, Nat.le_trans inBounds.window (Nat.le_of_lt more)⟩
    have written := grown.writeBase (Nat.le_trans (Nat.le_of_eq full) (Nat.le_of_lt more))
    refine { written with behind := ?_ }
    exact Nat.lt_of_le_of_lt inBounds.window more

theorem InBounds.maybeEmbiggen (inBounds : sb.InBounds) (sized : sb.Sized) :
    sb.maybeEmbiggen.HasRoom := by
  unfold SliceBuffer.maybeEmbiggen
  split
  · next empty =>
      have behind : 0 + sb.count < sb.capacity := by
        have := sized.room
        omega
      exact { inside := inBounds.inside, window := Nat.le_of_lt behind, behind := behind }
  · split
    · next full => exact inBounds.doEmbiggen sized full
    · next some_ =>
        refine { inBounds with behind := Nat.lt_of_le_of_ne inBounds.window ?_ }
        rwa [Nat.add_comm]

@[simp] theorem slices_doEmbiggen (sliceCount : Nat) :
    (sb.doEmbiggen sliceCount).slices = sb.slices := by
  unfold doEmbiggen
  split <;> rfl

@[simp] theorem length_doEmbiggen (sliceCount : Nat) :
    (sb.doEmbiggen sliceCount).length = sb.length := by
  unfold doEmbiggen
  split <;> rfl

@[simp] theorem slices_maybeEmbiggen : sb.maybeEmbiggen.slices = sb.slices := by
  unfold maybeEmbiggen
  split
  · rfl
  · split
    · exact slices_doEmbiggen _
    · rfl

@[simp] theorem length_maybeEmbiggen : sb.maybeEmbiggen.length = sb.length := by
  unfold maybeEmbiggen
  split
  · rfl
  · split
    · exact length_doEmbiggen _
    · rfl

theorem count_push (slice : Slice) : (sb.push slice).count = sb.count + 1 := by
  exact List.length_append

theorem HasRoom.push (hasRoom : sb.HasRoom) (slice : Slice) : (sb.push slice).InBounds := by
  have written := hasRoom.toInBounds.write hasRoom.behind
  refine ⟨written.inside, ?_⟩
  rw [count_push]
  exact hasRoom.behind

theorem InBounds.push_iff (inBounds : sb.InBounds) (slice : Slice) :
    (sb.push slice).InBounds ↔ sb.offset + sb.count < sb.capacity := by
  constructor
  · intro pushed
    have window := pushed.window
    rw [count_push] at window
    exact window
  · exact fun behind => HasRoom.push { inBounds with behind := behind } slice

theorem count_setBack (some_ : sb.slices ≠ []) (slice : Slice) :
    (sb.setBack slice).count = sb.count := by
  have positive := List.length_pos_of_ne_nil some_
  have slices : (sb.setBack slice).slices = sb.slices.dropLast ++ [slice] := rfl
  unfold count
  rw [slices, List.length_append, List.length_dropLast, List.length_singleton]
  omega

theorem InBounds.setBack (inBounds : sb.InBounds) (some_ : sb.slices ≠ []) (slice : Slice) :
    (sb.setBack slice).InBounds := by
  have positive : 0 < sb.count := List.length_pos_of_ne_nil some_
  have window := inBounds.window
  have written : (sb.write (sb.count - 1)).InBounds := inBounds.write (by omega)
  refine ⟨written.inside, ?_⟩
  rw [count_setBack some_]
  exact window

/-- What a buffer keeps besides its window: it knows the bytes of its slices. -/
structure Accounted (sb : SliceBuffer) : Prop extends sb.Sized where
  total : sb.length = (sb.slices.map Slice.length).sum

theorem Accounted.init : SliceBuffer.init.Accounted := { Sized.init with total := rfl }

/-- The bytes of the slices. -/
def bytes (sb : SliceBuffer) : Nat := (sb.slices.map Slice.length).sum

@[simp] theorem bytes_maybeEmbiggen : sb.maybeEmbiggen.bytes = sb.bytes := by
  unfold bytes
  rw [slices_maybeEmbiggen]

theorem bytes_push (slice : Slice) : (sb.push slice).bytes = sb.bytes + slice.length := by
  have slices : (sb.push slice).slices = sb.slices ++ [slice] := rfl
  unfold bytes
  rw [slices, List.map_append, List.sum_append, List.map_singleton, List.sum_singleton]

theorem bytes_setBack {back : Slice} (isBack : sb.slices.getLast? = some back) (slice : Slice) :
    (sb.setBack slice).bytes + back.length = sb.bytes + slice.length := by
  have slices : (sb.setBack slice).slices = sb.slices.dropLast ++ [slice] := rfl
  have all := List.dropLast_append_getLast? back isBack
  unfold bytes
  rw [slices, ← all, List.dropLast_concat]
  simp only [List.map_append, List.sum_append, List.map_singleton, List.sum_singleton]
  omega

theorem ne_nil_of_back {back : Slice} (isBack : sb.slices.getLast? = some back) :
    sb.slices ≠ [] := by
  intro empty
  rw [empty] at isBack
  contradiction

theorem Sized.push (sized : sb.Sized) (slice : Slice) : (sb.push slice).Sized :=
  ⟨sized.room, sized.array⟩

theorem Sized.setBack (sized : sb.Sized) (slice : Slice) : (sb.setBack slice).Sized :=
  ⟨sized.room, sized.array⟩

theorem Accounted.addIndexed (accounted : sb.Accounted) (slice : Slice) :
    (sb.addIndexed slice).Accounted := by
  refine { accounted.toSized.maybeEmbiggen.push slice with total := ?_ }
  have total : sb.length = sb.bytes := accounted.total
  have bytes : (sb.addIndexed slice).bytes = sb.bytes + slice.length := by
    refine (bytes_push slice).trans ?_
    rw [bytes_maybeEmbiggen]
  have length : (sb.addIndexed slice).length = sb.length + slice.length :=
    congrArg (· + slice.length) length_maybeEmbiggen
  exact length.trans ((congrArg (· + slice.length) total).trans bytes.symm)

theorem InBounds.addIndexed (inBounds : sb.InBounds) (sized : sb.Sized) (slice : Slice) :
    (sb.addIndexed slice).InBounds := by
  have pushed := (inBounds.maybeEmbiggen sized).push slice
  exact ⟨pushed.inside, pushed.window⟩

variable {data : List UInt8}

theorem length_filled {back : List UInt8} (small : data.length ≤ GRPC_SLICE_INLINED_SIZE)
    (room : back.length ≤ GRPC_SLICE_INLINED_SIZE)
    (more : ¬(back ++ data).length ≤ GRPC_SLICE_INLINED_SIZE) :
    (Slice.filled back data room).length + (Slice.overflow back data small).length =
      back.length + data.length := by
  change (back ++ data.take _).length + (data.drop _).length = _
  rw [List.length_append, List.length_take, List.length_drop]
  omega

theorem Accounted.addInlined (accounted : sb.Accounted) {data back : List UInt8}
    (small : data.length ≤ GRPC_SLICE_INLINED_SIZE) (room : back.length ≤ GRPC_SLICE_INLINED_SIZE)
    (isBack : sb.slices.getLast? = some (.inlined back room)) :
    (sb.addInlined data back small room).Accounted := by
  have total : sb.length = sb.bytes := accounted.total
  have wasBack : (Slice.inlined back room).length = back.length := rfl
  unfold SliceBuffer.addInlined
  split
  · next fits =>
      have sized := accounted.toSized.setBack (.inlined (back ++ data) fits)
      refine { toSized := ⟨sized.room, sized.array⟩, total := ?_ }
      have bytes := bytes_setBack isBack (.inlined (back ++ data) fits)
      have joined : (Slice.inlined (back ++ data) fits).length = back.length + data.length :=
        List.length_append
      change sb.length + data.length = (sb.setBack (.inlined (back ++ data) fits)).bytes
      omega
  · next more =>
      have sized := ((accounted.toSized.setBack (Slice.filled back data room)).maybeEmbiggen.push
        (Slice.overflow back data small))
      refine { toSized := ⟨sized.room, sized.array⟩, total := ?_ }
      have bytes := bytes_setBack isBack (Slice.filled back data room)
      have both := length_filled small room more
      change (sb.setBack (Slice.filled back data room)).maybeEmbiggen.length + data.length =
        ((sb.setBack (Slice.filled back data room)).maybeEmbiggen.push
          (Slice.overflow back data small)).bytes
      rw [length_maybeEmbiggen, bytes_push, bytes_maybeEmbiggen]
      change sb.length + data.length = _
      omega

theorem InBounds.addInlined (inBounds : sb.InBounds) (sized : sb.Sized) {data back : List UInt8}
    (small : data.length ≤ GRPC_SLICE_INLINED_SIZE) (room : back.length ≤ GRPC_SLICE_INLINED_SIZE)
    (isBack : sb.slices.getLast? = some (.inlined back room)) :
    (sb.addInlined data back small room).InBounds := by
  have some_ := ne_nil_of_back isBack
  unfold SliceBuffer.addInlined
  split
  · next fits =>
      have joined := inBounds.setBack some_ (.inlined (back ++ data) fits)
      exact ⟨joined.inside, joined.window⟩
  · have full := inBounds.setBack some_ (Slice.filled back data room)
    have pushed := (full.maybeEmbiggen (sized.setBack _)).push (Slice.overflow back data small)
    exact ⟨pushed.inside, pushed.window⟩

theorem add_cases (sb : SliceBuffer) (slice : Slice) :
    sb.add slice = sb.addIndexed slice ∨
      ∃ (data back : List UInt8) (small : data.length ≤ GRPC_SLICE_INLINED_SIZE)
        (room : back.length ≤ GRPC_SLICE_INLINED_SIZE),
        sb.slices.getLast? = some (.inlined back room) ∧
          sb.add slice = sb.addInlined data back small room := by
  unfold add
  split
  · next data small back room isBack =>
      split
      · exact .inr ⟨data, back, small, room, isBack, rfl⟩
      · exact .inl rfl
  · exact .inl rfl

theorem Accounted.add (accounted : sb.Accounted) (slice : Slice) : (sb.add slice).Accounted := by
  rcases sb.add_cases slice with same | ⟨data, back, small, room, isBack, same⟩
  · rw [same]
    exact accounted.addIndexed slice
  · rw [same]
    exact accounted.addInlined small room isBack

theorem InBounds.add (inBounds : sb.InBounds) (sized : sb.Sized) (slice : Slice) :
    (sb.add slice).InBounds := by
  rcases sb.add_cases slice with same | ⟨data, back, small, room, isBack, same⟩
  · rw [same]
    exact inBounds.addIndexed sized slice
  · rw [same]
    exact inBounds.addInlined sized small room isBack

theorem Accounted.addn (accounted : sb.Accounted) (slices : List Slice) :
    (sb.addn slices).Accounted := by
  induction slices generalizing sb with
  | nil => exact accounted
  | cons slice slices ih => exact ih (accounted.add slice)

theorem InBounds.addn (inBounds : sb.InBounds) (accounted : sb.Accounted) (slices : List Slice) :
    (sb.addn slices).InBounds := by
  induction slices generalizing sb with
  | nil => exact inBounds
  | cons slice slices ih => exact ih (inBounds.add accounted.toSized slice) (accounted.add slice)

theorem Accounted.tinyAdd (accounted : sb.Accounted) {data : List UInt8}
    (small : data.length ≤ GRPC_SLICE_INLINED_SIZE) : (sb.tinyAdd data small).Accounted := by
  have total : sb.length = sb.bytes := accounted.total
  have sized : (sb.addLength data.length).Sized := ⟨accounted.room, accounted.array⟩
  have pushed : ∀ {sb' : SliceBuffer}, sb'.length = sb.length + data.length →
      sb'.bytes = sb.bytes → (sb'.push (.inlined data small)).length =
        (sb'.push (.inlined data small)).bytes := by
    intro sb' length bytes
    rw [bytes_push, bytes, ← total]
    exact length
  unfold SliceBuffer.tinyAdd
  dsimp only
  split
  · exact { sized.push _ with total := pushed rfl rfl }
  · refine { sized.maybeEmbiggen.push _ with total := pushed ?_ ?_ }
    · exact length_maybeEmbiggen
    · exact bytes_maybeEmbiggen
  · next back room isBack =>
      split
      · next fits =>
          refine { sized.setBack _ with total := ?_ }
          have isBack : sb.slices.getLast? = some (.inlined back room) := isBack
          have bytes := bytes_setBack isBack (.inlined (back ++ data) fits)
          have joined : (Slice.inlined (back ++ data) fits).length = back.length + data.length :=
            List.length_append
          have wasBack : (Slice.inlined back room).length = back.length := rfl
          change sb.length + data.length = (sb.setBack (.inlined (back ++ data) fits)).bytes
          omega
      · refine { sized.maybeEmbiggen.push _ with total := pushed ?_ ?_ }
        · exact length_maybeEmbiggen
        · exact bytes_maybeEmbiggen

theorem InBounds.tinyAdd_iff (inBounds : sb.InBounds) (sized : sb.Sized)
    (small : data.length ≤ GRPC_SLICE_INLINED_SIZE) :
    (sb.tinyAdd data small).InBounds ↔ (sb.count = 0 → sb.offset < sb.capacity) := by
  have inBounds' : (sb.addLength data.length).InBounds := ⟨inBounds.inside, inBounds.window⟩
  have sized' : (sb.addLength data.length).Sized := ⟨sized.room, sized.array⟩
  have some_ : ∀ {back}, sb.slices.getLast? = some back → sb.count ≠ 0 := fun isBack =>
    Nat.ne_of_gt (List.length_pos_of_ne_nil (ne_nil_of_back isBack))
  unfold SliceBuffer.tinyAdd
  dsimp only
  split
  · next isNone =>
      have empty : sb.count = 0 := congrArg List.length (List.getLast?_eq_none_iff.mp isNone)
      rw [inBounds'.push_iff]
      change sb.offset + sb.count < sb.capacity ↔ _
      rw [empty]
      exact ⟨fun behind _ => behind, fun behind => behind rfl⟩
  · next isBack =>
      refine iff_of_true ?_ fun empty => absurd empty (some_ isBack)
      exact (inBounds'.maybeEmbiggen sized').push _
  · next isBack =>
      refine iff_of_true ?_ fun empty => absurd empty (some_ isBack)
      split
      · exact inBounds'.setBack (ne_nil_of_back isBack) _
      · exact (inBounds'.maybeEmbiggen sized').push _

theorem Accounted.pop (accounted : sb.Accounted) : sb.pop.Accounted := by
  unfold SliceBuffer.pop
  split
  · exact accounted
  · next slice isBack =>
      refine { room := accounted.room, array := accounted.array, total := ?_ }
      have total := accounted.total
      rw [← List.dropLast_append_getLast? slice isBack, List.map_append, List.sum_append,
        List.map_singleton, List.sum_singleton] at total
      exact Nat.sub_eq_of_eq_add total

theorem InBounds.pop (inBounds : sb.InBounds) : sb.pop.InBounds := by
  unfold SliceBuffer.pop
  split
  · exact inBounds
  · refine ⟨inBounds.inside, Nat.le_trans (Nat.add_le_add_left ?_ _) inBounds.window⟩
    exact (List.length_dropLast ..).trans_le (Nat.sub_le ..)

theorem Accounted.reset (accounted : sb.Accounted) : sb.reset.Accounted :=
  ⟨⟨accounted.room, accounted.array⟩, rfl⟩

theorem InBounds.reset (inBounds : sb.InBounds) : sb.reset.InBounds :=
  ⟨inBounds.inside, Nat.zero_le _⟩

variable {a b : SliceBuffer}

theorem swap_cases (a b : SliceBuffer) :
    ((swap a b).1 = { b with outside := a.outside } ∨
        b.inlined = true ∧
          (swap a b).1 = ({ b with outside := a.outside } : SliceBuffer).writeInlined
            (b.count + b.offset)) ∧
      ((swap a b).2 = { a with outside := b.outside } ∨
        a.inlined = true ∧
          (swap a b).2 = ({ a with outside := b.outside } : SliceBuffer).writeInlined
            (a.count + a.offset)) := by
  unfold swap
  cases isA : a.inlined with
  | true =>
    cases isB : b.inlined with
    | true => exact ⟨.inr ⟨rfl, rfl⟩, .inr ⟨rfl, rfl⟩⟩
    | false => exact ⟨.inl rfl, .inr ⟨rfl, rfl⟩⟩
  | false =>
    cases isB : b.inlined with
    | true => exact ⟨.inr ⟨rfl, rfl⟩, .inl rfl⟩
    | false => exact ⟨.inl rfl, .inl rfl⟩

theorem Accounted.swap (first : a.Accounted) (second : b.Accounted) :
    (SliceBuffer.swap a b).1.Accounted ∧ (SliceBuffer.swap a b).2.Accounted := by
  obtain ⟨left, right⟩ := swap_cases a b
  constructor
  · rcases left with same | ⟨_, same⟩
    · exact same ▸ ⟨⟨second.room, second.array⟩, second.total⟩
    · exact same ▸ ⟨⟨second.room, second.array⟩, second.total⟩
  · rcases right with same | ⟨_, same⟩
    · exact same ▸ ⟨⟨first.room, first.array⟩, first.total⟩
    · exact same ▸ ⟨⟨first.room, first.array⟩, first.total⟩

theorem InBounds.swap (first : a.InBounds) (second : b.InBounds) (sized : a.Sized)
    (sized' : b.Sized) :
    (SliceBuffer.swap a b).1.InBounds ∧ (SliceBuffer.swap a b).2.InBounds := by
  obtain ⟨left, right⟩ := swap_cases a b
  have moved : ({ b with outside := a.outside } : SliceBuffer).InBounds :=
    ⟨first.inside, second.window⟩
  have moved' : ({ a with outside := b.outside } : SliceBuffer).InBounds :=
    ⟨second.inside, first.window⟩
  constructor
  · rcases left with same | ⟨isInlined, same⟩
    · exact same ▸ moved
    · refine same ▸ moved.writeInlined ?_
      rw [← sized'.array isInlined, Nat.add_comm]
      exact second.window
  · rcases right with same | ⟨isInlined, same⟩
    · exact same ▸ moved'
    · refine same ▸ moved'.writeInlined ?_
      rw [← sized.array isInlined, Nat.add_comm]
      exact first.window

theorem Accounted.moveInto (first : a.Accounted) (second : b.Accounted) :
    (SliceBuffer.moveInto a b).1.Accounted ∧ (SliceBuffer.moveInto a b).2.Accounted := by
  unfold SliceBuffer.moveInto
  split
  · exact ⟨first, second⟩
  · split
    · exact first.swap second
    · exact ⟨⟨⟨first.room, first.array⟩, rfl⟩, second.addn a.slices⟩

theorem InBounds.moveInto (first : a.InBounds) (second : b.InBounds) (accounted : a.Accounted)
    (accounted' : b.Accounted) :
    (SliceBuffer.moveInto a b).1.InBounds ∧ (SliceBuffer.moveInto a b).2.InBounds := by
  unfold SliceBuffer.moveInto
  split
  · exact ⟨first, second⟩
  · split
    · exact first.swap second accounted.toSized accounted'.toSized
    · refine ⟨⟨first.inside, ?_⟩, second.addn accounted' a.slices⟩
      exact Nat.le_trans (Nat.le_add_right ..) first.window

def leaveFirst (sb : SliceBuffer) (slice : Slice) (slices : List Slice) : SliceBuffer :=
  ({ sb with front := sb.front ++ [slice], slices := slices } : SliceBuffer).subLength slice.length

variable {slice : Slice} {slices : List Slice}

theorem Accounted.leaveFirst (accounted : sb.Accounted) (isFirst : sb.slices = slice :: slices) :
    (sb.leaveFirst slice slices).Accounted := by
  refine ⟨⟨accounted.room, accounted.array⟩, ?_⟩
  have total := accounted.total
  rw [isFirst, List.map_cons, List.sum_cons, Nat.add_comm] at total
  exact Nat.sub_eq_of_eq_add total

theorem InBounds.leaveFirst (inBounds : sb.InBounds) (isFirst : sb.slices = slice :: slices) :
    (sb.leaveFirst slice slices).InBounds := by
  refine ⟨inBounds.inside, ?_⟩
  have window := inBounds.window
  unfold offset count at window
  rw [isFirst, List.length_cons] at window
  change (sb.front ++ [slice]).length + slices.length ≤ sb.capacity
  rw [List.length_append, List.length_singleton]
  omega

variable {left : SliceBuffer}

theorem takeFirst_eq_some (taken : sb.takeFirst = some (slice, left)) :
    ∃ slices, sb.slices = slice :: slices ∧ left = sb.leaveFirst slice slices := by
  unfold takeFirst at taken
  split at taken
  · contradiction
  · next first slices isFirst =>
      obtain ⟨rfl, rfl⟩ := Prod.mk.inj (Option.some.inj taken)
      exact ⟨slices, isFirst, rfl⟩

theorem Accounted.removeFirst (accounted : sb.Accounted) (removed : sb.removeFirst = some left) :
    left.Accounted := by
  unfold SliceBuffer.removeFirst at removed
  split at removed
  · contradiction
  · next isFirst =>
      obtain rfl := Option.some.inj removed
      have after := accounted.leaveFirst isFirst
      exact ⟨⟨after.room, after.array⟩, after.total⟩

theorem InBounds.removeFirst (inBounds : sb.InBounds) (removed : sb.removeFirst = some left) :
    left.InBounds := by
  unfold SliceBuffer.removeFirst at removed
  split at removed
  · contradiction
  · next slice slices isFirst =>
      obtain rfl := Option.some.inj removed
      have after := inBounds.leaveFirst isFirst
      refine ⟨after.inside, ?_⟩
      by_cases last : slices = []
      · subst last
        exact Nat.zero_le _
      · rw [if_neg last]
        exact after.window

theorem Accounted.subFirst (accounted : sb.Accounted) {begin_ end_ : Nat}
    (cut : sb.subFirst begin_ end_ = some left) : left.Accounted := by
  unfold SliceBuffer.subFirst at cut
  split at cut
  · contradiction
  · next slice slices isFirst =>
      obtain ⟨within, rfl⟩ := Option.ite_some_none_eq_some.mp cut
      refine ⟨⟨accounted.room, accounted.array⟩, ?_⟩
      have total := accounted.total
      rw [isFirst, List.map_cons, List.sum_cons] at total
      have part : (slice.sub begin_ end_).length = end_ - begin_ := by
        have bytes : (slice.sub begin_ end_).bytes = (slice.bytes.take end_).drop begin_ := by
          cases slice <;> rfl
        unfold Slice.length at within ⊢
        rw [bytes, List.length_drop, List.length_take, Nat.min_eq_left within.2]
      change sb.length - slice.length + (end_ - begin_) =
        ((slice.sub begin_ end_ :: slices).map Slice.length).sum
      rw [List.map_cons, List.sum_cons, part]
      omega

theorem InBounds.subFirst (inBounds : sb.InBounds) {begin_ end_ : Nat}
    (cut : sb.subFirst begin_ end_ = some left) : left.InBounds := by
  unfold SliceBuffer.subFirst at cut
  split at cut
  · contradiction
  · next slice slices isFirst =>
      obtain ⟨within, rfl⟩ := Option.ite_some_none_eq_some.mp cut
      have window := inBounds.window
      unfold offset count at window
      rw [isFirst, List.length_cons] at window
      have changed : ((({ sb with slices := slice.sub begin_ end_ :: slices } :
          SliceBuffer).subLength slice.length).addLength (end_ - begin_)).InBounds :=
        ⟨inBounds.inside, window⟩
      exact changed.write (Nat.lt_of_lt_of_le (Nat.add_lt_add_left (Nat.succ_pos _) _) window)

theorem Accounted.undoTakeFirst (accounted : sb.Accounted) (slice : Slice) :
    (sb.undoTakeFirst slice).Accounted := by
  refine ⟨⟨accounted.room, accounted.array⟩, ?_⟩
  have total := accounted.total
  change sb.length + slice.length = ((slice :: sb.slices).map Slice.length).sum
  rw [List.map_cons, List.sum_cons, total, Nat.add_comm]

theorem InBounds.undoTakeFirst (inBounds : sb.InBounds) (taken : sb.front ≠ []) (slice : Slice) :
    (sb.undoTakeFirst slice).InBounds := by
  have window := inBounds.window
  have positive := List.length_pos_of_ne_nil taken
  unfold offset count at window
  constructor
  · change (sb.outside || decide (sb.offset = 0 ∨ sb.capacity ≤ sb.offset - 1)) = false
    rw [inBounds.inside, decide_eq_false]
    · rfl
    · unfold offset
      omega
  · change sb.front.dropLast.length + (slice :: sb.slices).length ≤ sb.capacity
    rw [List.length_dropLast, List.length_cons]
    omega

variable {n : Nat}

theorem Accounted.moveFirstLoop (refWhom : Slice.RefWhom) {slices : List Slice}
    {src dst : SliceBuffer} (isSlices : src.slices = slices) (first : src.Accounted)
    (second : dst.Accounted) : (SliceBuffer.moveFirstLoop refWhom slices n src dst).1.Accounted ∧
      (SliceBuffer.moveFirstLoop refWhom slices n src dst).2.Accounted := by
  induction slices generalizing n src dst with
  | nil => exact ⟨first, second⟩
  | cons slice slices ih =>
    have left := first.leaveFirst isSlices
    unfold SliceBuffer.moveFirstLoop
    split
    · exact ih rfl left (second.add slice)
    · split
      · exact ⟨left, second.add slice⟩
      · refine ⟨left.undoTakeFirst _, ?_⟩
        cases refWhom with
        | both => exact second.add _
        | tail => exact second.addIndexed _

theorem InBounds.moveFirstLoop (refWhom : Slice.RefWhom) {slices : List Slice}
    {src dst : SliceBuffer} (isSlices : src.slices = slices) (first : src.InBounds)
    (second : dst.InBounds) (accounted : dst.Accounted) :
    (SliceBuffer.moveFirstLoop refWhom slices n src dst).1.InBounds ∧
      (SliceBuffer.moveFirstLoop refWhom slices n src dst).2.InBounds := by
  induction slices generalizing n src dst with
  | nil => exact ⟨first, second⟩
  | cons slice slices ih =>
    have left := first.leaveFirst isSlices
    have added := second.add accounted.toSized slice
    unfold SliceBuffer.moveFirstLoop
    split
    · exact ih rfl left added (accounted.add slice)
    · split
      · exact ⟨left, added⟩
      · have taken : (src.leaveFirst slice slices).front ≠ [] :=
          List.append_ne_nil_of_right_ne_nil _ (List.cons_ne_nil _ _)
        refine ⟨left.undoTakeFirst taken _, ?_⟩
        cases refWhom with
        | both => exact second.add accounted.toSized _
        | tail => exact second.addIndexed accounted.toSized _

variable {moved : SliceBuffer × SliceBuffer} {refWhom : Slice.RefWhom} {n : Nat}

theorem moveFirst_cases (taken : moveFirst refWhom a n b = some moved) :
    moved = moveInto a b ∨ moved = moveFirstLoop refWhom a.slices n a b := by
  unfold moveFirst at taken
  split at taken
  · contradiction
  · split at taken
    · exact .inl (Option.some.inj taken).symm
    · exact .inr (Option.some.inj (Option.ite_none_right_eq_some.mp taken).2).symm

theorem Accounted.moveFirst (first : a.Accounted) (second : b.Accounted)
    (taken : SliceBuffer.moveFirst refWhom a n b = some moved) :
    moved.1.Accounted ∧ moved.2.Accounted := by
  rcases moveFirst_cases taken with rfl | rfl
  · exact first.moveInto second
  · exact Accounted.moveFirstLoop refWhom rfl first second

theorem InBounds.moveFirst (first : a.InBounds) (second : b.InBounds) (accounted : a.Accounted)
    (accounted' : b.Accounted) (taken : SliceBuffer.moveFirst refWhom a n b = some moved) :
    moved.1.InBounds ∧ moved.2.InBounds := by
  rcases moveFirst_cases taken with rfl | rfl
  · exact first.moveInto second accounted accounted'
  · exact InBounds.moveFirstLoop refWhom rfl first second accounted'

def Garbage (holds : SliceBuffer → Prop) (garbage : Option SliceBuffer) : Prop :=
  ∀ sb, garbage = some sb → holds sb

/-- A buffer of which the window and the accounts are right. -/
structure Kept (sb : SliceBuffer) : Prop extends sb.InBounds, sb.Accounted

variable {garbage : Option SliceBuffer}

theorem Garbage.discard_accounted (kept : Garbage Accounted garbage) (slice : Slice) :
    Garbage Accounted (discard garbage slice) := by
  intro sb isGarbage
  obtain ⟨old, isOld, rfl⟩ := Option.map_eq_some_iff.mp isGarbage
  exact (kept old isOld).addIndexed slice

theorem Garbage.discard_kept (kept : Garbage Kept garbage) (slice : Slice) :
    Garbage Kept (discard garbage slice) := by
  intro sb isGarbage
  obtain ⟨old, isOld, rfl⟩ := Option.map_eq_some_iff.mp isGarbage
  have before := kept old isOld
  exact {
    toInBounds := before.toInBounds.addIndexed before.toSized slice
    toAccounted := before.toAccounted.addIndexed slice }

variable {garbage : Option SliceBuffer} {reversed : List Slice}

theorem Garbage.trimEndLoop {holds : SliceBuffer → Prop}
    (added : ∀ {garbage}, Garbage holds garbage → ∀ slice, Garbage holds (discard garbage slice))
    {sb : SliceBuffer} (kept : Garbage holds garbage) :
    Garbage holds (SliceBuffer.trimEndLoop reversed n sb garbage).2 := by
  induction reversed generalizing n sb garbage with
  | nil =>
    unfold SliceBuffer.trimEndLoop trimFront
    split
    · exact kept
    · split
      · exact added kept _
      · exact added kept _
  | cons slice before ih =>
    unfold SliceBuffer.trimEndLoop
    split
    · exact added kept _
    · split
      · exact added kept _
      · exact ih (added kept _)

theorem length_splitHead (slice : Slice) (split : Nat) :
    (slice.splitHead split).1.length = min split slice.length := by
  unfold Slice.length
  rw [(slice.bytes_splitHead split).1, List.length_take]

variable {before : List Slice}

theorem bytes_dropBack (isSlices : sb.slices = (slice :: before).reverse) :
    ({ sb with slices := before.reverse } : SliceBuffer).bytes + slice.length = sb.bytes := by
  unfold bytes
  rw [isSlices, List.reverse_cons, List.map_append, List.sum_append, List.map_singleton,
    List.sum_singleton]

theorem getLast_reverse (isSlices : sb.slices = (slice :: before).reverse) :
    sb.slices.getLast? = some slice := by
  rw [isSlices, List.reverse_cons, List.getLast?_concat]

theorem Sized.trimEndLoop (sized : sb.Sized) (isSlices : sb.slices = reversed.reverse)
    (owed : sb.length + n = sb.bytes) :
    (SliceBuffer.trimEndLoop reversed n sb garbage).1.Accounted := by
  induction reversed generalizing n sb garbage with
  | nil =>
    have none : sb.bytes = 0 := by
      unfold bytes
      rw [isSlices]
      rfl
    have total : sb.length = sb.bytes := by omega
    unfold SliceBuffer.trimEndLoop trimFront
    split
    · exact ⟨⟨sized.room, sized.array⟩, total⟩
    · split
      · exact ⟨⟨sized.room, sized.array⟩, total⟩
      · exact ⟨⟨sized.room, sized.array⟩, total⟩
  | cons slice before ih =>
    have left := bytes_dropBack isSlices
    unfold SliceBuffer.trimEndLoop
    split
    · next part =>
        refine { sized.setBack _ with total := ?_ }
        have bytes := bytes_setBack (getLast_reverse isSlices)
          (slice.splitHead (slice.length - n)).1
        rw [length_splitHead, Nat.min_eq_left (Nat.sub_le ..)] at bytes
        change sb.length = (sb.setBack (slice.splitHead (slice.length - n)).1).bytes
        omega
    · split
      · refine ⟨⟨sized.room, sized.array⟩, ?_⟩
        change sb.length = ({ sb with slices := before.reverse } : SliceBuffer).bytes
        omega
      · have sized' : ({ sb with slices := before.reverse } : SliceBuffer).Sized :=
          ⟨sized.room, sized.array⟩
        refine ih sized' rfl ?_
        change sb.length + (n - slice.length) = _
        omega

theorem InBounds.trimEndLoop (inBounds : sb.InBounds) (isSlices : sb.slices = reversed.reverse)
    (owed : sb.length + n = sb.bytes) (some_ : reversed ≠ []) :
    (SliceBuffer.trimEndLoop reversed n sb garbage).1.InBounds := by
  induction reversed generalizing n sb garbage with
  | nil => contradiction
  | cons slice before ih =>
    have left := bytes_dropBack isSlices
    have window := inBounds.window
    unfold offset count at window
    rw [isSlices, List.length_reverse, List.length_cons] at window
    have shorter : ({ sb with slices := before.reverse } : SliceBuffer).InBounds := by
      refine ⟨inBounds.inside, ?_⟩
      change sb.front.length + before.reverse.length ≤ sb.capacity
      rw [List.length_reverse]
      omega
    unfold SliceBuffer.trimEndLoop
    split
    · exact inBounds.setBack (ne_nil_of_back (getLast_reverse isSlices)) _
    · split
      · exact shorter
      · next part all =>
          refine ih shorter rfl ?_ ?_
          · change sb.length + (n - slice.length) = _
            omega
          · rintro rfl
            have none : ({ sb with slices := ([] : List Slice).reverse } : SliceBuffer).bytes = 0 :=
              rfl
            omega

theorem InBounds.trimFront_iff (inBounds : sb.InBounds) (garbage : Option SliceBuffer) :
    (sb.trimFront 0 garbage).1.InBounds ↔
      ∃ slice, sb.front.getLast? = some slice ∧ slice.length ≠ 0 := by
  unfold trimFront
  split
  · next isNone =>
      refine iff_of_false (fun outside => nomatch outside.inside) ?_
      rintro ⟨slice, isSome, _⟩
      cases isNone.symm.trans isSome
  · next slice isLast =>
      split
      · next part =>
          refine iff_of_true ⟨inBounds.inside, ?_⟩ ⟨slice, isLast, Nat.ne_of_gt part⟩
          have positive : 0 < sb.front.length :=
            List.length_pos_of_ne_nil fun empty => by
              rw [empty] at isLast
              contradiction
          have same : (sb.front.dropLast ++ [(slice.splitHead (slice.length - 0)).1]).length =
              sb.front.length := by
            rw [List.length_append, List.length_dropLast, List.length_singleton]
            omega
          change (sb.front.dropLast ++ _).length + sb.slices.length ≤ sb.capacity
          rw [same]
          exact inBounds.window
      · next empty =>
          refine iff_of_false (fun outside => nomatch outside.inside) ?_
          rintro ⟨other, isOther, bytes⟩
          obtain rfl := Option.mem_unique isLast isOther
          exact empty (Nat.pos_of_ne_zero bytes)

variable {trimmed : SliceBuffer × Option SliceBuffer}

theorem Accounted.trimEnd (accounted : sb.Accounted) (taken : sb.trimEnd n garbage = some trimmed) :
    trimmed.1.Accounted := by
  obtain ⟨within, rfl⟩ := Option.ite_some_none_eq_some.mp taken
  have sized : (sb.subLength n).Sized := ⟨accounted.room, accounted.array⟩
  refine sized.trimEndLoop (List.reverse_reverse _).symm ?_
  exact (Nat.sub_add_cancel within).trans accounted.total

theorem InBounds.trimEnd_iff (inBounds : sb.InBounds) (accounted : sb.Accounted)
    (taken : sb.trimEnd n garbage = some trimmed) :
    trimmed.1.InBounds ↔ (sb.count = 0 →
      ∃ slice, sb.front.getLast? = some slice ∧ slice.length ≠ 0) := by
  obtain ⟨within, rfl⟩ := Option.ite_some_none_eq_some.mp taken
  have inBounds' : (sb.subLength n).InBounds := ⟨inBounds.inside, inBounds.window⟩
  have owed : (sb.subLength n).length + n = (sb.subLength n).bytes :=
    (Nat.sub_add_cancel within).trans accounted.total
  by_cases empty : sb.slices = []
  · have none : sb.length = 0 := by
      rw [accounted.total, empty]
      rfl
    obtain rfl : n = 0 := Nat.le_zero.mp (none ▸ within)
    have isEmpty : sb.count = 0 := congrArg List.length empty
    rw [empty]
    exact (inBounds'.trimFront_iff garbage).trans ⟨fun left _ => left, fun left => left isEmpty⟩
  · refine iff_of_true ?_ fun isEmpty => absurd (List.length_eq_zero_iff.mp isEmpty) empty
    exact inBounds'.trimEndLoop (List.reverse_reverse _).symm owed
      fun reversed => empty (List.reverse_eq_nil_iff.mp reversed)

end GrpcCore.SliceBuffer
