import GrpcCore.Slice.SliceWindow

/-!
# The content of a slice buffer

Whatever is added to a buffer comes behind all its bytes. Only the slice at the back may
change, and it only grows.
-/

namespace GrpcCore.SliceBuffer

def contentOf (slices : List Slice) : List UInt8 := slices.flatMap Slice.bytes

@[simp] theorem contentOf_nil : contentOf [] = [] := rfl

@[simp] theorem contentOf_cons (slice : Slice) (slices : List Slice) :
    contentOf (slice :: slices) = slice.bytes ++ contentOf slices := rfl

@[simp] theorem contentOf_append (slices slices' : List Slice) :
    contentOf (slices ++ slices') = contentOf slices ++ contentOf slices' :=
  List.flatMap_append

/-- The bytes of the slices, in order. -/
def content (sb : SliceBuffer) : List UInt8 := contentOf sb.slices

theorem slices_push (sb : SliceBuffer) (slice : Slice) :
    (sb.push slice).slices = sb.slices ++ [slice] := rfl

theorem slices_addIndexed (sb : SliceBuffer) (slice : Slice) :
    (sb.addIndexed slice).slices = sb.slices ++ [slice] := by
  change sb.maybeEmbiggen.slices ++ [slice] = _
  rw [slices_maybeEmbiggen]

theorem length_addIndexed (sb : SliceBuffer) (slice : Slice) :
    (sb.addIndexed slice).length = sb.length + slice.length := by
  change sb.maybeEmbiggen.length + slice.length = _
  rw [length_maybeEmbiggen]

/-- The bytes `data` come behind the slice at the back, which may take the first of them. -/
structure Appends (sb sb' : SliceBuffer) (data : List UInt8) : Prop where
  length : sb'.length = sb.length + data.length
  back : ∀ front last, sb.slices = front ++ [last] → ∃ grown new more,
    sb'.slices = front ++ grown :: new ∧ grown.bytes = last.bytes ++ more ∧
      data = more ++ contentOf new

variable {sb sb' : SliceBuffer} {data : List UInt8}

theorem Appends.behind (appends : Appends sb sb' data) {front rest : List Slice} {slice : Slice}
    (slices : sb.slices = front ++ slice :: rest) : ∃ grown rest',
      sb'.slices = front ++ grown :: rest' ∧ slice.bytes <+: grown.bytes ∧
        contentOf (grown :: rest') = contentOf (slice :: rest) ++ data := by
  cases List.eq_nil_or_concat rest with
  | inl empty =>
    rw [empty] at slices
    obtain ⟨grown, new, more, slices', bytes, split⟩ := appends.back front slice slices
    refine ⟨grown, new, slices', ⟨more, bytes.symm⟩, ?_⟩
    rw [empty, contentOf_cons, contentOf_cons, bytes, split, contentOf_nil, List.append_nil,
      List.append_assoc]
  | inr concat =>
    obtain ⟨middle, last, concat⟩ := concat
    rw [concat, List.concat_eq_append, ← List.cons_append, ← List.append_assoc] at slices
    obtain ⟨grown, new, more, slices', bytes, split⟩ :=
      appends.back (front ++ slice :: middle) last slices
    refine ⟨slice, middle ++ grown :: new, ?_, List.prefix_rfl, ?_⟩
    · rw [slices', List.append_assoc, List.cons_append]
    · rw [concat, List.concat_eq_append]
      simp only [contentOf_cons, contentOf_append, contentOf_nil, List.append_nil,
        List.append_assoc, bytes, split]

theorem Appends.content (appends : Appends sb sb' data) (filled : sb.slices ≠ []) :
    sb'.content = sb.content ++ data := by
  cases slices : sb.slices with
  | nil => exact absurd slices filled
  | cons slice rest =>
    have here : sb.slices = [] ++ slice :: rest := slices
    obtain ⟨grown, rest', slices', _, content⟩ := appends.behind here
    rw [SliceBuffer.content, SliceBuffer.content, slices, slices']
    exact content

theorem appends_addIndexed (sb : SliceBuffer) (slice : Slice) :
    Appends sb (sb.addIndexed slice) slice.bytes where
  length := length_addIndexed sb slice
  back front last slices := by
    refine ⟨last, [slice], [], ?_, (List.append_nil _).symm, ?_⟩
    · rw [slices_addIndexed, slices, List.append_assoc]
      rfl
    · rw [contentOf_cons, contentOf_nil, List.append_nil, List.nil_append]

theorem appends_setBack {back data : List UInt8} {room : back.length ≤ GRPC_SLICE_INLINED_SIZE}
    (isBack : sb.slices.getLast? = some (.inlined back room))
    (fits : (back ++ data).length ≤ GRPC_SLICE_INLINED_SIZE) {front : List Slice} {last : Slice}
    (slices : sb.slices = front ++ [last]) :
    (sb.setBack (.inlined (back ++ data) fits)).slices =
        front ++ [.inlined (back ++ data) fits] ∧ last.bytes = back := by
  have set : (sb.setBack (.inlined (back ++ data) fits)).slices =
      sb.slices.dropLast ++ [.inlined (back ++ data) fits] := rfl
  rw [slices, List.getLast?_concat] at isBack
  rw [set, slices, List.dropLast_concat, Option.some.inj isBack]
  exact ⟨rfl, rfl⟩

theorem appends_addInlined {back : List UInt8} (small : data.length ≤ GRPC_SLICE_INLINED_SIZE)
    (room : back.length ≤ GRPC_SLICE_INLINED_SIZE)
    (isBack : sb.slices.getLast? = some (.inlined back room)) :
    Appends sb (sb.addInlined data back small room) data := by
  unfold addInlined
  split
  next fits =>
    refine ⟨rfl, fun front last slices => ?_⟩
    obtain ⟨slices', bytes⟩ := appends_setBack isBack fits slices
    refine ⟨.inlined (back ++ data) fits, [], data, slices', ?_, (List.append_nil data).symm⟩
    rw [bytes]
    rfl
  next =>
    refine ⟨congrArg (· + data.length) length_maybeEmbiggen, fun front last slices => ?_⟩
    have set : (sb.setBack (Slice.filled back data room)).slices =
        sb.slices.dropLast ++ [Slice.filled back data room] := rfl
    rw [slices, List.getLast?_concat] at isBack
    refine ⟨Slice.filled back data room, [Slice.overflow back data small],
      data.take (GRPC_SLICE_INLINED_SIZE - back.length), ?_, ?_, ?_⟩
    · change (sb.setBack _).maybeEmbiggen.slices ++ [Slice.overflow back data small] = _
      rw [slices_maybeEmbiggen, set, slices, List.dropLast_concat, List.append_assoc]
      rfl
    · rw [Option.some.inj isBack]
      rfl
    · rw [contentOf_cons, contentOf_nil, List.append_nil]
      exact (List.take_append_drop _ data).symm

theorem appends_add (sb : SliceBuffer) (slice : Slice) : Appends sb (sb.add slice) slice.bytes := by
  unfold add
  split
  next data small back room isBack =>
    split
    · exact appends_addInlined small room isBack
    · exact appends_addIndexed sb _
  next => exact appends_addIndexed sb _

theorem appends_tinyAdd (sb : SliceBuffer) (small : data.length ≤ GRPC_SLICE_INLINED_SIZE) :
    Appends sb (sb.tinyAdd data small) data := by
  have pushed {sb' : SliceBuffer} (length : sb'.length = sb.length + data.length)
      (same : sb'.slices = sb.slices) : Appends sb (sb'.push (.inlined data small)) data := by
    refine ⟨length, fun front last slices => ?_⟩
    refine ⟨last, [.inlined data small], [], ?_, (List.append_nil _).symm, ?_⟩
    · rw [slices_push, same, slices, List.append_assoc]
      rfl
    · exact (List.append_nil data).symm
  unfold tinyAdd
  dsimp only
  split
  next => exact pushed rfl rfl
  next => exact pushed length_maybeEmbiggen slices_maybeEmbiggen
  next back room isBack =>
    split
    next fits =>
      refine ⟨rfl, fun front last slices => ?_⟩
      obtain ⟨slices', bytes⟩ := appends_setBack isBack fits slices
      refine ⟨.inlined (back ++ data) fits, [], data, slices', ?_, (List.append_nil data).symm⟩
      rw [bytes]
      rfl
    next => exact pushed length_maybeEmbiggen slices_maybeEmbiggen

end GrpcCore.SliceBuffer
