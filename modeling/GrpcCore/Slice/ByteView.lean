import GrpcCore.Slice.SliceContent

/-!
# Slice buffers as strings of bytes

The operations on slice buffers do to the bytes of the buffers what their names say, however
the bytes are cut into slices.
-/

namespace GrpcCore.SliceBuffer

variable {sb src dst : SliceBuffer}

theorem Accounted.length_content (accounted : sb.Accounted) : sb.length = sb.content.length := by
  rw [accounted.total, content, contentOf, List.length_flatMap]
  rfl

variable {slices : List Slice}

theorem content_eq_nil (isSlices : sb.slices = slices) (empty : slices = []) : sb.content = [] := by
  rw [content, isSlices, empty, contentOf_nil]

theorem content_addIndexed (sb : SliceBuffer) (slice : Slice) :
    (sb.addIndexed slice).content = sb.content ++ slice.bytes := by
  rw [content, slices_addIndexed, contentOf_append, contentOf_cons, contentOf_nil, List.append_nil]
  rfl

theorem content_add (sb : SliceBuffer) (slice : Slice) :
    (sb.add slice).content = sb.content ++ slice.bytes := by
  by_cases empty : sb.slices = []
  · rcases sb.add_cases slice with same | ⟨_, _, _, _, isBack, _⟩
    · rw [same, content_addIndexed]
    · exact absurd empty (ne_nil_of_back isBack)
  · exact (appends_add sb slice).content empty

theorem content_addn (sb : SliceBuffer) (slices : List Slice) :
    (sb.addn slices).content = sb.content ++ contentOf slices := by
  induction slices generalizing sb with
  | nil => exact (List.append_nil _).symm
  | cons slice slices ih =>
    change ((sb.add slice).addn slices).content = _
    rw [ih, content_add, contentOf_cons, List.append_assoc]

theorem content_swap (src dst : SliceBuffer) :
    (swap src dst).1.content = dst.content ∧ (swap src dst).2.content = src.content := by
  obtain ⟨left, right⟩ := swap_cases src dst
  constructor
  · rcases left with same | ⟨_, same⟩
    · rw [same]
      rfl
    · rw [same]
      rfl
  · rcases right with same | ⟨_, same⟩
    · rw [same]
      rfl
    · rw [same]
      rfl

theorem content_moveInto (src dst : SliceBuffer) :
    (moveInto src dst).1.content = [] ∧
      (moveInto src dst).2.content = dst.content ++ src.content := by
  unfold moveInto
  split
  · next none =>
      have empty : src.content = [] := content_eq_nil rfl (List.eq_nil_of_length_eq_zero none)
      rw [empty, List.append_nil]
      exact ⟨rfl, rfl⟩
  · split
    · next none =>
        have empty : dst.content = [] := content_eq_nil rfl (List.eq_nil_of_length_eq_zero none)
        obtain ⟨left, right⟩ := content_swap src dst
        rw [left, right, empty]
        exact ⟨rfl, rfl⟩
    · exact ⟨rfl, content_addn dst src.slices⟩

variable {n : Nat}

theorem take_append_of_length_le {first second : List UInt8} (all : first.length ≤ n) :
    (first ++ second).take n = first ++ second.take (n - first.length) := by
  rw [List.take_append, List.take_of_length_le all]

theorem drop_append_of_length_le {first second : List UInt8} (all : first.length ≤ n) :
    (first ++ second).drop n = second.drop (n - first.length) := by
  rw [List.drop_append, List.drop_eq_nil_of_le all, List.nil_append]

variable (refWhom : Slice.RefWhom)

/-- Slices are moved as long as they are a part of what is asked for, and the next one is
split. -/
theorem content_moveFirstLoop (dst : SliceBuffer) (isSlices : src.slices = slices)
    (within : n ≤ (contentOf slices).length) :
    (moveFirstLoop refWhom slices n src dst).1.content = (contentOf slices).drop n ∧
      (moveFirstLoop refWhom slices n src dst).2.content =
        dst.content ++ (contentOf slices).take n := by
  induction slices generalizing n src dst with
  | nil =>
    rw [contentOf_nil, List.drop_nil, List.take_nil, List.append_nil]
    exact ⟨content_eq_nil isSlices rfl, rfl⟩
  | cons slice slices ih =>
    rw [contentOf_cons] at within ⊢
    unfold moveFirstLoop
    split
    · next part =>
        have whole : slice.bytes.length ≤ n := Nat.le_of_lt part
        have rest : n - slice.length ≤ (contentOf slices).length := by
          rw [List.length_append] at within
          exact Nat.sub_le_of_le_add (Nat.add_comm _ _ ▸ within)
        have isRest : (src.leaveFirst slice slices).slices = slices := rfl
        obtain ⟨left, moved⟩ := ih (dst.add slice) isRest rest
        rw [drop_append_of_length_le whole, take_append_of_length_le whole]
        refine ⟨left, moved.trans ?_⟩
        rw [content_add, List.append_assoc]
        rfl
    · split
      · next all =>
          have whole : slice.bytes.length = n := all
          rw [List.drop_left' whole, List.take_left' whole]
          exact ⟨rfl, content_add dst slice⟩
      · next notPart notAll =>
          have inside : n ≤ slice.bytes.length := Nat.le_of_not_lt notPart
          obtain ⟨head, tail⟩ := slice.bytes_splitTailMaybeRef n refWhom
          rw [List.drop_append_of_le_length inside, List.take_append_of_le_length inside, ← head,
            ← tail]
          refine ⟨rfl, ?_⟩
          cases refWhom with
          | both => exact content_add dst _
          | tail => exact content_addIndexed dst _

theorem moveFirst_content (first : src.Accounted) (second : dst.Accounted) (within : n ≤ src.length) :
    ∃ moved, moveFirst refWhom src n dst = some moved ∧
      moved.1.content = src.content.drop n ∧ moved.2.content = dst.content ++ src.content.take n := by
  have length := first.length_content
  rw [moveFirst, if_neg (Nat.not_lt.mpr within)]
  by_cases all : src.length = n
  · have whole : src.content.length ≤ n := Nat.le_of_eq (length.symm.trans all)
    rw [if_pos all, List.drop_eq_nil_of_le whole, List.take_of_length_le whole]
    exact ⟨_, rfl, content_moveInto src dst⟩
  · rw [if_neg all]
    have isSlices : src.slices = src.slices := rfl
    obtain ⟨left, moved⟩ := content_moveFirstLoop refWhom dst isSlices
      (length ▸ within : n ≤ (contentOf src.slices).length)
    obtain ⟨first', second'⟩ : (moveFirstLoop refWhom src.slices n src dst).1.Accounted ∧
        (moveFirstLoop refWhom src.slices n src dst).2.Accounted :=
      Accounted.moveFirstLoop refWhom rfl first second
    have some_ : 0 < (moveFirstLoop refWhom src.slices n src dst).1.count := by
      refine List.length_pos_of_ne_nil fun empty => all ?_
      rw [content_eq_nil empty rfl] at left
      have short : src.content.length ≤ n := List.drop_eq_nil_iff.mp left.symm
      exact Nat.le_antisymm (length.trans_le short) within
    refine ⟨_, if_pos ⟨?_, ?_, some_⟩, left, moved⟩
    · rw [second'.length_content, second.length_content, moved, List.length_append, List.length_take,
        Nat.min_eq_left (length ▸ within)]
    · rw [first'.length_content, left, List.length_drop, length]
      rfl

/-- The loop of `grpc_slice_buffer_move_first_into_buffer`, with the bytes that it copies. The
third case ends the loop. -/
def moveFirstIntoBufferLoop : List Slice → Nat → SliceBuffer → Option (SliceBuffer × List UInt8)
  | [], n, src => if n = 0 then some (src, []) else none
  | slice :: slices, n, src =>
    if n = 0 then some (src, [])
    else if n < slice.length then
      some ((src.leaveFirst slice slices).undoTakeFirst (slice.sub n slice.length),
        slice.bytes.take n)
    else if slice.length = n then some (src.leaveFirst slice slices, slice.bytes)
    else
      (moveFirstIntoBufferLoop slices (n - slice.length) (src.leaveFirst slice slices)).map
        fun (src, bytes) => (src, slice.bytes ++ bytes)

/-- `none` is a failed assertion. -/
def moveFirstIntoBuffer (src : SliceBuffer) (n : Nat) : Option (SliceBuffer × List UInt8) :=
  if src.length < n then none else moveFirstIntoBufferLoop src.slices n src

theorem bytes_sub (slice : Slice) (begin_ end_ : Nat) :
    (slice.sub begin_ end_).bytes = (slice.bytes.take end_).drop begin_ := by
  cases slice <;> rfl

theorem Kept.init : SliceBuffer.init.Kept :=
  { toInBounds := .init, toAccounted := .init }

theorem Kept.leaveFirst {slice : Slice} {slices : List Slice} (kept : sb.Kept)
    (isFirst : sb.slices = slice :: slices) : (sb.leaveFirst slice slices).Kept :=
  { toInBounds := kept.toInBounds.leaveFirst isFirst
    toAccounted := kept.toAccounted.leaveFirst isFirst }

theorem moveFirstIntoBufferLoop_content (isSlices : src.slices = slices) (kept : src.Kept)
    (within : n ≤ (contentOf slices).length) :
    ∃ left, moveFirstIntoBufferLoop slices n src = some (left, (contentOf slices).take n) ∧
      left.content = (contentOf slices).drop n ∧ left.Kept := by
  induction slices generalizing n src with
  | nil =>
    have none : n = 0 := Nat.le_zero.mp within
    rw [moveFirstIntoBufferLoop, if_pos none, contentOf_nil, List.take_nil, List.drop_nil]
    exact ⟨src, rfl, content_eq_nil isSlices rfl, kept⟩
  | cons slice slices ih =>
    have left := kept.leaveFirst isSlices
    rw [contentOf_cons] at within ⊢
    by_cases none : n = 0
    · rw [moveFirstIntoBufferLoop, if_pos none, none, List.take_zero, List.drop_zero]
      refine ⟨src, rfl, ?_, kept⟩
      rw [content, isSlices, contentOf_cons]
    · rw [moveFirstIntoBufferLoop, if_neg none]
      rcases Nat.lt_trichotomy n slice.length with part | all | more
      · have inside : n ≤ slice.bytes.length := Nat.le_of_lt part
        have taken : (src.leaveFirst slice slices).front ≠ [] :=
          List.append_ne_nil_of_right_ne_nil _ (List.cons_ne_nil _ _)
        rw [if_pos part, List.take_append_of_le_length inside, List.drop_append_of_le_length inside]
        refine ⟨_, rfl, ?_, ?_⟩
        · change (slice.sub n slice.length).bytes ++ contentOf slices = _
          rw [bytes_sub, Slice.length, List.take_length]
        · exact {
            toInBounds := left.toInBounds.undoTakeFirst taken _
            toAccounted := left.toAccounted.undoTakeFirst _ }
      · have whole : slice.bytes.length = n := all.symm
        rw [if_neg (Nat.not_lt.mpr (Nat.le_of_eq all.symm)), if_pos all.symm,
          List.take_left' whole, List.drop_left' whole]
        exact ⟨_, rfl, rfl, left⟩
      · have whole : slice.bytes.length ≤ n := Nat.le_of_lt more
        have rest : n - slice.length ≤ (contentOf slices).length := by
          rw [List.length_append] at within
          exact Nat.sub_le_of_le_add (Nat.add_comm _ _ ▸ within)
        obtain ⟨after, copied, content, kept'⟩ := ih rfl left rest
        rw [if_neg (Nat.not_lt.mpr (Nat.le_of_lt more)), if_neg (Nat.ne_of_lt more), copied,
          take_append_of_length_le whole, drop_append_of_length_le whole]
        exact ⟨after, rfl, content, kept'⟩

theorem content_trimEndLoop {reversed : List Slice} {garbage : Option SliceBuffer}
    (isSlices : sb.slices = reversed.reverse) (within : n ≤ sb.content.length) :
    (trimEndLoop reversed n sb garbage).1.content = sb.content.take (sb.content.length - n) := by
  induction reversed generalizing n sb garbage with
  | nil =>
    have empty : sb.content = [] := content_eq_nil isSlices rfl
    have same : (trimEndLoop [] n sb garbage).1.slices = sb.slices := by
      unfold trimEndLoop trimFront
      split
      · rfl
      · split
        · rfl
        · rfl
    rw [content, same, empty, List.take_nil]
    exact empty
  | cons slice before ih =>
    have all : sb.content = contentOf before.reverse ++ slice.bytes := by
      rw [content, isSlices, List.reverse_cons, contentOf_append, contentOf_cons, contentOf_nil,
        List.append_nil]
    rw [all] at within ⊢
    rw [List.length_append] at within ⊢
    unfold trimEndLoop
    split
    · next part =>
        have part : n < slice.bytes.length := part
        have set : (sb.setBack (slice.splitHead (slice.length - n)).1).slices =
            before.reverse ++ [(slice.splitHead (slice.length - n)).1] := by
          change sb.slices.dropLast ++ _ = _
          rw [isSlices, List.reverse_cons, List.dropLast_concat]
        rw [take_append_of_length_le (by omega)]
        change contentOf (sb.setBack (slice.splitHead (slice.length - n)).1).slices = _
        rw [set, contentOf_append, contentOf_cons, contentOf_nil, List.append_nil,
          (slice.bytes_splitHead _).1, Slice.length]
        congr 2
        omega
    · split
      · next whole =>
          have whole : slice.bytes.length = n := whole
          rw [whole, Nat.add_sub_cancel, List.take_left' rfl]
          rfl
      · next notPart notAll =>
          have more : slice.bytes.length ≤ n := Nat.le_of_not_lt notPart
          obtain ⟨shorter, isShorter⟩ : ∃ shorter : SliceBuffer,
            shorter = { sb with slices := before.reverse } := ⟨_, rfl⟩
          have content : shorter.content = contentOf before.reverse := by rw [isShorter]; rfl
          have rest : n - slice.length ≤ shorter.content.length := by
            rw [content]
            exact Nat.sub_le_of_le_add within
          have slices : shorter.slices = before.reverse := by rw [isShorter]
          rw [← isShorter, ih slices rest, content, List.take_append_of_le_length (by omega)]
          congr 1
          rw [Slice.length]
          omega

theorem trimEnd_content (accounted : sb.Accounted) (within : n ≤ sb.length)
    (garbage : Option SliceBuffer) :
    ∃ trimmed, sb.trimEnd n garbage = some trimmed ∧
      trimmed.1.content = sb.content.take (sb.content.length - n) := by
  rw [trimEnd, if_pos within]
  have isSlices : (sb.subLength n).slices = sb.slices.reverse.reverse :=
    (List.reverse_reverse _).symm
  refine ⟨_, rfl, content_trimEndLoop isSlices ?_⟩
  change n ≤ sb.content.length
  rw [← accounted.length_content]
  exact within

/-- The operations on the first of two buffers, most of them with the second one. -/
inductive ByteOperation where
  | add (slice : Slice)
  | addn (slices : List Slice)
  | moveInto
  | moveFirst (n : Nat)
  | moveFirstNoRef (n : Nat)
  | moveFirstIntoBuffer (n : Nat)
  | trimEnd (n : Nat)
  | trimEndInto (n : Nat)
  | swap

/-- The buffers after an operation, and the bytes it has copied. -/
structure Performed where
  first : SliceBuffer
  second : SliceBuffer
  copied : List UInt8 := []

namespace ByteOperation

def perform (first second : SliceBuffer) : ByteOperation → Option Performed
  | add slice => some ⟨first.add slice, second, []⟩
  | addn slices => some ⟨first.addn slices, second, []⟩
  | moveInto => some ⟨(SliceBuffer.moveInto first second).1, (SliceBuffer.moveInto first second).2, []⟩
  | moveFirst n => (SliceBuffer.moveFirst .both first n second).map fun moved => ⟨moved.1, moved.2, []⟩
  | moveFirstNoRef n =>
    (SliceBuffer.moveFirst .tail first n second).map fun moved => ⟨moved.1, moved.2, []⟩
  | moveFirstIntoBuffer n =>
    (SliceBuffer.moveFirstIntoBuffer first n).map fun (left, copied) => ⟨left, second, copied⟩
  | trimEnd n => (first.trimEnd n none).map fun trimmed => ⟨trimmed.1, second, []⟩
  | trimEndInto n =>
    (first.trimEnd n (some second)).map fun trimmed => ⟨trimmed.1, trimmed.2.getD second, []⟩
  | swap => some ⟨(SliceBuffer.swap first second).1, (SliceBuffer.swap first second).2, []⟩

/-- No more bytes are moved or trimmed than there are. -/
def Within (bytes : List UInt8) : ByteOperation → Prop
  | moveFirst n | moveFirstNoRef n | moveFirstIntoBuffer n | trimEnd n | trimEndInto n =>
    n ≤ bytes.length
  | _ => True

/-- What an operation does to the bytes of the buffers. What becomes of the buffer for garbage
is left open. -/
def Does (first second first' second' copied : List UInt8) : ByteOperation → Prop
  | add slice => first' = first ++ slice.bytes ∧ second' = second
  | addn slices => first' = first ++ contentOf slices ∧ second' = second
  | moveInto => first' = [] ∧ second' = second ++ first
  | moveFirst n | moveFirstNoRef n => first' = first.drop n ∧ second' = second ++ first.take n
  | moveFirstIntoBuffer n => first' = first.drop n ∧ second' = second ∧ copied = first.take n
  | trimEnd n => first' = first.take (first.length - n) ∧ second' = second
  | trimEndInto n => first' = first.take (first.length - n)
  | swap => first' = second ∧ second' = first

/-- The operation does what it says, and leaves buffers that know their bytes and are inside
their arrays. -/
def KeepsBytes (operation : ByteOperation) (first second : SliceBuffer) : Prop :=
  operation.Within first.content → ∃ done, operation.perform first second = some done ∧
    operation.Does first.content second.content done.first.content done.second.content done.copied ∧
    done.first.Kept ∧ done.second.Kept

/-- Nothing at all is trimmed from a buffer without slices, unless a slice with bytes is left
before its window. -/
def Fits (first : SliceBuffer) : ByteOperation → Prop
  | trimEnd n | trimEndInto n => first.count = 0 → n = 0 →
      ∃ slice, first.front.getLast? = some slice ∧ slice.length ≠ 0
  | _ => True

variable {first second : SliceBuffer}

theorem keepsBytes_moveFirst (kept : first.Kept) (kept' : second.Kept)
    (within : n ≤ first.content.length) :
    ∃ moved, SliceBuffer.moveFirst refWhom first n second = some moved ∧
      (moved.1.content = first.content.drop n ∧
        moved.2.content = second.content ++ first.content.take n) ∧
      moved.1.Kept ∧ moved.2.Kept := by
  rw [← kept.toAccounted.length_content] at within
  obtain ⟨moved, done, left, right⟩ :=
    moveFirst_content refWhom kept.toAccounted kept'.toAccounted within
  have inBounds := kept.toInBounds.moveFirst kept'.toInBounds kept.toAccounted kept'.toAccounted done
  have accounted := kept.toAccounted.moveFirst kept'.toAccounted done
  exact ⟨moved, done, ⟨left, right⟩, { toInBounds := inBounds.1, toAccounted := accounted.1 },
    { toInBounds := inBounds.2, toAccounted := accounted.2 }⟩

theorem trimEnd_keeps_iff (kept : first.Kept) (garbage : Option SliceBuffer)
    (within : n ≤ first.content.length) :
    ∃ trimmed, first.trimEnd n garbage = some trimmed ∧
      trimmed.1.content = first.content.take (first.content.length - n) ∧
      (trimmed.1.Kept ↔ (first.count = 0 → n = 0 →
        ∃ slice, first.front.getLast? = some slice ∧ slice.length ≠ 0)) := by
  have length := kept.toAccounted.length_content
  obtain ⟨trimmed, done, content⟩ :=
    trimEnd_content kept.toAccounted (length.symm ▸ within) garbage
  have exact_ := kept.toInBounds.trimEnd_iff kept.toAccounted done
  refine ⟨trimmed, done, content, ?_⟩
  constructor
  · intro trimmed empty _
    exact exact_.mp trimmed.toInBounds empty
  · intro fits
    refine {
      toInBounds := exact_.mpr fun empty => fits empty ?_
      toAccounted := kept.toAccounted.trimEnd done }
    rw [content_eq_nil rfl (List.eq_nil_of_length_eq_zero empty)] at within
    exact Nat.le_zero.mp within

end ByteOperation

end GrpcCore.SliceBuffer
