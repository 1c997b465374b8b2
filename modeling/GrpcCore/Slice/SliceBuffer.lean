import GrpcCore.Lib.Run

/-!
# Slice buffers

A slice buffer is a window in an array of slices. Slices leave at both ends and come at the back,
so the window slides until there is no more room behind it.
-/

namespace GrpcCore

open Machine

def GRPC_SLICE_INLINED_SIZE : Nat := 23

def GRPC_SLICE_BUFFER_INLINE_ELEMENTS : Nat := 8

/-- Bytes, which are in the slice itself if they are few and have no reference count. -/
inductive Slice where
  | inlined (bytes : List UInt8) (small : bytes.length ≤ GRPC_SLICE_INLINED_SIZE)
  | refcounted (bytes : List UInt8)
deriving DecidableEq

namespace Slice

def bytes : Slice → List UInt8
  | inlined bytes _ => bytes
  | refcounted bytes => bytes

def length (slice : Slice) : Nat := slice.bytes.length

theorem length_take_le {bytes : List UInt8} (small : bytes.length ≤ GRPC_SLICE_INLINED_SIZE)
    (split : Nat) : (bytes.take split).length ≤ GRPC_SLICE_INLINED_SIZE :=
  Nat.le_trans (List.length_take_le' ..) small

theorem length_drop_le {bytes : List UInt8} (small : bytes.length ≤ GRPC_SLICE_INLINED_SIZE)
    (split : Nat) : (bytes.drop split).length ≤ GRPC_SLICE_INLINED_SIZE :=
  Nat.le_trans (List.length_drop ▸ Nat.sub_le ..) small

/-- An inlined slice that is filled up with the first bytes of another. -/
def filled (back bytes : List UInt8) (room : back.length ≤ GRPC_SLICE_INLINED_SIZE) : Slice :=
  .inlined (back ++ bytes.take (GRPC_SLICE_INLINED_SIZE - back.length)) (by
    rw [List.length_append, List.length_take]
    omega)

def overflow (back bytes : List UInt8) (small : bytes.length ≤ GRPC_SLICE_INLINED_SIZE) : Slice :=
  .inlined (bytes.drop (GRPC_SLICE_INLINED_SIZE - back.length)) (length_drop_le small _)

/-- `grpc_slice_sub_no_ref`. -/
def sub (slice : Slice) (begin_ end_ : Nat) : Slice :=
  match slice with
  | inlined bytes small =>
    .inlined ((bytes.take end_).drop begin_) (length_drop_le (length_take_le small _) _)
  | refcounted bytes => .refcounted ((bytes.take end_).drop begin_)

inductive RefWhom where
  | tail
  | both
deriving DecidableEq

/-- A slice split into what is left of it and its tail. A short tail is copied unless it takes over
the reference. -/
def splitTailMaybeRef (slice : Slice) (split : Nat) (refWhom : RefWhom) : Slice × Slice :=
  match slice with
  | inlined bytes small =>
    (.inlined (bytes.take split) (length_take_le small _),
      .inlined (bytes.drop split) (length_drop_le small _))
  | refcounted bytes =>
    if short : (bytes.drop split).length < GRPC_SLICE_INLINED_SIZE ∧ refWhom ≠ .tail then
      (.refcounted (bytes.take split), .inlined (bytes.drop split) (Nat.le_of_lt short.1))
    else (.refcounted (bytes.take split), .refcounted (bytes.drop split))

def splitHead (slice : Slice) (split : Nat) : Slice × Slice :=
  match slice with
  | inlined bytes small =>
    (.inlined (bytes.take split) (length_take_le small _),
      .inlined (bytes.drop split) (length_drop_le small _))
  | refcounted bytes =>
    if short : (bytes.take split).length < GRPC_SLICE_INLINED_SIZE then
      (.inlined (bytes.take split) (Nat.le_of_lt short), .refcounted (bytes.drop split))
    else (.refcounted (bytes.take split), .refcounted (bytes.drop split))

theorem bytes_splitTailMaybeRef (slice : Slice) (split : Nat) (refWhom : RefWhom) :
    (slice.splitTailMaybeRef split refWhom).1.bytes = slice.bytes.take split ∧
      (slice.splitTailMaybeRef split refWhom).2.bytes = slice.bytes.drop split := by
  cases slice with
  | inlined => exact ⟨rfl, rfl⟩
  | refcounted =>
    unfold splitTailMaybeRef
    dsimp only
    split
    · exact ⟨rfl, rfl⟩
    · exact ⟨rfl, rfl⟩

theorem bytes_splitHead (slice : Slice) (split : Nat) :
    (slice.splitHead split).1.bytes = slice.bytes.take split ∧
      (slice.splitHead split).2.bytes = slice.bytes.drop split := by
  cases slice with
  | inlined => exact ⟨rfl, rfl⟩
  | refcounted =>
    unfold splitHead
    dsimp only
    split
    · exact ⟨rfl, rfl⟩
    · exact ⟨rfl, rfl⟩

end Slice

/-- A slice buffer. `front` has the slices that are left in the slots from `base_slices` to `slices`,
and `outside` says that a slot before or behind the array has been written or that the count has
wrapped around. -/
structure SliceBuffer where
  inlined : Bool
  front : List Slice
  slices : List Slice
  capacity : Nat
  length : Nat
  outside : Bool
deriving DecidableEq

namespace SliceBuffer

def init : SliceBuffer := ⟨true, [], [], GRPC_SLICE_BUFFER_INLINE_ELEMENTS, 0, false⟩

variable (sb : SliceBuffer)

def count : Nat := sb.slices.length

def offset : Nat := sb.front.length

def write (slot : Nat) : SliceBuffer :=
  { sb with outside := sb.outside || decide (sb.capacity ≤ sb.offset + slot) }

def writeBase (slots : Nat) : SliceBuffer :=
  { sb with outside := sb.outside || decide (sb.capacity < slots) }

def writeInlined (slots : Nat) : SliceBuffer :=
  { sb with outside := sb.outside || decide (GRPC_SLICE_BUFFER_INLINE_ELEMENTS < slots) }

def grow (capacity : Nat) : Nat := 3 * capacity / 2

def doEmbiggen (sliceCount : Nat) : SliceBuffer :=
  if sb.offset ≠ 0 then { sb.writeBase sb.count with front := [] }
  else ({ sb with inlined := false, capacity := grow sb.capacity } : SliceBuffer).writeBase sliceCount

def maybeEmbiggen : SliceBuffer :=
  if sb.count = 0 then { sb with front := [] }
  else if sb.count + sb.offset = sb.capacity then sb.doEmbiggen (sb.count + sb.offset)
  else sb

def push (slice : Slice) : SliceBuffer :=
  let sb := sb.write sb.count
  { sb with slices := sb.slices ++ [slice] }

def setBack (slice : Slice) : SliceBuffer :=
  let sb := sb.write (sb.count - 1)
  { sb with slices := sb.slices.dropLast ++ [slice] }

def addLength (bytes : Nat) : SliceBuffer := { sb with length := sb.length + bytes }

def subLength (bytes : Nat) : SliceBuffer := { sb with length := sb.length - bytes }

/-- `grpc_slice_buffer_tiny_add`, with the bytes that the caller writes. An empty buffer goes
straight to the new slice. -/
def tinyAdd (bytes : List UInt8) (small : bytes.length ≤ GRPC_SLICE_INLINED_SIZE) : SliceBuffer :=
  let sb := sb.addLength bytes.length
  match sb.slices.getLast? with
  | none => sb.push (.inlined bytes small)
  | some (.refcounted _) => sb.maybeEmbiggen.push (.inlined bytes small)
  | some (.inlined back _) =>
    if fits : (back ++ bytes).length ≤ GRPC_SLICE_INLINED_SIZE then
      sb.setBack (.inlined (back ++ bytes) fits)
    else sb.maybeEmbiggen.push (.inlined bytes small)

def addIndexed (slice : Slice) : SliceBuffer :=
  (sb.maybeEmbiggen.push slice).addLength slice.length

/-- An inlined slice is joined to an inlined slice at the back that is not full. What does not fit
is a new slice. -/
def addInlined (bytes back : List UInt8) (small : bytes.length ≤ GRPC_SLICE_INLINED_SIZE)
    (room : back.length ≤ GRPC_SLICE_INLINED_SIZE) : SliceBuffer :=
  if fits : (back ++ bytes).length ≤ GRPC_SLICE_INLINED_SIZE then
    (sb.setBack (.inlined (back ++ bytes) fits)).addLength bytes.length
  else
    ((sb.setBack (Slice.filled back bytes room)).maybeEmbiggen.push
      (Slice.overflow back bytes small)).addLength bytes.length

def add (slice : Slice) : SliceBuffer :=
  match slice, sb.slices.getLast? with
  | .inlined bytes small, some (.inlined back room) =>
    if back.length < GRPC_SLICE_INLINED_SIZE then sb.addInlined bytes back small room
    else sb.addIndexed slice
  | _, _ => sb.addIndexed slice

def addn (slices : List Slice) : SliceBuffer := slices.foldl add sb

def pop : SliceBuffer :=
  match sb.slices.getLast? with
  | none => sb
  | some slice => ({ sb with slices := sb.slices.dropLast } : SliceBuffer).subLength slice.length

def reset : SliceBuffer := { sb with slices := [], length := 0, front := [] }

/-- Slices in an inlined array are copied to the other buffer, and those elsewhere change hands. -/
def swap (a b : SliceBuffer) : SliceBuffer × SliceBuffer :=
  let a' := { b with outside := a.outside }
  let b' := { a with outside := b.outside }
  match a.inlined, b.inlined with
  | true, true => (a'.writeInlined (b.count + b.offset), b'.writeInlined (a.count + a.offset))
  | true, false => (a', b'.writeInlined (a.count + a.offset))
  | false, true => (a'.writeInlined (b.count + b.offset), b')
  | false, false => (a', b')

def moveInto (src dst : SliceBuffer) : SliceBuffer × SliceBuffer :=
  if src.count = 0 then (src, dst)
  else if dst.count = 0 then swap src dst
  else ({ src with slices := [], length := 0 }, dst.addn src.slices)

/-- `none` is a failed assertion: there is no first slice. -/
def takeFirst : Option (Slice × SliceBuffer) :=
  match sb.slices with
  | [] => none
  | slice :: slices =>
    some (slice, ({ sb with front := sb.front ++ [slice], slices := slices } :
      SliceBuffer).subLength slice.length)

def removeFirst : Option SliceBuffer :=
  match sb.slices with
  | [] => none
  | slice :: slices =>
    some (({ sb with
      front := if slices = [] then [] else sb.front ++ [slice]
      slices := slices } : SliceBuffer).subLength slice.length)

/-- `none` stands for the failed assertions on the part of the slice. -/
def subFirst (begin_ end_ : Nat) : Option SliceBuffer :=
  match sb.slices with
  | [] => none
  | slice :: slices =>
    if begin_ ≤ end_ ∧ end_ ≤ slice.length then
      some ((({ sb with slices := slice.sub begin_ end_ :: slices } : SliceBuffer).subLength
        slice.length |>.addLength (end_ - begin_)).write 0)
    else none

def undoTakeFirst (slice : Slice) : SliceBuffer :=
  { sb with
    front := sb.front.dropLast
    slices := slice :: sb.slices
    outside := sb.outside || decide (sb.offset = 0 ∨ sb.capacity ≤ sb.offset - 1) }.addLength
      slice.length

/-- The loop of `slice_buffer_move_first_maybe_ref` over the slices of the source. -/
def moveFirstLoop (refWhom : Slice.RefWhom) :
    List Slice → Nat → SliceBuffer → SliceBuffer → SliceBuffer × SliceBuffer
  | [], _, src, dst => (src, dst)
  | slice :: slices, n, src, dst =>
    let src := ({ src with front := src.front ++ [slice], slices := slices } :
      SliceBuffer).subLength slice.length
    if slice.length < n then
      moveFirstLoop refWhom slices (n - slice.length) src (dst.add slice)
    else if slice.length = n then (src, dst.add slice)
    else
      let (head, tail) := slice.splitTailMaybeRef n refWhom
      (src.undoTakeFirst tail,
        match refWhom with
        | .both => dst.add head
        | .tail => dst.addIndexed head)

/-- `none` is a failed assertion. -/
def moveFirst (refWhom : Slice.RefWhom) (src : SliceBuffer) (n : Nat) (dst : SliceBuffer) :
    Option (SliceBuffer × SliceBuffer) :=
  if src.length < n then none
  else if src.length = n then some (moveInto src dst)
  else
    let (src', dst') := moveFirstLoop refWhom src.slices n src dst
    if dst'.length = dst.length + n ∧ src'.length = src.length - n ∧ 0 < src'.count then
      some (src', dst')
    else none

def discard (garbage : Option SliceBuffer) (slice : Slice) : Option SliceBuffer :=
  garbage.map (addIndexed · slice)

/-- With no slice left, `grpc_slice_buffer_trim_end` trims what is in the slot before the window,
and the count wraps around if that is not longer. -/
def trimFront (n : Nat) (garbage : Option SliceBuffer) : SliceBuffer × Option SliceBuffer :=
  match sb.front.getLast? with
  | none => ({ sb with outside := true }, garbage)
  | some slice =>
    if n < slice.length then
      let (head, rest) := slice.splitHead (slice.length - n)
      ({ sb with front := sb.front.dropLast ++ [head] }, discard garbage rest)
    else ({ sb with outside := true }, discard garbage slice)

/-- The loop of `grpc_slice_buffer_trim_end` over the slices from the last. -/
def trimEndLoop : List Slice → Nat → SliceBuffer → Option SliceBuffer →
    SliceBuffer × Option SliceBuffer
  | [], n, sb, garbage => sb.trimFront n garbage
  | slice :: before, n, sb, garbage =>
    if n < slice.length then
      let (head, rest) := slice.splitHead (slice.length - n)
      (sb.setBack head, discard garbage rest)
    else if slice.length = n then
      ({ sb with slices := before.reverse }, discard garbage slice)
    else
      trimEndLoop before (n - slice.length) { sb with slices := before.reverse }
        (discard garbage slice)

/-- `none` is a failed assertion. -/
def trimEnd (n : Nat) (garbage : Option SliceBuffer) : Option (SliceBuffer × Option SliceBuffer) :=
  if n ≤ sb.length then some (trimEndLoop sb.slices.reverse n (sb.subLength n) garbage) else none

/-- The window is inside the array, and so is every slot that has been written. -/
structure InBounds : Prop where
  inside : sb.outside = false
  window : sb.offset + sb.count ≤ sb.capacity

end SliceBuffer

/-- Slice buffers by their addresses. `taken` is the buffer whose first slice the last operation
has taken. -/
structure SliceBuffers where
  buffers : Nat → SliceBuffer
  taken : Option Nat

namespace SliceBuffers

def init : SliceBuffers := ⟨fun _ => .init, none⟩

inductive Operation where
  | add (sb : Nat) (slice : Slice)
  | addn (sb : Nat) (slices : List Slice)
  | addIndexed (sb : Nat) (slice : Slice)
  | tinyAdd (sb : Nat) (bytes : List UInt8)
  | pop (sb : Nat)
  | takeFirst (sb : Nat)
  | undoTakeFirst (sb : Nat) (slice : Slice)
  | removeFirst (sb : Nat)
  | subFirst (sb begin_ end_ : Nat)
  | moveFirst (src n dst : Nat)
  | moveFirstNoRef (src n dst : Nat)
  | moveInto (src dst : Nat)
  | trimEnd (sb n : Nat) (garbage : Option Nat)
  | swap (a b : Nat)
  | reset (sb : Nat)

variable (state : SliceBuffers)

def set (address : Nat) (sb : SliceBuffer) : SliceBuffers :=
  ⟨Function.update state.buffers address sb, none⟩

def setBoth (a b : Nat) (changed : SliceBuffer × SliceBuffer) : SliceBuffers :=
  (state.set a changed.1).set b changed.2

def trimEnd (sb n : Nat) (garbage : Option Nat) : Option SliceBuffers :=
  ((state.buffers sb).trimEnd n (garbage.map state.buffers)).map fun (trimmed, garbage') =>
    match garbage, garbage' with
    | some address, some garbage' => state.setBoth sb address (trimmed, garbage')
    | _, _ => state.set sb trimmed

/-- Operations on two buffers are on different ones, and only what has just been taken is put
back. -/
def step : Operation → Option SliceBuffers
  | .add sb slice => some (state.set sb ((state.buffers sb).add slice))
  | .addn sb slices => some (state.set sb ((state.buffers sb).addn slices))
  | .addIndexed sb slice => some (state.set sb ((state.buffers sb).addIndexed slice))
  | .tinyAdd sb bytes =>
    if small : bytes.length ≤ GRPC_SLICE_INLINED_SIZE then
      some (state.set sb ((state.buffers sb).tinyAdd bytes small))
    else none
  | .pop sb => some (state.set sb (state.buffers sb).pop)
  | .takeFirst sb =>
    (state.buffers sb).takeFirst.map fun (_, left) => { state.set sb left with taken := some sb }
  | .undoTakeFirst sb slice =>
    if state.taken = some sb then
      some (state.set sb ((state.buffers sb).undoTakeFirst slice))
    else none
  | .removeFirst sb => (state.buffers sb).removeFirst.map (state.set sb)
  | .subFirst sb begin_ end_ => ((state.buffers sb).subFirst begin_ end_).map (state.set sb)
  | .moveFirst src n dst =>
    if src = dst then none
    else (SliceBuffer.moveFirst .both (state.buffers src) n (state.buffers dst)).map
      (state.setBoth src dst)
  | .moveFirstNoRef src n dst =>
    if src = dst then none
    else (SliceBuffer.moveFirst .tail (state.buffers src) n (state.buffers dst)).map
      (state.setBoth src dst)
  | .moveInto src dst =>
    if src = dst then none
    else some (state.setBoth src dst
      (SliceBuffer.moveInto (state.buffers src) (state.buffers dst)))
  | .trimEnd sb n garbage => if garbage = some sb then none else state.trimEnd sb n garbage
  | .swap a b =>
    if a = b then none
    else some (state.setBoth a b (SliceBuffer.swap (state.buffers a) (state.buffers b)))
  | .reset sb => some (state.set sb (state.buffers sb).reset)

/-- The windows of all buffers are inside their arrays. -/
def InBounds : Prop := ∀ address, (state.buffers address).InBounds

/-- Nothing is added by `tiny_add` to an empty buffer whose window has reached the end of the array,
and nothing is trimmed from an empty buffer, unless a slice with bytes is left before its window. -/
def Fits : Operation → Prop
  | .tinyAdd sb _ => (state.buffers sb).count = 0 →
      (state.buffers sb).offset < (state.buffers sb).capacity
  | .trimEnd sb _ _ => (state.buffers sb).count = 0 →
      ∃ slice, (state.buffers sb).front.getLast? = some slice ∧ slice.length ≠ 0
  | _ => True

end SliceBuffers

end GrpcCore
