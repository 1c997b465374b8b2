import GrpcCore.Lib.BigEndian
import GrpcCore.Transport.Segmentation

/-!
# One frame after another

What the deframer makes of the bytes of a whole frame, with anything behind it.
-/

namespace GrpcCore.Transport

open Hpack Segments BigEndian

def FrameHeader.bytes (header : FrameHeader) : Bytes :=
  bytes24 header.size ++ [header.type, header.flags] ++ bytes32 header.streamId

structure FrameHeader.Encodable (header : FrameHeader) : Prop where
  size : header.size < 16777216
  streamId : header.streamId < 2147483648

def frameBytes (frame : FrameHeader × Bytes) : Bytes := frame.1.bytes ++ frame.2

/-- The nine bytes of a header. The top bit of the stream id is reserved. -/
def takeHeader : Bytes → Option (FrameHeader × Bytes)
  | b0 :: b1 :: b2 :: type :: flags :: s0 :: s1 :: s2 :: s3 :: rest =>
    some (
      { size := b0.toNat <<< 16 ||| b1.toNat <<< 8 ||| b2.toNat
        type
        flags
        streamId := (s0 &&& 0x7f).toNat <<< 24 ||| s1.toNat <<< 16 ||| s2.toNat <<< 8 ||| s3.toNat },
      rest)
  | _ => none

def deframeFuel (maxFrameSize : Nat) : Nat → Bytes → Option (List (FrameHeader × Bytes))
  | _, [] => some []
  | 0, _ :: _ => none
  | fuel + 1, bytes =>
    match takeHeader bytes with
    | none => none
    | some (header, rest) =>
      if header.size > maxFrameSize ∨ rest.length < header.size then none
      else
        (deframeFuel maxFrameSize fuel (rest.drop header.size)).map fun frames =>
          (header, rest.take header.size) :: frames

/-- The frames that bytes consist of, for a reader that takes no larger ones. -/
def deframe (maxFrameSize : Nat) (bytes : Bytes) : Option (List (FrameHeader × Bytes)) :=
  deframeFuel maxFrameSize bytes.length bytes

variable {header : FrameHeader}

theorem takeHeader_bytes (encodable : header.Encodable) (rest : Bytes) :
    takeHeader (header.bytes ++ rest) = some (header, rest) := by
  simp only [FrameHeader.bytes, bytes24, bytes32, List.cons_append, List.nil_append, takeHeader,
    mask_high_byte encodable.streamId, join_bytes24 encodable.size,
    join_bytes32 (Nat.lt_trans encodable.streamId (by decide))]

variable {rest : Bytes}

theorem length_takeHeader {bytes : Bytes} (taken : takeHeader bytes = some (header, rest)) :
    bytes.length = rest.length + 9 := by
  unfold takeHeader at taken
  split at taken
  · obtain ⟨-, rfl⟩ := Prod.mk.inj (Option.some.inj taken)
    rfl
  · cases taken

theorem length_headerBytes (header : FrameHeader) : header.bytes.length = 9 := rfl

variable {fuel : Nat}

theorem deframeFuel_enough (maxFrameSize : Nat) {fuel' : Nat} {bytes : Bytes}
    (enough : bytes.length ≤ fuel) (enough' : bytes.length ≤ fuel') :
    deframeFuel maxFrameSize fuel bytes = deframeFuel maxFrameSize fuel' bytes := by
  induction fuel generalizing fuel' bytes with
  | zero =>
    obtain rfl := List.length_eq_zero_iff.mp (Nat.le_zero.mp enough)
    simp [deframeFuel]
  | succ fuel ih =>
    cases bytes with
    | nil => simp [deframeFuel]
    | cons first others =>
      obtain _ | fuel' := fuel'
      · simp at enough'
      · simp only [deframeFuel]
        cases taken : takeHeader (first :: others) with
        | none => rfl
        | some part =>
          obtain ⟨header, rest⟩ := part
          have shorter := length_takeHeader taken
          have same := @ih fuel' (rest.drop header.size)
            (by rw [List.length_drop]; omega) (by rw [List.length_drop]; omega)
          dsimp only
          rw [same]

variable {maxFrameSize : Nat} {payload : Bytes}

section

variable (encodable : header.Encodable) (sized : payload.length = header.size)
  (small : header.size ≤ maxFrameSize)
include encodable sized small

theorem deframe_frame (rest : Bytes) : deframe maxFrameSize (frameBytes (header, payload) ++ rest) =
      (deframe maxFrameSize rest).map fun frames => (header, payload) :: frames := by
  have taken := takeHeader_bytes encodable (payload ++ rest)
  have fits : ¬ (header.size > maxFrameSize ∨ (payload ++ rest).length < header.size) := by
    rw [List.length_append]
    omega
  have size : (header.bytes ++ (payload ++ rest)).length = (payload ++ rest).length + 8 + 1 := by
    rw [List.length_append, length_headerBytes]
    omega
  rw [frameBytes, List.append_assoc, deframe, size]
  generalize header.bytes ++ (payload ++ rest) = bytes at taken size
  cases bytes with
  | nil => simp at size
  | cons =>
    have taking : (payload ++ rest).take header.size = payload := by rw [← sized, List.take_left]
    have dropping : (payload ++ rest).drop header.size = rest := by rw [← sized, List.drop_left]
    have enough : rest.length ≤ (payload ++ rest).length + 8 := by
      rw [List.length_append]
      omega
    simp only [deframeFuel, taken, if_neg fits, taking, dropping]
    rw [deframe, deframeFuel_enough maxFrameSize enough (Nat.le_refl _)]

theorem deframe_single :
    deframe maxFrameSize (frameBytes (header, payload)) = some [(header, payload)] := by
  rw [← List.append_nil (frameBytes (header, payload)), deframe_frame encodable sized small]
  rfl

end

variable {frames : List (FrameHeader × Bytes)}

theorem length_deframeFuel {bytes : Bytes}
    (split : deframeFuel maxFrameSize fuel bytes = some frames) :
    (frames.map fun frame => 9 + frame.2.length).sum = bytes.length ∧
      ∀ frame ∈ frames, frame.2.length ≤ maxFrameSize := by
  induction fuel generalizing bytes frames with
  | zero =>
    cases bytes with
    | nil =>
      obtain rfl := Option.some.inj split
      simp
    | cons => cases split
  | succ fuel ih =>
    cases bytes with
    | nil =>
      obtain rfl := Option.some.inj split
      simp
    | cons first others =>
      simp only [deframeFuel] at split
      split at split
      · cases split
      · rename_i header rest taken
        obtain ⟨fits, split⟩ := Option.ite_none_left_eq_some.mp split
        obtain ⟨others, rest_split, rfl⟩ := Option.map_eq_some_iff.mp split
        obtain ⟨sum, limit⟩ := ih rest_split
        have shorter := length_takeHeader taken
        have length : (rest.take header.size).length = header.size := by
          rw [List.length_take]
          omega
        rw [List.length_drop] at sum
        constructor
        · simp only [List.map_cons, List.sum_cons, length]
          omega
        · intro frame found
          rcases List.mem_cons.mp found with rfl | found
          · dsimp only
            omega
          · exact limit frame found

theorem length_deframe {bytes : Bytes} (split : deframe maxFrameSize bytes = some frames) :
    (frames.map fun frame => 9 + frame.2.length).sum = bytes.length ∧
      ∀ frame ∈ frames, frame.2.length ≤ maxFrameSize :=
  length_deframeFuel split

namespace Deframer

variable {World : Type} {host : Host World}

def withHeader (d : Deframer World) (header : FrameHeader) : Deframer World :=
  { d with
    deframeState := .frame
    incomingFrameSize := header.size
    incomingFrameType := header.type
    incomingFrameFlags := header.flags
    incomingStreamId := header.streamId }

def afterFrame (d : Deframer World) (header : FrameHeader) (payload : Bytes)
    (frames : Frames World) : Deframer World :=
  { d.withHeader header with
    deframeState := .fh0
    frames := frames.endFrame
    calls := { header := some header, payload, lastSlices := 1 } :: d.calls }

variable {d : Deframer World}

theorem performRead_header (between : d.deframeState = .fh0) (encodable : header.Encodable)
    (rest : Bytes) :
    d.performRead host (header.bytes ++ rest) =
      match startFrame host (d.withHeader header) rest with
      | .took d' rest' => readFuel (step host) rest.length d' rest'
      | .failed error d' => (some error, d') := by
  have size := join_bytes24 encodable.size
  have streamId := join_bytes32 (Nat.lt_trans encodable.streamId (by decide))
  have high := mask_high_byte encodable.streamId
  obtain ⟨deframeState, _, _, _, _, frames, calls⟩ := d
  obtain rfl : deframeState = .fh0 := between
  simp only [performRead, Segments.read, FrameHeader.bytes, bytes24, bytes32, List.cons_append,
    List.nil_append, List.length_cons, readFuel, step, high, size, streamId, withHeader]
  generalize startFrame host _ rest = taken
  cases taken with
  | took => rfl
  | failed => rfl

theorem readFuel_between (between : d.deframeState = .fh0) (small : d.incomingFrameSize < 16777216)
    (short : rest.length < 4294967296) (enough : rest.length ≤ fuel) :
    readFuel (step host) fuel d rest = d.performRead host rest :=
  readFuel_stable step_shrinks wellFormed_step ⟨small, by simp [between]⟩ short enough
    (Nat.le_refl _)

theorem performRead_frame (between : d.deframeState = .fh0) (encodable : header.Encodable)
    (sized : payload.length = header.size) {begun done : Frames World}
    (begins : d.frames.initFrameParser host header = (none, begun))
    (allowed : begun.flowControlEnabled = true → header.size ≤ begun.ackedSettings.maxFrameSize)
    (parses : begun.parseFrameSlice host payload true = (none, done))
    (short : (payload ++ rest).length < 4294967296) :
    d.performRead host (header.bytes ++ (payload ++ rest)) =
      (d.afterFrame header payload done).performRead host rest := by
  have small := encodable.size
  have short' : (payload ++ rest).length = header.size + rest.length := by
    rw [List.length_append, sized]
  have started : (d.withHeader header).initFrameParser host =
      (none, { d.withHeader header with
        frames := begun
        calls := { header := some header } :: d.calls }) := by
    simp only [initFrameParser, incomingHeader, withHeader, begins]
  rw [performRead_header between encodable, startFrame, started]
  dsimp only
  by_cases empty : header.size = 0
  · -- the frame is complete with its header
    obtain rfl := List.length_eq_zero_iff.mp (sized.trans empty)
    rw [if_pos (show (d.withHeader header).incomingFrameSize = 0 from empty)]
    simp only [parseFrameSlice, parses, List.nil_append]
    exact readFuel_between rfl small (by omega) (Nat.le_refl _)
  · have inLimit : ¬ (begun.flowControlEnabled ∧
        (d.withHeader header).incomingFrameSize > begun.ackedSettings.maxFrameSize) := by
      rintro ⟨enabled, large⟩
      exact absurd (allowed enabled) (Nat.not_le.mpr large)
    rw [if_neg (show ¬ (d.withHeader header).incomingFrameSize = 0 from empty), if_neg inLimit]
    dsimp only
    obtain ⟨first, others, whole⟩ : ∃ first others, payload ++ rest = first :: others := by
      cases payload with
      | nil => exact absurd sized.symm empty
      | cons first others => exact ⟨first, others ++ rest, rfl⟩
    have taken : step host { d.withHeader header with
          frames := begun
          calls := { header := some header } :: d.calls } (payload ++ rest) =
        .took (d.afterFrame header payload done) rest := by
      rw [whole, step, ← whole, readPayload_eq _ short]
      have all : payload.length ≤ (payload ++ rest).length := by omega
      simp only [withHeader, afterFrame, ← sized, all, decide_true, if_true, List.take_left,
        List.drop_left, parseFrameSlice, parses]
      rfl
    have shorter : (payload ++ rest).length = others.length + 1 := by rw [whole, List.length_cons]
    rw [shorter, whole, readFuel, ← whole, taken]
    exact readFuel_between rfl small (by omega) (by omega)

end Deframer

inductive Frames.Accepts {World : Type} (host : Host World) :
    Frames World → List (FrameHeader × Bytes) → Frames World → Prop where
  | nil (f : Frames World) : Accepts host f [] f
  | cons {f begun done f' : Frames World} {header : FrameHeader} {payload : Bytes}
      {frames : List (FrameHeader × Bytes)} (encodable : header.Encodable)
      (sized : payload.length = header.size)
      (begins : f.initFrameParser host header = (none, begun))
      (allowed : begun.flowControlEnabled = true →
        header.size ≤ begun.ackedSettings.maxFrameSize)
      (parses : begun.parseFrameSlice host payload true = (none, done))
      (rest : Accepts host done.endFrame frames f') :
      Accepts host f ((header, payload) :: frames) f'

end GrpcCore.Transport
