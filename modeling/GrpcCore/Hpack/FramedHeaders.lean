import GrpcCore.Hpack.Framer
import GrpcCore.Hpack.FusedRoundTrip
import GrpcCore.Slice.SliceContent

/-!
# A header block as a sequence of frames

Whatever the framer is given, its output is finished frames, then the reserved header of
the frame it is filling and that frame's payload so far.
-/

namespace GrpcCore.Hpack

open SliceBuffer

/-- A frame with its header fields. -/
structure Frame where
  length : Nat
  type : UInt8
  flags : UInt8
  streamId : Nat
  payload : Bytes
deriving DecidableEq

namespace Frame

def read : Bytes → Option (Frame × Bytes)
  | b0 :: b1 :: b2 :: type :: flags :: i0 :: i1 :: i2 :: i3 :: rest =>
    let length := b0.toNat <<< 16 ||| b1.toNat <<< 8 ||| b2.toNat
    let streamId := i0.toNat <<< 24 ||| i1.toNat <<< 16 ||| i2.toNat <<< 8 ||| i3.toNat
    if rest.length < length then none
    else some ({ length, type, flags, streamId, payload := rest.take length }, rest.drop length)
  | _ => none

/-- Frames until the bytes end. -/
def readAll : Nat → Bytes → Option (List Frame)
  | _, [] => some []
  | 0, _ => none
  | fuel + 1, bytes => (read bytes).bind fun (frame, rest) => (readAll fuel rest).map (frame :: ·)

end Frame

def EncodeHeaderOptions.frame (options : EncodeHeaderOptions) (index : Nat) (isLast : Bool)
    (payload : Bytes) : Frame where
  length := payload.length
  type := if index = 0 then GRPC_CHTTP2_FRAME_HEADER else GRPC_CHTTP2_FRAME_CONTINUATION
  flags :=
    (if index = 0 ∧ options.isEndOfStream then GRPC_CHTTP2_DATA_FLAG_END_STREAM else 0) |||
      if isLast then GRPC_CHTTP2_DATA_FLAG_END_HEADERS else 0
  streamId := options.streamId.toNat
  payload

/-- Frames that carry a header block: all fields are those of their position, no payload
is longer than the limit, and together they are the encoding. -/
structure HeaderBlock (options : EncodeHeaderOptions) (encoding : Bytes) (frames : List Frame) :
    Prop where
  nonempty : frames ≠ []
  fields : ∀ index frame, frames[index]? = some frame →
    frame = options.frame index (index + 1 = frames.length) frame.payload
  limit : ∀ frame ∈ frames, frame.payload.length ≤ options.maxFrameSize
  payloads : frames.flatMap Frame.payload = encoding

def Frame.wire (options : EncodeHeaderOptions) (frame : Frame) : Bytes :=
  fillHeader frame.type options.streamId frame.payload.length frame.flags ++ frame.payload

theorem length_fillHeader (type : UInt8) (id : UInt32) (len : Nat) (flags : UInt8) :
    (fillHeader type id len flags).length = kDataFrameHeaderSize := rfl

theorem Frame.read_fillHeader (type : UInt8) (id : UInt32) (flags : UInt8) {payload : Bytes}
    (small : payload.length < 16777216) (rest : Bytes) :
    Frame.read (fillHeader type id payload.length flags ++ (payload ++ rest)) =
      some ({ length := payload.length, type, flags, streamId := id.toNat, payload }, rest) := by
  have length := BigEndian.join_bytes24 small
  have streamId := BigEndian.join_bytes32 id.toNat_lt
  have inside : ¬ (payload ++ rest).length < payload.length := by
    rw [List.length_append]
    omega
  change (if (payload ++ rest).length < _ then none
    else some ((⟨_, type, flags, _, (payload ++ rest).take _⟩ : Frame),
      (payload ++ rest).drop _)) = _
  rw [length, streamId, if_neg inside, List.take_left' rfl, List.drop_left' rfl]

theorem Frame.read_wire (options : EncodeHeaderOptions) (index : Nat) (isLast : Bool)
    {payload : Bytes} (fits : payload.length ≤ options.maxFrameSize) (rest : Bytes) :
    Frame.read ((options.frame index isLast payload).wire options ++ rest) =
      some (options.frame index isLast payload, rest) := by
  have small : payload.length < 16777216 := Nat.lt_succ_of_le (Nat.le_trans fits options.atMost)
  rw [wire, List.append_assoc]
  exact Frame.read_fillHeader _ _ _ small rest

theorem flags_eq (first : Prop) [Decidable first] (isEndOfStream isLast : Bool) :
    (if isLast then
        (if decide first && isEndOfStream then GRPC_CHTTP2_DATA_FLAG_END_STREAM else 0) |||
          GRPC_CHTTP2_DATA_FLAG_END_HEADERS
      else if decide first && isEndOfStream then GRPC_CHTTP2_DATA_FLAG_END_STREAM else 0) =
      (if first ∧ isEndOfStream then GRPC_CHTTP2_DATA_FLAG_END_STREAM else 0) |||
        if isLast then GRPC_CHTTP2_DATA_FLAG_END_HEADERS else 0 := by
  by_cases isFirst : first
  · cases isEndOfStream <;> cases isLast <;> simp [isFirst]
  · cases isEndOfStream <;> cases isLast <;> simp [isFirst]

def finishedFrames (options : EncodeHeaderOptions) (payloads : List Bytes) : Bytes :=
  (payloads.mapIdx fun index payload => (options.frame index false payload).wire options).flatten

/-- The state of a framer: the payloads of the finished frames, and the one it is filling. -/
structure Framing (options : EncodeHeaderOptions) (before : Bytes) (framer : Framer)
    (payloads : List Bytes) (payload : Bytes) : Prop where
  settings : framer.options = options
  output : ∃ front header rest, framer.output.slices = front ++ header :: rest ∧
    front.length = framer.headerIdx ∧ kDataFrameHeaderSize ≤ header.bytes.length ∧
      contentOf front = before ++
        finishedFrames options payloads ∧
      contentOf (header :: rest) = List.replicate kDataFrameHeaderSize 0 ++ payload
  length : framer.output.length = framer.outputLengthAtStartOfFrame + payload.length
  first : framer.isFirstFrame = decide (payloads.length = 0)
  fits : ∀ payload' ∈ payloads, payload'.length ≤ options.maxFrameSize
  fitting : payload.length ≤ options.maxFrameSize

namespace Framing

variable {options : EncodeHeaderOptions} {before : Bytes} {framer : Framer}
  {payloads : List Bytes} {payload : Bytes}

theorem size (framing : Framing options before framer payloads payload) :
    framer.currentFrameSize = payload.length := by
  rw [Framer.currentFrameSize, framing.length]
  exact Nat.add_sub_cancel_left _ _

theorem begin
    (content : framer.output.content = before ++ finishedFrames options payloads)
    (same : framer.options = options) (first : framer.isFirstFrame = decide (payloads.length = 0))
    (fits : ∀ payload' ∈ payloads, payload'.length ≤ options.maxFrameSize) :
    Framing options before framer.beginFrame payloads [] where
  settings := same
  output := ⟨framer.output.slices, Framer.reserved, [], slices_addIndexed _ _, rfl, by decide,
    content, rfl⟩
  length := rfl
  first := first
  fits := fits
  fitting := Nat.zero_le _

theorem content_finishFrame (framing : Framing options before framer payloads payload)
    (isHeaderBoundary : Bool) :
    (framer.finishFrame isHeaderBoundary).output.content = (before ++
      finishedFrames options payloads) ++
        (options.frame payloads.length isHeaderBoundary payload).wire options := by
  obtain ⟨front, header, rest, slices, position, long, finished, current⟩ := framing.output
  obtain ⟨written, isWritten⟩ : ∃ written, written =
      fillHeader (options.frame payloads.length isHeaderBoundary payload).type options.streamId
        payload.length (options.frame payloads.length isHeaderBoundary payload).flags := ⟨_, rfl⟩
  have wrote : (framer.finishFrame isHeaderBoundary).output.slices =
      framer.output.slices.modify framer.headerIdx (Slice.writeStart written) := by
    rw [isWritten, Framer.finishFrame]
    rw [framing.size, framing.settings, framing.first, flags_eq]
    simp only [decide_eq_true_eq]
    rfl
  have modified : framer.output.slices.modify framer.headerIdx (Slice.writeStart written) =
      front ++ header.writeStart written :: rest := by
    rw [slices, ← position]
    exact List.modifyTailIdx_add _ 0 front (header :: rest)
  have tail : header.bytes.drop kDataFrameHeaderSize ++ contentOf rest = payload := by
    rw [← List.drop_append_of_le_length long]
    change (contentOf (header :: rest)).drop kDataFrameHeaderSize = payload
    rw [current]
    exact List.drop_left' List.length_replicate
  have length : written.length = kDataFrameHeaderSize := by rw [isWritten, length_fillHeader]
  rw [SliceBuffer.content, wrote, modified, contentOf_append, contentOf_cons, finished,
    Slice.bytes_writeStart, List.take_of_length_le (by rw [length]; exact long), length,
    List.append_assoc written, tail, isWritten]
  rfl

theorem finishedFrames_concat (options : EncodeHeaderOptions) (payloads : List Bytes)
    (payload : Bytes) : finishedFrames options (payloads ++ [payload]) =
      finishedFrames options payloads ++ (options.frame payloads.length false payload).wire options := by
  rw [finishedFrames, finishedFrames, List.mapIdx_concat, List.flatten_append, List.flatten_cons,
    List.flatten_nil, List.append_nil]

theorem next (framing : Framing options before framer payloads payload) :
    Framing options before (framer.finishFrame false).beginFrame (payloads ++ [payload]) [] := by
  have content : (framer.finishFrame false).output.content =
      before ++ finishedFrames options (payloads ++ [payload]) := by
    rw [framing.content_finishFrame, finishedFrames_concat, List.append_assoc]
  have more : ¬ (payloads ++ [payload]).length = 0 := by
    rw [List.length_append, List.length_singleton]
    exact Nat.succ_ne_zero _
  apply Framing.begin content framing.settings (decide_eq_false more).symm
  intro payload' listed
  rcases List.mem_append.mp listed with earlier | last
  · exact framing.fits payload' earlier
  · rw [List.mem_singleton.mp last]
    exact framing.fitting

theorem append (framing : Framing options before framer payloads payload) {output : SliceBuffer}
    {data : Bytes} (appends : Appends framer.output output data)
    (room : payload.length + data.length ≤ options.maxFrameSize) :
    Framing options before { framer with output } payloads (payload ++ data) := by
  obtain ⟨front, header, rest, slices, position, long, finished, current⟩ := framing.output
  obtain ⟨grown, rest', slices', starts, content⟩ := appends.behind slices
  refine { framing with output := ?_, length := ?_, fitting := ?_ }
  · refine ⟨front, grown, rest', slices', position, Nat.le_trans long starts.length_le, finished, ?_⟩
    rw [content, current, List.append_assoc]
  · rw [List.length_append, ← Nat.add_assoc, ← framing.length]
    exact appends.length
  · rw [List.length_append]
    exact room

end Framing

def Carries (options : EncodeHeaderOptions) (before : Bytes) (framer : Framer) (encoded : Bytes) :
    Prop :=
  ∃ payloads payload, Framing options before framer payloads payload ∧
    payloads.flatten ++ payload = encoded

namespace Carries

variable {options : EncodeHeaderOptions} {before encoded : Bytes} {framer : Framer}

theorem init (options : EncodeHeaderOptions) (output : SliceBuffer) :
    Carries options output.content (Framer.init options output) [] := by
  have content : output.content = output.content ++ finishedFrames options [] :=
    (List.append_nil _).symm
  exact ⟨[], [], Framing.begin content rfl rfl (List.forall_mem_nil _), rfl⟩

section

variable (carries : Carries options before framer encoded)
include carries

theorem next : Carries options before (framer.finishFrame false).beginFrame encoded := by
  obtain ⟨payloads, payload, framing, whole⟩ := carries
  refine ⟨payloads ++ [payload], [], framing.next, ?_⟩
  rw [List.flatten_append, List.flatten_cons, List.flatten_nil, List.append_nil, List.append_nil]
  exact whole

theorem append {output : SliceBuffer} {data : Bytes} (appends : Appends framer.output output data)
    (room : framer.currentFrameSize + data.length ≤ options.maxFrameSize) :
    Carries options before { framer with output } (encoded ++ data) := by
  obtain ⟨payloads, payload, framing, whole⟩ := carries
  rw [framing.size] at room
  refine ⟨payloads, payload ++ data, framing.append appends room, ?_⟩
  rw [← whole, List.append_assoc]

theorem settings : framer.options = options ∧ framer.currentFrameSize ≤ options.maxFrameSize := by
  obtain ⟨payloads, payload, framing, whole⟩ := carries
  rw [framing.size]
  exact ⟨framing.settings, framing.fitting⟩

theorem addTiny {bytes : Bytes} (small : bytes.length ≤ GRPC_SLICE_INLINED_SIZE) :
    Carries options before (framer.addTiny bytes small) (encoded ++ bytes) := by
  rw [Framer.addTiny, Framer.ensureSpace, carries.settings.1]
  split
  next room => exact carries.append (appends_tinyAdd _ small) room
  next =>
    apply carries.next.append (appends_tinyAdd _ small)
    have least := options.atLeast
    rw [GRPC_SLICE_INLINED_SIZE] at small
    rw [Framer.currentFrameSize_beginFrame]
    omega

theorem add (slice : Slice) :
    Carries options before (framer.add slice) (encoded ++ slice.bytes) := by
  induction framer, slice using Framer.add.induct generalizing encoded with
  | case1 framer slice =>
    rename_i empty
    have nothing : slice.bytes = [] := List.eq_nil_of_length_eq_zero empty
    rw [Framer.add, if_pos empty, nothing, List.append_nil]
    exact carries
  | case2 framer slice len filled =>
    rename_i fits
    obtain ⟨settings, fitting⟩ := carries.settings
    rw [Framer.add, if_neg filled, if_pos fits]
    apply carries.append (appends_add framer.output slice)
    have fits : slice.length ≤ framer.options.maxFrameSize - framer.currentFrameSize := fits
    rw [settings] at fits
    change framer.currentFrameSize + slice.length ≤ _
    omega
  | case3 framer slice len filled remaining large split =>
    rename_i ih
    obtain ⟨settings, fitting⟩ := carries.settings
    obtain ⟨head, rest⟩ := Slice.bytes_splitHead slice remaining
    have first : Carries options before { framer with output := framer.output.add split.1 }
        (encoded ++ slice.bytes.take remaining) := by
      rw [← head]
      apply carries.append (appends_add framer.output split.1)
      have remains : remaining = framer.options.maxFrameSize - framer.currentFrameSize := rfl
      have short := List.length_take_le remaining slice.bytes
      rw [settings] at remains
      rw [head]
      omega
    have later := ih first.next
    rw [rest, List.append_assoc, List.take_append_drop] at later
    rw [Framer.add, if_neg filled, if_neg large]
    exact later

theorem emit (piece : Piece) :
    Carries options before (framer.emit piece) (encoded ++ piece.bytes) := by
  cases piece with
  | tiny bytes small => exact carries.addTiny small
  | whole slice => exact carries.add slice

theorem foldl_emit (pieces : List Piece) : Carries options before (pieces.foldl Framer.emit framer)
      (encoded ++ pieces.flatMap Piece.bytes) := by
  induction pieces generalizing framer encoded with
  | nil =>
    rw [List.flatMap_nil, List.append_nil]
    exact carries
  | cons piece pieces ih =>
    rw [List.flatMap_cons, ← List.append_assoc]
    exact ih (carries.emit piece)

end

end Carries

theorem Frame.readAll_flatMap {options : EncodeHeaderOptions} {frames : List Frame}
    (readable : ∀ frame ∈ frames, ∀ rest,
      Frame.read (frame.wire options ++ rest) = some (frame, rest)) {fuel : Nat}
    (enough : frames.length ≤ fuel) :
    Frame.readAll fuel (frames.flatMap (Frame.wire options)) = some frames := by
  induction frames generalizing fuel with
  | nil => cases fuel <;> rfl
  | cons frame frames ih =>
    cases fuel with
    | zero => exact absurd enough (Nat.not_succ_le_zero _)
    | succ fuel =>
      have rest := ih
        (fun frame' listed => readable frame' (List.mem_cons_of_mem frame listed))
        (Nat.le_of_succ_le_succ enough)
      have first := readable frame List.mem_cons_self (frames.flatMap (Frame.wire options))
      have step : Frame.readAll (fuel + 1)
          (frame.wire options ++ frames.flatMap (Frame.wire options)) =
            (Frame.read (frame.wire options ++ frames.flatMap (Frame.wire options))).bind
              fun (frame, rest) => (Frame.readAll fuel rest).map (frame :: ·) := rfl
      rw [List.flatMap_cons, step, first, Option.bind_some]
      dsimp only
      rw [rest]
      rfl

theorem Frame.length_le_length_flatMap (options : EncodeHeaderOptions) (frames : List Frame) :
    frames.length ≤ (frames.flatMap (Frame.wire options)).length := by
  induction frames with
  | nil => exact Nat.le_refl 0
  | cons =>
    rw [List.flatMap_cons, List.length_append, Frame.wire, List.length_append, length_fillHeader,
      List.length_cons, kDataFrameHeaderSize]
    omega

theorem map_mapIdx {α β γ : Type} (f : β → γ) (g : Nat → α → β) (list : List α) :
    (list.mapIdx g).map f = list.mapIdx fun index a => f (g index a) := by
  refine (List.mapIdx_eq_iff.mpr fun index => ?_).symm
  rw [List.getElem?_map, List.getElem?_mapIdx, Option.map_map]
  rfl

/-- All frames of a block, the last of which carries `payload`. -/
def blockFrames (options : EncodeHeaderOptions) (payloads : List Bytes) (payload : Bytes) :
    List Frame :=
  (payloads.mapIdx fun index payload => options.frame index false payload) ++
    [options.frame payloads.length true payload]

section Block

variable {options : EncodeHeaderOptions} {payloads : List Bytes} {payload : Bytes}

theorem flatMap_wire_blockFrames (options : EncodeHeaderOptions) (payloads : List Bytes)
    (payload : Bytes) : (blockFrames options payloads payload).flatMap (Frame.wire options) =
      finishedFrames options payloads ++
        (options.frame payloads.length true payload).wire options := by
  rw [blockFrames, List.flatMap_append, finishedFrames, List.flatMap_def, map_mapIdx,
    List.flatMap_cons, List.flatMap_nil, List.append_nil]

theorem flatMap_payload_blockFrames :
    (blockFrames options payloads payload).flatMap Frame.payload =
      payloads.flatten ++ payload := by
  have payloads_eq : (payloads.mapIdx fun _ payload => payload) = payloads :=
    List.mapIdx_eq_iff.mpr fun index => (Option.map_id_apply).symm
  rw [blockFrames, List.flatMap_append, List.flatMap_def, map_mapIdx, List.flatMap_cons,
    List.flatMap_nil, List.append_nil]
  change (payloads.mapIdx fun _ payload => payload).flatten ++ payload = _
  rw [payloads_eq]

theorem mem_blockFrames {frame : Frame} (listed : frame ∈ blockFrames options payloads payload) :
    ∃ index isLast, ∃ payload' ∈ payloads ++ [payload],
      frame = options.frame index isLast payload' := by
  rcases List.mem_append.mp listed with earlier | last
  · obtain ⟨index, inside, same⟩ := List.mem_mapIdx.mp earlier
    exact ⟨index, false, _, List.mem_append_left _ (List.getElem_mem inside), same.symm⟩
  · exact ⟨_, true, payload, List.mem_append_right _ List.mem_cons_self, List.mem_singleton.mp last⟩

theorem getElem?_blockFrames {index : Nat} {frame : Frame}
    (found : (blockFrames options payloads payload)[index]? = some frame) :
    ∃ payload', frame = options.frame index (decide (index = payloads.length)) payload' := by
  have total : (payloads.mapIdx fun index payload => options.frame index false payload).length =
      payloads.length := List.length_mapIdx
  rcases Nat.lt_trichotomy index payloads.length with earlier | last | beyond
  · rw [blockFrames, List.getElem?_append_left (total.symm ▸ earlier), List.getElem?_mapIdx,
      List.getElem?_eq_getElem earlier] at found
    rw [decide_eq_false (Nat.ne_of_lt earlier)]
    exact ⟨_, (Option.some.inj found).symm⟩
  · rw [blockFrames, List.getElem?_append_right (Nat.le_of_eq (total.trans last.symm)), total, last,
      Nat.sub_self] at found
    rw [last, decide_eq_true rfl]
    exact ⟨payload, (Option.some.inj found).symm⟩
  · rw [blockFrames, List.getElem?_eq_none] at found
    · exact nomatch found
    · rw [List.length_append, total, List.length_singleton]
      exact beyond

section

variable (fits : ∀ payload' ∈ payloads ++ [payload], payload'.length ≤ options.maxFrameSize)
include fits

theorem headerBlock_blockFrames :
    HeaderBlock options (payloads.flatten ++ payload) (blockFrames options payloads payload) where
  nonempty := List.append_ne_nil_of_right_ne_nil _ (List.cons_ne_nil _ _)
  fields index frame found := by
    have total : (blockFrames options payloads payload).length = payloads.length + 1 := by
      rw [blockFrames, List.length_append, List.length_mapIdx, List.length_singleton]
    obtain ⟨payload', same⟩ := getElem?_blockFrames found
    rw [same, total]
    simp only [Nat.add_right_cancel_iff]
    rfl
  limit frame listed := by
    obtain ⟨index, isLast, payload', listed, same⟩ := mem_blockFrames listed
    rw [same]
    exact fits payload' listed
  payloads := flatMap_payload_blockFrames

theorem readAll_blockFrames :
    let written := (blockFrames options payloads payload).flatMap (Frame.wire options)
    Frame.readAll written.length written = some (blockFrames options payloads payload) := by
  apply Frame.readAll_flatMap _ (Frame.length_le_length_flatMap options _)
  intro frame listed rest
  obtain ⟨index, isLast, payload', listed, same⟩ := mem_blockFrames listed
  rw [same]
  exact Frame.read_wire options index isLast (fits payload' listed) rest

end

end Block

theorem getWireValue_isSome (value : Slice) (trueBinaryEnabled isBinHdr : Bool) :
    ∃ wireValue, getWireValue value trueBinaryEnabled isBinHdr = some wireValue := by
  obtain ⟨_, _, compressed, _⟩ := fused_eq value.bytes
  cases isBinHdr with
  | false => exact ⟨_, rfl⟩
  | true =>
    cases trueBinaryEnabled with
    | true => exact ⟨_, rfl⟩
    | false =>
      rw [getWireValue, compressed]
      exact ⟨_, rfl⟩

theorem Emission.pieces_isSome (useTrueBinary : Bool) (emission : Emission) :
    ∃ pieces, emission.pieces useTrueBinary = some pieces := by
  have indexed (prefixBits : Nat) (type : UInt8) (keyIndex : Nat) (key value : Slice) :
      ∃ pieces, indexedKeyPieces useTrueBinary prefixBits type keyIndex key value = some pieces := by
    obtain ⟨wireValue, some_eq⟩ := getWireValue_isSome value useTrueBinary (isBinaryHeader key.bytes)
    rw [indexedKeyPieces, some_eq]
    exact ⟨_, rfl⟩
  have string (type : UInt8) (isBinary : Bool) (key value : Slice) :
      ∃ pieces, stringKeyPieces useTrueBinary type isBinary key value = some pieces := by
    obtain ⟨wireValue, some_eq⟩ := getWireValue_isSome value useTrueBinary isBinary
    rw [stringKeyPieces, some_eq]
    exact ⟨_, rfl⟩
  cases emission with
  | indexed => exact ⟨_, rfl⟩
  | litHdrIncIdx keyIndex key value => exact indexed 2 0x40 keyIndex key value
  | litHdrNotIdx keyIndex key value => exact indexed 4 0x00 keyIndex key value
  | litHdrWithStringKeyIncIdx key value => exact string 0x40 _ key value
  | litHdrWithNonBinaryStringKeyIncIdx key value => exact string 0x40 false key value
  | litHdrWithStringKeyNotIdx key value => exact string 0x00 _ key value
  | advertiseTableSizeChange => exact ⟨_, rfl⟩

theorem blockPieces_isSome (useTrueBinary : Bool) (emissions : List Emission) :
    ∃ pieces, blockPieces useTrueBinary emissions = some pieces := by
  induction emissions with
  | nil => exact ⟨[], rfl⟩
  | cons emission emissions ih =>
    obtain ⟨pieces, first⟩ := emission.pieces_isSome useTrueBinary
    obtain ⟨later, rest⟩ := ih
    rw [blockPieces, first, Option.bind_some, rest]
    exact ⟨_, rfl⟩

/-- A header block is cut into frames that are read back as one block with its encoding. -/
theorem encodeHeaders_framed (options : EncodeHeaderOptions) (emissions : List Emission)
    (output : SliceBuffer) : ∃ encoding final appended frames,
      unframed options.useTrueBinaryMetadata emissions = some encoding ∧
        encodeHeaders options emissions output = some final ∧
        final.content = output.content ++ appended ∧
        Frame.readAll appended.length appended = some frames ∧
        HeaderBlock options encoding frames := by
  obtain ⟨pieces, pieces_eq⟩ := blockPieces_isSome options.useTrueBinaryMetadata emissions
  obtain ⟨payloads, payload, framing, whole⟩ := (Carries.init options output).foldl_emit pieces
  have fits : ∀ payload' ∈ payloads ++ [payload], payload'.length ≤ options.maxFrameSize := by
    intro payload' listed
    rcases List.mem_append.mp listed with earlier | last
    · exact framing.fits payload' earlier
    · rw [List.mem_singleton.mp last]
      exact framing.fitting
  refine ⟨pieces.flatMap Piece.bytes,
    ((pieces.foldl Framer.emit (Framer.init options output)).finishFrame true).output,
    (blockFrames options payloads payload).flatMap (Frame.wire options),
    blockFrames options payloads payload, ?_, ?_, ?_, readAll_blockFrames fits, ?_⟩
  · rw [unframed, pieces_eq]
    rfl
  · rw [encodeHeaders, pieces_eq]
    rfl
  · rw [framing.content_finishFrame true, List.append_assoc, flatMap_wire_blockFrames]
  · rw [← List.nil_append (pieces.flatMap _), ← whole]
    exact headerBlock_blockFrames fits

end GrpcCore.Hpack
