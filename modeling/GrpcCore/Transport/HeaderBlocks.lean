import GrpcCore.Hpack.BlockSplit
import GrpcCore.Lib.Run
import GrpcCore.Transport.HeaderFrames

/-!
# Header blocks on live streams

A frame for a stream that is open for reading does to the stream's batch and to
the dynamic table what the header parser does on its own; blocks of such frames
begin and end with nothing left over.
-/

namespace GrpcCore.Transport

open Hpack IncomingStream HPackParser

def HeaderFrame.part (frame : HeaderFrame) (headerEof : Bool) : FramePart where
  payload := frame.payload
  boundary := if frame.isEoh then if headerEof then .endOfStream else .endOfHeaders else .none
  priority := frame.priorityType

variable {slot : MetadataSlot}

namespace IncomingStream

@[simp] theorem buffer_setBuffer (s : IncomingStream) (slot : MetadataSlot)
    (batch : MetadataBatch) : (s.setBuffer slot batch).buffer slot = batch := by
  cases slot <;> rfl

theorem buffer_setBuffer_of_ne (s : IncomingStream) {other : MetadataSlot}
    (different : other ≠ slot) (batch : MetadataBatch) :
    (s.setBuffer slot batch).buffer other = s.buffer other := by
  cases slot <;> cases other <;> first | rfl | exact absurd rfl different

@[simp] theorem setBuffer_setBuffer (s : IncomingStream) (slot : MetadataSlot)
    (batch batch' : MetadataBatch) :
    (s.setBuffer slot batch).setBuffer slot batch' = s.setBuffer slot batch' := by
  cases slot <;> rfl

@[simp] theorem readClosed_setBuffer (s : IncomingStream) (slot : MetadataSlot)
    (batch : MetadataBatch) : (s.setBuffer slot batch).readClosed = s.readClosed := by
  cases slot <;> rfl

@[simp] theorem headerFramesReceived_setBuffer (s : IncomingStream) (slot : MetadataSlot)
    (batch : MetadataBatch) :
    (s.setBuffer slot batch).headerFramesReceived = s.headerFramesReceived := by
  cases slot <;> rfl

end IncomingStream

namespace HeaderReader

variable (r : HeaderReader)

theorem lookup_setStream (id : Nat) (s : IncomingStream) (present : (r.lookupStream id).isSome) :
    (r.setStream id s).lookupStream id = some s := by
  unfold lookupStream at present ⊢
  simp only [setStream]
  revert present
  induction r.streams with
  | nil => simp
  | cons entry streams ih =>
    obtain ⟨key, value⟩ := entry
    intro present
    by_cases same : key = id
    · simp [same]
    · have other : (id == key) = false := by simpa using fun h => same h.symm
      rw [List.lookup_cons, other] at present
      simp only [List.map_cons, if_neg same, List.lookup_cons, other]
      exact ih present

theorem setStream_setStream (id : Nat) (s s' : IncomingStream) :
    (r.setStream id s).setStream id s' = r.setStream id s' := by
  simp only [setStream, List.map_map]
  congr 1
  apply List.map_congr_left
  intro entry _
  by_cases same : entry.1 = id <;> simp [same]

def Accepts (r : HeaderReader) (frame : HeaderFrame) : Prop :=
  if r.expectContinuationStreamId ≠ 0 then
    frame.type = .continuation ∧ frame.streamId = r.expectContinuationStreamId
  else frame.type = .headers

variable {frame : HeaderFrame}

theorem initFrameParser_accepts {r : HeaderReader} (accepts : r.Accepts frame) :
    r.initFrameParser frame = r.initHeaderFrameParser frame := by
  unfold Accepts at accepts
  unfold initFrameParser
  split at accepts
  · rename_i expecting
    simp [expecting, accepts.1, accepts.2]
  · rename_i idle
    rw [if_neg idle, accepts]

/-- The stream is open for reading and `slot` is the batch its next block fills. -/
structure Live (r : HeaderReader) (frame : HeaderFrame) (s : IncomingStream)
    (slot : MetadataSlot) : Prop where
  found : r.lookupStream frame.streamId = some s
  reading : s.readClosed = false
  slot_eq : (r.noteFlags frame).metadataSlot s = some slot

def liveParser (r : HeaderReader) (frame : HeaderFrame) (s : IncomingStream)
    (slot : MetadataSlot) : HPackParser :=
  let part := frame.part (r.noteFlags frame).headerEof
  r.hpackParser.beginFrame (some (s.buffer slot)) r.maxHeaderListSize part.boundary part.priority

def afterFrame (r : HeaderReader) (frame : HeaderFrame) (s : IncomingStream)
    (hpackParser : HPackParser) (incoming : Option (Nat × MetadataSlot)) : HeaderReader :=
  { (r.noteFlags frame).setStream frame.streamId s with
    hpackParser
    incomingStream := incoming.map Prod.fst
    incomingBuffer := incoming.map Prod.snd }

theorem buffer_noteEos (s : IncomingStream) (slot : MetadataSlot) :
    (r.noteEos s).buffer slot = s.buffer slot := by
  unfold noteEos
  split <;> cases slot <;> rfl

theorem metadataSlot_noteEos (r' : HeaderReader) (s : IncomingStream) :
    r.metadataSlot (r'.noteEos s) = r.metadataSlot s := by
  unfold noteEos
  split <;> rfl

variable {s : IncomingStream}

theorem initFrameParser_live {r : HeaderReader} (accepts : r.Accepts frame)
    (live : r.Live frame s slot) :
    r.initFrameParser frame = .ok (r.afterFrame frame ((r.noteFlags frame).noteEos s)
      (r.liveParser frame s slot) (some (frame.streamId, slot))) := by
  have found : (r.noteFlags frame).lookupStream frame.streamId = some s := live.found
  have slotted : metadataSlot
      (setStream { r.noteFlags frame with incomingStream := some frame.streamId }
        frame.streamId ((r.noteFlags frame).noteEos s)) ((r.noteFlags frame).noteEos s) =
      some slot := (metadataSlot_noteEos _ _ s).trans live.slot_eq
  rw [initFrameParser_accepts accepts, initHeaderFrameParser]
  simp only [found, initKnownStream, live.reading, Bool.false_eq_true, if_false,
    initLiveFrameParser]
  rw [show noteEos { r.noteFlags frame with incomingStream := some frame.streamId } s =
    (r.noteFlags frame).noteEos s from rfl, slotted]
  simp only [buffer_noteEos]
  rfl

variable {batch : MetadataBatch}

theorem buffering_parse {p : HPackParser} (buffering : p.metadataBuffer = some batch)
    (payload : Bytes) (isLast : Bool) :
    ∃ batch', (p.parse payload isLast).2.metadataBuffer = some batch' := by
  have grown := (grows_parse p payload isLast).2.2
  cases after : (p.parse payload isLast).2.metadataBuffer with
  | none => simp [buffering, after] at grown
  | some batch' => exact ⟨batch', rfl⟩

theorem storeBuffer_afterFrame (frame : HeaderFrame) (s : IncomingStream) (slot : MetadataSlot)
    (p : HPackParser) (present : (r.lookupStream frame.streamId).isSome)
    (buffering : p.metadataBuffer = some batch) :
    (r.afterFrame frame s p (some (frame.streamId, slot))).storeBuffer =
      r.afterFrame frame (s.setBuffer slot batch) p (some (frame.streamId, slot)) := by
  have found : (r.afterFrame frame s p (some (frame.streamId, slot))).lookupStream
      frame.streamId = some s := lookup_setStream (r.noteFlags frame) frame.streamId s present
  have replaced := setStream_setStream (r.noteFlags frame) frame.streamId s (s.setBuffer slot batch)
  unfold storeBuffer
  rw [show (r.afterFrame frame s p (some (frame.streamId, slot))).incomingStream =
      some frame.streamId from rfl,
    show (r.afterFrame frame s p (some (frame.streamId, slot))).incomingBuffer = some slot
      from rfl,
    show (r.afterFrame frame s p (some (frame.streamId, slot))).hpackParser.metadataBuffer =
      some batch from buffering]
  simp only [found]
  unfold afterFrame
  rw [← replaced]
  rfl

theorem finishFrame_afterFrame (frame : HeaderFrame) (s : IncomingStream) (slot : MetadataSlot)
    (p : HPackParser) (present : (r.lookupStream frame.streamId).isSome)
    (few : s.headerFramesReceived ≠ 2) :
    (r.afterFrame frame s p (some (frame.streamId, slot))).finishFrame =
      (none, r.afterFrame frame (publish p.boundary s) p.finishFrame none) := by
  have found : (r.afterFrame frame s p (some (frame.streamId, slot))).lookupStream
      frame.streamId = some s := lookup_setStream (r.noteFlags frame) frame.streamId s present
  have replaced := setStream_setStream (r.noteFlags frame) frame.streamId s (publish p.boundary s)
  unfold finishFrame
  rw [show (r.afterFrame frame s p (some (frame.streamId, slot))).incomingStream =
    some frame.streamId from rfl]
  have notThird : (s.headerFramesReceived == 2) = false := by simpa using few
  simp only [publishHeaders, found, notThird, Bool.and_false, Bool.false_eq_true, if_false]
  unfold afterFrame
  rw [← replaced]
  rfl

theorem headerFramesReceived_of_slot {r : HeaderReader} (slotted : r.metadataSlot s = some slot) :
    s.headerFramesReceived < 2 := by
  unfold metadataSlot at slotted
  split at slotted
  · omega
  · omega
  · cases slotted

theorem headerFramesReceived_noteEos (s : IncomingStream) :
    (r.noteEos s).headerFramesReceived = s.headerFramesReceived := by
  unfold noteEos
  split <;> rfl

theorem consume_live {r : HeaderReader} (accepts : r.Accepts frame) (live : r.Live frame s slot) :
    r.consume frame =
      match (r.liveParser frame s slot).parse frame.payload true with
      | (some error, p) =>
        (some (.hpack error), r.afterFrame frame
          (((r.noteFlags frame).noteEos s).setBuffer slot (p.metadataBuffer.getD {})) p
          (some (frame.streamId, slot)))
      | (none, p) =>
        (none, r.afterFrame frame (publish p.boundary
          (((r.noteFlags frame).noteEos s).setBuffer slot (p.metadataBuffer.getD {})))
          p.finishFrame none) := by
  have present : (r.lookupStream frame.streamId).isSome := by simp [live.found]
  have slices : (r.liveParser frame s slot).parseSlices frame.slice frame.moreSlices =
      (r.liveParser frame s slot).parse frame.payload true :=
    parseSlices_eq_parse_flatten r.hpackParser _ _ _ _ frame.slice frame.moreSlices
  obtain ⟨batch, buffering⟩ := buffering_parse
    (show (r.liveParser frame s slot).metadataBuffer = some (s.buffer slot) from rfl)
    frame.payload true
  have few := headerFramesReceived_of_slot live.slot_eq
  rw [consume, initFrameParser_live accepts live]
  simp only [parsePayload]
  rw [show (r.afterFrame frame ((r.noteFlags frame).noteEos s) (r.liveParser frame s slot)
    (some (frame.streamId, slot))).hpackParser = r.liveParser frame s slot from rfl, slices]
  -- the reader around the parser does not matter until the frame ends
  have around : ∀ p, { r.afterFrame frame ((r.noteFlags frame).noteEos s)
      (r.liveParser frame s slot) (some (frame.streamId, slot)) with hpackParser := p } =
      r.afterFrame frame ((r.noteFlags frame).noteEos s) p (some (frame.streamId, slot)) :=
    fun p => rfl
  rcases parsed : (r.liveParser frame s slot).parse frame.payload true with ⟨_ | error, p⟩
  · rw [parsed] at buffering
    simp only [around, storeBuffer_afterFrame r frame _ slot p present buffering]
    rw [finishFrame_afterFrame r frame _ slot p present (by
      rw [headerFramesReceived_setBuffer, headerFramesReceived_noteEos]
      omega)]
    simp only [show p.metadataBuffer = some batch from buffering, Option.getD_some]
  · rw [parsed] at buffering
    simp only [around, storeBuffer_afterFrame r frame _ slot p present buffering]
    simp only [show p.metadataBuffer = some batch from buffering, Option.getD_some]

/-- Frames of one block: all but the last leave it open, and all but the first
continue it. -/
def Chained : HeaderFrame → List HeaderFrame → Prop
  | _, [] => True
  | frame, next :: frames =>
    frame.isEoh = false ∧ next.type = .continuation ∧ next.streamId = frame.streamId ∧
      Chained next frames

theorem live_next {r : HeaderReader} {next : HeaderFrame} (live : r.Live frame s slot)
    (positive : frame.streamId ≠ 0) (unfinished : frame.isEoh = false)
    (continues : next.type = .continuation) (sameStream : next.streamId = frame.streamId)
    (batch : MetadataBatch) (p : HPackParser) :
    let s' := publish .none (((r.noteFlags frame).noteEos s).setBuffer slot batch)
    let r' := r.afterFrame frame s' p none
    r'.Accepts next ∧ r'.Live next s' slot ∧
      (r'.noteFlags next).headerEof = (r.noteFlags frame).headerEof ∧
      (r'.noteFlags next).noteEos s' = s' := by
  intro s' r'
  have unchanged : s' = ((r.noteFlags frame).noteEos s).setBuffer slot batch := by
    simp [s', publish]
  have expecting : r'.expectContinuationStreamId = frame.streamId := by
    simp [r', afterFrame, setStream, noteFlags, unfinished]
  have eof : (r'.noteFlags next).headerEof = (r.noteFlags frame).headerEof := by
    simp [noteFlags, HeaderFrame.isContinuation, continues, r', afterFrame, setStream]
  have client : (r'.noteFlags next).isClient = (r.noteFlags frame).isClient := rfl
  refine ⟨?_, ⟨?_, ?_, ?_⟩, eof, ?_⟩
  · simp [Accepts, expecting, positive, continues, sameStream]
  · rw [sameStream]
    exact lookup_setStream (r.noteFlags frame) frame.streamId s'
      (by simp [show (r.noteFlags frame).lookupStream frame.streamId = some s from live.found])
  · rw [unchanged, readClosed_setBuffer]
    unfold noteEos
    split <;> exact live.reading
  · have slotted := live.slot_eq
    unfold metadataSlot at slotted ⊢
    rw [unchanged, headerFramesReceived_setBuffer, headerFramesReceived_noteEos, eof, client]
    exact slotted
  · rw [unchanged]
    simp only [noteEos, eof]
    split <;> cases slot <;> rfl

theorem buffer_publish (boundary : Boundary) (s : IncomingStream) (slot : MetadataSlot) :
    (publish boundary s).buffer slot = s.buffer slot := by
  unfold publish
  split <;> split <;> cases slot <;> rfl

def parseBlock (r : HeaderReader) (s : IncomingStream) (slot : MetadataSlot) (eof : Bool)
    (frames : List HeaderFrame) : Option HPackError × HPackParser × MetadataBatch :=
  r.hpackParser.parseFrames r.maxHeaderListSize (s.buffer slot) (frames.map (·.part eof))

/-- A block of frames on a live stream: the outcome, the batch and the stream are
those the header parser gives on its own. -/
theorem consumeAll_block {frames : List HeaderFrame} {r : HeaderReader} {eof : Bool}
    {parsed : Option HPackError × HPackParser × MetadataBatch} (accepts : r.Accepts frame)
    (live : r.Live frame s slot) (positive : frame.streamId ≠ 0) (chained : Chained frame frames)
    (eofEq : (r.noteFlags frame).headerEof = eof)
    (parsedEq : r.parseBlock s slot eof (frame :: frames) = parsed) :
    (r.consumeAll (frame :: frames)).1 = parsed.1.map .hpack ∧
      ∃ s', (r.consumeAll (frame :: frames)).2.streams = (r.setStream frame.streamId s').streams ∧
        s'.buffer slot = parsed.2.2 ∧
        (∀ other ≠ slot, s'.buffer other = s.buffer other) ∧
        (parsed.1 = none →
          (r.consumeAll (frame :: frames)).2.hpackParser = parsed.2.1 ∧
          s' = publish ((frames.getLastD frame).part eof).boundary
            (((r.noteFlags frame).noteEos s).setBuffer slot parsed.2.2)) := by
  induction frames generalizing frame r s with
  | nil =>
    have consumed := consume_live accepts live
    have boundary := boundary_parse (r.liveParser frame s slot) frame.payload true
    obtain ⟨batch, buffering⟩ := buffering_parse
      (show (r.liveParser frame s slot).metadataBuffer = some (s.buffer slot) from rfl)
      frame.payload true
    subst eofEq
    simp only [parseBlock, List.map_cons, List.map_nil, parseFrames] at parsedEq
    rw [show r.hpackParser.beginFrame (some (s.buffer slot)) r.maxHeaderListSize
      (frame.part (r.noteFlags frame).headerEof).boundary
      (frame.part (r.noteFlags frame).headerEof).priority = r.liveParser frame s slot from rfl,
      show (frame.part (r.noteFlags frame).headerEof).payload = frame.payload from rfl]
      at parsedEq
    simp only [consumeAll]
    rcases outcome : (r.liveParser frame s slot).parse frame.payload true with ⟨_ | error, p⟩
    · simp only [outcome] at consumed buffering boundary parsedEq
      simp only [buffering, Option.getD_some] at parsedEq consumed
      subst parsedEq
      simp only [consumed, Option.map_none, List.getLastD_nil]
      refine ⟨trivial, _, rfl, ?_, ?_, fun _ => ⟨rfl, by rw [boundary]; rfl⟩⟩
      · rw [buffer_publish, buffer_setBuffer]
      · intro other different
        rw [buffer_publish, buffer_setBuffer_of_ne _ different, buffer_noteEos]
    · simp only [outcome] at consumed buffering parsedEq
      simp only [buffering, Option.getD_some] at parsedEq consumed
      subst parsedEq
      simp only [consumed, Option.map_some]
      refine ⟨trivial, _, rfl, buffer_setBuffer _ _ _, ?_, by simp⟩
      intro other different
      rw [buffer_setBuffer_of_ne _ different, buffer_noteEos]
  | cons next frames ih =>
    have consumed := consume_live accepts live
    have boundary := boundary_parse (r.liveParser frame s slot) frame.payload true
    obtain ⟨batch, buffering⟩ := buffering_parse
      (show (r.liveParser frame s slot).metadataBuffer = some (s.buffer slot) from rfl)
      frame.payload true
    obtain ⟨unfinished, continues, sameStream, chained⟩ := chained
    have inside : (r.liveParser frame s slot).boundary = .none := by
      simp [liveParser, beginFrame, HeaderFrame.part, unfinished]
    simp only [parseBlock, List.map_cons, parseFrames] at parsedEq
    rw [show r.hpackParser.beginFrame (some (s.buffer slot)) r.maxHeaderListSize
      (frame.part eof).boundary (frame.part eof).priority = r.liveParser frame s slot by
        rw [← eofEq]; rfl,
      show (frame.part eof).payload = frame.payload from rfl] at parsedEq
    rw [consumeAll]
    rcases outcome : (r.liveParser frame s slot).parse frame.payload true with ⟨_ | error, p⟩
    · simp only [outcome] at consumed buffering boundary parsedEq
      simp only [buffering, Option.getD_some] at parsedEq consumed
      rw [boundary, inside] at consumed
      obtain ⟨accepts', live', eof', same⟩ := live_next live positive unfinished continues
        sameStream batch p.finishFrame
      have rest := ih accepts' live' (by rw [sameStream]; exact positive) chained
        (eof'.trans eofEq) (by
          rw [parseBlock, buffer_publish, buffer_setBuffer]
          exact parsedEq)
      rw [same] at rest
      simp only [consumed]
      obtain ⟨error, s', streams, filled, others, ends⟩ := rest
      refine ⟨error, s', ?_, filled, ?_, ?_⟩
      · have replaced := congrArg HeaderReader.streams (setStream_setStream
          (r.noteFlags frame) frame.streamId
          (publish .none (((r.noteFlags frame).noteEos s).setBuffer slot batch)) s')
        rw [streams, sameStream]
        exact replaced
      · intro other different
        rw [others other different, buffer_publish,
          buffer_setBuffer_of_ne _ different, buffer_noteEos]
      · intro succeeded
        obtain ⟨parser, final⟩ := ends succeeded
        refine ⟨parser, ?_⟩
        rw [final, List.getLastD_cons]
        simp [publish]
    · simp only [outcome] at consumed buffering parsedEq
      simp only [buffering, Option.getD_some] at parsedEq consumed
      subst parsedEq
      simp only [consumed, Option.map_some]
      refine ⟨trivial, _, rfl, buffer_setBuffer _ _ _, ?_, by simp⟩
      intro other different
      rw [buffer_setBuffer_of_ne _ different, buffer_noteEos]

end HeaderReader

end GrpcCore.Transport
