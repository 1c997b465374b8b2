import GrpcCore.Transport.HeaderBlocks

/-!
# Isolation of header blocks

Along runs whose frames all belong to live streams, a block ends with nothing
left over, and a valid block may be split at any byte. The skip path takes the
end of the headers from the wrong side and has neither property.
-/

namespace GrpcCore.Transport

open Hpack Machine HeaderFrame HPackParser

namespace HeaderReader

/-- What happens to the reader: a frame, a change of the streams by any other
event, or the acknowledgement of local settings. -/
inductive Step where
  | frame (frame : HeaderFrame)
  | streamsChanged (streams : List (Nat × IncomingStream)) (nextStreamId : Nat)
  | settingsAcked (maxHeaderListSize maxConcurrentStreams headerTableSize : Nat)
deriving DecidableEq

/-- No step is taken after an error: it closes the connection. Stream ids are
positive. -/
def step (r : HeaderReader) : Step → Option HeaderReader
  | .frame frame =>
    match r.consume frame with
    | (none, r) => some r
    | (some _, _) => none
  | .streamsChanged streams nextStreamId =>
    if ∀ entry ∈ streams, entry.1 ≠ 0 then some { r with streams, nextStreamId } else none
  | .settingsAcked maxHeaderListSize maxConcurrentStreams headerTableSize =>
    match r.hpackParser.table.setMaxBytes headerTableSize with
    | .ok table =>
      some { r with
        maxHeaderListSize, maxConcurrentStreams
        hpackParser := { r.hpackParser with table } }
    | .error _ => none

/-- The step is not a frame on the skip path. -/
def LivePath (r : HeaderReader) : Step → Prop
  | .frame frame => r.takesSkipPath frame = false
  | _ => True

def openStream (r : HeaderReader) (id : Nat) : HeaderReader :=
  match r.lookupStream id with
  | some _ => r
  | none => { r with lastNewStreamId := id, streams := r.streams ++ [(id, {})] }

theorem lookup_openStream (r : HeaderReader) (id : Nat) :
    (r.openStream id).lookupStream id = some ((r.lookupStream id).getD {}) := by
  unfold openStream
  cases found : r.lookupStream id with
  | some => exact found
  | none =>
    unfold lookupStream at found ⊢
    simp [List.lookup_append, found]

def HasRoom (r : HeaderReader) (id : Nat) : Prop :=
  r.lookupStream id = none → r.streams.length < r.maxConcurrentStreams

variable {r : HeaderReader}

theorem accepts_openStream {frame : HeaderFrame} (id : Nat) (accepts : r.Accepts frame) :
    (r.openStream id).Accepts frame := by
  unfold openStream
  split <;> exact accepts

theorem initFrameParser_openStream {frame : HeaderFrame} (accepts : r.Accepts frame)
    (live : r.takesSkipPath frame = false) (room : r.HasRoom frame.streamId) :
    r.initFrameParser frame = (r.openStream frame.streamId).initFrameParser frame := by
  rw [initFrameParser_accepts accepts,
    initFrameParser_accepts (accepts_openStream frame.streamId accepts)]
  unfold openStream
  cases found : r.lookupStream frame.streamId with
  | some => rfl
  | none =>
    have opened : (noteFlags { r with
        lastNewStreamId := frame.streamId
        streams := r.streams ++ [(frame.streamId, {})] } frame).lookupStream
        frame.streamId = some {} := by
      have lookup := lookup_openStream r frame.streamId
      simp only [openStream, found] at lookup
      exact lookup
    have unknown : (r.noteFlags frame).lookupStream frame.streamId = none := found
    simp only [takesSkipPath, found, Bool.or_eq_false_iff, decide_eq_false_iff_not,
      Bool.not_eq_false'] at live
    obtain ⟨⟨⟨⟨first, server⟩, inOrder⟩, odd⟩, accepted⟩ := live
    have enough : ¬ (r.noteFlags frame).streams.length ≥
        (r.noteFlags frame).maxConcurrentStreams := Nat.not_le.mpr (room found)
    simp only [initHeaderFrameParser, unknown, opened, first, Bool.false_eq_true, if_false,
      show (r.noteFlags frame).isClient = false from server,
      show ¬ (r.noteFlags frame).lastNewStreamId ≥ frame.streamId from inOrder, odd, enough,
      accepted, if_true]
    simp only [noteFlags, server]

variable {r' : HeaderReader}

theorem accepts_of_initFrameParser {frame : HeaderFrame}
    (initialised : r.initFrameParser frame = .ok r') (live : r.takesSkipPath frame = false) :
    r.Accepts frame ∧ r.HasRoom frame.streamId := by
  have accepts : r.Accepts frame := by
    unfold initFrameParser at initialised
    unfold Accepts
    split at initialised
    · rename_i expecting
      rw [if_pos expecting]
      split at initialised
      · cases initialised
      · rename_i continuation
        split at initialised
        · cases initialised
        · rename_i same
          exact ⟨by simpa using continuation, by simpa using Eq.symm (not_not.mp same)⟩
    · rename_i idle
      rw [if_neg idle]
      cases type : frame.type with
      | headers => rfl
      | continuation => simp [type] at initialised
  refine ⟨accepts, ?_⟩
  intro unknown
  have unknown' : (r.noteFlags frame).lookupStream frame.streamId = none := unknown
  by_contra full
  simp only [takesSkipPath, unknown, Bool.or_eq_false_iff, decide_eq_false_iff_not,
    Bool.not_eq_false'] at live
  obtain ⟨⟨⟨⟨first, server⟩, inOrder⟩, odd⟩, -⟩ := live
  rw [initFrameParser_accepts accepts] at initialised
  simp only [initHeaderFrameParser, unknown', first, Bool.false_eq_true, if_false,
    show (r.noteFlags frame).isClient = false from server,
    show ¬ (r.noteFlags frame).lastNewStreamId ≥ frame.streamId from inOrder, odd,
    show (r.noteFlags frame).streams.length ≥ (r.noteFlags frame).maxConcurrentStreams from
      Nat.not_lt.mp full, if_true] at initialised
  cases initialised

theorem live_openStream {frame : HeaderFrame} (live : r.takesSkipPath frame = false) :
    ∃ slot, (r.openStream frame.streamId).Live frame
      ((r.lookupStream frame.streamId).getD {}) slot := by
  have few : ((r.lookupStream frame.streamId).getD {}).headerFramesReceived < 2 ∧
      ((r.lookupStream frame.streamId).getD {}).readClosed = false := by
    unfold takesSkipPath at live
    cases found : r.lookupStream frame.streamId with
    | none => simp
    | some =>
      simp only [found, Bool.or_eq_false_iff, decide_eq_false_iff_not] at live
      exact ⟨Nat.not_le.mp live.2, live.1⟩
  have slotted : ∃ slot, ((r.openStream frame.streamId).noteFlags frame).metadataSlot
      ((r.lookupStream frame.streamId).getD {}) = some slot := by
    unfold metadataSlot
    obtain none | one : ((r.lookupStream frame.streamId).getD {}).headerFramesReceived = 0 ∨
        ((r.lookupStream frame.streamId).getD {}).headerFramesReceived = 1 := by omega
    · rw [none]
      exact ⟨_, rfl⟩
    · rw [one]
      exact ⟨_, rfl⟩
  obtain ⟨slot, slotEq⟩ := slotted
  exact ⟨slot, lookup_openStream r frame.streamId, few.2, slotEq⟩


theorem consume_openStream {frame : HeaderFrame} (accepts : r.Accepts frame)
    (live : r.takesSkipPath frame = false) (room : r.HasRoom frame.streamId) :
    r.consume frame = (r.openStream frame.streamId).consume frame := by
  obtain ⟨slot, live'⟩ := live_openStream live
  unfold consume
  rw [initFrameParser_openStream accepts live room,
    initFrameParser_live (accepts_openStream _ accepts) live']

/-- The stream map holds positive ids, and between blocks nothing is left over. -/
structure Isolated (r : HeaderReader) : Prop where
  positive : ∀ entry ∈ r.streams, entry.1 ≠ 0
  clean : r.expectContinuationStreamId = 0 → r.hpackParser.unparsedBytes = []

theorem positive_of_live {frame : HeaderFrame} (isolated : Isolated r)
    (live : r.takesSkipPath frame = false) : frame.streamId ≠ 0 := by
  unfold takesSkipPath at live
  cases found : r.lookupStream frame.streamId with
  | some s =>
    obtain ⟨before, after, streams, -⟩ := List.lookup_eq_some_iff.mp found
    exact isolated.positive (frame.streamId, s) (by simp [streams])
  | none =>
    simp only [found, Bool.or_eq_false_iff, decide_eq_false_iff_not] at live
    omega

theorem consume_ok {frame : HeaderFrame} (live : r.takesSkipPath frame = false)
    (consumed : r.consume frame = (none, r')) :
    r.Accepts frame ∧ r.HasRoom frame.streamId ∧
      ∃ slot p, (r.openStream frame.streamId).Live frame
          ((r.lookupStream frame.streamId).getD {}) slot ∧
        ((r.openStream frame.streamId).liveParser frame
          ((r.lookupStream frame.streamId).getD {}) slot).parse frame.payload true = (none, p) ∧
        ∃ s, r' = (r.openStream frame.streamId).afterFrame frame s p.finishFrame none := by
  have initialised : ∃ r'', r.initFrameParser frame = .ok r'' := by
    unfold consume at consumed
    cases started : r.initFrameParser frame with
    | ok r'' => exact ⟨r'', rfl⟩
    | error => simp [started] at consumed
  obtain ⟨r'', started⟩ := initialised
  obtain ⟨accepts, room⟩ := accepts_of_initFrameParser started live
  obtain ⟨slot, live'⟩ := live_openStream live
  refine ⟨accepts, room, slot, ?_⟩
  rw [consume_openStream accepts live room,
    consume_live (accepts_openStream _ accepts) live'] at consumed
  split at consumed
  · cases consumed
  · rename_i p parsed
    cases consumed
    exact ⟨p, live', parsed, _, rfl⟩

theorem positive_openStream {id : Nat} (positive : ∀ entry ∈ r.streams, entry.1 ≠ 0)
    (fresh : id ≠ 0) : ∀ entry ∈ (r.openStream id).streams, entry.1 ≠ 0 := by
  unfold openStream
  split
  · exact positive
  · intro entry membership
    rcases List.mem_append.mp membership with old | new
    · exact positive entry old
    · rw [List.mem_singleton.mp new]
      exact fresh

variable {s : IncomingStream}

theorem positive_setStream {id : Nat} (positive : ∀ entry ∈ r.streams, entry.1 ≠ 0) :
    ∀ entry ∈ (r.setStream id s).streams, entry.1 ≠ 0 := by
  intro entry membership
  obtain ⟨old, oldMembership, rfl⟩ := List.mem_map.mp membership
  have nonzero := positive old oldMembership
  split
  · rename_i same
    exact same ▸ nonzero
  · exact nonzero

theorem isolated_frame {frame : HeaderFrame} (isolated : Isolated r)
    (live : r.takesSkipPath frame = false) (consumed : r.consume frame = (none, r')) :
    Isolated r' ∧ (frame.isEoh = true → r'.hpackParser.unparsedBytes = []) := by
  have nonzero := positive_of_live isolated live
  obtain ⟨-, -, slot, p, -, parsed, s, rfl⟩ := consume_ok live consumed
  have clean : frame.isEoh = true → p.unparsedBytes = [] := by
    intro ends
    apply unparsedBytes_of_boundary ?_ parsed
    simp only [liveParser, beginFrame, part, ends, if_true]
    split <;> simp
  refine ⟨⟨?_, ?_⟩, clean⟩
  · have opened := positive_openStream isolated.positive nonzero
    exact positive_setStream (r := (r.openStream frame.streamId).noteFlags frame) opened
  · intro idle
    apply clean
    by_contra unfinished
    apply nonzero
    simpa [afterFrame, setStream, noteFlags, unfinished] using idle

theorem isolated_step {action : Step} (isolated : Isolated r) (live : r.LivePath action)
    (taken : r.step action = some r') : Isolated r' := by
  cases action with
  | frame =>
    simp only [step] at taken
    split at taken
    · rename_i r'' consumed
      cases taken
      exact (isolated_frame isolated live consumed).1
    · cases taken
  | streamsChanged =>
    simp only [step] at taken
    split at taken
    · rename_i positive
      cases taken
      exact ⟨positive, isolated.clean⟩
    · cases taken
  | settingsAcked =>
    simp only [step] at taken
    split at taken
    · cases taken
      exact ⟨isolated.positive, isolated.clean⟩
    · cases taken

/-- What the headers a stream has received amount to. -/
def receivedSize (r : HeaderReader) (id : Nat) : Nat :=
  match r.lookupStream id with
  | some s => s.initialMetadataBuffer.size + s.trailingMetadataBuffer.size
  | none => 0

/-- `frame`, a whole block, cut into a HEADERS frame and continuations. The
priority fields come before the block and stay in the first frame. -/
structure SplitOf (frame head : HeaderFrame) (middles : List HeaderFrame)
    (last : HeaderFrame) : Prop where
  headType : head.type = frame.type
  headStream : head.streamId = frame.streamId
  headEos : head.isEos = frame.isEos
  headPriority : head.priorityType = frame.priorityType
  headAccepted : head.accepted = frame.accepted
  headOpen : head.isEoh = false
  middlesOpen : ∀ middle ∈ middles, middle.isEoh = false
  lastCloses : last.isEoh = true
  continues : ∀ frame' ∈ middles ++ [last],
    frame'.type = .continuation ∧ frame'.streamId = frame.streamId
  payload : frame.payload =
    head.payload ++ ((middles.map HeaderFrame.payload).flatten ++ last.payload)
  prioritised : head.priorityType = .included → 5 ≤ head.payload.length

namespace SplitOf

variable {frame head last : HeaderFrame} {middles : List HeaderFrame}

theorem chained_continuations {streamId : Nat} {first : HeaderFrame}
    (unfinished : first.isEoh = false) (sameStream : first.streamId = streamId)
    (middlesOpen : ∀ middle ∈ middles, middle.isEoh = false)
    (continues : ∀ frame' ∈ middles ++ [last],
      frame'.type = .continuation ∧ frame'.streamId = streamId) :
    Chained first (middles ++ [last]) := by
  induction middles generalizing first with
  | nil =>
    obtain ⟨continuation, stream⟩ := continues last (by simp)
    exact ⟨unfinished, continuation, stream.trans sameStream.symm, trivial⟩
  | cons middle middles ih =>
    obtain ⟨continuation, stream⟩ := continues middle (by simp)
    refine ⟨unfinished, continuation, stream.trans sameStream.symm, ?_⟩
    apply ih (middlesOpen middle (by simp)) stream
    · intro middle' membership
      exact middlesOpen middle' (List.mem_cons_of_mem _ membership)
    · intro frame' membership
      exact continues frame' (List.mem_cons_of_mem _ membership)

theorem chained (pieces : SplitOf frame head middles last) :
    Chained head (middles ++ [last]) :=
  chained_continuations pieces.headOpen pieces.headStream pieces.middlesOpen pieces.continues

theorem priority_continuation {frame' : HeaderFrame} (continuation : frame'.type = .continuation) :
    frame'.priorityType = .none := by
  simp [priorityType, isContinuation, continuation]

theorem parts (pieces : SplitOf frame head middles last) (closes : frame.isEoh = true)
    (eof : Bool) :
    (head :: (middles ++ [last])).map (·.part eof) =
      ⟨head.payload, .none, frame.priorityType⟩ ::
        continuationParts (frame.part eof).boundary
          (middles.map HeaderFrame.payload) last.payload := by
  have first : head.part eof = ⟨head.payload, .none, frame.priorityType⟩ := by
    simp [part, pieces.headOpen, pieces.headPriority]
  have inner : middles.map (·.part eof) =
      (middles.map HeaderFrame.payload).map fun payload => ⟨payload, .none, .none⟩ := by
    rw [List.map_map]
    apply List.map_congr_left
    intro middle membership
    have continuation := (pieces.continues middle (List.mem_append_left _ membership)).1
    simp [part, pieces.middlesOpen middle membership,
      priority_continuation continuation]
  have final : last.part eof = ⟨last.payload, (frame.part eof).boundary, .none⟩ := by
    have continuation := (pieces.continues last (by simp)).1
    simp [part, pieces.lastCloses, closes, priority_continuation continuation]
  rw [List.map_cons, first, List.map_append, inner, List.map_singleton, final]
  rfl

end SplitOf

theorem sizes_setBuffer (s : IncomingStream) (slot : MetadataSlot) (batch : MetadataBatch) :
    (s.setBuffer slot batch).initialMetadataBuffer.size +
        (s.setBuffer slot batch).trailingMetadataBuffer.size + (s.buffer slot).size =
      s.initialMetadataBuffer.size + s.trailingMetadataBuffer.size + batch.size := by
  cases slot <;> simp only [IncomingStream.setBuffer, IncomingStream.buffer] <;> omega

theorem sizes_publish (boundary : Boundary) (s : IncomingStream) :
    (publish boundary s).initialMetadataBuffer = s.initialMetadataBuffer ∧
      (publish boundary s).trailingMetadataBuffer = s.trailingMetadataBuffer := by
  unfold publish
  split <;> split <;> exact ⟨rfl, rfl⟩

theorem noteEos_buffers (r : HeaderReader) (s : IncomingStream) :
    (r.noteEos s).initialMetadataBuffer = s.initialMetadataBuffer ∧
      (r.noteEos s).trailingMetadataBuffer = s.trailingMetadataBuffer := by
  unfold noteEos
  split <;> exact ⟨rfl, rfl⟩

variable {slot : MetadataSlot} {r₁ : HeaderReader}

theorem receivedSize_block {frame : HeaderFrame} {batch : MetadataBatch} {boundary : Boundary}
    (found : r.lookupStream frame.streamId = some s)
    (streams : r₁.streams = (r.setStream frame.streamId (publish boundary
      (((r.noteFlags frame).noteEos s).setBuffer slot batch))).streams) :
    r₁.receivedSize frame.streamId + (s.buffer slot).size =
      r.receivedSize frame.streamId + batch.size := by
  have after : r₁.lookupStream frame.streamId = some (publish boundary
      (((r.noteFlags frame).noteEos s).setBuffer slot batch)) := by
    unfold lookupStream
    rw [streams]
    exact lookup_setStream r frame.streamId _ (by simp [found])
  have grown := sizes_setBuffer ((r.noteFlags frame).noteEos s) slot batch
  rw [buffer_noteEos, (noteEos_buffers _ s).1, (noteEos_buffers _ s).2] at grown
  simp only [receivedSize, after, found, sizes_publish]
  exact grown

theorem receivedSize_openStream (r : HeaderReader) (id : Nat) :
    (r.openStream id).receivedSize id = r.receivedSize id := by
  unfold receivedSize
  rw [lookup_openStream]
  cases r.lookupStream id <;> rfl

theorem openStream_hpackParser (r : HeaderReader) (id : Nat) :
    (r.openStream id).hpackParser = r.hpackParser ∧
      (r.openStream id).maxHeaderListSize = r.maxHeaderListSize := by
  unfold openStream
  split <;> exact ⟨rfl, rfl⟩

variable {frame head last : HeaderFrame} {middles : List HeaderFrame}

theorem live_split (pieces : SplitOf frame head middles last) (live : r.Live frame s slot) :
    r.Live head s slot ∧
      (r.noteFlags head).headerEof = (r.noteFlags frame).headerEof ∧
      (r.noteFlags head).noteEos s = (r.noteFlags frame).noteEos s := by
  have eof : (r.noteFlags head).headerEof = (r.noteFlags frame).headerEof := by
    unfold noteFlags isContinuation
    simp [pieces.headType, pieces.headEos]
  refine ⟨⟨?_, live.reading, ?_⟩, eof, ?_⟩
  · rw [pieces.headStream]
    exact live.found
  · rw [← live.slot_eq]
    unfold metadataSlot
    rw [eof]
    rfl
  · unfold noteEos
    rw [eof]

theorem closes_part {frame : HeaderFrame} {eof : Bool} (closes : frame.isEoh = true) :
    (frame.part eof).boundary ≠ .none := by
  simp only [part, closes, if_true]
  split <;> simp

theorem consumeAll_split_live (accepts : r.Accepts frame) (live : r.Live frame s slot)
    (nonzero : frame.streamId ≠ 0) (clean : r.hpackParser.unparsedBytes = [])
    (closes : frame.isEoh = true) (consumed : r.consume frame = (none, r₁))
    (fits : r₁.receivedSize frame.streamId ≤ r.receivedSize frame.streamId + r.maxHeaderListSize)
    (pieces : SplitOf frame head middles last) (headAccepts : r.Accepts head) :
    ∃ r₂, r.consumeAll (head :: (middles ++ [last])) = (none, r₂) ∧
      r₂.streams = r₁.streams ∧ r₂.hpackParser.table = r₁.hpackParser.table ∧
      r₂.hpackParser.unparsedBytes = [] := by
  obtain ⟨headLive, eof, eos⟩ := live_split pieces live
  have whole := consumeAll_block accepts live nonzero (show Chained frame [] from trivial) rfl rfl
  have cut := consumeAll_block headAccepts headLive (by rw [pieces.headStream]; exact nonzero)
    pieces.chained eof rfl
  obtain ⟨batch, buffering⟩ := buffering_parse
    (show (r.liveParser frame s slot).metadataBuffer = some (s.buffer slot) from rfl)
    frame.payload true
  have limit := (grows_parse (r.liveParser frame s slot) frame.payload true).1
  have single := consume_live accepts live
  rcases outcome : (r.liveParser frame s slot).parse frame.payload true with ⟨_ | error, p₁⟩
  · rw [outcome] at buffering limit
    have parsedWhole : r.parseBlock s slot (r.noteFlags frame).headerEof [frame] =
        (none, p₁.finishFrame, batch) := by
      simp only [parseBlock, List.map_cons, List.map_nil, parseFrames]
      rw [show (r.hpackParser.beginFrame (some (s.buffer slot)) r.maxHeaderListSize
        (frame.part (r.noteFlags frame).headerEof).boundary
        (frame.part (r.noteFlags frame).headerEof).priority).parse
          (frame.part (r.noteFlags frame).headerEof).payload true = (none, p₁) from outcome]
      simp only [show p₁.metadataBuffer = some batch from buffering, Option.getD_some]
    simp only [consumeAll, consumed, parsedWhole, List.getLastD_nil] at whole
    obtain ⟨-, s₁, streams, -, -, published⟩ := whole
    obtain ⟨parser, rfl⟩ := published trivial
    have sizes := receivedSize_block live.found streams
    have within : HPackParser.Fits (s.buffer slot).size p₁ := by
      intro batch' buffering'
      obtain rfl : batch = batch' := Option.mem_unique buffering buffering'
      have bound : p₁.metadataSizeLimit = r.maxHeaderListSize := limit
      omega
    have announced : (head.payload.take (if frame.priorityType = .included then 5 else 0)).length =
        if frame.priorityType = .included then 5 else 0 := by
      have prioritised := pieces.prioritised
      rw [pieces.headPriority] at prioritised
      rw [List.length_take]
      split
      · have := prioritised ‹_›
        omega
      · omega
    obtain ⟨q₁, batch₁, frames, table, same, unparsed⟩ :=
      parseFrames_split (closes_part closes) clean announced (by
        rw [← List.append_assoc, List.take_append_drop, ← pieces.payload]
        exact outcome) within
    obtain rfl : batch = batch₁ := Option.mem_unique buffering same
    have parsedCut : r.parseBlock s slot (r.noteFlags frame).headerEof
        (head :: (middles ++ [last])) = (none, q₁, batch) := by
      rw [parseBlock, pieces.parts closes]
      rw [List.take_append_drop] at frames
      exact frames
    rw [parsedCut] at cut
    obtain ⟨error, s₂, streams₂, -, -, published₂⟩ := cut
    obtain ⟨parser₂, rfl⟩ := published₂ rfl
    refine ⟨_, Prod.ext error rfl, ?_, ?_, ?_⟩
    · have boundary : (last.part (r.noteFlags frame).headerEof).boundary =
          (frame.part (r.noteFlags frame).headerEof).boundary := by
        simp [part, pieces.lastCloses, closes]
      rw [streams₂, streams, pieces.headStream, eos, List.getLastD_concat, boundary]
    · rw [parser₂, parser, table]
      rfl
    · rw [parser₂]
      exact unparsed
  · simp [outcome, consumed] at single

theorem consumeAll_split (isolated : Isolated r) (live : r.takesSkipPath frame = false)
    (headers : frame.type = .headers) (closes : frame.isEoh = true)
    (consumed : r.consume frame = (none, r₁))
    (fits : r₁.receivedSize frame.streamId ≤ r.receivedSize frame.streamId + r.maxHeaderListSize)
    (pieces : SplitOf frame head middles last) :
    ∃ r₂, r.consumeAll (head :: (middles ++ [last])) = (none, r₂) ∧
      r₂.streams = r₁.streams ∧ r₂.hpackParser.table = r₁.hpackParser.table ∧
      r₂.hpackParser.unparsedBytes = [] := by
  have nonzero := positive_of_live isolated live
  obtain ⟨accepts, room, -⟩ := consume_ok live consumed
  have idle : r.expectContinuationStreamId = 0 := by
    by_contra expecting
    simp [Accepts, expecting, headers] at accepts
  obtain ⟨parser, limit⟩ := openStream_hpackParser r frame.streamId
  have headLive : r.takesSkipPath head = false := by
    unfold takesSkipPath isContinuation at live ⊢
    rw [pieces.headStream, pieces.headType, pieces.headAccepted]
    exact live
  have headAccepts : r.Accepts head := by
    unfold Accepts at accepts ⊢
    rw [pieces.headStream, pieces.headType]
    exact accepts
  have headRoom : r.HasRoom head.streamId := by
    rw [pieces.headStream]
    exact room
  obtain ⟨slot, isLive⟩ := live_openStream live
  rw [consume_openStream accepts live room] at consumed
  have cut := consumeAll_split_live (accepts_openStream frame.streamId accepts) isLive nonzero
    (by rw [parser]; exact isolated.clean idle) closes consumed
    (by rw [receivedSize_openStream, limit]; exact fits) pieces
    (accepts_openStream frame.streamId headAccepts)
  have start : r.consumeAll (head :: (middles ++ [last])) =
      (r.openStream frame.streamId).consumeAll (head :: (middles ++ [last])) := by
    simp only [consumeAll]
    rw [consume_openStream headAccepts headLive headRoom, pieces.headStream]
  rw [start]
  exact cut

theorem isolated_run {isClient : Bool} {steps : List Step}
    (run : Run step LivePath { isClient } steps r) : Isolated r :=
  run.invariant isolated_step ⟨by simp, fun _ => rfl⟩

/-- Along every run whose frames all belong to live streams, blocks are isolated:
between blocks nothing is left over, the frame with END_HEADERS leaves nothing
over, and a valid block may be cut into frames at any byte. -/
theorem header_blocks_isolated {isClient : Bool} {steps : List Step} {r : HeaderReader}
    (run : Run step LivePath { isClient } steps r) :
    (r.expectContinuationStreamId = 0 → r.hpackParser.unparsedBytes = []) ∧
      ∀ frame r₁, r.LivePath (.frame frame) → frame.isEoh = true →
        r.consume frame = (none, r₁) →
        r₁.hpackParser.unparsedBytes = [] ∧
        (frame.type = .headers →
          r₁.receivedSize frame.streamId ≤
            r.receivedSize frame.streamId + r.maxHeaderListSize →
          ∀ head middles last, SplitOf frame head middles last →
            ∃ r₂, r.consumeAll (head :: (middles ++ [last])) = (none, r₂) ∧
              r₂.streams = r₁.streams ∧ r₂.hpackParser.table = r₁.hpackParser.table ∧
              r₂.hpackParser.unparsedBytes = []) := by
  have isolated := isolated_run run
  refine ⟨isolated.clean, ?_⟩
  intro frame r₁ live closes consumed
  refine ⟨(isolated_frame isolated live consumed).2 closes, ?_⟩
  intro headers fits head middles last pieces
  exact consumeAll_split isolated live headers closes consumed fits pieces

/-- A first request: a HEADERS frame that holds `:method: GET`. -/
def sampleRequest : HeaderFrame := { type := .headers, flags := 4, streamId := 1, slice := [0x82] }

theorem header_blocks_isolated_request :
    ∃ r, Run step LivePath { isClient := false } [.frame sampleRequest] r ∧
      r.expectContinuationStreamId = 0 ∧ r.hpackParser.unparsedBytes = [] := by
  have taken : ((({ isClient := false } : HeaderReader).step (.frame sampleRequest)).isSome) =
      true := by decide
  obtain ⟨r, stepped⟩ := Option.isSome_iff_exists.mp taken
  have run : Run step LivePath { isClient := false } [.frame sampleRequest] r :=
    .cons rfl stepped (.nil r)
  have idle : r.expectContinuationStreamId = 0 := by
    have computed : (({ isClient := false } : HeaderReader).step (.frame sampleRequest)).map
        (·.expectContinuationStreamId) = some 0 := by decide
    rw [stepped] at computed
    exact Option.some.inj computed
  exact ⟨r, run, idle, (header_blocks_isolated run).1 idle⟩

/-- On an unknown stream the truncated block is accepted and leaves its byte
behind, and the same block is refused when it is cut into frames. -/
theorem skipped_blocks_not_isolated :
    (∃ r, ({ isClient := false } : HeaderReader).consume
        { type := .headers, flags := 4, streamId := 2, slice := [0x40] } = (none, r) ∧
      r.expectContinuationStreamId = 0 ∧ r.hpackParser.unparsedBytes = [0x40]) ∧
    (∃ r, ({ isClient := false } : HeaderReader).consume
        { type := .headers, flags := 4, streamId := 2, slice := [0x40, 1, 97, 1, 98] } =
        (none, r)) ∧
    (({ isClient := false } : HeaderReader).consumeAll
        [{ type := .headers, flags := 0, streamId := 2, slice := [0x40, 1, 97] },
          { type := .continuation, flags := 4, streamId := 2, slice := [1, 98] }]).1 =
      some (.hpack .incompleteHeader) := by
  refine ⟨⟨_, rfl, ?_⟩, ⟨_, rfl⟩, ?_⟩
  · decide
  · decide

end HeaderReader

end GrpcCore.Transport
