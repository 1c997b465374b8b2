import GrpcCore.Hpack.SizeLimit
import GrpcCore.Transport.BlockIsolation

/-!
# MAX_HEADER_LIST_SIZE over a block

The acknowledged limit is enforced frame by frame: a block stays within it
exactly when the header that takes the block above the limit takes its own
frame above it too.
-/

namespace GrpcCore.Transport

open Hpack

namespace HeaderReader

/-- The sizes of the headers in each frame of a block, as they would be received
without a limit. -/
def decodedSizes (r : HeaderReader) (frame : HeaderFrame) (frames : List HeaderFrame) :
    List (List Nat) :=
  let eof := (r.noteFlags frame).headerEof
  let s := (r.lookupStream frame.streamId).getD {}
  match (r.noteFlags frame).metadataSlot s with
  | some slot => r.hpackParser.decodedSizes (s.buffer slot) ((frame :: frames).map (·.part eof))
  | none => []

/-- What the block has added to the stream is within the limit, and a block above
the limit is an error. -/
def KeepsLimit (r : HeaderReader) (frame : HeaderFrame) (frames : List HeaderFrame) : Prop :=
  (r.consumeAll (frame :: frames)).2.receivedSize frame.streamId ≤
      r.receivedSize frame.streamId + r.maxHeaderListSize ∧
    (r.maxHeaderListSize < (r.decodedSizes frame frames).flatten.sum →
      (r.consumeAll (frame :: frames)).1 ≠ none)

instance (r : HeaderReader) (frame : HeaderFrame) (frames : List HeaderFrame) :
    Decidable (r.KeepsLimit frame frames) := inferInstanceAs (Decidable (_ ∧ _))

variable {r : HeaderReader} {frame : HeaderFrame} (frames : List HeaderFrame)

theorem consumeAll_openStream (accepts : r.Accepts frame) (live : r.takesSkipPath frame = false)
    (room : r.HasRoom frame.streamId) :
    r.consumeAll (frame :: frames) =
      (r.openStream frame.streamId).consumeAll (frame :: frames) := by
  simp only [consumeAll]
  rw [consume_openStream accepts live room]

variable {slot : MetadataSlot}

theorem receivedSize_buffer {id : Nat} {s s' : IncomingStream} {r' : HeaderReader}
    (found : r.lookupStream id = some s) (streams : r'.streams = (r.setStream id s').streams)
    (others : ∀ other ≠ slot, s'.buffer other = s.buffer other) :
    r'.receivedSize id + (s.buffer slot).size = r.receivedSize id + (s'.buffer slot).size := by
  have after : r'.lookupStream id = some s' := by
    unfold lookupStream
    rw [streams]
    exact lookup_setStream r id s' (by simp [found])
  simp only [receivedSize, after, found]
  cases slot with
  | initial =>
    have trailing := others .trailing (by simp)
    simp only [IncomingStream.buffer] at trailing ⊢
    rw [trailing]
    omega
  | trailing =>
    have initial := others .initial (by simp)
    simp only [IncomingStream.buffer] at initial ⊢
    rw [initial]
    omega

theorem metadataSlot_openStream (r : HeaderReader) (id : Nat) (frame : HeaderFrame)
    (s : IncomingStream) :
    ((r.openStream id).noteFlags frame).metadataSlot s = (r.noteFlags frame).metadataSlot s := by
  unfold openStream
  split <;> rfl

theorem decodedSizes_eq
    (live : (r.openStream frame.streamId).Live frame ((r.lookupStream frame.streamId).getD {}) slot) :
    r.decodedSizes frame frames = r.hpackParser.decodedSizes
      (((r.lookupStream frame.streamId).getD {}).buffer slot)
      ((frame :: frames).map (·.part (r.noteFlags frame).headerEof)) := by
  have slotted : (r.noteFlags frame).metadataSlot ((r.lookupStream frame.streamId).getD {}) =
      some slot := by
    rw [← live.slot_eq, metadataSlot_openStream]
  simp only [decodedSizes, slotted]

theorem headerEof_openStream (r : HeaderReader) (id : Nat) (frame : HeaderFrame) :
    ((r.openStream id).noteFlags frame).headerEof = (r.noteFlags frame).headerEof := by
  unfold openStream
  split <;> rfl

/-- What a block adds to its stream: the headers up to the first one that takes
its own frame above the limit. -/
theorem receivedSize_consumeAll {r₀ : HeaderReader} {frames : List HeaderFrame}
    (begun : r.initFrameParser frame = .ok r₀) (live : r.takesSkipPath frame = false)
    (positive : frame.streamId ≠ 0) (chained : Chained frame frames) :
    (r.consumeAll (frame :: frames)).2.receivedSize frame.streamId =
        r.receivedSize frame.streamId +
          (((blockCounts (r.decodedSizes frame frames)).takeWhile
            (·.2 ≤ r.maxHeaderListSize)).map Prod.fst).sum ∧
      ((r.consumeAll (frame :: frames)).1 = none →
        (r.consumeAll (frame :: frames)).2.receivedSize frame.streamId =
          r.receivedSize frame.streamId + (r.decodedSizes frame frames).flatten.sum) := by
  obtain ⟨accepts, room⟩ := accepts_of_initFrameParser begun live
  obtain ⟨slot, isLive⟩ := live_openStream live
  obtain ⟨parser, limit⟩ := openStream_hpackParser r frame.streamId
  obtain ⟨error, s', streams, filled, others, -⟩ := consumeAll_block
    (accepts_openStream frame.streamId accepts) isLive positive chained
    (headerEof_openStream r frame.streamId frame) rfl
  have grown := receivedSize_buffer isLive.found streams others
  rw [← consumeAll_openStream frames accepts live room, receivedSize_openStream, filled] at grown
  rw [← consumeAll_openStream frames accepts live room] at error
  rw [parseBlock, parser, limit] at grown error
  obtain ⟨received, contents, stopped, complete⟩ := @HPackParser.parseFrames_received
    r.maxHeaderListSize r.hpackParser (((r.lookupStream frame.streamId).getD {}).buffer slot)
    ((frame :: frames).map (·.part (r.noteFlags frame).headerEof))
  rw [← decodedSizes_eq frames isLive] at stopped complete
  rw [MetadataBatch.size_append contents] at grown
  constructor
  · rw [← stopped]
    omega
  · intro succeeded
    rw [succeeded, eq_comm, Option.map_eq_none_iff] at error
    rw [← complete error]
    omega

/-- A block on a live stream keeps the acknowledged limit exactly when the header
that takes it above the limit is noticed in its own frame. -/
theorem keepsLimit_iff_limitNoticed {r r₀ : HeaderReader} {frame : HeaderFrame}
    {frames : List HeaderFrame} (begun : r.initFrameParser frame = .ok r₀)
    (live : r.takesSkipPath frame = false) (positive : frame.streamId ≠ 0)
    (chained : Chained frame frames) :
    r.KeepsLimit frame frames ↔
      LimitNoticed r.maxHeaderListSize (r.decodedSizes frame frames) := by
  obtain ⟨received, complete⟩ := receivedSize_consumeAll begun live positive chained
  have stops := takeWhile_le_iff (bounded_blockCounts 0 (r.decodedSizes frame frames))
    (Nat.zero_le r.maxHeaderListSize)
  simp only [Nat.zero_add] at stops
  unfold KeepsLimit LimitNoticed
  rw [← stops]
  constructor
  · rintro ⟨within, -⟩
    omega
  · intro within
    refine ⟨by omega, ?_⟩
    intro above succeeded
    have all := complete succeeded
    omega

def smallLimit : HeaderReader := { isClient := false, maxHeaderListSize := 50 }

/-- `:method: GET` in a frame of its own. -/
def methodFrame (flags : UInt8) : HeaderFrame :=
  { type := .headers, flags, streamId := 1, slice := [0x82] }

/-- `:path: /` in a frame of its own. -/
def pathFrame : HeaderFrame := { type := .continuation, flags := 4, streamId := 1, slice := [0x84] }

theorem keepsLimit_iff_two_frames :
    smallLimit.KeepsLimit (methodFrame 0) [pathFrame] ↔
      LimitNoticed 50 (smallLimit.decodedSizes (methodFrame 0) [pathFrame]) :=
  keepsLimit_iff_limitNoticed rfl rfl (by decide) ⟨rfl, rfl, rfl, trivial⟩

/-- Two headers in two frames take a block above the limit unnoticed. -/
theorem split_block_exceeds_limit : ¬ smallLimit.KeepsLimit (methodFrame 0) [pathFrame] := by
  decide

end HeaderReader

end GrpcCore.Transport
