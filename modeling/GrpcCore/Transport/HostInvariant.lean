import GrpcCore.Transport.Segmentation

/-!
# What a read does to the host

Frames reach the rest of the transport through its host alone. What the host
keeps is kept by every read, however the bytes are cut and wherever it fails.
-/

namespace GrpcCore.Transport

open Hpack Segments

variable {World : Type} {host : Host World} {Holds : World → Prop}

structure Host.Keeps (host : Host World) (Holds : World → Prop) : Prop where
  recvData : ∀ {header r world world'}, Holds world →
    host.recvData header r world = .ok world' → Holds world'
  act : ∀ action r {world}, Holds world → Holds (host.act action r world).2

namespace Frames

theorem keeps_initData (keeps : host.Keeps Holds) {f : Frames World} (header : FrameHeader)
    (holds : Holds f.world) : Holds (f.initDataFrameParser host header).2.world := by
  unfold initDataFrameParser
  cases received : host.recvData header f.headers f.world with
  | error error => exact holds
  | ok world =>
    have holds' : Holds world := keeps.recvData holds received
    cases found : f.headers.lookupStream header.streamId with
    | none => simpa only [found] using holds'
    | some s =>
      simp only [found]
      split_ifs
      · exact holds'
      · exact keeps.act _ _ holds'
      · exact holds'
      · exact holds'

variable (f : Frames World)

theorem world_initHeader (header : FrameHeader) (isContinuation : Bool) :
    (f.initHeaderFrameParser host header isContinuation).2.world = f.world := by
  unfold initHeaderFrameParser
  dsimp only
  split <;> rfl

theorem world_ackSettings : f.ackSettings.2.world = f.world := by
  unfold ackSettings
  split <;> rfl

section

variable (header : FrameHeader)
include header

theorem world_initSettings : (f.initSettingsFrameParser header).2.world = f.world := by
  unfold initSettingsFrameParser
  split
  · rfl
  · split
    · rfl
    · split_ifs
      · exact world_ackSettings f
      · rfl

theorem world_initWindowUpdate : (f.initWindowUpdateFrameParser header).2.world = f.world := by
  unfold initWindowUpdateFrameParser
  split
  · rfl
  · split <;> rfl

theorem world_initPing : (f.initPingParser header).2.world = f.world := by
  unfold initPingParser
  split <;> rfl

theorem world_initRstStream : (f.initRstStreamParser header).2.world = f.world := by
  unfold initRstStreamParser
  split
  · rfl
  · split <;> rfl

theorem world_initGoaway : (f.initGoawayParser header).2.world = f.world := by
  unfold initGoawayParser
  split <;> rfl

end

theorem keeps_initFrameParser (keeps : host.Keeps Holds) {f : Frames World}
    (header : FrameHeader) (holds : Holds f.world) :
    Holds (f.initFrameParser host header).2.world := by
  unfold initFrameParser
  dsimp only
  split_ifs
  · exact holds
  · exact holds
  · exact holds
  · rw [world_initHeader]
    exact holds
  · split
    · exact keeps_initData keeps header holds
    · rw [world_initHeader]
      exact holds
    · exact holds
    · rw [world_initRstStream]
      exact holds
    · rw [world_initSettings]
      exact holds
    · rw [world_initWindowUpdate]
      exact holds
    · rw [world_initPing]
      exact holds
    · rw [world_initGoaway]
      exact holds
    · exact holds

theorem keeps_finishPayload {State Result : Type} (keeps : host.Keeps Holds) {f : Frames World}
    (parser : State → FrameParser) (action : Result → FrameAction)
    (parsed : Except ControlError (State × Option Result)) (holds : Holds f.world) :
    Holds (f.finishPayload host parser action parsed).2.world := by
  rcases parsed with error | ⟨state, _ | result⟩
  · exact holds
  · exact holds
  · exact keeps.act _ _ holds

theorem keeps_parseFrameSlice (keeps : host.Keeps Holds) {f : Frames World} (slice : Bytes)
    (isLast : Bool) (holds : Holds f.world) :
    Holds (f.parseFrameSlice host slice isLast).2.world := by
  unfold parseFrameSlice
  split
  · exact holds
  · split
    · exact holds
    · unfold endHeaders
      split
      · exact keeps.act _ _ holds
      · exact holds
  · split_ifs
    · exact keeps.act _ _ holds
    · exact holds
  · unfold parseSettings
    split
    · exact keeps.act _ _ holds
    · split_ifs
      · exact keeps.act _ _ holds
      · exact holds
  all_goals exact keeps_finishPayload keeps _ _ _ holds

end Frames

namespace Deframer

theorem keeps_parseFrameSlice (keeps : host.Keeps Holds) {d : Deframer World} (slice : Bytes)
    (isLast : Bool) (holds : Holds d.frames.world) :
    Holds (d.parseFrameSlice host slice isLast).2.frames.world :=
  Frames.keeps_parseFrameSlice keeps slice isLast holds

variable {d : Deframer World}

section

variable (keeps : host.Keeps Holds)
include keeps

theorem keeps_startFrame (rest : Bytes) (holds : Holds d.frames.world) :
    Holds (d.startFrame host rest).state.frames.world := by
  have begun : Holds (d.initFrameParser host).2.frames.world :=
    Frames.keeps_initFrameParser keeps d.incomingHeader holds
  unfold startFrame
  generalize d.initFrameParser host = outcome at begun ⊢
  obtain ⟨_ | error, d'⟩ := outcome
  · have ended : Holds (d'.parseFrameSlice host [] true).2.frames.world :=
      keeps_parseFrameSlice keeps [] true begun
    dsimp only
    split_ifs
    · generalize d'.parseFrameSlice host [] true = outcome at ended ⊢
      obtain ⟨_ | error, d''⟩ := outcome <;> exact ended
    · exact begun
    · exact begun
  · exact begun

theorem keeps_readPayload (slice : Bytes) (holds : Holds d.frames.world) :
    Holds (d.readPayload host slice).state.frames.world := by
  unfold readPayload
  dsimp only
  split_ifs
  · have parsed := keeps_parseFrameSlice keeps slice true holds
    generalize d.parseFrameSlice host slice true = outcome at parsed ⊢
    obtain ⟨_ | error, d'⟩ := outcome <;> exact parsed
  · have parsed := keeps_parseFrameSlice keeps (slice.take d.incomingFrameSize) true holds
    generalize d.parseFrameSlice host (slice.take d.incomingFrameSize) true = outcome at parsed ⊢
    obtain ⟨_ | error, d'⟩ := outcome <;> exact parsed
  · have parsed := keeps_parseFrameSlice keeps slice false holds
    generalize d.parseFrameSlice host slice false = outcome at parsed ⊢
    obtain ⟨_ | error, d'⟩ := outcome <;> exact parsed

theorem keeps_step (cur : UInt8) (rest : Bytes) (holds : Holds d.frames.world) :
    Holds (d.step host (cur :: rest)).state.frames.world := by
  unfold step
  dsimp only
  split
  · split_ifs <;> exact holds
  all_goals first
    | exact holds
    | exact keeps_startFrame keeps rest holds
    | exact keeps_readPayload keeps (cur :: rest) holds

theorem keeps_performRead (slice : Bytes) (holds : Holds d.frames.world) :
    Holds (d.performRead host slice).2.frames.world :=
  read_invariant (fun d : Deframer World => Holds d.frames.world) (fun holds => keeps_step keeps _ _ holds) holds slice

end

end Deframer

end GrpcCore.Transport
