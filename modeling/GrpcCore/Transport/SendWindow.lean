import GrpcCore.Transport.SendAccounts

/-!
# The sender keeps within the peer's windows

In every run the DATA frames sent fit the window of the connection and the
windows of their streams, as the peer counts them.
-/

namespace GrpcCore.Transport

open Hpack MachineInt TransportFlowControl

/-- A frame the peer allows. One without a payload only ends its stream, and is
not flow controlled. -/
structure DataFrame.Allowed (frame : DataFrame) : Prop where
  frameSize : frame.length ≤ frame.maxFrameSize
  transport : (frame.length : Int) ≤ frame.transportWindow
  stream : 0 < frame.length → (frame.length : Int) ≤ frame.streamWindow
  empty : frame.length = 0 → frame.endStream = true

namespace SendSide

structure WithinWindows (w : SendSide) : Prop where
  enabled : w.flowControlEnabled = true
  transport : w.tfc.remoteWindow = kDefaultWindow + w.incrementsReceived - w.bytesSent
  nonneg : 0 ≤ w.tfc.remoteWindow
  stream : ∀ id, (w.streams id).sfc.remoteWindowDelta =
    (w.streams id).incrementsReceived - w.streamBytesSent id
  frames : ∀ frame ∈ w.dataFrames, frame.Allowed

variable {w : SendSide}

theorem Quiet.withinWindows {w' : SendSide} (quiet : Quiet w w') (holds : w.WithinWindows) :
    w'.WithinWindows where
  enabled := quiet.enabled.trans holds.enabled
  transport := by
    rw [quiet.tfc, quiet.increments, bytesSent, quiet.dataFrames]
    exact holds.transport
  nonneg := by
    rw [quiet.tfc]
    exact holds.nonneg
  stream id := by
    rw [quiet.sfc, quiet.streamIncrements, streamBytesSent, quiet.dataFrames]
    exact holds.stream id
  frames := by
    rw [quiet.dataFrames]
    exact holds.frames

variable (peer : Settings)

theorem withinWindows_stall (id : Nat) (holds : w.WithinWindows) :
    (w.stall peer id).WithinWindows := by
  unfold stall
  split_ifs <;> exact ⟨holds.enabled, holds.transport, holds.nonneg, holds.stream, holds.frames⟩

theorem withinWindows_recvStreamUpdate (id amount : Nat) (holds : w.WithinWindows) :
    (w.recvStreamUpdate id amount).WithinWindows where
  enabled := holds.enabled
  transport := holds.transport
  nonneg := holds.nonneg
  stream other := by
    have before := holds.stream other
    by_cases same : other = id
    · subst same
      simp [recvStreamUpdate, setStream, holds.enabled, StreamFlowControl.recvUpdate,
        streamBytesSent, before]
      omega
    · simpa [recvStreamUpdate, setStream, Function.update_of_ne same, streamBytesSent] using before
  frames := holds.frames

theorem withinWindows_recvTransportUpdate (amount : Nat) (holds : w.WithinWindows) :
    (w.recvTransportUpdate amount).WithinWindows where
  enabled := holds.enabled
  transport := by
    have before := holds.transport
    simp only [recvTransportUpdate, holds.enabled, if_true, recvUpdate,
      bytesSent, before]
    omega
  nonneg := by
    have before := holds.nonneg
    simp only [recvTransportUpdate, holds.enabled, if_true, recvUpdate]
    omega
  stream := holds.stream
  frames := holds.frames

theorem withinWindows_windowUpdated (id amount : Nat) (holds : w.WithinWindows) :
    (w.windowUpdated id amount).WithinWindows := by
  unfold windowUpdated
  split_ifs
  · exact withinWindows_recvTransportUpdate amount holds
  · exact (eased_unstall _ id).toQuiet.withinWindows (withinWindows_recvStreamUpdate id amount holds)

theorem maxOutgoing_le (nonneg : 0 ≤ w.tfc.remoteWindow) (peer : Settings) (id : Nat) :
    w.maxOutgoing peer id ≤ peer.maxFrameSize ∧
      (w.maxOutgoing peer id : Int) ≤ w.tfc.remoteWindow ∧
      (w.maxOutgoing peer id : Int) ≤ max 0 (w.streamWindow peer id) := by
  have stream : (w.streamRemoteWindow peer id : Int) ≤ max 0 (w.streamWindow peer id) :=
    uint32_le (by omega)
  have least : (uint32 (min (w.streamRemoteWindow peer id) w.tfc.remoteWindow) : Int) ≤
      min (w.streamRemoteWindow peer id : Int) w.tfc.remoteWindow := uint32_le (by omega)
  unfold maxOutgoing
  omega

theorem bytesSent_encodeData (w : SendSide) (id sendBytes : Nat) (isEof : Bool) :
    (w.encodeData peer id sendBytes isEof).bytesSent = w.bytesSent + sendBytes := by
  simp [encodeData, bytesSent]

theorem streamBytesSent_encodeData (w : SendSide) (id other sendBytes : Nat) (isEof : Bool) :
    (w.encodeData peer id sendBytes isEof).streamBytesSent other =
      w.streamBytesSent other + if other = id then sendBytes else 0 := by
  by_cases same : other = id
  · subst same
    simp [encodeData, streamBytesSent]
  · simp [encodeData, streamBytesSent, same, Ne.symm same]

variable {peer : Settings} {sendBytes : Nat}

theorem allowed_encodeData (holds : w.WithinWindows) {id : Nat} {isEof : Bool}
    (bounded : sendBytes ≤ w.maxOutgoing peer id) (ends : sendBytes = 0 → isEof = true) :
    ∀ frame ∈ (w.encodeData peer id sendBytes isEof).dataFrames, frame.Allowed := by
  obtain ⟨size, transport, stream⟩ := maxOutgoing_le holds.nonneg peer id
  have counted := holds.transport
  have delta := holds.stream id
  intro frame sent
  rcases List.mem_append.mp sent with earlier | new
  · exact holds.frames frame earlier
  · rw [List.mem_singleton.mp new]
    refine ⟨Nat.le_trans bounded size, ?_, ?_, ends⟩
    · dsimp only
      omega
    · intro positive
      dsimp only at positive ⊢
      unfold streamWindow at stream
      omega

theorem withinWindows_send (holds : w.WithinWindows) {id : Nat} {isEof : Bool}
    (bounded : sendBytes ≤ w.maxOutgoing peer id) (positive : 0 < sendBytes) :
    ((w.encodeData peer id sendBytes isEof).sentData id sendBytes).WithinWindows := by
  have allowed : ∀ frame ∈ (w.encodeData peer id sendBytes isEof).dataFrames, frame.Allowed :=
    allowed_encodeData holds bounded (by omega)
  obtain ⟨_, transport, _⟩ := maxOutgoing_le holds.nonneg peer id
  have enabled : (w.encodeData peer id sendBytes isEof).flowControlEnabled = true := holds.enabled
  have total := bytesSent_encodeData peer w id sendBytes isEof
  have remote := holds.transport
  simp only [sentData, enabled, if_true, StreamFlowControl.sentData,
    streamSentData]
  refine ⟨enabled, ?_, ?_, ?_, allowed⟩
  · show w.tfc.remoteWindow - sendBytes = kDefaultWindow + w.incrementsReceived -
      (w.encodeData peer id sendBytes isEof).bytesSent
    omega
  · show 0 ≤ w.tfc.remoteWindow - sendBytes
    omega
  · intro other
    have delta := holds.stream other
    have each := streamBytesSent_encodeData peer w id other sendBytes isEof
    simp only [streamBytesSent, encodeData] at delta each
    by_cases same : other = id
    · subst same
      rw [if_pos rfl] at each
      simp only [streamBytesSent, setStream, Function.update_self, encodeData, each, delta]
      omega
    · rw [if_neg same] at each
      simp only [streamBytesSent, setStream, Function.update_of_ne same, encodeData, each, delta]
      omega

theorem withinWindows_encodeEmpty (holds : w.WithinWindows) (peer : Settings) (id : Nat) :
    (w.encodeData peer id 0 true).WithinWindows where
  enabled := holds.enabled
  transport := by
    rw [bytesSent_encodeData]
    exact holds.transport
  nonneg := holds.nonneg
  stream other := by
    rw [streamBytesSent_encodeData, ite_self]
    exact holds.stream other
  frames := allowed_encodeData holds (Nat.zero_le _) (fun _ => rfl)

/-- What quiet changes, sent frames, stalls and window updates keep, every step of the sending side
keeps. -/
structure Kept (Holds : SendSide → Prop) : Prop where
  quiet : ∀ {w w' : SendSide}, Quiet w w' → Holds w → Holds w'
  stall : ∀ {w : SendSide} (peer id), Holds w → Holds (w.stall peer id)
  windowUpdated : ∀ {w : SendSide} (id amount), Holds w → Holds (w.windowUpdated id amount)
  send : ∀ {w : SendSide} {peer id sendBytes isEof}, Holds w →
    sendBytes ≤ w.maxOutgoing peer id → 0 < sendBytes →
      Holds ((w.encodeData peer id sendBytes isEof).sentData id sendBytes)
  encodeEmpty : ∀ {w : SendSide} (peer id), Holds w → Holds (w.encodeData peer id 0 true)

variable {Holds : SendSide → Prop}

theorem Kept.flushUncompressed (kept : Kept Holds) (peer : Settings) (id fuel : Nat)
    {sent : Bool × SendSide} (holds : Holds sent.2) :
    Holds (SendSide.flushUncompressed peer id fuel sent).2 := by
  induction fuel generalizing sent with
  | zero => exact holds
  | succ fuel ih =>
    obtain ⟨isLastFrame, w⟩ := sent
    unfold SendSide.flushUncompressed
    split_ifs with more
    · apply ih
      have taken : Quiet w (w.setStream id { w.streams id with
          flowControlledBuffer := (w.streams id).flowControlledBuffer -
            min (w.maxOutgoing peer id) (w.streams id).flowControlledBuffer }) :=
        quiet_setStream w id rfl rfl
      apply kept.send (kept.quiet taken holds)
      · rw [taken.maxOutgoing]
        exact Nat.min_le_left _ _
      · exact Nat.lt_min.mpr ⟨more.2, more.1⟩
    · exact holds

theorem Kept.flushCompressedBytes (kept : Kept Holds) {w : SendSide} (holds : Holds w)
    {peer : Settings} (outcome : Compressed) (isLastFrame : Bool) {id : Nat}
    (window : 0 < w.maxOutgoing peer id) (bytes : 0 < (w.streams id).compressedDataBuffer) :
    Holds (SendSide.flushCompressedBytes peer outcome isLastFrame w id).2 := by
  unfold SendSide.flushCompressedBytes
  dsimp only
  split_ifs
  · exact kept.quiet (quiet_compress w id outcome false) holds
  · have taken : Quiet w (w.setStream id { w.streams id with
        compressedDataBuffer := (w.streams id).compressedDataBuffer -
          min (w.maxOutgoing peer id) (w.streams id).compressedDataBuffer }) :=
      quiet_setStream w id rfl rfl
    apply kept.send (kept.quiet taken holds)
    · rw [taken.maxOutgoing]
      exact Nat.min_le_left _ _
    · exact Nat.lt_min.mpr ⟨window, bytes⟩

theorem Kept.flushCompressed (kept : Kept Holds) (peer : Settings) (id : Nat)
    (outcomes : List Compressed) {sent : Bool × SendSide} (holds : Holds sent.2) :
    Holds (SendSide.flushCompressed peer id outcomes sent).2 := by
  induction outcomes generalizing sent with
  | nil => exact holds
  | cons outcome outcomes ih =>
    obtain ⟨isLastFrame, w⟩ := sent
    unfold SendSide.flushCompressed
    split_ifs with more bytes
    · exact ih (kept.flushCompressedBytes holds outcome isLastFrame more.2 bytes)
    · exact ih (kept.quiet (quiet_compress w id outcome true) holds)
    · exact holds

theorem withinWindows_kept : Kept WithinWindows where
  quiet := Quiet.withinWindows
  stall peer id := withinWindows_stall peer id
  windowUpdated id amount := withinWindows_windowUpdated id amount
  send holds bounded positive := withinWindows_send holds bounded positive
  encodeEmpty peer id holds := withinWindows_encodeEmpty holds peer id

end SendSide

namespace Frames

open SendSide

variable {Holds : SendSide → Prop} {f : Frames SendSide}

section

variable (kept : Kept Holds)
include kept

theorem keeps_flushBytes (id : Nat) (outcomes : List Compressed) (holds : Holds f.world) :
    Holds (f.flushBytes id outcomes).2 := by
  unfold flushBytes
  split_ifs
  · exact kept.flushCompressed _ id outcomes holds
  · exact kept.flushUncompressed _ id _ holds

theorem keeps_flushData (id : Nat) (outcomes : List Compressed) (holds : Holds f.world) :
    Holds (f.flushData id outcomes).world := by
  unfold flushData
  split_ifs
  · exact holds
  · exact kept.stall _ id holds
  · apply kept.quiet (eased_afterBytes _ id _).quiet.world
    exact keeps_flushBytes kept id outcomes holds

theorem keeps_flushTrailingMetadata (id : Nat) (holds : Holds f.world) :
    Holds (f.flushTrailingMetadata id).world := by
  unfold flushTrailingMetadata
  dsimp only
  split_ifs
  · exact holds
  · split
    · exact holds
    · apply kept.quiet (eased_sentLastFrame _ id).quiet.world
      exact kept.encodeEmpty _ id holds
    · exact kept.quiet (eased_sentLastFrame f id).quiet.world holds

theorem keeps_writeStreams (pass : List (List Compressed)) {f : Frames SendSide}
    (holds : Holds f.world) : Holds (f.writeStreams pass).world := by
  induction pass generalizing f with
  | nil => exact holds
  | cons outcomes pass ih =>
    unfold writeStreams
    split
    · exact holds
    · apply ih
      apply keeps_flushTrailingMetadata kept
      apply keeps_flushData kept
      apply kept.quiet (eased_flushInitialMetadata _ _).quiet.world
      exact kept.quiet (eased_setWritable f.world _).toQuiet holds

theorem keeps_beginWrite (settings : Option Settings) (pass : List (List Compressed))
    (holds : Holds f.world) : Holds (f.beginWrite settings pass).world := by
  unfold beginWrite
  split_ifs
  · exact holds
  · apply keeps_writeStreams kept
    apply kept.quiet (eased_wakeStalledByTransport _).quiet.world
    exact kept.quiet (eased_flushSettings f settings).quiet.world holds

end

theorem quiet_postParse (f : Frames SendSide) : Quiet f.world f.postParse.world := by
  unfold postParse
  split_ifs
  · exact (eased_wakeStalledByStream f.world).toQuiet
  · exact .refl f.world

end Frames

theorem SendSide.host_keeps_kept {Holds : SendSide → Prop} (kept : SendSide.Kept Holds)
    (accept : SendSide → Nat → Bool)
    (overflow : FrameHeader → HeaderReader → SendSide → Option FlowControlError) :
    (SendSide.host accept overflow).Keeps Holds :=
  SendSide.host_keeps accept overflow kept.windowUpdated
    (fun id reads writes r holds =>
      kept.quiet (SendSide.eased_markStreamClosed id reads writes r _).toQuiet holds)

namespace SendingTransport

variable {accept : SendSide → Nat → Bool}
  {overflow : FrameHeader → HeaderReader → SendSide → Option FlowControlError}

theorem keeps_step {Holds : SendSide → Prop} (kept : SendSide.Kept Holds)
    {t t' : SendingTransport} {action : SendAction} (holds : Holds t.world)
    (taken : step (SendSide.host accept overflow) t action = some t') : Holds t'.world := by
  obtain ⟨r, slice, _, _, _, rfl⟩ | ⟨r, failed, _, _, rfl⟩ | ⟨_, _, _, rfl⟩ |
    ⟨frames, _, operated, rfl⟩ := step_cases taken
  · exact Deframer.keeps_performRead (SendSide.host_keeps_kept kept accept overflow) slice holds
  · have parsed : Holds t.frames.postParse.world :=
      kept.quiet (Frames.quiet_postParse t.frames) holds
    unfold finishRead
    split_ifs
    · exact kept.quiet (Frames.quiet_closeTransport _).world parsed
    · exact parsed
  · exact holds
  · obtain quiet | ⟨settings, pass, _, rfl⟩ := operate_cases operated
    · exact kept.quiet quiet.world holds
    · exact Frames.keeps_beginWrite kept settings pass holds

/-- In every run the sender keeps within the windows the peer has given. -/
theorem sender_keeps_within_windows (isClient : Bool) {actions : List SendAction}
    {t : SendingTransport}
    (run : Machine.Reach (step (SendSide.host accept overflow)) (initially isClient true)
      actions t) :
    (t.world.bytesSent : Int) ≤ kDefaultWindow + t.world.incrementsReceived ∧
      t.world.tfc.remoteWindow =
        kDefaultWindow + t.world.incrementsReceived - t.world.bytesSent ∧
      0 ≤ t.world.tfc.remoteWindow ∧
      ∀ frame ∈ t.world.dataFrames, frame.Allowed := by
  have initial : (initially isClient true).world.WithinWindows :=
    ⟨rfl, rfl, by simp [initially, world, kDefaultWindow], fun _ => rfl, by simp [initially, world]⟩
  have holds : t.world.WithinWindows :=
    run.invariant (fun holds _ taken => keeps_step SendSide.withinWindows_kept holds taken) initial
  have counted := holds.transport
  have nonneg := holds.nonneg
  exact ⟨by omega, counted, nonneg, holds.frames⟩

/-- A host that accepts every stream and every DATA frame. -/
def openHost : Host SendSide := SendSide.host (fun _ _ => true) fun _ _ _ => none

def settingFrame (id value : UInt8) : Bytes :=
  [0, 0, 6, 4, 0, 0, 0, 0, 0, 0, id, 0, 0, 0, value]

/-- A client sends ten bytes. -/
def sendsTenBytes : List SendAction := [
    .beginRead, .readSlice [0, 0, 0, 4, 0, 0, 0, 0, 0], .finishRead false,
    .sendInitialMetadata 1 false, .startStream 1, .sendMessage 1 10 false true,
    .beginWrite none [[]]]

def endsOnNegativeWindow : List SendAction := sendsTenBytes ++ [
    .beginRead, .readSlice (settingFrame 4 0), .finishRead false,
    .sendTrailingMetadata 1 true, .beginWrite none [[]]]

theorem sendsTenBytes_within_windows : ∃ t,
    Machine.Reach (step openHost) (initially true true) sendsTenBytes t ∧
      t.world.bytesSent = 10 ∧ 0 ≤ t.world.tfc.remoteWindow ∧
      ∀ frame ∈ t.world.dataFrames, frame.Allowed := by
  obtain ⟨t, run, sent⟩ := Machine.exists_reach (step openHost) (initially true true)
    sendsTenBytes (fun t => t.world.bytesSent) 10 (by decide)
  obtain ⟨_, _, nonneg, allowed⟩ := sender_keeps_within_windows true run
  exact ⟨t, run, sent, nonneg, allowed⟩

/-- An empty DATA frame goes out on a window of minus ten. -/
theorem empty_frame_on_negative_window : ∃ actions t,
    Machine.Reach (step openHost) (initially true true) actions t ∧
      ∃ frame ∈ t.world.dataFrames, ¬ (frame.length : Int) ≤ frame.streamWindow := by
  obtain ⟨t, run, sent⟩ := Machine.exists_reach (step openHost) (initially true true)
    endsOnNegativeWindow (fun t => t.world.dataFrames)
    [⟨1, 10, false, 16384, 65535, 65535⟩, ⟨1, 0, true, 16384, 65525, -10⟩] (by decide)
  refine ⟨_, t, run, ⟨1, 0, true, 16384, 65525, -10⟩, ?_, by decide⟩
  rw [sent]
  decide

end SendingTransport

end GrpcCore.Transport
