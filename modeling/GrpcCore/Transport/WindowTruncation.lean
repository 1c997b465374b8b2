import GrpcCore.Transport.StalledStreams

/-!
# Windows that do not fit the cast

The window of a stream is a sum of 64 bits that is cast to 32 bits before a write. Nothing bounds
the increments of the peer, so the sum may not fit.
-/

namespace GrpcCore.Transport

open Hpack MachineInt SendSide

namespace SendSide

structure Uncounted (w : SendSide) : Prop where
  disabled : w.flowControlEnabled = false
  delta : ∀ id, (w.streams id).sfc.remoteWindowDelta = 0

theorem Quiet.uncounted {w w' : SendSide} (quiet : Quiet w w') (holds : w.Uncounted) :
    w'.Uncounted where
  disabled := quiet.enabled.trans holds.disabled
  delta id := by
    rw [quiet.sfc]
    exact holds.delta id

theorem uncounted_recvStreamUpdate {w : SendSide} (id amount : Nat) (holds : w.Uncounted) :
    (w.recvStreamUpdate id amount).Uncounted where
  disabled := holds.disabled
  delta other := by
    unfold recvStreamUpdate setStream
    dsimp only
    rw [Function.update_apply, holds.disabled]
    split
    · exact holds.delta id
    · exact holds.delta other

theorem uncounted_kept : Kept Uncounted where
  quiet := Quiet.uncounted
  stall peer id holds := by
    unfold stall
    split_ifs <;> exact ⟨holds.disabled, holds.delta⟩
  windowUpdated id amount holds := by
    unfold windowUpdated
    split_ifs
    · exact ⟨holds.disabled, holds.delta⟩
    · exact (eased_unstall _ id).toQuiet.uncounted (uncounted_recvStreamUpdate id amount holds)
  send {w peer id sendBytes isEof} holds _ _ := by
    have disabled : (w.encodeData peer id sendBytes isEof).flowControlEnabled = false :=
      holds.disabled
    unfold sentData
    rw [disabled]
    exact ⟨holds.disabled, holds.delta⟩
  encodeEmpty _ _ holds := ⟨holds.disabled, holds.delta⟩

/-- What the windows count: increments and bytes sent if there is flow control. -/
def Counted (w : SendSide) : Prop := w.WithinWindows ∨ w.Uncounted

/-- A stream waits only if it did before or has no window, and all windows fit the cast. -/
structure StallsWithoutWindow (before : List Nat) (peer : Settings) (w : SendSide) : Prop where
  fits : ∀ id, w.streamWindow peer id < 4294967296
  stalled : ∀ id ∈ w.stalledByStream, id ∈ before ∨ w.streamWindow peer id ≤ 0

theorem streamRemoteWindow_eq_iff (w : SendSide) (peer : Settings) (id : Nat) :
    (w.streamRemoteWindow peer id : Int) = max 0 (w.streamWindow peer id) ↔
      w.streamWindow peer id < 4294967296 := by
  constructor
  · have small : w.streamRemoteWindow peer id < 4294967296 := uint32_lt _
    omega
  · intro fits
    exact uint32_of_lt (by omega) (by omega)

theorem stallsWithoutWindow_kept (before : List Nat) :
    Frames.KeptInPass fun peer _ => StallsWithoutWindow before peer where
  drained {w w' peer _} drained holds := by
    have lower : ∀ id, w'.streamWindow peer id ≤ w.streamWindow peer id :=
      fun id => Int.add_le_add_right (drained.delta id) _
    constructor
    · exact fun id => Int.lt_of_le_of_lt (lower id) (holds.fits id)
    · intro id stalled
      exact (holds.stalled id (drained.stalled stalled)).imp_right (Int.le_trans (lower id))
  stall {w peer _ id} holds _ := by
    unfold stall
    split_ifs with transport window
    · exact ⟨holds.fits, holds.stalled⟩
    · refine ⟨holds.fits, ?_⟩
      intro other stalled
      rcases mem_streamListAdd.mp stalled with earlier | rfl
      · exact holds.stalled other earlier
      · have same := (w.streamRemoteWindow_eq_iff peer other).mpr (holds.fits other)
        exact .inr (by change w.streamWindow peer other ≤ 0; omega)
    · exact holds

end SendSide

namespace SendingTransport

/-- The window that the peer has given a stream: the initial window and the increments received,
less the bytes sent. -/
def grantedWindow (t : SendingTransport) (id : Nat) : Int :=
  t.frames.peerSettings.initialWindowSize +
    if t.world.flowControlEnabled then
      ((t.world.streams id).incrementsReceived : Int) - t.world.streamBytesSent id
    else 0

/-- The windows of the streams are computed without truncation, and a write pass makes no stream
wait for its own window that has one. -/
structure WindowsExact (t : SendingTransport) : Prop where
  untruncated : ∀ id, (t.world.streamRemoteWindow t.frames.peerSettings id : Int) =
    max 0 (t.world.streamWindow t.frames.peerSettings id)
  unstalled : ∀ settings pass, ∀ id ∈ (t.frames.beginWrite settings pass).world.stalledByStream,
    id ∈ t.world.stalledByStream ∨
      (t.frames.beginWrite settings pass).world.streamWindow t.frames.peerSettings id ≤ 0

variable (accept : SendSide → Nat → Bool)
  (overflow : FrameHeader → HeaderReader → SendSide → Option FlowControlError)

/-- The frames that come with a step leave the windows given to all streams below four gigabytes. -/
def GrantsFit (t : SendingTransport) (action : SendAction) : Prop :=
  ∀ t', step (SendSide.host accept overflow) t action = some t' →
    ∀ id, t'.grantedWindow id < 4294967296

variable {t t' : SendingTransport}

theorem streamWindow_eq_granted (counted : t.world.Counted) (id : Nat) :
    t.world.streamWindow t.frames.peerSettings id = t.grantedWindow id := by
  unfold grantedWindow streamWindow
  rcases counted with within | uncounted
  · rw [within.stream id, within.enabled, if_pos rfl, Int.add_comm]
  · rw [uncounted.delta id, uncounted.disabled, if_neg Bool.false_ne_true, Int.add_comm]

theorem windowsExact_iff (counted : t.world.Counted) :
    t.WindowsExact ↔ ∀ id, t.grantedWindow id < 4294967296 := by
  constructor
  · intro windows id
    rw [← streamWindow_eq_granted counted]
    exact (t.world.streamRemoteWindow_eq_iff _ id).mp (windows.untruncated id)
  · intro granted
    have fits : ∀ id, t.world.streamWindow t.frames.peerSettings id < 4294967296 := by
      intro id
      rw [streamWindow_eq_granted counted]
      exact granted id
    constructor
    · exact fun id => (t.world.streamRemoteWindow_eq_iff _ id).mpr (fits id)
    · intro settings pass
      have holding : Frames.Holding
          (fun peer _ => SendSide.StallsWithoutWindow t.world.stalledByStream peer) t.frames :=
        ⟨fits, fun _ stalled => .inl stalled⟩
      obtain ⟨after, same⟩ := Frames.keeps_beginWriteInPass
        (stallsWithoutWindow_kept t.world.stalledByStream) settings pass holding
      rw [← same.peer]
      exact after.stalled

theorem counted_step {action : SendAction} (counted : t.world.Counted)
    (taken : step (host accept overflow) t action = some t') : t'.world.Counted := by
  rcases counted with within | uncounted
  · exact .inl (keeps_step withinWindows_kept within taken)
  · exact .inr (keeps_step uncounted_kept uncounted taken)

theorem counted_initially (isClient flowControlEnabled : Bool) :
    (initially isClient flowControlEnabled).world.Counted := by
  cases flowControlEnabled with
  | true =>
    refine .inl ⟨rfl, rfl, ?_, fun _ => rfl, ?_⟩
    · simp [initially, world, kDefaultWindow]
    · simp [initially, world]
  | false => exact .inr ⟨rfl, fun _ => rfl⟩

theorem grantedWindow_initially (isClient flowControlEnabled : Bool) (id : Nat) :
    (initially isClient flowControlEnabled).grantedWindow id < 4294967296 := by
  cases flowControlEnabled with
  | true =>
    change (65535 : Int) + ((0 : Int) - 0) < 4294967296
    decide
  | false =>
    change (2147483647 : Int) + 0 < 4294967296
    decide

/-- In exactly the runs in which the frames of the peer leave the windows below four gigabytes, the
windows are computed without truncation. -/
theorem windowsExact_iff_grantsFit (isClient flowControlEnabled : Bool)
    (actions : List SendAction) (final : SendingTransport) :
    Machine.Run (step (SendSide.host accept overflow)) (GrantsFit accept overflow)
        (initially isClient flowControlEnabled) actions final ↔
      Machine.Reach (step (SendSide.host accept overflow))
          (initially isClient flowControlEnabled) actions final ∧
        ∀ done later, actions = done ++ later → ∀ middle,
          Machine.Reach (step (SendSide.host accept overflow))
            (initially isClient flowControlEnabled) done middle → middle.WindowsExact := by
  have initial := counted_initially isClient flowControlEnabled
  apply Machine.Run.iff_always (fun (counted : SendSide.Counted (world _)) taken =>
    counted_step accept overflow counted taken)
  · intro t action t' counted _ taken
    rw [windowsExact_iff (counted_step accept overflow counted taken)]
    constructor
    · intro granted t'' taken'
      obtain rfl := Option.mem_unique taken taken'
      exact granted
    · exact fun granted => granted t' taken
  · exact initial
  · exact (windowsExact_iff initial).mpr (grantedWindow_initially isClient flowControlEnabled)

/-- Two WINDOW_UPDATE frames for the first stream, whose increments and the initial window of 65535
bytes make four gigabytes. -/
def fillsWindow : List SendAction := [
    .beginRead, .readSlice [0, 0, 0, 4, 0, 0, 0, 0, 0], .finishRead false,
    .sendInitialMetadata 1 false, .startStream 1, .sendMessage 1 10 false true,
    .beginRead,
    .readSlice [0, 0, 4, 8, 0, 0, 0, 0, 1, 127, 255, 255, 255],
    .readSlice [0, 0, 4, 8, 0, 0, 0, 0, 1, 127, 255, 0, 2],
    .finishRead false]

/-- The window is truncated to nothing, and a write makes the stream wait. -/
theorem full_window_truncated :
    ¬ ∀ (actions : List SendAction) (t : SendingTransport),
      Machine.Reach (step openHost) (initially true true) actions t → t.WindowsExact := by
  intro always
  obtain ⟨t, run, seen⟩ := Machine.exists_reach (step openHost) (initially true true) fillsWindow
    (fun t => (t.world.streamWindow t.frames.peerSettings 1,
      t.world.streamRemoteWindow t.frames.peerSettings 1,
      (t.frames.beginWrite none [[]]).world.stalledByStream)) (4294967296, 0, [1]) (by decide)
  rw [Prod.mk.injEq, Prod.mk.injEq] at seen
  have exact_ := (always _ t run).untruncated 1
  rw [seen.1, seen.2.1] at exact_
  exact absurd exact_ (by decide)

end SendingTransport

end GrpcCore.Transport
