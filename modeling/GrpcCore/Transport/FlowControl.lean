import GrpcCore.Lib.MachineInt

/-!
# Flow control bookkeeping

The windows of one connection and of its streams, as kept by
`TransportFlowControl` and `StreamFlowControl`. Signed 64-bit counters are
integers; each conversion to `uint32_t` is explicit.
-/

namespace GrpcCore.Transport

open MachineInt

def kDefaultWindow : Int := 65535
def kMaxWindow : Int := 2147483647
def kMaxWindowUpdateSize : Int := 2147483647
def kMinInitialWindowSize : Int := 128
def kMaxInitialWindowSize : Int := 1073741824
def kMaxWindowDelta : Nat := 1048576
def headerSizeInBytes : Nat := 5

structure TransportFlowControl where
  remoteWindow : Int := kDefaultWindow
  targetInitialWindowSize : Int := kDefaultWindow
  announcedWindow : Int := kDefaultWindow
  announcedStreamTotalOverIncomingWindow : Int := 0
deriving DecidableEq

structure StreamFlowControl where
  remoteWindowDelta : Int := 0
  localWindowDelta : Int := 0
  announcedWindowDelta : Int := 0
deriving DecidableEq

/-- The two `INITIAL_WINDOW_SIZE` values the receive check looks at. -/
structure InitialWindows where
  sent : Nat
  acked : Nat
deriving DecidableEq

/-- The read side of a stream as `StreamFlowControl::MaybeSendUpdate` sees it. -/
structure PendingRead where
  onNext : Bool
  recvMessage : Bool
  frameStorageLength : Nat
deriving DecidableEq

inductive FlowControlError where
  | overflowsLocalWindow (incomingFrameSize : Int) (window : Int)
deriving DecidableEq

namespace TransportFlowControl

def targetWindow (tfc : TransportFlowControl) : Int :=
  uint32 (min kMaxWindow
    (tfc.announcedStreamTotalOverIncomingWindow + tfc.targetInitialWindowSize))

def streamSentData (tfc : TransportFlowControl) (size : Int) : TransportFlowControl :=
  { tfc with remoteWindow := tfc.remoteWindow - size }

def recvUpdate (tfc : TransportFlowControl) (size : Nat) : TransportFlowControl :=
  { tfc with remoteWindow := tfc.remoteWindow + size }

def validateRecvData (tfc : TransportFlowControl) (incomingFrameSize : Int) :
    Except FlowControlError Unit :=
  if incomingFrameSize > tfc.announcedWindow then
    .error (.overflowsLocalWindow incomingFrameSize tfc.announcedWindow)
  else .ok ()

def commitRecvData (tfc : TransportFlowControl) (incomingFrameSize : Int) :
    TransportFlowControl :=
  { tfc with announcedWindow := tfc.announcedWindow - incomingFrameSize }

def recvData (tfc : TransportFlowControl) (incomingFrameSize : Int) :
    Except FlowControlError TransportFlowControl := do
  tfc.validateRecvData incomingFrameSize
  return tfc.commitRecvData incomingFrameSize

def maybeSendUpdate (tfc : TransportFlowControl) (writingAnyway : Bool) :
    TransportFlowControl × Nat :=
  let targetAnnouncedWindow := uint32 tfc.targetWindow
  if (writingAnyway ∨ tfc.announcedWindow ≤ (targetAnnouncedWindow / 2 : Nat)) ∧
      tfc.announcedWindow ≠ targetAnnouncedWindow then
    let announce := uint32
      (clamp (targetAnnouncedWindow - tfc.announcedWindow) 0 kMaxWindowUpdateSize)
    ({ tfc with announcedWindow := tfc.announcedWindow + announce }, announce)
  else (tfc, 0)

def preUpdateAnnouncedWindowOverIncomingWindow (tfc : TransportFlowControl) (delta : Int) :
    TransportFlowControl :=
  if delta > 0 then
    { tfc with announcedStreamTotalOverIncomingWindow :=
        tfc.announcedStreamTotalOverIncomingWindow - delta }
  else tfc

def postUpdateAnnouncedWindowOverIncomingWindow (tfc : TransportFlowControl) (delta : Int) :
    TransportFlowControl :=
  if delta > 0 then
    { tfc with announcedStreamTotalOverIncomingWindow :=
        tfc.announcedStreamTotalOverIncomingWindow + delta }
  else tfc

/-- The part of `PeriodicUpdate` that moves the target; `target` is the estimate
rounded toward zero, which commutes with the clamp to integral bounds. -/
def updateTarget (tfc : TransportFlowControl) (target : Int) : TransportFlowControl :=
  { tfc with
    targetInitialWindowSize := clamp target kMinInitialWindowSize kMaxInitialWindowSize }

end TransportFlowControl

namespace StreamFlowControl

def sentData (tfc : TransportFlowControl) (sfc : StreamFlowControl) (outgoingFrameSize : Int) :
    TransportFlowControl × StreamFlowControl :=
  (tfc.streamSentData outgoingFrameSize,
    { sfc with remoteWindowDelta := sfc.remoteWindowDelta - outgoingFrameSize })

def recvUpdate (sfc : StreamFlowControl) (size : Nat) : StreamFlowControl :=
  { sfc with remoteWindowDelta := sfc.remoteWindowDelta + size }

def updateAnnouncedWindowDelta (tfc : TransportFlowControl) (sfc : StreamFlowControl)
    (change : Int) : TransportFlowControl × StreamFlowControl :=
  let tfc := tfc.preUpdateAnnouncedWindowOverIncomingWindow sfc.announcedWindowDelta
  let sfc := { sfc with announcedWindowDelta := sfc.announcedWindowDelta + change }
  (tfc.postUpdateAnnouncedWindowOverIncomingWindow sfc.announcedWindowDelta, sfc)

/-- A frame that only fits the window sent but not yet acknowledged is let
through; the source logs it and carries on. -/
def recvData (tfc : TransportFlowControl) (sfc : StreamFlowControl) (windows : InitialWindows)
    (incomingFrameSize : Int) :
    Except FlowControlError (TransportFlowControl × StreamFlowControl) := do
  tfc.validateRecvData incomingFrameSize
  let ackedStreamWindow := sfc.announcedWindowDelta + windows.acked
  let sentStreamWindow := sfc.announcedWindowDelta + windows.sent
  if incomingFrameSize > ackedStreamWindow ∧ ¬ incomingFrameSize ≤ sentStreamWindow then
    throw (.overflowsLocalWindow incomingFrameSize ackedStreamWindow)
  let (tfc, sfc) := updateAnnouncedWindowDelta tfc sfc (-incomingFrameSize)
  let sfc := { sfc with localWindowDelta := sfc.localWindowDelta - incomingFrameSize }
  return (tfc.commitRecvData incomingFrameSize, sfc)

def incomingByteStreamUpdate (sfc : StreamFlowControl) (maxSizeHint haveAlready : Nat) :
    StreamFlowControl :=
  let maxRecvBytes := if maxSizeHint ≥ kMaxWindowDelta then kMaxWindowDelta
    else uint32 maxSizeHint
  let maxRecvBytes := if maxRecvBytes ≥ haveAlready then maxRecvBytes - uint32 haveAlready
    else 0
  if sfc.localWindowDelta < maxRecvBytes then
    let addMaxRecvBytes := uint32 (maxRecvBytes - sfc.localWindowDelta)
    { sfc with localWindowDelta := sfc.localWindowDelta + addMaxRecvBytes }
  else sfc

/-- Reopen a window that a settings change drove below one message header while
a read is outstanding. -/
def reopenForPendingRead (sfc : StreamFlowControl) (read : PendingRead) : StreamFlowControl :=
  if sfc.localWindowDelta < headerSizeInBytes then
    if read.onNext then sfc.incomingByteStreamUpdate headerSizeInBytes 0
    else if read.recvMessage then
      sfc.incomingByteStreamUpdate headerSizeInBytes read.frameStorageLength
    else sfc
  else sfc

def maybeSendUpdate (tfc : TransportFlowControl) (sfc : StreamFlowControl)
    (read : PendingRead) : (TransportFlowControl × StreamFlowControl) × Nat :=
  let sfc := sfc.reopenForPendingRead read
  if sfc.localWindowDelta > sfc.announcedWindowDelta then
    let announce := uint32
      (clamp (sfc.localWindowDelta - sfc.announcedWindowDelta) 0 kMaxWindowUpdateSize)
    (updateAnnouncedWindowDelta tfc sfc announce, announce)
  else ((tfc, sfc), 0)

/-- The destructor gives the stream's share of the total back. -/
def destroy (tfc : TransportFlowControl) (sfc : StreamFlowControl) : TransportFlowControl :=
  tfc.preUpdateAnnouncedWindowOverIncomingWindow sfc.announcedWindowDelta

end StreamFlowControl

/-- What a stream adds to the connection's total: only what it may receive
beyond the initial window. -/
def StreamFlowControl.share (sfc : StreamFlowControl) : Int := max 0 sfc.announcedWindowDelta

/-- No stream has announced more than it wants, nor wants more than the cap. -/
def StreamFlowControl.WellFormed (sfc : StreamFlowControl) : Prop :=
  sfc.announcedWindowDelta ≤ sfc.localWindowDelta ∧ sfc.localWindowDelta ≤ kMaxWindowDelta

instance (sfc : StreamFlowControl) : Decidable sfc.WellFormed :=
  inferInstanceAs (Decidable (_ ∧ _))

structure TransportFlowControl.WellFormed (tfc : TransportFlowControl) : Prop where
  announced_nonneg : 0 ≤ tfc.announcedWindow
  announced_le : tfc.announcedWindow ≤ kMaxWindow
  total_nonneg : 0 ≤ tfc.announcedStreamTotalOverIncomingWindow
  target_nonneg : 0 ≤ tfc.targetInitialWindowSize

variable {tfc : TransportFlowControl} {size : Int}

namespace TransportFlowControl

theorem targetWindow_mem (wellFormed : tfc.WellFormed) :
    0 ≤ tfc.targetWindow ∧ tfc.targetWindow ≤ kMaxWindow := by
  have totalNonneg := wellFormed.total_nonneg
  have targetNonneg := wellFormed.target_nonneg
  simp only [targetWindow, uint32, kMaxWindow]
  omega

/-- The window after an update is the larger of the two: it never shrinks, and
the value returned is what it grew by. -/
theorem maybeSendUpdate_spec (wellFormed : tfc.WellFormed) (writingAnyway : Bool) :
    (tfc.maybeSendUpdate writingAnyway).1.WellFormed ∧
      ((tfc.maybeSendUpdate writingAnyway).2 : Int) ≤ kMaxWindowUpdateSize ∧
      (tfc.maybeSendUpdate writingAnyway).1.announcedStreamTotalOverIncomingWindow =
        tfc.announcedStreamTotalOverIncomingWindow := by
  have target := targetWindow_mem wellFormed
  have announcedNonneg := wellFormed.announced_nonneg
  have announcedLe := wellFormed.announced_le
  simp only [kMaxWindow] at target announcedLe
  by_cases sends : (writingAnyway ∨
      tfc.announcedWindow ≤ (uint32 tfc.targetWindow / 2 : Nat)) ∧
      tfc.announcedWindow ≠ uint32 tfc.targetWindow
  · simp only [maybeSendUpdate, if_pos sends]
    refine ⟨⟨?_, ?_, wellFormed.total_nonneg, wellFormed.target_nonneg⟩, ?_, trivial⟩ <;>
    · simp only [uint32, clamp, kMaxWindow, kMaxWindowUpdateSize]
      split_ifs <;> omega
  · simp only [maybeSendUpdate, if_neg sends]
    exact ⟨wellFormed, by simp [kMaxWindowUpdateSize], trivial⟩

theorem commitRecvData_wellFormed (wellFormed : tfc.WellFormed) {size : Nat}
    (fits : (size : Int) ≤ tfc.announcedWindow) : (tfc.commitRecvData size).WellFormed := by
  have announcedLe := wellFormed.announced_le
  refine ⟨?_, ?_, wellFormed.total_nonneg, wellFormed.target_nonneg⟩ <;>
  · simp only [commitRecvData, kMaxWindow] at *
    omega

theorem validateRecvData_ok : tfc.validateRecvData size = .ok () ↔ size ≤ tfc.announcedWindow := by
  simp only [validateRecvData]
  split_ifs with overflow
  · simpa using overflow
  · simpa using overflow

theorem recvData_ok {tfc' : TransportFlowControl} (received : tfc.recvData size = .ok tfc') :
    size ≤ tfc.announcedWindow ∧ tfc' = tfc.commitRecvData size := by
  simp only [recvData] at received
  cases validated : tfc.validateRecvData size with
  | error e => simp [validated, bind, Except.bind] at received
  | ok u =>
    simp only [validated, bind, Except.bind, pure, Except.pure, Except.ok.injEq] at received
    exact ⟨validateRecvData_ok.mp validated, received.symm⟩

end TransportFlowControl

namespace StreamFlowControl

/-- The hooks around a change replace the stream's old share by its new one and
touch nothing else of the connection. -/
theorem updateAnnouncedWindowDelta_eq (tfc : TransportFlowControl) (sfc : StreamFlowControl)
    (change : Int) :
    updateAnnouncedWindowDelta tfc sfc change =
      ({ tfc with
          announcedStreamTotalOverIncomingWindow :=
            tfc.announcedStreamTotalOverIncomingWindow - sfc.share +
              max 0 (sfc.announcedWindowDelta + change) },
        { sfc with announcedWindowDelta := sfc.announcedWindowDelta + change }) := by
  cases tfc
  simp only [updateAnnouncedWindowDelta,
    TransportFlowControl.preUpdateAnnouncedWindowOverIncomingWindow,
    TransportFlowControl.postUpdateAnnouncedWindowOverIncomingWindow, share]
  congr 1
  split_ifs <;> simp only [TransportFlowControl.mk.injEq, true_and] <;> omega

theorem destroy_eq (tfc : TransportFlowControl) (sfc : StreamFlowControl) :
    sfc.destroy tfc =
      { tfc with announcedStreamTotalOverIncomingWindow :=
          tfc.announcedStreamTotalOverIncomingWindow - sfc.share } := by
  cases tfc
  simp only [destroy, TransportFlowControl.preUpdateAnnouncedWindowOverIncomingWindow, share]
  split_ifs <;> simp only [TransportFlowControl.mk.injEq, true_and] <;> omega

/-- Asking for more bytes raises the local window at most to the cap, whatever
the truncation to 32 bits of the difference. -/
theorem incomingByteStreamUpdate_spec (sfc : StreamFlowControl) (maxSizeHint haveAlready : Nat)
    (bounded : sfc.localWindowDelta ≤ kMaxWindowDelta) :
    ∃ localWindowDelta : Int, sfc.incomingByteStreamUpdate maxSizeHint haveAlready =
        { sfc with localWindowDelta } ∧
      sfc.localWindowDelta ≤ localWindowDelta ∧ localWindowDelta ≤ kMaxWindowDelta := by
  simp only [incomingByteStreamUpdate]
  split_ifs <;> refine ⟨_, rfl, ?_, ?_⟩ <;> simp only [uint32, kMaxWindowDelta] at * <;> omega

variable {sfc : StreamFlowControl}

theorem incomingByteStreamUpdate_wellFormed (wellFormed : sfc.WellFormed)
    (maxSizeHint haveAlready : Nat) :
    (sfc.incomingByteStreamUpdate maxSizeHint haveAlready).WellFormed ∧
      (sfc.incomingByteStreamUpdate maxSizeHint haveAlready).share = sfc.share := by
  obtain ⟨localWindowDelta, updated, grows, bounded⟩ :=
    incomingByteStreamUpdate_spec sfc maxSizeHint haveAlready wellFormed.2
  rw [updated]
  exact ⟨⟨Int.le_trans wellFormed.1 grows, bounded⟩, rfl⟩

theorem reopenForPendingRead_wellFormed (wellFormed : sfc.WellFormed) (read : PendingRead) :
    (sfc.reopenForPendingRead read).WellFormed ∧
      (sfc.reopenForPendingRead read).share = sfc.share := by
  simp only [reopenForPendingRead]
  split_ifs
  · exact incomingByteStreamUpdate_wellFormed wellFormed _ _
  · exact incomingByteStreamUpdate_wellFormed wellFormed _ _
  · exact ⟨wellFormed, rfl⟩
  · exact ⟨wellFormed, rfl⟩

/-- Everything an accepted frame does: it fits the connection and one of the two
stream windows, and each counter drops by its size. -/
theorem recvData_ok {windows : InitialWindows} {updated : TransportFlowControl × StreamFlowControl}
    (received : sfc.recvData tfc windows size = .ok updated) :
    size ≤ tfc.announcedWindow ∧
      (size ≤ sfc.announcedWindowDelta + windows.acked ∨
        size ≤ sfc.announcedWindowDelta + windows.sent) ∧
      updated = ((updateAnnouncedWindowDelta tfc sfc (-size)).1.commitRecvData size,
        { sfc with
          announcedWindowDelta := sfc.announcedWindowDelta - size
          localWindowDelta := sfc.localWindowDelta - size }) := by
  simp only [recvData, bind, Except.bind] at received
  cases validated : tfc.validateRecvData size with
  | error e => simp [validated] at received
  | ok u =>
    rw [validated] at received
    have fits := TransportFlowControl.validateRecvData_ok.mp validated
    by_cases overflow : size > sfc.announcedWindowDelta + windows.acked ∧
        ¬ size ≤ sfc.announcedWindowDelta + windows.sent
    · simp [overflow, throw, throwThe, MonadExceptOf.throw] at received
    · simp only [if_neg overflow, pure, Except.pure, Except.ok.injEq] at received
      refine ⟨fits, by omega, received.symm.trans ?_⟩
      simp [updateAnnouncedWindowDelta, Int.sub_eq_add_neg]

theorem maybeSendUpdate_spec (wellFormed : sfc.WellFormed) (tfc : TransportFlowControl)
    (read : PendingRead) :
    (sfc.maybeSendUpdate tfc read).1.2.WellFormed ∧
      (sfc.maybeSendUpdate tfc read).1.1 =
        { tfc with
          announcedStreamTotalOverIncomingWindow :=
            tfc.announcedStreamTotalOverIncomingWindow - sfc.share +
              (sfc.maybeSendUpdate tfc read).1.2.share } ∧
      ((sfc.maybeSendUpdate tfc read).2 : Int) ≤ kMaxWindowUpdateSize := by
  obtain ⟨reopened, sameShare⟩ := reopenForPendingRead_wellFormed wellFormed read
  revert reopened sameShare
  simp only [maybeSendUpdate]
  generalize sfc.reopenForPendingRead read = current
  intro reopened sameShare
  by_cases behind : current.localWindowDelta > current.announcedWindowDelta
  · simp only [if_pos behind, updateAnnouncedWindowDelta_eq, sameShare]
    refine ⟨⟨?_, reopened.2⟩, rfl, ?_⟩ <;>
    · simp only [uint32, clamp, kMaxWindowUpdateSize]
      split_ifs <;> omega
  · simp only [if_neg behind, sameShare]
    refine ⟨reopened, ?_, by simp [kMaxWindowUpdateSize]⟩
    simp

end StreamFlowControl

end GrpcCore.Transport
