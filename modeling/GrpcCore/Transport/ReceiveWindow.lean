import GrpcCore.Transport.FlowControl

/-!
# Receive-window accounting

The connection keeps the sum of its streams' shares incrementally, through
hooks called from every place that changes a stream, its destructor included.
The sum is shown to be exact after every sequence of operations.
-/

namespace GrpcCore.Transport

open MachineInt StreamFlowControl TransportFlowControl

/-- One connection's flow control with its live streams, addressed by position,
and every value the two `MaybeSendUpdate` functions have returned. -/
structure ReceiveWindows where
  transport : TransportFlowControl := {}
  streams : List StreamFlowControl := []
  announcements : List Nat := []
deriving DecidableEq

inductive ReceiveOp where
  | createStream
  | destroyStream (stream : Nat)
  | transportRecvData (incomingFrameSize : Nat)
  | streamRecvData (stream : Nat) (windows : InitialWindows) (incomingFrameSize : Nat)
  | transportMaybeSendUpdate (writingAnyway : Bool)
  | streamMaybeSendUpdate (stream : Nat) (read : PendingRead)
  | incomingByteStreamUpdate (stream : Nat) (maxSizeHint haveAlready : Nat)
  | updateTarget (target : Int)
  | transportRecvUpdate (size : Nat)
  | streamRecvUpdate (stream : Nat) (size : Nat)
  | sentData (stream : Nat) (outgoingFrameSize : Nat)
deriving DecidableEq

namespace ReceiveWindows

def store (w : ReceiveWindows) (stream : Nat)
    (updated : TransportFlowControl × StreamFlowControl) : ReceiveWindows :=
  { w with transport := updated.1, streams := w.streams.set stream updated.2 }

/-- An operation on a stream, which changes nothing when the stream is gone. -/
def onStream (w : ReceiveWindows) (stream : Nat)
    (operation : StreamFlowControl → ReceiveWindows) : ReceiveWindows :=
  match w.streams[stream]? with
  | some sfc => operation sfc
  | none => w

def step (w : ReceiveWindows) : ReceiveOp → ReceiveWindows
  | .createStream => { w with streams := w.streams ++ [{}] }
  | .destroyStream stream => w.onStream stream fun sfc =>
    { w with transport := sfc.destroy w.transport, streams := w.streams.eraseIdx stream }
  | .transportRecvData size =>
    match w.transport.recvData size with
    | .ok transport => { w with transport }
    | .error _ => w
  | .streamRecvData stream windows size => w.onStream stream fun sfc =>
    match sfc.recvData w.transport windows size with
    | .ok updated => w.store stream updated
    | .error _ => w
  | .transportMaybeSendUpdate writingAnyway =>
    let (transport, announce) := w.transport.maybeSendUpdate writingAnyway
    { w with transport, announcements := announce :: w.announcements }
  | .streamMaybeSendUpdate stream read => w.onStream stream fun sfc =>
    let (updated, announce) := sfc.maybeSendUpdate w.transport read
    { w.store stream updated with announcements := announce :: w.announcements }
  | .incomingByteStreamUpdate stream maxSizeHint haveAlready => w.onStream stream fun sfc =>
    w.store stream (w.transport, sfc.incomingByteStreamUpdate maxSizeHint haveAlready)
  | .updateTarget target => { w with transport := w.transport.updateTarget target }
  | .transportRecvUpdate size => { w with transport := w.transport.recvUpdate size }
  | .streamRecvUpdate stream size => w.onStream stream fun sfc =>
    w.store stream (w.transport, sfc.recvUpdate size)
  | .sentData stream size => w.onStream stream fun sfc =>
    w.store stream (sfc.sentData w.transport size)

def run (ops : List ReceiveOp) : ReceiveWindows := ops.foldl step {}

/-- The connection's total is the sum of the live streams' shares, and every
window is within its bounds. -/
structure Inv (w : ReceiveWindows) : Prop where
  total_eq : w.transport.announcedStreamTotalOverIncomingWindow =
    (w.streams.map StreamFlowControl.share).sum
  transport_wellFormed : w.transport.WellFormed
  streams_wellFormed : ∀ sfc ∈ w.streams, sfc.WellFormed
  announcements_le : ∀ announce ∈ w.announcements, (announce : Int) ≤ kMaxWindowUpdateSize

theorem share_sum_nonneg (streams : List StreamFlowControl) :
    0 ≤ (streams.map StreamFlowControl.share).sum := by
  apply List.sum_nonneg
  intro share membership
  obtain ⟨sfc, -, rfl⟩ := List.mem_map.mp membership
  exact le_max_left _ _

variable {w : ReceiveWindows} {sfc : StreamFlowControl}

section

variable (inv : Inv w)
include inv

/-- Storing a stream keeps the invariant when the connection's total moves by
the difference of the shares. -/
theorem inv_store {stream : Nat} (live : w.streams[stream]? = some sfc)
    {updated : TransportFlowControl × StreamFlowControl}
    (total : updated.1.announcedStreamTotalOverIncomingWindow =
      w.transport.announcedStreamTotalOverIncomingWindow - sfc.share + updated.2.share)
    (announcedNonneg : 0 ≤ updated.1.announcedWindow)
    (announcedLe : updated.1.announcedWindow ≤ kMaxWindow)
    (target : updated.1.targetInitialWindowSize = w.transport.targetInitialWindowSize)
    (wellFormed : updated.2.WellFormed) : Inv (w.store stream updated) := by
  obtain ⟨bound, found⟩ := List.getElem?_eq_some_iff.mp live
  have sumEq : updated.1.announcedStreamTotalOverIncomingWindow =
      ((w.streams.set stream updated.2).map share).sum := by
    rw [total, inv.total_eq, List.map_set, List.sum_set']
    simp only [List.length_map, bound, dite_true, List.getElem_map, found]
    ring
  refine ⟨sumEq, ⟨announcedNonneg, announcedLe, ?_, ?_⟩, ?_, inv.announcements_le⟩
  · rw [show (w.store stream updated).transport = updated.1 from rfl, sumEq]
    exact share_sum_nonneg _
  · exact target ▸ inv.transport_wellFormed.target_nonneg
  · intro other membership
    rcases List.mem_or_eq_of_mem_set membership with old | rfl
    · exact inv.streams_wellFormed other old
    · exact wellFormed

theorem inv_onStream (stream : Nat) {operation : StreamFlowControl → ReceiveWindows}
    (preserves : ∀ sfc, w.streams[stream]? = some sfc → Inv (operation sfc)) :
    Inv (w.onStream stream operation) := by
  simp only [onStream]
  cases live : w.streams[stream]? with
  | none => exact inv
  | some sfc => exact preserves sfc live

theorem inv_createStream : Inv (w.step .createStream) := by
  refine ⟨?_, inv.transport_wellFormed, ?_, inv.announcements_le⟩
  · simp [step, inv.total_eq, share]
  · intro sfc membership
    rcases List.mem_append.mp membership with old | new
    · exact inv.streams_wellFormed sfc old
    · rw [List.mem_singleton.mp new]
      decide

theorem inv_destroyStream (stream : Nat) : Inv (w.step (.destroyStream stream)) := by
  apply inv_onStream inv
  intro sfc live
  obtain ⟨bound, found⟩ := List.getElem?_eq_some_iff.mp live
  have erased : (w.streams.map share).sum - sfc.share =
      ((w.streams.eraseIdx stream).map share).sum := by
    have split := List.add_sum_eraseIdx
      (show stream < (w.streams.map share).length by simpa using bound)
      (fun other _ => AddCommute.all _ other)
    rw [List.eraseIdx_map, List.getElem_map, found] at split
    rw [← split]
    ring
  rw [destroy_eq, inv.total_eq, erased]
  refine ⟨rfl, ?_, ?_, inv.announcements_le⟩
  · exact ⟨inv.transport_wellFormed.announced_nonneg, inv.transport_wellFormed.announced_le,
      share_sum_nonneg _, inv.transport_wellFormed.target_nonneg⟩
  · intro other membership
    exact inv.streams_wellFormed other (List.mem_of_mem_eraseIdx membership)

theorem inv_transportRecvData (size : Nat) : Inv (w.step (.transportRecvData size)) := by
  simp only [step]
  cases received : w.transport.recvData size with
  | error => exact inv
  | ok =>
    obtain ⟨fits, rfl⟩ := recvData_ok received
    exact ⟨inv.total_eq,
      commitRecvData_wellFormed inv.transport_wellFormed fits,
      inv.streams_wellFormed, inv.announcements_le⟩

theorem inv_streamRecvData (stream : Nat) (windows : InitialWindows) (size : Nat) :
    Inv (w.step (.streamRecvData stream windows size)) := by
  apply inv_onStream inv
  intro sfc live
  have wellFormed := inv.streams_wellFormed sfc (List.mem_of_getElem? live)
  cases received : sfc.recvData w.transport windows size with
  | error => exact inv
  | ok =>
    obtain ⟨fits, -, rfl⟩ := recvData_ok received
    rw [updateAnnouncedWindowDelta_eq]
    have announcedLe := inv.transport_wellFormed.announced_le
    apply inv_store inv live
    · simp [commitRecvData, share, sub_eq_add_neg]
    · simp only [commitRecvData]
      omega
    · simp only [commitRecvData]
      omega
    · rfl
    · refine ⟨?_, ?_⟩
      · exact Int.sub_le_sub_right wellFormed.1 _
      · have bounded := wellFormed.2
        show sfc.localWindowDelta - size ≤ kMaxWindowDelta
        omega

theorem inv_transportMaybeSendUpdate (writingAnyway : Bool) :
    Inv (w.step (.transportMaybeSendUpdate writingAnyway)) := by
  obtain ⟨wellFormed, announceLe, sameTotal⟩ :=
    maybeSendUpdate_spec inv.transport_wellFormed writingAnyway
  refine ⟨sameTotal.trans inv.total_eq, wellFormed, inv.streams_wellFormed, ?_⟩
  intro announce membership
  rcases List.mem_cons.mp membership with rfl | old
  · exact announceLe
  · exact inv.announcements_le announce old

theorem inv_streamMaybeSendUpdate (stream : Nat) (read : PendingRead) :
    Inv (w.step (.streamMaybeSendUpdate stream read)) := by
  apply inv_onStream inv
  intro sfc live
  obtain ⟨wellFormed, transportEq, announceLe⟩ := maybeSendUpdate_spec
    (inv.streams_wellFormed sfc (List.mem_of_getElem? live)) w.transport read
  have stored : Inv (w.store stream (sfc.maybeSendUpdate w.transport read).1) := by
    apply inv_store inv live
    · rw [transportEq]
    · rw [transportEq]
      exact inv.transport_wellFormed.announced_nonneg
    · rw [transportEq]
      exact inv.transport_wellFormed.announced_le
    · rw [transportEq]
    · exact wellFormed
  refine ⟨stored.total_eq, stored.transport_wellFormed, stored.streams_wellFormed, ?_⟩
  intro announce membership
  rcases List.mem_cons.mp membership with rfl | old
  · exact announceLe
  · exact inv.announcements_le announce old

theorem inv_store_same_share {stream : Nat} {updated : StreamFlowControl}
    (live : w.streams[stream]? = some sfc) {remoteWindow : Int}
    (sameShare : updated.share = sfc.share) (wellFormed : updated.WellFormed) :
    Inv (w.store stream ({ w.transport with remoteWindow }, updated)) := by
  apply inv_store inv live
  · simp [sameShare]
  · exact inv.transport_wellFormed.announced_nonneg
  · exact inv.transport_wellFormed.announced_le
  · rfl
  · exact wellFormed

theorem inv_step (op : ReceiveOp) : Inv (w.step op) := by
  cases op with
  | createStream => exact inv_createStream inv
  | destroyStream stream => exact inv_destroyStream inv stream
  | transportRecvData size => exact inv_transportRecvData inv size
  | streamRecvData stream windows size => exact inv_streamRecvData inv stream windows size
  | transportMaybeSendUpdate writingAnyway =>
    exact inv_transportMaybeSendUpdate inv writingAnyway
  | streamMaybeSendUpdate stream read => exact inv_streamMaybeSendUpdate inv stream read
  | incomingByteStreamUpdate stream maxSizeHint haveAlready =>
    apply inv_onStream inv
    intro sfc live
    obtain ⟨wellFormed, sameShare⟩ := incomingByteStreamUpdate_wellFormed
      (inv.streams_wellFormed sfc (List.mem_of_getElem? live)) maxSizeHint haveAlready
    exact inv_store_same_share inv live sameShare wellFormed
  | updateTarget target =>
    have bounds := clamp_mem (show kMinInitialWindowSize ≤ kMaxInitialWindowSize by decide) target
    refine ⟨inv.total_eq, ⟨inv.transport_wellFormed.announced_nonneg,
      inv.transport_wellFormed.announced_le, inv.transport_wellFormed.total_nonneg, ?_⟩,
      inv.streams_wellFormed, inv.announcements_le⟩
    exact Int.le_trans (by decide) bounds.1
  | transportRecvUpdate =>
    exact ⟨inv.total_eq, ⟨inv.transport_wellFormed.announced_nonneg,
      inv.transport_wellFormed.announced_le, inv.transport_wellFormed.total_nonneg,
      inv.transport_wellFormed.target_nonneg⟩, inv.streams_wellFormed, inv.announcements_le⟩
  | streamRecvUpdate | sentData =>
    apply inv_onStream inv
    intro sfc live
    exact inv_store_same_share inv live rfl (inv.streams_wellFormed sfc (List.mem_of_getElem? live))

end

theorem inv_run (ops : List ReceiveOp) : Inv (run ops) := by
  apply List.foldlRecOn ops step
  · exact ⟨rfl, ⟨by decide, by decide, by decide, by decide⟩, by simp, by simp⟩
  · intro w inv op _
    exact inv_step inv op

/-- After every sequence of operations the connection's total is exact, the
stream windows are ordered and capped, and neither the connection's window nor
any announced increment leaves the 31-bit range. -/
theorem receive_windows_accounted (ops : List ReceiveOp) :
    (run ops).transport.announcedStreamTotalOverIncomingWindow =
        ((run ops).streams.map fun sfc => max 0 sfc.announcedWindowDelta).sum ∧
      (∀ sfc ∈ (run ops).streams,
        sfc.announcedWindowDelta ≤ sfc.localWindowDelta ∧
          sfc.localWindowDelta ≤ 2 ^ 20) ∧
      0 ≤ (run ops).transport.announcedWindow ∧
      (run ops).transport.announcedWindow ≤ 2 ^ 31 - 1 ∧
      ∀ announce ∈ (run ops).announcements, announce ≤ 2 ^ 31 - 1 := by
  have inv := inv_run ops
  refine ⟨inv.total_eq, ?_, inv.transport_wellFormed.announced_nonneg, ?_, ?_⟩
  · intro sfc membership
    exact inv.streams_wellFormed sfc membership
  · exact inv.transport_wellFormed.announced_le
  · intro announce membership
    have bounded := inv.announcements_le announce membership
    simp only [kMaxWindowUpdateSize] at bounded
    omega

end ReceiveWindows

end GrpcCore.Transport
