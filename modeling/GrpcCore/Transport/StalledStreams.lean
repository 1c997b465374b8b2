import GrpcCore.Transport.SendWindow
import GrpcCore.Transport.SettingsBalance

/-!
# Streams that wait for their own window

A stream waits on the list `STALLED_BY_STREAM` until its window is raised. A
WINDOW_UPDATE frame takes it off the list at once. A SETTINGS frame does so at the
end of the read in which it was parsed, which may come before the frame is
complete and the window larger.
-/

namespace GrpcCore.Transport

open Hpack MachineInt SendStream Deframer

variable {w : SendSide}

namespace SendSide

def Held (bound : Int) (w : SendSide) : Prop :=
  ∀ id ∈ w.stalledByStream, (w.streams id).sfc.remoteWindowDelta ≤ bound

/-- Windows only shrink, no stream gets new bytes to send and none comes to wait. -/
structure Drained (w w' : SendSide) : Prop where
  stalled : w'.stalledByStream ⊆ w.stalledByStream
  delta : ∀ id, (w'.streams id).sfc.remoteWindowDelta ≤ (w.streams id).sfc.remoteWindowDelta
  bytes : ∀ id, (w'.streams id).hasBytes → (w.streams id).hasBytes
  closed : w.closedWithError = true → w'.closedWithError = true

theorem Drained.refl (w : SendSide) : Drained w w :=
  ⟨fun _ found => found, fun _ => Int.le_refl _, fun _ has => has, fun was => was⟩

variable {w' : SendSide}

theorem Drained.trans {w'' : SendSide} (first : Drained w w') (second : Drained w' w'') :
    Drained w w'' where
  stalled := fun _ found => first.stalled (second.stalled found)
  delta id := Int.le_trans (second.delta id) (first.delta id)
  bytes id has := first.bytes id (second.bytes id has)
  closed was := second.closed (first.closed was)

instance : IsTrans SendSide Drained := ⟨fun _ _ _ => Drained.trans⟩

theorem Eased.drained (eased : Eased w w') : Drained w w' where
  stalled := eased.stalled
  delta id := Int.le_of_eq (by rw [eased.sfc id])
  bytes := eased.bytes
  closed := eased.closed

theorem Held.mono {bound bound' : Int} (held : Held bound w) (le : bound ≤ bound') :
    Held bound' w :=
  fun id waits => Int.le_trans (held id waits) le

theorem Quiet.held {w w' : SendSide} (quiet : Quiet w w') {bound : Int} (held : Held bound w) :
    Held bound w' := by
  intro id waits
  rw [quiet.sfc id]
  exact held id (quiet.stalled waits)

theorem Drained.held {w w' : SendSide} (drained : Drained w w') {bound : Int}
    (held : Held bound w) : Held bound w' :=
  fun id waits => Int.le_trans (drained.delta id) (held id (drained.stalled waits))

theorem drained_send (peer : Settings) (w : SendSide) (id sendBytes : Nat) (isEof : Bool) :
    Drained w ((w.encodeData peer id sendBytes isEof).sentData id sendBytes) := by
  unfold sentData
  split_ifs
  · refine ⟨fun _ found => found, ?_, ?_, fun was => was⟩
    · intro other
      by_cases same : other = id
      · subst same
        simp only [setStream, Function.update_self, encodeData, StreamFlowControl.sentData]
        omega
      · simp [setStream, Function.update_of_ne same, encodeData]
    · intro other has
      by_cases same : other = id
      · subst same
        simpa [setStream, encodeData, hasBytes,
          compressedDataBufferLen] using has
      · simpa [setStream, Function.update_of_ne same, encodeData] using has
  · exact ⟨fun _ found => found, fun _ => Int.le_refl _, fun _ has => has, fun was => was⟩

theorem drained_setStream (w : SendSide) (id : Nat) {s : SendStream}
    (sfc : s.sfc = (w.streams id).sfc)
    (increments : s.incrementsReceived = (w.streams id).incrementsReceived)
    (bytes : s.hasBytes → (w.streams id).hasBytes) : Drained w (w.setStream id s) :=
  (eased_setStream w id sfc increments bytes).drained

theorem drained_flushUncompressed (peer : Settings) (id fuel : Nat) (sent : Bool × SendSide) :
    Drained sent.2 (flushUncompressed peer id fuel sent).2 := by
  induction fuel generalizing sent with
  | zero => exact .refl _
  | succ fuel ih =>
    obtain ⟨isLastFrame, w⟩ := sent
    unfold flushUncompressed
    split_ifs with more
    · refine Drained.trans ?_ (ih _)
      refine Drained.trans ?_ (drained_send peer _ id _ _)
      exact drained_setStream w id rfl rfl (fun _ => .inl more.1)
    · exact .refl _

theorem streamCompression_send (peer : Settings) (w : SendSide) (id sendBytes : Nat)
    (isEof : Bool) :
    (((w.encodeData peer id sendBytes isEof).sentData id sendBytes).streams id).streamCompression =
      (w.streams id).streamCompression := by
  unfold sentData
  split_ifs
  · simp [setStream, encodeData]
  · rfl

theorem drained_compress {id : Nat} (has : (w.streams id).hasBytes) (outcome : Compressed)
    (ctx : Bool) : Drained w (w.compress id outcome ctx) :=
  drained_setStream w id rfl rfl (fun _ => has)

theorem drained_flushCompressedBytes (peer : Settings) (outcome : Compressed)
    (isLastFrame : Bool) (w : SendSide) (id : Nat) (has : (w.streams id).hasBytes) :
    Drained w (flushCompressedBytes peer outcome isLastFrame w id).2 ∧
      ((flushCompressedBytes peer outcome isLastFrame w id).2.streams id).streamCompression =
        (w.streams id).streamCompression := by
  unfold flushCompressedBytes
  dsimp only
  split_ifs
  · refine ⟨drained_compress has outcome false, ?_⟩
    simp [compress, setStream]
  · refine ⟨Drained.trans ?_ (drained_send peer _ id _ _), ?_⟩
    · exact drained_setStream w id rfl rfl (fun _ => has)
    · rw [streamCompression_send]
      simp [setStream]

theorem drained_flushCompressed (peer : Settings) (id : Nat) (outcomes : List Compressed)
    (sent : Bool × SendSide) (compressed : (sent.2.streams id).streamCompression = true) :
    Drained sent.2 (flushCompressed peer id outcomes sent).2 := by
  induction outcomes generalizing sent with
  | nil => exact .refl _
  | cons outcome outcomes ih =>
    obtain ⟨isLastFrame, w⟩ := sent
    unfold flushCompressed
    split_ifs with more bytes
    · have has : (w.streams id).hasBytes := by
        refine .inr ?_
        rw [compressedDataBufferLen, if_pos compressed]
        exact bytes
      obtain ⟨drained, same⟩ := drained_flushCompressedBytes peer outcome isLastFrame w id has
      exact drained.trans (ih _ (same.trans compressed))
    · have has : (w.streams id).hasBytes := .inl (more.1.resolve_right bytes)
      refine Drained.trans (drained_compress has outcome true)
        (ih (isLastFrame, w.compress id outcome true) ?_)
      simpa [compress, setStream] using compressed
    · exact .refl _

/-- The streams with bytes to send have windows that the cast to `uint32_t` keeps,
and no window that only a SETTINGS frame still being read would open. -/
def Plain (peer : Settings) (pending : Int) (w : SendSide) : Prop :=
  ∀ id, (w.streams id).hasBytes →
    w.streamWindow peer id < 4294967296 ∧ (pending ≤ 0 ∨ w.streamWindow peer id + pending ≤ 0)

/-- What a write pass keeps: no waiting stream has a window, now or when the
SETTINGS frame being read is complete. -/
structure Waits (peer : Settings) (pending : Int) (w : SendSide) : Prop where
  held : Held (-peer.initialWindowSize) w
  heldThen : Held (-peer.initialWindowSize - pending) w
  plain : Plain peer pending w

theorem Drained.waits {w w' : SendSide} (drained : Drained w w') {peer : Settings}
    {pending : Int} (waits : Waits peer pending w) : Waits peer pending w' where
  held := drained.held waits.held
  heldThen := drained.held waits.heldThen
  plain := by
    intro id has
    have lower := drained.delta id
    have before := waits.plain id (drained.bytes id has)
    unfold streamWindow at before ⊢
    omega

theorem held_windowUpdated {bound : Int} (id amount : Nat) (held : Held bound w) :
    Held bound (w.windowUpdated id amount) := by
  unfold windowUpdated
  split_ifs with connection
  · exact held
  · intro other waits
    have notSelf : other ≠ id := by
      rintro rfl
      unfold unstall at waits
      split_ifs at waits with stalled
      · unfold markStreamWritable at waits
        split_ifs at waits <;> simp at waits
      · exact stalled waits
    rw [(eased_unstall _ id).sfc]
    have earlier : other ∈ w.stalledByStream :=
      (eased_unstall (w.recvStreamUpdate id amount) id).stalled waits
    simpa [recvStreamUpdate, setStream, Function.update_of_ne notSelf] using held other earlier

theorem waits_stall {peer : Settings} {pending : Int} {id : Nat} (waits : Waits peer pending w)
    (has : (w.streams id).hasBytes) : Waits peer pending (w.stall peer id) := by
  have plain := waits.plain id has
  unfold stall
  split_ifs with transport window
  · exact ⟨waits.held, waits.heldThen, waits.plain⟩
  · have closed : w.streamWindow peer id ≤ 0 := by
      have exactly : (w.streamRemoteWindow peer id : Int) = max 0 (w.streamWindow peer id) :=
        uint32_of_lt (by omega) (by omega)
      omega
    unfold streamWindow at plain closed
    refine ⟨?_, ?_, waits.plain⟩
    · intro other stalled
      rcases mem_streamListAdd.mp stalled with earlier | rfl
      · exact waits.held other earlier
      · show (w.streams other).sfc.remoteWindowDelta ≤ _
        omega
    · intro other stalled
      rcases mem_streamListAdd.mp stalled with earlier | rfl
      · exact waits.heldThen other earlier
      · show (w.streams other).sfc.remoteWindowDelta ≤ _
        omega
  · exact waits

end SendSide

variable {f : Frames SendSide}

namespace Frames

open SendSide

theorem SameSettings.pendingWindow {f' : Frames SendSide} (same : SameSettings f f') :
    f'.pendingWindow = f.pendingWindow := by
  by_cases settings : ∃ p, f.parser = .settings p
  · obtain ⟨p, parser⟩ := settings
    rw [pendingWindow_settings parser, pendingWindow_settings ((same.parser p).mpr parser), same.peer]
  · rw [pendingWindow_other (fun p parser => settings ⟨p, parser⟩),
      pendingWindow_other (fun p parser => settings ⟨p, (same.parser p).mp parser⟩)]

variable {f f' : Frames SendSide}

theorem SameSettings.balance (same : SameSettings f f') : f'.balance = f.balance := by
  unfold Frames.balance
  rw [same.update, same.peer, same.pendingWindow]

theorem SameSettings.aligned (same : SameSettings f f') {remaining : Nat}
    (aligned : f.Aligned remaining) : f'.Aligned remaining := by
  intro p parser
  rw [same.pendingWindow]
  exact aligned p ((same.parser p).mp parser)

/-- What drained windows and stalls keep, with the settings of the peer and the window of a SETTINGS
frame being read. -/
structure KeptInPass (Holds : Settings → Int → SendSide → Prop) : Prop where
  drained : ∀ {w w' : SendSide} {peer pending}, Drained w w' → Holds peer pending w →
    Holds peer pending w'
  stall : ∀ {w : SendSide} {peer pending id}, Holds peer pending w → (w.streams id).hasBytes →
    Holds peer pending (w.stall peer id)

def Holding (Holds : Settings → Int → SendSide → Prop) (f : Frames SendSide) : Prop :=
  Holds f.peerSettings f.pendingWindow f.world

variable {Holds : Settings → Int → SendSide → Prop}

theorem Changes.holding (kept : KeptInPass Holds) (changes : Changes Drained f f')
    (holding : Holding Holds f) : Holding Holds f' := by
  unfold Holding
  rw [changes.same.peer, changes.same.pendingWindow]
  exact kept.drained changes.world holding

theorem Changes.drained (changes : Changes Eased f f') : Changes Drained f f' :=
  ⟨changes.world.drained, changes.same⟩

theorem drained_flushBytes (f : Frames SendSide) (id : Nat) (outcomes : List Compressed) :
    Drained f.world (f.flushBytes id outcomes).2 := by
  unfold flushBytes
  split_ifs with compressed
  · exact drained_flushCompressed f.peerSettings id outcomes (false, f.world) compressed
  · exact drained_flushUncompressed f.peerSettings id _ (false, f.world)

theorem keeps_flushDataInPass (kept : KeptInPass Holds) (id : Nat) (outcomes : List Compressed)
    (holding : Holding Holds f) :
    Holding Holds (f.flushData id outcomes) ∧ SameSettings f (f.flushData id outcomes) := by
  unfold flushData
  split_ifs with idle blocked
  · exact ⟨holding, .refl f⟩
  · have has : (f.world.streams id).hasBytes := by
      by_contra none
      exact idle (.inr none)
    exact ⟨kept.stall holding has, rfl, rfl, fun _ => Iff.rfl⟩
  · have sent : Changes Drained f (f.setWorld (f.flushBytes id outcomes).2) :=
      changes_setWorld (drained_flushBytes f id outcomes)
    have all := sent.trans (eased_afterBytes _ id (f.flushBytes id outcomes).1).drained
    exact ⟨all.holding kept holding, all.same⟩

theorem drained_flushTrailingMetadata (f : Frames SendSide) (id : Nat) :
    Changes Drained f (f.flushTrailingMetadata id) := by
  unfold flushTrailingMetadata
  dsimp only
  split_ifs
  · exact (Eased.refl f).drained
  · split
    · exact (Eased.refl f).drained
    · refine Changes.trans (changes_setWorld ?_) (eased_sentLastFrame _ id).drained
      exact ⟨fun _ found => found, fun _ => Int.le_refl _, fun _ has => has, fun was => was⟩
    · exact (eased_sentLastFrame f id).drained

theorem keeps_writeStreamsInPass (kept : KeptInPass Holds) (pass : List (List Compressed))
    (holding : Holding Holds f) :
    Holding Holds (f.writeStreams pass) ∧ SameSettings f (f.writeStreams pass) := by
  induction pass generalizing f with
  | nil => exact ⟨holding, .refl f⟩
  | cons outcomes pass ih =>
    unfold writeStreams
    split
    · exact ⟨holding, .refl f⟩
    · rename_i id writable _
      have popped : Changes Eased f ((f.setWorld { f.world with writable }).flushInitialMetadata id) :=
        (changes_setWorld (eased_setWritable f.world writable)).trans
          (eased_flushInitialMetadata _ id)
      obtain ⟨holding', same⟩ :=
        keeps_flushDataInPass kept id outcomes (popped.drained.holding kept holding)
      have trailing := drained_flushTrailingMetadata
        (((f.setWorld { f.world with writable }).flushInitialMetadata id).flushData id outcomes) id
      obtain ⟨holding'', same'⟩ := ih (trailing.holding kept holding')
      exact ⟨holding'', ((popped.same.trans same).trans trailing.same).trans same'⟩

theorem keeps_beginWriteInPass (kept : KeptInPass Holds) (settings : Option Settings)
    (pass : List (List Compressed)) (holding : Holding Holds f) :
    Holding Holds (f.beginWrite settings pass) ∧ SameSettings f (f.beginWrite settings pass) := by
  unfold beginWrite
  split_ifs
  · exact ⟨holding, .refl f⟩
  · have woken : Changes Eased f (f.flushSettings settings).wakeStalledByTransport :=
      (eased_flushSettings f settings).trans (eased_wakeStalledByTransport _)
    obtain ⟨holding', same⟩ :=
      keeps_writeStreamsInPass kept pass (woken.drained.holding kept holding)
    exact ⟨holding', woken.same.trans same⟩

theorem waits_kept : KeptInPass SendSide.Waits where
  drained drained waits := drained.waits waits
  stall waits has := waits_stall waits has

end Frames

namespace SendSide

/-- While the transport is open, each of the streams waits, is writable or is
closed for writing. -/
def Accounted (ids : List Nat) (w : SendSide) : Prop :=
  w.closedWithError = false → ∀ id ∈ ids,
    id ∈ w.stalledByStream ∨ id ∈ w.writable ∨ (w.streams id).writeClosed = true

theorem mem_markStreamWritable (isOpen : w.closedWithError = false) (id : Nat) :
    id ∈ (w.markStreamWritable id).writable := by
  unfold markStreamWritable
  rw [if_neg (by simp [isOpen])]
  exact mem_streamListAdd.mpr (.inr rfl)

theorem closedWithError_markStreamWritable (w : SendSide) (id : Nat) :
    (w.markStreamWritable id).closedWithError = w.closedWithError := by
  unfold markStreamWritable
  split_ifs <;> rfl

theorem streams_markStreamWritable (w : SendSide) (id : Nat) :
    (w.markStreamWritable id).streams = w.streams := by
  unfold markStreamWritable
  split_ifs <;> rfl

theorem stalled_markStreamWritable (w : SendSide) (id : Nat) :
    (w.markStreamWritable id).stalledByStream = w.stalledByStream := by
  unfold markStreamWritable
  split_ifs <;> rfl

theorem writable_markStreamWritable (w : SendSide) (id : Nat) :
    w.writable ⊆ (w.markStreamWritable id).writable := by
  unfold markStreamWritable
  split_ifs
  · exact fun _ found => found
  · exact fun _ found => mem_streamListAdd.mpr (.inl found)

theorem writable_foldl_markStreamWritable (ids : List Nat) (w : SendSide) :
    w.writable ⊆ (ids.foldl markStreamWritable w).writable ∧
      (w.closedWithError = false → ids ⊆ (ids.foldl markStreamWritable w).writable) := by
  induction ids generalizing w with
  | nil => exact ⟨fun _ found => found, fun _ => List.nil_subset _⟩
  | cons id ids ih =>
    obtain ⟨kept, added⟩ := ih (w.markStreamWritable id)
    refine ⟨fun _ found => kept (writable_markStreamWritable w id found), ?_⟩
    intro isOpen
    refine List.cons_subset.mpr ⟨kept (mem_markStreamWritable isOpen id), added ?_⟩
    rw [closedWithError_markStreamWritable]
    exact isOpen

theorem accounted_windowUpdated {ids : List Nat} (id amount : Nat) (accounted : Accounted ids w) :
    Accounted ids (w.windowUpdated id amount) := by
  unfold windowUpdated
  split_ifs with connection
  · exact accounted
  · intro isOpen other mine
    have writeClosed : ((w.recvStreamUpdate id amount).streams other).writeClosed =
        (w.streams other).writeClosed := by
      by_cases same : other = id
      · subst same
        simp [recvStreamUpdate, setStream]
      · simp [recvStreamUpdate, setStream, Function.update_of_ne same]
    unfold unstall at isOpen ⊢
    split_ifs at isOpen ⊢ with stalled
    · rw [closedWithError_markStreamWritable] at isOpen
      rw [stalled_markStreamWritable, streams_markStreamWritable]
      by_cases same : other = id
      · subst same
        exact .inr (.inl (mem_markStreamWritable isOpen other))
      · rcases accounted isOpen other mine with waits | writable | closed
        · exact .inl (List.mem_filter.mpr ⟨waits, by simpa using same⟩)
        · exact .inr (.inl (writable_markStreamWritable _ id writable))
        · exact .inr (.inr (writeClosed.trans closed))
    · rw [writeClosed]
      exact accounted isOpen other mine

theorem accounted_markStreamClosed {ids : List Nat} (id : Nat) (reads writes : Bool)
    (r : HeaderReader) (accounted : Accounted ids w) :
    Accounted ids (markStreamClosed id reads writes r w).2 := by
  have closed : Accounted ids (if writes then w.closeWrites id else w) := by
    split_ifs
    · intro isOpen other mine
      unfold closeWrites at isOpen ⊢
      split_ifs at isOpen ⊢ with already
      · exact accounted isOpen other mine
      · refine (accounted isOpen other mine).imp_right (Or.imp_right ?_)
        by_cases same : other = id
        · subst same
          simp [setStream, SendStream.closeWrites]
        · simpa [setStream, Function.update_of_ne same] using was
    · exact accounted
  unfold markStreamClosed
  dsimp only
  generalize (if writes then w.closeWrites id else w) = w' at closed ⊢
  generalize (if reads then r.closeReads id else r) = r'
  split_ifs with done
  · intro isOpen other mine
    by_cases same : other = id
    · subst same
      exact .inr (.inr (by simpa using (Bool.and_eq_true _ _ ▸ done).2))
    · rcases closed isOpen other mine with waits | writable | was
      · exact .inl (List.mem_filter.mpr ⟨waits, by simpa using same⟩)
      · exact .inr (.inl (List.mem_filter.mpr ⟨writable, by simpa using same⟩))
      · exact .inr (.inr was)
  · exact closed

theorem fields_foldl_markStreamWritable (ids : List Nat) (w : SendSide) :
    (ids.foldl markStreamWritable w).streams = w.streams ∧
      (ids.foldl markStreamWritable w).closedWithError = w.closedWithError := by
  induction ids generalizing w with
  | nil => exact ⟨rfl, rfl⟩
  | cons id ids ih =>
    obtain ⟨streams, closed⟩ := ih (w.markStreamWritable id)
    exact ⟨streams.trans (streams_markStreamWritable w id),
      closed.trans (closedWithError_markStreamWritable w id)⟩

theorem accounted_wakeStalledByStream {ids : List Nat} (accounted : Accounted ids w) :
    Accounted ids w.wakeStalledByStream := by
  obtain ⟨streams, closed⟩ :=
    fields_foldl_markStreamWritable w.stalledByStream { w with stalledByStream := [] }
  obtain ⟨kept, added⟩ :=
    writable_foldl_markStreamWritable w.stalledByStream { w with stalledByStream := [] }
  intro isOpen id mine
  have wasOpen : w.closedWithError = false := closed.symm.trans isOpen
  rcases accounted wasOpen id mine with waits | writable | was
  · exact .inr (.inl (added wasOpen waits))
  · exact .inr (.inl (kept writable))
  · refine .inr (.inr ?_)
    unfold wakeStalledByStream
    rw [streams]
    exact was

end SendSide

section Host

variable (accept : SendSide → Nat → Bool)
  (overflow : FrameHeader → HeaderReader → SendSide → Option FlowControlError)

theorem SendSide.host_keeps_held (bound : Int) :
    (SendSide.host accept overflow).Keeps (SendSide.Held bound) :=
  SendSide.host_keeps accept overflow (fun id amount => SendSide.held_windowUpdated id amount)
    (fun id reads writes r held =>
      (SendSide.eased_markStreamClosed id reads writes r _).toQuiet.held held)

theorem SendSide.host_keeps_accounted (ids : List Nat) :
    (SendSide.host accept overflow).Keeps (SendSide.Accounted ids) :=
  SendSide.host_keeps accept overflow
    (fun id amount => SendSide.accounted_windowUpdated id amount)
    (fun id reads writes r => SendSide.accounted_markStreamClosed id reads writes r)

end Host

namespace SendingTransport

variable {accept : SendSide → Nat → Bool}
  {overflow : FrameHeader → HeaderReader → SendSide → Option FlowControlError}

def startWindow (t : SendingTransport) : Nat :=
  match t.reading with
  | none => t.frames.peerSettings.initialWindowSize
  | some r => r.initialWindow

/-- The condition on a step. A slice has less than four gigabytes. A read does not
end inside a SETTINGS frame that lowers the initial window after an earlier one
of the same read raised it, unless the sum is still a raise. And when a write
pass begins, no stream with bytes to send has a window of four gigabytes, or one
that a SETTINGS frame still being read would open. -/
def WindowsSettle (t : SendingTransport) : SendAction → Prop
  | .readSlice slice => slice.length < 4294967296
  | .finishRead _ =>
    0 < t.frames.initialWindowUpdate ∨
      t.frames.peerSettings.initialWindowSize ≤ t.startWindow ∨ 0 ≤ t.frames.pendingWindow
  | .beginWrite _ _ => t.world.Plain t.frames.peerSettings t.frames.pendingWindow
  | _ => True

structure Settled (t : SendingTransport) : Prop where
  aligned : t.deframer.Aligned
  held : t.world.Held (-t.startWindow)
  heldThen : t.world.Held t.frames.balance
  update : t.reading = none → t.frames.initialWindowUpdate = 0

/-- A transport that is closed, is about to be closed, or is settled. -/
def Sound (t : SendingTransport) : Prop :=
  (t.world.closedWithError = true ∧ t.reading = none) ∨
    (∃ r, t.reading = some r ∧ r.failed = true) ∨ t.Settled

variable {t : SendingTransport} {r : ReadAction}

theorem settled_readSlice {slice : Bytes} (settled : t.Settled) (reading : t.reading = some r)
    (short : slice.length < 4294967296) :
    (t.readSlice (SendSide.host accept overflow) r slice).Sound := by
  have start : t.startWindow = r.initialWindow := by
    unfold startWindow
    rw [reading]
  cases failed : (t.deframer.performRead (SendSide.host accept overflow) slice).1 with
  | some => exact .inr (.inl ⟨_, rfl, by simp [failed]⟩)
  | none =>
    obtain ⟨aligned, balance⟩ := aligned_performRead settled.aligned short failed
    refine .inr (.inr ⟨aligned, ?_, ?_, ?_⟩)
    · have held := settled.held
      rw [start] at held
      exact keeps_performRead (SendSide.host_keeps_held accept overflow _) slice held
    · have kept := keeps_performRead
        (SendSide.host_keeps_held accept overflow t.frames.balance) slice settled.heldThen
      rw [← show (t.deframer.performRead (SendSide.host accept overflow) slice).2.frames.balance =
        t.frames.balance from balance] at kept
      exact kept
    · intro beyond
      cases beyond

theorem wakeStalledByStream_stalled (w : SendSide) : w.wakeStalledByStream.stalledByStream = [] := by
  have emptied := (SendSide.eased_foldl_markStreamWritable w.stalledByStream
    { w with stalledByStream := [] }).stalled
  exact List.eq_nil_of_subset_nil emptied

theorem settled_postParse (settled : t.Settled) (settles : 0 < t.frames.initialWindowUpdate ∨
      t.frames.peerSettings.initialWindowSize ≤ t.startWindow ∨ 0 ≤ t.frames.pendingWindow) :
    ({ t.setFrames t.frames.postParse with reading := none } : SendingTransport).Settled := by
  have aligned : ({ t.deframer with frames := t.frames.postParse } : Deframer SendSide).Aligned := by
    unfold Frames.postParse
    split_ifs <;> exact ⟨settled.aligned.inFrame, settled.aligned.between⟩
  have update : t.frames.postParse.initialWindowUpdate = 0 := by
    unfold Frames.postParse
    split_ifs <;> rfl
  have peer : t.frames.postParse.peerSettings = t.frames.peerSettings := by
    unfold Frames.postParse
    split_ifs <;> rfl
  have pending : t.frames.postParse.pendingWindow = t.frames.pendingWindow := by
    unfold Frames.postParse
    split_ifs <;> rfl
  by_cases raised : 0 < t.frames.initialWindowUpdate
  · have none : t.frames.postParse.world.stalledByStream = [] := by
      unfold Frames.postParse
      rw [if_pos raised]
      exact wakeStalledByStream_stalled t.frames.world
    refine ⟨aligned, ?_, ?_, fun _ => update⟩ <;>
    · intro id waits
      change id ∈ t.frames.postParse.world.stalledByStream at waits
      rw [none] at waits
      cases waits
  · have same : t.frames.postParse.world = t.world := by
      unfold Frames.postParse
      rw [if_neg raised]
      rfl
    have held := settled.held
    have heldThen := settled.heldThen
    unfold Frames.balance at heldThen
    refine ⟨aligned, ?_, ?_, fun _ => update⟩
    · show t.frames.postParse.world.Held (-t.frames.postParse.peerSettings.initialWindowSize)
      rw [same, peer]
      rcases settles with positive | lowered | rising
      · exact absurd positive raised
      · exact held.mono (by omega)
      · exact heldThen.mono (by omega)
    · show t.frames.postParse.world.Held t.frames.postParse.balance
      unfold Frames.balance
      rw [same, update, peer, pending]
      exact heldThen.mono (by omega)

theorem closed_closeTransport (f : Frames SendSide) :
    f.closeTransport.world.closedWithError = true := by
  unfold Frames.closeTransport
  split_ifs with closed
  · exact closed
  · exact (Frames.eased_closeStreams _ _).world.closed rfl

theorem sound_finishRead {failed : Bool} (sound : t.Sound) (reading : t.reading = some r)
    (settles : 0 < t.frames.initialWindowUpdate ∨
      t.frames.peerSettings.initialWindowSize ≤ t.startWindow ∨ 0 ≤ t.frames.pendingWindow) :
    (t.finishRead (r.failed || failed)).Sound := by
  cases fails : r.failed || failed with
  | true => exact .inl ⟨closed_closeTransport _, rfl⟩
  | false =>
    rcases sound with ⟨_, idle⟩ | ⟨r', reading', failed'⟩ | settled
    · rw [reading] at idle
      cases idle
    · obtain rfl := Option.mem_unique reading reading'
      simp [failed'] at fails
    · exact .inr (.inr (settled_postParse settled settles))

theorem Settled.waits (settled : t.Settled) (idle : t.reading = none)
    (plain : t.world.Plain t.frames.peerSettings t.frames.pendingWindow) :
    Frames.Holding SendSide.Waits t.frames := by
  have held := settled.held
  have heldThen := settled.heldThen
  unfold startWindow at held
  rw [idle] at held
  refine ⟨held, ?_, plain⟩
  unfold Frames.balance at heldThen
  rw [settled.update idle] at heldThen
  exact heldThen.mono (by omega)

theorem settled_setFrames (settled : t.Settled) (idle : t.reading = none)
    (same : t.frames.SameSettings f)
    (held : f.world.Held (-t.frames.peerSettings.initialWindowSize))
    (heldThen : f.world.Held t.frames.balance) : (t.setFrames f).Settled where
  aligned :=
    ⟨fun inFrame => ⟨(settled.aligned.inFrame inFrame).1,
        same.aligned (settled.aligned.inFrame inFrame).2⟩,
      fun outside => same.pendingWindow.trans (settled.aligned.between outside)⟩
  held := by
    have start : (t.setFrames f).startWindow = t.frames.peerSettings.initialWindowSize := by
      unfold startWindow setFrames
      rw [idle]
      exact congrArg Settings.initialWindowSize same.peer
    rw [start]
    exact held
  heldThen := by
    show f.world.Held f.balance
    rw [same.balance]
    exact heldThen
  update _ := same.update.trans (settled.update idle)

variable {action : SendAction}

theorem sound_operate (sound : t.Sound) (idle : t.reading = none) (settles : t.WindowsSettle action)
    (operated : operate t.frames action = some f) : (t.setFrames f).Sound := by
  rcases sound with ⟨closed, _⟩ | ⟨r, reading, _⟩ | settled
  · refine .inl ⟨?_, idle⟩
    obtain quiet | ⟨settings, pass, _, rfl⟩ := operate_cases operated
    · exact quiet.world.closed closed
    · unfold Frames.beginWrite
      rw [if_pos (show t.frames.world.closedWithError = true from closed)]
      exact closed
  · rw [idle] at reading
    cases reading
  · refine .inr (.inr ?_)
    have held := settled.held
    unfold startWindow at held
    rw [idle] at held
    obtain quiet | ⟨settings, pass, rfl, rfl⟩ := operate_cases operated
    · exact settled_setFrames settled idle quiet.same (quiet.world.held held)
        (quiet.world.held settled.heldThen)
    · obtain ⟨waits, same⟩ := Frames.keeps_beginWriteInPass Frames.waits_kept settings pass
        (settled.waits idle settles)
      unfold Frames.Holding at waits
      rw [same.peer, same.pendingWindow] at waits
      refine settled_setFrames settled idle same waits.held ?_
      unfold Frames.balance
      rw [settled.update idle]
      exact waits.heldThen.mono (by omega)

variable {t' : SendingTransport}

theorem sound_step (sound : t.Sound) (settles : t.WindowsSettle action)
    (taken : step (SendSide.host accept overflow) t action = some t') : t'.Sound := by
  obtain ⟨r, slice, reading, rfl, going, rfl⟩ | ⟨r, failed, reading, rfl, rfl⟩ |
    ⟨idle, rfl, isOpen, rfl⟩ | ⟨f, idle, operated, rfl⟩ := step_cases taken
  · rcases sound with ⟨_, idle⟩ | ⟨r', reading', failed⟩ | settled
    · rw [reading] at idle
      cases idle
    · obtain rfl := Option.mem_unique reading reading'
      rw [going] at failed
      cases failed
    · exact settled_readSlice settled reading settles
  · exact sound_finishRead sound reading settles
  · rcases sound with ⟨closed, _⟩ | ⟨r, reading, _⟩ | settled
    · rw [isOpen] at closed
      cases closed
    · rw [idle] at reading
      cases reading
    · refine .inr (.inr ⟨settled.aligned, ?_, settled.heldThen, ?_⟩)
      · have held := settled.held
        unfold startWindow at held
        rw [idle] at held
        exact held
      · intro beyond
        cases beyond
  · exact sound_operate sound idle settles operated

theorem accounted_read (reading : t.reading = some r)
    (taken : step (SendSide.host accept overflow) t action = some t') :
    t'.world.Accounted t.world.stalledByStream := by
  have first : t.world.Accounted t.world.stalledByStream := fun _ _ waits => .inl waits
  obtain ⟨_, slice, _, _, _, rfl⟩ | ⟨_, failed, _, _, rfl⟩ | ⟨idle, _⟩ | ⟨_, idle, _⟩ :=
    step_cases taken
  · exact keeps_performRead
      (SendSide.host_keeps_accounted accept overflow t.world.stalledByStream) slice first
  · have parsed : t.frames.postParse.world.Accounted t.world.stalledByStream := by
      unfold Frames.postParse
      split_ifs
      · exact SendSide.accounted_wakeStalledByStream first
      · exact first
    unfold finishRead
    split_ifs
    · intro isOpen
      exact absurd ((closed_closeTransport t.frames.postParse).symm.trans isOpen) (by decide)
    · exact parsed
  · rw [idle] at reading
    cases reading
  · rw [idle] at reading
    cases reading

/-- In a run whose steps meet the condition, no stream waits between reads that has
a window; and what a read takes off the list becomes writable, unless the stream is
closed. -/
theorem no_stream_left_stalled (isClient flowControlEnabled : Bool) {actions : List SendAction}
    {t : SendingTransport}
    (run : Machine.Run (step (SendSide.host accept overflow)) WindowsSettle
      (initially isClient flowControlEnabled) actions t) :
    (t.reading = none → t.world.closedWithError = false → ∀ id ∈ t.world.stalledByStream,
        t.world.streamWindow t.frames.peerSettings id ≤ 0) ∧
      ∀ action t', t.reading ≠ none → step (SendSide.host accept overflow) t action = some t' →
        t'.world.closedWithError = false → ∀ id ∈ t.world.stalledByStream,
          id ∈ t'.world.stalledByStream ∨ id ∈ t'.world.writable ∨
            (t'.world.streams id).writeClosed = true := by
  have initial : (initially isClient flowControlEnabled).Settled := by
    refine ⟨⟨?_, fun _ => rfl⟩, ?_, ?_, fun _ => rfl⟩
    · cases isClient <;> simp [initially]
    all_goals
      intro id waits
      cases waits
  have sound : t.Sound :=
    run.invariant (fun sound settles taken => sound_step sound settles taken) (.inr (.inr initial))
  constructor
  · intro idle isOpen id waits
    rcases sound with ⟨closed, _⟩ | ⟨r, reading, _⟩ | settled
    · rw [isOpen] at closed
      cases closed
    · rw [idle] at reading
      cases reading
    · have held := settled.held id waits
      unfold startWindow at held
      rw [idle] at held
      dsimp only at held
      unfold SendSide.streamWindow
      omega
  · intro action t' reading taken isOpen
    obtain ⟨r, reading⟩ := Option.ne_none_iff_exists'.mp reading
    exact accounted_read reading taken isOpen

/-- The peer closes its windows, and a client has ten bytes to send. -/
def hasTenBytes : List SendAction := [
    .beginRead, .readSlice (settingFrame 4 0), .finishRead false,
    .sendInitialMetadata 1 false, .startStream 1, .sendMessage 1 10 false true]

def stallsStream : List SendAction := hasTenBytes ++ [.beginWrite none [[]]]

def settlesOutsideWrites (t : SendingTransport) : SendAction → Bool
  | .readSlice slice => decide (slice.length < 4294967296)
  | .finishRead _ =>
    decide (t.frames.peerSettings.initialWindowSize ≤ t.startWindow ∨ 0 ≤ t.frames.pendingWindow)
  | .beginWrite _ _ => false
  | _ => true

theorem settlesOutsideWrites_sound (t : SendingTransport) (action : SendAction)
    (passes : t.settlesOutsideWrites action = true) : t.WindowsSettle action := by
  cases action with
  | readSlice => simpa [settlesOutsideWrites, WindowsSettle] using passes
  | finishRead => exact .inr (by simpa [settlesOutsideWrites] using passes)
  | beginWrite => cases passes
  | _ => trivial

/-- The stream waits, without a window. -/
theorem stallsStream_without_window : ∃ t,
    Machine.Run (step openHost) WindowsSettle (initially true true) stallsStream t ∧
      t.world.stalledByStream = [1] ∧ t.world.streamWindow t.frames.peerSettings 1 ≤ 0 := by
  obtain ⟨t, run, stalled⟩ : ∃ t,
      Machine.Run (step openHost) WindowsSettle (initially true true) stallsStream t ∧
        (t.reading, t.world.closedWithError, t.world.stalledByStream) = (none, false, [1]) := by
    refine ⟨_, (Machine.run_of_exec settlesOutsideWrites_sound rfl).append
      (.cons ?_ rfl (.nil _)), rfl⟩
    intro id has
    by_cases first : id = 1
    · subst first
      exact ⟨by decide, .inl (by decide)⟩
    · change (Function.update (Function.update (fun _ => ({} : SendStream)) 1
        { sendInitialMetadata := true }) 1
        { sendInitialMetadata := true, flowControlledBuffer := 10 } id).hasBytes at has
      rw [Function.update_of_ne first, Function.update_of_ne first] at has
      exact absurd has (by decide)
  simp only [Prod.mk.injEq] at stalled
  obtain ⟨idle, isOpen, waits⟩ := stalled
  refine ⟨t, run, waits, ?_⟩
  exact (no_stream_left_stalled true true run).1 idle isOpen 1 (by simp [waits])

/-- The first half of a SETTINGS frame raises the window, a write pass comes
between, and the frame is completed. -/
def writesBetweenHalves : List SendAction := stallsStream ++ [
    .beginRead, .readSlice [0, 0, 12, 4, 0, 0, 0, 0, 0, 0, 4, 0, 0, 0, 100], .finishRead false,
    .beginWrite none [[]],
    .beginRead, .readSlice [0, 3, 0, 0, 0, 7], .finishRead false]

/-- The stream waits with a window of a hundred bytes. -/
theorem stalled_with_window : ∃ actions t,
    Machine.Reach (step openHost) (initially true true) actions t ∧ t.reading = none ∧
      t.world.closedWithError = false ∧ ∃ id ∈ t.world.stalledByStream,
        ¬ t.world.streamWindow t.frames.peerSettings id ≤ 0 := by
  obtain ⟨t, run, seen⟩ := Machine.exists_reach (step openHost) (initially true true)
    writesBetweenHalves (fun t => (t.reading, t.world.closedWithError, t.world.stalledByStream,
      t.world.streamWindow t.frames.peerSettings 1)) (none, false, [1], 100) (by decide)
  simp only [Prod.mk.injEq] at seen
  obtain ⟨idle, isOpen, waits, window⟩ := seen
  refine ⟨_, t, run, idle, isOpen, 1, ?_, ?_⟩
  · rw [waits]
    exact List.mem_singleton_self 1
  · rw [window]
    decide

end SendingTransport

end GrpcCore.Transport
