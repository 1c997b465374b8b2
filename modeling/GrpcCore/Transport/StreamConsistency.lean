import GrpcCore.Transport.ClientStreams
import GrpcCore.Lib.Run

/-!
# Streams, map and waiting list

The map holds exactly the streams that have an id and are not closed, under that
id, and the waiting list holds streams that have none. Every function of the
transport keeps this.
-/

namespace GrpcCore.Transport

open StreamMap

structure StreamsConsistent (streams : StreamRef → ClientStream) (map : StreamMap StreamRef)
    (waiting : List StreamRef) (nextStreamId : Nat) : Prop where
  wellFormed : map.WellFormed
  /-- The assertion of `grpc_chttp2_stream_map_add`. -/
  keysBelow : ∀ key ∈ map.keys, key < nextStreamId
  mapped : ∀ key s, (key, s) ∈ map.live →
    (streams s).id = key ∧ key ≠ 0 ∧ (streams s).closed = false
  inMap : ∀ s, (streams s).id ≠ 0 → (streams s).closed = false → ((streams s).id, s) ∈ map.live
  /-- The assertion of `maybe_start_some_streams`. -/
  unstarted : ∀ s ∈ waiting, (streams s).id = 0 ∧ (streams s).closed = false
  nodup : waiting.Nodup
  positive : 0 < nextStreamId

namespace StreamsConsistent

variable {streams : StreamRef → ClientStream} {map : StreamMap StreamRef}
  {waiting : List StreamRef} {nextStreamId : Nat}

theorem sublist (ok : StreamsConsistent streams map waiting nextStreamId)
    {waiting' : List StreamRef} (fewer : waiting'.Sublist waiting) :
    StreamsConsistent streams map waiting' nextStreamId :=
  { ok with
    unstarted := fun s mem => ok.unstarted s (fewer.subset mem)
    nodup := ok.nodup.sublist fewer }

variable {s : StreamRef} {stream : ClientStream}

section

variable (ok : StreamsConsistent streams map waiting nextStreamId)
include ok

theorem close (unmapped : (streams s).id = 0) (closed : stream.closed = true) (left : s ∉ waiting) :
    StreamsConsistent (Function.update streams s stream) map waiting nextStreamId where
  wellFormed := ok.wellFormed
  keysBelow := ok.keysBelow
  mapped key other mem := by
    have known := ok.mapped key other mem
    have different : other ≠ s := by
      rintro rfl
      exact known.2.1 (known.1.symm.trans unmapped)
    rwa [Function.update_of_ne different]
  inMap other started open_ := by
    by_cases same : other = s
    · subst same
      rw [Function.update_self, closed] at open_
      exact absurd open_ (by decide)
    · rw [Function.update_of_ne same] at started open_ ⊢
      exact ok.inMap other started open_
  unstarted other mem := by
    have different : other ≠ s := by
      rintro rfl
      exact left mem
    rw [Function.update_of_ne different]
    exact ok.unstarted other mem
  nodup := ok.nodup
  positive := ok.positive

theorem keepOpen (before : (streams s).closed = false) (same : stream.id = (streams s).id)
    (after : stream.closed = false) :
    StreamsConsistent (Function.update streams s stream) map waiting nextStreamId := by
  have alike : ∀ other, (Function.update streams s stream other).id = (streams other).id ∧
      (Function.update streams s stream other).closed = (streams other).closed := by
    intro other
    by_cases it : other = s
    · subst it
      rw [Function.update_self]
      exact ⟨same, after.trans before.symm⟩
    · rw [Function.update_of_ne it]
      exact ⟨rfl, rfl⟩
  refine { ok with mapped := ?_, inMap := ?_, unstarted := ?_ }
  · intro key other mem
    rw [(alike other).1, (alike other).2]
    exact ok.mapped key other mem
  · intro other started open_
    rw [(alike other).1] at started ⊢
    rw [(alike other).2] at open_
    exact ok.inMap other started open_
  · intro other mem
    rw [(alike other).1, (alike other).2]
    exact ok.unstarted other mem

theorem remove (started : (streams s).id ≠ 0) (open_ : (streams s).closed = false)
    (closed : stream.closed = true) :
    StreamsConsistent (Function.update streams s stream) (map.delete (streams s).id) waiting
      nextStreamId := by
  have mem := ok.inMap s started open_
  refine ⟨ok.wellFormed.delete mem, ?_, ?_, ?_, ?_, ok.nodup, ok.positive⟩
  · intro key inKeys
    exact ok.keysBelow key (map.keys_delete _ key inKeys)
  · intro key other inMap
    rw [ok.wellFormed.mem_live_delete mem] at inMap
    have known := ok.mapped key other inMap.1
    have different : other ≠ s := by
      rintro rfl
      exact inMap.2 known.1.symm
    rwa [Function.update_of_ne different]
  · intro other started' open'
    by_cases same : other = s
    · subst same
      rw [Function.update_self, closed] at open'
      exact absurd open' (by decide)
    · rw [Function.update_of_ne same] at started' open' ⊢
      have inMap := ok.inMap other started' open'
      refine (ok.wellFormed.mem_live_delete mem _).mpr ⟨inMap, fun clash => same ?_⟩
      -- two streams under one id would be one cell of the map
      have found := (ok.wellFormed.find_eq_some).mpr inMap
      have found' := (ok.wellFormed.find_eq_some).mpr mem
      rw [show (streams other).id = (streams s).id from clash] at found
      exact Option.mem_unique found found'
  · intro other mem'
    have different : other ≠ s := by
      rintro rfl
      exact started (ok.unstarted _ mem').1
    rw [Function.update_of_ne different]
    exact ok.unstarted other mem'

theorem start {rest : List StreamRef} (head : waiting = s :: rest) :
    StreamsConsistent (Function.update streams s { streams s with id := nextStreamId })
      (map.add nextStreamId s) rest (nextStreamId + 2) := by
  subst head
  obtain ⟨unstarted, open_⟩ := ok.unstarted s (List.mem_cons_self ..)
  obtain ⟨left, nodup⟩ := List.nodup_cons.mp ok.nodup
  refine ⟨ok.wellFormed.add s ok.keysBelow, ?_, ?_, ?_, ?_, nodup, Nat.succ_pos _⟩
  · intro key mem
    rw [keys_add, List.mem_append, List.mem_singleton] at mem
    rcases mem with old | rfl
    · have below := ok.keysBelow key (map.keys_reserve.subset old)
      omega
    · omega
  · intro key other mem
    rw [live_add, List.mem_append, List.mem_singleton] at mem
    rcases mem with old | new
    · have known := ok.mapped key other old
      have different : other ≠ s := by
        rintro rfl
        exact known.2.1 (known.1.symm.trans unstarted)
      rwa [Function.update_of_ne different]
    · obtain ⟨rfl, rfl⟩ := Prod.mk.inj new
      rw [Function.update_self]
      exact ⟨rfl, Nat.ne_of_gt ok.positive, open_⟩
  · intro other started open'
    rw [live_add, List.mem_append, List.mem_singleton]
    by_cases same : other = s
    · subst same
      rw [Function.update_self]
      exact .inr rfl
    · rw [Function.update_of_ne same] at started open' ⊢
      exact .inl (ok.inMap other started open')
  · intro other mem
    have different : other ≠ s := by
      rintro rfl
      exact left mem
    rw [Function.update_of_ne different]
    exact ok.unstarted other (List.mem_cons_of_mem _ mem)

end

end StreamsConsistent

namespace ClientTransport

/-- Nothing but the state of the write, of the close and of the sent GOAWAY differs. -/
structure SameStreams (t t' : ClientTransport) : Prop where
  streams : t'.streams = t.streams
  streamMap : t'.streamMap = t.streamMap
  waitingForConcurrency : t'.waitingForConcurrency = t.waitingForConcurrency
  nextStreamId : t'.nextStreamId = t.nextStreamId
  peerSettings : t'.peerSettings = t.peerSettings
  goawayError : t'.goawayError = t.goawayError
  requested : t'.requested = t.requested
  started : t'.started = t.started

section

variable (t : ClientTransport)
include t

theorem sameStreams_initiateWrite : SameStreams t t.initiateWrite := by
  unfold initiateWrite
  split <;> exact ⟨rfl, rfl, rfl, rfl, rfl, rfl, rfl, rfl⟩

theorem sameStreams_finishClose : SameStreams t t.finishClose := by
  unfold finishClose
  split_ifs <;> exact ⟨rfl, rfl, rfl, rfl, rfl, rfl, rfl, rfl⟩

theorem sameStreams_setWriteState (writeState : WriteState) :
    SameStreams t (t.setWriteState writeState) := ⟨rfl, rfl, rfl, rfl, rfl, rfl, rfl, rfl⟩

theorem sameStreams_takeDelayedClose :
    SameStreams t t.takeDelayedClose := ⟨rfl, rfl, rfl, rfl, rfl, rfl, rfl, rfl⟩

theorem sameStreams_setSentGoawayState (state : SentGoawayState) :
    SameStreams t (t.setSentGoawayState state) := ⟨rfl, rfl, rfl, rfl, rfl, rfl, rfl, rfl⟩

end

structure SameControl (t t' : ClientTransport) : Prop where
  closedWithError : t'.closedWithError = t.closedWithError
  closeOnWritesFinished : t'.closeTransportOnWritesFinished = t.closeTransportOnWritesFinished
  sentGoawayState : t'.sentGoawayState = t.sentGoawayState
  goawayError : t'.goawayError = t.goawayError
  peerSettings : t'.peerSettings = t.peerSettings
  writeState : t.writeState.level ≤ t'.writeState.level

theorem SameControl.refl (t : ClientTransport) : SameControl t t :=
  ⟨rfl, rfl, rfl, rfl, rfl, Nat.le_refl _⟩

theorem SameControl.trans {t t' t'' : ClientTransport} (first : SameControl t t')
    (second : SameControl t' t'') : SameControl t t'' :=
  ⟨second.closedWithError.trans first.closedWithError,
    second.closeOnWritesFinished.trans first.closeOnWritesFinished,
    second.sentGoawayState.trans first.sentGoawayState,
    second.goawayError.trans first.goawayError,
    second.peerSettings.trans first.peerSettings,
    Nat.le_trans first.writeState second.writeState⟩

section

variable (t : ClientTransport)
include t

theorem sameControl_setStream (s : StreamRef) (stream : ClientStream) :
    SameControl t (t.setStream s stream) := ⟨rfl, rfl, rfl, rfl, rfl, Nat.le_refl _⟩

theorem sameControl_setWaiting (waiting : List StreamRef) :
    SameControl t (t.setWaiting waiting) := ⟨rfl, rfl, rfl, rfl, rfl, Nat.le_refl _⟩

theorem sameControl_initiateWrite : SameControl t t.initiateWrite := by
  unfold initiateWrite
  cases state : t.writeState with
  | idle | writing => exact ⟨rfl, rfl, rfl, rfl, rfl, by simp [state, WriteState.level]⟩
  | writingWithMore => exact .refl t

theorem sameControl_cancelUnstarted (s : StreamRef) : SameControl t (t.cancelUnstarted s) := by
  unfold cancelUnstarted
  split_ifs
  · exact .refl t
  · exact (sameControl_setStream ..).trans (sameControl_setWaiting ..)

theorem sameControl_cancelWaiting : SameControl t t.cancelWaiting := by
  have fold : ∀ (waiting : List StreamRef) (t : ClientTransport),
      SameControl t (waiting.foldl cancelUnstarted t) := by
    intro waiting
    induction waiting with
    | nil => exact .refl
    | cons s waiting ih =>
      intro t
      exact (sameControl_cancelUnstarted t s).trans (ih _)
  exact (sameControl_setWaiting t []).trans (fold t.waitingForConcurrency _)

theorem sameControl_startStream (s : StreamRef) : SameControl t (t.startStream s) := by
  refine SameControl.trans ?_ (sameControl_initiateWrite _)
  exact ⟨rfl, rfl, rfl, rfl, rfl, Nat.le_refl _⟩

theorem sameControl_startStreams (waiting : List StreamRef) :
    SameControl t (t.startStreams waiting) := by
  induction waiting generalizing t with
  | nil => exact sameControl_setWaiting t []
  | cons s waiting ih =>
    unfold startStreams
    split_ifs
    · refine SameControl.trans (sameControl_setWaiting t waiting) ?_
      exact (sameControl_startStream _ s).trans (ih _)
    · exact sameControl_setWaiting t _

theorem sameControl_maybeStartSomeStreams : SameControl t t.maybeStartSomeStreams := by
  have started := t.sameControl_startStreams t.waitingForConcurrency
  unfold maybeStartSomeStreams
  dsimp only
  split_ifs
  · exact t.sameControl_cancelWaiting
  · exact started.trans (sameControl_cancelWaiting _)
  · exact started

end

theorem closed_finishClose {t : ClientTransport} (closed : t.closedWithError = true) :
    t.finishClose = t := by
  unfold finishClose
  rw [if_pos closed]

theorem closed_removeStream {t : ClientTransport} (closed : t.closedWithError = true)
    (id : Nat) : (t.removeStream id).closedWithError = true := by
  have closed' : (t.deleteStream id).closedWithError = true := closed
  unfold removeStream
  dsimp only
  split_ifs
  · rw [(sameControl_maybeStartSomeStreams _).closedWithError, closed_finishClose closed']
    exact closed'
  · exact (sameControl_maybeStartSomeStreams _).closedWithError.trans closed'

/-- What is kept when a write is initiated and when a stream is closed is kept
when all calls are ended. -/
structure KeptByCancel (Inv : ClientTransport → Prop) : Prop where
  initiateWrite : ∀ {t}, Inv t → Inv t.initiateWrite
  markStreamClosed : ∀ {t} s closeReads closeWrites, Inv t →
    Inv (t.markStreamClosed s closeReads closeWrites)

namespace KeptByCancel

variable {Inv : ClientTransport → Prop} (kept : KeptByCancel Inv) {t : ClientTransport}
include kept

theorem cancelStream (inv : Inv t) (s : StreamRef) : Inv (t.cancelStream s) := by
  unfold ClientTransport.cancelStream
  split_ifs
  · exact kept.markStreamClosed s true true (kept.initiateWrite inv)
  · exact kept.markStreamClosed s true true inv

theorem endAllTheCalls (inv : Inv t) : Inv t.endAllTheCalls := by
  apply forEachFrom_invariant
  · intro state _ s held _
    exact kept.cancelStream held s
  · exact inv

theorem sentLastFrames (inv : Inv t) (lastFrames : List StreamRef) :
    Inv (t.sentLastFrames lastFrames) := by
  induction lastFrames generalizing t with
  | nil => exact inv
  | cons s lastFrames ih => exact ih (kept.markStreamClosed s false true inv)

end KeptByCancel

/-- What is moreover kept by the changes of the control state is kept by every
action of the write path and by the close. -/
structure Preserved (Inv : ClientTransport → Prop) : Prop extends KeptByCancel Inv where
  finishClose : ∀ {t}, Inv t → Inv t.finishClose
  setWriteState : ∀ {t} writeState, Inv t → Inv (t.setWriteState writeState)
  takeDelayedClose : ∀ {t}, Inv t → Inv t.takeDelayedClose
  setSentGoawayState : ∀ {t} state, Inv t → Inv (t.setSentGoawayState state)

theorem Preserved.ofStreams {Inv : ClientTransport → Prop}
    (same : ∀ {t t'}, SameStreams t t' → Inv t → Inv t')
    (close : ∀ {t} s closeReads closeWrites, Inv t →
      Inv (t.markStreamClosed s closeReads closeWrites)) : Preserved Inv where
  initiateWrite := same (sameStreams_initiateWrite _)
  markStreamClosed := close
  finishClose := same (sameStreams_finishClose _)
  setWriteState writeState := same (sameStreams_setWriteState _ writeState)
  takeDelayedClose := same (sameStreams_takeDelayedClose _)
  setSentGoawayState state := same (sameStreams_setSentGoawayState _ state)

namespace Preserved

variable {Inv : ClientTransport → Prop} (kept : Preserved Inv) {t : ClientTransport}
include kept

theorem closeTransportLocked (inv : Inv t) : Inv t.closeTransportLocked :=
  kept.finishClose (kept.endAllTheCalls inv)

theorem setWriteStateIdle (inv : Inv t) : Inv t.setWriteStateIdle := by
  have idle := kept.setWriteState .idle inv
  unfold ClientTransport.setWriteStateIdle
  split_ifs
  · exact kept.closeTransportLocked (kept.takeDelayedClose idle)
  · exact idle

theorem writeActionBeginLocked (inv : Inv t) (result : BeginWrite) :
    Inv (t.writeActionBeginLocked result) := by
  have sent := kept.sentLastFrames inv result.lastFrames
  unfold ClientTransport.writeActionBeginLocked
  by_cases closed : t.closedWithError = true
  · rw [if_pos closed]
    exact kept.setWriteStateIdle inv
  · rw [if_neg closed]
    by_cases writing : result.writing = true
    · rw [if_pos writing]
      exact kept.setWriteState _ sent
    · rw [if_neg writing]
      exact kept.setWriteStateIdle sent

theorem noteGoawaySent (inv : Inv t) : Inv t.noteGoawaySent := by
  have sent := kept.setSentGoawayState .sent inv
  unfold ClientTransport.noteGoawaySent
  split_ifs
  · exact kept.closeTransportLocked sent
  · exact sent
  · exact inv

theorem writeActionEndLocked (inv : Inv t) (error : Bool) :
    Inv (t.writeActionEndLocked error) := by
  have noted : Inv (if error then t.closeTransportLocked.noteGoawaySent else t.noteGoawaySent) := by
    split_ifs
    · exact kept.noteGoawaySent (kept.closeTransportLocked inv)
    · exact kept.noteGoawaySent inv
  unfold ClientTransport.writeActionEndLocked
  dsimp only
  split
  · exact noted
  · exact kept.setWriteStateIdle noted
  · exact kept.setWriteState .writing noted

theorem sendGoaway (inv : Inv t) : Inv t.sendGoaway :=
  kept.initiateWrite (kept.setSentGoawayState .sendScheduled inv)

end Preserved

/-- What `mark_stream_closed` can do: nothing, close one side of a stream, take a
stream off the waiting list, or remove it from the map. -/
theorem markStreamClosed_cases (t : ClientTransport) (s : StreamRef)
    (closeReads closeWrites : Bool) :
    ((t.streams s).closed = true ∧ t.markStreamClosed s closeReads closeWrites = t) ∨
    ((t.streams s).closed = false ∧
      (((t.streams s).close closeReads closeWrites).closed = false ∧
          t.markStreamClosed s closeReads closeWrites =
            t.setStream s ((t.streams s).close closeReads closeWrites) ∨
        ((t.streams s).close closeReads closeWrites).closed = true ∧
          ((t.streams s).id = 0 ∧ t.markStreamClosed s closeReads closeWrites =
              (t.setStream s ((t.streams s).close closeReads closeWrites)).setWaiting
                (t.waitingForConcurrency.erase s) ∨
            (t.streams s).id ≠ 0 ∧ t.markStreamClosed s closeReads closeWrites =
              (t.setStream s ((t.streams s).close closeReads closeWrites)).removeStream
                (t.streams s).id))) := by
  unfold markStreamClosed
  dsimp only
  split_ifs with before after started
  · exact .inl ⟨before, rfl⟩
  · exact .inr ⟨by simpa using before, .inr ⟨after, .inr ⟨started, rfl⟩⟩⟩
  · exact .inr ⟨by simpa using before, .inr ⟨after, .inl ⟨not_not.mp started, rfl⟩⟩⟩
  · exact .inr ⟨by simpa using before, .inl ⟨by simpa using after, rfl⟩⟩

theorem preserved_closed : Preserved fun t => t.closedWithError = true where
  initiateWrite closed := (sameControl_initiateWrite _).closedWithError.trans closed
  markStreamClosed {t} s closeReads closeWrites closed := by
    rcases t.markStreamClosed_cases s closeReads closeWrites with ⟨-, eq⟩ |
      ⟨-, ⟨-, eq⟩ | ⟨-, ⟨-, eq⟩ | ⟨-, eq⟩⟩⟩
    · rwa [eq]
    · rwa [eq]
    · rwa [eq]
    · rw [eq]
      apply closed_removeStream
      exact closed
  finishClose closed := by rwa [closed_finishClose closed]
  setWriteState _ closed := closed
  takeDelayedClose closed := closed
  setSentGoawayState _ closed := closed

theorem closed_step {t t' : ClientTransport} {action : Action}
    (closed : t.closedWithError = true) (taken : t.step action = some t') :
    t'.closedWithError = true := by
  cases action with
  | sendInitialMetadata s =>
    obtain ⟨-, rfl⟩ := Machine.guarded_taken taken
    unfold sendInitialMetadata
    split_ifs
    · exact closed
    · exact preserved_closed.cancelStream closed s
  | initiateWrite =>
    rw [← Option.some.inj taken]
    exact preserved_closed.initiateWrite closed
  | cancelStream s =>
    rw [← Option.some.inj taken]
    exact preserved_closed.cancelStream closed s
  | markStreamClosed s closeReads closeWrites =>
    rw [← Option.some.inj taken]
    exact preserved_closed.markStreamClosed s closeReads closeWrites closed
  | settings | goaway =>
    rw [← Option.some.inj taken]
    exact closed
  | sendGoaway =>
    rw [← Option.some.inj taken]
    exact preserved_closed.sendGoaway closed
  | destructiveReclaimer =>
    rw [← Option.some.inj taken]
    unfold destructiveReclaimerLocked
    dsimp only
    split
    · apply preserved_closed.cancelStream
      exact closed
    · exact closed
  | closeTransport =>
    rw [← Option.some.inj taken]
    exact preserved_closed.closeTransportLocked closed
  | writeActionBegin result =>
    obtain ⟨-, rfl⟩ := Machine.guarded_taken taken
    exact preserved_closed.writeActionBeginLocked closed result
  | writeActionEnd error =>
    obtain ⟨-, rfl⟩ := Machine.guarded_taken taken
    exact preserved_closed.writeActionEndLocked closed error

end ClientTransport

end GrpcCore.Transport
