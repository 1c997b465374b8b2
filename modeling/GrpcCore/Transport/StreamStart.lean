import GrpcCore.Lib.Run
import GrpcCore.Transport.StreamConsistency

/-!
# Starting streams

The ids of the streams of a client, the order in which streams start and the
peer's limit on their number, over whole runs of the transport.
-/

namespace GrpcCore.Transport

/-- What the record of the started streams says, whatever the transport does. -/
structure StartLog (streams : StreamRef → ClientStream) (waiting : List StreamRef)
    (nextStreamId : Nat) (requested : List StreamRef) (started : List StreamStart) : Prop where
  nextOdd : nextStreamId % 2 = 1
  odd : ∀ start ∈ started, start.id % 2 = 1
  bounded : ∀ start ∈ started, start.id ≤ maxClientStreamId
  below : ∀ start ∈ started, start.id < nextStreamId
  increasing : (started.map (·.id)).Pairwise (· < ·)
  /-- A stream keeps the id it was started with. -/
  recorded : ∀ start ∈ started, (streams start.stream).id = start.id
  complete : ∀ s, (streams s).id ≠ 0 → ∃ start ∈ started, start.stream = s
  withinLimit : ∀ start ∈ started, start.mapSize < start.maxConcurrentStreams
  fifo : (started.map (·.stream) ++ waiting).Sublist requested
  once : requested.Nodup
  accounted : ∀ s ∈ requested, s ∈ waiting ∨ (streams s).id ≠ 0 ∨ (streams s).writeClosed = true

namespace StartLog

variable {streams : StreamRef → ClientStream} {waiting : List StreamRef} {nextStreamId : Nat}
  {requested : List StreamRef} {started : List StreamStart}

section

variable (log : StartLog streams waiting nextStreamId requested started)
include log

theorem update {s : StreamRef} {stream : ClientStream} {waiting' : List StreamRef}
    (same : stream.id = (streams s).id)
    (closes : (streams s).writeClosed = true → stream.writeClosed = true)
    (fewer : waiting'.Sublist waiting)
    (left : ∀ other ∈ waiting, other ∉ waiting' → other = s ∧ stream.writeClosed = true) :
    StartLog (Function.update streams s stream) waiting' nextStreamId requested started := by
  have ids : ∀ other, (Function.update streams s stream other).id = (streams other).id := by
    intro other
    by_cases it : other = s
    · subst it
      rw [Function.update_self, same]
    · rw [Function.update_of_ne it]
  refine { log with recorded := ?_, complete := ?_, fifo := ?_, accounted := ?_ }
  · intro start mem
    rw [ids]
    exact log.recorded start mem
  · intro other assigned
    rw [ids] at assigned
    exact log.complete other assigned
  · exact ((List.Sublist.refl _).append fewer).trans log.fifo
  · intro other mem
    rw [ids]
    by_cases it : other = s
    · subst it
      rw [Function.update_self]
      rcases log.accounted other mem with wait | started' | closed
      · by_cases stays : other ∈ waiting'
        · exact .inl stays
        · exact .inr (.inr (left other wait stays).2)
      · exact .inr (.inl started')
      · exact .inr (.inr (closes closed))
    · rw [Function.update_of_ne it]
      refine (log.accounted other mem).imp_left fun wait => ?_
      by_contra gone
      exact it (left other wait gone).1

theorem start {s : StreamRef} {rest : List StreamRef} (head : waiting = s :: rest)
    {mapSize limit : Nat} (unstarted : (streams s).id = 0)
    (available : nextStreamId ≤ maxClientStreamId) (room : mapSize < limit)
    (positive : 0 < nextStreamId) :
    StartLog (Function.update streams s { streams s with id := nextStreamId }) rest
      (nextStreamId + 2) requested (started ++ [⟨s, nextStreamId, mapSize, limit⟩]) := by
  subst head
  have added : ∀ {P : StreamStart → Prop}, (∀ start ∈ started, P start) →
      P ⟨s, nextStreamId, mapSize, limit⟩ →
      ∀ start ∈ started ++ [⟨s, nextStreamId, mapSize, limit⟩], P start := by
    intro P old new start mem
    rcases List.mem_append.mp mem with inOld | inNew
    · exact old start inOld
    · rw [List.mem_singleton.mp inNew]
      exact new
  refine ⟨?_, added log.odd log.nextOdd, added log.bounded available, ?_, ?_, ?_, ?_,
    added log.withinLimit room, ?_, log.once, ?_⟩
  · have odd := log.nextOdd
    omega
  · refine added (fun start mem => ?_) (by simp)
    have below := log.below start mem
    omega
  · rw [List.map_append]
    refine List.pairwise_append.mpr ⟨log.increasing, List.pairwise_singleton .., ?_⟩
    intro id mem id' mem'
    obtain ⟨start, inStarted, rfl⟩ := List.mem_map.mp mem
    rw [List.map_singleton, List.mem_singleton] at mem'
    rw [mem']
    exact log.below start inStarted
  · refine added (fun start mem => ?_) (by rw [Function.update_self])
    have kept := log.recorded start mem
    have different : start.stream ≠ s := by
      intro same
      have odd := log.odd start mem
      rw [← kept, same, unstarted] at odd
      exact absurd odd (by decide)
    rw [Function.update_of_ne different, kept]
  · intro other assigned
    by_cases it : other = s
    · exact ⟨_, List.mem_append_right _ (List.mem_singleton.mpr rfl), it.symm⟩
    · rw [Function.update_of_ne it] at assigned
      obtain ⟨start, mem, same⟩ := log.complete other assigned
      exact ⟨start, List.mem_append_left _ mem, same⟩
  · rw [List.map_append, List.append_assoc]
    exact log.fifo
  · intro other mem
    by_cases it : other = s
    · subst it
      rw [Function.update_self]
      exact .inr (.inl (Nat.ne_of_gt positive))
    · rw [Function.update_of_ne it]
      refine (log.accounted other mem).imp_left fun wait => ?_
      exact (List.mem_cons.mp wait).resolve_left it

theorem request {s : StreamRef} (unstarted : (streams s).id = 0)
    (open_ : (streams s).writeClosed = false) (new : s ∉ waiting) :
    StartLog streams (waiting ++ [s]) nextStreamId (requested ++ [s]) started := by
  have fresh : s ∉ requested := by
    intro mem
    rcases log.accounted s mem with wait | started' | closed
    · exact new wait
    · exact started' unstarted
    · rw [open_] at closed
      exact absurd closed (by decide)
  refine { log with fifo := ?_, once := ?_, accounted := ?_ }
  · rw [← List.append_assoc]
    exact log.fifo.append (List.Sublist.refl _)
  · refine List.nodup_append.mpr ⟨log.once, by simp, ?_⟩
    intro other mem other' mem' same
    rw [List.mem_singleton.mp mem'] at same
    exact fresh (same ▸ mem)
  · intro other mem
    rcases List.mem_append.mp mem with old | same
    · exact (log.accounted other old).imp_left (List.mem_append_left _)
    · exact .inl (List.mem_append_right _ same)

end

end StartLog

namespace ClientTransport

structure Sound (t : ClientTransport) : Prop where
  consistent : StreamsConsistent t.streams t.streamMap t.waitingForConcurrency t.nextStreamId
  log : StartLog t.streams t.waitingForConcurrency t.nextStreamId t.requested t.started

structure Invariant (t : ClientTransport) : Prop extends Sound t where
  exhausted : maxClientStreamId ≤ t.nextStreamId → t.waitingForConcurrency = []

variable {t : ClientTransport}

theorem setWaiting_eq_self {waiting : List StreamRef} (same : t.waitingForConcurrency = waiting) :
    t.setWaiting waiting = t := by
  subst same
  rfl

variable {stream : ClientStream}

theorem closed_eq_false (open_ : stream.writeClosed = false) : stream.closed = false := by
  rw [ClientStream.closed, open_, Bool.and_false]

variable {s : StreamRef}

theorem sound_cancelUnstarted (sound : Sound t) (unstarted : (t.streams s).id = 0) :
    Sound (t.cancelUnstarted s) := by
  unfold cancelUnstarted
  split_ifs with closed
  · exact sound
  · have left : s ∉ t.waitingForConcurrency.erase s := by
      intro mem
      exact ((sound.consistent.nodup.mem_erase_iff).mp mem).1 rfl
    have gone : ∀ other ∈ t.waitingForConcurrency,
        other ∉ t.waitingForConcurrency.erase s → other = s := by
      intro other mem stays
      by_contra different
      exact stays ((List.mem_erase_of_ne different).mpr mem)
    have writeClosed : ((t.streams s).close true true).writeClosed = true := Bool.or_true _
    have closed' : ((t.streams s).close true true).closed = true := by
      simp [ClientStream.close, ClientStream.closed]
    refine ⟨(sound.consistent.sublist List.erase_sublist).close unstarted closed' left, ?_⟩
    exact sound.log.update rfl (fun _ => writeClosed) List.erase_sublist
      fun other mem stays => ⟨gone other mem stays, writeClosed⟩

theorem sound_cancelAll (waiting : List StreamRef) (t : ClientTransport)
    (sound : Sound (t.setWaiting waiting)) :
    ∃ streams, waiting.foldl cancelUnstarted (t.setWaiting []) =
        { t with streams, waitingForConcurrency := [] } ∧
      Sound { t with streams, waitingForConcurrency := [] } := by
  induction waiting generalizing t with
  | nil => exact ⟨t.streams, rfl, sound⟩
  | cons s waiting ih =>
    obtain ⟨unstarted, open_⟩ := sound.consistent.unstarted s (List.mem_cons_self ..)
    have next := sound_cancelUnstarted sound unstarted
    have head : ∀ list : List StreamRef, cancelUnstarted (t.setWaiting list) s =
        (t.setStream s ((t.streams s).close true true)).setWaiting (list.erase s) := by
      intro list
      have here : ((t.setWaiting list).streams s).closed = false := open_
      unfold cancelUnstarted
      rw [if_neg (ne_true_of_eq_false here)]
      rfl
    rw [head, List.erase_cons_head] at next
    rw [List.foldl_cons, head]
    exact ih (t.setStream s ((t.streams s).close true true)) next

theorem cancelWaiting_eq (sound : Sound t) :
    ∃ streams, t.cancelWaiting = { t with streams, waitingForConcurrency := [] } ∧
      Sound { t with streams, waitingForConcurrency := [] } :=
  sound_cancelAll t.waitingForConcurrency t sound

theorem sound_initiateWrite (sound : Sound t) : Sound t.initiateWrite := by
  unfold initiateWrite
  split <;> exact ⟨sound.consistent, sound.log⟩

theorem sound_startStream {waiting : List StreamRef} (sound : Sound (t.setWaiting (s :: waiting)))
    (available : t.nextStreamId ≤ maxClientStreamId)
    (room : t.streamMap.size < t.maxConcurrentStreams) :
    Sound ((t.setWaiting waiting).startStream s) := by
  obtain ⟨unstarted, _⟩ := sound.consistent.unstarted s (List.mem_cons_self ..)
  apply sound_initiateWrite
  refine ⟨sound.consistent.start rfl, ?_⟩
  exact sound.log.start rfl unstarted available room sound.consistent.positive

theorem sound_startStreams (waiting : List StreamRef) (t : ClientTransport)
    (sound : Sound (t.setWaiting waiting)) :
    Sound (t.startStreams waiting) ∧
      ((t.startStreams waiting).waitingForConcurrency = [] ∨
        maxClientStreamId < (t.startStreams waiting).nextStreamId ∨
        (t.startStreams waiting).maxConcurrentStreams ≤
          (t.startStreams waiting).streamMap.size) := by
  induction waiting generalizing t with
  | nil => exact ⟨sound, .inl rfl⟩
  | cons s waiting ih =>
    unfold startStreams
    by_cases starts : t.nextStreamId ≤ maxClientStreamId ∧ t.streamMap.size < t.maxConcurrentStreams
    · rw [if_pos starts]
      have next := sound_startStream sound starts.1 starts.2
      refine ih _ ?_
      have same : ((t.setWaiting waiting).startStream s).waitingForConcurrency = waiting :=
        (sameStreams_initiateWrite _).waitingForConcurrency
      rwa [setWaiting_eq_self same]
    · rw [if_neg starts]
      refine ⟨sound, .inr ?_⟩
      rcases Nat.lt_or_ge maxClientStreamId t.nextStreamId with used | left
      · exact .inl used
      · exact .inr (Nat.le_of_not_lt fun room => starts ⟨left, room⟩)

theorem maybeStartSomeStreams_spec (sound : Sound t) :
    Invariant t.maybeStartSomeStreams ∧
      (t.maybeStartSomeStreams.waitingForConcurrency ≠ [] →
        t.maybeStartSomeStreams.maxConcurrentStreams ≤ t.maybeStartSomeStreams.streamMap.size) := by
  have cancelled : ∀ {t' : ClientTransport}, Sound t' → Invariant t'.cancelWaiting ∧
      (t'.cancelWaiting.waitingForConcurrency ≠ [] →
        t'.cancelWaiting.maxConcurrentStreams ≤ t'.cancelWaiting.streamMap.size) := by
    intro t' sound'
    obtain ⟨streams, eq, sound''⟩ := cancelWaiting_eq sound'
    rw [eq]
    exact ⟨⟨sound'', fun _ => rfl⟩, fun waits => absurd rfl waits⟩
  obtain ⟨started, stopped⟩ := sound_startStreams t.waitingForConcurrency t sound
  unfold maybeStartSomeStreams
  dsimp only
  split_ifs with goaway used
  · exact cancelled sound
  · exact cancelled started
  · refine ⟨⟨started, fun exhausted => absurd exhausted used⟩, fun waits => ?_⟩
    rcases stopped with none | usedUp | full
    · exact absurd none waits
    · exact absurd (Nat.le_of_lt usedUp) used
    · exact full

variable {t' : ClientTransport}

theorem Sound.sameStreams (same : SameStreams t t') (sound : Sound t) : Sound t' := by
  refine ⟨?_, ?_⟩
  · rw [same.streams, same.streamMap, same.waitingForConcurrency, same.nextStreamId]
    exact sound.consistent
  · rw [same.streams, same.waitingForConcurrency, same.nextStreamId, same.requested, same.started]
    exact sound.log

def Settled (t : ClientTransport) : Prop :=
  t.goawayError = false → t.waitingForConcurrency ≠ [] →
    t.maxConcurrentStreams ≤ t.streamMap.size

theorem Invariant.sameStreams {t t' : ClientTransport} (same : SameStreams t t')
    (inv : Invariant t) : Invariant t' := by
  refine ⟨inv.toSound.sameStreams same, ?_⟩
  rw [same.nextStreamId, same.waitingForConcurrency]
  exact inv.exhausted

theorem Settled.sameStreams (same : SameStreams t t') (settled : Settled t) : Settled t' := by
  unfold Settled maxConcurrentStreams
  rw [same.goawayError, same.waitingForConcurrency, same.peerSettings, same.streamMap]
  exact settled

theorem sound_deleteStream (sound : Sound t) (started : (t.streams s).id ≠ 0)
    (open_ : (t.streams s).closed = false) (same : stream.id = (t.streams s).id)
    (closed : stream.closed = true) :
    Sound ((t.setStream s stream).deleteStream (t.streams s).id) := by
  have writeClosed : stream.writeClosed = true := by
    rw [ClientStream.closed, Bool.and_eq_true] at closed
    exact closed.2
  refine ⟨sound.consistent.remove started open_ closed, ?_⟩
  exact sound.log.update same (fun _ => writeClosed) (List.Sublist.refl _)
    fun other mem gone => absurd mem gone

theorem removeStream_spec {id : Nat} (deleted : Sound (t.deleteStream id)) :
    Invariant (t.removeStream id) ∧ Settled (t.removeStream id) := by
  unfold removeStream
  dsimp only
  split_ifs
  · have finished := sameStreams_finishClose (t.deleteStream id)
    obtain ⟨inv, full⟩ := maybeStartSomeStreams_spec (deleted.sameStreams finished)
    exact ⟨inv, fun _ => full⟩
  · obtain ⟨inv, full⟩ := maybeStartSomeStreams_spec deleted
    exact ⟨inv, fun _ => full⟩

theorem invariant_markStreamClosed (inv : Invariant t) (s : StreamRef)
    (closeReads closeWrites : Bool) : Invariant (t.markStreamClosed s closeReads closeWrites) := by
  have monotone : (t.streams s).writeClosed = true →
      ((t.streams s).close closeReads closeWrites).writeClosed = true := by
    intro closed
    simp [ClientStream.close, closed]
  rcases t.markStreamClosed_cases s closeReads closeWrites with ⟨-, eq⟩ |
    ⟨before, ⟨after, eq⟩ | ⟨after, ⟨unstarted, eq⟩ | ⟨started, eq⟩⟩⟩
  · rwa [eq]
  · rw [eq]
    refine ⟨⟨inv.consistent.keepOpen before rfl after, ?_⟩, inv.exhausted⟩
    exact inv.log.update rfl monotone (List.Sublist.refl _) fun other mem gone => absurd mem gone
  · rw [eq]
    refine ⟨⟨?_, ?_⟩, ?_⟩
    · refine (inv.consistent.sublist List.erase_sublist).close unstarted after ?_
      intro mem
      exact ((inv.consistent.nodup.mem_erase_iff).mp mem).1 rfl
    · refine inv.log.update rfl monotone List.erase_sublist fun other mem gone => ⟨?_, ?_⟩
      · by_contra different
        exact gone ((List.mem_erase_of_ne different).mpr mem)
      · rw [ClientStream.closed, Bool.and_eq_true] at after
        exact after.2
    · intro used
      rw [show t.waitingForConcurrency = [] from inv.exhausted used]
      rfl
  · rw [eq]
    have same : ((t.streams s).close closeReads closeWrites).id = (t.streams s).id := rfl
    exact (removeStream_spec (sound_deleteStream inv.toSound started before same after)).1

theorem settled_markStreamClosed (inv : Invariant t) (settled : Settled t) (s : StreamRef)
    (closeReads closeWrites : Bool) : Settled (t.markStreamClosed s closeReads closeWrites) := by
  rcases t.markStreamClosed_cases s closeReads closeWrites with ⟨-, eq⟩ |
    ⟨before, ⟨after, eq⟩ | ⟨after, ⟨unstarted, eq⟩ | ⟨started, eq⟩⟩⟩
  · rwa [eq]
  · rw [eq]
    exact settled
  · rw [eq]
    intro noGoaway waits
    refine settled noGoaway fun none => waits ?_
    exact List.sublist_nil.mp (none ▸ List.erase_sublist)
  · rw [eq]
    have same : ((t.streams s).close closeReads closeWrites).id = (t.streams s).id := rfl
    exact (removeStream_spec (sound_deleteStream inv.toSound started before same after)).2

theorem preserved_invariant : Preserved Invariant :=
  .ofStreams Invariant.sameStreams fun s closeReads closeWrites inv =>
    invariant_markStreamClosed inv s closeReads closeWrites

theorem preserved_settled : Preserved fun t => Invariant t ∧ Settled t := by
  apply Preserved.ofStreams
  · intro t t' same held
    exact ⟨held.1.sameStreams same, held.2.sameStreams same⟩
  · intro t s closeReads closeWrites held
    exact ⟨invariant_markStreamClosed held.1 s closeReads closeWrites,
      settled_markStreamClosed held.1 held.2 s closeReads closeWrites⟩

theorem sound_request (sound : Sound t) (unstarted : (t.streams s).id = 0)
    (open_ : (t.streams s).writeClosed = false) (new : s ∉ t.waitingForConcurrency) :
    Sound { t.setWaiting (t.waitingForConcurrency ++ [s]) with
      requested := t.requested ++ [s] } := by
  refine ⟨{ sound.consistent with unstarted := ?_, nodup := ?_ },
    sound.log.request unstarted open_ new⟩
  · intro other mem
    rcases List.mem_append.mp mem with old | same
    · exact sound.consistent.unstarted other old
    · rw [List.mem_singleton.mp same]
      exact ⟨unstarted, closed_eq_false open_⟩
  · refine List.nodup_append.mpr ⟨sound.consistent.nodup, by simp, ?_⟩
    intro other mem other' mem' same
    rw [List.mem_singleton.mp mem'] at same
    exact new (same ▸ mem)

theorem sendInitialMetadata_spec (inv : Invariant t)
    (asserted : ¬(!(t.streams s).writeClosed ∧ !t.closedWithError ∧ (t.streams s).id ≠ 0)) :
    Invariant (t.sendInitialMetadata s) ∧ (Settled t → Settled (t.sendInitialMetadata s)) := by
  unfold sendInitialMetadata
  split_ifs with writeClosed closed waits
  · exact ⟨inv, id⟩
  · refine ⟨preserved_invariant.cancelStream inv s, fun settled => ?_⟩
    exact (preserved_settled.cancelStream ⟨inv, settled⟩ s).2
  · obtain ⟨inv', full⟩ := maybeStartSomeStreams_spec inv.toSound
    exact ⟨inv', fun _ _ => full⟩
  · have open_ : (t.streams s).writeClosed = false := by simpa using writeClosed
    have unstarted : (t.streams s).id = 0 := by simpa [open_, closed] using asserted
    obtain ⟨inv', full⟩ := maybeStartSomeStreams_spec (sound_request inv.toSound unstarted open_ waits)
    exact ⟨inv', fun _ _ => full⟩

theorem invariant_reclaim (inv : Invariant t) (random : Nat) :
    Invariant { t with streamMap := (t.streamMap.rand random).2 } := by
  refine ⟨⟨{ inv.consistent with wellFormed := ?_, keysBelow := ?_, mapped := ?_, inMap := ?_ },
    inv.log⟩, inv.exhausted⟩
  · exact inv.consistent.wellFormed.rand random
  · intro key mem
    exact inv.consistent.keysBelow key ((t.streamMap.keys_rand random).subset mem)
  · rw [t.streamMap.live_rand random]
    exact inv.consistent.mapped
  · rw [t.streamMap.live_rand random]
    exact inv.consistent.inMap

theorem settled_reclaim (inv : Invariant t) (random : Nat) (settled : Settled t) :
    Settled { t with streamMap := (t.streamMap.rand random).2 } := by
  intro noGoaway waits
  have size := inv.consistent.wellFormed.size_rand random
  exact Nat.le_trans (settled noGoaway waits) (Nat.le_of_eq size.symm)

theorem destructiveReclaimerLocked_spec (inv : Invariant t) (random : Nat) :
    Invariant (t.destructiveReclaimerLocked random) ∧
      (Settled t → Settled (t.destructiveReclaimerLocked random)) := by
  have compacted := invariant_reclaim inv random
  unfold destructiveReclaimerLocked
  dsimp only
  split
  · refine ⟨preserved_invariant.cancelStream compacted _, fun settled => ?_⟩
    exact (preserved_settled.cancelStream ⟨compacted, settled_reclaim inv random settled⟩ _).2
  · exact ⟨compacted, settled_reclaim inv random⟩

variable {action : Action}

theorem invariant_step (inv : Invariant t) (taken : t.step action = some t') : Invariant t' := by
  cases action with
  | sendInitialMetadata =>
    obtain ⟨asserted, rfl⟩ := Machine.guarded_taken taken
    exact (sendInitialMetadata_spec inv asserted).1
  | initiateWrite =>
    rw [← Option.some.inj taken]
    exact preserved_invariant.initiateWrite inv
  | cancelStream s =>
    rw [← Option.some.inj taken]
    exact preserved_invariant.cancelStream inv s
  | markStreamClosed s closeReads closeWrites =>
    rw [← Option.some.inj taken]
    exact invariant_markStreamClosed inv s closeReads closeWrites
  | settings | goaway =>
    rw [← Option.some.inj taken]
    exact ⟨⟨inv.consistent, inv.log⟩, inv.exhausted⟩
  | sendGoaway =>
    rw [← Option.some.inj taken]
    exact preserved_invariant.sendGoaway inv
  | destructiveReclaimer random =>
    rw [← Option.some.inj taken]
    exact (destructiveReclaimerLocked_spec inv random).1
  | closeTransport =>
    rw [← Option.some.inj taken]
    exact preserved_invariant.closeTransportLocked inv
  | writeActionBegin result =>
    obtain ⟨-, rfl⟩ := Machine.guarded_taken taken
    exact preserved_invariant.writeActionBeginLocked inv result
  | writeActionEnd error =>
    obtain ⟨-, rfl⟩ := Machine.guarded_taken taken
    exact preserved_invariant.writeActionEndLocked inv error

theorem invariant_default : Invariant {} := by
  refine ⟨⟨⟨StreamMap.wellFormed_default, ?_, ?_, ?_, ?_, List.nodup_nil, by decide⟩, ?_⟩, ?_⟩
  · intro key mem
    exact absurd mem List.not_mem_nil
  · intro key s mem
    exact absurd mem List.not_mem_nil
  · intro s started
    exact absurd rfl started
  · intro s mem
    exact absurd mem List.not_mem_nil
  · constructor <;> simp
  · intro _
    rfl

/-- The discipline of a client in one state: the ids it has given and the order
it gave them in, and no stream left waiting that could start. -/
structure Disciplined (t : ClientTransport) : Prop where
  odd : ∀ start ∈ t.started, start.id % 2 = 1
  bounded : ∀ start ∈ t.started, start.id ≤ 2 ^ 31 - 1
  increasing : (t.started.map (·.id)).Pairwise (· < ·)
  assigned : ∀ s id, id ≠ 0 →
    ((t.streams s).id = id ↔ ∃ start ∈ t.started, start.stream = s ∧ start.id = id)
  withinLimit : ∀ start ∈ t.started, start.mapSize < start.maxConcurrentStreams
  fifo : (t.started.map (·.stream) ++ t.waitingForConcurrency).Sublist t.requested
  once : t.requested.Nodup
  noneStartable : t.closedWithError = false → t.goawayError = false →
    t.waitingForConcurrency ≠ [] → t.peerSettings.get .maxConcurrentStreams ≤ t.streamMap.size

theorem Invariant.disciplined (inv : Invariant t) (settled : t.closedWithError = false → Settled t) :
    Disciplined t := by
  refine ⟨inv.log.odd, inv.log.bounded, inv.log.increasing, ?_, inv.log.withinLimit, inv.log.fifo,
    inv.log.once, settled⟩
  intro s id nonzero
  constructor
  · intro same
    obtain ⟨start, mem, it⟩ := inv.log.complete s (same ▸ nonzero)
    refine ⟨start, mem, it, ?_⟩
    rw [← inv.log.recorded start mem, it, same]
  · rintro ⟨start, mem, rfl, rfl⟩
    exact inv.log.recorded start mem

/-- No SETTINGS frame makes room for a stream that waits. -/
def MakesNoRoom (t : ClientTransport) : Action → Prop
  | .settings incoming => t.closedWithError = false → t.goawayError = false →
      t.waitingForConcurrency ≠ [] →
        incoming.get .maxConcurrentStreams ≤ t.streamMap.size
  | _ => True

theorem settled_step (inv : Invariant t) (settled : Settled t) (taken : t.step action = some t')
    (makesNoRoom : t.MakesNoRoom action) (open_ : t.closedWithError = false) : Settled t' := by
  have both : Invariant t ∧ Settled t := ⟨inv, settled⟩
  cases action with
  | sendInitialMetadata =>
    obtain ⟨asserted, rfl⟩ := Machine.guarded_taken taken
    exact (sendInitialMetadata_spec inv asserted).2 settled
  | initiateWrite =>
    rw [← Option.some.inj taken]
    exact (preserved_settled.initiateWrite both).2
  | cancelStream s =>
    rw [← Option.some.inj taken]
    exact (preserved_settled.cancelStream both s).2
  | markStreamClosed s closeReads closeWrites =>
    rw [← Option.some.inj taken]
    exact settled_markStreamClosed inv settled s closeReads closeWrites
  | settings =>
    rw [← Option.some.inj taken]
    exact makesNoRoom open_
  | goaway =>
    rw [← Option.some.inj taken]
    intro noGoaway
    simp at noGoaway
  | sendGoaway =>
    rw [← Option.some.inj taken]
    exact (preserved_settled.sendGoaway both).2
  | destructiveReclaimer random =>
    rw [← Option.some.inj taken]
    exact (destructiveReclaimerLocked_spec inv random).2 settled
  | closeTransport =>
    rw [← Option.some.inj taken]
    exact (preserved_settled.closeTransportLocked both).2
  | writeActionBegin result =>
    obtain ⟨-, rfl⟩ := Machine.guarded_taken taken
    exact (preserved_settled.writeActionBeginLocked both result).2
  | writeActionEnd error =>
    obtain ⟨-, rfl⟩ := Machine.guarded_taken taken
    exact (preserved_settled.writeActionEndLocked both error).2

theorem disciplined_step (inv : Invariant t) (good : Disciplined t)
    (taken : t.step action = some t') : Disciplined t' ↔ t.MakesNoRoom action := by
  have inv' := invariant_step inv taken
  constructor
  · intro good'
    cases action with
    | settings =>
      rw [← Option.some.inj taken] at good'
      exact good'.noneStartable
    | _ => trivial
  · intro makesNoRoom
    refine inv'.disciplined fun open' => ?_
    have open_ : t.closedWithError = false := by
      cases before : t.closedWithError with
      | false => rfl
      | true => rw [← open', closed_step before taken]
    exact settled_step inv (good.noneStartable open_) taken makesNoRoom open_

/-- A run of a client keeps the discipline in all its states exactly when no
SETTINGS frame makes room for a stream that waits: nothing starts it then. -/
theorem start_discipline_iff (actions : List Action) (t : ClientTransport) :
    Machine.Run step MakesNoRoom {} actions t ↔
      Machine.Reach step {} actions t ∧
        ∀ done later, actions = done ++ later → ∀ middle, Machine.Reach step {} done middle →
          Disciplined middle := by
  have initially : Disciplined {} := by
    refine invariant_default.disciplined fun _ _ waits => ?_
    exact absurd rfl waits
  exact Machine.Run.iff_always invariant_step disciplined_step invariant_default initially
    actions t

/-- The peer allows one stream, a second one waits, and the peer allows two. -/
theorem raised_limit_starts_nothing : ∃ actions t, Machine.Reach step {} actions t ∧
    ¬Disciplined t := by
  refine ⟨[.settings { maxConcurrentStreams := 1 }, .sendInitialMetadata 0,
    .sendInitialMetadata 1, .settings { maxConcurrentStreams := 2 }], _,
    .cons trivial rfl (.cons trivial rfl (.cons trivial rfl (.cons trivial rfl (.nil _)))), ?_⟩
  intro good
  exact absurd (good.noneStartable (by decide) (by decide) (by decide)) (by decide)

/-- In every run, also while streams wait that could start: the map holds exactly the streams that
have an id and are open, under their ids, the streams that wait are open and have none, each once,
and every stream whose start was asked for waits, has been started or writes no more. -/
theorem streams_accounted {actions : List Action} {t : ClientTransport}
    (reach : Machine.Reach step {} actions t) :
    (∀ key s, (key, s) ∈ t.streamMap.live ↔
      key ≠ 0 ∧ (t.streams s).id = key ∧ (t.streams s).closed = false) ∧
      t.waitingForConcurrency.Nodup ∧
      (∀ s ∈ t.waitingForConcurrency, (t.streams s).id = 0 ∧ (t.streams s).closed = false) ∧
      ∀ s ∈ t.requested, s ∈ t.waitingForConcurrency ∨ (t.streams s).id ≠ 0 ∨
        (t.streams s).writeClosed = true := by
  have inv : Invariant t := reach.invariant (fun inv _ taken => invariant_step inv taken)
    invariant_default
  have consistent := inv.consistent
  refine ⟨fun key s => ⟨fun mapped => ?_, ?_⟩, consistent.nodup, consistent.unstarted,
    inv.log.accounted⟩
  · obtain ⟨same, nonzero, opened⟩ := consistent.mapped key s mapped
    exact ⟨nonzero, same, opened⟩
  · rintro ⟨nonzero, rfl, opened⟩
    exact consistent.inMap s nonzero opened

theorem streams_accounted_waiting : ∃ t : ClientTransport, t.waitingForConcurrency = [1] ∧
    ∀ s ∈ t.waitingForConcurrency, (t.streams s).id = 0 ∧ (t.streams s).closed = false := by
  obtain ⟨t, reach, waiting⟩ := Machine.exists_reach step {}
    [.settings { maxConcurrentStreams := 1 }, .sendInitialMetadata 0, .sendInitialMetadata 1]
    (·.waitingForConcurrency) [1] (by decide)
  exact ⟨t, waiting, (streams_accounted reach).2.2.1⟩

end ClientTransport

end GrpcCore.Transport
