import GrpcCore.Transport.StreamStart

/-!
# Closing the transport

`close_transport_locked` cancels the streams of the map while the map changes
under its loop, and puts the close off as long as a write is in progress. The
write that each cancellation asks for is what makes this work: a close that
found a stream in the map is made again after that write.
-/

namespace GrpcCore.Transport.ClientTransport

open StreamMap

def Busy (level : Nat) (t : ClientTransport) : Prop :=
  t.closedWithError = false ∧ level ≤ t.writeState.level

variable {t t' : ClientTransport} {level : Nat}

theorem Busy.sameControl (same : SameControl t t') (busy : Busy level t) : Busy level t' :=
  ⟨same.closedWithError.trans busy.1, Nat.le_trans busy.2 same.writeState⟩

theorem Busy.not_idle (busy : Busy (level + 1) t) : t.writeState ≠ .idle := by
  intro idle
  have bound := busy.2
  rw [idle] at bound
  exact absurd bound (Nat.not_succ_le_zero level)

theorem busy_of_not_idle (open_ : t.closedWithError = false) (busy : t.writeState ≠ .idle) :
    Busy (0 + 1) t := by
  refine ⟨open_, ?_⟩
  cases state : t.writeState with
  | idle => exact absurd state busy
  | writing => exact Nat.le_refl 1
  | writingWithMore => exact Nat.le_succ 1

theorem busy_finishClose (busy : Busy (level + 1) t) : Busy (level + 1) t.finishClose := by
  unfold finishClose
  rw [if_neg (ne_true_of_eq_false busy.1), if_pos busy.not_idle]
  exact busy

theorem busy_removeStream (busy : Busy (level + 1) t) (id : Nat) :
    Busy (level + 1) (t.removeStream id) := by
  have deleted : Busy (level + 1) (t.deleteStream id) := busy
  unfold removeStream
  dsimp only
  split_ifs
  · exact (busy_finishClose deleted).sameControl (sameControl_maybeStartSomeStreams _)
  · exact deleted.sameControl (sameControl_maybeStartSomeStreams _)

theorem keptByCancel_busy (level : Nat) : KeptByCancel (Busy (level + 1)) where
  initiateWrite busy := busy.sameControl (sameControl_initiateWrite _)
  markStreamClosed {t} s closeReads closeWrites busy := by
    rcases t.markStreamClosed_cases s closeReads closeWrites with ⟨-, eq⟩ |
      ⟨-, ⟨-, eq⟩ | ⟨-, ⟨-, eq⟩ | ⟨-, eq⟩⟩⟩
    · rwa [eq]
    · rwa [eq]
    · rwa [eq]
    · rw [eq]
      apply busy_removeStream
      exact busy

theorem busy_closeTransportLocked (busy : Busy (level + 1) t) :
    Busy (level + 1) t.closeTransportLocked :=
  busy_finishClose ((keptByCancel_busy level).endAllTheCalls busy)

theorem busy_noteGoawaySent (busy : Busy (level + 1) t) : Busy (level + 1) t.noteGoawaySent := by
  unfold noteGoawaySent
  split_ifs
  · apply busy_closeTransportLocked
    exact busy
  · exact busy
  · exact busy

theorem level_initiateWrite (t : ClientTransport) :
    min 2 (t.writeState.level + 1) ≤ t.initiateWrite.writeState.level := by
  unfold initiateWrite
  cases state : t.writeState with
  | idle => exact Nat.le_refl 1
  | writing => exact Nat.le_refl 2
  | writingWithMore =>
    rw [state]
    exact Nat.le_refl 2

theorem busy_cancelStream (inv : Invariant t) (open_ : t.closedWithError = false) {key : Nat}
    {s : StreamRef} (mapped : (key, s) ∈ t.streamMap.live) :
    Busy (min 1 t.writeState.level + 1) (t.cancelStream s) := by
  obtain ⟨id, nonzero, alive⟩ := inv.consistent.mapped key s mapped
  have resets : !(t.streams s).closed ∧ (t.streams s).id ≠ 0 := by
    rw [alive, id]
    exact ⟨rfl, nonzero⟩
  unfold cancelStream
  rw [if_pos resets]
  refine (keptByCancel_busy _).markStreamClosed s true true ⟨?_, ?_⟩
  · exact (sameControl_initiateWrite t).closedWithError.trans open_
  · refine Nat.le_trans ?_ t.level_initiateWrite
    omega

/-- The cells of the map and the streams that may still be put into one. -/
def weight (t : ClientTransport) : Nat := t.streamMap.count + t.waitingForConcurrency.length

theorem weight_of_sameStreams (same : SameStreams t t') : t'.weight = t.weight := by
  rw [weight, same.streamMap, same.waitingForConcurrency, weight]

theorem weight_cancelUnstarted (t : ClientTransport) (s : StreamRef) :
    (t.cancelUnstarted s).weight ≤ t.weight := by
  unfold cancelUnstarted
  split_ifs
  · exact Nat.le_refl _
  · exact Nat.add_le_add_left List.erase_sublist.length_le _

theorem weight_cancelWaiting (t : ClientTransport) : t.cancelWaiting.weight ≤ t.weight := by
  have fold : ∀ (waiting : List StreamRef) (t : ClientTransport),
      (waiting.foldl cancelUnstarted t).weight ≤ t.weight := by
    intro waiting
    induction waiting with
    | nil => exact fun t => Nat.le_refl _
    | cons s waiting ih =>
      intro t
      exact Nat.le_trans (ih _) (weight_cancelUnstarted t s)
  refine Nat.le_trans (fold t.waitingForConcurrency (t.setWaiting [])) ?_
  exact Nat.add_le_add_left (Nat.zero_le _) _

variable (waiting : List StreamRef)

theorem weight_startStreams (t : ClientTransport) :
    (t.startStreams waiting).weight ≤ (t.setWaiting waiting).weight := by
  induction waiting generalizing t with
  | nil => exact Nat.le_refl _
  | cons s waiting ih =>
    unfold startStreams
    split_ifs
    · refine Nat.le_trans (ih _) ?_
      have map : ((t.setWaiting waiting).startStream s).streamMap =
          t.streamMap.add t.nextStreamId s := (sameStreams_initiateWrite _).streamMap
      have count := t.streamMap.count_add_le t.nextStreamId s
      simp only [weight, setWaiting, List.length_cons] at map ⊢
      rw [map]
      omega
    · exact Nat.le_refl _

theorem weight_maybeStartSomeStreams (t : ClientTransport) :
    t.maybeStartSomeStreams.weight ≤ t.weight := by
  have started := weight_startStreams t.waitingForConcurrency t
  unfold maybeStartSomeStreams
  dsimp only
  split_ifs
  · exact t.weight_cancelWaiting
  · exact Nat.le_trans (weight_cancelWaiting _) started
  · exact started

theorem weight_removeStream (t : ClientTransport) (id : Nat) :
    (t.removeStream id).weight ≤ t.weight := by
  have deleted : (t.deleteStream id).weight ≤ t.weight :=
    Nat.add_le_add_right (t.streamMap.count_delete_le id) _
  have finished := weight_of_sameStreams (sameStreams_finishClose (t.deleteStream id))
  unfold removeStream
  dsimp only
  split_ifs
  · exact Nat.le_trans (weight_maybeStartSomeStreams _) (Nat.le_trans (Nat.le_of_eq finished) deleted)
  · exact Nat.le_trans (weight_maybeStartSomeStreams _) deleted

theorem weight_cancelStream (t : ClientTransport) (s : StreamRef) :
    (t.cancelStream s).weight ≤ t.weight := by
  have closes : ∀ t : ClientTransport, (t.markStreamClosed s true true).weight ≤ t.weight := by
    intro t
    rcases t.markStreamClosed_cases s true true with ⟨-, eq⟩ |
      ⟨-, ⟨-, eq⟩ | ⟨-, ⟨-, eq⟩ | ⟨-, eq⟩⟩⟩
    · rw [eq]
    · rw [eq]
      exact Nat.le_refl _
    · rw [eq]
      exact Nat.add_le_add_left List.erase_sublist.length_le _
    · rw [eq]
      exact weight_removeStream _ _
  unfold cancelStream
  split_ifs
  · refine Nat.le_trans (closes _) (Nat.le_of_eq ?_)
    exact weight_of_sameStreams t.sameStreams_initiateWrite
  · exact closes t

theorem endAllTheCalls_of_empty (inv : Invariant t) (empty : t.streamMap.size = 0) :
    t.endAllTheCalls = t := by
  have none := inv.consistent.wellFormed.entries_nil_of_size empty
  unfold endAllTheCalls
  cases t.streamMap.count + t.waitingForConcurrency.length with
  | zero => rfl
  | succ =>
    unfold forEachFrom
    rw [none]
    rfl

theorem closeTransportLocked_of_empty (inv : Invariant t) (empty : t.streamMap.size = 0) :
    t.closeTransportLocked = t.finishClose := by
  rw [closeTransportLocked, endAllTheCalls_of_empty inv empty]

theorem busy_closeTransportLocked_of_mapped (inv : Invariant t) (open_ : t.closedWithError = false)
    (mapped : t.streamMap.size ≠ 0) :
    Busy (min 1 t.writeState.level + 1) t.closeTransportLocked := by
  rw [inv.consistent.wellFormed.size_eq] at mapped
  obtain ⟨⟨key, s⟩, mem⟩ := List.exists_mem_of_length_pos (Nat.pos_of_ne_zero mapped)
  obtain ⟨position, inside, read⟩ := List.getElem_of_mem (mem_live.mp mem)
  have present := List.getElem?_eq_some_iff.mpr ⟨inside, read⟩
  have enough : position < 0 + (t.streamMap.count + t.waitingForConcurrency.length) := by
    rw [Nat.zero_add]
    exact Nat.lt_add_right _ inside
  obtain ⟨key', s', fuel, index, first, eq⟩ := forEachFrom_first
    (f := fun t _ s => t.cancelStream s) present (Nat.zero_le _) enough
  unfold closeTransportLocked endAllTheCalls
  rw [eq]
  apply busy_finishClose
  apply forEachFrom_invariant
  · intro state _ other busy _
    exact (keptByCancel_busy _).cancelStream busy other
  · exact busy_cancelStream inv open_ first

/-- Once the transport is closed, every stream has been cancelled. -/
def NoneAbandoned (t : ClientTransport) : Prop :=
  t.closedWithError = true → t.streamMap.size = 0 ∧ t.waitingForConcurrency = []

theorem noneAbandoned_of_open (open_ : t.closedWithError = false) : NoneAbandoned t := by
  intro closed
  rw [open_] at closed
  exact absurd closed Bool.false_ne_true

theorem finishClose_of_busy (open_ : t.closedWithError = false) (busy : t.writeState ≠ .idle) :
    t.finishClose = t.delayClose := by
  unfold finishClose
  rw [if_neg (ne_true_of_eq_false open_), if_pos busy]

theorem finishClose_of_idle (open_ : t.closedWithError = false) (idle : t.writeState = .idle) :
    t.finishClose = t.setClosedWithError := by
  unfold finishClose
  rw [if_neg (ne_true_of_eq_false open_), if_neg (not_not.mpr idle)]

def Stranded (t : ClientTransport) : Prop :=
  t.closedWithError = false ∧ t.streamMap.size = 0 ∧ t.waitingForConcurrency ≠ []

/-- The close of an open, idle transport: streams that wait beside an empty map
are forgotten, and nothing else is. -/
theorem noneAbandoned_close_idle (inv : Invariant t) (open_ : t.closedWithError = false)
    (idle : t.writeState = .idle) : NoneAbandoned t.closeTransportLocked ↔ ¬Stranded t := by
  by_cases empty : t.streamMap.size = 0
  · rw [closeTransportLocked_of_empty inv empty, finishClose_of_idle open_ idle]
    constructor
    · rintro none ⟨-, -, waits⟩
      exact waits (none rfl).2
    · intro notStranded _
      refine ⟨empty, ?_⟩
      by_contra waits
      exact notStranded ⟨open_, empty, waits⟩
  · have busy := busy_closeTransportLocked_of_mapped inv open_ empty
    refine ⟨fun _ stranded => empty stranded.2.1, fun _ => noneAbandoned_of_open busy.1⟩

theorem noneAbandoned_setWriteStateIdle (inv : Invariant t) (open_ : t.closedWithError = false) :
    NoneAbandoned t.setWriteStateIdle ↔
      ¬(t.closeTransportOnWritesFinished = true ∧ Stranded t) := by
  unfold setWriteStateIdle
  split_ifs with delayed
  · have inv' : Invariant (t.setWriteState .idle).takeDelayedClose :=
      preserved_invariant.takeDelayedClose (preserved_invariant.setWriteState .idle inv)
    rw [noneAbandoned_close_idle inv' open_ rfl]
    constructor
    · rintro notStranded ⟨-, stranded⟩
      exact notStranded stranded
    · intro notStranded stranded
      exact notStranded ⟨delayed, stranded⟩
  · constructor
    · rintro - ⟨delayed', -⟩
      exact delayed delayed'
    · intro _
      apply noneAbandoned_of_open
      exact open_

structure Dead (t : ClientTransport) : Prop extends Invariant t where
  closed : t.closedWithError = true
  empty : t.streamMap.size = 0
  noneWaiting : t.waitingForConcurrency = []

theorem Dead.sameStreams {t t' : ClientTransport} (same : SameStreams t t')
    (closed : t'.closedWithError = true) (dead : Dead t) : Dead t' := by
  refine ⟨dead.toInvariant.sameStreams same, closed, ?_, ?_⟩
  · rw [same.streamMap]
    exact dead.empty
  · rw [same.waitingForConcurrency]
    exact dead.noneWaiting

theorem dead_markStreamClosed (dead : Dead t) (s : StreamRef) (closeReads closeWrites : Bool) :
    Dead (t.markStreamClosed s closeReads closeWrites) := by
  have inv' := invariant_markStreamClosed dead.toInvariant s closeReads closeWrites
  rcases t.markStreamClosed_cases s closeReads closeWrites with ⟨-, eq⟩ |
    ⟨alive, ⟨-, eq⟩ | ⟨-, ⟨-, eq⟩ | ⟨started, -⟩⟩⟩
  · rwa [eq]
  · rw [eq] at inv' ⊢
    exact ⟨inv', dead.closed, dead.empty, dead.noneWaiting⟩
  · rw [eq] at inv' ⊢
    refine ⟨inv', dead.closed, dead.empty, ?_⟩
    rw [dead.noneWaiting]
    rfl
  · have mapped := dead.consistent.inMap s started alive
    have none := dead.empty
    rw [dead.consistent.wellFormed.size_eq] at none
    rw [List.eq_nil_of_length_eq_zero none] at mapped
    exact absurd mapped List.not_mem_nil

theorem preserved_dead : Preserved Dead where
  initiateWrite dead := dead.sameStreams (sameStreams_initiateWrite _)
    (preserved_closed.initiateWrite dead.closed)
  markStreamClosed s closeReads closeWrites dead :=
    dead_markStreamClosed dead s closeReads closeWrites
  finishClose dead := by rwa [closed_finishClose dead.closed]
  setWriteState state dead := dead.sameStreams (sameStreams_setWriteState _ state) dead.closed
  takeDelayedClose dead := dead.sameStreams (sameStreams_takeDelayedClose _) dead.closed
  setSentGoawayState state dead :=
    dead.sameStreams (sameStreams_setSentGoawayState _ state) dead.closed

variable {action : Action}

theorem dead_step (dead : Dead t) (taken : t.step action = some t') : Dead t' := by
  cases action with
  | sendInitialMetadata s =>
    obtain ⟨-, rfl⟩ := Machine.guarded_taken taken
    unfold sendInitialMetadata
    rw [if_pos dead.closed]
    split_ifs
    · exact dead
    · exact preserved_dead.cancelStream dead s
  | initiateWrite =>
    rw [← Option.some.inj taken]
    exact preserved_dead.initiateWrite dead
  | cancelStream s =>
    rw [← Option.some.inj taken]
    exact preserved_dead.cancelStream dead s
  | markStreamClosed s closeReads closeWrites =>
    rw [← Option.some.inj taken]
    exact dead_markStreamClosed dead s closeReads closeWrites
  | settings | goaway =>
    have inv' := invariant_step dead.toInvariant taken
    rw [← Option.some.inj taken] at inv' ⊢
    exact ⟨inv', dead.closed, dead.empty, dead.noneWaiting⟩
  | sendGoaway =>
    rw [← Option.some.inj taken]
    exact preserved_dead.sendGoaway dead
  | destructiveReclaimer random =>
    have compacted := invariant_reclaim dead.toInvariant random
    have size := (dead.consistent.wellFormed.size_rand random).trans dead.empty
    have dead' : Dead { t with streamMap := (t.streamMap.rand random).2 } :=
      ⟨compacted, dead.closed, size, dead.noneWaiting⟩
    rw [← Option.some.inj taken]
    unfold destructiveReclaimerLocked
    dsimp only
    split
    · exact preserved_dead.cancelStream dead' _
    · exact dead'
  | closeTransport =>
    rw [← Option.some.inj taken]
    exact preserved_dead.closeTransportLocked dead
  | writeActionBegin result =>
    obtain ⟨-, rfl⟩ := Machine.guarded_taken taken
    exact preserved_dead.writeActionBeginLocked dead result
  | writeActionEnd error =>
    obtain ⟨-, rfl⟩ := Machine.guarded_taken taken
    exact preserved_dead.writeActionEndLocked dead error

theorem mapped_startStream (t : ClientTransport) (s : StreamRef) :
    (t.startStream s).streamMap.live ≠ [] := by
  have map : (t.startStream s).streamMap = t.streamMap.add t.nextStreamId s :=
    (sameStreams_initiateWrite _).streamMap
  rw [map, live_add]
  exact List.append_ne_nil_of_right_ne_nil _ (List.cons_ne_nil _ _)

theorem mapped_startStreams (mapped : t.streamMap.live ≠ []) :
    (t.startStreams waiting).streamMap.live ≠ [] := by
  induction waiting generalizing t with
  | nil => exact mapped
  | cons s waiting ih =>
    unfold startStreams
    split_ifs
    · exact ih (mapped_startStream _ s)
    · exact mapped

theorem streamMap_cancelWaiting (sound : Sound t) :
    t.cancelWaiting.streamMap = t.streamMap ∧ t.cancelWaiting.waitingForConcurrency = [] := by
  obtain ⟨streams, eq, -⟩ := cancelWaiting_eq sound
  rw [eq]
  exact ⟨rfl, rfl⟩

/-- With an empty map, every stream that waits is started or goes on waiting,
unless the peer has said that it is going away. -/
theorem maybeStartSomeStreams_of_empty (sound : Sound t) (empty : t.streamMap.size = 0)
    (available : t.waitingForConcurrency ≠ [] → t.nextStreamId < maxClientStreamId) :
    (t.maybeStartSomeStreams.streamMap.size = 0 ∧
        t.maybeStartSomeStreams.waitingForConcurrency = []) ↔
      t.goawayError = true ∨ t.waitingForConcurrency = [] := by
  obtain ⟨started, -⟩ := sound_startStreams t.waitingForConcurrency t sound
  unfold maybeStartSomeStreams
  by_cases goaway : t.goawayError = true
  · obtain ⟨map, none⟩ := streamMap_cancelWaiting sound
    rw [if_pos goaway, map, none]
    exact ⟨fun _ => .inl goaway, fun _ => ⟨empty, rfl⟩⟩
  · rw [if_neg goaway]
    dsimp only
    cases waits : t.waitingForConcurrency with
    | nil =>
      rw [waits] at started
      refine ⟨fun _ => .inr rfl, fun _ => ?_⟩
      split_ifs
      · obtain ⟨map, none⟩ := streamMap_cancelWaiting started
        exact ⟨map ▸ empty, none⟩
      · exact ⟨empty, rfl⟩
    | cons s waiting =>
      rw [waits] at started
      have room := available (waits ▸ List.cons_ne_nil s waiting)
      constructor
      · intro gone
        exfalso
        by_cases limit : t.streamMap.size < t.maxConcurrentStreams
        · have mapped : (t.startStreams (s :: waiting)).streamMap.live ≠ [] := by
            unfold startStreams
            rw [if_pos ⟨Nat.le_of_lt room, limit⟩]
            exact mapped_startStreams waiting (mapped_startStream _ s)
          have size : (t.startStreams (s :: waiting)).streamMap.size = 0 := by
            split_ifs at gone
            · rw [(streamMap_cancelWaiting started).1] at gone
              exact gone.1
            · exact gone.1
          rw [started.consistent.wellFormed.size_eq] at size
          exact mapped (List.eq_nil_of_length_eq_zero size)
        · have stays : t.startStreams (s :: waiting) = t.setWaiting (s :: waiting) := by
            unfold startStreams
            rw [if_neg fun both => limit both.2]
          have unused : ¬(t.setWaiting (s :: waiting)).nextStreamId ≥ maxClientStreamId :=
            Nat.not_le.mpr room
          rw [stays, if_neg unused] at gone
          exact absurd gone.2 (List.cons_ne_nil s waiting)
      · rintro (goaway' | none)
        · exact absurd goaway' goaway
        · exact absurd none (List.cons_ne_nil s waiting)

/-- The frame ends the last stream of the map, and with it the transport, because
a GOAWAY was sent. -/
def EndsLastStream (t : ClientTransport) (s : StreamRef) (closeReads closeWrites : Bool) : Prop :=
  (t.streams s).id ≠ 0 ∧ (t.streams s).closed = false ∧
    ((t.streams s).close closeReads closeWrites).closed = true ∧ t.streamMap.size = 1 ∧
    t.sentGoawayState = .sent ∧ t.writeState = .idle

theorem noneAbandoned_removeStream {id : Nat} (deleted : Sound (t.deleteStream id))
    (open_ : t.closedWithError = false)
    (available : t.waitingForConcurrency ≠ [] → t.nextStreamId < maxClientStreamId) :
    NoneAbandoned (t.removeStream id) ↔
      ¬((t.deleteStream id).streamMap.size = 0 ∧ t.sentGoawayState = .sent ∧
        t.writeState = .idle ∧ t.goawayError = false ∧ t.waitingForConcurrency ≠ []) := by
  have openDeleted : (t.deleteStream id).closedWithError = false := open_
  unfold removeStream
  by_cases last : (t.deleteStream id).streamMap.size = 0 ∧
      (t.deleteStream id).sentGoawayState = .sent
  · rw [if_pos last]
    by_cases idle : (t.deleteStream id).writeState = .idle
    · rw [finishClose_of_idle openDeleted idle]
      have closed := (sameControl_maybeStartSomeStreams
        (t.deleteStream id).setClosedWithError).closedWithError
      have started := maybeStartSomeStreams_of_empty
        (t := (t.deleteStream id).setClosedWithError) ⟨deleted.consistent, deleted.log⟩ last.1
        available
      constructor
      · rintro none ⟨-, -, -, noGoaway, waits⟩
        rcases started.mp (none closed) with goaway | gone
        · rw [show t.goawayError = true from goaway] at noGoaway
          exact absurd noGoaway.symm Bool.false_ne_true
        · exact waits gone
      · intro kept _
        refine started.mpr ?_
        by_contra neither
        rw [not_or] at neither
        exact kept ⟨last.1, last.2, idle, Bool.eq_false_iff.mpr neither.1, neither.2⟩
    · rw [finishClose_of_busy openDeleted idle]
      refine ⟨fun _ ends => idle ends.2.2.1, fun _ => noneAbandoned_of_open ?_⟩
      exact (sameControl_maybeStartSomeStreams _).closedWithError.trans openDeleted
  · rw [if_neg last]
    refine ⟨fun _ ends => last ⟨ends.1, ends.2.1⟩, fun _ => noneAbandoned_of_open ?_⟩
    exact (sameControl_maybeStartSomeStreams _).closedWithError.trans openDeleted

theorem noneAbandoned_markStreamClosed (inv : Invariant t) (open_ : t.closedWithError = false)
    (s : StreamRef) (closeReads closeWrites : Bool) :
    NoneAbandoned (t.markStreamClosed s closeReads closeWrites) ↔
      ¬(t.EndsLastStream s closeReads closeWrites ∧ t.goawayError = false ∧
        t.waitingForConcurrency ≠ []) := by
  rcases t.markStreamClosed_cases s closeReads closeWrites with ⟨closed, eq⟩ |
    ⟨alive, ⟨after, eq⟩ | ⟨after, ⟨unstarted, eq⟩ | ⟨started, eq⟩⟩⟩
  · rw [eq]
    refine ⟨?_, fun _ => noneAbandoned_of_open open_⟩
    rintro - ⟨⟨-, alive, -⟩, -⟩
    rw [closed] at alive
    exact absurd alive.symm Bool.false_ne_true
  · rw [eq]
    refine ⟨?_, fun _ => noneAbandoned_of_open open_⟩
    rintro - ⟨⟨-, -, after', -⟩, -⟩
    rw [after] at after'
    exact absurd after' Bool.false_ne_true
  · rw [eq]
    refine ⟨?_, fun _ => noneAbandoned_of_open open_⟩
    rintro - ⟨⟨started, -⟩, -⟩
    exact started unstarted
  · have same : ((t.streams s).close closeReads closeWrites).id = (t.streams s).id := rfl
    have size : (t.streamMap.delete (t.streams s).id).size = 0 ↔ t.streamMap.size = 1 := by
      rw [← inv.consistent.wellFormed.size_delete (inv.consistent.inMap s started alive)]
      omega
    have available : t.waitingForConcurrency ≠ [] → t.nextStreamId < maxClientStreamId := by
      intro waits
      exact Nat.lt_of_not_le fun used => waits (inv.exhausted used)
    rw [eq, noneAbandoned_removeStream (sound_deleteStream inv.toSound started alive same after)
      open_ available, not_iff_not]
    constructor
    · rintro ⟨empty, sent, idle, noGoaway, waits⟩
      exact ⟨⟨started, alive, after, size.mp empty, sent, idle⟩, noGoaway, waits⟩
    · rintro ⟨⟨-, -, -, one, sent, idle⟩, noGoaway, waits⟩
      exact ⟨size.mpr one, sent, idle, noGoaway, waits⟩

/-- A cancellation never closes the transport: where it removes a stream, it has
asked for a write first. -/
theorem open_cancelStream (open_ : t.closedWithError = false) (s : StreamRef) :
    (t.cancelStream s).closedWithError = false := by
  unfold cancelStream
  by_cases resets : !(t.streams s).closed ∧ (t.streams s).id ≠ 0
  · rw [if_pos resets]
    have busy : Busy (0 + 1) t.initiateWrite := by
      refine ⟨(sameControl_initiateWrite t).closedWithError.trans open_, ?_⟩
      refine Nat.le_trans ?_ t.level_initiateWrite
      omega
    exact ((keptByCancel_busy 0).markStreamClosed s true true busy).1
  · rw [if_neg resets]
    rcases t.markStreamClosed_cases s true true with ⟨-, eq⟩ |
      ⟨alive, ⟨-, eq⟩ | ⟨-, ⟨-, eq⟩ | ⟨started, -⟩⟩⟩
    · rwa [eq]
    · rwa [eq]
    · rwa [eq]
    · exact absurd ⟨by rw [alive]; rfl, started⟩ resets

theorem open_sendInitialMetadata (open_ : t.closedWithError = false) (s : StreamRef) :
    (t.sendInitialMetadata s).closedWithError = false := by
  unfold sendInitialMetadata
  rw [if_neg (ne_true_of_eq_false open_)]
  split_ifs
  · exact open_
  · exact (sameControl_maybeStartSomeStreams t).closedWithError.trans open_
  · exact (sameControl_maybeStartSomeStreams _).closedWithError.trans open_

theorem noneAbandoned_writeActionBegin (inv : Invariant t) (open_ : t.closedWithError = false)
    (busy : t.writeState ≠ .idle) (result : BeginWrite) :
    NoneAbandoned (t.writeActionBeginLocked result) ↔
      ¬(result.writing = false ∧ t.closeTransportOnWritesFinished = true ∧ Stranded t) := by
  unfold writeActionBeginLocked
  rw [if_neg (ne_true_of_eq_false open_)]
  by_cases writing : result.writing = true
  · have sent := (keptByCancel_busy 0).sentLastFrames (busy_of_not_idle open_ busy)
      result.lastFrames
    rw [if_pos writing]
    refine ⟨?_, fun _ => noneAbandoned_of_open sent.1⟩
    rintro - ⟨notWriting, -⟩
    rw [writing] at notWriting
    exact absurd notWriting.symm Bool.false_ne_true
  · have nothing : result.lastFrames = [] := by
      have none := Bool.eq_false_iff.mpr writing
      rw [BeginWrite.writing, Bool.or_eq_false_iff] at none
      simpa using none.1
    rw [if_neg writing, nothing]
    refine (noneAbandoned_setWriteStateIdle inv open_).trans ?_
    simp only [Bool.eq_false_iff.mpr writing, true_and]

/-- At the end of a write with no stream in the map, the reasons to close are
noted for when the write state is reset. -/
structure CloseNoted (t : ClientTransport) (reason : Prop) (t' : ClientTransport) : Prop
    extends SameStreams t t' where
  isOpen : t'.closedWithError = false
  writeState : t'.writeState = t.writeState
  delayed : t'.closeTransportOnWritesFinished = true ↔
    reason ∨ t.closeTransportOnWritesFinished = true

section

variable (inv : Invariant t) (open_ : t.closedWithError = false) (busy : t.writeState ≠ .idle)
  (empty : t.streamMap.size = 0)
include inv open_ busy empty

theorem closeNoted_close : CloseNoted t True t.closeTransportLocked := by
  rw [closeTransportLocked_of_empty inv empty, finishClose_of_busy open_ busy]
  refine ⟨⟨rfl, rfl, rfl, rfl, rfl, rfl, rfl, rfl⟩, open_, rfl, ?_⟩
  exact ⟨fun _ => .inl trivial, fun _ => rfl⟩

theorem closeNoted_goaway : CloseNoted t (t.sentGoawayState = .sendScheduled) t.noteGoawaySent := by
  unfold noteGoawaySent
  split_ifs with scheduled
  · have inv' := preserved_invariant.setSentGoawayState .sent inv
    have noted := closeNoted_close inv' open_ busy empty
    refine ⟨⟨noted.streams, noted.streamMap, noted.waitingForConcurrency, noted.nextStreamId,
      noted.peerSettings, noted.goawayError, noted.requested, noted.started⟩, noted.isOpen,
      noted.writeState, ?_⟩
    exact noted.delayed.trans ⟨fun _ => .inl scheduled, fun _ => .inl trivial⟩
  · refine ⟨⟨rfl, rfl, rfl, rfl, rfl, rfl, rfl, rfl⟩, open_, rfl, ?_⟩
    simp only [scheduled, false_or]

end

theorem CloseNoted.stranded {reason : Prop} (noted : CloseNoted t reason t')
    (open_ : t.closedWithError = false) : Stranded t' ↔ Stranded t := by
  unfold Stranded
  rw [noted.isOpen, open_, noted.streamMap, noted.waitingForConcurrency]

/-- A transport that has more to write goes on writing. -/
theorem noneAbandoned_moreToWrite {t : ClientTransport} (busy : Busy 2 t) :
    NoneAbandoned (match t.writeState with
      | .idle => t
      | .writing => t.setWriteStateIdle
      | .writingWithMore => t.setWriteState .writing) := by
  have more : t.writeState = .writingWithMore := by
    have bound := busy.2
    cases state : t.writeState with
    | idle | writing =>
      rw [state] at bound
      exact absurd bound (by decide)
    | writingWithMore => rfl
  rw [more]
  exact noneAbandoned_of_open busy.1

section

variable (inv : Invariant t) (open_ : t.closedWithError = false) (busy : t.writeState ≠ .idle)
include inv open_ busy

theorem closeNoted_end (empty : t.streamMap.size = 0) (error : Bool) :
    CloseNoted t (error = true ∨ t.sentGoawayState = .sendScheduled)
      (if error then t.closeTransportLocked.noteGoawaySent else t.noteGoawaySent) := by
  cases error with
  | false =>
    have noted := closeNoted_goaway inv open_ busy empty
    refine ⟨noted.toSameStreams, noted.isOpen, noted.writeState, noted.delayed.trans ?_⟩
    simp
  | true =>
    have first := closeNoted_close inv open_ busy empty
    have inv' := preserved_invariant.closeTransportLocked inv
    have second := closeNoted_goaway inv' first.isOpen
      (fun idle => busy (first.writeState.symm.trans idle)) (first.streamMap ▸ empty)
    refine ⟨?_, second.isOpen, second.writeState.trans first.writeState, ?_⟩
    · exact ⟨second.streams.trans first.streams, second.streamMap.trans first.streamMap,
        second.waitingForConcurrency.trans first.waitingForConcurrency,
        second.nextStreamId.trans first.nextStreamId,
        second.peerSettings.trans first.peerSettings,
        second.goawayError.trans first.goawayError,
        second.requested.trans first.requested, second.started.trans first.started⟩
    · refine second.delayed.trans ?_
      rw [first.delayed]
      simp

/-- The write was the last one to wait for: the transport had been asked to close,
or the write failed, or it carried our GOAWAY and no stream is left. -/
theorem noneAbandoned_writeActionEnd (error : Bool) : NoneAbandoned (t.writeActionEndLocked error) ↔
      ¬(t.writeState = .writing ∧ (error = true ∨ t.sentGoawayState = .sendScheduled ∨
        t.closeTransportOnWritesFinished = true) ∧ Stranded t) := by
  unfold writeActionEndLocked
  dsimp only
  cases state : t.writeState with
  | idle => exact absurd state busy
  | writingWithMore =>
    have level : Busy 2 t := ⟨open_, by rw [state]; exact Nat.le_refl 2⟩
    have noted : Busy 2 (if error = true then t.closeTransportLocked.noteGoawaySent
        else t.noteGoawaySent) := by
      split_ifs
      · exact busy_noteGoawaySent (busy_closeTransportLocked level)
      · exact busy_noteGoawaySent level
    refine ⟨?_, fun _ => noneAbandoned_moreToWrite noted⟩
    rintro - ⟨notMore, -⟩
    exact absurd notMore (by decide)
  | writing =>
    by_cases empty : t.streamMap.size = 0
    · have noted := closeNoted_end inv open_ busy empty error
      have inv' := inv.sameStreams noted.toSameStreams
      rw [noted.writeState, state]
      refine (noneAbandoned_setWriteStateIdle inv' noted.isOpen).trans ?_
      rw [noted.delayed, noted.stranded open_]
      simp only [true_and, or_assoc]
    · have notStranded : ¬Stranded t := fun stranded => empty stranded.2.1
      refine ⟨fun _ ends => notStranded ends.2.2, fun _ => ?_⟩
      cases error with
      | true =>
        have mapped := busy_closeTransportLocked_of_mapped inv open_ empty
        rw [state] at mapped
        exact noneAbandoned_moreToWrite (busy_noteGoawaySent mapped)
      | false =>
        have same : t.noteGoawaySent = t ∨ t.noteGoawaySent = t.setSentGoawayState .sent := by
          unfold noteGoawaySent
          split_ifs
          · exact .inr rfl
          · exact .inl rfl
        rcases same with eq | eq
        · simp only [Bool.false_eq_true, if_false, eq, state]
          exact (noneAbandoned_setWriteStateIdle inv open_).mpr fun both => notStranded both.2
        · have inv' := preserved_invariant.setSentGoawayState .sent inv
          simp only [Bool.false_eq_true, if_false, eq]
          rw [show (t.setSentGoawayState .sent).writeState = .writing from state]
          exact (noneAbandoned_setWriteStateIdle inv' open_).mpr
            fun both => notStranded both.2

end

/-- The transport is not closed over the streams that wait: a close that runs to its
end with an empty map finds none, and no stream waits when the last stream of the
map ends after a GOAWAY was sent. -/
def ForgetsNone (t : ClientTransport) : Action → Prop
  | .closeTransport => ¬(t.writeState = .idle ∧ Stranded t)
  | .writeActionBegin result =>
    ¬(result.writing = false ∧ t.closeTransportOnWritesFinished = true ∧ Stranded t)
  | .writeActionEnd error =>
    ¬(t.writeState = .writing ∧ (error = true ∨ t.sentGoawayState = .sendScheduled ∨
      t.closeTransportOnWritesFinished = true) ∧ Stranded t)
  | .markStreamClosed s closeReads closeWrites =>
    ¬(t.closedWithError = false ∧ t.EndsLastStream s closeReads closeWrites ∧
      t.goawayError = false ∧ t.waitingForConcurrency ≠ [])
  | _ => True

theorem forgetsNone_of_closed (closed : t.closedWithError = true) (action : Action) :
    t.ForgetsNone action := by
  have notOpen : t.closedWithError ≠ false := by
    rw [closed]
    exact fun eq => Bool.false_ne_true eq.symm
  cases action with
  | closeTransport => exact fun both => notOpen both.2.1
  | writeActionBegin => exact fun all => notOpen all.2.2.1
  | writeActionEnd => exact fun all => notOpen all.2.2.1
  | markStreamClosed => exact fun all => notOpen all.1
  | _ => trivial

theorem noneAbandoned_open_step (inv : Invariant t) (open_ : t.closedWithError = false)
    (taken : t.step action = some t') : NoneAbandoned t' ↔ t.ForgetsNone action := by
  have harmless : t'.closedWithError = false → (NoneAbandoned t' ↔ True) :=
    fun open' => iff_true_intro (noneAbandoned_of_open open')
  cases action with
  | sendInitialMetadata s =>
    obtain ⟨-, rfl⟩ := Machine.guarded_taken taken
    apply harmless
    exact open_sendInitialMetadata open_ s
  | initiateWrite =>
    apply harmless
    rw [← Option.some.inj taken]
    exact (sameControl_initiateWrite t).closedWithError.trans open_
  | cancelStream s =>
    apply harmless
    rw [← Option.some.inj taken]
    exact open_cancelStream open_ s
  | markStreamClosed s closeReads closeWrites =>
    rw [← Option.some.inj taken]
    refine (noneAbandoned_markStreamClosed inv open_ s closeReads closeWrites).trans ?_
    simp only [ForgetsNone, open_, true_and]
  | settings | goaway =>
    apply harmless
    rw [← Option.some.inj taken]
    exact open_
  | sendGoaway =>
    apply harmless
    rw [← Option.some.inj taken]
    exact (sameControl_initiateWrite _).closedWithError.trans open_
  | destructiveReclaimer =>
    apply harmless
    rw [← Option.some.inj taken]
    unfold destructiveReclaimerLocked
    dsimp only
    split
    · apply open_cancelStream
      exact open_
    · exact open_
  | closeTransport =>
    rw [← Option.some.inj taken]
    by_cases idle : t.writeState = .idle
    · refine (noneAbandoned_close_idle inv open_ idle).trans ?_
      simp only [ForgetsNone, idle, true_and]
    · have busy := busy_of_not_idle open_ idle
      refine ⟨fun _ both => idle both.1, fun _ => ?_⟩
      exact noneAbandoned_of_open (busy_closeTransportLocked busy).1
  | writeActionBegin result =>
    obtain ⟨busy, rfl⟩ := Machine.guarded_taken taken
    exact noneAbandoned_writeActionBegin inv open_ busy result
  | writeActionEnd error =>
    obtain ⟨busy, rfl⟩ := Machine.guarded_taken taken
    exact noneAbandoned_writeActionEnd inv open_ busy error

theorem noneAbandoned_step (inv : Invariant t) (good : NoneAbandoned t)
    (taken : t.step action = some t') : NoneAbandoned t' ↔ t.ForgetsNone action := by
  cases closed : t.closedWithError with
  | false => exact noneAbandoned_open_step inv closed taken
  | true =>
    obtain ⟨empty, noneWaiting⟩ := good closed
    have dead := dead_step ⟨inv, closed, empty, noneWaiting⟩ taken
    refine ⟨fun _ => forgetsNone_of_closed closed action, fun _ _ => ?_⟩
    exact ⟨dead.empty, dead.noneWaiting⟩

/-- A run of a client abandons no stream in any of its states exactly when no step
closes the transport over streams that wait. The streams of the map are never
abandoned by the loop that changes the map under itself. -/
theorem abandons_none_iff (actions : List Action) (t : ClientTransport) :
    Machine.Run step ForgetsNone {} actions t ↔
      Machine.Reach step {} actions t ∧
        ∀ done later, actions = done ++ later → ∀ middle, Machine.Reach step {} done middle →
          NoneAbandoned middle :=
  Machine.Run.iff_always invariant_step noneAbandoned_step invariant_default
    (noneAbandoned_of_open rfl) actions t

/-- A stream waits for a peer that allows none, and the transport is closed. -/
theorem close_abandons_waiting : ∃ actions t, Machine.Reach step {} actions t ∧
    ¬NoneAbandoned t := by
  refine ⟨[.settings { maxConcurrentStreams := 0 }, .sendInitialMetadata 0, .closeTransport], _,
    .cons trivial rfl (.cons trivial rfl (.cons trivial rfl (.nil _))), ?_⟩
  intro none
  exact absurd (none (by decide)).2 (by decide)

end GrpcCore.Transport.ClientTransport
