import GrpcCore.Transport.ClientStreams
import GrpcCore.Transport.SettingsFrame

/-!
# Induced frames

A peer makes the transport answer: SETTINGS and PING frames are acknowledged, streams are
reset. With too many answers unwritten the transport stops reading, and the write that
takes them resumes it. Not every answer initiates that write.
-/

namespace GrpcCore.Transport

open Hpack MachineInt

/-- `DEFAULT_MAX_PENDING_INDUCED_FRAMES`. -/
def maxPendingInducedFrames : Nat := 10000

def Host.recording {World : Type} (host : Host World) : Host (World × List FrameAction) where
  acceptStream world := host.acceptStream world.1
  recvData header r world := (host.recvData header r world.1).map fun rest => (rest, world.2)
  act action r world :=
    let (r, rest) := host.act action r world.1
    (r, rest, world.2 ++ [action])

/-- What the rest of the transport does to its writes: it initiates one, alone, behind
frames that it has queued, or behind a RST_STREAM frame. -/
inductive WriteCause where
  | initiateWrite
  | queued (slices : Nat)
  | rstStream
deriving DecidableEq

/-- The transport as far as answers to the peer are concerned. `writeScheduled` says that
`write_action_begin_locked` is going to run, and `qbuf` is the number of slices in it. -/
structure AnsweringTransport (World : Type) where
  deframer : Deframer (World × List FrameAction)
  disablePingAck : Bool := false
  writeState : WriteState := .writing
  writeScheduled : Bool := true
  qbuf : Nat := 0
  pingAcks : List Nat := []
  numPendingInducedFrames : Nat := 0
  readingPausedOnPendingInducedFrames : Bool := false
  endpointReading : Bool := true
  closeTransportOnWritesFinished : Bool := false
  closedWithError : Bool := false

/-- What the rest of the transport does during a read: what it writes, whether it is
asked to close, with what ending its calls writes, how many streams wait for a larger
initial window, and whether flow control writes when reading goes on. -/
structure ReadSurroundings where
  error : Bool := false
  causes : List WriteCause := []
  close : Option (List WriteCause) := none
  stalledByStream : Nat := 0
  endedCalls : List WriteCause := []
  flowControl : Bool := false

/-- What else there is to write, whether it is too much for one write, how often
`grpc_chttp2_initiate_write` is called meanwhile, what ending the calls of a transport
that closes writes, and what flow control does when reading is resumed. -/
structure WriteSurroundings where
  other : Bool := false
  isPartial : Bool := false
  initiated : Nat := 0
  endedCalls : List WriteCause := []
  flowControl : Bool := false

namespace AnsweringTransport

variable {World : Type}

def initiateWrite (t : AnsweringTransport World) : AnsweringTransport World :=
  match t.writeState with
  | .idle => { t with writeState := .writing, writeScheduled := true }
  | .writing => { t with writeState := .writingWithMore }
  | .writingWithMore => t

def induceFrame (t : AnsweringTransport World) : AnsweringTransport World :=
  { t with numPendingInducedFrames := uint32 (t.numPendingInducedFrames + 1) }

def addRstStreamToNextWrite (t : AnsweringTransport World) : AnsweringTransport World :=
  { t.induceFrame with qbuf := t.qbuf + 1 }

def addPingAck (t : AnsweringTransport World) (opaque8Bytes : Nat) : AnsweringTransport World :=
  { t.induceFrame with pingAcks := t.pingAcks ++ [opaque8Bytes] }

/-- The answer to a frame. That of a PING frame initiates a write. -/
def answer (t : AnsweringTransport World) : FrameAction → AnsweringTransport World
  | .settingsReceived => { t.induceFrame with qbuf := t.qbuf + 1 }
  | .settingsRefused _ => { t with qbuf := t.qbuf + 1 }
  | .pingReceived opaque8Bytes =>
    if t.disablePingAck then t else (t.addPingAck opaque8Bytes).initiateWrite
  | .dataRefused _ => t.addRstStreamToNextWrite
  | _ => t

def causeWrite (t : AnsweringTransport World) : WriteCause → AnsweringTransport World
  | .initiateWrite => t.initiateWrite
  | .queued slices => { t with qbuf := t.qbuf + slices }.initiateWrite
  | .rstStream => t.addRstStreamToNextWrite.initiateWrite

def causeWrites (t : AnsweringTransport World) (causes : List WriteCause) :
    AnsweringTransport World :=
  causes.foldl causeWrite t

/-- The calls are ended first. A write puts the rest off. -/
def closeTransportLocked (t : AnsweringTransport World) (endedCalls : List WriteCause) :
    AnsweringTransport World :=
  let t := t.causeWrites endedCalls
  if t.closedWithError then t
  else if t.writeState ≠ .idle then { t with closeTransportOnWritesFinished := true }
  else { t with closedWithError := true }

/-- `set_write_state` to idle, which is when a close that was put off is made. -/
def setWriteStateIdle (t : AnsweringTransport World) (endedCalls : List WriteCause) :
    AnsweringTransport World :=
  if t.closeTransportOnWritesFinished then
    { t with writeState := .idle, closeTransportOnWritesFinished := false }.closeTransportLocked
      endedCalls
  else { t with writeState := .idle }

def continueReadActionLocked (t : AnsweringTransport World) (flowControl : Bool) :
    AnsweringTransport World :=
  if flowControl then t.initiateWrite else t

/-- The slices of the read buffer, up to the first error. -/
def performReads (host : Host World) (t : AnsweringTransport World) (slices : List Bytes) :
    Option FrameError × Deframer (World × List FrameAction) :=
  { t.deframer with
    frames := { t.deframer.frames with world := (t.deframer.frames.world.1, []) } }.performReads
      host.recording slices

def received (host : Host World) (t : AnsweringTransport World) (slices : List Bytes) :
    List FrameAction :=
  (t.performReads host slices).2.frames.world.2

/-- The part of `read_action_locked` that parses: the frames are answered, and a larger
initial window makes streams writable. -/
def parseReads (host : Host World) (t : AnsweringTransport World) (slices : List Bytes)
    (surroundings : ReadSurroundings) : AnsweringTransport World :=
  let (_, deframer) := t.performReads host slices
  let t := ((t.received host slices).foldl answer { t with deframer }).causeWrites
    surroundings.causes
  let t := match surroundings.close with
    | none => t
    | some endedCalls => t.closeTransportLocked endedCalls
  let t :=
    if 0 < deframer.frames.initialWindowUpdate then
      t.causeWrites (List.replicate surroundings.stalledByStream .initiateWrite)
    else t
  { t with deframer := { deframer with frames := { deframer.frames with initialWindowUpdate := 0 } } }

def readActionLocked (host : Host World) (t : AnsweringTransport World) (slices : List Bytes)
    (surroundings : ReadSurroundings) : AnsweringTransport World :=
  let failed := surroundings.error || (t.performReads host slices).1.isSome
  let t := t.parseReads host slices surroundings
  if failed || t.closedWithError then
    { t.closeTransportLocked surroundings.endedCalls with endpointReading := false }
  else if maxPendingInducedFrames ≤ t.numPendingInducedFrames then
    { t with readingPausedOnPendingInducedFrames := true }
  else t.continueReadActionLocked surroundings.flowControl

/-- `grpc_chttp2_begin_write`, of a transport that is not closed: the acknowledgements
and what has been queued go first. -/
def beginWrite (t : AnsweringTransport World) (surroundings : WriteSurroundings) :
    Bool × AnsweringTransport World :=
  (0 < t.qbuf || !t.pingAcks.isEmpty || surroundings.other,
    { t with qbuf := 0, pingAcks := [], numPendingInducedFrames := 0 }.causeWrites
      (List.replicate surroundings.initiated .initiateWrite))

/-- `none` is an assertion that fails. -/
def writeActionBeginLocked (t : AnsweringTransport World) (surroundings : WriteSurroundings) :
    Option (AnsweringTransport World) :=
  if t.writeState = .idle then none
  else
    let (writing, t) := { t with writeScheduled := false }.beginWrite surroundings
    if writing then
      let t := { t with writeState := if surroundings.isPartial then .writingWithMore else .writing }
      if t.readingPausedOnPendingInducedFrames then
        if t.numPendingInducedFrames = 0 then
          some ({ t with readingPausedOnPendingInducedFrames := false }.continueReadActionLocked
            surroundings.flowControl)
        else none
      else some t
    else some (t.setWriteStateIdle surroundings.endedCalls)

/-- The transport is closed when the write has failed, or when a GOAWAY frame has been
written and there are no streams. -/
def writeActionEndLocked (t : AnsweringTransport World) (close : Option (List WriteCause))
    (endedCalls : List WriteCause) : Option (AnsweringTransport World) :=
  let t := match close with
    | none => t
    | some endedCalls => t.closeTransportLocked endedCalls
  match t.writeState with
  | .idle => none
  | .writing => some (t.setWriteStateIdle endedCalls)
  | .writingWithMore => some { t with writeState := .writing, writeScheduled := true }

end AnsweringTransport

/-- Steps of a run. `perform` is anything else that runs under the transport's combiner: it
changes what frames see of the transport, and writes. -/
inductive AnsweringAction (World : Type) where
  | readAction (slices : List Bytes) (surroundings : ReadSurroundings)
  | writeActionBegin (surroundings : WriteSurroundings)
  | writeActionEnd (close : Option (List WriteCause)) (endedCalls : List WriteCause)
  | perform (change : Frames (World × List FrameAction) → Frames (World × List FrameAction))
      (causes : List WriteCause)
  | closeTransport (endedCalls : List WriteCause)

namespace AnsweringTransport

variable {World : Type}

/-- A step of a transport that is open. -/
def step (host : Host World) (t : AnsweringTransport World) :
    AnsweringAction World → Option (AnsweringTransport World)
  | .readAction slices surroundings =>
    if t.closedWithError = false ∧ t.endpointReading = true ∧
        t.readingPausedOnPendingInducedFrames = false then
      some (t.readActionLocked host slices surroundings)
    else none
  | .writeActionBegin surroundings =>
    if t.closedWithError = false ∧ t.writeScheduled = true then
      t.writeActionBeginLocked surroundings
    else none
  | .writeActionEnd close endedCalls =>
    if t.closedWithError = false ∧ t.writeScheduled = false ∧ t.writeState ≠ .idle then
      t.writeActionEndLocked close endedCalls
    else none
  | .perform change causes =>
    if t.closedWithError = false then
      some ({ t with deframer := { t.deframer with frames := change t.deframer.frames } }.causeWrites
        causes)
    else none
  | .closeTransport endedCalls =>
    if t.closedWithError = false then some (t.closeTransportLocked endedCalls) else none

def induces (disablePingAck : Bool) : FrameAction → Bool
  | .settingsReceived => true
  | .pingReceived _ => !disablePingAck
  | .dataRefused _ => true
  | _ => false

def initiates (disablePingAck : Bool) : FrameAction → Bool
  | .pingReceived _ => !disablePingAck
  | _ => false

/-- A write that is scheduled has begun, and there is something to write while induced
frames are counted or reading is paused. -/
structure Invariant (t : AnsweringTransport World) : Prop where
  scheduled : t.writeScheduled = true → t.writeState ≠ .idle
  small : t.numPendingInducedFrames < 4294967296
  queued : t.numPendingInducedFrames ≠ 0 ∨ t.readingPausedOnPendingInducedFrames = true →
    0 < t.qbuf ∨ t.pingAcks ≠ []

/-- Frames are queued and writes initiated. -/
structure Answers (t t' : AnsweringTransport World) : Prop where
  disablePingAck : t'.disablePingAck = t.disablePingAck
  paused : t'.readingPausedOnPendingInducedFrames = t.readingPausedOnPendingInducedFrames
  delayed : t'.closeTransportOnWritesFinished = t.closeTransportOnWritesFinished
  closedWithError : t'.closedWithError = t.closedWithError
  busy : t.writeState ≠ .idle → t'.writeState ≠ .idle
  scheduled : t.writeState ≠ .idle → t'.writeScheduled = t.writeScheduled
  invariant : t.Invariant → t'.Invariant

theorem Answers.refl (t : AnsweringTransport World) : Answers t t :=
  ⟨rfl, rfl, rfl, rfl, id, fun _ => rfl, id⟩

theorem Answers.trans {t t' t'' : AnsweringTransport World} (first : Answers t t')
    (second : Answers t' t'') : Answers t t'' :=
  ⟨second.disablePingAck.trans first.disablePingAck, second.paused.trans first.paused,
    second.delayed.trans first.delayed, second.closedWithError.trans first.closedWithError,
    fun busy => second.busy (first.busy busy),
    fun busy => (second.scheduled (first.busy busy)).trans (first.scheduled busy),
    fun inv => second.invariant (first.invariant inv)⟩

theorem Answers.foldl {Item : Type} {act : AnsweringTransport World → Item → AnsweringTransport World}
    (answers : ∀ t item, Answers t (act t item)) (items : List Item) (t : AnsweringTransport World) :
    Answers t (items.foldl act t) := by
  induction items generalizing t with
  | nil => exact .refl t
  | cons item items ih => exact (answers t item).trans (ih (act t item))

section

variable (t : AnsweringTransport World)
include t

theorem initiateWrite_busy : t.initiateWrite.writeState ≠ .idle := by
  unfold initiateWrite
  split
  · exact WriteState.noConfusion
  · exact WriteState.noConfusion
  · simp_all

theorem answers_initiateWrite : Answers t t.initiateWrite := by
  unfold initiateWrite
  split
  · rename_i idle
    exact ⟨rfl, rfl, rfl, rfl, fun _ => WriteState.noConfusion, fun busy => absurd idle busy,
      fun inv => ⟨fun _ => WriteState.noConfusion, inv.small, inv.queued⟩⟩
  · exact ⟨rfl, rfl, rfl, rfl, fun _ => WriteState.noConfusion, fun _ => rfl, fun inv =>
      ⟨fun _ => WriteState.noConfusion, inv.small, inv.queued⟩⟩
  · exact .refl t

theorem answers_queue (slices : Nat) : Answers t { t with qbuf := t.qbuf + slices } := by
  refine ⟨rfl, rfl, rfl, rfl, id, fun _ => rfl, fun inv =>
    ⟨inv.scheduled, inv.small, fun some => ?_⟩⟩
  exact (inv.queued some).imp_left fun more => Nat.lt_of_lt_of_le more (Nat.le_add_right _ _)

theorem answers_induceFrame (qbuf : Nat) (pingAcks : List Nat) (queued : 0 < qbuf ∨ pingAcks ≠ []) :
    Answers t { t.induceFrame with qbuf, pingAcks } := by
  refine ⟨rfl, rfl, rfl, rfl, id, fun _ => rfl, fun inv =>
    ⟨inv.scheduled, ?_, fun _ => queued⟩⟩
  simp only [induceFrame]
  exact uint32_lt _

theorem answers_addRstStream : Answers t t.addRstStreamToNextWrite :=
  answers_induceFrame t (t.qbuf + 1) t.pingAcks (.inl (Nat.succ_pos _))

theorem answers_answer (action : FrameAction) : Answers t (t.answer action) := by
  cases action with
  | settingsReceived => exact answers_addRstStream t
  | settingsRefused => exact answers_queue t 1
  | dataRefused => exact answers_addRstStream t
  | pingReceived opaque8Bytes =>
    simp only [answer]
    split_ifs
    · exact .refl t
    · have queued : Answers t (t.addPingAck opaque8Bytes) :=
        answers_induceFrame t t.qbuf (t.pingAcks ++ [opaque8Bytes]) (.inr (by simp))
      exact queued.trans (answers_initiateWrite _)
  | _ => exact .refl t

theorem answers_causeWrite (cause : WriteCause) : Answers t (t.causeWrite cause) := by
  cases cause with
  | initiateWrite => exact answers_initiateWrite t
  | queued slices => exact (answers_queue t slices).trans (answers_initiateWrite _)
  | rstStream => exact (answers_addRstStream t).trans (answers_initiateWrite _)

theorem answers_causeWrites (causes : List WriteCause) : Answers t (t.causeWrites causes) :=
  .foldl answers_causeWrite causes t

theorem causeWrite_busy (cause : WriteCause) : (t.causeWrite cause).writeState ≠ .idle := by
  cases cause <;> exact initiateWrite_busy _

theorem causeWrites_busy {causes : List WriteCause} (some : causes ≠ []) :
    (t.causeWrites causes).writeState ≠ .idle := by
  cases causes with
  | nil => exact absurd rfl some
  | cons cause causes => exact (answers_causeWrites _ causes).busy (t.causeWrite_busy cause)

theorem idle_answer (action : FrameAction) : (t.answer action).writeState = .idle ↔
      t.writeState = .idle ∧ initiates t.disablePingAck action = false := by
  cases action with
  | pingReceived =>
    simp only [answer]
    split_ifs with disabled
    · simp [initiates, disabled]
    · refine iff_of_false (initiateWrite_busy _) ?_
      simp [initiates, disabled]
  | _ => simp [answer, initiates, induceFrame, addRstStreamToNextWrite]

end

theorem idle_answers (actions : List FrameAction) (t : AnsweringTransport World) :
    (actions.foldl answer t).writeState = .idle ↔
      t.writeState = .idle ∧ ∀ action ∈ actions, initiates t.disablePingAck action = false := by
  induction actions generalizing t with
  | nil => simp
  | cons action actions ih =>
    rw [List.foldl_cons, ih, idle_answer, (t.answers_answer action).disablePingAck,
      List.forall_mem_cons, and_assoc]

theorem numPendingInducedFrames_initiateWrite (t : AnsweringTransport World) :
    t.initiateWrite.numPendingInducedFrames = t.numPendingInducedFrames := by
  unfold initiateWrite
  split <;> rfl

theorem numPendingInducedFrames_answer (t : AnsweringTransport World) (action : FrameAction) :
    (t.answer action).numPendingInducedFrames =
      if induces t.disablePingAck action then uint32 (t.numPendingInducedFrames + 1)
      else t.numPendingInducedFrames := by
  cases action with
  | pingReceived =>
    by_cases disabled : t.disablePingAck = true
    · simp [answer, induces, disabled]
    · simp [answer, induces, disabled, numPendingInducedFrames_initiateWrite, addPingAck,
        induceFrame]
  | _ => simp [answer, induces, induceFrame, addRstStreamToNextWrite]

theorem numPendingInducedFrames_answers (actions : List FrameAction) (t : AnsweringTransport World)
    (inv : t.Invariant) :
    (actions.foldl answer t).numPendingInducedFrames =
      uint32 (t.numPendingInducedFrames + actions.countP (induces t.disablePingAck)) := by
  induction actions generalizing t with
  | nil =>
    have small := inv.small
    simp only [List.foldl_nil, List.countP_nil, uint32]
    omega
  | cons action actions ih =>
    have answers := t.answers_answer action
    rw [List.foldl_cons, ih _ (answers.invariant inv), numPendingInducedFrames_answer,
      answers.disablePingAck, List.countP_cons]
    split
    · simp only [uint32]
      omega
    · rfl

structure Closes (t t' : AnsweringTransport World) : Prop where
  paused : t'.readingPausedOnPendingInducedFrames = t.readingPausedOnPendingInducedFrames
  closing : t'.closedWithError = true ∨ t'.writeState ≠ .idle
  invariant : t.Invariant → t'.Invariant

theorem closes_closeTransportLocked (t : AnsweringTransport World) (endedCalls : List WriteCause) :
    Closes t (t.closeTransportLocked endedCalls) := by
  have answers := t.answers_causeWrites endedCalls
  unfold closeTransportLocked
  dsimp only
  split_ifs with closed busy
  · exact ⟨answers.paused, .inl closed, answers.invariant⟩
  · refine ⟨answers.paused, .inr busy, fun inv => ?_⟩
    obtain ⟨scheduled, small, queued⟩ := answers.invariant inv
    exact ⟨scheduled, small, queued⟩
  · refine ⟨answers.paused, .inl rfl, fun inv => ?_⟩
    obtain ⟨scheduled, small, queued⟩ := answers.invariant inv
    exact ⟨scheduled, small, queued⟩

theorem setWriteStateIdle_cases (t : AnsweringTransport World) (endedCalls : List WriteCause)
    (unscheduled : t.writeScheduled = false) (inv : t.Invariant) :
    (t.setWriteStateIdle endedCalls).Invariant ∧
      (t.setWriteStateIdle endedCalls).readingPausedOnPendingInducedFrames =
        t.readingPausedOnPendingInducedFrames ∧
      if t.closeTransportOnWritesFinished then
        (t.setWriteStateIdle endedCalls).closedWithError = true ∨
          (t.setWriteStateIdle endedCalls).writeState ≠ .idle
      else
        (t.setWriteStateIdle endedCalls).closedWithError = t.closedWithError ∧
          (t.setWriteStateIdle endedCalls).writeState = .idle := by
  have idle : ∀ delayed, Invariant
      { t with writeState := .idle, closeTransportOnWritesFinished := delayed } := by
    intro delayed
    refine ⟨fun scheduled => ?_, inv.small, inv.queued⟩
    rw [unscheduled] at scheduled
    cases scheduled
  unfold setWriteStateIdle
  split_ifs with delayed
  · have closes := closes_closeTransportLocked
      { t with writeState := .idle, closeTransportOnWritesFinished := false } endedCalls
    exact ⟨closes.invariant (idle false), closes.paused, closes.closing⟩
  · exact ⟨idle t.closeTransportOnWritesFinished, rfl, rfl, rfl⟩

/-- Nothing that happens during a read initiates a write or closes the transport. -/
structure Silent (host : Host World) (t : AnsweringTransport World) (slices : List Bytes)
    (surroundings : ReadSurroundings) : Prop where
  frames : ∀ action ∈ t.received host slices, initiates t.disablePingAck action = false
  causes : surroundings.causes = []
  close : surroundings.close = none
  window : 0 < (t.performReads host slices).2.frames.initialWindowUpdate →
    surroundings.stalledByStream = 0

section Reads

variable {host : Host World} {t : AnsweringTransport World} {slices : List Bytes}
  {surroundings : ReadSurroundings}

def answered (host : Host World) (t : AnsweringTransport World) (slices : List Bytes) :
    AnsweringTransport World :=
  (t.received host slices).foldl answer { t with deframer := (t.performReads host slices).2 }

theorem answers_answered (host : Host World) (t : AnsweringTransport World) (slices : List Bytes) :
    Answers t (t.answered host slices) := by
  have deframed : Answers t { t with deframer := (t.performReads host slices).2 } :=
    ⟨rfl, rfl, rfl, rfl, id, fun _ => rfl, fun inv => ⟨inv.scheduled, inv.small, inv.queued⟩⟩
  exact deframed.trans (.foldl answers_answer _ _)

def surrounded (t : AnsweringTransport World) (surroundings : ReadSurroundings) :
    AnsweringTransport World :=
  match surroundings.close with
  | none => t.causeWrites surroundings.causes
  | some endedCalls => (t.causeWrites surroundings.causes).closeTransportLocked endedCalls

def unstalled (t : AnsweringTransport World) (initialWindowUpdate : Int) (stalledByStream : Nat) :
    AnsweringTransport World :=
  if 0 < initialWindowUpdate then
    t.causeWrites (List.replicate stalledByStream .initiateWrite)
  else t

theorem parseReads_eq (host : Host World) (t : AnsweringTransport World) (slices : List Bytes)
    (surroundings : ReadSurroundings) :
    ∃ deframer, t.parseReads host slices surroundings =
      { ((t.answered host slices).surrounded surroundings).unstalled
          (t.performReads host slices).2.frames.initialWindowUpdate surroundings.stalledByStream with
        deframer } := by
  cases surroundings.close with
  | none => exact ⟨_, rfl⟩
  | some => exact ⟨_, rfl⟩

def Stirs (t : AnsweringTransport World) : Prop := t.closedWithError = true ∨ t.writeState ≠ .idle

theorem Answers.stirs {t t' : AnsweringTransport World} (answers : Answers t t')
    (stirs : t.Stirs) : t'.Stirs :=
  stirs.imp (fun closed => answers.closedWithError.trans closed) answers.busy

theorem answers_unstalled (t : AnsweringTransport World) (initialWindowUpdate : Int)
    (stalledByStream : Nat) : Answers t (t.unstalled initialWindowUpdate stalledByStream) := by
  unfold unstalled
  split_ifs
  · exact answers_causeWrites t _
  · exact .refl t

theorem surrounded_stirs (t : AnsweringTransport World) (surroundings : ReadSurroundings)
    (stirs : t.Stirs ∨ surroundings.causes ≠ [] ∨ surroundings.close ≠ none) :
    (t.surrounded surroundings).Stirs := by
  have answers := t.answers_causeWrites surroundings.causes
  unfold surrounded
  split
  · rename_i open_
    rcases stirs with before | caused | closed
    · exact answers.stirs before
    · exact .inr (t.causeWrites_busy caused)
    · exact absurd open_ closed
  · exact (closes_closeTransportLocked _ _).closing

theorem unstalled_stirs (t : AnsweringTransport World) {initialWindowUpdate : Int}
    {stalledByStream : Nat}
    (stirs : t.Stirs ∨ (0 < initialWindowUpdate ∧ stalledByStream ≠ 0)) :
    (t.unstalled initialWindowUpdate stalledByStream).Stirs := by
  rcases stirs with before | ⟨larger, some⟩
  · exact (answers_unstalled t _ _).stirs before
  · unfold unstalled
    rw [if_pos larger]
    exact .inr (t.causeWrites_busy (by simpa using some))

theorem surrounded_keeps (t : AnsweringTransport World) (surroundings : ReadSurroundings) :
    (t.surrounded surroundings).readingPausedOnPendingInducedFrames =
        t.readingPausedOnPendingInducedFrames ∧
      (t.Invariant → (t.surrounded surroundings).Invariant) := by
  have answers := t.answers_causeWrites surroundings.causes
  unfold surrounded
  split
  · exact ⟨answers.paused, answers.invariant⟩
  · rename_i endedCalls closed
    have closes := closes_closeTransportLocked (t.causeWrites surroundings.causes) endedCalls
    exact ⟨closes.paused.trans answers.paused, fun inv => closes.invariant (answers.invariant inv)⟩

theorem parseReads_keeps :
    (t.parseReads host slices surroundings).readingPausedOnPendingInducedFrames =
        t.readingPausedOnPendingInducedFrames ∧
      (t.Invariant → (t.parseReads host slices surroundings).Invariant) := by
  obtain ⟨deframer, parsed⟩ := parseReads_eq host t slices surroundings
  have answers := answers_answered host t slices
  obtain ⟨paused, invariant⟩ := surrounded_keeps (t.answered host slices) surroundings
  have unstalled := answers_unstalled ((t.answered host slices).surrounded surroundings)
    (t.performReads host slices).2.frames.initialWindowUpdate surroundings.stalledByStream
  rw [parsed]
  refine ⟨unstalled.paused.trans (paused.trans answers.paused), fun inv => ?_⟩
  obtain ⟨scheduled, small, queued⟩ := unstalled.invariant (invariant (answers.invariant inv))
  exact ⟨scheduled, small, queued⟩

theorem parseReads_stirs (loud : t.writeState ≠ .idle ∨ ¬ t.Silent host slices surroundings) :
    (t.parseReads host slices surroundings).Stirs := by
  apply unstalled_stirs
  by_cases window : 0 < (t.performReads host slices).2.frames.initialWindowUpdate ∧
      surroundings.stalledByStream ≠ 0
  · exact .inr window
  · refine .inl (surrounded_stirs _ _ ?_)
    by_cases caused : surroundings.causes = []
    · by_cases closed : surroundings.close = none
      · refine .inl (.inr fun idle => ?_)
        obtain ⟨before, quiet⟩ := (idle_answers _ _).mp idle
        rcases loud with busy | loud
        · exact busy before
        · exact loud ⟨quiet, caused, closed, fun larger => by
            by_contra some
            exact window ⟨larger, some⟩⟩
      · exact .inr (.inr closed)
    · exact .inr (.inl caused)

theorem parseReads_silent (silent : t.Silent host slices surroundings) (inv : t.Invariant) :
    (t.parseReads host slices surroundings).closedWithError = t.closedWithError ∧
      ((t.parseReads host slices surroundings).writeState = .idle ↔ t.writeState = .idle) ∧
      (t.parseReads host slices surroundings).numPendingInducedFrames =
        uint32 (t.numPendingInducedFrames +
          (t.received host slices).countP (induces t.disablePingAck)) := by
  obtain ⟨deframer, parsed⟩ := parseReads_eq host t slices surroundings
  have answers := answers_answered host t slices
  have same : ((t.answered host slices).surrounded surroundings).unstalled
      (t.performReads host slices).2.frames.initialWindowUpdate surroundings.stalledByStream =
        t.answered host slices := by
    have nothing : (t.answered host slices).surrounded surroundings = t.answered host slices := by
      simp [surrounded, silent.close, silent.causes, causeWrites]
    rw [nothing, unstalled]
    split_ifs with larger
    · rw [silent.window larger]
      rfl
    · rfl
  rw [parsed, same]
  refine ⟨answers.closedWithError, (idle_answers _ _).trans (and_iff_left silent.frames), ?_⟩
  exact numPendingInducedFrames_answers _ _ ⟨inv.scheduled, inv.small, inv.queued⟩

end Reads

/-- Reading is paused only while a write is under way or scheduled. -/
def Resumable (t : AnsweringTransport World) : Prop :=
  t.closedWithError = false → t.readingPausedOnPendingInducedFrames = true →
    t.writeState ≠ .idle

/-- A step after which nothing is going to resume reading: a read that reaches the limit
without initiating a write while none is under way, or the end of the write during which
reading was paused, if no other has been asked for meanwhile. -/
def Strands (host : Host World) (t : AnsweringTransport World) : AnsweringAction World → Prop
  | .readAction slices surroundings =>
    t.writeState = .idle ∧ t.Silent host slices surroundings ∧ surroundings.error = false ∧
      (t.performReads host slices).1 = none ∧
      maxPendingInducedFrames ≤ uint32 (t.numPendingInducedFrames +
        (t.received host slices).countP (induces t.disablePingAck))
  | .writeActionEnd close _ =>
    t.readingPausedOnPendingInducedFrames = true ∧ t.writeState = .writing ∧ close = none ∧
      t.closeTransportOnWritesFinished = false
  | _ => False

section Steps

variable {host : Host World} {t t' : AnsweringTransport World}

theorem resumable_of_reading (reading : t.readingPausedOnPendingInducedFrames = false) :
    t.Resumable := by
  intro _ paused
  rw [reading] at paused
  cases paused

theorem Stirs.busy (stirs : t.Stirs) (open_ : t.closedWithError = false) :
    t.writeState ≠ .idle := by
  refine stirs.resolve_left fun closed => ?_
  rw [open_] at closed
  cases closed

theorem Answers.resumable (answers : Answers t t') (resumable : t.Resumable) : t'.Resumable := by
  intro open_ paused
  exact answers.busy (resumable (answers.closedWithError.symm.trans open_)
    (answers.paused.symm.trans paused))

theorem answers_continueReadActionLocked (t : AnsweringTransport World) (flowControl : Bool) :
    Answers t (t.continueReadActionLocked flowControl) := by
  unfold continueReadActionLocked
  split_ifs
  · exact answers_initiateWrite _
  · exact .refl _

theorem readActionLocked_keeps (inv : t.Invariant)
    (open_ : t.closedWithError = false)
    (reading : t.readingPausedOnPendingInducedFrames = false) (slices : List Bytes)
    (surroundings : ReadSurroundings) :
    (t.readActionLocked host slices surroundings).Invariant ∧
      ((t.readActionLocked host slices surroundings).Resumable ↔
        ¬ t.Strands host (.readAction slices surroundings)) := by
  have silent := @parseReads_silent World host t slices surroundings
  have stirs := @parseReads_stirs World host t slices surroundings
  obtain ⟨paused, invariant⟩ := @parseReads_keeps World host t slices surroundings
  rw [reading] at paused
  have inv' := invariant inv
  unfold readActionLocked
  dsimp only
  split_ifs with stops full
  · -- The transport is closed, so reading is not paused.
    have closes := closes_closeTransportLocked (t.parseReads host slices surroundings)
      surroundings.endedCalls
    refine ⟨?_, iff_of_true (resumable_of_reading (closes.paused.trans paused)) ?_⟩
    · obtain ⟨scheduled, small, queued⟩ := closes.invariant inv'
      exact ⟨scheduled, small, queued⟩
    · rintro ⟨-, quiet, noError, read, -⟩
      simp [noError, read, (silent quiet inv).1, open_] at stops
  · refine ⟨⟨inv'.scheduled, inv'.small, fun _ => inv'.queued (.inl ?_)⟩, ?_, ?_⟩
    · intro none
      rw [none] at full
      cases full
    · rintro resumable ⟨idle, quiet, noError, read, many⟩
      obtain ⟨closed, same, -⟩ := silent quiet inv
      exact resumable (closed.trans open_) rfl (same.mpr idle)
    · intro notStranded
      by_cases loud : t.writeState ≠ .idle ∨ ¬ t.Silent host slices surroundings
      · exact fun open_ _ => (stirs loud).busy open_
      · rw [not_or, not_not, not_not] at loud
        obtain ⟨idle, quiet⟩ := loud
        rw [(silent quiet inv).2.2] at full
        simp only [Bool.or_eq_true, not_or, Bool.not_eq_true, Option.isSome_eq_false_iff,
          Option.isNone_iff_eq_none] at stops
        exact absurd ⟨idle, quiet, stops.1.1, stops.1.2, full⟩ notStranded
  · have answers : Answers (t.parseReads host slices surroundings)
        ((t.parseReads host slices surroundings).continueReadActionLocked
          surroundings.flowControl) := answers_continueReadActionLocked _ _
    refine ⟨answers.invariant inv',
      iff_of_true (resumable_of_reading (answers.paused.trans paused)) ?_⟩
    rintro ⟨-, quiet, -, -, many⟩
    rw [(silent quiet inv).2.2] at full
    exact full many

theorem causeWrites_initiated (count : Nat) (busy : t.writeState ≠ .idle) :
    ∃ writeState, writeState ≠ .idle ∧
      t.causeWrites (List.replicate count .initiateWrite) = { t with writeState } := by
  induction count generalizing t with
  | zero => exact ⟨t.writeState, busy, rfl⟩
  | succ count ih =>
    have once : ∃ writeState, writeState ≠ .idle ∧ t.initiateWrite = { t with writeState } := by
      refine ⟨t.initiateWrite.writeState, t.initiateWrite_busy, ?_⟩
      unfold initiateWrite
      split
      · contradiction
      · rfl
      · rfl
    obtain ⟨first, busy', initiated⟩ := once
    obtain ⟨last, busy'', rest⟩ := @ih { t with writeState := first } busy'
    refine ⟨last, busy'', ?_⟩
    rw [List.replicate_succ]
    simp only [causeWrites, List.foldl_cons, causeWrite, initiated]
    exact rest

/-- A write that is scheduled begins without a failed assertion: it takes the induced
frames, and reading is resumed. -/
theorem writeActionBeginLocked_resumes (inv : t.Invariant) (scheduled : t.writeScheduled = true)
    (surroundings : WriteSurroundings) :
    ∃ t', t.writeActionBeginLocked surroundings = some t' ∧ t'.Invariant ∧
      t'.readingPausedOnPendingInducedFrames = false := by
  have busy := inv.scheduled scheduled
  obtain ⟨writeState, -, flushed⟩ := @causeWrites_initiated World
    { t with writeScheduled := false, qbuf := 0, pingAcks := [], numPendingInducedFrames := 0 }
    surroundings.initiated busy
  have state : (if surroundings.isPartial then WriteState.writingWithMore else .writing) ≠ .idle := by
    split_ifs
    · exact WriteState.noConfusion
    · exact WriteState.noConfusion
  unfold writeActionBeginLocked beginWrite
  simp only [if_neg busy, flushed]
  by_cases writing : (decide (0 < t.qbuf) || !t.pingAcks.isEmpty || surroundings.other) = true
  · rw [if_pos writing]
    by_cases paused : t.readingPausedOnPendingInducedFrames = true
    · rw [if_pos paused, if_pos trivial]
      have answers := answers_continueReadActionLocked
        { t with
          writeScheduled := false
          qbuf := 0
          pingAcks := []
          numPendingInducedFrames := 0
          writeState := if surroundings.isPartial then .writingWithMore else .writing
          readingPausedOnPendingInducedFrames := false } surroundings.flowControl
      exact ⟨_, rfl, answers.invariant ⟨fun _ => state, by simp, by simp⟩, answers.paused⟩
    · rw [if_neg paused]
      exact ⟨_, rfl, ⟨fun _ => state, by simp, by simp [paused]⟩, eq_false_of_ne_true paused⟩
  · -- With nothing to write reading is not paused.
    rw [if_neg writing]
    have reading : t.readingPausedOnPendingInducedFrames = false := by
      by_contra paused
      rcases inv.queued (.inr (eq_true_of_ne_false paused)) with some | some
      · simp [some] at writing
      · simp [some] at writing
    have flushedInv : Invariant
        { t with
          writeState
          writeScheduled := false
          qbuf := 0
          pingAcks := []
          numPendingInducedFrames := 0 } := ⟨by simp, by simp, by simp [reading]⟩
    obtain ⟨inv', same, -⟩ := setWriteStateIdle_cases
      { t with
        writeState
        writeScheduled := false
        qbuf := 0
        pingAcks := []
        numPendingInducedFrames := 0 } surroundings.endedCalls rfl flushedInv
    exact ⟨_, rfl, inv', same.trans reading⟩

theorem closeTransportLocked_delayed (open_ : t.closedWithError = false)
    (busy : t.writeState ≠ .idle) (endedCalls : List WriteCause) :
    (t.closeTransportLocked endedCalls).closeTransportOnWritesFinished = true ∧
      (t.closeTransportLocked endedCalls).writeScheduled = t.writeScheduled ∧
      (t.closeTransportLocked endedCalls).closedWithError = false := by
  have answers := t.answers_causeWrites endedCalls
  have stillOpen : (t.causeWrites endedCalls).closedWithError = false :=
    answers.closedWithError.trans open_
  unfold closeTransportLocked
  rw [if_neg (by simp [stillOpen]), if_pos (answers.busy busy)]
  exact ⟨rfl, answers.scheduled busy, stillOpen⟩

theorem endWrite_keeps (inv : t.Invariant) (unscheduled : t.writeScheduled = false)
    (open_ : t.closedWithError = false) {endedCalls : List WriteCause}
    (taken : t.writeActionEndLocked none endedCalls = some t') :
    t'.Invariant ∧ (t'.Resumable ↔
      ¬ (t.readingPausedOnPendingInducedFrames = true ∧ t.writeState = .writing ∧
        t.closeTransportOnWritesFinished = false)) := by
  simp only [writeActionEndLocked] at taken
  split at taken
  · cases taken
  · rename_i writing
    obtain rfl := Option.some.inj taken
    obtain ⟨inv', paused, outcome⟩ := setWriteStateIdle_cases t endedCalls unscheduled inv
    refine ⟨inv', ?_⟩
    split_ifs at outcome with delayed
    · refine iff_of_true (fun open_ _ => Stirs.busy outcome open_) ?_
      rintro ⟨-, -, undelayed⟩
      rw [delayed] at undelayed
      cases undelayed
    · unfold Resumable
      rw [paused, outcome.1, outcome.2]
      simp [open_, writing, delayed]
  · rename_i more
    obtain rfl := Option.some.inj taken
    refine ⟨⟨fun _ => WriteState.noConfusion, inv.small, inv.queued⟩,
      iff_of_true (fun _ _ => WriteState.noConfusion) ?_⟩
    rintro ⟨-, writing, -⟩
    rw [more] at writing
    cases writing

theorem writeActionEndLocked_keeps (inv : t.Invariant) (open_ : t.closedWithError = false)
    (unscheduled : t.writeScheduled = false) (busy : t.writeState ≠ .idle)
    {close : Option (List WriteCause)} {endedCalls : List WriteCause}
    (taken : t.writeActionEndLocked close endedCalls = some t') :
    t'.Invariant ∧ (t'.Resumable ↔ ¬ t.Strands host (.writeActionEnd close endedCalls)) := by
  cases close with
  | none =>
    obtain ⟨inv', resumable⟩ := endWrite_keeps inv unscheduled open_ taken
    refine ⟨inv', resumable.trans (not_congr ?_)⟩
    simp [Strands]
  | some ended =>
    obtain ⟨delayed, same, stillOpen⟩ := closeTransportLocked_delayed open_ busy ended
    have closes := closes_closeTransportLocked t ended
    obtain ⟨inv', resumable⟩ := endWrite_keeps (closes.invariant inv) (same.trans unscheduled)
      stillOpen taken
    refine ⟨inv', iff_of_true (resumable.mpr ?_) ?_⟩
    · rintro ⟨-, -, undelayed⟩
      rw [delayed] at undelayed
      cases undelayed
    · rintro ⟨-, -, none, -⟩
      cases none

theorem Invariant.step (inv : t.Invariant) {action : AnsweringAction World}
    (taken : t.step host action = some t') :
    t'.Invariant ∧ (t.Resumable → (t'.Resumable ↔ ¬ t.Strands host action)) := by
  cases action with
  | readAction slices surroundings =>
    obtain ⟨⟨open_, -, reading⟩, rfl⟩ := Option.ite_some_none_eq_some.mp taken
    obtain ⟨inv', exact_⟩ := readActionLocked_keeps inv open_ reading slices surroundings
    exact ⟨inv', fun _ => exact_⟩
  | writeActionBegin surroundings =>
    obtain ⟨⟨-, scheduled⟩, taken⟩ := Option.ite_none_right_eq_some.mp taken
    obtain ⟨after, begun, inv', reading⟩ :=
      writeActionBeginLocked_resumes inv scheduled surroundings
    obtain rfl := Option.mem_unique begun taken
    exact ⟨inv', fun _ => iff_of_true (resumable_of_reading reading) id⟩
  | writeActionEnd =>
    obtain ⟨⟨open_, unscheduled, busy⟩, taken⟩ := Option.ite_none_right_eq_some.mp taken
    obtain ⟨inv', exact_⟩ := writeActionEndLocked_keeps inv open_ unscheduled busy taken
    exact ⟨inv', fun _ => exact_⟩
  | perform change causes =>
    obtain ⟨-, rfl⟩ := Option.ite_some_none_eq_some.mp taken
    have changed : Answers t
        { t with deframer := { t.deframer with frames := change t.deframer.frames } } :=
      ⟨rfl, rfl, rfl, rfl, id, fun _ => rfl, fun inv => ⟨inv.scheduled, inv.small, inv.queued⟩⟩
    have answers := changed.trans (answers_causeWrites _ causes)
    exact ⟨answers.invariant inv, fun resumable =>
      iff_of_true (answers.resumable resumable) id⟩
  | closeTransport endedCalls =>
    obtain ⟨-, rfl⟩ := Option.ite_some_none_eq_some.mp taken
    have closes := closes_closeTransportLocked t endedCalls
    exact ⟨closes.invariant inv, fun _ =>
      iff_of_true (fun open_ _ => Stirs.busy closes.closing open_) id⟩

end Steps

/-- A transport that has just been made: its first write is scheduled. -/
def started (disablePingAck : Bool) (deframer : Deframer (World × List FrameAction)) :
    AnsweringTransport World :=
  { deframer, disablePingAck }

theorem invariant_started (disablePingAck : Bool)
    (deframer : Deframer (World × List FrameAction)) :
    (started disablePingAck deframer).Invariant :=
  ⟨fun _ => WriteState.noConfusion, by simp [started], by simp [started]⟩

/-- In every run a write that is scheduled begins without a failed assertion, no induced
frame is pending then, and reading goes on; and the runs in which reading is paused only
while a write is under way or scheduled are those without a step that strands it. -/
theorem paused_reading_iff (host : Host World) (disablePingAck : Bool)
    (deframer : Deframer (World × List FrameAction)) (actions : List (AnsweringAction World))
    (t : AnsweringTransport World) :
    (Machine.Reach (step host) (started disablePingAck deframer) actions t →
      t.closedWithError = false → t.writeScheduled = true → ∀ surroundings,
        (beginWrite { t with writeScheduled := false } surroundings).2.numPendingInducedFrames = 0 ∧
        ∃ t', t.step host (.writeActionBegin surroundings) = some t' ∧
          t'.readingPausedOnPendingInducedFrames = false) ∧
    (Machine.Run (step host) (fun t action => ¬ t.Strands host action)
        (started disablePingAck deframer) actions t ↔
      Machine.Reach (step host) (started disablePingAck deframer) actions t ∧
        ∀ done later, actions = done ++ later → ∀ middle,
          Machine.Reach (step host) (started disablePingAck deframer) done middle →
            middle.Resumable) := by
  constructor
  · intro reach open_ scheduled surroundings
    have inv : t.Invariant := reach.invariant (fun inv _ taken => (inv.step taken).1)
      (invariant_started disablePingAck deframer)
    obtain ⟨writeState, -, flushed⟩ := @causeWrites_initiated World
      { t with writeScheduled := false, qbuf := 0, pingAcks := [], numPendingInducedFrames := 0 }
      surroundings.initiated (inv.scheduled scheduled)
    obtain ⟨t', begun, -, reading⟩ := writeActionBeginLocked_resumes inv scheduled surroundings
    refine ⟨?_, t', ?_, reading⟩
    · simp only [beginWrite, flushed]
    · rw [step, if_pos ⟨open_, scheduled⟩]
      exact begun
  · exact Machine.Run.iff_always (fun inv taken => (inv.step taken).1)
      (fun inv resumable taken => (inv.step taken).2 resumable)
      (invariant_started disablePingAck deframer) (fun _ _ => WriteState.noConfusion) actions t

section SettingsOnly

/-- An open and idle client that reads and has so many acknowledgements to write. -/
structure ReadsSettings (t : AnsweringTransport Unit) (pending : Nat) : Prop where
  takes : t.deframer.TakesSettings
  peerSettings : t.deframer.frames.peerSettings = {}
  writeState : t.writeState = .idle
  open_ : t.closedWithError = false
  reading : t.endpointReading = true
  pending : t.numPendingInducedFrames = pending

def emptySettings : Bytes := (settingsCreate {} {} []).1

theorem performReads_single {World : Type} {host : Host World} {d d' : Deframer World}
    {slice : Bytes} (read : d.performRead host slice = (none, d')) :
    d.performReads host [slice] = (none, d') := by
  unfold Deframer.performRead at read
  simp only [Deframer.performReads, Segments.readAll, read]

theorem performReads_emptySettings {t : AnsweringTransport Unit} {pending : Nat}
    (reads : t.ReadsSettings pending) :
    ∃ deframer : Deframer (Unit × List FrameAction),
      t.performReads Deframer.quietHost [emptySettings] = (none, deframer) ∧
        deframer.TakesSettings ∧ deframer.frames.peerSettings = {} ∧
        deframer.frames.world.2 = [.settingsReceived] := by
  obtain ⟨takes, peerSettings, -⟩ := reads
  have reset : Deframer.TakesSettings { t.deframer with
      frames :=
        { t.deframer.frames with
          world := (t.deframer.frames.world.1, ([] : List FrameAction)) } } :=
    ⟨takes.between, takes.noBlock, takes.flowControlEnabled, takes.maxFrameSize⟩
  obtain ⟨payload, p, update, read⟩ := @Deframer.performRead_settingsCreate _
    Deframer.quietHost.recording _ reset {} Settings.default_valid []
  have bytes : (settingsCreate t.deframer.frames.peerSettings {} []).1 = emptySettings := by
    rw [peerSettings]
    rfl
  rw [bytes] at read
  exact ⟨_, performReads_single read,
    ⟨rfl, takes.noBlock, takes.flowControlEnabled, takes.maxFrameSize⟩, rfl, rfl⟩

theorem step_emptySettings {t : AnsweringTransport Unit} {pending : Nat}
    (reads : t.ReadsSettings pending) (unpaused : t.readingPausedOnPendingInducedFrames = false)
    (few : pending < maxPendingInducedFrames) :
    ∃ t', t.step Deframer.quietHost (.readAction [emptySettings] {}) = some t' ∧
      t'.ReadsSettings (pending + 1) ∧
      t'.readingPausedOnPendingInducedFrames = decide (maxPendingInducedFrames ≤ pending + 1) := by
  obtain ⟨deframer, read, takes, peerSettings, asked⟩ := performReads_emptySettings reads
  obtain ⟨-, -, idle, open_, reading, counted⟩ := reads
  have word : uint32 (t.numPendingInducedFrames + 1) = pending + 1 := by
    simp only [maxPendingInducedFrames] at few
    simp only [uint32, counted]
    omega
  have parsed : t.parseReads Deframer.quietHost [emptySettings] {} =
      { t with
        deframer :=
          { deframer with frames := { deframer.frames with initialWindowUpdate := 0 } }
        numPendingInducedFrames := uint32 (t.numPendingInducedFrames + 1)
        qbuf := t.qbuf + 1 } := by
    simp only [parseReads, received, read, asked, List.foldl_cons, List.foldl_nil, answer,
      induceFrame, causeWrites, List.replicate_zero, ite_self]
  have takes' : Deframer.TakesSettings
      { deframer with frames := { deframer.frames with initialWindowUpdate := 0 } } :=
    ⟨takes.between, takes.noBlock, takes.flowControlEnabled, takes.maxFrameSize⟩
  rw [word] at parsed
  refine ⟨_, by rw [step, if_pos ⟨open_, reading, unpaused⟩], ?_⟩
  simp only [readActionLocked, read, parsed, open_, Option.isSome_none, Bool.or_false,
    Bool.false_eq_true, if_false]
  split_ifs with full
  · exact ⟨⟨takes', peerSettings, idle, rfl, reading, rfl⟩, (decide_eq_true full).symm⟩
  · exact ⟨⟨takes', peerSettings, idle, rfl, reading, rfl⟩,
      unpaused.trans (decide_eq_false full).symm⟩

/-- A client before its first frame. -/
def clientDeframer : Deframer (Unit × List FrameAction) where
  deframeState := .fh0
  frames := { headers := { isClient := true }, world := ((), []) }

def settingsRun (count : Nat) : List (AnsweringAction Unit) :=
  [.writeActionBegin { other := true }, .writeActionEnd none []] ++
    List.replicate count (.readAction [emptySettings] {})

theorem reach_settingsRun (count : Nat) (few : count ≤ maxPendingInducedFrames) :
    ∃ t, Machine.Reach (step Deframer.quietHost) (started false clientDeframer)
        (settingsRun count) t ∧ t.ReadsSettings count ∧
      t.readingPausedOnPendingInducedFrames = decide (maxPendingInducedFrames ≤ count) := by
  induction count with
  | zero =>
    refine ⟨_, .cons trivial rfl (.cons trivial rfl (.nil _)), ⟨?_, rfl, rfl, rfl, rfl, rfl⟩, rfl⟩
    exact ⟨rfl, rfl, rfl, by decide⟩
  | succ count ih =>
    obtain ⟨t, reach, reads, paused⟩ := ih (Nat.le_of_succ_le few)
    have unpaused : t.readingPausedOnPendingInducedFrames = false :=
      paused.trans (decide_eq_false (Nat.not_le.mpr few))
    obtain ⟨t', taken, reads', paused'⟩ := step_emptySettings reads unpaused few
    have whole := reach.append (.cons trivial taken (.nil t'))
    refine ⟨t', ?_, reads', paused'⟩
    rw [settingsRun, List.append_assoc, ← List.replicate_succ'] at whole
    exact whole

/-- A peer sends SETTINGS frames and nothing else: reading is paused, and no write is
under way or scheduled. -/
theorem settings_strand_reading :
    ¬ ∀ (actions : List (AnsweringAction Unit)) (t : AnsweringTransport Unit),
      Machine.Reach (step Deframer.quietHost) (started false clientDeframer) actions t →
        t.Resumable := by
  intro always
  obtain ⟨t, reach, reads, paused⟩ := reach_settingsRun maxPendingInducedFrames (Nat.le_refl _)
  have resumable := always _ t reach
  exact resumable reads.open_ (paused.trans (decide_eq_true (Nat.le_refl _))) reads.writeState

end SettingsOnly

end AnsweringTransport

end GrpcCore.Transport
