import GrpcCore.Inci.Exchange
import GrpcCore.Inci.RoundTrip

/-!
# Every call gets its own reply

All stubs have one key, so two clients that are alive together get in each other's
way. As long as there is one client at a time, what a `PushPull` returns is what the
callback made of its data.
-/

namespace GrpcCore.Inci

/-- The call was handed back the callback's result on its own data, by the reply to
its own message, from a segment that it had itself copied into. -/
structure Returned.Answers (callback : Callback) (call : Returned) : Prop where
  result : call.result =
    callback.run call.args (call.data.take (wordCount call.args.dataLength)) ++
      call.data.drop (wordCount call.args.dataLength)
  token : call.token = some call.stub
  writer : call.args.dataLength ≠ 0 → call.writer = some call.stub

theorem Callback.run_nil (callback : Callback) (args : MsgArgs) : callback.run args [] = [] := by
  rw [← List.length_eq_zero_iff, callback.length_run, List.length_nil]

namespace Kernel

variable {kernel : Kernel} {key : Int}

theorem createShareMem_free (free : kernel.shmKeys key = none) (size : Int) :
    kernel.createShareMem key size = (some kernel.nextShm, kernel.newShareMem key size) := by
  simp only [createShareMem, free]

theorem createMsgQueue_free (free : kernel.msgKeys key = none) :
    kernel.createMsgQueue key = (some kernel.nextMsg, kernel.newMsgQueue key) := by
  simp only [createMsgQueue, free]

theorem getShareMem_found {shm : Nat} (found : kernel.shmKeys key = some shm) {size : Int}
    (large : wordCount size ≤ (kernel.segments shm).words.length) :
    kernel.getShareMem key size = (some shm, kernel) := by
  simp only [getShareMem, found, if_neg (Nat.not_lt.mpr large)]

variable {queue : Nat}

theorem getMsgQueue_found (found : kernel.msgKeys key = some queue) :
    kernel.getMsgQueue key = (some queue, kernel) := by
  simp only [getMsgQueue, found]

variable {messages : List Message}

theorem sendMsg_found (found : kernel.queues queue = some messages) (message : Message) :
    kernel.sendMsg (some queue) message = kernel.setQueue queue (some (messages ++ [message])) := by
  simp only [sendMsg, found]

theorem recvMsg_found {message : Message} (found : kernel.queues queue = some (message :: messages)) :
    kernel.recvMsg (some queue) =
      some (some message, kernel.setQueue queue (some messages)) := by
  simp only [recvMsg, found]

theorem recvMsg_empty (empty : kernel.queues queue = some []) :
    kernel.recvMsg (some queue) = none := by
  simp only [recvMsg, empty]

theorem write_segment (kernel : Kernel) (shm : Nat) {words : List Int32} (writer : Option Nat)
    (inside : words.length ≤ (kernel.segments shm).words.length) :
    (((kernel.write shm words writer).segments shm).words.length =
        (kernel.segments shm).words.length) ∧
      ((kernel.write shm words writer).segments shm).words.take words.length = words ∧
      ((kernel.write shm words writer).segments shm).writer = writer := by
  refine ⟨?_, ?_, ?_⟩
  · simp only [write, Function.update_self, List.length_append, List.length_drop]
    omega
  · simp [write]
  · simp [write]

end Kernel

namespace Exchange

structure Attached (kernel : Kernel) (dataLength : Int) (shm : Option Nat) : Prop where
  segment : 0 < dataLength → ∃ id, shm = some id ∧ kernel.shmKeys globalId = some id ∧
    (kernel.segments id).words.length = wordCount dataLength
  free : ¬ 0 < dataLength → kernel.shmKeys globalId = none

structure Wired (kernel : Kernel) (client : Connection) (replies : List Message) : Prop where
  attached : Attached kernel client.dataLength client.shm
  queue : ∃ id, client.msgidr = some id ∧ kernel.msgKeys globalId = some id ∧
    kernel.queues id = some replies

/-- What `PushPull` has checked. -/
structure Checked (client : Connection) (data : List Int32) (args : MsgArgs) : Prop where
  key : args.key = globalId
  nonneg : 0 ≤ args.dataLength
  fits : args.dataLength ≤ client.dataLength
  enough : wordCount args.dataLength ≤ data.length

/-- The words at the start of the client's segment, which the stub has copied
there. -/
def Holds (kernel : Kernel) (stub : Nat) (client : Connection) (args : MsgArgs)
    (words : List Int32) : Prop :=
  args.dataLength ≠ 0 → ∃ id, client.shm = some id ∧
    (kernel.segments id).words.take (wordCount args.dataLength) = words ∧
    (kernel.segments id).writer = some stub

def pushed (data : List Int32) (args : MsgArgs) : List Int32 :=
  data.take (wordCount args.dataLength)

/-- How far the exchange of the only client has come: the kernel, the messages to the
server and its threads go with the stage of the stub. -/
inductive Fits (callback : Callback) (stub : Nat) :
    Kernel → List Message → List Handler → Stage → Prop where
  | absent {kernel} (shm : kernel.shmKeys globalId = none) (msg : kernel.msgKeys globalId = none) :
      Fits callback stub kernel [] [] .absent
  | attached {kernel dataLength shm} (attached : Attached kernel dataLength shm)
      (msg : kernel.msgKeys globalId = none) :
      Fits callback stub kernel [] [] (.attached dataLength shm)
  | idle {kernel client} (wired : Wired kernel client []) :
      Fits callback stub kernel [] [] (.idle client)
  | copied {kernel client data args} (wired : Wired kernel client [])
      (checked : Checked client data args)
      (holds : Holds kernel stub client args (pushed data args)) :
      Fits callback stub kernel [] [] (.copied client data args)
  | queued {kernel client data args} (wired : Wired kernel client [])
      (checked : Checked client data args)
      (holds : Holds kernel stub client args (pushed data args)) :
      Fits callback stub kernel [⟨args, stub⟩] [] (.sent client data args)
  | spawned {kernel client data args} (wired : Wired kernel client [])
      (checked : Checked client data args)
      (holds : Holds kernel stub client args (pushed data args)) :
      Fits callback stub kernel [] [.spawned ⟨args, stub⟩] (.sent client data args)
  | attaching {kernel client data args id} (wired : Wired kernel client [])
      (checked : Checked client data args)
      (holds : Holds kernel stub client args (pushed data args))
      (nonzero : args.dataLength ≠ 0) (shm : client.shm = some id) :
      Fits callback stub kernel [] [.attached ⟨args, stub⟩ (some id)] (.sent client data args)
  | answering {kernel client data args} (wired : Wired kernel client [])
      (checked : Checked client data args)
      (holds : Holds kernel stub client args (callback.run args (pushed data args))) :
      Fits callback stub kernel [] [.answering ⟨args, stub⟩] (.sent client data args)
  | replying {kernel client data args id} (wired : Wired kernel client [])
      (checked : Checked client data args)
      (holds : Holds kernel stub client args (callback.run args (pushed data args)))
      (queue : client.msgidr = some id) :
      Fits callback stub kernel [] [.replying ⟨args, stub⟩ (some id)] (.sent client data args)
  | replied {kernel client data args} (wired : Wired kernel client [⟨args, stub⟩])
      (checked : Checked client data args)
      (holds : Holds kernel stub client args (callback.run args (pushed data args))) :
      Fits callback stub kernel [] [] (.sent client data args)
  | received {kernel client data args} (wired : Wired kernel client [])
      (checked : Checked client data args)
      (holds : Holds kernel stub client args (callback.run args (pushed data args))) :
      Fits callback stub kernel [] [] (.received client data args (some stub))
  | detached {kernel id} (shm : kernel.shmKeys globalId = none)
      (msg : kernel.msgKeys globalId = some id) : Fits callback stub kernel [] [] (.detached (some id))

structure Alone (callback : Callback) (state : Exchange) : Prop where
  active : ∃ stub, (∀ other, other ≠ stub → state.stage other = .absent) ∧
    Fits callback stub state.kernel state.inbox state.handlers (state.stage stub)
  returned : ∀ call ∈ state.returned, call.Answers callback

/-- The condition on a step: no stub has a client where one is constructed. -/
def OneClient (state : Exchange) : ExchangeAction → Prop
  | .createShareMem _ _ => ∀ stub, state.stage stub = .absent
  | _ => True

variable {callback : Callback}

theorem Alone.enter (state : Exchange) {stub : Nat} {stage : Stage} {kernel : Kernel}
    (others : ∀ other, other ≠ stub → state.stage other = .absent)
    (returned : ∀ call ∈ state.returned, call.Answers callback)
    (fits : Fits callback stub kernel state.inbox state.handlers stage) :
    (state.enter stub stage kernel).Alone callback := by
  refine ⟨⟨stub, ?_, ?_⟩, returned⟩
  · intro other distinct
    exact (Function.update_of_ne distinct _ _).trans (others other distinct)
  · simpa [Exchange.enter] using fits

variable {state : Exchange} {stub : Nat}

theorem Alone.fits_of_present {stage : Stage} (alone : state.Alone callback)
    (present : state.stage stub = stage) (there : stage ≠ .absent) :
    (∀ other, other ≠ stub → state.stage other = .absent) ∧
      Fits callback stub state.kernel state.inbox state.handlers stage := by
  subst present
  obtain ⟨active, others, fits⟩ := alone.active
  by_cases mine : stub = active
  · exact mine ▸ ⟨others, fits⟩
  · exact absurd (others stub mine) there

variable {state' : Exchange}

theorem alone_createShareMem {length : Int} (alone : state.Alone callback)
    (free : ∀ stub, state.stage stub = .absent)
    (taken : state.createShareMem stub length = some state') : state'.Alone callback := by
  obtain ⟨active, -, fits⟩ := alone.active
  rw [free active] at fits
  simp only [createShareMem, free stub] at taken
  obtain ⟨kernel, inbox, stage, handlers, returned⟩ := state
  cases fits with
  | absent shm msg =>
    rw [Kernel.createShareMem_free shm] at taken
    split_ifs at taken with positive
    · obtain rfl := Option.some.inj taken
      refine Alone.enter _ (fun other _ => free other) alone.returned (.attached ?_ msg)
      refine ⟨fun _ => ⟨kernel.nextShm, rfl, ?_, ?_⟩, absurd positive⟩
      · simp [Kernel.newShareMem]
      · simp [Kernel.newShareMem]
    · obtain rfl := Option.some.inj taken
      refine Alone.enter _ (fun other _ => free other) alone.returned (.attached ?_ msg)
      exact ⟨fun positive' => absurd positive' positive, fun _ => shm⟩

theorem alone_createMsgQueue (alone : state.Alone callback)
    (taken : state.createMsgQueue stub = some state') : state'.Alone callback := by
  unfold createMsgQueue at taken
  split at taken
  case h_2 => cases taken
  case h_1 dataLength shm present =>
    obtain ⟨others, fits⟩ := alone.fits_of_present present nofun
    obtain ⟨kernel, inbox, stage, handlers, returned⟩ := state
    cases fits with
    | attached attached msg =>
      rw [Kernel.createMsgQueue_free msg] at taken
      obtain rfl := Option.some.inj taken
      refine Alone.enter _ others alone.returned (.idle ?_)
      refine ⟨⟨attached.segment, attached.free⟩, kernel.nextMsg, rfl, ?_, ?_⟩
      · simp [Kernel.newMsgQueue]
      · simp [Kernel.newMsgQueue]

theorem Wired.write {kernel : Kernel} {client : Connection} {replies : List Message} {shm : Nat}
    (wired : Wired kernel client replies) {words : List Int32} (writer : Option Nat)
    (inside : words.length ≤ (kernel.segments shm).words.length) :
    Wired (kernel.write shm words writer) client replies := by
  refine ⟨⟨?_, wired.attached.free⟩, wired.queue⟩
  intro positive
  obtain ⟨id, mine, key, length⟩ := wired.attached.segment positive
  refine ⟨id, mine, key, ?_⟩
  by_cases same : id = shm
  · subst same
    rw [(kernel.write_segment id writer inside).1, length]
  · simpa [Kernel.write, Function.update_of_ne same] using length

theorem alone_copyIn {data : List Int32} {args : MsgArgs} (alone : state.Alone callback)
    (taken : state.copyIn stub data args = some state') : state'.Alone callback := by
  unfold copyIn at taken
  split at taken
  case h_2 => cases taken
  case h_1 client present =>
    obtain ⟨others, fits⟩ := alone.fits_of_present present nofun
    obtain ⟨kernel, inbox, stage, handlers, returned⟩ := state
    cases fits with
    | idle wired =>
      obtain ⟨⟨key, fits⟩, taken⟩ := Option.ite_none_right_eq_some.mp taken
      split_ifs at taken with zero
      · obtain rfl := Option.some.inj taken
        refine Alone.enter _ others alone.returned (.copied wired ?_ (absurd zero))
        refine ⟨key, by omega, fits, ?_⟩
        rw [zero]
        exact Nat.zero_le _
      · split at taken
        case h_1 => cases taken
        case h_2 shm segment =>
          obtain ⟨⟨nonneg, enough, inside⟩, rfl⟩ := Option.ite_some_none_eq_some.mp taken
          have length : (pushed data args).length = wordCount args.dataLength := by
            rw [pushed, List.length_take]
            omega
          have within : (pushed data args).length ≤ (kernel.segments shm).words.length := by
            rw [length]
            exact inside
          obtain ⟨-, words, writer⟩ := kernel.write_segment shm (some stub) within
          rw [length] at words
          refine Alone.enter _ others alone.returned
            (.copied (wired.write (some stub) within) ⟨key, nonneg, fits, enough⟩ ?_)
          exact fun _ => ⟨shm, segment, words, writer⟩

theorem alone_sendMsg (alone : state.Alone callback) (taken : state.sendMsg stub = some state') :
    state'.Alone callback := by
  unfold sendMsg at taken
  split at taken
  case h_2 => cases taken
  case h_1 client data args present =>
    obtain ⟨others, fits⟩ := alone.fits_of_present present nofun
    obtain ⟨kernel, inbox, stage, handlers, returned⟩ := state
    cases fits with
    | copied wired checked holds =>
      obtain rfl := Option.some.inj taken
      exact Alone.enter { kernel, inbox := [⟨args, stub⟩], stage, returned } others
        alone.returned (.queued wired checked holds)

theorem Wired.setQueue {kernel : Kernel} {client : Connection} {replies : List Message} {id : Nat}
    (wired : Wired kernel client replies) (mine : client.msgidr = some id)
    (replies' : List Message) : Wired (kernel.setQueue id (some replies')) client replies' := by
  refine ⟨⟨wired.attached.segment, wired.attached.free⟩, id, mine, ?_, ?_⟩
  · obtain ⟨id', mine', key, -⟩ := wired.queue
    obtain rfl := Option.mem_unique mine mine'
    exact key
  · simp [Kernel.setQueue]

theorem alone_recvMsg (alone : state.Alone callback) (taken : state.recvMsg stub = some state') :
    state'.Alone callback := by
  unfold recvMsg at taken
  split at taken
  case h_2 => cases taken
  case h_1 client data args present =>
    obtain ⟨others, fits⟩ := alone.fits_of_present present nofun
    obtain ⟨kernel, inbox, stage, handlers, returned⟩ := state
    cases fits with
    | replied wired checked holds =>
      obtain ⟨id, mine, key, replies⟩ := wired.queue
      rw [mine, Kernel.recvMsg_found replies] at taken
      obtain rfl := Option.some.inj taken
      refine Alone.enter _ others alone.returned (.received (wired.setQueue mine []) checked ?_)
      exact holds
    | queued wired | spawned wired | attaching wired | answering wired | replying wired =>
      -- the queue is empty, so the stub blocks
      obtain ⟨id, mine, key, empty⟩ := wired.queue
      rw [mine, Kernel.recvMsg_empty empty] at taken
      cases taken

variable {stage : Stage}

theorem Alone.enter_returned (state : Exchange) {call : Returned}
    (others : ∀ other, other ≠ stub → state.stage other = .absent)
    (returned : ∀ call ∈ state.returned, call.Answers callback) (answers : call.Answers callback)
    (fits : Fits callback stub state.kernel state.inbox state.handlers stage) :
    ({ state.enter stub stage state.kernel with returned := state.returned ++ [call] } :
      Exchange).Alone callback := by
  have entered := Alone.enter state others returned fits
  refine ⟨entered.active, ?_⟩
  intro call' isReturned
  rcases List.mem_append.mp isReturned with earlier | last
  · exact returned call' earlier
  · exact List.mem_singleton.mp last ▸ answers

theorem alone_copyOut (alone : state.Alone callback) (taken : state.copyOut stub = some state') :
    state'.Alone callback := by
  unfold copyOut at taken
  split at taken
  case h_2 => cases taken
  case h_1 client data args token present =>
    obtain ⟨others, fits⟩ := alone.fits_of_present present nofun
    obtain ⟨kernel, inbox, stage, handlers, returned⟩ := state
    cases fits with
    | received wired checked holds =>
      split_ifs at taken with zero
      · obtain rfl := Option.some.inj taken
        refine Alone.enter_returned _ others alone.returned ⟨?_, rfl, absurd zero⟩ (.idle wired)
        have none : wordCount args.dataLength = 0 := by rw [zero]; rfl
        rw [none, List.take_zero, List.drop_zero, callback.run_nil, List.nil_append]
      · obtain ⟨shm, segment, words, writer⟩ := holds zero
        rw [segment] at taken
        obtain rfl := Option.some.inj taken
        refine Alone.enter_returned _ others alone.returned ⟨?_, rfl, fun _ => writer⟩ (.idle wired)
        rw [words]
        rfl

theorem alone_destroyShareMem (alone : state.Alone callback)
    (taken : state.destroyShareMem stub = some state') : state'.Alone callback := by
  unfold destroyShareMem at taken
  split at taken
  case h_2 => cases taken
  case h_1 client present =>
    obtain ⟨others, fits⟩ := alone.fits_of_present present nofun
    obtain ⟨kernel, inbox, stage, handlers, returned⟩ := state
    dsimp only at fits taken
    cases fits with
    | idle wired =>
      obtain ⟨id, mine, queueKey, -⟩ := wired.queue
      rw [mine] at taken
      split_ifs at taken with positive
      · obtain ⟨shm, segment, key, -⟩ := wired.attached.segment positive
        rw [segment] at taken
        obtain rfl := Option.some.inj taken
        refine Alone.enter _ others alone.returned (.detached ?_ queueKey)
        simp [Kernel.destroyShareMem, key]
      · obtain rfl := Option.some.inj taken
        exact Alone.enter _ others alone.returned (.detached (wired.attached.free positive) queueKey)

theorem alone_destroyMsgQueue (alone : state.Alone callback)
    (taken : state.destroyMsgQueue stub = some state') : state'.Alone callback := by
  unfold destroyMsgQueue at taken
  split at taken
  case h_2 => cases taken
  case h_1 msgidr present =>
    obtain ⟨others, fits⟩ := alone.fits_of_present present nofun
    obtain ⟨kernel, inbox, stage, handlers, returned⟩ := state
    dsimp only at fits taken
    cases fits with
    | detached shm msg =>
      obtain rfl := Option.some.inj taken
      refine Alone.enter _ others alone.returned (.absent ?_ ?_)
      · exact shm
      · simp [Kernel.destroyMsgQueue, msg]

theorem Alone.of_stage (state : Exchange)
    (others : ∀ other, other ≠ stub → state.stage other = .absent)
    (returned : ∀ call ∈ state.returned, call.Answers callback) (atStage : state.stage stub = stage)
    (fits : Fits callback stub state.kernel state.inbox state.handlers stage) :
    state.Alone callback :=
  ⟨⟨stub, others, atStage ▸ fits⟩, returned⟩

theorem alone_serve (alone : state.Alone callback) (taken : state.serve = some state') :
    state'.Alone callback := by
  obtain ⟨stub, others, fits⟩ := alone.active
  obtain ⟨kernel, inbox, stage, handlers, returned⟩ := state
  dsimp only [serve] at fits others taken
  generalize atStage : stage stub = current at fits
  cases fits with
  | queued wired checked holds =>
    obtain rfl := Option.some.inj taken
    exact Alone.of_stage _ others alone.returned atStage (.spawned wired checked holds)
  | _ => cases taken

variable {handler : Nat}

theorem handler_of_singleton {only found : Handler} (isFound : [only][handler]? = some found) :
    handler = 0 ∧ only = found := by
  cases handler with
  | zero => exact ⟨rfl, Option.some.inj isFound⟩
  | succ => cases isFound

section

variable (alone : state.Alone callback)
include alone

theorem alone_getShareMem (taken : state.getShareMem handler = some state') :
    state'.Alone callback := by
  unfold getShareMem at taken
  split at taken
  case h_2 => cases taken
  case h_1 message isHandler =>
    obtain ⟨stub, others, fits⟩ := alone.active
    obtain ⟨kernel, inbox, stage, handlers, returned⟩ := state
    dsimp only at fits others taken isHandler
    generalize atStage : stage stub = current at fits
    cases fits with
    | @spawned client data args wired checked holds =>
      obtain ⟨rfl, same⟩ := handler_of_singleton isHandler
      obtain rfl := Handler.spawned.inj same
      dsimp only at taken
      split_ifs at taken with zero
      · obtain rfl := Option.some.inj taken
        exact Alone.of_stage _ others alone.returned atStage
          (.answering wired checked (absurd zero))
      · have nonneg := checked.nonneg
        have fits := checked.fits
        obtain ⟨shm, segment, key, length⟩ := wired.attached.segment (by omega)
        have large : wordCount args.dataLength ≤ (kernel.segments shm).words.length := by
          rw [length]
          unfold wordCount
          omega
        rw [checked.key, Kernel.getShareMem_found key large] at taken
        obtain rfl := Option.some.inj taken
        exact Alone.of_stage _ others alone.returned atStage
          (.attaching wired checked holds zero segment)
    | attaching | answering | replying =>
      obtain ⟨-, same⟩ := handler_of_singleton isHandler
      cases same
    | _ => cases isHandler

theorem alone_runCallback (taken : state.runCallback callback handler = some state') :
    state'.Alone callback := by
  unfold runCallback at taken
  split at taken
  case h_2 => cases taken
  case h_1 message shm isHandler =>
    obtain ⟨stub, others, fits⟩ := alone.active
    obtain ⟨kernel, inbox, stage, handlers, returned⟩ := state
    dsimp only at fits others taken isHandler
    generalize atStage : stage stub = current at fits
    cases fits with
    | @attaching client data args id wired checked holds nonzero segment =>
      obtain ⟨rfl, same⟩ := handler_of_singleton isHandler
      obtain ⟨rfl, sameShm⟩ := Handler.attached.inj same
      obtain rfl := Option.some.inj sameShm
      obtain ⟨id', segment', words, writer⟩ := holds nonzero
      obtain rfl := Option.mem_unique segment segment'
      rw [words] at taken
      obtain rfl := Option.some.inj taken
      have length : (callback.run args (pushed data args)).length = wordCount args.dataLength := by
        have enough := checked.enough
        rw [callback.length_run, pushed, List.length_take]
        omega
      have inside : (callback.run args (pushed data args)).length ≤
          (kernel.segments id).words.length := by
        have taken := congrArg List.length words
        rw [← callback.length_run args (pushed data args), List.length_take] at taken
        omega
      obtain ⟨-, result, writer'⟩ :=
        kernel.write_segment id (kernel.segments id).writer inside
      rw [length] at result
      refine Alone.of_stage _ others alone.returned atStage
        (.answering (wired.write (kernel.segments id).writer inside) checked ?_)
      exact fun _ => ⟨id, segment, result, writer'.trans writer⟩
    | spawned | answering | replying =>
      obtain ⟨-, same⟩ := handler_of_singleton isHandler
      cases same
    | _ => cases isHandler

theorem alone_getMsgQueue (taken : state.getMsgQueue handler = some state') :
    state'.Alone callback := by
  unfold getMsgQueue at taken
  split at taken
  case h_2 => cases taken
  case h_1 message isHandler =>
    obtain ⟨stub, others, fits⟩ := alone.active
    obtain ⟨kernel, inbox, stage, handlers, returned⟩ := state
    dsimp only at fits others taken isHandler
    generalize atStage : stage stub = current at fits
    cases fits with
    | answering wired checked holds =>
      obtain ⟨rfl, same⟩ := handler_of_singleton isHandler
      obtain rfl := Handler.answering.inj same
      obtain ⟨id, mine, key, -⟩ := wired.queue
      rw [checked.key, Kernel.getMsgQueue_found key] at taken
      obtain rfl := Option.some.inj taken
      exact Alone.of_stage _ others alone.returned atStage (.replying wired checked holds mine)
    | spawned | attaching | replying =>
      obtain ⟨-, same⟩ := handler_of_singleton isHandler
      cases same
    | _ => cases isHandler

theorem alone_reply (taken : state.reply handler = some state') : state'.Alone callback := by
  unfold reply at taken
  split at taken
  case h_2 => cases taken
  case h_1 message queue isHandler =>
    obtain ⟨stub, others, fits⟩ := alone.active
    obtain ⟨kernel, inbox, stage, handlers, returned⟩ := state
    dsimp only at fits others taken isHandler
    generalize atStage : stage stub = current at fits
    cases fits with
    | @replying client data args id wired checked holds mine =>
      obtain ⟨rfl, same⟩ := handler_of_singleton isHandler
      obtain ⟨rfl, rfl⟩ := Handler.replying.inj same
      obtain ⟨id', mine', key, empty⟩ := wired.queue
      obtain rfl := Option.mem_unique mine mine'
      rw [Kernel.sendMsg_found empty] at taken
      obtain rfl := Option.some.inj taken
      refine Alone.of_stage _ others alone.returned atStage
        (.replied (wired.setQueue mine [⟨args, stub⟩]) checked ?_)
      exact holds
    | spawned | attaching | answering =>
      obtain ⟨-, same⟩ := handler_of_singleton isHandler
      cases same
    | _ => cases isHandler

theorem alone_step {action : ExchangeAction} (meets : state.OneClient action)
    (taken : state.step callback action = some state') : state'.Alone callback := by
  cases action with
  | createShareMem => exact alone_createShareMem alone meets taken
  | createMsgQueue => exact alone_createMsgQueue alone taken
  | copyIn => exact alone_copyIn alone taken
  | sendMsg => exact alone_sendMsg alone taken
  | recvMsg => exact alone_recvMsg alone taken
  | copyOut => exact alone_copyOut alone taken
  | destroyShareMem => exact alone_destroyShareMem alone taken
  | destroyMsgQueue => exact alone_destroyMsgQueue alone taken
  | serve => exact alone_serve alone taken
  | getShareMem => exact alone_getShareMem alone taken
  | callback => exact alone_runCallback alone taken
  | getMsgQueue => exact alone_getMsgQueue alone taken
  | reply => exact alone_reply alone taken

end

/-- In a run with one client at a time, every `PushPull` that has returned handed back
the callback's result on its own data. -/
theorem returned_answers (callback : Callback) {actions : List ExchangeAction}
    {state : Exchange} (run : Machine.Run (step callback) OneClient {} actions state) :
    ∀ call ∈ state.returned, call.Answers callback := by
  have initial : ({} : Exchange).Alone callback :=
    ⟨⟨0, fun _ _ => rfl, .absent rfl rfl⟩, by simp⟩
  exact (run.invariant (fun alone meets taken => alone_step alone meets taken) initial).returned

def twoWords : MsgArgs where
  key := 1
  dataLength := 8
  workerNum := 0
  memSz := 2000
  memOffset := 0
  op := 1
  pType := 0
  flag := 0

/-- A client is constructed, called once and destroyed. -/
def oneCall : List ExchangeAction := [
    .createShareMem 0 8, .createMsgQueue 0, .copyIn 0 [7, 9] twoWords, .sendMsg 0, .serve,
    .getShareMem 0, .callback 0, .getMsgQueue 0, .reply 0, .recvMsg 0, .copyOut 0,
    .destroyShareMem 0, .destroyMsgQueue 0]

def constructsNone : Exchange → ExchangeAction → Bool
  | _, .createShareMem _ _ => false
  | _, _ => true

theorem constructsNone_sound (state : Exchange) (action : ExchangeAction)
    (passes : constructsNone state action = true) : state.OneClient action := by
  cases action with
  | createShareMem => cases passes
  | _ => trivial

theorem oneCall_answered : ∃ state,
    Machine.Run (step InciStub.increments) OneClient {} oneCall state ∧
      state.returned.map Returned.result = [[8, 10]] ∧
      ∀ call ∈ state.returned, call.Answers InciStub.increments := by
  obtain ⟨state, run, result⟩ : ∃ state,
      Machine.Run (step InciStub.increments) OneClient {} oneCall state ∧
        state.returned.map Returned.result = [[8, 10]] :=
    ⟨_, .cons (fun _ => rfl) rfl (Machine.run_of_exec constructsNone_sound rfl), by decide⟩
  exact ⟨state, run, result, returned_answers InciStub.increments run⟩

/-- Two stubs are constructed at the same time: one gets the segment, the other the
queue. -/
def twoClients : List ExchangeAction := [
    .createShareMem 0 8, .createShareMem 1 8, .createMsgQueue 1, .createMsgQueue 0,
    .copyIn 0 [7, 9] twoWords, .sendMsg 0, .recvMsg 0, .copyOut 0]

/-- The call returns before the server has seen it. -/
theorem twoClients_not_answered :
    ¬ ∀ (callback : Callback) (actions : List ExchangeAction) (state : Exchange),
      Machine.Reach (step callback) {} actions state →
        ∀ call ∈ state.returned, call.Answers callback := by
  intro all
  obtain ⟨state, run, returned⟩ := Machine.exists_reach (step InciStub.increments) {} twoClients
    (fun state => state.returned) [
      { stub := 0, data := [7, 9], args := twoWords, result := [7, 9], token := none
        writer := some 0 }] (by decide)
  have answers := all InciStub.increments twoClients state run _
    (returned ▸ List.mem_singleton_self _)
  exact absurd answers.result (by decide)

end Exchange

end GrpcCore.Inci
