import GrpcCore.Binder.WireReader
import GrpcCore.Lib.Run

/-!
# Flow control between a writer and its peer

Split messages wait for acknowledgements of the peer, which counts the bytes of all transactions.
Transactions and acknowledgements are under way until they are delivered, in any order.
-/

namespace GrpcCore.Binder

open Machine

def kFlowControlWindowSize : Nat := 128 * 1024

structure WireWriter where
  seqNum : Nat → Nat
  numOutgoingBytes : Nat
  numAcknowledgedBytes : Nat

namespace WireWriter

variable (writer : WireWriter)

def nextSeqNum (code : Nat) : WireWriter :=
  { writer with seqNum := Function.update writer.seqNum code (writer.seqNum code + 1) }

/-- `WaitForAcknowledgement` lets a block pass. -/
def windowOpen : Prop :=
  writer.numOutgoingBytes < writer.numAcknowledgedBytes + kFlowControlWindowSize

instance : Decidable writer.windowOpen := inferInstanceAs (Decidable (_ < _))

def onAckReceived (numBytes : Nat) : WireWriter :=
  { writer with numAcknowledgedBytes := max writer.numAcknowledgedBytes numBytes }

end WireWriter

/-- A call of `RpcCall` that sends a message in blocks. -/
structure SplitCall where
  code : Nat
  tx : Transaction
  bytesSent : Nat

def SplitCall.parcel (call : SplitCall) (writer : WireWriter) : Parcel :=
  call.tx.blockParcel call.bytesSent (writer.seqNum call.code)

/-- What is left of a call after a block: nothing at the end of the message or after a failure. -/
def SplitCall.next (call : SplitCall) (transacted : Bool) : List SplitCall :=
  let bytesSent := call.bytesSent + call.tx.blockSize call.bytesSent
  if transacted && decide (bytesSent < (call.tx.messageData.getD []).length) then
    [{ call with bytesSent := bytesSent }]
  else []

/-- A writer and its peer, with what is under way between them. Of the transactions sent the
total of the sizes is kept, and for every block this total and the bytes acknowledged before it. -/
structure FlowControl where
  writer : WireWriter
  calls : List SplitCall
  transactions : List Parcel
  peer : IncomingBytes
  acknowledgements : List Nat
  sentBytes : Nat
  blocks : List (Nat × Nat)

namespace FlowControl

inductive Action where
  /-- A call sends a message in one transaction, or starts to send it in blocks. -/
  | rpcCall (code : Nat) (tx : Transaction) (transacted : Bool)
  | block (call : Nat) (transacted : Bool)
  /-- A call gives up waiting. -/
  | timeout (call : Nat)
  | deliver (transaction : Nat) (acknowledged : Bool)
  | onAckReceived (acknowledgement : Nat)

variable (dataSize : Parcel → Nat)

def initial : FlowControl := ⟨⟨fun _ => 0, 0, 0⟩, [], [], ⟨0, 0⟩, [], 0, []⟩

def transact (state : FlowControl) (parcel : Parcel) (transacted : Bool) : FlowControl :=
  if transacted then
    { state with
      transactions := state.transactions ++ [parcel]
      sentBytes := state.sentBytes + dataSize parcel }
  else state

/-- `RpcCallFastPath` does not count the bytes that it sends. -/
def fastPath (state : FlowControl) (code : Nat) (tx : Transaction) (transacted : Bool) :
    FlowControl :=
  { state with writer := state.writer.nextSeqNum code }.transact dataSize
    (tx.fastPathParcel (state.writer.seqNum code)) transacted

def sendBlock (state : FlowControl) (index : Nat) (call : SplitCall) (transacted : Bool) :
    FlowControl :=
  let parcel := call.parcel state.writer
  let writer := state.writer.nextSeqNum call.code
  { state with
    writer := { writer with
      numOutgoingBytes := writer.numOutgoingBytes + dataSize parcel }
    calls := state.calls.take index ++ call.next transacted ++ state.calls.drop (index + 1)
    blocks := state.blocks ++ [(state.sentBytes, state.writer.numAcknowledgedBytes)] }.transact
      dataSize parcel transacted

/-- The peer counts a transaction and acknowledges what it has counted, when it is due. -/
def receive (state : FlowControl) (index : Nat) (parcel : Parcel) (acknowledged : Bool) :
    FlowControl :=
  let (peer, due) := (state.peer.received (dataSize parcel)).acknowledge
  { state with
    transactions := state.transactions.eraseIdx index
    peer := peer
    acknowledgements :=
      state.acknowledgements ++ if acknowledged then due.toList else [] }

def step (state : FlowControl) : Action → Option FlowControl
  | .rpcCall code tx transacted =>
    if tx.canBeSentInOneTransaction then some (state.fastPath dataSize code tx transacted)
    else some { state with calls := state.calls ++ [⟨code, tx, 0⟩] }
  | .block index transacted =>
    state.calls[index]?.bind fun call =>
      if state.writer.windowOpen then some (state.sendBlock dataSize index call transacted)
      else none
  | .timeout index =>
    if index < state.calls.length then
      some { state with calls := state.calls.eraseIdx index }
    else none
  | .deliver index acknowledged =>
    state.transactions[index]?.map fun parcel =>
      state.receive dataSize index parcel acknowledged
  | .onAckReceived index =>
    state.acknowledgements[index]?.map fun numBytes =>
      { state with
        writer := state.writer.onAckReceived numBytes
        acknowledgements := state.acknowledgements.eraseIdx index }

/-- The writer knows what it has sent and no more has been acknowledged, and a block was only
sent in an open window. -/
structure Windowed (state : FlowControl) : Prop where
  acknowledged : state.writer.numAcknowledgedBytes ≤ state.writer.numOutgoingBytes
  outgoing : state.writer.numOutgoingBytes = state.sentBytes
  window : ∀ block ∈ state.blocks, block.1 < block.2 + kFlowControlWindowSize

/-- What a run must keep to: only an empty transaction is sent in one piece, and the binder takes
every block. -/
def Counts (state : FlowControl) : Action → Prop
  | .rpcCall code tx transacted =>
    tx.canBeSentInOneTransaction = true → transacted = true →
      dataSize (tx.fastPathParcel (state.writer.seqNum code)) = 0
  | .block index transacted =>
    transacted = false → ∀ call, state.calls[index]? = some call →
      dataSize (call.parcel state.writer) = 0
  | _ => True

variable {dataSize}

section Steps

variable {state state' : FlowControl}

/-- What is under way has been sent, and what is acknowledged has arrived. -/
structure Conserved (dataSize : Parcel → Nat) (state : FlowControl) : Prop where
  counted : state.peer.numIncomingBytes + (state.transactions.map dataSize).sum = state.sentBytes
  due : ∀ numBytes ∈ state.acknowledgements, numBytes ≤ state.peer.numIncomingBytes
  acknowledged : state.writer.numAcknowledgedBytes ≤ state.peer.numIncomingBytes

theorem windowed_initial : Windowed initial := ⟨le_refl 0, rfl, nofun⟩

theorem conserved_initial : Conserved dataSize initial := ⟨rfl, nofun, le_refl 0⟩

theorem Conserved.transact (conserved : Conserved dataSize state) (parcel : Parcel)
    (transacted : Bool) : Conserved dataSize (state.transact dataSize parcel transacted) := by
  unfold FlowControl.transact
  cases transacted with
  | false => exact conserved
  | true =>
    refine ⟨?_, conserved.due, conserved.acknowledged⟩
    have counted := conserved.counted
    simp only [if_true, List.map_append, List.sum_append, List.map_cons, List.map_nil,
      List.sum_singleton]
    omega

theorem sum_eraseIdx (dataSize : Parcel → Nat) {transactions : List Parcel} {index : Nat} {parcel : Parcel}
    (there : transactions[index]? = some parcel) :
    dataSize parcel + ((transactions.eraseIdx index).map dataSize).sum =
      (transactions.map dataSize).sum := by
  induction transactions generalizing index with
  | nil => cases there
  | cons first rest ih =>
    cases index with
    | zero =>
      obtain rfl := Option.some.inj there
      rfl
    | succ =>
      have tail := ih there
      rw [List.eraseIdx_cons_succ, List.map_cons, List.map_cons, List.sum_cons, List.sum_cons,
        ← tail]
      omega

theorem le_acknowledge (bytes : IncomingBytes) :
    bytes.acknowledge.1.numIncomingBytes = bytes.numIncomingBytes ∧
      ∀ numBytes ∈ bytes.acknowledge.2, numBytes = bytes.numIncomingBytes := by
  unfold IncomingBytes.acknowledge
  split
  · exact ⟨rfl, fun numBytes is => (Option.some.inj is).symm⟩
  · exact ⟨rfl, nofun⟩

section

variable (conserved : Conserved dataSize state)
include conserved

theorem Conserved.receive {index : Nat} {parcel : Parcel}
    (there : state.transactions[index]? = some parcel) (acknowledged : Bool) :
    Conserved dataSize (state.receive dataSize index parcel acknowledged) := by
  obtain ⟨incoming, due⟩ := le_acknowledge (state.peer.received (dataSize parcel))
  have received : (state.peer.received (dataSize parcel)).numIncomingBytes =
      state.peer.numIncomingBytes + dataSize parcel := rfl
  have counted := conserved.counted
  have erased := sum_eraseIdx dataSize there
  unfold FlowControl.receive
  refine ⟨?_, fun numBytes within => ?_, ?_⟩
  · dsimp only
    omega
  · rw [incoming, received]
    rcases List.mem_append.mp within with old | new
    · exact (conserved.due numBytes old).trans (Nat.le_add_right _ _)
    · split at new
      · rw [due numBytes (Option.mem_toList.mp new), received]
      · cases new
  · rw [incoming, received]
    exact conserved.acknowledged.trans (Nat.le_add_right _ _)

theorem Conserved.step {action : Action} (taken : state.step dataSize action = some state') :
    Conserved dataSize state' := by
  cases action with
  | rpcCall =>
    dsimp only [FlowControl.step] at taken
    split at taken
    · obtain rfl := Option.some.inj taken
      refine Conserved.transact ?_ _ _
      exact ⟨conserved.counted, conserved.due, conserved.acknowledged⟩
    · obtain rfl := Option.some.inj taken
      exact ⟨conserved.counted, conserved.due, conserved.acknowledged⟩
  | block =>
    obtain ⟨call, there, taken⟩ := Option.bind_eq_some_iff.mp taken
    obtain ⟨_, rfl⟩ := Option.ite_some_none_eq_some.mp taken
    refine Conserved.transact ?_ _ _
    exact ⟨conserved.counted, conserved.due, conserved.acknowledged⟩
  | timeout =>
    obtain ⟨_, rfl⟩ := Option.ite_some_none_eq_some.mp taken
    exact ⟨conserved.counted, conserved.due, conserved.acknowledged⟩
  | deliver index acknowledged =>
    obtain ⟨parcel, there, rfl⟩ := Option.map_eq_some_iff.mp taken
    exact conserved.receive there acknowledged
  | onAckReceived =>
    obtain ⟨numBytes, there, rfl⟩ := Option.map_eq_some_iff.mp taken
    refine ⟨conserved.counted, fun other within => ?_, ?_⟩
    · exact conserved.due other (List.mem_of_mem_eraseIdx within)
    · exact max_le conserved.acknowledged (conserved.due _ (List.mem_of_getElem? there))

theorem Conserved.windowed_iff : Windowed state ↔
    state.writer.numOutgoingBytes = state.sentBytes ∧
      ∀ block ∈ state.blocks, block.1 < block.2 + kFlowControlWindowSize := by
  constructor
  · intro windowed
    exact ⟨windowed.outgoing, windowed.window⟩
  · rintro ⟨outgoing, window⟩
    refine ⟨?_, outgoing, window⟩
    have counted := conserved.counted
    have acknowledged := conserved.acknowledged
    omega

end

theorem transact_outgoing (dataSize : Parcel → Nat) (parcel : Parcel) (transacted : Bool) (state : FlowControl) :
    (state.transact dataSize parcel transacted).writer = state.writer ∧
      (state.transact dataSize parcel transacted).blocks = state.blocks ∧
      (state.transact dataSize parcel transacted).sentBytes =
        state.sentBytes + if transacted then dataSize parcel else 0 := by
  cases transacted with
  | false => exact ⟨rfl, rfl, rfl⟩
  | true => exact ⟨rfl, rfl, rfl⟩

theorem windowed_step_iff {action : Action} (conserved : Conserved dataSize state)
    (windowed : Windowed state) (taken : state.step dataSize action = some state') :
    Windowed state' ↔ Counts dataSize state action := by
  rw [(conserved.step taken).windowed_iff]
  have outgoing := windowed.outgoing
  cases action with
  | rpcCall code tx transacted =>
    dsimp only [FlowControl.step] at taken
    split at taken
    case isTrue whole =>
      obtain rfl := Option.some.inj taken
      obtain ⟨writer, blocks, sent⟩ := transact_outgoing dataSize
        (tx.fastPathParcel (state.writer.seqNum code)) transacted
        { state with writer := state.writer.nextSeqNum code }
      have kept : (state.writer.nextSeqNum code).numOutgoingBytes = state.sentBytes := outgoing
      unfold FlowControl.fastPath
      rw [writer, blocks, sent, kept]
      cases transacted with
      | false => exact iff_of_true ⟨rfl, windowed.window⟩ fun _ sent => absurd sent Bool.false_ne_true
      | true =>
        constructor
        · rintro ⟨same, _⟩ _ _
          exact Nat.add_left_cancel same.symm
        · intro none
          refine ⟨?_, windowed.window⟩
          rw [none whole rfl]
          rfl
    case isFalse split_ =>
      obtain rfl := Option.some.inj taken
      exact iff_of_true ⟨outgoing, windowed.window⟩ fun whole => absurd whole split_
  | block index transacted =>
    obtain ⟨call, there, taken⟩ := Option.bind_eq_some_iff.mp taken
    obtain ⟨opened, rfl⟩ := Option.ite_some_none_eq_some.mp taken
    have window : ∀ block ∈ state.blocks ++
        [(state.sentBytes, state.writer.numAcknowledgedBytes)],
        block.1 < block.2 + kFlowControlWindowSize := by
      intro block within
      rcases List.mem_append.mp within with old | new
      · exact windowed.window block old
      · rw [List.mem_singleton.mp new, ← outgoing]
        exact opened
    unfold FlowControl.sendBlock
    dsimp only [WireWriter.nextSeqNum]
    rw [outgoing]
    cases transacted with
    | true => exact iff_of_true ⟨rfl, window⟩ fun failed => Bool.noConfusion failed
    | false =>
      constructor
      · rintro ⟨same, _⟩ _ call' there'
        obtain rfl := Option.mem_unique there there'
        exact Nat.add_left_cancel same
      · intro none
        exact ⟨congrArg (state.sentBytes + ·) (none rfl call there), window⟩
  | timeout =>
    obtain ⟨_, rfl⟩ := Option.ite_some_none_eq_some.mp taken
    exact iff_of_true ⟨outgoing, windowed.window⟩ trivial
  | deliver =>
    obtain ⟨parcel, there, rfl⟩ := Option.map_eq_some_iff.mp taken
    exact iff_of_true ⟨outgoing, windowed.window⟩ trivial
  | onAckReceived =>
    obtain ⟨numBytes, there, rfl⟩ := Option.map_eq_some_iff.mp taken
    exact iff_of_true ⟨outgoing, windowed.window⟩ trivial

end Steps

/-- The writer and its peer agree on the bytes, and the window holds, in every state of exactly
the runs in which nothing but empty transactions is sent in one piece and no block fails. -/
theorem windowed_iff_counts (dataSize : Parcel → Nat) (actions : List Action) (final : FlowControl) :
    Run (step dataSize) (Counts dataSize) initial actions final ↔
      Reach (step dataSize) initial actions final ∧
        ∀ done later, actions = done ++ later → ∀ middle,
          Reach (step dataSize) initial done middle → Windowed middle :=
  Run.iff_always (fun (conserved : Conserved dataSize _) taken => conserved.step taken)
    windowed_step_iff conserved_initial windowed_initial actions final

/-- The size of a parcel, four bytes for a number. -/
def parcelBytes (parcel : Parcel) : Nat :=
  (parcel.map fun value =>
    match value with
    | .int32 _ => 4
    | .int64 _ => 8
    | .string value => 4 + value.length
    | .byteArray value => 4 + value.length).sum

/-- A client that closes its side of a call. -/
def halfClose : Transaction := ⟨true, none, [], none, some [], [], 0, by decide, fun _ => ⟨rfl, rfl⟩⟩

/-- The bytes of a small transaction are not counted by the writer. -/
theorem small_transaction_uncounted :
    ∃ state, Reach (step parcelBytes) initial [.rpcCall 0 halfClose true] state ∧
      ¬ Windowed state := by
  obtain ⟨state, reach, seen⟩ := exists_reach (step parcelBytes) initial
    [.rpcCall 0 halfClose true]
    (fun state => (state.writer.numOutgoingBytes, state.sentBytes)) (0, 8) (by decide)
  obtain ⟨outgoing, sent⟩ := Prod.mk.inj seen
  refine ⟨state, reach, fun windowed => ?_⟩
  have same := windowed.outgoing
  rw [outgoing, sent] at same
  cases same

end FlowControl

end GrpcCore.Binder
