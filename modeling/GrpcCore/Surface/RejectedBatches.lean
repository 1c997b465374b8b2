import GrpcCore.Surface.CallBatch

/-!
# Rejected batches

What a batch leaves behind that is answered with an error. The marks of the ops
in flight are all put back; the batch control of the first op is not.
-/

namespace GrpcCore.Surface

open Call

open Hpack (Bytes Header ascii)

/-! ## What is put back -/

/-- A mark of the call that the ops rewritten so far have set if `asked`, and that
was not set before. -/
structure Marks (before after asked : Bool) : Prop where
  after_eq : after = (before || asked)
  fresh : asked = true → before = false

theorem Marks.refl (mark : Bool) : Marks mark mark false :=
  ⟨(Bool.or_false mark).symm, Bool.noConfusion⟩

theorem Marks.set {before after asked : Bool} (marks : Marks before after asked)
    (unset : after = false) : Marks before true true := by
  have before_unset : before = false := by
    cases before with
    | false => rfl
    | true => rw [marks.after_eq] at unset; exact unset
  exact ⟨(Bool.or_true before).symm, fun _ => before_unset⟩

theorem Marks.restored {before after asked : Bool} (marks : Marks before after asked) :
    (after && !asked) = before := by
  cases asked with
  | false => rw [marks.after_eq, Bool.or_false, Bool.not_false, Bool.and_true]
  | true => rw [marks.fresh rfl, Bool.not_true, Bool.and_false]

structure Reversible (start : Call) (progress : Progress) : Prop where
  batches : progress.world.call.activeBatches = start.activeBatches
  sentInitialMetadata : Marks start.sentInitialMetadata
    progress.world.call.sentInitialMetadata progress.streamOp.sendInitialMetadata
  sendingMessage : Marks start.sendingMessage
    progress.world.call.sendingMessage progress.streamOp.sendMessage
  sentFinalOp : Marks start.sentFinalOp
    progress.world.call.sentFinalOp progress.streamOp.sendTrailingMetadata
  receivedInitialMetadata : Marks start.receivedInitialMetadata
    progress.world.call.receivedInitialMetadata progress.streamOp.recvInitialMetadata
  receivingMessage : Marks start.receivingMessage
    progress.world.call.receivingMessage progress.streamOp.recvMessage
  requestedFinalOp : Marks start.requestedFinalOp
    progress.world.call.requestedFinalOp progress.streamOp.recvTrailingMetadata

theorem Reversible.refl (world : World) : Reversible world.call { world := world } :=
  ⟨rfl, .refl _, .refl _, .refl _, .refl _, .refl _, .refl _⟩

def Outcome.Keeps (start : Call) : Outcome → Prop
  | .next progress => Reversible start progress
  | .doneWithError _ progress => Reversible start progress
  | .aborted => True

section Ops

variable {start : Call} {progress : Progress}

section

variable (kept : Reversible start progress) (flags : UInt32)
include kept flags

theorem sendInitialMetadataOp_keeps (metadata : List Header) (level : Option Nat) :
    (sendInitialMetadataOp progress flags metadata level).Keeps start := by
  simp only [sendInitialMetadataOp]
  split
  · exact kept
  split
  · exact kept
  next _ sent =>
    have unset := eq_false_of_ne_true sent
    split
    · exact { kept with }
    split
    · exact { kept with sentInitialMetadata := kept.sentInitialMetadata.set unset }
    · exact { kept with sentInitialMetadata := kept.sentInitialMetadata.set unset }

theorem sendMessageOp_keeps (place : Option Nat) :
    (sendMessageOp progress flags place).Keeps start := by
  simp only [sendMessageOp]
  split
  · exact kept
  cases place with
  | none => exact kept
  | some =>
    dsimp only
    split
    · exact kept
    next _ sending =>
      split
      · exact trivial
      · exact { kept with
          sendingMessage := kept.sendingMessage.set (eq_false_of_ne_true sending) }

theorem sendCloseFromClientOp_keeps : (sendCloseFromClientOp progress flags).Keeps start := by
  simp only [sendCloseFromClientOp]
  split
  · exact kept
  split
  · exact kept
  split
  · exact kept
  next _ sent =>
    exact { kept with sentFinalOp := kept.sentFinalOp.set (eq_false_of_ne_true sent) }

theorem sendStatusFromServerOp_keeps (metadata : List Header) (status : Int)
    (details : Option Bytes) :
    (sendStatusFromServerOp progress flags metadata status details).Keeps start := by
  simp only [sendStatusFromServerOp]
  split
  · exact kept
  split
  · exact kept
  split
  · exact kept
  next _ sent =>
    have marks := kept.sentFinalOp.set (eq_false_of_ne_true sent)
    split
    · exact kept
    split
    · exact trivial
    split
    · exact { kept with sentFinalOp := marks }
    · exact { kept with sentFinalOp := marks }

theorem recvInitialMetadataOp_keeps (place : Nat) :
    (recvInitialMetadataOp progress flags place).Keeps start := by
  simp only [recvInitialMetadataOp]
  split
  · exact kept
  split
  · exact kept
  next _ received =>
    exact { kept with
      receivedInitialMetadata := kept.receivedInitialMetadata.set (eq_false_of_ne_true received) }

theorem recvMessageOp_keeps (place : Nat) : (recvMessageOp progress flags place).Keeps start := by
  simp only [recvMessageOp]
  split
  · exact kept
  split
  · exact kept
  next _ receiving =>
    exact { kept with
      receivingMessage := kept.receivingMessage.set (eq_false_of_ne_true receiving) }

theorem recvStatusOnClientOp_keeps (metadata status : Nat) :
    (recvStatusOnClientOp progress flags metadata status).Keeps start := by
  simp only [recvStatusOnClientOp]
  split
  · exact kept
  split
  · exact kept
  split
  · exact kept
  next _ requested =>
    exact { kept with
      requestedFinalOp := kept.requestedFinalOp.set (eq_false_of_ne_true requested) }

theorem recvCloseOnServerOp_keeps (cancelled : Nat) :
    (recvCloseOnServerOp progress flags cancelled).Keeps start := by
  simp only [recvCloseOnServerOp]
  split
  · exact kept
  split
  · exact kept
  split
  · exact kept
  next _ requested =>
    exact { kept with
      requestedFinalOp := kept.requestedFinalOp.set (eq_false_of_ne_true requested) }

end

theorem rewriteOp_keeps (kept : Reversible start progress) (op : Op) :
    (rewriteOp progress op).Keeps start := by
  rw [rewriteOp]
  split
  · exact kept
  cases op.data with
  | sendInitialMetadata => apply sendInitialMetadataOp_keeps kept
  | sendMessage => apply sendMessageOp_keeps kept
  | sendCloseFromClient => apply sendCloseFromClientOp_keeps kept
  | sendStatusFromServer => apply sendStatusFromServerOp_keeps kept
  | recvInitialMetadata => apply recvInitialMetadataOp_keeps kept
  | recvMessage => apply recvMessageOp_keeps kept
  | recvStatusOnClient => apply recvStatusOnClientOp_keeps kept
  | recvCloseOnServer => apply recvCloseOnServerOp_keeps kept

theorem rewriteOps_keeps (ops : List Op) (kept : Reversible start progress) :
    (rewriteOps progress ops).Keeps start := by
  induction ops generalizing progress with
  | nil => exact kept
  | cons op ops ih =>
    have one := rewriteOp_keeps kept op
    rw [rewriteOps]
    cases rewritten : rewriteOp progress op with
    | next =>
      rw [rewritten] at one
      exact ih one
    | doneWithError =>
      rw [rewritten] at one
      exact one
    | aborted => exact trivial

end Ops

/-- The ops in flight and the batch controls, as far as they decide about a batch. -/
structure Call.SameMarks (call call' : Call) : Prop where
  sentInitialMetadata : call'.sentInitialMetadata = call.sentInitialMetadata
  sendingMessage : call'.sendingMessage = call.sendingMessage
  sentFinalOp : call'.sentFinalOp = call.sentFinalOp
  receivedInitialMetadata : call'.receivedInitialMetadata = call.receivedInitialMetadata
  receivingMessage : call'.receivingMessage = call.receivingMessage
  requestedFinalOp : call'.requestedFinalOp = call.requestedFinalOp

theorem reverseMutations_restores {start : Call} {progress : Progress}
    (kept : Reversible start progress) :
    start.SameMarks (reverseMutations progress).call where
  sentInitialMetadata := kept.sentInitialMetadata.restored
  sendingMessage := kept.sendingMessage.restored
  sentFinalOp := kept.sentFinalOp.restored
  receivedInitialMetadata := kept.receivedInitialMetadata.restored
  receivingMessage := kept.receivingMessage.restored
  requestedFinalOp := kept.requestedFinalOp.restored

/-! ## What is left behind -/

theorem reuseOrAllocate_of_free {call : Call} (first : Op) (tag : Nat) (isClosure : Bool)
    (free : call.slotTaken (batchSlotForOp first.data) = false) :
    ∃ call', call.reuseOrAllocateBatchControl first tag isClosure = some call' ∧
      call'.slotTaken (batchSlotForOp first.data) = true ∧ call.SameMarks call' := by
  simp only [reuseOrAllocateBatchControl, free, Bool.false_eq_true, if_false,
    Option.some.injEq, exists_eq_left']
  refine ⟨?_, ⟨rfl, rfl, rfl, rfl, rfl, rfl⟩⟩
  simp only [slotTaken, Function.update_self]

theorem reuseOrAllocate_of_taken {call : Call} (first : Op) (tag : Nat) (isClosure : Bool)
    (taken : call.slotTaken (batchSlotForOp first.data) = true) :
    call.reuseOrAllocateBatchControl first tag isClosure = none := by
  simp only [reuseOrAllocateBatchControl, taken, if_true]

theorem Call.slotTaken_of_batches {call call' : Call}
    (same : call'.activeBatches = call.activeBatches) (slot : Fin 6) :
    call'.slotTaken slot = call.slotTaken slot := by
  simp only [slotTaken, same]

/-- A batch is refused at once, with nothing changed, or the slot of its first op
was free and is taken afterwards, with the marks of the ops put back. -/
theorem callStartBatch_rejected {world world' : World} {ops : List Op} {tag : Nat}
    {isClosure : Bool} {outputs : List Output} {error : CallError}
    (started : callStartBatch world ops tag isClosure = some (world', outputs))
    (answered : .answer error ∈ outputs) (rejected : error ≠ .ok) :
    ∃ first rest, ops = first :: rest ∧
      (world.call.slotTaken (batchSlotForOp first.data) = true ∧ world' = world ∨
        world.call.slotTaken (batchSlotForOp first.data) = false ∧
          world'.call.slotTaken (batchSlotForOp first.data) = true ∧
          world.call.SameMarks world'.call) := by
  cases ops with
  | nil =>
    obtain ⟨-, rfl⟩ : world = world' ∧ _ = outputs := by simpa [callStartBatch] using started
    simp [rejected] at answered
  | cons first rest =>
    refine ⟨first, rest, rfl, ?_⟩
    cases slot : world.call.slotTaken (batchSlotForOp first.data) with
    | true =>
      simp only [callStartBatch, reuseOrAllocate_of_taken first tag isClosure slot, Option.some.injEq,
        Prod.mk.injEq] at started
      exact .inl ⟨rfl, started.1.symm⟩
    | false =>
      obtain ⟨call, allocated, taken, marks⟩ := reuseOrAllocate_of_free first tag isClosure slot
      simp only [callStartBatch, allocated] at started
      have kept := rewriteOps_keeps (first :: rest) (Reversible.refl { world with call := call })
      cases rewritten : rewriteOps { world := { world with call := call } } (first :: rest) with
      | next =>
        simp only [rewritten, executeRewritten, Option.some.injEq, Prod.mk.injEq] at started
        obtain ⟨-, rfl⟩ := started
        simp [executedBatch, rejected] at answered
      | aborted => simp [rewritten] at started
      | doneWithError =>
        simp only [rewritten, Option.some.injEq, Prod.mk.injEq] at started
        rw [rewritten] at kept
        obtain ⟨rfl, -⟩ := started
        refine .inr ⟨rfl, ?_, ?_⟩
        · rw [← taken]
          exact slotTaken_of_batches kept.batches _
        · have restored := reverseMutations_restores kept
          exact {
            sentInitialMetadata :=
              restored.sentInitialMetadata.trans marks.sentInitialMetadata
            sendingMessage := restored.sendingMessage.trans marks.sendingMessage
            sentFinalOp := restored.sentFinalOp.trans marks.sentFinalOp
            receivedInitialMetadata :=
              restored.receivedInitialMetadata.trans marks.receivedInitialMetadata
            receivingMessage := restored.receivingMessage.trans marks.receivingMessage
            requestedFinalOp := restored.requestedFinalOp.trans marks.requestedFinalOp }

/-! ## No effect -/

/-- No later events tell the worlds apart, neither by the answers to batches nor by
what the transport is given to send, and the byte buffers are the same. -/
structure SameAsBefore (world world' : World) : Prop where
  observed : ∀ events, observe world' events = observe world events
  buffers : world'.buffers = world.buffers

/-- The batch is refused before its first op is looked at: the reserved argument
is given, or the slot of the first op's kind is taken. -/
def RefusedAtOnce (world : World) (ops : List Op) (isClosure reserved : Bool) : Prop :=
  (reserved = true ∧ isClosure = false) ∨
    ∃ first ∈ ops.head?, world.call.slotTaken (batchSlotForOp first.data) = true

def refusedOp (first : Op) : Op := { first with reserved := true }

theorem observe_refusedOp (world : World) (first : Op) :
    observe world [.startBatch [refusedOp first] 0 true false] =
      if world.call.slotTaken (batchSlotForOp first.data) = true
      then [[.answer .tooManyOperations]] else [[.answer .callError]] := by
  cases slot : world.call.slotTaken (batchSlotForOp first.data) with
  | true =>
    have held := reuseOrAllocate_of_taken (refusedOp first) 0 true slot
    simp [observe, World.react, grpcCallStartBatch, callStartBatch, held]
  | false =>
    obtain ⟨call, allocated, _⟩ := reuseOrAllocate_of_free (refusedOp first) 0 true slot
    have refused : rewriteOp { world := { world with call := call } } (refusedOp first) =
        .doneWithError .callError { world := { world with call := call } } := rfl
    simp [observe, World.react, grpcCallStartBatch, callStartBatch, allocated, rewriteOps, refused]

/-- A rejected batch has no effect exactly if it is refused at once. -/
theorem rejection_without_effect_iff {world world' : World} {ops : List Op} {tag : Nat}
    {isClosure reserved : Bool} {outputs : List Output} {error : CallError}
    (started : grpcCallStartBatch world ops tag isClosure reserved = some (world', outputs))
    (answered : .answer error ∈ outputs) (rejected : error ≠ .ok) :
    SameAsBefore world world' ↔ RefusedAtOnce world ops isClosure reserved := by
  rw [grpcCallStartBatch] at started
  split at started
  next guarded =>
    obtain ⟨given, open_⟩ := Bool.and_eq_true_iff.mp guarded
    simp only [Option.some.injEq, Prod.mk.injEq] at started
    obtain ⟨rfl, -⟩ := started
    exact ⟨fun _ => .inl ⟨given, by simpa using open_⟩, fun _ => ⟨fun _ => rfl, rfl⟩⟩
  next unguarded =>
    obtain ⟨first, rest, rfl, ⟨taken, rfl⟩ | ⟨free, taken, _⟩⟩ :=
      callStartBatch_rejected started answered rejected
    · exact ⟨fun _ => .inr ⟨first, rfl, taken⟩, fun _ => ⟨fun _ => rfl, rfl⟩⟩
    · constructor
      · intro same
        have answers := same.observed [.startBatch [refusedOp first] 0 true false]
        rw [observe_refusedOp, observe_refusedOp, taken, free] at answers
        exact absurd answers (by decide)
      · rintro (⟨given, opened⟩ | ⟨op, found, held⟩)
        · exact absurd (Bool.and_eq_true_iff.mpr ⟨given, by rw [opened]; rfl⟩) unguarded
        · obtain rfl := Option.some.inj found
          rw [held] at free
          cases free

/-- A client's call whose application holds a message. -/
def idleCall : World := created true none [] none fun _ => { data := ascii "hello" }

/-- The message with a second op, which takes no flags. -/
def offeredBatch (flags : UInt32) : List Op :=
  [{ data := .sendMessage (some 0) }, { data := .recvMessage 1, flags := flags }]

theorem rejection_without_effect_iff_offered :
    ∃ world', grpcCallStartBatch idleCall (offeredBatch 1) 1 false false =
        some (world', [.answer .invalidFlags]) ∧
      (SameAsBefore idleCall world' ↔ RefusedAtOnce idleCall (offeredBatch 1) false false) :=
  ⟨_, rfl, rejection_without_effect_iff rfl (.head []) (by decide)⟩

/-- The rejected batch empties the message, and once its flags are put right it is
refused where it would have been accepted. -/
theorem rejection_takes_slot_and_message :
    ∃ world', grpcCallStartBatch idleCall (offeredBatch 1) 1 false false =
        some (world', [.answer .invalidFlags]) ∧
      (idleCall.buffers 0).data = ascii "hello" ∧ (world'.buffers 0).data = [] ∧
      observe idleCall [.startBatch (offeredBatch 0) 2 false false] =
        [[.executeBatch none (some ⟨ascii "hello", 0⟩) none false true false, .answer .ok]] ∧
      observe world' [.startBatch (offeredBatch 0) 2 false false] =
        [[.answer .tooManyOperations]] ∧
      ¬ SameAsBefore idleCall world' := by
  refine ⟨_, rfl, by decide, by decide, by decide, by decide, fun same => ?_⟩
  exact absurd (same.observed [.startBatch (offeredBatch 0) 2 false false]) (by decide)

end GrpcCore.Surface
