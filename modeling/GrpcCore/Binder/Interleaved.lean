import GrpcCore.Binder.Pieces

/-!
# Interleaved calls

The pieces of calls reach a reader in any order that keeps the order of each call. What it does
for a call depends on the pieces of this call alone.
-/

namespace GrpcCore.Binder

open WireReader

/-- The reader after a list of transactions, and whether it accepted them all. -/
def WireReader.processAll (dataSize : Parcel → Nat) :
    WireReader → List (Nat × Parcel) → Option (WireReader × Bool)
  | reader, [] => some (reader, true)
  | reader, (code, parcel) :: wire =>
    (reader.processStreamingTransaction code dataSize parcel).bind fun (reader, accepted, _) =>
      (processAll dataSize reader wire).map fun (reader, all) => (reader, accepted && all)

def maxSeqNum : Nat := 2 ^ 31 - 1

def transactionsOf (code : Nat) (wire : List (Nat × Parcel)) : List Parcel :=
  (wire.filter (·.1 = code)).map Prod.snd

/-- A reader accepts pieces of a call that are numbered from `seq` on when it expects `expected`.
Pieces without flags are passed over. -/
def Accepts : Nat → Nat → List Piece → Prop
  | _, _, [] => True
  | seq, expected, piece :: pieces =>
    if piece.flags = 0#32 then Accepts (seq + 1) expected pieces
    else seq = expected ∧ expected < maxSeqNum ∧ Accepts (seq + 1) (expected + 1) pieces

def notificationsOf (code : Nat) : ByteString → List Piece → List Notification
  | _, [] => []
  | buffer, piece :: pieces =>
    if piece.flags = 0#32 then notificationsOf code buffer pieces
    else piece.notifications code buffer ++ notificationsOf code (piece.buffered buffer) pieces

section Step

variable {reader : WireReader} {code seq : Nat} {piece : Piece} {dataSize : Parcel → Nat}

theorem process_ignored (reader : WireReader) (code seq : Nat) (dataSize : Parcel → Nat)
    (ignored : piece.flags = 0#32) :
    ∃ bytes ack, reader.processStreamingTransaction code dataSize (piece.parcel seq) =
      some ({ reader with bytes := bytes }, true, ack) := by
  unfold processStreamingTransaction processStreamingTransactionImpl
    Piece.parcel
  rw [ignored]
  exact ⟨_, _, rfl⟩

theorem processImpl_eq (some_ : piece.flags ≠ 0#32) :
    reader.processStreamingTransactionImpl code (piece.parcel seq) =
      reader.processSeqNum code piece.flags seq
        ((if piece.flags.has kFlagPrefix then piece.tx.writeInitialMetadata else []) ++
          ((if piece.flags.has kFlagMessageData then writeByteArrayWithLength piece.data else []) ++
            (if piece.flags.has kFlagSuffix then piece.tx.writeTrailingMetadata else []))) := by
  have same : BitVec.ofInt 32 piece.flags.toInt = piece.flags := BitVec.ofInt_toInt
  unfold processStreamingTransactionImpl Piece.parcel
  dsimp only [readInt32]
  rw [same, if_neg some_]

theorem process_unexpected (dataSize : Parcel → Nat) (some_ : piece.flags ≠ 0#32)
    (unexpected : seq ≠ reader.expectedSeqNum code) :
    ∃ reader' ack, reader.processStreamingTransaction code dataSize (piece.parcel seq) =
      some (reader', false, ack) := by
  have different : (seq : Int) < 0 ∨ (seq : Int) ≠ reader.expectedSeqNum code :=
    .inr fun same => unexpected (Int.ofNat.inj same)
  unfold processStreamingTransaction
  dsimp only
  rw [processImpl_eq some_]
  unfold processSeqNum
  rw [if_pos different]
  exact ⟨_, _, rfl⟩

theorem process_exhausted (some_ : piece.flags ≠ 0#32) (expected : seq = reader.expectedSeqNum code)
    (exhausted : ¬ seq < maxSeqNum) :
    reader.processStreamingTransaction code dataSize (piece.parcel seq) = none := by
  have same : ¬ ((seq : Int) < 0 ∨ (seq : Int) ≠ reader.expectedSeqNum code) := by
    omega
  unfold processStreamingTransaction
  dsimp only
  rw [processImpl_eq some_]
  unfold processSeqNum
  rw [if_neg same, if_neg (expected ▸ exhausted)]
  rfl

theorem processSeqNum_expected {flags : Flags} {parcel : Parcel}
    (expected : seq = reader.expectedSeqNum code) (few : seq < maxSeqNum) :
    reader.processSeqNum code flags seq parcel = some (Reading.receive
      ⟨{ reader with
          expectedSeqNum :=
            Function.update reader.expectedSeqNum code (reader.expectedSeqNum code + 1) },
        flags, parcel⟩ code flags) := by
  have same : ¬ ((seq : Int) < 0 ∨ (seq : Int) ≠ reader.expectedSeqNum code) := by
    omega
  unfold processSeqNum
  rw [if_neg same]
  exact if_pos (expected ▸ few)

theorem process_accepted (dataSize : Parcel → Nat) (side : reader.isClient = !piece.tx.isClient)
    (some_ : piece.flags ≠ 0#32) (expected : seq = reader.expectedSeqNum code)
    (few : seq < maxSeqNum) :
    ∃ bytes ack, reader.processStreamingTransaction code dataSize (piece.parcel seq) =
      some ({ reader.take code piece with bytes := bytes }, true, ack) := by
  unfold processStreamingTransaction
  dsimp only
  rw [processImpl_eq some_]
  generalize reader.bytes.received _ = bytes
  have counted : seq = expectedSeqNum { reader with bytes := bytes } code := expected
  rw [processSeqNum_expected counted few]
  generalize started : Reading.mk _ piece.flags _ = reading
  have side' : reading.reader.isClient = !piece.tx.isClient := by
    rw [← started]
    exact side
  obtain ⟨reading', received, reader'⟩ := receive_piece code side' (by rw [← started])
  rw [received]
  dsimp only [Option.map_some, finish]
  rw [reader', ← started]
  exact ⟨_, _, rfl⟩

end Step

def WireReader.notified (reader : WireReader) (code : Nat) : List Notification :=
  reader.notifications.filter fun notification => notification.code = code

section Wires

variable {reader reader' : WireReader} {code : Nat} {dataSize : Parcel → Nat}
  {wire : List (Nat × Parcel)} {seqs : Nat → Nat} {pieces : Nat → List Piece}

theorem code_of_mem_notifications {piece : Piece} {buffer : ByteString}
    {notification : Notification} (within : notification ∈ piece.notifications code buffer) :
    notification.code = code := by
  unfold Piece.notifications at within
  simp only [List.mem_append] at within
  rcases within with first | second | third
  · split at first
    · rw [List.mem_singleton.mp first]
      rfl
    · cases first
  · split at second
    · rw [List.mem_singleton.mp second]
      rfl
    · cases second
  · split at third
    · rw [List.mem_singleton.mp third]
      rfl
    · cases third

theorem notified_take (piece : Piece) (other : Nat) : (reader.take code piece).notified other =
    reader.notified other ++
      if other = code then piece.notifications code (reader.messageBuffer code) else [] := by
  unfold notified take
  rw [List.filter_append]
  split
  case isTrue same =>
    subst same
    rw [List.filter_eq_self.mpr fun notification within =>
      decide_eq_true (code_of_mem_notifications within)]
  case isFalse different =>
    refine congrArg _ (List.filter_eq_nil_iff.mpr fun notification within => ?_)
    rw [code_of_mem_notifications within, decide_eq_true_eq]
    exact fun same => different same.symm

theorem transactionsOf_cons (parcel : Parcel) (other : Nat) :
    transactionsOf other ((code, parcel) :: wire) =
      if other = code then parcel :: transactionsOf other wire else transactionsOf other wire := by
  unfold transactionsOf
  by_cases same : other = code
  · simp [same]
  · simp [same, Ne.symm same]

def Carries (wire : List (Nat × Parcel)) (seqs : Nat → Nat) (pieces : Nat → List Piece) : Prop :=
  ∀ code, transactionsOf code wire = parcelsFrom (seqs code) (pieces code)

theorem Carries.nil (carries : Carries [] seqs pieces) (code : Nat) : pieces code = [] := by
  have none := carries code
  cases is : pieces code with
  | nil => rfl
  | cons piece rest =>
    rw [is] at none
    cases none

theorem Carries.cons {parcel : Parcel} (carries : Carries ((code, parcel) :: wire) seqs pieces) :
    ∃ piece rest, pieces code = piece :: rest ∧ parcel = piece.parcel (seqs code) ∧
      Carries wire (Function.update seqs code (seqs code + 1))
        (Function.update pieces code rest) := by
  have first := carries code
  rw [transactionsOf_cons, if_pos rfl] at first
  cases is : pieces code with
  | nil =>
    rw [is] at first
    cases first
  | cons piece rest =>
    rw [is, parcelsFrom, List.cons.injEq] at first
    refine ⟨piece, rest, rfl, first.1, fun other => ?_⟩
    by_cases same : other = code
    · subst same
      rw [Function.update_self, Function.update_self]
      exact first.2
    · rw [Function.update_of_ne same, Function.update_of_ne same, ← carries other,
        transactionsOf_cons, if_neg same]

def FromPeer (isClient : Bool) (pieces : Nat → List Piece) : Prop :=
  ∀ code, ∀ piece ∈ pieces code, isClient = !piece.tx.isClient

theorem FromPeer.rest {isClient : Bool} {piece : Piece} {rest : List Piece}
    (peer : FromPeer isClient pieces) (is : pieces code = piece :: rest) :
    FromPeer isClient (Function.update pieces code rest) := by
  intro other piece' within
  by_cases same : other = code
  · subst same
    rw [Function.update_self] at within
    exact peer other piece' (is ▸ List.mem_cons_of_mem _ within)
  · rw [Function.update_of_ne same] at within
    exact peer other piece' within

def AllAccepted (seqs expected : Nat → Nat) (pieces : Nat → List Piece) : Prop :=
  ∀ code, Accepts (seqs code) (expected code) (pieces code)

theorem allAccepted_cons {expected : Nat → Nat} {piece : Piece} {rest : List Piece}
    (is : pieces code = piece :: rest) : AllAccepted seqs expected pieces ↔
      if piece.flags = 0#32 then
        AllAccepted (Function.update seqs code (seqs code + 1)) expected
          (Function.update pieces code rest)
      else seqs code = expected code ∧ expected code < maxSeqNum ∧
        AllAccepted (Function.update seqs code (seqs code + 1))
          (Function.update expected code (expected code + 1))
          (Function.update pieces code rest) := by
  have others (expected' : Nat → Nat)
      (elsewhere : ∀ other, other ≠ code → expected' other = expected other) :
      AllAccepted (Function.update seqs code (seqs code + 1)) expected'
          (Function.update pieces code rest) ↔
        Accepts (seqs code + 1) (expected' code) rest ∧
          ∀ other, other ≠ code → Accepts (seqs other) (expected other) (pieces other) := by
    constructor
    · intro all
      constructor
      · have here := all code
        rwa [Function.update_self, Function.update_self] at here
      · intro other different
        have there := all other
        rwa [Function.update_of_ne different, Function.update_of_ne different,
          elsewhere other different] at there
    · rintro ⟨here, there⟩ other
      by_cases same : other = code
      · subst same
        rwa [Function.update_self, Function.update_self]
      · rw [Function.update_of_ne same, Function.update_of_ne same, elsewhere other same]
        exact there other same
  have apart : AllAccepted seqs expected pieces ↔
      Accepts (seqs code) (expected code) (piece :: rest) ∧
        ∀ other, other ≠ code → Accepts (seqs other) (expected other) (pieces other) := by
    constructor
    · intro all
      exact ⟨is ▸ all code, fun other _ => all other⟩
    · rintro ⟨here, there⟩ other
      by_cases same : other = code
      · subst same
        rwa [is]
      · exact there other same
  rw [apart, Accepts]
  split
  · exact (others expected fun _ _ => rfl).symm
  · rw [others _ fun other different => Function.update_of_ne different _ _, Function.update_self,
      and_assoc, and_assoc]

theorem notificationsOf_cons {piece : Piece} {rest : List Piece}
    (is : pieces code = piece :: rest) (buffer : Nat → ByteString) (other : Nat) :
    notificationsOf other (buffer other) (pieces other) =
      if piece.flags = 0#32 then
        notificationsOf other (buffer other) (Function.update pieces code rest other)
      else
        (if other = code then piece.notifications code (buffer code) else []) ++
          notificationsOf other
            (Function.update buffer code (piece.buffered (buffer code)) other)
            (Function.update pieces code rest other) := by
  by_cases same : other = code
  · subst same
    rw [is, notificationsOf, Function.update_self, Function.update_self, if_pos rfl]
  · rw [Function.update_of_ne same, Function.update_of_ne same, if_neg same, List.nil_append,
      ite_self]

/-- A reader accepts a wire exactly when every call is accepted, and has then notified what the
pieces of the calls say. -/
theorem processAll_spec (reader : WireReader) (carries : Carries wire seqs pieces)
    (peer : FromPeer reader.isClient pieces) :
    (AllAccepted seqs reader.expectedSeqNum pieces →
      ∃ reader', reader.processAll dataSize wire = some (reader', true) ∧
        ∀ code, reader'.notified code =
          reader.notified code ++ notificationsOf code (reader.messageBuffer code) (pieces code)) ∧
      (∀ reader', reader.processAll dataSize wire = some (reader', true) →
        AllAccepted seqs reader.expectedSeqNum pieces) := by
  induction wire generalizing reader seqs pieces with
  | nil =>
    have none := carries.nil
    refine ⟨fun _ => ⟨reader, rfl, fun code => ?_⟩, fun _ _ code => ?_⟩
    · rw [none code]
      exact (List.append_nil _).symm
    · rw [none code]
      trivial
  | cons transaction wire ih =>
    obtain ⟨code, parcel⟩ := transaction
    obtain ⟨piece, rest, is, rfl, carries'⟩ := carries.cons
    have peer' := peer.rest is
    have said := notificationsOf_cons is reader.messageBuffer
    rw [allAccepted_cons is]
    unfold processAll
    by_cases ignored : piece.flags = 0#32
    · simp only [if_pos ignored] at said ⊢
      obtain ⟨bytes, ack, done⟩ := process_ignored reader code (seqs code) dataSize ignored
      obtain ⟨accepts, accepted⟩ := ih { reader with bytes := bytes } carries' peer'
      rw [done, Option.bind_some]
      constructor
      · intro all
        obtain ⟨reader', processed, notified⟩ := accepts all
        refine ⟨reader', ?_, fun other => ?_⟩
        · rw [processed]
          rfl
        · rw [notified, said]
          rfl
      · intro reader' processed
        obtain ⟨⟨_, all⟩, processed', same⟩ := Option.map_eq_some_iff.mp processed
        obtain ⟨rfl, rfl⟩ := Prod.mk.inj same
        exact accepted _ processed'
    · simp only [if_neg ignored] at said ⊢
      by_cases expected : seqs code = reader.expectedSeqNum code
      · by_cases few : seqs code < maxSeqNum
        · obtain ⟨bytes, ack, done⟩ := process_accepted dataSize (peer code piece
            (is ▸ List.mem_cons_self ..)) ignored expected few
          obtain ⟨accepts, accepted⟩ :=
            ih { reader.take code piece with bytes := bytes } carries' peer'
          rw [done, Option.bind_some]
          constructor
          · rintro ⟨_, _, all⟩
            obtain ⟨reader', processed, notified⟩ := accepts all
            refine ⟨reader', ?_, fun other => ?_⟩
            · rw [processed]
              rfl
            · rw [notified, said, ← List.append_assoc]
              exact congrArg (· ++ _) (notified_take piece other)
          · intro reader' processed
            obtain ⟨⟨_, all⟩, processed', same⟩ := Option.map_eq_some_iff.mp processed
            obtain ⟨rfl, rfl⟩ := Prod.mk.inj same
            exact ⟨expected, expected ▸ few, accepted _ processed'⟩
        · rw [process_exhausted ignored expected few]
          refine ⟨fun all => absurd (expected ▸ all.2.1) few, nofun⟩
      · obtain ⟨reader', ack, done⟩ := process_unexpected dataSize ignored expected
        rw [done]
        refine ⟨fun all => absurd all.1 expected, fun reader'' processed => ?_⟩
        obtain ⟨_, _, same⟩ := Option.map_eq_some_iff.mp processed
        cases same

end Wires

end GrpcCore.Binder
