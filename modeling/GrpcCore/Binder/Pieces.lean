import GrpcCore.Binder.WireReader

/-!
# The pieces of a transaction

Written whole or in blocks, a transaction becomes pieces of one form, and a reader does with a
piece what its flags say.
-/

namespace GrpcCore.Binder

open Transaction

/-- A piece of a transaction, with its flags and its part of the message data. -/
structure Piece where
  tx : Transaction
  flags : Flags
  data : ByteString
  undescribed : flags.has kFlagStatusDescription = false

def Piece.parcel (piece : Piece) (seq : Nat) : Parcel :=
  .int32 piece.flags.toInt :: .int32 seq ::
    ((if piece.flags.has kFlagPrefix then piece.tx.writeInitialMetadata else []) ++
      ((if piece.flags.has kFlagMessageData then writeByteArrayWithLength piece.data else []) ++
        (if piece.flags.has kFlagSuffix then piece.tx.writeTrailingMetadata else [])))

namespace Transaction

variable (tx : Transaction)

def wholePiece : Piece :=
  ⟨tx, tx.getFlags, tx.messageData.getD [], tx.has_getFlags_statusDescription⟩

def blockPiece (bytesSent : Nat) : Piece :=
  ⟨tx, tx.blockFlags bytesSent, ((tx.messageData.getD []).drop bytesSent).take
    (tx.blockSize bytesSent), tx.has_blockFlags_statusDescription bytesSent⟩

def blockPieces (bytesSent : Nat) : List Piece :=
  if bytesSent < (tx.messageData.getD []).length then
    tx.blockPiece bytesSent :: blockPieces (bytesSent + tx.blockSize bytesSent)
  else []
termination_by (tx.messageData.getD []).length - bytesSent
decreasing_by
  unfold blockSize kBlockSize
  omega

def pieces : List Piece :=
  if tx.canBeSentInOneTransaction then [tx.wholePiece] else tx.blockPieces 0

end Transaction

def parcelsFrom : Nat → List Piece → List Parcel
  | _, [] => []
  | seq, piece :: pieces => piece.parcel seq :: parcelsFrom (seq + 1) pieces

section Writer

variable (tx : Transaction)

theorem parcel_wholePiece (seq : Nat) : tx.wholePiece.parcel seq = tx.fastPathParcel seq := by
  unfold fastPathParcel Piece.parcel wholePiece
  simp only [List.append_assoc, List.cons_append, List.nil_append]

theorem parcel_blockPiece (bytesSent seq : Nat) :
    (tx.blockPiece bytesSent).parcel seq = tx.blockParcel bytesSent seq := by
  unfold blockParcel Piece.parcel blockPiece
  simp only [has_blockFlags_messageData, if_true, List.append_assoc, List.cons_append,
    List.nil_append]

theorem blockParcels_eq (bytesSent seq : Nat) :
    tx.blockParcels bytesSent seq = parcelsFrom seq (tx.blockPieces bytesSent) := by
  induction bytesSent, seq using blockParcels.induct tx with
  | case1 bytesSent seq more ih =>
    unfold blockParcels blockPieces
    rw [if_pos more, if_pos more, ih, parcelsFrom, parcel_blockPiece]
  | case2 bytesSent seq done =>
    unfold blockParcels blockPieces
    rw [if_neg done, if_neg done]
    rfl

theorem rpcCall_eq (seq : Nat) : tx.rpcCall seq = parcelsFrom seq tx.pieces := by
  unfold rpcCall pieces
  split
  · rw [parcelsFrom, parcel_wholePiece]
    rfl
  · exact blockParcels_eq tx 0 seq

end Writer

section Reader

def Piece.buffered (piece : Piece) (buffer : ByteString) : ByteString :=
  if piece.flags.has kFlagMessageData then
    if piece.flags.has kFlagMessageDataIsPartial then buffer ++ piece.data else []
  else buffer

def Piece.notifications (piece : Piece) (code : Nat) (buffer : ByteString) : List Notification :=
  (if piece.flags.has kFlagPrefix then
    [.recvInitialMetadata code (.ok (Reading.withPath (!piece.tx.isClient)
      (piece.tx.prefixMetadata.getD []) piece.tx.methodRef))]
  else []) ++
    ((if piece.flags.has kFlagMessageData && !piece.flags.has kFlagMessageDataIsPartial then
      [.recvMessage code (.ok (buffer ++ piece.data))]
    else []) ++
      (if piece.flags.has kFlagSuffix then
        [.recvTrailingMetadata code (.ok (piece.tx.suffixMetadata.getD [])) piece.flags.status]
      else []))

variable {reading : Reading} {piece : Piece} (code : Nat) {rest : Parcel}

def Reading.At (reading : Reading) (reader : WireReader) (rest : Parcel) : Prop :=
  reading.reader = reader ∧ reading.parcel = rest

theorem receivePrefix_piece (side : reading.reader.isClient = !piece.tx.isClient)
    (there : reading.parcel =
      (if piece.flags.has kFlagPrefix then piece.tx.writeInitialMetadata else []) ++ rest) :
    ∃ reading', reading.receivePrefix code piece.flags = .ok reading' ∧
      reading'.At { reading.reader with
        notifications := reading.reader.notifications ++
          (if piece.flags.has kFlagPrefix then
            [.recvInitialMetadata code (.ok (Reading.withPath (!piece.tx.isClient)
              (piece.tx.prefixMetadata.getD []) piece.tx.methodRef))]
          else []) } rest := by
  unfold Reading.receivePrefix
  split
  case isTrue has =>
    rw [if_pos has] at there
    unfold writeInitialMetadata at there
    have method : Reading.readMethodRef reading.reader.isClient reading.parcel =
        .ok (if piece.tx.isClient then piece.tx.methodRef else [],
          writeMetadata (piece.tx.prefixMetadata.getD []) ++ rest) := by
      rw [there, side]
      cases piece.tx.isClient with
      | true => rfl
      | false => rfl
    unfold Reading.read
    rw [method]
    dsimp only [Except.bind]
    rw [parseMetadata_write]
    refine ⟨_, rfl, ?_, rfl⟩
    dsimp only [Reading.completed, Reading.notify]
    rw [side]
    cases piece.tx.isClient with
    | true => rfl
    | false => rfl
  case isFalse without =>
    rw [if_neg without] at there
    refine ⟨reading, rfl, ?_, there⟩
    rw [List.append_nil]

theorem receiveMessageData_piece
    (there : reading.parcel =
      (if piece.flags.has kFlagMessageData then writeByteArrayWithLength piece.data else []) ++
        rest) :
    ∃ reading', reading.receiveMessageData code piece.flags = .ok reading' ∧
      reading'.At { reading.reader with
        messageBuffer := Function.update reading.reader.messageBuffer code
          (piece.buffered (reading.reader.messageBuffer code))
        notifications := reading.reader.notifications ++
          (if piece.flags.has kFlagMessageData && !piece.flags.has kFlagMessageDataIsPartial then
            [.recvMessage code (.ok (reading.reader.messageBuffer code ++ piece.data))]
          else []) } rest := by
  unfold Reading.receiveMessageData Piece.buffered
  cases has : piece.flags.has kFlagMessageData with
  | true =>
    rw [has, if_pos rfl] at there
    unfold Reading.read
    rw [there, readByteArrayWithLength_write]
    refine ⟨_, rfl, ?_⟩
    unfold Reading.At Reading.completed
    cases piece.flags.has kFlagMessageDataIsPartial with
    | true =>
      dsimp only [Reading.appendMessage]
      simp
    | false =>
      dsimp only [Reading.takeMessage, Reading.appendMessage]
      simp
  | false =>
    rw [has] at there
    refine ⟨reading, rfl, ?_, there⟩
    simp

theorem receiveSuffix_piece (side : reading.reader.isClient = !piece.tx.isClient)
    (there : reading.parcel =
      (if piece.flags.has kFlagSuffix then piece.tx.writeTrailingMetadata else []) ++ rest) :
    ∃ reading', reading.receiveSuffix code piece.flags = .ok reading' ∧
      reading'.At { reading.reader with
        notifications := reading.reader.notifications ++
          (if piece.flags.has kFlagSuffix then
            [.recvTrailingMetadata code (.ok (piece.tx.suffixMetadata.getD []))
              piece.flags.status]
          else []) } rest := by
  unfold Reading.receiveSuffix
  split
  case isTrue has =>
    rw [if_pos has] at there
    unfold Reading.read Reading.readDescription
    rw [piece.undescribed]
    dsimp only [Bool.false_eq_true, if_false, Except.bind]
    have trailing : Reading.readTrailingMetadata reading.reader.isClient reading.parcel =
        .ok (piece.tx.suffixMetadata.getD [], rest) := by
      rw [there, side]
      unfold writeTrailingMetadata Reading.readTrailingMetadata
      cases client : piece.tx.isClient with
      | true =>
        rw [(piece.tx.clientSide client).2]
        rfl
      | false =>
        rw [piece.tx.has_getFlags_statusDescription]
        exact parseMetadata_write _ rest
    rw [if_neg nofun]
    dsimp only
    rw [trailing]
    exact ⟨_, rfl, rfl, rfl⟩
  case isFalse without =>
    rw [if_neg without] at there
    refine ⟨reading, rfl, ?_, there⟩
    rw [List.append_nil]

def WireReader.take (reader : WireReader) (code : Nat) (piece : Piece) : WireReader :=
  { reader with
    expectedSeqNum :=
      Function.update reader.expectedSeqNum code (reader.expectedSeqNum code + 1)
    messageBuffer :=
      Function.update reader.messageBuffer code (piece.buffered (reader.messageBuffer code))
    notifications :=
      reader.notifications ++ piece.notifications code (reader.messageBuffer code) }

theorem receive_piece (side : reading.reader.isClient = !piece.tx.isClient)
    (there : reading.parcel =
      ((if piece.flags.has kFlagPrefix then piece.tx.writeInitialMetadata else []) ++
        ((if piece.flags.has kFlagMessageData then writeByteArrayWithLength piece.data else []) ++
          (if piece.flags.has kFlagSuffix then piece.tx.writeTrailingMetadata else [])))) :
    ∃ reading', reading.receive code piece.flags = .ok reading' ∧
      reading'.reader = { reading.reader with
        messageBuffer := Function.update reading.reader.messageBuffer code
          (piece.buffered (reading.reader.messageBuffer code))
        notifications := reading.reader.notifications ++
          piece.notifications code (reading.reader.messageBuffer code) } := by
  obtain ⟨first, received, reader, parcel⟩ := receivePrefix_piece code side there
  obtain ⟨second, received', reader', parcel'⟩ := receiveMessageData_piece code parcel
  have side' : second.reader.isClient = !piece.tx.isClient := by
    rw [reader', reader]
    exact side
  have there' : second.parcel =
      (if piece.flags.has kFlagSuffix then piece.tx.writeTrailingMetadata else []) ++ [] :=
    parcel'.trans (List.append_nil _).symm
  obtain ⟨third, received'', reader'', _⟩ := receiveSuffix_piece code side' there'
  refine ⟨third, ?_, ?_⟩
  · unfold Reading.receive
    rw [received]
    dsimp only [Except.bind]
    rw [received']
    exact received''
  · rw [reader'', reader', reader]
    unfold Piece.notifications
    simp only [List.append_assoc]

end Reader

end GrpcCore.Binder
