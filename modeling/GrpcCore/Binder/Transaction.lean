import Mathlib

/-!
# Transactions and what a writer makes of them

A parcel is the list of the values written to it, and they are read back as they were written.
A transaction is written in one parcel, or in blocks of its message data.
-/

namespace GrpcCore.Binder

abbrev ByteString := List UInt8

inductive ParcelValue where
  | int32 (value : Int)
  | int64 (value : Int)
  | string (value : ByteString)
  | byteArray (value : ByteString)
deriving DecidableEq

abbrev Parcel := List ParcelValue

abbrev Metadata := List (ByteString × ByteString)

inductive ReadError where
  | notThere
  | negativeNumHeader
  | unexpectedSequenceNumber
deriving DecidableEq

section Writing

def writeByteArrayWithLength (buffer : ByteString) : Parcel :=
  if buffer = [] then [.int32 0] else [.int32 buffer.length, .byteArray buffer]

def writeMetadata (metadata : Metadata) : Parcel :=
  .int32 metadata.length ::
    metadata.flatMap fun (key, value) =>
      writeByteArrayWithLength key ++ writeByteArrayWithLength value

end Writing

section Reading

def readInt32 : Parcel → Except ReadError (Int × Parcel)
  | .int32 value :: parcel => .ok (value, parcel)
  | _ => .error .notThere

def readString : Parcel → Except ReadError (ByteString × Parcel)
  | .string value :: parcel => .ok (value, parcel)
  | _ => .error .notThere

def readByteArray : Parcel → Except ReadError (ByteString × Parcel)
  | .byteArray value :: parcel => .ok (value, parcel)
  | _ => .error .notThere

def readByteArrayWithLength (parcel : Parcel) : Except ReadError (ByteString × Parcel) :=
  (readInt32 parcel).bind fun (count, parcel) =>
    if 0 < count then readByteArray parcel else .ok ([], parcel)

def parseEntries : Nat → Parcel → Except ReadError (Metadata × Parcel)
  | 0, parcel => .ok ([], parcel)
  | entries + 1, parcel =>
    (readByteArrayWithLength parcel).bind fun (key, parcel) =>
      (readByteArrayWithLength parcel).bind fun (value, parcel) =>
        (parseEntries entries parcel).map fun (metadata, parcel) =>
          ((key, value) :: metadata, parcel)

def parseMetadata (parcel : Parcel) : Except ReadError (Metadata × Parcel) :=
  (readInt32 parcel).bind fun (numHeader, parcel) =>
    if numHeader < 0 then .error .negativeNumHeader else parseEntries numHeader.toNat parcel

end Reading

section RoundTrip

theorem readByteArrayWithLength_write (buffer : ByteString) (rest : Parcel) :
    readByteArrayWithLength (writeByteArrayWithLength buffer ++ rest) = .ok (buffer, rest) := by
  unfold readByteArrayWithLength writeByteArrayWithLength
  split
  case isTrue empty =>
    rw [empty]
    rfl
  case isFalse some_ =>
    have positive : (0 : Int) < buffer.length :=
      Int.natCast_pos.mpr (List.length_pos_iff.mpr some_)
    exact if_pos positive

theorem parseEntries_write (metadata : Metadata) (rest : Parcel) :
    parseEntries metadata.length ((metadata.flatMap fun (key, value) =>
      writeByteArrayWithLength key ++ writeByteArrayWithLength value) ++ rest) =
        .ok (metadata, rest) := by
  induction metadata with
  | nil => rfl
  | cons entry metadata ih =>
    rw [List.length_cons, List.flatMap_cons, List.append_assoc, List.append_assoc]
    unfold parseEntries
    rw [readByteArrayWithLength_write]
    dsimp only [Except.bind]
    rw [readByteArrayWithLength_write]
    dsimp only [Except.bind]
    rw [ih]
    rfl

theorem parseMetadata_write (metadata : Metadata) (rest : Parcel) :
    parseMetadata (writeMetadata metadata ++ rest) = .ok (metadata, rest) := by
  exact parseEntries_write metadata rest

end RoundTrip

abbrev Flags := BitVec 32

def kFlagPrefix : Flags := 0x1#32
def kFlagMessageData : Flags := 0x2#32
def kFlagSuffix : Flags := 0x4#32
def kFlagStatusDescription : Flags := 0x20#32
def kFlagMessageDataIsPartial : Flags := 0x80#32

def Flags.has (flags flag : Flags) : Bool := flags &&& flag != 0#32

/-- What the setters of a transaction have set. Only a server sends a status and suffix metadata,
and only a client a method. -/
structure Transaction where
  isClient : Bool
  prefixMetadata : Option Metadata
  methodRef : ByteString
  messageData : Option ByteString
  suffixMetadata : Option Metadata
  statusDesc : ByteString
  status : Int
  bounded : status < 2 ^ 16
  clientSide : isClient = true → status = 0 ∧ suffixMetadata.getD [] = []

def kBlockSize : Nat := 16 * 1024

namespace Transaction

variable (tx : Transaction)

def getFlags : Flags :=
  (if tx.prefixMetadata.isSome then kFlagPrefix else 0#32) |||
    (if tx.messageData.isSome then kFlagMessageData else 0#32) |||
    (if tx.suffixMetadata.isSome then kFlagSuffix else 0#32) |||
    BitVec.ofInt 32 tx.status <<< 16

def writeInitialMetadata : Parcel :=
  (if tx.isClient then [.string tx.methodRef] else []) ++
    writeMetadata (tx.prefixMetadata.getD [])

def writeTrailingMetadata : Parcel :=
  if tx.isClient then []
  else
    (if tx.getFlags.has kFlagStatusDescription then [.string tx.statusDesc] else []) ++
      writeMetadata (tx.suffixMetadata.getD [])

def canBeSentInOneTransaction : Bool :=
  !tx.getFlags.has kFlagMessageData || decide ((tx.messageData.getD []).length ≤ kBlockSize)

/-- What `RpcCallFastPath` writes. -/
def fastPathParcel (seq : Nat) : Parcel :=
  [.int32 tx.getFlags.toInt, .int32 seq] ++
    (if tx.getFlags.has kFlagPrefix then tx.writeInitialMetadata else []) ++
    (if tx.getFlags.has kFlagMessageData then
      writeByteArrayWithLength (tx.messageData.getD [])
    else []) ++
    (if tx.getFlags.has kFlagSuffix then tx.writeTrailingMetadata else [])

def blockFlags (bytesSent : Nat) : Flags :=
  kFlagMessageData |||
    (if bytesSent = 0 ∧ tx.getFlags.has kFlagPrefix = true then kFlagPrefix else 0#32) |||
    (if (tx.messageData.getD []).length ≤ bytesSent + kBlockSize then
      if tx.getFlags.has kFlagSuffix then kFlagSuffix else 0#32
    else kFlagMessageDataIsPartial)

def blockSize (bytesSent : Nat) : Nat :=
  min kBlockSize ((tx.messageData.getD []).length - bytesSent)

/-- What the loop of `RpcCall` writes for that block. -/
def blockParcel (bytesSent seq : Nat) : Parcel :=
  [.int32 (tx.blockFlags bytesSent).toInt, .int32 seq] ++
    (if (tx.blockFlags bytesSent).has kFlagPrefix then tx.writeInitialMetadata else []) ++
    writeByteArrayWithLength (((tx.messageData.getD []).drop bytesSent).take
      (tx.blockSize bytesSent)) ++
    (if (tx.blockFlags bytesSent).has kFlagSuffix then tx.writeTrailingMetadata else [])

def blockParcels (bytesSent seq : Nat) : List Parcel :=
  if bytesSent < (tx.messageData.getD []).length then
    tx.blockParcel bytesSent seq :: blockParcels (bytesSent + tx.blockSize bytesSent) (seq + 1)
  else []
termination_by (tx.messageData.getD []).length - bytesSent
decreasing_by
  unfold blockSize kBlockSize
  omega

/-- The parcels that `RpcCall` sends, the first with the next sequence number of the call. -/
def rpcCall (seq : Nat) : List Parcel :=
  if tx.canBeSentInOneTransaction then [tx.fastPathParcel seq] else tx.blockParcels 0 seq

end Transaction

section Flags

variable {low flag : Flags}

theorem shiftLeft_and_of_lt (status : BitVec 32) (below : flag.toNat < 2 ^ 16) :
    status <<< 16 &&& flag = 0#32 := by
  apply BitVec.eq_of_getLsbD_eq
  intro index _
  rw [BitVec.getLsbD_and, BitVec.getLsbD_shiftLeft, BitVec.getLsbD_zero]
  by_cases small : index < 16
  · simp [small]
  · have high : flag.getLsbD index = false :=
      Nat.testBit_lt_two_pow
        (lt_of_lt_of_le below (Nat.pow_le_pow_right (by decide) (not_lt.mp small)))
    rw [high, Bool.and_false]

theorem has_or_shiftLeft (status : BitVec 32) (below : flag.toNat < 2 ^ 16) :
    Flags.has (low ||| status <<< 16) flag = low.has flag := by
  have distributes : (low ||| status <<< 16) &&& flag = low &&& flag ||| status <<< 16 &&& flag := by
    apply BitVec.eq_of_getLsbD_eq
    intro index _
    simp only [BitVec.getLsbD_and, BitVec.getLsbD_or, Bool.and_or_distrib_right]
  unfold Flags.has
  rw [distributes, shiftLeft_and_of_lt status below, BitVec.or_zero]

theorem toInt_or_shiftLeft (below : low.toNat < 2 ^ 16) {status : Int}
    (least : -2 ^ 15 ≤ status) (most : status < 2 ^ 15) :
    (low ||| BitVec.ofInt 32 status <<< 16).toInt = low.toNat + status * 2 ^ 16 := by
  have disjoint : low &&& BitVec.ofInt 32 status <<< 16 = 0#32 := by
    rw [BitVec.and_comm]
    exact shiftLeft_and_of_lt _ below
  have sum : low ||| BitVec.ofInt 32 status <<< 16 =
      BitVec.ofInt 32 (low.toNat + status * 2 ^ 16) := by
    rw [← BitVec.add_eq_or_of_and_eq_zero _ _ disjoint, BitVec.shiftLeft_eq_mul_twoPow,
      BitVec.ofInt_add, BitVec.ofInt_mul, BitVec.ofInt_natCast, BitVec.ofNat_toNat,
      BitVec.setWidth_eq]
    rfl
  rw [sum, BitVec.toInt_ofInt]
  apply Int.bmod_eq_of_le
  · omega
  · omega

def Flags.status (flags : Flags) : Int := (flags.sshiftRight 16).toInt

theorem Flags.status_bounds (flags : Flags) : -2 ^ 15 ≤ flags.status ∧ flags.status < 2 ^ 15 := by
  have least := BitVec.le_toInt flags
  have most := BitVec.toInt_lt (x := flags)
  unfold Flags.status
  rw [BitVec.toInt_sshiftRight, Int.shiftRight_eq_div_pow]
  omega

theorem status_or_shiftLeft (below : low.toNat < 2 ^ 16) {status : Int}
    (least : -2 ^ 15 ≤ status) (most : status < 2 ^ 15) :
    Flags.status (low ||| BitVec.ofInt 32 status <<< 16) = status := by
  unfold Flags.status
  rw [BitVec.toInt_sshiftRight, toInt_or_shiftLeft below least most, Int.shiftRight_eq_div_pow]
  omega

end Flags

namespace Transaction

variable (tx : Transaction) (bytesSent : Nat)

def flagWord (hasPrefix hasData hasSuffix : Bool) : Flags :=
  (if hasPrefix then kFlagPrefix else 0#32) ||| (if hasData then kFlagMessageData else 0#32) |||
    (if hasSuffix then kFlagSuffix else 0#32)

theorem flagWord_has : ∀ hasPrefix hasData hasSuffix,
    let word := flagWord hasPrefix hasData hasSuffix
    word.has kFlagPrefix = hasPrefix ∧ word.has kFlagMessageData = hasData ∧
      word.has kFlagSuffix = hasSuffix ∧ word.has kFlagStatusDescription = false ∧
      word.has kFlagMessageDataIsPartial = false ∧ word.toNat < 2 ^ 16 := by
  decide

theorem has_getFlags {flag : Flags} (below : flag.toNat < 2 ^ 16) :
    tx.getFlags.has flag = (flagWord tx.prefixMetadata.isSome tx.messageData.isSome
      tx.suffixMetadata.isSome).has flag :=
  has_or_shiftLeft _ below

@[simp]
theorem has_prefix_getFlags : tx.getFlags.has kFlagPrefix = tx.prefixMetadata.isSome :=
  (tx.has_getFlags (by decide)).trans (flagWord_has ..).1

@[simp]
theorem has_getFlags_messageData : tx.getFlags.has kFlagMessageData = tx.messageData.isSome :=
  (tx.has_getFlags (by decide)).trans (flagWord_has ..).2.1

@[simp]
theorem has_getFlags_suffix : tx.getFlags.has kFlagSuffix = tx.suffixMetadata.isSome :=
  (tx.has_getFlags (by decide)).trans (flagWord_has ..).2.2.1

/-- The description of a status is never sent. -/
@[simp]
theorem has_getFlags_statusDescription : tx.getFlags.has kFlagStatusDescription = false :=
  (tx.has_getFlags (by decide)).trans (flagWord_has ..).2.2.2.1

@[simp]
theorem has_getFlags_partial : tx.getFlags.has kFlagMessageDataIsPartial = false :=
  (tx.has_getFlags (by decide)).trans (flagWord_has ..).2.2.2.2.1

theorem status_getFlags (least : -2 ^ 15 ≤ tx.status) (most : tx.status < 2 ^ 15) :
    tx.getFlags.status = tx.status :=
  status_or_shiftLeft (flagWord_has ..).2.2.2.2.2 least most

section Blocks

/-- The block ends the message data. -/
def isLast : Bool := decide ((tx.messageData.getD []).length ≤ bytesSent + kBlockSize)

/-- The flags of a block by what it holds. -/
def blockWord (hasPrefix last hasSuffix : Bool) : Flags :=
  kFlagMessageData ||| (if hasPrefix then kFlagPrefix else 0#32) |||
    (if last then if hasSuffix then kFlagSuffix else 0#32 else kFlagMessageDataIsPartial)

theorem blockWord_has : ∀ hasPrefix last hasSuffix,
    let word := blockWord hasPrefix last hasSuffix
    word.has kFlagPrefix = hasPrefix ∧ word.has kFlagMessageData = true ∧
      word.has kFlagSuffix = (last && hasSuffix) ∧ word.has kFlagMessageDataIsPartial = !last ∧
      word.has kFlagStatusDescription = false ∧ word.status = 0 := by
  decide

theorem blockFlags_eq : tx.blockFlags bytesSent =
    blockWord (decide (bytesSent = 0) && tx.prefixMetadata.isSome) (tx.isLast bytesSent)
      tx.suffixMetadata.isSome := by
  unfold blockFlags blockWord isLast
  simp only [has_prefix_getFlags, has_getFlags_suffix, Bool.and_eq_true, decide_eq_true_eq]

@[simp]
theorem has_prefix_blockFlags : (tx.blockFlags bytesSent).has kFlagPrefix =
    (decide (bytesSent = 0) && tx.prefixMetadata.isSome) := by
  rw [blockFlags_eq, (blockWord_has ..).1]

@[simp]
theorem has_blockFlags_messageData : (tx.blockFlags bytesSent).has kFlagMessageData = true := by
  rw [blockFlags_eq, (blockWord_has ..).2.1]

@[simp]
theorem has_blockFlags_suffix : (tx.blockFlags bytesSent).has kFlagSuffix =
    (tx.isLast bytesSent && tx.suffixMetadata.isSome) := by
  rw [blockFlags_eq, (blockWord_has ..).2.2.1]

@[simp]
theorem has_blockFlags_partial : (tx.blockFlags bytesSent).has kFlagMessageDataIsPartial =
    !tx.isLast bytesSent := by
  rw [blockFlags_eq, (blockWord_has ..).2.2.2.1]

@[simp]
theorem has_blockFlags_statusDescription :
    (tx.blockFlags bytesSent).has kFlagStatusDescription = false := by
  rw [blockFlags_eq, (blockWord_has ..).2.2.2.2.1]

/-- Blocks carry no status. -/
@[simp]
theorem status_blockFlags : (tx.blockFlags bytesSent).status = 0 := by
  rw [blockFlags_eq, (blockWord_has ..).2.2.2.2.2]

theorem blockFlags_ne_zero : tx.blockFlags bytesSent ≠ 0#32 := by
  intro zero
  have messageData := tx.has_blockFlags_messageData bytesSent
  rw [zero] at messageData
  cases messageData

end Blocks

end Transaction

end GrpcCore.Binder
