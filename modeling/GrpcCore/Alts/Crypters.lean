import GrpcCore.Lib.LittleEndian

/-!
# ALTS crypters

The counter of a crypter, the seal and unseal crypters of the frame protector and the
record protocol of the zero-copy protector. An AEAD crypter is a parameter, and any call
of it may fail.
-/

namespace GrpcCore.Alts

abbrev Bytes := List UInt8

inductive StatusCode where
  | invalidArgument
  | failedPrecondition
  | internal
deriving DecidableEq

/-- A status that is not `GRPC_STATUS_OK`, with its error details if there are any. -/
structure Failure where
  status : StatusCode
  details : Option String
deriving DecidableEq

/-- `gsec_aead_crypter`. What it writes is the ciphertext with its tag. -/
structure Aead where
  nonceLength : Nat
  tagLength : Nat
  encrypt : (nonce aad plaintext : Bytes) → Except Failure Bytes
  decrypt : (nonce aad ciphertext : Bytes) → Except Failure Bytes
  length_encrypt : ∀ nonce aad plaintext ciphertext,
    encrypt nonce aad plaintext = .ok ciphertext → ciphertext.length = plaintext.length + tagLength

def faulty (fault : Option Failure) (result : Except Failure Bytes) : Except Failure Bytes :=
  match fault with
  | some failure => .error failure
  | none => result

/-! ## Counters -/

/-- `alts_counter`, without its size. -/
structure AltsCounter where
  overflowSize : Nat
  counter : Bytes
deriving DecidableEq

def altsCounterCreate (isClient : Bool) (counterSize overflowSize : Nat) :
    Except Failure AltsCounter :=
  if counterSize = 0 then .error ⟨.invalidArgument, some "counter_size is invalid."⟩
  else if overflowSize = 0 ∨ counterSize ≤ overflowSize then
    .error ⟨.invalidArgument, some "overflow_size is invalid."⟩
  else
    let zeros := List.replicate counterSize (0 : UInt8)
    .ok ⟨overflowSize, if isClient then zeros.set (counterSize - 1) 0x80 else zeros⟩

/-- `alts_counter_increment`, with `is_overflow`. -/
def altsCounterIncrement (ctr : AltsCounter) : AltsCounter × Except Failure Unit × Bool :=
  let (counter, wrapped) := LittleEndian.increment ctr.overflowSize ctr.counter
  ({ ctr with counter },
    if wrapped then .error ⟨.failedPrecondition, none⟩ else .ok (), wrapped)

/-- `increment_counter`. The details are those of the caller. -/
def incrementCounter (details : String) (ctr : AltsCounter) : AltsCounter × Except Failure Unit :=
  match altsCounterIncrement ctr with
  | (ctr, .error failure, _) => (ctr, .error failure)
  | (ctr, .ok _, true) => (ctr, .error ⟨.internal, some details⟩)
  | (ctr, .ok _, false) => (ctr, .ok ())

/-- What an operation leaves: its output, the counter, and the nonce of the encryption or
decryption if there was one. -/
structure Outcome (Output : Type) where
  result : Except Failure Output
  ctr : AltsCounter
  nonce : Option Bytes

namespace Outcome

variable {Output : Type}

def refuse (ctr : AltsCounter) (failure : Failure) : Outcome Output := ⟨.error failure, ctr, none⟩

/-- The end of an operation whose encryption or decryption is done. -/
def finish (details : String) (ctr : AltsCounter) (output : Output) : Outcome Output :=
  let (next, result) := incrementCounter details ctr
  ⟨result.map fun _ => output, next, some ctr.counter⟩

end Outcome

/-! ## Frame protector -/

/-- `alts_record_protocol_crypter`. -/
structure AltsCrypter where
  ctr : AltsCounter

/-- `alts_crypter_create_common`. -/
def altsCrypterCreateCommon (aead : Aead) (isClient : Bool) (overflowSize : Nat) :
    Except Failure AltsCrypter :=
  match altsCounterCreate isClient aead.nonceLength overflowSize with
  | .error failure => .error ⟨.failedPrecondition, failure.details⟩
  | .ok ctr => .ok ⟨ctr⟩

def altsSealCrypterCreate (aead : Aead) (isClient : Bool) (overflowSize : Nat) :
    Except Failure AltsCrypter :=
  altsCrypterCreateCommon aead (!isClient) overflowSize

def altsUnsealCrypterCreate (aead : Aead) (isClient : Bool) (overflowSize : Nat) :
    Except Failure AltsCrypter :=
  altsCrypterCreateCommon aead isClient overflowSize

/-- The arguments of `alts_crypter_process_in_place`. A null pointer is `none` or a flag. -/
structure ProcessArguments where
  data : Option Bytes
  dataAllocatedSize : Nat
  outputSizeIsNull : Bool

def inputSanityCheck (arguments : ProcessArguments) : Except Failure Bytes :=
  match arguments.data with
  | none => .error ⟨.invalidArgument, some "data is nullptr."⟩
  | some data =>
    if arguments.outputSizeIsNull then
      .error ⟨.invalidArgument, some "output_size is nullptr."⟩
    else .ok data

def sealCheck (aead : Aead) (arguments : ProcessArguments) : Except Failure Bytes :=
  match inputSanityCheck arguments with
  | .error failure => .error failure
  | .ok data =>
    if data.length = 0 then .error ⟨.invalidArgument, some "data_size is zero."⟩
    else if arguments.dataAllocatedSize < data.length + aead.tagLength then
      .error ⟨.invalidArgument, some
        "data_allocated_size is smaller than sum of data_size and num_overhead_bytes."⟩
    else .ok data

def unsealCheck (aead : Aead) (arguments : ProcessArguments) : Except Failure Bytes :=
  match inputSanityCheck arguments with
  | .error failure => .error failure
  | .ok data =>
    if data.length < aead.tagLength then
      .error ⟨.invalidArgument, some "data_size is smaller than num_overhead_bytes."⟩
    else .ok data

def crypterWrapped : String :=
  "crypter counter is wrapped. The connectionshould be closed and the key should be deleted."

/-- `alts_seal_crypter_process_in_place`. -/
def altsSealCrypterProcessInPlace (aead : Aead) (fault : Option Failure) (c : AltsCrypter)
    (arguments : ProcessArguments) : Outcome Bytes :=
  match sealCheck aead arguments with
  | .error failure => .refuse c.ctr failure
  | .ok data =>
    match faulty fault (aead.encrypt c.ctr.counter [] data) with
    | .error failure => .refuse c.ctr failure
    | .ok output => .finish crypterWrapped c.ctr output

/-- `alts_unseal_crypter_process_in_place`. -/
def altsUnsealCrypterProcessInPlace (aead : Aead) (fault : Option Failure) (c : AltsCrypter)
    (arguments : ProcessArguments) : Outcome Bytes :=
  match unsealCheck aead arguments with
  | .error failure => .refuse c.ctr failure
  | .ok data =>
    match faulty fault (aead.decrypt c.ctr.counter [] data) with
    | .error failure => .refuse c.ctr failure
    | .ok output => .finish crypterWrapped c.ctr output

/-! ## Record protocol -/

def kZeroCopyFrameMessageType : Nat := 0x06

def kZeroCopyFrameLengthFieldSize : Nat := 4

def kZeroCopyFrameMessageTypeFieldSize : Nat := 4

def kZeroCopyFrameHeaderSize : Nat :=
  kZeroCopyFrameLengthFieldSize + kZeroCopyFrameMessageTypeFieldSize

/-- `alts_iovec_record_protocol`, without its AEAD crypter. -/
structure AltsIovecRecordProtocol where
  ctr : AltsCounter
  tagLength : Nat
  isIntegrityOnly : Bool
  isProtect : Bool

def altsIovecRecordProtocolCreate (aead : Aead) (overflowSize : Nat)
    (isClient isIntegrityOnly isProtect : Bool) : Except Failure AltsIovecRecordProtocol :=
  match altsCounterCreate (if isProtect then !isClient else isClient) aead.nonceLength
      overflowSize with
  | .error failure => .error ⟨.failedPrecondition, failure.details⟩
  | .ok ctr => .ok ⟨ctr, aead.tagLength, isIntegrityOnly, isProtect⟩

/-- `store_32_le`. -/
def store32Le (value : Nat) : Bytes :=
  [UInt8.ofNat value, UInt8.ofNat (value >>> 8), UInt8.ofNat (value >>> 16),
    UInt8.ofNat (value >>> 24)]

/-- `load_32_le`. -/
def load32Le (buffer : Bytes) : Nat := LittleEndian.value (buffer.take 4)

/-- `write_frame_header`. -/
def writeFrameHeader (dataLength : Nat) : Bytes :=
  store32Le (kZeroCopyFrameMessageTypeFieldSize + dataLength) ++
    store32Le kZeroCopyFrameMessageType

def verifyFrameHeader (dataLength : Nat) (header : Bytes) : Except Failure Unit :=
  if load32Le header ≠ kZeroCopyFrameMessageTypeFieldSize + dataLength then
    .error ⟨.internal, some "Bad frame length."⟩
  else if load32Le (header.drop kZeroCopyFrameLengthFieldSize) ≠ kZeroCopyFrameMessageType then
    .error ⟨.internal, some "Unsupported message type."⟩
  else .ok ()

/-- The lengths of the header and tag buffers; `none` is a null buffer. -/
def ensureHeaderAndTagLength (rp : AltsIovecRecordProtocol) (header tag : Option Nat) :
    Except Failure Unit :=
  match header with
  | none => .error ⟨.invalidArgument, some "Header is nullptr."⟩
  | some headerLength =>
    if headerLength ≠ kZeroCopyFrameHeaderSize then
      .error ⟨.invalidArgument, some "Header length is incorrect."⟩
    else
      match tag with
      | none => .error ⟨.invalidArgument, some "Tag is nullptr."⟩
      | some tagLength =>
        if tagLength ≠ rp.tagLength then
          .error ⟨.invalidArgument, some "Tag length is incorrect."⟩
        else .ok ()

def checkUse (rp : AltsIovecRecordProtocol) (isIntegrityOnly isProtect : Bool) :
    Except Failure Unit :=
  if rp.isIntegrityOnly ≠ isIntegrityOnly then
    .error ⟨.failedPrecondition, some
      (if isIntegrityOnly then "Integrity-only operations are not allowed for this object."
        else "Privacy-integrity operations are not allowed for this object.")⟩
  else if rp.isProtect ≠ isProtect then
    .error ⟨.failedPrecondition, some
      (if isProtect then "Protect operations are not allowed for this object."
        else "Unprotect operations are not allowed for this object.")⟩
  else .ok ()

def counterOverflowed : String := "Crypter counter is overflowed."

/-- `alts_iovec_record_protocol_integrity_only_protect`: the frame header and the tag. -/
def integrityOnlyProtect (aead : Aead) (fault : Option Failure) (rp : AltsIovecRecordProtocol)
    (unprotected : Bytes) (header tag : Option Nat) : Outcome (Bytes × Bytes) :=
  match checkUse rp true true, ensureHeaderAndTagLength rp header tag with
  | .error failure, _ => .refuse rp.ctr failure
  | .ok _, .error failure => .refuse rp.ctr failure
  | .ok _, .ok _ =>
    match faulty fault (aead.encrypt rp.ctr.counter unprotected []) with
    | .error failure => .refuse rp.ctr failure
    | .ok written =>
      if written.length ≠ rp.tagLength then
        ⟨.error ⟨.internal, some "Bytes written expects to be the same as tag length."⟩, rp.ctr,
          some rp.ctr.counter⟩
      else
        .finish counterOverflowed rp.ctr
          (writeFrameHeader (unprotected.length + rp.tagLength), written)

/-- `alts_iovec_record_protocol_integrity_only_unprotect`. -/
def integrityOnlyUnprotect (aead : Aead) (fault : Option Failure) (rp : AltsIovecRecordProtocol)
    (protected_ : Bytes) (header tag : Option Bytes) : Outcome Unit :=
  match checkUse rp true false,
      ensureHeaderAndTagLength rp (header.map List.length) (tag.map List.length) with
  | .error failure, _ => .refuse rp.ctr failure
  | .ok _, .error failure => .refuse rp.ctr failure
  | .ok _, .ok _ =>
    match verifyFrameHeader (protected_.length + rp.tagLength) (header.getD []) with
    | .error failure => .refuse rp.ctr failure
    | .ok _ =>
      match faulty fault (aead.decrypt rp.ctr.counter protected_ (tag.getD [])) with
      | .error failure =>
        .refuse rp.ctr ⟨.internal,
          failure.details.map (· ++ " Frame tag verification failed.")⟩
      | .ok written =>
        if written.length ≠ 0 then
          ⟨.error ⟨.internal, some " Frame tag verification failed."⟩, rp.ctr,
            some rp.ctr.counter⟩
        else .finish counterOverflowed rp.ctr ()

/-- `alts_iovec_record_protocol_privacy_integrity_protect`: the protected frame. -/
def privacyIntegrityProtect (aead : Aead) (fault : Option Failure) (rp : AltsIovecRecordProtocol)
    (unprotected : Bytes) (protectedFrame : Option Nat) : Outcome Bytes :=
  match checkUse rp false true with
  | .error failure => .refuse rp.ctr failure
  | .ok _ =>
    match protectedFrame with
    | none => .refuse rp.ctr ⟨.invalidArgument, some "Protected frame is nullptr."⟩
    | some length =>
      if length ≠ kZeroCopyFrameHeaderSize + unprotected.length + rp.tagLength then
        .refuse rp.ctr ⟨.invalidArgument, some "Protected frame size is incorrect."⟩
      else
        match faulty fault (aead.encrypt rp.ctr.counter [] unprotected) with
        | .error failure => .refuse rp.ctr failure
        | .ok written =>
          if written.length ≠ unprotected.length + rp.tagLength then
            ⟨.error ⟨.internal, some
              "Bytes written expects to be data length plus tag length."⟩, rp.ctr,
              some rp.ctr.counter⟩
          else
            .finish counterOverflowed rp.ctr
              (writeFrameHeader (unprotected.length + rp.tagLength) ++ written)

/-- `alts_iovec_record_protocol_privacy_integrity_unprotect`: the unprotected data. -/
def privacyIntegrityUnprotect (aead : Aead) (fault : Option Failure) (rp : AltsIovecRecordProtocol)
    (header : Option Bytes) (protected_ : Bytes) (unprotectedLength : Nat) : Outcome Bytes :=
  match checkUse rp false false with
  | .error failure => .refuse rp.ctr failure
  | .ok _ =>
    if protected_.length < rp.tagLength then
      .refuse rp.ctr ⟨.invalidArgument, some
        "Protected data length should be more than the tag length."⟩
    else
      match header with
      | none => .refuse rp.ctr ⟨.invalidArgument, some "Header is nullptr."⟩
      | some header =>
        if header.length ≠ kZeroCopyFrameHeaderSize then
          .refuse rp.ctr ⟨.invalidArgument, some "Header length is incorrect."⟩
        else if unprotectedLength ≠ protected_.length - rp.tagLength then
          .refuse rp.ctr ⟨.invalidArgument, some "Unprotected data size is incorrect."⟩
        else
          match verifyFrameHeader protected_.length header with
          | .error failure => .refuse rp.ctr failure
          | .ok _ =>
            match faulty fault (aead.decrypt rp.ctr.counter [] protected_) with
            | .error failure =>
              .refuse rp.ctr ⟨.internal,
                failure.details.map (· ++ " Frame decryption failed.")⟩
            | .ok written =>
              if written.length ≠ protected_.length - rp.tagLength then
                ⟨.error ⟨.internal, some
                  "Bytes written expects to be protected data length minus tag length."⟩,
                  rp.ctr, some rp.ctr.counter⟩
              else .finish counterOverflowed rp.ctr written

end GrpcCore.Alts
