import GrpcCore.Alts.Crypters
import GrpcCore.Lib.Run

/-!
# Nonces

Two peers share a key. Each has a crypter that protects and one that unprotects, and the
frames of a peer are opened in order by the other.
-/

namespace GrpcCore.Alts

open Outcome

inductive Peer where
  | client
  | server
deriving DecidableEq

namespace Peer

def isClient : Peer → Bool
  | .client => true
  | .server => false

def other : Peer → Peer
  | .client => .server
  | .server => .client

variable (peer : Peer)

@[simp]
theorem other_other : peer.other.other = peer := by
  cases peer <;> rfl

theorem other_ne : peer.other ≠ peer := by
  cases peer <;> nofun

theorem isClient_other : peer.other.isClient = !peer.isClient := by
  cases peer <;> rfl

theorem eq_or_eq_other (other : Peer) : other = peer ∨ other = peer.other := by
  cases peer <;> cases other <;> simp [Peer.other]

end Peer

/-- A crypter of the frame protector or of the zero-copy protector. -/
inductive Protector where
  | crypter (c : AltsCrypter)
  | record (rp : AltsIovecRecordProtocol)

def Protector.ctr : Protector → AltsCounter
  | .crypter c => c.ctr
  | .record rp => rp.ctr

def Protector.setCtr (ctr : AltsCounter) : Protector → Protector
  | .crypter c => .crypter { c with ctr }
  | .record rp => .record { rp with ctr }

inductive Kind where
  | frameProtector
  | zeroCopy (isIntegrityOnly : Bool)

def createProtector (aead : Aead) (overflowSize : Nat) (isClient isProtect : Bool) :
    Kind → Except Failure Protector
  | .frameProtector =>
    (if isProtect then altsSealCrypterCreate aead isClient overflowSize
      else altsUnsealCrypterCreate aead isClient overflowSize).map .crypter
  | .zeroCopy isIntegrityOnly =>
    (altsIovecRecordProtocolCreate aead overflowSize isClient isIntegrityOnly isProtect).map
      .record

inductive ProtectCall where
  | processInPlace (arguments : ProcessArguments)
  | integrityOnly (unprotected : Bytes) (header tag : Option Nat)
  | privacyIntegrity (unprotected : Bytes) (protectedFrame : Option Nat)

inductive UnprotectCall where
  | processInPlace (arguments : ProcessArguments)
  | integrityOnly (protected_ : Bytes) (header tag : Option Bytes)
  | privacyIntegrity (header : Option Bytes) (protected_ : Bytes) (unprotectedLength : Nat)

def Outcome.silent {Output : Type} (outcome : Outcome Output) : Outcome Unit :=
  ⟨outcome.result.map fun _ => (), outcome.ctr, outcome.nonce⟩

def Protector.protect (aead : Aead) (fault : Option Failure) :
    Protector → ProtectCall → Option (Outcome Unit)
  | .crypter c, .processInPlace arguments =>
    some (altsSealCrypterProcessInPlace aead fault c arguments).silent
  | .record rp, .integrityOnly unprotected header tag =>
    some (integrityOnlyProtect aead fault rp unprotected header tag).silent
  | .record rp, .privacyIntegrity unprotected protectedFrame =>
    some (privacyIntegrityProtect aead fault rp unprotected protectedFrame).silent
  | _, _ => none

def Protector.unprotect (aead : Aead) (fault : Option Failure) :
    Protector → UnprotectCall → Option (Outcome Unit)
  | .crypter c, .processInPlace arguments =>
    some (altsUnsealCrypterProcessInPlace aead fault c arguments).silent
  | .record rp, .integrityOnly protected_ header tag =>
    some (integrityOnlyUnprotect aead fault rp protected_ header tag).silent
  | .record rp, .privacyIntegrity header protected_ unprotectedLength =>
    some (privacyIntegrityUnprotect aead fault rp header protected_ unprotectedLength).silent
  | _, _ => none

/-- The crypters of both peers, the frames that each has sent and the other has not opened
by the nonces they were protected with, and all AEAD encryptions, the last first. -/
structure Connection where
  protector : Peer → Protector
  unprotector : Peer → Protector
  wire : Peer → List Bytes
  encryptions : List (Peer × Bytes)
  failed : Bool

def Connection.create (aead : Aead) (overflowSize : Nat) (kind : Peer → Kind) :
    Except Failure Connection := do
  let clientProtector ← createProtector aead overflowSize true true (kind .client)
  let clientUnprotector ← createProtector aead overflowSize true false (kind .server)
  let serverProtector ← createProtector aead overflowSize false true (kind .server)
  let serverUnprotector ← createProtector aead overflowSize false false (kind .client)
  .ok {
    protector := fun peer => if peer.isClient then clientProtector else serverProtector
    unprotector := fun peer => if peer.isClient then clientUnprotector else serverUnprotector
    wire := fun _ => []
    encryptions := []
    failed := false }

inductive Operation where
  | protect (peer : Peer) (call : ProtectCall) (fault : Option Failure)
  | unprotect (peer : Peer) (call : UnprotectCall) (fault : Option Failure)

def succeeded {Output : Type} (result : Except Failure Output) : Bool :=
  match result with
  | .ok _ => true
  | .error _ => false

/-- An operation of a peer. A frame that could be protected is sent; one that could be
unprotected is the first of those the other peer has sent. -/
def Connection.step (aead : Aead) (connection : Connection) : Operation → Option Connection
  | .protect peer call fault => do
    let outcome ← (connection.protector peer).protect aead fault call
    some { connection with
      protector := Function.update connection.protector peer
        ((connection.protector peer).setCtr outcome.ctr)
      wire :=
        if succeeded outcome.result then
          Function.update connection.wire peer
            (connection.wire peer ++ outcome.nonce.toList)
        else connection.wire
      encryptions := outcome.nonce.toList.map (Prod.mk peer) ++ connection.encryptions
      failed := connection.failed || !succeeded outcome.result }
  | .unprotect peer call fault =>
    match connection.wire peer.other with
    | [] => none
    | _ :: rest => do
      let outcome ← (connection.unprotector peer).unprotect aead fault call
      some { connection with
        unprotector := Function.update connection.unprotector peer
          ((connection.unprotector peer).setCtr outcome.ctr)
        wire :=
          if succeeded outcome.result then Function.update connection.wire peer.other rest
          else connection.wire
        failed := connection.failed || !succeeded outcome.result }

/-! ## What one operation does -/

/-- An operation is refused with nothing done, or it ends with the increment. -/
inductive Protects (ctr : AltsCounter) : Outcome Unit → Prop where
  | refused (failure : Failure) : Protects ctr ⟨.error failure, ctr, none⟩
  | finished (details : String) : Protects ctr (.finish details ctr ())

variable (details : String)

theorem Outcome.silent_finish {Output : Type} (ctr : AltsCounter) (output : Output) :
    (finish details ctr output).silent = .finish details ctr () := by
  simp only [finish, silent]
  cases (incrementCounter details ctr).2 <;> rfl

theorem faulty_ok {fault : Option Failure} {result : Except Failure Bytes} {output : Bytes}
    (done : faulty fault result = .ok output) : result = .ok output := by
  cases fault with
  | none => exact done
  | some => cases done

variable (aead : Aead)

theorem sealCrypter_protects (fault : Option Failure) (c : AltsCrypter)
    (arguments : ProcessArguments) :
    Protects c.ctr (altsSealCrypterProcessInPlace aead fault c arguments).silent := by
  unfold altsSealCrypterProcessInPlace
  cases sealCheck aead arguments with
  | error failure => exact .refused failure
  | ok data =>
    dsimp only
    cases faulty fault (aead.encrypt c.ctr.counter [] data) with
    | error failure => exact .refused failure
    | ok =>
      simp only [silent_finish]
      exact .finished _

variable {rp : AltsIovecRecordProtocol}

theorem integrityOnlyProtect_protects {aead : Aead} (tagLength : rp.tagLength = aead.tagLength)
    (fault : Option Failure) (unprotected : Bytes) (header tag : Option Nat) :
    Protects rp.ctr (integrityOnlyProtect aead fault rp unprotected header tag).silent := by
  unfold integrityOnlyProtect
  cases checkUse rp true true with
  | error failure => exact .refused failure
  | ok =>
    cases ensureHeaderAndTagLength rp header tag with
    | error failure => exact .refused failure
    | ok =>
      cases called : faulty fault (aead.encrypt rp.ctr.counter unprotected []) with
      | error failure => exact .refused failure
      | ok =>
        have length := aead.length_encrypt _ _ _ _ (faulty_ok called)
        rw [List.length_nil, Nat.zero_add, ← tagLength] at length
        simp only [length, ne_eq, not_true_eq_false, if_false, silent_finish]
        exact .finished _

theorem privacyIntegrityProtect_protects {aead : Aead} (tagLength : rp.tagLength = aead.tagLength)
    (fault : Option Failure) (unprotected : Bytes) (protectedFrame : Option Nat) :
    Protects rp.ctr (privacyIntegrityProtect aead fault rp unprotected protectedFrame).silent := by
  unfold privacyIntegrityProtect
  cases checkUse rp false true with
  | error failure => exact .refused failure
  | ok =>
    cases protectedFrame with
    | none => exact .refused _
    | some length =>
      dsimp only
      split
      · exact .refused _
      · cases called : faulty fault (aead.encrypt rp.ctr.counter [] unprotected) with
        | error failure => exact .refused failure
        | ok =>
          have length := aead.length_encrypt _ _ _ _ (faulty_ok called)
          rw [← tagLength] at length
          simp only [length, ne_eq, not_true_eq_false, if_false, silent_finish]
          exact .finished _

/-- An operation fails and leaves the counter, or it ends with the increment. -/
inductive Unprotects (ctr : AltsCounter) : Outcome Unit → Prop where
  | failed (failure : Failure) (nonce : Option Bytes) : Unprotects ctr ⟨.error failure, ctr, nonce⟩
  | finished (details : String) : Unprotects ctr (.finish details ctr ())

theorem unsealCrypter_unprotects (fault : Option Failure) (c : AltsCrypter)
    (arguments : ProcessArguments) :
    Unprotects c.ctr (altsUnsealCrypterProcessInPlace aead fault c arguments).silent := by
  unfold altsUnsealCrypterProcessInPlace
  cases unsealCheck aead arguments with
  | error failure => exact .failed failure none
  | ok data =>
    dsimp only
    cases faulty fault (aead.decrypt c.ctr.counter [] data) with
    | error failure => exact .failed failure none
    | ok =>
      simp only [silent_finish]
      exact .finished _

theorem integrityOnlyUnprotect_unprotects (fault : Option Failure) (rp : AltsIovecRecordProtocol)
    (protected_ : Bytes) (header tag : Option Bytes) :
    Unprotects rp.ctr (integrityOnlyUnprotect aead fault rp protected_ header tag).silent := by
  unfold integrityOnlyUnprotect
  split
  · exact .failed _ none
  · exact .failed _ none
  · split
    · exact .failed _ none
    · split
      · exact .failed _ none
      · split
        · exact .failed _ _
        · simp only [silent_finish]
          exact .finished _

theorem privacyIntegrityUnprotect_unprotects (fault : Option Failure) (rp : AltsIovecRecordProtocol)
    (header : Option Bytes) (protected_ : Bytes) (unprotectedLength : Nat) :
    Unprotects rp.ctr
      (privacyIntegrityUnprotect aead fault rp header protected_ unprotectedLength).silent := by
  unfold privacyIntegrityUnprotect
  split
  · exact .failed _ none
  · split
    · exact .failed _ none
    · split
      · exact .failed _ none
      · split
        · exact .failed _ none
        · split
          · exact .failed _ none
          · split
            · exact .failed _ none
            · split
              · exact .failed _ none
              · split
                · exact .failed _ _
                · simp only [silent_finish]
                  exact .finished _

theorem Outcome.finish_eq (ctr : AltsCounter) :
    finish details ctr () =
      ⟨if (LittleEndian.increment ctr.overflowSize ctr.counter).2 then
          .error ⟨.failedPrecondition, none⟩ else .ok (),
        { ctr with counter := (LittleEndian.increment ctr.overflowSize ctr.counter).1 },
        some ctr.counter⟩ := by
  simp only [finish, incrementCounter, altsCounterIncrement]
  cases (LittleEndian.increment ctr.overflowSize ctr.counter).2 <;> rfl

/-! ## Numbers of nonces -/

/-- The number of a nonce of a peer, which is known up to the wrapping of its counter. -/
structure Numbered (overflowSize : Nat) (base : Bytes) (number : Nat) (nonce : Bytes) : Prop where
  length : nonce.length = base.length
  value : LittleEndian.value (nonce.take overflowSize) = number % 256 ^ overflowSize
  fixed : nonce.drop overflowSize = base.drop overflowSize

section Numbers

variable {overflowSize : Nat} {base : Bytes}

variable {nonce : Bytes}

theorem Numbered.mod_eq {first second : Nat} (left : Numbered overflowSize base first nonce)
    (right : Numbered overflowSize base second nonce) :
    first % 256 ^ overflowSize = second % 256 ^ overflowSize :=
  left.value.symm.trans right.value

theorem Numbered.eq {first second : Nat} {nonce' : Bytes}
    (left : Numbered overflowSize base first nonce)
    (right : Numbered overflowSize base second nonce')
    (same : first % 256 ^ overflowSize = second % 256 ^ overflowSize) : nonce = nonce' := by
  have taken : nonce.take overflowSize = nonce'.take overflowSize := by
    apply LittleEndian.value_injective
    · rw [List.length_take, List.length_take, left.length, right.length]
    · rw [left.value, right.value, same]
  rw [← List.take_append_drop overflowSize nonce, ← List.take_append_drop overflowSize nonce', taken,
    left.fixed, right.fixed]

theorem Numbered.increment {number : Nat} {nonce : Bytes}
    (numbered : Numbered overflowSize base number nonce) (room : overflowSize ≤ base.length) :
    Numbered overflowSize base (number + 1) (LittleEndian.increment overflowSize nonce).1 ∧
      ((LittleEndian.increment overflowSize nonce).2 = true ↔
        number % 256 ^ overflowSize + 1 = 256 ^ overflowSize) := by
  obtain ⟨counted, wraps⟩ := LittleEndian.value_increment (numbered.length ▸ room)
  rw [numbered.value] at counted wraps
  refine ⟨⟨?_, ?_, ?_⟩, wraps⟩
  · rw [LittleEndian.length_increment, numbered.length]
  · rw [counted, ← Nat.mod_add_mod]
    by_cases wrapped : (LittleEndian.increment overflowSize nonce).2 = true
    · rw [if_pos wrapped, wraps.mp wrapped, Nat.mod_self]
    · have below : number % 256 ^ overflowSize < 256 ^ overflowSize := Nat.mod_lt _ (by positivity)
      have notFull := mt wraps.mpr wrapped
      rw [if_neg wrapped]
      exact (Nat.mod_eq_of_lt (lt_of_le_of_ne below notFull)).symm
  · rw [LittleEndian.drop_increment, numbered.fixed]

end Numbers

/-- What `alts_counter_create` starts from. -/
def counterBase (isClient : Bool) (counterSize : Nat) : Bytes :=
  let zeros := List.replicate counterSize (0 : UInt8)
  if isClient then zeros.set (counterSize - 1) 0x80 else zeros

theorem length_counterBase (isClient : Bool) (counterSize : Nat) :
    (counterBase isClient counterSize).length = counterSize := by
  cases isClient <;> simp [counterBase]

variable {counterSize : Nat}

theorem altsCounterCreate_ok {isClient : Bool} {overflowSize : Nat} {ctr : AltsCounter}
    (created : altsCounterCreate isClient counterSize overflowSize = .ok ctr) :
    overflowSize < counterSize ∧ ctr = ⟨overflowSize, counterBase isClient counterSize⟩ := by
  unfold altsCounterCreate at created
  split at created
  · cases created
  · split at created
    · cases created
    · obtain rfl := Except.ok.inj created
      exact ⟨by omega, rfl⟩

theorem value_replicate_zero (count : Nat) : LittleEndian.value (List.replicate count 0) = 0 := by
  induction count with
  | zero => rfl
  | succ count ih =>
    rw [List.replicate_succ, LittleEndian.value_cons, ih]
    rfl

theorem numbered_counterBase (isClient : Bool) {overflowSize : Nat}
    (room : overflowSize < counterSize) :
    Numbered overflowSize (counterBase isClient counterSize) 0
      (counterBase isClient counterSize) := by
  refine ⟨rfl, ?_, rfl⟩
  have zeros : (counterBase isClient counterSize).take overflowSize =
      List.replicate overflowSize 0 := by
    cases isClient with
    | false => simp [counterBase, List.take_replicate, Nat.min_eq_left room.le]
    | true =>
      have last : overflowSize ≤ counterSize - 1 := by omega
      simp [counterBase, List.take_set_of_le last, List.take_replicate, Nat.min_eq_left room.le]
  rw [zeros, value_replicate_zero, Nat.zero_mod]

theorem counterBase_drop_ne {overflowSize : Nat} (room : overflowSize < counterSize)
    (isClient : Bool) :
    (counterBase isClient counterSize).drop overflowSize ≠
      (counterBase (!isClient) counterSize).drop overflowSize := by
  have differ : (counterBase true counterSize).drop overflowSize ≠
      (counterBase false counterSize).drop overflowSize := by
    intro same
    have last := congrArg (·[counterSize - 1 - overflowSize]?) same
    have place : overflowSize + (counterSize - 1 - overflowSize) = counterSize - 1 := by omega
    have bound : counterSize - 1 < counterSize := by omega
    simp only [List.getElem?_drop, place, counterBase, if_true, Bool.false_eq_true, if_false,
      List.getElem?_set_self (show counterSize - 1 < (List.replicate counterSize (0 : UInt8)).length by
        rwa [List.length_replicate]), List.getElem?_replicate, if_pos bound] at last
    exact absurd last (by decide)
  cases isClient with
  | false => exact differ.symm
  | true => exact differ

end GrpcCore.Alts
