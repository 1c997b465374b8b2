import GrpcCore.Alts.Nonces
import GrpcCore.Lib.Ledger

/-!
# When nonces are used again

Every encryption of a peer has a number. As long as no operation has failed, the frames
on the way have the numbers from that of the opening counter on.
-/

namespace GrpcCore.Alts

open AltsCounter Protector Peer

variable {aead : Aead} {overflowSize : Nat} {connection connection' : Connection}

/-- The nonces that a peer has encrypted with, the last first. -/
def Connection.nonces (connection : Connection) (peer : Peer) : List Bytes :=
  (connection.encryptions.filter fun encryption => encryption.1 = peer).map Prod.snd

/-- No two encryptions use one nonce, and while nothing has failed the counter of the
receiver is the nonce of the frame that it opens next. -/
def Connection.Good (connection : Connection) : Prop :=
  (connection.encryptions.map Prod.snd).Nodup ∧
    (connection.failed = false → ∀ peer nonce, (connection.wire peer).head? = some nonce →
      (connection.unprotector peer.other).ctr.counter = nonce)

/-- A peer that encrypts has used fewer nonces than its counter has numbers. -/
def WithinLimit (aead : Aead) (connection : Connection) : Operation → Prop
  | .protect peer call fault =>
    ∀ outcome ∈ (connection.protector peer).protect aead fault call, outcome.nonce ≠ none →
      (connection.nonces peer).length < 256 ^ (connection.protector peer).ctr.overflowSize
  | .unprotect _ _ _ => True

instance (aead : Aead) (connection : Connection) :
    (operation : Operation) → Decidable (WithinLimit aead connection operation)
  | .protect peer call fault =>
    inferInstanceAs (Decidable (∀ outcome ∈ (connection.protector peer).protect aead fault call, _))
  | .unprotect _ _ _ => inferInstanceAs (Decidable True)

/-! ## The invariant -/

def sendBase (aead : Aead) (peer : Peer) : Bytes := counterBase (!peer.isClient) aead.nonceLength

def Numbering (overflowSize : Nat) (base : Bytes) : List Bytes → Prop
  | [] => True
  | nonce :: earlier =>
    Numbered overflowSize base earlier.length nonce ∧ Numbering overflowSize base earlier

def Protector.Ready (aead : Aead) : Protector → Prop
  | .crypter _ => True
  | .record rp => rp.tagLength = aead.tagLength

/-- The frames that a peer has sent, from the number of the counter that opens them. -/
structure InFlight (overflowSize : Nat) (base : Bytes) (sent : Nat) (counter : Bytes)
    (wire : List Bytes) (opened : Nat) : Prop where
  counter : Numbered overflowSize base opened counter
  sent : opened + wire.length = sent
  frames : ∀ (place : Nat) (nonce : Bytes), wire[place]? = some nonce →
    Numbered overflowSize base (opened + place) nonce

structure Connection.Counted (aead : Aead) (overflowSize : Nat) (connection : Connection) : Prop where
  ready : ∀ peer, (connection.protector peer).Ready aead
  protectorSize : ∀ peer, (connection.protector peer).ctr.overflowSize = overflowSize
  unprotectorSize : ∀ peer, (connection.unprotector peer).ctr.overflowSize = overflowSize
  protector : ∀ peer, Numbered overflowSize (sendBase aead peer) (connection.nonces peer).length
    (connection.protector peer).ctr.counter
  nonces : ∀ peer, Numbering overflowSize (sendBase aead peer) (connection.nonces peer)
  inFlight : connection.failed = false → ∀ peer, ∃ opened,
    InFlight overflowSize (sendBase aead peer) (connection.nonces peer).length
      (connection.unprotector peer.other).ctr.counter (connection.wire peer) opened

variable {protector : Protector} {fault : Option Failure} {outcome : Outcome Unit}

theorem Protector.Ready.protects (ready : protector.Ready aead) {call : ProtectCall}
    (called : protector.protect aead fault call = some outcome) :
    Protects protector.ctr outcome := by
  cases protector with
  | crypter c =>
    cases call with
    | processInPlace arguments =>
      obtain rfl := Option.some.inj called
      exact sealCrypter_protects aead fault c arguments
    | integrityOnly => cases called
    | privacyIntegrity => cases called
  | record =>
    cases call with
    | processInPlace => cases called
    | integrityOnly unprotected header tag =>
      obtain rfl := Option.some.inj called
      exact integrityOnlyProtect_protects ready fault unprotected header tag
    | privacyIntegrity unprotected protectedFrame =>
      obtain rfl := Option.some.inj called
      exact privacyIntegrityProtect_protects ready fault unprotected protectedFrame

theorem Protector.unprotects {call : UnprotectCall}
    (called : protector.unprotect aead fault call = some outcome) :
    Unprotects protector.ctr outcome := by
  cases protector with
  | crypter c =>
    cases call with
    | processInPlace arguments =>
      obtain rfl := Option.some.inj called
      exact unsealCrypter_unprotects aead fault c arguments
    | integrityOnly => cases called
    | privacyIntegrity => cases called
  | record rp =>
    cases call with
    | processInPlace => cases called
    | integrityOnly protected_ header tag =>
      obtain rfl := Option.some.inj called
      exact integrityOnlyUnprotect_unprotects aead fault rp protected_ header tag
    | privacyIntegrity header protected_ unprotectedLength =>
      obtain rfl := Option.some.inj called
      exact privacyIntegrityUnprotect_unprotects aead fault rp header protected_ unprotectedLength

@[simp]
theorem Protector.ctr_setCtr (protector : Protector) (ctr : AltsCounter) :
    (protector.setCtr ctr).ctr = ctr := by
  cases protector <;> rfl

theorem Protector.Ready.setCtr (ready : protector.Ready aead) (ctr : AltsCounter) :
    (protector.setCtr ctr).Ready aead := by
  cases protector with
  | crypter => trivial
  | record => exact ready

/-! ## Creation -/

theorem createProtector_ok {isClient isProtect : Bool} {kind : Kind}
    (created : createProtector aead overflowSize isClient isProtect kind = .ok protector) :
    overflowSize < aead.nonceLength ∧ protector.Ready aead ∧
      protector.ctr = ⟨overflowSize,
        counterBase (if isProtect then !isClient else isClient) aead.nonceLength⟩ := by
  have crypter {flag : Bool} {protector : Protector}
      (created : (altsCrypterCreateCommon aead flag overflowSize).map Protector.crypter =
        .ok protector) :
      overflowSize < aead.nonceLength ∧ protector.Ready aead ∧
        protector.ctr = ⟨overflowSize, counterBase flag aead.nonceLength⟩ := by
    unfold altsCrypterCreateCommon at created
    cases counter : altsCounterCreate flag aead.nonceLength overflowSize with
    | error =>
      rw [counter] at created
      cases created
    | ok =>
      rw [counter] at created
      obtain rfl := Except.ok.inj created
      obtain ⟨room, rfl⟩ := altsCounterCreate_ok counter
      exact ⟨room, trivial, rfl⟩
  cases kind with
  | frameProtector =>
    cases isProtect with
    | true => exact crypter created
    | false => exact crypter created
  | zeroCopy =>
    simp only [createProtector, altsIovecRecordProtocolCreate] at created
    cases counter : altsCounterCreate (if isProtect then !isClient else isClient)
        aead.nonceLength overflowSize with
    | error =>
      rw [counter] at created
      cases created
    | ok =>
      rw [counter] at created
      obtain rfl := Except.ok.inj created
      obtain ⟨room, rfl⟩ := altsCounterCreate_ok counter
      exact ⟨room, rfl, rfl⟩

theorem bind_ok {First Second : Type} {first : Except Failure First}
    {next : First → Except Failure Second} {result : Second} (done : first.bind next = .ok result) :
    ∃ value, first = .ok value ∧ next value = .ok result := by
  cases first with
  | error => cases done
  | ok value => exact ⟨value, rfl, done⟩

theorem Connection.create_ok {kind : Peer → Kind}
    (created : Connection.create aead overflowSize kind = .ok connection) :
    overflowSize < aead.nonceLength ∧ connection.Counted aead overflowSize ∧
      connection.encryptions = [] ∧ ∀ peer, connection.wire peer = [] := by
  obtain ⟨clientProtector, first, created⟩ := bind_ok created
  obtain ⟨clientUnprotector, second, created⟩ := bind_ok created
  obtain ⟨serverProtector, third, created⟩ := bind_ok created
  obtain ⟨serverUnprotector, fourth, created⟩ := bind_ok created
  obtain rfl := Except.ok.inj created
  obtain ⟨room, clientReady, clientProtects⟩ := createProtector_ok first
  obtain ⟨_, _, clientUnprotects⟩ := createProtector_ok second
  obtain ⟨_, serverReady, serverProtects⟩ := createProtector_ok third
  obtain ⟨_, _, serverUnprotects⟩ := createProtector_ok fourth
  have zero (flag : Bool) := numbered_counterBase flag room
  refine ⟨room, ⟨?_, ?_, ?_, ?_, ?_, ?_⟩, rfl, fun _ => rfl⟩
  · rintro (_ | _)
    · exact clientReady
    · exact serverReady
  · rintro (_ | _)
    · exact congrArg AltsCounter.overflowSize clientProtects
    · exact congrArg AltsCounter.overflowSize serverProtects
  · rintro (_ | _)
    · exact congrArg AltsCounter.overflowSize clientUnprotects
    · exact congrArg AltsCounter.overflowSize serverUnprotects
  · rintro (_ | _)
    · exact congrArg counter clientProtects ▸ zero false
    · exact congrArg counter serverProtects ▸ zero true
  · rintro (_ | _) <;> trivial
  · rintro _ (_ | _)
    · exact ⟨0, congrArg counter serverUnprotects ▸ zero false, rfl, nofun⟩
    · exact ⟨0, congrArg counter clientUnprotects ▸ zero true, rfl, nofun⟩

/-! ## Steps -/

theorem nonces_cons (peer other : Peer) (nonce : Bytes) (encryptions : List (Peer × Bytes)) :
    (((peer, nonce) :: encryptions).filter fun encryption => encryption.1 = other).map Prod.snd =
      if peer = other then
        nonce :: (encryptions.filter fun encryption => encryption.1 = other).map Prod.snd
      else (encryptions.filter fun encryption => encryption.1 = other).map Prod.snd := by
  by_cases same : peer = other
  · rw [if_pos same, List.filter_cons_of_pos (by simpa using same), List.map_cons]
  · rw [if_neg same, List.filter_cons_of_neg (by simpa using same)]

/-- What a step does: it fails and encrypts nothing, it encrypts, or it opens a frame. -/
inductive Steps (aead : Aead) (connection : Connection) : Operation → Connection → Prop where
  | refused {peer : Peer} {call : ProtectCall} {fault : Option Failure} {outcome : Outcome Unit}
      (called : (connection.protector peer).protect aead fault call = some outcome)
      (nonce : outcome.nonce = none) :
      Steps aead connection (.protect peer call fault)
        { connection with
          protector := Function.update connection.protector peer
            ((connection.protector peer).setCtr (connection.protector peer).ctr)
          failed := true }
  | encrypted {peer : Peer} {call : ProtectCall} {fault : Option Failure} {outcome : Outcome Unit}
      (called : (connection.protector peer).protect aead fault call = some outcome)
      (nonce : outcome.nonce ≠ none) (wrapped : Bool)
      (increment : (LittleEndian.increment (connection.protector peer).ctr.overflowSize
        (connection.protector peer).ctr.counter).2 = wrapped) :
      Steps aead connection (.protect peer call fault)
        { connection with
          protector := Function.update connection.protector peer
            ((connection.protector peer).setCtr
              { (connection.protector peer).ctr with
                counter := (LittleEndian.increment (connection.protector peer).ctr.overflowSize
                  (connection.protector peer).ctr.counter).1 })
          wire := if wrapped then connection.wire else Function.update connection.wire peer
            (connection.wire peer ++ [(connection.protector peer).ctr.counter])
          encryptions := (peer, (connection.protector peer).ctr.counter) :: connection.encryptions
          failed := connection.failed || wrapped }
  | broken {peer : Peer} {call : UnprotectCall} {fault : Option Failure} (ctr : AltsCounter)
      (size : ctr.overflowSize = (connection.unprotector peer).ctr.overflowSize) :
      Steps aead connection (.unprotect peer call fault)
        { connection with
          unprotector := Function.update connection.unprotector peer
            ((connection.unprotector peer).setCtr ctr)
          failed := true }
  | opened {peer : Peer} {call : UnprotectCall} {fault : Option Failure} {frame : Bytes}
      {rest : List Bytes} (waiting : connection.wire peer.other = frame :: rest)
      (increment : (LittleEndian.increment (connection.unprotector peer).ctr.overflowSize
        (connection.unprotector peer).ctr.counter).2 = false) :
      Steps aead connection (.unprotect peer call fault)
        { connection with
          unprotector := Function.update connection.unprotector peer
            ((connection.unprotector peer).setCtr
              { (connection.unprotector peer).ctr with
                counter := (LittleEndian.increment (connection.unprotector peer).ctr.overflowSize
                  (connection.unprotector peer).ctr.counter).1 })
          wire := Function.update connection.wire peer.other rest }

theorem Connection.Counted.steps (counted : connection.Counted aead overflowSize)
    {operation : Operation} (taken : connection.step aead operation = some connection') :
    Steps aead connection operation connection' := by
  cases operation with
  | protect peer call fault =>
    obtain ⟨outcome, called, result⟩ := Option.bind_eq_some_iff.mp taken
    obtain rfl := Option.some.inj result
    have protects := (counted.ready peer).protects called
    cases protects with
    | refused =>
      have steps : Steps aead connection (.protect peer call fault) _ := .refused called rfl
      simpa [succeeded] using steps
    | finished =>
      rw [Outcome.finish_eq] at called ⊢
      cases increment : (LittleEndian.increment (connection.protector peer).ctr.overflowSize
          (connection.protector peer).ctr.counter).2 with
      | false =>
        have steps : Steps aead connection (.protect peer call fault) _ :=
          .encrypted called (by simp) false increment
        simpa [succeeded] using steps
      | true =>
        have steps : Steps aead connection (.protect peer call fault) _ :=
          .encrypted called (by simp) true increment
        simpa [succeeded] using steps
  | unprotect peer call fault =>
    simp only [Connection.step] at taken
    cases waiting : connection.wire peer.other with
    | nil =>
      rw [waiting] at taken
      cases taken
    | cons =>
      rw [waiting] at taken
      obtain ⟨outcome, called, result⟩ := Option.bind_eq_some_iff.mp taken
      obtain rfl := Option.some.inj result
      have unprotects := Protector.unprotects called
      cases unprotects with
      | failed =>
        have steps : Steps aead connection (.unprotect peer call fault) _ :=
          .broken (connection.unprotector peer).ctr rfl
        simpa [succeeded] using steps
      | finished =>
        rw [Outcome.finish_eq]
        cases increment : (LittleEndian.increment (connection.unprotector peer).ctr.overflowSize
            (connection.unprotector peer).ctr.counter).2 with
        | false =>
          have steps : Steps aead connection (.unprotect peer call fault) _ :=
            .opened waiting increment
          simpa [succeeded] using steps
        | true =>
          have steps : Steps aead connection (.unprotect peer call fault) _ := .broken
            { (connection.unprotector peer).ctr with
              counter := (LittleEndian.increment
                (connection.unprotector peer).ctr.overflowSize
                (connection.unprotector peer).ctr.counter).1 } rfl
          simpa [succeeded] using steps

theorem update_apply (peer other : Peer) {Value : Type} (values : Peer → Value) (value : Value) :
    Function.update values peer value other = if other = peer then value else values other :=
  Function.update_apply values peer value other

variable {operation : Operation}

theorem Connection.Counted.step (counted : connection.Counted aead overflowSize)
    (room : overflowSize < aead.nonceLength) (steps : Steps aead connection operation connection') :
    connection'.Counted aead overflowSize := by
  have sizes (peer : Peer) : overflowSize ≤ (sendBase aead peer).length := by
    rw [sendBase, length_counterBase]
    exact room.le
  cases steps with
  | @refused peer call fault outcome called nonce =>
    refine ⟨?_, ?_, counted.unprotectorSize, ?_, counted.nonces, nofun⟩
    · intro other
      dsimp only
      rw [update_apply]
      split
      · exact (counted.ready peer).setCtr _
      · exact counted.ready other
    · intro other
      dsimp only
      rw [update_apply]
      split
      · rw [ctr_setCtr]
        exact counted.protectorSize peer
      · exact counted.protectorSize other
    · intro other
      dsimp only
      rw [update_apply]
      split
      · rename_i same
        rw [ctr_setCtr, same]
        exact counted.protector peer
      · exact counted.protector other
  | @encrypted peer call fault outcome called nonce wrapped increment =>
    have size := counted.protectorSize peer
    rw [size] at increment ⊢
    obtain ⟨next, wraps⟩ := (counted.protector peer).increment (sizes peer)
    refine ⟨?_, ?_, counted.unprotectorSize, ?_, ?_, ?_⟩
    · intro other
      dsimp only
      rw [update_apply]
      split
      · exact (counted.ready peer).setCtr _
      · exact counted.ready other
    · intro other
      dsimp only
      rw [update_apply]
      split
      · rw [ctr_setCtr]
        exact size
      · exact counted.protectorSize other
    · intro other
      dsimp only [Connection.nonces]
      rw [update_apply, nonces_cons]
      by_cases same : other = peer
      · subst same
        rw [if_pos rfl, if_pos rfl, ctr_setCtr]
        exact next
      · rw [if_neg same, if_neg (Ne.symm same)]
        exact counted.protector other
    · intro other
      dsimp only [Connection.nonces]
      rw [nonces_cons]
      by_cases same : peer = other
      · subst same
        rw [if_pos rfl]
        exact ⟨counted.protector peer, counted.nonces peer⟩
      · rw [if_neg same]
        exact counted.nonces other
    · intro notFailed other
      rw [Bool.or_eq_false_iff] at notFailed
      obtain ⟨notFailed, rfl⟩ := notFailed
      obtain ⟨opened, flight⟩ := counted.inFlight notFailed other
      refine ⟨opened, ?_⟩
      dsimp only [Connection.nonces]
      rw [nonces_cons, if_neg Bool.false_ne_true, update_apply]
      by_cases same : other = peer
      · subst same
        rw [if_pos rfl, if_pos rfl]
        refine ⟨flight.counter, ?_, ?_⟩
        · have sent := flight.sent
          rw [List.length_append, List.length_singleton, List.length_cons, ← Nat.add_assoc, sent]
          rfl
        · intro place nonce there
          rcases Ledger.append_cases there with old | ⟨rfl, rfl⟩
          · exact flight.frames place nonce old
          · rw [flight.sent]
            exact counted.protector other
      · rw [if_neg same, if_neg (Ne.symm same)]
        exact flight
  | @broken peer call fault ctr size =>
    refine ⟨counted.ready, counted.protectorSize, ?_, counted.protector, counted.nonces, nofun⟩
    intro other
    dsimp only
    rw [update_apply]
    split
    · rw [ctr_setCtr, size]
      exact counted.unprotectorSize peer
    · exact counted.unprotectorSize other
  | @opened peer call fault frame rest waiting increment =>
    have size := counted.unprotectorSize peer
    rw [size] at increment ⊢
    refine ⟨counted.ready, counted.protectorSize, ?_, counted.protector, counted.nonces, ?_⟩
    · intro other
      dsimp only
      rw [update_apply]
      split
      · rw [ctr_setCtr]
        exact size
      · exact counted.unprotectorSize other
    · intro notFailed other
      obtain ⟨opened, flight⟩ := counted.inFlight notFailed other
      rcases eq_or_eq_other peer other with rfl | rfl
      · refine ⟨opened, ?_⟩
        dsimp only
        rw [update_apply, update_apply, if_neg (other_ne other),
          if_neg (other_ne other).symm]
        exact flight
      · refine ⟨opened + 1, ?_⟩
        dsimp only
        rw [waiting] at flight
        rw [other_other] at flight ⊢
        rw [update_apply, update_apply, if_pos rfl, if_pos rfl, ctr_setCtr]
        refine ⟨(flight.counter.increment (sizes _)).1, ?_, ?_⟩
        · have sent := flight.sent
          exact (Nat.add_right_comm opened 1 rest.length).trans sent
        · intro place nonce there
          have number := flight.frames (place + 1) nonce there
          rwa [Nat.add_comm place 1, ← Nat.add_assoc] at number

theorem Connection.Counted.aligned (counted : connection.Counted aead overflowSize)
    (notFailed : connection.failed = false) (peer : Peer) (nonce : Bytes)
    (next : (connection.wire peer).head? = some nonce) :
    (connection.unprotector peer.other).ctr.counter = nonce := by
  obtain ⟨opened, flight⟩ := counted.inFlight notFailed peer
  rw [List.head?_eq_getElem?] at next
  exact flight.counter.eq (flight.frames 0 nonce next) rfl

/-! ## Reuse -/

theorem Numbering.number {base : Bytes} {nonces : List Bytes}
    (numbering : Numbering overflowSize base nonces) {nonce : Bytes} (member : nonce ∈ nonces) :
    ∃ number < nonces.length, Numbered overflowSize base number nonce := by
  induction nonces with
  | nil => cases member
  | cons last earlier ih =>
    rcases List.mem_cons.mp member with rfl | member
    · exact ⟨earlier.length, Nat.lt_succ_self _, numbering.1⟩
    · obtain ⟨number, below, numbered⟩ := ih numbering.2 member
      exact ⟨number, Nat.lt_succ_of_lt below, numbered⟩

theorem Numbering.mem {base : Bytes} {nonces : List Bytes}
    (numbering : Numbering overflowSize base nonces) {number : Nat} (below : number < nonces.length) :
    ∃ nonce ∈ nonces, Numbered overflowSize base number nonce := by
  induction nonces with
  | nil => cases below
  | cons last earlier ih =>
    rcases Nat.lt_succ_iff_lt_or_eq.mp below with earlierNumber | rfl
    · obtain ⟨nonce, member, numbered⟩ := ih numbering.2 earlierNumber
      exact ⟨nonce, List.mem_cons_of_mem _ member, numbered⟩
    · exact ⟨last, List.mem_cons_self .., numbering.1⟩

variable {nonce : Bytes}

theorem mem_encryptions {peer : Peer} (member : nonce ∈ connection.nonces peer) :
    (peer, nonce) ∈ connection.encryptions := by
  obtain ⟨⟨_, _⟩, listed, rfl⟩ := List.mem_map.mp member
  obtain ⟨listed, own⟩ := List.mem_filter.mp listed
  rwa [← of_decide_eq_true own]

theorem mem_nonces {peer : Peer} (member : (peer, nonce) ∈ connection.encryptions) :
    nonce ∈ connection.nonces peer :=
  List.mem_map.mpr ⟨(peer, nonce), List.mem_filter.mpr ⟨member, by simp⟩, rfl⟩

section

variable (counted : connection.Counted aead overflowSize) (room : overflowSize < aead.nonceLength)
include counted room

theorem Connection.Counted.fresh_iff (peer : Peer) :
    (connection.protector peer).ctr.counter ∉ connection.encryptions.map Prod.snd ↔
      (connection.nonces peer).length < 256 ^ overflowSize := by
  have current := counted.protector peer
  have positive : 0 < 256 ^ overflowSize := by positivity
  constructor
  · intro fresh
    by_contra full
    have below : (connection.nonces peer).length - 256 ^ overflowSize <
        (connection.nonces peer).length := by omega
    obtain ⟨nonce, member, numbered⟩ := (counted.nonces peer).mem below
    have same : (connection.protector peer).ctr.counter = nonce :=
      current.eq numbered (Nat.mod_eq_sub_mod (by omega))
    exact fresh (List.mem_map.mpr ⟨(peer, nonce), mem_encryptions member, same.symm⟩)
  · intro below used
    obtain ⟨⟨sender, nonce⟩, member, same⟩ := List.mem_map.mp used
    obtain ⟨number, bound, numbered⟩ := (counted.nonces sender).number (mem_nonces member)
    obtain rfl : nonce = _ := same
    rcases eq_or_eq_other peer sender with rfl | rfl
    · have equal := numbered.mod_eq current
      rw [Nat.mod_eq_of_lt below, Nat.mod_eq_of_lt (by omega)] at equal
      omega
    · have fixed := current.fixed.symm.trans numbered.fixed
      rw [sendBase, sendBase, isClient_other] at fixed
      exact counterBase_drop_ne room (!peer.isClient) fixed

theorem good_step_iff (good : connection.Good) (steps : Steps aead connection operation connection') :
    connection'.Good ↔ WithinLimit aead connection operation := by
  have aligned := (counted.step room steps).aligned
  cases steps with
  | @refused peer call fault outcome called nonce =>
    refine ⟨fun _ other there performed => ?_, fun _ => ⟨good.1, aligned⟩⟩
    obtain rfl := Option.mem_unique called there
    exact absurd nonce performed
  | @encrypted peer call fault outcome called nonce wrapped increment =>
    have fresh := counted.fresh_iff room peer
    rw [← counted.protectorSize peer] at fresh
    constructor
    · rintro ⟨distinct, _⟩ _ _ _
      exact fresh.mp (List.nodup_cons.mp distinct).1
    · intro within
      have below := within outcome called nonce
      exact ⟨List.nodup_cons.mpr ⟨fresh.mpr below, good.1⟩, aligned⟩
  | broken => exact ⟨fun _ => trivial, fun _ => ⟨good.1, aligned⟩⟩
  | opened => exact ⟨fun _ => trivial, fun _ => ⟨good.1, aligned⟩⟩

end

theorem nonces_unique_iff_withinLimit (aead : Aead) (overflowSize : Nat) (kind : Peer → Kind)
    (connection : Connection) (created : Connection.create aead overflowSize kind = .ok connection)
    (operations : List Operation) (final : Connection) :
    Machine.Run (Connection.step aead) (WithinLimit aead) connection operations final ↔
      Machine.Reach (Connection.step aead) connection operations final ∧
        ∀ done later, operations = done ++ later → ∀ middle,
          Machine.Reach (Connection.step aead) connection done middle → middle.Good := by
  obtain ⟨room, counted, none, idle⟩ := Connection.create_ok created
  have good : connection.Good := by
    refine ⟨by rw [none]; exact List.nodup_nil, ?_⟩
    intro _ peer nonce there
    rw [idle] at there
    cases there
  have preserved {connection : Connection} {operation : Operation} {connection' : Connection}
      (counted : connection.Counted aead overflowSize)
      (taken : connection.step aead operation = some connection') :
      connection'.Counted aead overflowSize := counted.step room (counted.steps taken)
  exact Machine.Run.iff_always preserved
    (fun counted good taken => good_step_iff counted room good (counted.steps taken))
    counted good operations final

/-- A crypter whose ciphertext is the plaintext. -/
def plainAead : Aead where
  nonceLength := 2
  tagLength := 16
  encrypt _ _ plaintext := .ok (plaintext ++ List.replicate 16 0)
  decrypt _ _ ciphertext := .ok (ciphertext.take (ciphertext.length - 16))
  length_encrypt _ _ plaintext ciphertext encrypted := by
    obtain rfl := Except.ok.inj encrypted
    rw [List.length_append, List.length_replicate]

/-- The peers of a connection whose counters have one byte to count with. -/
def shortConnection : Except Failure Connection :=
  Connection.create plainAead 1 fun _ => .frameProtector

def sealByte (peer : Peer) : Operation := .protect peer (.processInPlace ⟨some [7], 17, false⟩) none

theorem nonces_unique_iff_withinLimit_both :
    ∃ connection final, shortConnection = .ok connection ∧
      Machine.Run (Connection.step plainAead) (WithinLimit plainAead) connection
        [sealByte .client, sealByte .server, sealByte .client] final ∧ final.Good := by
  obtain ⟨connection, created⟩ : ∃ connection, shortConnection = .ok connection := ⟨_, rfl⟩
  have executed : (Machine.exec (fun connection operation =>
      if decide (WithinLimit plainAead connection operation) then
        Connection.step plainAead connection operation else none) connection
      [sealByte .client, sealByte .server, sealByte .client]).isSome = true := by
    obtain rfl := Except.ok.inj created
    decide
  obtain ⟨final, executed⟩ := Option.isSome_iff_exists.mp executed
  have run : Machine.Run (Connection.step plainAead) (WithinLimit plainAead) connection _ final :=
    Machine.run_of_exec (fun _ _ => of_decide_eq_true) executed
  have always := (nonces_unique_iff_withinLimit plainAead 1 _ connection created _ final).mp run
  exact ⟨connection, final, created, run, always.2 _ [] (List.append_nil _).symm final always.1⟩

/-- The counter of one byte wraps, and the next frame has the nonce of the first. -/
theorem wrapped_nonce_reused :
    ∃ connection operations final, shortConnection = .ok connection ∧
      Machine.Reach (Connection.step plainAead) connection operations final ∧ ¬ final.Good := by
  obtain ⟨connection, created⟩ : ∃ connection, shortConnection = .ok connection := ⟨_, rfl⟩
  have executed : (Machine.exec (Connection.step plainAead) connection
      (List.replicate 257 (sealByte .client))).map (fun final =>
        (final.encryptions[0]?, final.encryptions[256]?)) =
          some (some (.client, [0, 0]), some (.client, [0, 0])) := by
    obtain rfl := Except.ok.inj created
    decide +kernel
  obtain ⟨final, executed, same⟩ := Option.map_eq_some_iff.mp executed
  refine ⟨connection, _, final, created, Machine.reach_of_exec executed, fun good => ?_⟩
  obtain ⟨last, first⟩ := Prod.mk.inj same
  have equal : (final.encryptions.map Prod.snd)[0]? = (final.encryptions.map Prod.snd)[256]? := by
    rw [List.getElem?_map, List.getElem?_map, last, first]
  have bound : 0 < (final.encryptions.map Prod.snd).length := by
    rw [List.length_map]
    exact (List.getElem?_eq_some_iff.mp last).1
  exact absurd ((List.getElem?_inj bound good.1).mp equal) (by decide)

/-! ## Frames in order -/

section

variable {sender receiver : AltsIovecRecordProtocol}

/-- A message with the space for its frame. -/
def protectFrame (aead : Aead) (rp : AltsIovecRecordProtocol) (message : Bytes) : Outcome Bytes :=
  privacyIntegrityProtect aead none rp message
    (some (kZeroCopyFrameHeaderSize + message.length + rp.tagLength))

/-- A frame cut behind its header. -/
def unprotectFrame (aead : Aead) (rp : AltsIovecRecordProtocol) (frame : Bytes) : Outcome Bytes :=
  let protected_ := frame.drop kZeroCopyFrameHeaderSize
  privacyIntegrityUnprotect aead none rp (some (frame.take kZeroCopyFrameHeaderSize)) protected_
    (protected_.length - rp.tagLength)

/-- One after the other, up to the first that fails. -/
def processAll (process : AltsIovecRecordProtocol → Bytes → Outcome Bytes) :
    AltsIovecRecordProtocol → List Bytes → Except Failure (List Bytes)
  | _, [] => .ok []
  | rp, input :: inputs =>
    match process rp input with
    | ⟨.error failure, _, _⟩ => .error failure
    | ⟨.ok output, ctr, _⟩ => (processAll process { rp with ctr } inputs).map (output :: ·)

theorem load32Le_store32Le {value : Nat} (small : value < 4294967296) (rest : Bytes) :
    load32Le (store32Le value ++ rest) = value := by
  simp only [load32Le, store32Le, List.cons_append, List.nil_append, List.take_succ_cons,
    List.take_zero, LittleEndian.value, List.map_cons, List.map_nil, Nat.ofDigits_cons,
    Nat.ofDigits_nil, UInt8.toNat_ofNat', Nat.shiftRight_eq_div_pow]
  omega

theorem verifyFrameHeader_write {length : Nat} (small : 4 + length < 4294967296) :
    verifyFrameHeader length (writeFrameHeader length) = .ok () := by
  have size : load32Le (writeFrameHeader length) = kZeroCopyFrameMessageTypeFieldSize + length :=
    load32Le_store32Le small _
  have type : load32Le ((writeFrameHeader length).drop kZeroCopyFrameLengthFieldSize) =
    kZeroCopyFrameMessageType := rfl
  rw [verifyFrameHeader, size, type, if_neg (not_not.mpr rfl), if_neg (not_not.mpr rfl)]

/-- What has been encrypted is decrypted by the same key and nonce. -/
def Aead.Decrypts (aead : Aead) : Prop :=
  ∀ nonce aad plaintext ciphertext, aead.encrypt nonce aad plaintext = .ok ciphertext →
    aead.decrypt nonce aad ciphertext = .ok plaintext

/-- The peer that has the same counter gets the message, and has the same counter again. -/
theorem unprotect_protect (decrypts : aead.Decrypts)
    (same : receiver = { sender with isProtect := false }) {message frame : Bytes}
    (small : 4 + (message.length + sender.tagLength) < 4294967296)
    (done : (protectFrame aead sender message).result = .ok frame) :
    unprotectFrame aead receiver frame =
      ⟨.ok message, (protectFrame aead sender message).ctr, some sender.ctr.counter⟩ := by
  subst same
  unfold protectFrame at done ⊢
  obtain ⟨ctr, tagLength, integrityOnly, isProtect⟩ := sender
  obtain ⟨rfl, rfl⟩ : integrityOnly = false ∧ isProtect = true := by
    cases integrityOnly
    · cases isProtect
      · cases done
      · exact ⟨rfl, rfl⟩
    · cases done
  have use : checkUse ⟨ctr, tagLength, false, true⟩ false true = .ok () := rfl
  have use' : checkUse ⟨ctr, tagLength, false, false⟩ false false = .ok () := rfl
  simp only [privacyIntegrityProtect, use, ne_eq, not_true_eq_false, if_false, faulty] at done ⊢
  cases sealed : aead.encrypt ctr.counter [] message with
  | error => simp [sealed, Outcome.refuse] at done
  | ok written =>
    by_cases length : written.length = message.length + tagLength
    · simp only [sealed, length, not_true_eq_false, if_false, Outcome.finish] at done ⊢
      rcases counted : incrementCounter counterOverflowed ctr with ⟨next, _ | _⟩
      · simp [counted, Except.map] at done
      · simp only [counted, Except.map, Except.ok.injEq] at done ⊢
        subst done
        have header : (writeFrameHeader (message.length + tagLength)).length =
          kZeroCopyFrameHeaderSize := rfl
        rw [unprotectFrame, List.take_left' header, List.drop_left' header]
        simp [privacyIntegrityUnprotect, use', header, length, verifyFrameHeader_write small,
          faulty, decrypts _ _ _ _ sealed, Outcome.finish, counted, Except.map]
    · simp [sealed, length] at done

end

end GrpcCore.Alts
