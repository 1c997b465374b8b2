import GrpcCore.Binder.Interleaved

/-!
# Transactions arrive whole

What a reader notifies of the transactions of a call, and when it is what was sent.
-/

namespace GrpcCore.Binder

open Transaction

variable (bytesSent : Nat)

namespace Transaction

variable (tx : Transaction) (code : Nat)

/-- The initial metadata as a peer finds them: a server finds the path of the call there. -/
def sentPrefix : List Notification :=
  match tx.prefixMetadata with
  | none => []
  | some metadata =>
    [.recvInitialMetadata code (.ok (Reading.withPath (!tx.isClient) metadata tx.methodRef))]

def sentMessage : List Notification :=
  match tx.messageData with
  | none => []
  | some data => [.recvMessage code (.ok data)]

def sentSuffix (status : Int) : List Notification :=
  match tx.suffixMetadata with
  | none => []
  | some metadata => [.recvTrailingMetadata code (.ok metadata) status]

def sent : List Notification := tx.sentPrefix code ++ (tx.sentMessage code ++ tx.sentSuffix code tx.status)

def flagStatus : Int := if tx.canBeSentInOneTransaction then tx.getFlags.status else 0

def received : List Notification :=
  tx.sentPrefix code ++ (tx.sentMessage code ++ tx.sentSuffix code tx.flagStatus)

def parcelCount : Nat :=
  if tx.canBeSentInOneTransaction then 1
  else ((tx.messageData.getD []).length + (kBlockSize - 1)) / kBlockSize

theorem length_blockPieces : (tx.blockPieces bytesSent).length =
    ((tx.messageData.getD []).length - bytesSent + (kBlockSize - 1)) / kBlockSize := by
  induction bytesSent using blockPieces.induct tx with
  | case1 bytesSent more ih =>
    unfold blockPieces
    rw [if_pos more, List.length_cons, ih]
    unfold blockSize kBlockSize
    omega
  | case2 bytesSent done =>
    unfold blockPieces
    rw [if_neg done, List.length_nil]
    unfold kBlockSize
    omega

theorem length_pieces : tx.pieces.length = tx.parcelCount := by
  unfold pieces parcelCount
  split
  · rfl
  · exact tx.length_blockPieces 0

theorem notifications_blockPiece (buffer : ByteString) :
    (tx.blockPiece bytesSent).notifications code buffer =
      (if bytesSent = 0 then tx.sentPrefix code else []) ++
        ((if tx.isLast bytesSent then
          [.recvMessage code (.ok (buffer ++ (tx.blockPiece bytesSent).data))] else []) ++
          (if tx.isLast bytesSent then tx.sentSuffix code 0 else [])) := by
  unfold Piece.notifications
  have flags : (tx.blockPiece bytesSent).flags = tx.blockFlags bytesSent := rfl
  have is : (tx.blockPiece bytesSent).tx = tx := rfl
  rw [flags, is, has_prefix_blockFlags, has_blockFlags_messageData, has_blockFlags_partial,
    has_blockFlags_suffix, status_blockFlags]
  unfold sentPrefix sentSuffix
  congr 1
  · cases tx.prefixMetadata with
    | none => simp
    | some => simp
  congr 1
  · cases tx.isLast bytesSent with
    | true => rfl
    | false => rfl
  · cases tx.suffixMetadata with
    | none => simp
    | some => simp

theorem buffered_blockPiece (buffer : ByteString) :
    (tx.blockPiece bytesSent).buffered buffer =
      if tx.isLast bytesSent then [] else buffer ++ (tx.blockPiece bytesSent).data := by
  unfold Piece.buffered
  have flags : (tx.blockPiece bytesSent).flags = tx.blockFlags bytesSent := rfl
  rw [flags, has_blockFlags_messageData, has_blockFlags_partial]
  cases tx.isLast bytesSent with
  | true => rfl
  | false => rfl

variable (rest : List Piece)

theorem notificationsOf_blockPieces (bytesSent : Nat)
    (more : bytesSent < (tx.messageData.getD []).length) (buffer : ByteString) :
    notificationsOf code buffer (tx.blockPieces bytesSent ++ rest) =
      (if bytesSent = 0 then tx.sentPrefix code else []) ++
        (.recvMessage code (.ok (buffer ++ (tx.messageData.getD []).drop bytesSent)) ::
          (tx.sentSuffix code 0 ++ notificationsOf code [] rest)) := by
  induction bytesSent using blockPieces.induct tx generalizing buffer with
  | case2 bytesSent done => exact absurd more done
  | case1 bytesSent _ ih =>
    have piece : notificationsOf code buffer (tx.blockPieces bytesSent ++ rest) =
        (tx.blockPiece bytesSent).notifications code buffer ++
          notificationsOf code ((tx.blockPiece bytesSent).buffered buffer)
            (tx.blockPieces (bytesSent + tx.blockSize bytesSent) ++ rest) := by
      have some_ : (tx.blockPiece bytesSent).flags ≠ 0#32 := tx.blockFlags_ne_zero bytesSent
      rw [blockPieces, if_pos more, List.cons_append, notificationsOf, if_neg some_]
    have chunk : (tx.blockPiece bytesSent).data =
        ((tx.messageData.getD []).drop bytesSent).take (tx.blockSize bytesSent) := rfl
    rw [piece, notifications_blockPiece, buffered_blockPiece, chunk]
    cases last : tx.isLast bytesSent with
    | true =>
      have small : (tx.messageData.getD []).length ≤ bytesSent + kBlockSize :=
        of_decide_eq_true last
      have size : tx.blockSize bytesSent = (tx.messageData.getD []).length - bytesSent :=
        min_eq_right (by omega)
      have done : ¬ bytesSent + tx.blockSize bytesSent < (tx.messageData.getD []).length := by
        rw [size, Nat.add_sub_cancel' more.le]
        exact lt_irrefl _
      have all : ((tx.messageData.getD []).drop bytesSent).take (tx.blockSize bytesSent) =
          (tx.messageData.getD []).drop bytesSent :=
        List.take_of_length_le (by rw [List.length_drop, size])
      rw [blockPieces, if_neg done, all]
      simp
    | false =>
      have large : ¬ (tx.messageData.getD []).length ≤ bytesSent + kBlockSize :=
        of_decide_eq_false last
      have size : tx.blockSize bytesSent = kBlockSize := min_eq_left (by omega)
      have later : bytesSent + kBlockSize ≠ 0 := by
        unfold kBlockSize
        omega
      rw [size] at ih ⊢
      have joined : (buffer ++ ((tx.messageData.getD []).drop bytesSent).take kBlockSize) ++
          (tx.messageData.getD []).drop (bytesSent + kBlockSize) =
            buffer ++ (tx.messageData.getD []).drop bytesSent := by
        rw [← List.drop_drop, List.append_assoc, List.take_append_drop]
      simp only [Bool.false_eq_true, if_false, List.append_nil]
      rw [ih (not_le.mp large), joined, if_neg later, List.nil_append]

theorem received_of_ignored (ignored : tx.getFlags = 0#32) : tx.received code = [] := by
  have noPrefix : tx.prefixMetadata = none := Option.not_isSome_iff_eq_none.mp (by
    rw [← has_prefix_getFlags, ignored]
    decide)
  have noData : tx.messageData = none := Option.not_isSome_iff_eq_none.mp (by
    rw [← has_getFlags_messageData, ignored]
    decide)
  have noSuffix : tx.suffixMetadata = none := Option.not_isSome_iff_eq_none.mp (by
    rw [← has_getFlags_suffix, ignored]
    decide)
  unfold received sentPrefix sentMessage sentSuffix
  rw [noPrefix, noData, noSuffix]
  rfl

theorem isSome_of_split (split_ : tx.canBeSentInOneTransaction = false) :
    ∃ data, tx.messageData = some data ∧ kBlockSize < data.length := by
  unfold canBeSentInOneTransaction at split_
  rw [has_getFlags_messageData] at split_
  cases is : tx.messageData with
  | none =>
    rw [is] at split_
    cases split_
  | some data =>
    rw [is] at split_
    exact ⟨data, rfl, not_le.mp (of_decide_eq_false split_)⟩

theorem notificationsOf_pieces :
    notificationsOf code [] (tx.pieces ++ rest) =
      tx.received code ++ notificationsOf code [] rest := by
  unfold pieces
  cases whole : tx.canBeSentInOneTransaction with
  | true =>
    rw [if_pos rfl, List.cons_append, List.nil_append, notificationsOf]
    have flags : tx.wholePiece.flags = tx.getFlags := rfl
    have is : tx.wholePiece.tx = tx := rfl
    have data : tx.wholePiece.data = tx.messageData.getD [] := rfl
    split
    case isTrue ignored => rw [tx.received_of_ignored code ignored, List.nil_append]
    case isFalse =>
      have empty : tx.wholePiece.buffered [] = [] := by
        unfold Piece.buffered
        rw [flags, has_getFlags_partial]
        split
        · rfl
        · rfl
      rw [empty]
      congr 1
      unfold Piece.notifications received flagStatus sentPrefix sentMessage sentSuffix
      rw [flags, is, data, has_prefix_getFlags, has_getFlags_messageData, has_getFlags_suffix,
        has_getFlags_partial, whole, if_pos rfl]
      congr 1
      · cases tx.prefixMetadata with
        | none => rfl
        | some => rfl
      congr 1
      · cases tx.messageData with
        | none => rfl
        | some => rfl
      · cases tx.suffixMetadata with
        | none => rfl
        | some => rfl
  | false =>
    obtain ⟨data, is, large⟩ := tx.isSome_of_split whole
    have more : 0 < (tx.messageData.getD []).length := by
      rw [is]
      exact lt_of_le_of_lt (Nat.zero_le _) large
    rw [if_neg Bool.false_ne_true, notificationsOf_blockPieces tx code rest 0 more, if_pos rfl]
    unfold received flagStatus sentMessage
    rw [whole, is]
    simp

end Transaction

variable (seq : Nat)

section Acceptance

/-- After a piece without flags, which is passed over, the numbers are no longer those expected. -/
theorem accepts_of_lt {seq expected : Nat} (ahead : expected < seq) (pieces : List Piece) :
    Accepts seq expected pieces ↔ ∀ piece ∈ pieces, piece.flags = 0#32 := by
  induction pieces generalizing seq with
  | nil => exact iff_of_true trivial (List.forall_mem_nil _)
  | cons piece rest ih =>
    rw [Accepts, List.forall_mem_cons]
    split
    case isTrue ignored =>
      rw [ih (Nat.lt_succ_of_lt ahead)]
      exact (and_iff_right ignored).symm
    case isFalse some_ =>
      exact iff_of_false (fun all => ahead.ne' all.1) fun all => some_ all.1

theorem accepts_iff (pieces : List Piece) : Accepts seq seq pieces ↔
    pieces.Pairwise (fun earlier later => earlier.flags = 0#32 → later.flags = 0#32) ∧
      ((pieces.filter fun piece => piece.flags ≠ 0#32).length = 0 ∨
        seq + (pieces.filter fun piece => piece.flags ≠ 0#32).length ≤ maxSeqNum) := by
  induction pieces generalizing seq with
  | nil => exact iff_of_true trivial ⟨List.Pairwise.nil, .inl rfl⟩
  | cons piece rest ih =>
    rw [Accepts, List.pairwise_cons]
    split
    case isTrue ignored =>
      rw [accepts_of_lt (Nat.lt_succ_self seq), List.filter_cons_of_neg (by simp [ignored])]
      constructor
      · intro all
        have none : rest.filter (fun piece => piece.flags ≠ 0#32) = [] :=
          List.filter_eq_nil_iff.mpr fun later within => by simp [all later within]
        rw [none]
        exact ⟨⟨fun later within _ => all later within,
          List.Pairwise.imp_of_mem (fun _ within _ => fun _ => all _ within)
            (List.pairwise_of_forall (fun _ _ => trivial : ∀ _ _ : Piece, True))⟩, .inl rfl⟩
      · intro all later within
        exact all.1.1 later within ignored
    case isFalse some_ =>
      rw [ih, List.filter_cons_of_pos (by simp [some_]), List.length_cons]
      constructor
      · rintro ⟨_, few, pairs, counted⟩
        exact ⟨⟨fun _ _ ignored => absurd ignored some_, pairs⟩, .inr (by omega)⟩
      · rintro ⟨⟨_, pairs⟩, counted⟩
        exact ⟨rfl, by omega, pairs, .inr (by omega)⟩

end Acceptance

section Calls

namespace Transaction

variable (tx : Transaction)

variable {piece : Piece}

theorem flags_of_mem_blockPieces (within : piece ∈ tx.blockPieces bytesSent) :
    piece.flags ≠ 0#32 := by
  induction bytesSent using Transaction.blockPieces.induct tx with
  | case1 bytesSent more ih =>
    rw [blockPieces, if_pos more] at within
    rcases List.mem_cons.mp within with rfl | later
    · exact tx.blockFlags_ne_zero bytesSent
    · exact ih later
  | case2 bytesSent done =>
    rw [blockPieces, if_neg done] at within
    cases within

theorem flags_of_mem_pieces (within : piece ∈ tx.pieces) :
    piece.flags = 0#32 ↔ tx.getFlags = 0#32 := by
  unfold pieces at within
  split at within
  case isTrue =>
    obtain rfl := List.mem_singleton.mp within
    exact Iff.rfl
  case isFalse split_ =>
    refine iff_of_false (tx.flags_of_mem_blockPieces 0 within) fun none => ?_
    obtain ⟨data, is, _⟩ := tx.isSome_of_split (Bool.eq_false_iff.mpr split_)
    have has := tx.has_getFlags_messageData
    rw [none, is] at has
    cases has

theorem tx_of_mem_blockPieces (within : piece ∈ tx.blockPieces bytesSent) : piece.tx = tx := by
  induction bytesSent using Transaction.blockPieces.induct tx with
  | case1 bytesSent more ih =>
    rw [blockPieces, if_pos more] at within
    rcases List.mem_cons.mp within with rfl | later
    · rfl
    · exact ih later
  | case2 bytesSent done =>
    rw [blockPieces, if_neg done] at within
    cases within

theorem tx_of_mem_pieces (within : piece ∈ tx.pieces) : piece.tx = tx := by
  unfold pieces at within
  split at within
  · obtain rfl := List.mem_singleton.mp within
    rfl
  · exact tx.tx_of_mem_blockPieces 0 within

theorem pieces_ne_nil : tx.pieces ≠ [] := by
  unfold pieces
  split
  case isTrue => exact List.cons_ne_nil _ _
  case isFalse split_ =>
    obtain ⟨data, is, large⟩ := tx.isSome_of_split (Bool.eq_false_iff.mpr split_)
    rw [blockPieces, if_pos]
    · exact List.cons_ne_nil _ _
    · rw [is]
      exact lt_of_le_of_lt (Nat.zero_le _) large

theorem length_filter_pieces : (tx.pieces.filter fun piece => piece.flags ≠ 0#32).length =
    if tx.getFlags = 0#32 then 0 else tx.parcelCount := by
  split
  case isTrue ignored =>
    rw [List.filter_eq_nil_iff.mpr fun piece within => ?_, List.length_nil]
    simp [(tx.flags_of_mem_pieces within).mpr ignored]
  case isFalse some_ =>
    rw [List.filter_eq_self.mpr fun piece within => ?_, length_pieces]
    exact decide_eq_true fun ignored => some_ ((tx.flags_of_mem_pieces within).mp ignored)

end Transaction

/-- What a call must keep to for its transactions to arrive whole. -/
structure Deliverable (txs : List Transaction) : Prop where
  /-- A split transaction carries no status, and a status has fifteen bits and a sign. -/
  statuses : ∀ tx ∈ txs, tx.suffixMetadata ≠ none →
    if tx.canBeSentInOneTransaction then -2 ^ 15 ≤ tx.status ∧ tx.status < 2 ^ 15
    else tx.status = 0
  /-- A transaction without flags is not followed by one with flags. -/
  ignored : txs.Pairwise fun earlier later => earlier.getFlags = 0#32 → later.getFlags = 0#32
  few : ((txs.filter fun tx => tx.getFlags ≠ 0#32).map Transaction.parcelCount).sum ≤ maxSeqNum

variable (isClient : Bool) (code : Nat) (txs : List Transaction)

theorem notificationsOf_flatMap : notificationsOf code [] (txs.flatMap pieces) =
    txs.flatMap (received · code) := by
  induction txs with
  | nil => rfl
  | cons tx txs ih =>
    rw [List.flatMap_cons, List.flatMap_cons, tx.notificationsOf_pieces, ih]

theorem length_filter_flatMap :
    ((txs.flatMap pieces).filter fun piece => piece.flags ≠ 0#32).length =
      ((txs.filter fun tx => tx.getFlags ≠ 0#32).map parcelCount).sum := by
  induction txs with
  | nil => rfl
  | cons tx txs ih =>
    rw [List.flatMap_cons, List.filter_append, List.length_append, ih, tx.length_filter_pieces]
    by_cases ignored : tx.getFlags = 0#32
    · rw [if_pos ignored, List.filter_cons_of_neg (by simp [ignored]), Nat.zero_add]
    · rw [if_neg ignored, List.filter_cons_of_pos (by simp [ignored]), List.map_cons,
        List.sum_cons]

theorem pairwise_flatMap_pieces :
    (txs.flatMap pieces).Pairwise (fun earlier later => earlier.flags = 0#32 → later.flags = 0#32) ↔
      txs.Pairwise fun earlier later => earlier.getFlags = 0#32 → later.getFlags = 0#32 := by
  rw [List.pairwise_flatMap]
  constructor
  · rintro ⟨_, pairs⟩
    refine pairs.imp fun {earlier later} related ignored => ?_
    obtain ⟨piece, within⟩ := List.exists_mem_of_ne_nil _ earlier.pieces_ne_nil
    obtain ⟨piece', within'⟩ := List.exists_mem_of_ne_nil _ later.pieces_ne_nil
    exact (later.flags_of_mem_pieces within').mp
      (related piece within piece' within' ((earlier.flags_of_mem_pieces within).mpr ignored))
  · intro pairs
    constructor
    · intro tx _
      refine List.Pairwise.imp_of_mem (fun within within' _ ignored => ?_)
        (List.pairwise_of_forall (fun _ _ => trivial : ∀ _ _ : Piece, True))
      exact (tx.flags_of_mem_pieces within').mpr ((tx.flags_of_mem_pieces within).mp ignored)
    · refine pairs.imp fun {earlier later} related piece within piece' within' ignored => ?_
      exact (later.flags_of_mem_pieces within').mpr
        (related ((earlier.flags_of_mem_pieces within).mp ignored))

theorem flatMap_eq_iff {Item Value : Type*} (items : List Item) {first second : Item → List Value}
    (lengths : ∀ item, (first item).length = (second item).length) :
    items.flatMap first = items.flatMap second ↔ ∀ item ∈ items, first item = second item := by
  induction items with
  | nil => exact iff_of_true rfl (List.forall_mem_nil _)
  | cons item items ih =>
    rw [List.flatMap_cons, List.flatMap_cons, List.forall_mem_cons, ← ih]
    constructor
    · intro same
      exact List.append_inj same (lengths item)
    · rintro ⟨here, there⟩
      rw [here, there]

theorem Transaction.length_received (tx : Transaction) :
    (tx.received code).length = (tx.sent code).length := by
  unfold received sent sentSuffix
  cases tx.suffixMetadata with
  | none => rfl
  | some => simp

theorem Transaction.received_eq_iff (tx : Transaction) : tx.received code = tx.sent code ↔
    (tx.suffixMetadata ≠ none →
      if tx.canBeSentInOneTransaction then -2 ^ 15 ≤ tx.status ∧ tx.status < 2 ^ 15
      else tx.status = 0) := by
  have status : tx.flagStatus = tx.status ↔
      if tx.canBeSentInOneTransaction then -2 ^ 15 ≤ tx.status ∧ tx.status < 2 ^ 15
      else tx.status = 0 := by
    unfold flagStatus
    split
    · constructor
      · intro same
        rw [← same]
        exact tx.getFlags.status_bounds
      · rintro ⟨least, most⟩
        exact tx.status_getFlags least most
    · exact eq_comm
  unfold received sent sentSuffix
  rw [← status]
  cases tx.suffixMetadata with
  | none => exact iff_of_true rfl fun some_ => absurd rfl some_
  | some => simp

theorem deliverable_iff : Accepts 0 0 (txs.flatMap pieces) ∧
      notificationsOf code [] (txs.flatMap pieces) =
        txs.flatMap (sent · code) ↔ Deliverable txs := by
  rw [notificationsOf_flatMap, flatMap_eq_iff txs fun tx => tx.length_received code, accepts_iff,
    pairwise_flatMap_pieces, length_filter_flatMap, Nat.zero_add]
  constructor
  · rintro ⟨⟨ignored, few⟩, arrived⟩
    exact ⟨fun tx within => (tx.received_eq_iff code).mp (arrived tx within), ignored,
      few.elim (fun none => le_of_eq_of_le none (Nat.zero_le _)) id⟩
  · intro deliverable
    exact ⟨⟨deliverable.ignored, .inr deliverable.few⟩, fun tx within =>
      (tx.received_eq_iff code).mpr (deliverable.statuses tx within)⟩

end Calls

section Delivery

theorem parcelsFrom_append (pieces more : List Piece) :
    parcelsFrom seq (pieces ++ more) =
      parcelsFrom seq pieces ++ parcelsFrom (seq + pieces.length) more := by
  induction pieces generalizing seq with
  | nil => rfl
  | cons piece pieces ih =>
    rw [List.cons_append, parcelsFrom, ih, parcelsFrom, List.length_cons, Nat.add_right_comm,
      Nat.add_assoc]
    rfl

theorem length_parcelsFrom (pieces : List Piece) :
    (parcelsFrom seq pieces).length = pieces.length := by
  induction pieces generalizing seq with
  | nil => rfl
  | cons piece pieces ih => rw [parcelsFrom, List.length_cons, ih, List.length_cons]

/-- The parcels of the transactions of a call, numbered from `seq` on. -/
def rpcCalls : Nat → List Transaction → List Parcel
  | _, [] => []
  | seq, tx :: txs => tx.rpcCall seq ++ rpcCalls (seq + (tx.rpcCall seq).length) txs

theorem rpcCalls_eq (txs : List Transaction) :
    rpcCalls seq txs = parcelsFrom seq (txs.flatMap pieces) := by
  induction txs generalizing seq with
  | nil => rfl
  | cons tx txs ih =>
    rw [rpcCalls, List.flatMap_cons, parcelsFrom_append, ih, rpcCall_eq, length_parcelsFrom]

/-- A wire that carries what a writer sends for calls, in any order that keeps each call's. -/
def Interleaves (wire : List (Nat × Parcel)) (txs : Nat → List Transaction) : Prop :=
  ∀ code, transactionsOf code wire = rpcCalls 0 (txs code)

/-- The peer accepts all that is on the wire, and notifies for every call what was sent. -/
def ArrivesWhole (dataSize : Parcel → Nat) (isClient : Bool) (wire : List (Nat × Parcel))
    (txs : Nat → List Transaction) : Prop :=
  ∃ reader, (WireReader.created isClient).processAll dataSize wire = some (reader, true) ∧
    ∀ code, reader.notified code = (txs code).flatMap (Transaction.sent · code)

section Wire

variable {dataSize : Parcel → Nat} {isClient : Bool} {wire : List (Nat × Parcel)}
  {txs : Nat → List Transaction}

theorem Interleaves.carries (interleaves : Interleaves wire txs) :
    Carries wire (fun _ => 0) fun code => (txs code).flatMap pieces :=
  fun code => (interleaves code).trans (rpcCalls_eq 0 (txs code))

theorem fromPeer_pieces (sides : ∀ code, ∀ tx ∈ txs code, tx.isClient = !isClient) :
    FromPeer isClient fun code => (txs code).flatMap pieces := by
  intro code piece within
  obtain ⟨tx, listed, within⟩ := List.mem_flatMap.mp within
  rw [tx.tx_of_mem_pieces within, sides code tx listed, Bool.not_not]

theorem ArrivesWhole.deliverable (arrives : ArrivesWhole dataSize isClient wire txs)
    (interleaves : Interleaves wire txs)
    (sides : ∀ code, ∀ tx ∈ txs code, tx.isClient = !isClient) (code : Nat) :
    Deliverable (txs code) := by
  obtain ⟨reader, processed, notified⟩ := arrives
  obtain ⟨accepts, accepted⟩ := processAll_spec (WireReader.created isClient) interleaves.carries
    (fromPeer_pieces sides)
  have all := accepted reader processed
  obtain ⟨reader', processed', notified'⟩ := accepts all
  obtain rfl := (Prod.mk.inj (Option.mem_unique processed processed')).1
  exact (deliverable_iff code (txs code)).mp
    ⟨all code, (notified' code).symm.trans (notified code)⟩

theorem arrivesWhole_of_deliverable (interleaves : Interleaves wire txs)
    (sides : ∀ code, ∀ tx ∈ txs code, tx.isClient = !isClient)
    (deliverable : ∀ code, Deliverable (txs code)) : ArrivesWhole dataSize isClient wire txs := by
  have both := fun code => (deliverable_iff code (txs code)).mpr (deliverable code)
  obtain ⟨reader, processed, notified⟩ := (processAll_spec (WireReader.created isClient)
    interleaves.carries (fromPeer_pieces sides)).1 fun code => (both code).1
  exact ⟨reader, processed, fun code => (notified code).trans (both code).2⟩

end Wire

/-- Whatever calls a writer interleaves, they arrive whole exactly when every one of them is
deliverable. -/
theorem arrives_iff_deliverable (dataSize : Parcel → Nat) (isClient : Bool)
    {wire : List (Nat × Parcel)} {txs : Nat → List Transaction}
    (interleaves : Interleaves wire txs)
    (sides : ∀ code, ∀ tx ∈ txs code, tx.isClient = !isClient) :
    ArrivesWhole dataSize isClient wire txs ↔ ∀ code, Deliverable (txs code) :=
  ⟨fun arrives => arrives.deliverable interleaves sides,
    arrivesWhole_of_deliverable interleaves sides⟩

section SingleCall

/-- Nothing but the transactions of the first call. -/
def single (txs : List Transaction) (code : Nat) : List Transaction := if code = 0 then txs else []

theorem interleaves_single (txs : List Transaction) :
    Interleaves ((rpcCalls 0 txs).map (0, ·)) (single txs) := by
  intro code
  unfold transactionsOf single
  by_cases zero : code = 0
  · rw [if_pos zero, List.filter_eq_self.mpr fun transaction within => ?_, List.map_map]
    · exact List.map_id _
    · obtain ⟨parcel, _, rfl⟩ := List.mem_map.mp within
      exact decide_eq_true zero.symm
  · rw [if_neg zero, List.filter_eq_nil_iff.mpr fun transaction within => ?_]
    · rfl
    · obtain ⟨parcel, _, rfl⟩ := List.mem_map.mp within
      rw [decide_eq_true_eq]
      exact fun same => zero same.symm

/-- A server that answers with a message and trailing metadata. -/
def answer (data : ByteString) (status : Int) (bounded : status < 2 ^ 16) : Transaction :=
  ⟨false, none, [], some data, some [], [], status, bounded, nofun⟩

theorem sides_single_answer (data : ByteString) (status : Int) (bounded : status < 2 ^ 16) :
    ∀ code, ∀ tx ∈ single [answer data status bounded] code, tx.isClient = !true := by
  intro code tx within
  unfold single at within
  split at within
  · rw [List.mem_singleton.mp within]
    rfl
  · cases within

/-- A short answer arrives with its status. -/
theorem short_answer_arrives :
    ArrivesWhole List.length true ((rpcCalls 0 [answer [1, 2] 5 (by decide)]).map (0, ·))
      (single [answer [1, 2] 5 (by decide)]) := by
  refine (arrives_iff_deliverable List.length true (interleaves_single _)
    (sides_single_answer _ _ _)).mpr fun code => ?_
  unfold single
  split
  · refine ⟨fun tx within _ => ?_, List.pairwise_singleton _ _, ?_⟩
    · rw [List.mem_singleton.mp within]
      decide
    · decide
  · exact ⟨List.forall_mem_nil _, List.Pairwise.nil, Nat.zero_le _⟩

theorem not_deliverable_of_split {data : ByteString} {status : Int} (bounded : status < 2 ^ 16)
    (large : kBlockSize < data.length) (carried : status ≠ 0) :
    ¬ Deliverable [answer data status bounded] := by
  intro deliverable
  have split_ : (answer data status bounded).canBeSentInOneTransaction = false := by
    unfold canBeSentInOneTransaction
    rw [has_getFlags_messageData]
    exact decide_eq_false (not_le.mpr large)
  have lost := deliverable.statuses _ (List.mem_singleton_self _) (Option.some_ne_none _)
  rw [split_, if_neg nofun] at lost
  exact carried lost

/-- An answer of a block and one byte, with a status. -/
def longAnswer : Transaction := answer (List.replicate (16 * 1024 + 1) 0) 5 (by decide)

/-- The status of an answer of more than one block is lost. -/
theorem long_answer_loses_status :
    Interleaves ((rpcCalls 0 [longAnswer]).map (0, ·)) (single [longAnswer]) ∧
      (∀ code, ∀ tx ∈ single [longAnswer] code, tx.isClient = !true) ∧
      ¬ ArrivesWhole List.length true ((rpcCalls 0 [longAnswer]).map (0, ·))
        (single [longAnswer]) := by
  have sides := sides_single_answer (List.replicate (16 * 1024 + 1) 0) 5 (by decide)
  refine ⟨interleaves_single _, sides, fun arrives => ?_⟩
  refine not_deliverable_of_split (by decide) ?_ (by decide)
    (arrives.deliverable (interleaves_single _) sides 0)
  rw [List.length_replicate]
  decide

end SingleCall

end Delivery

end GrpcCore.Binder
