import GrpcCore.Binder.StreamCodes

/-!
# Streams with the codes of their peers

The counter of a transport numbers its streams in their order. So the streams of a client and a
server have the same codes as long as the server accepts streams in the order in which the client
created them, without a gap.
-/

namespace GrpcCore.Binder

open Machine ClientTransaction

structure BinderTransport.Numbered (transport : BinderTransport) : Prop where
  codes : transport.txCodes = List.range' kFirstCallId transport.streams.length
  next : transport.nextFreeTxCode = kFirstCallId + transport.streams.length

def BinderTransport.Known (transport : BinderTransport) (code : Nat) : Prop :=
  ∃ stream ∈ transport.streams, stream.txCode = code ∧ stream.started = true

variable {stream : BinderStream} {code index : Nat}

namespace BinderTransport

variable {transport transport' : BinderTransport}

theorem Numbered.created : BinderTransport.created.Numbered := ⟨rfl, rfl⟩

theorem txCodes_modify (index : Nat) (change : BinderStream → BinderStream)
    (same : ∀ stream, (change stream).txCode = stream.txCode) (streams : List BinderStream) :
    (streams.modify index change).map BinderStream.txCode = streams.map BinderStream.txCode := by
  induction streams generalizing index with
  | nil => simp
  | cons stream streams ih =>
    cases index with
    | zero => simp [same]
    | succ => simp [ih]

theorem txCodes_start (transport : BinderTransport) (index : Nat) :
    (transport.start index).txCodes = transport.txCodes := by
  apply txCodes_modify
  intro stream
  rfl

theorem txCodes_close (transport : BinderTransport) (index : Nat) :
    (transport.close index).txCodes = transport.txCodes := by
  apply txCodes_modify
  intro stream
  rfl

variable {change : BinderStream → BinderStream}

theorem Numbered.modify (numbered : transport.Numbered) (index : Nat)
    (same : ∀ stream, (change stream).txCode = stream.txCode) :
    ({ transport with streams := transport.streams.modify index change } :
      BinderTransport).Numbered := by
  constructor
  · refine (txCodes_modify index change same transport.streams).trans ?_
    rw [List.length_modify]
    exact numbered.codes
  · rw [List.length_modify]
    exact numbered.next

theorem initStream_eq_some (made : transport.initStream = some transport') :
    transport' = { nextFreeTxCode := transport.nextFreeTxCode + 1
                   streams := transport.streams ++ [⟨transport.nextFreeTxCode, false, false⟩] } := by
  unfold initStream newStreamTxCode at made
  split at made
  · exact (Option.some.inj made).symm
  · contradiction

section

variable (numbered : transport.Numbered)
include numbered

theorem Numbered.initStream (made : transport.initStream = some transport') :
    transport'.Numbered := by
  obtain rfl := initStream_eq_some made
  constructor
  · have codes := numbered.codes
    unfold txCodes at codes ⊢
    rw [List.map_append, codes, List.length_append, List.length_singleton, List.range'_1_concat,
      List.map_singleton, numbered.next]
  · rw [List.length_append, List.length_singleton, numbered.next, Nat.add_assoc]

theorem Numbered.txCode_eq (at_ : transport.streams[index]? = some stream) :
    stream.txCode = kFirstCallId + index := by
  have codes : transport.txCodes[index]? = some stream.txCode := by
    rw [txCodes, List.getElem?_map, at_, Option.map_some]
  have inside := (List.getElem?_eq_some_iff.mp at_).1
  rw [numbered.codes, List.getElem?_range' inside, Nat.one_mul] at codes
  exact (Option.some.inj codes).symm

theorem Numbered.eq_of_txCode {stream' : BinderStream} (member : stream ∈ transport.streams)
    (member' : stream' ∈ transport.streams) (same : stream.txCode = stream'.txCode) :
    stream = stream' := by
  obtain ⟨index, at_⟩ := List.mem_iff_getElem?.mp member
  obtain ⟨index', at'⟩ := List.mem_iff_getElem?.mp member'
  rw [numbered.txCode_eq at_, numbered.txCode_eq at'] at same
  obtain rfl := Nat.add_left_cancel same
  exact Option.mem_unique at_ at'

theorem Numbered.nodup : transport.txCodes.Nodup := by
  rw [numbered.codes]
  exact List.nodup_range'

end

theorem Known.modify (known : transport.Known code) (index : Nat)
    (same : ∀ stream, (change stream).txCode = stream.txCode)
    (kept : ∀ stream, stream.started = true → (change stream).started = true) :
    ({ transport with streams := transport.streams.modify index change } :
      BinderTransport).Known code := by
  obtain ⟨stream, member, isCode, started⟩ := known
  obtain ⟨position, at_⟩ := List.mem_iff_getElem?.mp member
  by_cases here : index = position
  · refine ⟨change stream, List.mem_iff_getElem?.mpr ⟨position, ?_⟩,
      (same stream).trans isCode, kept stream started⟩
    rw [here, List.getElem?_modify_eq, at_]
    rfl
  · refine ⟨stream, List.mem_iff_getElem?.mpr ⟨position, ?_⟩, isCode, started⟩
    rw [List.getElem?_modify_ne _ _ here, at_]

theorem Known.initStream (known : transport.Known code)
    (made : transport.initStream = some transport') : transport'.Known code := by
  obtain rfl := initStream_eq_some made
  obtain ⟨stream, member, rest⟩ := known
  exact ⟨stream, List.mem_append_left _ member, rest⟩

theorem Known.start {index : Nat} {stream : BinderStream}
    (at_ : transport.streams[index]? = some stream) :
    (transport.start index).Known stream.txCode := by
  refine ⟨{ stream with started := true }, List.mem_iff_getElem?.mpr ⟨index, ?_⟩, rfl, rfl⟩
  rw [BinderTransport.start, List.getElem?_modify_eq, at_]
  rfl

theorem mem_modify {streams : List BinderStream} (member : stream ∈ streams.modify index change) :
    (∃ old, streams[index]? = some old ∧ stream = change old) ∨
      ∃ position, position ≠ index ∧ streams[position]? = some stream := by
  obtain ⟨position, at_⟩ := List.mem_iff_getElem?.mp member
  by_cases here : index = position
  · subst here
    rw [List.getElem?_modify_eq] at at_
    obtain ⟨old, isOld, changed⟩ := Option.map_eq_some_iff.mp at_
    exact .inl ⟨old, isOld, changed.symm⟩
  · rw [List.getElem?_modify_ne _ _ here] at at_
    exact .inr ⟨position, Ne.symm here, at_⟩

end BinderTransport

namespace TransportPair

variable {pair pair' : TransportPair}

/-- The codes of the initial metadata that have been sent and have not failed. -/
def sentCodes (pair : TransportPair) : List Nat :=
  pair.delivered ++ pair.underWay.filterMap ClientTransaction.initialCode

/-- While every stream has its own code, what a stream waits for is handed to it. -/
structure Handed (pair : TransportPair) : Prop where
  announced : ∀ code, pair.acceptStreamClosure = some code →
    code ∈ pair.notifying ∨ code ∈ pair.receiver.pendingInitialMetadata
  unasked : ∀ stream ∈ pair.server.streams, stream.isClosed = false → stream.started = false →
    stream.txCode ∈ pair.notifying ∨ stream.txCode ∈ pair.receiver.pendingInitialMetadata
  awaited : ∀ code ∈ pair.receiver.initialMetadataCbs, code ∈ pair.notifying

structure Consistent (pair : TransportPair) : Prop where
  client : pair.client.Numbered
  server : pair.server.Numbered
  paired : pair.received.length = pair.server.streams.length
  once : pair.sentCodes.Nodup
  arrived : pair.torn = false → pair.delivered = pair.received ++ pair.acceptStreamClosure.toList
  sent : ∀ code ∈ pair.sentCodes, pair.client.Known code
  asked : ∀ code ∈ pair.receiver.initialMetadataCbs, pair.server.Known code
  handed : pair.Own → pair.Handed

theorem Consistent.created : Consistent .created where
  client := .created
  server := .created
  paired := rfl
  once := .nil
  arrived _ := rfl
  sent := List.forall_mem_nil _
  asked := List.forall_mem_nil _
  handed _ := ⟨nofun, List.forall_mem_nil _, List.forall_mem_nil _⟩

theorem sentCodes_deliver (at_ : pair.underWay[index]? = some (.initialMetadata code)) :
    (pair.delivered ++ [code] ++
      (pair.underWay.eraseIdx index).filterMap initialCode).Perm
        pair.sentCodes := by
  obtain ⟨inside, isHere⟩ := List.getElem?_eq_some_iff.mp at_
  have taken := (List.getElem_cons_eraseIdx_perm inside).filterMap initialCode
  have isInitial : initialCode (.initialMetadata code) = some code := rfl
  rw [isHere, List.filterMap_cons_some isInitial] at taken
  rw [List.append_assoc]
  exact taken.append_left pair.delivered

theorem sentCodes_eraseIdx (index : Nat) :
    ({ pair with underWay := pair.underWay.eraseIdx index } : TransportPair).sentCodes.Sublist
      pair.sentCodes :=
  ((pair.underWay.eraseIdx_sublist index).filterMap _).append_left _

section

variable (consistent : pair.Consistent)
include consistent

theorem Consistent.createStream {client : BinderTransport}
    (made : pair.client.initStream = some client) :
    ({ pair with client := client } : TransportPair).Consistent :=
  { consistent with
    client := consistent.client.initStream made
    sent := fun code member => (consistent.sent code member).initStream made
    handed := fun own => have handed := consistent.handed own
      ⟨handed.announced, handed.unasked, handed.awaited⟩ }

theorem Consistent.closeClientStream (index : Nat) :
    ({ pair with client := pair.client.close index } : TransportPair).Consistent :=
  { consistent with
    client := consistent.client.modify index fun _ => rfl
    sent := fun code member =>
      (consistent.sent code member).modify index (fun _ => rfl) fun _ started => started
    handed := fun own => have handed := consistent.handed own
      ⟨handed.announced, handed.unasked, handed.awaited⟩ }

theorem Consistent.send (transacted : Bool) {transaction : ClientTransaction}
    (later : transaction.initialCode = none) : (pair.send transacted transaction).Consistent := by
  cases transacted with
  | false => exact consistent
  | true =>
    have same : (pair.send true transaction).sentCodes = pair.sentCodes := by
      unfold sentCodes TransportPair.send
      rw [if_pos rfl, List.filterMap_append, List.filterMap_cons_none later, List.filterMap_nil,
        List.append_nil]
    have kept : (pair.send true transaction).sentCodes.Nodup := same ▸ consistent.once
    exact { consistent with
      once := kept
      sent := fun code member => consistent.sent code (same ▸ member)
      handed := fun own => have handed := consistent.handed own
        ⟨handed.announced, handed.unasked, handed.awaited⟩ }

theorem Consistent.sendInitialMetadata (at_ : pair.client.streams[index]? = some stream)
    (fresh : stream.started = false) (transacted : Bool) :
    (({ pair with client := pair.client.start index } : TransportPair).send transacted
      (.initialMetadata stream.txCode)).Consistent := by
  have started : ({ pair with client := pair.client.start index } : TransportPair).Consistent :=
    { consistent with
      client := consistent.client.modify index fun _ => rfl
      sent := fun code member =>
        (consistent.sent code member).modify index (fun _ => rfl) fun _ _ => rfl
      handed := fun own => have handed := consistent.handed own
        ⟨handed.announced, handed.unasked, handed.awaited⟩ }
  cases transacted with
  | false => exact started
  | true =>
    have unsent : stream.txCode ∉ pair.sentCodes := by
      intro member
      obtain ⟨other, isMember, same, isStarted⟩ := consistent.sent _ member
      obtain rfl := consistent.client.eq_of_txCode isMember (List.mem_of_getElem? at_) same
      rw [fresh] at isStarted
      contradiction
    have more : (({ pair with client := pair.client.start index } : TransportPair).send true
        (.initialMetadata stream.txCode)).sentCodes = pair.sentCodes ++ [stream.txCode] := by
      unfold sentCodes TransportPair.send
      rw [if_pos rfl, List.filterMap_append, ← List.append_assoc]
      rfl
    refine { started with once := ?_, sent := ?_, handed := ?_ }
    · rw [more]
      exact consistent.once.append (List.nodup_singleton _) (List.disjoint_singleton.mpr unsent)
    · intro code member
      rw [more] at member
      rcases List.mem_append.mp member with old | new
      · exact started.sent code old
      · obtain rfl := List.mem_singleton.mp new
        exact .start at_
    · intro own
      have handed := consistent.handed own
      exact ⟨handed.announced, handed.unasked, handed.awaited⟩

theorem Consistent.eraseUnderWay (index : Nat) :
    ({ pair with underWay := pair.underWay.eraseIdx index } : TransportPair).Consistent :=
  { consistent with
    once := consistent.once.sublist (sentCodes_eraseIdx index)
    sent := fun code member => consistent.sent code ((sentCodes_eraseIdx index).subset member)
    handed := fun own => have handed := consistent.handed own
      ⟨handed.announced, handed.unasked, handed.awaited⟩ }

theorem Consistent.onRecvTrailingMetadata (code : Nat) : ({ pair with
       receiver := pair.receiver.onRecvTrailingMetadata code } : TransportPair).Consistent :=
  { consistent with
    asked := fun other member => consistent.asked other (List.mem_filter.mp member).1
    handed := fun own => have handed := consistent.handed own
      ⟨handed.announced, handed.unasked,
        fun other member => handed.awaited other (List.mem_filter.mp member).1⟩ }

theorem Consistent.acceptStreamCallback {index code : Nat} (intact : pair.torn = false)
    (at_ : pair.underWay[index]? = some (.initialMetadata code)) :
    (({ pair with underWay := pair.underWay.eraseIdx index } :
      TransportPair).acceptStreamCallback code).Consistent := by
  have taken := sentCodes_deliver at_
  unfold TransportPair.acceptStreamCallback
  dsimp only
  have more : ∀ other, other ∈ pair.notifying ∨ other ∈ pair.receiver.pendingInitialMetadata →
      other ∈ pair.notifying ++ [code] ∨ other ∈ pair.receiver.pendingInitialMetadata :=
    fun other present => present.imp_left (List.mem_append_left _)
  split
  · refine { consistent with once := ?_, arrived := nofun, sent := ?_, handed := ?_ }
    · exact taken.symm.nodup consistent.once
    · exact fun other member => consistent.sent other (taken.mem_iff.mp member)
    · intro own
      have handed := consistent.handed own
      exact {
        announced := fun other closure => more other (handed.announced other closure)
        unasked := fun stream member isOpen fresh =>
          more _ (handed.unasked stream member isOpen fresh)
        awaited := fun other member => List.mem_append_left _ (handed.awaited other member) }
  · next idle =>
      refine { consistent with once := ?_, arrived := ?_, sent := ?_, handed := ?_ }
      · exact taken.symm.nodup consistent.once
      · intro _
        have arrived := consistent.arrived intact
        rw [Option.not_isSome_iff_eq_none.mp idle, Option.toList_none, List.append_nil] at arrived
        exact congrArg (· ++ [code]) arrived
      · exact fun other member => consistent.sent other (taken.mem_iff.mp member)
      · intro own
        have handed := consistent.handed own
        refine {
          announced := ?_
          unasked := fun stream member isOpen fresh =>
            more _ (handed.unasked stream member isOpen fresh)
          awaited := fun other member => List.mem_append_left _ (handed.awaited other member) }
        intro other closure
        obtain rfl := Option.some.inj closure
        exact .inl (List.mem_append_right _ (List.mem_singleton_self code))

end

variable {server : BinderTransport}

theorem own_accept_iff (made : pair.server.initStream = some server) :
    server.txCodes = pair.received ++ [code] ↔ pair.Own ∧ pair.server.nextFreeTxCode = code := by
  obtain rfl := BinderTransport.initStream_eq_some made
  unfold BinderTransport.txCodes Own
  rw [List.map_append, List.map_singleton]
  constructor
  · intro same
    obtain ⟨old, new⟩ := List.append_inj' same rfl
    exact ⟨old, List.singleton_inj.mp new⟩
  · rintro ⟨own, rfl⟩
    exact congrArg (· ++ _) own

theorem Consistent.acceptStream (consistent : pair.Consistent)
    (closure : pair.acceptStreamClosure = some code) (made : pair.server.initStream = some server) :
    ({ pair with
       server := server
       acceptStreamClosure := none
       received := pair.received ++ [code] } : TransportPair).Consistent := by
  refine { consistent with
    server := consistent.server.initStream made
    paired := ?_
    arrived := ?_
    asked := fun other member => (consistent.asked other member).initStream made
    handed := ?_ }
  · obtain rfl := BinderTransport.initStream_eq_some made
    rw [List.length_append, List.length_append, consistent.paired]
    rfl
  · intro intact
    have arrived := consistent.arrived intact
    rw [closure] at arrived
    rw [arrived, Option.toList_none, List.append_nil, Option.toList_some]
  · intro own
    obtain ⟨own, isNext⟩ := (own_accept_iff made).mp own
    have handed := consistent.handed own
    obtain rfl := BinderTransport.initStream_eq_some made
    refine { announced := nofun, unasked := ?_, awaited := handed.awaited }
    intro stream member isOpen fresh
    rcases List.mem_append.mp member with old | new
    · exact handed.unasked stream old isOpen fresh
    · obtain rfl := List.mem_singleton.mp new
      exact handed.announced _ (closure.trans (congrArg some isNext.symm))

theorem Consistent.announced_fresh (consistent : pair.Consistent) (intact : pair.torn = false)
    (own : pair.Own) (closure : pair.acceptStreamClosure = some code) :
    code ∉ pair.server.txCodes := by
  have arrived := consistent.arrived intact
  rw [closure, Option.toList_some] at arrived
  have once := (List.nodup_append.mp consistent.once).1
  rw [arrived] at once
  rw [own]
  exact List.disjoint_singleton.mp (List.disjoint_of_nodup_append once)

/-- A code that is waited for is neither that of an announced stream nor of one that has not
asked. -/
theorem Consistent.asked_elsewhere (consistent : pair.Consistent)
    (waiting : code ∈ pair.receiver.initialMetadataCbs) (member : stream ∈ pair.server.streams)
    (fresh : stream.started = false) : stream.txCode ≠ code := by
  rintro rfl
  obtain ⟨other, isMember, same, started⟩ := consistent.asked _ waiting
  obtain rfl := consistent.server.eq_of_txCode isMember member same
  rw [fresh] at started
  contradiction

theorem mem_eraseIdx_of_ne {list : List Nat} {other : Nat} (at_ : list[index]? = some code)
    (member : other ∈ list) (ne : other ≠ code) : other ∈ list.eraseIdx index := by
  obtain ⟨position, isThere⟩ := List.mem_iff_getElem?.mp member
  refine List.mem_eraseIdx_iff_getElem?.mpr ⟨position, ?_, isThere⟩
  rintro rfl
  exact ne (Option.mem_unique isThere at_)

theorem Consistent.notify (consistent : pair.Consistent) (intact : pair.torn = false)
    (at_ : pair.notifying[index]? = some code) :
    ({ pair with
       notifying := pair.notifying.eraseIdx index
       receiver := pair.receiver.notifyRecvInitialMetadata code } : TransportPair).Consistent := by
  unfold InitialMetadata.notifyRecvInitialMetadata
  split
  · next waiting =>
      have kept : ∀ other, other ≠ code →
          other ∈ pair.notifying ∨ other ∈ pair.receiver.pendingInitialMetadata →
          other ∈ pair.notifying.eraseIdx index ∨ other ∈ pair.receiver.pendingInitialMetadata :=
        fun other ne present => present.imp_left fun member => mem_eraseIdx_of_ne at_ member ne
      refine { consistent with asked := ?_, handed := ?_ }
      · exact fun other member => consistent.asked other (List.mem_filter.mp member).1
      · intro own
        have handed := consistent.handed own
        constructor
        · intro other closure
          refine kept other ?_ (handed.announced other closure)
          rintro rfl
          obtain ⟨stream, member, same, _⟩ := consistent.asked _ waiting
          exact consistent.announced_fresh intact own closure
            (List.mem_map.mpr ⟨stream, member, same⟩)
        · exact fun stream member isOpen fresh =>
            kept _ (consistent.asked_elsewhere waiting member fresh)
              (handed.unasked stream member isOpen fresh)
        · intro other member
          obtain ⟨old, ne⟩ := List.mem_filter.mp member
          exact mem_eraseIdx_of_ne at_ (handed.awaited other old) (bne_iff_ne.mp ne)
  · next unawaited =>
      have kept : ∀ other,
          other ∈ pair.notifying ∨ other ∈ pair.receiver.pendingInitialMetadata →
          other ∈ pair.notifying.eraseIdx index ∨
            other ∈ pair.receiver.pendingInitialMetadata ++ [code] := by
        rintro other (member | member)
        · by_cases here : other = code
          · exact .inr (List.mem_append_right _ (List.mem_singleton.mpr here))
          · exact .inl (mem_eraseIdx_of_ne at_ member here)
        · exact .inr (List.mem_append_left _ member)
      refine { consistent with handed := ?_ }
      intro own
      have handed := consistent.handed own
      constructor
      · exact fun other closure => kept other (handed.announced other closure)
      · exact fun stream member isOpen fresh =>
          kept _ (handed.unasked stream member isOpen fresh)
      · intro other member
        refine mem_eraseIdx_of_ne at_ (handed.awaited other member) ?_
        rintro rfl
        exact unawaited member

structure Registered (receiver receiver' : InitialMetadata) (id : Nat) : Prop where
  pending : ∀ other, other ≠ id → other ∈ receiver.pendingInitialMetadata →
    other ∈ receiver'.pendingInitialMetadata
  waiting : ∀ other ∈ receiver'.initialMetadataCbs, other ∈ receiver.initialMetadataCbs ∨
    other = id ∧ id ∉ receiver.pendingInitialMetadata

variable {receiver : InitialMetadata}

theorem registered {receiver' : InitialMetadata} {id : Nat}
    (done : receiver.registerRecvInitialMetadata id = some receiver') :
    Registered receiver receiver' id := by
  unfold InitialMetadata.registerRecvInitialMetadata at done
  split at done
  · contradiction
  · split at done
    · obtain rfl := Option.some.inj done
      exact ⟨fun other ne member => (List.mem_erase_of_ne ne).mpr member,
        fun other member => .inl member⟩
    · next empty =>
        split at done
        · obtain rfl := Option.some.inj done
          exact ⟨fun _ _ member => member, fun _ member => .inl member⟩
        · obtain rfl := Option.some.inj done
          refine ⟨fun _ _ member => member, fun other member => ?_⟩
          rcases List.mem_append.mp member with old | new
          · exact .inl old
          · exact .inr ⟨List.mem_singleton.mp new, empty⟩

section

variable (consistent : pair.Consistent)
include consistent

theorem Consistent.elsewhere {position : Nat} {other : BinderStream}
    (at_ : pair.server.streams[index]? = some stream)
    (isThere : pair.server.streams[position]? = some other) (ne : position ≠ index) :
    other.txCode ≠ stream.txCode := by
  intro same
  rw [consistent.server.txCode_eq at_, consistent.server.txCode_eq isThere] at same
  exact ne (Nat.add_left_cancel same)

section

variable (intact : pair.torn = false) (at_ : pair.server.streams[index]? = some stream)
include intact at_

theorem Consistent.recvInitialMetadata (isOpen : stream.isClosed = false)
    (fresh : stream.started = false)
    (done : pair.receiver.registerRecvInitialMetadata stream.txCode = some receiver) : ({ pair with
       server := pair.server.start index, receiver := receiver } : TransportPair).Consistent := by
  have registered := registered done
  have codes := pair.server.txCodes_start index
  have member := List.mem_of_getElem? at_
  refine { consistent with
    server := consistent.server.modify index fun _ => rfl
    paired := consistent.paired.trans (List.length_modify ..).symm
    asked := ?_
    handed := ?_ }
  · intro other waiting
    rcases registered.waiting other waiting with old | ⟨rfl, _⟩
    · exact (consistent.asked other old).modify index (fun _ => rfl) fun _ _ => rfl
    · exact .start at_
  · intro own
    have own : pair.Own := codes.symm.trans own
    have handed := consistent.handed own
    constructor
    · intro other closure
      refine (handed.announced other closure).imp_right (registered.pending other ?_)
      rintro rfl
      exact consistent.announced_fresh intact own closure (List.mem_map.mpr ⟨_, member, rfl⟩)
    · intro other isMember isOpen fresh
      rcases BinderTransport.mem_modify isMember with ⟨old, isOld, rfl⟩ | ⟨position, ne, isThere⟩
      · contradiction
      · exact (handed.unasked other (List.mem_of_getElem? isThere) isOpen fresh).imp_right
          (registered.pending _ (consistent.elsewhere at_ isThere ne))
    · intro other waiting
      rcases registered.waiting other waiting with old | ⟨rfl, empty⟩
      · exact handed.awaited other old
      · exact (handed.unasked stream member isOpen fresh).resolve_right empty

theorem Consistent.closeServerStream : ({ pair with
       server := pair.server.close index
       receiver := pair.receiver.cancelStream stream.txCode } : TransportPair).Consistent := by
  have codes := pair.server.txCodes_close index
  have member := List.mem_of_getElem? at_
  have kept : ∀ other, other ≠ stream.txCode →
      other ∈ pair.receiver.pendingInitialMetadata →
      other ∈ (pair.receiver.cancelStream stream.txCode).pendingInitialMetadata :=
    fun other ne pending => List.mem_filter.mpr ⟨pending, bne_iff_ne.mpr ne⟩
  refine { consistent with
    server := consistent.server.modify index fun _ => rfl
    paired := consistent.paired.trans (List.length_modify ..).symm
    asked := ?_
    handed := ?_ }
  · exact fun other waiting => (consistent.asked other (List.mem_filter.mp waiting).1).modify
      index (fun _ => rfl) fun _ started => started
  · intro own
    have own : pair.Own := codes.symm.trans own
    have handed := consistent.handed own
    constructor
    · intro other closure
      refine (handed.announced other closure).imp_right (kept other ?_)
      rintro rfl
      exact consistent.announced_fresh intact own closure (List.mem_map.mpr ⟨_, member, rfl⟩)
    · intro other isMember isOpen fresh
      rcases BinderTransport.mem_modify isMember with ⟨old, isOld, rfl⟩ | ⟨position, ne, isThere⟩
      · contradiction
      · exact (handed.unasked other (List.mem_of_getElem? isThere) isOpen fresh).imp_right
          (kept _ (consistent.elsewhere at_ isThere ne))
    · exact fun other waiting => handed.awaited other (List.mem_filter.mp waiting).1

end

theorem Consistent.step {action : Action} (taken : pair.step action = some pair') :
    pair'.Consistent := by
  unfold TransportPair.step at taken
  split at taken
  · contradiction
  · next sound =>
      have intact : pair.torn = false := Bool.eq_false_iff.mpr sound
      cases action with
      | createStream =>
        obtain ⟨client, made, rfl⟩ := Option.map_eq_some_iff.mp taken
        exact consistent.createStream made
      | closeClientStream index =>
        obtain rfl := Option.some.inj taken
        exact consistent.closeClientStream index
      | sendInitialMetadata index transacted =>
        obtain ⟨stream, at_, sends⟩ := Option.bind_eq_some_iff.mp taken
        split at sends
        · obtain rfl := Option.some.inj sends
          exact consistent
        · split at sends
          · contradiction
          · next fresh =>
              obtain rfl := Option.some.inj sends
              exact consistent.sendInitialMetadata at_ (Bool.eq_false_iff.mpr fresh) transacted
      | sendTrailingMetadata index transacted =>
        obtain ⟨stream, at_, rfl⟩ := Option.map_eq_some_iff.mp taken
        split
        · exact consistent
        · exact consistent.send transacted rfl
      | deliver index =>
        obtain ⟨transaction, at_, rfl⟩ := Option.map_eq_some_iff.mp taken
        cases transaction with
        | initialMetadata => exact consistent.acceptStreamCallback intact at_
        | trailingMetadata code =>
          exact (consistent.eraseUnderWay index).onRecvTrailingMetadata code
      | acceptStream =>
        obtain ⟨code, closure, accepts⟩ := Option.bind_eq_some_iff.mp taken
        obtain ⟨server, made, rfl⟩ := Option.map_eq_some_iff.mp accepts
        exact consistent.acceptStream closure made
      | notify =>
        obtain ⟨code, at_, rfl⟩ := Option.map_eq_some_iff.mp taken
        exact consistent.notify intact at_
      | recvInitialMetadata =>
        obtain ⟨stream, at_, asks⟩ := Option.bind_eq_some_iff.mp taken
        split at asks
        · obtain rfl := Option.some.inj asks
          exact consistent
        · next isOpen =>
            split at asks
            · contradiction
            · next fresh =>
                obtain ⟨receiver, done, rfl⟩ := Option.map_eq_some_iff.mp asks
                exact consistent.recvInitialMetadata intact at_ (Bool.eq_false_iff.mpr isOpen)
                  (Bool.eq_false_iff.mpr fresh) done
      | closeServerStream =>
        obtain ⟨stream, at_, rfl⟩ := Option.map_eq_some_iff.mp taken
        split
        · exact consistent
        · exact consistent.closeServerStream intact at_

theorem Consistent.matched_iff : pair.Matched ↔ pair.torn = false ∧ pair.Own := by
  constructor
  · exact fun matched => ⟨matched.intact, matched.own⟩
  · rintro ⟨intact, own⟩
    have arrived := consistent.arrived intact
    constructor
    · exact intact
    · exact own
    · intro code member
      rw [arrived] at member
      rcases List.mem_append.mp member with received | announced
      · rw [← own] at received
        exact .inr (List.count_eq_one_of_mem consistent.server.nodup received)
      · exact .inl (Option.mem_toList.mp announced)
    · exact (consistent.handed own).awaited
    · intro code member
      rw [own] at member
      refine consistent.sent code (List.mem_append_left _ ?_)
      rw [arrived]
      exact List.mem_append_left _ member

theorem Consistent.next_iff (intact : pair.torn = false) (own : pair.Own)
    (closure : pair.acceptStreamClosure = some code) :
    pair.server.nextFreeTxCode = code ↔ pair.InOrder .acceptStream := by
  have fresh := consistent.announced_fresh intact own closure
  have announced : code ∈ pair.sentCodes := by
    refine List.mem_append_left _ ?_
    rw [consistent.arrived intact, closure]
    exact List.mem_append_right _ (List.mem_singleton_self code)
  obtain ⟨stream, member, rfl, _⟩ := consistent.sent code announced
  obtain ⟨index, at_⟩ := List.mem_iff_getElem?.mp member
  have isCode := consistent.client.txCode_eq at_
  have received : ∀ code, code ∈ pair.received ↔
      kFirstCallId ≤ code ∧ code < kFirstCallId + pair.server.streams.length := by
    intro code
    rw [← own, consistent.server.codes]
    exact List.mem_range'_1
  rw [own, received] at fresh
  rw [consistent.server.next]
  constructor
  · intro isNext index' stream' at' closure' earlier before isEarlier isBefore
    have same := Option.mem_unique closure closure'
    have isCode' := consistent.client.txCode_eq at'
    have isCode'' := consistent.client.txCode_eq isBefore
    rw [received]
    omega
  · intro ordered
    have all : ∀ earlier, earlier < index → earlier < pair.server.streams.length := by
      intro earlier isEarlier
      have inside := Nat.lt_trans isEarlier (List.getElem?_eq_some_iff.mp at_).1
      have isBefore := List.getElem?_eq_getElem inside
      have isIn := ordered index stream at_ closure earlier _ isEarlier isBefore
      rw [received, consistent.client.txCode_eq isBefore] at isIn
      exact Nat.lt_of_add_lt_add_left isIn.2
    have low : index ≤ pair.server.streams.length := by
      by_contra high
      exact Nat.lt_irrefl _ (all _ (Nat.not_le.mp high))
    omega

theorem Consistent.matched_step_iff (matched : pair.Matched) {action : Action}
    (taken : pair.step action = some pair') : pair'.Matched ↔ pair.InOrder action := by
  obtain ⟨intact, own⟩ := consistent.matched_iff.mp matched
  rw [(consistent.step taken).matched_iff]
  have apart : ∀ {other : TransportPair}, other.torn = pair.torn →
      other.server.txCodes = pair.server.txCodes → other.received = pair.received →
      (other.torn = false ∧ other.Own) :=
    fun torn codes received => ⟨torn.trans intact, (codes.trans own).trans received.symm⟩
  unfold TransportPair.step at taken
  rw [if_neg (Bool.eq_false_iff.mp intact)] at taken
  cases action with
  | createStream =>
    obtain ⟨client, made, rfl⟩ := Option.map_eq_some_iff.mp taken
    exact iff_of_true (apart rfl rfl rfl) trivial
  | closeClientStream =>
    obtain rfl := Option.some.inj taken
    exact iff_of_true (apart rfl rfl rfl) trivial
  | sendInitialMetadata index transacted =>
    obtain ⟨stream, at_, sends⟩ := Option.bind_eq_some_iff.mp taken
    refine iff_of_true ?_ trivial
    split at sends
    · obtain rfl := Option.some.inj sends
      exact ⟨intact, own⟩
    · split at sends
      · contradiction
      · obtain rfl := Option.some.inj sends
        cases transacted with
        | false => exact apart rfl rfl rfl
        | true => exact apart rfl rfl rfl
  | sendTrailingMetadata index transacted =>
    obtain ⟨stream, at_, rfl⟩ := Option.map_eq_some_iff.mp taken
    refine iff_of_true ?_ trivial
    split
    · exact ⟨intact, own⟩
    · cases transacted with
      | false => exact apart rfl rfl rfl
      | true => exact apart rfl rfl rfl
  | deliver =>
    obtain ⟨transaction, at_, rfl⟩ := Option.map_eq_some_iff.mp taken
    cases transaction with
    | trailingMetadata code =>
      refine iff_of_true (apart rfl rfl rfl) ?_
      rintro ⟨code, isInitial⟩
      cases at_.symm.trans isInitial
    | initialMetadata code =>
      unfold TransportPair.acceptStreamCallback
      dsimp only
      split
      · next busy =>
          refine iff_of_false (fun whole => nomatch whole.1) fun ordered => ?_
          rw [ordered ⟨code, at_⟩] at busy
          contradiction
      · next idle =>
          exact iff_of_true (apart rfl rfl rfl) fun _ => Option.not_isSome_iff_eq_none.mp idle
  | acceptStream =>
    obtain ⟨code, closure, accepts⟩ := Option.bind_eq_some_iff.mp taken
    obtain ⟨server, made, rfl⟩ := Option.map_eq_some_iff.mp accepts
    rw [← consistent.next_iff intact own closure]
    constructor
    · exact fun whole => ((own_accept_iff made).mp whole.2).2
    · exact fun isNext => ⟨intact, (own_accept_iff made).mpr ⟨own, isNext⟩⟩
  | notify =>
    obtain ⟨code, at_, rfl⟩ := Option.map_eq_some_iff.mp taken
    exact iff_of_true (apart rfl rfl rfl) trivial
  | recvInitialMetadata index =>
    obtain ⟨stream, at_, asks⟩ := Option.bind_eq_some_iff.mp taken
    refine iff_of_true ?_ trivial
    split at asks
    · obtain rfl := Option.some.inj asks
      exact ⟨intact, own⟩
    · split at asks
      · contradiction
      · obtain ⟨receiver, done, rfl⟩ := Option.map_eq_some_iff.mp asks
        exact apart rfl (pair.server.txCodes_start index) rfl
  | closeServerStream index =>
    obtain ⟨stream, at_, rfl⟩ := Option.map_eq_some_iff.mp taken
    refine iff_of_true ?_ trivial
    split
    · exact ⟨intact, own⟩
    · exact apart rfl (pair.server.txCodes_close index) rfl

end

theorem Matched.created : Matched .created :=
  Consistent.created.matched_iff.mpr ⟨rfl, rfl⟩

/-- The streams of a client and a server stay matched in exactly the runs whose steps are all in
order. -/
theorem matched_iff_inOrder (actions : List Action) (final : TransportPair) :
    Run step InOrder created actions final ↔
      Reach step created actions final ∧
        ∀ done later, actions = done ++ later → ∀ middle, Reach step created done middle →
          middle.Matched :=
  Run.iff_always (fun (consistent : Consistent _) taken => consistent.step taken)
    (fun consistent matched taken => consistent.matched_step_iff matched taken)
    Consistent.created Matched.created actions final

/-- The first stream is cancelled before it sends anything. The server gives the second stream the
code of the first and waits for its initial metadata for ever. -/
theorem cancelled_stream_shifts_codes :
    ¬ ∀ (actions : List Action) (final : TransportPair),
      Reach step created actions final → final.Matched := by
  intro always
  obtain ⟨final, reach, seen⟩ := exists_reach step created
    [.createStream, .closeClientStream 0, .createStream, .sendInitialMetadata 1 true, .deliver 0,
      .acceptStream, .recvInitialMetadata 0, .notify 0]
    (fun pair => (pair.server.txCodes, pair.received, pair.receiver.initialMetadataCbs))
    ([1001], [1002], [1001]) (by decide)
  rw [Prod.mk.injEq, Prod.mk.injEq] at seen
  have own := seen.1.symm.trans ((always _ final reach).own.trans seen.2.1)
  contradiction

/-- In every run, also one in which the codes of the two sides have drifted apart: each side
numbers its streams one after the other, no initial metadata come twice, and they come only of
streams that their client has started; the server makes its streams in the order in which
they have come. -/
theorem codes_in_order {actions : List Action} {pair : TransportPair}
    (reach : Reach step created actions pair) :
    pair.client.txCodes = List.range' kFirstCallId pair.client.streams.length ∧
      pair.server.txCodes = List.range' kFirstCallId pair.server.streams.length ∧
      pair.sentCodes.Nodup ∧ (∀ code ∈ pair.sentCodes, pair.client.Known code) ∧
      pair.received.length = pair.server.streams.length ∧
      (pair.torn = false → pair.received <+: pair.delivered) := by
  have consistent : Consistent pair :=
    reach.invariant (fun consistent _ taken => Consistent.step consistent taken) .created
  exact ⟨consistent.client.codes, consistent.server.codes, consistent.once, consistent.sent,
    consistent.paired, fun intact => ⟨_, (consistent.arrived intact).symm⟩⟩

theorem codes_in_order_drifted : ∃ pair : TransportPair, pair.received = [kFirstCallId + 1] ∧
    pair.server.txCodes = List.range' kFirstCallId pair.server.streams.length := by
  obtain ⟨pair, reach, received⟩ := exists_reach step created
    [.createStream, .closeClientStream 0, .createStream, .sendInitialMetadata 1 true, .deliver 0,
      .acceptStream, .recvInitialMetadata 0] (·.received) [kFirstCallId + 1] (by decide)
  exact ⟨pair, received, (codes_in_order reach).2.1⟩

end TransportPair

end GrpcCore.Binder
