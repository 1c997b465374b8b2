import GrpcCore.Inci.Stub

/-!
# The round trip of a container

What the callback is handed is the content of the request, and what it makes of it
is the content of the reply, for every kind of container but one and for every
content whose length fits an `int`.
-/

namespace GrpcCore.Inci

open MachineInt CommClient Service

variable (entries : List (Int32 × Int32))

theorem length_flattenEntries : (flattenEntries entries).length = 2 * entries.length := by
  induction entries with
  | nil => rfl
  | cons entry entries ih =>
    simp only [flattenEntries, List.flatMap_cons, List.length_append, List.length_cons,
      List.length_nil] at ih ⊢
    omega

theorem keys_setEntry (key value : Int32) :
    (setEntry entries key value).map Prod.fst =
      if key ∈ entries.map Prod.fst then entries.map Prod.fst
      else entries.map Prod.fst ++ [key] := by
  induction entries with
  | nil => simp [setEntry]
  | cons entry entries ih =>
    by_cases same : entry.1 = key
    · simp [setEntry, same]
    · rw [setEntry, if_neg same, List.map_cons, ih]
      by_cases known : key ∈ entries.map Prod.fst
      · rw [if_pos known, if_pos (by simp [known]), List.map_cons]
      · rw [if_neg known, if_neg (by simp [known, Ne.symm same]), List.map_cons]
        rfl

theorem lookup_cons (entry : Int32 × Int32) (entries : List (Int32 × Int32)) (key : Int32) :
    (entry :: entries).lookup key = if key = entry.1 then some entry.2 else entries.lookup key := by
  by_cases mine : key = entry.1 <;> simp [List.lookup, mine, beq_false_of_ne]

theorem lookup_setEntry (key value other : Int32) :
    (setEntry entries key value).lookup other =
      if other = key then some value else entries.lookup other := by
  induction entries with
  | nil => rw [setEntry, lookup_cons]
  | cons entry entries ih =>
    by_cases same : entry.1 = key
    · rw [setEntry, if_pos same, lookup_cons, lookup_cons, same]
      split_ifs <;> rfl
    · rw [setEntry, if_neg same, lookup_cons, lookup_cons, ih]
      split_ifs with first mine
      · exact absurd (first.symm.trans mine) same
      · rfl
      · rfl
      · rfl

theorem lookup_setEntries (news : List (Int32 × Int32)) (key : Int32) :
    (setEntries entries news).lookup key = (news.reverse ++ entries).lookup key := by
  induction news generalizing entries with
  | nil => rfl
  | cons entry news ih =>
    simp only [setEntries, List.foldl_cons] at ih ⊢
    rw [ih, List.reverse_cons, List.append_assoc, List.lookup_append, List.lookup_append,
      lookup_setEntry, List.singleton_append, lookup_cons]

theorem nodup_setEntries {entries : List (Int32 × Int32)} (news : List (Int32 × Int32))
    (nodup : (entries.map Prod.fst).Nodup) : ((setEntries entries news).map Prod.fst).Nodup := by
  induction news generalizing entries with
  | nil => exact nodup
  | cons entry news ih =>
    apply ih
    rw [keys_setEntry]
    split_ifs with known
    · exact nodup
    · refine List.nodup_append.mpr ⟨nodup, by simp, ?_⟩
      intro key found key' new same
      rw [List.mem_singleton.mp new] at same
      exact known (same ▸ found)

/-- The content of a buffer in a container: its words in order, or the entries it
has pairs for, with later pairs winning. -/
def Container.Holds (buffer : List Int32) : Container → Prop
  | .aggtrArray data => data = buffer
  | .aggtrMap data => data = buffer
  | .monitorMap entries | .voteMap entries | .customMap entries =>
    (entries.map Prod.fst).Nodup ∧
      ∀ key, entries.lookup key = (pairs (buffer.length / 2) buffer).reverse.lookup key

variable {c : Container} {data : List Int32}

namespace Container

theorem length_flatten (c : Container) :
    c.flatten.length = match c.kind with
      | .aggtrArray | .aggtrMap => c.size
      | _ => 2 * c.size := by
  cases c <;> simp [flatten, kind, size, length_flattenEntries]

theorem fill_empty (kind : c.kind ≠ .monitorMap) (length : data.length = c.flatten.length) :
    ∃ filled, c.kind.empty.fill c.size data = .ok filled ∧ filled.kind = c.kind ∧
      filled.Holds data := by
  rw [length_flatten] at length
  cases c with
  | aggtrArray | aggtrMap =>
    refine ⟨_, rfl, rfl, ?_⟩
    exact List.take_of_length_le (Nat.le_of_eq length)
  | monitorMap => exact absurd rfl kind
  | voteMap entries | customMap entries =>
    have half : data.length / 2 = entries.length := by
      simp only [Container.kind, size] at length
      omega
    refine ⟨_, rfl, rfl, nodup_setEntries _ (by simp), ?_⟩
    intro key
    rw [half, lookup_setEntries, List.append_nil]
    rfl

theorem flatten_pos (nonempty : c.size ≠ 0) : 0 < c.flatten.length := by
  rw [length_flatten]
  split <;> omega

end Container

/-- The service of a stub whose first call has this container. -/
def firstService (c : Container) (conf : ConfInfo) : Service :=
  initService c.kind.op conf.pType c.dataLength 1 2000 0

variable {client : CommClient} (callback : Callback)

namespace CommClient

/-- A client has a segment of its length if that is positive. -/
def WellFormed (client : CommClient) : Prop :=
  0 < client.dataLength →
    ∃ shm, client.shm = some shm ∧ shm.length = (client.dataLength / 4).toNat

theorem wellFormed_create (key length : Int) : (create key length).WellFormed := by
  intro positive
  exact ⟨_, if_pos positive, List.length_replicate⟩

variable {args : MsgArgs}

theorem pushPull_ok (wellFormed : client.WellFormed) (key : args.key = client.key)
    (positive : 0 < args.dataLength) (fits : args.dataLength ≤ client.dataLength)
    (enough : (args.dataLength / 4).toNat ≤ data.length) :
    ∃ client', client.pushPull callback data args =
        .ok (callback.run args (data.take (args.dataLength / 4).toNat) ++
          data.drop (args.dataLength / 4).toNat, client') ∧
      client'.WellFormed ∧ client'.key = client.key ∧ client'.dataLength = client.dataLength ∧
      client'.handed = client.handed ++ [data.take (args.dataLength / 4).toNat] := by
  obtain ⟨shm, segment, length⟩ := wellFormed (by omega)
  have inside : ¬ (args.dataLength < 0 ∨ shm.length < (args.dataLength / 4).toNat ∨
      data.length < (args.dataLength / 4).toNat) := by omega
  refine ⟨{ client with
    shm := some (callback.run args (data.take (args.dataLength / 4).toNat) ++
      shm.drop (args.dataLength / 4).toNat)
    handed := client.handed ++ [data.take (args.dataLength / 4).toNat] }, ?_, ?_, rfl, rfl, rfl⟩
  · simp only [pushPull, key, segment, ne_eq, not_true_eq_false, if_false,
      if_neg (Int.not_lt.mpr fits), if_neg (Int.ne_of_gt positive), if_neg inside]
  · intro _
    refine ⟨_, rfl, ?_⟩
    rw [List.length_append, callback.length_run, List.length_take, List.length_drop]
    dsimp only
    omega

theorem pushPull_error (key : args.key = client.key)
    (outside : args.dataLength < 0 ∨ client.dataLength < args.dataLength) :
    ∃ error, client.pushPull callback data args = .error error := by
  unfold pushPull
  rw [if_neg (by simp [key])]
  split_ifs with long empty
  · exact ⟨_, rfl⟩
  · omega
  · split
    · exact ⟨_, rfl⟩
    · rw [if_pos (by omega)]
      exact ⟨_, rfl⟩

end CommClient

namespace Service

theorem args_dataLength (service : Service) (c : Container) (conf : ConfInfo) :
    (service.args c conf).dataLength = c.dataLength := by
  simp only [args]

/-- The service of a stub: the client has the key and the length that were set up. -/
structure WellFormed (service : Service) : Prop where
  client : service.client.WellFormed
  key : service.globalId = service.client.key
  dataLength : service.dataLength = service.client.dataLength

theorem wellFormed_initService (newOp pType dataLength globalId memSz memOffset : Int) :
    (initService newOp pType dataLength globalId memSz memOffset).WellFormed :=
  ⟨wellFormed_create globalId dataLength, rfl, rfl⟩

variable {service : Service}

section

variable (wellFormed : service.WellFormed) (conf : ConfInfo)
include wellFormed conf

theorem push_ok (positive : 0 < c.dataLength) (fits : c.dataLength ≤ service.dataLength)
    (enough : (c.dataLength / 4).toNat ≤ c.flatten.length) :
    ∃ client, service.push callback c conf =
        .ok (callback.run (service.args c conf) (c.flatten.take (c.dataLength / 4).toNat) ++
          c.flatten.drop (c.dataLength / 4).toNat, client) ∧
      client.WellFormed ∧ client.key = service.client.key ∧
      client.dataLength = service.client.dataLength ∧
      client.handed = service.client.handed ++ [c.flatten.take (c.dataLength / 4).toNat] := by
  have length := args_dataLength service c conf
  rw [wellFormed.dataLength] at fits
  rw [← length] at positive fits enough ⊢
  exact pushPull_ok callback wellFormed.client wellFormed.key positive fits enough

theorem push_error (outside : c.dataLength < 0 ∨ service.dataLength < c.dataLength) :
    ∃ error, service.push callback c conf = .error error := by
  have length := args_dataLength service c conf
  rw [wellFormed.dataLength, ← length] at outside
  exact pushPull_error callback wellFormed.key outside

theorem push_empty (empty : c.dataLength = 0) (fits : 0 ≤ service.dataLength) :
    service.push callback c conf = .ok (c.flatten, service.client) := by
  have length := args_dataLength service c conf
  have key : (service.args c conf).key = service.client.key := wellFormed.key
  rw [wellFormed.dataLength] at fits
  unfold push pushPull
  rw [length, empty, if_neg (not_not.mpr key), if_neg (by omega), if_pos rfl]

end

end Service

namespace InciStub

/-- The first call of a stub, with a container and the same container empty in the
reply: the callback is handed the content and the reply holds its result. -/
def RoundTrips (callback : Callback) (c : Container) (conf : ConfInfo) : Prop :=
  ∃ service filled,
    incSend callback {} [.container c conf] [.container c.kind.empty] =
        .ok (true, { service := some service }, [.container filled]) ∧
      service.client.handed = [c.flatten] ∧ filled.kind = c.kind ∧
      filled.Holds (callback.run ((firstService c conf).args c conf) c.flatten)

theorem serve_fresh (c : Container) (conf : ConfInfo) :
    ({} : InciStub).serve c conf = .ok (firstService c conf) := rfl

theorem incSend_fresh (conf : ConfInfo) (nonempty : c.size ≠ 0) :
    incSend callback {} [.container c conf] [.container c.kind.empty] =
      ((firstService c conf).push callback c conf).bind fun pushed =>
        (c.kind.empty.fill c.size pushed.1).map fun filled =>
          (true, { service := some { firstService c conf with client := pushed.2 } },
            [.container filled]) := by
  have kind : c.kind.empty.kind = c.kind := by cases c <;> rfl
  rw [incSend, sendRequest, sendContainer, if_neg nonempty, serve_fresh]
  generalize firstService c conf = service
  rw [Except.bind]
  generalize service.push callback c conf = outcome
  cases outcome with
  | error => rfl
  | ok pushed =>
    rw [Except.bind, Except.bind, fillReply, if_pos kind]
    cases c.kind.empty.fill c.size pushed.1 with
    | error => rfl
    | ok => rfl

theorem firstService_dataLength (c : Container) (conf : ConfInfo) :
    (firstService c conf).dataLength = c.dataLength := by
  simp only [firstService, initService]

theorem firstService_handed (c : Container) (conf : ConfInfo) :
    (firstService c conf).client.handed = [] := by
  simp only [firstService, initService, create]

theorem roundTrips_of_fits (conf : ConfInfo) (nonempty : c.size ≠ 0) (kind : c.kind ≠ .monitorMap)
    (fits : 4 * c.flatten.length < 2147483648) : RoundTrips callback c conf := by
  have positive := Container.flatten_pos nonempty
  have length : c.dataLength = 4 * c.flatten.length := int32_eq_self (by omega) (by omega)
  have words : (c.dataLength / 4).toNat = c.flatten.length := by
    omega
  have wellFormed : (firstService c conf).WellFormed := wellFormed_initService _ _ _ _ _ _
  obtain ⟨client, pushed, _, _, _, handed⟩ := push_ok callback wellFormed conf
    (by omega) (Int.le_of_eq (firstService_dataLength c conf).symm) (Nat.le_of_eq words)
  rw [words, List.take_length, List.drop_length, List.append_nil] at pushed
  rw [words, List.take_length, firstService_handed, List.nil_append] at handed
  obtain ⟨filled, fills, sameKind, holds⟩ := Container.fill_empty kind
    (callback.length_run ((firstService c conf).args c conf) c.flatten)
  refine ⟨{ firstService c conf with client }, filled, ?_, handed, sameKind, holds⟩
  rw [incSend_fresh callback conf nonempty, pushed, Except.bind, fills, Except.map]

theorem handed_of_push {callback : Callback} {conf : ConfInfo}
    (pushed : (firstService c conf).push callback c conf = .ok (data, client)) :
    client.handed = [] ∨ client.handed = [c.flatten.take (c.dataLength / 4).toNat] := by
  have wellFormed : (firstService c conf).WellFormed := wellFormed_initService _ _ _ _ _ _
  have length := firstService_dataLength c conf
  rcases Int.lt_trichotomy c.dataLength 0 with negative | zero | positive
  · obtain ⟨error, failed⟩ := push_error callback wellFormed conf (.inl negative)
    rw [pushed] at failed
    cases failed
  · rw [push_empty callback wellFormed conf zero (by omega)] at pushed
    obtain ⟨-, rfl⟩ := Prod.mk.inj (Except.ok.inj pushed)
    exact .inl (firstService_handed c conf)
  · have shorter : c.dataLength ≤ 4 * c.flatten.length := int32_le (by omega)
    obtain ⟨client', succeeded, _, _, _, handed⟩ := push_ok callback wellFormed conf
      positive (Int.le_of_eq length.symm) (by omega)
    rw [pushed] at succeeded
    obtain ⟨-, rfl⟩ := Prod.mk.inj (Except.ok.inj succeeded)
    exact .inr handed

/-- A callback that adds one to every word. -/
def increments : Callback where
  run _ buffer := buffer.map (· + 1)
  length_run _ _ := List.length_map _

end InciStub

end GrpcCore.Inci
