import GrpcCore.Inci.RoundTrip

/-!
# Sequences of calls

The segment of a stub has the length of its first call's data. What later calls
may bring follows from that.
-/

namespace GrpcCore.Inci

open MachineInt

/-- A call whose request has a container with something in it. Fields before it
are of no interest, and those after it are not looked at. -/
structure Call where
  before : Nat
  container : Container
  conf : ConfInfo
  after : List RequestField
  reply : List ReplyField
  nonempty : container.size ≠ 0

namespace Call

def request (call : Call) : List RequestField :=
  List.replicate call.before .other ++ .container call.container call.conf :: call.after

def Expects (call : Call) (kind : ContainerKind) : Prop :=
  ∃ c, .container c ∈ call.reply ∧ c.kind = kind

/-- The call stays within a segment of the length, and its reply can be filled. -/
structure Within (kind : ContainerKind) (length : Int) (call : Call) : Prop where
  nonneg : 0 ≤ call.container.dataLength
  fits : call.container.dataLength ≤ length
  readable : ¬ (kind = .monitorMap ∧ call.Expects kind)

end Call

/-- Calls in order on one stub, up to the first that stops. -/
def InciStub.callAll (callback : Callback) (stub : InciStub) :
    List Call → Except InciError InciStub
  | [] => .ok stub
  | call :: calls =>
    (stub.incSend callback call.request call.reply).bind fun sent =>
      sent.2.1.callAll callback calls

variable {client : CommClient} (callback : Callback)

theorem CommClient.pushPull_within (wellFormed : client.WellFormed) (data : List Int32)
    (args : MsgArgs) (key : args.key = client.key) (nonneg : 0 ≤ args.dataLength)
    (fits : args.dataLength ≤ client.dataLength)
    (enough : (args.dataLength / 4).toNat ≤ data.length) :
    ∃ result client', client.pushPull callback data args = .ok (result, client') ∧
      client'.WellFormed ∧ client'.key = client.key ∧ client'.dataLength = client.dataLength := by
  rcases Int.lt_or_eq_of_le nonneg with positive | zero
  · obtain ⟨client', pushed, wellFormed', key', dataLength, _⟩ :=
      pushPull_ok callback wellFormed key positive fits enough
    exact ⟨_, client', pushed, wellFormed', key', dataLength⟩
  · refine ⟨data, client, ?_, wellFormed, rfl, rfl⟩
    unfold pushPull
    rw [if_neg (not_not.mpr key), if_neg (by omega), if_pos zero.symm]

variable (c : Container)

theorem Container.fill_ok_iff (sz : Nat) (data : List Int32) :
    (∃ filled, c.fill sz data = .ok filled) ↔ c.kind ≠ .monitorMap := by
  cases c <;> simp [fill, kind]

theorem exists_map_ok_iff {α β ε : Type} (f : α → β) (outcome : Except ε α) :
    (∃ b, outcome.map f = .ok b) ↔ ∃ a, outcome = .ok a := by
  cases outcome <;> simp [Except.map]

theorem fillReply_ok_iff (kind : ContainerKind) (sz : Nat) (data : List Int32)
    (reply : List ReplyField) :
    (∃ filled, fillReply kind sz data reply = .ok filled) ↔
      ¬ (kind = .monitorMap ∧ ∃ c, .container c ∈ reply ∧ c.kind = kind) := by
  induction reply with
  | nil => simp [fillReply]
  | cons field reply ih =>
    cases field with
    | other | queryArray =>
      rw [fillReply, exists_map_ok_iff, ih]
      · simp
      · simp
    | container c =>
      rw [fillReply]
      split_ifs with mine
      · rw [exists_map_ok_iff, Container.fill_ok_iff, mine]
        constructor
        · rintro other ⟨monitor, -⟩
          exact other monitor
        · intro none monitor
          exact none ⟨monitor, c, List.mem_cons_self, mine⟩
      · rw [exists_map_ok_iff, ih]
        simp [mine]

/-- The service of a stub that takes containers of a kind, with the length of its
segment. -/
structure Service.Ready (kind : ContainerKind) (length : Int) (service : Service) : Prop where
  wellFormed : service.WellFormed
  op : service.op = kind.op
  memSz : service.memSz = 2000
  dataLength : service.dataLength = length

namespace Service

variable {kind : ContainerKind} {length : Int} {service : Service}

theorem ready_firstService (conf : ConfInfo) :
    (firstService c conf).Ready c.kind c.dataLength where
  wellFormed := wellFormed_initService _ _ _ _ _ _
  op := by simp only [firstService, initService]
  memSz := by simp only [firstService, initService]
  dataLength := InciStub.firstService_dataLength c conf

theorem Ready.with_client (ready : service.Ready kind length) (wellFormed : client.WellFormed)
    (key : client.key = service.client.key)
    (dataLength : client.dataLength = service.client.dataLength) :
    ({ service with client } : Service).Ready kind length :=
  ⟨⟨wellFormed, ready.wellFormed.key.trans key.symm,
    ready.wellFormed.dataLength.trans dataLength.symm⟩, ready.op, ready.memSz, ready.dataLength⟩

theorem Ready.push (ready : service.Ready kind length) (c : Container) (conf : ConfInfo)
    (nonneg : 0 ≤ c.dataLength) (fits : c.dataLength ≤ length) :
    ∃ data client, service.push callback c conf = .ok (data, client) ∧
      ({ service with client } : Service).Ready kind length := by
  have shorter : c.dataLength ≤ 4 * c.flatten.length := int32_le (by omega)
  have bytes := args_dataLength service c conf
  rw [← ready.dataLength, ready.wellFormed.dataLength] at fits
  rw [← bytes] at nonneg fits shorter
  obtain ⟨data, client, pushed, wellFormed, key, dataLength⟩ :=
    CommClient.pushPull_within callback ready.wellFormed.client c.flatten (service.args c conf)
      ready.wellFormed.key nonneg fits (by omega)
  exact ⟨data, client, pushed, ready.with_client wellFormed key dataLength⟩

theorem Ready.query (ready : service.Ready kind length) (nonneg : 0 ≤ length) :
    ∃ data client, service.query callback = .ok (data, client) ∧
      ({ service with client } : Service).Ready kind length := by
  have size : service.querySize = min 256000 length := by
    rw [querySize, ready.memSz, ready.dataLength]
    rfl
  have bytes : service.queryArgs.dataLength = service.querySize := rfl
  have segment := ready.wellFormed.dataLength.symm.trans ready.dataLength
  obtain ⟨data, client, queried, wellFormed, key, dataLength⟩ :=
    CommClient.pushPull_within callback ready.wellFormed.client
      (List.replicate (service.querySize / 4).toNat 0) service.queryArgs ready.wellFormed.key
      (by omega) (by omega) (Nat.le_of_eq (by rw [bytes, List.length_replicate]))
  exact ⟨data, client, queried, ready.with_client wellFormed key dataLength⟩

end Service

namespace InciStub

variable {kind : ContainerKind} {length : Int} {service : Service}

theorem sendRequest_others (stub : InciStub) (reply : List ReplyField) (count : Nat)
    (request : List RequestField) :
    stub.sendRequest callback reply (List.replicate count .other ++ request) =
      stub.sendRequest callback reply request := by
  induction count with
  | zero => rfl
  | succ count ih => exact ih

theorem incSend_call (stub : InciStub) (call : Call) :
    stub.incSend callback call.request call.reply =
      (stub.sendContainer callback call.container call.conf call.reply).bind fun sent =>
        (sent.1.query callback sent.2).map fun queried => (true, queried) := by
  rw [incSend, Call.request, sendRequest_others, sendRequest]
  cases stub.sendContainer callback call.container call.conf call.reply with
  | error => rfl
  | ok => rfl

section

variable (ready : service.Ready kind length)
include ready

theorem query_ready (nonneg : 0 ≤ length) (reply : List ReplyField) :
    ∃ service' reply', ({ service := some service } : InciStub).query callback reply =
        .ok ({ service := some service' }, reply') ∧ service'.Ready kind length := by
  induction reply with
  | nil => exact ⟨service, [], rfl, ready⟩
  | cons field reply ih =>
    obtain ⟨service', reply', queried, ready'⟩ := ih
    cases field with
    | other =>
      refine ⟨service', .other :: reply', ?_, ready'⟩
      simp only [query, queried, Except.map]
    | container c =>
      refine ⟨service', .container c :: reply', ?_, ready'⟩
      simp only [query, queried, Except.map]
    | queryArray data =>
      obtain ⟨data, client, answered, ready'⟩ := ready.query callback nonneg
      refine ⟨{ service with client }, .queryArray data :: reply, ?_, ready'⟩
      simp only [query, answered, Except.map]

theorem serve_ready {c : Container} (sameKind : c.kind = kind) (conf : ConfInfo) :
    ({ service := some service } : InciStub).serve c conf = .ok service := by
  have op : service.op = c.kind.op := sameKind ▸ ready.op
  simp only [serve, if_pos op]

theorem sendContainer_ready (call : Call) (sameKind : call.container.kind = kind)
    (within : call.Within kind length) :
    ∃ service' reply', ({ service := some service } : InciStub).sendContainer callback
        call.container call.conf call.reply = .ok ({ service := some service' }, reply') ∧
      service'.Ready kind length := by
  obtain ⟨data, client, pushed, ready'⟩ :=
    ready.push callback call.container call.conf within.nonneg within.fits
  obtain ⟨reply', filled⟩ := (fillReply_ok_iff kind call.container.size data call.reply).mpr
    within.readable
  refine ⟨{ service with client }, reply', ?_, ready'⟩
  rw [sendContainer, if_neg call.nonempty, serve_ready ready sameKind, Except.bind, pushed,
    Except.bind, sameKind, filled, Except.map]

theorem within_of_sendContainer {callback : Callback}
    {call : Call} (sameKind : call.container.kind = kind) {sent : InciStub × List ReplyField}
    (succeeds : ({ service := some service } : InciStub).sendContainer callback
      call.container call.conf call.reply = .ok sent) :
    call.Within kind length := by
  rw [sendContainer, if_neg call.nonempty, serve_ready ready sameKind, Except.bind] at succeeds
  by_cases outside : call.container.dataLength < 0 ∨ length < call.container.dataLength
  · rw [← ready.dataLength] at outside
    obtain ⟨error, failed⟩ := Service.push_error callback ready.wellFormed call.conf outside
    rw [failed] at succeeds
    cases succeeds
  · refine ⟨by omega, by omega, ?_⟩
    obtain ⟨data, client, pushed, -⟩ :=
      ready.push callback call.container call.conf (by omega) (by omega)
    rw [pushed, Except.bind, sameKind] at succeeds
    have filled := (exists_map_ok_iff _ _).mp ⟨_, succeeds⟩
    exact (fillReply_ok_iff kind call.container.size data call.reply).mp filled

theorem incSend_ready (call : Call) (sameKind : call.container.kind = kind) :
    (call.Within kind length ∧ ∃ service' reply',
      ({ service := some service } : InciStub).incSend callback call.request call.reply =
        .ok (true, { service := some service' }, reply') ∧ service'.Ready kind length) ∨
    (¬ call.Within kind length ∧ ∃ error,
      ({ service := some service } : InciStub).incSend callback call.request call.reply =
        .error error) := by
  rw [incSend_call]
  by_cases within : call.Within kind length
  · obtain ⟨service', reply', sent, ready'⟩ :=
      sendContainer_ready callback ready call sameKind within
    obtain ⟨service'', reply'', queried, ready''⟩ :=
      query_ready callback ready' (Int.le_trans within.nonneg within.fits) reply'
    refine .inl ⟨within, service'', reply'', ?_, ready''⟩
    rw [sent, Except.bind, queried, Except.map]
  · refine .inr ⟨within, ?_⟩
    cases sent : ({ service := some service } : InciStub).sendContainer callback
        call.container call.conf call.reply with
    | error error => exact ⟨error, rfl⟩
    | ok => exact absurd (within_of_sendContainer ready sameKind sent) within

theorem callAll_ready (calls : List Call) (sameKind : ∀ call ∈ calls, call.container.kind = kind) :
    (∃ stub, ({ service := some service } : InciStub).callAll callback calls = .ok stub) ↔
      ∀ call ∈ calls, call.Within kind length := by
  induction calls generalizing service with
  | nil => simp [callAll]
  | cons call calls ih =>
    obtain ⟨sameHead, sameTail⟩ := List.forall_mem_cons.mp sameKind
    rw [List.forall_mem_cons, callAll]
    rcases incSend_ready callback ready call sameHead with
      ⟨within, service', reply', sent, ready'⟩ | ⟨outside, error, failed⟩
    · rw [sent, Except.bind, ih ready' sameTail]
      simp [within]
    · simp [failed, Except.bind, outside]

end

theorem incSend_first (call : Call) :
    ({} : InciStub).incSend callback call.request call.reply =
      ({ service := some (firstService call.container call.conf) } : InciStub).incSend callback
        call.request call.reply := by
  have ready := Service.ready_firstService call.container call.conf
  rw [incSend_call, incSend_call, sendContainer, sendContainer, serve_fresh, serve_ready ready rfl]

/-- Calls of one kind come to an end, on a stub of their own, exactly if the data of
each has at most the length of the first call's and no reply has a `MonitorMap` to be
filled. -/
theorem callAll_ok_iff (callback : Callback) (kind : ContainerKind) (calls : List Call)
    (sameKind : ∀ call ∈ calls, call.container.kind = kind) :
    (∃ stub, callAll callback {} calls = .ok stub) ↔
      ∀ first ∈ calls.head?, ∀ call ∈ calls, call.Within kind first.container.dataLength := by
  cases calls with
  | nil => simp [callAll]
  | cons first =>
    have ready := Service.ready_firstService first.container first.conf
    rw [sameKind first List.mem_cons_self] at ready
    rw [List.head?_cons, callAll, incSend_first, ← callAll, callAll_ready callback ready _ sameKind]
    simp

/-- A call with an `AggtrArray` whose reply has a `QueryArray`. -/
def arrayCall (data : List Int32) (nonempty : data.length ≠ 0) : Call where
  before := 0
  container := .aggtrArray data
  conf := {}
  after := []
  reply := [.queryArray []]
  nonempty := nonempty

/-- A call with two words and one with one come to an end. -/
theorem callAll_shorter_second :
    ∃ stub, callAll increments {} [arrayCall [7, 9] (by decide), arrayCall [5] (by decide)] =
      .ok stub := by
  refine (callAll_ok_iff increments .aggtrArray _ (by decide)).mpr ?_
  intro first isFirst call called
  obtain rfl := Option.some.inj isFirst
  simp only [List.mem_cons, List.not_mem_nil, or_false] at called
  rcases called with rfl | rfl
  · exact ⟨by decide, by decide, by simp⟩
  · exact ⟨by decide, by decide, by simp⟩

/-- In the other order the second call fails an assertion. -/
theorem callAll_longer_second :
    ¬ ∀ (callback : Callback) (kind : ContainerKind) (calls : List Call),
      (∀ call ∈ calls, call.container.kind = kind) →
        ∃ stub, callAll callback {} calls = .ok stub := by
  intro all
  obtain ⟨stub, succeeds⟩ := all increments .aggtrArray
    [arrayCall [5] (by decide), arrayCall [7, 9] (by decide)] (by decide)
  have failed : callAll increments {} [arrayCall [5] (by decide), arrayCall [7, 9] (by decide)] =
      .error .dataTooLong := by decide
  exact absurd (failed.symm.trans succeeds) (by simp)

end InciStub

end GrpcCore.Inci
