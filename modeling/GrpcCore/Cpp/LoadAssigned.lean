import GrpcCore.Cpp.LoadAccounts
import GrpcCore.Lib.MachineInt

/-!
# The stores of a server are assigned and count

In exactly the runs in which nothing in progress is merged for a store before it is made.
-/

namespace GrpcCore.Cpp

open Holders Machine OrderedMap LoadDataStore

namespace LoadReporter

variable {reporter reporter' : LoadReporter} {store : LoadDataStore}

theorem openedAccounts_eq (host : PerHostStore) (lbId loadKey : String) :
    ∀ account ∈ host.openedAccounts lbId loadKey, account.2.2 = 0 ∧
      (account.1 = lbId ∨ account.1 = kInvalidLbId) := by
  unfold PerHostStore.openedAccounts
  split
  · simp
  · simp

structure Leads (reporter : LoadReporter) (store : LoadDataStore) (action : Action)
    (reporter' : LoadReporter) : Prop where
  kept : ∀ store', reporter'.store = some store' → Kept reporter' store'
  assigned : reporter.Counted store → (reporter'.Assigned ↔ reporter.Countable action)

variable {hostname lbId : String} {random : RandomElement}

theorem leads_created (kept : Kept reporter store) (there : reporter.store = some store)
    {loadKey : String}
    (taken : reporter.step (.reportStreamCreated random hostname lbId loadKey) = some reporter') :
    Leads reporter store (.reportStreamCreated random hostname lbId loadKey) reporter' := by
  unfold step at taken
  rw [there] at taken
  obtain ⟨allowed, taken⟩ := Option.ite_none_left_eq_some.mp taken
  simp only [not_or] at allowed
  obtain ⟨new, valid, -⟩ := allowed
  obtain ⟨host, host', is, made, sound, accounts, receivers, fresh, known, open_, nonneg⟩ :=
    kept.streamCreated random hostname loadKey new valid
  rw [made] at taken
  obtain rfl := Option.some.inj taken
  have opened := openedAccounts_eq host lbId loadKey
  have kept' : Kept
      { reporter with
        store := some { store with
          perHostStores := assign hostname host' store.perHostStores }
        streams := reporter.streams ++ [(hostname, lbId)]
        lbIds := reporter.lbIds ++ [lbId] }
      { store with perHostStores := assign hostname host' store.perHostStores } := by
    refine ⟨fun name other found => ?_, fun name id stream => ?_, kept.sums⟩
    · rw [lookup_assign] at found
      split at found
      case isTrue same =>
        subst same
        obtain rfl := Option.some.inj found
        refine ⟨sound, ?_, fun id => ?_, fun id listed => ?_, fun account listed => ?_⟩
        · rw [accounts]
          unfold PerHostStore.openedAccounts
          split
          · simp
          · simp
        · rw [receivers]
          simp [open_ id]
        · rw [PerHostStore.lbIds_eq, accounts, List.map_append] at listed
          rcases List.mem_append.mp listed with before | now
          · rw [← PerHostStore.lbIds_eq] at before
            exact (known id before).imp_left (List.mem_append_left _)
          · obtain ⟨account, among, rfl⟩ := List.mem_map.mp now
            refine (opened account among).2.imp_left fun here => ?_
            exact here ▸ List.mem_append_right _ (List.mem_cons_self ..)
        · rw [accounts] at listed
          rcases List.mem_append.mp listed with before | now
          · exact nonneg account before
          · rw [(opened account now).1]
            decide
      case isFalse different =>
        have hostKept := kept.hosts name other found
        refine ⟨hostKept.sound, hostKept.nonempty, fun id => ?_, fun id listed => ?_,
          hostKept.nonneg⟩
        · simp [hostKept.receivers id, different]
        · exact (hostKept.lbIds id listed).imp_left (List.mem_append_left _)
    · rw [lookup_assign]
      rcases List.mem_append.mp stream with before | now
      · obtain ⟨used, other, found⟩ := kept.streams name id before
        refine ⟨List.mem_append_left _ used, ?_⟩
        split
        · exact ⟨_, rfl⟩
        · exact ⟨other, found⟩
      · obtain ⟨rfl, rfl⟩ := Prod.mk.inj (List.mem_singleton.mp now)
        exact ⟨List.mem_append_right _ (List.mem_cons_self ..), host', if_pos rfl⟩
  refine ⟨fun store' same => Option.some.inj same ▸ kept', fun counted => ?_⟩
  rw [assigned_iff kept' rfl]
  constructor
  · intro counted'
    have count (account : String × String × BitVec 64)
        (among : account ∈ host.openedAccounts lbId loadKey) :
        inProgress reporter.merged hostname account.1 = 0 := by
      have listed : account ∈ host'.accounts := by
        rw [accounts]
        exact List.mem_append_right _ among
      have found : (assign hostname host' store.perHostStores).lookup hostname = some host' := by
        rw [lookup_assign, if_pos rfl]
      have counts := counted' hostname host' found account listed
      rw [(opened account among).1] at counts
      exact counts.symm
    refine ⟨count (lbId, loadKey, 0) ?_, ?_⟩
    · unfold PerHostStore.openedAccounts
      split
      · exact List.mem_cons_self ..
      · exact List.mem_cons_self ..
    · rintro ⟨store', same, absent⟩
      obtain rfl := Option.mem_unique there same
      refine count (kInvalidLbId, "", 0) ?_
      unfold PerHostStore.openedAccounts
      rw [if_pos (fresh.mpr absent)]
      exact List.mem_cons_of_mem _ (List.mem_cons_self ..)
  · rintro ⟨own, invalid⟩ name other found account listed
    rw [lookup_assign] at found
    split at found
    case isTrue same =>
      subst same
      obtain rfl := Option.some.inj found
      rw [accounts] at listed
      rcases List.mem_append.mp listed with before | now
      · cases old : store.perHostStores.lookup name with
        | none =>
          rw [fresh.mpr old] at before
          cases before
        | some host'' =>
          rw [is, old] at before
          exact counted name host'' old account before
      · unfold PerHostStore.openedAccounts at now
        split at now
        case isTrue first =>
          have zero := invalid ⟨store, there, fresh.mp first⟩
          rcases List.mem_cons.mp now with rfl | now
          · exact own.symm
          · rw [List.mem_singleton.mp now]
            exact zero.symm
        case isFalse =>
          rw [List.mem_singleton.mp now]
          exact own.symm
    case isFalse different => exact counted name other found account listed

theorem leads_closed (kept : Kept reporter store) (there : reporter.store = some store)
    (taken : reporter.step (.reportStreamClosed random hostname lbId) = some reporter') :
    Leads reporter store (.reportStreamClosed random hostname lbId) reporter' := by
  unfold step at taken
  rw [there] at taken
  obtain ⟨stream, taken⟩ := Option.ite_none_right_eq_some.mp taken
  obtain ⟨_, host, found⟩ := kept.streams hostname lbId stream
  have hostKept := kept.hosts hostname host found
  obtain ⟨host', closed, sound, accounts, receivers⟩ :=
    hostKept.sound.closed random ((hostKept.receivers lbId).mpr stream)
  have made : store.reportStreamClosed random hostname lbId = some { store with
      perHostStores := assign hostname host' store.perHostStores } := by
    unfold reportStreamClosed
    simp only [Option.bind_eq_bind, found, Option.bind_some, closed]
  rw [made] at taken
  obtain rfl := Option.some.inj taken
  have kept' : Kept
      { reporter with
        store := some { store with
          perHostStores := assign hostname host' store.perHostStores }
        streams := reporter.streams.filter fun stream => stream ≠ (hostname, lbId) }
      { store with perHostStores := assign hostname host' store.perHostStores } := by
    refine ⟨fun name other found' => ?_, fun name id stream' => ?_, kept.sums⟩
    · rw [lookup_assign] at found'
      split at found'
      case isTrue same =>
        subst same
        obtain rfl := Option.some.inj found'
        refine ⟨sound, accounts ▸ hostKept.nonempty, fun id => ?_, fun id listed => ?_,
          accounts ▸ hostKept.nonneg⟩
        · rw [receivers]
          simp [hostKept.receivers id]
        · rw [PerHostStore.lbIds_eq, accounts, ← PerHostStore.lbIds_eq] at listed
          exact hostKept.lbIds id listed
      case isFalse different =>
        have otherKept := kept.hosts name other found'
        refine ⟨otherKept.sound, otherKept.nonempty, fun id => ?_, otherKept.lbIds,
          otherKept.nonneg⟩
        simp [otherKept.receivers id, different]
    · obtain ⟨used, other, found'⟩ := kept.streams name id (List.mem_filter.mp stream').1
      refine ⟨used, ?_⟩
      rw [lookup_assign]
      split
      · exact ⟨_, rfl⟩
      · exact ⟨other, found'⟩
  refine ⟨fun store' same => Option.some.inj same ▸ kept', fun counted => ?_⟩
  rw [assigned_iff kept' rfl]
  refine iff_of_true (fun name other found' account listed => ?_) trivial
  rw [lookup_assign] at found'
  split at found'
  case isTrue same =>
    subst same
    obtain rfl := Option.some.inj found'
    rw [accounts] at listed
    exact counted name host found account listed
  case isFalse different => exact counted name other found' account listed

theorem sums_append (kept : Kept reporter store) {row : MergedRow}
    (sum : 0 ≤ inProgress (reporter.merged ++ [row]) row.hostname row.lbId)
    (hostname lbId : String) : 0 ≤ inProgress (reporter.merged ++ [row]) hostname lbId := by
  by_cases here : row.hostname = hostname ∧ row.lbId = lbId
  · rw [here.1, here.2] at sum
    exact sum
  · rw [inProgress_append, if_neg here, Int.add_zero]
    exact kept.sums hostname lbId

variable {value : LoadRecordValue} {key : LoadRecordKey}

theorem leads_tracked (kept : Kept reporter store) (there : reporter.store = some store)
    (unknown : store.findPerBalancerStore hostname key.lbId = none)
    (taken : reporter.step (.mergeRow hostname key value) = some reporter') :
    Leads reporter store (.mergeRow hostname key value) reporter' := by
  unfold step at taken
  rw [there] at taken
  obtain ⟨sum, taken⟩ := Option.ite_none_right_eq_some.mp taken
  have made : store.mergeRow hostname key value =
      some (store.trackUnknownBalancerId key.lbId value.numCallsInProgressDelta) := by
    unfold mergeRow
    rw [unknown]
  have hosts : (store.trackUnknownBalancerId key.lbId
      value.numCallsInProgressDelta).perHostStores = store.perHostStores := by
    unfold trackUnknownBalancerId
    split
    · rfl
    · rfl
  rw [made] at taken
  obtain rfl := Option.some.inj taken
  have kept' : Kept
      { reporter with
        store := some (store.trackUnknownBalancerId key.lbId value.numCallsInProgressDelta)
        merged := reporter.merged ++ [⟨hostname, key.lbId, value.numCallsInProgressDelta.toInt⟩] }
      (store.trackUnknownBalancerId key.lbId value.numCallsInProgressDelta) := by
    refine ⟨fun name host found => ?_, fun name id stream => ?_, sums_append kept sum⟩
    · rw [hosts] at found
      have hostKept := kept.hosts name host found
      exact ⟨hostKept.sound, hostKept.nonempty, hostKept.receivers, hostKept.lbIds, hostKept.nonneg⟩
    · rw [hosts]
      exact kept.streams name id stream
  refine ⟨fun store' same => Option.some.inj same ▸ kept', fun counted => ?_⟩
  rw [assigned_iff kept' rfl]
  refine iff_of_true (fun name host found account listed => ?_) ?_
  · rw [hosts] at found
    rw [counted name host found account listed, inProgress_append, if_neg, Int.add_zero]
    rintro ⟨sameHost, sameId⟩
    dsimp only at sameHost sameId
    have known : account.1 ∈ host.lbIds := by
      rw [PerHostStore.lbIds_eq]
      exact List.mem_map_of_mem listed
    obtain ⟨balancer, found', -⟩ := PerHostStore.find_of_mem known
    unfold findPerBalancerStore at unknown
    rw [sameHost, sameId, found, Option.bind_some, found'] at unknown
    cases unknown
  · rintro ⟨store', same, is⟩
    obtain rfl := Option.mem_unique there same
    rw [unknown] at is
    cases is

/-- A row for a balancer that the host knows is merged into its store, unless the assertion
fails. -/
theorem leads_merged (kept : Kept reporter store) (there : reporter.store = some store)
    {balancer : PerBalancerStore}
    (known : store.findPerBalancerStore hostname key.lbId = some balancer)
    (taken : reporter.step (.mergeRow hostname key value) = some reporter') :
    Leads reporter store (.mergeRow hostname key value) reporter' := by
  obtain ⟨host, found, foundBalancer⟩ := Option.bind_eq_some_iff.mp known
  have hostKept := kept.hosts hostname host found
  have membership := List.mem_of_find?_eq_some foundBalancer
  have named := List.find?_some foundBalancer
  have named : balancer.lbId = key.lbId := of_decide_eq_true named
  have account : (key.lbId, balancer.loadKey, balancer.numCallsInProgress) ∈ host.accounts :=
    named ▸ List.mem_map_of_mem membership
  have nonneg := hostKept.nonneg _ account
  have knows : reporter.Knows hostname key.lbId := ⟨store, there, by rw [known]; rfl⟩
  unfold step at taken
  rw [there] at taken
  obtain ⟨sum, taken⟩ := Option.ite_none_right_eq_some.mp taken
  have sums := sums_append kept sum
  rw [inProgress_append, if_pos ⟨rfl, rfl⟩] at sum
  obtain rfl := Option.some.inj taken
  by_cases passes : 0 ≤ (balancer.numCallsInProgress + value.numCallsInProgressDelta).toInt
  · obtain ⟨balancer', mergedBalancer⟩ : ∃ balancer', balancer.mergeRow key value =
        some balancer' := ⟨_, if_pos passes⟩
    obtain ⟨sound, accounts⟩ := hostKept.sound.merged foundBalancer mergedBalancer
    have merged : store.mergeRow hostname key value = some { store with
        perHostStores := modify hostname
          (fun host => host.modifyStore key.lbId fun _ => balancer') store.perHostStores } := by
      unfold mergeRow
      rw [known]
      simp only [mergedBalancer, Option.bind_eq_bind, Option.bind_some]
    have lookup (name : String) : (modify hostname
        (fun host => host.modifyStore key.lbId fun _ => balancer') store.perHostStores).lookup
          name = if name = hostname then some (host.modifyStore key.lbId fun _ => balancer')
            else store.perHostStores.lookup name := by
      rw [lookup_modify, found]
      rfl
    have unique : ∀ count loadKey, (key.lbId, loadKey, count) ∈ host.accounts →
        count = balancer.numCallsInProgress := by
      intro count loadKey listed
      have nodup := hostKept.sound.consistent.nodup
      rw [PerHostStore.lbIds_eq] at nodup
      have same := List.inj_on_of_nodup_map nodup listed account rfl
      exact (Prod.mk.inj (Prod.mk.inj same).2).2
    rw [merged]
    have kept' : Kept
        { reporter with
          store := some { store with
            perHostStores := modify hostname
              (fun host => host.modifyStore key.lbId fun _ => balancer') store.perHostStores }
          merged := reporter.merged ++ [⟨hostname, key.lbId, value.numCallsInProgressDelta.toInt⟩] }
        { store with
          perHostStores := modify hostname
            (fun host => host.modifyStore key.lbId fun _ => balancer') store.perHostStores } := by
      refine ⟨fun name other found' => ?_, fun name id stream => ?_, sums⟩
      · rw [lookup] at found'
        split at found'
        case isTrue same =>
          subst same
          obtain rfl := Option.some.inj found'
          have keys : (host.modifyStore key.lbId fun _ => balancer').lbIds = host.lbIds := by
            rw [PerHostStore.lbIds_eq, PerHostStore.lbIds_eq, accounts, List.map_map]
            refine List.map_congr_left fun entry _ => ?_
            rw [Function.comp_apply]
            split
            · rfl
            · rfl
          refine ⟨sound, ?_, hostKept.receivers, ?_, fun entry listed => ?_⟩
          · rw [accounts]
            exact fun none => hostKept.nonempty (List.map_eq_nil_iff.mp none)
          · rw [keys]
            exact hostKept.lbIds
          · rw [accounts] at listed
            obtain ⟨old, before, rfl⟩ := List.mem_map.mp listed
            obtain ⟨id, loadKey, count⟩ := old
            split
            case isTrue here =>
              subst here
              rw [unique count loadKey before]
              exact passes
            case isFalse => exact hostKept.nonneg _ before
        case isFalse =>
          have otherKept := kept.hosts name other found'
          exact ⟨otherKept.sound, otherKept.nonempty, otherKept.receivers, otherKept.lbIds,
            otherKept.nonneg⟩
      · obtain ⟨used, other, found'⟩ := kept.streams name id stream
        refine ⟨used, ?_⟩
        rw [lookup]
        split
        · exact ⟨_, rfl⟩
        · exact ⟨other, found'⟩
    refine ⟨fun store' same => Option.some.inj same ▸ kept', fun counted => ?_⟩
    rw [assigned_iff kept' rfl]
    have count := counted hostname host found _ account
    rw [MachineInt.toNat_of_nonneg nonneg] at count
    refine iff_of_true (fun name other found' entry listed => ?_) fun _ => ?_
    · rw [lookup] at found'
      rw [inProgress_append]
      split at found'
      case isTrue same =>
        subst same
        obtain rfl := Option.some.inj found'
        rw [accounts] at listed
        obtain ⟨old, before, rfl⟩ := List.mem_map.mp listed
        obtain ⟨id, loadKey, number⟩ := old
        split
        case isTrue here =>
          subst here
          rw [if_pos ⟨rfl, rfl⟩, unique number loadKey before,
            MachineInt.toNat_add_of_nonneg nonneg (count ▸ sum) passes, count]
        case isFalse different =>
          rw [if_neg fun both => different both.2.symm, Int.add_zero]
          exact counted name host found _ before
      case isFalse different =>
        rw [if_neg fun both => different both.1.symm, Int.add_zero]
        exact counted name other found' entry listed
    · rw [← count]
      exact (MachineInt.add_nonneg_iff nonneg (count ▸ sum)).mp passes
  · -- the assertion fails, and the sum does not fit
    have failed : store.mergeRow hostname key value = none := by
      unfold mergeRow
      rw [known]
      simp only [PerBalancerStore.mergeRow, if_neg passes, Option.bind_eq_bind, Option.bind_none]
    rw [failed]
    refine ⟨nofun, fun counted => iff_of_false nofun fun countable => passes ?_⟩
    have count := counted hostname host found _ account
    rw [MachineInt.toNat_of_nonneg nonneg] at count
    rw [MachineInt.add_nonneg_iff nonneg (count ▸ sum), count]
    exact countable knows

/-- A store that is still there is kept. -/
def Sound (reporter : LoadReporter) : Prop :=
  ∀ store, reporter.store = some store → Kept reporter store

theorem leads_step (sound : Sound reporter) {action : Action}
    (taken : reporter.step action = some reporter') :
    ∃ store, reporter.store = some store ∧ Leads reporter store action reporter' := by
  obtain ⟨store, there, _⟩ := Option.bind_eq_some_iff.mp taken
  have kept := sound store there
  refine ⟨store, there, ?_⟩
  cases action with
  | reportStreamCreated => exact leads_created kept there taken
  | reportStreamClosed => exact leads_closed kept there taken
  | mergeRow hostname key =>
    cases known : store.findPerBalancerStore hostname key.lbId with
    | none => exact leads_tracked kept there known taken
    | some => exact leads_merged kept there known taken

/-- The stores are assigned and count their calls, and no assertion fails, in exactly the runs in
which no calls are in progress for a store that is made, and those of a store fit. -/
theorem assigned_iff_countable (actions : List Action) (final : LoadReporter) :
    Run step Countable created actions final ↔
      Reach step created actions final ∧
        ∀ done later, actions = done ++ later → ∀ middle, Reach step created done middle →
          Assigned middle := by
  have initial : Sound created := fun store same => Option.some.inj same ▸ kept_created
  refine Run.iff_always ?_ ?_ initial ?_ actions final
  · intro reporter action reporter' sound taken
    obtain ⟨store, there, leads⟩ := leads_step sound taken
    exact leads.kept
  · intro reporter action reporter' sound assigned taken
    obtain ⟨store, there, leads⟩ := leads_step sound taken
    exact leads.assigned ((assigned_iff (sound store there) there).mp assigned)
  · exact (assigned_iff kept_created rfl).mpr nofun

def firstElement : RandomElement where
  choose _ container := container.headD ""
  choose_mem _ container nonempty := by
    cases container with
    | nil => exact absurd rfl nonempty
    | cons first rest => exact List.mem_cons_self ..

/-- A call without a balancer begins before the first stream and ends after it. -/
def earlyCall : List Action :=
  [.mergeRow "host" ⟨kInvalidLbId, "", "", ""⟩ ⟨1, 0, 0, 0, 0, 0⟩,
    .reportStreamCreated firstElement "host" "balancer" "key",
    .mergeRow "host" ⟨kInvalidLbId, "", "", ""⟩ ⟨0, 1, 0, 0, 0, 0⟩]

/-- An assertion fails when the call ends. -/
theorem early_call_aborts :
    ∃ reporter, Reach step created earlyCall reporter ∧ ¬ Assigned reporter := by
  obtain ⟨reporter, reach, aborted⟩ := exists_reach step created earlyCall
    (fun reporter => reporter.store.isNone) true (by decide)
  refine ⟨reporter, reach, ?_⟩
  rintro ⟨store, there, _⟩
  rw [there] at aborted
  cases aborted

end LoadReporter

end GrpcCore.Cpp
