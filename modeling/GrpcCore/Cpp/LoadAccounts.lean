import GrpcCore.Cpp.StreamChanges
import GrpcCore.Lib.Run

/-!
# The calls in progress of a server

Every call that is merged for a balancer is counted by its store, if nothing was merged before
the store was made. For the invalid LB ID nothing checks that.
-/

namespace GrpcCore.Cpp

open Holders Machine

namespace PerHostStore

variable {host : PerHostStore} {lbId : String} {store store' : PerBalancerStore}
  {key : LoadRecordKey} {value : LoadRecordValue}

theorem mergeRow_eq (merged : store.mergeRow key value = some store') :
    0 ≤ (store.numCallsInProgress + value.numCallsInProgressDelta).toInt ∧
      store'.lbId = store.lbId ∧ store'.loadKey = store.loadKey ∧
        store'.suspended = store.suspended ∧
          store'.numCallsInProgress = store.numCallsInProgress + value.numCallsInProgressDelta := by
  obtain ⟨nonneg, rfl⟩ := Option.ite_some_none_eq_some.mp merged
  exact ⟨nonneg, rfl, rfl, rfl, rfl⟩

section

variable (nodup : host.lbIds.Nodup) (found : host.findPerBalancerStore lbId = some store)
include nodup found

theorem map_modifyStore {Value : Type*} (view : PerBalancerStore → Value) (change : Value → Value)
    (changed : view store' = change (view store)) :
    (host.modifyStore lbId fun _ => store').perBalancerStores.map view =
      host.perBalancerStores.map fun store =>
        if store.lbId = lbId then change (view store) else view store := by
  have membership := List.mem_of_find?_eq_some found
  have named := List.find?_some found
  have named : store.lbId = lbId := of_decide_eq_true named
  unfold modifyStore
  rw [List.map_map]
  refine List.map_congr_left fun other there => ?_
  by_cases here : other.lbId = lbId
  · obtain rfl := List.inj_on_of_nodup_map nodup there membership (here.trans named.symm)
    simp [here, changed]
  · simp [here]

theorem map_modifyStore_same {Value : Type*} (view : PerBalancerStore → Value)
    (same : view store' = view store) :
    (host.modifyStore lbId fun _ => store').perBalancerStores.map view =
      host.perBalancerStores.map view := by
  rw [map_modifyStore nodup found view id same]
  refine List.map_congr_left fun other _ => ?_
  split
  · rfl
  · rfl

end

theorem Sound.merged (sound : Sound host) (found : host.findPerBalancerStore lbId = some store)
    (merged : store.mergeRow key value = some store') :
    Sound (host.modifyStore lbId fun _ => store') ∧
      (host.modifyStore lbId fun _ => store').accounts = host.accounts.map fun account =>
        if account.1 = lbId then
          (account.1, account.2.1, account.2.2 + value.numCallsInProgressDelta)
        else account := by
  obtain ⟨_, name, loadKey, suspended, count⟩ := mergeRow_eq merged
  have nodup := sound.consistent.nodup
  have loadKeys : (host.modifyStore lbId fun _ => store').loadKeys = host.loadKeys :=
    map_modifyStore_same nodup found _ (by rw [name, loadKey])
  have lbIds : (host.modifyStore lbId fun _ => store').lbIds = host.lbIds :=
    map_modifyStore_same nodup found _ name
  have actives (host : PerHostStore) : host.activeLbIds =
      ((host.perBalancerStores.map fun store => (store.lbId, store.suspended)).filter
        fun entry => !entry.2).map Prod.fst := by
    rw [List.filter_map, List.map_map]
    rfl
  have entries := map_modifyStore_same nodup found
    (fun store => (store.lbId, store.suspended)) (by rw [name, suspended])
  have active : (host.modifyStore lbId fun _ => store').activeLbIds = host.activeLbIds := by
    rw [actives, actives, entries]
  have accounts := map_modifyStore nodup found
    (fun store => (store.lbId, store.loadKey, store.numCallsInProgress))
    (fun account => (account.1, account.2.1, account.2.2 + value.numCallsInProgressDelta))
    (by rw [name, loadKey, count])
  refine ⟨⟨?_, ?_, fun _ => ?_, sound.invalid_closed⟩, ?_⟩
  · refine sound.consistent.stores loadKeys rfl rfl ?_
    rw [active]
    exact sound.consistent.divided
  · intro receives other there
    obtain ⟨old, before, is⟩ := List.mem_map.mp there
    have running := sound.served receives
    split at is
    case isTrue here =>
      rw [← is, suspended]
      exact running store (List.mem_of_find?_eq_some found)
    case isFalse => exact is ▸ running old before
  · rw [lbIds]
    refine sound.invalid_known fun none => ?_
    have membership := List.mem_of_find?_eq_some found
    rw [List.map_eq_nil_iff.mp none] at membership
    cases membership
  · unfold PerHostStore.accounts
    rw [accounts, List.map_map]
    refine List.map_congr_left fun other _ => ?_
    simp only [Function.comp_apply]

end PerHostStore

/-- A record that has been merged, with its calls in progress. -/
structure MergedRow where
  hostname : String
  lbId : String
  inProgressDelta : Int
deriving DecidableEq

/-- The sum of all that has been merged for a balancer of a host. -/
def inProgress (merged : List MergedRow) (hostname lbId : String) : Int :=
  ((merged.filter fun row => row.hostname = hostname ∧ row.lbId = lbId).map
    MergedRow.inProgressDelta).sum

theorem inProgress_append (merged : List MergedRow) (row : MergedRow) (hostname lbId : String) :
    inProgress (merged ++ [row]) hostname lbId = inProgress merged hostname lbId +
      if row.hostname = hostname ∧ row.lbId = lbId then row.inProgressDelta else 0 := by
  unfold inProgress
  by_cases here : row.hostname = hostname ∧ row.lbId = lbId
  · simp [here]
  · simp [here]

/-- A store with the history of its calls. It is gone once an assertion has failed. -/
structure LoadReporter where
  store : Option LoadDataStore
  merged : List MergedRow
  streams : List (String × String)
  lbIds : List String
deriving DecidableEq

namespace LoadReporter

def created : LoadReporter := ⟨some .created, [], [], []⟩

inductive Action where
  | reportStreamCreated (random : RandomElement) (hostname lbId loadKey : String)
  | reportStreamClosed (random : RandomElement) (hostname lbId : String)
  | mergeRow (hostname : String) (key : LoadRecordKey) (value : LoadRecordValue)

/-- LB IDs are new, valid and not tracked, streams that are closed are open, and the deltas of
a balancer sum to a number of calls. -/
def step (reporter : LoadReporter) (action : Action) : Option LoadReporter :=
  reporter.store.bind fun store =>
    match action with
    | .reportStreamCreated random hostname lbId loadKey =>
      if lbId ∈ reporter.lbIds ∨ lbId = kInvalidLbId ∨
          store.isTrackedUnknownBalancerId lbId = true then none
      else
        some { reporter with
          store := store.reportStreamCreated random hostname lbId loadKey
          streams := reporter.streams ++ [(hostname, lbId)]
          lbIds := reporter.lbIds ++ [lbId] }
    | .reportStreamClosed random hostname lbId =>
      if (hostname, lbId) ∈ reporter.streams then
        some { reporter with
          store := store.reportStreamClosed random hostname lbId
          streams := reporter.streams.filter fun stream => stream ≠ (hostname, lbId) }
      else none
    | .mergeRow hostname key value =>
      let row := ⟨hostname, key.lbId, value.numCallsInProgressDelta.toInt⟩
      if 0 ≤ inProgress (reporter.merged ++ [row]) hostname key.lbId then
        some { reporter with
          store := store.mergeRow hostname key value
          merged := reporter.merged ++ [row] }
      else none

/-- The stores of a host are divided among its open streams, and none of them is suspended; with
no stream all are. Each counts its calls in progress. -/
structure HostAssigned (reporter : LoadReporter) (hostname : String) (host : PerHostStore) :
    Prop where
  receivers : ∀ lbId, lbId ∈ holders host.assignedStores ↔ (hostname, lbId) ∈ reporter.streams
  receivers_nodup : (holders host.assignedStores).Nodup
  divided : host.assignedStores ≠ [] → (items host.assignedStores).Perm host.lbIds
  nodup : host.lbIds.Nodup
  active : host.assignedStores ≠ [] → ∀ store ∈ host.perBalancerStores, store.suspended = false
  suspended : host.assignedStores = [] → ∀ store ∈ host.perBalancerStores, store.suspended = true
  counts : ∀ store ∈ host.perBalancerStores,
    (store.numCallsInProgress.toNat : Int) = inProgress reporter.merged hostname store.lbId

/-- No assertion has failed, and the stores of every host are assigned. -/
def Assigned (reporter : LoadReporter) : Prop :=
  ∃ store, reporter.store = some store ∧
    (∀ hostname host, store.perHostStores.lookup hostname = some host →
      reporter.HostAssigned hostname host) ∧
    ∀ hostname lbId, (hostname, lbId) ∈ reporter.streams →
      ∃ host, store.perHostStores.lookup hostname = some host ∧ lbId ∈ host.lbIds

def Knows (reporter : LoadReporter) (hostname lbId : String) : Prop :=
  ∃ store, reporter.store = some store ∧ (store.findPerBalancerStore hostname lbId).isSome

def NewHost (reporter : LoadReporter) (hostname : String) : Prop :=
  ∃ store, reporter.store = some store ∧ store.perHostStores.lookup hostname = none

/-- When a store is made, the calls that have been merged for it are over, and the calls of a
store are a signed number. -/
def Countable (reporter : LoadReporter) : Action → Prop
  | .reportStreamCreated _ hostname lbId _ =>
    inProgress reporter.merged hostname lbId = 0 ∧
      (reporter.NewHost hostname → inProgress reporter.merged hostname kInvalidLbId = 0)
  | .reportStreamClosed _ _ _ => True
  | .mergeRow hostname key value =>
    reporter.Knows hostname key.lbId → inProgress reporter.merged hostname key.lbId +
      value.numCallsInProgressDelta.toInt < 2 ^ 63

structure HostKept (reporter : LoadReporter) (hostname : String) (host : PerHostStore) :
    Prop where
  sound : host.Sound
  nonempty : host.accounts ≠ []
  receivers : ∀ lbId, lbId ∈ host.receivers ↔ (hostname, lbId) ∈ reporter.streams
  lbIds : ∀ lbId ∈ host.lbIds, lbId ∈ reporter.lbIds ∨ lbId = kInvalidLbId
  nonneg : ∀ account ∈ host.accounts, 0 ≤ account.2.2.toInt

/-- What holds of a store that is still there, whatever it counts. -/
structure Kept (reporter : LoadReporter) (store : LoadDataStore) : Prop where
  hosts : ∀ hostname host, store.perHostStores.lookup hostname = some host →
    reporter.HostKept hostname host
  streams : ∀ hostname lbId, (hostname, lbId) ∈ reporter.streams →
    lbId ∈ reporter.lbIds ∧ ∃ host, store.perHostStores.lookup hostname = some host
  sums : ∀ hostname lbId, 0 ≤ inProgress reporter.merged hostname lbId

def Counted (reporter : LoadReporter) (store : LoadDataStore) : Prop :=
  ∀ hostname host, store.perHostStores.lookup hostname = some host →
    ∀ account ∈ host.accounts,
      (account.2.2.toNat : Int) = inProgress reporter.merged hostname account.1

section Kept

variable {reporter : LoadReporter} {store : LoadDataStore}

theorem active_eq_of_served {host : PerHostStore}
    (active : ∀ store ∈ host.perBalancerStores, store.suspended = false) :
    host.activeLbIds = host.lbIds := by
  unfold PerHostStore.activeLbIds PerHostStore.lbIds
  rw [List.filter_eq_self.mpr]
  intro store there
  rw [active store there]
  rfl

theorem assigned_iff (kept : Kept reporter store) (there : reporter.store = some store) :
    reporter.Assigned ↔ reporter.Counted store := by
  constructor
  · rintro ⟨store', same, hosts, _⟩ hostname host found account membership
    obtain rfl := Option.mem_unique there same
    obtain ⟨balancer, listed, rfl⟩ := List.mem_map.mp membership
    exact (hosts hostname host found).counts balancer listed
  · intro counted
    refine ⟨store, there, fun hostname host found => ?_, fun hostname lbId stream => ?_⟩
    · have hostKept := kept.hosts hostname host found
      have consistent := hostKept.sound.consistent
      have served (some_ : host.assignedStores ≠ []) :
          ∀ store ∈ host.perBalancerStores, store.suspended = false :=
        hostKept.sound.served fun none => some_ (List.map_eq_nil_iff.mp none)
      have divided := consistent.divided
      rw [List.append_nil] at divided
      constructor
      case receivers => exact hostKept.receivers
      case receivers_nodup => exact consistent.receivers_nodup
      case divided =>
        intro some_
        rw [← active_eq_of_served (served some_)]
        exact divided
      case nodup => exact consistent.nodup
      case active => exact served
      case suspended =>
        intro none balancer listed
        rw [none] at divided
        have inactive : host.activeLbIds = [] := divided.nil_eq.symm
        have passed := List.filter_eq_nil_iff.mp (List.map_eq_nil_iff.mp inactive) balancer listed
        simpa using passed
      case counts =>
        intro balancer listed
        exact counted hostname host found _ (List.mem_map_of_mem listed)
    · obtain ⟨_, host, found⟩ := kept.streams hostname lbId stream
      have hostKept := kept.hosts hostname host found
      exact ⟨host, found, hostKept.sound.consistent.known lbId
        ((hostKept.receivers lbId).mpr stream)⟩

theorem kept_created : Kept created .created :=
  ⟨nofun, nofun, fun _ _ => Int.le_refl 0⟩

theorem sound_created : PerHostStore.created.Sound := by
  refine ⟨⟨List.nodup_nil, List.nodup_nil, nofun, List.Perm.refl _, nofun, nofun⟩, ?_, ?_, nofun⟩
  · exact fun receives => absurd rfl receives
  · exact fun some_ => absurd rfl some_

theorem Kept.streamCreated (kept : Kept reporter store) (random : RandomElement)
    (hostname : String) {lbId : String} (loadKey : String) (new : lbId ∉ reporter.lbIds) (valid : lbId ≠ kInvalidLbId) :
    ∃ host host', host = (store.perHostStores.lookup hostname).getD .created ∧
      store.reportStreamCreated random hostname lbId loadKey =
        some { store with perHostStores := OrderedMap.assign hostname host' store.perHostStores } ∧
      host'.Sound ∧ host'.accounts = host.accounts ++ host.openedAccounts lbId loadKey ∧
        host'.receivers = host.receivers ++ [lbId] ∧
          (host.accounts = [] ↔ store.perHostStores.lookup hostname = none) ∧
            (∀ lbId ∈ host.lbIds, lbId ∈ reporter.lbIds ∨ lbId = kInvalidLbId) ∧
              (∀ lbId, lbId ∈ host.receivers ↔ (hostname, lbId) ∈ reporter.streams) ∧
                ∀ account ∈ host.accounts, 0 ≤ account.2.2.toInt := by
  have before : ((store.perHostStores.lookup hostname).getD .created).Sound ∧
      (((store.perHostStores.lookup hostname).getD .created).accounts = [] ↔
        store.perHostStores.lookup hostname = none) ∧
        (∀ lbId ∈ ((store.perHostStores.lookup hostname).getD .created).lbIds,
          lbId ∈ reporter.lbIds ∨ lbId = kInvalidLbId) ∧
          (∀ lbId, lbId ∈ ((store.perHostStores.lookup hostname).getD .created).receivers ↔
            (hostname, lbId) ∈ reporter.streams) ∧
            ∀ account ∈ ((store.perHostStores.lookup hostname).getD .created).accounts,
              0 ≤ account.2.2.toInt := by
    cases found : store.perHostStores.lookup hostname with
    | none =>
      refine ⟨sound_created, iff_of_true rfl rfl, nofun, fun id => ?_, nofun⟩
      refine iff_of_false List.not_mem_nil fun stream => ?_
      obtain ⟨_, host, found'⟩ := kept.streams hostname id stream
      rw [found] at found'
      cases found'
    | some host =>
      have hostKept := kept.hosts hostname host found
      exact ⟨hostKept.sound, iff_of_false hostKept.nonempty nofun, hostKept.lbIds,
        hostKept.receivers, hostKept.nonneg⟩
  obtain ⟨sound, empty, known, open_, nonneg⟩ := before
  have absent : lbId ∉ ((store.perHostStores.lookup hostname).getD .created).lbIds := by
    intro there
    rcases known lbId there with used | invalid
    · exact new used
    · exact valid invalid
  obtain ⟨host', made, sound', accounts, receivers⟩ :=
    PerHostStore.Sound.created random loadKey sound absent valid
  refine ⟨_, host', rfl, ?_, sound', accounts, receivers, empty, known, open_, nonneg⟩
  unfold LoadDataStore.reportStreamCreated
  simp only [Option.bind_eq_bind, made, Option.bind_some]

end Kept

end LoadReporter

end GrpcCore.Cpp
