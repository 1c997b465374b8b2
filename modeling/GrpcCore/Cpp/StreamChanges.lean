import GrpcCore.Cpp.StoreDivision
import GrpcCore.Lib.Run

/-!
# Opening and closing the streams of a host

What each operation on the stores of a host does, with no assertion of it failing.
-/

namespace GrpcCore.Cpp

open Holders OrderedMap PerBalancerStore

namespace PerHostStore

variable {host : PerHostStore} {lbId receiver : String} {pending : List String}

theorem assign_spec (consistent : Consistent host (lbId :: pending))
    (there : receiver ∈ host.receivers) :
    ∃ host', host.assignOrphanedStore lbId receiver = some host' ∧ Consistent host' pending ∧
      host'.perBalancerStores = host.perBalancerStores ∧ host'.receivers = host.receivers := by
  refine ⟨{ host with assignedStores := give lbId receiver host.assignedStores },
    if_pos there, ?_, rfl, holders_give⟩
  have nodup := (consistent.divided.nodup_iff).mpr (active_nodup consistent.nodup)
  have new : lbId ∉ items host.assignedStores := fun membership =>
    List.disjoint_of_nodup_append nodup membership (List.mem_cons_self ..)
  have receivers : receivers { host with assignedStores := give lbId receiver host.assignedStores } =
      host.receivers := holders_give
  have given := items_give consistent.receivers_nodup there new
  constructor
  case nodup => exact consistent.nodup
  case receivers_nodup => exact receivers ▸ consistent.receivers_nodup
  case known => exact receivers ▸ consistent.known
  case divided =>
    refine List.Perm.trans ?_ consistent.divided
    exact (given.append_right pending).trans List.perm_middle.symm
  case indexed =>
    rw [receivers]
    exact consistent.indexed
  case index =>
    rw [receivers]
    exact consistent.index

theorem setUp_spec (loadKey : String) (consistent : Consistent host []) (new : lbId ∉ host.lbIds) :
    ∃ host', host.setUpForNewLbId lbId loadKey = some host' ∧ Consistent host' [] ∧
      host'.perBalancerStores = host.perBalancerStores ++ [⟨lbId, loadKey, [], 0, false⟩] ∧
      host'.assignedStores = host.assignedStores ++ [(lbId, [lbId])] := by
  have notReceiving : lbId ∉ host.receivers := fun there => new (consistent.known lbId there)
  have absent : host.findPerBalancerStore lbId = none := by
    refine List.find?_eq_none.mpr fun store membership same => new ?_
    exact of_decide_eq_true same ▸ List.mem_map_of_mem membership
  refine ⟨_, if_neg ?_, ?_, rfl, rfl⟩
  · rw [absent]
    exact not_or.mpr ⟨Bool.false_ne_true, notReceiving⟩
  have lookup (key : String) :
      (modify loadKey (List.insert lbId)
        (touch loadKey [] host.loadKeyToReceivingLbIds)).lookup key =
          if key = loadKey then
            some (((host.loadKeyToReceivingLbIds.lookup loadKey).getD []).insert lbId)
          else host.loadKeyToReceivingLbIds.lookup key := by
    rw [lookup_modify, lookup_touch, lookup_touch, if_pos rfl]
    by_cases same : key = loadKey
    · rw [if_pos same, if_pos same]
      rfl
    · rw [if_neg same, if_neg same, if_neg same]
  have old {id key} (there : (id, key) ∈ host.loadKeys) : id ∈ host.lbIds := by
    rw [lbIds_eq_loadKeys]
    exact List.mem_map_of_mem there
  constructor
  case nodup =>
    unfold lbIds at new ⊢
    rw [List.map_append]
    exact List.nodup_append_comm.mp (List.nodup_cons.mpr ⟨new, consistent.nodup⟩)
  case receivers_nodup =>
    unfold receivers holders at notReceiving ⊢
    rw [List.map_append]
    exact List.nodup_append_comm.mp (List.nodup_cons.mpr ⟨notReceiving, consistent.receivers_nodup⟩)
  case known =>
    intro receiver there
    unfold receivers holders lbIds at *
    rw [List.map_append] at there ⊢
    rcases List.mem_append.mp there with before | here
    · exact List.mem_append_left _ (consistent.known receiver before)
    · exact List.mem_append_right _ here
  case divided =>
    have before := consistent.divided
    unfold items activeLbIds at *
    rw [List.append_nil] at before ⊢
    rw [List.flatMap_append, List.filter_append, List.map_append]
    exact before.append_right _
  case indexed =>
    intro key ids found
    rw [lookup] at found
    unfold receivers holders loadKeys at *
    rw [List.map_append, List.map_append]
    split at found
    case isTrue same =>
      subst same
      obtain rfl := Option.some.inj found
      cases before : host.loadKeyToReceivingLbIds.lookup key with
      | none =>
        refine ⟨by simp, by simp, fun id membership => ?_⟩
        obtain rfl : id = lbId := by simpa using membership
        exact ⟨List.mem_append_right _ (List.mem_cons_self ..),
          List.mem_append_right _ (List.mem_cons_self ..)⟩
      | some before' =>
        obtain ⟨nonempty, nodup, all⟩ := consistent.indexed key before' before
        refine ⟨?_, nodup.insert, fun id membership => ?_⟩
        · exact List.ne_nil_of_mem List.mem_insert_self
        · rcases List.mem_insert_iff.mp membership with rfl | there
          · exact ⟨List.mem_append_right _ (List.mem_cons_self ..),
              List.mem_append_right _ (List.mem_cons_self ..)⟩
          · exact (all id there).imp (List.mem_append_left _) (List.mem_append_left _)
    case isFalse other =>
      obtain ⟨nonempty, nodup, all⟩ := consistent.indexed key ids found
      refine ⟨nonempty, nodup, fun id there => ?_⟩
      exact (all id there).imp (List.mem_append_left _) (List.mem_append_left _)
  case index =>
    intro id key keyed receives
    rw [lookup]
    unfold receivers holders loadKeys at *
    rw [List.map_append] at receives keyed
    rcases List.mem_append.mp keyed with before | here
    · have was := old before
      rcases List.mem_append.mp receives with received | now
      · obtain ⟨ids, found, there⟩ := consistent.index id key before received
        split
        case isTrue same =>
          rw [same] at found
          rw [found]
          exact ⟨_, rfl, List.mem_insert_of_mem there⟩
        case isFalse other => exact ⟨ids, found, there⟩
      · obtain rfl := List.mem_singleton.mp now
        exact absurd was new
    · obtain ⟨rfl, rfl⟩ : id = lbId ∧ key = loadKey := by simpa using here
      rw [if_pos rfl]
      exact ⟨_, rfl, List.mem_insert_self⟩

theorem Consistent.stores {pending' : List String} (consistent : Consistent host pending)
    {host' : PerHostStore} (loadKeys : host'.loadKeys = host.loadKeys)
    (assigned : host'.assignedStores = host.assignedStores)
    (index : host'.loadKeyToReceivingLbIds = host.loadKeyToReceivingLbIds)
    (divided : (items host.assignedStores ++ pending').Perm host'.activeLbIds) :
    Consistent host' pending' := by
  have lbIds : host'.lbIds = host.lbIds := by rw [lbIds_eq_loadKeys, lbIds_eq_loadKeys, loadKeys]
  have receivers : host'.receivers = host.receivers := by
    unfold PerHostStore.receivers
    rw [assigned]
  constructor
  case nodup => exact lbIds ▸ consistent.nodup
  case receivers_nodup => exact receivers ▸ consistent.receivers_nodup
  case known =>
    rw [receivers, lbIds]
    exact consistent.known
  case divided => exact assigned ▸ divided
  case indexed =>
    rw [index, receivers, loadKeys]
    exact consistent.indexed
  case index =>
    rw [index, receivers, loadKeys]
    exact consistent.index

theorem Consistent.pending_mem (consistent : Consistent host pending) (waits : lbId ∈ pending) :
    lbId ∈ host.lbIds := by
  have active := consistent.divided.subset (List.mem_append_right _ waits)
  obtain ⟨store, membership, same⟩ := List.mem_map.mp active
  exact same ▸ List.mem_map_of_mem (List.mem_filter.mp membership).1

structure Keeps (host host' : PerHostStore) : Prop where
  accounts : host'.accounts = host.accounts
  receivers : host'.receivers = host.receivers
  stores : host.receivers ≠ [] → host'.perBalancerStores = host.perBalancerStores

theorem reassign_spec (random : RandomElement) (consistent : Consistent host (lbId :: pending)) :
    ∃ host', host.reassignStore random lbId = some host' ∧ Consistent host' pending ∧
      Keeps host host' := by
  have known := consistent.pending_mem (List.mem_cons_self ..)
  obtain ⟨store, found, membership, named⟩ := find_of_mem known
  have assigns (container : List String) (nonempty : container ≠ [])
      (receive : ∀ receiver ∈ container, receiver ∈ host.receivers) :
      ∃ host', (randomElement random lbId container).bind (host.assignOrphanedStore lbId) =
        some host' ∧ Consistent host' pending ∧ Keeps host host' := by
    have there := receive _ (random.choose_mem lbId container nonempty)
    obtain ⟨host', assigned, consistent', stores, receivers⟩ := assign_spec consistent there
    unfold randomElement
    rw [if_neg nonempty]
    refine ⟨host', assigned, consistent', ?_, receivers, fun _ => stores⟩
    unfold accounts
    rw [stores]
  unfold reassignStore
  rw [found]
  simp only [Option.bind_eq_bind, Option.bind_some]
  cases index : host.loadKeyToReceivingLbIds.lookup store.loadKey with
  | some receivingLbIds =>
    obtain ⟨nonempty, _, all⟩ := consistent.indexed _ _ index
    exact assigns receivingLbIds nonempty fun receiver there => (all receiver there).1
  | none =>
    by_cases alone : host.assignedStores = []
    · rw [if_pos alone]
      have accounts : (host.modifyStore lbId suspend).accounts = host.accounts :=
        accounts_modify fun _ => ⟨rfl, rfl, rfl⟩
      refine ⟨_, rfl, consistent.stores ?_ rfl rfl ?_, accounts, rfl, fun receives => ?_⟩
      · rw [loadKeys_eq, accounts, ← loadKeys_eq]
      · have divided := consistent.divided
        have nodup := divided.nodup_iff.mpr (active_nodup consistent.nodup)
        have kept := divided.filter fun active => active ≠ lbId
        rw [activeLbIds_suspend]
        rw [alone] at nodup kept ⊢
        obtain ⟨first, -⟩ := List.nodup_cons.mp nodup
        refine List.Perm.trans (List.Perm.of_eq ?_) kept
        refine ((List.filter_cons_of_neg (by simp)).trans ?_).symm
        refine List.filter_eq_self.mpr fun other there => decide_eq_true ?_
        rintro rfl
        exact first there
      · refine absurd ?_ receives
        unfold receivers
        rw [alone]
        rfl
    · rw [if_neg alone]
      refine assigns _ (fun none => alone ?_) fun receiver there => there
      exact List.map_eq_nil_iff.mp none

theorem reassignAll_spec (random : RandomElement) (consistent : Consistent host pending) :
    ∃ host', pending.foldlM (fun host orphanedStore => host.reassignStore random orphanedStore)
        host = some host' ∧ Consistent host' [] ∧ Keeps host host' := by
  induction pending generalizing host with
  | nil => exact ⟨host, rfl, consistent, rfl, rfl, fun _ => rfl⟩
  | cons lbId rest ih =>
    obtain ⟨next, reassigned, consistent', keeps⟩ := reassign_spec random consistent
    obtain ⟨host', all, final, keeps'⟩ := ih consistent'
    refine ⟨host', ?_, final, ?_⟩
    · rw [List.foldlM_cons, reassigned]
      exact all
    · constructor
      case accounts => exact keeps'.accounts.trans keeps.accounts
      case receivers => exact keeps'.receivers.trans keeps.receivers
      case stores =>
        intro receives
        rw [keeps'.stores (keeps.receivers ▸ receives), keeps.stores receives]

def Served (host : PerHostStore) : Prop :=
  host.receivers ≠ [] → ∀ store ∈ host.perBalancerStores, store.suspended = false

theorem eraseKeyValue_spec {map : List (String × List String)} {key value : String}
    {set : List String} (found : map.lookup key = some set) (there : value ∈ set) :
    ∃ map', eraseKeyValue map key value = some map' ∧ ∀ other, map'.lookup other =
      if other = key then (if set.erase value = [] then none else some (set.erase value))
      else map.lookup other := by
  unfold eraseKeyValue
  rw [found]
  simp only [Option.bind_eq_bind, Option.bind_some, if_pos there]
  by_cases last : set.erase value = []
  · simp only [if_pos last]
    exact ⟨_, rfl, fun other => lookup_erase⟩
  · simp only [if_neg last]
    refine ⟨_, rfl, fun other => ?_⟩
    rw [lookup_modify, found]
    rfl

theorem closed_spec (random : RandomElement) (consistent : Consistent host [])
    (served : Served host) (open_ : lbId ∈ host.receivers) :
    ∃ host', host.reportStreamClosed random lbId = some host' ∧ Consistent host' [] ∧
      Served host' ∧ host'.accounts = host.accounts ∧
        host'.receivers = host.receivers.filter fun receiver => receiver ≠ lbId := by
  obtain ⟨gone, found, membership, named⟩ := find_of_mem (consistent.known lbId open_)
  have keyed : (lbId, gone.loadKey) ∈ host.loadKeys := named ▸ List.mem_map_of_mem membership
  obtain ⟨ids, indexed, there⟩ := consistent.index _ _ keyed open_
  obtain ⟨keyMap, erased, lookup⟩ := eraseKeyValue_spec indexed there
  have receivers : (holders (drop lbId host.assignedStores)) =
      host.receivers.filter fun receiver => receiver ≠ lbId := holders_drop
  have moved : Consistent { host with
      loadKeyToReceivingLbIds := keyMap, assignedStores := drop lbId host.assignedStores }
      ((host.assignedStores.lookup lbId).getD []) := by
    constructor
    case nodup => exact consistent.nodup
    case receivers_nodup =>
      unfold PerHostStore.receivers
      rw [receivers]
      exact consistent.receivers_nodup.filter _
    case known =>
      unfold PerHostStore.receivers
      rw [receivers]
      exact fun receiver there => consistent.known receiver (List.mem_filter.mp there).1
    case divided =>
      have divided := consistent.divided
      rw [List.append_nil] at divided
      refine List.perm_append_comm.trans ?_
      exact (items_drop consistent.receivers_nodup).symm.trans divided
    case indexed =>
      intro key set found
      unfold PerHostStore.receivers
      rw [lookup] at found
      rw [receivers]
      split at found
      case isTrue same =>
        obtain ⟨more, rfl⟩ := Machine.guarded_taken found
        obtain ⟨_, nodup, all⟩ := consistent.indexed _ _ indexed
        refine ⟨more, nodup.erase _, fun id there => ?_⟩
        obtain ⟨ne, there⟩ := nodup.mem_erase_iff.mp there
        obtain ⟨receives, keyed'⟩ := all id there
        exact ⟨List.mem_filter.mpr ⟨receives, decide_eq_true ne⟩, same ▸ keyed'⟩
      case isFalse other =>
        obtain ⟨nonempty, nodup, all⟩ := consistent.indexed _ _ found
        refine ⟨nonempty, nodup, fun id there => ?_⟩
        obtain ⟨receives, keyed'⟩ := all id there
        refine ⟨List.mem_filter.mpr ⟨receives, decide_eq_true ?_⟩, keyed'⟩
        rintro rfl
        exact other (loadKey_unique consistent.nodup keyed' keyed)
    case index =>
      intro id key keyed' receives
      unfold PerHostStore.receivers at receives
      rw [receivers] at receives
      obtain ⟨receives, ne⟩ := List.mem_filter.mp receives
      obtain ⟨set, found, within⟩ := consistent.index id key keyed' receives
      rw [lookup]
      split
      case isTrue same =>
        rw [same] at found
        obtain rfl := Option.mem_unique indexed found
        have left := (List.mem_erase_of_ne (of_decide_eq_true ne)).mpr within
        rw [if_neg (List.ne_nil_of_mem left)]
        exact ⟨_, rfl, left⟩
      case isFalse other => exact ⟨set, found, within⟩
  obtain ⟨host', all, final, keeps⟩ := reassignAll_spec random moved
  refine ⟨host', ?_, final, ?_, keeps.accounts, keeps.receivers.trans receivers⟩
  · unfold reportStreamClosed
    rw [found]
    simp only [Option.bind_eq_bind, Option.bind_some, erased]
    exact all
  · intro receives
    rw [keeps.receivers] at receives
    rw [keeps.stores receives]
    exact served (List.ne_nil_of_mem open_)

theorem resumeAndAssign_spec (consistent : Consistent host []) (open_ : receiver ∈ host.receivers)
    (known : lbId ∈ host.lbIds) (suspended : lbId ∉ host.activeLbIds) :
    ∃ host', host.resumeAndAssign receiver lbId = some host' ∧ Consistent host' [] ∧
      host'.accounts = host.accounts ∧ host'.receivers = host.receivers ∧
        host'.activeLbIds.Perm (lbId :: host.activeLbIds) := by
  have resumed := activeLbIds_resume consistent.nodup known suspended
  have accounts : (host.modifyStore lbId resume).accounts = host.accounts :=
    accounts_modify fun _ => ⟨rfl, rfl, rfl⟩
  have divided := consistent.divided
  rw [List.append_nil] at divided
  have waiting : Consistent (host.modifyStore lbId resume) [lbId] := by
    refine consistent.stores ?_ rfl rfl ?_
    · rw [loadKeys_eq, accounts, ← loadKeys_eq]
    exact List.perm_append_comm.trans ((divided.cons lbId).trans resumed.symm)
  obtain ⟨host', assigned, final, stores, receivers⟩ := assign_spec waiting open_
  refine ⟨host', assigned, final, ?_, receivers, ?_⟩
  · unfold PerHostStore.accounts at accounts ⊢
    rw [stores, accounts]
  · unfold activeLbIds at resumed ⊢
    rw [stores]
    exact resumed

theorem resumeAll_spec {rest : List String} (consistent : Consistent host [])
    (open_ : receiver ∈ host.receivers) (nodup : rest.Nodup)
    (waiting : ∀ lbId ∈ rest, lbId ∈ host.lbIds ∧ lbId ∉ host.activeLbIds) :
    ∃ host', rest.foldlM (fun host lbId => host.resumeAndAssign receiver lbId) host = some host' ∧
      Consistent host' [] ∧ host'.accounts = host.accounts ∧ host'.receivers = host.receivers ∧
        ∀ lbId, lbId ∈ host.activeLbIds ∨ lbId ∈ rest → lbId ∈ host'.activeLbIds := by
  induction rest generalizing host with
  | nil =>
    refine ⟨host, rfl, consistent, rfl, rfl, fun lbId active => ?_⟩
    exact active.resolve_right (List.not_mem_nil)
  | cons lbId rest ih =>
    obtain ⟨first, others⟩ := List.nodup_cons.mp nodup
    obtain ⟨here, later⟩ := List.forall_mem_cons.mp waiting
    obtain ⟨next, resumed, consistent', accounts, receivers, active⟩ :=
      resumeAndAssign_spec consistent open_ here.1 here.2
    have waiting' : ∀ other ∈ rest, other ∈ next.lbIds ∧ other ∉ next.activeLbIds := by
      intro other there
      obtain ⟨known, suspended⟩ := later other there
      rw [lbIds_eq, accounts, ← lbIds_eq]
      refine ⟨known, fun now => ?_⟩
      rcases List.mem_cons.mp (active.subset now) with rfl | before
      · exact first there
      · exact suspended before
    obtain ⟨host', all, final, accounts', receivers', active'⟩ :=
      ih consistent' (receivers ▸ open_) others waiting'
    refine ⟨host', ?_, final, accounts'.trans accounts, receivers'.trans receivers, ?_⟩
    · rw [List.foldlM_cons, resumed]
      exact all
    · intro other is
      refine active' other ?_
      rcases is with before | there
      · exact .inl (active.symm.subset (List.mem_cons_of_mem _ before))
      · rcases List.mem_cons.mp there with rfl | there
        · exact .inl (active.symm.subset (List.mem_cons_self ..))
        · exact .inr there

/-- The stores of a host after a stream has been set up for it, and those that nobody received
adopted. -/
theorem adopted_spec (loadKey : String) (consistent : Consistent host []) (served : Served host)
    (new : lbId ∉ host.lbIds) :
    ∃ host', (host.setUpForNewLbId lbId loadKey).bind
        (fun host => host.adoptOrphanedStores lbId) = some host' ∧ Consistent host' [] ∧
      (∀ store ∈ host'.perBalancerStores, store.suspended = false) ∧
        host'.accounts = host.accounts ++ [(lbId, loadKey, 0)] ∧
          host'.receivers = host.receivers ++ [lbId] := by
  obtain ⟨next, setUp, consistent', stores, assigned⟩ :=
    setUp_spec loadKey consistent new
  have accounts : next.accounts = host.accounts ++ [(lbId, loadKey, 0)] := by
    unfold PerHostStore.accounts
    rw [stores, List.map_append]
    rfl
  have receivers : next.receivers = host.receivers ++ [lbId] := by
    unfold PerHostStore.receivers holders
    rw [assigned, List.map_append]
    rfl
  have open_ : lbId ∈ next.receivers := by
    rw [receivers]
    exact List.mem_append_right _ (List.mem_cons_self ..)
  have active : lbId ∈ next.activeLbIds := by
    unfold activeLbIds
    rw [stores, List.filter_append, List.map_append]
    exact List.mem_append_right _ (List.mem_cons_self ..)
  rw [setUp, Option.bind_some]
  unfold adoptOrphanedStores
  by_cases only : next.assignedStores.length = 1
  · rw [if_pos only]
    -- there was no receiver, and every other store is suspended
    have none : host.assignedStores = [] := by
      rw [assigned, List.length_append] at only
      exact List.eq_nil_of_length_eq_zero (by simpa using only)
    have inactive : host.activeLbIds = [] := by
      have divided := consistent.divided
      rw [none] at divided
      exact divided.nil_eq.symm
    have activeOnly : ∀ other ∈ next.activeLbIds, other = lbId := by
      intro other there
      unfold activeLbIds at there inactive
      rw [stores, List.filter_append, List.map_append, inactive] at there
      exact List.mem_singleton.mp there
    have waiting : ∀ other ∈ next.lbIds.filter (· ≠ lbId),
        other ∈ next.lbIds ∧ other ∉ next.activeLbIds := by
      intro other there
      obtain ⟨known, ne⟩ := List.mem_filter.mp there
      exact ⟨known, fun active => of_decide_eq_true ne (activeOnly other active)⟩
    obtain ⟨host', all, final, accounts', receivers', active'⟩ :=
      resumeAll_spec consistent' open_ (consistent'.nodup.filter _) waiting
    refine ⟨host', all, final, fun store there => ?_, accounts'.trans accounts,
      receivers'.trans receivers⟩
    refine active_of_mem final.nodup there (active' store.lbId ?_)
    have known : store.lbId ∈ next.lbIds := by
      rw [lbIds_eq, ← accounts', ← lbIds_eq]
      exact List.mem_map_of_mem there
    by_cases same : store.lbId = lbId
    · exact .inl (same ▸ active)
    · exact .inr (List.mem_filter.mpr ⟨known, decide_eq_true same⟩)
  · rw [if_neg only]
    refine ⟨next, rfl, consistent', fun store there => ?_, accounts, receivers⟩
    rw [stores] at there
    rcases List.mem_append.mp there with before | now
    · refine served (fun none => only ?_) store before
      rw [assigned, List.length_append, List.map_eq_nil_iff.mp none]
      rfl
    · rw [List.mem_singleton.mp now]

/-- The stores of a host between two operations. -/
structure Sound (host : PerHostStore) : Prop where
  consistent : Consistent host []
  served : Served host
  invalid_known : host.accounts ≠ [] → kInvalidLbId ∈ host.lbIds
  invalid_closed : kInvalidLbId ∉ host.receivers

theorem Sound.closed (random : RandomElement) (sound : Sound host)
    (open_ : lbId ∈ host.receivers) :
    ∃ host', host.reportStreamClosed random lbId = some host' ∧ Sound host' ∧
      host'.accounts = host.accounts ∧
        host'.receivers = host.receivers.filter fun receiver => receiver ≠ lbId := by
  obtain ⟨host', closed, consistent, served, accounts, receivers⟩ :=
    closed_spec random sound.consistent sound.served open_
  refine ⟨host', closed, ⟨consistent, served, ?_, ?_⟩, accounts, receivers⟩
  · rw [lbIds_eq, accounts, ← lbIds_eq]
    exact sound.invalid_known
  · rw [receivers]
    exact fun there => sound.invalid_closed (List.mem_filter.mp there).1

/-- The accounts that are opened with a stream: its own, and with the first one that of the
invalid LB ID. -/
def openedAccounts (host : PerHostStore) (lbId loadKey : String) :
    List (String × String × BitVec 64) :=
  if host.accounts = [] then [(lbId, loadKey, 0), (kInvalidLbId, "", 0)]
  else [(lbId, loadKey, 0)]

theorem Sound.created (random : RandomElement) (loadKey : String) (sound : Sound host)
    (new : lbId ∉ host.lbIds) (valid : lbId ≠ kInvalidLbId) :
    ∃ host', host.reportStreamCreated random lbId loadKey = some host' ∧ Sound host' ∧
      host'.accounts = host.accounts ++ host.openedAccounts lbId loadKey ∧
        host'.receivers = host.receivers ++ [lbId] := by
  obtain ⟨next, adopted, consistent, active, accounts, receivers⟩ :=
    adopted_spec loadKey sound.consistent sound.served new
  have created : host.reportStreamCreated random lbId loadKey = next.adoptInvalidLbId random := by
    obtain ⟨middle, setUp, adopts⟩ := Option.bind_eq_some_iff.mp adopted
    unfold reportStreamCreated
    rw [if_neg valid, setUp]
    simp only [Option.bind_eq_bind, Option.bind_some, adopts]
  have length : next.perBalancerStores.length = host.accounts.length + 1 := by
    have same := congrArg List.length accounts
    unfold PerHostStore.accounts at same ⊢
    rwa [List.length_append, List.length_map] at same
  rw [created]
  unfold adoptInvalidLbId openedAccounts
  by_cases first : host.accounts = []
  · -- the first balancer adopts the invalid LB ID
    have noReceiver : host.receivers = [] := by
      refine List.eq_nil_iff_forall_not_mem.mpr fun receiver there => ?_
      have known := sound.consistent.known receiver there
      rw [lbIds_eq, first] at known
      cases known
    rw [if_pos first, if_pos (by rw [length, first]; rfl)]
    have unknown : kInvalidLbId ∉ next.lbIds := by
      rw [lbIds_eq, accounts, first]
      exact fun there => valid (List.mem_singleton.mp there).symm
    obtain ⟨both, setUp, consistent', stores, assigned⟩ :=
      setUp_spec "" consistent unknown
    have accounts' : both.accounts = next.accounts ++ [(kInvalidLbId, "", 0)] := by
      unfold PerHostStore.accounts
      rw [stores, List.map_append]
      rfl
    have receivers' : both.receivers = next.receivers ++ [kInvalidLbId] := by
      unfold PerHostStore.receivers holders
      rw [assigned, List.map_append]
      rfl
    have served : Served both := by
      intro _ store there
      rw [stores] at there
      rcases List.mem_append.mp there with before | now
      · exact active store before
      · rw [List.mem_singleton.mp now]
    have open_ : kInvalidLbId ∈ both.receivers := by
      rw [receivers']
      exact List.mem_append_right _ (List.mem_cons_self ..)
    obtain ⟨host', closed, final, served', accounts'', receivers''⟩ :=
      closed_spec random consistent' served open_
    have left : host'.receivers = host.receivers ++ [lbId] := by
      rw [receivers'', receivers', receivers, noReceiver]
      simp [valid]
    have all : host'.accounts = host.accounts ++ [(lbId, loadKey, 0), (kInvalidLbId, "", 0)] := by
      rw [accounts'', accounts', accounts, List.append_assoc]
      rfl
    rw [setUp]
    refine ⟨host', closed, ⟨final, served', fun _ => ?_, ?_⟩, all, left⟩
    · rw [lbIds_eq, all]
      simp
    · rw [left, noReceiver]
      exact fun there => valid (List.mem_singleton.mp there).symm
  · have some_ : host.accounts.length ≠ 0 := fun none =>
      first (List.eq_nil_of_length_eq_zero none)
    rw [if_neg first, if_neg (by omega)]
    refine ⟨next, rfl, ⟨consistent, fun _ => active, fun _ => ?_, ?_⟩, accounts, receivers⟩
    · have known := sound.invalid_known first
      rw [lbIds_eq] at known
      rw [lbIds_eq, accounts, List.map_append]
      exact List.mem_append_left _ known
    · rw [receivers]
      intro there
      rcases List.mem_append.mp there with before | now
      · exact sound.invalid_closed before
      · exact valid (List.mem_singleton.mp now).symm

end PerHostStore

end GrpcCore.Cpp
