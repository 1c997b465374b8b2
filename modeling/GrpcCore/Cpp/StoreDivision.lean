import GrpcCore.Cpp.LoadDataStore

/-!
# How the stores of a host are divided

The stores that are not suspended are divided among the receivers. While a stream is opened or
closed some of them are pending.
-/

namespace GrpcCore.Cpp

open Holders PerBalancerStore

namespace PerHostStore

def lbIds (host : PerHostStore) : List String := host.perBalancerStores.map PerBalancerStore.lbId

def activeLbIds (host : PerHostStore) : List String :=
  (host.perBalancerStores.filter fun store => !store.suspended).map PerBalancerStore.lbId

def receivers (host : PerHostStore) : List String := holders host.assignedStores

def loadKeys (host : PerHostStore) : List (String × String) :=
  host.perBalancerStores.map fun store => (store.lbId, store.loadKey)

def accounts (host : PerHostStore) : List (String × String × BitVec 64) :=
  host.perBalancerStores.map fun store => (store.lbId, store.loadKey, store.numCallsInProgress)

structure Consistent (host : PerHostStore) (pending : List String) : Prop where
  nodup : host.lbIds.Nodup
  receivers_nodup : host.receivers.Nodup
  known : ∀ receiver ∈ host.receivers, receiver ∈ host.lbIds
  divided : (items host.assignedStores ++ pending).Perm host.activeLbIds
  indexed : ∀ key lbIds, host.loadKeyToReceivingLbIds.lookup key = some lbIds →
    lbIds ≠ [] ∧ lbIds.Nodup ∧ ∀ lbId ∈ lbIds, lbId ∈ host.receivers ∧
      (lbId, key) ∈ host.loadKeys
  index : ∀ lbId key, (lbId, key) ∈ host.loadKeys → lbId ∈ host.receivers →
    ∃ lbIds, host.loadKeyToReceivingLbIds.lookup key = some lbIds ∧ lbId ∈ lbIds

section Stores

variable {host : PerHostStore} {lbId other : String} {change : PerBalancerStore → PerBalancerStore}

theorem lbIds_eq (host : PerHostStore) : host.lbIds = host.accounts.map Prod.fst := by
  unfold lbIds accounts
  rw [List.map_map]
  rfl

theorem lbIds_eq_loadKeys (host : PerHostStore) : host.lbIds = host.loadKeys.map Prod.fst := by
  unfold lbIds loadKeys
  rw [List.map_map]
  rfl

theorem loadKeys_eq (host : PerHostStore) :
    host.loadKeys = host.accounts.map fun account => (account.1, account.2.1) := by
  unfold loadKeys accounts
  rw [List.map_map]
  rfl

theorem active_nodup (nodup : host.lbIds.Nodup) : host.activeLbIds.Nodup :=
  List.Nodup.sublist (List.Sublist.map _ List.filter_sublist) nodup

theorem loadKey_unique (nodup : host.lbIds.Nodup) {key key' : String}
    (there : (lbId, key) ∈ host.loadKeys) (there' : (lbId, key') ∈ host.loadKeys) : key = key' := by
  rw [lbIds_eq_loadKeys] at nodup
  have same := List.inj_on_of_nodup_map nodup there there' rfl
  exact (Prod.mk.inj same).2

theorem find_of_mem (there : lbId ∈ host.lbIds) :
    ∃ store, host.findPerBalancerStore lbId = some store ∧ store ∈ host.perBalancerStores ∧
      store.lbId = lbId := by
  obtain ⟨store, membership, same⟩ := List.mem_map.mp there
  cases found : host.findPerBalancerStore lbId with
  | none =>
    have absent := List.find?_eq_none.mp found store membership
    rw [decide_eq_true same] at absent
    exact absurd rfl absent
  | some store' =>
    have is := List.find?_some found
    exact ⟨store', rfl, List.mem_of_find?_eq_some found, of_decide_eq_true is⟩

theorem accounts_modify (same : ∀ store, (change store).lbId = store.lbId ∧
    (change store).loadKey = store.loadKey ∧
      (change store).numCallsInProgress = store.numCallsInProgress) :
    (host.modifyStore lbId change).accounts = host.accounts := by
  unfold accounts modifyStore
  rw [List.map_map]
  refine List.map_congr_left fun store _ => ?_
  obtain ⟨name, key, count⟩ := same store
  by_cases here : store.lbId = lbId
  · simp [here, name, key, count]
  · simp [here]

theorem activeLbIds_suspend :
    (host.modifyStore lbId suspend).activeLbIds =
      host.activeLbIds.filter fun active => active ≠ lbId := by
  unfold activeLbIds modifyStore
  induction host.perBalancerStores with
  | nil => rfl
  | cons store rest ih =>
    rw [List.map_cons]
    by_cases here : store.lbId = lbId
    · rw [if_pos here, List.filter_cons_of_neg (by simp [suspend]), ih]
      cases suspended : store.suspended with
      | true => rw [List.filter_cons_of_neg (by simp [suspended])]
      | false =>
        rw [List.filter_cons_of_pos (by simp [suspended]), List.map_cons,
          List.filter_cons_of_neg (by simp [here])]
    · rw [if_neg here]
      cases suspended : store.suspended with
      | true =>
        rw [List.filter_cons_of_neg (by simp [suspended]),
          List.filter_cons_of_neg (by simp [suspended]), ih]
      | false =>
        rw [List.filter_cons_of_pos (by simp [suspended]),
          List.filter_cons_of_pos (by simp [suspended]), List.map_cons, List.map_cons,
          List.filter_cons_of_pos (by simp [here]), ih]

theorem activeLbIds_resume (nodup : host.lbIds.Nodup) (there : lbId ∈ host.lbIds)
    (suspended : lbId ∉ host.activeLbIds) :
    (host.modifyStore lbId resume).activeLbIds.Perm
      (lbId :: host.activeLbIds) := by
  unfold lbIds at nodup there
  unfold activeLbIds modifyStore at *
  generalize host.perBalancerStores = stores at *
  induction stores with
  | nil => cases there
  | cons store rest ih =>
    obtain ⟨first, others⟩ := List.nodup_cons.mp nodup
    by_cases here : store.lbId = lbId
    · have same : (rest.map fun store =>
          if store.lbId = lbId then store.resume else store) = rest := by
        refine (List.map_congr_left fun other membership => ?_).trans (List.map_id rest)
        refine if_neg fun clash => first ?_
        rw [here, ← clash]
        exact List.mem_map_of_mem membership
      cases active : store.suspended with
      | false =>
        refine absurd ?_ suspended
        rw [List.filter_cons_of_pos (by simp [active]), List.map_cons, here]
        exact List.mem_cons_self ..
      | true =>
        rw [List.map_cons, if_pos here, same,
          List.filter_cons_of_pos (by simp [resume]), List.map_cons,
          List.filter_cons_of_neg (by simp [active])]
        exact here ▸ List.Perm.refl _
    · have later : lbId ∈ rest.map PerBalancerStore.lbId := by
        rcases List.mem_cons.mp there with same | later
        · exact absurd same.symm here
        · exact later
      rw [List.map_cons, if_neg here]
      cases active : store.suspended with
      | true =>
        rw [List.filter_cons_of_neg (by simp [active])] at suspended ⊢
        rw [List.filter_cons_of_neg (by simp [active])]
        exact ih others later suspended
      | false =>
        rw [List.filter_cons_of_pos (by simp [active])] at suspended ⊢
        rw [List.filter_cons_of_pos (by simp [active])]
        have tail := ih others later fun membership =>
          suspended (List.mem_cons_of_mem _ membership)
        exact (tail.cons store.lbId).trans (List.Perm.swap ..)

theorem active_of_mem (nodup : host.lbIds.Nodup) {store : PerBalancerStore}
    (membership : store ∈ host.perBalancerStores) (active : store.lbId ∈ host.activeLbIds) :
    store.suspended = false := by
  obtain ⟨other, there, same⟩ := List.mem_map.mp active
  obtain ⟨there, running⟩ := List.mem_filter.mp there
  obtain rfl := List.inj_on_of_nodup_map nodup there membership same
  simpa using running

end Stores

end PerHostStore

end GrpcCore.Cpp
