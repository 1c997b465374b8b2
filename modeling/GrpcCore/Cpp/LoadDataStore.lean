import GrpcCore.Lib.Holders
import GrpcCore.Lib.OrderedMap

/-!
# The load data of a server

The stores of the load reporter: one for each balancer of a host, assigned to the report
streams that receive its data. An operation is `none` where an assertion of it fails.
-/

namespace GrpcCore.Cpp

open Holders

def kInvalidLbId : String := "<INVALID_LBID_238dsb234890rb>"

structure LoadRecordKey where
  lbId : String
  lbTag : String
  userId : String
  clientIpHex : String
deriving DecidableEq

structure LoadRecordValue where
  startCount : BitVec 64
  okCount : BitVec 64
  errorCount : BitVec 64
  bytesSent : BitVec 64
  bytesRecv : BitVec 64
  latencyMs : BitVec 64
deriving DecidableEq

namespace LoadRecordValue

def mergeFrom (value other : LoadRecordValue) : LoadRecordValue where
  startCount := value.startCount + other.startCount
  okCount := value.okCount + other.okCount
  errorCount := value.errorCount + other.errorCount
  bytesSent := value.bytesSent + other.bytesSent
  bytesRecv := value.bytesRecv + other.bytesRecv
  latencyMs := value.latencyMs + other.latencyMs

/-- As a signed integer, what the record adds to the calls in progress. -/
def numCallsInProgressDelta (value : LoadRecordValue) : BitVec 64 :=
  value.startCount - value.okCount - value.errorCount

end LoadRecordValue

/-- `load_record_map_[key].MergeFrom(value)`. -/
def mergeRecord (key : LoadRecordKey) (value : LoadRecordValue) :
    List (LoadRecordKey × LoadRecordValue) → List (LoadRecordKey × LoadRecordValue)
  | [] => [(key, value)]
  | (head, old) :: rest =>
    if head = key then (head, old.mergeFrom value) :: rest
    else (head, old) :: mergeRecord key value rest

structure PerBalancerStore where
  lbId : String
  loadKey : String
  loadRecordMap : List (LoadRecordKey × LoadRecordValue)
  numCallsInProgress : BitVec 64
  suspended : Bool
deriving DecidableEq

namespace PerBalancerStore

variable (store : PerBalancerStore)

def mergeRow (key : LoadRecordKey) (value : LoadRecordValue) : Option PerBalancerStore :=
  let numCallsInProgress := store.numCallsInProgress + value.numCallsInProgressDelta
  if 0 ≤ numCallsInProgress.toInt then
    some { store with
      loadRecordMap :=
        if store.suspended then store.loadRecordMap else mergeRecord key value store.loadRecordMap
      numCallsInProgress }
  else none

def suspend : PerBalancerStore := { store with suspended := true, loadRecordMap := [] }

def resume : PerBalancerStore := { store with suspended := false }

end PerBalancerStore

/-- The elements that `RandomElement` returns, for each store that is looked at. -/
structure RandomElement where
  choose : String → List String → String
  choose_mem : ∀ store container, container ≠ [] → choose store container ∈ container

structure PerHostStore where
  loadKeyToReceivingLbIds : List (String × List String)
  perBalancerStores : List PerBalancerStore
  assignedStores : List (String × List String)
deriving DecidableEq

namespace PerHostStore

def created : PerHostStore := ⟨[], [], []⟩

variable (host : PerHostStore)

def findPerBalancerStore (lbId : String) : Option PerBalancerStore :=
  host.perBalancerStores.find? fun store => store.lbId = lbId

def modifyStore (lbId : String) (change : PerBalancerStore → PerBalancerStore) : PerHostStore :=
  { host with
    perBalancerStores := host.perBalancerStores.map fun store =>
      if store.lbId = lbId then change store else store }

def assignOrphanedStore (orphanedStore newReceiver : String) : Option PerHostStore :=
  if newReceiver ∈ holders host.assignedStores then
    some { host with assignedStores := give orphanedStore newReceiver host.assignedStores }
  else none

def setUpForNewLbId (lbId loadKey : String) : Option PerHostStore :=
  if (host.findPerBalancerStore lbId).isSome ∨ lbId ∈ holders host.assignedStores then none
  else
    some {
      loadKeyToReceivingLbIds :=
        OrderedMap.modify loadKey (List.insert lbId)
          (OrderedMap.touch loadKey [] host.loadKeyToReceivingLbIds)
      perBalancerStores := host.perBalancerStores ++ [⟨lbId, loadKey, [], 0, false⟩]
      assignedStores := host.assignedStores ++ [(lbId, [lbId])] }

def resumeAndAssign (newReceiver orphanedStore : String) : Option PerHostStore :=
  (host.modifyStore orphanedStore PerBalancerStore.resume).assignOrphanedStore orphanedStore
    newReceiver

/-- The only stream of a host takes over the stores that nobody receives. -/
def adoptOrphanedStores (lbId : String) : Option PerHostStore :=
  if host.assignedStores.length = 1 then
    ((host.perBalancerStores.map PerBalancerStore.lbId).filter (· ≠ lbId)).foldlM
      (fun host otherLbId => host.resumeAndAssign lbId otherLbId) host
  else some host

/-- Erases a value from the set of a key, and the key with its last value. -/
def eraseKeyValue (map : List (String × List String)) (key value : String) :
    Option (List (String × List String)) := do
  let set ← map.lookup key
  if value ∈ set then
    if set.erase value = [] then some (OrderedMap.erase key map)
    else some (OrderedMap.modify key (fun set => set.erase value) map)
  else none

def randomElement (random : RandomElement) (store : String) (container : List String) :
    Option String :=
  if container = [] then none else some (random.choose store container)

def reassignStore (random : RandomElement) (orphanedStore : String) : Option PerHostStore := do
  let store ← host.findPerBalancerStore orphanedStore
  match host.loadKeyToReceivingLbIds.lookup store.loadKey with
  | some receivingLbIds =>
    (randomElement random orphanedStore receivingLbIds).bind
      (host.assignOrphanedStore orphanedStore)
  | none =>
    if host.assignedStores = [] then
      some (host.modifyStore orphanedStore PerBalancerStore.suspend)
    else
      (randomElement random orphanedStore (holders host.assignedStores)).bind
        (host.assignOrphanedStore orphanedStore)

def reportStreamClosed (random : RandomElement) (lbId : String) : Option PerHostStore := do
  let gone ← host.findPerBalancerStore lbId
  let loadKeyToReceivingLbIds ← eraseKeyValue host.loadKeyToReceivingLbIds gone.loadKey lbId
  let orphanedStores := (host.assignedStores.lookup lbId).getD []
  orphanedStores.foldlM (fun host orphanedStore => host.reassignStore random orphanedStore)
    { host with loadKeyToReceivingLbIds, assignedStores := drop lbId host.assignedStores }

def adoptInvalidLbId (random : RandomElement) : Option PerHostStore :=
  if host.perBalancerStores.length = 1 then
    (host.setUpForNewLbId kInvalidLbId "").bind fun host =>
      host.reportStreamClosed random kInvalidLbId
  else some host

def reportStreamCreated (random : RandomElement) (lbId loadKey : String) :
    Option PerHostStore :=
  if lbId = kInvalidLbId then none
  else do
    let host ← host.setUpForNewLbId lbId loadKey
    let host ← host.adoptOrphanedStores lbId
    host.adoptInvalidLbId random

end PerHostStore

structure LoadDataStore where
  perHostStores : List (String × PerHostStore)
  unknownBalancerIdTrackers : List (String × BitVec 64)
deriving DecidableEq

namespace LoadDataStore

def created : LoadDataStore := ⟨[], []⟩

variable (store : LoadDataStore)

def findPerBalancerStore (hostname lbId : String) : Option PerBalancerStore :=
  (store.perHostStores.lookup hostname).bind fun host => host.findPerBalancerStore lbId

def isTrackedUnknownBalancerId (lbId : String) : Bool :=
  (store.unknownBalancerIdTrackers.lookup lbId).isSome

def trackUnknownBalancerId (lbId : String) (inProgressDelta : BitVec 64) : LoadDataStore :=
  if inProgressDelta = 0 then store
  else
    { store with
      unknownBalancerIdTrackers :=
        match store.unknownBalancerIdTrackers.lookup lbId with
        | none => OrderedMap.emplace lbId inProgressDelta store.unknownBalancerIdTrackers
        | some tracked =>
          if tracked + inProgressDelta = 0 then
            OrderedMap.erase lbId store.unknownBalancerIdTrackers
          else
            OrderedMap.modify lbId (· + inProgressDelta) store.unknownBalancerIdTrackers }

def mergeRow (hostname : String) (key : LoadRecordKey) (value : LoadRecordValue) :
    Option LoadDataStore :=
  match store.findPerBalancerStore hostname key.lbId with
  | some perBalancerStore => do
    let merged ← perBalancerStore.mergeRow key value
    some { store with
      perHostStores := OrderedMap.modify hostname
        (fun host => host.modifyStore key.lbId fun _ => merged) store.perHostStores }
  | none => some (store.trackUnknownBalancerId key.lbId value.numCallsInProgressDelta)

def reportStreamCreated (random : RandomElement) (hostname lbId loadKey : String) :
    Option LoadDataStore := do
  let host := (store.perHostStores.lookup hostname).getD .created
  let host ← host.reportStreamCreated random lbId loadKey
  some { store with perHostStores := OrderedMap.assign hostname host store.perHostStores }

def reportStreamClosed (random : RandomElement) (hostname lbId : String) :
    Option LoadDataStore := do
  let host ← store.perHostStores.lookup hostname
  let host ← host.reportStreamClosed random lbId
  some { store with perHostStores := OrderedMap.assign hostname host store.perHostStores }

end LoadDataStore

end GrpcCore.Cpp
