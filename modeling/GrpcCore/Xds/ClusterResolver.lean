import GrpcCore.Lib.OrderedMap
import GrpcCore.Lib.Run

/-!
# Cluster resolver

How the cluster resolver policy combines the priorities of its discovery mechanisms into
one list and numbers the children of the priority policy.
-/

namespace GrpcCore.Xds

variable {Locality : Type} [LinearOrder Locality]

/-- `XdsApi::EdsUpdate::Priority`, by the names of its localities. -/
structure Priority (Locality : Type) [LinearOrder Locality] where
  localities : List Locality
  ordered : localities.Pairwise (· < ·)
deriving DecidableEq

namespace Priority

def empty : Priority Locality := ⟨[], List.Pairwise.nil⟩

instance : Membership Locality (Priority Locality) := ⟨fun priority name => name ∈ priority.localities⟩

end Priority

/-- The two maps that `UpdatePriorityList` builds from the old priorities. -/
structure Numbering (Locality : Type) where
  localityChildMap : List (Locality × Nat)
  childLocalityMap : List (Nat × List Locality)

namespace Numbering

/-- The localities that used to be in a child number. -/
def children (numbering : Numbering Locality) (childNumber : Nat) : List Locality :=
  (numbering.childLocalityMap.lookup childNumber).getD []

def insert (childNumber : Nat) (numbering : Numbering Locality) (name : Locality) :
    Numbering Locality where
  localityChildMap := OrderedMap.assign name childNumber numbering.localityChildMap
  childLocalityMap := OrderedMap.modify childNumber (List.insert name)
    (OrderedMap.touch childNumber [] numbering.childLocalityMap)

def build (priorities : List (Priority Locality × Nat)) : Numbering Locality :=
  priorities.foldl
    (fun numbering priority => priority.1.localities.foldl (insert priority.2) numbering) ⟨[], []⟩

def eraseAll (names : List Locality) (localityChildMap : List (Locality × Nat)) :
    List (Locality × Nat) :=
  names.foldl (fun map name => OrderedMap.erase name map) localityChildMap

/-- The loop over the localities of a priority. Once it has found a child number, the other
localities are only erased. -/
def scan (children : Nat → List Locality) :
    List Locality → List (Locality × Nat) → Option Nat × List (Locality × Nat)
  | [], map => (none, map)
  | name :: rest, map =>
    match map.lookup name with
    | some childNumber =>
      (some childNumber,
        eraseAll rest (eraseAll (children childNumber) (OrderedMap.erase name map)))
    | none => scan children rest map

def firstUnused (used : List Nat) : Nat → Nat → Nat
  | 0, childNumber => childNumber
  | fuel + 1, childNumber =>
    if childNumber ∈ used then firstUnused used fuel (childNumber + 1) else childNumber

def assign (numbering : Numbering Locality) (priority : Priority Locality) :
    Nat × Numbering Locality :=
  match scan numbering.children priority.localities numbering.localityChildMap with
  | (some childNumber, map) => (childNumber, { numbering with localityChildMap := map })
  | (none, map) =>
    let used := numbering.childLocalityMap.map Prod.fst
    let childNumber := firstUnused used used.length 0
    (childNumber,
      { localityChildMap := map
        childLocalityMap := OrderedMap.touch childNumber [] numbering.childLocalityMap })

def assignAll : Numbering Locality → List (Priority Locality) → List Nat
  | _, [] => []
  | numbering, priority :: rest =>
    (numbering.assign priority).1 :: assignAll (numbering.assign priority).2 rest

end Numbering

/-- `XdsClusterResolverLb::DiscoveryMechanismEntry`. -/
structure DiscoveryMechanismEntry (Locality : Type) [LinearOrder Locality] where
  firstUpdateReceived : Bool
  numPriorities : Nat
  pendingPriorityList : Option (List (Priority Locality))
deriving DecidableEq

/-- What `XdsClusterResolverLb` keeps of its discovery mechanisms' updates. -/
structure ClusterResolver (Locality : Type) [LinearOrder Locality] where
  shuttingDown : Bool
  discoveryMechanisms : List (DiscoveryMechanismEntry Locality)
  priorityList : List (Priority Locality)
  priorityChildNumbers : List Nat
deriving DecidableEq

namespace ClusterResolver

/-- The policy after its first update, with some discovery mechanisms. -/
def initial (mechanisms : Nat) : ClusterResolver Locality where
  shuttingDown := false
  discoveryMechanisms := List.replicate mechanisms ⟨false, 0, none⟩
  priorityList := []
  priorityChildNumbers := []

/-- `UpdatePriorityList`, without the update of the child policy. -/
def updatePriorityList (resolver : ClusterResolver Locality)
    (priorityList : List (Priority Locality)) : ClusterResolver Locality :=
  { resolver with
    priorityList
    priorityChildNumbers :=
      (Numbering.build (resolver.priorityList.zip resolver.priorityChildNumbers)).assignAll
        priorityList }

def combine (priorityList : List (Priority Locality)) :
    Nat → List (DiscoveryMechanismEntry Locality) →
      List (Priority Locality) × List (DiscoveryMechanismEntry Locality)
  | _, [] => ([], [])
  | priorityIndex, mechanism :: rest =>
    let (later, mechanisms) := combine priorityList (priorityIndex + mechanism.numPriorities) rest
    match mechanism.pendingPriorityList with
    | some pending =>
      (pending ++ later,
        { mechanism with numPriorities := pending.length, pendingPriorityList := none } ::
          mechanisms)
    | none =>
      ((priorityList.drop priorityIndex).take mechanism.numPriorities ++ later,
        mechanism :: mechanisms)

/-- The first part of `OnEndpointChanged`. An update without priorities counts as one empty
priority. -/
def receive (resolver : ClusterResolver Locality) (index : Nat)
    (priorities : List (Priority Locality)) : ClusterResolver Locality :=
  { resolver with
    discoveryMechanisms := resolver.discoveryMechanisms.modify index fun mechanism =>
      { mechanism with
        pendingPriorityList := some (if priorities = [] then [.empty] else priorities)
        firstUpdateReceived := true } }

/-- `OnEndpointChanged`. -/
def onEndpointChanged (resolver : ClusterResolver Locality) (index : Nat)
    (priorities : List (Priority Locality)) : ClusterResolver Locality :=
  if resolver.shuttingDown then resolver
  else
    let updated := resolver.receive index priorities
    if updated.discoveryMechanisms.all (·.firstUpdateReceived) then
      let (priorityList, discoveryMechanisms) :=
        combine updated.priorityList 0 updated.discoveryMechanisms
      updatePriorityList { updated with discoveryMechanisms } priorityList
    else updated

/-- `OnError`, which counts only before the first update of the mechanism. -/
def onError (resolver : ClusterResolver Locality) (index : Nat) : ClusterResolver Locality :=
  if resolver.shuttingDown then resolver
  else
    match resolver.discoveryMechanisms[index]? with
    | some mechanism =>
      if mechanism.firstUpdateReceived then resolver else resolver.onEndpointChanged index []
    | none => resolver

/-- `OnResourceDoesNotExist`. -/
def onResourceDoesNotExist (resolver : ClusterResolver Locality) (index : Nat) :
    ClusterResolver Locality :=
  if resolver.shuttingDown then resolver else resolver.onEndpointChanged index []

inductive ResolverAction (Locality : Type) [LinearOrder Locality] where
  | endpointChanged (index : Nat) (priorities : List (Priority Locality))
  | error (index : Nat)
  | resourceDoesNotExist (index : Nat)
  | shutdown

/-- A step of the policy. Updates come from its own discovery mechanisms. -/
def step (resolver : ClusterResolver Locality) :
    ResolverAction Locality → Option (ClusterResolver Locality)
  | .endpointChanged index priorities =>
    if index < resolver.discoveryMechanisms.length then
      some (resolver.onEndpointChanged index priorities)
    else none
  | .error index =>
    if index < resolver.discoveryMechanisms.length then some (resolver.onError index) else none
  | .resourceDoesNotExist index =>
    if index < resolver.discoveryMechanisms.length then
      some (resolver.onResourceDoesNotExist index)
    else none
  | .shutdown => some { resolver with shuttingDown := true, discoveryMechanisms := [] }

end ClusterResolver

end GrpcCore.Xds
