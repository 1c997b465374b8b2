import GrpcCore.Lib.OrderedMap
import GrpcCore.Lib.Run

/-!
# Route lookup policy

The `RlsLb` policy: its cache, the pending requests, the child policies and the
throttle of the channel to the lookup service. A child policy wrapper is named by its
target and lives as long as something refers to it.
-/

namespace GrpcCore.Rls

/-- `absl::Status`. -/
structure Status where
  code : Nat
  message : String
deriving DecidableEq

namespace Status

def ok (status : Status) : Bool := status.code = 0

def unavailable (message : String) : Status := ⟨14, message⟩

def internal (message : String) : Status := ⟨13, message⟩

def invalidArgument (message : String) : Status := ⟨3, message⟩

end Status

/-- `GRPC_MILLIS_INF_PAST`. -/
def infPast : Int := -2 ^ 63

def kMinExpirationTime : Int := 5 * 1000

def kDefaultThrottleWindowSize : Int := 30 * 1000

def kDefaultThrottleRatioForSuccesses : ℚ := 2

def kDefaultThrottlePaddings : Nat := 8

/-- What the policy uses of `RlsLbConfig`. The parser lowers a stale age above the
maximum age to it. -/
structure RlsLbConfig (Target ChildConfig : Type) where
  lookupService : String
  maxAge : Int
  staleAge : Int
  staleAge_le : staleAge ≤ maxAge
  cacheSizeBytes : Nat
  defaultTarget : Option Target
  childPolicyConfig : ChildConfig
deriving DecidableEq

inductive ConnectivityState where
  | idle
  | connecting
  | ready
  | transientFailure
  | shutdown
deriving DecidableEq

/-- A decision of the throttle with the numbers it was made from. -/
structure Decision where
  channel : Nat
  time : Int
  draw : Nat
  requests : Nat
  successes : Nat
  throttled : Bool
deriving DecidableEq

/-- `RlsLb::RlsChannel::Throttle`. -/
structure Throttle where
  windowSize : Int
  ratioForSuccesses : ℚ
  paddings : Nat
  requests : List Int
  successes : List Int
deriving DecidableEq

namespace Throttle

/-- The constructor. The channel leaves every argument at its default. -/
def new (windowSizeSeconds : Int := 0) (ratioForSuccesses : ℚ := 0) (paddings : Nat := 0) :
    Throttle where
  windowSize :=
    if windowSizeSeconds = 0 then windowSizeSeconds * 1000 else kDefaultThrottleWindowSize
  ratioForSuccesses :=
    if ratioForSuccesses = 0 then kDefaultThrottleRatioForSuccesses else ratioForSuccesses
  paddings := if paddings = 0 then kDefaultThrottlePaddings else paddings
  requests := []
  successes := []

def prune (throttle : Throttle) (now : Int) (times : List Int) : List Int :=
  times.dropWhile fun time => now - time > throttle.windowSize

/-- `ShouldThrottle`, with what `rand` draws. -/
def shouldThrottle (throttle : Throttle) (channel : Nat) (now : Int) (draw : Nat) :
    Decision × Throttle :=
  let requests := throttle.prune now throttle.requests
  let successes := throttle.prune now throttle.successes
  let decision : Decision :=
    { channel
      time := now
      draw
      requests := requests.length
      successes := successes.length
      throttled := decide (((draw % (requests.length + throttle.paddings) : Nat) : ℚ) <
        requests.length - successes.length * throttle.ratioForSuccesses) }
  (decision, { throttle with requests := requests ++ [now], successes })

def registerResponse (throttle : Throttle) (success : Bool) (now : Int) : Throttle :=
  if success then { throttle with successes := throttle.successes ++ [now] } else throttle

end Throttle

/-- `RlsLb::RlsChannel` and the flag of its state watcher. -/
structure RlsChannel where
  throttle : Throttle
  wasTransientFailure : Bool
deriving DecidableEq

/-- `RlsLb::Cache::Entry`. The backoff timer tells whether it is armed. -/
structure Entry (Target : Type) where
  status : Status
  backoffTime : Int
  backoffExpirationTime : Int
  backoffTimer : Option Bool
  childPolicyWrappers : List Target
  headerData : String
  dataExpirationTime : Int
  staleTime : Int
  staleTime_le : staleTime ≤ dataExpirationTime
  minExpirationTime : Int
deriving DecidableEq

namespace Entry

variable {Target : Type}

def new (now : Int) : Entry Target where
  status := ⟨0, ""⟩
  backoffTime := infPast
  backoffExpirationTime := infPast
  backoffTimer := none
  childPolicyWrappers := []
  headerData := ""
  dataExpirationTime := infPast
  staleTime := infPast
  staleTime_le := le_refl infPast
  minExpirationTime := now + kMinExpirationTime

def resetBackoff (entry : Entry Target) : Entry Target :=
  { entry with backoffTime := infPast, backoffTimer := none }

def shouldRemove (entry : Entry Target) (now : Int) : Bool :=
  entry.dataExpirationTime < now && entry.backoffExpirationTime < now

def canEvict (entry : Entry Target) (now : Int) : Bool := entry.minExpirationTime < now

end Entry

/-- `RlsLb::ChildPolicyWrapper`, with the configurations that its child policy has been
sent and will be sent next. -/
structure ChildPolicyWrapper (ParsedConfig : Type) where
  connectivityState : ConnectivityState
  pendingConfig : Option ParsedConfig
  childPolicy : Option ParsedConfig
deriving DecidableEq

def ChildPolicyWrapper.new {ParsedConfig : Type} : ChildPolicyWrapper ParsedConfig :=
  ⟨.idle, none, none⟩

inductive Reason where
  | miss
  | stale
deriving DecidableEq

/-- `RlsLb::RlsRequest`. -/
structure RlsRequest where
  rlsChannel : Nat
  reason : Reason
  staleHeaderData : String
deriving DecidableEq

/-- `RlsLb::ResponseInfo`. -/
structure ResponseInfo (Target : Type) where
  status : Status
  targets : List Target
  headerData : String
deriving DecidableEq

namespace Entry

variable {Target ChildConfig : Type}

def failed (entry : Entry Target) (status : Status) (nextAttemptTime now : Int) : Entry Target :=
  { entry with
    status
    backoffTime := nextAttemptTime
    backoffExpirationTime := now + (nextAttemptTime - now) * 2
    backoffTimer := some true }

/-- The entry after a response that has succeeded, before its targets are compared. -/
def succeeded (entry : Entry Target) (config : RlsLbConfig Target ChildConfig)
    (response : ResponseInfo Target) (now : Int) : Entry Target :=
  { entry with
    headerData := response.headerData
    dataExpirationTime := now + config.maxAge
    staleTime := now + config.staleAge
    staleTime_le := Int.add_le_add_left config.staleAge_le now
    status := ⟨0, ""⟩
    backoffTime := infPast
    backoffExpirationTime := infPast }

end Entry

/-- What a lookup call has received: the status of an error of its batch, the status of
the call, and the response message if it can be parsed. -/
structure CallResult (Target : Type) where
  error : Option Status
  statusRecv : Status
  recvMessage : Option (List Target × String)
deriving DecidableEq

variable {Target : Type}

/-- `ParseResponseProto`. -/
def parseResponseProto : Option (List Target × String) → ResponseInfo Target
  | none => ⟨.internal "cannot parse RLS response", [], ""⟩
  | some ([], _) => ⟨.invalidArgument "RLS response has no target entry", [], ""⟩
  | some (target :: targets, headerData) => ⟨⟨0, ""⟩, target :: targets, headerData⟩

/-- The first part of `OnRlsCallCompleteLocked`. -/
def CallResult.response (result : CallResult Target) : ResponseInfo Target :=
  match result.error with
  | some status => ⟨status, [], ""⟩
  | none =>
    if result.statusRecv.ok then parseResponseProto result.recvMessage
    else ⟨result.statusRecv, [], ""⟩

inductive PickResult (Target : Type) where
  | delegate (target : Target) (headerData : String)
  | fail (status : Status)
  | queue
deriving DecidableEq

/-- What the policy takes from its surroundings: the size that the cache counts for a
key, and the registry's parser of child policy configurations with the target filled in. -/
structure Environment (Key Target ChildConfig ParsedConfig : Type) where
  entrySizeForKey : Key → Nat
  parseLoadBalancingConfig : ChildConfig → Target → Option ParsedConfig

/-- `RlsLb`. A picker is the default child policy it holds. -/
structure RlsLb (Key Target ChildConfig ParsedConfig Addresses : Type) where
  isShutdown : Bool
  config : Option (RlsLbConfig Target ChildConfig)
  addresses : Option Addresses
  /-- The entries from the least to the most recently used. -/
  cache : List (Key × Entry Target)
  size : Nat
  sizeLimit : Nat
  requestMap : List (Key × RlsRequest)
  channels : List RlsChannel
  rlsChannel : Option Nat
  defaultChildPolicy : Option Target
  childPolicyMap : List (Target × ChildPolicyWrapper ParsedConfig)
  pickers : List (Option Target)
  /-- The scheduled calls of `UpdatePickerCallback`. -/
  pickerUpdates : Nat
  /-- The child policies that have been created. -/
  childPoliciesCreated : Nat
deriving DecidableEq

namespace RlsLb

variable {Key ChildConfig ParsedConfig Addresses : Type}

def initial : RlsLb Key Target ChildConfig ParsedConfig Addresses where
  isShutdown := false
  config := none
  addresses := none
  cache := []
  size := 0
  sizeLimit := 0
  requestMap := []
  channels := []
  rlsChannel := none
  defaultChildPolicy := none
  childPolicyMap := []
  pickers := []
  pickerUpdates := 0
  childPoliciesCreated := 0

variable [DecidableEq Key] [LinearOrder Target] [DecidableEq ChildConfig] [DecidableEq Addresses]
variable (environment : Environment Key Target ChildConfig ParsedConfig)
variable (lb : RlsLb Key Target ChildConfig ParsedConfig Addresses)

def References (target : Target) : Prop :=
  (∃ entry ∈ lb.cache, target ∈ entry.2.childPolicyWrappers) ∨
    lb.defaultChildPolicy = some target ∨ some target ∈ lb.pickers

instance (target : Target) : Decidable (lb.References target) :=
  inferInstanceAs (Decidable (_ ∨ _ ∨ _))

/-- Wrappers without a strong reference are orphaned and leave the map. -/
def collect : RlsLb Key Target ChildConfig ParsedConfig Addresses :=
  { lb with childPolicyMap := lb.childPolicyMap.filter fun entry => lb.References entry.1 }

/-- `UpdatePickerAsync`. -/
def updatePickerAsync : RlsLb Key Target ChildConfig ParsedConfig Addresses :=
  { lb with pickerUpdates := lb.pickerUpdates + 1 }

/-- `UpdatePickerLocked`, without the connectivity state it reports. -/
def updatePickerLocked : RlsLb Key Target ChildConfig ParsedConfig Addresses :=
  if lb.childPolicyMap ≠ [] ∧ lb.isShutdown then lb
  else { lb with pickers := lb.pickers ++ [lb.defaultChildPolicy] }

/-- `Entry::MarkUsed`, with what is written to the entry. -/
def markUsed (key : Key) (entry : Entry Target) :
    RlsLb Key Target ChildConfig ParsedConfig Addresses :=
  { lb with cache := (lb.cache.filter fun other => other.1 ≠ key) ++ [(key, entry)] }

/-- `Cache::Find`. -/
def find (key : Key) : RlsLb Key Target ChildConfig ParsedConfig Addresses :=
  match lb.cache.lookup key with
  | none => lb
  | some entry => lb.markUsed key entry

/-- `Entry::Pick`. -/
def entryPick (entry : Entry Target) : PickResult Target :=
  let healthy target :=
    (lb.childPolicyMap.lookup target).map (·.connectivityState) ≠ some .transientFailure
  match entry.childPolicyWrappers.find? fun target => healthy target with
  | some target => .delegate target entry.headerData
  | none => .fail (.unavailable "all RLS targets unreachable")

/-- The pick of the default child policy, or its failure if there is none. -/
def defaultPick (defaultChildPolicy : Option Target) (status : Status) : PickResult Target :=
  match defaultChildPolicy with
  | some target => .delegate target ""
  | none => .fail status

/-- The part of `Picker::Pick` that answers from the cache entry. -/
def answer (entry : Option (Entry Target)) (defaultChildPolicy : Option Target) (now : Int) :
    PickResult Target :=
  match entry with
  | none => .queue
  | some entry =>
    if now ≤ entry.dataExpirationTime then lb.entryPick entry
    else if now ≤ entry.backoffTime then defaultPick defaultChildPolicy entry.status
    else .queue

def noData (entry : Option (Entry Target)) (now : Int) : Bool :=
  entry.all fun entry => entry.dataExpirationTime < now

def mayStartCall (key : Key) (now : Int) : Prop :=
  ((lb.cache.lookup key).all fun entry => entry.staleTime < now && entry.backoffTime < now) ∧
    key ∉ lb.requestMap.map Prod.fst

instance (key : Key) (now : Int) : Decidable (lb.mayStartCall key now) :=
  inferInstanceAs (Decidable (_ ∧ _))

/-- `RlsChannel::StartRlsCall`. -/
def startRlsCall (channel : Nat) (key : Key) (staleEntry : Option (Entry Target)) :
    RlsLb Key Target ChildConfig ParsedConfig Addresses :=
  { lb with
    requestMap := lb.requestMap ++
      [(key, ⟨channel, if staleEntry.isSome then .stale else .miss,
        (staleEntry.map (·.headerData)).getD ""⟩)] }

/-- What a pick has done: its result, its throttle decision if it made one, and whether it
started an RLS call. -/
structure Picked (Target : Type) where
  result : PickResult Target
  decision : Option Decision
  started : Bool
deriving DecidableEq

/-- `Picker::Pick`. There is no step where the code would use a null channel. -/
def pick (defaultChildPolicy : Option Target) (key : Key) (now : Int) (draw : Nat) :
    Option (Picked Target × RlsLb Key Target ChildConfig ParsedConfig Addresses) :=
  if lb.isShutdown then
    some (⟨.fail (.unavailable "LB policy already shut down"), none, false⟩, lb)
  else
    let entry := lb.cache.lookup key
    let found := lb.find key
    if lb.mayStartCall key now then do
      let channel ← lb.rlsChannel
      let rlsChannel ← lb.channels[channel]?
      let (decision, throttle) := rlsChannel.throttle.shouldThrottle channel now draw
      let decided := { found with channels := lb.channels.set channel { rlsChannel with throttle } }
      if decision.throttled && noData entry now then
        some (⟨defaultPick defaultChildPolicy (.unavailable "RLS request throttled"),
          some decision, false⟩, decided)
      else
        some (⟨lb.answer entry defaultChildPolicy now, some decision, true⟩,
          decided.startRlsCall channel key (if noData entry now then none else entry))
    else
      some (⟨lb.answer entry defaultChildPolicy now, none, false⟩, found)

/-- The entries that are evicted, and those that stay, while the cache is above a size. -/
def lruPass (now : Int) (bytes : Nat) :
    Nat → List (Key × Entry Target) → List (Key × Entry Target) × List (Key × Entry Target)
  | _, [] => ([], [])
  | size, (key, entry) :: rest =>
    if bytes < size ∧ entry.canEvict now then
      let (evicted, kept) := lruPass now bytes (size - environment.entrySizeForKey key) rest
      ((key, entry) :: evicted, kept)
    else ([], (key, entry) :: rest)

/-- An entry with a backoff timer updates the picker when it is orphaned. -/
def timers (evicted : List (Key × Entry Target)) : Nat :=
  evicted.countP fun entry => entry.2.backoffTimer.isSome

def orphan (evicted kept : List (Key × Entry Target)) :
    RlsLb Key Target ChildConfig ParsedConfig Addresses :=
  collect { lb with
    cache := kept
    size := lb.size - (evicted.map fun entry => environment.entrySizeForKey entry.1).sum
    pickerUpdates := lb.pickerUpdates + timers evicted }

/-- `Cache::MaybeShrinkSize`. -/
def maybeShrinkSize (now : Int) (bytes : Nat) :
    RlsLb Key Target ChildConfig ParsedConfig Addresses :=
  let (evicted, kept) := lruPass environment now bytes lb.size lb.cache
  lb.orphan environment evicted kept

/-- `Cache::FindOrInsert`. -/
def findOrInsert (key : Key) (now : Int) :
    Entry Target × RlsLb Key Target ChildConfig ParsedConfig Addresses :=
  match lb.cache.lookup key with
  | some entry => (entry, lb.markUsed key entry)
  | none =>
    let entrySize := environment.entrySizeForKey key
    let shrunk := lb.maybeShrinkSize environment now
      (lb.sizeLimit - min lb.sizeLimit entrySize)
    let entry := Entry.new now
    (entry, { shrunk with
      cache := shrunk.cache ++ [(key, entry)]
      size := shrunk.size + entrySize })

/-- `ChildPolicyWrapper::StartUpdate`. -/
def startUpdate (config : RlsLbConfig Target ChildConfig) (target : Target)
    (wrapper : ChildPolicyWrapper ParsedConfig) : ChildPolicyWrapper ParsedConfig :=
  match environment.parseLoadBalancingConfig config.childPolicyConfig target with
  | some parsed => { wrapper with pendingConfig := some parsed }
  | none => { wrapper with pendingConfig := none, childPolicy := none }

/-- `ChildPolicyWrapper::MaybeFinishUpdate`. -/
def maybeFinishUpdate (target : Target) : RlsLb Key Target ChildConfig ParsedConfig Addresses :=
  match lb.childPolicyMap.lookup target with
  | none => lb
  | some wrapper =>
    match wrapper.pendingConfig with
    | none => lb
    | some parsed =>
      { lb with
        childPolicyMap := OrderedMap.modify target
          (fun wrapper => { wrapper with pendingConfig := none, childPolicy := some parsed })
          lb.childPolicyMap
        childPoliciesCreated :=
          lb.childPoliciesCreated + if wrapper.childPolicy.isSome then 0 else 1 }

/-- The loop over the targets of a response: the map of the wrappers, whether the picker is
to be updated, and the wrappers whose update is to be finished. -/
structure Visit (Target ParsedConfig : Type) where
  childPolicyMap : List (Target × ChildPolicyWrapper ParsedConfig)
  updatePicker : Bool
  toFinish : List Target

def Visit.target (config : RlsLbConfig Target ChildConfig) (oldTargets : List Target)
    (visit : Visit Target ParsedConfig) (target : Target) : Visit Target ParsedConfig :=
  if (visit.childPolicyMap.lookup target).isSome then
    { visit with updatePicker := visit.updatePicker || decide (target ∉ oldTargets) }
  else
    { visit with
      childPolicyMap := OrderedMap.emplace target
        (startUpdate environment config target .new) visit.childPolicyMap
      toFinish := visit.toFinish ++ [target] }

def visitTargets (config : RlsLbConfig Target ChildConfig) (oldTargets targets : List Target) :
    Visit Target ParsedConfig :=
  targets.foldl (Visit.target environment config oldTargets) ⟨lb.childPolicyMap, false, []⟩

/-- What `OnRlsResponseLocked` does when the targets of the entry change. -/
def changeTargets (config : RlsLbConfig Target ChildConfig) (key : Key) (entry : Entry Target)
    (targets : List Target) :
    RlsLb Key Target ChildConfig ParsedConfig Addresses × List Target :=
  let visit := lb.visitTargets environment config entry.childPolicyWrappers targets
  let changed := collect
    { lb.markUsed key { entry with childPolicyWrappers := targets } with
      childPolicyMap := visit.childPolicyMap }
  (if visit.updatePicker then changed.updatePickerAsync else changed, visit.toFinish)

/-- `Entry::OnRlsResponseLocked`, with the next attempt time of the backoff state. -/
def onRlsResponseLocked (config : RlsLbConfig Target ChildConfig) (key : Key)
    (entry : Entry Target) (response : ResponseInfo Target) (nextAttemptTime now : Int) :
    RlsLb Key Target ChildConfig ParsedConfig Addresses × List Target :=
  if response.status.ok then
    if response.targets = entry.childPolicyWrappers then
      ((lb.markUsed key (entry.succeeded config response now)).updatePickerAsync, [])
    else
      lb.changeTargets environment config key (entry.succeeded config response now)
        response.targets
  else ((lb.markUsed key (entry.failed response.status nextAttemptTime now)).updatePickerAsync, [])

/-- `RlsChannel::ReportResponseLocked`. -/
def reportResponseLocked (channel : Nat) (success : Bool) (now : Int) :
    RlsLb Key Target ChildConfig ParsedConfig Addresses :=
  { lb with
    channels := lb.channels.modify channel fun rlsChannel =>
      { rlsChannel with throttle := rlsChannel.throttle.registerResponse success now } }

/-- `OnRlsCallCompleteLocked`. -/
def onRlsCallCompleteLocked (config : RlsLbConfig Target ChildConfig) (key : Key)
    (request : RlsRequest) (response : ResponseInfo Target) (nextAttemptTime now : Int) :
    RlsLb Key Target ChildConfig ParsedConfig Addresses :=
  let reported := lb.reportResponseLocked request.rlsChannel (!response.status.ok) now
  let (entry, inserted) := reported.findOrInsert environment key now
  let (answered, toFinish) :=
    inserted.onRlsResponseLocked environment config key entry response nextAttemptTime now
  let erased :=
    { answered with requestMap := answered.requestMap.filter fun other => other.1 ≠ key }
  toFinish.foldl maybeFinishUpdate erased

/-- `Cache::ResetAllBackoff`. -/
def resetAllBackoff : RlsLb Key Target ChildConfig ParsedConfig Addresses :=
  { lb with
    cache := lb.cache.map fun entry => (entry.1, entry.2.resetBackoff)
    pickerUpdates := lb.pickerUpdates + 1 }

/-- `BackoffTimer::OnBackoffTimer` of the timer of an entry. -/
def onBackoffTimer (key : Key) : RlsLb Key Target ChildConfig ParsedConfig Addresses :=
  match lb.cache.lookup key with
  | some entry =>
    if entry.backoffTimer = some true then
      updatePickerLocked
        { lb with
          cache := lb.cache.map fun other =>
            if other.1 = key then (key, { entry with backoffTimer := some false }) else other }
    else lb
  | none => lb

/-- `Cache::OnCleanupTimer`. -/
def onCleanupTimer (now : Int) : RlsLb Key Target ChildConfig ParsedConfig Addresses :=
  if lb.isShutdown then lb
  else
    let removed := fun entry : Key × Entry Target => entry.2.shouldRemove now && entry.2.canEvict now
    lb.orphan environment (lb.cache.filter removed) (lb.cache.filter fun entry => !removed entry)

/-- `StateWatcher::OnConnectivityStateChange`. -/
def onConnectivityStateChange (channel : Nat) (newState : ConnectivityState) :
    RlsLb Key Target ChildConfig ParsedConfig Addresses :=
  match lb.channels[channel]? with
  | none => lb
  | some rlsChannel =>
    if lb.rlsChannel ≠ some channel then lb
    else if newState = .ready ∧ rlsChannel.wasTransientFailure then
      resetAllBackoff
        { lb with
          channels := lb.channels.set channel { rlsChannel with wasTransientFailure := false } }
    else if newState = .transientFailure then
      { lb with
        channels := lb.channels.set channel { rlsChannel with wasTransientFailure := true } }
    else lb

/-- `ChildPolicyHelper::UpdateState`. -/
def childUpdateState (target : Target) (state : ConnectivityState) :
    RlsLb Key Target ChildConfig ParsedConfig Addresses :=
  match lb.childPolicyMap.lookup target with
  | none => lb
  | some wrapper =>
    if wrapper.connectivityState = .transientFailure ∧ state ≠ .ready then lb
    else
      updatePickerLocked
        { lb with
          childPolicyMap := OrderedMap.modify target
            (fun wrapper => { wrapper with connectivityState := state }) lb.childPolicyMap }

/-- The default child policy of a new configuration, and whether it was created. -/
def updateDefault (config : RlsLbConfig Target ChildConfig) :
    RlsLb Key Target ChildConfig ParsedConfig Addresses × Bool :=
  if lb.config.map (·.defaultTarget) = some config.defaultTarget then (lb, false)
  else
    match config.defaultTarget with
    | none => (collect { lb with defaultChildPolicy := none }, false)
    | some target =>
      if (lb.childPolicyMap.lookup target).isSome then
        (collect { lb with defaultChildPolicy := some target }, false)
      else
        (collect { lb with
          defaultChildPolicy := some target
          childPolicyMap := OrderedMap.emplace target .new lb.childPolicyMap }, true)

def updateChannel (config : RlsLbConfig Target ChildConfig) :
    RlsLb Key Target ChildConfig ParsedConfig Addresses :=
  if lb.config.map (·.lookupService) = some config.lookupService then lb
  else
    { lb with
      channels := lb.channels ++ [⟨Throttle.new, false⟩]
      rlsChannel := some lb.channels.length }

def updateCacheSize (config : RlsLbConfig Target ChildConfig) (now : Int) :
    RlsLb Key Target ChildConfig ParsedConfig Addresses :=
  if lb.config.map (·.cacheSizeBytes) = some config.cacheSizeBytes then lb
  else
    maybeShrinkSize environment { lb with sizeLimit := config.cacheSizeBytes } now
      config.cacheSizeBytes

def updateChildren (config : RlsLbConfig Target ChildConfig) (targets : List Target) :
    RlsLb Key Target ChildConfig ParsedConfig Addresses :=
  let started :=
    { lb with
      childPolicyMap := lb.childPolicyMap.map fun entry =>
        if entry.1 ∈ targets then (entry.1, startUpdate environment config entry.1 entry.2)
        else entry }
  targets.foldl maybeFinishUpdate started

/-- The first part of `UpdateLocked`: all but the updates of the child policies. -/
def updateState (config : RlsLbConfig Target ChildConfig) (addresses : Addresses) (now : Int) :
    RlsLb Key Target ChildConfig ParsedConfig Addresses :=
  { ((lb.updateDefault config).1.updateChannel config).updateCacheSize environment config now with
    config := some config
    addresses := some addresses }

/-- The second part of `UpdateLocked`. -/
def updatePolicies (config : RlsLbConfig Target ChildConfig)
    (updateChildPolicies createdDefaultChild : Bool) :
    RlsLb Key Target ChildConfig ParsedConfig Addresses :=
  if updateChildPolicies then
    lb.updateChildren environment config (lb.childPolicyMap.map Prod.fst)
  else if createdDefaultChild then
    lb.updateChildren environment config config.defaultTarget.toList
  else lb

/-- `UpdateLocked`. The channel arguments are compared with their own copy. -/
def updateLocked (config : RlsLbConfig Target ChildConfig) (addresses : Addresses) (now : Int) :
    RlsLb Key Target ChildConfig ParsedConfig Addresses :=
  let updateChildPolicies := decide (
    lb.config.map (·.childPolicyConfig) ≠ some config.childPolicyConfig ∨
      lb.addresses ≠ some addresses)
  let updated := lb.updateState environment config addresses now
  (updated.updatePolicies environment config updateChildPolicies
    (lb.updateDefault config).2).updatePickerLocked

/-- `ResetBackoffLocked`. -/
def resetBackoffLocked : RlsLb Key Target ChildConfig ParsedConfig Addresses :=
  lb.resetAllBackoff

/-- `ShutdownLocked`. -/
def shutdownLocked : RlsLb Key Target ChildConfig ParsedConfig Addresses :=
  collect { lb with
    isShutdown := true
    config := none
    cache := []
    pickerUpdates := lb.pickerUpdates + timers lb.cache
    requestMap := []
    rlsChannel := none
    defaultChildPolicy := none }

end RlsLb

end GrpcCore.Rls
