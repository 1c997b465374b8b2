import GrpcCore.Lib.OrderedMap

/-!
# The TLS certificate distributor

Watchers are numbered. What a watcher is told last is kept with it, and so are the calls of the
watch status callback, the latest first. An operation is `none` where an assertion of it fails.
-/

namespace GrpcCore.Security

structure PemKeyCertPair where
  privateKey : String
  certChain : String
deriving DecidableEq

abbrev PemKeyCertPairList := List PemKeyCertPair

/-- `GRPC_ERROR_NONE` is `none`. -/
abbrev ErrorHandle := Option String

/-- A watcher with the arguments of the last calls of `OnCertificatesChanged` and `OnError`. -/
structure WatcherInfo where
  certificates : Option String × Option PemKeyCertPairList
  errors : ErrorHandle × ErrorHandle
  rootCertName : Option String
  identityCertName : Option String
deriving DecidableEq

structure CertificateInfo where
  pemRootCerts : String
  pemKeyCertPairs : PemKeyCertPairList
  rootCertError : ErrorHandle
  identityCertError : ErrorHandle
  rootCertWatchers : List Nat
  identityCertWatchers : List Nat
deriving DecidableEq

def CertificateInfo.empty : CertificateInfo := ⟨"", [], none, none, [], []⟩

/-- What a watcher watches of the certificates of a name. -/
inductive Side where
  | root
  | identity
deriving DecidableEq

def Side.other : Side → Side
  | root => identity
  | identity => root

def WatcherInfo.certName (info : WatcherInfo) : Side → Option String
  | .root => info.rootCertName
  | .identity => info.identityCertName

def CertificateInfo.watchers (info : CertificateInfo) : Side → List Nat
  | .root => info.rootCertWatchers
  | .identity => info.identityCertWatchers

def CertificateInfo.setWatchers (info : CertificateInfo) : Side → List Nat → CertificateInfo
  | .root, watchers => { info with rootCertWatchers := watchers }
  | .identity, watchers => { info with identityCertWatchers := watchers }

structure CertificateDistributor where
  watchers : List (Nat × WatcherInfo)
  certificateInfoMap : List (String × CertificateInfo)
  watchStatusCalls : List (String × Bool × Bool)
deriving DecidableEq

namespace CertificateDistributor

def created : CertificateDistributor := ⟨[], [], []⟩

variable (distributor : CertificateDistributor)

/-- `certificate_info_map_[name]` makes an entry that is not there. -/
def touch (name : String) : CertificateDistributor :=
  { distributor with
    certificateInfoMap := OrderedMap.touch name .empty distributor.certificateInfoMap }

def certInfo (name : String) : CertificateInfo :=
  (distributor.certificateInfoMap.lookup name).getD .empty

def modifyInfo (name : String) (change : CertificateInfo → CertificateInfo) :
    CertificateDistributor :=
  { distributor with
    certificateInfoMap := OrderedMap.modify name change distributor.certificateInfoMap }

def modifyWatcher (watcher : Nat) (change : WatcherInfo → WatcherInfo) : CertificateDistributor :=
  { distributor with watchers := OrderedMap.modify watcher change distributor.watchers }

def onCertificatesChanged (watcher : Nat) (rootCerts : Option String)
    (keyCertPairs : Option PemKeyCertPairList) : CertificateDistributor :=
  distributor.modifyWatcher watcher fun info =>
    { info with certificates := (rootCerts, keyCertPairs) }

def onError (watcher : Nat) (rootCertError identityCertError : ErrorHandle) :
    CertificateDistributor :=
  distributor.modifyWatcher watcher fun info =>
    { info with errors := (rootCertError, identityCertError) }

def watchStatusCallback (name : String) (rootBeingWatched identityBeingWatched : Bool) :
    CertificateDistributor :=
  { distributor with
    watchStatusCalls :=
      (name, rootBeingWatched, identityBeingWatched) :: distributor.watchStatusCalls }

def rootCertsToReport (name : String) : Option String :=
  if (distributor.certInfo name).pemRootCerts = "" then none
  else some (distributor.certInfo name).pemRootCerts

def keyCertPairsToReport (name : String) : Option PemKeyCertPairList :=
  if (distributor.certInfo name).pemKeyCertPairs = [] then none
  else some (distributor.certInfo name).pemKeyCertPairs

section SetKeyMaterials

/-- A root watcher is told of new root certificates, with the identity pairs that it watches. -/
def reportRootCerts (certName rootCerts : String) (pairs : Option PemKeyCertPairList)
    (watcher : Nat) : Option CertificateDistributor := do
  let info ← distributor.watchers.lookup watcher
  if info.rootCertName = none then none
  else if pairs ≠ none ∧ info.identityCertName = some certName then
    some (distributor.onCertificatesChanged watcher (some rootCerts) pairs)
  else
    match info.identityCertName with
    | none => some (distributor.onCertificatesChanged watcher (some rootCerts) none)
    | some name =>
      let distributor := distributor.touch name
      some (distributor.onCertificatesChanged watcher (some rootCerts)
        (distributor.keyCertPairsToReport name))

def setRootCerts (certName rootCerts : String) (pairs : Option PemKeyCertPairList) :
    Option CertificateDistributor := do
  let distributor := distributor.modifyInfo certName fun info =>
    { info with rootCertError := none }
  let distributor ← (distributor.certInfo certName).rootCertWatchers.foldlM
    (fun distributor watcher => distributor.reportRootCerts certName rootCerts pairs watcher)
    distributor
  some (distributor.modifyInfo certName fun info => { info with pemRootCerts := rootCerts })

/-- An identity watcher is told of new identity pairs, unless it has been as a root watcher. -/
def reportKeyCertPairs (certName : String) (rootCerts : Option String)
    (pairs : PemKeyCertPairList) (watcher : Nat) : Option CertificateDistributor := do
  let info ← distributor.watchers.lookup watcher
  if info.identityCertName = none then none
  else if rootCerts ≠ none ∧ info.rootCertName = some certName then some distributor
  else
    match info.rootCertName with
    | none => some (distributor.onCertificatesChanged watcher none (some pairs))
    | some name =>
      let distributor := distributor.touch name
      some (distributor.onCertificatesChanged watcher (distributor.rootCertsToReport name)
        (some pairs))

def setKeyCertPairs (certName : String) (rootCerts : Option String) (pairs : PemKeyCertPairList) :
    Option CertificateDistributor := do
  let distributor := distributor.modifyInfo certName fun info =>
    { info with identityCertError := none }
  let distributor ← (distributor.certInfo certName).identityCertWatchers.foldlM
    (fun distributor watcher => distributor.reportKeyCertPairs certName rootCerts pairs watcher)
    distributor
  some (distributor.modifyInfo certName fun info => { info with pemKeyCertPairs := pairs })

def setKeyMaterials (certName : String) (rootCerts : Option String)
    (pairs : Option PemKeyCertPairList) : Option CertificateDistributor :=
  let distributor := distributor.touch certName
  match rootCerts, pairs with
  | none, none => none
  | some rootCerts, none => distributor.setRootCerts certName rootCerts none
  | none, some pairs => distributor.setKeyCertPairs certName none pairs
  | some rootCerts, some pairs => do
    (← distributor.setRootCerts certName rootCerts (some pairs)).setKeyCertPairs certName
      (some rootCerts) pairs

end SetKeyMaterials

section SetErrorForCert

def reportRootError (certName : String) (rootError : ErrorHandle)
    (identityError : Option ErrorHandle) (watcher : Nat) : Option CertificateDistributor := do
  let info ← distributor.watchers.lookup watcher
  if identityError ≠ none ∧ info.identityCertName = some certName then
    some (distributor.onError watcher rootError (identityError.getD none))
  else
    match info.identityCertName with
    | none => some (distributor.onError watcher rootError none)
    | some name =>
      let distributor := distributor.touch name
      some (distributor.onError watcher rootError (distributor.certInfo name).identityCertError)

def setRootError (certName : String) (rootError : ErrorHandle)
    (identityError : Option ErrorHandle) : Option CertificateDistributor := do
  let distributor ← (distributor.certInfo certName).rootCertWatchers.foldlM
    (fun distributor watcher =>
      distributor.reportRootError certName rootError identityError watcher) distributor
  some (distributor.modifyInfo certName fun info => { info with rootCertError := rootError })

def reportIdentityError (certName : String) (rootError : Option ErrorHandle)
    (identityError : ErrorHandle) (watcher : Nat) : Option CertificateDistributor := do
  let info ← distributor.watchers.lookup watcher
  if rootError ≠ none ∧ info.rootCertName = some certName then some distributor
  else
    match info.rootCertName with
    | none => some (distributor.onError watcher none identityError)
    | some name =>
      let distributor := distributor.touch name
      some (distributor.onError watcher (distributor.certInfo name).rootCertError identityError)

def setIdentityError (certName : String) (rootError : Option ErrorHandle)
    (identityError : ErrorHandle) : Option CertificateDistributor := do
  let distributor ← (distributor.certInfo certName).identityCertWatchers.foldlM
    (fun distributor watcher =>
      distributor.reportIdentityError certName rootError identityError watcher) distributor
  some (distributor.modifyInfo certName fun info =>
    { info with identityCertError := identityError })

def setErrorForCert (certName : String) (rootError identityError : Option ErrorHandle) :
    Option CertificateDistributor :=
  let distributor := distributor.touch certName
  match rootError, identityError with
  | none, none => none
  | some rootError, none => distributor.setRootError certName rootError none
  | none, some identityError => distributor.setIdentityError certName none identityError
  | some rootError, some identityError => do
    (← distributor.setRootError certName rootError (some identityError)).setIdentityError
      certName (some rootError) identityError

end SetErrorForCert

def setError (error : ErrorHandle) : Option CertificateDistributor :=
  if error = none then none
  else
    some { distributor with
      watchers := distributor.watchers.map fun (watcher, info) =>
        (watcher, { info with
          errors :=
            (if info.rootCertName = none then none else error,
              if info.identityCertName = none then none else error) })
      certificateInfoMap := distributor.certificateInfoMap.map fun (name, info) =>
        (name, { info with rootCertError := error, identityCertError := error }) }

section Watch

/-- Inserts a watcher, and tells whether it is the first of its side and whether the other side
is watched. -/
def startWatching (side : Side) (watcher : Nat) :
    Option String → CertificateDistributor × Bool × Bool
  | none => (distributor, false, false)
  | some name =>
    let distributor := distributor.touch name
    let info := distributor.certInfo name
    (distributor.modifyInfo name fun info =>
        info.setWatchers side ((info.watchers side).insert watcher),
      decide (info.watchers side = []), decide (info.watchers side.other ≠ []))

def notifyWatcher (watcher : Nat) (rootCertName identityCertName : Option String) :
    CertificateDistributor :=
  let updatedRootCerts := rootCertName.bind distributor.rootCertsToReport
  let updatedIdentityPairs := identityCertName.bind distributor.keyCertPairsToReport
  let rootError := rootCertName.bind fun name => (distributor.certInfo name).rootCertError
  let identityError :=
    identityCertName.bind fun name => (distributor.certInfo name).identityCertError
  let distributor :=
    if updatedRootCerts ≠ none ∨ updatedIdentityPairs ≠ none then
      distributor.onCertificatesChanged watcher updatedRootCerts updatedIdentityPairs
    else distributor
  if rootError ≠ none ∨ identityError ≠ none then
    distributor.onError watcher rootError identityError
  else distributor

def watchStatusChanged (name : Option String) (changed rootBeingWatched identityBeingWatched : Bool) :
    CertificateDistributor :=
  match name, changed with
  | some name, true => distributor.watchStatusCallback name rootBeingWatched identityBeingWatched
  | _, _ => distributor

def watchTlsCertificates (watcher : Nat) (rootCertName identityCertName : Option String) :
    Option CertificateDistributor :=
  if rootCertName = none ∧ identityCertName = none then none
  else if (distributor.watchers.lookup watcher).isSome then none
  else
    let distributor := { distributor with
      watchers := OrderedMap.emplace watcher
        ⟨(none, none), (none, none), rootCertName, identityCertName⟩ distributor.watchers }
    let (distributor, startRoot, alreadyIdentity) :=
      distributor.startWatching .root watcher rootCertName
    let (distributor, startIdentity, alreadyRoot) :=
      distributor.startWatching .identity watcher identityCertName
    let distributor := distributor.notifyWatcher watcher rootCertName identityCertName
    if rootCertName = identityCertName ∧ (startRoot || startIdentity) = true then
      some (distributor.watchStatusChanged rootCertName true startRoot startIdentity)
    else
      some ((distributor.watchStatusChanged rootCertName startRoot true
        alreadyIdentity).watchStatusChanged identityCertName startIdentity alreadyRoot true)

/-- Erases a watcher, and tells whether it was the last of its side and whether the other side is
watched. The entry goes with its last watcher. -/
def stopWatching (side : Side) (watcher : Nat) :
    Option String → Option (CertificateDistributor × Bool × Bool)
  | none => some (distributor, false, false)
  | some name => do
    let info ← distributor.certificateInfoMap.lookup name
    let info := info.setWatchers side ((info.watchers side).filter (· ≠ watcher))
    let stop := decide (info.watchers side = [])
    let already := decide (info.watchers side.other ≠ [])
    let map :=
      if (stop && !already) = true then OrderedMap.erase name distributor.certificateInfoMap
      else OrderedMap.modify name (fun _ => info) distributor.certificateInfoMap
    some ({ distributor with certificateInfoMap := map }, stop, already)

def cancelTlsCertificatesWatch (watcher : Nat) : Option CertificateDistributor :=
  match distributor.watchers.lookup watcher with
  | none => some distributor
  | some info => do
    let distributor := { distributor with
      watchers := OrderedMap.erase watcher distributor.watchers }
    let (distributor, stopRoot, alreadyIdentity) ←
      distributor.stopWatching .root watcher info.rootCertName
    let (distributor, stopIdentity, alreadyRoot) ←
      distributor.stopWatching .identity watcher info.identityCertName
    if info.rootCertName = info.identityCertName ∧ (stopRoot || stopIdentity) = true then
      some (distributor.watchStatusChanged info.rootCertName true (!stopRoot) (!stopIdentity))
    else
      some ((distributor.watchStatusChanged info.rootCertName stopRoot false
        alreadyIdentity).watchStatusChanged info.identityCertName stopIdentity alreadyRoot false)

end Watch

inductive Action where
  | watch (watcher : Nat) (rootCertName identityCertName : Option String)
  | cancel (watcher : Nat)
  | setKeyMaterials (certName : String) (rootCerts : Option String)
      (pairs : Option PemKeyCertPairList)
  | setErrorForCert (certName : String) (rootError identityError : Option ErrorHandle)
  | setError (error : ErrorHandle)
deriving DecidableEq

/-- What a caller may do: a watcher is registered once and for at least one name, and something
is set. -/
def Allowed : Action → Prop
  | .watch watcher rootCertName identityCertName =>
    (rootCertName ≠ none ∨ identityCertName ≠ none) ∧
      distributor.watchers.lookup watcher = none
  | .cancel _ => True
  | .setKeyMaterials _ rootCerts pairs => rootCerts ≠ none ∨ pairs ≠ none
  | .setErrorForCert _ rootError identityError => rootError ≠ none ∨ identityError ≠ none
  | .setError error => error ≠ none

instance (action : Action) : Decidable (distributor.Allowed action) :=
  match action with
  | .watch _ _ _ => inferInstanceAs (Decidable (_ ∧ _))
  | .cancel _ => inferInstanceAs (Decidable True)
  | .setKeyMaterials _ _ _ => inferInstanceAs (Decidable (_ ∨ _))
  | .setErrorForCert _ _ _ => inferInstanceAs (Decidable (_ ∨ _))
  | .setError _ => inferInstanceAs (Decidable (_ ≠ _))

def act : Action → Option CertificateDistributor
  | .watch watcher rootCertName identityCertName =>
    distributor.watchTlsCertificates watcher rootCertName identityCertName
  | .cancel watcher => distributor.cancelTlsCertificatesWatch watcher
  | .setKeyMaterials certName rootCerts pairs => distributor.setKeyMaterials certName rootCerts pairs
  | .setErrorForCert certName rootError identityError =>
    distributor.setErrorForCert certName rootError identityError
  | .setError error => distributor.setError error

/-- The distributor after a call, which is gone once an assertion has failed. -/
def step (state : Option CertificateDistributor) (action : Action) :
    Option (Option CertificateDistributor) :=
  state.bind fun distributor =>
    if distributor.Allowed action then some (distributor.act action) else none

end CertificateDistributor

end GrpcCore.Security
