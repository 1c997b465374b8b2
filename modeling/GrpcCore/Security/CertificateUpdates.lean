import GrpcCore.Security.CertificateWatchers

/-!
# What the provider of certificates sets

Every call of the provider keeps who watches what, and tells the watchers what there is.
-/

namespace GrpcCore.Security

namespace CertificateDistributor

variable {distributor distributor' : CertificateDistributor} {name : String} {watcher : Nat}

section Provider

variable (certName : String)

def rootReport (distributor : CertificateDistributor) (rootCerts : String)
    (pairs : Option PemKeyCertPairList) (watcher : Nat) :
    Option String × Option PemKeyCertPairList :=
  (some rootCerts,
    if pairs ≠ none ∧ distributor.certNameOf watcher .identity = some certName then pairs
    else (distributor.certNameOf watcher .identity).bind distributor.keyCertPairsToReport)

variable {info : CertificateInfo}

section

variable (linked : distributor.Linked)
  (found : distributor.certificateInfoMap.lookup certName = some info)
include linked found

theorem reportRootCerts_eq
    (sameMap : distributor'.certificateInfoMap = (distributor.modifyInfo certName fun info =>
      { info with rootCertError := none }).certificateInfoMap)
    (names : ∀ watcher side, distributor'.certNameOf watcher side =
      distributor.certNameOf watcher side)
    (named : distributor.certNameOf watcher .root = some certName) (rootCerts : String)
    (pairs : Option PemKeyCertPairList) :
    distributor'.reportRootCerts certName rootCerts pairs watcher =
      some (distributor'.modifyWatcher watcher fun info =>
        { info with certificates := distributor.rootReport certName rootCerts pairs watcher }) := by
  obtain ⟨info, here, root, same⟩ := exists_info names named
  have root : info.rootCertName = some certName := root
  have identity : info.identityCertName = distributor.certNameOf watcher .identity :=
    same .identity
  unfold reportRootCerts rootReport
  simp only [here, Option.bind_eq_bind, Option.bind_some, root, identity]
  by_cases both : pairs ≠ none ∧ distributor.certNameOf watcher .identity = some certName
  · rw [if_pos both, if_pos both]
    rfl
  · rw [if_neg both, if_neg both]
    cases identityName : distributor.certNameOf watcher .identity with
    | none => rfl
    | some name =>
      obtain ⟨_, there⟩ := linked.present identityName
      obtain ⟨_, there⟩ : ∃ info', distributor'.certificateInfoMap.lookup name = some info' :=
        sameMap ▸ exists_lookup_modifyInfo there
      have pairsKept : (distributor'.certInfo name).pemKeyCertPairs =
          (distributor.certInfo name).pemKeyCertPairs := by
        rw [certInfo_of_map sameMap, certInfo_modify found]
        split
        case isTrue same => rw [same]
        case isFalse => rfl
      dsimp only
      rw [touch_of_present there, Option.bind_some]
      unfold keyCertPairsToReport
      rw [pairsKept]
      rfl

theorem setRootCerts_spec (rootCerts : String) (pairs : Option PemKeyCertPairList) :
    ∃ distributor', distributor.setRootCerts certName rootCerts pairs = some distributor' ∧
      Quiet distributor distributor' ∧
      (∀ name, distributor'.certInfo name = if name = certName then
        { distributor.certInfo certName with rootCertError := none, pemRootCerts := rootCerts }
        else distributor.certInfo name) ∧
      KeepsEntries distributor distributor' ∧
      ∀ watcher, distributor'.watchers.lookup watcher =
        if distributor.certNameOf watcher .root = some certName then
          (distributor.watchers.lookup watcher).map fun info =>
            { info with certificates := distributor.rootReport certName rootCerts pairs watcher }
        else distributor.watchers.lookup watcher := by
  obtain ⟨told, done, spec⟩ := tell_spec certName .root
    (fun info => { info with rootCertError := none })
    (fun info => { info with pemRootCerts := rootCerts })
    (fun distributor watcher => distributor.reportRootCerts certName rootCerts pairs watcher)
    (fun watcher info =>
      { info with certificates := distributor.rootReport certName rootCerts pairs watcher })
    linked found (fun info side => by cases side <;> rfl) (fun info side => by cases side <;> rfl)
    (fun watcher info side => by cases side <;> rfl) (fun _ _ => rfl)
    fun distributor' sameMap names watcher named =>
      reportRootCerts_eq certName linked found sameMap names named rootCerts pairs
  exact ⟨_, Option.bind_eq_some_iff.mpr ⟨told, done, rfl⟩, spec⟩

end

def tellKeyCertPairs (distributor : CertificateDistributor) (rootCerts : Option String)
    (pairs : PemKeyCertPairList) (watcher : Nat) (info : WatcherInfo) : WatcherInfo :=
  if rootCerts ≠ none ∧ distributor.certNameOf watcher .root = some certName then info
  else
    { info with
      certificates :=
        ((distributor.certNameOf watcher .root).bind distributor.rootCertsToReport, some pairs) }

section

variable (linked : distributor.Linked)
  (found : distributor.certificateInfoMap.lookup certName = some info)
include linked found

theorem reportKeyCertPairs_eq
    (sameMap : distributor'.certificateInfoMap = (distributor.modifyInfo certName fun info =>
      { info with identityCertError := none }).certificateInfoMap)
    (names : ∀ watcher side, distributor'.certNameOf watcher side =
      distributor.certNameOf watcher side)
    (named : distributor.certNameOf watcher .identity = some certName) (rootCerts : Option String)
    (pairs : PemKeyCertPairList) :
    distributor'.reportKeyCertPairs certName rootCerts pairs watcher =
      some (distributor'.modifyWatcher watcher
        (distributor.tellKeyCertPairs certName rootCerts pairs watcher)) := by
  obtain ⟨info, here, identity, same⟩ := exists_info names named
  have identity : info.identityCertName = some certName := identity
  have root : info.rootCertName = distributor.certNameOf watcher .root := same .root
  unfold reportKeyCertPairs tellKeyCertPairs
  simp only [here, Option.bind_eq_bind, Option.bind_some, root, identity]
  by_cases both : rootCerts ≠ none ∧ distributor.certNameOf watcher .root = some certName
  · simp only [if_pos both]
    unfold modifyWatcher OrderedMap.modify
    simp
  · simp only [if_neg both]
    cases rootName : distributor.certNameOf watcher .root with
    | none => rfl
    | some name =>
      obtain ⟨_, there⟩ := linked.present rootName
      obtain ⟨_, there⟩ : ∃ info', distributor'.certificateInfoMap.lookup name = some info' :=
        sameMap ▸ exists_lookup_modifyInfo there
      have rootKept : (distributor'.certInfo name).pemRootCerts =
          (distributor.certInfo name).pemRootCerts := by
        rw [certInfo_of_map sameMap, certInfo_modify found]
        split
        case isTrue same => rw [same]
        case isFalse => rfl
      dsimp only
      rw [touch_of_present there]
      unfold rootCertsToReport
      rw [rootKept]
      rfl

theorem setKeyCertPairs_spec (rootCerts : Option String) (pairs : PemKeyCertPairList) :
    ∃ distributor', distributor.setKeyCertPairs certName rootCerts pairs = some distributor' ∧
      Quiet distributor distributor' ∧
      (∀ name, distributor'.certInfo name = if name = certName then
        { distributor.certInfo certName with identityCertError := none, pemKeyCertPairs := pairs }
        else distributor.certInfo name) ∧
      KeepsEntries distributor distributor' ∧
      ∀ watcher, distributor'.watchers.lookup watcher =
        if distributor.certNameOf watcher .identity = some certName then
          (distributor.watchers.lookup watcher).map
            (distributor.tellKeyCertPairs certName rootCerts pairs watcher)
        else distributor.watchers.lookup watcher := by
  have keeps (watcher : Nat) :
      KeepsNames (distributor.tellKeyCertPairs certName rootCerts pairs watcher) := by
    intro info side
    unfold tellKeyCertPairs
    split
    · rfl
    · cases side <;> rfl
  have again (watcher : Nat) (info : WatcherInfo) :
      distributor.tellKeyCertPairs certName rootCerts pairs watcher
        (distributor.tellKeyCertPairs certName rootCerts pairs watcher info) =
          distributor.tellKeyCertPairs certName rootCerts pairs watcher info := by
    unfold tellKeyCertPairs
    split
    · rfl
    · rfl
  obtain ⟨told, done, spec⟩ := tell_spec certName .identity
    (fun info => { info with identityCertError := none })
    (fun info => { info with pemKeyCertPairs := pairs })
    (fun distributor watcher => distributor.reportKeyCertPairs certName rootCerts pairs watcher)
    (distributor.tellKeyCertPairs certName rootCerts pairs)
    linked found (fun info side => by cases side <;> rfl) (fun info side => by cases side <;> rfl)
    keeps again
    fun distributor' sameMap names watcher named =>
      reportKeyCertPairs_eq certName linked found sameMap names named rootCerts pairs
  exact ⟨_, Option.bind_eq_some_iff.mpr ⟨told, done, rfl⟩, spec⟩

end

theorem rootCertsOf_congr (quiet : Quiet distributor distributor')
    (same : ∀ name, (distributor'.certInfo name).pemRootCerts =
      (distributor.certInfo name).pemRootCerts) :
    distributor'.rootCertsOf watcher = distributor.rootCertsOf watcher := by
  unfold rootCertsOf
  rw [quiet.names]
  cases distributor.certNameOf watcher .root with
  | none => rfl
  | some name => exact same name

theorem keyCertPairsOf_congr (quiet : Quiet distributor distributor')
    (same : ∀ name, (distributor'.certInfo name).pemKeyCertPairs =
      (distributor.certInfo name).pemKeyCertPairs) :
    distributor'.keyCertPairsOf watcher = distributor.keyCertPairsOf watcher := by
  unfold keyCertPairsOf
  rw [quiet.names]
  cases distributor.certNameOf watcher .identity with
  | none => rfl
  | some name => exact same name

variable {rootCerts : String}

theorem rootCertsOf_set (quiet : Quiet distributor distributor')
    (set : ∀ name, (distributor'.certInfo name).pemRootCerts =
      if name = certName then rootCerts else (distributor.certInfo name).pemRootCerts) :
    distributor'.rootCertsOf watcher =
      if distributor.certNameOf watcher .root = some certName then rootCerts
      else distributor.rootCertsOf watcher := by
  unfold rootCertsOf
  rw [quiet.names]
  cases distributor.certNameOf watcher .root with
  | none => rfl
  | some =>
    dsimp only
    rw [set]
    simp only [Option.some.injEq]

variable {pairs : PemKeyCertPairList}

theorem keyCertPairsOf_set (quiet : Quiet distributor distributor')
    (set : ∀ name, (distributor'.certInfo name).pemKeyCertPairs =
      if name = certName then pairs else (distributor.certInfo name).pemKeyCertPairs) :
    distributor'.keyCertPairsOf watcher =
      if distributor.certNameOf watcher .identity = some certName then pairs
      else distributor.keyCertPairsOf watcher := by
  unfold keyCertPairsOf
  rw [quiet.names]
  cases distributor.certNameOf watcher .identity with
  | none => rfl
  | some =>
    dsimp only
    rw [set]
    simp only [Option.some.injEq]

theorem getD_bind_rootCertsToReport :
    ((distributor.certNameOf watcher .root).bind distributor.rootCertsToReport).getD "" =
      distributor.rootCertsOf watcher := by
  unfold rootCertsOf
  cases distributor.certNameOf watcher .root with
  | none => rfl
  | some => exact getD_rootCertsToReport

theorem getD_bind_keyCertPairsToReport :
    ((distributor.certNameOf watcher .identity).bind distributor.keyCertPairsToReport).getD [] =
      distributor.keyCertPairsOf watcher := by
  unfold keyCertPairsOf
  cases distributor.certNameOf watcher .identity with
  | none => rfl
  | some => exact getD_keyCertPairsToReport

theorem setRootCerts_materials (quiet : Quiet distributor distributor')
    (infos : ∀ name, distributor'.certInfo name = if name = certName then
      { distributor.certInfo certName with rootCertError := none, pemRootCerts := rootCerts }
      else distributor.certInfo name) (watcher : Nat) :
    distributor'.rootCertsOf watcher =
        (if distributor.certNameOf watcher .root = some certName then rootCerts
        else distributor.rootCertsOf watcher) ∧
      distributor'.keyCertPairsOf watcher = distributor.keyCertPairsOf watcher := by
  constructor
  · refine rootCertsOf_set certName quiet fun name => ?_
    rw [infos]
    split
    · rfl
    · rfl
  · refine keyCertPairsOf_congr quiet fun name => ?_
    rw [infos]
    split
    case isTrue same => rw [same]
    case isFalse => rfl

theorem setKeyCertPairs_materials (quiet : Quiet distributor distributor')
    (infos : ∀ name, distributor'.certInfo name = if name = certName then
      { distributor.certInfo certName with identityCertError := none, pemKeyCertPairs := pairs }
      else distributor.certInfo name) (watcher : Nat) :
    distributor'.rootCertsOf watcher = distributor.rootCertsOf watcher ∧
      distributor'.keyCertPairsOf watcher =
        (if distributor.certNameOf watcher .identity = some certName then pairs
        else distributor.keyCertPairsOf watcher) := by
  constructor
  · refine rootCertsOf_congr quiet fun name => ?_
    rw [infos]
    split
    case isTrue same => rw [same]
    case isFalse => rfl
  · refine keyCertPairsOf_set certName quiet fun name => ?_
    rw [infos]
    split
    · rfl
    · rfl

/-- A call of the provider comes to its end, and the watchers have been told. -/
def Informs (distributor : CertificateDistributor) (result : Option CertificateDistributor) :
    Prop :=
  ∃ distributor', result = some distributor' ∧ Quiet distributor distributor' ∧ distributor'.Told

section

variable (linked : distributor.Linked) (told : distributor.Told)
  (found : distributor.certificateInfoMap.lookup certName = some info)
include linked told found

theorem told_setRootCerts (rootCerts : String) :
    distributor.Informs (distributor.setRootCerts certName rootCerts none) := by
  obtain ⟨distributor', set, quiet, infos, _, lookup⟩ :=
    setRootCerts_spec certName linked found rootCerts none
  refine ⟨distributor', set, quiet, fun watcher info here => ?_⟩
  obtain ⟨roots, pairs⟩ := setRootCerts_materials certName quiet infos watcher
  rw [lookup] at here
  rw [roots, pairs]
  split at here
  case isTrue there =>
    obtain ⟨old, _, rfl⟩ := Option.map_eq_some_iff.mp here
    refine ⟨(if_pos there).symm, ?_⟩
    exact getD_bind_keyCertPairsToReport
  case isFalse elsewhere =>
    rw [if_neg elsewhere]
    exact told watcher info here

theorem told_setKeyCertPairs (pairs : PemKeyCertPairList) :
    distributor.Informs (distributor.setKeyCertPairs certName none pairs) := by
  obtain ⟨distributor', set, quiet, infos, _, lookup⟩ :=
    setKeyCertPairs_spec certName linked found none pairs
  refine ⟨distributor', set, quiet, fun watcher info here => ?_⟩
  obtain ⟨roots, keys⟩ := setKeyCertPairs_materials certName quiet infos watcher
  rw [lookup] at here
  rw [roots, keys]
  split at here
  case isTrue there =>
    obtain ⟨old, _, rfl⟩ := Option.map_eq_some_iff.mp here
    unfold tellKeyCertPairs
    rw [if_neg fun both => both.1 rfl, if_pos there]
    exact ⟨getD_bind_rootCertsToReport, rfl⟩
  case isFalse elsewhere =>
    rw [if_neg elsewhere]
    exact told watcher info here

theorem told_setBoth (rootCerts : String) (pairs : PemKeyCertPairList) :
    distributor.Informs ((distributor.setRootCerts certName rootCerts (some pairs)).bind
      fun distributor => distributor.setKeyCertPairs certName (some rootCerts) pairs) := by
  obtain ⟨middle, set, quiet, infos, present, lookup⟩ :=
    setRootCerts_spec certName linked found rootCerts (some pairs)
  obtain ⟨_, found'⟩ := present certName info found
  obtain ⟨distributor', set', quiet', infos', _, lookup'⟩ :=
    setKeyCertPairs_spec certName (quiet.linked linked) found' (some rootCerts) pairs
  refine ⟨distributor', ?_, quiet.trans quiet', fun watcher info here => ?_⟩
  · rw [set, Option.bind_some, set']
  obtain ⟨roots, keys⟩ := setRootCerts_materials certName quiet infos watcher
  obtain ⟨roots', keys'⟩ := setKeyCertPairs_materials certName quiet' infos' watcher
  rw [roots', keys', roots, keys, quiet.names]
  rw [lookup', quiet.names] at here
  have rootSide : middle.rootCertsOf watcher =
      if distributor.certNameOf watcher .root = some certName then rootCerts
      else distributor.rootCertsOf watcher := roots
  by_cases both : distributor.certNameOf watcher .identity = some certName
  · rw [if_pos both] at here ⊢
    obtain ⟨old, before, rfl⟩ := Option.map_eq_some_iff.mp here
    unfold tellKeyCertPairs
    rw [quiet.names]
    by_cases root : distributor.certNameOf watcher .root = some certName
    · -- it has been told of both as a root watcher
      rw [lookup, if_pos root] at before
      obtain ⟨older, _, rfl⟩ := Option.map_eq_some_iff.mp before
      rw [if_pos ⟨nofun, root⟩, if_pos root]
      unfold rootReport
      rw [if_pos ⟨nofun, both⟩]
      exact ⟨rfl, rfl⟩
    · rw [if_neg fun is => root is.2, ← rootSide]
      refine ⟨?_, rfl⟩
      rw [← quiet.names]
      exact getD_bind_rootCertsToReport
  · rw [if_neg both] at here ⊢
    rw [lookup] at here
    by_cases root : distributor.certNameOf watcher .root = some certName
    · rw [if_pos root] at here ⊢
      obtain ⟨old, _, rfl⟩ := Option.map_eq_some_iff.mp here
      unfold rootReport
      rw [if_neg fun is => both is.2]
      exact ⟨rfl, getD_bind_keyCertPairsToReport⟩
    · rw [if_neg root] at here ⊢
      exact told watcher info here

end

theorem told_touch (told : distributor.Told) : (distributor.touch name).Told := by
  intro watcher info found
  obtain ⟨roots, pairs⟩ := told watcher info found
  have quiet : Quiet distributor (distributor.touch name) := quiet_touch
  rw [rootCertsOf_congr quiet fun name => by rw [certInfo_touch],
    keyCertPairsOf_congr quiet fun name => by rw [certInfo_touch]]
  exact ⟨roots, pairs⟩

theorem exists_lookup_touch :
    ∃ info, (distributor.touch name).certificateInfoMap.lookup name = some info := by
  unfold touch
  rw [OrderedMap.lookup_touch, if_pos rfl]
  exact ⟨_, rfl⟩

theorem touched (linked : distributor.Linked) (told : distributor.Told) :
    ∃ info, Quiet distributor (distributor.touch certName) ∧
      (distributor.touch certName).Linked ∧ (distributor.touch certName).Told ∧
      (distributor.touch certName).certificateInfoMap.lookup certName = some info := by
  obtain ⟨info, found⟩ := @exists_lookup_touch distributor certName
  exact ⟨info, quiet_touch, quiet_touch.linked linked, told_touch told, found⟩

theorem setKeyMaterials_spec (linked : distributor.Linked) (told : distributor.Told)
    {rootCerts : Option String} {pairs : Option PemKeyCertPairList}
    (set : rootCerts ≠ none ∨ pairs ≠ none) :
    distributor.Informs (distributor.setKeyMaterials certName rootCerts pairs) := by
  obtain ⟨info, quiet, linked', told', found⟩ := touched certName linked told
  cases rootCerts with
  | none =>
    cases pairs with
    | none => exact (set.elim (fun some_ => some_ rfl) fun some_ => some_ rfl).elim
    | some pairs =>
      obtain ⟨distributor', done, quiet', told''⟩ :=
        told_setKeyCertPairs certName linked' told' found pairs
      exact ⟨distributor', done, quiet.trans quiet', told''⟩
  | some rootCerts =>
    cases pairs with
    | none =>
      obtain ⟨distributor', done, quiet', told''⟩ :=
        told_setRootCerts certName linked' told' found rootCerts
      exact ⟨distributor', done, quiet.trans quiet', told''⟩
    | some pairs =>
      obtain ⟨distributor', done, quiet', told''⟩ :=
        told_setBoth certName linked' told' found rootCerts pairs
      exact ⟨distributor', done, quiet.trans quiet', told''⟩

section Errors

theorem modifyInfo_id : distributor.modifyInfo certName id = distributor := by
  unfold modifyInfo OrderedMap.modify
  simp

theorem told_errors (told : distributor.Told) (quiet : Quiet distributor distributor')
    {errors : Nat → WatcherInfo → ErrorHandle × ErrorHandle} {side : Side}
    (infos : ∀ name, (distributor'.certInfo name).pemRootCerts =
        (distributor.certInfo name).pemRootCerts ∧
      (distributor'.certInfo name).pemKeyCertPairs = (distributor.certInfo name).pemKeyCertPairs)
    (lookup : ∀ watcher, distributor'.watchers.lookup watcher =
      if distributor.certNameOf watcher side = some certName then
        (distributor.watchers.lookup watcher).map fun info =>
          { info with errors := errors watcher info }
      else distributor.watchers.lookup watcher) : distributor'.Told := by
  intro watcher info found
  rw [rootCertsOf_congr quiet fun name => (infos name).1,
    keyCertPairsOf_congr quiet fun name => (infos name).2]
  rw [lookup] at found
  split at found
  case isTrue =>
    obtain ⟨old, before, rfl⟩ := Option.map_eq_some_iff.mp found
    exact told watcher old before
  case isFalse => exact told watcher info found

theorem errors_spec (side : Side) (set : CertificateInfo → CertificateInfo)
    (tell : CertificateDistributor → Nat → Option CertificateDistributor)
    (errors : Nat → WatcherInfo → ErrorHandle × ErrorHandle) (linked : distributor.Linked)
    (told : distributor.Told) (found : distributor.certificateInfoMap.lookup certName = some info)
    (keepsSet : ∀ info side, (set info).watchers side = info.watchers side)
    (again : ∀ watcher info, errors watcher { info with errors := errors watcher info } =
      errors watcher info) (materials : ∀ info, (set info).pemRootCerts = info.pemRootCerts ∧
      (set info).pemKeyCertPairs = info.pemKeyCertPairs)
    (each : ∀ distributor' : CertificateDistributor,
      distributor'.certificateInfoMap = distributor.certificateInfoMap →
      (∀ watcher side, distributor'.certNameOf watcher side = distributor.certNameOf watcher side) →
      ∀ watcher, distributor.certNameOf watcher side = some certName →
        tell distributor' watcher = some (distributor'.modifyWatcher watcher fun info =>
          { info with errors := errors watcher info })) :
    ∃ distributor',
      (((distributor.certInfo certName).watchers side).foldlM tell distributor).bind
        (fun told => some (told.modifyInfo certName set)) = some distributor' ∧
      Quiet distributor distributor' ∧ distributor'.Told ∧
      KeepsEntries distributor distributor' := by
  obtain ⟨final, done, quiet, infos, present, lookup⟩ := tell_spec certName side id set tell
    (fun watcher info => { info with errors := errors watcher info }) linked found
    (fun _ _ => rfl) keepsSet (fun watcher info side => by cases side <;> rfl)
    (fun watcher info => by rw [again])
    (by rwa [modifyInfo_id])
  rw [modifyInfo_id] at done
  refine ⟨_, Option.bind_eq_some_iff.mpr ⟨final, done, rfl⟩, quiet, ?_, present⟩
  refine told_errors certName told quiet (fun name => ?_) lookup
  rw [infos]
  split
  case isTrue same =>
    rw [same]
    exact materials _
  case isFalse => exact ⟨rfl, rfl⟩

section

variable (linked : distributor.Linked) (told : distributor.Told)
  (found : distributor.certificateInfoMap.lookup certName = some info)
include linked told found

theorem setRootError_spec (rootError : ErrorHandle) (identityError : Option ErrorHandle) :
    ∃ distributor', distributor.setRootError certName rootError identityError =
        some distributor' ∧ Quiet distributor distributor' ∧ distributor'.Told ∧
      KeepsEntries distributor distributor' := by
  refine errors_spec certName .root (fun info => { info with rootCertError := rootError })
    (fun distributor watcher =>
      distributor.reportRootError certName rootError identityError watcher)
    (fun watcher _ => (rootError,
      if identityError ≠ none ∧ distributor.certNameOf watcher .identity = some certName then
        identityError.getD none
      else (distributor.certNameOf watcher .identity).bind fun name =>
        (distributor.certInfo name).identityCertError))
    linked told found (fun info side => by cases side <;> rfl) (fun _ _ => rfl)
    (fun _ => ⟨rfl, rfl⟩) ?_
  intro distributor' sameMap names watcher named
  obtain ⟨info, here, _, same⟩ := exists_info names named
  have identity : info.identityCertName = distributor.certNameOf watcher .identity :=
    same .identity
  unfold reportRootError
  simp only [here, Option.bind_eq_bind, Option.bind_some, identity]
  by_cases both : identityError ≠ none ∧ distributor.certNameOf watcher .identity = some certName
  · rw [if_pos both, if_pos both]
    rfl
  · rw [if_neg both, if_neg both]
    cases identityName : distributor.certNameOf watcher .identity with
    | none => rfl
    | some =>
      obtain ⟨_, there⟩ := linked.present identityName
      dsimp only
      rw [touch_of_present (sameMap ▸ there), certInfo_of_map sameMap]
      rfl

theorem setIdentityError_spec (rootError : Option ErrorHandle) (identityError : ErrorHandle) :
    ∃ distributor', distributor.setIdentityError certName rootError identityError =
        some distributor' ∧ Quiet distributor distributor' ∧ distributor'.Told ∧
      KeepsEntries distributor distributor' := by
  refine errors_spec certName .identity
    (fun info => { info with identityCertError := identityError })
    (fun distributor watcher =>
      distributor.reportIdentityError certName rootError identityError watcher)
    (fun watcher info =>
      if rootError ≠ none ∧ distributor.certNameOf watcher .root = some certName then info.errors
      else ((distributor.certNameOf watcher .root).bind fun name =>
        (distributor.certInfo name).rootCertError, identityError))
    linked told found (fun info side => by cases side <;> rfl) (fun watcher info => ?_)
    (fun _ => ⟨rfl, rfl⟩) ?_
  · split
    · rfl
    · rfl
  intro distributor' sameMap names watcher named
  obtain ⟨info, here, _, same⟩ := exists_info names named
  have root : info.rootCertName = distributor.certNameOf watcher .root := same .root
  unfold reportIdentityError
  simp only [here, Option.bind_eq_bind, Option.bind_some, root]
  by_cases both : rootError ≠ none ∧ distributor.certNameOf watcher .root = some certName
  · -- it has been told as a root watcher
    simp only [if_pos both]
    unfold modifyWatcher OrderedMap.modify
    simp
  · simp only [if_neg both]
    cases rootName : distributor.certNameOf watcher .root with
    | none => rfl
    | some =>
      obtain ⟨_, there⟩ := linked.present rootName
      dsimp only
      rw [touch_of_present (sameMap ▸ there), certInfo_of_map sameMap]
      rfl

end

theorem setErrorForCert_spec (linked : distributor.Linked) (told : distributor.Told)
    {rootError identityError : Option ErrorHandle} (set : rootError ≠ none ∨ identityError ≠ none) :
    distributor.Informs (distributor.setErrorForCert certName rootError identityError) := by
  obtain ⟨info, quiet, linked', told', found⟩ := touched certName linked told
  cases rootError with
  | none =>
    cases identityError with
    | none => exact (set.elim (fun some_ => some_ rfl) fun some_ => some_ rfl).elim
    | some identityError =>
      obtain ⟨distributor', done, quiet', told'', _⟩ :=
        setIdentityError_spec certName linked' told' found none identityError
      exact ⟨distributor', done, quiet.trans quiet', told''⟩
  | some rootError =>
    obtain ⟨middle, done, quiet', told'', present⟩ :=
      setRootError_spec certName linked' told' found rootError identityError
    cases identityError with
    | none => exact ⟨middle, done, quiet.trans quiet', told''⟩
    | some identityError =>
      obtain ⟨_, found'⟩ := present certName info found
      obtain ⟨distributor', done', quiet'', last, _⟩ :=
        setIdentityError_spec certName (quiet'.linked linked') told'' found' (some rootError)
          identityError
      refine ⟨distributor', ?_, (quiet.trans quiet').trans quiet'', last⟩
      unfold setErrorForCert
      simp only [Option.bind_eq_bind, done, Option.bind_some, done']

theorem setError_spec (told : distributor.Told) {error : ErrorHandle} (set : error ≠ none) :
    distributor.Informs (distributor.setError error) := by
  obtain ⟨distributor', done, watchers, infos, calls⟩ : ∃ distributor',
      distributor.setError error = some distributor' ∧
      (∀ watcher, distributor'.watchers.lookup watcher =
        (distributor.watchers.lookup watcher).map fun info =>
          { info with
            errors :=
              (if info.rootCertName = none then none else error,
                if info.identityCertName = none then none else error) }) ∧
      (∀ name, distributor'.certificateInfoMap.lookup name =
        (distributor.certificateInfoMap.lookup name).map fun info =>
          { info with rootCertError := error, identityCertError := error }) ∧
      distributor'.watchStatusCalls = distributor.watchStatusCalls :=
    ⟨_, if_neg set,
      fun _ => OrderedMap.lookup_map_values fun info : WatcherInfo =>
        { info with
          errors :=
            (if info.rootCertName = none then none else error,
              if info.identityCertName = none then none else error) },
      fun _ => OrderedMap.lookup_map_values fun info : CertificateInfo =>
        { info with rootCertError := error, identityCertError := error }, rfl⟩
  have entries (name : String) :
      (∀ side, (distributor'.certInfo name).watchers side =
        (distributor.certInfo name).watchers side) ∧
      (distributor'.certInfo name).pemRootCerts = (distributor.certInfo name).pemRootCerts ∧
      (distributor'.certInfo name).pemKeyCertPairs =
        (distributor.certInfo name).pemKeyCertPairs := by
    unfold certInfo
    rw [infos]
    cases distributor.certificateInfoMap.lookup name with
    | none => exact ⟨fun _ => rfl, rfl, rfl⟩
    | some => exact ⟨fun side => by cases side <;> rfl, rfl, rfl⟩
  have quiet : Quiet distributor distributor' := by
    refine ⟨fun watcher side => ?_, fun name side => (entries name).1 side, calls⟩
    unfold certNameOf
    rw [watchers]
    cases distributor.watchers.lookup watcher with
    | none => rfl
    | some => cases side <;> rfl
  refine ⟨distributor', done, quiet, fun watcher info found => ?_⟩
  rw [rootCertsOf_congr quiet fun name => (entries name).2.1,
    keyCertPairsOf_congr quiet fun name => (entries name).2.2]
  rw [watchers] at found
  obtain ⟨old, before, rfl⟩ := Option.map_eq_some_iff.mp found
  exact told watcher old before

end Errors

end Provider

end CertificateDistributor

end GrpcCore.Security
