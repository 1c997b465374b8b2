import GrpcCore.Security.CertificateDistributor

/-!
# The watchers of a certificate distributor

The two maps of a distributor say the same of who watches what, and every watcher has been told
what there is.
-/

namespace GrpcCore.Security

open OrderedMap

namespace CertificateDistributor

section Views

variable (distributor : CertificateDistributor)

def certNameOf (watcher : Nat) (side : Side) : Option String :=
  (distributor.watchers.lookup watcher).bind fun info => info.certName side

def rootCertsOf (watcher : Nat) : String :=
  match distributor.certNameOf watcher .root with
  | none => ""
  | some name => (distributor.certInfo name).pemRootCerts

def keyCertPairsOf (watcher : Nat) : PemKeyCertPairList :=
  match distributor.certNameOf watcher .identity with
  | none => []
  | some name => (distributor.certInfo name).pemKeyCertPairs

def Linked : Prop :=
  ∀ name side watcher, watcher ∈ (distributor.certInfo name).watchers side ↔
    distributor.certNameOf watcher side = some name

/-- The last certificates that a watcher was told of are those that there are. -/
def Told : Prop :=
  ∀ watcher info, distributor.watchers.lookup watcher = some info →
    info.certificates.1.getD "" = distributor.rootCertsOf watcher ∧
      info.certificates.2.getD [] = distributor.keyCertPairsOf watcher

end Views

variable {distributor distributor' : CertificateDistributor} {name other : String} {watcher : Nat}
  {side : Side}

theorem exists_of_certNameOf (named : distributor.certNameOf watcher side = some name) :
    ∃ info, distributor.watchers.lookup watcher = some info ∧ info.certName side = some name :=
  Option.bind_eq_some_iff.mp named

theorem Linked.present (linked : distributor.Linked)
    (named : distributor.certNameOf watcher side = some name) :
    ∃ info, distributor.certificateInfoMap.lookup name = some info := by
  have within := (linked name side watcher).mpr named
  unfold certInfo at within
  cases found : distributor.certificateInfoMap.lookup name with
  | some info => exact ⟨info, rfl⟩
  | none =>
    rw [found] at within
    cases side with
    | root => cases within
    | identity => cases within

theorem touch_of_present {info : CertificateInfo}
    (found : distributor.certificateInfoMap.lookup name = some info) :
    distributor.touch name = distributor := by
  unfold touch OrderedMap.touch
  rw [found]
  rfl

@[simp]
theorem certInfo_touch : (distributor.touch name).certInfo other = distributor.certInfo other := by
  unfold certInfo touch
  rw [lookup_touch]
  split
  case isTrue same =>
    rw [same]
    rfl
  case isFalse => rfl

variable {change : CertificateInfo → CertificateInfo}

theorem certInfo_modify {info : CertificateInfo}
    (found : distributor.certificateInfoMap.lookup name = some info) :
    (distributor.modifyInfo name change).certInfo other =
      if other = name then change (distributor.certInfo name) else distributor.certInfo other := by
  unfold certInfo modifyInfo
  rw [lookup_modify, found]
  split
  · rfl
  · rfl

theorem lookup_modifyWatcher {change : WatcherInfo → WatcherInfo} (watcher' : Nat) :
    (distributor.modifyWatcher watcher change).watchers.lookup watcher' =
      if watcher' = watcher then (distributor.watchers.lookup watcher).map change
      else distributor.watchers.lookup watcher' :=
  lookup_modify change

def KeepsNames (change : WatcherInfo → WatcherInfo) : Prop :=
  ∀ info side, (change info).certName side = info.certName side

theorem certNameOf_modifyWatcher {change : WatcherInfo → WatcherInfo} (keeps : KeepsNames change)
    (watcher' : Nat) :
    (distributor.modifyWatcher watcher change).certNameOf watcher' side =
      distributor.certNameOf watcher' side := by
  unfold certNameOf
  rw [lookup_modifyWatcher]
  split
  case isTrue same =>
    rw [same]
    cases distributor.watchers.lookup watcher with
    | none => rfl
    | some info => exact keeps info side
  case isFalse => rfl

/-- A loop over watchers that tells each of them something, in a distributor that is otherwise
the same. -/
theorem foldlM_modifyWatcher (distributor : CertificateDistributor)
    (tell : CertificateDistributor → Nat → Option CertificateDistributor)
    (change : Nat → WatcherInfo → WatcherInfo) (watchers : List Nat)
    (keeps : ∀ watcher, KeepsNames (change watcher))
    (again : ∀ watcher info, change watcher (change watcher info) = change watcher info)
    (each : ∀ distributor' : CertificateDistributor,
      distributor'.certificateInfoMap = distributor.certificateInfoMap →
      (∀ watcher side, distributor'.certNameOf watcher side = distributor.certNameOf watcher side) →
      ∀ watcher ∈ watchers,
        tell distributor' watcher = some (distributor'.modifyWatcher watcher (change watcher))) :
    ∃ distributor', watchers.foldlM tell distributor = some distributor' ∧
      distributor'.certificateInfoMap = distributor.certificateInfoMap ∧
      distributor'.watchStatusCalls = distributor.watchStatusCalls ∧
      ∀ watcher, distributor'.watchers.lookup watcher =
        if watcher ∈ watchers then (distributor.watchers.lookup watcher).map (change watcher)
        else distributor.watchers.lookup watcher := by
  induction watchers generalizing distributor with
  | nil => exact ⟨distributor, rfl, rfl, rfl, fun _ => rfl⟩
  | cons first rest ih =>
    have told := each distributor rfl (fun _ _ => rfl) first (List.mem_cons_self ..)
    have names (watcher : Nat) (side : Side) :
        (distributor.modifyWatcher first (change first)).certNameOf watcher side =
          distributor.certNameOf watcher side :=
      certNameOf_modifyWatcher (keeps first) watcher
    have each' : ∀ distributor' : CertificateDistributor,
        distributor'.certificateInfoMap =
          (distributor.modifyWatcher first (change first)).certificateInfoMap →
        (∀ watcher side, distributor'.certNameOf watcher side =
          (distributor.modifyWatcher first (change first)).certNameOf watcher side) →
        ∀ watcher ∈ rest,
          tell distributor' watcher = some (distributor'.modifyWatcher watcher (change watcher)) :=
      fun distributor' map same watcher there =>
        each distributor' map (fun watcher side => (same watcher side).trans (names watcher side))
          watcher (List.mem_cons_of_mem _ there)
    obtain ⟨distributor', all, map, calls, lookup⟩ := ih _ each'
    refine ⟨distributor', ?_, map, calls, fun watcher => ?_⟩
    · rw [List.foldlM_cons, told]
      exact all
    · rw [lookup watcher, lookup_modifyWatcher]
      by_cases here : watcher = first
      · subst here
        rw [if_pos rfl, if_pos (List.mem_cons_self ..)]
        split
        · rw [Option.map_map]
          refine congrArg (fun change => Option.map change _) (funext fun info => ?_)
          exact again watcher info
        · rfl
      · simp [here]

structure Quiet (distributor distributor' : CertificateDistributor) : Prop where
  names : ∀ watcher side, distributor'.certNameOf watcher side = distributor.certNameOf watcher side
  sides : ∀ name side, (distributor'.certInfo name).watchers side =
    (distributor.certInfo name).watchers side
  calls : distributor'.watchStatusCalls = distributor.watchStatusCalls

theorem Quiet.trans {distributor'' : CertificateDistributor} (quiet : Quiet distributor distributor')
    (quiet' : Quiet distributor' distributor'') : Quiet distributor distributor'' where
  names watcher side := (quiet'.names watcher side).trans (quiet.names watcher side)
  sides name side := (quiet'.sides name side).trans (quiet.sides name side)
  calls := quiet'.calls.trans quiet.calls

theorem Quiet.linked (quiet : Quiet distributor distributor') (linked : distributor.Linked) :
    distributor'.Linked := by
  intro name side watcher
  rw [quiet.sides, quiet.names]
  exact linked name side watcher

theorem quiet_touch : Quiet distributor (distributor.touch name) where
  names _ _ := rfl
  sides name side := by rw [certInfo_touch]
  calls := rfl

theorem quiet_modifyInfo {info : CertificateInfo}
    (found : distributor.certificateInfoMap.lookup name = some info)
    (keeps : ∀ info side, (change info).watchers side = info.watchers side) :
    Quiet distributor (distributor.modifyInfo name change) where
  names _ _ := rfl
  sides other side := by
    rw [certInfo_modify found]
    split
    case isTrue same => rw [keeps, same]
    case isFalse => rfl
  calls := rfl

theorem quiet_of_lookup {watchers : List Nat} {change : Nat → WatcherInfo → WatcherInfo}
    (keeps : ∀ watcher, KeepsNames (change watcher))
    (map : distributor'.certificateInfoMap = distributor.certificateInfoMap)
    (calls : distributor'.watchStatusCalls = distributor.watchStatusCalls)
    (lookup : ∀ watcher, distributor'.watchers.lookup watcher =
      if watcher ∈ watchers then (distributor.watchers.lookup watcher).map (change watcher)
      else distributor.watchers.lookup watcher) : Quiet distributor distributor' where
  names watcher side := by
    unfold certNameOf
    rw [lookup]
    split
    · cases distributor.watchers.lookup watcher with
      | none => rfl
      | some info => exact keeps watcher info side
    · rfl
  sides name side := by
    unfold certInfo
    rw [map]
  calls := calls

theorem getD_rootCertsToReport :
    (distributor.rootCertsToReport name).getD "" = (distributor.certInfo name).pemRootCerts := by
  unfold rootCertsToReport
  split
  case isTrue empty => exact empty.symm
  case isFalse => rfl

theorem getD_keyCertPairsToReport :
    (distributor.keyCertPairsToReport name).getD [] =
      (distributor.certInfo name).pemKeyCertPairs := by
  unfold keyCertPairsToReport
  split
  case isTrue empty => exact empty.symm
  case isFalse => rfl

theorem exists_lookup_modifyInfo {info : CertificateInfo}
    (found : distributor.certificateInfoMap.lookup other = some info) :
    ∃ info', (distributor.modifyInfo name change).certificateInfoMap.lookup other = some info' := by
  unfold modifyInfo
  rw [lookup_modify]
  split
  case isTrue same =>
    rw [← same, found]
    exact ⟨_, rfl⟩
  case isFalse => exact ⟨info, found⟩

theorem exists_info (names : ∀ watcher side, distributor'.certNameOf watcher side =
      distributor.certNameOf watcher side)
    (named : distributor.certNameOf watcher side = some name) :
    ∃ info, distributor'.watchers.lookup watcher = some info ∧ info.certName side = some name ∧
      ∀ other, info.certName other = distributor.certNameOf watcher other := by
  rw [← names] at named
  obtain ⟨info, found, is⟩ := exists_of_certNameOf named
  refine ⟨info, found, is, fun other => ?_⟩
  rw [← names]
  unfold certNameOf
  rw [found]
  rfl

/-- No entry of a name is lost. -/
def KeepsEntries (distributor distributor' : CertificateDistributor) : Prop :=
  ∀ name info, distributor.certificateInfoMap.lookup name = some info →
    ∃ info', distributor'.certificateInfoMap.lookup name = some info'

section Provider

variable (certName : String)

theorem tell_spec (side : Side) (clear set : CertificateInfo → CertificateInfo)
    (tell : CertificateDistributor → Nat → Option CertificateDistributor)
    (change : Nat → WatcherInfo → WatcherInfo) (linked : distributor.Linked)
    {info : CertificateInfo} (found : distributor.certificateInfoMap.lookup certName = some info)
    (keepsClear : ∀ info side, (clear info).watchers side = info.watchers side)
    (keepsSet : ∀ info side, (set info).watchers side = info.watchers side)
    (keeps : ∀ watcher, KeepsNames (change watcher))
    (again : ∀ watcher info, change watcher (change watcher info) = change watcher info)
    (each : ∀ distributor' : CertificateDistributor,
      distributor'.certificateInfoMap = (distributor.modifyInfo certName clear).certificateInfoMap →
      (∀ watcher side, distributor'.certNameOf watcher side = distributor.certNameOf watcher side) →
      ∀ watcher, distributor.certNameOf watcher side = some certName →
        tell distributor' watcher = some (distributor'.modifyWatcher watcher (change watcher))) :
    ∃ told,
      (((distributor.modifyInfo certName clear).certInfo certName).watchers side).foldlM tell
        (distributor.modifyInfo certName clear) = some told ∧
      Quiet distributor (told.modifyInfo certName set) ∧
      (∀ name, (told.modifyInfo certName set).certInfo name = if name = certName then
        set (clear (distributor.certInfo certName)) else distributor.certInfo name) ∧
      KeepsEntries distributor (told.modifyInfo certName set) ∧
      ∀ watcher, (told.modifyInfo certName set).watchers.lookup watcher =
        if distributor.certNameOf watcher side = some certName then
          (distributor.watchers.lookup watcher).map (change watcher)
        else distributor.watchers.lookup watcher := by
  have clears : Quiet distributor (distributor.modifyInfo certName clear) :=
    quiet_modifyInfo found keepsClear
  have within (watcher : Nat) :
      watcher ∈ ((distributor.modifyInfo certName clear).certInfo certName).watchers side ↔
        distributor.certNameOf watcher side = some certName := by
    rw [clears.sides]
    exact linked certName side watcher
  obtain ⟨told, all, map, calls, lookup⟩ := foldlM_modifyWatcher
    (distributor.modifyInfo certName clear) tell change _ keeps again
    fun distributor' sameMap names watcher there =>
      each distributor' sameMap names watcher ((within watcher).mp there)
  have tells := quiet_of_lookup keeps map calls lookup
  have present {name info} (here : distributor.certificateInfoMap.lookup name = some info) :
      ∃ info', told.certificateInfoMap.lookup name = some info' :=
    map ▸ exists_lookup_modifyInfo here
  have toldInfo (name : String) :
      told.certInfo name = (distributor.modifyInfo certName clear).certInfo name := by
    unfold certInfo
    rw [map]
  obtain ⟨_, here⟩ := present found
  refine ⟨told, all, ?_, fun name => ?_, fun name info there => ?_, fun watcher => ?_⟩
  · exact (clears.trans tells).trans (quiet_modifyInfo here keepsSet)
  · rw [certInfo_modify here, toldInfo, toldInfo, certInfo_modify found, certInfo_modify found,
      if_pos rfl]
    split
    case isTrue => rfl
    case isFalse different => rfl
  · obtain ⟨_, there⟩ := present there
    exact exists_lookup_modifyInfo there
  · refine (lookup watcher).trans ?_
    by_cases there : distributor.certNameOf watcher side = some certName
    · rw [if_pos there, if_pos ((within watcher).mpr there)]
      rfl
    · rw [if_neg there, if_neg fun within' => there ((within watcher).mp within')]
      rfl

end Provider

theorem certInfo_of_map (sameMap : distributor'.certificateInfoMap =
    distributor.certificateInfoMap) : distributor'.certInfo name = distributor.certInfo name := by
  unfold certInfo
  rw [sameMap]

end CertificateDistributor

end GrpcCore.Security
