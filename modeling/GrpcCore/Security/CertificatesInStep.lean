import GrpcCore.Lib.Run
import GrpcCore.Security.CertificateWatches

/-!
# Watchers and provider in step

A distributor with what it has told: the watch status callback knows what is watched, and the
watchers know what there is.
-/

namespace GrpcCore.Security

open Machine

namespace CertificateDistributor

section Views

variable (distributor : CertificateDistributor)

def lastStatus (certName : String) : Bool × Bool :=
  (distributor.watchStatusCalls.lookup certName).getD (false, false)

/-- Whether there are watchers of the root and of the identity certificates of a name. -/
def watchStatus (certName : String) : Bool × Bool :=
  (decide ((distributor.certInfo certName).rootCertWatchers ≠ []),
    decide ((distributor.certInfo certName).identityCertWatchers ≠ []))

def Reported : Prop := ∀ certName, distributor.lastStatus certName = distributor.watchStatus certName

/-- The provider and the watchers of a distributor have been told how things are, and its two
maps agree. -/
structure InStep : Prop where
  rootStatus : ∀ certName, (distributor.lastStatus certName).1 = true ↔
    ∃ watcher, distributor.certNameOf watcher .root = some certName
  identityStatus : ∀ certName, (distributor.lastStatus certName).2 = true ↔
    ∃ watcher, distributor.certNameOf watcher .identity = some certName
  certificates : ∀ watcher info, distributor.watchers.lookup watcher = some info →
    info.certificates.1.getD "" = distributor.rootCertsOf watcher ∧
      info.certificates.2.getD [] = distributor.keyCertPairsOf watcher
  entries : ∀ watcher side certName, distributor.certNameOf watcher side = some certName →
    (distributor.certificateInfoMap.lookup certName).isSome
  sets : ∀ certName side watcher,
    watcher ∈ (distributor.certInfo certName).watchers side ↔
      distributor.certNameOf watcher side = some certName

/-- A watcher of both sides of one name finds both of them watched or neither. -/
def Balanced : Action → Prop
  | .watch _ (some rootCertName) (some identityCertName) =>
    rootCertName = identityCertName →
      ((distributor.certInfo rootCertName).rootCertWatchers = [] ↔
        (distributor.certInfo rootCertName).identityCertWatchers = [])
  | _ => True

end Views

variable {distributor distributor' : CertificateDistributor} {certName : String}

section Statuses

variable {name : Option String} {changed rootBeingWatched identityBeingWatched : Bool}

@[simp]
theorem lastStatus_watchStatusChanged :
    (distributor.watchStatusChanged name changed rootBeingWatched
      identityBeingWatched).lastStatus certName =
      if name = some certName ∧ changed = true then (rootBeingWatched, identityBeingWatched)
      else distributor.lastStatus certName := by
  unfold watchStatusChanged lastStatus
  cases name with
  | none => simp
  | some other =>
    cases changed with
    | false => simp
    | true =>
      by_cases same : certName = other
      · simp [watchStatusCallback, same]
      · simp [watchStatusCallback, same, Ne.symm same, List.lookup_cons, beq_eq_false_iff_ne.mpr]

@[simp]
theorem watchers_watchStatusChanged :
    (distributor.watchStatusChanged name changed rootBeingWatched
      identityBeingWatched).watchers = distributor.watchers := by
  cases name <;> cases changed <;> rfl

@[simp]
theorem certificateInfoMap_watchStatusChanged :
    (distributor.watchStatusChanged name changed rootBeingWatched
      identityBeingWatched).certificateInfoMap = distributor.certificateInfoMap := by
  cases name <;> cases changed <;> rfl

theorem lastStatus_of_calls
    (same : distributor'.watchStatusCalls = distributor.watchStatusCalls) :
    distributor'.lastStatus certName = distributor.lastStatus certName := by
  unfold lastStatus
  rw [same]

section

variable (watchers : distributor'.watchers = distributor.watchers)
  (map : distributor'.certificateInfoMap = distributor.certificateInfoMap)
include watchers map

theorem linked_of_maps (linked : distributor.Linked) : distributor'.Linked := by
  intro certName side watcher
  have before := linked certName side watcher
  unfold certNameOf certInfo at before ⊢
  rw [watchers, map]
  exact before

theorem told_of_maps (told : distributor.Told) : distributor'.Told := by
  intro watcher info found
  rw [watchers] at found
  have before := told watcher info found
  unfold rootCertsOf keyCertPairsOf certNameOf certInfo at before ⊢
  rw [watchers, map]
  exact before

end

theorem watchStatus_of_map (map : distributor'.certificateInfoMap = distributor.certificateInfoMap) :
    distributor'.watchStatus certName = distributor.watchStatus certName := by
  unfold watchStatus certInfo
  rw [map]

theorem Quiet.reported_iff (quiet : Quiet distributor distributor') :
    distributor'.Reported ↔ distributor.Reported := by
  refine forall_congr' fun certName => ?_
  have roots : (distributor'.certInfo certName).rootCertWatchers =
      (distributor.certInfo certName).rootCertWatchers := quiet.sides certName .root
  have identities : (distributor'.certInfo certName).identityCertWatchers =
      (distributor.certInfo certName).identityCertWatchers := quiet.sides certName .identity
  unfold watchStatus
  rw [lastStatus_of_calls quiet.calls, roots, identities]

end Statuses

section Watches

variable {watcher : Nat} {rootCertName identityCertName : Option String}

theorem Watching.watchStatus_eq
    (watching : Watching distributor watcher rootCertName identityCertName distributor')
    (certName : String) :
    distributor'.watchStatus certName =
      (decide (rootCertName = some certName) || (distributor.watchStatus certName).1,
        decide (identityCertName = some certName) || (distributor.watchStatus certName).2) := by
  have roots : (distributor'.certInfo certName).rootCertWatchers =
      if rootCertName = some certName then
        (distributor.certInfo certName).rootCertWatchers.insert watcher
      else (distributor.certInfo certName).rootCertWatchers := watching.sides certName .root
  have identities : (distributor'.certInfo certName).identityCertWatchers =
      if identityCertName = some certName then
        (distributor.certInfo certName).identityCertWatchers.insert watcher
      else (distributor.certInfo certName).identityCertWatchers := watching.sides certName .identity
  have inserted (watchers : List Nat) : watchers.insert watcher ≠ [] :=
    List.ne_nil_of_mem (List.mem_insert_self ..)
  unfold watchStatus
  rw [roots, identities]
  by_cases root : rootCertName = some certName
  · by_cases identity : identityCertName = some certName
    · simp [root, identity, inserted]
    · simp [root, identity, inserted]
  · by_cases identity : identityCertName = some certName
    · simp [root, identity, inserted]
    · simp [root, identity]

theorem watch_inStep (linked : distributor.Linked) (told : distributor.Told)
    (absent : distributor.watchers.lookup watcher = none)
    (named : rootCertName ≠ none ∨ identityCertName ≠ none) :
    ∃ distributor', distributor.watchTlsCertificates watcher rootCertName identityCertName =
        some distributor' ∧ distributor'.Linked ∧ distributor'.Told ∧
      (distributor.Reported → (distributor'.Reported ↔
        distributor.Balanced (.watch watcher rootCertName identityCertName))) := by
  obtain ⟨middle, startRoot, alreadyIdentity, startIdentity, alreadyRoot, done, watching, noRoot,
    noIdentity, roots, identities⟩ := watchTlsCertificates_spec absent named
  have linked' := watching.linked linked absent
  have told' := watching.told told
  have status := watching.watchStatus_eq
  have last {certName : String} (reported : distributor.Reported) :
      middle.lastStatus certName = distributor.watchStatus certName :=
    (lastStatus_of_calls watching.calls).trans (reported certName)
  split at done
  case isTrue both =>
    obtain ⟨rfl, started⟩ := both
    refine ⟨_, done, linked_of_maps watchers_watchStatusChanged
      certificateInfoMap_watchStatusChanged linked', told_of_maps watchers_watchStatusChanged
      certificateInfoMap_watchStatusChanged told', fun reported => ?_⟩
    cases rootCertName with
    | none => exact (named.elim (fun some_ => some_ rfl) fun some_ => some_ rfl).elim
    | some name =>
      obtain ⟨root, -⟩ := roots name rfl
      obtain ⟨identity, -⟩ := identities name rfl
      -- the call of the name says `startRoot` and `startIdentity`, and both sides are watched
      have called : Reported (middle.watchStatusChanged (some name) true startRoot startIdentity) ↔
          startRoot = true ∧ startIdentity = true := by
        constructor
        · intro reported'
          have here := reported' name
          rw [lastStatus_watchStatusChanged, if_pos ⟨rfl, rfl⟩,
            watchStatus_of_map certificateInfoMap_watchStatusChanged, status] at here
          simpa using here
        · rintro ⟨rfl, rfl⟩ certName
          rw [lastStatus_watchStatusChanged, watchStatus_of_map certificateInfoMap_watchStatusChanged,
            status, last reported]
          by_cases here : some name = some certName
          · simp [here]
          · simp [here]
      rw [called]
      refine Iff.trans ?_ (forall_prop_of_true rfl).symm
      rw [root, identity] at started ⊢
      simp only [Bool.or_eq_true, decide_eq_true_eq] at started ⊢
      constructor
      · rintro ⟨noRoots, noIdentities⟩
        exact iff_of_true noRoots noIdentities
      · intro same
        exact started.elim (fun none => ⟨none, same.mp none⟩) fun none => ⟨same.mpr none, none⟩
  case isFalse separate =>
    refine ⟨_, done, linked_of_maps (by simp) (by simp) linked', told_of_maps (by simp) (by simp) told',
      fun reported => iff_of_true (fun certName => ?_) ?_⟩
    · rw [lastStatus_watchStatusChanged, lastStatus_watchStatusChanged, last reported,
        watchStatus_of_map (certificateInfoMap_watchStatusChanged.trans
          certificateInfoMap_watchStatusChanged), status]
      unfold watchStatus
      by_cases root : rootCertName = some certName
      · obtain ⟨rootIs, already⟩ := roots certName root
        by_cases identity : identityCertName = some certName
        · have none : ¬ (startRoot || startIdentity) = true := fun started =>
            separate ⟨root.trans identity.symm, started⟩
          simp_all
        · rw [if_neg fun both => identity both.1, rootIs, already]
          by_cases first : (distributor.certInfo certName).rootCertWatchers = []
          · simp [root, identity, first]
          · simp [root, identity, first]
      · by_cases identity : identityCertName = some certName
        · obtain ⟨identityIs, already⟩ := identities certName identity
          rw [identityIs, already root]
          by_cases first : (distributor.certInfo certName).identityCertWatchers = []
          · simp [root, identity, first]
          · simp [root, identity, first]
        · simp [root, identity]
    · cases rootCertName with
      | none => exact trivial
      | some name =>
        cases identityCertName with
        | none => exact trivial
        | some =>
          intro same
          subst same
          obtain ⟨root, -⟩ := roots name rfl
          obtain ⟨identity, -⟩ := identities name rfl
          have none : ¬ (startRoot || startIdentity) = true := fun started =>
            separate ⟨rfl, started⟩
          rw [root, identity] at none
          simp only [Bool.or_eq_true, decide_eq_true_eq, not_or] at none
          exact iff_of_false none.1 none.2

theorem Cancelled.sides_elsewhere (cancelled : Cancelled distributor watcher distributor')
    {side : Side} (elsewhere : distributor.certNameOf watcher side ≠ some certName) :
    (distributor'.certInfo certName).watchers side =
      (distributor.certInfo certName).watchers side := by
  rw [cancelled.sides, if_neg elsewhere]

theorem cancel_inStep (linked : distributor.Linked) (told : distributor.Told) :
    ∃ distributor', distributor.cancelTlsCertificatesWatch watcher = some distributor' ∧
      distributor'.Linked ∧ distributor'.Told ∧ (distributor.Reported → distributor'.Reported) := by
  cases found : distributor.watchers.lookup watcher with
  | none =>
    refine ⟨distributor, ?_, linked, told, id⟩
    unfold cancelTlsCertificatesWatch
    rw [found]
  | some info =>
    obtain ⟨middle, stopRoot, alreadyIdentity, stopIdentity, alreadyRoot, done, cancelled, noRoot,
      noIdentity, roots, identities⟩ := cancelTlsCertificatesWatch_spec linked found
    have linked' := cancelled.linked linked
    have told' := cancelled.told linked told
    have names (side : Side) : distributor.certNameOf watcher side = info.certName side := by
      unfold certNameOf
      rw [found]
      rfl
    have watched {certName : String} (side : Side) (named : info.certName side = some certName) :
        (distributor.certInfo certName).watchers side ≠ [] :=
      List.ne_nil_of_mem ((linked certName side watcher).mpr ((names side).trans named))
    have rootKept {certName : String} (elsewhere : info.rootCertName ≠ some certName) :
        (middle.certInfo certName).rootCertWatchers =
          (distributor.certInfo certName).rootCertWatchers :=
      cancelled.sides_elsewhere (fun named => elsewhere ((names .root).symm.trans named))
    have identityKept {certName : String} (elsewhere : info.identityCertName ≠ some certName) :
        (middle.certInfo certName).identityCertWatchers =
          (distributor.certInfo certName).identityCertWatchers :=
      cancelled.sides_elsewhere (fun named => elsewhere ((names .identity).symm.trans named))
    have rootWatched {certName : String} (named : info.rootCertName = some certName) :
        (distributor.certInfo certName).rootCertWatchers ≠ [] := watched .root named
    have identityWatched {certName : String} (named : info.identityCertName = some certName) :
        (distributor.certInfo certName).identityCertWatchers ≠ [] := watched .identity named
    have last {certName : String} (reported : distributor.Reported) :
        middle.lastStatus certName = distributor.watchStatus certName :=
      (lastStatus_of_calls cancelled.calls).trans (reported certName)
    split at done
    case isTrue both =>
      refine ⟨_, done, linked_of_maps (by simp) (by simp) linked',
        told_of_maps (by simp) (by simp) told', fun reported certName => ?_⟩
      rw [lastStatus_watchStatusChanged, last reported,
        watchStatus_of_map certificateInfoMap_watchStatusChanged]
      unfold watchStatus
      by_cases root : info.rootCertName = some certName
      · have identity : info.identityCertName = some certName := both.1.symm.trans root
        rw [if_pos ⟨root, rfl⟩, (roots certName root).1, (identities certName identity).1]
        simp
      · rw [if_neg fun here => root here.1, rootKept root,
          identityKept fun identity => root (both.1.trans identity)]
    case isFalse separate =>
      refine ⟨_, done, linked_of_maps (by simp) (by simp) linked',
        told_of_maps (by simp) (by simp) told', fun reported certName => ?_⟩
      rw [lastStatus_watchStatusChanged, lastStatus_watchStatusChanged, last reported,
        watchStatus_of_map (certificateInfoMap_watchStatusChanged.trans
          certificateInfoMap_watchStatusChanged)]
      unfold watchStatus
      by_cases root : info.rootCertName = some certName
      · obtain ⟨rootIs, already⟩ := roots certName root
        have before := rootWatched root
        by_cases identity : info.identityCertName = some certName
        · simp_all
        · rw [if_neg fun here => identity here.1, rootIs, already, identityKept identity]
          by_cases gone : (middle.certInfo certName).rootCertWatchers = []
          · simp [root, gone]
          · simp [gone, before]
      · by_cases identity : info.identityCertName = some certName
        · obtain ⟨identityIs, already⟩ := identities certName identity
          have before := identityWatched identity
          rw [identityIs, already, rootKept root]
          by_cases gone : (middle.certInfo certName).identityCertWatchers = []
          · simp [identity, gone]
          · simp [root, gone, before]
        · rw [rootKept root, identityKept identity]
          simp [root, identity]

end Watches

section Runs

theorem inStep_iff (linked : distributor.Linked) (told : distributor.Told) :
    distributor.InStep ↔ distributor.Reported := by
  have watched (certName : String) (side : Side) :
      (distributor.certInfo certName).watchers side ≠ [] ↔
        ∃ watcher, distributor.certNameOf watcher side = some certName := by
    constructor
    · intro some_
      obtain ⟨watcher, within⟩ := List.exists_mem_of_ne_nil _ some_
      exact ⟨watcher, (linked certName side watcher).mp within⟩
    · rintro ⟨watcher, named⟩
      exact List.ne_nil_of_mem ((linked certName side watcher).mpr named)
  have roots (certName : String) : (distributor.watchStatus certName).1 = true ↔
      ∃ watcher, distributor.certNameOf watcher .root = some certName :=
    decide_eq_true_iff.trans (watched certName .root)
  have identities (certName : String) : (distributor.watchStatus certName).2 = true ↔
      ∃ watcher, distributor.certNameOf watcher .identity = some certName :=
    decide_eq_true_iff.trans (watched certName .identity)
  constructor
  · intro inStep certName
    refine Prod.ext (Bool.eq_iff_iff.mpr ?_) (Bool.eq_iff_iff.mpr ?_)
    · exact (inStep.rootStatus certName).trans (roots certName).symm
    · exact (inStep.identityStatus certName).trans (identities certName).symm
  · intro reported
    refine ⟨fun certName => ?_, fun certName => ?_, told, fun watcher side certName named => ?_,
      linked⟩
    · rw [reported certName]
      exact roots certName
    · rw [reported certName]
      exact identities certName
    · obtain ⟨info, found⟩ := linked.present named
      rw [found]
      rfl

variable {action : Action}

theorem act_inStep (linked : distributor.Linked) (told : distributor.Told)
    (allowed : distributor.Allowed action) :
    ∃ distributor', distributor.act action = some distributor' ∧ distributor'.Linked ∧
      distributor'.Told ∧
      (distributor.Reported → (distributor'.Reported ↔ distributor.Balanced action)) := by
  have provided : distributor.Informs (distributor.act action) → distributor.Balanced action →
      ∃ distributor', distributor.act action = some distributor' ∧ distributor'.Linked ∧
        distributor'.Told ∧
        (distributor.Reported → (distributor'.Reported ↔ distributor.Balanced action)) := by
    rintro ⟨distributor', done, quiet, told'⟩ balanced
    exact ⟨distributor', done, quiet.linked linked, told', fun reported =>
      iff_of_true (quiet.reported_iff.mpr reported) balanced⟩
  cases action with
  | watch =>
    exact watch_inStep linked told allowed.2 allowed.1
  | cancel =>
    obtain ⟨distributor', done, linked', told', reported'⟩ := cancel_inStep linked told
    exact ⟨distributor', done, linked', told', fun reported =>
      iff_of_true (reported' reported) trivial⟩
  | setKeyMaterials certName =>
    exact provided (setKeyMaterials_spec certName linked told allowed) trivial
  | setErrorForCert certName =>
    exact provided (setErrorForCert_spec certName linked told allowed) trivial
  | setError => exact provided (setError_spec told allowed) trivial

/-- No assertion has failed, the maps agree and the watchers know what there is. -/
def Sound (state : Option CertificateDistributor) : Prop :=
  ∃ distributor, state = some distributor ∧ distributor.Linked ∧ distributor.Told

/-- No assertion has failed, and everything is in step. -/
def Synchronized (state : Option CertificateDistributor) : Prop :=
  ∃ distributor, state = some distributor ∧ distributor.InStep

/-- No assertion has failed yet, and a new watcher of both sides of one name finds both of them
watched or neither. -/
def WatchesBalanced (state : Option CertificateDistributor) (action : Action) : Prop :=
  ∃ distributor, state = some distributor ∧ distributor.Balanced action

theorem sound_created : Sound (some created) := by
  refine ⟨created, rfl, fun certName side watcher => ?_, nofun⟩
  cases side with
  | root => exact iff_of_false nofun nofun
  | identity => exact iff_of_false nofun nofun

variable {state' state : Option CertificateDistributor}

theorem step_cases (sound : Sound state) (taken : step state action = some state') :
    ∃ distributor distributor', state = some distributor ∧ state' = some distributor' ∧
      distributor.Linked ∧ distributor.Told ∧ distributor'.Linked ∧ distributor'.Told ∧
      (distributor.Reported → (distributor'.Reported ↔ distributor.Balanced action)) := by
  obtain ⟨distributor, rfl, linked, told⟩ := sound
  obtain ⟨allowed, acted⟩ := Option.ite_none_right_eq_some.mp taken
  obtain ⟨distributor', done, linked', told', reported⟩ := act_inStep linked told allowed
  refine ⟨distributor, distributor', rfl, ?_, linked, told, linked', told', reported⟩
  rw [← done]
  exact (Option.some.inj acted).symm

theorem Sound.step (sound : Sound state) (taken : step state action = some state') :
    Sound state' := by
  obtain ⟨_, distributor', _, is', _, _, linked', told', _⟩ := step_cases sound taken
  exact ⟨distributor', is', linked', told'⟩

theorem synchronized_step_iff (sound : Sound state) (synchronized : Synchronized state)
    (taken : step state action = some state') :
    Synchronized state' ↔ WatchesBalanced state action := by
  obtain ⟨distributor, distributor', rfl, rfl, linked, told, linked', told', reported⟩ :=
    step_cases sound taken
  obtain ⟨_, same, inStep⟩ := synchronized
  obtain rfl := Option.some.inj same
  have now := reported ((inStep_iff linked told).mp inStep)
  constructor
  · rintro ⟨_, same', inStep'⟩
    obtain rfl := Option.some.inj same'
    exact ⟨distributor, rfl, now.mp ((inStep_iff linked' told').mp inStep')⟩
  · rintro ⟨_, same, balanced⟩
    obtain rfl := Option.some.inj same
    exact ⟨distributor', rfl, (inStep_iff linked' told').mpr (now.mpr balanced)⟩

theorem synchronized_created : Synchronized (some created) := by
  obtain ⟨_, same, linked, told⟩ := sound_created
  obtain rfl := Option.some.inj same
  exact ⟨created, rfl, (inStep_iff linked told).mpr fun _ => rfl⟩

/-- Watchers and provider are in step, and no assertion fails, after every call of exactly the
runs in which a watcher of both sides of one name always finds both of them watched or neither. -/
theorem synchronized_iff_balanced (actions : List Action) (final : Option CertificateDistributor) :
    Run step WatchesBalanced (some created) actions final ↔
      Reach step (some created) actions final ∧
        ∀ done later, actions = done ++ later → ∀ middle,
          Reach step (some created) done middle → Synchronized middle := by
  have preserved {state action state'} (sound : Sound state)
      (taken : step state action = some state') : Sound state' := sound.step taken
  exact Run.iff_always preserved synchronized_step_iff sound_created synchronized_created actions
    final

/-- A watcher of both sides of a name of which the root certificates are watched: the provider is
told that only the identity certificates are. -/
theorem root_watch_forgotten :
    ∃ distributor, Reach step (some created)
        [.watch 0 (some "a") none, .watch 1 (some "a") (some "a")] (some distributor) ∧
      ¬ Synchronized (some distributor) := by
  obtain ⟨state, reach, seen⟩ := exists_reach step (some created)
    [.watch 0 (some "a") none, .watch 1 (some "a") (some "a")]
    (fun state => state.map fun distributor =>
      (distributor.lastStatus "a", distributor.certNameOf 0 .root))
    (some ((false, true), some "a")) (by decide)
  obtain ⟨distributor, rfl, viewed⟩ := Option.map_eq_some_iff.mp seen
  obtain ⟨status, watched⟩ := Prod.mk.inj viewed
  refine ⟨distributor, reach, ?_⟩
  rintro ⟨_, same, inStep⟩
  obtain rfl := Option.some.inj same
  have told := (inStep.rootStatus "a").mpr ⟨0, watched⟩
  rw [status] at told
  cases told

/-- No assertion fails in any run, and after every call each watcher has been told of the
certificates of the names it watches, whatever the provider knows. -/
theorem watchers_told {actions : List Action} {final : Option CertificateDistributor}
    (reach : Reach step (some created) actions final) :
    ∃ distributor, final = some distributor ∧
      ∀ watcher info, distributor.watchers.lookup watcher = some info →
        info.certificates.1.getD "" = distributor.rootCertsOf watcher ∧
          info.certificates.2.getD [] = distributor.keyCertPairsOf watcher := by
  have sound := reach.invariant (fun sound _ taken => Sound.step sound taken) sound_created
  obtain ⟨distributor, same, _, told⟩ := sound
  exact ⟨distributor, same, told⟩

theorem watchers_told_twice : ∃ distributor : CertificateDistributor,
    distributor.certNameOf 0 .root = some "a" ∧
      ∀ watcher info, distributor.watchers.lookup watcher = some info →
        info.certificates.1.getD "" = distributor.rootCertsOf watcher ∧
          info.certificates.2.getD [] = distributor.keyCertPairsOf watcher := by
  obtain ⟨state, reach, seen⟩ := exists_reach step (some created)
    [.watch 0 (some "a") none, .watch 1 (some "a") (some "a")]
    (·.map fun distributor => distributor.certNameOf 0 .root) (some (some "a")) (by decide)
  obtain ⟨distributor, rfl, told⟩ := watchers_told reach
  exact ⟨distributor, Option.some.inj seen, told⟩

end Runs

end CertificateDistributor

end GrpcCore.Security
