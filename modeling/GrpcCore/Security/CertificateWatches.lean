import GrpcCore.Security.CertificateStatuses

/-!
# Watches of certificates

A new watch and a cancelled one leave the two maps in agreement and the watchers informed.
-/

namespace GrpcCore.Security

open OrderedMap

namespace CertificateDistributor

variable {distributor distributor' : CertificateDistributor}
  {rootCertName identityCertName : Option String} {watcher : Nat}

section Notify

theorem certificateInfoMap_notifyWatcher :
    (distributor.notifyWatcher watcher rootCertName identityCertName).certificateInfoMap =
      distributor.certificateInfoMap := by
  unfold notifyWatcher
  dsimp only
  split <;> split <;> rfl

theorem watchStatusCalls_notifyWatcher :
    (distributor.notifyWatcher watcher rootCertName identityCertName).watchStatusCalls =
      distributor.watchStatusCalls := by
  unfold notifyWatcher
  dsimp only
  split <;> split <;> rfl

theorem lookup_notifyWatcher (rootCertName identityCertName : Option String) {info : WatcherInfo}
    (found : distributor.watchers.lookup watcher = some info)
    (untold : info.certificates = (none, none)) :
    ∃ errors, ∀ watcher',
      (distributor.notifyWatcher watcher rootCertName identityCertName).watchers.lookup watcher' =
        if watcher' = watcher then
          some { info with
            certificates := (rootCertName.bind distributor.rootCertsToReport,
              identityCertName.bind distributor.keyCertPairsToReport)
            errors := errors }
        else distributor.watchers.lookup watcher' := by
  have changed : ∃ distributor', (∀ watcher', distributor'.watchers.lookup watcher' =
        if watcher' = watcher then
          some { info with
            certificates := (rootCertName.bind distributor.rootCertsToReport,
              identityCertName.bind distributor.keyCertPairsToReport) }
        else distributor.watchers.lookup watcher') ∧
      distributor' =
        if rootCertName.bind distributor.rootCertsToReport ≠ none ∨
          identityCertName.bind distributor.keyCertPairsToReport ≠ none then
          distributor.onCertificatesChanged watcher
            (rootCertName.bind distributor.rootCertsToReport)
            (identityCertName.bind distributor.keyCertPairsToReport)
        else distributor := by
    refine ⟨_, fun watcher' => ?_, rfl⟩
    split
    case isTrue =>
      unfold onCertificatesChanged
      rw [lookup_modifyWatcher, found]
      rfl
    case isFalse nothing =>
      obtain ⟨noRoot, noIdentity⟩ := not_or.mp nothing
      rw [not_not.mp noRoot, not_not.mp noIdentity, ← untold]
      split
      case isTrue same => rw [same, found]
      case isFalse => rfl
  obtain ⟨distributor', lookup, is⟩ := changed
  unfold notifyWatcher
  dsimp only
  rw [← is]
  split
  case isTrue =>
    refine ⟨(rootCertName.bind fun name => (distributor.certInfo name).rootCertError,
      identityCertName.bind fun name => (distributor.certInfo name).identityCertError),
      fun watcher' => ?_⟩
    unfold onError
    rw [lookup_modifyWatcher, lookup, lookup, if_pos rfl]
    split
    · rfl
    · rfl
  case isFalse =>
    refine ⟨info.errors, fun watcher' => ?_⟩
    exact lookup watcher'

end Notify

section Watching

def untold (rootCertName identityCertName : Option String) : WatcherInfo :=
  ⟨(none, none), (none, none), rootCertName, identityCertName⟩

structure Watching (distributor : CertificateDistributor) (watcher : Nat)
    (rootCertName identityCertName : Option String) (distributor' : CertificateDistributor) :
    Prop where
  calls : distributor'.watchStatusCalls = distributor.watchStatusCalls
  names : ∀ watcher' side, distributor'.certNameOf watcher' side =
    if watcher' = watcher then (untold rootCertName identityCertName).certName side
    else distributor.certNameOf watcher' side
  sides : ∀ certName side, (distributor'.certInfo certName).watchers side =
    if (untold rootCertName identityCertName).certName side = some certName then
      ((distributor.certInfo certName).watchers side).insert watcher
    else (distributor.certInfo certName).watchers side
  told : distributor.Told → distributor'.Told

theorem Watching.linked
    (watching : Watching distributor watcher rootCertName identityCertName distributor')
    (linked : distributor.Linked) (absent : distributor.watchers.lookup watcher = none) :
    distributor'.Linked := by
  intro certName side watcher'
  have unnamed : distributor.certNameOf watcher side = none := by
    unfold certNameOf
    rw [absent]
    rfl
  have before := linked certName side watcher'
  rw [watching.sides, watching.names]
  by_cases same : watcher' = watcher
  · subst same
    rw [unnamed] at before
    rw [if_pos rfl]
    split
    case isTrue named => exact iff_of_true (List.mem_insert_self ..) named
    case isFalse other => exact iff_of_false (fun within => nomatch before.mp within) other
  · split
    case isTrue => exact (List.mem_insert_iff.trans (or_iff_right same)).trans before
    case isFalse => exact before

theorem watchTlsCertificates_spec (absent : distributor.watchers.lookup watcher = none)
    (named : rootCertName ≠ none ∨ identityCertName ≠ none) :
    ∃ distributor' startRoot alreadyIdentity startIdentity alreadyRoot,
      distributor.watchTlsCertificates watcher rootCertName identityCertName =
        (if rootCertName = identityCertName ∧ (startRoot || startIdentity) = true then
          some (distributor'.watchStatusChanged rootCertName true startRoot startIdentity)
        else
          some ((distributor'.watchStatusChanged rootCertName startRoot true
            alreadyIdentity).watchStatusChanged identityCertName startIdentity alreadyRoot true)) ∧
      Watching distributor watcher rootCertName identityCertName distributor' ∧
      (rootCertName = none → startRoot = false) ∧
      (identityCertName = none → startIdentity = false) ∧
      (∀ certName, rootCertName = some certName →
        startRoot = decide ((distributor.certInfo certName).rootCertWatchers = []) ∧
          alreadyIdentity = decide ((distributor.certInfo certName).identityCertWatchers ≠ [])) ∧
      ∀ certName, identityCertName = some certName →
        startIdentity = decide ((distributor.certInfo certName).identityCertWatchers = []) ∧
          (rootCertName ≠ some certName →
            alreadyRoot = decide ((distributor.certInfo certName).rootCertWatchers ≠ [])) := by
  generalize entered : ({ distributor with
    watchers := emplace watcher (untold rootCertName identityCertName)
      distributor.watchers } : CertificateDistributor) = registered
  have lookup (watcher' : Nat) : registered.watchers.lookup watcher' =
      if watcher' = watcher then some (untold rootCertName identityCertName)
      else distributor.watchers.lookup watcher' := by
    rw [← entered]
    exact lookup_emplace absent
  have infos (certName : String) : registered.certInfo certName = distributor.certInfo certName := by
    rw [← entered]
    rfl
  have first := startWatching_spec registered .root watcher rootCertName
  generalize began : registered.startWatching .root watcher rootCertName = started at first
  obtain ⟨middle, startRoot, alreadyIdentity⟩ := started
  have second := startWatching_spec middle .identity watcher identityCertName
  generalize finished : middle.startWatching .identity watcher identityCertName = started at second
  obtain ⟨distributor', startIdentity, alreadyRoot⟩ := started
  dsimp only at first second
  have lookup' (watcher' : Nat) : distributor'.watchers.lookup watcher' =
      if watcher' = watcher then some (untold rootCertName identityCertName)
      else distributor.watchers.lookup watcher' := by
    rw [second.watchers, first.watchers]
    exact lookup watcher'
  obtain ⟨errors, notified⟩ := lookup_notifyWatcher rootCertName identityCertName
    ((lookup' watcher).trans (if_pos rfl)) rfl
  generalize told : distributor'.notifyWatcher watcher rootCertName identityCertName = final
    at notified
  have sameInfo (certName : String) : final.certInfo certName = distributor'.certInfo certName := by
    rw [← told]
    exact certInfo_of_map certificateInfoMap_notifyWatcher
  have names (watcher' : Nat) (side : Side) : final.certNameOf watcher' side =
      if watcher' = watcher then (untold rootCertName identityCertName).certName side
      else distributor.certNameOf watcher' side := by
    unfold certNameOf
    rw [notified, lookup']
    split
    case isTrue => cases side <;> rfl
    case isFalse => rfl
  refine ⟨final, startRoot, alreadyIdentity, startIdentity, alreadyRoot, ?_, ⟨?_, names, ?_, ?_⟩,
    first.absent, second.absent, fun certName same => ?_, fun certName same => ?_⟩
  · unfold watchTlsCertificates
    rw [if_neg fun none => named.elim (fun some_ => some_ none.1) fun some_ => some_ none.2, absent,
      if_neg nofun]
    unfold untold at entered
    dsimp only
    rw [entered, began]
    rw [finished]
    rw [told]
  · rw [← told, watchStatusCalls_notifyWatcher, second.calls, first.calls, ← entered]
  · intro certName side
    rw [sameInfo, second.sides, first.sides, infos]
    cases side with
    | root =>
      rw [if_neg fun both => nomatch both.2]
      exact if_congr (and_iff_left rfl) rfl rfl
    | identity =>
      rw [if_neg (fun both => nomatch both.2 : ¬ (rootCertName = some certName ∧ _))]
      exact if_congr (and_iff_left rfl) rfl rfl
  · intro informed watcher' info found
    rw [notified] at found
    have reports : final.rootCertsToReport = distributor'.rootCertsToReport := by
      funext certName
      unfold rootCertsToReport
      rw [sameInfo]
    have reports' : final.keyCertPairsToReport = distributor'.keyCertPairsToReport := by
      funext certName
      unfold keyCertPairsToReport
      rw [sameInfo]
    split at found
    case isTrue same =>
      obtain rfl := Option.some.inj found
      rw [← getD_bind_rootCertsToReport, ← getD_bind_keyCertPairsToReport, names, names, if_pos same,
        if_pos same, reports, reports']
      exact ⟨rfl, rfl⟩
    case isFalse other =>
      rw [lookup', if_neg other] at found
      obtain ⟨roots, pairs⟩ := informed watcher' info found
      rw [roots, pairs]
      unfold rootCertsOf keyCertPairsOf
      rw [names, names, if_neg other, if_neg other]
      constructor
      · cases distributor.certNameOf watcher' .root with
        | none => rfl
        | some =>
          dsimp only
          rw [sameInfo, second.roots, first.roots, infos]
      · cases distributor.certNameOf watcher' .identity with
        | none => rfl
        | some =>
          dsimp only
          rw [sameInfo, second.pairs, first.pairs, infos]
  · rw [← infos]
    exact first.named certName same
  · obtain ⟨start, already⟩ := second.named certName same
    refine ⟨?_, fun different => ?_⟩
    · have identities : (middle.certInfo certName).watchers .identity =
          (distributor.certInfo certName).identityCertWatchers := by
        rw [first.sides, if_neg fun both => nomatch both.2]
        exact congrArg CertificateInfo.identityCertWatchers (infos certName)
      rw [start, identities]
    · have roots : (middle.certInfo certName).watchers .root =
          (distributor.certInfo certName).rootCertWatchers := by
        rw [first.sides, if_neg fun both => different both.1, infos]
        rfl
      rw [already]
      exact congrArg (fun watchers => decide (watchers ≠ [])) roots

end Watching

section Cancelling

structure Cancelled (distributor : CertificateDistributor) (watcher : Nat)
    (distributor' : CertificateDistributor) : Prop where
  calls : distributor'.watchStatusCalls = distributor.watchStatusCalls
  lookup : ∀ watcher', distributor'.watchers.lookup watcher' =
    if watcher' = watcher then none else distributor.watchers.lookup watcher'
  sides : ∀ certName side, (distributor'.certInfo certName).watchers side =
    if distributor.certNameOf watcher side = some certName then
      ((distributor.certInfo certName).watchers side).filter (· ≠ watcher)
    else (distributor.certInfo certName).watchers side
  materials : ∀ certName side, (distributor'.certInfo certName).watchers side ≠ [] →
    (distributor'.certInfo certName).pemRootCerts =
        (distributor.certInfo certName).pemRootCerts ∧
      (distributor'.certInfo certName).pemKeyCertPairs =
        (distributor.certInfo certName).pemKeyCertPairs

section

variable (cancelled : Cancelled distributor watcher distributor')
include cancelled

theorem Cancelled.names (watcher' : Nat) (side : Side) : distributor'.certNameOf watcher' side =
      if watcher' = watcher then none else distributor.certNameOf watcher' side := by
  unfold certNameOf
  rw [cancelled.lookup]
  split
  · rfl
  · rfl

theorem Cancelled.linked (linked : distributor.Linked) : distributor'.Linked := by
  intro certName side watcher'
  have before := linked certName side watcher'
  rw [cancelled.sides, cancelled.names]
  by_cases same : watcher' = watcher
  · subst same
    rw [if_pos rfl]
    refine iff_of_false (fun within => ?_) nofun
    split at within
    case isTrue => simp at within
    case isFalse other => exact other (before.mp within)
  · split
    case isTrue =>
      refine Iff.trans ?_ before
      simp [same]
    case isFalse => exact before

theorem Cancelled.told (linked : distributor.Linked) (told : distributor.Told) :
    distributor'.Told := by
  intro watcher' info found
  have linked' := cancelled.linked linked
  have kept {certName : String} {side : Side}
      (named : distributor'.certNameOf watcher' side = some certName) :=
    cancelled.materials certName side (List.ne_nil_of_mem ((linked' certName side watcher').mpr named))
  rw [cancelled.lookup] at found
  split at found
  case isTrue => cases found
  case isFalse other =>
    have same (side : Side) :
        distributor'.certNameOf watcher' side = distributor.certNameOf watcher' side := by
      rw [cancelled.names, if_neg other]
    obtain ⟨roots, pairs⟩ := told watcher' info found
    rw [roots, pairs]
    unfold rootCertsOf keyCertPairsOf
    rw [← same, ← same]
    constructor
    · cases named : distributor'.certNameOf watcher' .root with
      | none => rfl
      | some => exact (kept named).1.symm
    · cases named : distributor'.certNameOf watcher' .identity with
      | none => rfl
      | some => exact (kept named).2.symm

end

theorem cancelTlsCertificatesWatch_spec (linked : distributor.Linked) {info : WatcherInfo}
    (found : distributor.watchers.lookup watcher = some info) :
    ∃ distributor' stopRoot alreadyIdentity stopIdentity alreadyRoot,
      distributor.cancelTlsCertificatesWatch watcher =
        (if info.rootCertName = info.identityCertName ∧ (stopRoot || stopIdentity) = true then
          some (distributor'.watchStatusChanged info.rootCertName true (!stopRoot) (!stopIdentity))
        else
          some ((distributor'.watchStatusChanged info.rootCertName stopRoot false
            alreadyIdentity).watchStatusChanged info.identityCertName stopIdentity alreadyRoot
              false)) ∧
      Cancelled distributor watcher distributor' ∧
      (info.rootCertName = none → stopRoot = false) ∧
      (info.identityCertName = none → stopIdentity = false) ∧
      (∀ certName, info.rootCertName = some certName →
        stopRoot = decide ((distributor'.certInfo certName).rootCertWatchers = []) ∧
          alreadyIdentity = decide ((distributor.certInfo certName).identityCertWatchers ≠ [])) ∧
      ∀ certName, info.identityCertName = some certName →
        stopIdentity = decide ((distributor'.certInfo certName).identityCertWatchers = []) ∧
          alreadyRoot = decide ((distributor'.certInfo certName).rootCertWatchers ≠ []) := by
  have names (side : Side) : distributor.certNameOf watcher side = info.certName side := by
    unfold certNameOf
    rw [found]
    rfl
  generalize left : ({ distributor with
    watchers := erase watcher distributor.watchers } : CertificateDistributor) = erased
  have lookup (watcher' : Nat) : erased.watchers.lookup watcher' =
      if watcher' = watcher then none else distributor.watchers.lookup watcher' := by
    rw [← left]
    exact lookup_erase
  have infos (certName : String) : erased.certInfo certName = distributor.certInfo certName := by
    rw [← left]
    rfl
  have here (certName : String) (same : info.rootCertName = some certName) :
      ∃ info, erased.certificateInfoMap.lookup certName = some info := by
    rw [← left]
    exact linked.present ((names .root).trans same)
  obtain ⟨middle, stopRoot, alreadyIdentity, began, first⟩ := stopWatching_spec .root watcher here
  have there (certName : String) (same : info.identityCertName = some certName) :
      ∃ info, middle.certificateInfoMap.lookup certName = some info := by
    have watched : (middle.certInfo certName).watchers .identity ≠ [] := by
      rw [first.sides, if_neg fun both => nomatch both.2]
      rw [infos]
      exact List.ne_nil_of_mem ((linked certName .identity watcher).mpr
        ((names .identity).trans same))
    exact present_of_watched watched
  obtain ⟨distributor', stopIdentity, alreadyRoot, finished, second⟩ := stopWatching_spec .identity
    watcher there
  have sides (certName : String) (side : Side) : (distributor'.certInfo certName).watchers side =
      if info.certName side = some certName then
        ((distributor.certInfo certName).watchers side).filter (· ≠ watcher)
      else (distributor.certInfo certName).watchers side := by
    rw [second.sides, first.sides, infos]
    cases side with
    | root =>
      rw [if_neg fun both => nomatch both.2]
      exact if_congr (and_iff_left rfl) rfl rfl
    | identity =>
      rw [if_neg (fun both => nomatch both.2 : ¬ (info.rootCertName = some certName ∧ _))]
      exact if_congr (and_iff_left rfl) rfl rfl
  refine ⟨distributor', stopRoot, alreadyIdentity, stopIdentity, alreadyRoot, ?_,
    ⟨?_, fun watcher' => ?_, fun certName side => ?_, fun certName side watched => ?_⟩,
    first.absent, second.absent, fun certName same => ?_, fun certName same => ?_⟩
  · unfold cancelTlsCertificatesWatch
    rw [found]
    dsimp only
    rw [left, began]
    simp only [Option.bind_eq_bind, Option.bind_some, finished]
  · rw [second.calls, first.calls, ← left]
  · rw [second.watchers, first.watchers]
    exact lookup watcher'
  · rw [names]
    exact sides certName side
  · obtain ⟨roots, pairs⟩ := second.materials certName side watched
    have watched' : (middle.certInfo certName).watchers side ≠ [] := by
      rw [second.sides] at watched
      split at watched
      case isTrue =>
        intro none
        rw [none] at watched
        exact watched rfl
      case isFalse => exact watched
    obtain ⟨roots', pairs'⟩ := first.materials certName side watched'
    rw [roots, pairs, roots', pairs', infos]
    exact ⟨rfl, rfl⟩
  · obtain ⟨stop, already⟩ := first.named certName same
    have rest := sides certName .root
    rw [if_pos (show info.certName .root = some certName from same)] at rest
    rw [infos] at stop already
    exact ⟨stop.trans (congrArg (fun watchers => decide (watchers = [])) rest.symm), already⟩
  · obtain ⟨stop, already⟩ := second.named certName same
    have identities := second.sides certName .identity
    rw [if_pos ⟨same, rfl⟩] at identities
    have roots := second.sides certName .root
    rw [if_neg fun both => nomatch both.2] at roots
    exact ⟨stop.trans (congrArg (fun watchers => decide (watchers = [])) identities.symm),
      already.trans (congrArg (fun watchers => decide (watchers ≠ [])) roots.symm)⟩

end Cancelling

end CertificateDistributor

end GrpcCore.Security
