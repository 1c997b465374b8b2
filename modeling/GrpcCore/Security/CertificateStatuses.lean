import GrpcCore.Security.CertificateUpdates

/-!
# Starting and stopping to watch

What is left of the watcher sets after a watcher comes or goes, and what the watch status
callback is told.
-/

namespace GrpcCore.Security

open OrderedMap

namespace CertificateDistributor

variable {distributor distributor' : CertificateDistributor} {name : Option String}
  {watcher : Nat} {side : Side}

@[simp]
theorem watchers_setWatchers (info : CertificateInfo) (side side' : Side) (watchers : List Nat) :
    (info.setWatchers side watchers).watchers side' =
      if side' = side then watchers else info.watchers side' := by
  cases side <;> cases side' <;> rfl

theorem present_of_watched {certName : String}
    (watched : (distributor.certInfo certName).watchers side ≠ []) :
    ∃ info, distributor.certificateInfoMap.lookup certName = some info := by
  unfold certInfo at watched
  cases found : distributor.certificateInfoMap.lookup certName with
  | some info => exact ⟨info, rfl⟩
  | none =>
    rw [found] at watched
    cases side with
    | root => exact absurd rfl watched
    | identity => exact absurd rfl watched

structure Started (distributor : CertificateDistributor) (side : Side) (watcher : Nat)
    (name : Option String) (distributor' : CertificateDistributor) (start already : Bool) :
    Prop where
  watchers : distributor'.watchers = distributor.watchers
  calls : distributor'.watchStatusCalls = distributor.watchStatusCalls
  sides : ∀ certName side', (distributor'.certInfo certName).watchers side' =
    if name = some certName ∧ side' = side then
      ((distributor.certInfo certName).watchers side').insert watcher
    else (distributor.certInfo certName).watchers side'
  roots : ∀ certName, (distributor'.certInfo certName).pemRootCerts =
    (distributor.certInfo certName).pemRootCerts
  pairs : ∀ certName, (distributor'.certInfo certName).pemKeyCertPairs =
    (distributor.certInfo certName).pemKeyCertPairs
  absent : name = none → start = false
  named : ∀ certName, name = some certName →
    start = decide ((distributor.certInfo certName).watchers side = []) ∧
      already = decide ((distributor.certInfo certName).watchers side.other ≠ [])

theorem startWatching_spec (distributor : CertificateDistributor) (side : Side) (watcher : Nat)
    (name : Option String) :
    Started distributor side watcher name (distributor.startWatching side watcher name).1
      (distributor.startWatching side watcher name).2.1
      (distributor.startWatching side watcher name).2.2 := by
  cases name with
  | none =>
    exact ⟨rfl, rfl, fun _ _ => rfl, fun _ => rfl, fun _ => rfl, fun _ => rfl, nofun⟩
  | some certName =>
    obtain ⟨info, found⟩ : ∃ info,
      (distributor.touch certName).certificateInfoMap.lookup certName = some info :=
      exists_lookup_touch
    have infos (other : String) : ((distributor.startWatching side watcher
        (some certName)).1.certInfo other) = if other = certName then
          (distributor.certInfo certName).setWatchers side
            (((distributor.certInfo certName).watchers side).insert watcher)
          else distributor.certInfo other := by
      unfold startWatching
      rw [certInfo_modify found, certInfo_touch, certInfo_touch]
    constructor
    case watchers => rfl
    case calls => rfl
    case sides =>
      intro other side'
      rw [infos]
      by_cases same : other = certName
      · subst same
        by_cases here : side' = side
        · simp [here]
        · simp [here]
      · rw [if_neg same, if_neg fun both => same (Option.some.inj both.1).symm]
    case roots =>
      intro other
      rw [infos]
      split
      case isTrue same =>
        rw [same]
        cases side <;> rfl
      case isFalse => rfl
    case pairs =>
      intro other
      rw [infos]
      split
      case isTrue same =>
        rw [same]
        cases side <;> rfl
      case isFalse => rfl
    case absent => exact nofun
    case named =>
      intro other same
      obtain rfl := Option.some.inj same
      unfold startWatching
      dsimp only
      rw [certInfo_touch]
      exact ⟨rfl, rfl⟩

/-- A watcher is out of the set of a side of a name, and the entry of the name may be gone if
nobody watches it. -/
structure Stopped (distributor : CertificateDistributor) (side : Side) (watcher : Nat)
    (name : Option String) (distributor' : CertificateDistributor) (stop already : Bool) :
    Prop where
  watchers : distributor'.watchers = distributor.watchers
  calls : distributor'.watchStatusCalls = distributor.watchStatusCalls
  sides : ∀ certName side', (distributor'.certInfo certName).watchers side' =
    if name = some certName ∧ side' = side then
      ((distributor.certInfo certName).watchers side').filter (· ≠ watcher)
    else (distributor.certInfo certName).watchers side'
  materials : ∀ certName side', (distributor'.certInfo certName).watchers side' ≠ [] →
    (distributor'.certInfo certName).pemRootCerts =
        (distributor.certInfo certName).pemRootCerts ∧
      (distributor'.certInfo certName).pemKeyCertPairs =
        (distributor.certInfo certName).pemKeyCertPairs
  absent : name = none → stop = false
  named : ∀ certName, name = some certName →
    stop = decide (((distributor.certInfo certName).watchers side).filter (· ≠ watcher) = []) ∧
      already = decide ((distributor.certInfo certName).watchers side.other ≠ [])

theorem stopWatching_spec (side : Side) (watcher : Nat)
    (present : ∀ certName, name = some certName →
      ∃ info, distributor.certificateInfoMap.lookup certName = some info) :
    ∃ distributor' stop already,
      distributor.stopWatching side watcher name = some (distributor', stop, already) ∧
        Stopped distributor side watcher name distributor' stop already := by
  cases name with
  | none =>
    exact ⟨distributor, false, false, rfl, rfl, rfl, fun _ _ => rfl, fun _ _ _ => ⟨rfl, rfl⟩,
      fun _ => rfl, nofun⟩
  | some certName =>
    obtain ⟨info, found⟩ := present certName rfl
    have is : distributor.certInfo certName = info := by
      unfold certInfo
      rw [found]
      rfl
    obtain ⟨map, mapIs⟩ : ∃ map, map =
        if (decide ((info.watchers side).filter (· ≠ watcher) = []) &&
            !decide (info.watchers side.other ≠ [])) = true then
          erase certName distributor.certificateInfoMap
        else modify certName
          (fun _ => info.setWatchers side ((info.watchers side).filter (· ≠ watcher)))
          distributor.certificateInfoMap := ⟨_, rfl⟩
    have done : distributor.stopWatching side watcher (some certName) = some
        ({ distributor with certificateInfoMap := map },
          decide ((info.watchers side).filter (· ≠ watcher) = []),
          decide (info.watchers side.other ≠ [])) := by
      have other : side.other ≠ side := by cases side <;> nofun
      unfold stopWatching
      simp only [found, Option.bind_eq_bind, Option.bind_some, watchers_setWatchers, if_true,
        if_neg other, mapIs]
    have infos (other : String) :
        (certInfo { distributor with certificateInfoMap := map } other) =
        if other = certName then
          (if (decide ((info.watchers side).filter (· ≠ watcher) = []) &&
            !decide (info.watchers side.other ≠ [])) = true then .empty
          else info.setWatchers side ((info.watchers side).filter (· ≠ watcher)))
        else distributor.certInfo other := by
      unfold certInfo
      rw [mapIs]
      split
      · rw [lookup_erase]
        split
        · rfl
        · rfl
      · rw [lookup_modify, found]
        split
        · rfl
        · rfl
    refine ⟨_, _, _, done, rfl, rfl, fun other side' => ?_, fun other side' watched => ?_, nofun,
      fun other same => ?_⟩
    · rw [infos]
      by_cases same : other = certName
      · subst same
        rw [if_pos rfl, is]
        split
        case isTrue gone =>
          simp only [Bool.and_eq_true, decide_eq_true_eq, Bool.not_eq_true',
            decide_eq_false_iff_not, not_not] at gone
          by_cases here : side' = side
          · subst here
            rw [if_pos ⟨rfl, rfl⟩, gone.1]
            cases side' <;> rfl
          · have others : side' = side.other := by
              cases side <;> cases side' <;> first | rfl | exact absurd rfl here
            rw [if_neg fun both => here both.2, others, gone.2]
            cases side <;> rfl
        case isFalse =>
          by_cases here : side' = side
          · simp [here]
          · simp [here]
      · rw [if_neg same, if_neg fun both => same (Option.some.inj both.1).symm]
    · rw [infos] at watched ⊢
      split
      case isTrue same =>
        subst same
        rw [if_pos rfl] at watched
        split
        case isTrue gone =>
          rw [if_pos gone] at watched
          cases side' <;> exact absurd rfl watched
        case isFalse =>
          rw [is]
          cases side <;> exact ⟨rfl, rfl⟩
      case isFalse => exact ⟨rfl, rfl⟩
    · obtain rfl := Option.some.inj same
      rw [is]
      exact ⟨rfl, rfl⟩

end CertificateDistributor

end GrpcCore.Security
