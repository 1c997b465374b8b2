import GrpcCore.Rls.PolicyRuns

/-!
# Queued picks

A pick that the cache leaves in the queue has a pending request for its key. Whether the
picker is updated when that request completes is decided by the targets of the response.
-/

namespace GrpcCore.Rls

set_option linter.unusedSectionVars false

variable {Key Target ChildConfig ParsedConfig Addresses : Type}
variable [DecidableEq Key] [LinearOrder Target] [DecidableEq ChildConfig] [DecidableEq Addresses]

namespace RlsLb

variable {environment : Environment Key Target ChildConfig ParsedConfig}
variable {lb lb' : RlsLb Key Target ChildConfig ParsedConfig Addresses}

def HasChild (lb : RlsLb Key Target ChildConfig ParsedConfig Addresses) (target : Target) : Prop :=
  (lb.childPolicyMap.lookup target).isSome

instance (target : Target) : Decidable (lb.HasChild target) :=
  inferInstanceAs (Decidable (_ = true))

section Visit

variable (config : RlsLbConfig Target ChildConfig) (oldTargets targets : List Target)

theorem visitTargets_append (last : Target) :
    lb.visitTargets environment config oldTargets (targets ++ [last]) =
      (lb.visitTargets environment config oldTargets targets).target environment config oldTargets
        last := by
  unfold visitTargets
  rw [List.foldl_append]
  rfl

theorem lookup_visitTargets (target : Target) :
    (lb.visitTargets environment config oldTargets targets).childPolicyMap.lookup target =
      if lb.HasChild target then lb.childPolicyMap.lookup target
      else if target ∈ targets then some (startUpdate environment config target .new)
      else none := by
  induction targets using List.reverseRecOn with
  | nil =>
    by_cases had : lb.HasChild target
    · rw [if_pos had]
      rfl
    · rw [if_neg had, if_neg List.not_mem_nil]
      exact Option.not_isSome_iff_eq_none.mp had
  | append_singleton targets last ih =>
    rw [visitTargets_append]
    unfold Visit.target
    split
    · rename_i present
      rw [ih]
      by_cases had : lb.HasChild target
      · rw [if_pos had, if_pos had]
      · rw [if_neg had, if_neg had]
        by_cases earlier : target ∈ targets
        · rw [if_pos earlier, if_pos (List.mem_append_left _ earlier)]
        · rw [if_neg earlier, if_neg]
          intro member
          obtain rfl : target = last := by simpa [earlier] using member
          rw [ih, if_neg had, if_neg earlier] at present
          exact absurd present nofun
    · rename_i absent
      rw [OrderedMap.lookup_emplace (Option.not_isSome_iff_eq_none.mp absent), ih]
      by_cases same : target = last
      · subst same
        rw [if_pos rfl, if_neg, if_pos (by simp)]
        intro had
        rw [ih, if_pos had] at absent
        exact absent had
      · simp [same]

theorem isSome_visitTargets (target : Target) :
    ((lb.visitTargets environment config oldTargets targets).childPolicyMap.lookup target).isSome ↔
      lb.HasChild target ∨ target ∈ targets := by
  rw [lookup_visitTargets]
  by_cases had : lb.HasChild target
  · rw [if_pos had]
    exact ⟨fun _ => .inl had, fun _ => had⟩
  · rw [if_neg had]
    by_cases listed : target ∈ targets
    · simp [listed]
    · simp [listed, had]

/-- A target that is new to the entry has a wrapper when the loop comes to it. -/
def Shared (lb : RlsLb Key Target ChildConfig ParsedConfig Addresses)
    (oldTargets targets : List Target) : Prop :=
  ∃ target ∈ targets, target ∉ oldTargets ∧ (lb.HasChild target ∨ 2 ≤ targets.count target)

instance : Decidable (lb.Shared oldTargets targets) := inferInstanceAs (Decidable (∃ _ ∈ _, _))

theorem shared_append (last : Target) :
    lb.Shared oldTargets (targets ++ [last]) ↔
      lb.Shared oldTargets targets ∨ last ∉ oldTargets ∧ (lb.HasChild last ∨ last ∈ targets) := by
  constructor
  · rintro ⟨target, member, fresh, shared⟩
    by_cases same : target = last
    · subst same
      refine .inr ⟨fresh, shared.imp_right fun twice => ?_⟩
      rw [List.count_append, List.count_singleton_self] at twice
      exact List.count_pos_iff.mp (Nat.le_of_succ_le_succ twice)
    · rw [List.mem_append, List.mem_singleton] at member
      rw [List.count_append, List.count_singleton, if_neg (by simpa using Ne.symm same)] at shared
      exact .inl ⟨target, member.resolve_right same, fresh, shared⟩
  · rintro (⟨target, member, fresh, shared⟩ | ⟨fresh, shared⟩)
    · refine ⟨target, List.mem_append_left _ member, fresh, shared.imp_right fun twice => ?_⟩
      rw [List.count_append]
      exact Nat.le_add_right_of_le twice
    · refine ⟨last, by simp, fresh, shared.imp_right fun member => ?_⟩
      rw [List.count_append, List.count_singleton_self]
      exact Nat.succ_le_succ (List.count_pos_iff.mpr member)

theorem updatePicker_visitTargets :
    (lb.visitTargets environment config oldTargets targets).updatePicker = true ↔
      lb.Shared oldTargets targets := by
  induction targets using List.reverseRecOn with
  | nil => simp [visitTargets, Shared]
  | append_singleton targets last ih =>
    rw [visitTargets_append, shared_append, ← ih]
    unfold Visit.target
    split
    · rename_i present
      have known := (isSome_visitTargets config oldTargets targets last).mp present
      simp [known]
    · rename_i absent
      rw [isSome_visitTargets] at absent
      simp [absent]

theorem mem_toFinish (target : Target) :
    target ∈ (lb.visitTargets environment config oldTargets targets).toFinish ↔
      target ∈ targets ∧ ¬ lb.HasChild target := by
  induction targets using List.reverseRecOn with
  | nil => simp [visitTargets]
  | append_singleton targets last ih =>
    rw [visitTargets_append]
    unfold Visit.target
    split
    · rename_i present
      rw [isSome_visitTargets] at present
      rw [ih, List.mem_append, List.mem_singleton]
      constructor
      · exact fun ⟨member, fresh⟩ => ⟨.inl member, fresh⟩
      · rintro ⟨member | rfl, fresh⟩
        · exact ⟨member, fresh⟩
        · exact ⟨present.resolve_left fresh, fresh⟩
    · rename_i absent
      rw [isSome_visitTargets, not_or] at absent
      rw [List.mem_append, ih, List.mem_append, List.mem_singleton]
      constructor
      · rintro (⟨member, fresh⟩ | rfl)
        · exact ⟨.inl member, fresh⟩
        · exact ⟨.inr rfl, absent.1⟩
      · rintro ⟨member | rfl, fresh⟩
        · exact .inl ⟨member, fresh⟩
        · exact .inr rfl

theorem nodup_toFinish :
    (lb.visitTargets environment config oldTargets targets).toFinish.Nodup := by
  induction targets using List.reverseRecOn with
  | nil => exact List.nodup_nil
  | append_singleton targets last ih =>
    rw [visitTargets_append]
    unfold Visit.target
    split
    · exact ih
    · rename_i absent
      rw [isSome_visitTargets, not_or] at absent
      refine ih.append (List.nodup_singleton last) (List.disjoint_singleton.mpr fun member => ?_)
      exact absent.2 ((mem_toFinish config oldTargets targets last).mp member).1

end Visit

theorem lookup_collect (target : Target) :
    lb.collect.childPolicyMap.lookup target =
      if lb.References target then lb.childPolicyMap.lookup target else none := by
  unfold collect
  induction lb.childPolicyMap with
  | nil => simp
  | cons entry rest ih =>
    obtain ⟨head, wrapper⟩ := entry
    by_cases referenced : lb.References head
    · rw [List.filter_cons_of_pos (by simpa using referenced), List.lookup_cons,
        List.lookup_cons, ih]
      by_cases here : target = head
      · subst here
        simp [referenced]
      · simp [beq_eq_false_iff_ne.mpr here]
    · rw [List.filter_cons_of_neg (by simpa using referenced), ih, List.lookup_cons]
      by_cases here : target = head
      · subst here
        simp [referenced]
      · simp [beq_eq_false_iff_ne.mpr here]

theorem childPoliciesCreated_finish (config : RlsLbConfig Target ChildConfig)
    {targets : List Target} (distinct : targets.Nodup)
    (fresh : ∀ target ∈ targets, lb.childPolicyMap.lookup target =
      some (startUpdate environment config target .new)) :
    (targets.foldl maybeFinishUpdate lb).childPoliciesCreated = lb.childPoliciesCreated +
      targets.countP fun target =>
        (environment.parseLoadBalancingConfig config.childPolicyConfig target).isSome := by
  induction targets generalizing lb with
  | nil => rfl
  | cons target targets ih =>
    rw [List.nodup_cons] at distinct
    have found := fresh target List.mem_cons_self
    rw [List.foldl_cons, ih distinct.2, List.countP_cons]
    · unfold maybeFinishUpdate
      rw [found]
      unfold startUpdate
      cases environment.parseLoadBalancingConfig config.childPolicyConfig target with
      | none => simp
      | some => simp [ChildPolicyWrapper.new, Nat.add_assoc, Nat.add_comm]
    · intro other member
      have different : other ≠ target := fun same => distinct.1 (same ▸ member)
      rw [← fresh other (List.mem_cons_of_mem _ member)]
      unfold maybeFinishUpdate
      rw [found]
      dsimp only
      split
      · rfl
      · rw [OrderedMap.lookup_modify, if_neg different]

theorem pickerUpdates_finish (targets : List Target) :
    (targets.foldl maybeFinishUpdate lb).pickerUpdates = lb.pickerUpdates := by
  induction targets generalizing lb with
  | nil => rfl
  | cons target targets ih =>
    rw [List.foldl_cons, ih]
    unfold maybeFinishUpdate
    split
    · rfl
    · split
      · rfl
      · rfl

section Response

variable (config : RlsLbConfig Target ChildConfig) (key : Key) (entry : Entry Target)
variable (response : ResponseInfo Target) (nextAttemptTime now : Int)

def Settled (entry : Entry Target) (response : ResponseInfo Target) : Prop :=
  response.status.ok = false ∨ response.targets = entry.childPolicyWrappers

instance : Decidable (Settled entry response) := inferInstanceAs (Decidable (_ ∨ _))

theorem response_settled (settled : Settled entry response) :
    ∃ entry', lb.onRlsResponseLocked environment config key entry response nextAttemptTime now =
      ((lb.markUsed key entry').updatePickerAsync, []) := by
  unfold onRlsResponseLocked
  split
  · rename_i ok
    rw [if_pos (settled.resolve_left (by simp [ok]))]
    exact ⟨_, rfl⟩
  · exact ⟨_, rfl⟩

theorem response_unsettled (unsettled : ¬ Settled entry response) :
    lb.onRlsResponseLocked environment config key entry response nextAttemptTime now =
      lb.changeTargets environment config key (entry.succeeded config response now)
        response.targets := by
  rw [Settled, not_or, Bool.not_eq_false] at unsettled
  unfold onRlsResponseLocked
  rw [if_pos unsettled.1, if_neg unsettled.2]

theorem pickerUpdates_changeTargets (targets : List Target) :
    (lb.changeTargets environment config key entry targets).1.pickerUpdates =
      lb.pickerUpdates + if lb.Shared entry.childPolicyWrappers targets then 1 else 0 := by
  have shared : (lb.visitTargets environment config entry.childPolicyWrappers
      targets).updatePicker = true ↔ lb.Shared entry.childPolicyWrappers targets :=
    updatePicker_visitTargets config entry.childPolicyWrappers targets
  unfold changeTargets
  dsimp only
  split
  · rename_i update
    rw [if_pos (shared.mp update)]
    rfl
  · rename_i keep
    rw [if_neg fun known => keep (shared.mpr known)]
    rfl

theorem pickerUpdates_response :
    (lb.onRlsResponseLocked environment config key entry response nextAttemptTime
        now).1.pickerUpdates = lb.pickerUpdates +
      if Settled entry response ∨ lb.Shared entry.childPolicyWrappers response.targets then 1
      else 0 := by
  by_cases settled : Settled entry response
  · obtain ⟨entry', result⟩ : ∃ entry', lb.onRlsResponseLocked environment config key entry response
        nextAttemptTime now = ((lb.markUsed key entry').updatePickerAsync, []) :=
      response_settled config key entry response nextAttemptTime now settled
    rw [result, if_pos (.inl settled)]
    rfl
  · rw [response_unsettled config key entry response nextAttemptTime now settled,
      pickerUpdates_changeTargets]
    by_cases shared : lb.Shared entry.childPolicyWrappers response.targets
    · rw [if_pos (by exact shared), if_pos (.inr shared)]
    · rw [if_neg (by exact shared), if_neg (not_or.mpr ⟨settled, shared⟩)]

theorem childPoliciesCreated_response :
    (lb.onRlsResponseLocked environment config key entry response nextAttemptTime
        now).1.childPoliciesCreated = lb.childPoliciesCreated := by
  unfold onRlsResponseLocked
  split
  · split
    · rfl
    · unfold changeTargets
      dsimp only
      split
      · rfl
      · rfl
  · rfl

theorem lookup_changeTargets (targets : List Target) (target : Target)
    (member : target ∈ (lb.changeTargets environment config key entry targets).2) :
    (lb.changeTargets environment config key entry targets).1.childPolicyMap.lookup target =
      some (startUpdate environment config target .new) := by
  have listed := (mem_toFinish config entry.childPolicyWrappers targets target).mp member
  have visited : (lb.visitTargets environment config entry.childPolicyWrappers
      targets).childPolicyMap.lookup target = some (startUpdate environment config target .new) := by
    rw [lookup_visitTargets, if_neg listed.2, if_pos listed.1]
  let changed : RlsLb Key Target ChildConfig ParsedConfig Addresses :=
    { lb.markUsed key { entry with childPolicyWrappers := targets } with
      childPolicyMap :=
        (lb.visitTargets environment config entry.childPolicyWrappers targets).childPolicyMap }
  have referenced : changed.References target := by
    refine .inl ⟨(key, { entry with childPolicyWrappers := targets }), ?_, listed.1⟩
    exact List.mem_append_right _ (List.mem_singleton_self _)
  have kept : changed.collect.childPolicyMap.lookup target =
      some (startUpdate environment config target .new) := by
    rw [lookup_collect, if_pos referenced]
    exact visited
  unfold changeTargets
  dsimp only
  split
  · exact kept
  · exact kept

theorem childPoliciesCreated_completed
    (requestMap : List (Key × RlsRequest)) :
    ((lb.onRlsResponseLocked environment config key entry response nextAttemptTime now).2.foldl
        maybeFinishUpdate
        { (lb.onRlsResponseLocked environment config key entry response nextAttemptTime now).1 with
          requestMap }).childPoliciesCreated =
      lb.childPoliciesCreated +
        if Settled entry response then 0
        else (lb.visitTargets environment config entry.childPolicyWrappers
          response.targets).toFinish.countP fun target =>
            (environment.parseLoadBalancingConfig config.childPolicyConfig target).isSome := by
  have created : (lb.onRlsResponseLocked environment config key entry response nextAttemptTime
      now).1.childPoliciesCreated = lb.childPoliciesCreated :=
    childPoliciesCreated_response config key entry response nextAttemptTime now
  by_cases settled : Settled entry response
  · obtain ⟨entry', result⟩ : ∃ entry', lb.onRlsResponseLocked environment config key entry response
        nextAttemptTime now = ((lb.markUsed key entry').updatePickerAsync, []) :=
      response_settled config key entry response nextAttemptTime now settled
    rw [result, if_pos settled]
    rfl
  · rw [response_unsettled config key entry response nextAttemptTime now settled] at created ⊢
    rw [if_neg settled]
    let changed : RlsLb Key Target ChildConfig ParsedConfig Addresses × List Target :=
      lb.changeTargets environment config key (entry.succeeded config response now) response.targets
    let erased : RlsLb Key Target ChildConfig ParsedConfig Addresses :=
      { changed.1 with requestMap }
    have fresh : ∀ target ∈ changed.2, erased.childPolicyMap.lookup target =
        some (startUpdate environment config target .new) :=
      lookup_changeTargets config key (entry.succeeded config response now) response.targets
    have finished : (changed.2.foldl maybeFinishUpdate erased).childPoliciesCreated =
        erased.childPoliciesCreated + changed.2.countP fun target =>
          (environment.parseLoadBalancingConfig config.childPolicyConfig target).isSome :=
      childPoliciesCreated_finish config (nodup_toFinish config _ _) fresh
    have before : erased.childPoliciesCreated = lb.childPoliciesCreated := created
    rw [before] at finished
    exact finished

end Response

def evictedFor (environment : Environment Key Target ChildConfig ParsedConfig)
    (lb : RlsLb Key Target ChildConfig ParsedConfig Addresses) (key : Key) (now : Int) :
    List (Key × Entry Target) :=
  match lb.cache.lookup key with
  | some _ => []
  | none =>
    (lruPass environment now
      (lb.sizeLimit - min lb.sizeLimit (environment.entrySizeForKey key)) lb.size lb.cache).1

theorem pickerUpdates_findOrInsert (key : Key) (now : Int) :
    (lb.findOrInsert environment key now).2.pickerUpdates =
      lb.pickerUpdates + timers (lb.evictedFor environment key now) := by
  unfold findOrInsert evictedFor
  cases lb.cache.lookup key <;> rfl

theorem childPoliciesCreated_findOrInsert (key : Key) (now : Int) :
    (lb.findOrInsert environment key now).2.childPoliciesCreated = lb.childPoliciesCreated := by
  unfold findOrInsert
  split
  · rfl
  · rfl

theorem findOrInsert_reported (channel : Nat) (success : Bool) (key : Key) (now : Int) :
    (lb.reportResponseLocked channel success now).findOrInsert environment key now =
      ((lb.findOrInsert environment key now).1,
        { (lb.findOrInsert environment key now).2 with
          channels := (lb.reportResponseLocked channel success now).channels }) := by
  have same : (lb.reportResponseLocked channel success now).cache = lb.cache := rfl
  unfold findOrInsert
  rw [same]
  split
  · rfl
  · rfl

/-- The response of a request leads to an update of the picker or to a child policy. -/
def Answers (environment : Environment Key Target ChildConfig ParsedConfig)
    (lb : RlsLb Key Target ChildConfig ParsedConfig Addresses)
    (config : RlsLbConfig Target ChildConfig) (key : Key) (response : ResponseInfo Target)
    (now : Int) : Prop :=
  let (entry, inserted) := lb.findOrInsert environment key now
  Settled entry response ∨
    (∃ evicted ∈ lb.evictedFor environment key now, evicted.2.backoffTimer.isSome) ∨
    inserted.Shared entry.childPolicyWrappers response.targets ∨
    ∃ target ∈ response.targets, ¬ inserted.HasChild target ∧
      (environment.parseLoadBalancingConfig config.childPolicyConfig target).isSome

instance (config : RlsLbConfig Target ChildConfig) (key : Key) (response : ResponseInfo Target)
    (now : Int) : Decidable (lb.Answers environment config key response now) :=
  inferInstanceAs (Decidable (_ ∨ _ ∨ _ ∨ _))

section Completed

variable (config : RlsLbConfig Target ChildConfig) (key : Key) (request : RlsRequest)
variable (response : ResponseInfo Target) (nextAttemptTime now : Int)

theorem pickerUpdates_onRlsCallCompleteLocked :
    (lb.onRlsCallCompleteLocked environment config key request response nextAttemptTime
        now).pickerUpdates =
      lb.pickerUpdates + timers (lb.evictedFor environment key now) +
        if Settled (lb.findOrInsert environment key now).1 response ∨
            (lb.findOrInsert environment key now).2.Shared
              (lb.findOrInsert environment key now).1.childPolicyWrappers response.targets then 1
        else 0 := by
  unfold onRlsCallCompleteLocked
  dsimp only
  rw [findOrInsert_reported]
  rw [pickerUpdates_finish]
  rw [pickerUpdates_response]
  rw [pickerUpdates_findOrInsert]
  rfl

theorem childPoliciesCreated_onRlsCallCompleteLocked :
    (lb.onRlsCallCompleteLocked environment config key request response nextAttemptTime
        now).childPoliciesCreated =
      lb.childPoliciesCreated +
        if Settled (lb.findOrInsert environment key now).1 response then 0
        else ((lb.findOrInsert environment key now).2.visitTargets environment config
          (lb.findOrInsert environment key now).1.childPolicyWrappers
          response.targets).toFinish.countP fun target =>
            (environment.parseLoadBalancingConfig config.childPolicyConfig target).isSome := by
  unfold onRlsCallCompleteLocked
  dsimp only
  rw [findOrInsert_reported]
  rw [childPoliciesCreated_completed]
  rw [childPoliciesCreated_findOrInsert]
  rfl

theorem answers_iff :
    lb.Answers environment config key response now ↔
      0 < (lb.onRlsCallCompleteLocked environment config key request response nextAttemptTime
          now).pickerUpdates - lb.pickerUpdates ∨
        0 < (lb.onRlsCallCompleteLocked environment config key request response nextAttemptTime
          now).childPoliciesCreated - lb.childPoliciesCreated := by
  rw [pickerUpdates_onRlsCallCompleteLocked, childPoliciesCreated_onRlsCallCompleteLocked,
    Nat.add_assoc, Nat.add_sub_cancel_left, Nat.add_sub_cancel_left, Answers]
  generalize lb.findOrInsert environment key now = found
  obtain ⟨entry, inserted⟩ := found
  have evictions : 0 < timers (lb.evictedFor environment key now) ↔
      ∃ evicted ∈ lb.evictedFor environment key now, evicted.2.backoffTimer.isSome :=
    List.countP_pos_iff
  rw [← evictions]
  by_cases settled : Settled entry response
  · simp [settled]
  · rw [if_neg settled, List.countP_pos_iff]
    by_cases shared : inserted.Shared entry.childPolicyWrappers response.targets
    · simp [shared]
    · simp only [settled, shared, mem_toFinish, false_or, if_false, Nat.add_zero, and_assoc]

end Completed

section Pick

variable {defaultChildPolicy : Option Target} {key : Key} {now : Int} {draw : Nat}
variable {picked : Picked Target}

theorem defaultPick_ne_queue (status : Status) :
    defaultPick defaultChildPolicy status ≠ .queue := by
  cases defaultChildPolicy with
  | none => exact nofun
  | some => exact nofun

theorem entryPick_ne_queue (entry : Entry Target) : lb.entryPick entry ≠ .queue := by
  unfold entryPick
  dsimp only
  split
  · exact nofun
  · exact nofun

theorem old_of_queue
    (queued : lb.answer (lb.cache.lookup key) defaultChildPolicy now = .queue) :
    ((lb.cache.lookup key).all fun entry => entry.staleTime < now && entry.backoffTime < now) =
      true := by
  cases found : lb.cache.lookup key with
  | none => rfl
  | some entry =>
    rw [found, answer] at queued
    split at queued
    · exact absurd queued (entryPick_ne_queue entry)
    · rename_i expired
      split at queued
      · exact absurd queued (defaultPick_ne_queue _)
      · rename_i attempted
        have stale : entry.staleTime < now :=
          lt_of_le_of_lt entry.staleTime_le (lt_of_not_ge expired)
        simp [stale, lt_of_not_ge attempted]

theorem nodup_startRlsCall (distinct : (lb.requestMap.map Prod.fst).Nodup)
    (absent : key ∉ lb.requestMap.map Prod.fst) (request : RlsRequest) :
    ((lb.requestMap ++ [(key, request)]).map Prod.fst).Nodup := by
  rw [List.map_append]
  exact distinct.append (List.nodup_singleton key) (List.disjoint_singleton.mpr absent)

theorem nodup_pick (distinct : (lb.requestMap.map Prod.fst).Nodup)
    (done : lb.pick defaultChildPolicy key now draw = some (picked, lb')) :
    (lb'.requestMap.map Prod.fst).Nodup := by
  have found : (lb.find key).requestMap = lb.requestMap := (keeps_find key).requestMap
  cases pick_steps done with
  | shutdown => exact distinct
  | answered => exact found ▸ distinct
  | throttled => exact found ▸ distinct
  | started call =>
    exact nodup_startRlsCall (found ▸ distinct) (found ▸ call.2) _

theorem mem_of_queue (done : lb.pick defaultChildPolicy key now draw = some (picked, lb'))
    (queued : picked.result = .queue) : key ∈ lb'.requestMap.map Prod.fst := by
  have found : (lb.find key).requestMap = lb.requestMap := (keeps_find key).requestMap
  cases pick_steps done with
  | shutdown => exact absurd queued nofun
  | answered noCall =>
    rw [found]
    by_contra absent
    exact noCall ⟨old_of_queue queued, absent⟩
  | throttled => exact absurd queued (defaultPick_ne_queue _)
  | started => simp [startRlsCall]

end Pick

end RlsLb

namespace System

variable {environment : Environment Key Target ChildConfig ParsedConfig}
variable {system system' : System Key Target ChildConfig ParsedConfig Addresses}

/-- Every pick that the cache has queued had one pending request, and every request that has
completed has led to a new picker. -/
structure NoneStranded (system : System Key Target ChildConfig ParsedConfig Addresses) : Prop where
  distinct : (system.lb.requestMap.map Prod.fst).Nodup
  pending : ∀ pick ∈ system.picks, pick.queued = true → pick.pending = 1
  updated : ∀ completion ∈ system.completions,
    0 < completion.pickerUpdates ∨ 0 < completion.childPoliciesCreated

/-- A response that completes a request answers it. -/
def AnswersRequest (environment : Environment Key Target ChildConfig ParsedConfig)
    (system : System Key Target ChildConfig ParsedConfig Addresses) :
    Action Key Target ChildConfig Addresses → Prop
  | .rlsCallComplete key result _ now =>
    ∀ config ∈ system.lb.config, system.lb.Answers environment config key result.response now
  | _ => True

instance (action : Action Key Target ChildConfig Addresses) :
    Decidable (system.AnswersRequest environment action) := by
  unfold AnswersRequest
  split
  · infer_instance
  · infer_instance

variable {action : Action Key Target ChildConfig Addresses}

/-- There is one request for a key at a time, and every pick that was queued had one. -/
structure Awaited (system : System Key Target ChildConfig ParsedConfig Addresses) : Prop where
  distinct : (system.lb.requestMap.map Prod.fst).Nodup
  pending : ∀ pick ∈ system.picks, pick.queued = true → pick.pending = 1

theorem Awaited.step (awaited : system.Awaited)
    (taken : system.step environment action = some system') : system'.Awaited := by
  cases action with
  | pick =>
    obtain ⟨defaultChildPolicy, picked, lb, done, rfl⟩ := step_pick taken
    have distinct := RlsLb.nodup_pick awaited.distinct done
    refine ⟨distinct, fun pick member queued => ?_⟩
    rcases List.mem_cons.mp member with rfl | earlier
    · have result : picked.result = .queue := of_decide_eq_true queued
      exact List.count_eq_one_of_mem distinct (RlsLb.mem_of_queue done result)
    · exact awaited.pending pick earlier queued
  | rlsCallComplete key result nextAttemptTime now =>
    obtain ⟨request, config, _, found, configured, rfl, rfl⟩ := step_complete taken
    refine ⟨?_, awaited.pending⟩
    rw [(RlsLb.keeps_onRlsCallCompleteLocked config key request _ _ _).requestMap]
    exact awaited.distinct.sublist (List.filter_sublist.map Prod.fst)
  | _ =>
    obtain ⟨lb, calm, rfl⟩ := step_quiet (by trivial) taken
    refine ⟨?_, awaited.pending⟩
    rcases calm.requestMap with same | empty
    · exact same ▸ awaited.distinct
    · exact empty ▸ List.nodup_nil

theorem NoneStranded.awaited (good : system.NoneStranded) : system.Awaited :=
  ⟨good.distinct, good.pending⟩

section

variable (good : system.NoneStranded)
include good

theorem noneStranded_quiet (quiet : action.Quiet)
    (taken : system.step environment action = some system') : system'.NoneStranded := by
  obtain ⟨distinct, pending⟩ := good.awaited.step taken
  obtain ⟨lb, calm, rfl⟩ := step_quiet quiet taken
  exact ⟨distinct, pending, good.updated⟩

theorem noneStranded_pick {picker : Nat} {key : Key} {now : Int} {draw : Nat}
    (taken : system.step environment (.pick picker key now draw) = some system') :
    system'.NoneStranded := by
  obtain ⟨distinct, pending⟩ := good.awaited.step taken
  obtain ⟨defaultChildPolicy, picked, lb, done, rfl⟩ := step_pick taken
  exact ⟨distinct, pending, good.updated⟩

theorem noneStranded_complete_iff {key : Key} {result : CallResult Target}
    {nextAttemptTime now : Int}
    (taken : system.step environment (.rlsCallComplete key result nextAttemptTime now) =
      some system') :
    system'.NoneStranded ↔
      system.AnswersRequest environment (.rlsCallComplete key result nextAttemptTime now) := by
  obtain ⟨distinct, pending⟩ := good.awaited.step taken
  obtain ⟨request, config, lb, found, configured, completed, rfl⟩ := step_complete taken
  have answers : system.AnswersRequest environment (.rlsCallComplete key result nextAttemptTime now) ↔
      system.lb.Answers environment config key result.response now := by
    constructor
    · exact fun answers => answers config configured
    · intro answers config' configured'
      obtain rfl := Option.mem_unique configured configured'
      exact answers
  rw [answers, RlsLb.answers_iff config key request result.response nextAttemptTime now, ← completed]
  constructor
  · exact fun good' => good'.updated _ List.mem_cons_self
  · intro updated
    refine ⟨distinct, pending, ?_⟩
    intro completion member
    rcases List.mem_cons.mp member with rfl | earlier
    · exact updated
    · exact good.updated completion earlier

theorem noneStranded_step_iff (taken : system.step environment action = some system') :
    system'.NoneStranded ↔ system.AnswersRequest environment action := by
  cases action with
  | pick => exact iff_of_true (noneStranded_pick good taken) trivial
  | rlsCallComplete => exact noneStranded_complete_iff good taken
  | _ =>
    refine iff_of_true (noneStranded_quiet good ?_ taken) trivial
    trivial

end

theorem noneStranded_initial :
    (initial : System Key Target ChildConfig ParsedConfig Addresses).NoneStranded :=
  ⟨List.nodup_nil, nofun, nofun⟩

/-- No pick is stranded in a run exactly when every response in it answers its request. -/
theorem queued_picks_answered_iff (actions : List (Action Key Target ChildConfig Addresses))
    (final : System Key Target ChildConfig ParsedConfig Addresses) :
    Machine.Run (step environment) (AnswersRequest environment) initial actions final ↔
      Machine.Reach (step environment) initial actions final ∧
        ∀ done later, actions = done ++ later →
          ∀ middle, Machine.Reach (step environment) initial done middle → middle.NoneStranded :=
  Machine.Run.iff_always (fun _ _ => trivial)
    (fun _ good taken => noneStranded_step_iff good taken) trivial noneStranded_initial actions final

/-- A second response that lists the same targets in another order strands the pick that was
queued for it. -/
theorem reordered_targets_strand :
    ∃ actions, ∃ system : System Nat Nat Nat Nat Nat,
      Machine.Reach (step ⟨fun _ => 1, fun _ _ => some 0⟩) initial actions system ∧
        ¬ system.NoneStranded := by
  obtain ⟨system, reach, completed⟩ := Machine.exists_reach (step ⟨fun _ => 1, fun _ _ => some 0⟩)
    (initial : System Nat Nat Nat Nat Nat)
    [.updateLocked ⟨"lookup", 10, 5, by decide, 100, none, 0⟩ 0 0,
      .pick 0 1 0 7,
      .rlsCallComplete 1 ⟨none, ⟨0, ""⟩, some ([1, 2], "")⟩ 0 1,
      .pick 0 1 20 7,
      .rlsCallComplete 1 ⟨none, ⟨0, ""⟩, some ([2, 1], "")⟩ 0 21]
    (fun system => (system.picks.head?, system.completions.head?))
    (some ⟨1, true, 1⟩, some ⟨1, 0, 0⟩) (by decide +kernel)
  refine ⟨_, system, reach, fun good => ?_⟩
  have last := List.mem_of_mem_head? (Prod.mk.inj completed).2
  exact absurd (good.updated _ last) (by decide)

end System

end GrpcCore.Rls
