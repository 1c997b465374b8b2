import GrpcCore.Iomgr.ResourceQuota

/-!
# Conservation of a resource quota

What is free in the quota and what its users have of it, free or held, is its size, and
every allocation that waits is completed once. The counter `used` goes with what users
hold, but for one path: allocations that fail with their user's shutdown stay in it.
-/

namespace GrpcCore.Iomgr

open ResourceUser Ledger

namespace ResourceUser

def stake (user : ResourceUser) : Int := if user.alive then user.freePool + user.held else 0

def holding (user : ResourceUser) : Int := if user.alive then user.held else 0

def waits (allocation : Nat) (user : ResourceUser) : Int :=
  if user.alive then (user.onAllocated.map Prod.fst).count allocation else 0

structure Sound (user : ResourceUser) : Prop where
  stake : 0 ≤ user.freePool + user.held
  outstanding : user.outstandingAllocations = (user.onAllocated.map Prod.snd).sum
  sizes : ∀ waiting ∈ user.onAllocated, 0 < waiting.2
  covered : user.outstandingAllocations ≤ user.held
  refs : user.refs = user.owners + user.held

theorem Sound.onAllocated_eq_nil {user : ResourceUser} (sound : user.Sound)
    (nothing : user.held = 0) : user.onAllocated = [] := by
  have none : (user.onAllocated.map Prod.snd).sum = 0 := by
    rw [← sound.outstanding]
    have covered := sound.covered
    omega
  cases waiting : user.onAllocated with
  | nil => rfl
  | cons first =>
    have positive := sound.sizes first (by rw [waiting]; exact List.mem_cons_self)
    rw [waiting, List.map_cons, List.sum_cons] at none
    omega

end ResourceUser

variable {u : UserId}

namespace ResourceQuota

/-- 1 for an allocation that has had to wait, 0 for a number not given yet. -/
def issued (quota : ResourceQuota) (allocation : Nat) : Int :=
  if allocation < quota.allocations then 1 else 0

/-- How often the closure of an allocation has run. -/
def completions (quota : ResourceQuota) (allocation : Nat) : Int :=
  (quota.completed.map Prod.fst).count allocation

structure Conserved (quota : ResourceQuota) : Prop where
  size : quota.size = quota.freePool + Ledger.total ResourceUser.stake quota.users
  users : ∀ {u : UserId} {user : ResourceUser}, quota.users[u]? = some user →
    user.alive = true → user.Sound
  once : ∀ allocation, Ledger.total (ResourceUser.waits allocation) quota.users +
    quota.completions allocation = quota.issued allocation

/-- What `used` counts and nobody holds. -/
def leaked (quota : ResourceQuota) : Int :=
  quota.used - Ledger.total ResourceUser.holding quota.users

variable {quota quota' : ResourceQuota}

theorem update_eq_some
    {change : ResourceUser → ResourceQuota → Option (ResourceUser × ResourceQuota)}
    (updated : quota.update u change = some quota') :
    ∃ user after, quota.users[u]? = some user ∧ user.alive = true ∧
      change user quota = some after ∧
      quota' = { after.2 with users := after.2.users.set u after.1 } := by
  obtain ⟨user, there, found⟩ := Option.bind_eq_some_iff.mp updated
  obtain ⟨alive, found⟩ := Option.ite_none_right_eq_some.mp found
  obtain ⟨after, changed, same⟩ := Option.map_eq_some_iff.mp found
  exact ⟨user, after, there, alive, changed, same.symm⟩

structure SameAccounts (quota quota' : ResourceQuota) : Prop where
  users : quota'.users = quota.users
  free : quota'.size - quota'.freePool = quota.size - quota.freePool
  used : quota'.used = quota.used
  allocations : quota'.allocations = quota.allocations
  completed : quota'.completed = quota.completed

theorem SameAccounts.conserved (same : SameAccounts quota quota') (conserved : quota.Conserved) :
    quota'.Conserved := by
  obtain ⟨users, free, -, allocations, completed⟩ := same
  refine ⟨?_, fun there => conserved.users (users ▸ there), fun allocation => ?_⟩
  · have size := conserved.size
    rw [users]
    omega
  · have once := conserved.once allocation
    rw [issued, completions, users, completed, allocations]
    exact once

theorem SameAccounts.leaked (same : SameAccounts quota quota') : quota'.leaked = quota.leaked := by
  rw [ResourceQuota.leaked, ResourceQuota.leaked, same.users, same.used]

theorem SameAccounts.of_sched (quota : ResourceQuota) (needed : Bool) :
    SameAccounts quota (quota.rqStepSchedIf needed) := by
  unfold rqStepSchedIf
  split_ifs <;> exact ⟨rfl, rfl, rfl, rfl, rfl⟩

end ResourceQuota

/-- A change of a user and its quota that keeps their accounts, but for what it leaves
in `used`. -/
structure Settles (leak : Int) (user : ResourceUser) (quota : ResourceQuota)
    (after : ResourceUser × ResourceQuota) : Prop where
  users : after.2.users = quota.users
  size : after.2.size - after.2.freePool - (quota.size - quota.freePool) =
    after.1.stake - user.stake
  sound : after.1.alive = true → after.1.Sound
  once : ∀ allocation, after.1.waits allocation + after.2.completions allocation -
      after.2.issued allocation =
    user.waits allocation + quota.completions allocation - quota.issued allocation
  used : after.2.used - after.1.holding = quota.used - user.holding + leak

namespace ResourceQuota

variable {quota quota' : ResourceQuota}

theorem Conserved.update (conserved : quota.Conserved) {leak : Int}
    {change : ResourceUser → ResourceQuota → Option (ResourceUser × ResourceQuota)}
    (settles : ∀ {user after}, quota.users[u]? = some user → user.alive = true → user.Sound →
      change user quota = some after → Settles leak user quota after)
    (updated : quota.update u change = some quota') :
    quota'.Conserved ∧ quota'.leaked = quota.leaked + leak := by
  obtain ⟨user, after, there, alive, changed, rfl⟩ := update_eq_some updated
  obtain ⟨users, size, sound, once, used⟩ :=
    settles there alive (conserved.users there alive) changed
  refine ⟨⟨?_, ?_, ?_⟩, ?_⟩
  · have before := conserved.size
    dsimp only
    rw [users, total_set there]
    omega
  · intro v user' there' alive'
    rw [users] at there'
    rcases set_cases there' with ⟨rfl, rfl⟩ | ⟨-, old⟩
    · exact sound alive'
    · exact conserved.users old alive'
  · intro allocation
    have before := conserved.once allocation
    have change := once allocation
    simp only [issued, completions] at before change ⊢
    rw [users, total_set there]
    omega
  · unfold leaked
    dsimp only
    rw [users, total_set there]
    omega

end ResourceQuota

variable {after : ResourceUser × ResourceQuota} {destructive : Bool}

namespace ResourceUser

variable {user : ResourceUser} {quota : ResourceQuota}

theorem settles_of_same (same : ResourceQuota.SameAccounts quota after.2)
    (alive : after.1.alive = user.alive) (free : after.1.freePool = user.freePool)
    (held : after.1.held = user.held) (waiting : after.1.onAllocated = user.onAllocated)
    (sound : after.1.Sound) : Settles 0 user quota after := by
  obtain ⟨users, size, used, allocations, completed⟩ := same
  refine ⟨users, ?_, fun _ => sound, fun allocation => ?_, ?_⟩
  · simp only [stake, alive, free, held]
    omega
  · simp only [waits, alive, waiting, ResourceQuota.completions, ResourceQuota.issued, completed,
      allocations]
  · simp only [holding, alive, held, used]
    omega

theorem unrefBy_same (user : ResourceUser) (u : UserId) (amount : Nat) (quota : ResourceQuota) :
    ResourceQuota.SameAccounts quota (user.unrefBy u amount quota).2 := by
  unfold unrefBy
  split_ifs <;> exact ⟨rfl, rfl, rfl, rfl, rfl⟩

theorem ref_settles (sound : user.Sound) (done : user.ref quota = some after) :
    Settles 0 user quota after := by
  obtain ⟨-, rfl⟩ := Option.ite_some_none_eq_some.mp done
  refine settles_of_same ⟨rfl, rfl, rfl, rfl, rfl⟩ rfl rfl rfl rfl ?_
  have refs := sound.refs
  exact ⟨sound.stake, sound.outstanding, sound.sizes, sound.covered, by dsimp only; omega⟩

theorem unref_settles (sound : user.Sound) (done : user.unref u quota = some after) :
    Settles 0 user quota after := by
  obtain ⟨owned, rfl⟩ := Option.ite_some_none_eq_some.mp done
  refine settles_of_same (unrefBy_same _ u 1 quota) rfl rfl rfl rfl ?_
  have refs := sound.refs
  exact ⟨sound.stake, sound.outstanding, sound.sizes, sound.covered, by dsimp only [unrefBy]; omega⟩

theorem close_settles (sound : user.Sound) (done : user.close u quota = some after) :
    Settles 0 user quota after := by
  unfold close at done
  split_ifs at done
  · obtain rfl := Option.some.inj done
    exact settles_of_same ⟨rfl, rfl, rfl, rfl, rfl⟩ rfl rfl rfl rfl sound
  · obtain rfl := Option.some.inj done
    exact settles_of_same ⟨rfl, rfl, rfl, rfl, rfl⟩ rfl rfl rfl rfl
      ⟨sound.stake, sound.outstanding, sound.sizes, sound.covered, sound.refs⟩

theorem postReclaimer_settles (sound : user.Sound)
    (done : user.postReclaimer u destructive quota = some after) : Settles 0 user quota after := by
  obtain ⟨-, rfl⟩ := Option.ite_some_none_eq_some.mp done
  exact settles_of_same ⟨rfl, rfl, rfl, rfl, rfl⟩ rfl rfl rfl rfl
    ⟨sound.stake, sound.outstanding, sound.sizes, sound.covered, sound.refs⟩

theorem issued_succ (quota : ResourceQuota) (allocation : Nat) :
    ({ quota with allocations := quota.allocations + 1 } : ResourceQuota).issued allocation =
      quota.issued allocation + if allocation = quota.allocations then 1 else 0 := by
  simp only [ResourceQuota.issued]
  split_ifs <;> omega

theorem count_concat (numbers : List Nat) (number allocation : Nat) :
    ((numbers ++ [number]).count allocation : Int) =
      numbers.count allocation + if allocation = number then 1 else 0 := by
  by_cases same : allocation = number
  · simp [same]
  · simp [same, Ne.symm same]

variable {size : Nat}

section

variable (sound : user.Sound) (alive : user.alive = true)
include sound alive

theorem allocLocked_settles (u : UserId) (positive : 0 < size) (onDone : Bool) :
    Settles 0 user quota
      (user.allocLocked u size onDone { quota with used := quota.used + size }) := by
  obtain ⟨stake', outstanding, sizes, covered, refs⟩ := sound
  -- The user after the allocation, but for the closure that may wait.
  have charged : ∀ {onAllocated outstandingAllocations allocating},
      outstandingAllocations = (onAllocated.map Prod.snd).sum →
      (∀ waiting ∈ onAllocated, 0 < waiting.2) → outstandingAllocations ≤ user.held + size →
      Sound { user with
        refs := user.refs + size
        freePool := user.freePool - size
        held := user.held + size
        onAllocated, outstandingAllocations, allocating } := by
    intro onAllocated outstandingAllocations allocating sum positives bound
    exact ⟨by dsimp only; omega, sum, positives, bound, by dsimp only; omega⟩
  have outstanding' : user.outstandingAllocations + size =
      ((user.onAllocated ++ [(quota.allocations, size)]).map Prod.snd).sum := by
    simp [outstanding]
  have sizes' : ∀ waiting ∈ user.onAllocated ++ [(quota.allocations, size)], 0 < waiting.2 := by
    intro waiting member
    rcases List.mem_append.mp member with old | new
    · exact sizes waiting old
    · rw [List.mem_singleton.mp new]
      exact positive
  unfold allocLocked
  cases onDone with
  | false =>
    simp only [Bool.false_eq_true, if_false]
    split_ifs
    all_goals
      refine ⟨rfl, ?_, fun _ => charged outstanding sizes (by omega), fun _ => rfl, ?_⟩
      · simp only [stake, alive, if_true, ResourceQuota.run]
        omega
      · simp only [holding, alive, if_true, ResourceQuota.run]
        omega
  | true =>
    simp only [if_true]
    split_ifs with enough already
    · refine ⟨rfl, ?_, fun _ => charged outstanding sizes (by omega), fun _ => rfl, ?_⟩
      · simp only [stake, alive, if_true]
        omega
      · simp only [holding, alive, if_true]
        omega
    all_goals
      refine ⟨rfl, ?_, fun _ => charged outstanding' sizes' (by omega), fun allocation => ?_, ?_⟩
      · simp only [stake, alive, if_true, ResourceQuota.run]
        omega
      · have more := issued_succ quota allocation
        have longer := count_concat (user.onAllocated.map Prod.fst) quota.allocations allocation
        simp only [waits, alive, if_true, ResourceQuota.run, ResourceQuota.completions,
          List.map_append, List.map_cons, List.map_nil] at more longer ⊢
        simp only [ResourceQuota.issued] at more ⊢
        omega
      · simp only [holding, alive, if_true, ResourceQuota.run]
        omega

theorem alloc_settles {onDone : Bool} (done : user.alloc u size onDone quota = some after) :
    Settles 0 user quota after := by
  obtain ⟨⟨positive, -⟩, rfl⟩ := Option.ite_some_none_eq_some.mp done
  exact allocLocked_settles sound alive u positive onDone

theorem safeAlloc_settles (done : user.safeAlloc u size quota = some after) :
    Settles 0 user quota after := by
  obtain ⟨⟨positive, -⟩, rfl⟩ := Option.ite_some_none_eq_some.mp done
  exact allocLocked_settles sound alive u positive false

theorem free_settles (done : user.free u size quota = some after) : Settles 0 user quota after := by
  obtain ⟨stake', outstanding, sizes, covered, refs⟩ := sound
  obtain ⟨⟨positive, held, -⟩, done⟩ := Option.ite_none_right_eq_some.mp done
  dsimp only at done
  -- What both branches do to the accounts.
  have settled : ∀ {after' : ResourceUser} {quota' : ResourceQuota}, after'.alive = true →
      after'.freePool = user.freePool + size → after'.held = user.held - size →
      after'.onAllocated = user.onAllocated →
      after'.outstandingAllocations = user.outstandingAllocations →
      after'.refs = user.refs - size → after'.owners = user.owners →
      ResourceQuota.SameAccounts { quota with used := quota.used - size } quota' →
      Settles 0 user quota (after', quota') := by
    intro after' quota' alive' freePool held' waiting outstanding' refs' owners same
    refine ⟨same.users, ?_, fun _ => ⟨?_, ?_, waiting ▸ sizes, ?_, ?_⟩, fun allocation => ?_, ?_⟩
    · have kept := same.free
      simp only [stake, alive, alive', if_true, freePool, held'] at kept ⊢
      omega
    · rw [freePool, held']
      omega
    · rw [outstanding', waiting]
      exact outstanding
    · rw [outstanding', held']
      omega
    · rw [refs', owners, held']
      omega
    · simp only [waits, alive, alive', waiting, ResourceQuota.completions, ResourceQuota.issued,
        same.completed, same.allocations]
    · have used := same.used
      simp only [holding, alive, alive', if_true, held'] at used ⊢
      omega
  split_ifs at done
  · obtain rfl := Option.some.inj done
    refine settled alive rfl rfl rfl rfl rfl rfl ?_
    have same := unrefBy_same
      { user with
        freePool := user.freePool + size
        held := user.held - size
        addedToFreePool := true } u size
      ({ quota with used := quota.used - size }.run (.addToFreePool u))
    exact ⟨same.users, same.free, same.used, same.allocations, same.completed⟩
  · obtain rfl := Option.some.inj done
    exact settled alive rfl rfl rfl rfl rfl rfl (unrefBy_same _ u size _)

end

end ResourceUser

namespace ResourceQuota

section Users

variable {user : ResourceUser} {quota : ResourceQuota}

theorem ruPostReclaimer_settles (sound : user.Sound)
    (done : ruPostReclaimer user u destructive quota = some after) :
    Settles 0 user quota after := by
  have sound' : ∀ reclaimers newReclaimers,
      ResourceUser.Sound { user with reclaimers, newReclaimers } := fun _ _ =>
    ⟨sound.stake, sound.outstanding, sound.sizes, sound.covered, sound.refs⟩
  obtain ⟨-, done⟩ := Option.ite_none_right_eq_some.mp done
  dsimp only at done
  split_ifs at done
  · obtain rfl := Option.some.inj done
    exact settles_of_same ⟨rfl, rfl, rfl, rfl, rfl⟩ rfl rfl rfl rfl (sound' _ _)
  · obtain rfl := Option.some.inj done
    obtain ⟨users, free, used, allocations, completed⟩ := SameAccounts.of_sched quota _
    exact settles_of_same ⟨users, free, used, allocations, completed⟩ rfl rfl rfl rfl (sound' _ _)

theorem ruShutdown_settles (sound : user.Sound) (u : UserId) :
    Settles 0 user quota (ruShutdown user u quota) := by
  obtain ⟨users, free, used, allocations, completed⟩ :=
    SameAccounts.of_sched quota user.allocating
  exact settles_of_same ⟨users, free, used, allocations, completed⟩ rfl rfl rfl rfl
    ⟨sound.stake, sound.outstanding, sound.sizes, sound.covered, sound.refs⟩

theorem ruDestroy_settles (sound : user.Sound) (alive : user.alive = true)
    (done : ruDestroy user u quota = some after) : Settles 0 user quota after := by
  obtain ⟨unreferenced, rfl⟩ := Option.ite_some_none_eq_some.mp done
  have refs := sound.refs
  have nothing : user.held = 0 := by omega
  have idle := sound.onAllocated_eq_nil nothing
  obtain ⟨users, free, used, allocations, completed⟩ :=
    SameAccounts.of_sched quota (decide (user.freePool ≠ 0))
  have size : (quota.rqStepSchedIf (decide (user.freePool ≠ 0))).size = quota.size := by
    unfold rqStepSchedIf
    split_ifs <;> rfl
  refine ⟨users, ?_, fun still => absurd still (by simp), fun allocation => ?_, ?_⟩
  · simp only [stake, alive, if_true, Bool.false_eq_true, if_false, nothing, size]
    omega
  · simp only [waits, alive, if_true, Bool.false_eq_true, if_false, idle, completions,
      issued, completed, allocations, List.map_nil, List.count_nil, Int.natCast_zero]
  · simp only [holding, alive, if_true, Bool.false_eq_true, if_false, nothing, used]
    omega

theorem completions_complete (user : ResourceUser) (quota : ResourceQuota) (granted : Bool)
    (allocation : Nat) :
    (quota.complete user granted).completions allocation =
      quota.completions allocation + (user.onAllocated.map Prod.fst).count allocation := by
  simp only [completions, complete, List.map_append, List.map_map, List.count_append]
  rfl

section

variable (sound : user.Sound) (alive : user.alive = true)
include sound alive

/-- What a failed allocation leaves: the bytes are back in the user's pool, and still in
`used`. -/
theorem settles_failed {user' : ResourceUser} {quota' : ResourceQuota} (alive' : user'.alive = true)
    (freePool : user'.freePool = user.freePool + user.outstandingAllocations)
    (held : user'.held = user.held - user.outstandingAllocations) (waiting : user'.onAllocated = [])
    (outstanding : user'.outstandingAllocations = 0)
    (refs : user'.refs = user.refs - user.outstandingAllocations)
    (owners : user'.owners = user.owners) (same : SameAccounts (quota.complete user false) quota') :
    Settles user.outstandingAllocations user quota (user', quota') := by
  obtain ⟨stake', -, -, covered, refs'⟩ := sound
  refine ⟨same.users, ?_, fun _ => ⟨?_, ?_, ?_, ?_, ?_⟩, fun allocation => ?_, ?_⟩
  · have free := same.free
    simp only [complete] at free
    simp only [stake, alive, alive', if_true, freePool, held]
    omega
  · rw [freePool, held]
    omega
  · rw [outstanding, waiting]
    rfl
  · rw [waiting]
    simp
  · rw [outstanding]
    exact Nat.zero_le _
  · rw [refs, owners, held]
    omega
  · have now := completions_complete user quota false allocation
    simp only [waits, alive, alive', if_true, waiting, List.map_nil, List.count_nil]
    simp only [issued, completions, same.allocations, same.completed] at now ⊢
    simp only [complete] at now ⊢
    omega
  · have used := same.used
    simp only [complete] at used
    simp only [holding, alive, alive', if_true, held]
    omega

theorem rqAllocUser_settles_closed (closed : user.shutdown = true) (u : UserId) :
    Settles user.outstandingAllocations user quota (rqAllocUser user u quota) := by
  unfold rqAllocUser
  rw [if_pos closed]
  dsimp only
  split_ifs with aborted
  · exact settles_failed sound alive alive rfl rfl rfl rfl rfl rfl
      (unrefBy_same _ u _ _)
  · have none : user.outstandingAllocations = 0 := by omega
    refine settles_failed sound alive alive rfl rfl rfl rfl ?_ rfl ⟨rfl, rfl, rfl, rfl, rfl⟩
    rw [none]
    rfl

theorem settles_granted {freePool poolChange : Int}
    (granted : freePool = user.freePool - poolChange) (enough : 0 ≤ freePool) : Settles 0 user quota
      ({ user with freePool, allocating := false, outstandingAllocations := 0, onAllocated := [] },
        { quota with freePool := quota.freePool + poolChange }.complete user true) := by
  have done := completions_complete user { quota with freePool := quota.freePool + poolChange } true
  refine ⟨rfl, ?_, fun _ => ⟨?_, rfl, by simp, Nat.zero_le _, sound.refs⟩, fun allocation => ?_, ?_⟩
  · simp only [stake, alive, if_true, complete]
    omega
  · dsimp only
    omega
  · have now := done allocation
    simp only [waits, alive, if_true, List.map_nil, List.count_nil]
    simp only [issued, completions, complete] at now ⊢
    omega
  · simp only [holding, alive, if_true, complete]
    omega

theorem rqAllocUser_settles_open (opened : ¬ user.shutdown = true) (u : UserId) :
    Settles 0 user quota (rqAllocUser user u quota) := by
  unfold rqAllocUser
  rw [if_neg opened]
  dsimp only
  by_cases granted : user.freePool < 0 ∧ -user.freePool ≤ quota.freePool
  · simp only [if_pos granted, if_pos (Or.inl granted : _ ∨ 0 ≤ user.freePool)]
    exact settles_granted sound alive (by omega) (Int.le_refl 0)
  · split_ifs with enough
    · have covered : 0 ≤ user.freePool := enough.resolve_left granted
      have settled : Settles 0 user quota (_, { quota with freePool := quota.freePool + 0 }.complete
          user true) :=
        settles_granted sound alive (by omega : user.freePool = user.freePool - 0) covered
      rw [Int.add_zero] at settled
      exact settled
    · exact settles_of_same ⟨rfl, rfl, rfl, rfl, rfl⟩ rfl rfl rfl rfl sound

theorem rqReclaimUser_settles : Settles 0 user quota (rqReclaimUser user quota) := by
  unfold rqReclaimUser
  dsimp only
  split_ifs with some
  · refine ⟨rfl, ?_, fun _ => ⟨?_, sound.outstanding, sound.sizes, sound.covered, sound.refs⟩,
      fun _ => rfl, ?_⟩
    · simp only [stake, alive, if_true]
      omega
    · dsimp only
      omega
    · simp only [holding, alive, if_true]
      omega
  · exact settles_of_same ⟨rfl, rfl, rfl, rfl, rfl⟩ rfl rfl rfl rfl
      ⟨sound.stake, sound.outstanding, sound.sizes, sound.covered, sound.refs⟩

end

end Users

/-- The bytes of waiting allocations that a step fails: those of the user that
`rq_alloc` finds shut down. -/
def aborts (quota : ResourceQuota) : Action → Nat
  | .rqContinue =>
    match quota.phase, quota.awaitingAllocation with
    | .alloc, u :: _ =>
      match quota.users[u]? with
      | some user => if user.shutdown then user.outstandingAllocations else 0
      | none => 0
    | _, _ => 0
  | _ => 0

section Steps

variable {quota quota' : ResourceQuota}

/-- What a step keeps, and what it leaves in `used`. -/
def Keeps (quota quota' : ResourceQuota) (leak : Int) : Prop :=
  quota'.Conserved ∧ quota'.leaked = quota.leaked + leak

theorem SameAccounts.keeps (same : SameAccounts quota quota') (conserved : quota.Conserved) :
    Keeps quota quota' 0 :=
  ⟨same.conserved conserved, by rw [same.leaked, Int.add_zero]⟩

theorem SameAccounts.keeps_update {middle : ResourceQuota} (same : SameAccounts quota middle)
    (conserved : quota.Conserved) {leak : Int}
    {change : ResourceUser → ResourceQuota → Option (ResourceUser × ResourceQuota)}
    (settles : ∀ {user after}, quota.users[u]? = some user → user.alive = true → user.Sound →
      change user middle = some after → Settles leak user middle after)
    (updated : middle.update u change = some quota') : Keeps quota quota' leak := by
  obtain ⟨conserved', leaked⟩ := (same.conserved conserved).update
    (fun there alive sound changed => settles (same.users ▸ there) alive sound changed) updated
  exact ⟨conserved', by rw [leaked, same.leaked]⟩

section

variable (conserved : quota.Conserved)
include conserved

theorem Conserved.runClosure (taken : quota.runClosure = some quota') : Keeps quota quota' 0 := by
  unfold ResourceQuota.runClosure at taken
  split at taken
  · rename_i closure rest phase queued
    have popped : SameAccounts quota { quota with combiner := rest } := ⟨rfl, rfl, rfl, rfl, rfl⟩
    cases closure with
    | allocate =>
      obtain rfl := Option.some.inj taken
      obtain ⟨users, free, used, allocations, completed⟩ := SameAccounts.of_sched
        { quota with combiner := rest } quota.awaitingAllocation.isEmpty
      exact SameAccounts.keeps ⟨users, free, used, allocations, completed⟩ conserved
    | addToFreePool =>
      obtain rfl := Option.some.inj taken
      obtain ⟨users, free, used, allocations, completed⟩ := SameAccounts.of_sched
        { quota with combiner := rest }
        (!quota.awaitingAllocation.isEmpty && quota.nonEmptyFreePool.isEmpty)
      exact SameAccounts.keeps ⟨users, free, used, allocations, completed⟩ conserved
    | postReclaimer =>
      exact popped.keeps_update conserved
        (fun _ _ sound done => ruPostReclaimer_settles sound done) taken
    | shutdown u =>
      refine popped.keeps_update conserved (fun _ _ sound done => ?_) taken
      obtain rfl := Option.some.inj done
      exact ruShutdown_settles sound u
    | destroy =>
      exact popped.keeps_update conserved
        (fun _ alive sound done => ruDestroy_settles sound alive done) taken
    | reclamationDone =>
      obtain rfl := Option.some.inj taken
      exact SameAccounts.keeps ⟨rfl, rfl, rfl, rfl, rfl⟩ conserved
  · cases taken

theorem Conserved.rqReclaim {destructive : Bool}
    (taken : { quota with phase := Phase.idle }.rqReclaim destructive = some quota') :
    Keeps quota quota' 0 := by
  unfold ResourceQuota.rqReclaim at taken
  split at taken
  · cases taken
  · rename_i u rest listed
    have popped : SameAccounts quota
        { quota with
          phase := Phase.idle
          reclaimerLists := Function.update quota.reclaimerLists destructive rest
          reclaiming := true
          unfinished := true } := ⟨rfl, rfl, rfl, rfl, rfl⟩
    refine popped.keeps_update conserved (fun _ _ sound done => ?_) taken
    obtain ⟨-, rfl⟩ := Option.ite_some_none_eq_some.mp done
    exact settles_of_same ⟨rfl, rfl, rfl, rfl, rfl⟩ rfl rfl rfl rfl
      ⟨sound.stake, sound.outstanding, sound.sizes, sound.covered, sound.refs⟩

theorem Conserved.rqContinue (taken : quota.rqContinue = some quota') :
    Keeps quota quota' (quota.aborts .rqContinue) := by
  unfold ResourceQuota.rqContinue at taken
  rcases phase : quota.phase with _ | _ | _ | _
  · simp only [phase] at taken
    cases taken
  · simp only [phase] at taken
    rcases waiting : quota.awaitingAllocation with _ | ⟨u, rest⟩
    · simp only [waiting] at taken
      simp only [aborts, phase, waiting]
      obtain rfl := Option.some.inj taken
      exact SameAccounts.keeps ⟨rfl, rfl, rfl, rfl, rfl⟩ conserved
    · simp only [waiting] at taken
      have popped : SameAccounts quota { quota with awaitingAllocation := rest, phase := .alloc } :=
        ⟨rfl, rfl, rfl, rfl, rfl⟩
      refine popped.keeps_update conserved (fun {user after} there alive sound done => ?_) taken
      obtain rfl := Option.some.inj done
      simp only [aborts, phase, waiting, there]
      by_cases closed : user.shutdown = true
      · rw [if_pos closed]
        exact rqAllocUser_settles_closed sound alive closed u
      · rw [if_neg closed]
        exact rqAllocUser_settles_open sound alive closed u
  · simp only [phase] at taken
    simp only [aborts, phase]
    split at taken
    · obtain rfl := Option.some.inj taken
      exact SameAccounts.keeps ⟨rfl, rfl, rfl, rfl, rfl⟩ conserved
    · rename_i u rest listed
      have popped : SameAccounts quota
          { quota with nonEmptyFreePool := rest, phase := .reclaimFromPerUserFreePool } :=
        ⟨rfl, rfl, rfl, rfl, rfl⟩
      refine popped.keeps_update conserved (fun _ alive sound done => ?_) taken
      obtain rfl := Option.some.inj done
      exact rqReclaimUser_settles sound alive
  · simp only [phase] at taken
    simp only [aborts, phase]
    split_ifs at taken
    · obtain rfl := Option.some.inj taken
      exact SameAccounts.keeps ⟨rfl, rfl, rfl, rfl, rfl⟩ conserved
    · exact conserved.rqReclaim taken
    · exact conserved.rqReclaim taken
    · obtain rfl := Option.some.inj taken
      exact SameAccounts.keeps ⟨rfl, rfl, rfl, rfl, rfl⟩ conserved

theorem Conserved.create : Keeps quota { quota with users := quota.users ++ [{}] } 0 := by
  refine ⟨⟨?_, ?_, ?_⟩, ?_⟩
  · rw [total_append_singleton]
    exact conserved.size.trans (by simp [stake])
  · intro u user there alive
    rcases append_cases there with old | ⟨-, rfl⟩
    · exact conserved.users old alive
    · exact ⟨by decide, rfl, by simp, Nat.le_refl _, rfl⟩
  · intro allocation
    rw [total_append_singleton, waits]
    simpa [completions, issued] using conserved.once allocation
  · simp only [leaked, total_append_singleton, holding]
    simp

theorem Conserved.step {action : Action} (taken : quota.step action = some quota') :
    Keeps quota quota' (quota.aborts action) := by
  have whole : SameAccounts quota quota := ⟨rfl, rfl, rfl, rfl, rfl⟩
  cases action with
  | create =>
    obtain rfl := Option.some.inj taken
    exact conserved.create
  | ref =>
    exact whole.keeps_update conserved (fun _ _ sound done => ref_settles sound done) taken
  | unref =>
    exact whole.keeps_update conserved (fun _ _ sound done => unref_settles sound done) taken
  | alloc =>
    exact whole.keeps_update conserved
      (fun _ alive sound done => alloc_settles sound alive done) taken
  | safeAlloc =>
    exact whole.keeps_update conserved
      (fun _ alive sound done => safeAlloc_settles sound alive done) taken
  | free =>
    exact whole.keeps_update conserved
      (fun _ alive sound done => free_settles sound alive done) taken
  | shutdown =>
    exact whole.keeps_update conserved (fun _ _ sound done => close_settles sound done) taken
  | postReclaimer =>
    exact whole.keeps_update conserved
      (fun _ _ sound done => postReclaimer_settles sound done) taken
  | finishReclamation | resize | rqStep =>
    obtain ⟨-, rfl⟩ := Option.ite_some_none_eq_some.mp taken
    exact SameAccounts.keeps ⟨rfl, rfl, rfl, rfl, rfl⟩ conserved
  | rqResize =>
    obtain ⟨size, -, rfl⟩ := Option.map_eq_some_iff.mp taken
    refine SameAccounts.keeps ⟨rfl, ?_, rfl, rfl, rfl⟩ conserved
    simp only [ResourceQuota.rqResize, rqStepSched]
    omega
  | runClosure => exact conserved.runClosure taken
  | rqContinue => exact conserved.rqContinue taken

end

end Steps

theorem conserved_empty : ({} : ResourceQuota).Conserved :=
  ⟨rfl, by simp, fun _ => rfl⟩

/-- The quota's size is what is free in it and what its users have, no user has less than
nothing, `used` is what users hold, and an allocation that has had to wait waits still or
has been completed, once. -/
structure Balanced (quota : ResourceQuota) : Prop where
  size : quota.size = quota.freePool + Ledger.total ResourceUser.stake quota.users
  stake : ∀ {u : UserId} {user : ResourceUser}, quota.users[u]? = some user →
    user.alive = true → 0 ≤ user.freePool + user.held
  used : quota.used = Ledger.total ResourceUser.holding quota.users
  once : ∀ allocation, Ledger.total (ResourceUser.waits allocation) quota.users +
    quota.completions allocation = quota.issued allocation

theorem Conserved.balanced_iff {quota : ResourceQuota} (conserved : quota.Conserved) :
    quota.Balanced ↔ quota.leaked = 0 := by
  unfold leaked
  constructor
  · intro balanced
    have used := balanced.used
    omega
  · intro nothing
    exact ⟨conserved.size, fun there alive => (conserved.users there alive).stake, by omega,
      conserved.once⟩

/-- In every run the size is conserved and allocations are completed once, and the runs
where `used` is right in every state are those in which no step fails a waiting
allocation. -/
theorem conservation_iff (actions : List Action) (quota : ResourceQuota) :
    (Machine.Reach step {} actions quota → quota.Conserved) ∧
      (Machine.Run step (fun quota action => quota.aborts action = 0) {} actions quota ↔
        Machine.Reach step {} actions quota ∧
          ∀ done later, actions = done ++ later → ∀ middle, Machine.Reach step {} done middle →
            middle.Balanced) := by
  refine ⟨fun run => run.invariant (fun conserved _ taken => (conserved.step taken).1)
    conserved_empty, ?_⟩
  refine Machine.Run.iff_always (fun conserved taken => (conserved.step taken).1) ?_
    conserved_empty (conserved_empty.balanced_iff.mpr rfl) actions quota
  intro state action state' conserved balanced taken
  obtain ⟨conserved', leaked⟩ := conserved.step taken
  rw [conserved'.balanced_iff, leaked, conserved.balanced_iff.mp balanced]
  omega

/-- A user with an allocation of 200 bytes that waits is shut down: the allocation fails,
and stays in `used`. -/
theorem shutdown_not_balanced :
    ¬ ∀ (actions : List Action) (quota : ResourceQuota),
      Machine.Reach step {} actions quota → quota.Balanced := by
  intro always
  obtain ⟨quota, run, seen⟩ := Machine.exists_reach step {}
    [.create, .resize 100, .rqResize 0, .alloc 0 200 true, .runClosure, .rqStep, .rqContinue,
      .rqContinue, .rqContinue, .shutdown 0, .runClosure, .rqStep, .rqContinue, .rqContinue]
    (fun quota => (quota.used, (quota.users.map ResourceUser.holding).sum)) (200, 0) (by decide)
  obtain ⟨used, holding⟩ := Prod.mk.inj seen
  have balanced := (always _ quota run).used
  rw [used, Ledger.total, holding] at balanced
  cases balanced

end ResourceQuota

end GrpcCore.Iomgr
