import GrpcCore.Iomgr.Conservation

/-!
# Allocations that wait

While users wait for memory, `rq_step` has to be scheduled whenever the first of them
can have it. The lists say when it is scheduled; two changes they do not see: a user
that waits first and frees bytes of its own, and the bytes that a failed allocation
leaves in the pool of its user.
-/

namespace GrpcCore.Iomgr

def Closure.user : Closure → Option UserId
  | .allocate u => some u
  | .addToFreePool u => some u
  | .postReclaimer u _ => some u
  | .shutdown u => some u
  | .destroy u => some u
  | .reclamationDone => none

def ResourceUser.Blocked (user : ResourceUser) (freePool : Int) : Prop :=
  user.freePool < 0 ∧ freePool < -user.freePool

namespace ResourceQuota

/-- `rq_step` will look at the first user that waits. -/
def Looks (quota : ResourceQuota) : Prop :=
  quota.stepScheduled = true ∨ quota.phase = .alloc

structure Listed (quota : ResourceQuota) : Prop where
  waiting : ∀ {v}, v ∈ quota.awaitingAllocation ∨ .allocate v ∈ quota.combiner →
    ∃ user : ResourceUser, quota.users[v]? = some user ∧ user.alive = true ∧
      user.allocating = true
  unique : ∀ v, quota.awaitingAllocation.count v + quota.combiner.count (.allocate v) ≤ 1
  -- A user is destroyed after all its other closures.
  order : ∀ {v before after}, quota.combiner = before ++ .destroy v :: after →
    ∀ closure ∈ after, closure.user ≠ some v
  dying : ∀ {v : UserId}, .destroy v ∈ quota.combiner →
    ∃ user : ResourceUser, quota.users[v]? = some user ∧ user.refs = 0
  published : ∀ {v : UserId} {user : ResourceUser}, quota.users[v]? = some user →
    user.alive = true → 0 < user.freePool → user.addedToFreePool = true
  added : ∀ {v : UserId} {user : ResourceUser}, quota.users[v]? = some user →
    user.alive = true → user.addedToFreePool = true →
      .addToFreePool v ∈ quota.combiner ∨ v ∈ quota.nonEmptyFreePool

structure Attended (quota : ResourceQuota) : Prop where
  pools : quota.awaitingAllocation ≠ [] → quota.nonEmptyFreePool ≠ [] →
    quota.Looks ∨ quota.phase = .reclaimFromPerUserFreePool
  first : ∀ {u rest} {user : ResourceUser}, quota.awaitingAllocation = u :: rest →
    quota.users[u]? = some user →
      quota.Looks ∨ .addToFreePool u ∈ quota.combiner ∨ user.Blocked quota.freePool
  closed : ∀ {u rest} {user : ResourceUser}, quota.awaitingAllocation = u :: rest →
    quota.users[u]? = some user → user.shutdown = true →
      quota.Looks ∨ .shutdown u ∈ quota.combiner
  reclaimers : quota.awaitingAllocation ≠ [] →
    quota.stepScheduled = true ∨ quota.phase ≠ .idle ∨ quota.reclaiming = true ∨
      ∀ destructive, quota.reclaimerLists destructive = []
  reclaim : quota.phase = .reclaim → quota.nonEmptyFreePool = []

end ResourceQuota

/-- Closures are appended to the combiner's queue, and the lists stay as they are. -/
structure Appends (quota quota' : ResourceQuota) (new : List Closure) : Prop where
  users : quota'.users = quota.users
  combiner : quota'.combiner = quota.combiner ++ new
  awaitingAllocation : quota'.awaitingAllocation = quota.awaitingAllocation
  nonEmptyFreePool : quota'.nonEmptyFreePool = quota.nonEmptyFreePool
  reclaimerLists : quota'.reclaimerLists = quota.reclaimerLists
  stepScheduled : quota'.stepScheduled = quota.stepScheduled
  reclaiming : quota'.reclaiming = quota.reclaiming
  phase : quota'.phase = quota.phase
  freePool : quota'.freePool = quota.freePool

/-- What an operation of a user does outside the combiner: it appends closures of its
own. -/
structure Acts (u : UserId) (user : ResourceUser) (quota : ResourceQuota)
    (after : ResourceUser × ResourceQuota) (new : List Closure) : Prop
    extends Appends quota after.2 new where
  alive : after.1.alive = true
  referenced : user.refs ≠ 0
  own : ∀ closure ∈ new, closure.user = some u
  last : ∀ {before rest}, new = before ++ .destroy u :: rest → rest = []
  dying : .destroy u ∈ new → after.1.refs = 0
  allocating : user.allocating = true → after.1.allocating = true
  allocate : .allocate u ∈ new → user.allocating = false ∧ after.1.allocating = true
  allocateOnce : new.count (.allocate u) ≤ 1
  published : 0 < after.1.freePool → after.1.addedToFreePool = true
  added : after.1.addedToFreePool = true →
    user.addedToFreePool = true ∨ .addToFreePool u ∈ new
  closed : after.1.shutdown = true → user.shutdown = true ∨ .shutdown u ∈ new
  -- Where nobody is going to look at the user, it stays blocked or says that it is not.
  blocked : ∀ {rest}, quota.awaitingAllocation = u :: rest → ¬ quota.Looks →
    .addToFreePool u ∉ quota.combiner → user.Blocked quota.freePool →
      after.1.Blocked quota.freePool ∨ .addToFreePool u ∈ new

variable {after : ResourceUser × ResourceQuota} {new before : List Closure}

namespace ResourceQuota

variable {quota quota' : ResourceQuota}

theorem order_append {combiner : List Closure} {u : UserId}
    (order : ∀ {v before after}, combiner = before ++ .destroy v :: after →
      ∀ closure ∈ after, closure.user ≠ some v) (living : .destroy u ∉ combiner)
    (own : ∀ closure ∈ new, closure.user = some u)
    (last : ∀ {before rest}, new = before ++ .destroy u :: rest → rest = []) {v : UserId}
    {after : List Closure} (split : combiner ++ new = before ++ .destroy v :: after) :
    ∀ closure ∈ after, closure.user ≠ some v := by
  intro closure member same
  rcases List.append_eq_append_iff.mp split with ⟨middle, front, back⟩ | ⟨middle, front, back⟩
  · -- The destruction is one of the new closures.
    have destroyed := own (.destroy v) (by rw [back]; simp)
    obtain rfl : v = u := Option.some.inj destroyed
    rw [last back] at member
    cases member
  · cases middle with
    | nil =>
      have destroyed := own (.destroy v) (by rw [← List.nil_append new, ← back]; simp)
      obtain rfl : v = u := Option.some.inj destroyed
      have alone : new = [] ++ .destroy v :: after := by simpa using back.symm
      rw [last alone] at member
      cases member
    | cons =>
      obtain ⟨rfl, rest⟩ := List.cons.inj back
      rw [rest] at member
      rcases List.mem_append.mp member with old | fresh
      · exact order front closure old same
      · rw [own closure fresh] at same
        obtain rfl := Option.some.inj same
        exact living (by rw [front]; simp)

theorem Listed.act (listed : quota.Listed) {u : UserId} {user : ResourceUser}
    (there : quota.users[u]? = some user) (alive : user.alive = true)
    (acts : Acts u user quota after new) :
    ({ after.2 with users := after.2.users.set u after.1 } : ResourceQuota).Listed := by
  have living : .destroy u ∉ quota.combiner := by
    intro member
    obtain ⟨user', there', unreferenced⟩ := listed.dying member
    obtain rfl := Option.mem_unique there there'
    exact acts.referenced unreferenced
  have inRange := (List.getElem?_eq_some_iff.mp there).1
  have here : (quota.users.set u after.1)[u]? = some after.1 := List.getElem?_set_self inRange
  have foreign : ∀ {v closure}, closure ∈ new → closure.user = some v → v = u := by
    intro v closure member belongs
    exact Option.some.inj (belongs.symm.trans (acts.own closure member))
  refine ⟨?_, ?_, ?_, ?_, ?_, ?_⟩
  · intro v waits
    rw [acts.users]
    rw [acts.awaitingAllocation, acts.combiner, List.mem_append, ← or_assoc] at waits
    rcases waits with old | fresh
    · obtain ⟨user', there', alive, allocating⟩ := listed.waiting old
      by_cases same : u = v
      · subst same
        obtain rfl := Option.mem_unique there there'
        exact ⟨after.1, here, acts.alive, acts.allocating allocating⟩
      · exact ⟨user', by rw [List.getElem?_set_ne same]; exact there', alive, allocating⟩
    · obtain rfl := foreign fresh rfl
      exact ⟨after.1, here, acts.alive, (acts.allocate fresh).2⟩
  · intro v
    rw [acts.awaitingAllocation, acts.combiner, List.count_append]
    have before := listed.unique v
    by_cases fresh : .allocate v ∈ new
    · obtain rfl := foreign fresh rfl
      have idle := (acts.allocate fresh).1
      have none : ¬ (v ∈ quota.awaitingAllocation ∨ .allocate v ∈ quota.combiner) := by
        intro waits
        obtain ⟨user', there', -, allocating⟩ := listed.waiting waits
        obtain rfl := Option.mem_unique there there'
        rw [idle] at allocating
        cases allocating
      rw [not_or, ← List.count_eq_zero, ← List.count_eq_zero] at none
      have once := acts.allocateOnce
      omega
    · rw [List.count_eq_zero.mpr fresh]
      exact before
  · intro v before rest split
    rw [acts.combiner] at split
    exact order_append listed.order living acts.own acts.last split
  · intro v member
    rw [acts.users]
    rw [acts.combiner, List.mem_append] at member
    rcases member with queued | fresh
    · have different : u ≠ v := fun same => living (same ▸ queued)
      rw [List.getElem?_set_ne different]
      exact listed.dying queued
    · obtain rfl := foreign fresh rfl
      exact ⟨after.1, here, acts.dying fresh⟩
  · intro v user' there' alive positive
    rw [acts.users] at there'
    rcases Ledger.set_cases there' with ⟨rfl, rfl⟩ | ⟨-, old⟩
    · exact acts.published positive
    · exact listed.published old alive positive
  · intro v user' there' alive' added
    rw [acts.users] at there'
    rw [acts.combiner, acts.nonEmptyFreePool, List.mem_append]
    rcases Ledger.set_cases there' with ⟨rfl, rfl⟩ | ⟨-, old⟩
    · rcases acts.added added with before | fresh
      · exact (listed.added there alive before).imp_left .inl
      · exact .inl (.inr fresh)
    · exact (listed.added old alive' added).imp_left .inl

theorem Attended.act (attended : quota.Attended) {u : UserId} {user : ResourceUser}
    (there : quota.users[u]? = some user) (acts : Acts u user quota after new) :
    ({ after.2 with users := after.2.users.set u after.1 } : ResourceQuota).Attended := by
  have looks : ({ after.2 with users := after.2.users.set u after.1 } : ResourceQuota).Looks ↔
      quota.Looks := by
    simp only [Looks, acts.stepScheduled, acts.phase]
  have kept : ∀ {closure}, closure ∈ quota.combiner → closure ∈ after.2.combiner := by
    intro closure member
    rw [acts.combiner]
    exact List.mem_append_left _ member
  have fresh : ∀ {closure}, closure ∈ new → closure ∈ after.2.combiner := by
    intro closure member
    rw [acts.combiner]
    exact List.mem_append_right _ member
  refine ⟨?_, ?_, ?_, ?_, ?_⟩
  · rw [looks]
    rw [acts.awaitingAllocation, acts.nonEmptyFreePool, acts.phase]
    exact attended.pools
  · intro v rest user' waiting there'
    rw [looks]
    rw [acts.awaitingAllocation] at waiting
    rw [acts.users] at there'
    rw [acts.freePool]
    rcases Ledger.set_cases there' with ⟨rfl, rfl⟩ | ⟨-, old⟩
    · by_cases looking : quota.Looks
      · exact .inl looking
      · by_cases queued : .addToFreePool u ∈ quota.combiner
        · exact .inr (.inl (kept queued))
        · have before := attended.first waiting there
          have blocked := (before.resolve_left looking).resolve_left queued
          rcases acts.blocked waiting looking queued blocked with still | published
          · exact .inr (.inr still)
          · exact .inr (.inl (fresh published))
    · exact (attended.first waiting old).imp_right fun others => others.imp_left kept
  · intro v rest user' waiting there' closed
    rw [looks]
    rw [acts.awaitingAllocation] at waiting
    rw [acts.users] at there'
    rcases Ledger.set_cases there' with ⟨rfl, rfl⟩ | ⟨-, old⟩
    · rcases acts.closed closed with before | now
      · exact (attended.closed waiting there before).imp_right kept
      · exact .inr (fresh now)
    · exact (attended.closed waiting old closed).imp_right kept
  · rw [acts.awaitingAllocation, acts.stepScheduled, acts.phase, acts.reclaiming,
      acts.reclaimerLists]
    exact attended.reclaimers
  · rw [acts.phase, acts.nonEmptyFreePool]
    exact attended.reclaim

end ResourceQuota

variable {quota quota' : ResourceQuota}

theorem Appends.nothing (users : quota'.users = quota.users)
    (combiner : quota'.combiner = quota.combiner)
    (awaitingAllocation : quota'.awaitingAllocation = quota.awaitingAllocation)
    (nonEmptyFreePool : quota'.nonEmptyFreePool = quota.nonEmptyFreePool)
    (reclaimerLists : quota'.reclaimerLists = quota.reclaimerLists)
    (stepScheduled : quota'.stepScheduled = quota.stepScheduled)
    (reclaiming : quota'.reclaiming = quota.reclaiming) (phase : quota'.phase = quota.phase)
    (freePool : quota'.freePool = quota.freePool) : Appends quota quota' [] :=
  ⟨users, by rw [combiner, List.append_nil], awaitingAllocation, nonEmptyFreePool, reclaimerLists,
    stepScheduled, reclaiming, phase, freePool⟩

theorem Appends.run {new : List Closure} (appends : Appends quota quota' new) (closure : Closure) :
    Appends quota (quota'.run closure) (new ++ [closure]) := by
  obtain ⟨users, combiner, awaitingAllocation, nonEmptyFreePool, reclaimerLists, stepScheduled,
    reclaiming, phase, freePool⟩ := appends
  refine ⟨users, ?_, awaitingAllocation, nonEmptyFreePool, reclaimerLists, stepScheduled,
    reclaiming, phase, freePool⟩
  simp only [ResourceQuota.run, combiner, List.append_assoc]

/-- The closure that `ru_unref_by` appends. -/
def destruction (user : ResourceUser) (u : UserId) (amount : Nat) : List Closure :=
  if user.refs = amount then [.destroy u] else []

theorem mem_destruction {user : ResourceUser} {u : UserId} {amount : Nat} {closure : Closure}
    (member : closure ∈ destruction user u amount) :
    closure = .destroy u ∧ user.refs = amount := by
  unfold destruction at member
  split_ifs at member with last
  · exact ⟨List.mem_singleton.mp member, last⟩
  · cases member

theorem Appends.unrefBy {new : List Closure} (appends : Appends quota quota' new)
    (user : ResourceUser) (u : UserId) (amount : Nat) :
    Appends quota (user.unrefBy u amount quota').2 (new ++ destruction user u amount) := by
  unfold ResourceUser.unrefBy destruction
  split_ifs
  · exact appends.run (.destroy u)
  · rw [List.append_nil]
    exact appends

theorem destruction_last {user : ResourceUser} {u : UserId} {amount : Nat}
    (others : .destroy u ∉ new) {rest : List Closure}
    (split : new ++ destruction user u amount = before ++ .destroy u :: rest) : rest = [] := by
  rcases List.append_eq_append_iff.mp split with ⟨middle, -, back⟩ | ⟨middle, front, back⟩
  · unfold destruction at back
    split_ifs at back
    · cases middle with
      | nil => exact (List.cons.inj back).2.symm
      | cons => simp at back
    · simp at back
  · cases middle with
    | nil =>
      unfold destruction at back
      split_ifs at back
      · exact (List.cons.inj back).2
      · simp at back
    | cons =>
      obtain ⟨rfl, -⟩ := List.cons.inj back
      exact absurd (by rw [front]; simp) others

namespace ResourceUser

variable {user : ResourceUser} {quota : ResourceQuota} {u : UserId}

theorem acts_of_same (appends : Appends quota after.2 new) (alive : after.1.alive = true)
    (referenced : user.refs ≠ 0) (own : ∀ closure ∈ new, closure.user = some u)
    (last : ∀ {before rest}, new = before ++ .destroy u :: rest → rest = [])
    (dying : .destroy u ∈ new → after.1.refs = 0) (noAllocation : .allocate u ∉ new)
    (allocating : after.1.allocating = user.allocating)
    (freePool : after.1.freePool = user.freePool)
    (added : after.1.addedToFreePool = user.addedToFreePool)
    (closed : after.1.shutdown = true → user.shutdown = true ∨ .shutdown u ∈ new)
    (published : 0 < user.freePool → user.addedToFreePool = true) :
    Acts u user quota after new where
  toAppends := appends
  alive := alive
  referenced := referenced
  own := own
  last := last
  dying := dying
  allocating := fun before => allocating.trans before
  allocate := fun member => absurd member noAllocation
  allocateOnce := by rw [List.count_eq_zero.mpr noAllocation]; exact Nat.zero_le 1
  published := by rw [freePool, added]; exact published
  added := fun before => .inl (added ▸ before)
  closed := closed
  blocked := fun _ _ _ blocked => .inl (by rw [Blocked, freePool]; exact blocked)

section

variable (alive : user.alive = true)
include alive

theorem ref_acts (published : 0 < user.freePool → user.addedToFreePool = true)
    (done : user.ref quota = some after) : Acts u user quota after [] := by
  obtain ⟨referenced, rfl⟩ := Option.ite_some_none_eq_some.mp done
  exact acts_of_same (.nothing rfl rfl rfl rfl rfl rfl rfl rfl rfl) alive referenced (by simp)
    (by simp) (by simp) (by simp) rfl rfl rfl .inl published

theorem unref_acts (sound : user.Sound)
    (published : 0 < user.freePool → user.addedToFreePool = true)
    (done : user.unref u quota = some after) : Acts u user quota after (destruction user u 1) := by
  obtain ⟨owned, rfl⟩ := Option.ite_some_none_eq_some.mp done
  have refs := sound.refs
  refine acts_of_same ((Appends.nothing rfl rfl rfl rfl rfl rfl rfl rfl rfl).unrefBy
    { user with owners := user.owners - 1 } u 1) alive (by omega) ?_ ?_ ?_ ?_ rfl rfl rfl .inl
    published
  · intro closure member
    obtain ⟨rfl, -⟩ := mem_destruction member
    rfl
  · intro before rest split
    exact destruction_last (List.not_mem_nil) split
  · intro member
    have single := (mem_destruction member).2
    dsimp only [unrefBy]
    omega
  · intro member
    cases (mem_destruction member).1

theorem close_acts (published : 0 < user.freePool → user.addedToFreePool = true)
    (done : user.close u quota = some after) : ∃ new, Acts u user quota after new := by
  obtain ⟨referenced, done⟩ := Option.ite_none_right_eq_some.mp done
  split_ifs at done
  · obtain rfl := Option.some.inj done
    exact ⟨[], acts_of_same (.nothing rfl rfl rfl rfl rfl rfl rfl rfl rfl) alive referenced (by simp)
      (by simp) (by simp) (by simp) rfl rfl rfl .inl published⟩
  · obtain rfl := Option.some.inj done
    refine ⟨[.shutdown u], acts_of_same ((Appends.nothing rfl rfl rfl rfl rfl rfl rfl rfl rfl).run
      (.shutdown u)) alive referenced ?_ ?_ (by simp) (by simp) rfl rfl rfl
      (fun _ => .inr (List.mem_singleton_self _)) published⟩
    · intro closure member
      rw [List.mem_singleton.mp member]
      rfl
    · intro before rest split
      have member : Closure.destroy u ∈ [Closure.shutdown u] := by rw [split]; simp
      cases List.mem_singleton.mp member

theorem postReclaimer_acts (published : 0 < user.freePool → user.addedToFreePool = true)
    {destructive : Bool} (done : user.postReclaimer u destructive quota = some after) :
    Acts u user quota after [.postReclaimer u destructive] := by
  obtain ⟨⟨referenced, -⟩, rfl⟩ := Option.ite_some_none_eq_some.mp done
  refine acts_of_same ((Appends.nothing rfl rfl rfl rfl rfl rfl rfl rfl rfl).run
    (.postReclaimer u destructive)) alive referenced ?_ ?_ (by simp) (by simp) rfl rfl rfl .inl
    published
  · intro closure member
    rw [List.mem_singleton.mp member]
    rfl
  · intro before rest split
    have member : Closure.destroy u ∈ [Closure.postReclaimer u destructive] := by rw [split]; simp
    cases List.mem_singleton.mp member

end

theorem acts_of_lower (appends : Appends quota after.2 new) (alive : after.1.alive = true)
    (referenced : user.refs ≠ 0) (queued : new = [] ∧ after.1.allocating = user.allocating ∨
      new = [.allocate u] ∧ user.allocating = false ∧ after.1.allocating = true)
    (lower : after.1.freePool ≤ user.freePool)
    (added : after.1.addedToFreePool = user.addedToFreePool)
    (closed : after.1.shutdown = user.shutdown)
    (published : 0 < user.freePool → user.addedToFreePool = true) :
    Acts u user quota after new where
  toAppends := appends
  alive := alive
  referenced := referenced
  own := by
    rcases queued with ⟨rfl, -⟩ | ⟨rfl, -⟩
    · simp
    · intro closure member
      rw [List.mem_singleton.mp member]
      rfl
  last := by
    intro before rest split
    have member : Closure.destroy u ∈ new := by rw [split]; simp
    rcases queued with ⟨rfl, -⟩ | ⟨rfl, -⟩
    · cases member
    · cases List.mem_singleton.mp member
  dying := by
    intro member
    rcases queued with ⟨rfl, -⟩ | ⟨rfl, -⟩
    · cases member
    · cases List.mem_singleton.mp member
  allocating := by
    intro before
    rcases queued with ⟨-, same⟩ | ⟨-, -, now⟩
    · exact same.trans before
    · exact now
  allocate := by
    intro member
    rcases queued with ⟨rfl, -⟩ | ⟨-, before, now⟩
    · cases member
    · exact ⟨before, now⟩
  allocateOnce := by
    rcases queued with ⟨rfl, -⟩ | ⟨rfl, -⟩
    · simp
    · simp
  published := by
    intro positive
    rw [added]
    exact published (by omega)
  added := fun before => .inl (added ▸ before)
  closed := fun now => .inl (closed ▸ now)
  blocked := by
    rintro rest - - - ⟨negative, more⟩
    exact .inl ⟨by omega, by omega⟩

theorem allocLocked_acts (alive : user.alive = true) (referenced : user.refs ≠ 0)
    (published : 0 < user.freePool → user.addedToFreePool = true) (size : Nat) (onDone : Bool)
    (used : Int) :
    ∃ new, Acts u user quota (user.allocLocked u size onDone { quota with used }) new := by
  have nothing : ∀ allocations, Appends quota { quota with used, allocations } [] := fun _ =>
    .nothing rfl rfl rfl rfl rfl rfl rfl rfl rfl
  have lower : user.freePool - size ≤ user.freePool := by omega
  unfold allocLocked
  dsimp only
  split_ifs with fits busy asked asked
  iterate 3
    exact ⟨[], acts_of_lower (nothing _) alive referenced (.inl ⟨rfl, rfl⟩) lower rfl rfl published⟩
  all_goals
    exact ⟨[.allocate u], acts_of_lower ((nothing _).run (.allocate u)) alive referenced
      (.inr ⟨rfl, Bool.eq_false_of_not_eq_true busy, rfl⟩) lower rfl rfl published⟩

variable {size : Nat}

section

variable (alive : user.alive = true) (published : 0 < user.freePool → user.addedToFreePool = true)
include alive published

theorem alloc_acts {onDone : Bool} (done : user.alloc u size onDone quota = some after) :
    ∃ new, Acts u user quota after new := by
  obtain ⟨⟨-, referenced⟩, rfl⟩ := Option.ite_some_none_eq_some.mp done
  exact allocLocked_acts alive referenced published size onDone _

theorem safeAlloc_acts (done : user.safeAlloc u size quota = some after) :
    ∃ new, Acts u user quota after new := by
  obtain ⟨⟨-, referenced, -⟩, rfl⟩ := Option.ite_some_none_eq_some.mp done
  exact allocLocked_acts alive referenced published size false _

end

/-- A free puts the user into the list of those with something in their pools. -/
def Publishes (user : ResourceUser) (size : Nat) : Prop :=
  0 < user.freePool + size ∧ user.freePool ≤ 0 ∧ user.addedToFreePool = false

theorem acts_of_freed {freed : ResourceUser} {quota' : ResourceQuota} {first : List Closure}
    (appends : Appends quota quota' first) (only : ∀ closure ∈ first, closure = .addToFreePool u)
    (alive : freed.alive = true) (referenced : user.refs ≠ 0)
    (allocating : freed.allocating = user.allocating) (closed : freed.shutdown = user.shutdown)
    (published : 0 < freed.freePool → freed.addedToFreePool = true)
    (added : freed.addedToFreePool = true → user.addedToFreePool = true ∨ .addToFreePool u ∈ first)
    (blocked : ∀ {rest}, quota.awaitingAllocation = u :: rest → ¬ quota.Looks →
      .addToFreePool u ∉ quota.combiner → freed.Blocked quota.freePool ∨ .addToFreePool u ∈ first) :
    Acts u user quota (freed.unrefBy u size quota') (first ++ destruction freed u size) := by
  have members : ∀ {closure}, closure ∈ first ++ destruction freed u size →
      closure = .addToFreePool u ∨ closure = .destroy u ∧ freed.refs = size := by
    intro closure member
    exact (List.mem_append.mp member).imp (only closure) mem_destruction
  have noAllocation : .allocate u ∉ first ++ destruction freed u size := by
    intro member
    rcases members member with same | ⟨same, -⟩ <;> cases same
  refine
    { toAppends := appends.unrefBy freed u size
      alive := alive
      referenced := referenced
      own := ?_
      last := ?_
      dying := ?_
      allocating := fun before => allocating.trans before
      allocate := fun member => absurd member noAllocation
      allocateOnce := by rw [List.count_eq_zero.mpr noAllocation]; exact Nat.zero_le 1
      published := published
      added := fun now => (added now).imp_right (List.mem_append_left _)
      closed := fun now => .inl (closed ▸ now)
      blocked := fun waiting overlooked unqueued _ =>
        (blocked waiting overlooked unqueued).imp_right (List.mem_append_left _) }
  · intro closure member
    rcases members member with rfl | ⟨rfl, -⟩ <;> rfl
  · intro before rest split
    refine destruction_last (fun member => ?_) split
    cases only _ member
  · intro member
    rcases members member with same | ⟨-, single⟩
    · cases same
    · exact Nat.sub_eq_zero_of_le (Nat.le_of_eq single)

theorem free_acts (alive : user.alive = true) (sound : user.Sound)
    (published : 0 < user.freePool → user.addedToFreePool = true)
    (noticed : ∀ {rest}, quota.awaitingAllocation = u :: rest → ¬ quota.Looks →
      .addToFreePool u ∉ quota.combiner → user.Publishes size ∨
        { user with freePool := user.freePool + size }.Blocked quota.freePool)
    (done : user.free u size quota = some after) : ∃ new, Acts u user quota after new := by
  obtain ⟨⟨positive, covered, -⟩, done⟩ := Option.ite_none_right_eq_some.mp done
  have refs := sound.refs
  have referenced : user.refs ≠ 0 := by omega
  have nothing : Appends quota { quota with used := quota.used - size } [] :=
    .nothing rfl rfl rfl rfl rfl rfl rfl rfl rfl
  dsimp only at done
  split_ifs at done with publishes
  · obtain rfl := Option.some.inj done
    exact ⟨_, acts_of_freed (nothing.run (.addToFreePool u)) (fun _ => List.mem_singleton.mp) alive
      referenced rfl rfl (fun _ => rfl) (fun _ => .inr (List.mem_singleton_self _))
      (fun _ _ _ => .inr (List.mem_singleton_self _))⟩
  · obtain rfl := Option.some.inj done
    refine ⟨_, acts_of_freed nothing (fun _ member => absurd member List.not_mem_nil) alive
      referenced rfl rfl ?_ .inl ?_⟩
    · -- A pool that has not become positive now was so before.
      intro now
      by_cases before : 0 < user.freePool
      · exact published before
      · by_contra unpublished
        exact publishes ⟨now, Int.not_lt.mp before, Bool.eq_false_of_not_eq_true unpublished⟩
    · intro rest waiting overlooked unqueued
      exact .inl ((noticed waiting overlooked unqueued).resolve_left publishes)

end ResourceUser

end GrpcCore.Iomgr
