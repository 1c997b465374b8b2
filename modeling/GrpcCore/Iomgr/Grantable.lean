import GrpcCore.Iomgr.Wakeups

/-!
# Grantable allocations

The closures of the combiner and the parts of `rq_step` keep what the lists say. So a
user that waits first while nothing is on its way waits for more than there is, in every
run without the two changes that the lists do not see.
-/

namespace GrpcCore.Iomgr

def ResourceUser.bare (user : ResourceUser) : ResourceUser :=
  { user with reclaimers := fun _ => false, newReclaimers := fun _ => false }

variable {v : UserId} {users users' : List ResourceUser}

theorem bare_at (same : users'.map ResourceUser.bare = users.map ResourceUser.bare)
    {user : ResourceUser} (there : users[v]? = some user) :
    ∃ user', users'[v]? = some user' ∧ user'.bare = user.bare := by
  have mapped : (users'.map ResourceUser.bare)[v]? = some user.bare := by
    rw [same, List.getElem?_map, there]
    rfl
  rw [List.getElem?_map] at mapped
  exact Option.map_eq_some_iff.mp mapped

theorem count_rulistAddTail (u v : UserId) (list : List UserId) :
    (rulistAddTail u list).count v = list.count v + [u].count v := by
  cases list with
  | nil => simp [rulistAddTail]
  | cons =>
    simp only [rulistAddTail, List.count_cons, List.count_nil]
    omega

variable {list : List UserId}

theorem mem_rulistAddTail {u : UserId} : v ∈ rulistAddTail u list ↔ v = u ∨ v ∈ list := by
  cases list with
  | nil => simp [rulistAddTail]
  | cons => simp [rulistAddTail, or_left_comm]

namespace ResourceQuota

variable {quota quota' : ResourceQuota}

def turns (quota : ResourceQuota) (v : UserId) : Nat :=
  quota.awaitingAllocation.count v + quota.combiner.count (.allocate v)

theorem turns_pos :
    0 < quota.turns v ↔ v ∈ quota.awaitingAllocation ∨ .allocate v ∈ quota.combiner := by
  unfold turns
  rw [← List.count_pos_iff, ← List.count_pos_iff]
  omega

theorem order_suffix {combiner combiner' : List Closure} (suffix : combiner' <:+ combiner)
    (order : ∀ {v before after}, combiner = before ++ .destroy v :: after →
      ∀ closure ∈ after, closure.user ≠ some v) {before after : List Closure}
    (split : combiner' = before ++ .destroy v :: after) :
    ∀ closure ∈ after, closure.user ≠ some v := by
  obtain ⟨front, rfl⟩ := suffix
  rw [split, ← List.append_assoc] at order
  exact order rfl

theorem Listed.rearranged (listed : quota.Listed)
    (users : quota'.users.map ResourceUser.bare = quota.users.map ResourceUser.bare)
    (suffix : quota'.combiner <:+ quota.combiner) (turns : ∀ v, quota'.turns v ≤ quota.turns v)
    (pooled : ∀ {v}, .addToFreePool v ∈ quota.combiner ∨ v ∈ quota.nonEmptyFreePool →
      .addToFreePool v ∈ quota'.combiner ∨ v ∈ quota'.nonEmptyFreePool) : quota'.Listed := by
  refine ⟨?_, ?_, ?_, ?_, ?_, ?_⟩
  · intro v waits
    have before := turns_pos.mp (Nat.lt_of_lt_of_le (turns_pos.mpr waits) (turns v))
    obtain ⟨user, there, alive, allocating⟩ := listed.waiting before
    obtain ⟨user', there', same⟩ := bare_at users there
    exact ⟨user', there', (congrArg ResourceUser.alive same).trans alive,
      (congrArg ResourceUser.allocating same).trans allocating⟩
  · intro v
    exact Nat.le_trans (turns v) (listed.unique v)
  · intro v before after split
    exact order_suffix suffix listed.order split
  · intro v member
    obtain ⟨user, there, unreferenced⟩ := listed.dying (suffix.subset member)
    obtain ⟨user', there', same⟩ := bare_at users there
    exact ⟨user', there', (congrArg ResourceUser.refs same).trans unreferenced⟩
  · intro v user' there' alive positive
    obtain ⟨user, there, same⟩ := bare_at users.symm there'
    have before : 0 < user.bare.freePool := by rw [same]; exact positive
    have added := listed.published there ((congrArg ResourceUser.alive same).trans alive) before
    exact (congrArg ResourceUser.addedToFreePool same).symm.trans added
  · intro v user' there' alive added
    obtain ⟨user, there, same⟩ := bare_at users.symm there'
    exact pooled (listed.added there ((congrArg ResourceUser.alive same).trans alive)
      ((congrArg ResourceUser.addedToFreePool same).trans added))

variable {user' : ResourceUser}

theorem Listed.changed (listed : quota.Listed) {u : UserId} {user : ResourceUser}
    (there : quota.users[u]? = some user) (users : quota'.users = quota.users.set u user')
    (suffix : quota'.combiner <:+ quota.combiner) (turns : ∀ v, quota'.turns v ≤ quota.turns v)
    (pooled : ∀ {v}, v ≠ u → .addToFreePool v ∈ quota.combiner ∨ v ∈ quota.nonEmptyFreePool →
      .addToFreePool v ∈ quota'.combiner ∨ v ∈ quota'.nonEmptyFreePool)
    (refs : user'.refs = user.refs)
    (waiting : 0 < quota'.turns u → user'.alive = true ∧ user'.allocating = true)
    (published : user'.alive = true → 0 < user'.freePool → user'.addedToFreePool = true)
    (added : user'.alive = true → user'.addedToFreePool = true →
      .addToFreePool u ∈ quota'.combiner ∨ u ∈ quota'.nonEmptyFreePool) : quota'.Listed := by
  have here : quota'.users[u]? = some user' := by
    rw [users]
    exact List.getElem?_set_self (List.getElem?_eq_some_iff.mp there).1
  have elsewhere : ∀ {v}, v ≠ u → quota'.users[v]? = quota.users[v]? := by
    intro v different
    rw [users]
    exact List.getElem?_set_ne different.symm
  refine ⟨?_, ?_, ?_, ?_, ?_, ?_⟩
  · intro v waits
    by_cases same : v = u
    · subst same
      obtain ⟨alive, allocating⟩ := waiting (turns_pos.mpr waits)
      exact ⟨user', here, alive, allocating⟩
    · rw [elsewhere same]
      apply listed.waiting
      exact turns_pos.mp (Nat.lt_of_lt_of_le (turns_pos.mpr waits) (turns v))
  · intro v
    exact Nat.le_trans (turns v) (listed.unique v)
  · intro v before after split
    exact order_suffix suffix listed.order split
  · intro v member
    obtain ⟨old, there', unreferenced⟩ := listed.dying (suffix.subset member)
    by_cases same : v = u
    · subst same
      obtain rfl := Option.mem_unique there there'
      exact ⟨user', here, refs.trans unreferenced⟩
    · exact ⟨old, by rw [elsewhere same]; exact there', unreferenced⟩
  · intro v other there' alive positive
    by_cases same : v = u
    · subst same
      obtain rfl := Option.mem_unique here there'
      exact published alive positive
    · rw [elsewhere same] at there'
      exact listed.published there' alive positive
  · intro v other there' alive listedPool
    by_cases same : v = u
    · subst same
      obtain rfl := Option.mem_unique here there'
      exact added alive listedPool
    · rw [elsewhere same] at there'
      exact pooled same (listed.added there' alive listedPool)

theorem Attended.of_nobody (nobody : quota.awaitingAllocation = [])
    (reclaim : quota.phase = .reclaim → quota.nonEmptyFreePool = []) : quota.Attended :=
  ⟨fun somebody => absurd nobody somebody, by simp [nobody], by simp [nobody],
    fun somebody => absurd nobody somebody, reclaim⟩

theorem Attended.of_scheduled (scheduled : quota.stepScheduled = true)
    (reclaim : quota.phase = .reclaim → quota.nonEmptyFreePool = []) : quota.Attended :=
  ⟨fun _ _ => .inl (.inl scheduled), fun _ _ => .inl (.inl scheduled),
    fun _ _ _ => .inl (.inl scheduled), fun _ => .inl scheduled, reclaim⟩

theorem Attended.of_alloc (phase : quota.phase = .alloc) : quota.Attended :=
  ⟨fun _ _ => .inl (.inr phase), fun _ _ => .inl (.inr phase), fun _ _ _ => .inl (.inr phase),
    fun _ => .inr (.inl (by rw [phase]; exact Phase.noConfusion)), by simp [phase]⟩

/-- Who waits first has done so before, with its pool and what is queued for it. -/
def KeepsFirst (quota quota' : ResourceQuota) : Prop :=
  ∀ {u rest}, quota'.awaitingAllocation = u :: rest →
    (∃ rest', quota.awaitingAllocation = u :: rest') ∧
    (.addToFreePool u ∈ quota.combiner → .addToFreePool u ∈ quota'.combiner) ∧
    (.shutdown u ∈ quota.combiner → .shutdown u ∈ quota'.combiner) ∧
    ∀ {user'}, quota'.users[u]? = some user' → ∃ user, quota.users[u]? = some user ∧
      user.freePool = user'.freePool ∧ user.shutdown = user'.shutdown

theorem Attended.of_first (attended : quota.Attended) (looks : quota.Looks → quota'.Looks)
    (freePool : quota'.freePool = quota.freePool)
    (first : KeepsFirst quota quota')
    (pools : quota'.awaitingAllocation ≠ [] → quota'.nonEmptyFreePool ≠ [] →
      quota'.Looks ∨ quota'.phase = .reclaimFromPerUserFreePool)
    (reclaimers : quota'.awaitingAllocation ≠ [] →
      quota'.stepScheduled = true ∨ quota'.phase ≠ .idle ∨ quota'.reclaiming = true ∨
        ∀ destructive, quota'.reclaimerLists destructive = [])
    (reclaim : quota'.phase = .reclaim → quota'.nonEmptyFreePool = []) : quota'.Attended := by
  refine ⟨pools, ?_, ?_, reclaimers, reclaim⟩
  · intro u rest user' waiting there'
    obtain ⟨⟨rest', before⟩, publication, -, users⟩ := first waiting
    obtain ⟨user, there, same, -⟩ := users there'
    rw [freePool, ResourceUser.Blocked, ← same]
    exact (attended.first before there).imp looks fun others => others.imp_left publication
  · intro u rest user' waiting there' closed
    obtain ⟨⟨rest', before⟩, -, closing, users⟩ := first waiting
    obtain ⟨user, there, -, same⟩ := users there'
    exact (attended.closed before there (same.trans closed)).imp looks closing

theorem Attended.carried (attended : quota.Attended)
    (scheduled : quota'.stepScheduled = quota.stepScheduled) (phase : quota'.phase = quota.phase)
    (freePool : quota'.freePool = quota.freePool)
    (first : KeepsFirst quota quota')
    (pools : quota'.nonEmptyFreePool ≠ [] → quota.nonEmptyFreePool ≠ [])
    (reclaimers : quota'.awaitingAllocation ≠ [] →
      quota.reclaiming = true ∨ (∀ destructive, quota.reclaimerLists destructive = []) →
      quota'.stepScheduled = true ∨ quota'.phase ≠ .idle ∨ quota'.reclaiming = true ∨
        ∀ destructive, quota'.reclaimerLists destructive = []) : quota'.Attended := by
  have looks : quota'.Looks ↔ quota.Looks := by simp only [Looks, scheduled, phase]
  have somebody : quota'.awaitingAllocation ≠ [] → quota.awaitingAllocation ≠ [] := by
    intro waits nobody
    obtain ⟨u, rest, waiting⟩ := List.exists_cons_of_ne_nil waits
    obtain ⟨⟨rest', before⟩, -⟩ := first waiting
    rw [nobody] at before
    cases before
  refine attended.of_first looks.mpr freePool first ?_ ?_ ?_
  · intro waits some
    rw [looks, phase]
    exact attended.pools (somebody waits) (pools some)
  · intro waits
    rcases attended.reclaimers (somebody waits) with now | later | rest
    · exact .inl (scheduled.trans now)
    · exact .inr (.inl (by rw [phase]; exact later))
    · exact reclaimers waits rest
  · intro last
    by_contra some
    exact pools some (attended.reclaim (phase.symm.trans last))

structure Watched (quota : ResourceQuota) : Prop where
  conserved : quota.Conserved
  listed : quota.Listed
  attended : quota.Attended

theorem rqStepSchedIf_eq (quota : ResourceQuota) (needed : Bool) :
    quota.rqStepSchedIf needed = { quota with stepScheduled := needed || quota.stepScheduled } := by
  cases needed <;> rfl

variable {after : ResourceUser × ResourceQuota}

section Closures

variable {rest : List Closure} {u : UserId}

variable {closure : Closure}

theorem suffix_of_queued (queued : quota.combiner = closure :: rest) : rest <:+ quota.combiner := by
  rw [queued]
  exact List.suffix_cons _ _

theorem ruAllocate_listed (listed : quota.Listed) (queued : quota.combiner = .allocate u :: rest) :
    ({ quota with combiner := rest }.ruAllocate u).Listed := by
  unfold ruAllocate
  rw [rqStepSchedIf_eq]
  refine listed.rearranged rfl (suffix_of_queued queued) (fun v => ?_) ?_
  · simp only [turns, count_rulistAddTail, queued, List.count_cons, List.count_nil]
    simp only [beq_iff_eq, Closure.allocate.injEq]
    omega
  · intro v before
    rw [queued] at before
    simpa using before

theorem ruAllocate_attended (attended : quota.Attended) (idle : quota.phase = .idle)
    (queued : quota.combiner = .allocate u :: rest) :
    ({ quota with combiner := rest }.ruAllocate u).Attended := by
  unfold ruAllocate
  rw [rqStepSchedIf_eq]
  cases waiting : quota.awaitingAllocation with
  | nil => exact .of_scheduled (by simp) (by simp [idle])
  | cons first others =>
    refine attended.carried (by simp) rfl rfl ?_ id ?_
    · intro v rest' now
      obtain ⟨rfl, -⟩ := List.cons.inj now
      rw [queued, waiting]
      exact ⟨⟨others, rfl⟩, by simp, by simp, fun there => ⟨_, there, rfl, rfl⟩⟩
    · exact fun _ before => .inr (.inr before)

theorem ruAddToFreePool_listed (listed : quota.Listed)
    (queued : quota.combiner = .addToFreePool u :: rest) :
    ({ quota with combiner := rest }.ruAddToFreePool u).Listed := by
  unfold ruAddToFreePool
  rw [rqStepSchedIf_eq]
  refine listed.rearranged rfl (suffix_of_queued queued) (fun v => ?_) ?_
  · simp [turns, queued]
  · intro v before
    rw [queued, List.mem_cons, Closure.addToFreePool.injEq] at before
    rw [mem_rulistAddTail]
    rcases before with (same | still) | listed
    · exact .inr (.inl same)
    · exact .inl still
    · exact .inr (.inr listed)

theorem ruAddToFreePool_attended (attended : quota.Attended) (idle : quota.phase = .idle) :
    ({ quota with combiner := rest }.ruAddToFreePool u).Attended := by
  unfold ruAddToFreePool
  rw [rqStepSchedIf_eq]
  by_cases nobody : quota.awaitingAllocation = []
  · exact .of_nobody nobody (by simp [idle])
  · refine .of_scheduled ?_ (by simp [idle])
    by_cases empty : quota.nonEmptyFreePool = []
    · simp [nobody, empty]
    · have looks := attended.pools nobody empty
      simp only [Looks, idle, or_false, reduceCtorEq] at looks
      simp [looks]

theorem Listed.pop (listed : quota.Listed) (queued : quota.combiner = closure :: rest)
    (noPool : ∀ v, closure ≠ .addToFreePool v) :
    ({ quota with combiner := rest } : ResourceQuota).Listed := by
  refine listed.rearranged rfl (suffix_of_queued queued) (fun v => ?_) ?_
  · have fewer := (List.sublist_cons_self closure rest).count_le (Closure.allocate v)
    simp only [turns, queued]
    omega
  · intro v before
    rw [queued, List.mem_cons] at before
    exact before.imp_left fun member => member.resolve_left fun same => noPool v same.symm

theorem map_bare_set {user : ResourceUser} (there : users[u]? = some user)
    (same : user'.bare = user.bare) :
    (users.set u user').map ResourceUser.bare = users.map ResourceUser.bare := by
  have before : (users.map ResourceUser.bare)[u]? = some user.bare := by
    rw [List.getElem?_map, there]
    rfl
  obtain ⟨inRange, here⟩ := List.getElem?_eq_some_iff.mp before
  rw [List.map_set, same, ← here]
  exact List.set_getElem_self inRange

variable {destructive : Bool}

/-- A posted reclaimer changes one of the lists, and a step is scheduled if nobody was
in them. -/
theorem ruPostReclaimer_cases {user : ResourceUser}
    (done : ruPostReclaimer user u destructive quota = some after) :
    after.1.bare = user.bare ∧ ∃ needed reclaimerLists,
      after.2 = { quota with stepScheduled := needed || quota.stepScheduled, reclaimerLists } ∧
      (reclaimerLists = quota.reclaimerLists ∨
        (quota.awaitingAllocation ≠ [] → quota.nonEmptyFreePool = [] →
          (∀ destructive, quota.reclaimerLists destructive = []) → needed = true)) := by
  unfold ruPostReclaimer at done
  dsimp only at done
  split_ifs at done with closed
  · obtain rfl := Option.some.inj done
    exact ⟨rfl, false, quota.reclaimerLists, rfl, .inl rfl⟩
  · obtain rfl := Option.some.inj done
    rw [rqStepSchedIf_eq]
    refine ⟨rfl, _, _, rfl, .inr fun somebody empty none => ?_⟩
    simp [somebody, empty, none]

theorem ruPostReclaimer_listed (listed : quota.Listed)
    (queued : quota.combiner = .postReclaimer u destructive :: rest)
    (done : { quota with combiner := rest }.update u
      (fun user quota => ruPostReclaimer user u destructive quota) = some quota') :
    quota'.Listed := by
  have popped := listed.pop queued (by simp)
  obtain ⟨user, ⟨user', middle⟩, there, -, posted, rfl⟩ := update_eq_some done
  obtain ⟨same, needed, lists, rfl, -⟩ := ruPostReclaimer_cases posted
  exact popped.rearranged (map_bare_set there same) (List.suffix_refl _) (fun _ => Nat.le_refl _) id

theorem user_of_bare (same : users'.map ResourceUser.bare = users.map ResourceUser.bare)
    (there : users'[v]? = some user') :
    ∃ user, users[v]? = some user ∧ user.freePool = user'.freePool ∧
      user.shutdown = user'.shutdown := by
  obtain ⟨user, there', equal⟩ := bare_at same.symm there
  exact ⟨user, there', (congrArg ResourceUser.freePool equal :), (congrArg ResourceUser.shutdown equal :)⟩

theorem ruPostReclaimer_attended (attended : quota.Attended) (idle : quota.phase = .idle)
    (queued : quota.combiner = .postReclaimer u destructive :: rest)
    (done : { quota with combiner := rest }.update u
      (fun user quota => ruPostReclaimer user u destructive quota) = some quota') :
    quota'.Attended := by
  obtain ⟨user, ⟨user', middle⟩, there, -, posted, rfl⟩ := update_eq_some done
  obtain ⟨same, needed, lists, rfl, otherwise⟩ := ruPostReclaimer_cases posted
  by_cases scheduled : (needed || quota.stepScheduled) = true
  · exact .of_scheduled scheduled (by simp [idle])
  rw [Bool.or_eq_true, not_or] at scheduled
  obtain ⟨unneeded, unscheduled⟩ := scheduled
  refine attended.carried (by simp [unneeded]) rfl rfl ?_ id ?_
  · intro v rest' waiting
    rw [queued]
    exact ⟨⟨rest', waiting⟩, by simp, by simp, user_of_bare (map_bare_set there same)⟩
  · intro somebody before
    rcases before with reclaiming | none
    · exact .inr (.inr (.inl reclaiming))
    · refine .inr (.inr (.inr ?_))
      rcases otherwise with unchanged | all
      · rw [unchanged]
        exact none
      · -- Nobody in the pools either, as nothing is scheduled.
        have empty : quota.nonEmptyFreePool = [] := by
          by_contra some
          have looks := attended.pools somebody some
          simp [Looks, idle, unscheduled] at looks
        exact absurd (all somebody empty none) unneeded

theorem ruShutdown_listed (listed : quota.Listed) (queued : quota.combiner = .shutdown u :: rest)
    (done : { quota with combiner := rest }.update u
      (fun user quota => some (ruShutdown user u quota)) = some quota') : quota'.Listed := by
  have popped := listed.pop queued (by simp)
  obtain ⟨user, after, there, -, closed, rfl⟩ := update_eq_some done
  obtain rfl := Option.some.inj closed
  simp only [ruShutdown, rqStepSchedIf_eq]
  exact popped.rearranged (map_bare_set there rfl) (List.suffix_refl _) (fun _ => Nat.le_refl _) id

theorem ruShutdown_attended (listed : quota.Listed) (attended : quota.Attended)
    (idle : quota.phase = .idle) (queued : quota.combiner = .shutdown u :: rest)
    (done : { quota with combiner := rest }.update u
      (fun user quota => some (ruShutdown user u quota)) = some quota') : quota'.Attended := by
  obtain ⟨user, after, there, -, closed, rfl⟩ := update_eq_some done
  obtain rfl := Option.some.inj closed
  simp only [ruShutdown, rqStepSchedIf_eq] at there ⊢
  by_cases busy : user.allocating = true
  · exact .of_scheduled (by simp [busy]) (by simp [idle])
  have same : ({ user with reclaimers := fun _ => false } : ResourceUser).bare = user.bare := rfl
  refine attended.carried (by simp [busy]) rfl rfl ?_ id ?_
  · intro v rest' waiting
    dsimp only at waiting
    -- The first that waits is not the user that is shut down.
    have other : v ≠ u := by
      rintro rfl
      have member : v ∈ quota.awaitingAllocation := by rw [waiting]; simp
      obtain ⟨user', there', -, allocating⟩ := listed.waiting (.inl member)
      obtain rfl := Option.mem_unique there there'
      exact busy allocating
    rw [queued]
    exact ⟨⟨rest', waiting⟩, by simp, by simp [other], user_of_bare (map_bare_set there same)⟩
  · intro _ before
    refine .inr (.inr (before.imp_right fun none destructive => ?_))
    dsimp only
    rw [none]
    rfl

theorem Listed.no_more (listed : quota.Listed) (queued : quota.combiner = .destroy u :: rest)
    (own : closure.user = some u) : closure ∉ rest := fun member =>
  listed.order (by simpa using queued : quota.combiner = [] ++ .destroy u :: rest) closure member own

theorem mem_rulistRemove : v ∈ rulistRemove u list ↔ v ∈ list ∧ v ≠ u := by
  simp [rulistRemove]

theorem ruDestroy_listed (listed : quota.Listed) (queued : quota.combiner = .destroy u :: rest)
    (done : { quota with combiner := rest }.update u
      (fun user quota => ruDestroy user u quota) = some quota') : quota'.Listed := by
  obtain ⟨user, after, there, -, destroyed, rfl⟩ := update_eq_some done
  obtain ⟨unreferenced, rfl⟩ := Option.ite_some_none_eq_some.mp destroyed
  rw [rqStepSchedIf_eq]
  refine listed.changed there rfl (suffix_of_queued queued) (fun v => ?_) ?_ rfl ?_ (by simp) (by simp)
  · have fewer : (rulistRemove u quota.awaitingAllocation).count v ≤
        quota.awaitingAllocation.count v := List.filter_sublist.count_le v
    simp only [turns, queued, List.count_cons]
    omega
  · intro v different before
    rw [mem_rulistRemove]
    rw [queued, List.mem_cons] at before
    rcases before with (same | still) | listed
    · cases same
    · exact .inl still
    · exact .inr ⟨listed, different⟩
  · intro waits
    rcases turns_pos.mp waits with waiting | allocates
    · exact absurd rfl (mem_rulistRemove.mp waiting).2
    · exact absurd allocates (listed.no_more queued rfl)

theorem ruDestroy_attended (listed : quota.Listed) (attended : quota.Attended)
    (idle : quota.phase = .idle) (queued : quota.combiner = .destroy u :: rest)
    (done : { quota with combiner := rest }.update u
      (fun user quota => ruDestroy user u quota) = some quota') : quota'.Attended := by
  obtain ⟨user, after, there, -, destroyed, rfl⟩ := update_eq_some done
  obtain ⟨unreferenced, rfl⟩ := Option.ite_some_none_eq_some.mp destroyed
  rw [rqStepSchedIf_eq]
  dsimp only at there ⊢
  by_cases scheduled : (decide (user.freePool ≠ 0) || quota.stepScheduled) = true
  · exact .of_scheduled scheduled (by simp [idle])
  rw [Bool.or_eq_true, decide_eq_true_iff, not_or, not_not] at scheduled
  obtain ⟨nothing, unscheduled⟩ := scheduled
  -- The user does not wait first: with an empty pool it would have been looked at.
  have other : ∀ {others}, quota.awaitingAllocation ≠ u :: others := by
    intro others waiting
    rcases attended.first waiting there with looks | published | ⟨negative, -⟩
    · simp [Looks, idle, unscheduled] at looks
    · rw [queued, List.mem_cons] at published
      rcases published with same | later
      · cases same
      · exact listed.no_more queued rfl later
    · omega
  refine attended.carried (by simp [nothing]) rfl (by simp [nothing]) ?_ ?_ ?_
  · intro v rest' now
    cases waiting : quota.awaitingAllocation with
    | nil =>
      rw [waiting] at now
      cases now
    | cons first others =>
      have different : first ≠ u := by
        rintro rfl
        exact other waiting
      rw [waiting, rulistRemove, List.filter_cons_of_pos (by simpa using different)] at now
      obtain ⟨rfl, -⟩ := List.cons.inj now
      rw [queued, List.getElem?_set_ne different.symm]
      exact ⟨⟨others, rfl⟩, by simp, by simp, fun there => ⟨_, there, rfl, rfl⟩⟩
  · intro some none
    rw [none] at some
    exact some rfl
  · intro _ before
    refine .inr (.inr (before.imp_right fun none destructive => ?_))
    dsimp only
    rw [none]
    rfl

theorem Watched.runClosure (watched : quota.Watched) (taken : quota.runClosure = some quota') :
    quota'.Listed ∧ quota'.Attended := by
  obtain ⟨-, listed, attended⟩ := watched
  unfold ResourceQuota.runClosure at taken
  split at taken
  · rename_i closure rest idle queued
    cases closure with
    | allocate =>
      obtain rfl := Option.some.inj taken
      exact ⟨ruAllocate_listed listed queued, ruAllocate_attended attended idle queued⟩
    | addToFreePool =>
      obtain rfl := Option.some.inj taken
      exact ⟨ruAddToFreePool_listed listed queued, ruAddToFreePool_attended attended idle⟩
    | postReclaimer =>
      exact ⟨ruPostReclaimer_listed listed queued taken,
        ruPostReclaimer_attended attended idle queued taken⟩
    | shutdown =>
      exact ⟨ruShutdown_listed listed queued taken,
        ruShutdown_attended listed attended idle queued taken⟩
    | destroy =>
      exact ⟨ruDestroy_listed listed queued taken,
        ruDestroy_attended listed attended idle queued taken⟩
    | reclamationDone =>
      obtain rfl := Option.some.inj taken
      refine ⟨?_, .of_scheduled rfl fun last => ?_⟩
      · exact (listed.pop queued (by simp)).rearranged rfl (List.suffix_refl _)
          (fun _ => Nat.le_refl _) id
      · cases idle.symm.trans last
  · cases taken

end Closures

/-- A step that makes something grantable, and that none of the lists sees: the user
that waits first frees what it waits for out of its own bytes, with no closure of its own
and no look at it on their way, or an allocation that fails leaves bytes in a pool that is
not in the list. -/
def Misses (quota : ResourceQuota) : Action → Prop
  | .free u size =>
    ∃ rest user, quota.awaitingAllocation = u :: rest ∧ quota.users[u]? = some user ∧
      ¬ quota.Looks ∧ .addToFreePool u ∉ quota.combiner ∧ ¬ user.Publishes size ∧
      ¬ { user with freePool := user.freePool + size }.Blocked quota.freePool
  | .rqContinue =>
    quota.phase = .alloc ∧ ∃ u rest user, quota.awaitingAllocation = u :: rest ∧
      quota.users[u]? = some user ∧ user.shutdown = true ∧
      0 < user.freePool + user.outstandingAllocations ∧ user.addedToFreePool = false
  | _ => False

section Parts

variable {u : UserId} {rest : List UserId} {user : ResourceUser}

theorem Listed.turns_popped (listed : quota.Listed) (waiting : quota.awaitingAllocation = u :: rest)
    (popped : quota'.awaitingAllocation = rest) (combiner : quota'.combiner = quota.combiner) :
    (∀ v, quota'.turns v ≤ quota.turns v) ∧ quota'.turns u = 0 := by
  have counts : ∀ v, quota.turns v = quota'.turns v + [u].count v := by
    simp only [turns, waiting, popped, combiner, List.count_cons, List.count_nil]
    omega
  refine ⟨fun v => by rw [counts v]; exact Nat.le_add_right _ _, ?_⟩
  have once : quota.turns u ≤ 1 := listed.unique u
  have now := counts u
  rw [List.count_singleton_self] at now
  omega

theorem Listed.finished (listed : quota.Listed) (waiting : quota.awaitingAllocation = u :: rest)
    (there : quota.users[u]? = some user) (alive : user.alive = true) {finished : ResourceUser}
    (refs : finished.refs = user.refs) (same : finished.addedToFreePool = user.addedToFreePool)
    (published : 0 < finished.freePool → user.addedToFreePool = true) (freePool : Int)
    (completed : List (Nat × Bool)) :
    ({ quota with
        awaitingAllocation := rest
        freePool
        completed
        users := quota.users.set u finished } : ResourceQuota).Listed := by
  obtain ⟨turns, gone⟩ := listed.turns_popped waiting
    (rfl : ({ quota with
      awaitingAllocation := rest
      freePool
      completed
      users := quota.users.set u finished } : ResourceQuota).awaitingAllocation = rest) rfl
  refine listed.changed there rfl (List.suffix_refl _) turns (fun _ => id) refs ?_ ?_ ?_
  · intro waits
    rw [gone] at waits
    cases waits
  · intro _ positive
    exact same.trans (published positive)
  · intro _ added
    exact listed.added there alive (same.symm.trans added)

theorem Listed.unrefBy (listed : quota.Listed) (there : quota.users[u]? = some user)
    (alive : user.alive = true) (referenced : user.refs ≠ 0) (amount : Nat) :
    ({ (user.unrefBy u amount quota).2 with
        users := quota.users.set u (user.unrefBy u amount quota).1 } : ResourceQuota).Listed := by
  have acts : Acts u user quota (user.unrefBy u amount quota) ([] ++ destruction user u amount) := by
    refine ResourceUser.acts_of_same
      ((Appends.nothing rfl rfl rfl rfl rfl rfl rfl rfl rfl).unrefBy user u amount) alive referenced
      ?_ (destruction_last List.not_mem_nil) ?_ ?_ rfl rfl rfl .inl (listed.published there alive)
    · intro closure member
      obtain ⟨rfl, -⟩ := mem_destruction member
      rfl
    · intro member
      exact Nat.sub_eq_zero_of_le (Nat.le_of_eq (mem_destruction member).2)
    · intro member
      cases (mem_destruction member).1
  have after := listed.act there alive acts
  rw [acts.users] at after
  exact after

theorem rqAllocUser_open (opened : ¬ user.shutdown = true) :
    (user.Blocked quota.freePool ∧
      rqAllocUser user u quota =
        (user, { quota with
          awaitingAllocation := u :: quota.awaitingAllocation
          phase := .reclaimFromPerUserFreePool })) ∨
    ∃ finished freePool completed,
      rqAllocUser user u quota = (finished, { quota with freePool, completed }) ∧
      finished.refs = user.refs ∧ finished.addedToFreePool = user.addedToFreePool ∧
      (0 < finished.freePool → 0 < user.freePool) := by
  unfold rqAllocUser
  rw [if_neg opened]
  by_cases granted : user.freePool < 0 ∧ -user.freePool ≤ quota.freePool
  · right
    simp only [if_pos granted, if_pos (Or.inl granted : _ ∨ 0 ≤ user.freePool)]
    exact ⟨_, _, _, rfl, rfl, rfl, fun positive => absurd positive (Int.lt_irrefl 0)⟩
  · simp only [if_neg granted]
    by_cases enough : 0 ≤ user.freePool
    · right
      rw [if_pos (.inr enough)]
      exact ⟨_, _, _, rfl, rfl, rfl, id⟩
    · left
      rw [if_neg (not_or.mpr ⟨granted, enough⟩)]
      exact ⟨⟨by omega, by omega⟩, rfl⟩

theorem rqAllocUser_listed (listed : quota.Listed) (sound : user.Sound)
    (waiting : quota.awaitingAllocation = u :: rest) (there : quota.users[u]? = some user)
    (alive : user.alive = true)
    (noticed : user.shutdown = true → 0 < user.freePool + user.outstandingAllocations →
      user.addedToFreePool = true)
    (done : rqAllocUser user u { quota with awaitingAllocation := rest } = after) :
    ({ after.2 with users := after.2.users.set u after.1 } : ResourceQuota).Listed := by
  by_cases closed : user.shutdown = true
  · unfold rqAllocUser at done
    dsimp only at done
    have middle := listed.finished waiting there alive
      (rfl : ({ user with
        allocating := false
        onAllocated := []
        outstandingAllocations := 0
        freePool := user.freePool + user.outstandingAllocations
        held := user.held - user.outstandingAllocations } : ResourceUser).refs = user.refs) rfl
      (noticed closed) quota.freePool
      (quota.completed ++ user.onAllocated.map fun waiting => (waiting.1, false))
    split_ifs at done with some
    · subst done
      have refs := sound.refs
      have covered := sound.covered
      have inRange := (List.getElem?_eq_some_iff.mp there).1
      have unreferenced := middle.unrefBy (List.getElem?_set_self inRange) alive
        (by dsimp only; omega) user.outstandingAllocations
      rw [List.set_set] at unreferenced
      unfold ResourceUser.unrefBy at unreferenced ⊢
      split_ifs at unreferenced ⊢
      · exact unreferenced
      · exact unreferenced
    · subst done
      exact middle
  · rcases rqAllocUser_open closed with ⟨-, back⟩ |
      ⟨finished, freePool, completed, popped, refs, same, less⟩
    · rw [back] at done
      subst done
      refine listed.rearranged (map_bare_set there rfl) (List.suffix_refl _) (fun v => ?_) id
      simp [turns, waiting]
    · rw [popped] at done
      subst done
      exact listed.finished waiting there alive refs same
        (fun positive => listed.published there alive (less positive)) freePool completed

theorem rqAllocUser_attended (there : quota.users[u]? = some user) (phase : quota.phase = .alloc)
    (done : rqAllocUser user u { quota with awaitingAllocation := rest } = after) :
    ({ after.2 with users := after.2.users.set u after.1 } : ResourceQuota).Attended := by
  by_cases closed : user.shutdown = true
  · refine .of_alloc ?_
    unfold rqAllocUser ResourceUser.unrefBy at done
    dsimp only at done
    split_ifs at done <;> subst done <;> exact phase
  · rcases rqAllocUser_open closed with ⟨blocked, back⟩ | ⟨finished, freePool, completed, popped, -⟩
    · rw [back] at done
      subst done
      have inRange := (List.getElem?_eq_some_iff.mp there).1
      have here : (quota.users.set u user)[u]? = some user := List.getElem?_set_self inRange
      refine ⟨fun _ _ => .inr rfl, ?_, ?_, fun _ => .inr (.inl (by simp)), by simp⟩
      · intro v rest' user' now there'
        obtain ⟨rfl, -⟩ := List.cons.inj now
        obtain rfl := Option.mem_unique here there'
        exact .inr (.inr blocked)
      · intro v rest' user' now there' shut
        obtain ⟨rfl, -⟩ := List.cons.inj now
        obtain rfl := Option.mem_unique here there'
        exact absurd shut closed
    · rw [popped] at done
      subst done
      exact .of_alloc phase

theorem rqReclaimUser_listed (listed : quota.Listed) (pool : quota.nonEmptyFreePool = u :: rest)
    (there : quota.users[u]? = some user)
    (done : rqReclaimUser user { quota with nonEmptyFreePool := rest } = after) :
    ({ after.2 with users := after.2.users.set u after.1 } : ResourceQuota).Listed := by
  have others : ∀ {v}, v ≠ u → .addToFreePool v ∈ quota.combiner ∨ v ∈ quota.nonEmptyFreePool →
      .addToFreePool v ∈ quota.combiner ∨ v ∈ rest := by
    intro v different before
    rw [pool, List.mem_cons] at before
    exact before.imp_right fun member => member.resolve_left different
  have waits : 0 < quota.turns u → user.alive = true ∧ user.allocating = true := by
    intro turn
    obtain ⟨user', there', alive, allocating⟩ := listed.waiting (turns_pos.mp turn)
    obtain rfl := Option.mem_unique there there'
    exact ⟨alive, allocating⟩
  unfold rqReclaimUser at done
  dsimp only at done
  split_ifs at done with some
  · subst done
    exact listed.changed there rfl (List.suffix_refl _) (fun _ => Nat.le_refl _) others rfl waits
      (by simp) (by simp)
  · subst done
    exact listed.changed there rfl (List.suffix_refl _) (fun _ => Nat.le_refl _) others rfl waits
      (fun _ positive => absurd positive some) (by simp)

theorem rqReclaimUser_attended (attended : quota.Attended)
    (pool : quota.nonEmptyFreePool = u :: rest) (there : quota.users[u]? = some user)
    (done : rqReclaimUser user { quota with nonEmptyFreePool := rest } = after) :
    ({ after.2 with users := after.2.users.set u after.1 } : ResourceQuota).Attended := by
  unfold rqReclaimUser at done
  dsimp only at done
  split_ifs at done with some
  · subst done
    exact .of_alloc rfl
  · subst done
    refine attended.carried rfl rfl rfl ?_ ?_ ?_
    · intro v rest' waiting
      refine ⟨⟨rest', waiting⟩, id, id, fun there' => ?_⟩
      rcases Ledger.set_cases there' with ⟨rfl, rfl⟩ | ⟨-, old⟩
      · exact ⟨user, there, rfl, rfl⟩
      · exact ⟨_, old, rfl, rfl⟩
    · intro _
      rw [pool]
      exact List.cons_ne_nil _ _
    · exact fun _ before => .inr (.inr before)

theorem Attended.finish (attended : quota.Attended) (phase : quota.phase = .reclaim)
    (scheduled : quota'.stepScheduled = quota.stepScheduled)
    (freePool : quota'.freePool = quota.freePool) (combiner : quota'.combiner = quota.combiner)
    (awaitingAllocation : quota'.awaitingAllocation = quota.awaitingAllocation)
    (nonEmptyFreePool : quota'.nonEmptyFreePool = quota.nonEmptyFreePool)
    (users : quota'.users.map ResourceUser.bare = quota.users.map ResourceUser.bare)
    (reclaimers : quota'.reclaiming = true ∨ ∀ destructive, quota'.reclaimerLists destructive = []) :
    quota'.Attended := by
  have empty := attended.reclaim phase
  refine attended.of_first ?_ freePool ?_ ?_ (fun _ => .inr (.inr reclaimers)) ?_
  · intro looks
    rcases looks with now | looking
    · exact .inl (scheduled.trans now)
    · cases phase.symm.trans looking
  · intro u rest waiting
    rw [awaitingAllocation] at waiting
    rw [combiner]
    exact ⟨⟨rest, waiting⟩, id, id, user_of_bare users⟩
  · intro _ some
    exact absurd (nonEmptyFreePool.trans empty) some
  · exact fun _ => nonEmptyFreePool.trans empty

theorem Watched.rqReclaim (watched : quota.Watched) (phase : quota.phase = .reclaim)
    {destructive : Bool}
    (taken : { quota with phase := Phase.idle }.rqReclaim destructive = some quota') :
    quota'.Listed ∧ quota'.Attended := by
  obtain ⟨-, listed, attended⟩ := watched
  unfold ResourceQuota.rqReclaim at taken
  split at taken
  · cases taken
  · obtain ⟨user, after, there, -, done, rfl⟩ := update_eq_some taken
    obtain ⟨-, rfl⟩ := Option.ite_some_none_eq_some.mp done
    have same : ∀ reclaimers, ({ user with reclaimers } : ResourceUser).bare = user.bare :=
      fun _ => rfl
    exact ⟨listed.rearranged (map_bare_set there (same _)) (List.suffix_refl _)
      (fun _ => Nat.le_refl _) id, attended.finish phase rfl rfl rfl rfl rfl
      (map_bare_set there (same _)) (.inl rfl)⟩

theorem Watched.rqContinue (watched : quota.Watched) (noticed : ¬ quota.Misses .rqContinue)
    (taken : quota.rqContinue = some quota') : quota'.Listed ∧ quota'.Attended := by
  obtain ⟨conserved, listed, attended⟩ := id watched
  unfold ResourceQuota.rqContinue at taken
  split at taken
  · cases taken
  · rename_i phase
    split at taken
    · rename_i nobody
      obtain rfl := Option.some.inj taken
      exact ⟨listed.rearranged rfl (List.suffix_refl _) (fun _ => Nat.le_refl _) id,
        .of_nobody nobody (by simp)⟩
    · rename_i u rest waiting
      obtain ⟨user, after, there, alive, done, rfl⟩ := update_eq_some taken
      have done := Option.some.inj done
      refine ⟨rqAllocUser_listed listed (conserved.users there alive) waiting there alive ?_ done,
        rqAllocUser_attended there phase done⟩
      intro closed positive
      by_contra unpublished
      exact noticed ⟨phase, u, rest, user, waiting, there, closed, positive,
        Bool.eq_false_of_not_eq_true unpublished⟩
  · rename_i phase
    split at taken
    · rename_i empty
      obtain rfl := Option.some.inj taken
      refine ⟨listed.rearranged rfl (List.suffix_refl _) (fun _ => Nat.le_refl _) id,
        attended.of_first ?_ rfl ?_ (fun _ some => absurd empty some) (fun _ => .inr (.inl (by simp)))
          (fun _ => empty)⟩
      · intro looks
        rcases looks with now | looking
        · exact .inl now
        · cases phase.symm.trans looking
      · exact fun waiting => ⟨⟨_, waiting⟩, id, id, fun there => ⟨_, there, rfl, rfl⟩⟩
    · rename_i u rest pool
      obtain ⟨user, after, there, -, done, rfl⟩ := update_eq_some taken
      have done := Option.some.inj done
      exact ⟨rqReclaimUser_listed listed pool there done,
        rqReclaimUser_attended attended pool there done⟩
  · rename_i phase
    dsimp only at taken
    have rearranged : ({ quota with phase := .idle } : ResourceQuota).Listed :=
      listed.rearranged rfl (List.suffix_refl _) (fun _ => Nat.le_refl _) id
    split_ifs at taken with reclaiming benign destructive
    · obtain rfl := Option.some.inj taken
      exact ⟨rearranged, attended.finish phase rfl rfl rfl rfl rfl rfl (.inl reclaiming)⟩
    · exact watched.rqReclaim phase taken
    · exact watched.rqReclaim phase taken
    · obtain rfl := Option.some.inj taken
      refine ⟨rearranged, attended.finish phase rfl rfl rfl rfl rfl rfl (.inr fun kind => ?_)⟩
      cases kind with
      | false => exact not_not.mp benign
      | true => exact not_not.mp destructive

end Parts

section Steps

section

variable (watched : quota.Watched)
include watched

theorem Watched.create : ({ quota with users := quota.users ++ [{}] } : ResourceQuota).Listed ∧
      ({ quota with users := quota.users ++ [{}] } : ResourceQuota).Attended := by
  obtain ⟨-, listed, attended⟩ := watched
  have old : ∀ {v : UserId} {user : ResourceUser}, quota.users[v]? = some user →
      (quota.users ++ [({} : ResourceUser)])[v]? = some user := by
    intro v user there
    rw [List.getElem?_append_left (List.getElem?_eq_some_iff.mp there).1]
    exact there
  refine ⟨⟨?_, listed.unique, listed.order, ?_, ?_, ?_⟩, ?_⟩
  · intro v waits
    obtain ⟨user, there, waiting⟩ := listed.waiting waits
    exact ⟨user, old there, waiting⟩
  · intro v member
    obtain ⟨user, there, unreferenced⟩ := listed.dying member
    exact ⟨user, old there, unreferenced⟩
  · intro v user there alive positive
    rcases Ledger.append_cases there with before | ⟨-, rfl⟩
    · exact listed.published before alive positive
    · cases positive
  · intro v user there alive added
    rcases Ledger.append_cases there with before | ⟨-, rfl⟩
    · exact listed.added before alive added
    · cases added
  · refine attended.carried rfl rfl rfl ?_ id fun _ before => .inr (.inr before)
    intro u rest waiting
    refine ⟨⟨rest, waiting⟩, id, id, fun {user'} there' => ?_⟩
    have member : u ∈ quota.awaitingAllocation := by
      rw [waiting]
      exact List.mem_cons_self
    obtain ⟨user, there, -⟩ := listed.waiting (.inl member)
    obtain rfl := Option.some.inj ((old there).symm.trans there')
    exact ⟨user, there, rfl, rfl⟩

theorem Watched.finishReclamation :
    ({ quota with unfinished := false }.run .reclamationDone).Listed ∧
      ({ quota with unfinished := false }.run .reclamationDone).Attended := by
  obtain ⟨-, listed, attended⟩ := watched
  have member : ∀ {closure : Closure} {v}, closure.user = some v →
      (closure ∈ quota.combiner ++ [.reclamationDone] ↔ closure ∈ quota.combiner) := by
    intro closure v own
    rw [List.mem_append, List.mem_singleton]
    refine ⟨fun either => either.resolve_right ?_, .inl⟩
    rintro rfl
    cases own
  refine ⟨⟨?_, ?_, ?_, ?_, listed.published, ?_⟩, ?_⟩
  · intro v waits
    exact listed.waiting (waits.imp_right (member rfl).mp)
  · intro v
    simpa [ResourceQuota.run] using listed.unique v
  · intro v before after split closure later own
    rcases List.eq_nil_or_concat after with rfl | ⟨between, last, rfl⟩
    · cases later
    · have ends : quota.combiner ++ [.reclamationDone] =
          (before ++ .destroy v :: between) ++ [last] := by simpa [ResourceQuota.run] using split
      obtain ⟨front, same⟩ := List.append_inj' ends rfl
      obtain rfl := List.singleton_inj.mp same
      rw [List.concat_eq_append, List.mem_append, List.mem_singleton] at later
      rcases later with earlier | rfl
      · exact listed.order front closure earlier own
      · cases own
  · exact fun queued => listed.dying ((member rfl).mp queued)
  · intro v user there alive added
    exact (listed.added there alive added).imp_left (member rfl).mpr
  · refine attended.carried rfl rfl rfl ?_ id fun _ before => .inr (.inr before)
    intro u rest waiting
    exact ⟨⟨rest, waiting⟩, (member rfl).mpr, (member rfl).mpr, fun there => ⟨_, there, rfl, rfl⟩⟩

theorem Watched.act {u : UserId}
    {change : ResourceUser → ResourceQuota → Option (ResourceUser × ResourceQuota)}
    (acts : ∀ {user after}, quota.users[u]? = some user → user.alive = true → user.Sound →
      (0 < user.freePool → user.addedToFreePool = true) → change user quota = some after →
        ∃ new, Acts u user quota after new)
    (updated : quota.update u change = some quota') : quota'.Listed ∧ quota'.Attended := by
  obtain ⟨conserved, listed, attended⟩ := watched
  obtain ⟨user, after, there, alive, changed, rfl⟩ := update_eq_some updated
  obtain ⟨new, appended⟩ :=
    acts there alive (conserved.users there alive) (listed.published there alive) changed
  exact ⟨listed.act there alive appended, attended.act there appended⟩

theorem Watched.step {action : Action} (noticed : ¬ quota.Misses action)
    (taken : quota.step action = some quota') : quota'.Watched := by
  have conserved := (watched.conserved.step taken).1
  obtain ⟨-, listed, attended⟩ := id watched
  suffices both : quota'.Listed ∧ quota'.Attended from ⟨conserved, both.1, both.2⟩
  cases action with
  | create =>
    obtain rfl := Option.some.inj taken
    exact watched.create
  | ref =>
    exact watched.act (fun _ alive _ published done =>
      ⟨_, ResourceUser.ref_acts alive published done⟩) taken
  | unref =>
    exact watched.act (fun _ alive sound published done =>
      ⟨_, ResourceUser.unref_acts alive sound published done⟩) taken
  | alloc =>
    exact watched.act (fun _ alive _ published done =>
      ResourceUser.alloc_acts alive published done) taken
  | safeAlloc =>
    exact watched.act (fun _ alive _ published done =>
      ResourceUser.safeAlloc_acts alive published done) taken
  | free =>
    refine watched.act (fun {user after} there alive sound published done => ?_) taken
    refine ResourceUser.free_acts alive sound published ?_ done
    intro rest waiting overlooked unqueued
    by_contra neither
    rw [not_or] at neither
    exact noticed ⟨rest, user, waiting, there, overlooked, unqueued, neither.1, neither.2⟩
  | shutdown =>
    exact watched.act (fun _ alive _ published done =>
      ResourceUser.close_acts alive published done) taken
  | postReclaimer =>
    exact watched.act (fun _ alive _ published done =>
      ⟨_, ResourceUser.postReclaimer_acts alive published done⟩) taken
  | finishReclamation =>
    obtain ⟨-, rfl⟩ := Option.ite_some_none_eq_some.mp taken
    exact watched.finishReclamation
  | resize =>
    obtain ⟨-, rfl⟩ := Option.ite_some_none_eq_some.mp taken
    exact ⟨listed.rearranged rfl (List.suffix_refl _) (fun _ => Nat.le_refl _) id,
      ⟨attended.pools, attended.first, attended.closed, attended.reclaimers, attended.reclaim⟩⟩
  | rqResize =>
    obtain ⟨size, -, rfl⟩ := Option.map_eq_some_iff.mp taken
    exact ⟨listed.rearranged rfl (List.suffix_refl _) (fun _ => Nat.le_refl _) id,
      .of_scheduled rfl attended.reclaim⟩
  | runClosure => exact watched.runClosure taken
  | rqStep =>
    obtain ⟨-, rfl⟩ := Option.ite_some_none_eq_some.mp taken
    exact ⟨listed.rearranged rfl (List.suffix_refl _) (fun _ => Nat.le_refl _) id, .of_alloc rfl⟩
  | rqContinue => exact watched.rqContinue noticed taken

end

theorem watched_empty : ({} : ResourceQuota).Watched :=
  ⟨conserved_empty, ⟨by simp, by simp, by simp, by simp, by simp, by simp⟩,
    .of_nobody rfl (fun _ => rfl)⟩

end Steps

/-- No closure is queued, and no `rq_step` is scheduled or under way. -/
structure Quiescent (quota : ResourceQuota) : Prop where
  combiner : quota.combiner = []
  stepScheduled : quota.stepScheduled = false
  phase : quota.phase = .idle

/-- The first user that waits cannot be helped: it is not shut down and needs more than
there is, no user has bytes to give back, and a reclamation is under way or nobody offers
one. -/
structure Stuck (quota : ResourceQuota) : Prop where
  first : ∀ {u rest}, quota.awaitingAllocation = u :: rest →
    ∃ user, quota.users[u]? = some user ∧ user.alive = true ∧ user.shutdown = false ∧
      user.freePool < 0 ∧ quota.freePool < -user.freePool
  nonEmptyFreePool : quota.nonEmptyFreePool = []
  freePools : ∀ {u : UserId} {user : ResourceUser}, quota.users[u]? = some user →
    user.alive = true → user.freePool ≤ 0
  reclaimers : quota.reclaiming = true ∨ ∀ destructive, quota.reclaimerLists destructive = []

theorem Watched.stuck (watched : quota.Watched) (quiescent : quota.Quiescent)
    (somebody : quota.awaitingAllocation ≠ []) : quota.Stuck := by
  obtain ⟨-, listed, attended⟩ := watched
  obtain ⟨combiner, stepScheduled, phase⟩ := quiescent
  have overlooked : ¬ quota.Looks := by simp [Looks, stepScheduled, phase]
  have empty : quota.nonEmptyFreePool = [] := by
    by_contra some
    rcases attended.pools somebody some with looks | looking
    · exact overlooked looks
    · cases phase.symm.trans looking
  refine ⟨?_, empty, ?_, ?_⟩
  · intro u rest waiting
    have member : u ∈ quota.awaitingAllocation := by
      rw [waiting]
      exact List.mem_cons_self
    obtain ⟨user, there, alive, -⟩ := listed.waiting (.inl member)
    have blocked := (attended.first waiting there).resolve_left overlooked
    have closed := attended.closed waiting there
    rw [combiner] at blocked closed
    refine ⟨user, there, alive, ?_, blocked.resolve_left List.not_mem_nil⟩
    by_contra shut
    have queued := (closed (Bool.eq_true_of_not_eq_false shut)).resolve_left overlooked
    cases queued
  · intro u user there alive
    by_contra positive
    have added := listed.added there alive (listed.published there alive (by omega))
    rw [combiner, empty] at added
    simp at added
  · have before := attended.reclaimers somebody
    simpa [stepScheduled, phase] using before

/-- In every run whose steps are all noticed, whoever waits first while nothing is queued
or scheduled cannot be helped. -/
theorem waits_only_if_stuck {actions : List Action} {quota : ResourceQuota}
    (run : Machine.Run step (fun quota action => ¬ quota.Misses action) {} actions quota)
    (quiescent : quota.Quiescent) (somebody : quota.awaitingAllocation ≠ []) : quota.Stuck := by
  have watched : quota.Watched :=
    run.invariant (fun watched noticed taken => watched.step noticed taken) watched_empty
  exact watched.stuck quiescent somebody

def harmless (quota : ResourceQuota) : Action → Bool
  | .free u _ => quota.awaitingAllocation.head? ≠ some u
  | .rqContinue => quota.users.all fun user => !user.shutdown
  | _ => true

theorem harmless_noticed (quota : ResourceQuota) (action : Action)
    (checked : quota.harmless action = true) : ¬ quota.Misses action := by
  intro misses
  cases action with
  | free =>
    obtain ⟨rest, user, waiting, -⟩ := misses
    simp [harmless, waiting] at checked
  | rqContinue =>
    obtain ⟨-, u, rest, user, -, there, closed, -⟩ := misses
    have opened := List.all_eq_true.mp checked user (List.mem_of_getElem? there)
    simp [closed] at opened
  | _ => exact misses

/-- A user holds 60 bytes of 100 and frees 30 of them while another waits for 100: a step
takes the 30 bytes, and the other waits on. -/
theorem waits_only_if_stuck_freed :
    ∃ (actions : List Action) (quota : ResourceQuota),
      Machine.Run step (fun quota action => ¬ quota.Misses action) {} actions quota ∧
        quota.Quiescent ∧ quota.awaitingAllocation = [0] ∧ quota.freePool = 70 ∧ quota.Stuck := by
  have done : (Machine.exec
      (fun quota action => if harmless quota action then step quota action else none) {}
      [.create, .create, .resize 100, .rqResize 0, .rqStep, .rqContinue, .alloc 1 60 true,
        .runClosure, .rqStep, .rqContinue, .rqContinue, .alloc 0 100 true, .runClosure, .rqStep,
        .rqContinue, .rqContinue, .rqContinue, .free 1 30, .runClosure, .rqStep, .rqContinue,
        .rqContinue, .rqContinue, .rqContinue, .rqContinue]).map
      (fun quota => (quota.combiner, quota.stepScheduled, quota.phase, quota.awaitingAllocation,
        quota.freePool)) = some ([], false, .idle, [0], 70) := by decide
  obtain ⟨quota, executed, seen⟩ := Option.map_eq_some_iff.mp done
  simp only [Prod.mk.injEq] at seen
  obtain ⟨combiner, stepScheduled, phase, waiting, freePool⟩ := seen
  have run := Machine.run_of_exec harmless_noticed executed
  have quiescent : quota.Quiescent := ⟨combiner, stepScheduled, phase⟩
  exact ⟨_, quota, run, quiescent, waiting, freePool,
    waits_only_if_stuck run quiescent (by simp [waiting])⟩

/-- A user that holds 60 bytes of 100 waits for 100 more and frees its 60: it needs 40 of
the 40 bytes there are, and nothing is scheduled. -/
theorem waits_for_own_bytes :
    ¬ ∀ (actions : List Action) (quota : ResourceQuota), Machine.Reach step {} actions quota →
      quota.Quiescent → quota.awaitingAllocation ≠ [] → quota.Stuck := by
  intro always
  obtain ⟨quota, run, seen⟩ := Machine.exists_reach step {}
    [.create, .resize 100, .rqResize 0, .rqStep, .rqContinue, .alloc 0 60 true, .runClosure,
      .rqStep, .rqContinue, .rqContinue, .alloc 0 100 true, .runClosure, .rqStep, .rqContinue,
      .rqContinue, .rqContinue, .free 0 60]
    (fun quota => ((quota.combiner, quota.stepScheduled, quota.phase), quota.awaitingAllocation,
      quota.freePool :: quota.users.map ResourceUser.freePool))
    (([], false, .idle), [0], [40, -40]) (by decide)
  simp only [Prod.mk.injEq, List.cons.injEq] at seen
  obtain ⟨⟨combiner, stepScheduled, phase⟩, waiting, freePool, pools⟩ := seen
  have stuck := always _ quota run ⟨combiner, stepScheduled, phase⟩ (by simp [waiting])
  obtain ⟨user, there, -, -, -, more⟩ := stuck.first waiting
  have pool : (quota.users.map ResourceUser.freePool)[0]? = some user.freePool := by
    rw [List.getElem?_map, there]
    rfl
  rw [pools] at pool
  have need : -40 = user.freePool := Option.some.inj pool
  omega

end ResourceQuota

end GrpcCore.Iomgr
