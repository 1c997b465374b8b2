import GrpcCore.Memory.Accounting

/-!
# Memory that can be got back

What an allocator keeps free is worth a reclaimer in its quota's first queue, and a
quota that is overcommitted does not rest while one of its queues holds a reclaimer.
The second is so. The first ends with the first sweep: an allocator goes by the index
that it remembers, and keeps it when the reclaimer has been taken.
-/

namespace GrpcCore.Memory

open MachineInt Allocator Ledger ReclaimerQueue

local instance neZeroFour : NeZero 4 := ⟨Nat.succ_ne_zero 3⟩

namespace BasicMemoryQuota

/-- Where the loop stands, it has looked at everything that it has not been woken for. -/
def Attentive (quota : BasicMemoryQuota) : Prop :=
  match quota.stage with
  | .waitForOvercommit => quota.running = true ∨ quota.woken = true ∨ 0 ≤ quota.freeBytes
  | .race pass =>
    (quota.running = true ∨ pass = 0) ∧
      (quota.woken = true ∨ ∀ p, (quota.running = true → p < pass) →
        (quota.reclaimers p).queue = [] ∧ (quota.reclaimers p).waker = true)
  | .sweeping token _ => quota.running = true ∧ token ≤ quota.reclamationCounter
  | .waitForSweep token =>
    token ≤ quota.reclamationCounter ∧ (quota.reclamationCounter = token → token ∈ quota.sweeps) ∧
      (quota.reclamationCounter ≠ token → quota.running = true ∨ quota.woken = true)

structure Sound (quota : BasicMemoryQuota) : Prop where
  queues : ∀ pass, (quota.reclaimers pass).WellFormed
  sweepers : ∀ {i allocator reclaimer}, (quota.reclaimers 0).Holds i allocator reclaimer →
    reclaimer = .sweeper allocator
  attentive : quota.Attentive

def Covers (quota : BasicMemoryQuota) (a : AllocatorId) : Prop :=
  ∃ i reclaimer, (quota.reclaimers 0).Holds i a reclaimer

/-- The allocator's sweeper has been taken and is about to be called. -/
def Sweeps (quota : BasicMemoryQuota) (a : AllocatorId) : Prop :=
  ∃ token, quota.stage = .sweeping token (.sweeper a)

theorem sound_new : ({} : BasicMemoryQuota).Sound where
  queues := fun _ => wellFormed_empty
  sweepers := fun held => by simp [ReclaimerQueue.Holds] at held
  attentive := .inr (.inr (by decide))

section Bytes

variable {quota quota' : BasicMemoryQuota}

theorem Sound.bytes (sound : quota.Sound) (reclaimers : quota'.reclaimers = quota.reclaimers)
    (counter : quota'.reclamationCounter = quota.reclamationCounter)
    (stage : quota'.stage = quota.stage) (running : quota'.running = quota.running)
    (sweeps : quota'.sweeps = quota.sweeps) (woken : quota.woken = true → quota'.woken = true)
    (noticed : 0 ≤ quota.freeBytes → quota'.woken = true ∨ 0 ≤ quota'.freeBytes) :
    quota'.Sound := by
  obtain ⟨queues, sweepers, attentive⟩ := sound
  refine ⟨reclaimers ▸ queues, fun held => sweepers (by rw [← reclaimers]; exact held), ?_⟩
  unfold Attentive at attentive ⊢
  rw [stage, reclaimers, counter, running, sweeps]
  split
  · rename_i waiting
    rw [waiting] at attentive
    rcases attentive with inLoop | scheduled | enough
    · exact .inl inLoop
    · exact .inr (.inl (woken scheduled))
    · exact .inr (noticed enough)
  · rename_i pass racing
    rw [racing] at attentive
    exact ⟨attentive.1, attentive.2.imp_left woken⟩
  · rename_i token reclaimer sweeping
    rw [sweeping] at attentive
    exact attentive
  · rename_i token waiting
    rw [waiting] at attentive
    exact ⟨attentive.1, attentive.2.1, fun finished => (attentive.2.2 finished).imp_right woken⟩

theorem Sound.take (sound : quota.Sound) {amount : Nat} (small : amount < 9223372036854775808)
    (high : quota.freeBytes < 9223372036854775808) : (quota.take amount).Sound := by
  unfold BasicMemoryQuota.take
  split_ifs with nothing
  · exact sound
  · refine sound.bytes rfl rfl rfl rfl rfl (fun scheduled => by simp [scheduled]) ?_
    intro enough
    have amountWord : int64 amount = amount := int64_eq_self (by omega) (by omega)
    have freeWord : int64 (quota.freeBytes - amount) = quota.freeBytes - amount :=
      int64_eq_self (by omega) (by omega)
    by_cases crosses : quota.freeBytes < amount
    · exact .inl (by simp [enough, amountWord, crosses])
    · exact .inr (by simp only [freeWord]; omega)

theorem Sound.returnBytes (sound : quota.Sound) {amount : Nat}
    (fits : quota.freeBytes + amount < 9223372036854775808) :
    (quota.returnBytes amount).Sound := by
  refine sound.bytes rfl rfl rfl rfl rfl id fun enough => .inr ?_
  have word : int64 (quota.freeBytes + amount) = quota.freeBytes + amount :=
    int64_eq_self (by omega) fits
  simp only [BasicMemoryQuota.returnBytes, word]
  omega

end Bytes

section Queues

variable {quota : BasicMemoryQuota}

theorem Sound.insertReclaimer (sound : quota.Sound) {pass : Fin 4} {a : AllocatorId}
    {reclaimer : Reclaimer} (first : pass = 0 → reclaimer = .sweeper a) (index : Option Nat) :
    (quota.insertReclaimer pass a reclaimer index).1.Sound := by
  obtain ⟨queues, sweepers, attentive⟩ := sound
  have inserted := insert_spec (queues pass) a reclaimer index
  unfold BasicMemoryQuota.insertReclaimer
  refine ⟨?_, ?_, ?_⟩
  · intro p
    by_cases same : p = pass
    · subst same
      simp only [Function.update_self]
      exact inserted.wellFormed
    · simp only [Function.update_of_ne same]
      exact queues p
  · intro i allocator reclaimer' held
    by_cases same : pass = 0
    · subst same
      rcases inserted.old held with ⟨rfl, rfl⟩ | old
      · exact first rfl
      · exact sweepers old
    · simp only [Function.update_of_ne (Ne.symm same)] at held
      exact sweepers held
  · unfold Attentive at attentive ⊢
    dsimp only
    rcases stage : quota.stage with _ | racing | ⟨token, sweeper⟩ | token
    · rw [stage] at attentive
      rcases attentive with inLoop | scheduled | enough
      · exact .inl inLoop
      · exact .inr (.inl (by rw [scheduled]; rfl))
      · exact .inr (.inr enough)
    · rw [stage] at attentive
      refine ⟨attentive.1, ?_⟩
      rcases attentive.2 with scheduled | empty
      · exact .inl (by rw [scheduled]; rfl)
      · by_cases seen : quota.running = true → pass < racing
        · -- The queue had been found empty, so that its waker is used.
          obtain ⟨nothing, waiting⟩ := empty pass seen
          exact .inl (by rw [inserted.woken nothing waiting, Bool.or_true])
        · refine .inr fun p seen' => ?_
          have other : p ≠ pass := by
            rintro rfl
            exact seen seen'
          simp only [Function.update_of_ne other]
          exact empty p seen'
    · rw [stage] at attentive
      exact attentive
    · rw [stage] at attentive
      refine ⟨attentive.1, attentive.2.1, fun finished => ?_⟩
      rcases attentive.2.2 finished with inLoop | scheduled
      · exact .inl inLoop
      · exact .inr (by rw [scheduled]; rfl)

theorem insertReclaimer_covers (queues : ∀ pass, (quota.reclaimers pass).WellFormed)
    (pass : Fin 4) {a b : AllocatorId} (other : b ≠ a) (reclaimer : Reclaimer)
    (index : Option Nat) (covers : quota.Covers b) :
    (quota.insertReclaimer pass a reclaimer index).1.Covers b := by
  obtain ⟨i, reclaimer', held⟩ := covers
  refine ⟨i, reclaimer', ?_⟩
  have inserted := insert_spec (queues pass) a reclaimer index
  unfold BasicMemoryQuota.insertReclaimer
  by_cases same : pass = 0
  · subst same
    exact inserted.others held other
  · simp only [Function.update_of_ne (Ne.symm same)]
    exact held

theorem insertReclaimer_covers_self (queues : ∀ pass, (quota.reclaimers pass).WellFormed)
    (a : AllocatorId) (reclaimer : Reclaimer) (index : Option Nat) :
    (quota.insertReclaimer 0 a reclaimer index).1.Covers a := by
  have inserted := insert_spec (queues 0) a reclaimer index
  refine ⟨((quota.reclaimers 0).insert a reclaimer index).2.1, reclaimer, ?_⟩
  exact inserted.new

theorem insertReclaimers_spec {a : AllocatorId} {reclaimers : List (Fin 4 × Reclaimer)}
    (first : ∀ reclaimer, (0, reclaimer) ∈ reclaimers → reclaimer = .sweeper a)
    (sound : quota.Sound) (indices : Fin 4 → Option Nat) :
    (quota.insertReclaimers a reclaimers indices).1.Sound ∧
      (quota.insertReclaimers a reclaimers indices).1.stage = quota.stage ∧
      ∀ b, b ≠ a → quota.Covers b → (quota.insertReclaimers a reclaimers indices).1.Covers b := by
  induction reclaimers generalizing quota indices with
  | nil => exact ⟨sound, rfl, fun _ _ covers => covers⟩
  | cons item rest ih =>
    obtain ⟨pass, reclaimer⟩ := item
    have head : pass = 0 → reclaimer = .sweeper a := by
      rintro rfl
      exact first reclaimer List.mem_cons_self
    obtain ⟨sound', stage, covers⟩ :=
      ih (fun reclaimer member => first reclaimer (List.mem_cons_of_mem _ member))
        (sound.insertReclaimer head (indices pass))
        (Function.update indices pass
          (some (quota.insertReclaimer pass a reclaimer (indices pass)).2))
    exact ⟨sound', stage, fun b other covered =>
      covers b other (insertReclaimer_covers sound.queues pass other _ _ covered)⟩

theorem cancelReclaimers_spec (sound : quota.Sound) (indices : Fin 4 → Option Nat)
    (a : AllocatorId) :
    (quota.cancelReclaimers indices a).1.Sound ∧
      (∀ b, b ≠ a → quota.Covers b → (quota.cancelReclaimers indices a).1.Covers b) ∧
      ∀ reclaimer, (quota.cancelReclaimers indices a).2 0 = some reclaimer →
        reclaimer = .sweeper a := by
  obtain ⟨queues, sweepers, attentive⟩ := sound
  have cancelled pass := cancel_spec (queues pass) (indices pass) a
  refine ⟨⟨fun pass => (cancelled pass).wellFormed, fun held => sweepers ((cancelled 0).old held),
    ?_⟩, ?_, ?_⟩
  · unfold Attentive at attentive ⊢
    dsimp only [cancelReclaimers]
    simp only [(cancelled _).queue, (cancelled _).waker]
    exact attentive
  · rintro b other ⟨i, reclaimer, held⟩
    exact ⟨i, reclaimer, (cancelled 0).others held other⟩
  · intro reclaimer fetched
    obtain ⟨i, held⟩ := (cancelled 0).fetched fetched
    exact sweepers held

end Queues

section Loop

variable {quota quota' : BasicMemoryQuota}

theorem Sound.finishReclamation (sound : quota.Sound) (token : Nat) :
    ({ quota with sweeps := quota.sweeps.erase token }.finishReclamation token).Sound := by
  obtain ⟨queues, sweepers, attentive⟩ := sound
  unfold Attentive at attentive
  unfold BasicMemoryQuota.finishReclamation
  split_ifs with current
  · refine ⟨queues, sweepers, ?_⟩
    dsimp only at current
    unfold Attentive
    dsimp only
    rcases stage : quota.stage with _ | racing | ⟨awaited, sweeper⟩ | awaited
    · exact .inr (.inl rfl)
    · rw [stage] at attentive
      exact ⟨attentive.1, .inl rfl⟩
    · rw [stage] at attentive
      exact ⟨attentive.1, by omega⟩
    · rw [stage] at attentive
      refine ⟨by omega, ?_, fun _ => .inr rfl⟩
      omega
  · refine ⟨queues, sweepers, ?_⟩
    rcases stage : quota.stage with _ | racing | ⟨awaited, sweeper⟩ | awaited
    · rw [stage] at attentive
      exact attentive
    · rw [stage] at attentive
      exact attentive
    · rw [stage] at attentive
      exact attentive
    · rw [stage] at attentive
      refine ⟨attentive.1, fun outstanding => ?_, attentive.2.2⟩
      refine (List.mem_erase_of_ne ?_).mpr (attentive.2.1 outstanding)
      rw [← outstanding]
      exact current

theorem Sound.swept (sound : quota.Sound) {token : Nat} {reclaimer : Reclaimer}
    (stage : quota.stage = .sweeping token reclaimer) :
    ({ quota with stage := .waitForSweep token }.finishReclamation token).Sound := by
  obtain ⟨queues, sweepers, attentive⟩ := sound
  unfold Attentive at attentive
  rw [stage] at attentive
  obtain ⟨running, bound⟩ := attentive
  unfold BasicMemoryQuota.finishReclamation
  split_ifs with current
  · refine ⟨queues, sweepers, Nat.le_succ token, fun passed => ?_, fun _ => .inl running⟩
    exact absurd passed (Nat.succ_ne_self token)
  · exact ⟨queues, sweepers, bound, fun same => absurd same current, fun _ => .inl running⟩

theorem Sound.wakeup (sound : quota.Sound)
    (outside : ¬ quota.running = true) :
    ({ quota with woken := false, running := true } : BasicMemoryQuota).Sound := by
  obtain ⟨queues, sweepers, attentive⟩ := sound
  refine ⟨queues, sweepers, ?_⟩
  unfold Attentive at attentive ⊢
  rcases stage : quota.stage with _ | racing | ⟨awaited, sweeper⟩ | awaited
  · exact .inl rfl
  · rw [stage] at attentive
    obtain rfl := attentive.1.resolve_left outside
    exact ⟨.inl rfl, .inr fun p before => absurd (before rfl) (Nat.not_lt_zero _)⟩
  · rw [stage] at attentive
    exact ⟨rfl, attentive.2⟩
  · rw [stage] at attentive
    exact ⟨attentive.1, attentive.2.1, fun _ => .inl rfl⟩

theorem Sound.polled (sound : quota.Sound) {pass : Fin 4}
    {result : ReclaimerQueue × Option Reclaimer}
    (polled : ReclaimerQueue.Polled (quota.reclaimers pass) result)
    (reclaimers : quota'.reclaimers = Function.update quota.reclaimers pass result.1)
    (attentive : quota'.Attentive)
    (called : ∀ b, result.2 = some (.sweeper b) → quota'.Sweeps b) :
    quota'.Sound ∧ ∀ b, quota.Covers b → quota'.Covers b ∨ quota'.Sweeps b := by
  obtain ⟨queues, sweepers, -⟩ := sound
  refine ⟨⟨?_, ?_, attentive⟩, ?_⟩
  · intro p
    rw [reclaimers]
    by_cases same : p = pass
    · subst same
      rw [Function.update_self]
      exact polled.wellFormed
    · rw [Function.update_of_ne same]
      exact queues p
  · intro i allocator reclaimer held
    rw [reclaimers] at held
    by_cases same : pass = 0
    · subst same
      exact sweepers (polled.old held)
    · rw [Function.update_of_ne (Ne.symm same)] at held
      exact sweepers held
  · rintro b ⟨i, reclaimer, held⟩
    by_cases same : pass = 0
    · subst same
      rcases polled.others held with still | taken
      · exact .inl ⟨i, reclaimer, by rw [reclaimers, Function.update_self]; exact still⟩
      · rw [sweepers held] at taken
        exact .inr (called b taken)
    · exact .inl ⟨i, reclaimer, by rw [reclaimers, Function.update_of_ne (Ne.symm same)]; exact held⟩

theorem emptied_update {pass : Fin 4} {result : ReclaimerQueue × Option Reclaimer}
    (polled : ReclaimerQueue.Polled (quota.reclaimers pass) result) (nothing : result.2 = none)
    (before : ∀ p < pass, (quota.reclaimers p).queue = [] ∧ (quota.reclaimers p).waker = true)
    {p : Fin 4} (seen : p < pass ∨ p = pass) :
    (Function.update quota.reclaimers pass result.1 p).queue = [] ∧
      (Function.update quota.reclaimers pass result.1 p).waker = true := by
  by_cases same : p = pass
  · subst same
    rw [Function.update_self]
    exact polled.nothing nothing
  · rw [Function.update_of_ne same]
    exact before p (seen.resolve_right same)

theorem Sound.loopStep (sound : quota.Sound) (running : quota.running = true)
    (stepped : quota.loopStep = some quota') :
    quota'.Sound ∧ (∀ b, quota.Covers b → quota'.Covers b ∨ quota'.Sweeps b) ∧
      ∀ b, ¬ quota.Sweeps b := by
  obtain ⟨queues, sweepers, attentive⟩ := sound
  unfold Attentive at attentive
  unfold BasicMemoryQuota.loopStep at stepped
  rcases stage : quota.stage with _ | pass | ⟨token, _ | _⟩ | token
  · simp only [stage] at stepped attentive
    have calm : ∀ b, ¬ quota.Sweeps b := by simp [Sweeps, stage]
    split_ifs at stepped with enough
    · obtain rfl := Option.some.inj stepped
      refine ⟨⟨queues, sweepers, ?_⟩, fun _ => .inl, calm⟩
      exact .inr (.inr (Int.le_of_lt enough))
    · obtain rfl := Option.some.inj stepped
      refine ⟨⟨queues, sweepers, ?_⟩, fun _ => .inl, calm⟩
      exact ⟨.inl running, .inr fun p before => absurd (before running) (Nat.not_lt_zero _)⟩
  · simp only [stage] at stepped attentive
    have calm : ∀ b, ¬ quota.Sweeps b := by simp [Sweeps, stage]
    have polled := pollNext_spec (queues pass)
    generalize (quota.reclaimers pass).pollNext = result at polled stepped
    have sound : quota.Sound := ⟨queues, sweepers, by unfold Attentive; rw [stage]; exact attentive⟩
    have before : quota.woken = true ∨
        ∀ p < pass, (quota.reclaimers p).queue = [] ∧ (quota.reclaimers p).waker = true :=
      attentive.2.imp_right fun empty p earlier => empty p fun _ => earlier
    rcases found : result.2 with _ | reclaimer
    · rw [found] at stepped
      have idle : ∀ b, result.2 = some (.sweeper b) → quota'.Sweeps b := by simp [found]
      split_ifs at stepped with last
      · obtain rfl := Option.some.inj stepped
        subst last
        have all : ∀ p : Fin 4, p < 3 ∨ p = 3 := by decide
        refine and_assoc.mp ⟨sound.polled polled rfl ⟨.inr rfl, ?_⟩ idle, calm⟩
        exact before.imp_right fun empty p _ => emptied_update polled found empty (all p)
      · obtain rfl := Option.some.inj stepped
        have next : ∀ pass p : Fin 4, pass ≠ 3 → p < pass + 1 → p < pass ∨ p = pass := by decide
        refine and_assoc.mp ⟨sound.polled polled rfl ⟨.inl running, ?_⟩ idle, calm⟩
        exact before.imp_right fun empty p earlier =>
          emptied_update polled found empty (next pass p last (earlier running))
    · rw [found] at stepped
      obtain rfl := Option.some.inj stepped
      refine and_assoc.mp ⟨sound.polled polled rfl ⟨running, Nat.le_refl _⟩ ?_, calm⟩
      intro b taken
      rw [Option.mem_unique found taken]
      exact ⟨_, rfl⟩
  · simp only [stage] at stepped
    cases stepped
  · simp only [stage] at stepped attentive
    have calm : ∀ b, ¬ quota.Sweeps b := by simp [Sweeps, stage]
    obtain rfl := Option.some.inj stepped
    exact ⟨⟨queues, sweepers, attentive.2, fun _ => List.mem_cons_self, fun _ => .inl running⟩,
      fun _ => .inl, calm⟩
  · simp only [stage] at stepped attentive
    have calm : ∀ b, ¬ quota.Sweeps b := by simp [Sweeps, stage]
    split_ifs at stepped with finished
    · obtain rfl := Option.some.inj stepped
      exact ⟨⟨queues, sweepers, .inl running⟩, fun _ => .inl, calm⟩
    · obtain rfl := Option.some.inj stepped
      refine ⟨⟨queues, sweepers, ?_⟩, fun _ => .inl, calm⟩
      exact ⟨attentive.1, attentive.2.1, fun later => absurd later finished⟩

theorem Sound.attended (sound : quota.Sound) (outside : quota.running = false) (calm : quota.woken = false)
    (overcommitted : quota.freeBytes < 0) :
    quota.sweeps ≠ [] ∨ ∀ pass i a reclaimer, ¬ (quota.reclaimers pass).Holds i a reclaimer := by
  obtain ⟨queues, sweepers, attentive⟩ := sound
  unfold Attentive at attentive
  simp only [outside, calm, Bool.false_eq_true, false_or, false_implies, forall_true_left]
    at attentive
  rcases stage : quota.stage with _ | racing | ⟨token, sweeper⟩ | token
  · rw [stage] at attentive
    omega
  · rw [stage] at attentive
    refine .inr fun pass i a reclaimer held => ?_
    have queued := (queues pass).queued held
    rw [(attentive.2 pass).1] at queued
    cases queued
  · rw [stage] at attentive
    exact attentive.1.elim
  · rw [stage] at attentive
    refine .inl fun none => ?_
    by_cases current : quota.reclamationCounter = token
    · have member := attentive.2.1 current
      rw [none] at member
      cases member
    · exact (attentive.2.2 current).elim

end Loop

end BasicMemoryQuota

namespace Allocator

/-- The allocator keeps free memory, and may register for it. -/
def Caches (allocator : Allocator) : Prop :=
  allocator.alive = true ∧ allocator.shutdown = false ∧ 0 < allocator.freeBytes

/-- The allocator remembers an index in its quota's first queue, and the entry there is
not its own any more. -/
def Stale (allocator : Allocator) (a : AllocatorId) (quota : BasicMemoryQuota) : Prop :=
  allocator.shutdown = false ∧ allocator.reclamationIndices 0 ≠ none ∧
    (quota.reclaimers 0).own (allocator.reclamationIndices 0) a = none

instance (allocator : Allocator) (a : AllocatorId) (quota : BasicMemoryQuota) :
    Decidable (allocator.Stale a quota) :=
  inferInstanceAs (Decidable (_ ∧ _ ∧ _))

end Allocator

/-- What an operation of an allocator on its quota leaves to be swept. -/
structure Kept (a : AllocatorId) (allocator : Allocator) (quota : BasicMemoryQuota)
    (after : Allocator × BasicMemoryQuota) : Prop where
  memoryQuota : after.1.memoryQuota = allocator.memoryQuota
  sound : after.2.Sound
  stage : after.2.stage = quota.stage
  others : ∀ b, b ≠ a → quota.Covers b → after.2.Covers b
  own : after.1.Caches → 0 < after.1.registering ∨ after.2.Covers a ∨
    allocator.Caches ∧ (0 < allocator.registering → 0 < after.1.registering) ∧
      (quota.Covers a → after.2.Covers a)

namespace Allocator

variable {allocator : Allocator} {quota : BasicMemoryQuota} {a : AllocatorId}

theorem replenishAmount_lt (allocator : Allocator) :
    allocator.replenishAmount < 9223372036854775808 := by
  have ordered : (kMinReplenishBytes : Int) ≤ kMaxReplenishBytes := by decide
  have most : (kMaxReplenishBytes : Int) = 1048576 := by decide
  have upper := (clamp_mem ordered (allocator.takenBytes / 3)).2
  unfold replenishAmount
  omega

variable {allocator' : Allocator}

theorem tryReserve_kept (sound : quota.Sound) {min max scaledSizeOverMin : Nat}
    (reserved : allocator.tryReserve min max scaledSizeOverMin = some allocator') :
    Kept a allocator quota (allocator', quota) := by
  obtain ⟨-, rfl⟩ := Option.ite_some_none_eq_some.mp reserved
  refine ⟨rfl, sound, rfl, fun _ _ covers => covers, ?_⟩
  rintro ⟨alive, opened, free⟩
  exact .inr (.inr ⟨⟨alive, opened, Nat.lt_of_lt_of_le free (Nat.sub_le _ _)⟩, id, id⟩)

theorem release_kept (sound : quota.Sound) {n : Nat}
    (released : allocator.release n = some allocator') :
    Kept a allocator quota (allocator', quota) := by
  obtain ⟨-, rfl⟩ := Option.ite_some_none_eq_some.mp released
  refine ⟨rfl, sound, rfl, fun _ _ covers => covers, ?_⟩
  rintro ⟨alive, opened, free⟩
  by_cases empty : allocator.freeBytes = 0
  · refine .inl ?_
    simp only [empty, ne_eq, not_true_eq_false, if_false]
    exact Nat.succ_pos _
  · refine .inr (.inr ⟨⟨alive, opened, Nat.pos_of_ne_zero empty⟩, fun waiting => ?_, id⟩)
    exact Nat.lt_of_lt_of_le waiting (Nat.le_add_right _ _)

theorem maybeRegisterReclaimerLocked_kept (sound : quota.Sound) (allocator : Allocator)
    (fresh : ¬ allocator.Stale a quota) :
    (allocator.maybeRegisterReclaimerLocked a quota).2.Sound ∧
      (allocator.maybeRegisterReclaimerLocked a quota).2.stage = quota.stage ∧
      (∀ b, b ≠ a → quota.Covers b → (allocator.maybeRegisterReclaimerLocked a quota).2.Covers b) ∧
      (allocator.shutdown = false → (allocator.maybeRegisterReclaimerLocked a quota).2.Covers a) ∧
      (allocator.maybeRegisterReclaimerLocked a quota).1.shutdown = allocator.shutdown := by
  unfold maybeRegisterReclaimerLocked
  split_ifs with registered closed
  · refine ⟨sound, rfl, fun _ _ covers => covers, fun opened => ?_, rfl⟩
    rcases owned : (quota.reclaimers 0).own (allocator.reclamationIndices 0) a with _ | ⟨i, entry⟩
    · exact absurd ⟨opened, registered, owned⟩ fresh
    · exact ⟨i, entry.reclaimer, holds_of_own owned⟩
  · refine ⟨sound, rfl, fun _ _ covers => covers, fun opened => ?_, rfl⟩
    rw [opened] at closed
    cases closed
  · exact ⟨sound.insertReclaimer (fun _ => rfl) _, rfl,
      fun b other covers => BasicMemoryQuota.insertReclaimer_covers sound.queues 0 other _ _ covers,
      fun _ => BasicMemoryQuota.insertReclaimer_covers_self sound.queues a _ _, rfl⟩

variable {after : Allocator × BasicMemoryQuota}

section

variable (sound : quota.Sound)
include sound

theorem maybeRegisterReclaimer_kept (fresh : ¬ allocator.Stale a quota)
    (registered : allocator.maybeRegisterReclaimer a quota = some after) :
    Kept a allocator quota after := by
  obtain ⟨-, rfl⟩ := Option.ite_some_none_eq_some.mp registered
  obtain ⟨sound', stage, others, own, closed⟩ := maybeRegisterReclaimerLocked_kept sound
    { allocator with registering := allocator.registering - 1 } fresh
  obtain ⟨same, -, -⟩ := maybeRegisterReclaimerLocked_accounts
    { allocator with registering := allocator.registering - 1 } a quota
  exact ⟨same.memoryQuota, sound', stage, others, fun caches =>
    .inr (.inl (own (closed.symm.trans caches.2.1)))⟩

theorem replenish_kept (high : quota.freeBytes < 9223372036854775808)
    (fresh : ¬ allocator.Stale a quota) (replenished : allocator.replenish a quota = some after) :
    Kept a allocator quota after := by
  obtain ⟨-, replenished⟩ := Option.ite_none_left_eq_some.mp replenished
  have small := allocator.replenishAmount_lt
  generalize allocator.replenishAmount = amount at replenished small
  dsimp only at replenished
  have reclaimers : (quota.take amount).reclaimers = quota.reclaimers := by
    unfold BasicMemoryQuota.take
    split_ifs <;> rfl
  have stage' : (quota.take amount).stage = quota.stage := by
    unfold BasicMemoryQuota.take
    split_ifs <;> rfl
  generalize uint64 (allocator.takenBytes + amount) = takenBytes at replenished
  generalize uint64 (allocator.freeBytes + amount) = freeBytes at replenished
  have fresh' : ¬ { allocator with takenBytes, freeBytes }.Stale a (quota.take amount) := by
    simp only [Stale, reclaimers]
    exact fresh
  obtain ⟨sound', stage, others, own, closed⟩ :=
    maybeRegisterReclaimerLocked_kept (sound.take small high) _ fresh'
  obtain ⟨same, -, -⟩ := maybeRegisterReclaimerLocked_accounts
    { allocator with takenBytes, freeBytes } a (quota.take amount)
  obtain rfl := Option.some.inj replenished
  refine ⟨same.memoryQuota, sound', stage.trans stage', fun b other covers => ?_, fun caches =>
    .inr (.inl (own (closed.symm.trans caches.2.1)))⟩
  refine others b other ?_
  rw [BasicMemoryQuota.Covers, reclaimers]
  exact covers

theorem postReclaimer_kept {pass : Fin 4} {tag : Nat}
    (posted : allocator.postReclaimer a quota pass tag = some after) :
    Kept a allocator quota after := by
  obtain ⟨allowed, posted⟩ := Option.ite_none_left_eq_some.mp posted
  have later : pass ≠ 0 := fun first => allowed (.inr first)
  obtain rfl := Option.some.inj posted
  refine ⟨rfl, sound.insertReclaimer (fun first => absurd first later) _, rfl,
    fun b other covers =>
      BasicMemoryQuota.insertReclaimer_covers sound.queues pass other _ _ covers, ?_⟩
  rintro ⟨alive, opened, free⟩
  refine .inr (.inr ⟨⟨alive, opened, free⟩, id, ?_⟩)
  rintro ⟨i, reclaimer, held⟩
  refine ⟨i, reclaimer, ?_⟩
  simp only [BasicMemoryQuota.insertReclaimer, Function.update_of_ne (Ne.symm later)]
  exact held

theorem close_kept (closed : allocator.close a quota = some after) :
    Kept a allocator quota after := by
  obtain ⟨-, rfl⟩ := Machine.guarded_taken closed
  obtain ⟨sound', others, -⟩ :=
    BasicMemoryQuota.cancelReclaimers_spec sound allocator.reclamationIndices a
  exact ⟨rfl, sound', rfl, others, fun caches => by cases caches.2.1⟩

theorem sweep_kept (fits : quota.freeBytes + allocator.freeBytes < 9223372036854775808) :
    Kept a allocator quota (allocator.sweep quota) ∧ (allocator.sweep quota).1.freeBytes = 0 := by
  unfold sweep
  split_ifs with empty
  · exact ⟨⟨rfl, sound, rfl, fun _ _ covers => covers,
      fun caches => absurd empty (Nat.ne_of_gt caches.2.2)⟩, empty⟩
  · exact ⟨⟨rfl, sound.returnBytes fits, rfl, fun _ _ covers => covers,
      fun caches => absurd caches.2.2 (Nat.lt_irrefl 0)⟩, rfl⟩

theorem destroy_kept {implSize : UInt64}
    (fits : quota.freeBytes + allocator.takenBytes < 9223372036854775808)
    (destroyed : allocator.destroy implSize quota = some after) : Kept a allocator quota after := by
  obtain ⟨-, rfl⟩ := Option.ite_some_none_eq_some.mp destroyed
  exact ⟨rfl, sound.returnBytes fits, rfl, fun _ _ covers => covers,
    fun caches => by cases caches.1⟩

end

end Allocator

namespace System

def Sweeps (system : System) (a : AllocatorId) : Prop :=
  ∃ (q : QuotaId) (quota : BasicMemoryQuota), system.quotas[q]? = some quota ∧ quota.Sweeps a

structure Reclaimable (system : System) : Prop where
  quotas : ∀ {q : QuotaId} {quota : BasicMemoryQuota}, system.quotas[q]? = some quota →
    quota.Sound
  covered : ∀ {a : AllocatorId} {allocator : Allocator} {quota : BasicMemoryQuota},
    system.allocators[a]? = some allocator → system.quotas[allocator.memoryQuota]? = some quota →
      allocator.Caches → 0 < allocator.registering ∨ system.Sweeps a ∨ quota.Covers a

/-- No counter comes near the end of its range. -/
structure Fits (implSize : UInt64) (system : System) : Prop where
  quotas : ∀ q, system.taken q < 9223372036854775808
  allocators : ∀ {a : AllocatorId} {allocator : Allocator}, system.allocators[a]? = some allocator →
    implSize.toNat + allocator.freeBytes + allocator.reserved < 18446744073709551616

/-- The allocator is about to register by a stale index. -/
def StaleIndex (system : System) (a : AllocatorId) : Prop :=
  ∃ allocator quota, system.allocators[a]? = some allocator ∧
    system.quotas[allocator.memoryQuota]? = some quota ∧ allocator.Stale a quota

/-- Where a step comes to `MaybeRegisterReclaimerLocked`, the index is not stale. -/
def Fresh (system : System) : Action → Prop
  | .replenish a => ¬ system.StaleIndex a
  | .maybeRegisterReclaimer a => ¬ system.StaleIndex a
  | _ => True

variable {implSize : UInt64} {system system' : System}

theorem Fits.room (fits : system.Fits implSize) (accounted : system.Accounted implSize)
    {a : AllocatorId} {allocator : Allocator} {quota : BasicMemoryQuota}
    (there : system.allocators[a]? = some allocator) (alive : allocator.alive = true)
    (bound : system.quotas[allocator.memoryQuota]? = some quota) :
    allocator.freeBytes ≤ allocator.takenBytes ∧ allocator.takenBytes < 9223372036854775808 ∧
      quota.freeBytes + allocator.takenBytes < 9223372036854775808 := by
  have account := accounted.allocators there alive
  have small := fits.allocators there
  have quotaAccounted := accounted.quotas bound
  have total := fits.quotas allocator.memoryQuota
  have exact_ := quotaAccounted.exact (system.taken_nonneg _) (Int.le_of_lt total)
  have size := quotaAccounted.size
  have part : allocator.takenFrom allocator.memoryQuota ≤ system.taken allocator.memoryQuota :=
    le_total (fun other _ => other.takenFrom_nonneg _) (List.mem_of_getElem? there)
  simp only [takenFrom, charge, alive, if_true] at part
  simp only [Allocator.Accounted, uint64] at account
  omega

section

variable (reclaimable : system.Reclaimable)
include reclaimable

theorem Reclaimable.update {a : AllocatorId}
    {change : Allocator → BasicMemoryQuota → Option (Allocator × BasicMemoryQuota)}
    (kept : ∀ {allocator quota after}, system.allocators[a]? = some allocator →
      allocator.alive = true → system.quotas[allocator.memoryQuota]? = some quota →
      quota.Sound → change allocator quota = some after → Kept a allocator quota after)
    (updated : system.update a change = some system') : system'.Reclaimable := by
  obtain ⟨allocator, quota, after, there, alive, bound, changed, rfl⟩ := update_eq_some updated
  obtain ⟨memoryQuota, sound, stage, others, own⟩ :=
    kept there alive bound (reclaimable.quotas bound) changed
  have inRange := (List.getElem?_eq_some_iff.mp bound).1
  have sweeps : ∀ b, system.Sweeps b →
      ({ quotas := system.quotas.set allocator.memoryQuota after.2
         allocators := system.allocators.set a after.1 } : System).Sweeps b := by
    rintro b ⟨q, quota', there', swept⟩
    by_cases same : allocator.memoryQuota = q
    · subst same
      obtain rfl := Option.mem_unique bound there'
      exact ⟨_, after.2, List.getElem?_set_self inRange, by rw [BasicMemoryQuota.Sweeps, stage]; exact swept⟩
    · exact ⟨q, quota', by rw [← there']; exact List.getElem?_set_ne same, swept⟩
  refine ⟨?_, ?_⟩
  · intro q quota' there'
    rcases set_cases there' with ⟨rfl, rfl⟩ | ⟨-, old⟩
    · exact sound
    · exact reclaimable.quotas old
  · intro b allocator' quota' there' bound' caches
    rcases set_cases there' with ⟨rfl, rfl⟩ | ⟨different, old⟩
    · rw [memoryQuota, List.getElem?_set_self inRange] at bound'
      obtain rfl := Option.some.inj bound'
      rcases own caches with registering | covers | ⟨before, registering, covers⟩
      · exact .inl registering
      · exact .inr (.inr covers)
      · rcases reclaimable.covered there bound before with waiting | swept | covered
        · exact .inl (registering waiting)
        · exact .inr (.inl (sweeps _ swept))
        · exact .inr (.inr (covers covered))
    · rcases set_cases bound' with ⟨same, rfl⟩ | ⟨-, oldQuota⟩
      · rw [same] at bound
        rcases reclaimable.covered old bound caches with waiting | swept | covered
        · exact .inl waiting
        · exact .inr (.inl (sweeps _ swept))
        · exact .inr (.inr (others b (Ne.symm different) covered))
      · rcases reclaimable.covered old oldQuota caches with waiting | swept | covered
        · exact .inl waiting
        · exact .inr (.inl (sweeps _ swept))
        · exact .inr (.inr covered)

theorem Reclaimable.updateQuota {q : QuotaId} {change : BasicMemoryQuota → Option BasicMemoryQuota}
    (kept : ∀ {quota quota'}, system.quotas[q]? = some quota → quota.Sound →
      change quota = some quota' → quota'.Sound ∧
        ∀ {b : AllocatorId} {allocator : Allocator}, system.allocators[b]? = some allocator →
          allocator.Caches → (quota.Covers b → quota'.Covers b ∨ quota'.Sweeps b) ∧
            (quota.Sweeps b → quota'.Sweeps b))
    (updated : system.updateQuota q change = some system') : system'.Reclaimable := by
  obtain ⟨quota, quota', there, changed, rfl⟩ := updateQuota_eq_some updated
  obtain ⟨sound, covers⟩ := kept there (reclaimable.quotas there) changed
  have inRange := (List.getElem?_eq_some_iff.mp there).1
  have here : (system.quotas.set q quota')[q]? = some quota' := List.getElem?_set_self inRange
  refine ⟨?_, ?_⟩
  · intro r quota'' there'
    rcases set_cases there' with ⟨rfl, rfl⟩ | ⟨-, old⟩
    · exact sound
    · exact reclaimable.quotas old
  · intro b allocator quota'' there' bound caches
    have sweeps : system.Sweeps b →
        ({ system with quotas := system.quotas.set q quota' } : System).Sweeps b := by
      rintro ⟨r, quotaR, thereR, swept⟩
      by_cases same : q = r
      · subst same
        obtain rfl := Option.mem_unique there thereR
        exact ⟨q, quota', here, (covers there' caches).2 swept⟩
      · exact ⟨r, quotaR, by rw [← thereR]; exact List.getElem?_set_ne same, swept⟩
    rcases set_cases bound with ⟨same, rfl⟩ | ⟨-, oldQuota⟩
    · subst same
      rcases reclaimable.covered there' there caches with waiting | swept | covered
      · exact .inl waiting
      · exact .inr (.inl (sweeps swept))
      · rcases (covers there' caches).1 covered with still | taken
        · exact .inr (.inr still)
        · exact .inr (.inl ⟨_, _, here, taken⟩)
    · rcases reclaimable.covered there' oldQuota caches with waiting | swept | covered
      · exact .inl waiting
      · exact .inr (.inl (sweeps swept))
      · exact .inr (.inr covered)

theorem Reclaimable.newQuota (accounted : system.Accounted implSize) :
    ({ system with quotas := system.quotas ++ [{}] } : System).Reclaimable := by
  have kept : ∀ {q : QuotaId} {quota : BasicMemoryQuota}, system.quotas[q]? = some quota →
      (system.quotas ++ [({} : BasicMemoryQuota)])[q]? = some quota := fun there => by
    rw [List.getElem?_append_left (List.getElem?_eq_some_iff.mp there).1]
    exact there
  refine ⟨?_, ?_⟩
  · intro q quota there
    rcases append_cases there with old | ⟨-, rfl⟩
    · exact reclaimable.quotas old
    · exact BasicMemoryQuota.sound_new
  · intro a allocator quota there bound caches
    rcases append_cases bound with old | ⟨outside, -⟩
    · rcases reclaimable.covered there old caches with waiting | ⟨q, quota', at_, swept⟩ | covered
      · exact .inl waiting
      · exact .inr (.inl ⟨q, quota', kept at_, swept⟩)
      · exact .inr (.inr covered)
    · exact absurd outside (Nat.ne_of_lt (accounted.bound there))

theorem Reclaimable.newAllocator (taken : Nat) (q : QuotaId) : ({ system with
        allocators := system.allocators ++
          [{ memoryQuota := q, takenBytes := taken }] } : System).Reclaimable := by
  refine ⟨reclaimable.quotas, ?_⟩
  intro a allocator quota there bound caches
  rcases append_cases there with old | ⟨-, rfl⟩
  · exact reclaimable.covered old bound caches
  · exact absurd caches.2.2 (Nat.lt_irrefl 0)

section

variable (accounted : system.Accounted implSize) (fits : system.Fits implSize)
include accounted fits

theorem Reclaimable.rebind {a : AllocatorId} {q : QuotaId}
    (rebound : system.rebind a q = some system') : system'.Reclaimable := by
  rcases rebind_eq_some rebound with rfl |
    ⟨allocator, old, new, after, there, alive, different, oldThere, newThere, changed, rfl⟩
  · exact reclaimable
  obtain ⟨less, small, room⟩ := fits.room accounted there alive oldThere
  obtain ⟨-, changed⟩ := Option.ite_none_left_eq_some.mp changed
  dsimp only at changed
  have moved : uint64 (allocator.takenBytes - allocator.freeBytes) < 9223372036854775808 := by
    simp only [uint64]
    omega
  generalize uint64 (allocator.takenBytes - allocator.freeBytes) = takenBytes at changed moved
  obtain ⟨oldSound, oldCovers, fetched⟩ := BasicMemoryQuota.cancelReclaimers_spec
    ((reclaimable.quotas oldThere).returnBytes room) allocator.reclamationIndices a
  have oldStage : ((old.returnBytes allocator.takenBytes).cancelReclaimers
      allocator.reclamationIndices a).1.stage = old.stage := rfl
  generalize (old.returnBytes allocator.takenBytes).cancelReclaimers
    allocator.reclamationIndices a = cancelled at changed oldSound oldCovers fetched oldStage
  have first : ∀ reclaimer, (0, reclaimer) ∈ activeReclaimers cancelled.2 →
      reclaimer = .sweeper a := by
    intro reclaimer member
    obtain ⟨pass, -, found⟩ := List.mem_filterMap.mp member
    obtain ⟨reclaimer', fetched', pair⟩ := Option.map_eq_some_iff.mp found
    obtain ⟨rfl, rfl⟩ := Prod.mk.inj pair
    exact fetched _ fetched'
  have taken : (new.take takenBytes).reclaimers = new.reclaimers ∧
      (new.take takenBytes).stage = new.stage := by
    unfold BasicMemoryQuota.take
    split_ifs <;> exact ⟨rfl, rfl⟩
  obtain ⟨newSound, newStage, newCovers⟩ := BasicMemoryQuota.insertReclaimers_spec first
    ((reclaimable.quotas newThere).take moved (accounted.quotas newThere).high)
    allocator.reclamationIndices
  generalize (new.take takenBytes).insertReclaimers a (activeReclaimers cancelled.2)
    allocator.reclamationIndices = inserted at changed newSound newStage newCovers
  obtain rfl := Option.some.inj changed
  -- Each quota keeps its stage and what it holds for other allocators.
  have back : ∀ {r : QuotaId} {quota' : BasicMemoryQuota},
      ((system.quotas.set allocator.memoryQuota cancelled.1).set q inserted.1)[r]? = some quota' →
      ∃ quota, system.quotas[r]? = some quota ∧ quota'.Sound ∧ quota'.stage = quota.stage ∧
        ∀ b, b ≠ a → quota.Covers b → quota'.Covers b := by
    intro r quota' there'
    rcases set_cases there' with ⟨rfl, rfl⟩ | ⟨-, there'⟩
    · refine ⟨new, newThere, newSound, newStage.trans taken.2, fun b other covers => ?_⟩
      refine newCovers b other ?_
      rw [BasicMemoryQuota.Covers, taken.1]
      exact covers
    · rcases set_cases there' with ⟨rfl, rfl⟩ | ⟨-, there'⟩
      · exact ⟨old, oldThere, oldSound, oldStage, oldCovers⟩
      · exact ⟨quota', there', reclaimable.quotas there', rfl, fun _ _ covers => covers⟩
  refine ⟨fun there' => (back there').choose_spec.2.1, ?_⟩
  intro b allocator' quota' there' bound' caches
  rcases set_cases there' with ⟨rfl, rfl⟩ | ⟨different', other⟩
  · exact absurd caches.2.2 (Nat.lt_irrefl 0)
  · obtain ⟨quota, bound, -, -, covers⟩ := back bound'
    rcases reclaimable.covered other bound caches with waiting | ⟨r, quotaR, at_, swept⟩ | covered
    · exact .inl waiting
    · have inRange := (List.getElem?_eq_some_iff.mp at_).1
      obtain ⟨quotaR', at'⟩ : ∃ quotaR', ((system.quotas.set allocator.memoryQuota cancelled.1).set q
          inserted.1)[r]? = some quotaR' :=
        ⟨_, List.getElem?_eq_getElem (by simpa using inRange)⟩
      obtain ⟨quotaR'', at'', -, stage, -⟩ := back at'
      obtain rfl := Option.mem_unique at_ at''
      exact .inr (.inl ⟨r, quotaR', at', by rw [BasicMemoryQuota.Sweeps, stage]; exact swept⟩)
    · exact .inr (.inr (covers b (Ne.symm different') covered))

theorem Reclaimable.loopStep {q : QuotaId} (stepped : system.loopStep q = some system') :
    system'.Reclaimable := by
  rcases loopStep_eq_some stepped with ⟨running, within⟩ |
    ⟨quota, token, self, swept, there, stage, updated, finished⟩
  · refine reclaimable.updateQuota (fun at_ sound polled => ?_) within
    obtain ⟨sound', covers, calm⟩ := sound.loopStep (running at_) polled
    exact ⟨sound', fun {b _} _ _ => ⟨covers b, fun swept => absurd swept (calm b)⟩⟩
  · have sweptReclaimable : swept.Reclaimable := by
      refine reclaimable.update (fun there alive bound sound done => ?_) updated
      obtain ⟨less, -, room⟩ := fits.room accounted there alive bound
      obtain rfl := Option.some.inj done
      exact (sweep_kept sound (by omega)).1
    obtain ⟨allocator, bound, after, self_, alive, boundThere, done, rfl⟩ := update_eq_some updated
    obtain rfl := Option.some.inj done
    obtain ⟨less, -, room⟩ := fits.room accounted self_ alive boundThere
    have fits' : bound.freeBytes + allocator.freeBytes < 9223372036854775808 := by omega
    obtain ⟨kept, empty⟩ : Kept self allocator bound (allocator.sweep bound) ∧ _ :=
      sweep_kept (reclaimable.quotas boundThere) fits'
    refine sweptReclaimable.updateQuota (fun {quota' _} at_ sound done => ?_) finished
    obtain rfl := Option.some.inj done
    have stage' : quota'.stage = .sweeping token (.sweeper self) := by
      rcases set_cases at_ with ⟨same, rfl⟩ | ⟨-, old⟩
      · rw [same, there] at boundThere
        rw [kept.stage, ← Option.some.inj boundThere, stage]
      · rw [← Option.mem_unique there old, stage]
    refine ⟨sound.swept stage', fun {b other} otherThere caches => ⟨fun covers => .inl ?_, ?_⟩⟩
    · unfold BasicMemoryQuota.finishReclamation
      split_ifs <;> exact covers
    · rintro ⟨token', same⟩
      rw [stage'] at same
      obtain ⟨-, same⟩ := Stage.sweeping.inj same
      obtain rfl := Reclaimer.sweeper.inj same
      rcases set_cases otherThere with ⟨-, rfl⟩ | ⟨different, -⟩
      · rw [Allocator.Caches, empty] at caches
        exact absurd caches.2.2 (Nat.lt_irrefl 0)
      · exact absurd rfl different

theorem Reclaimable.setSize {q : QuotaId} {newSize : Nat} (small : newSize < 9223372036854775808)
    (resized : system.updateQuota q (fun quota => some (quota.setSize newSize)) = some system') :
    system'.Reclaimable := by
  refine reclaimable.updateQuota (fun {quota _} there sound done => ?_) resized
  obtain rfl := Option.some.inj done
  have quotaAccounted := accounted.quotas there
  have exact_ := quotaAccounted.exact (system.taken_nonneg q) (Int.le_of_lt (fits.quotas q))
  have nonneg := system.taken_nonneg q
  have size := quotaAccounted.size
  have same : (quota.setSize newSize).reclaimers = quota.reclaimers ∧
      (quota.setSize newSize).stage = quota.stage := by
    unfold BasicMemoryQuota.setSize BasicMemoryQuota.take
    split_ifs <;> exact ⟨rfl, rfl⟩
  refine ⟨?_, fun {b _} _ _ => ⟨fun covers => .inl ?_, fun sweeps => ?_⟩⟩
  · have resizedSound : ({ quota with quotaSize := newSize } : BasicMemoryQuota).Sound :=
      sound.bytes rfl rfl rfl rfl rfl id .inr
    unfold BasicMemoryQuota.setSize
    split_ifs with grows
    · exact resizedSound.returnBytes (by dsimp only; omega)
    · exact resizedSound.take (by omega) quotaAccounted.high
  · rw [BasicMemoryQuota.Covers, same.1]
    exact covers
  · rw [BasicMemoryQuota.Sweeps, same.2]
    exact sweeps

end

theorem Reclaimable.step (accounted : system.Accounted implSize)
    (small : implSize.toNat < 9223372036854775808) (fits : system.Fits implSize) {action : Action}
    (fresh : system.Fresh action) (taken : system.step implSize action = some system') :
    system'.Reclaimable := by
  cases action with
  | newQuota =>
    obtain rfl := Option.some.inj taken
    exact reclaimable.newQuota accounted
  | setSize =>
    obtain ⟨bound, resized⟩ := Option.ite_none_right_eq_some.mp taken
    exact reclaimable.setSize accounted fits bound resized
  | newAllocator =>
    obtain ⟨middle, updated, rfl⟩ := Option.map_eq_some_iff.mp taken
    refine Reclaimable.newAllocator ?_ _ _
    refine reclaimable.updateQuota (fun {quota _} there sound done => ?_) updated
    obtain rfl := Option.some.inj done
    have same : (quota.take implSize.toNat).reclaimers = quota.reclaimers ∧
        (quota.take implSize.toNat).stage = quota.stage := by
      unfold BasicMemoryQuota.take
      split_ifs <;> exact ⟨rfl, rfl⟩
    refine ⟨sound.take small (accounted.quotas there).high,
      fun {b _} _ _ => ⟨fun covers => .inl ?_, fun sweeps => ?_⟩⟩
    · rw [BasicMemoryQuota.Covers, same.1]
      exact covers
    · rw [BasicMemoryQuota.Sweeps, same.2]
      exact sweeps
  | tryReserve =>
    refine reclaimable.update (fun _ _ _ sound changed => ?_) taken
    obtain ⟨allocator', reserved, rfl⟩ := Option.map_eq_some_iff.mp changed
    exact tryReserve_kept sound reserved
  | replenish =>
    refine reclaimable.update (fun there _ bound sound changed => ?_) taken
    exact replenish_kept sound (accounted.quotas bound).high
      (fun stale => fresh ⟨_, _, there, bound, stale⟩) changed
  | release =>
    refine reclaimable.update (fun _ _ _ sound changed => ?_) taken
    obtain ⟨allocator', released, rfl⟩ := Option.map_eq_some_iff.mp changed
    exact release_kept sound released
  | maybeRegisterReclaimer =>
    refine reclaimable.update (fun there _ bound sound changed => ?_) taken
    exact maybeRegisterReclaimer_kept sound (fun stale => fresh ⟨_, _, there, bound, stale⟩) changed
  | rebind => exact reclaimable.rebind accounted fits taken
  | postReclaimer =>
    exact reclaimable.update (fun _ _ _ sound changed =>
      postReclaimer_kept sound changed) taken
  | shutdown =>
    exact reclaimable.update (fun _ _ _ sound changed =>
      close_kept sound changed) taken
  | destroy =>
    obtain ⟨-, taken⟩ := Option.ite_none_left_eq_some.mp taken
    refine reclaimable.update (fun there alive bound sound changed => ?_) taken
    obtain ⟨-, destroyed⟩ := Option.ite_none_right_eq_some.mp changed
    exact destroy_kept sound (fits.room accounted there alive bound).2.2 destroyed
  | wakeup =>
    refine reclaimable.updateQuota (fun _ sound changed => ?_) taken
    obtain ⟨⟨-, outside⟩, rfl⟩ := Option.ite_some_none_eq_some.mp changed
    exact ⟨sound.wakeup outside, fun _ _ => ⟨.inl, id⟩⟩
  | loopStep => exact reclaimable.loopStep accounted fits taken
  | finishReclamation q token =>
    refine reclaimable.updateQuota (fun {quota _} _ sound changed => ?_) taken
    obtain ⟨-, rfl⟩ := Option.ite_some_none_eq_some.mp changed
    refine ⟨sound.finishReclamation token, fun {b _} _ _ => ?_⟩
    unfold BasicMemoryQuota.finishReclamation
    split_ifs <;> exact ⟨.inl, id⟩

end

/-- An allocator that keeps memory, with no `Release` and no sweep of its own under way,
has an entry in the first queue of its quota. -/
def CacheQueued (system : System) : Prop :=
  ∀ (a : AllocatorId) (allocator : Allocator), system.allocators[a]? = some allocator →
    allocator.Caches → allocator.registering = 0 → ¬ system.Sweeps a →
      ∃ quota, system.quotas[allocator.memoryQuota]? = some quota ∧ quota.Covers a

/-- An overcommitted quota whose loop rests waits for a sweep, or has nothing to call. -/
def OvercommitAttended (system : System) : Prop :=
  ∀ (q : QuotaId) (quota : BasicMemoryQuota), system.quotas[q]? = some quota →
    quota.running = false → quota.woken = false → quota.freeBytes < 0 →
      quota.sweeps ≠ [] ∨
        ∀ pass i a reclaimer, ¬ (quota.reclaimers pass).Holds i a reclaimer

theorem reclaimable_empty : ({} : System).Reclaimable :=
  ⟨by simp, by simp⟩

/-- In a run where no allocator registers by a stale index and no counter overflows,
what is kept free is always queued to be swept, and no overcommitted quota rests while
it has a reclaimer to call. -/
theorem cached_memory_reclaimable (small : implSize.toNat < 9223372036854775808)
    {actions : List Action}
    (run : Machine.Run (step implSize)
      (fun system action => system.Fits implSize ∧ system.Fresh action) {} actions system) :
    system.CacheQueued ∧ system.OvercommitAttended := by
  have preserved : ∀ {system action system'},
      Accounted implSize system ∧ Reclaimable system →
        Fits implSize system ∧ Fresh system action →
          system.step implSize action = some system' →
            system'.Accounted implSize ∧ system'.Reclaimable :=
    fun invariant condition taken =>
      ⟨invariant.1.step taken, invariant.2.step invariant.1 small condition.1 condition.2 taken⟩
  obtain ⟨accounted, reclaimable⟩ := run.invariant preserved ⟨accounted_empty, reclaimable_empty⟩
  refine ⟨?_, ?_⟩
  · intro a allocator there caches idle calm
    have bound := List.getElem?_eq_getElem (accounted.bound there)
    refine ⟨_, bound, ?_⟩
    rcases reclaimable.covered there bound caches with waiting | swept | covered
    · omega
    · exact absurd swept calm
    · exact covered
  · intro q quota there outside resting overcommitted
    exact (reclaimable.quotas there).attended outside resting overcommitted

/-- An allocator that has filled its cache once. -/
theorem cached_memory_reclaimable_once :
    ∃ system,
      Machine.Run (step 136) (fun system action => system.Fits 136 ∧ system.Fresh action) {}
        [.newQuota, .newAllocator 0, .replenish 0] system ∧
      system.allocators.map Allocator.freeBytes = [4096] ∧
      system.CacheQueued ∧ system.OvercommitAttended := by
  have none {system : System} (empty : system.allocators = []) : system.Fits 136 :=
    ⟨fun q => by rw [taken, empty, Ledger.total_nil]; decide, by simp [empty]⟩
  have one {system : System}
      (single : system.allocators = [{ memoryQuota := 0, takenBytes := 136 }]) :
      system.Fits 136 := by
    refine ⟨fun q => ?_, fun {a allocator} there => ?_⟩
    · simp only [taken, single, Ledger.total, List.map_cons, List.map_nil, List.sum_cons,
        List.sum_nil, Allocator.takenFrom, Allocator.charge]
      split_ifs <;> decide
    · rw [single] at there
      obtain rfl := List.mem_singleton.mp (List.mem_of_getElem? there)
      decide
  obtain ⟨system, run, cached⟩ : ∃ system,
      Machine.Run (step 136) (fun system action => system.Fits 136 ∧ system.Fresh action) {}
        [.newQuota, .newAllocator 0, .replenish 0] system ∧
      system.allocators.map Allocator.freeBytes = [4096] := by
    refine ⟨_, .cons ⟨none rfl, trivial⟩ rfl (.cons ⟨none rfl, trivial⟩ rfl
      (.cons ⟨one rfl, ?_⟩ rfl (.nil _))), by decide⟩
    rintro ⟨allocator, quota, there, -, -, stale, -⟩
    obtain rfl := Option.some.inj there
    exact stale rfl
  exact ⟨system, run, cached, cached_memory_reclaimable (by decide) run⟩

/-- After its first sweep an allocator fills its cache again, and is not queued. -/
theorem cached_memory_not_queued :
    ¬ ∀ (actions : List Action) (system : System),
      Machine.Reach (step 136) {} actions system →
        system.CacheQueued ∧ system.OvercommitAttended := by
  intro always
  obtain ⟨system, run, seen⟩ := Machine.exists_reach (step 136) {}
    [.newQuota, .newAllocator 0, .replenish 0, .setSize 0 1000, .wakeup 0, .loopStep 0,
      .loopStep 0, .loopStep 0, .loopStep 0, .loopStep 0, .replenish 0]
    (fun system =>
      (system.allocators[0]?.map fun allocator =>
        (allocator.alive, allocator.shutdown, allocator.freeBytes, allocator.registering),
      system.quotas.all fun quota =>
        decide (quota.stage = .waitForOvercommit) &&
          (quota.reclaimers 0).entries.all fun entry => entry.allocator == none))
    (some (true, false, 4096, 0), true) (by decide)
  obtain ⟨first, second⟩ := Prod.mk.inj seen
  obtain ⟨allocator, there, fields⟩ := Option.map_eq_some_iff.mp first
  simp only [Prod.mk.injEq] at fields
  obtain ⟨alive, opened, free, idle⟩ := fields
  have quotas : ∀ {q : QuotaId} {quota : BasicMemoryQuota}, system.quotas[q]? = some quota →
      quota.stage = .waitForOvercommit ∧
        ∀ entry ∈ (quota.reclaimers 0).entries, entry.allocator = none := by
    intro q quota there'
    have checked := List.all_eq_true.mp second quota (List.mem_of_getElem? there')
    simpa using checked
  have calm : ¬ system.Sweeps 0 := by
    rintro ⟨q, quota, there', token, stage⟩
    rw [(quotas there').1] at stage
    cases stage
  obtain ⟨quota, bound, i, reclaimer, held⟩ := (always _ system run).1 0 allocator there
    ⟨alive, opened, by rw [free]; decide⟩ idle calm
  cases (quotas bound).2 _ (List.mem_of_getElem? held)

end System

end GrpcCore.Memory
