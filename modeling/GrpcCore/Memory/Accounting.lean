import GrpcCore.Memory.Quota

/-!
# Accounts of memory quotas

What a quota has free and what its allocators have taken add up to its size, and what
an allocator has taken is its own size, what it has free and what its users hold. The
sums are those of the source, in machine words.
-/

namespace GrpcCore.Memory

open MachineInt Allocator Ledger

namespace Allocator

def charge (allocator : Allocator) : Int :=
  if allocator.alive then allocator.takenBytes else 0

def takenFrom (q : QuotaId) (allocator : Allocator) : Int :=
  if allocator.memoryQuota = q then allocator.charge else 0

/-- The account of an allocator. -/
def Accounted (implSize : UInt64) (allocator : Allocator) : Prop :=
  uint64 (implSize.toNat + allocator.freeBytes + allocator.reserved) = allocator.takenBytes

theorem charge_nonneg (allocator : Allocator) : 0 ≤ allocator.charge := by
  unfold charge
  split_ifs <;> omega

theorem takenFrom_nonneg (q : QuotaId) (allocator : Allocator) :
    0 ≤ allocator.takenFrom q := by
  unfold takenFrom
  split_ifs
  · exact allocator.charge_nonneg
  · exact Int.le_refl 0

end Allocator

namespace System

/-- What all allocators bound to a quota have taken from it. -/
def taken (system : System) (q : QuotaId) : Int :=
  Ledger.total (Allocator.takenFrom q) system.allocators

theorem taken_nonneg (system : System) (q : QuotaId) : 0 ≤ system.taken q :=
  total_nonneg fun allocator _ => allocator.takenFrom_nonneg q

end System

structure BasicMemoryQuota.Accounted (quota : BasicMemoryQuota) (taken : Int) : Prop where
  size : quota.quotaSize < 9223372036854775808
  low : -9223372036854775808 ≤ quota.freeBytes
  high : quota.freeBytes < 9223372036854775808
  sum : uint64 (quota.freeBytes + taken) = quota.quotaSize

structure System.Accounted (implSize : UInt64) (system : System) : Prop where
  quotas : ∀ {q : QuotaId} {quota : BasicMemoryQuota}, system.quotas[q]? = some quota →
    quota.Accounted (system.taken q)
  allocators : ∀ {a : AllocatorId} {allocator : Allocator},
    system.allocators[a]? = some allocator → allocator.alive = true →
      allocator.Accounted implSize
  bound : ∀ {a : AllocatorId} {allocator : Allocator}, system.allocators[a]? = some allocator →
    allocator.memoryQuota < system.quotas.length

variable {quota' : BasicMemoryQuota}

namespace BasicMemoryQuota

variable {quota : BasicMemoryQuota}

theorem Accounted.exact {taken : Int} (accounted : quota.Accounted taken) (nonneg : 0 ≤ taken)
    (fits : taken ≤ 9223372036854775808) : quota.freeBytes + taken = quota.quotaSize := by
  obtain ⟨size, low, high, sum⟩ := accounted
  simp only [uint64] at sum
  omega

theorem Accounted.change {quota quota' : BasicMemoryQuota} {taken taken' change : Int}
    (accounted : quota.Accounted taken) (size : quota'.quotaSize = quota.quotaSize)
    (free : quota'.freeBytes = int64 (quota.freeBytes + change)) (sum : taken' = taken - change) :
    quota'.Accounted taken' := by
  have range := int64_mem (quota.freeBytes + change)
  have word := int64_emod (quota.freeBytes + change)
  rw [← free] at range word
  refine ⟨size ▸ accounted.size, range.1, range.2, ?_⟩
  have before := accounted.sum
  simp only [uint64] at before ⊢
  omega

theorem Accounted.unchanged {taken : Int} (accounted : quota.Accounted taken)
    (size : quota'.quotaSize = quota.quotaSize) (free : quota'.freeBytes = quota.freeBytes) :
    quota'.Accounted taken :=
  ⟨size ▸ accounted.size, free ▸ accounted.low, free ▸ accounted.high,
    by rw [size, free]; exact accounted.sum⟩

theorem Accounted.int64_freeBytes {taken : Int} (accounted : quota.Accounted taken) :
    int64 quota.freeBytes = quota.freeBytes :=
  int64_eq_self accounted.low accounted.high

end BasicMemoryQuota

namespace BasicMemoryQuota

theorem take_quotaSize (quota : BasicMemoryQuota) (amount : Nat) :
    (quota.take amount).quotaSize = quota.quotaSize := by
  unfold take
  split_ifs <;> rfl

theorem Accounted.take_freeBytes {quota : BasicMemoryQuota} {taken : Int}
    (accounted : quota.Accounted taken) (amount : Nat) :
    (quota.take amount).freeBytes = int64 (quota.freeBytes - amount) := by
  unfold take
  split_ifs with nothing
  · rw [nothing, Int.natCast_zero, Int.sub_zero, accounted.int64_freeBytes]
  · rfl

theorem Accounted.setSize {quota : BasicMemoryQuota} {taken : Int}
    (accounted : quota.Accounted taken) {newSize : Nat} (small : newSize < 9223372036854775808) :
    (quota.setSize newSize).Accounted taken := by
  obtain ⟨size, low, high, sum⟩ := accounted
  have resized : (quota.setSize newSize).quotaSize = newSize ∧
      (quota.setSize newSize).freeBytes =
        int64 (quota.freeBytes + (newSize - quota.quotaSize)) := by
    unfold BasicMemoryQuota.setSize
    split_ifs with grows
    · refine ⟨rfl, ?_⟩
      simp only [returnBytes]
      congr 1
      omega
    · refine ⟨take_quotaSize _ _, ?_⟩
      unfold BasicMemoryQuota.take
      split_ifs with nothing
      · have same : (newSize : Int) - quota.quotaSize = 0 := by omega
        rw [same, Int.add_zero, int64_eq_self low high]
      · simp only
        congr 1
        omega
  have range := int64_mem (quota.freeBytes + (newSize - quota.quotaSize))
  have word := int64_emod (quota.freeBytes + (newSize - quota.quotaSize))
  obtain ⟨size', free⟩ := resized
  rw [← free] at range word
  refine ⟨size'.symm ▸ small, range.1, range.2, ?_⟩
  simp only [uint64] at sum ⊢
  omega

theorem insertReclaimers_accounts (quota : BasicMemoryQuota) (allocator : AllocatorId)
    (reclaimers : List (Fin 4 × Reclaimer)) (indices : Fin 4 → Option Nat) :
    (quota.insertReclaimers allocator reclaimers indices).1.quotaSize = quota.quotaSize ∧
      (quota.insertReclaimers allocator reclaimers indices).1.freeBytes = quota.freeBytes := by
  induction reclaimers generalizing quota indices with
  | nil => exact ⟨rfl, rfl⟩
  | cons first rest ih => exact ih _ _

theorem loopStep_accounts {quota : BasicMemoryQuota} (stepped : quota.loopStep = some quota') :
    quota'.quotaSize = quota.quotaSize ∧ quota'.freeBytes = quota.freeBytes := by
  unfold loopStep at stepped
  split at stepped
  · split_ifs at stepped <;> cases stepped <;> exact ⟨rfl, rfl⟩
  · dsimp only at stepped
    split at stepped
    · cases stepped
      exact ⟨rfl, rfl⟩
    · split_ifs at stepped <;> cases stepped <;> exact ⟨rfl, rfl⟩
  · cases stepped
    exact ⟨rfl, rfl⟩
  · cases stepped
  · split_ifs at stepped <;> cases stepped <;> exact ⟨rfl, rfl⟩

theorem finishReclamation_accounts (quota : BasicMemoryQuota) (token : Nat) :
    (quota.finishReclamation token).quotaSize = quota.quotaSize ∧
      (quota.finishReclamation token).freeBytes = quota.freeBytes := by
  unfold finishReclamation
  split_ifs <;> exact ⟨rfl, rfl⟩

end BasicMemoryQuota

/-- What passes between an allocator and its quota: the allocator's account stays
right, and the quota gets what the allocator gives up. -/
structure Transfer (implSize : UInt64) (allocator : Allocator) (quota : BasicMemoryQuota)
    (after : Allocator × BasicMemoryQuota) : Prop where
  bound : after.1.memoryQuota = allocator.memoryQuota
  size : after.2.quotaSize = quota.quotaSize
  free : after.2.freeBytes = int64 (quota.freeBytes + (allocator.charge - after.1.charge))
  account : after.1.alive = true → after.1.Accounted implSize

namespace Allocator

variable {implSize : UInt64} {allocator : Allocator} {quota : BasicMemoryQuota} {taken : Int}

variable {after : Allocator × BasicMemoryQuota}

theorem transfer_of_same (accounted : quota.Accounted taken)
    (bound : after.1.memoryQuota = allocator.memoryQuota) (alive : after.1.alive = allocator.alive)
    (same : after.1.takenBytes = allocator.takenBytes) (size : after.2.quotaSize = quota.quotaSize)
    (free : after.2.freeBytes = quota.freeBytes) (account : after.1.Accounted implSize) :
    Transfer implSize allocator quota after := by
  refine ⟨bound, size, ?_, fun _ => account⟩
  have charge : after.1.charge = allocator.charge := by simp only [Allocator.charge, alive, same]
  rw [charge, Int.sub_self, Int.add_zero, accounted.int64_freeBytes, free]

variable {allocator' : Allocator}

theorem tryReserve_transfer (accounted : quota.Accounted taken)
    (account : allocator.Accounted implSize) {min max scaledSizeOverMin : Nat}
    (reserved : allocator.tryReserve min max scaledSizeOverMin = some allocator') :
    Transfer implSize allocator quota (allocator', quota) := by
  obtain ⟨⟨_, _, _, fits⟩, rfl⟩ := Option.ite_some_none_eq_some.mp reserved
  refine transfer_of_same accounted rfl rfl rfl rfl rfl ?_
  simp only [Accounted, uint64] at account ⊢
  omega

theorem release_transfer (accounted : quota.Accounted taken)
    (account : allocator.Accounted implSize) {n : Nat}
    (released : allocator.release n = some allocator') :
    Transfer implSize allocator quota (allocator', quota) := by
  obtain ⟨held, rfl⟩ := Option.ite_some_none_eq_some.mp released
  refine transfer_of_same accounted rfl rfl rfl rfl rfl ?_
  simp only [Accounted, uint64] at account ⊢
  omega

structure SameAccount (allocator allocator' : Allocator) : Prop where
  memoryQuota : allocator'.memoryQuota = allocator.memoryQuota
  freeBytes : allocator'.freeBytes = allocator.freeBytes
  takenBytes : allocator'.takenBytes = allocator.takenBytes
  reserved : allocator'.reserved = allocator.reserved
  alive : allocator'.alive = allocator.alive

theorem SameAccount.accounted (same : SameAccount allocator allocator')
    (account : allocator.Accounted implSize) : allocator'.Accounted implSize := by
  rw [Accounted, same.freeBytes, same.takenBytes, same.reserved]
  exact account

theorem maybeRegisterReclaimerLocked_accounts (allocator : Allocator) (self : AllocatorId)
    (quota : BasicMemoryQuota) :
    SameAccount allocator (allocator.maybeRegisterReclaimerLocked self quota).1 ∧
      (allocator.maybeRegisterReclaimerLocked self quota).2.quotaSize = quota.quotaSize ∧
      (allocator.maybeRegisterReclaimerLocked self quota).2.freeBytes = quota.freeBytes := by
  unfold maybeRegisterReclaimerLocked
  split_ifs <;> exact ⟨⟨rfl, rfl, rfl, rfl, rfl⟩, rfl, rfl⟩

variable {self : AllocatorId}

section

variable (accounted : quota.Accounted taken) (account : allocator.Accounted implSize)
include accounted account

theorem maybeRegisterReclaimer_transfer
    (registered : allocator.maybeRegisterReclaimer self quota = some after) :
    Transfer implSize allocator quota after := by
  obtain ⟨_, registered⟩ := Option.ite_none_right_eq_some.mp registered
  obtain ⟨same, size, free⟩ :=
    maybeRegisterReclaimerLocked_accounts
      { allocator with registering := allocator.registering - 1 } self quota
  obtain rfl := Option.some.inj registered
  exact transfer_of_same accounted same.memoryQuota same.alive same.takenBytes size free
    (same.accounted account)

theorem postReclaimer_transfer {pass : Fin 4} {tag : Nat}
    (posted : allocator.postReclaimer self quota pass tag = some after) :
    Transfer implSize allocator quota after := by
  obtain ⟨_, rfl⟩ := Machine.guarded_taken posted
  exact transfer_of_same accounted rfl rfl rfl rfl rfl account

theorem close_transfer (closed : allocator.close self quota = some after) :
    Transfer implSize allocator quota after := by
  obtain ⟨_, rfl⟩ := Machine.guarded_taken closed
  exact transfer_of_same accounted rfl rfl rfl rfl rfl account

theorem replenish_transfer (alive : allocator.alive = true)
    (replenished : allocator.replenish self quota = some after) :
    Transfer implSize allocator quota after := by
  obtain ⟨_, replenished⟩ := Option.ite_none_left_eq_some.mp replenished
  generalize allocator.replenishAmount = amount at replenished
  obtain ⟨same, size, free⟩ :=
    maybeRegisterReclaimerLocked_accounts
      { allocator with
        takenBytes := uint64 (allocator.takenBytes + amount)
        freeBytes := uint64 (allocator.freeBytes + amount) } self (quota.take amount)
  obtain rfl := Option.some.inj replenished
  refine ⟨same.memoryQuota, size.trans (quota.take_quotaSize _), ?_, fun _ => ?_⟩
  · rw [free, accounted.take_freeBytes, charge, charge, same.alive, same.takenBytes]
    apply int64_congr
    simp only [alive, if_true, uint64]
    omega
  · apply same.accounted
    simp only [Accounted, uint64] at account ⊢
    omega

theorem sweep_transfer (alive : allocator.alive = true) :
    Transfer implSize allocator quota (allocator.sweep quota) := by
  unfold sweep
  split_ifs with nothing
  · exact transfer_of_same accounted rfl rfl rfl rfl rfl account
  · refine ⟨rfl, rfl, ?_, fun _ => ?_⟩
    · apply int64_congr
      simp only [charge, alive, if_true, uint64]
      omega
    · simp only [Accounted, uint64] at account ⊢
      omega

end

theorem destroy_transfer (alive : allocator.alive = true)
    (destroyed : allocator.destroy implSize quota = some after) :
    Transfer implSize allocator quota after := by
  obtain ⟨_, rfl⟩ := Option.ite_some_none_eq_some.mp destroyed
  refine ⟨rfl, rfl, ?_, nofun⟩
  simp only [BasicMemoryQuota.returnBytes, charge, alive, if_true, Bool.false_eq_true, if_false,
    Int.sub_zero]

end Allocator

namespace System

variable {implSize : UInt64} {system system' : System}

variable {a : AllocatorId}

theorem taken_set {allocator : Allocator} (there : system.allocators[a]? = some allocator)
    (allocator' : Allocator) (quotas : List BasicMemoryQuota) (q : QuotaId) :
    ({ quotas, allocators := system.allocators.set a allocator' } : System).taken q =
      system.taken q - allocator.takenFrom q + allocator'.takenFrom q :=
  total_set there allocator'

theorem Accounted.update (accounted : system.Accounted implSize)
    {change : Allocator → BasicMemoryQuota → Option (Allocator × BasicMemoryQuota)}
    (transfer : ∀ {allocator quota taken after}, BasicMemoryQuota.Accounted quota taken →
      Allocator.Accounted implSize allocator → allocator.alive = true →
      change allocator quota = some after → Transfer implSize allocator quota after)
    (updated : system.update a change = some system') : system'.Accounted implSize := by
  obtain ⟨allocator, quota, after, there, alive, bound, changed, rfl⟩ := update_eq_some updated
  obtain ⟨binding, size, free, account⟩ :=
    transfer (accounted.quotas bound) (accounted.allocators there alive) alive changed
  refine ⟨?_, ?_, ?_⟩
  · intro q quota' there'
    rw [taken_set there]
    simp only [takenFrom, binding]
    rcases set_cases there' with ⟨rfl, rfl⟩ | ⟨different, old⟩
    · simp only [if_true]
      refine (accounted.quotas bound).change size free ?_
      omega
    · simp only [if_neg different, Int.sub_zero, Int.add_zero]
      exact accounted.quotas old
  · intro b allocator' there' alive'
    rcases set_cases there' with ⟨rfl, rfl⟩ | ⟨-, old⟩
    · exact account alive'
    · exact accounted.allocators old alive'
  · intro b allocator' there'
    rw [List.length_set]
    rcases set_cases there' with ⟨rfl, rfl⟩ | ⟨-, old⟩
    · rw [binding]
      exact accounted.bound there
    · exact accounted.bound old

variable {q : QuotaId}

section

variable (accounted : system.Accounted implSize)
include accounted

theorem Accounted.updateQuota {change : BasicMemoryQuota → Option BasicMemoryQuota}
    (kept : ∀ {quota taken quota'}, BasicMemoryQuota.Accounted quota taken →
      change quota = some quota' → quota'.Accounted taken)
    (updated : system.updateQuota q change = some system') : system'.Accounted implSize := by
  obtain ⟨quota, quota', there, changed, rfl⟩ := updateQuota_eq_some updated
  refine ⟨?_, accounted.allocators, ?_⟩
  · intro r quota'' there'
    rcases set_cases there' with ⟨rfl, rfl⟩ | ⟨-, old⟩
    · exact kept (accounted.quotas there) changed
    · exact accounted.quotas old
  · intro a allocator there'
    rw [List.length_set]
    exact accounted.bound there'

theorem Accounted.newQuota :
    ({ system with quotas := system.quotas ++ [{}] } : System).Accounted implSize := by
  refine ⟨?_, accounted.allocators, ?_⟩
  · intro q quota there
    rcases append_cases there with old | ⟨rfl, rfl⟩
    · exact accounted.quotas old
    · -- Nobody is bound to the new quota.
      have unused : system.taken system.quotas.length = 0 := by
        refine List.sum_eq_zero fun amount membership => ?_
        obtain ⟨allocator, member, rfl⟩ := List.mem_map.mp membership
        obtain ⟨a, there'⟩ := List.mem_iff_getElem?.mp member
        exact if_neg (Nat.ne_of_lt (accounted.bound there'))
      change BasicMemoryQuota.Accounted _ (system.taken system.quotas.length)
      rw [unused]
      exact ⟨by decide, by decide, by decide, by decide⟩
  · intro a allocator there
    rw [List.length_append]
    exact Nat.lt_add_right _ (accounted.bound there)

theorem Accounted.newAllocator {quota : BasicMemoryQuota} (there : system.quotas[q]? = some quota) :
    ({ quotas := system.quotas.set q (quota.take implSize.toNat)
       allocators := system.allocators ++
        [{ memoryQuota := q, takenBytes := implSize.toNat }] } : System).Accounted implSize := by
  have small := implSize.toNat_lt
  have bound := (List.getElem?_eq_some_iff.mp there).1
  have sum : ∀ r, ({ quotas := system.quotas.set q (quota.take implSize.toNat)
                     allocators := system.allocators ++
                      [{ memoryQuota := q, takenBytes := implSize.toNat }] } : System).taken r =
      system.taken r + if q = r then (implSize.toNat : Int) else 0 := fun r =>
    total_append_singleton _ _ _
  refine ⟨?_, ?_, ?_⟩
  · intro r quota' there'
    rw [sum]
    rcases set_cases there' with ⟨rfl, rfl⟩ | ⟨different, old⟩
    · refine (accounted.quotas there).change (quota.take_quotaSize _)
        ((accounted.quotas there).take_freeBytes _) ?_
      simp
    · rw [if_neg different, Int.add_zero]
      exact accounted.quotas old
  · intro a allocator there' alive
    rcases append_cases there' with old | ⟨-, rfl⟩
    · exact accounted.allocators old alive
    · simp only [Allocator.Accounted, uint64]
      omega
  · intro a allocator there'
    rw [List.length_set]
    rcases append_cases there' with old | ⟨-, rfl⟩
    · exact accounted.bound old
    · exact bound

end

theorem rebind_eq_some (rebound : system.rebind a q = some system') :
    system' = system ∨
      ∃ allocator old new after, system.allocators[a]? = some allocator ∧
        allocator.alive = true ∧ allocator.memoryQuota ≠ q ∧
        system.quotas[allocator.memoryQuota]? = some old ∧ system.quotas[q]? = some new ∧
        allocator.rebind a q old new = some after ∧
        system' =
          { quotas := (system.quotas.set allocator.memoryQuota after.2.1).set q after.2.2
            allocators := system.allocators.set a after.1 } := by
  obtain ⟨allocator, there, found⟩ := Option.bind_eq_some_iff.mp rebound
  obtain ⟨alive, found⟩ := Option.ite_none_right_eq_some.mp found
  split_ifs at found with same closed
  · exact .inl (Option.some.inj found).symm
  · obtain ⟨old, oldThere, found⟩ := Option.bind_eq_some_iff.mp found
    obtain ⟨new, newThere, found⟩ := Option.bind_eq_some_iff.mp found
    obtain ⟨after, changed, result⟩ := Option.map_eq_some_iff.mp found
    exact .inr ⟨allocator, old, new, after, there, alive, same, oldThere, newThere, changed,
      result.symm⟩

theorem Accounted.rebind (accounted : system.Accounted implSize) {a : AllocatorId} {q : QuotaId}
    (rebound : system.rebind a q = some system') : system'.Accounted implSize := by
  rcases rebind_eq_some rebound with rfl |
    ⟨allocator, old, new, after, there, alive, different, oldThere, newThere, changed, rfl⟩
  · exact accounted
  have account := accounted.allocators there alive
  obtain ⟨-, changed⟩ := Option.ite_none_left_eq_some.mp changed
  dsimp only at changed
  generalize takenEq : uint64 (allocator.takenBytes - allocator.freeBytes) = takenBytes at changed
  generalize activeReclaimers _ = reclaimers at changed
  have inserted := BasicMemoryQuota.insertReclaimers_accounts (new.take takenBytes) a reclaimers
    allocator.reclamationIndices
  obtain rfl := Option.some.inj changed
  refine ⟨?_, ?_, ?_⟩
  · intro r quota there'
    rw [taken_set there]
    simp only [takenFrom, charge, alive, if_true]
    rcases set_cases there' with ⟨rfl, rfl⟩ | ⟨notNew, there'⟩
    · rw [if_neg different, if_pos rfl]
      refine (accounted.quotas newThere).change
        (inserted.1.trans (new.take_quotaSize _))
        (inserted.2.trans ((accounted.quotas newThere).take_freeBytes _)) ?_
      omega
    · rw [if_neg notNew]
      rcases set_cases there' with ⟨rfl, rfl⟩ | ⟨notOld, there'⟩
      · rw [if_pos rfl]
        refine (accounted.quotas oldThere).change rfl rfl ?_
        omega
      · rw [if_neg notOld, Int.sub_zero, Int.add_zero]
        exact accounted.quotas there'
  · intro b allocator' there' alive'
    rcases set_cases there' with ⟨rfl, rfl⟩ | ⟨-, other⟩
    · simp only [Allocator.Accounted, ← takenEq, uint64] at account ⊢
      omega
    · exact accounted.allocators other alive'
  · intro b allocator' there'
    simp only [List.length_set]
    rcases set_cases there' with ⟨rfl, rfl⟩ | ⟨-, other⟩
    · exact (List.getElem?_eq_some_iff.mp newThere).1
    · exact accounted.bound other

theorem loopStep_eq_some (stepped : system.loopStep q = some system') :
    (∀ {quota : BasicMemoryQuota}, system.quotas[q]? = some quota → quota.running = true) ∧
        system.updateQuota q BasicMemoryQuota.loopStep = some system' ∨
      ∃ quota token self swept, system.quotas[q]? = some quota ∧
        quota.stage = .sweeping token (.sweeper self) ∧
        system.update self (fun allocator bound => some (allocator.sweep bound)) = some swept ∧
        swept.updateQuota q (fun quota =>
          some ({ quota with stage := .waitForSweep token }.finishReclamation token)) =
          some system' := by
  obtain ⟨quota, there, found⟩ := Option.bind_eq_some_iff.mp stepped
  obtain ⟨running, found⟩ := Option.ite_none_right_eq_some.mp found
  split at found
  · rename_i token self stage
    obtain ⟨swept, updated, finished⟩ := Option.bind_eq_some_iff.mp found
    exact .inr ⟨quota, token, self, swept, there, stage, updated, finished⟩
  · refine .inl ⟨fun there' => ?_, found⟩
    rw [← Option.mem_unique there there']
    exact running

theorem Accounted.loopStep (accounted : system.Accounted implSize)
    (stepped : system.loopStep q = some system') : system'.Accounted implSize := by
  rcases loopStep_eq_some stepped with ⟨-, within⟩ | ⟨-, token, self, swept, -, -, updated, finished⟩
  · refine accounted.updateQuota (fun quotaAccounted polled => ?_) within
    obtain ⟨size, free⟩ := BasicMemoryQuota.loopStep_accounts polled
    exact quotaAccounted.unchanged size free
  · have sweptAccounted : swept.Accounted implSize := by
      refine accounted.update (fun quotaAccounted account alive swept => ?_) updated
      obtain rfl := Option.some.inj swept
      exact sweep_transfer quotaAccounted account alive
    refine sweptAccounted.updateQuota (fun {quota _ _} quotaAccounted done => ?_) finished
    obtain rfl := Option.some.inj done
    obtain ⟨size, free⟩ := BasicMemoryQuota.finishReclamation_accounts
      { quota with stage := .waitForSweep token } token
    exact quotaAccounted.unchanged size free

theorem Accounted.step (accounted : system.Accounted implSize) {action : Action}
    (taken : system.step implSize action = some system') : system'.Accounted implSize := by
  cases action with
  | newQuota =>
    obtain rfl := Option.some.inj taken
    exact accounted.newQuota
  | setSize =>
    obtain ⟨small, resized⟩ := Option.ite_none_right_eq_some.mp taken
    refine accounted.updateQuota (fun quotaAccounted done => ?_) resized
    obtain rfl := Option.some.inj done
    exact quotaAccounted.setSize small
  | newAllocator =>
    obtain ⟨middle, updated, rfl⟩ := Option.map_eq_some_iff.mp taken
    obtain ⟨quota, quota', there, changed, rfl⟩ := updateQuota_eq_some updated
    obtain rfl := Option.some.inj changed
    exact accounted.newAllocator there
  | tryReserve =>
    refine accounted.update (fun quotaAccounted account _ changed => ?_) taken
    obtain ⟨allocator', reserved, rfl⟩ := Option.map_eq_some_iff.mp changed
    exact tryReserve_transfer quotaAccounted account reserved
  | replenish =>
    exact accounted.update (fun quotaAccounted account alive changed =>
      replenish_transfer quotaAccounted account alive changed) taken
  | release =>
    refine accounted.update (fun quotaAccounted account _ changed => ?_) taken
    obtain ⟨allocator', released, rfl⟩ := Option.map_eq_some_iff.mp changed
    exact release_transfer quotaAccounted account released
  | maybeRegisterReclaimer =>
    exact accounted.update (fun quotaAccounted account _ changed =>
      maybeRegisterReclaimer_transfer quotaAccounted account changed) taken
  | rebind => exact accounted.rebind taken
  | postReclaimer =>
    exact accounted.update (fun quotaAccounted account _ changed =>
      postReclaimer_transfer quotaAccounted account changed) taken
  | shutdown =>
    exact accounted.update (fun quotaAccounted account _ changed =>
      close_transfer quotaAccounted account changed) taken
  | destroy =>
    obtain ⟨_, taken⟩ := Option.ite_none_left_eq_some.mp taken
    refine accounted.update (fun _ _ alive changed => ?_) taken
    obtain ⟨_, destroyed⟩ := Option.ite_none_right_eq_some.mp changed
    exact destroy_transfer alive destroyed
  | wakeup =>
    refine accounted.updateQuota (fun quotaAccounted changed => ?_) taken
    obtain ⟨_, rfl⟩ := Option.ite_some_none_eq_some.mp changed
    exact quotaAccounted.unchanged rfl rfl
  | loopStep => exact accounted.loopStep taken
  | finishReclamation q token =>
    refine accounted.updateQuota (fun {quota _ _} quotaAccounted changed => ?_) taken
    obtain ⟨_, rfl⟩ := Option.ite_some_none_eq_some.mp changed
    obtain ⟨size, free⟩ := BasicMemoryQuota.finishReclamation_accounts
      { quota with sweeps := quota.sweeps.erase token } token
    exact quotaAccounted.unchanged size free

theorem accounted_empty : ({} : System).Accounted implSize :=
  ⟨by simp, by simp, by simp⟩

theorem accounted_of_reach {actions : List Action}
    (run : Machine.Reach (step implSize) {} actions system) : system.Accounted implSize :=
  run.invariant (fun accounted _ taken => accounted.step taken) accounted_empty

/-- In every state of every run the accounts are right: those of each quota against its
allocators, as words, and as integers unless more than 2^63 bytes are taken; those of
each allocator against its users; the destructor's assertion once everything has been
released; and what is free in a quota once all its allocators are gone. -/
theorem accounts_right {actions : List Action}
    (run : Machine.Reach (step implSize) {} actions system) :
    (∀ {q : QuotaId} {quota : BasicMemoryQuota}, system.quotas[q]? = some quota →
      uint64 (quota.freeBytes + system.taken q) = quota.quotaSize ∧
        (system.taken q ≤ 9223372036854775808 →
          quota.freeBytes + system.taken q = quota.quotaSize) ∧
        ((∀ allocator ∈ system.allocators, allocator.memoryQuota = q →
          allocator.alive = false) → quota.freeBytes = quota.quotaSize)) ∧
      ∀ {a : AllocatorId} {allocator : Allocator}, system.allocators[a]? = some allocator →
        allocator.alive = true →
          uint64 (implSize.toNat + allocator.freeBytes + allocator.reserved) =
              allocator.takenBytes ∧
            (implSize.toNat + allocator.freeBytes + allocator.reserved < 18446744073709551616 →
              implSize.toNat + allocator.freeBytes + allocator.reserved = allocator.takenBytes) ∧
            (allocator.reserved = 0 →
              uint64 (allocator.freeBytes + implSize.toNat) = allocator.takenBytes) := by
  have accounted := accounted_of_reach run
  refine ⟨?_, ?_⟩
  · intro q quota there
    have quotaAccounted := accounted.quotas there
    refine ⟨quotaAccounted.sum, quotaAccounted.exact (system.taken_nonneg q), ?_⟩
    intro gone
    have nothing : system.taken q = 0 := by
      refine List.sum_eq_zero fun amount membership => ?_
      obtain ⟨allocator, member, rfl⟩ := List.mem_map.mp membership
      by_cases bound : allocator.memoryQuota = q
      · simp [Allocator.takenFrom, Allocator.charge, gone allocator member bound]
      · exact if_neg bound
    have exact_ := quotaAccounted.exact (system.taken_nonneg q) (by rw [nothing]; decide)
    rw [nothing, Int.add_zero] at exact_
    exact exact_
  · intro a allocator there alive
    have account := accounted.allocators there alive
    refine ⟨account, ?_, ?_⟩
    · intro fits
      simp only [Allocator.Accounted, uint64] at account
      omega
    · intro released
      rw [← account, released]
      congr 1
      omega

/-- A sweep that was taken under one quota, and returns memory to another. -/
theorem accounts_right_rebound :
    ∃ system,
      Machine.Reach (step 136) {}
        [.newQuota, .newQuota, .newAllocator 0, .replenish 0, .tryReserve 0 100 200 50,
          .setSize 0 1000, .wakeup 0, .loopStep 0, .loopStep 0, .rebind 0 1, .replenish 0,
          .loopStep 0, .release 0 150, .maybeRegisterReclaimer 0] system ∧
      system.quotas.map BasicMemoryQuota.freeBytes = [1000, 9223372036854775521] ∧
      ∀ {q : QuotaId} {quota : BasicMemoryQuota}, system.quotas[q]? = some quota →
        uint64 (quota.freeBytes + system.taken q) = quota.quotaSize := by
  obtain ⟨system, run, free⟩ := Machine.exists_reach (step 136) {}
    [.newQuota, .newQuota, .newAllocator 0, .replenish 0, .tryReserve 0 100 200 50,
      .setSize 0 1000, .wakeup 0, .loopStep 0, .loopStep 0, .rebind 0 1, .replenish 0,
      .loopStep 0, .release 0 150, .maybeRegisterReclaimer 0]
    (fun system => system.quotas.map BasicMemoryQuota.freeBytes) [1000, 9223372036854775521]
    (by decide)
  exact ⟨system, run, free, fun there => ((accounts_right run).1 there).1⟩

end System

end GrpcCore.Memory
