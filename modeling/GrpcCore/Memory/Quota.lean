import GrpcCore.Lib.Ledger
import GrpcCore.Lib.MachineInt
import GrpcCore.Lib.Run
import GrpcCore.Memory.ReclaimerQueue

/-!
# Memory quotas and their allocators

Quotas, each with the loop that calls reclaimers while it is overcommitted, and the
allocators bound to them. A step is what one thread does under a lock or in one
atomic operation, so that a run is any order in which threads can get there.
-/

namespace GrpcCore.Memory

open MachineInt

/-- Quotas are named by the order of their creation. -/
abbrev QuotaId := Nat

def kMaxReplenishBytes : Nat := 1024 * 1024

def kMinReplenishBytes : Nat := 4096

/-- `MemoryRequest::max_allowed_size`. -/
def maxAllowedSize : Nat := 1024 * 1024 * 1024

/-- Where the reclamation loop stands. Between `race` and `waitForSweep` it calls the
reclaimer that it has been given. -/
inductive Stage where
  | waitForOvercommit
  | race (pass : Fin 4)
  | sweeping (token : Nat) (reclaimer : Reclaimer)
  | waitForSweep (token : Nat)
deriving DecidableEq

/-- `running` says that a thread is in the loop, `woken` that another turn of it is
scheduled, and `sweeps` are the tokens of the sweeps that reclaimers have kept. -/
structure BasicMemoryQuota where
  freeBytes : Int := 9223372036854775807
  quotaSize : Nat := 9223372036854775807
  reclaimers : Fin 4 → ReclaimerQueue := fun _ => {}
  reclamationCounter : Nat := 0
  stage : Stage := .waitForOvercommit
  running : Bool := false
  woken : Bool := false
  sweeps : List Nat := []

namespace BasicMemoryQuota

def take (quota : BasicMemoryQuota) (amount : Nat) : BasicMemoryQuota :=
  if amount = 0 then quota
  else
    { quota with
      freeBytes := int64 (quota.freeBytes - amount)
      woken := quota.woken || decide (0 ≤ quota.freeBytes ∧ quota.freeBytes < int64 amount) }

/-- `Return`. -/
def returnBytes (quota : BasicMemoryQuota) (amount : Nat) : BasicMemoryQuota :=
  { quota with freeBytes := int64 (quota.freeBytes + amount) }

def setSize (quota : BasicMemoryQuota) (newSize : Nat) : BasicMemoryQuota :=
  if quota.quotaSize < newSize then
    { quota with quotaSize := newSize }.returnBytes (newSize - quota.quotaSize)
  else { quota with quotaSize := newSize }.take (quota.quotaSize - newSize)

def finishReclamation (quota : BasicMemoryQuota) (token : Nat) : BasicMemoryQuota :=
  if quota.reclamationCounter = token then
    { quota with reclamationCounter := token + 1, woken := true }
  else quota

def insertReclaimer (quota : BasicMemoryQuota) (pass : Fin 4) (allocator : AllocatorId)
    (reclaimer : Reclaimer) (index : Option Nat) : BasicMemoryQuota × Nat :=
  let inserted := (quota.reclaimers pass).insert allocator reclaimer index
  ({ quota with
      reclaimers := Function.update quota.reclaimers pass inserted.1
      woken := quota.woken || inserted.2.2 },
    inserted.2.1)

/-- `CancelReclaimer` for each pass, and the reclaimers that were still queued. -/
def cancelReclaimers (quota : BasicMemoryQuota) (indices : Fin 4 → Option Nat)
    (allocator : AllocatorId) : BasicMemoryQuota × (Fin 4 → Option Reclaimer) :=
  let cancelled pass := (quota.reclaimers pass).cancel (indices pass) allocator
  ({ quota with reclaimers := fun pass => (cancelled pass).1 }, fun pass => (cancelled pass).2)

def insertReclaimers (quota : BasicMemoryQuota) (allocator : AllocatorId) :
    List (Fin 4 × Reclaimer) → (Fin 4 → Option Nat) → BasicMemoryQuota × (Fin 4 → Option Nat)
  | [], indices => (quota, indices)
  | (pass, reclaimer) :: rest, indices =>
    let inserted := quota.insertReclaimer pass allocator reclaimer (indices pass)
    inserted.1.insertReclaimers allocator rest
      (Function.update indices pass (some inserted.2))

/-- One step of the loop in `Start`, as far as it stays within the quota. A sweeper
goes to its allocator. -/
def loopStep (quota : BasicMemoryQuota) : Option BasicMemoryQuota :=
  match quota.stage with
  | .waitForOvercommit =>
    if quota.freeBytes > 0 then some { quota with running := false }
    else some { quota with stage := .race 0 }
  | .race pass =>
    let polled := (quota.reclaimers pass).pollNext
    let quota := { quota with reclaimers := Function.update quota.reclaimers pass polled.1 }
    match polled.2 with
    | some reclaimer =>
      let token := quota.reclamationCounter + 1
      some { quota with reclamationCounter := token, stage := .sweeping token reclaimer }
    | none =>
      if pass = 3 then some { quota with stage := .race 0, running := false }
      else some { quota with stage := .race (pass + 1) }
  | .sweeping token (.posted _) =>
    some { quota with stage := .waitForSweep token, sweeps := token :: quota.sweeps }
  | .sweeping _ (.sweeper _) => none
  | .waitForSweep token =>
    if quota.reclamationCounter ≠ token then some { quota with stage := .waitForOvercommit }
    else some { quota with running := false }

end BasicMemoryQuota

/-- A `GrpcMemoryAllocatorImpl`. `reserved` are the bytes that its users have reserved
and not released, and `registering` the calls of `Release` that have added their bytes
and not yet come to `MaybeRegisterReclaimer`. -/
structure Allocator where
  memoryQuota : QuotaId
  freeBytes : Nat := 0
  takenBytes : Nat
  shutdown : Bool := false
  reclamationIndices : Fin 4 → Option Nat := fun _ => none
  reserved : Nat := 0
  registering : Nat := 0
  alive : Bool := true

namespace Allocator

/-- `TryReserve`, where it succeeds. How far the pressure scales the request down is
left open. -/
def tryReserve (allocator : Allocator) (min max scaledSizeOverMin : Nat) : Option Allocator :=
  let reserve := min + scaledSizeOverMin
  if min ≤ max ∧ max ≤ maxAllowedSize ∧ scaledSizeOverMin ≤ max - min ∧
      reserve ≤ allocator.freeBytes then
    some { allocator with
      freeBytes := allocator.freeBytes - reserve
      reserved := allocator.reserved + reserve }
  else none

/-- The first half of `Release`, for bytes that had been reserved. -/
def release (allocator : Allocator) (n : Nat) : Option Allocator :=
  if n ≤ allocator.reserved then
    some { allocator with
      freeBytes := uint64 (allocator.freeBytes + n)
      reserved := allocator.reserved - n
      registering := allocator.registering + if allocator.freeBytes ≠ 0 then 0 else 1 }
  else none

def maybeRegisterReclaimerLocked (allocator : Allocator) (self : AllocatorId)
    (quota : BasicMemoryQuota) : Allocator × BasicMemoryQuota :=
  if allocator.reclamationIndices 0 ≠ none then (allocator, quota)
  else if allocator.shutdown then (allocator, quota)
  else
    let inserted := quota.insertReclaimer 0 self (.sweeper self) (allocator.reclamationIndices 0)
    ({ allocator with
        reclamationIndices :=
          Function.update allocator.reclamationIndices 0 (some inserted.2) },
      inserted.1)

/-- The second half of `Release`. -/
def maybeRegisterReclaimer (allocator : Allocator) (self : AllocatorId)
    (quota : BasicMemoryQuota) : Option (Allocator × BasicMemoryQuota) :=
  if 0 < allocator.registering then
    some ({ allocator with registering := allocator.registering - 1 }.maybeRegisterReclaimerLocked
      self quota)
  else none

def replenishAmount (allocator : Allocator) : Nat :=
  (clamp (allocator.takenBytes / 3) kMinReplenishBytes kMaxReplenishBytes).toNat

def replenish (allocator : Allocator) (self : AllocatorId) (quota : BasicMemoryQuota) :
    Option (Allocator × BasicMemoryQuota) :=
  if allocator.shutdown then none
  else
    let amount := allocator.replenishAmount
    some ({ allocator with
        takenBytes := uint64 (allocator.takenBytes + amount)
        freeBytes := uint64 (allocator.freeBytes + amount) }.maybeRegisterReclaimerLocked self
      (quota.take amount))

def sweep (allocator : Allocator) (quota : BasicMemoryQuota) : Allocator × BasicMemoryQuota :=
  if allocator.freeBytes = 0 then (allocator, quota)
  else
    ({ allocator with
        freeBytes := 0
        takenBytes := uint64 (allocator.takenBytes - allocator.freeBytes) },
      quota.returnBytes allocator.freeBytes)

/-- The passes that a public caller can name are 1, 2 and 3. -/
def postReclaimer (allocator : Allocator) (self : AllocatorId) (quota : BasicMemoryQuota)
    (pass : Fin 4) (tag : Nat) : Option (Allocator × BasicMemoryQuota) :=
  if allocator.shutdown ∨ pass = 0 then none
  else
    let inserted :=
      quota.insertReclaimer pass self (.posted tag) (allocator.reclamationIndices pass)
    some ({ allocator with
        reclamationIndices :=
          Function.update allocator.reclamationIndices pass (some inserted.2) },
      inserted.1)

def close (allocator : Allocator) (self : AllocatorId) (quota : BasicMemoryQuota) :
    Option (Allocator × BasicMemoryQuota) :=
  if allocator.shutdown then none
  else
    some ({ allocator with shutdown := true, reclamationIndices := fun _ => none },
      (quota.cancelReclaimers allocator.reclamationIndices self).1)

def destroy (implSize : UInt64) (allocator : Allocator) (quota : BasicMemoryQuota) :
    Option (Allocator × BasicMemoryQuota) :=
  if uint64 (allocator.freeBytes + implSize.toNat) = allocator.takenBytes then
    some ({ allocator with alive := false }, quota.returnBytes allocator.takenBytes)
  else none

def activeReclaimers (reclaimers : Fin 4 → Option Reclaimer) : List (Fin 4 × Reclaimer) :=
  (List.finRange 4).filterMap fun pass => (reclaimers pass).map fun reclaimer => (pass, reclaimer)

/-- `Rebind`, from one quota to another. -/
def rebind (allocator : Allocator) (self : AllocatorId) (newQuota : QuotaId)
    (old new : BasicMemoryQuota) : Option (Allocator × BasicMemoryQuota × BasicMemoryQuota) :=
  if allocator.shutdown then none
  else
    let cancelled :=
      (old.returnBytes allocator.takenBytes).cancelReclaimers allocator.reclamationIndices self
    let takenBytes := uint64 (allocator.takenBytes - allocator.freeBytes)
    let inserted :=
      (new.take takenBytes).insertReclaimers self (activeReclaimers cancelled.2)
        allocator.reclamationIndices
    some ({ allocator with
        memoryQuota := newQuota
        freeBytes := 0
        takenBytes
        reclamationIndices := inserted.2 },
      cancelled.1, inserted.1)

end Allocator

structure System where
  quotas : List BasicMemoryQuota := []
  allocators : List Allocator := []

inductive Action where
  | newQuota
  | setSize (quota : QuotaId) (newSize : Nat)
  | newAllocator (quota : QuotaId)
  | tryReserve (allocator : AllocatorId) (min max scaledSizeOverMin : Nat)
  | replenish (allocator : AllocatorId)
  | release (allocator : AllocatorId) (n : Nat)
  | maybeRegisterReclaimer (allocator : AllocatorId)
  | rebind (allocator : AllocatorId) (quota : QuotaId)
  | postReclaimer (allocator : AllocatorId) (pass : Fin 4) (tag : Nat)
  | shutdown (allocator : AllocatorId)
  | destroy (allocator : AllocatorId)
  | wakeup (quota : QuotaId)
  | loopStep (quota : QuotaId)
  | finishReclamation (quota : QuotaId) (token : Nat)
deriving DecidableEq

namespace System

def updateQuota (system : System) (q : QuotaId)
    (change : BasicMemoryQuota → Option BasicMemoryQuota) : Option System :=
  system.quotas[q]?.bind fun quota =>
    (change quota).map fun quota' => { system with quotas := system.quotas.set q quota' }

/-- Change an allocator and the quota that it is bound to. -/
def update (system : System) (a : AllocatorId)
    (change : Allocator → BasicMemoryQuota → Option (Allocator × BasicMemoryQuota)) :
    Option System :=
  system.allocators[a]?.bind fun allocator =>
    if allocator.alive then
      system.quotas[allocator.memoryQuota]?.bind fun quota =>
        (change allocator quota).map fun changed =>
          { quotas := system.quotas.set allocator.memoryQuota changed.2
            allocators := system.allocators.set a changed.1 }
    else none

def rebind (system : System) (a : AllocatorId) (q : QuotaId) : Option System :=
  system.allocators[a]?.bind fun allocator =>
    if allocator.alive then
      if allocator.memoryQuota = q then if allocator.shutdown then none else some system
      else
        system.quotas[allocator.memoryQuota]?.bind fun old =>
          system.quotas[q]?.bind fun new =>
            (allocator.rebind a q old new).map fun changed =>
              { quotas :=
                  (system.quotas.set allocator.memoryQuota changed.2.1).set q changed.2.2
                allocators := system.allocators.set a changed.1 }
    else none

/-- A reclaimer of the allocator is queued, called or about to be registered: these hold
a reference to it. -/
def referenced (system : System) (a : AllocatorId) : Bool :=
  system.quotas.any (fun quota =>
    (List.finRange 4).any (fun pass =>
      (quota.reclaimers pass).entries.any fun entry =>
        entry.allocator == some a) ||
    match quota.stage with
    | .sweeping _ reclaimer => reclaimer == .sweeper a
    | _ => false) ||
  system.allocators[a]?.any fun allocator => decide (0 < allocator.registering)

/-- The loop of a quota, up to its next lock. -/
def loopStep (system : System) (q : QuotaId) : Option System :=
  system.quotas[q]?.bind fun quota =>
    if quota.running then
      match quota.stage with
      | .sweeping token (.sweeper self) =>
        (system.update self fun allocator bound => some (allocator.sweep bound)).bind
          fun swept => swept.updateQuota q fun quota =>
            some ({ quota with stage := .waitForSweep token }.finishReclamation token)
      | _ => system.updateQuota q BasicMemoryQuota.loopStep
    else none

/-- The size of a `GrpcMemoryAllocatorImpl` depends on the platform. -/
def step (implSize : UInt64) (system : System) : Action → Option System
  | .newQuota => some { system with quotas := system.quotas ++ [{}] }
  | .setSize q newSize =>
    if newSize < 9223372036854775808 then
      system.updateQuota q fun quota => some (quota.setSize newSize)
    else none
  | .newAllocator q =>
    (system.updateQuota q fun quota => some (quota.take implSize.toNat)).map fun taken =>
      { taken with
        allocators := taken.allocators ++ [{ memoryQuota := q, takenBytes := implSize.toNat }] }
  | .tryReserve a min max scaledSizeOverMin =>
    system.update a fun allocator quota =>
      (allocator.tryReserve min max scaledSizeOverMin).map fun allocator => (allocator, quota)
  | .replenish a => system.update a fun allocator quota => allocator.replenish a quota
  | .release a n =>
    system.update a fun allocator quota =>
      (allocator.release n).map fun allocator => (allocator, quota)
  | .maybeRegisterReclaimer a =>
    system.update a fun allocator quota => allocator.maybeRegisterReclaimer a quota
  | .rebind a q => system.rebind a q
  | .postReclaimer a pass tag =>
    system.update a fun allocator quota => allocator.postReclaimer a quota pass tag
  | .shutdown a => system.update a fun allocator quota => allocator.close a quota
  | .destroy a =>
    if system.referenced a then none
    else
      system.update a fun allocator quota =>
        if allocator.reserved = 0 then allocator.destroy implSize quota else none
  | .wakeup q =>
    system.updateQuota q fun quota =>
      if quota.woken ∧ ¬ quota.running then
        some { quota with woken := false, running := true }
      else none
  | .loopStep q => system.loopStep q
  | .finishReclamation q token =>
    system.updateQuota q fun quota =>
      if token ∈ quota.sweeps then
        some ({ quota with sweeps := quota.sweeps.erase token }.finishReclamation token)
      else none

variable {system system' : System}

theorem update_eq_some {a : AllocatorId}
    {change : Allocator → BasicMemoryQuota → Option (Allocator × BasicMemoryQuota)}
    (updated : system.update a change = some system') :
    ∃ allocator quota after, system.allocators[a]? = some allocator ∧ allocator.alive = true ∧
      system.quotas[allocator.memoryQuota]? = some quota ∧
      change allocator quota = some after ∧
      system' =
        { quotas := system.quotas.set allocator.memoryQuota after.2
          allocators := system.allocators.set a after.1 } := by
  obtain ⟨allocator, there, found⟩ := Option.bind_eq_some_iff.mp updated
  obtain ⟨alive, inner⟩ := Option.ite_none_right_eq_some.mp found
  obtain ⟨quota, bound, changed⟩ := Option.bind_eq_some_iff.mp inner
  obtain ⟨after, changed, same⟩ := Option.map_eq_some_iff.mp changed
  exact ⟨allocator, quota, after, there, alive, bound, changed, same.symm⟩

theorem updateQuota_eq_some {q : QuotaId} {change : BasicMemoryQuota → Option BasicMemoryQuota}
    (updated : system.updateQuota q change = some system') :
    ∃ quota quota', system.quotas[q]? = some quota ∧ change quota = some quota' ∧
      system' = { system with quotas := system.quotas.set q quota' } := by
  obtain ⟨quota, there, found⟩ := Option.bind_eq_some_iff.mp updated
  obtain ⟨quota', changed, same⟩ := Option.map_eq_some_iff.mp found
  exact ⟨quota, quota', there, changed, same.symm⟩

end System

end GrpcCore.Memory
