import GrpcCore.Lib.Ledger
import GrpcCore.Lib.Run

/-!
# Resource quotas

A quota with its users. What touches the quota's lists runs under its combiner, one
closure after the other, and `rq_step` between them; allocations and frees run in any
thread, under the lock of the user. A step is one such closure or the part of `rq_step`
that holds one user's lock. Amounts are integers: their totals stay far below a word.
-/

namespace GrpcCore.Iomgr

abbrev UserId := Nat

inductive Closure where
  | allocate (user : UserId)
  | addToFreePool (user : UserId)
  | postReclaimer (user : UserId) (destructive : Bool)
  | shutdown (user : UserId)
  | destroy (user : UserId)
  | reclamationDone
deriving DecidableEq

/-- Where `rq_step` stands between two locks. -/
inductive Phase where
  | idle
  | alloc
  | reclaimFromPerUserFreePool
  | reclaim
deriving DecidableEq

/-- A `grpc_resource_user`. `held` are the bytes that have been requested and neither
freed nor failed, `owners` the references that are not for bytes, and an entry of
`onAllocated` is the number of an allocation that waits, with its size. -/
structure ResourceUser where
  alive : Bool := true
  refs : Nat := 1
  owners : Nat := 1
  shutdown : Bool := false
  freePool : Int := 0
  onAllocated : List (Nat × Nat) := []
  allocating : Bool := false
  outstandingAllocations : Nat := 0
  addedToFreePool : Bool := false
  reclaimers : Bool → Bool := fun _ => false
  newReclaimers : Bool → Bool := fun _ => false
  held : Nat := 0

/-- A `grpc_resource_quota` with its users. The reclaimers that are not destructive are
the benign ones. `resizes` are the calls of `rq_resize` under way, `unfinished` says that
a reclaimer has been called, and `completed` are the allocations whose closures have run,
with `true` for those that were granted. -/
structure ResourceQuota where
  size : Int := 9223372036854775807
  freePool : Int := 9223372036854775807
  used : Int := 0
  lastSize : Nat := 9223372036854775807
  stepScheduled : Bool := false
  reclaiming : Bool := false
  awaitingAllocation : List UserId := []
  nonEmptyFreePool : List UserId := []
  reclaimerLists : Bool → List UserId := fun _ => []
  combiner : List Closure := []
  phase : Phase := .idle
  resizes : List Nat := []
  unfinished : Bool := false
  users : List ResourceUser := []
  allocations : Nat := 0
  completed : List (Nat × Bool) := []

def rulistAddTail (user : UserId) : List UserId → List UserId
  | [] => [user]
  | root :: rest => root :: user :: rest

def rulistRemove (user : UserId) (list : List UserId) : List UserId :=
  list.filter (· ≠ user)

namespace ResourceQuota

/-- `Combiner::Run`. -/
def run (quota : ResourceQuota) (closure : Closure) : ResourceQuota :=
  { quota with combiner := quota.combiner ++ [closure] }

def rqStepSched (quota : ResourceQuota) : ResourceQuota :=
  { quota with stepScheduled := true }

def rqStepSchedIf (quota : ResourceQuota) (needed : Bool) : ResourceQuota :=
  if needed then quota.rqStepSched else quota

def update (quota : ResourceQuota) (u : UserId)
    (change : ResourceUser → ResourceQuota → Option (ResourceUser × ResourceQuota)) :
    Option ResourceQuota :=
  quota.users[u]?.bind fun user =>
    if user.alive then
      (change user quota).map fun changed =>
        { changed.2 with users := changed.2.users.set u changed.1 }
    else none

end ResourceQuota

namespace ResourceUser

/-- `ru_unref_by`. -/
def unrefBy (user : ResourceUser) (u : UserId) (amount : Nat) (quota : ResourceQuota) :
    ResourceUser × ResourceQuota :=
  ({ user with refs := user.refs - amount },
    if user.refs = amount then quota.run (.destroy u) else quota)

/-- `resource_user_alloc_locked`. An allocation with a closure that cannot be granted at
once gets the next number. -/
def allocLocked (user : ResourceUser) (u : UserId) (size : Nat) (onDone : Bool)
    (quota : ResourceQuota) : ResourceUser × ResourceQuota :=
  let user :=
    { user with
      refs := user.refs + size
      freePool := user.freePool - size
      held := user.held + size }
  if 0 ≤ user.freePool then (user, quota)
  else
    let waiting :=
      if onDone then
        { user with
          outstandingAllocations := user.outstandingAllocations + size
          onAllocated := user.onAllocated ++ [(quota.allocations, size)] }
      else user
    let quota :=
      if onDone then { quota with allocations := quota.allocations + 1 } else quota
    if user.allocating then (waiting, quota)
    else ({ waiting with allocating := true }, quota.run (.allocate u))

/-- `grpc_resource_user_alloc`. -/
def alloc (user : ResourceUser) (u : UserId) (size : Nat) (onDone : Bool)
    (quota : ResourceQuota) : Option (ResourceUser × ResourceQuota) :=
  if 0 < size ∧ user.refs ≠ 0 then
    some (user.allocLocked u size onDone { quota with used := quota.used + size })
  else none

/-- `grpc_resource_user_safe_alloc`, where it succeeds. -/
def safeAlloc (user : ResourceUser) (u : UserId) (size : Nat) (quota : ResourceQuota) :
    Option (ResourceUser × ResourceQuota) :=
  if 0 < size ∧ user.refs ≠ 0 ∧ user.shutdown = false ∧ quota.used + size ≤ quota.lastSize then
    some (user.allocLocked u size false { quota with used := quota.used + size })
  else none

/-- `grpc_resource_user_free`, of bytes whose allocation does not wait any more. -/
def free (user : ResourceUser) (u : UserId) (size : Nat) (quota : ResourceQuota) :
    Option (ResourceUser × ResourceQuota) :=
  if 0 < size ∧ size + user.outstandingAllocations ≤ user.held ∧ size ≤ quota.used then
    let quota := { quota with used := quota.used - size }
    let freed := { user with freePool := user.freePool + size, held := user.held - size }
    if 0 < freed.freePool ∧ user.freePool ≤ 0 ∧ user.addedToFreePool = false then
      some ({ freed with addedToFreePool := true }.unrefBy u size (quota.run (.addToFreePool u)))
    else some (freed.unrefBy u size quota)
  else none

/-- `grpc_resource_user_shutdown`. -/
def close (user : ResourceUser) (u : UserId) (quota : ResourceQuota) :
    Option (ResourceUser × ResourceQuota) :=
  if user.refs ≠ 0 then
    if user.shutdown then some (user, quota)
    else some ({ user with shutdown := true }, quota.run (.shutdown u))
  else none

/-- `grpc_resource_user_ref`. -/
def ref (user : ResourceUser) (quota : ResourceQuota) : Option (ResourceUser × ResourceQuota) :=
  if user.refs ≠ 0 then
    some ({ user with refs := user.refs + 1, owners := user.owners + 1 }, quota)
  else none

/-- `grpc_resource_user_unref`, of a reference that is not for bytes. -/
def unref (user : ResourceUser) (u : UserId) (quota : ResourceQuota) :
    Option (ResourceUser × ResourceQuota) :=
  if 0 < user.owners then some ({ user with owners := user.owners - 1 }.unrefBy u 1 quota)
  else none

/-- `grpc_resource_user_post_reclaimer`. -/
def postReclaimer (user : ResourceUser) (u : UserId) (destructive : Bool)
    (quota : ResourceQuota) : Option (ResourceUser × ResourceQuota) :=
  if user.refs ≠ 0 ∧ user.newReclaimers destructive = false then
    some ({ user with newReclaimers := Function.update user.newReclaimers destructive true },
      quota.run (.postReclaimer u destructive))
  else none

end ResourceUser

namespace ResourceQuota

def ruAllocate (quota : ResourceQuota) (u : UserId) : ResourceQuota :=
  { quota.rqStepSchedIf quota.awaitingAllocation.isEmpty with
    awaitingAllocation := rulistAddTail u quota.awaitingAllocation }

def ruAddToFreePool (quota : ResourceQuota) (u : UserId) : ResourceQuota :=
  { quota.rqStepSchedIf (!quota.awaitingAllocation.isEmpty && quota.nonEmptyFreePool.isEmpty) with
    nonEmptyFreePool := rulistAddTail u quota.nonEmptyFreePool }

/-- `ru_post_benign_reclaimer` and `ru_post_destructive_reclaimer`: the second looks at
one more list. -/
def ruPostReclaimer (user : ResourceUser) (u : UserId) (destructive : Bool)
    (quota : ResourceQuota) : Option (ResourceUser × ResourceQuota) :=
  if user.newReclaimers destructive = true ∧ user.reclaimers destructive = false then
    let user :=
      { user with newReclaimers := Function.update user.newReclaimers destructive false }
    if user.shutdown then some (user, quota)
    else
      let needed :=
        !quota.awaitingAllocation.isEmpty && quota.nonEmptyFreePool.isEmpty &&
          (quota.reclaimerLists false).isEmpty &&
          (!destructive || (quota.reclaimerLists true).isEmpty)
      some ({ user with reclaimers := Function.update user.reclaimers destructive true },
        { quota.rqStepSchedIf needed with
          reclaimerLists :=
            Function.update quota.reclaimerLists destructive
              (rulistAddTail u (quota.reclaimerLists destructive)) })
  else none

def ruShutdown (user : ResourceUser) (u : UserId) (quota : ResourceQuota) :
    ResourceUser × ResourceQuota :=
  ({ user with reclaimers := fun _ => false },
    { quota.rqStepSchedIf user.allocating with
      reclaimerLists := fun destructive => rulistRemove u (quota.reclaimerLists destructive) })

def ruDestroy (user : ResourceUser) (u : UserId) (quota : ResourceQuota) :
    Option (ResourceUser × ResourceQuota) :=
  if user.refs = 0 then
    some ({ user with alive := false },
      { quota.rqStepSchedIf (user.freePool ≠ 0) with
        awaitingAllocation := rulistRemove u quota.awaitingAllocation
        nonEmptyFreePool := rulistRemove u quota.nonEmptyFreePool
        reclaimerLists := fun destructive => rulistRemove u (quota.reclaimerLists destructive)
        freePool := quota.freePool + user.freePool })
  else none

def rqReclamationDone (quota : ResourceQuota) : ResourceQuota :=
  { quota with reclaiming := false }.rqStepSched

def runClosure (quota : ResourceQuota) : Option ResourceQuota :=
  match quota.phase, quota.combiner with
  | .idle, closure :: rest =>
    let quota := { quota with combiner := rest }
    match closure with
    | .allocate u => some (quota.ruAllocate u)
    | .addToFreePool u => some (quota.ruAddToFreePool u)
    | .postReclaimer u destructive =>
      quota.update u fun user quota => ruPostReclaimer user u destructive quota
    | .shutdown u => quota.update u fun user quota => some (ruShutdown user u quota)
    | .destroy u => quota.update u fun user quota => ruDestroy user u quota
    | .reclamationDone => some quota.rqReclamationDone
  | _, _ => none

def complete (quota : ResourceQuota) (user : ResourceUser) (granted : Bool) : ResourceQuota :=
  { quota with
    completed := quota.completed ++ user.onAllocated.map fun waiting => (waiting.1, granted) }

/-- What `rq_alloc` does with the user that it has popped. -/
def rqAllocUser (user : ResourceUser) (u : UserId) (quota : ResourceQuota) :
    ResourceUser × ResourceQuota :=
  if user.shutdown then
    let abortedAllocations := user.outstandingAllocations
    let aborted :=
      { user with
        allocating := false
        onAllocated := []
        outstandingAllocations := 0
        freePool := user.freePool + abortedAllocations
        held := user.held - abortedAllocations }
    if 0 < abortedAllocations then
      aborted.unrefBy u abortedAllocations (quota.complete user false)
    else (aborted, quota.complete user false)
  else
    let granted := user.freePool < 0 ∧ -user.freePool ≤ quota.freePool
    let quota :=
      if granted then { quota with freePool := quota.freePool + user.freePool } else quota
    if granted ∨ 0 ≤ user.freePool then
      ({ user with
          freePool := if granted then 0 else user.freePool
          allocating := false
          outstandingAllocations := 0
          onAllocated := [] },
        quota.complete user true)
    else
      (user,
        { quota with
          awaitingAllocation := u :: quota.awaitingAllocation
          phase := .reclaimFromPerUserFreePool })

/-- What `rq_reclaim_from_per_user_free_pool` does with the user that it has popped. -/
def rqReclaimUser (user : ResourceUser) (quota : ResourceQuota) : ResourceUser × ResourceQuota :=
  let user := { user with addedToFreePool := false }
  if 0 < user.freePool then
    ({ user with freePool := 0 },
      { quota with freePool := quota.freePool + user.freePool, phase := .alloc })
  else (user, quota)

/-- `rq_reclaim` for one of the lists, if no reclamation is under way. -/
def rqReclaim (quota : ResourceQuota) (destructive : Bool) : Option ResourceQuota :=
  match quota.reclaimerLists destructive with
  | [] => none
  | u :: rest =>
    { quota with
      reclaimerLists := Function.update quota.reclaimerLists destructive rest
      reclaiming := true
      unfinished := true }.update u fun user quota =>
        if user.reclaimers destructive then
          some ({ user with
            reclaimers := Function.update user.reclaimers destructive false }, quota)
        else none

/-- The next part of `rq_step`. -/
def rqContinue (quota : ResourceQuota) : Option ResourceQuota :=
  match quota.phase with
  | .idle => none
  | .alloc =>
    match quota.awaitingAllocation with
    | [] => some { quota with phase := .idle }
    | u :: rest =>
      { quota with awaitingAllocation := rest }.update u fun user quota =>
        some (rqAllocUser user u quota)
  | .reclaimFromPerUserFreePool =>
    match quota.nonEmptyFreePool with
    | [] => some { quota with phase := .reclaim }
    | u :: rest =>
      { quota with nonEmptyFreePool := rest }.update u fun user quota =>
        some (rqReclaimUser user quota)
  | .reclaim =>
    let quota := { quota with phase := .idle }
    if quota.reclaiming then some quota
    else if quota.reclaimerLists false ≠ [] then quota.rqReclaim false
    else if quota.reclaimerLists true ≠ [] then quota.rqReclaim true
    else some quota

def rqResize (quota : ResourceQuota) (size : Nat) : ResourceQuota :=
  { quota with
    freePool := quota.freePool + (size - quota.size)
    size }.rqStepSched

end ResourceQuota

inductive Action where
  | create
  | ref (user : UserId)
  | unref (user : UserId)
  | alloc (user : UserId) (size : Nat) (onDone : Bool)
  | safeAlloc (user : UserId) (size : Nat)
  | free (user : UserId) (size : Nat)
  | shutdown (user : UserId)
  | postReclaimer (user : UserId) (destructive : Bool)
  | finishReclamation
  | resize (size : Nat)
  | rqResize (index : Nat)
  | runClosure
  | rqStep
  | rqContinue
deriving DecidableEq

namespace ResourceQuota

def step (quota : ResourceQuota) : Action → Option ResourceQuota
  | .create => some { quota with users := quota.users ++ [{}] }
  | .ref u => quota.update u fun user quota => user.ref quota
  | .unref u => quota.update u fun user quota => user.unref u quota
  | .alloc u size onDone => quota.update u fun user quota => user.alloc u size onDone quota
  | .safeAlloc u size => quota.update u fun user quota => user.safeAlloc u size quota
  | .free u size => quota.update u fun user quota => user.free u size quota
  | .shutdown u => quota.update u fun user quota => user.close u quota
  | .postReclaimer u destructive =>
    quota.update u fun user quota => user.postReclaimer u destructive quota
  | .finishReclamation =>
    if quota.unfinished then some ({ quota with unfinished := false }.run .reclamationDone)
    else none
  | .resize size =>
    if size < 4611686018427387904 then
      some { quota with lastSize := size, resizes := quota.resizes ++ [size] }
    else none
  | .rqResize index =>
    quota.resizes[index]?.map fun size =>
      { quota with resizes := quota.resizes.eraseIdx index }.rqResize size
  | .runClosure => quota.runClosure
  | .rqStep =>
    if quota.stepScheduled ∧ quota.phase = .idle then
      some { quota with stepScheduled := false, phase := .alloc }
    else none
  | .rqContinue => quota.rqContinue

end ResourceQuota

end GrpcCore.Iomgr
