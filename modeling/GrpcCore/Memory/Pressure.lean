import GrpcCore.Memory.Quota

/-!
# Memory pressure

How `Reserve` and `TryReserve` scale a request by the pressure of the quota. A `double` is the
rational number that it stands for, and every operation on doubles rounds its result.
-/

namespace GrpcCore.Memory

open MachineInt BasicMemoryQuota

/-- Rounding to a `double`. -/
structure Rounding where
  round : ℚ → ℚ
  mono : Monotone round
  round_round : ∀ value, round (round value) = round value
  round_zero : round 0 = 0
  round_one : round 1 = 1
  round_fourFifths : round (4 / 5) < 1

variable (double : Rounding)

namespace BasicMemoryQuota

/-- `(size - free) / size`, with every result rounded. -/
def usedShare (quota : BasicMemoryQuota) : ℚ :=
  let size := double.round quota.quotaSize
  double.round (double.round (size - max 0 (double.round quota.freeBytes)) / size)

/-- The result is a `size_t`. -/
def instantaneousPressure (quota : BasicMemoryQuota) : Nat :=
  if double.round quota.quotaSize < 1 then 1
  else ⌊min 1 (max 0 (quota.usedShare double))⌋₊

end BasicMemoryQuota

def scaledSizeOverMin (quota : BasicMemoryQuota) (min max : Nat) : Nat :=
  if max - min = 0 then max - min
  else
    let pressure : ℚ := quota.instantaneousPressure double
    if pressure > double.round (4 / 5) then
      Nat.min (max - min) ⌊double.round (double.round
        (double.round (max - min : Nat) * double.round (1 - pressure)) / double.round (1 / 5))⌋₊
    else max - min

namespace Allocator

/-- `TryReserve`, with the number of bytes it reserves. -/
def tryReserveScaled (quota : BasicMemoryQuota) (min max : Nat) (allocator : Allocator) :
    Option (Nat × Allocator) :=
  (allocator.tryReserve min max (scaledSizeOverMin double quota min max)).map fun allocator =>
    (min + scaledSizeOverMin double quota min max, allocator)

/-- `Reserve`, for as many turns of its loop as it is given. -/
def reserve (self : AllocatorId) (min max : Nat) :
    Nat → Allocator → BasicMemoryQuota → Option (Nat × Allocator × BasicMemoryQuota)
  | 0, _, _ => none
  | turns + 1, allocator, quota =>
    match allocator.tryReserveScaled double quota min max with
    | some (size, allocator) => some (size, allocator, quota)
    | none =>
      (allocator.replenish self quota).bind fun (allocator, quota) =>
        reserve self min max turns allocator quota

/-- The request is scaled down by the used share of the quota over four fifths. -/
def Scales (quota : BasicMemoryQuota) (min max : Nat) (allocator : Allocator) : Prop :=
  ∃ size allocator', allocator.tryReserveScaled double quota min max = some (size, allocator') ∧
    min ≤ size ∧ size < max ∧
    (size - min : Int) * quota.quotaSize ≤ (max - min) * 5 * Max.max 0 quota.freeBytes

variable {double} {quota : BasicMemoryQuota} {allocator : Allocator} {min max : Nat}

theorem scaledSizeOverMin_le : scaledSizeOverMin double quota min max ≤ max - min := by
  unfold scaledSizeOverMin
  dsimp only
  split_ifs
  · exact le_rfl
  · exact Nat.min_le_left _ _
  · exact le_rfl

theorem tryReserveScaled_eq (ordered : min ≤ max) (allowed : max ≤ maxAllowedSize)
    (cached : min + scaledSizeOverMin double quota min max ≤ allocator.freeBytes) :
    ∃ allocator', allocator.tryReserveScaled double quota min max =
      some (min + scaledSizeOverMin double quota min max, allocator') := by
  rw [tryReserveScaled, tryReserve, if_pos ⟨ordered, allowed, scaledSizeOverMin_le, cached⟩]
  exact ⟨_, rfl⟩

/-- A pressure below one is no pressure for a `size_t`. -/
theorem instantaneousPressure_eq (size : 1 ≤ quota.quotaSize) :
    quota.instantaneousPressure double = if 1 ≤ quota.usedShare double then 1 else 0 := by
  have large : 1 ≤ double.round quota.quotaSize := by
    rw [← double.round_one]
    exact double.mono (by exact_mod_cast size)
  rw [instantaneousPressure, if_neg (not_lt.mpr large)]
  split_ifs with full
  · rw [min_eq_left (full.trans (le_max_right _ _)), Nat.floor_one]
  · have below := not_le.mp full
    exact Nat.floor_eq_zero.mpr ((min_le_right _ _).trans_lt (max_lt one_pos below))

theorem scaledSizeOverMin_eq (size : 1 ≤ quota.quotaSize) :
    scaledSizeOverMin double quota min max =
      if 1 ≤ quota.usedShare double then 0 else max - min := by
  unfold scaledSizeOverMin
  rw [instantaneousPressure_eq size]
  split_ifs with nothing full
  · exact nothing
  · rfl
  · simp [double.round_fourFifths, double.round_zero]
  · have := double.mono (show (0 : ℚ) ≤ 4 / 5 by norm_num)
    rw [double.round_zero] at this
    simp [not_lt.mpr this]

/-- Nothing is free, or so little that its share is rounded away. -/
theorem one_le_usedShare_iff (size : 1 ≤ quota.quotaSize) :
    1 ≤ quota.usedShare double ↔ quota.freeBytes ≤ 0 ∨ 1 ≤ quota.usedShare double := by
  refine ⟨.inr, fun either => either.elim (fun none => ?_) id⟩
  have large : 1 ≤ double.round quota.quotaSize := by
    rw [← double.round_one]
    exact double.mono (by exact_mod_cast size)
  have free : double.round quota.freeBytes ≤ 0 := by
    rw [← double.round_zero]
    exact double.mono (by exact_mod_cast none)
  rw [usedShare]
  simp only [max_eq_left free, sub_zero, double.round_round,
    div_self (one_pos.trans_le large).ne', double.round_one, le_refl]

theorem freeBytes_replenish (self : AllocatorId) (open_ : allocator.shutdown = false)
    (low : allocator.freeBytes ≤ maxAllowedSize) :
    ∃ after quota', allocator.replenish self quota = some (after, quota') ∧
      after.shutdown = false ∧ allocator.freeBytes + kMinReplenishBytes ≤ after.freeBytes := by
  have ordered : (kMinReplenishBytes : Int) ≤ kMaxReplenishBytes := by decide
  have amount := clamp_mem ordered (allocator.takenBytes / 3)
  have keeps (before : Allocator) (quota : BasicMemoryQuota) :
      (before.maybeRegisterReclaimerLocked self quota).1.shutdown = before.shutdown ∧
      (before.maybeRegisterReclaimerLocked self quota).1.freeBytes = before.freeBytes := by
    unfold maybeRegisterReclaimerLocked
    split_ifs <;> exact ⟨rfl, rfl⟩
  rw [replenish, if_neg (by simp [open_])]
  refine ⟨_, _, rfl, (keeps _ _).1.trans open_, le_of_le_of_eq ?_ (keeps _ _).2.symm⟩
  dsimp only [uint64, replenishAmount]
  simp only [kMinReplenishBytes, kMaxReplenishBytes, maxAllowedSize] at amount low ⊢
  omega

theorem reserve_cached (self : AllocatorId) (ordered : min ≤ max) (allowed : max ≤ maxAllowedSize)
    (cached : min + scaledSizeOverMin double quota min max ≤ allocator.freeBytes) :
    ∃ turns size after, allocator.reserve double self min max turns quota = some (size, after) ∧
      min ≤ size ∧ size ≤ max := by
  obtain ⟨allocator', reserves⟩ := tryReserveScaled_eq ordered allowed cached
  have within := @scaledSizeOverMin_le double quota min max
  exact ⟨1, _, (allocator', quota), by rw [reserve, reserves], by omega, by omega⟩

/-- The loop ends when enough is cached, and every turn caches more. -/
theorem reserve_returns (self : AllocatorId) (ordered : min ≤ max) (allowed : max ≤ maxAllowedSize)
    (missing : Nat) (open_ : allocator.shutdown = false)
    (near : max ≤ allocator.freeBytes + missing * kMinReplenishBytes) :
    ∃ turns size after, allocator.reserve double self min max turns quota = some (size, after) ∧
      min ≤ size ∧ size ≤ max := by
  induction missing generalizing allocator quota with
  | zero =>
    apply reserve_cached self ordered allowed
    have within := @scaledSizeOverMin_le double quota min max
    omega
  | succ missing ih =>
    by_cases cached : min + scaledSizeOverMin double quota min max ≤ allocator.freeBytes
    · exact reserve_cached self ordered allowed cached
    · have within := @scaledSizeOverMin_le double quota min max
      obtain ⟨after, quota', replenished, open', more⟩ :=
        @freeBytes_replenish quota allocator self open_ (by omega)
      obtain ⟨turns, size, final, result, bounds⟩ := @ih quota' after open' (by
        rw [Nat.succ_mul] at near
        omega)
      refine ⟨turns + 1, size, final, ?_, bounds⟩
      have fails : allocator.tryReserveScaled double quota min max = none := by
        rw [tryReserveScaled, tryReserve, if_neg fun all => cached all.2.2.2, Option.map_none]
      rw [reserve, fails, replenished]
      exact result

/-- A request is scaled down just when nothing is free, or so little that its share of the quota
rounds to nothing; `Reserve` returns in any case. -/
theorem scales_iff (double : Rounding) {quota : BasicMemoryQuota} (size : 1 ≤ quota.quotaSize)
    {allocator : Allocator} {min max : Nat} (ordered : min < max) (allowed : max ≤ maxAllowedSize)
    (cached : max ≤ allocator.freeBytes) :
    (allocator.Scales double quota min max ↔
      quota.freeBytes ≤ 0 ∨ 1 ≤ quota.usedShare double) ∧
    ∀ self (other : Allocator) {low high : Nat}, low ≤ high → high ≤ maxAllowedSize →
      other.shutdown = false → ∃ turns size after,
        other.reserve double self low high turns quota = some (size, after) ∧
          low ≤ size ∧ size ≤ high := by
  refine ⟨?_, fun self other low high fits small open_ => ?_⟩
  · rw [← one_le_usedShare_iff size]
    have scaled := @scaledSizeOverMin_eq double quota min max size
    obtain ⟨allocator', reserves⟩ := @tryReserveScaled_eq double quota allocator min max ordered.le
      allowed (by have := @scaledSizeOverMin_le double quota min max; omega)
    constructor
    · rintro ⟨size, after, reserved, -, less, -⟩
      by_contra low
      rw [if_neg low] at scaled
      rw [reserves, scaled] at reserved
      cases reserved
      omega
    · intro full
      rw [if_pos full] at scaled
      rw [scaled] at reserves
      refine ⟨_, _, reserves, le_rfl, ordered, ?_⟩
      have : (0 : Int) ≤ (max - min) * 5 * Max.max 0 quota.freeBytes :=
        mul_nonneg (by omega) (le_max_left _ _)
      simpa using this
  · refine reserve_returns self fits small high open_ ?_
    have : high ≤ high * kMinReplenishBytes := Nat.le_mul_of_pos_right _ (by decide)
    omega

/-- Rounding to 53 bits behind the point, which is that of the numbers between one half and one. -/
def toDouble : Rounding where
  round value := (⌊value * 2 ^ 53 + 1 / 2⌋ : ℚ) / 2 ^ 53
  mono low high ordered := by
    have : ⌊low * 2 ^ 53 + 1 / 2⌋ ≤ ⌊high * 2 ^ 53 + 1 / 2⌋ := Int.floor_mono (by gcongr)
    dsimp only
    gcongr
  round_round value := by
    rw [div_mul_cancel₀ _ (by norm_num), Int.floor_intCast_add]
    norm_num
  round_zero := by norm_num
  round_one := by norm_num
  round_fourFifths := by norm_num

/-- All but a kilobyte of a megabyte is used. -/
def nearlyFull : BasicMemoryQuota := { freeBytes := 1024, quotaSize := 1048576 }

def holding : Allocator := { memoryQuota := 0, freeBytes := 4096, takenBytes := 8192 }

theorem usedShare_nearlyFull : nearlyFull.usedShare toDouble = 1023 / 1024 := by
  norm_num [usedShare, toDouble, nearlyFull]

/-- The whole request is reserved. -/
theorem not_scaled : ¬ holding.Scales toDouble nearlyFull 10 20 := by
  rintro ⟨size, after, reserved, -, less, -⟩
  have whole : scaledSizeOverMin toDouble nearlyFull 10 20 = 10 := by
    rw [scaledSizeOverMin_eq (by decide), usedShare_nearlyFull]
    norm_num
  rw [tryReserveScaled, whole] at reserved
  obtain ⟨_, -, same⟩ := Option.map_eq_some_iff.mp reserved
  cases same
  omega

theorem scales_iff_nearlyFull : ¬ holding.Scales toDouble nearlyFull 10 20 ∧
    ∃ turns size after, holding.reserve toDouble 0 10 20 turns nearlyFull = some (size, after) ∧
      10 ≤ size ∧ size ≤ 20 := by
  have both := @scales_iff toDouble nearlyFull (by decide) holding 10 20 (by decide) (by decide)
    (by decide)
  refine ⟨fun scales => ?_, both.2 0 holding (by decide) (by decide) rfl⟩
  rcases both.1.mp scales with none | full
  · exact absurd none (by decide)
  · rw [usedShare_nearlyFull] at full
    norm_num at full

end Allocator

end GrpcCore.Memory
