import Mathlib

/-!
# Percent escapes

Texts in which a byte stands for itself, or behind a percent sign as two hexadecimal digits, which
are written with capital letters and read in either case.
-/

namespace Hex

def digit (value : UInt8) : UInt8 := if value < 10 then 48 + value else 55 + value

def isDigit (byte : UInt8) : Bool :=
  (48 ≤ byte && byte ≤ 57) || (97 ≤ byte && byte ≤ 102) || (65 ≤ byte && byte ≤ 70)

def value (byte : UInt8) : Option UInt8 :=
  if 48 ≤ byte && byte ≤ 57 then some (byte - 48)
  else if 65 ≤ byte && byte ≤ 70 then some (byte - 65 + 10)
  else if 97 ≤ byte && byte ≤ 102 then some (byte - 97 + 10)
  else none

def high (byte : UInt8) : UInt8 := byte >>> 4

def low (byte : UInt8) : UInt8 := byte &&& 15

def join (high low : UInt8) : UInt8 := (high <<< 4) ||| low

theorem isSome_value (byte : UInt8) : (value byte).isSome = isDigit byte := by
  unfold value isDigit
  grind

theorem value_digit {half : UInt8} (small : half < 16) : value (digit half) = some half := by
  unfold value digit
  grind

theorem toNat_high (byte : UInt8) : (high byte).toNat = byte.toNat / 16 := by
  rw [high, UInt8.toNat_shiftRight, Nat.shiftRight_eq_div_pow]
  rfl

theorem toNat_low (byte : UInt8) : (low byte).toNat = byte.toNat % 16 := by
  exact Nat.and_two_pow_sub_one_eq_mod byte.toNat 4

theorem high_lt (byte : UInt8) : high byte < 16 := by
  rw [UInt8.lt_iff_toNat_lt, toNat_high]
  exact Nat.div_lt_of_lt_mul byte.toNat_lt

theorem low_lt (byte : UInt8) : low byte < 16 := by
  rw [UInt8.lt_iff_toNat_lt, toNat_low]
  exact Nat.mod_lt byte.toNat (by decide)

theorem join_halves (byte : UInt8) : join (high byte) (low byte) = byte := by
  apply UInt8.toNat_inj.mp
  have bound : byte.toNat / 16 < 16 := Nat.div_lt_of_lt_mul byte.toNat_lt
  have fits : (byte.toNat / 16) <<< 4 < 2 ^ 8 := by
    omega
  rw [join, UInt8.toNat_or, UInt8.toNat_shiftLeft, toNat_high, toNat_low]
  change (byte.toNat / 16) <<< 4 % 2 ^ 8 ||| byte.toNat % 16 = byte.toNat
  rw [Nat.mod_eq_of_lt fits,
    ← Nat.shiftLeft_add_eq_or_of_lt (Nat.mod_lt byte.toNat (by decide : 0 < 2 ^ 4)),
    Nat.shiftLeft_eq]
  omega

end Hex

namespace PercentEscapes

def percent : UInt8 := '%'.toUInt8

/-- A text and the bytes it spells; only plain bytes stand for themselves. -/
inductive Spells (plain : UInt8 → Prop) : List UInt8 → List UInt8 → Prop where
  | nil : Spells plain [] []
  | plain {byte : UInt8} {text bytes : List UInt8} (other : byte ≠ percent) (allowed : plain byte)
      (rest : Spells plain text bytes) : Spells plain (byte :: text) (byte :: bytes)
  | escaped {first second high low : UInt8} {text bytes : List UInt8}
      (readHigh : Hex.value first = some high) (readLow : Hex.value second = some low)
      (rest : Spells plain text bytes) :
      Spells plain (percent :: first :: second :: text) (Hex.join high low :: bytes)

variable {plain : UInt8 → Prop} {text bytes : List UInt8}

theorem Spells.escape (byte : UInt8) (rest : Spells plain text bytes) :
    Spells plain (percent :: Hex.digit (Hex.high byte) :: Hex.digit (Hex.low byte) :: text)
      (byte :: bytes) := by
  have escaped := Spells.escaped (Hex.value_digit (Hex.high_lt byte))
    (Hex.value_digit (Hex.low_lt byte)) rest
  rwa [Hex.join_halves] at escaped

theorem Spells.mono {weaker : UInt8 → Prop} (implied : ∀ byte, plain byte → weaker byte)
    (spells : Spells plain text bytes) : Spells weaker text bytes := by
  induction spells with
  | nil => exact .nil
  | plain other allowed rest ih =>
    exact .plain other (implied _ allowed) ih
  | escaped readHigh readLow rest ih =>
    exact .escaped readHigh readLow ih

theorem Spells.cons_inv {byte : UInt8} (other : byte ≠ percent)
    (spells : Spells plain (byte :: text) bytes) :
    ∃ rest, bytes = byte :: rest ∧ Spells plain text rest := by
  cases spells with
  | plain other allowed rest => exact ⟨_, rfl, rest⟩
  | escaped => exact absurd rfl other

section

variable (spells : Spells plain text bytes)
include spells

theorem Spells.append {text' bytes' : List UInt8} (spells' : Spells plain text' bytes') :
    Spells plain (text ++ text') (bytes ++ bytes') := by
  induction spells with
  | nil => exact spells'
  | plain other allowed rest ih => exact .plain other allowed ih
  | escaped readHigh readLow rest ih =>
    exact .escaped readHigh readLow ih

theorem Spells.eq_of_not_mem (none : percent ∉ text) : text = bytes := by
  induction spells with
  | nil => rfl
  | plain other allowed rest ih =>
    rw [ih fun listed => none (List.mem_cons_of_mem _ listed)]
  | escaped => exact absurd List.mem_cons_self none

theorem Spells.length_le : bytes.length ≤ text.length := by
  induction spells with
  | nil => exact Nat.le_refl 0
  | plain other allowed rest ih => exact Nat.succ_le_succ ih
  | escaped readHigh readLow rest ih =>
    exact Nat.succ_le_succ (Nat.le_succ_of_le (Nat.le_succ_of_le ih))

theorem Spells.length_lt (escaped : percent ∈ text) : bytes.length < text.length := by
  induction spells with
  | nil => exact absurd escaped List.not_mem_nil
  | plain other allowed rest ih =>
    apply Nat.succ_lt_succ
    exact ih (List.mem_of_ne_of_mem other.symm escaped)
  | escaped readHigh readLow rest =>
    exact Nat.succ_lt_succ (Nat.lt_succ_of_lt (Nat.lt_succ_of_le rest.length_le))

theorem Spells.eq_nil_iff : text = [] ↔ bytes = [] := by
  cases spells with
  | nil => exact Iff.rfl
  | plain | escaped => exact iff_of_false (List.cons_ne_nil _ _) (List.cons_ne_nil _ _)

end

theorem ne_percent_of_value {byte half : UInt8} (read : Hex.value byte = some half) :
    byte ≠ percent := by
  rintro rfl
  have unread : Hex.value percent = none := by decide
  exact absurd (unread.symm.trans read) nofun

theorem Spells.forall_mem {holds : UInt8 → Prop} (spells : Spells plain text bytes)
    (ofPlain : ∀ byte, plain byte → holds byte) (ofPercent : holds percent)
    (ofDigit : ∀ byte half, Hex.value byte = some half → holds byte) : ∀ byte ∈ text, holds byte := by
  induction spells with
  | nil => exact List.forall_mem_nil _
  | plain other allowed rest ih =>
    exact List.forall_mem_cons.mpr ⟨ofPlain _ allowed, ih⟩
  | escaped readHigh readLow rest ih =>
    exact List.forall_mem_cons.mpr ⟨ofPercent, List.forall_mem_cons.mpr ⟨ofDigit _ _ readHigh,
      List.forall_mem_cons.mpr ⟨ofDigit _ _ readLow, ih⟩⟩⟩

theorem Spells.drop (spells : Spells plain text bytes) (n : Nat) :
    ∃ digits text' bytes', text.drop n = digits ++ text' ∧ percent ∉ digits ∧
      Spells plain text' bytes' := by
  induction spells generalizing n with
  | nil => exact ⟨[], [], [], List.drop_nil, List.not_mem_nil, .nil⟩
  | plain other allowed rest ih =>
    cases n with
    | zero => exact ⟨[], _, _, rfl, List.not_mem_nil, .plain other allowed rest⟩
    | succ n => exact ih n
  | @escaped first second high low text bytes readHigh readLow rest ih =>
    have noFirst := (ne_percent_of_value readHigh).symm
    have noSecond := (ne_percent_of_value readLow).symm
    match n with
    | 0 => exact ⟨[], _, _, rfl, List.not_mem_nil, .escaped readHigh readLow rest⟩
    | 1 => exact ⟨[first, second], text, bytes, rfl, by simp [noFirst, noSecond], rest⟩
    | 2 => exact ⟨[second], text, bytes, rfl, by simp [noSecond], rest⟩
    | n + 3 => exact ih n

end PercentEscapes
