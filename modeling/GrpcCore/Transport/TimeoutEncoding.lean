import GrpcCore.Lib.Decimal

/-!
# Timeouts on the wire

`timeout_encoding.cc`: a timeout is rounded up to three significant figures and written with the
largest unit that divides it.
-/

namespace GrpcCore.Transport.Timeout

open Decimal

def GPR_MS_PER_SEC : Nat := 1000
def GPR_NS_PER_MS : Nat := 1000000
def GPR_US_PER_MS : Nat := 1000
def GRPC_HTTP2_TIMEOUT_ENCODE_MIN_BUFSIZE : Nat := 10
def GRPC_MILLIS_INF_FUTURE : Nat := 9223372036854775807

def roundUp (x divisor : Nat) : Nat := (x / divisor + if x % divisor ≠ 0 then 1 else 0) * divisor

def roundUpToThreeSigFigs (x : Nat) : Nat :=
  if x < 1000 then x
  else if x < 10000 then roundUp x 10
  else if x < 100000 then roundUp x 100
  else if x < 1000000 then roundUp x 1000
  else if x < 10000000 then roundUp x 10000
  else if x < 100000000 then roundUp x 100000
  else if x < 1000000000 then roundUp x 1000000
  else roundUp x 10000000

inductive TimeoutUnit where
  | hour
  | minute
  | second
  | millisecond
  | microsecond
  | nanosecond
deriving DecidableEq

/-- The character of a unit. -/
def TimeoutUnit.byte : TimeoutUnit → UInt8
  | hour => 'H'.toUInt8
  | minute => 'M'.toUInt8
  | second => 'S'.toUInt8
  | millisecond => 'm'.toUInt8
  | microsecond => 'u'.toUInt8
  | nanosecond => 'n'.toUInt8

/-- The bytes that are written before the terminating zero. -/
def encTiny : List UInt8 := [49, TimeoutUnit.nanosecond.byte]

def encHuge : List UInt8 := [57, 57, 57, 57, 57, 57, 57, 57, TimeoutUnit.second.byte]

def encExt (value : Nat) (ext : TimeoutUnit) : List UInt8 := Decimal.write value ++ [ext.byte]

def encSeconds (sec : Nat) : List UInt8 :=
  let sec := roundUpToThreeSigFigs sec
  if sec % 3600 = 0 then encExt (sec / 3600) .hour
  else if sec % 60 = 0 then encExt (sec / 60) .minute
  else encExt sec .second

def encMillis (x : Nat) : List UInt8 :=
  let x := roundUpToThreeSigFigs x
  if x < GPR_MS_PER_SEC then encExt x .millisecond
  else if x % GPR_MS_PER_SEC = 0 then encSeconds (x / GPR_MS_PER_SEC)
  else encExt x .millisecond

def kMaxTimeout : Int := 99999999000

/-- `grpc_http2_encode_timeout`; between the first and the third case the timeout is positive. -/
def encodeTimeout (timeout : Int) : List UInt8 :=
  if timeout ≤ 0 then encTiny
  else if timeout < 1000 * GPR_MS_PER_SEC then encMillis timeout.toNat
  else if kMaxTimeout ≤ timeout then encHuge
  else
    encSeconds (timeout.toNat / GPR_MS_PER_SEC +
      if timeout.toNat % GPR_MS_PER_SEC ≠ 0 then 1 else 0)

def skipSpaces (text : List UInt8) : List UInt8 := text.dropWhile (· = 32)

/-- The numeric part, with the number before it and whether there has been a digit. `none` is a
number that is too large. -/
def readNumber : Nat → Bool → List UInt8 → Option (Nat × Bool × List UInt8)
  | x, haveDigit, [] => some (x, haveDigit, [])
  | x, haveDigit, p :: rest =>
    if Decimal.isDigit p then
      let digit := p.toNat - 48
      if 100 * 1000 * 1000 ≤ x ∧ (x ≠ 100 * 1000 * 1000 ∨ digit ≠ 0) then none
      else readNumber (x * 10 + digit) true rest
    else some (x, haveDigit, p :: rest)

/-- The milliseconds of a number with a unit specifier. -/
def unitMillis (x : Nat) (unit : UInt8) : Option Nat :=
  if unit = 'n'.toUInt8 then some (x / GPR_NS_PER_MS + if x % GPR_NS_PER_MS ≠ 0 then 1 else 0)
  else if unit = 'u'.toUInt8 then some (x / GPR_US_PER_MS + if x % GPR_US_PER_MS ≠ 0 then 1 else 0)
  else if unit = 'm'.toUInt8 then some x
  else if unit = 'S'.toUInt8 then some (x * GPR_MS_PER_SEC)
  else if unit = 'M'.toUInt8 then some (x * 60 * GPR_MS_PER_SEC)
  else if unit = 'H'.toUInt8 then some (x * 60 * 60 * GPR_MS_PER_SEC)
  else none

/-- `grpc_http2_decode_timeout`: whether it succeeds, and what it stores. -/
def decodeTimeout (text : List UInt8) : Bool × Option Nat :=
  match readNumber 0 false (skipSpaces text) with
  | none => (true, some GRPC_MILLIS_INF_FUTURE)
  | some (_, false, _) => (false, none)
  | some (x, true, rest) =>
    match skipSpaces rest with
    | [] => (false, none)
    | unit :: rest =>
      match unitMillis x unit with
      | some timeout => (skipSpaces rest = [], some timeout)
      | none => (false, none)

section Rounding

variable {x y divisor : Nat}

structure Rounds (round : Nat → Nat) : Prop where
  mono : Monotone round
  up : ∀ x, x ≤ round x

theorem le_roundUp (positive : 0 < divisor) (x : Nat) : x ≤ roundUp x divisor := by
  have split := Nat.div_add_mod x divisor
  have bound := Nat.mod_lt x positive
  rw [roundUp, Nat.add_mul, Nat.mul_comm (x / divisor)]
  split_ifs with rest
  · omega
  · omega

theorem roundUp_lt (positive : 0 < divisor) (x : Nat) : roundUp x divisor < x + divisor := by
  have split := Nat.div_add_mod x divisor
  rw [roundUp, Nat.add_mul, Nat.mul_comm (x / divisor)]
  split_ifs with rest
  · omega
  · omega

theorem roundUp_le (positive : 0 < divisor) {multiple : Nat} (le : x ≤ multiple * divisor) :
    roundUp x divisor ≤ multiple * divisor := by
  apply Nat.mul_le_mul_right
  split_ifs with rest
  · rw [Nat.add_one_le_iff, Nat.div_lt_iff_lt_mul positive]
    apply Nat.lt_of_le_of_ne le
    rintro rfl
    exact rest (Nat.mul_mod_left multiple divisor)
  · exact Nat.div_le_of_le_mul (Nat.mul_comm _ _ ▸ le)

theorem rounds_roundUp (positive : 0 < divisor) : Rounds (roundUp · divisor) where
  mono _ y le := roundUp_le positive (Nat.le_trans le (le_roundUp positive y))
  up := le_roundUp positive

theorem Rounds.below {round : Nat → Nat} (rounds : Rounds round) {bound : Nat}
    (positive : 0 < divisor) (divides : bound / divisor * divisor = bound) :
    Rounds fun x => if x < bound then roundUp x divisor else round x where
  mono x y le := by
    dsimp only
    split_ifs with first second
    · exact (rounds_roundUp positive).mono le
    · have whole : roundUp x divisor ≤ bound / divisor * divisor :=
        roundUp_le positive (by rw [divides]; exact Nat.le_of_lt first)
      rw [divides] at whole
      exact Nat.le_trans whole (Nat.le_trans (Nat.le_of_not_lt second) (rounds.up y))
    · omega
    · exact rounds.mono le
  up x := by
    split_ifs
    · exact le_roundUp positive x
    · exact rounds.up x

theorem roundUp_one (x : Nat) : roundUp x 1 = x := by
  rw [roundUp, Nat.mod_one, Nat.div_one]
  exact Nat.mul_one x

theorem rounds_toThreeSigFigs : Rounds roundUpToThreeSigFigs := by
  have exactBelow (x : Nat) : roundUpToThreeSigFigs x =
      if x < 1000 then roundUp x 1
      else if x < 10000 then roundUp x 10
      else if x < 100000 then roundUp x 100
      else if x < 1000000 then roundUp x 1000
      else if x < 10000000 then roundUp x 10000
      else if x < 100000000 then roundUp x 100000
      else if x < 1000000000 then roundUp x 1000000
      else roundUp x 10000000 := by
    rw [roundUp_one, roundUpToThreeSigFigs]
  rw [funext exactBelow]
  iterate 7 apply Rounds.below _ (by decide) (by decide)
  exact rounds_roundUp (by decide)

theorem roundUpToThreeSigFigs_le (x : Nat) : roundUpToThreeSigFigs x ≤ x + x / 100 := by
  have close {divisor : Nat} (positive : 0 < divisor) (large : 100 * divisor ≤ x) :
      roundUp x divisor ≤ x + x / 100 := by
    have less := roundUp_lt positive x
    omega
  unfold roundUpToThreeSigFigs
  split_ifs
  · exact Nat.le_add_right x _
  all_goals exact close (by decide) (by omega)

end Rounding

section Decoding

theorem readNumber_write {n : Nat} (small : n < 1000000000) (haveDigit : Bool) (rest : List UInt8) :
    readNumber 0 haveDigit (write n ++ rest) = readNumber n true rest := by
  induction n using Nat.strongRecOn generalizing rest with
  | _ n ih =>
    rcases Nat.lt_or_ge n 10 with one | more
    · have value : (digit n).toNat - 48 = n := by
        rw [toNat_digit one, Nat.add_sub_cancel_left]
      rw [write_of_lt one, List.singleton_append, readNumber, if_pos (isDigit_digit one), value]
      rw [if_neg (by omega), Nat.zero_mul, Nat.zero_add]
    · have last : n % 10 < 10 := Nat.mod_lt n (by decide)
      have value : (digit (n % 10)).toNat - 48 = n % 10 := by
        rw [toNat_digit last, Nat.add_sub_cancel_left]
      have whole : n / 10 * 10 + n % 10 = n := Nat.div_add_mod' n 10
      rw [write_of_le more, List.append_assoc, ih _ (by omega) (by omega),
        List.singleton_append, readNumber, if_pos (isDigit_digit last), value]
      rw [if_neg (by omega), whole]

theorem not_isDigit_byte (unit : TimeoutUnit) : isDigit unit.byte = false := by
  cases unit <;> rfl

theorem skipSpaces_write (n : Nat) (rest : List UInt8) :
    skipSpaces (write n ++ rest) = write n ++ rest := by
  cases written : write n with
  | nil => exact absurd written (write_ne_nil n)
  | cons first others =>
    have isDigit : Decimal.isDigit first = true :=
      isDigit_of_mem_write (written ▸ List.mem_cons_self)
    have notSpace : first ≠ 32 := by
      rintro rfl
      exact nomatch isDigit
    rw [skipSpaces, List.cons_append, List.dropWhile_cons_of_neg]
    rw [decide_eq_true_eq]
    exact notSpace

theorem decodeTimeout_encExt {value : Nat} (small : value < 1000000000) (ext : TimeoutUnit) :
    decodeTimeout (encExt value ext) = (true, unitMillis value ext.byte) := by
  have stop : readNumber value true [ext.byte] = some (value, true, [ext.byte]) := by
    rw [readNumber, not_isDigit_byte]
    rfl
  have unit : ∃ timeout, unitMillis value ext.byte = some timeout := by
    cases ext <;> exact ⟨_, rfl⟩
  obtain ⟨timeout, isUnit⟩ := unit
  have notSpace : skipSpaces [ext.byte] = [ext.byte] := by
    cases ext <;> rfl
  rw [decodeTimeout, encExt, skipSpaces_write, readNumber_write small, stop]
  dsimp only
  rw [notSpace]
  dsimp only
  rw [isUnit]
  rfl

theorem unitMillis_hour (x : Nat) :
    unitMillis x TimeoutUnit.hour.byte = some (x * 60 * 60 * GPR_MS_PER_SEC) := by
  rw [unitMillis, if_neg (by decide), if_neg (by decide), if_neg (by decide), if_neg (by decide),
    if_neg (by decide), if_pos (by decide)]

theorem unitMillis_minute (x : Nat) :
    unitMillis x TimeoutUnit.minute.byte = some (x * 60 * GPR_MS_PER_SEC) := by
  rw [unitMillis, if_neg (by decide), if_neg (by decide), if_neg (by decide), if_neg (by decide),
    if_pos (by decide)]

theorem decodeTimeout_encSeconds {sec : Nat} (small : sec ≤ 100000000) :
    decodeTimeout (encSeconds sec) = (true, some (roundUpToThreeSigFigs sec * 1000)) := by
  have bound := rounds_toThreeSigFigs.mono small
  change _ ≤ 100000000 at bound
  rw [encSeconds]
  generalize roundUpToThreeSigFigs sec = rounded at bound
  split_ifs with hours minutes
  · have whole : rounded / 3600 * 60 * 60 = rounded := by omega
    rw [decodeTimeout_encExt (by omega), unitMillis_hour, whole, GPR_MS_PER_SEC]
  · have whole : rounded / 60 * 60 = rounded := by omega
    rw [decodeTimeout_encExt (by omega), unitMillis_minute, whole, GPR_MS_PER_SEC]
  · rw [decodeTimeout_encExt (by omega)]
    rfl

theorem roundUpToThreeSigFigs_of_le {x : Nat} (small : x ≤ 1000) : roundUpToThreeSigFigs x = x := by
  rcases Nat.lt_or_eq_of_le small with less | same
  · rw [roundUpToThreeSigFigs, if_pos less]
  · rw [same]
    decide

theorem decodeTimeout_encMillis {x : Nat} (small : x ≤ 1000000) :
    decodeTimeout (encMillis x) = (true, some (roundUpToThreeSigFigs x)) := by
  have bound := rounds_toThreeSigFigs.mono small
  change _ ≤ 1000000 at bound
  rw [encMillis]
  generalize roundUpToThreeSigFigs x = rounded at bound
  rw [GPR_MS_PER_SEC]
  split_ifs with short whole
  · exact decodeTimeout_encExt (by omega) _
  · have same : rounded / 1000 * 1000 = rounded := by omega
    rw [decodeTimeout_encSeconds (by omega), roundUpToThreeSigFigs_of_le (by omega), same]
  · exact decodeTimeout_encExt (by omega) _

end Decoding

section RoundTrip

variable {s t : Int}

def decoded (t : Nat) : Nat :=
  if t < 1000000 then roundUpToThreeSigFigs t
  else roundUpToThreeSigFigs (t / 1000 + if t % 1000 ≠ 0 then 1 else 0) * 1000

theorem decodeTimeout_encodeTimeout (positive : 0 < t) (small : t < kMaxTimeout) :
    decodeTimeout (encodeTimeout t) = (true, some (decoded t.toNat)) := by
  have limit : t < 99999999000 := small
  have milli : 1000 * (GPR_MS_PER_SEC : Int) = 1000000 := rfl
  rw [encodeTimeout, if_neg (Int.not_le.mpr positive), milli, decoded]
  by_cases short : t < 1000000
  · rw [if_pos short, if_pos (by omega), decodeTimeout_encMillis (by omega)]
  · have short' : ¬ t.toNat < 1000000 := by omega
    have fits : (t.toNat / 1000 + if t.toNat % 1000 ≠ 0 then 1 else 0) ≤ 100000000 := by
      split_ifs <;> omega
    rw [if_neg short, if_neg (Int.not_le.mpr small), if_neg short', GPR_MS_PER_SEC,
      decodeTimeout_encSeconds fits]

theorem decoded_bounds (t : Nat) : t ≤ decoded t ∧ decoded t ≤ t + t / 50 := by
  unfold decoded
  split_ifs with short rest
  · have up := rounds_toThreeSigFigs.up t
    have close := roundUpToThreeSigFigs_le t
    omega
  · have up := rounds_toThreeSigFigs.up (t / 1000 + 1)
    have close := roundUpToThreeSigFigs_le (t / 1000 + 1)
    omega
  · have up := rounds_toThreeSigFigs.up (t / 1000 + 0)
    have close := roundUpToThreeSigFigs_le (t / 1000 + 0)
    omega

theorem decoded_mono : Monotone decoded := by
  intro s t le
  have seconds : (s / 1000 + if s % 1000 ≠ 0 then 1 else 0) ≤
      (t / 1000 + if t % 1000 ≠ 0 then 1 else 0) := by
    split_ifs <;> omega
  unfold decoded
  by_cases short : t < 1000000
  · rw [if_pos short, if_pos (by omega)]
    exact rounds_toThreeSigFigs.mono le
  · rw [if_neg short]
    by_cases short' : s < 1000000
    · rw [if_pos short']
      have bound := rounds_toThreeSigFigs.mono (Nat.le_of_lt short')
      have up := (decoded_bounds t).1
      rw [decoded, if_neg short] at up
      have million : roundUpToThreeSigFigs 1000000 = 1000000 := by decide
      omega
    · rw [if_neg short']
      exact Nat.mul_le_mul_right 1000 (rounds_toThreeSigFigs.mono seconds)

/-- A timeout comes back rounded up by at most a fiftieth, a longer one never shorter than a shorter
one, and one that has passed as at most a millisecond. -/
theorem timeout_propagates :
    (∀ t : Int, 0 < t → t < 99999999000 → ∃ t' : Nat,
      decodeTimeout (encodeTimeout t) = (true, some t') ∧ t ≤ t' ∧ t' ≤ t + t / 50) ∧
    (∀ s t : Int, 0 < s → s ≤ t → t < 99999999000 → ∀ s' t' : Nat,
      decodeTimeout (encodeTimeout s) = (true, some s') →
        decodeTimeout (encodeTimeout t) = (true, some t') → s' ≤ t') ∧
    ∀ t : Int, t ≤ 0 → ∃ t' : Nat, decodeTimeout (encodeTimeout t) = (true, some t') ∧ t' ≤ 1 := by
  refine ⟨fun t positive small => ?_, fun s t positive le small s' t' isS isT => ?_,
    fun t passed => ?_⟩
  · obtain ⟨up, close⟩ := decoded_bounds t.toNat
    refine ⟨decoded t.toNat, decodeTimeout_encodeTimeout positive small, ?_, ?_⟩
    · omega
    · omega
  · rw [decodeTimeout_encodeTimeout positive (Int.lt_of_le_of_lt le small)] at isS
    rw [decodeTimeout_encodeTimeout (Int.lt_of_lt_of_le positive le) small] at isT
    rw [← Option.some.inj (Prod.mk.inj isS).2, ← Option.some.inj (Prod.mk.inj isT).2]
    exact decoded_mono (Int.toNat_le_toNat le)
  · refine ⟨1, ?_, Nat.le_refl 1⟩
    rw [encodeTimeout, if_pos passed]
    decide

theorem timeout_propagates_second : ∃ t' : Nat,
    decodeTimeout (encodeTimeout 1234) = (true, some t') ∧ (1234 : Int) ≤ t' ∧
      (t' : Int) ≤ 1234 + 1234 / 50 :=
  timeout_propagates.1 1234 (by decide) (by decide)

end RoundTrip

section Grammar

/-- A timeout value of the wire: one to eight digits and a unit. -/
def IsTimeoutValue (text : List UInt8) : Prop :=
  ∃ digits, ∃ unit : TimeoutUnit, text = digits ++ [unit.byte] ∧ 0 < digits.length ∧
    digits.length ≤ 8 ∧ ∀ byte ∈ digits, Decimal.isDigit byte = true

/-- The text and its terminating zero are inside the buffer of the callers. -/
def FitsBuffer (text : List UInt8) : Prop :=
  text.length + 1 ≤ GRPC_HTTP2_TIMEOUT_ENCODE_MIN_BUFSIZE

theorem fitsBuffer_encExt_iff (value : Nat) (ext : TimeoutUnit) :
    FitsBuffer (encExt value ext) ↔ value < 100000000 := by
  rw [FitsBuffer, encExt, List.length_append, List.length_singleton,
    GRPC_HTTP2_TIMEOUT_ENCODE_MIN_BUFSIZE, Nat.add_assoc]
  have digits := length_write_le_iff (n := value) (k := 8) (by decide)
  omega

theorem isTimeoutValue_encExt {value : Nat} (small : value < 100000000) (ext : TimeoutUnit) :
    IsTimeoutValue (encExt value ext) := by
  refine ⟨write value, ext, rfl, List.length_pos_of_ne_nil (write_ne_nil value), ?_,
    fun byte => isDigit_of_mem_write⟩
  exact (length_write_le_iff (by decide)).mpr small

theorem encExt_right_iff (value : Nat) (ext : TimeoutUnit) :
    IsTimeoutValue (encExt value ext) ∧ FitsBuffer (encExt value ext) ↔ value < 100000000 := by
  constructor
  · exact fun ⟨_, fits⟩ => (fitsBuffer_encExt_iff value ext).mp fits
  · exact fun small => ⟨isTimeoutValue_encExt small ext, (fitsBuffer_encExt_iff value ext).mpr small⟩

theorem encSeconds_right_iff {sec : Nat} (small : sec ≤ 100000000) :
    IsTimeoutValue (encSeconds sec) ∧ FitsBuffer (encSeconds sec) ↔ sec ≤ 99900000 := by
  have bound := rounds_toThreeSigFigs.mono small
  have maximum : roundUpToThreeSigFigs 100000000 = 100000000 := by decide
  have below : roundUpToThreeSigFigs sec < 100000000 ↔ sec ≤ 99900000 := by
    constructor
    · intro below
      by_contra above
      have least := rounds_toThreeSigFigs.mono (Nat.lt_of_not_le above)
      exact absurd below (Nat.not_lt.mpr least)
    · intro le
      exact Nat.lt_of_le_of_lt (rounds_toThreeSigFigs.mono le) (by decide)
  rw [← below, encSeconds]
  generalize roundUpToThreeSigFigs sec = rounded at bound
  split_ifs
  · rw [encExt_right_iff]
    omega
  · rw [encExt_right_iff]
    omega
  · exact encExt_right_iff rounded .second

theorem encMillis_right {x : Nat} (small : x ≤ 1000000) :
    IsTimeoutValue (encMillis x) ∧ FitsBuffer (encMillis x) := by
  have bound := rounds_toThreeSigFigs.mono small
  have maximum : roundUpToThreeSigFigs 1000000 = 1000000 := by decide
  rw [encMillis, GPR_MS_PER_SEC]
  split_ifs
  · exact (encExt_right_iff _ _).mpr (by omega)
  · exact (encSeconds_right_iff (by omega)).mpr (by omega)
  · exact (encExt_right_iff _ _).mpr (by omega)

/-- A timeout is written as the wire has it, and in the buffer, exactly if it is not close below
the maximum. -/
theorem encodeTimeout_right_iff (timeout : Int) :
    IsTimeoutValue (encodeTimeout timeout) ∧ FitsBuffer (encodeTimeout timeout) ↔
      ¬ (99900000000 < timeout ∧ timeout < 99999999000) := by
  have milli : 1000 * (GPR_MS_PER_SEC : Int) = 1000000 := rfl
  have maximum : kMaxTimeout = 99999999000 := rfl
  rw [encodeTimeout, milli]
  split_ifs with passed short long rest
  · refine iff_of_true ⟨⟨[49], .nanosecond, rfl, by decide, by decide,
      List.all_eq_true.mp (by decide)⟩, ?_⟩ (by omega)
    exact (by decide : encTiny.length + 1 ≤ 10)
  · exact iff_of_true (encMillis_right (by omega)) (by omega)
  · refine iff_of_true ⟨⟨List.replicate 8 57, .second, rfl, by decide, by decide,
      List.all_eq_true.mp (by decide)⟩, ?_⟩
      (by omega)
    exact (by decide : encHuge.length + 1 ≤ 10)
  · rw [GPR_MS_PER_SEC] at rest ⊢
    rw [encSeconds_right_iff (by omega)]
    omega
  · rw [GPR_MS_PER_SEC] at rest ⊢
    rw [encSeconds_right_iff (by omega)]
    omega

/-- 99950000 seconds are written as 100000000, which is one digit too many. -/
theorem encodeTimeout_overflows : ¬ (IsTimeoutValue (encodeTimeout 99950000000) ∧
    FitsBuffer (encodeTimeout 99950000000)) ∧ encodeTimeout 99950000000 = encExt 100000000 .second := by
  have written : encodeTimeout 99950000000 = encExt 100000000 .second := by
    have rounded : roundUpToThreeSigFigs 99950000 = 100000000 := by decide
    have seconds : encSeconds 99950000 = encExt 100000000 .second := by
      rw [encSeconds, rounded]
      rfl
    exact seconds
  rw [written, encExt_right_iff]
  exact ⟨by decide, rfl⟩

end Grammar

end GrpcCore.Transport.Timeout
