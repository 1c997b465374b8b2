import GrpcCore.ClientChannel.LbConfig

/-!
# Durations in JSON

Which texts `ParseDurationFromJson` takes for a duration. A character stands for a byte.
-/

namespace GrpcCore.Json

open ClientChannel (isSpace strtol parseNonnegativeInt)

/-- What stands before the first point, and behind it. -/
def splitPoint (text : List Char) : List Char × Option (List Char) :=
  (text.takeWhile (· ≠ '.'), (text.dropWhile (· ≠ '.')).tail?)

/-- The nanoseconds of a fraction: every digit that is missing multiplies by ten. -/
def parseNanos : Option (List Char) → Option Nat
  | none => some 0
  | some decimals =>
    (parseNonnegativeInt (.ofList decimals)).bind fun nanos =>
      if 9 < decimals.length then none else some (nanos * 10 ^ (9 - decimals.length))

def parseSeconds (whole : List Char) (fraction : Option (List Char)) : Option Nat :=
  if whole = [] ∧ fraction.isSome then some 0 else parseNonnegativeInt (.ofList whole)

/-- The result for the parts of a text; there is none when an `int` overflows. -/
def parseParts (whole : List Char) (fraction : Option (List Char)) : Option (Option Nat) :=
  match parseNanos fraction, parseSeconds whole fraction with
  | some nanos, some seconds =>
    if nanos ≤ 2147483647 ∧ seconds * 1000 + nanos / 1000000 ≤ 2147483647 then
      some (some (seconds * 1000 + nanos / 1000000))
    else none
  | _, _ => some none

/-- `ParseDurationFromJson` for a string, in milliseconds. There is no result when memory beside
the text is touched. -/
def parseDurationFromJson (text : List Char) : Option (Option Nat) :=
  if text = [] then none
  else if text.getLast? ≠ some 's' then some none
  else
    -- the copy ends with the first zero byte, but the `s` is removed at the length of the text
    let copy := text.takeWhile (· ≠ '\x00')
    if copy.length + 1 < text.length then none
    else
      let (whole, fraction) := splitPoint (copy.take (text.length - 1))
      parseParts whole fraction

section Specification

def numeral (digits : List Char) : Nat :=
  digits.foldl (fun value digit => value * 10 + (digit.toNat - 48)) 0

def IsNumeral (digits : List Char) : Prop := digits ≠ [] ∧ ∀ c ∈ digits, c.isDigit = true

def pointed : Option (List Char) → List Char
  | none => []
  | some decimals => '.' :: decimals

/-- The duration in whole milliseconds, rounded down. -/
def toMillis (whole : List Char) (fraction : Option (List Char)) : Nat :=
  numeral (whole ++ fraction.getD []) * 1000 / 10 ^ (fraction.getD []).length

def Numerals (whole : List Char) (fraction : Option (List Char)) : Prop :=
  IsNumeral whole ∧ numeral whole ≤ 2147483647 ∧
    ∀ decimals ∈ fraction, IsNumeral decimals ∧ decimals.length ≤ 9

/-- The text is a duration of so many milliseconds. -/
def Stands (text : List Char) (millis : Nat) : Prop :=
  ∃ whole fraction, text = whole ++ pointed fraction ++ ['s'] ∧ Numerals whole fraction ∧
    millis = toMillis whole fraction

/-- The text is read inside its bounds, and for what it stands for. -/
def Exact (text : List Char) : Prop :=
  ∃ result, parseDurationFromJson text = some result ∧
    ∀ millis, result = some millis ↔ Stands text millis

/-- `gpr_parse_nonnegative_int` refuses no part, and the fraction is short. -/
def Accepted (whole : List Char) (fraction : Option (List Char)) : Prop :=
  parseNonnegativeInt (.ofList whole) ≠ none ∧
    ∀ decimals ∈ fraction, parseNonnegativeInt (.ofList decimals) ≠ none ∧ decimals.length ≤ 9

/-- A text with an `s` at its end has no zero byte. When its parts are accepted, they are digits,
and the milliseconds fit into an `int`. -/
def Regular (text : List Char) : Prop :=
  text ≠ [] ∧ ∀ whole fraction, '.' ∉ whole → text = whole ++ pointed fraction ++ ['s'] →
    '\x00' ∉ text ∧ (Accepted whole fraction →
      IsNumeral whole ∧ (∀ decimals ∈ fraction, IsNumeral decimals) ∧
        toMillis whole fraction ≤ 2147483647)

end Specification

section Numerals

variable {digits whole decimals : List Char} {fraction : Option (List Char)}

theorem isDigit_bounds {c : Char} (digit : c.isDigit = true) : 48 ≤ c.toNat ∧ c.toNat ≤ 57 := by
  rw [Char.isDigit, Bool.and_eq_true, decide_eq_true_eq, decide_eq_true_eq] at digit
  exact ⟨digit.1, digit.2⟩

theorem ne_of_isDigit {c other : Char} (digit : c.isDigit = true) (noDigit : other.isDigit = false) :
    c ≠ other := by
  rintro rfl
  exact Bool.false_ne_true (noDigit.symm.trans digit)

theorem numeral_concat (digits : List Char) (last : Char) :
    numeral (digits ++ [last]) = numeral digits * 10 + (last.toNat - 48) := by
  unfold numeral
  rw [List.foldl_concat]

theorem numeral_append (digits decimals : List Char) :
    numeral (digits ++ decimals) = numeral digits * 10 ^ decimals.length + numeral decimals := by
  induction decimals using List.reverseRecOn with
  | nil => simp [numeral]
  | append_singleton decimals last ih =>
    rw [← List.append_assoc, numeral_concat, ih, numeral_concat, List.length_append,
      List.length_singleton]
    ring

theorem numeral_lt (all : ∀ c ∈ digits, c.isDigit = true) : numeral digits < 10 ^ digits.length := by
  induction digits using List.reverseRecOn with
  | nil => decide
  | append_singleton digits last ih =>
    have small := ih fun c listed => all c (List.mem_append_left _ listed)
    have bounds := isDigit_bounds (all last (List.mem_append_right _ (List.mem_singleton_self _)))
    rw [numeral_concat, List.length_append, List.length_singleton, Nat.pow_succ]
    omega

theorem strtol_numeral (isNumeral : IsNumeral digits) :
    strtol digits = (min 9223372036854775807 (numeral digits : Int), []) := by
  obtain ⟨nonempty, all⟩ := isNumeral
  cases digits with
  | nil => exact absurd rfl nonempty
  | cons first rest =>
    have digit := all first List.mem_cons_self
    have bounds := isDigit_bounds digit
    have noSpace : isSpace first = false := by
      unfold isSpace
      simp
      omega
    have taken : (first :: rest).takeWhile Char.isDigit = first :: rest :=
      List.takeWhile_eq_self_iff.mpr all
    have left : (first :: rest).dropWhile Char.isDigit = [] := List.dropWhile_eq_nil_iff.mpr all
    have noMinus := @ne_of_isDigit _ '-' digit rfl
    have noPlus := @ne_of_isDigit _ '+' digit rfl
    unfold strtol
    rw [List.dropWhile_cons_of_neg (by simp [noSpace])]
    split
    next sign number parsed =>
      have parsed : (1, first :: rest) = (sign, number) := by
        rw [← parsed]
        split
        · next equal => exact absurd (List.cons.inj equal).1 noMinus
        · next equal => exact absurd (List.cons.inj equal).1 noPlus
        · rfl
      obtain ⟨rfl, rfl⟩ := Prod.mk.inj parsed
      rw [taken, left]
      dsimp only
      rw [List.isEmpty_cons, if_neg Bool.false_ne_true, one_mul]
      have : -9223372036854775808 ≤ min 9223372036854775807 (numeral (first :: rest) : Int) := by
        omega
      exact congrArg (·, []) (max_eq_right this)

theorem parse_numeral (isNumeral : IsNumeral digits) :
    parseNonnegativeInt (.ofList digits) =
      if numeral digits ≤ 2147483647 then some (numeral digits) else none := by
  rw [parseNonnegativeInt, String.toList_ofList, strtol_numeral isNumeral]
  simp only [List.isEmpty_nil, Bool.not_true, Bool.false_or, Bool.or_eq_true, decide_eq_true_eq]
  split_ifs with refused small small
  · omega
  · rfl
  · congr 1
    omega
  · omega

theorem toMillis_eq (short : ∀ decimals ∈ fraction, decimals.length ≤ 9) :
    toMillis whole fraction = numeral whole * 1000 +
      numeral (fraction.getD []) * 10 ^ (9 - (fraction.getD []).length) / 1000000 := by
  have short : (fraction.getD []).length ≤ 9 := by
    cases fraction with
    | none => exact Nat.zero_le 9
    | some decimals => exact short decimals rfl
  unfold toMillis
  generalize fraction.getD [] = decimals at short ⊢
  have scale : 10 ^ decimals.length * 10 ^ (9 - decimals.length) = 1000000 * 1000 := by
    rw [← Nat.pow_add, Nat.add_sub_cancel' short]
  have positive : 0 < 10 ^ (9 - decimals.length) := Nat.pow_pos (by decide)
  rw [numeral_append, Nat.add_mul, Nat.mul_right_comm, Nat.add_comm,
    Nat.add_mul_div_right _ _ (Nat.pow_pos (by decide)), Nat.add_comm]
  rw [← Nat.mul_div_mul_right _ _ positive, scale, Nat.mul_right_comm,
    Nat.mul_div_mul_right _ _ (by decide)]

end Numerals

section Reading

variable {text whole : List Char} {fraction : Option (List Char)}

theorem pointed_splitPoint (text : List Char) :
    (splitPoint text).1 ++ pointed (splitPoint text).2 = text := by
  unfold splitPoint
  cases rest : text.dropWhile (· ≠ '.') with
  | nil =>
    have whole := @List.takeWhile_append_dropWhile _ (· ≠ '.') text
    rw [rest] at whole
    exact whole
  | cons point decimals =>
    have whole := @List.takeWhile_append_dropWhile _ (· ≠ '.') text
    have isPoint := List.head?_dropWhile_not (· ≠ '.') text
    simp only [rest, List.head?_cons] at isPoint
    obtain rfl : point = '.' := by simpa using isPoint
    rw [rest] at whole
    exact whole

theorem splitPoint_pointed (noPoint : '.' ∉ whole) :
    splitPoint (whole ++ pointed fraction) = (whole, fraction) := by
  have all : ∀ c ∈ whole, decide (c ≠ '.') = true := fun c listed =>
    decide_eq_true fun equal => noPoint (equal ▸ listed)
  unfold splitPoint
  rw [List.takeWhile_append_of_pos all, List.dropWhile_append_of_pos all]
  cases fraction with
  | none => exact congrArg (·, none) (List.append_nil whole)
  | some decimals => simp [pointed]

theorem parse_eq (noNul : '\x00' ∉ text) (noPoint : '.' ∉ whole)
    (parts : text = whole ++ pointed fraction ++ ['s']) :
    parseDurationFromJson text = parseParts whole fraction := by
  have copied : text.takeWhile (· ≠ '\x00') = text := by
    rw [List.takeWhile_eq_self_iff]
    exact fun c listed => decide_eq_true fun equal => noNul (equal ▸ listed)
  have nonempty : text ≠ [] := parts ▸ List.append_ne_nil_of_right_ne_nil _ (List.cons_ne_nil _ _)
  have last : text.getLast? = some 's' := by rw [parts, List.getLast?_append]; rfl
  have body : text.take (text.length - 1) = whole ++ pointed fraction := by
    rw [parts, List.length_append, List.length_singleton, Nat.add_sub_cancel, List.take_left]
  rw [parseDurationFromJson, if_neg nonempty, if_neg (not_not.mpr last)]
  rw [copied, if_neg (by omega), body, splitPoint_pointed noPoint]

theorem parts_of_last (last : text.getLast? = some 's') :
    ∃ whole fraction, '.' ∉ whole ∧ text = whole ++ pointed fraction ++ ['s'] := by
  refine ⟨(splitPoint text.dropLast).1, (splitPoint text.dropLast).2, fun point => ?_, ?_⟩
  · have different := List.mem_takeWhile_imp point
    contradiction
  · rw [pointed_splitPoint text.dropLast]
    exact (List.dropLast_append_getLast? 's' last).symm

theorem getLast?_parts (parts : text = whole ++ pointed fraction ++ ['s']) :
    text.getLast? = some 's' := by
  rw [parts, List.getLast?_append]
  rfl

/-- The zero byte is copied as the end of the text. -/
theorem parse_of_nul (nul : '\x00' ∈ text) (last : text.getLast? = some 's') :
    parseDurationFromJson text = none := by
  have nonempty : text ≠ [] := List.ne_nil_of_mem nul
  obtain ⟨body, rfl⟩ : ∃ body, text = body ++ ['s'] :=
    ⟨_, (List.dropLast_append_getLast? 's' last).symm⟩
  have inBody : '\x00' ∈ body := by simpa using nul
  obtain ⟨before, after, rfl⟩ := List.append_of_mem inBody
  have short : ((before ++ '\x00' :: after ++ ['s']).takeWhile (· ≠ '\x00')).length ≤
      before.length := by
    rw [List.append_assoc, List.takeWhile_append]
    split_ifs with all
    · simp
    · exact (List.takeWhile_prefix _).length_le
  rw [parseDurationFromJson, if_neg nonempty, if_neg (not_not.mpr last)]
  rw [if_pos]
  simp only [List.length_append, List.length_cons, List.length_nil]
  omega

theorem stands_iff (noPoint : '.' ∉ whole) (parts : text = whole ++ pointed fraction ++ ['s'])
    (millis : Nat) :
    Stands text millis ↔ Numerals whole fraction ∧ millis = toMillis whole fraction := by
  constructor
  · rintro ⟨whole', fraction', parts', numerals, rfl⟩
    have noPoint' : '.' ∉ whole' := fun point =>
      absurd (numerals.1.2 '.' point) Bool.false_ne_true
    have body := List.append_cancel_right (parts.symm.trans parts')
    have same := (splitPoint_pointed noPoint).symm.trans
      ((congrArg splitPoint body).trans (splitPoint_pointed noPoint'))
    obtain ⟨rfl, rfl⟩ := Prod.mk.inj same
    exact ⟨numerals, rfl⟩
  · rintro ⟨numerals, rfl⟩
    exact ⟨whole, fraction, parts, numerals, rfl⟩

theorem parseSeconds_eq : parseSeconds whole fraction = parseNonnegativeInt (.ofList whole) := by
  unfold parseSeconds
  split_ifs with empty
  · rw [empty.1]
    rfl
  · rfl

theorem parseParts_of_not_accepted (refused : ¬ Accepted whole fraction) :
    parseParts whole fraction = some none := by
  unfold parseParts
  rw [parseSeconds_eq]
  cases nanos : parseNanos fraction with
  | none => rfl
  | some =>
    cases seconds : parseNonnegativeInt (.ofList whole) with
    | none => rfl
    | some =>
      refine absurd ⟨by rw [seconds]; exact nofun, ?_⟩ refused
      rintro decimals rfl
      obtain ⟨value, parsed, kept⟩ := Option.bind_eq_some_iff.mp nanos
      obtain ⟨short, -⟩ := Option.ite_none_left_eq_some.mp kept
      exact ⟨by rw [parsed]; exact nofun, not_lt.mp short⟩

theorem exists_of_accepted (accepted : Accepted whole fraction) {result : Option Nat}
    (parsed : parseParts whole fraction = some result) : ∃ millis, result = some millis := by
  obtain ⟨seconds, isSeconds⟩ := Option.ne_none_iff_exists'.mp accepted.1
  obtain ⟨nanos, isNanos⟩ : ∃ nanos, parseNanos fraction = some nanos := by
    cases fraction with
    | none => exact ⟨0, rfl⟩
    | some decimals =>
      obtain ⟨some_, short⟩ := accepted.2 decimals rfl
      obtain ⟨nanos, isNanos⟩ := Option.ne_none_iff_exists'.mp some_
      rw [parseNanos, isNanos, Option.bind_some, if_neg (not_lt.mpr short)]
      exact ⟨_, rfl⟩
  unfold parseParts at parsed
  rw [parseSeconds_eq, isSeconds, isNanos] at parsed
  dsimp only at parsed
  split_ifs at parsed
  exact ⟨_, (Option.some.inj parsed).symm⟩

theorem numeral_decimals (numerals : Numerals whole fraction) :
    numeral (fraction.getD []) * 10 ^ (9 - (fraction.getD []).length) ≤ 2147483647 ∧
      parseNanos fraction =
        some (numeral (fraction.getD []) * 10 ^ (9 - (fraction.getD []).length)) := by
  cases fraction with
  | none => exact ⟨Nat.zero_le _, rfl⟩
  | some decimals =>
    obtain ⟨isNumeral, short⟩ := numerals.2.2 decimals rfl
    have small := numeral_lt isNumeral.2
    have scaled : numeral decimals * 10 ^ (9 - decimals.length) < 10 ^ 9 := by
      calc
        _ < 10 ^ decimals.length * 10 ^ (9 - decimals.length) :=
          Nat.mul_lt_mul_of_pos_right small (Nat.pow_pos (by decide))
        _ = 10 ^ 9 := by rw [← Nat.pow_add, Nat.add_sub_cancel' short]
    have least := Nat.le_mul_of_pos_right (numeral decimals)
      (show 0 < 10 ^ (9 - decimals.length) from Nat.pow_pos (by decide))
    refine ⟨by rw [Option.getD_some]; omega, ?_⟩
    rw [parseNanos, parse_numeral isNumeral, if_pos (by omega), Option.bind_some,
      if_neg (not_lt.mpr short)]
    rfl

theorem parseParts_numerals (numerals : Numerals whole fraction) :
    parseParts whole fraction = if toMillis whole fraction ≤ 2147483647 then
      some (some (toMillis whole fraction)) else none := by
  obtain ⟨small, isNanos⟩ := numeral_decimals numerals
  rw [parseParts, parseSeconds_eq, isNanos, parse_numeral numerals.1, if_pos numerals.2.1,
    toMillis_eq fun decimals listed => (numerals.2.2 decimals listed).2]
  simp only [small, true_and]

theorem Numerals.accepted (numerals : Numerals whole fraction) : Accepted whole fraction := by
  refine ⟨by rw [parse_numeral numerals.1, if_pos numerals.2.1]; exact nofun, ?_⟩
  rintro decimals rfl
  obtain ⟨isNumeral, short⟩ := numerals.2.2 decimals rfl
  have small := Nat.lt_of_lt_of_le (numeral_lt isNumeral.2) (Nat.pow_le_pow_right (by decide) short)
  exact ⟨by rw [parse_numeral isNumeral, if_pos (by omega)]; exact nofun, short⟩

theorem Numerals.of_accepted (accepted : Accepted whole fraction) (isNumeral : IsNumeral whole)
    (all : ∀ decimals ∈ fraction, IsNumeral decimals) : Numerals whole fraction := by
  refine ⟨isNumeral, ?_, fun decimals listed => ⟨all decimals listed, (accepted.2 decimals listed).2⟩⟩
  by_contra large
  exact accepted.1 (by rw [parse_numeral isNumeral, if_neg large])

end Reading

end GrpcCore.Json
