import Mathlib

/-!
# Configurations of the balancing policies

What the parsers of the weighted-target and the priority policy accept.
-/

namespace GrpcCore.ClientChannel

inductive ConnectivityState where
  | idle
  | connecting
  | ready
  | transientFailure
deriving DecidableEq

/-- `isspace`, in the locale of C. -/
def isSpace (c : Char) : Bool :=
  c.toNat = 32 || (9 ≤ c.toNat && c.toNat ≤ 13)

/-- `strtol` with base ten: the number, and the text after it. -/
def strtol (text : List Char) : Int × List Char :=
  let (sign, digits) : Int × List Char :=
    match text.dropWhile isSpace with
    | '-' :: rest => (-1, rest)
    | '+' :: rest => (1, rest)
    | rest => (1, rest)
  let number := digits.takeWhile Char.isDigit
  if number.isEmpty then (0, text)
  else
    let value := sign * (number.foldl (fun value digit => value * 10 + (digit.toNat - 48)) 0 : Nat)
    (max (-9223372036854775808) (min 9223372036854775807 value), digits.dropWhile Char.isDigit)

/-- `gpr_parse_nonnegative_int`; no value stands for `-1`. -/
def parseNonnegativeInt (value : String) : Option Nat :=
  let (result, rest) := strtol value.toList
  if !rest.isEmpty || result < 0 || result > 2147483647 then none else some result.toNat

/-- `WeightedTargetLbConfig`: the targets in the order of their names, with weights that
`ParseChildConfig` accepts. -/
structure WeightedTargetLbConfig where
  targetMap : List (String × Nat) := []
  ordered : (targetMap.map Prod.fst).Pairwise (· < ·) := by decide
  weights : ∀ target ∈ targetMap, 0 < target.2 ∧ target.2 ≤ 2147483647 := by decide
deriving DecidableEq

/-- `PriorityLbConfig`, with the names of its children. The number of priorities is compared with
the number of children, so a name may come twice. -/
structure PriorityLbConfig where
  children : List String := []
  priorities : List String := []
  known : ∀ name ∈ priorities, name ∈ children := by decide
  size : priorities.length = children.length := by decide
deriving DecidableEq

end GrpcCore.ClientChannel
