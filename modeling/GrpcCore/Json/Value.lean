import Mathlib

/-!
# JSON values

`Json` with numbers as their texts and objects as the entries of their maps. Strings are their bytes,
and compare as these do.
-/

namespace GrpcCore

inductive Json where
  | null
  | bool (value : Bool)
  | number (text : List UInt8)
  | string (text : List UInt8)
  | object (entries : List (List UInt8 × Json))
  | array (items : List Json)

namespace Json

abbrev Bytes := List UInt8

instance : LinearOrder UInt8 where
  le_refl := UInt8.le_refl
  le_trans _ _ _ := UInt8.le_trans
  lt_iff_le_not_ge a b := by
    rw [UInt8.not_le]
    exact ⟨fun below => ⟨UInt8.le_of_lt below, below⟩, And.right⟩
  le_antisymm _ _ := UInt8.le_antisymm
  le_total := UInt8.le_total
  toDecidableLE := inferInstance
  toDecidableLT := inferInstance

/-- `Json::Type` of a container. -/
inductive ContainerType where
  | object
  | array
  deriving DecidableEq

mutual

/-- How deep containers are nested in a value. -/
def depth : Json → Nat
  | .object entries => 1 + depthOfEntries entries
  | .array items => 1 + depthOfItems items
  | _ => 0

def depthOfEntries : List (Bytes × Json) → Nat
  | [] => 0
  | (_, value) :: entries => max value.depth (depthOfEntries entries)

def depthOfItems : List Json → Nat
  | [] => 0
  | value :: items => max value.depth (depthOfItems items)

end

end Json

end GrpcCore
