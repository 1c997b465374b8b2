import GrpcCore.Json.Strings

/-!
# Phrases of JSON texts

The texts that bring the reader from the beginning of a value to its end, or into a container. This is the
language of the reader, which is not quite that of ECMA-404.
-/

namespace GrpcCore.Json

section Numbers

def numberBegin (c : UInt8) : Option State :=
  if c = 48 then some .valueNumberZero
  else if isDigit c ∨ c = 45 then some .valueNumber
  else none

def numberState : Bytes → Option State
  | [] => none
  | c :: rest => (numberBegin c).bind fun state => rest.foldlM numberNext state

def isNumber (text : Bytes) : Bool := (numberState text).any State.endsNumber

end Numbers

inductive ObjectPosition where
  | keyBegin
  | keyEnd (key : Bytes)
  | valueBegin (key : Bytes)
  | valueEnd

inductive Phrase where
  | value (value : Json)
  /-- an open array, which may expect a value -/
  | array (items : List Json) (expects : Bool)
  | object (entries : List (Bytes × Json)) (position : ObjectPosition)

/-- A text is a phrase. The flag tells whether nothing but white space, separators and closing brackets
has followed the last opening bracket. -/
inductive Derives : Phrase → Bytes → Bool → Prop where
  | true : Derives (.value (.bool true)) [116, 114, 117, 101] false
  | false : Derives (.value (.bool false)) [102, 97, 108, 115, 101] false
  | null : Derives (.value .null) [110, 117, 108, 108] false
  | number {text : Bytes} (number : isNumber text = true) :
      Derives (.value (.number text)) text false
  | string {raw text : Bytes} (chars : Chars raw text) :
      Derives (.value (.string text)) (34 :: raw ++ [34]) false
  | openArray : Derives (.array [] true) [91] true
  | arraySpace {items : List Json} {expects begun : Bool} {text : Bytes} {c : UInt8}
      (before : Derives (.array items expects) text begun) (space : isWhitespace c = true) :
      Derives (.array items expects) (text ++ [c]) begun
  | arrayItem {items : List Json} {value : Json} {begun begun' : Bool} {text text' : Bytes}
      (before : Derives (.array items true) text begun) (item : Derives (.value value) text' begun') :
      Derives (.array (items ++ [value]) false) (text ++ text') begun'
  | arrayComma {items : List Json} {begun : Bool} {text : Bytes}
      (before : Derives (.array items false) text begun) :
      Derives (.array items true) (text ++ [44]) begun
  | closeArray {items : List Json} {expects begun : Bool} {text : Bytes}
      (before : Derives (.array items expects) text begun) (closes : expects = true → begun = true) :
      Derives (.value (.array items)) (text ++ [93]) begun
  | openObject : Derives (.object [] .keyBegin) [123] true
  | objectSpace {entries : List (Bytes × Json)} {position : ObjectPosition} {begun : Bool}
      {text : Bytes} {c : UInt8} (before : Derives (.object entries position) text begun)
      (space : isWhitespace c = true) : Derives (.object entries position) (text ++ [c]) begun
  | objectKey {entries : List (Bytes × Json)} {begun : Bool} {text raw key : Bytes}
      (before : Derives (.object entries .keyBegin) text begun) (chars : Chars raw key) :
      Derives (.object entries (.keyEnd key)) (text ++ (34 :: raw ++ [34])) false
  | objectColon {entries : List (Bytes × Json)} {begun : Bool} {text key : Bytes}
      (before : Derives (.object entries (.keyEnd key)) text begun) :
      Derives (.object entries (.valueBegin key)) (text ++ [58]) false
  | objectEntry {entries : List (Bytes × Json)} {value : Json} {begun begun' : Bool}
      {text text' key : Bytes} (before : Derives (.object entries (.valueBegin key)) text begun)
      (entry : Derives (.value value) text' begun') (new : key ∉ entries.map Prod.fst) :
      Derives (.object (OrderedMap.emplace key value entries) .valueEnd) (text ++ text') begun'
  | objectComma {entries : List (Bytes × Json)} {begun : Bool} {text : Bytes}
      (before : Derives (.object entries .valueEnd) text begun) :
      Derives (.object entries .keyBegin) (text ++ [44]) begun
  | closeObject {entries : List (Bytes × Json)} {position : ObjectPosition} {begun : Bool}
      {text : Bytes} (before : Derives (.object entries position) text begun)
      (closes : position = .valueEnd ∨ position = .keyBegin ∧ begun = true ∨
        ∃ key, position = .valueBegin key) :
      Derives (.value (.object entries)) (text ++ [125]) begun

section Links

def link (value : Json) (key : Bytes) : List Frame → List Frame
  | [] => []
  | ⟨.object entries, slot⟩ :: stack => ⟨.object (OrderedMap.emplace key value entries), slot⟩ :: stack
  | ⟨.array items, slot⟩ :: stack => ⟨.array (items ++ [value]), slot⟩ :: stack

def rootAfter (value root : Json) (stack : List Frame) : Json := if stack.isEmpty then value else root

/-- A key that the innermost open object has no entry for. -/
def Fresh (key : Bytes) (stack : List Frame) : Prop :=
  ∀ entries slot rest, stack = ⟨.object entries, slot⟩ :: rest → key ∉ entries.map Prod.fst

variable {value value' : Json} {key : Bytes} {stack : List Frame} {index : Nat}
  {reader : JsonReader}

theorem length_link : (link value key stack).length = stack.length := by
  unfold link
  split
  all_goals rfl

theorem isEmpty_link : (link value key stack).isEmpty = stack.isEmpty := by
  unfold link
  split
  all_goals rfl

theorem createAndLinkValue_eq (fresh : Fresh reader.key reader.stack) (assign : Json → Json)
    (value : Json) (assigned : assign .null = value)
    (root : reader.stack = [] → assign reader.rootValue = value) :
    createAndLinkValue index assign reader =
      { reader with
        stack := link value reader.key reader.stack,
        rootValue := rootAfter value reader.rootValue reader.stack } := by
  unfold createAndLinkValue
  split
  · rename_i empty
    rw [root empty, rootAfter, empty]
    rfl
  · rename_i entries slot rest shape
    have absent := fresh entries slot rest shape
    dsimp only
    rw [if_neg absent, OrderedMap.touch_of_fresh absent,
      OrderedMap.modify_emplace_of_fresh absent, assigned, shape]
    rfl
  · rename_i items slot rest shape
    rw [assigned, shape]
    rfl

theorem endContainer_link (fresh : Fresh key stack) (content : Container) :
    endContainer { reader with stack := ⟨content, key⟩ :: link value key stack } =
      { reader with
        stack := link content.toJson key stack,
        rootValue := rootAfter content.toJson reader.rootValue stack } := by
  cases stack with
  | nil => rfl
  | cons frame stack =>
    obtain ⟨container, slot⟩ := frame
    cases container with
    | object entries =>
      have absent := fresh entries slot stack rfl
      rw [link, endContainer]
      dsimp only
      rw [OrderedMap.modify_emplace_of_fresh absent]
      rfl
    | array items =>
      rw [link, endContainer]
      dsimp only
      rw [List.dropLast_concat]
      rfl

end Links

section Settling

variable {index : Nat} {reader reader' : JsonReader} {c : UInt8}

def settle (reader : JsonReader) : JsonReader :=
  if reader.state.endsNumber then { setNumber 0 reader with state := .valueEnd } else reader

def Pending (reader : JsonReader) : Prop :=
  reader.state.endsNumber = true → Fresh reader.key reader.stack

theorem setNumber_eq (fresh : Fresh reader.key reader.stack) :
    setNumber index reader =
      { reader with
        stack := link (.number reader.string) reader.key reader.stack,
        rootValue := rootAfter (.number reader.string) reader.rootValue reader.stack, string := [] } := by
  rw [setNumber, createAndLinkValue_eq fresh _ (.number reader.string) rfl fun _ => rfl]

theorem endsNumber_cases {state : State} (ends : state.endsNumber = true) :
    state = .valueNumber ∨ state = .valueNumberWithDecimal ∨ state = .valueNumberZero ∨
      state = .valueNumberEpm := by
  cases state with
  | valueNumber => exact .inl rfl
  | valueNumberWithDecimal => exact .inr (.inl rfl)
  | valueNumberZero => exact .inr (.inr (.inl rfl))
  | valueNumberEpm => exact .inr (.inr (.inr rfl))
  | _ => cases ends

theorem settle_of_number (ends : reader.state.endsNumber = true)
    (fresh : Fresh reader.key reader.stack) (index : Nat) :
    settle reader = { setNumber index reader with state := .valueEnd } := by
  rw [settle, if_pos ends, setNumber_eq fresh, setNumber_eq fresh]

theorem topType_link {value : Json} {key : Bytes} {stack : List Frame} :
    (link value key stack).head?.map (·.content.type) = stack.head?.map (·.content.type) := by
  unfold link
  split
  all_goals rfl

theorem readTermination_ok (taken : readTermination c reader = .ok reader') :
    reader.stack ≠ [] ∧ (c = 125 → topType reader = some .object) ∧
      (c = 93 → topType reader = some .array) := by
  unfold readTermination at taken
  by_cases comma : c = 44
  · subst comma
    refine ⟨fun empty => ?_, fun other => absurd other (by decide),
      fun other => absurd other (by decide)⟩
    have none_ : topType reader = none := by rw [topType, empty]; rfl
    rw [if_pos rfl, none_] at taken
    split_ifs at taken
  · rw [if_neg comma] at taken
    split_ifs at taken with empty noObject early noArray
    all_goals
      exact ⟨fun none_ => empty (List.isEmpty_iff.mpr none_),
        fun closes => by_contra fun other => noObject ⟨closes, other⟩,
        fun closes => by_contra fun other => noArray ⟨closes, other⟩⟩

theorem step_of_settle (pending : Pending reader)
    (terminator : isWhitespace c = true ∨ c = 44 ∨ c = 125 ∨ c = 93)
    (taken : step index c (settle reader) = .ok reader') : step index c reader = .ok reader' := by
  by_cases ends : reader.state.endsNumber = true
  · have fresh := pending ends
    rw [settle_of_number ends fresh index] at taken
    rcases terminator with space | separator
    · rw [step_whitespace space] at taken ⊢
      rw [readWhitespace] at taken
      rw [readWhitespace, ← taken]
      rcases endsNumber_cases ends with state | state | state | state
      all_goals rw [state]
    · rw [step_separator separator] at taken ⊢
      have top : topType { setNumber index reader with state := .valueEnd } = topType reader := by
        rw [setNumber_eq fresh, topType, topType]
        exact topType_link
      obtain ⟨inContainer, inObject, inArray⟩ := readTermination_ok taken
      rw [top] at inObject inArray
      have nonempty : ¬ reader.stack.isEmpty = true := by
        intro empty
        apply inContainer
        rw [setNumber_eq fresh]
        exact List.isEmpty_iff.mp (isEmpty_link.trans empty)
      have noObject : ¬ (c = 125 ∧ topType reader ≠ some .object) := fun closes =>
        closes.2 (inObject closes.1)
      have noArray : ¬ (c = 93 ∧ topType reader ≠ some .array) := fun closes =>
        closes.2 (inArray closes.1)
      rw [readSeparator]
      rcases endsNumber_cases ends with state | state | state | state
      all_goals
        rw [state]
        rw [if_neg nonempty, if_neg noObject, if_neg noArray]
        exact taken
  · rw [settle, if_neg ends] at taken
    exact taken

end Settling

end GrpcCore.Json
