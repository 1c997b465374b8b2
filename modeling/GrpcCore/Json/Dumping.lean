import GrpcCore.Json.Escaping
import GrpcCore.Json.Reading

/-!
# Dumped values

What the writer puts out is a phrase for the value, with white space around its parts, and the reader
takes it for the value again.
-/

namespace GrpcCore.Json

mutual

/-- Objects are maps, strings and keys are UTF-8 without zero bytes, and the reader takes the numbers. -/
def Printable : Json → Prop
  | .string text => ValidUtf8 text ∧ 0 ∉ text
  | .number text => isNumber text = true
  | .object entries => (entries.map Prod.fst).Pairwise (· < ·) ∧ PrintableEntries entries
  | .array items => PrintableItems items
  | .bool _ | .null => True

def PrintableEntries : List (Bytes × Json) → Prop
  | [] => True
  | (key, value) :: entries =>
    (ValidUtf8 key ∧ 0 ∉ key) ∧ Printable value ∧ PrintableEntries entries

def PrintableItems : List Json → Prop
  | [] => True
  | value :: items => Printable value ∧ PrintableItems items

end

section Separators

variable {indent : Nat} {writer : JsonWriter}

def Blank (spaces : Bytes) : Prop := ∀ c ∈ spaces, isWhitespace c = true

theorem Blank.nil : Blank [] := List.forall_mem_nil _

theorem Blank.append {spaces spaces' : Bytes} (blank : Blank spaces) (blank' : Blank spaces') :
    Blank (spaces ++ spaces') := fun c listed =>
  (List.mem_append.mp listed).elim (blank c) (blank' c)

theorem blank_newline : Blank [10] := List.forall_mem_singleton.mpr rfl

def comma (writer : JsonWriter) : Bytes := if writer.containerEmpty then [] else [44]

theorem valueEnd_eq : ∃ spaces, Blank spaces ∧ valueEnd indent writer =
    { writer with containerEmpty := false, output := writer.output ++ comma writer ++ spaces } := by
  obtain ⟨depth, empty, got, output⟩ := writer
  cases empty with
  | true =>
    by_cases inline_ : indent = 0 ∨ depth = 0
    · exact ⟨[], .nil, by simp [valueEnd, comma, inline_]⟩
    · exact ⟨[10], blank_newline, by simp [valueEnd, comma, inline_, outputChar]⟩
  | false =>
    by_cases compact : indent = 0
    · exact ⟨[], .nil, by simp [valueEnd, comma, compact, outputChar]⟩
    · exact ⟨[10], blank_newline, by simp [valueEnd, comma, compact, outputChar]⟩

theorem outputIndent_eq : ∃ spaces, Blank spaces ∧ outputIndent indent writer =
    { writer with output := writer.output ++ spaces } := by
  rw [outputIndent]
  split_ifs with compact got
  · exact ⟨[], .nil, by simp⟩
  · exact ⟨[32], List.forall_mem_singleton.mpr rfl, rfl⟩
  · refine ⟨_, fun c listed => ?_, rfl⟩
    rw [List.eq_of_mem_replicate listed]
    rfl

/-- What precedes a value: nothing behind a key, and a comma behind another value. -/
def lead (writer : JsonWriter) : Bytes := if writer.gotKey then [] else comma writer

theorem begin_eq (keyed : writer.gotKey = true → writer.containerEmpty = false) :
    ∃ spaces, Blank spaces ∧
      outputIndent indent (if writer.gotKey then writer else valueEnd indent writer) =
        { writer with
          containerEmpty := false, output := writer.output ++ lead writer ++ spaces } := by
  cases got : writer.gotKey with
  | true =>
    obtain ⟨spaces, blank, indented⟩ := @outputIndent_eq indent writer
    refine ⟨spaces, blank, ?_⟩
    rw [if_pos rfl, indented, ← keyed got, lead, if_pos got, List.append_nil]
    cases writer
    cases got
    rfl
  | false =>
    obtain ⟨spaces, blank, ended⟩ := @valueEnd_eq indent writer
    obtain ⟨spaces', blank', indented⟩ := @outputIndent_eq indent (valueEnd indent writer)
    refine ⟨spaces ++ spaces', blank.append blank', ?_⟩
    rw [if_neg Bool.false_ne_true, indented, ended, lead, if_neg (by rw [got]; decide), ← got]
    simp

end Separators

section Phrases

variable {text : Bytes} {begun : Bool} {spaces : Bytes}

theorem array_spaces {items : List Json} {expects : Bool}
    (derives : Derives (.array items expects) text begun) (blank : Blank spaces) :
    Derives (.array items expects) (text ++ spaces) begun := by
  induction spaces generalizing text with
  | nil => rwa [List.append_nil]
  | cons c spaces ih =>
    obtain ⟨space, rest⟩ := List.forall_mem_cons.mp blank
    rw [List.append_cons]
    exact ih (.arraySpace derives space) rest

theorem object_spaces {entries : List (Bytes × Json)} {position : ObjectPosition}
    (derives : Derives (.object entries position) text begun) (blank : Blank spaces) :
    Derives (.object entries position) (text ++ spaces) begun := by
  induction spaces generalizing text with
  | nil => rwa [List.append_nil]
  | cons c spaces ih =>
    obtain ⟨space, rest⟩ := List.forall_mem_cons.mp blank
    rw [List.append_cons]
    exact ih (.objectSpace derives space) rest

theorem array_item {items : List Json} {value : Json} {begun' : Bool} {item : Bytes}
    (writer : JsonWriter) (derives : Derives (.array items writer.containerEmpty) text begun)
    (blank : Blank spaces) (value_ : Derives (.value value) item begun') :
    Derives (.array (items ++ [value]) false) (text ++ (comma writer ++ spaces ++ item)) begun' := by
  have opened : Derives (.array items true) (text ++ comma writer) begun := by
    unfold comma
    cases empty : writer.containerEmpty with
    | true =>
      rw [empty] at derives
      rwa [if_pos rfl, List.append_nil]
    | false =>
      rw [empty] at derives
      exact .arrayComma derives
  have whole := Derives.arrayItem (array_spaces opened blank) value_
  rwa [List.append_assoc, List.append_assoc, ← List.append_assoc (comma writer)] at whole

theorem containerEnds_eq {indent : Nat} (type : ContainerType) (writer : JsonWriter) :
    ∃ spaces, Blank spaces ∧ containerEnds indent type writer =
      { writer with
        depth := writer.depth - 1, containerEmpty := false, gotKey := false,
        output := writer.output ++ spaces ++ [if type = .object then 125 else 93] } := by
  obtain ⟨depth, empty, got, output⟩ := writer
  cases empty with
  | true => exact ⟨[], .nil, by simp [containerEnds, outputChar]⟩
  | false =>
    by_cases compact : indent = 0
    · exact ⟨[], .nil, by simp [containerEnds, compact, outputIndent, outputChar]⟩
    · obtain ⟨spaces, blank, indented⟩ :=
        @outputIndent_eq indent ⟨depth - 1, false, got, output ++ [10]⟩
      exact ⟨10 :: spaces, blank_newline.append blank, by
        simp [containerEnds, compact, outputChar, indented]⟩

theorem object_key {entries : List (Bytes × Json)} {key raw : Bytes} (writer : JsonWriter)
    (derives : Derives (.object entries (if writer.containerEmpty then .keyBegin else .valueEnd))
      text begun)
    (blank : Blank spaces) (chars : Chars raw key) :
    Derives (.object entries (.valueBegin key))
      (text ++ (comma writer ++ spaces ++ (34 :: raw ++ [34]) ++ [58])) false := by
  have opened : Derives (.object entries .keyBegin) (text ++ comma writer) begun := by
    unfold comma
    cases empty : writer.containerEmpty with
    | true =>
      rw [empty] at derives
      rwa [if_pos rfl, List.append_nil]
    | false =>
      rw [empty] at derives
      exact .objectComma derives
  have whole := Derives.objectColon (.objectKey (object_spaces opened blank) chars)
  simpa only [List.append_assoc] using whole

theorem emplace_last {key : Bytes} {value : Json} {entries : List (Bytes × Json)}
    (last : ∀ found ∈ entries.map Prod.fst, found < key) :
    OrderedMap.emplace key value entries = entries ++ [(key, value)] := by
  induction entries with
  | nil => rfl
  | cons entry entries ih =>
    obtain ⟨before, rest⟩ := List.forall_mem_cons.mp last
    rw [OrderedMap.emplace, if_neg (not_lt_of_gt before), if_pos before, ih rest]
    rfl

end Phrases

mutual

theorem dumpValue_eq {indent : Nat} : ∀ (value : Json) (writer : JsonWriter), Printable value →
    (writer.gotKey = true → writer.containerEmpty = false) →
    ∃ spaces text begun, Blank spaces ∧ Derives (.value value) text begun ∧
      dumpValue indent value writer =
        { writer with
          containerEmpty := false, gotKey := false,
          output := writer.output ++ lead writer ++ spaces ++ text }
  | .null, writer, _, keyed => by
    obtain ⟨spaces, blank, begins⟩ := begin_eq keyed
    exact ⟨spaces, _, false, blank, .null, by rw [dumpValue, valueRaw, begins]; rfl⟩
  | .bool true, writer, _, keyed => by
    obtain ⟨spaces, blank, begins⟩ := begin_eq keyed
    exact ⟨spaces, _, false, blank, .true, by rw [dumpValue, valueRaw, begins]; rfl⟩
  | .bool false, writer, _, keyed => by
    obtain ⟨spaces, blank, begins⟩ := begin_eq keyed
    exact ⟨spaces, _, false, blank, .false, by rw [dumpValue, valueRaw, begins]; rfl⟩
  | .number text, writer, taken, keyed => by
    obtain ⟨spaces, blank, begins⟩ := begin_eq keyed
    exact ⟨spaces, text, false, blank, .number taken, by rw [dumpValue, valueRaw, begins]; rfl⟩
  | .string text, writer, ⟨valid, noNul⟩, keyed => by
    obtain ⟨spaces, blank, begins⟩ := begin_eq keyed
    exact ⟨spaces, _, false, blank, .string (chars_escapeBytes valid noNul), by
      rw [dumpValue, valueString, begins]; rfl⟩
  | .array items, writer, printable, keyed => by
    obtain ⟨spaces, blank, begins⟩ := @begin_eq indent writer keyed
    obtain ⟨text, begun, empty, dumped, derives, closes⟩ :=
      @dumpArray_eq indent items (containerBegins indent .array writer) [] [91] true printable rfl
        .openArray fun _ => rfl
    obtain ⟨spaces', blank', ends⟩ := @containerEnds_eq indent .array
      (dumpArray indent items (containerBegins indent .array writer))
    refine ⟨spaces, _, begun, blank, .closeArray (array_spaces derives blank') closes, ?_⟩
    rw [dumpValue, ends, dumped, containerBegins, begins]
    simp [outputChar]
  | .object entries, writer, ⟨sorted, printable⟩, keyed => by
    obtain ⟨spaces, blank, begins⟩ := @begin_eq indent writer keyed
    obtain ⟨text, begun, empty, dumped, derives, closes⟩ :=
      @dumpObject_eq indent entries (containerBegins indent .object writer) [] [123] true sorted
        printable rfl .openObject fun _ => rfl
    obtain ⟨spaces', blank', ends⟩ := @containerEnds_eq indent .object
      (dumpObject indent entries (containerBegins indent .object writer))
    refine ⟨spaces, _, begun, blank, .closeObject (object_spaces derives blank') ?_, ?_⟩
    · cases empty with
      | true => exact .inr (.inl ⟨rfl, closes rfl⟩)
      | false => exact .inl rfl
    · rw [dumpValue, ends, dumped, containerBegins, begins]
      simp [outputChar]

theorem dumpObject_eq {indent : Nat} : ∀ (entries : List (Bytes × Json)) (writer : JsonWriter)
    (done : List (Bytes × Json)) (text : Bytes) (begun : Bool),
    ((done ++ entries).map Prod.fst).Pairwise (· < ·) → PrintableEntries entries →
    writer.gotKey = false →
    Derives (.object done (if writer.containerEmpty then .keyBegin else .valueEnd)) text begun →
    (writer.containerEmpty = true → begun = true) →
    ∃ text' begun' empty, dumpObject indent entries writer =
        { writer with containerEmpty := empty, output := writer.output ++ text' } ∧
      Derives (.object (done ++ entries) (if empty then .keyBegin else .valueEnd)) (text ++ text')
        begun' ∧ (empty = true → begun' = true)
  | [], writer, done, text, begun, _, _, _, derives, closes =>
    ⟨[], begun, writer.containerEmpty, by rw [List.append_nil]; rfl,
      by rwa [List.append_nil, List.append_nil], closes⟩
  | (key, value) :: entries, writer, done, text, begun, sorted, printable, got, derives, _ => by
    obtain ⟨⟨valid, noNul⟩, printableValue, printableRest⟩ := printable
    obtain ⟨spaces, blank, begins⟩ :=
      @begin_eq indent writer fun other => absurd (got.symm.trans other) nofun
    rw [got, if_neg Bool.false_ne_true] at begins
    have leads : lead writer = comma writer := by rw [lead, got]; rfl
    have whole : key.takeWhile (· ≠ 0) = key := by
      rw [List.takeWhile_eq_self_iff]
      intro c listed
      apply decide_eq_true
      rintro rfl
      exact noNul listed
    have keyed : objectKey indent (key.takeWhile (· ≠ 0)) writer =
        { writer with
          containerEmpty := false, gotKey := true
          output := writer.output ++
            (comma writer ++ spaces ++ (34 :: escapeBytes key ++ [34]) ++ [58]) } := by
      rw [whole, objectKey, begins, leads]
      simp [outputChar, outputString, escapeString]
    have before : ∀ found ∈ done.map Prod.fst, found < key := by
      rw [List.map_append, List.map_cons] at sorted
      exact fun found listed =>
        (List.pairwise_append.mp sorted).2.2 found listed key List.mem_cons_self
    obtain ⟨spaces', item, begun', blank', valueDerives, dumped⟩ :=
      @dumpValue_eq indent value (objectKey indent (key.takeWhile (· ≠ 0)) writer) printableValue
        fun _ => by rw [keyed]
    have noLead : lead (objectKey indent (key.takeWhile (· ≠ 0)) writer) = [] := by
      rw [lead, keyed]
      rfl
    rw [noLead, keyed] at dumped
    have derives' := Derives.objectEntry
      (object_spaces (object_key writer derives blank (chars_escapeBytes valid noNul)) blank')
      valueDerives fun listed => lt_irrefl key (before key listed)
    rw [emplace_last before] at derives'
    obtain ⟨text', begun'', empty, dumped', derives'', closes'⟩ :=
      @dumpObject_eq indent entries
        (dumpValue indent value (objectKey indent (key.takeWhile (· ≠ 0)) writer))
        (done ++ [(key, value)]) _ begun' (by simpa using sorted) printableRest
        (by rw [keyed, dumped]) (by rw [keyed, dumped]; exact derives')
        (by rw [keyed, dumped]; exact nofun)
    refine ⟨comma writer ++ spaces ++ (34 :: escapeBytes key ++ [34]) ++ [58] ++ spaces' ++ item ++
      text', begun'', empty, ?_, ?_, closes'⟩
    · rw [dumpObject, dumped', keyed, dumped, ← got]
      simp
    · simpa using derives''

theorem dumpArray_eq {indent : Nat} : ∀ (items : List Json) (writer : JsonWriter)
    (done : List Json) (text : Bytes) (begun : Bool), PrintableItems items →
    writer.gotKey = false → Derives (.array done writer.containerEmpty) text begun →
    (writer.containerEmpty = true → begun = true) →
    ∃ text' begun' empty, dumpArray indent items writer =
        { writer with containerEmpty := empty, output := writer.output ++ text' } ∧
      Derives (.array (done ++ items) empty) (text ++ text') begun' ∧
      (empty = true → begun' = true)
  | [], writer, done, text, begun, _, _, derives, closes =>
    ⟨[], begun, writer.containerEmpty, by rw [List.append_nil]; rfl,
      by rwa [List.append_nil, List.append_nil], closes⟩
  | value :: items, writer, done, text, begun, printable, got, derives, _ => by
    obtain ⟨spaces, item, begun', blank, valueDerives, dumped⟩ :=
      @dumpValue_eq indent value writer printable.1 fun other => absurd (got.symm.trans other) nofun
    have leads : lead writer = comma writer := by rw [lead, got]; rfl
    have derives' := array_item writer derives blank valueDerives
    obtain ⟨text', begun'', empty, dumped', derives'', closes'⟩ :=
      @dumpArray_eq indent items (dumpValue indent value writer) (done ++ [value])
        (text ++ (comma writer ++ spaces ++ item)) begun' printable.2 (by rw [dumped])
        (by rw [dumped]; exact derives') (by rw [dumped]; exact nofun)
    refine ⟨comma writer ++ spaces ++ item ++ text', begun'', empty, ?_, ?_, closes'⟩
    · rw [dumpArray, dumped', dumped, leads, ← got]
      simp
    · simpa using derives''

end

def isContainer : Json → Bool
  | .object _ | .array _ => true
  | _ => false

/-- Whatever the indentation, the reader makes of a dumped value the value again. -/
theorem parse_dump (indent : Nat) {value : Json} (root : isContainer value = true)
    (printable : Printable value) (deep : value.depth ≤ maxDepth) :
    parse (dump indent value) = .ok value := by
  obtain ⟨spaces, text, begun, blank, derives, dumped⟩ :=
    @dumpValue_eq indent value .initial printable nofun
  have noNumber : isNumberValue value = true → ([] : Bytes) ≠ [] := by
    intro number
    cases value with
    | number => cases root
    | _ => cases number
  have read := parse_phrase blank derives (List.forall_mem_nil _) noNumber deep
  have output : dump indent value = spaces ++ text ++ [] := by
    rw [dump, dumped]
    simp [JsonWriter.initial, lead, comma]
  rw [output]
  exact read

/-- An object that holds an array of a string that is no ASCII and a number. -/
theorem parse_dump_nested :
    parse (dump 2 (.object [([107], .array [.string [195, 169], .number [45, 49]])])) =
      .ok (.object [([107], .array [.string [195, 169], .number [45, 49]])]) := by
  apply parse_dump 2 rfl
  · exact ⟨List.pairwise_singleton _ _, ⟨⟨['k'], by decide⟩, by decide⟩,
      ⟨⟨⟨['é'], by decide⟩, by decide⟩, rfl, trivial⟩, trivial⟩
  · decide

end GrpcCore.Json
