import GrpcCore.Json.Phrases

/-!
# Reading phrases

The reader takes every phrase, and makes of it the value that the phrase is for.
-/

namespace GrpcCore.Json

section Places

structure Place where
  state : State
  begun : Bool
  stack : List Frame
  root : Json
  key : Option Bytes

/-- The reader has come to a place. What escape sequences and keys have left behind does not matter. -/
def Place.Of (place : Place) (reader after : JsonReader) : Prop :=
  ∃ key flag char,
    after = { reader with
      state := place.state, containerJustBegun := place.begun, stack := place.stack,
      rootValue := place.root, key := key, escapedStringWasKey := flag, unicodeChar := char } ∧
      ∀ known, place.key = some known → key = known

def Reads (index : Nat) (text : Bytes) (reader : JsonReader) (place : Place) : Prop :=
  ∃ reader', feed index text reader = .ok reader' ∧ Pending reader' ∧ place.Of reader (settle reader')

variable {index : Nat} {text text' : Bytes} {reader reader' after : JsonReader} {c : UInt8}
  {place place' : Place}

theorem settle_eq (state : (settle reader).state ≠ .valueEnd) : settle reader = reader := by
  rw [settle] at state ⊢
  split_ifs at state ⊢ with ends
  · exact absurd rfl state
  · rfl

theorem reads_of_feed (fed : feed index text reader = .ok reader') (of : place.Of reader reader')
    (noNumber : place.state.endsNumber = false) : Reads index text reader place := by
  have state : reader'.state = place.state := by
    obtain ⟨_, _, _, rfl, _⟩ := of
    rfl
  have ends : ¬ reader'.state.endsNumber = true := by
    rw [state, noNumber]
    decide
  exact ⟨reader', fed, fun number => absurd number ends, by rwa [settle, if_neg ends]⟩

theorem Place.Of.trans (first : place.Of reader reader') (second : place'.Of reader' after) :
    place'.Of reader after := by
  obtain ⟨_, _, _, rfl, _⟩ := first
  obtain ⟨key, flag, char, rfl, known⟩ := second
  exact ⟨key, flag, char, rfl, known⟩

theorem Reads.step (reads : Reads index text reader place) (nonzero : c ≠ 0)
    (terminator : place.state = .valueEnd → isWhitespace c = true ∨ c = 44 ∨ c = 125 ∨ c = 93)
    (noNumber : place'.state.endsNumber = false)
    (taken : ∀ after, place.Of reader after →
      ∃ after', Json.step (index + text.length) c after = .ok after' ∧ place'.Of reader after') :
    Reads index (text ++ [c]) reader place' := by
  obtain ⟨reader', fed, pending, of⟩ := reads
  obtain ⟨after', took, of'⟩ := taken _ of
  have state : (settle reader').state = place.state := by
    obtain ⟨_, _, _, equal, _⟩ := of
    rw [equal]
  have took' : Json.step (index + text.length) c reader' = .ok after' := by
    by_cases ended : place.state = .valueEnd
    · exact step_of_settle pending (terminator ended) took
    · rwa [settle_eq (state ▸ ended)] at took
  have fed' : feed index (text ++ [c]) reader = .ok after' := by
    rw [feed_append fed, feed_cons nonzero took']
    rfl
  exact reads_of_feed fed' of' noNumber

theorem Reads.append (reads : Reads index text reader place) (between : place.state ≠ .valueEnd)
    (then_ : ∀ after, place.Of reader after → Reads (index + text.length) text' after place') :
    Reads index (text ++ text') reader place' := by
  obtain ⟨reader', fed, -, of⟩ := reads
  have state : (settle reader').state = place.state := by
    obtain ⟨_, _, _, equal, _⟩ := of
    rw [equal]
  rw [settle_eq (state ▸ between)] at of
  obtain ⟨reader'', fed', pending, of'⟩ := then_ _ of
  exact ⟨reader'', (feed_append fed).trans fed', pending, of.trans of'⟩

end Places

section Steps

variable {index : Nat} {reader : JsonReader} {key : Bytes} {value : Json} {stack : List Frame}

def endState (value : Json) (stack : List Frame) : State :=
  match value with
  | .object _ | .array _ => if stack.isEmpty then .end else .valueEnd
  | _ => .valueEnd

theorem endState_cons {frame : Frame} : endState value (frame :: stack) = .valueEnd := by
  unfold endState
  split
  all_goals rfl

theorem endsNumber_endState (value : Json) (stack : List Frame) :
    (endState value stack).endsNumber = false := by
  unfold endState
  split
  all_goals try split_ifs
  all_goals rfl

theorem rootAfter_rootAfter {value' root : Json} :
    rootAfter value (rootAfter value' root stack) stack = rootAfter value root stack := by
  unfold rootAfter
  split_ifs
  all_goals rfl

def behind (value : Json) (begun : Bool) (reader : JsonReader) : Place where
  state := endState value reader.stack
  begun := begun
  stack := link value reader.key reader.stack
  root := rootAfter value reader.rootValue reader.stack
  key := none

theorem reads_behind {text : Bytes} {begun : Bool} (string : reader.string = [])
    (fed : feed index text reader = .ok { reader with
      state := endState value reader.stack, containerJustBegun := begun,
      stack := link value reader.key reader.stack,
      rootValue := rootAfter value reader.rootValue reader.stack, string := [] }) :
    Reads index text reader (behind value begun reader) := by
  apply reads_of_feed fed
  · exact ⟨reader.key, reader.escapedStringWasKey, reader.unicodeChar, by rw [string]; rfl, nofun⟩
  · exact endsNumber_endState value reader.stack

section Numbers

variable {c : UInt8} {text : Bytes} {begun : Bool}

theorem isDigit_other (digit : isDigit c = true) :
    isWhitespace c = false ∧ ¬ (c = 44 ∨ c = 125 ∨ c = 93) ∧ c ≠ 92 ∧ c ≠ 0 := by
  unfold isDigit at digit
  unfold isWhitespace
  grind

theorem numberNext_other {numberState next : State} (goes : numberNext numberState c = some next) :
    isWhitespace c = false ∧ ¬ (c = 44 ∨ c = 125 ∨ c = 93) ∧ c ≠ 92 ∧ c ≠ 0 := by
  by_cases digit : isDigit c = true
  · exact isDigit_other digit
  · have special : c = 101 ∨ c = 69 ∨ c = 46 ∨ c = 43 ∨ c = 45 := by
      unfold numberNext at goes
      all_goals grind
    rcases special with rfl | rfl | rfl | rfl | rfl
    all_goals decide

theorem step_number {next : State} (goes : numberNext reader.state c = some next) :
    Json.step index c reader =
      .ok { stringAddChar c reader with state := next, containerJustBegun := false } := by
  obtain ⟨noSpace, noSeparator, noBackslash, -⟩ := numberNext_other goes
  have read : readNumber c { reader with containerJustBegun := false } =
      .ok { stringAddChar c reader with state := next, containerJustBegun := false } := by
    rw [readNumber, goes]
    rfl
  rw [step_other noSpace noSeparator noBackslash, readOther]
  obtain ⟨state, _⟩ := reader
  cases state with
  | valueNumber | valueNumberWithDecimal | valueNumberZero | valueNumberDot | valueNumberE
  | valueNumberEpm => exact read
  | _ => cases goes

theorem feed_numberNext {next : State} (goes : text.foldlM numberNext reader.state = some next)
    (opened : reader.containerJustBegun = false) :
    feed index text reader =
      .ok { reader with state := next, string := reader.string ++ text } := by
  induction text generalizing index reader with
  | nil =>
    cases goes
    rw [List.append_nil]
    rfl
  | cons c text ih =>
    obtain ⟨between, first, rest⟩ := Option.bind_eq_some_iff.mp goes
    rw [feed_cons (numberNext_other first).2.2.2 (step_number first),
      @ih (index + 1) { stringAddChar c reader with
        state := between, containerJustBegun := false } rest rfl, ← opened]
    simp [stringAddChar]

theorem feed_number {next : State} (state : reader.state = .valueBegin)
    (string : reader.string = []) (spelled : numberState text = some next) :
    feed index text reader =
      .ok { reader with state := next, string := text, containerJustBegun := false } := by
  cases text with
  | nil => cases spelled
  | cons c text =>
    obtain ⟨first, begins, rest⟩ := Option.bind_eq_some_iff.mp spelled
    have other : isWhitespace c = false ∧ ¬ (c = 44 ∨ c = 125 ∨ c = 93) ∧ c ≠ 92 ∧ c ≠ 0 := by
      unfold numberBegin at begins
      split_ifs at begins with zero digit
      · subst zero
        decide
      · rcases digit with digit | rfl
        · exact isDigit_other digit
        · decide
    have opened : Json.step index c reader =
        .ok { stringAddChar c reader with state := first, containerJustBegun := false } := by
      rw [step_other other.1 other.2.1 other.2.2.1, readOther]
      rw [state, beginValue]
      unfold numberBegin at begins
      split_ifs at begins with zero digit
      · subst zero
        cases begins
        rfl
      · cases begins
        have others : c ≠ 116 ∧ c ≠ 102 ∧ c ≠ 110 ∧ c ≠ 34 := by
          rw [isDigit] at digit
          grind
        rw [if_neg others.1, if_neg others.2.1, if_neg others.2.2.1, if_neg others.2.2.2,
          if_neg zero, if_pos digit]
        rfl
    rw [feed_cons other.2.2.2 opened, @feed_numberNext (index + 1) { stringAddChar c reader with
        state := first, containerJustBegun := false } text next rest rfl]
    simp [stringAddChar, string]

end Numbers

section Scalars

variable (state : reader.state = .valueBegin) (string : reader.string = [])
  (fresh : Fresh reader.key reader.stack)
include state string fresh

theorem reads_true : Reads index [116, 114, 117, 101] reader (behind (.bool true) false reader) := by
  apply reads_behind string
  have fed : feed index [116, 114, 117, 101] reader = .ok { setTrue (index + 3)
      { reader with state := .valueTrueE, containerJustBegun := false } with state := .valueEnd } := by
    obtain ⟨_⟩ := reader
    cases state
    rfl
  rw [fed, setTrue, createAndLinkValue_eq ?_ _ (.bool true) rfl fun _ => rfl]
  · rfl
  · exact fresh

theorem reads_false :
    Reads index [102, 97, 108, 115, 101] reader (behind (.bool false) false reader) := by
  apply reads_behind string
  have fed : feed index [102, 97, 108, 115, 101] reader = .ok { setFalse (index + 4)
      { reader with state := .valueFalseE, containerJustBegun := false } with state := .valueEnd } := by
    obtain ⟨_⟩ := reader
    cases state
    rfl
  rw [fed, setFalse, createAndLinkValue_eq ?_ _ (.bool false) rfl fun _ => rfl]
  · rfl
  · exact fresh

theorem reads_null (blank : reader.stack = [] → reader.rootValue = .null) :
    Reads index [110, 117, 108, 108] reader (behind .null false reader) := by
  apply reads_behind string
  have fed : feed index [110, 117, 108, 108] reader = .ok { setNull (index + 3)
      { reader with state := .valueNullL2, containerJustBegun := false } with state := .valueEnd } := by
    obtain ⟨_⟩ := reader
    cases state
    rfl
  rw [fed, setNull, createAndLinkValue_eq ?_ id .null rfl ?_, string]
  · rfl
  · exact fresh
  · exact blank

theorem reads_string {raw text : Bytes} (complete : reader.unicodeHighSurrogate = 0)
    (chars : Chars raw text) :
    Reads index (34 :: raw ++ [34]) reader (behind (.string text) false reader) := by
  have opened : Json.step index 34 reader =
      .ok { reader with state := .valueString, containerJustBegun := false } := by
    rw [step_other (by decide) (by decide) (by decide), readOther, state]
    rfl
  obtain ⟨flag, char, fed⟩ := @feed_chars (index + 1)
    { reader with state := .valueString, containerJustBegun := false } _ _ chars rfl complete rfl
  have closed (index : Nat) : Json.step index 34 { reader with
      state := .valueString, containerJustBegun := false, string := reader.string ++ text,
      escapedStringWasKey := flag, unicodeChar := char } =
      .ok { reader with
        state := .valueEnd, containerJustBegun := false, string := [],
        escapedStringWasKey := flag, unicodeChar := char,
        stack := link (.string text) reader.key reader.stack,
        rootValue := rootAfter (.string text) reader.rootValue reader.stack } := by
    rw [step_other (by decide) (by decide) (by decide), readOther]
    dsimp only
    rw [readString, if_neg (not_not.mpr complete), if_pos rfl, setString, string, List.nil_append,
      createAndLinkValue_eq ?_ _ (.string text) rfl fun _ => rfl]
    exact fresh
  have whole := (@feed_cons index _ _ (raw ++ [34]) _ (by decide) opened).trans
    ((feed_append fed).trans (feed_cons (by decide) (closed _)))
  apply reads_of_feed whole _ rfl
  exact ⟨reader.key, flag, char, by rw [string]; rfl, fun _ none => by cases none⟩

theorem reads_number {text : Bytes} (number : isNumber text = true) :
    Reads index text reader (behind (.number text) false reader) := by
  obtain ⟨ended, spelled, ends⟩ := (Option.any_eq_true _ _).mp number
  have fed := @feed_number index _ _ _ state string spelled
  refine ⟨_, fed, fun _ => fresh, ?_⟩
  rw [settle_of_number (by exact ends) (by exact fresh) 0, setNumber_eq (by exact fresh)]
  exact ⟨reader.key, reader.escapedStringWasKey, reader.unicodeChar, by rw [string]; rfl, nofun⟩

end Scalars

section Containers

variable {content : Container} {type : ContainerType}

theorem startContainer_eq (fresh : Fresh reader.key reader.stack)
    (room : reader.stack.length < maxDepth) :
    startContainer index type reader = .ok { reader with
      stack := ⟨type.empty, reader.key⟩ :: link type.empty.toJson reader.key reader.stack,
      rootValue := rootAfter type.empty.toJson reader.rootValue reader.stack } := by
  rw [startContainer, if_neg (Nat.ne_of_lt room),
    createAndLinkValue_eq fresh _ type.empty.toJson rfl fun _ => rfl]

section

variable (state : reader.state = .valueBegin) (fresh : Fresh reader.key reader.stack)
  (room : reader.stack.length < maxDepth)
include state fresh room

theorem step_openArray : Json.step index 91 reader = .ok { reader with
      containerJustBegun := true,
      stack := ⟨.array [], reader.key⟩ :: link (.array []) reader.key reader.stack,
      rootValue := rootAfter (.array []) reader.rootValue reader.stack } := by
  have started := @startContainer_eq index { reader with containerJustBegun := true } .array fresh room
  obtain ⟨_⟩ := reader
  cases state
  exact started

theorem step_openObject : Json.step index 123 reader = .ok { reader with
      state := .objectKeyBegin, containerJustBegun := true,
      stack := ⟨.object [], reader.key⟩ :: link (.object []) reader.key reader.stack,
      rootValue := rootAfter (.object []) reader.rootValue reader.stack } := by
  have started := @startContainer_eq index { reader with containerJustBegun := true } .object fresh room
  rw [step_other (by decide) (by decide) (by decide)]
  obtain ⟨_⟩ := reader
  cases state
  simp only [readOther, beginValue, started]
  rfl

end

theorem step_comma (state : reader.state = .valueEnd) (top : topType reader = some type) :
    Json.step index 44 reader = .ok { reader with
      state := if type = .object then .objectKeyBegin else .valueBegin } := by
  rw [step_separator (.inl rfl), readSeparator, state]
  dsimp only
  rw [readTermination, if_pos rfl, if_neg (not_not.mpr state), top]
  cases type with
  | object => rfl
  | array => rfl

theorem readTermination_close {c : UInt8} {before : Json} (noComma : c ≠ 44)
    (frames : reader.stack = ⟨content, key⟩ :: link before key stack) (fresh : Fresh key stack)
    (closer : c = 125 ∧ content.type = .object ∨ c = 93 ∧ content.type = .array)
    (closes : reader.state = .objectKeyBegin ∨ c = 93 ∧ reader.state = .valueBegin →
      reader.containerJustBegun = true) :
    readTermination c reader = .ok { reader with
      state := if stack.isEmpty then .end else .valueEnd, stack := link content.toJson key stack,
      rootValue := rootAfter content.toJson reader.rootValue stack } := by
  have top : topType reader = some content.type := by rw [topType, frames]; rfl
  have nonempty : ¬ reader.stack.isEmpty = true := by rw [frames]; exact Bool.false_ne_true
  have ended := @endContainer_link before key stack { reader with state := .valueEnd } fresh content
  rw [readTermination, if_neg noComma, if_neg nonempty, if_neg, if_neg, if_neg, if_neg]
  · dsimp only at ended ⊢
    rw [frames, ended]
    rw [isEmpty_link]
    split_ifs
    all_goals rfl
  · rintro ⟨closed, state, notBegun⟩
    exact absurd (closes (.inr ⟨closed, state⟩)) (Bool.eq_false_iff.mp notBegun)
  · rintro ⟨rfl, other⟩
    rcases closer with ⟨equal, -⟩ | ⟨-, isArray⟩
    · cases equal
    · exact other (top.trans (congrArg some isArray))
  · rintro ⟨-, state, notBegun⟩
    exact absurd (closes (.inl state)) (Bool.eq_false_iff.mp notBegun)
  · rintro ⟨rfl, other⟩
    rcases closer with ⟨-, isObject⟩ | ⟨equal, -⟩
    · exact other (top.trans (congrArg some isObject))
    · cases equal

theorem reads_key {raw text : Bytes} (state : reader.state = .objectKeyBegin)
    (string : reader.string = []) (complete : reader.unicodeHighSurrogate = 0)
    (chars : Chars raw text) :
    Reads index (34 :: raw ++ [34]) reader
      ⟨.objectKeyEnd, false, reader.stack, reader.rootValue, some text⟩ := by
  have opened : Json.step index 34 reader =
      .ok { reader with state := .objectKeyString, containerJustBegun := false } := by
    rw [step_other (by decide) (by decide) (by decide), readOther, state]
    rfl
  obtain ⟨flag, char, fed⟩ := @feed_chars (index + 1)
    { reader with state := .objectKeyString, containerJustBegun := false } _ _ chars rfl complete rfl
  have closed (index : Nat) : Json.step index 34 { reader with
      state := .objectKeyString, containerJustBegun := false, string := reader.string ++ text,
      escapedStringWasKey := flag, unicodeChar := char } =
      .ok { reader with
        state := .objectKeyEnd, containerJustBegun := false, string := [], key := text,
        escapedStringWasKey := flag, unicodeChar := char } := by
    rw [step_other (by decide) (by decide) (by decide), readOther]
    dsimp only
    rw [readString, if_neg (not_not.mpr complete), if_pos rfl, setKey, string, List.nil_append]
  have whole := (@feed_cons index _ _ (raw ++ [34]) _ (by decide) opened).trans
    ((feed_append fed).trans (feed_cons (by decide) (closed _)))
  apply reads_of_feed whole _ rfl
  exact ⟨text, flag, char, by rw [string], fun known equal => Option.some.inj equal⟩

theorem step_space {c : UInt8} (space : isWhitespace c = true)
    (state : reader.state = .objectKeyBegin ∨ reader.state = .objectKeyEnd ∨
      reader.state = .valueBegin ∨ reader.state = .valueEnd ∨ reader.state = .end) :
    Json.step index c reader = .ok reader := by
  rw [step_whitespace space, readWhitespace]
  rcases state with state | state | state | state | state
  all_goals rw [state]

theorem isWhitespace_ne_zero {c : UInt8} (space : isWhitespace c = true) : c ≠ 0 := by
  rintro rfl
  cases space

end Containers

end Steps

section Phrases

def ObjectPosition.state : ObjectPosition → State
  | .keyBegin => .objectKeyBegin
  | .keyEnd _ => .objectKeyEnd
  | .valueBegin _ => .valueBegin
  | .valueEnd => .valueEnd

def ObjectPosition.key : ObjectPosition → Option Bytes
  | .keyEnd key | .valueBegin key => some key
  | .keyBegin | .valueEnd => none

def Phrase.place (phrase : Phrase) (begun : Bool) (reader : JsonReader) : Place :=
  match phrase with
  | .value json => behind json begun reader
  | .array items expects =>
    ⟨if expects then .valueBegin else .valueEnd, begun,
      ⟨.array items, reader.key⟩ :: link (.array []) reader.key reader.stack,
      rootAfter (.array []) reader.rootValue reader.stack, none⟩
  | .object entries position =>
    ⟨position.state, begun,
      ⟨.object entries, reader.key⟩ :: link (.object []) reader.key reader.stack,
      rootAfter (.object []) reader.rootValue reader.stack, position.key⟩

def Phrase.depth : Phrase → Nat
  | .value json => json.depth
  | .array items _ => 1 + depthOfItems items
  | .object entries _ => 1 + depthOfEntries entries

structure Ready (reader : JsonReader) : Prop where
  state : reader.state = .valueBegin
  string : reader.string = []
  complete : reader.unicodeHighSurrogate = 0
  fresh : Fresh reader.key reader.stack
  blank : reader.stack = [] → reader.rootValue = .null

theorem depthOfItems_concat (items : List Json) (value : Json) :
    depthOfItems (items ++ [value]) = max (depthOfItems items) value.depth := by
  induction items with
  | nil => simp [depthOfItems]
  | cons item items ih =>
    rw [List.cons_append, depthOfItems, depthOfItems, ih, max_assoc]

theorem depthOfEntries_emplace (key : Bytes) (value : Json) (entries : List (Bytes × Json))
    (fresh : key ∉ entries.map Prod.fst) :
    depthOfEntries (OrderedMap.emplace key value entries) =
      max (depthOfEntries entries) value.depth := by
  induction entries with
  | nil => simp [OrderedMap.emplace, depthOfEntries]
  | cons entry entries ih =>
    rw [List.map_cons, List.mem_cons, not_or] at fresh
    rw [OrderedMap.emplace]
    rcases lt_or_gt_of_ne fresh.1 with before | after
    · rw [if_pos before, depthOfEntries, max_comm]
    · rw [if_neg (not_lt_of_gt after), if_pos after, depthOfEntries, depthOfEntries,
        ih fresh.2, max_assoc]

theorem reads_phrase {phrase : Phrase} {text : Bytes} {begun : Bool} {index : Nat}
    {reader : JsonReader} (derives : Derives phrase text begun) (ready : Ready reader)
    (room : reader.stack.length + phrase.depth ≤ maxDepth) :
    Reads index text reader (phrase.place begun reader) := by
  induction derives generalizing index reader with
  | true => exact reads_true ready.state ready.string ready.fresh
  | false => exact reads_false ready.state ready.string ready.fresh
  | null => exact reads_null ready.state ready.string ready.fresh ready.blank
  | number number => exact reads_number ready.state ready.string ready.fresh number
  | string chars => exact reads_string ready.state ready.string ready.fresh ready.complete chars
  | openArray =>
    have below : reader.stack.length < maxDepth := by
      rw [Phrase.depth] at room
      omega
    have fed := @feed_cons index _ _ [] _ (by decide)
      (step_openArray ready.state ready.fresh below)
    apply reads_of_feed fed _ rfl
    exact ⟨reader.key, reader.escapedStringWasKey, reader.unicodeChar, by rw [ready.state]; rfl,
      fun _ none => by cases none⟩
  | openObject =>
    have below : reader.stack.length < maxDepth := by
      rw [Phrase.depth] at room
      omega
    have fed := @feed_cons index _ _ [] _ (by decide)
      (step_openObject ready.state ready.fresh below)
    apply reads_of_feed fed _ rfl
    exact ⟨reader.key, reader.escapedStringWasKey, reader.unicodeChar, rfl, fun _ none => by cases none⟩
  | arraySpace before space ih =>
    apply (ih ready room).step (isWhitespace_ne_zero space) fun _ => .inl space
    · rw [Phrase.place]
      split_ifs
      all_goals rfl
    · intro after of
      refine ⟨after, step_space space ?_, of⟩
      obtain ⟨_, _, _, rfl, _⟩ := of
      rw [Phrase.place]
      split_ifs
      · exact .inr (.inr (.inl rfl))
      · exact .inr (.inr (.inr (.inl rfl)))
  | @arrayItem items value begun begun' text text' before item beforeReads itemReads =>
    have deep := depthOfItems_concat items value
    rw [Phrase.depth] at room
    apply (beforeReads ready (by rw [Phrase.depth]; omega)).append fun ended => by cases ended
    rintro after ⟨key, flag, char, rfl, -⟩
    have reads := @itemReads (index + text.length) { reader with
        state := .valueBegin, containerJustBegun := begun,
        stack := ⟨.array items, reader.key⟩ :: link (.array []) reader.key reader.stack,
        rootValue := rootAfter (.array []) reader.rootValue reader.stack, key := key,
        escapedStringWasKey := flag, unicodeChar := char }
      ⟨rfl, ready.string, ready.complete, (fun _ _ _ shape => by cases shape), fun empty => by cases empty⟩
      (by rw [Phrase.depth, List.length_cons, length_link]; omega)
    rw [Phrase.place, behind, endState_cons] at reads
    exact reads
  | arrayComma before ih | objectComma before ih =>
    apply (ih ready room).step (by decide) (fun _ => .inr (.inl rfl)) rfl
    rintro after ⟨key, flag, char, rfl, -⟩
    exact ⟨_, step_comma rfl rfl, key, flag, char, rfl, fun _ none => by cases none⟩
  | @closeArray items expects begun text before closes ih =>
    apply (ih ready room).step (by decide)
      (fun _ => .inr (.inr (.inr rfl))) (endsNumber_endState (.array items) reader.stack)
    rintro after ⟨key, flag, char, rfl, -⟩
    refine ⟨_, ?_, key, flag, char, rfl, fun _ none => by cases none⟩
    have closed (state : State) := @readTermination_close { reader with
        state := state, containerJustBegun := begun,
        stack := ⟨.array items, reader.key⟩ :: link (.array []) reader.key reader.stack,
        rootValue := rootAfter (.array []) reader.rootValue reader.stack, key := key,
        escapedStringWasKey := flag, unicodeChar := char }
      reader.key reader.stack (.array items) 93 (.array []) (by decide) rfl ready.fresh
      (.inr ⟨rfl, rfl⟩)
    simp only [rootAfter_rootAfter] at closed
    rw [step_separator (.inr (.inr rfl)), readSeparator]
    cases expects with
    | true => exact closed .valueBegin fun _ => closes rfl
    | false => exact closed .valueEnd (fun asks => by rcases asks with early | ⟨_, early⟩ <;> cases early)
  | @objectSpace entries position begun text c before space ih =>
    apply (ih ready room).step (isWhitespace_ne_zero space) fun _ => .inl space
    · cases position
      all_goals rfl
    · intro after of
      refine ⟨after, step_space space ?_, of⟩
      obtain ⟨_, _, _, rfl, _⟩ := of
      cases position with
      | keyBegin => exact .inl rfl
      | keyEnd => exact .inr (.inl rfl)
      | valueBegin => exact .inr (.inr (.inl rfl))
      | valueEnd => exact .inr (.inr (.inr (.inl rfl)))
  | objectKey before chars ih =>
    apply (ih ready room).append fun ended => by cases ended
    rintro after ⟨key, flag, char, rfl, -⟩
    exact reads_key rfl ready.string ready.complete chars
  | objectColon before ih =>
    apply (ih ready room).step (by decide) (fun ended => by cases ended) rfl
    rintro after ⟨key, flag, char, rfl, known⟩
    refine ⟨_, ?_, key, flag, char, rfl, known⟩
    rfl
  | @objectEntry entries value begun begun' text text' key before entry new beforeReads entryReads =>
    have deep := depthOfEntries_emplace key value entries new
    rw [Phrase.depth] at room
    apply (beforeReads ready (by rw [Phrase.depth]; omega)).append fun ended => by cases ended
    rintro after ⟨found, flag, char, rfl, known⟩
    obtain rfl := known key rfl
    have fresh : Fresh found (⟨.object entries, reader.key⟩ ::
        link (.object []) reader.key reader.stack) := by
      intro entries' slot rest shape
      cases shape
      exact new
    have reads := @entryReads (index + text.length) { reader with
        state := .valueBegin, containerJustBegun := begun,
        stack := ⟨.object entries, reader.key⟩ :: link (.object []) reader.key reader.stack,
        rootValue := rootAfter (.object []) reader.rootValue reader.stack, key := found,
        escapedStringWasKey := flag, unicodeChar := char }
      ⟨rfl, ready.string, ready.complete, fresh, fun empty => by cases empty⟩
      (by rw [Phrase.depth, List.length_cons, length_link]; omega)
    rw [Phrase.place, behind, endState_cons] at reads
    exact reads
  | @closeObject entries position begun text before closes ih =>
    apply (ih ready room).step (by decide)
      (fun _ => .inr (.inr (.inl rfl))) (endsNumber_endState (.object entries) reader.stack)
    rintro after ⟨key, flag, char, rfl, -⟩
    refine ⟨_, ?_, key, flag, char, rfl, fun _ none => by cases none⟩
    have closed (state : State) := @readTermination_close { reader with
        state := state, containerJustBegun := begun,
        stack := ⟨.object entries, reader.key⟩ :: link (.object []) reader.key reader.stack,
        rootValue := rootAfter (.object []) reader.rootValue reader.stack, key := key,
        escapedStringWasKey := flag, unicodeChar := char }
      reader.key reader.stack (.object entries) 125 (.object []) (by decide) rfl ready.fresh
      (.inl ⟨rfl, rfl⟩)
    simp only [rootAfter_rootAfter] at closed
    rcases closes with rfl | ⟨rfl, begins⟩ | ⟨found, rfl⟩
    · exact closed .valueEnd (fun asks => by rcases asks with early | ⟨_, early⟩ <;> cases early)
    · exact closed .objectKeyBegin fun _ => begins
    · exact closed .valueBegin fun ends => absurd ends (by decide)

end Phrases

section Texts

variable {index : Nat} {reader : JsonReader} {value : Json}

theorem feed_spaces {spaces : Bytes} (blank : ∀ c ∈ spaces, isWhitespace c = true)
    (state : reader.state = .valueBegin ∨ reader.state = .valueEnd ∨ reader.state = .end) :
    feed index spaces reader = .ok reader := by
  induction spaces generalizing index with
  | nil => rfl
  | cons c spaces ih =>
    obtain ⟨space, rest⟩ := List.forall_mem_cons.mp blank
    have stays := @step_space index reader c space
      (state.elim (fun begins => .inr (.inr (.inl begins))) fun ended => .inr (.inr (.inr ended)))
    rw [feed_cons (isWhitespace_ne_zero space) stays]
    exact ih rest

def isNumberValue : Json → Bool
  | .number _ => true
  | _ => false

theorem parse_phrase {before text after : Bytes} {begun : Bool}
    (spaces : ∀ c ∈ before, isWhitespace c = true) (derives : Derives (.value value) text begun)
    (spaces' : ∀ c ∈ after, isWhitespace c = true)
    (ended : isNumberValue value = true → after ≠ []) (room : value.depth ≤ maxDepth) :
    parse (before ++ text ++ after) = .ok value := by
  have ready : Ready .initial := ⟨rfl, rfl, rfl, nofun, fun _ => rfl⟩
  have room' : JsonReader.initial.stack.length + (Phrase.value value).depth ≤ maxDepth :=
    le_of_eq_of_le (Nat.zero_add _) room
  obtain ⟨reader, fed, pending, of⟩ := @reads_phrase _ _ _ (0 + before.length) _ derives ready room'
  have started := feed_append (@feed_spaces 0 .initial _ spaces (.inl rfl)) |>.trans fed
  obtain ⟨key, flag, char, settled, -⟩ := of
  have state : (settle reader).state = .valueEnd ∨ (settle reader).state = .end := by
    rw [settled]
    unfold Phrase.place behind endState
    dsimp only
    split
    · exact .inr rfl
    · exact .inr rfl
    · exact .inl rfl
  have empty : (settle reader).stack = [] := by rw [settled]; rfl
  have finished : feed (0 + (before ++ text).length) after reader = .ok (settle reader) := by
    cases after with
    | nil =>
      have noNumber : ¬ reader.state.endsNumber = true := by
        intro number
        have shape := settled
        rw [settle_of_number number (pending number) 0, setNumber_eq (pending number)] at shape
        have root := congrArg JsonReader.rootValue shape
        have frames := congrArg JsonReader.stack shape
        have none_ : reader.stack.isEmpty = true :=
          isEmpty_link.symm.trans (congrArg List.isEmpty frames)
        rw [rootAfter, if_pos none_] at root
        have value_eq : value = .number reader.string := root.symm
        exact ended (by rw [value_eq]; rfl) rfl
      rw [settle, if_neg noNumber]
      rfl
    | cons c =>
      obtain ⟨space, rest'⟩ := List.forall_mem_cons.mp spaces'
      have stays := @step_space (0 + (before ++ text).length) (settle reader) c space
        (.inr (.inr (.inr state)))
      rw [feed_cons (isWhitespace_ne_zero space) (step_of_settle pending (.inl space) stays)]
      exact feed_spaces rest' (.inr state)
  have whole := @run_of_feed 0 .initial _ (before ++ text ++ after) [] ((feed_append started).trans finished)
  have complete : endOfText (settle reader) = .ok (settle reader) := by
    apply if_pos
    rw [isComplete, empty]
    rcases state with state | state
    all_goals rw [state]; rfl
  rw [List.append_nil, run, complete] at whole
  have errors : (settle reader).errors = [] ∧ (settle reader).truncatedErrors = false ∧
      (settle reader).rootValue = value := by
    rw [settled]
    exact ⟨rfl, rfl, rfl⟩
  rw [parse, whole]
  dsimp only
  rw [errors.1, errors.2.1, errors.2.2]
  rfl

end Texts

end GrpcCore.Json
