import GrpcCore.Hpack.Parser

/-!
# Slices of a frame

A frame's bytes reach the parser in slices cut anywhere. A field that meets the
end of a slice has changed nothing that a second attempt would not change, so
the parser ends where one slice with all the bytes would have taken it.
-/

namespace GrpcCore.Hpack

open Incremental

theorem stable_operand (operand : Operand) : Reader.Stable operand.read := by
  cases operand with
  | inline value => exact Reader.stable_pure value
  | varint offset => exact Input.stable_parseVarint offset

theorem stable_parseLiteralKey : Reader.Stable parseLiteralKey := by
  apply Reader.stable_bind Input.stable_parseString
  intro key
  apply Reader.stable_bind (Input.stable_parseValueString _)
  intro value
  exact Reader.stable_pure _

theorem stable_parseIdxKey (table : HPackTable) (index : Nat) :
    Reader.Stable (parseIdxKey table index) := by
  unfold parseIdxKey
  split
  · exact Reader.stable_fail _
  · exact Reader.stable_bind (Input.stable_parseValueString _) fun _ => Reader.stable_pure _

namespace HPackParser

section ApplyRead

variable {Value : Type} {p p' : HPackParser} {finish : Value → Effect} {reader : Input Value}

theorem applyRead_extend (stable : Reader.Stable reader) {input : Bytes} (more : Bytes)
    (finished : reader input ≠ .eof) :
    p.applyRead finish (reader (input ++ more)) =
      (p.applyRead finish (reader input)).extend more := by
  rw [stable.extend more finished]
  cases outcome : reader input with
  | eof => exact absurd outcome finished
  | failed => rfl
  | done value =>
    simp only [Outcome.extend_done, applyRead]
    rcases finish value with ⟨_ | error, state⟩ <;> rfl

theorem applyRead_eq_eof {outcome : Outcome UInt8 HPackError Value} :
    p.applyRead finish outcome = .eof p' ↔ outcome = .eof ∧ p' = p := by
  cases outcome with
  | eof => simp [applyRead, eq_comm]
  | failed => simp [applyRead]
  | done value =>
    simp only [applyRead]
    rcases finish value with ⟨_ | error, state⟩ <;> simp

theorem applyRead_shrinks (stable : Reader.Stable reader) {input rest : Bytes}
    (parsed : p.applyRead finish (reader input) = .done p' rest) :
    rest.length ≤ input.length := by
  cases outcome : reader input with
  | eof => simp [outcome, applyRead] at parsed
  | failed => simp [outcome, applyRead] at parsed
  | done =>
    rw [outcome] at parsed
    simp only [applyRead] at parsed
    split at parsed
    · cases parsed
      exact stable.shrinks outcome
    · cases parsed

end ApplyRead

/-- Every op code reads with a stable reader and then applies what it read. A
state that met the end of the input reads and applies the same way. -/
theorem parseOp_eq (p : HPackParser) (op : OpCode) :
    op = .illegal ∨
      ∃ (Value : Type) (start : HPackParser) (finish : Value → Effect) (reader : Input Value),
        Reader.Stable reader ∧
        (∀ input, p.parseOp op input = start.applyRead finish (reader input)) ∧
        ∀ input, start.parseOp op input = start.applyRead finish (reader input) := by
  cases op with
  | literalKey =>
    exact .inr ⟨_, p, _, _, stable_parseLiteralKey, fun _ => rfl, fun _ => rfl⟩
  | indexedKey addToTable index =>
    have stable := Reader.stable_bind (stable_operand index) (stable_parseIdxKey p.table)
    exact .inr ⟨_, p, _, _, stable, fun _ => rfl, fun _ => rfl⟩
  | maxTableSize size =>
    exact .inr ⟨_, p, _, _, stable_operand size, fun _ => rfl, fun _ => rfl⟩
  | indexed index =>
    exact .inr ⟨_, p.forbidTableUpdates, _, _, stable_operand index, fun _ => rfl,
      fun _ => rfl⟩
  | illegal => exact .inl rfl

theorem parseField_resumable : Resumable parseField := by
  constructor
  · intro p p' input rest parsed
    cases input with
    | nil => cases parsed
    | cons cur =>
      rcases parseOp_eq p (opCode cur) with illegal |
        ⟨Value, start, finish, reader, stable, parses, -⟩
      · simp [parseField, illegal, parseOp] at parsed
      · rw [parseField, parses] at parsed
        exact Nat.lt_succ_of_le (applyRead_shrinks stable parsed)
  · intro p input more finished
    cases input with
    | nil => exact absurd rfl (finished p)
    | cons cur =>
      rcases parseOp_eq p (opCode cur) with illegal |
        ⟨Value, start, finish, reader, stable, parses, -⟩
      · simp [parseField, illegal, parseOp, Progress.extend]
      · simp only [List.cons_append, parseField, parses] at finished ⊢
        apply applyRead_extend stable
        intro ended
        exact finished start (applyRead_eq_eof.mpr ⟨ended, rfl⟩)
  · intro p p' input more ended
    cases input with
    | nil =>
      cases ended
      rfl
    | cons cur =>
      rcases parseOp_eq p (opCode cur) with illegal |
        ⟨Value, start, finish, reader, stable, parses, parsesAgain⟩
      · simp [parseField, illegal, parseOp] at ended
      · rw [parseField, parses] at ended
        obtain ⟨-, rfl⟩ := applyRead_eq_eof.mp ended
        simp only [List.cons_append, parseField]
        rw [parses, parsesAgain]

def SameFrame (p q : HPackParser) : Prop :=
  q.boundary = p.boundary ∧ q.priority = p.priority ∧
    q.unparsedBytes = p.unparsedBytes ∧ q.metadataSizeLimit = p.metadataSizeLimit

section

variable (p : HPackParser)
include p

theorem SameFrame.refl : SameFrame p p := ⟨rfl, rfl, rfl, rfl⟩

theorem sameFrame_emitHeader (md : Memento) : SameFrame p (p.emitHeader md).2 := by
  unfold emitHeader
  split
  · exact SameFrame.refl p
  · dsimp only
    split
    · exact SameFrame.refl p
    · split <;> exact SameFrame.refl p

theorem sameFrame_finishHeader (addToTable : Bool) (md : Memento) :
    SameFrame p (p.finishHeader addToTable md).2 := by
  have emitted := sameFrame_emitHeader p md
  unfold finishHeader
  split
  · unfold finishHeaderAndAddToTable
    dsimp only
    split <;> exact emitted
  · exact emitted

theorem sameFrame_finishIndexed (index : Nat) : SameFrame p (p.finishIndexed index).2 := by
  unfold finishIndexed
  split
  · exact SameFrame.refl p
  · exact sameFrame_emitHeader p _

theorem sameFrame_finishMaxTableSize (size : Nat) : SameFrame p (p.finishMaxTableSize size).2 := by
  unfold finishMaxTableSize
  split
  · exact SameFrame.refl p
  · dsimp only
    split <;> exact SameFrame.refl p

end

theorem SameFrame.trans {p q r : HPackParser} (first : SameFrame p q)
    (second : SameFrame q r) : SameFrame p r :=
  ⟨second.1.trans first.1, second.2.1.trans first.2.1, second.2.2.1.trans first.2.2.1,
    second.2.2.2.trans first.2.2.2⟩

theorem sameFrame_applyRead {Value : Type} (p : HPackParser) {finish : Value → Effect}
    (kept : ∀ value, SameFrame p (finish value).2)
    (outcome : Outcome UInt8 HPackError Value) :
    SameFrame p (p.applyRead finish outcome).state := by
  cases outcome with
  | eof => exact SameFrame.refl p
  | failed => exact SameFrame.refl p
  | done value =>
    have after := kept value
    simp only [applyRead]
    revert after
    rcases finish value with ⟨_ | error, state⟩ <;> exact id

theorem sameFrame_parseField (p : HPackParser) (input : Bytes) :
    SameFrame p (p.parseField input).state := by
  cases input with
  | nil => exact SameFrame.refl p
  | cons cur =>
    simp only [parseField]
    cases opCode cur with
    | literalKey addToTable | indexedKey addToTable =>
      exact sameFrame_applyRead p (sameFrame_finishHeader p addToTable) _
    | maxTableSize => exact sameFrame_applyRead p (sameFrame_finishMaxTableSize p) _
    | indexed =>
      exact sameFrame_applyRead p.forbidTableUpdates
        (sameFrame_finishIndexed p.forbidTableUpdates) _
    | illegal => exact SameFrame.refl p

theorem sameFrame_drain (p : HPackParser) (input : Bytes) :
    SameFrame p (drain parseField p input).state := by
  apply drain_preserves parseField_resumable (SameFrame p) ?_ (SameFrame.refl p)
  intro q input same
  exact same.trans (sameFrame_parseField q input)

theorem withUnparsedBytes_eq_self {p : HPackParser} {bytes : Bytes}
    (same : p.unparsedBytes = bytes) : { p with unparsedBytes := bytes } = p := by
  cases p
  simp_all

theorem parse_eq (p : HPackParser) (slice : Bytes) (isLast : Bool) :
    p.parse slice isLast =
      parseInput { p with unparsedBytes := [] } (p.unparsedBytes ++ slice) isLast := by
  unfold parse
  split
  · rfl
  · rename_i none
    have empty : p.unparsedBytes = [] := by simpa using none
    rw [withUnparsedBytes_eq_self empty, empty, List.nil_append]

def resumeInner (more : Bytes) :
    Drained UInt8 HPackError HPackParser → Drained UInt8 HPackError HPackParser
  | .complete p => p.parseInputInner more
  | .pending p rest => p.parseInputInner (rest ++ more)
  | .failed error p => .failed error p

theorem parseInputInner_append (p : HPackParser) (input more : Bytes) :
    p.parseInputInner (input ++ more) = resumeInner more (p.parseInputInner input) := by
  -- once the priority block is skipped, the state asks for none
  have fields : ∀ (q : HPackParser) (input : Bytes), q.priority = .none →
      drain parseField q (input ++ more) = resumeInner more (drain parseField q input) := by
    intro q input noPriority
    have kept := (sameFrame_drain q input).2.1
    rw [drain_append parseField_resumable]
    cases parsed : drain parseField q input with
    | failed => rfl
    | complete | pending =>
      rw [parsed, Drained.state, noPriority] at kept
      simp only [Drained.continue, resumeInner, parseInputInner, kept]
  cases priority : p.priority with
  | none =>
    simp only [parseInputInner, priority]
    exact fields p input priority
  | included =>
    by_cases short : input.length < 5
    · simp only [parseInputInner, priority, if_pos short, resumeInner]
    · have long : ¬ (input ++ more).length < 5 := by simp; omega
      simp only [parseInputInner, priority, if_neg short, if_neg long]
      rw [List.drop_append_of_le_length (by omega)]
      exact fields _ _ rfl

theorem unparsedBytes_parseInputInner (p : HPackParser) (input : Bytes) :
    (p.parseInputInner input).state.unparsedBytes = p.unparsedBytes := by
  unfold parseInputInner
  split
  · exact (sameFrame_drain p input).2.2.1
  · split
    · rfl
    · exact (sameFrame_drain { p with priority := .none } (input.drop 5)).2.2.1

theorem parse_append (p : HPackParser) (slice more : Bytes) (isLast : Bool) :
    p.parse (slice ++ more) isLast =
      match p.parse slice false with
      | (none, q) => q.parse more isLast
      | (some error, q) => (some error, q) := by
  have unparsed := unparsedBytes_parseInputInner { p with unparsedBytes := [] }
    (p.unparsedBytes ++ slice)
  rw [parse_eq, parse_eq, ← List.append_assoc]
  unfold parseInput
  rw [parseInputInner_append]
  cases parsed : parseInputInner { p with unparsedBytes := [] } (p.unparsedBytes ++ slice) with
  | failed => rfl
  | complete q =>
    rw [parsed, Drained.state] at unparsed
    simp only [resumeInner, parse_eq q, unparsed, List.nil_append, parseInput,
      withUnparsedBytes_eq_self unparsed]
  | pending =>
    rw [parsed, Drained.state] at unparsed
    simp only [resumeInner, Bool.false_and, Bool.false_eq_true, if_false, parse_eq,
      parseInput, withUnparsedBytes_eq_self unparsed]

/-- A frame's slices in order, with `is_last` on the final one. The caller stops
at the first error. -/
def parseSlices (p : HPackParser) : Bytes → List Bytes → Effect
  | slice, [] => p.parse slice true
  | slice, next :: others =>
    match p.parse slice false with
    | (none, q) => q.parseSlices next others
    | (some error, q) => (some error, q)

/-- For every way of cutting the bytes of a frame into slices, the parser ends
in the state, and with the error if any, of one slice that holds them all: the
same headers, dynamic table, frame length and left-over bytes. -/
theorem parseSlices_eq_parse_flatten (p : HPackParser) (metadataBuffer : Option MetadataBatch)
    (metadataSizeLimit : Nat) (boundary : Boundary) (priority : Priority)
    (slice : Bytes) (others : List Bytes) :
    (p.beginFrame metadataBuffer metadataSizeLimit boundary priority).parseSlices slice others =
      (p.beginFrame metadataBuffer metadataSizeLimit boundary priority).parse
        (slice :: others).flatten true := by
  generalize p.beginFrame metadataBuffer metadataSizeLimit boundary priority = q
  induction others generalizing q slice with
  | nil => simp [parseSlices]
  | cons next others ih =>
    simp only [parseSlices, List.flatten_cons]
    rw [parse_append]
    split
    · rename_i r parsed
      rw [ih, List.flatten_cons]
    · rfl

end HPackParser

end GrpcCore.Hpack
