import GrpcCore.Hpack.SliceSplit
import GrpcCore.Hpack.Varint

/-!
# Blocks of literal fields

A block whose fields are all literal, not indexed and not Huffman-coded leaves no
trace in the dynamic table, and is read back whatever is in it.
-/

namespace GrpcCore.Hpack

open Incremental MetadataBatch

def literalField (field : Header) : Bytes :=
  0x00 :: (plainString field.key ++ plainString field.value)

def literalBlock (fields : List Header) : Bytes := fields.flatMap literalField

/-- Fields whose strings have a length and whose values are sent as they are. -/
structure Header.Plain (field : Header) : Prop where
  key : field.key.length < 4294967296
  value : field.value.length < 4294967296
  text : isBinaryHeader field.key = false

def Header.memento (field : Header) : Memento := .elem field.key field.value

namespace HPackParser

def unlimited : Nat := 4294967295

/-- The fields of a whole block, for a parser between blocks. -/
def decodeBlock (p : HPackParser) (block : Bytes) : Option (List Memento) :=
  match (p.beginFrame (some {}) unlimited .endOfStream .none).parse block true with
  | (none, p') => p'.metadataBuffer.map MetadataBatch.received
  | (some _, _) => none

theorem parseLiteralKey_field {field : Header} (plain : field.Plain) (rest : Bytes) :
    parseLiteralKey (plainString field.key ++ plainString field.value ++ rest) =
      .done field.memento rest := by
  simp only [parseLiteralKey, Reader.bind, List.append_assoc,
    Input.parseString_plainString plain.key, Input.parseValueString, plain.text,
    Bool.false_eq_true, if_false, Input.parseString_plainString plain.value]
  rfl

theorem parseField_literalField {p p' : HPackParser} {field : Header} (plain : field.Plain)
    (emitted : p.emitHeader field.memento = (none, p')) (rest : Bytes) :
    p.parseField (literalField field ++ rest) = .done p' rest := by
  have op : opCode 0x00 = .literalKey false := by decide
  have read := parseLiteralKey_field plain rest
  simp only [literalField, List.cons_append, parseField, op, parseOp, read, applyRead, finishHeader,
    Bool.false_eq_true, if_false, finishHeaderOmitFromTable, emitted]

theorem emitHeader_new {p : HPackParser} {batch : MetadataBatch} {field : Header}
    (buffer : p.metadataBuffer = some batch) (limit : p.metadataSizeLimit = unlimited)
    (new : field.key ∉ batch.keys) :
    p.emitHeader field.memento =
      (none, { p with
        frameLength := (p.frameLength + field.memento.transportSize) % 4294967296
        metadataBuffer := some { received := batch.received ++ [field.memento] } }) := by
  have below : ¬ (p.frameLength + field.memento.transportSize) % 4294967296 > unlimited := by
    unfold unlimited
    omega
  have single : ¬ (field.key ∈ callouts ∧ field.key ∈ batch.keys) := fun both => new both.2
  have set : batch.set field.memento =
      .ok { received := batch.received ++ [field.memento] } := by
    simp only [MetadataBatch.set, Header.memento, linkCallout, if_neg single]
    rfl
  simp only [emitHeader, buffer, limit, if_neg below, set]

theorem keys_mementos (fields : List Header) :
    keys { received := fields.map Header.memento } = fields.map Header.key := by
  induction fields with
  | nil => rfl
  | cons field fields ih =>
    unfold keys at ih ⊢
    rw [List.map_cons, List.filterMap_cons, List.map_cons, ih]
    rfl

theorem drain_literalBlock {fields : List Header} (plain : ∀ field ∈ fields, field.Plain)
    {p : HPackParser} {before : List Header}
    (buffer : p.metadataBuffer = some { received := before.map Header.memento })
    (limit : p.metadataSizeLimit = unlimited)
    (distinct : ((before ++ fields).map Header.key).Nodup) :
    ∃ p', drain parseField p (literalBlock fields) = .complete p' ∧
      p'.metadataBuffer = some { received := (before ++ fields).map Header.memento } := by
  induction fields generalizing p before with
  | nil =>
    refine ⟨p, rfl, ?_⟩
    rw [List.append_nil]
    exact buffer
  | cons field fields ih =>
    obtain ⟨first, others⟩ := List.forall_mem_cons.mp plain
    have new : field.key ∉ keys { received := before.map Header.memento } := by
      rw [keys_mementos]
      rw [List.map_append, List.map_cons, List.nodup_append] at distinct
      intro known
      exact distinct.2.2 _ known _ List.mem_cons_self rfl
    have read := parseField_literalField first (emitHeader_new buffer limit new)
      (literalBlock fields)
    obtain ⟨p', drained, received⟩ := @ih others
      { p with
        frameLength := (p.frameLength + field.memento.transportSize) % 4294967296
        metadataBuffer := some { received := before.map Header.memento ++ [field.memento] } }
      (before ++ [field]) (by simp) limit (by simpa using distinct)
    refine ⟨p', ?_, by simpa using received⟩
    rw [literalBlock, List.flatMap_cons, ← literalBlock]
    rw [literalField, List.cons_append] at read ⊢
    rw [drain_cons parseField_resumable, read]
    exact drained

theorem decodeBlock_literalBlock {p : HPackParser} (between : p.unparsedBytes = [])
    {fields : List Header} (plain : ∀ field ∈ fields, field.Plain)
    (distinct : (fields.map Header.key).Nodup) :
    p.decodeBlock (literalBlock fields) = some (fields.map Header.memento) := by
  obtain ⟨p', drained, received⟩ := @drain_literalBlock fields plain
    (p.beginFrame (some {}) unlimited .endOfStream .none) [] rfl rfl distinct
  have whole : ¬ (p.beginFrame (some {}) unlimited .endOfStream .none).unparsedBytes ≠ [] :=
    not_not.mpr between
  have parsed : (p.beginFrame (some {}) unlimited .endOfStream .none).parse
      (literalBlock fields) true = (none, p') := by
    rw [parse, if_neg whole, parseInput, parseInputInner]
    simp only [beginFrame] at drained ⊢
    rw [drained]
  rw [decodeBlock, parsed]
  simp [received]

end HPackParser

end GrpcCore.Hpack
