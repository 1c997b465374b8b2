import GrpcCore.Hpack.Input
import GrpcCore.Hpack.Table

/-!
# The header block parser

`HPackParser::Parser` parses one field and applies it; `HPackParser` runs it
over the slices of a frame and keeps the bytes of a field cut at the end of a
slice. Logging and statistics are left out.
-/

namespace GrpcCore.Hpack

open Incremental

inductive Boundary where
  | none
  | endOfHeaders
  | endOfStream
deriving DecidableEq

inductive Priority where
  | none
  | included
deriving DecidableEq

/-- The batch a frame's headers go to is the one the source points to, if any. -/
structure HPackParser where
  metadataBuffer : Option MetadataBatch := none
  unparsedBytes : Bytes := []
  boundary : Boundary := .none
  priority : Priority := .none
  dynamicTableUpdatesAllowed : Nat := 0
  frameLength : Nat := 0
  metadataSizeLimit : Nat := 0
  table : HPackTable := {}
deriving DecidableEq

inductive Operand where
  | inline (value : Nat)
  | varint (offset : Nat)
deriving DecidableEq

def Operand.read : Operand → Input Nat
  | .inline value => Reader.pure value
  | .varint offset => Input.parseVarint offset

inductive OpCode where
  | literalKey (addToTable : Bool)
  | indexedKey (addToTable : Bool) (index : Operand)
  | maxTableSize (size : Operand)
  | indexed (index : Operand)
  | illegal
deriving DecidableEq

def opCode (cur : UInt8) : OpCode :=
  match (cur >>> 4).toNat with
  | 0 | 1 =>
    if cur &&& 0xf = 0 then .literalKey false
    else if cur &&& 0xf = 0xf then .indexedKey false (.varint 0xf)
    else .indexedKey false (.inline (cur &&& 0xf).toNat)
  | 2 => .maxTableSize (.inline (cur &&& 0x1f).toNat)
  | 3 =>
    if cur = 0x3f then .maxTableSize (.varint 0x1f)
    else .maxTableSize (.inline (cur &&& 0x1f).toNat)
  | 4 =>
    if cur = 0x40 then .literalKey true
    else .indexedKey true (.inline (cur &&& 0x3f).toNat)
  | 5 | 6 => .indexedKey true (.inline (cur &&& 0x3f).toNat)
  | 7 =>
    if cur = 0x7f then .indexedKey true (.varint 0x3f)
    else .indexedKey true (.inline (cur &&& 0x3f).toNat)
  | 8 => if cur = 0x80 then .illegal else .indexed (.inline (cur &&& 0x7f).toNat)
  | 15 =>
    if cur = 0xff then .indexed (.varint 0x7f)
    else .indexed (.inline (cur &&& 0x7f).toNat)
  | _ => .indexed (.inline (cur &&& 0x7f).toNat)

def parseLiteralKey : Input Memento :=
  Input.parseString.bind fun key =>
    (Input.parseValueString (isBinaryHeader key)).bind fun value =>
      Reader.pure (.elem key value)

def parseIdxKey (table : HPackTable) (index : Nat) : Input Memento :=
  match table.lookup index with
  | none => Reader.fail (.invalidIndex index table.numEntries)
  | some elem =>
    (Input.parseValueString elem.isBinary).bind fun value =>
      Reader.pure (elem.withNewValue value)

namespace HPackParser

def isBoundary (p : HPackParser) : Bool := p.boundary ≠ .none

/-- What a finished field does to the parser, and the first error it raises. -/
abbrev Effect := Option HPackError × HPackParser

def emitHeader (p : HPackParser) (md : Memento) : Effect :=
  match p.metadataBuffer with
  | none => (none, p)
  | some batch =>
    let p := { p with frameLength := (p.frameLength + md.transportSize) % 4294967296 }
    if p.frameLength > p.metadataSizeLimit then (some .metadataSizeExceedsLimit, p)
    else
      match batch.set md with
      | .ok batch => (none, { p with metadataBuffer := some batch })
      | .error error => (some error, p)

def finishHeaderOmitFromTable (p : HPackParser) (md : Memento) : Effect := p.emitHeader md

/-- The table takes the entry even when emitting it failed; the first error is
the one that stays. -/
def finishHeaderAndAddToTable (p : HPackParser) (md : Memento) : Effect :=
  let (emitted, p) := p.emitHeader md
  match p.table.add md with
  | .ok table => (emitted, { p with table })
  | .error error => (emitted.or (some error), p)

def finishHeader (p : HPackParser) (addToTable : Bool) (md : Memento) : Effect :=
  if addToTable then p.finishHeaderAndAddToTable md else p.finishHeaderOmitFromTable md

def finishIndexed (p : HPackParser) (index : Nat) : Effect :=
  match p.table.lookup index with
  | none => (some (.invalidIndex index p.table.numEntries), p)
  | some elem => p.finishHeaderOmitFromTable elem

def finishMaxTableSize (p : HPackParser) (size : Nat) : Effect :=
  if p.dynamicTableUpdatesAllowed = 0 then (some .tooManyTableSizeChanges, p)
  else
    let p := { p with dynamicTableUpdatesAllowed := p.dynamicTableUpdatesAllowed - 1 }
    match p.table.setCurrentTableSize size with
    | .ok table => (none, { p with table })
    | .error error => (some error, p)

def applyRead {Value : Type} (p : HPackParser) (finish : Value → Effect) :
    Outcome UInt8 HPackError Value → Progress UInt8 HPackError HPackParser
  | .done value rest =>
    match finish value with
    | (none, p) => .done p rest
    | (some error, p) => .failed error p
  | .eof => .eof p
  | .failed error => .failed error p

/-- The size updates of a frame end with its first indexed field, which is
noted before the index itself is known. -/
def forbidTableUpdates (p : HPackParser) : HPackParser :=
  { p with dynamicTableUpdatesAllowed := 0 }

def parseOp (p : HPackParser) (op : OpCode) (input : Bytes) :
    Progress UInt8 HPackError HPackParser :=
  match op with
  | .literalKey addToTable =>
    p.applyRead (p.finishHeader addToTable) (parseLiteralKey input)
  | .indexedKey addToTable index =>
    p.applyRead (p.finishHeader addToTable)
      ((index.read.bind (parseIdxKey p.table)) input)
  | .maxTableSize size => p.applyRead p.finishMaxTableSize (size.read input)
  | .indexed index =>
    p.forbidTableUpdates.applyRead p.forbidTableUpdates.finishIndexed (index.read input)
  | .illegal => .failed .illegalOpCode p

/-- `Parser::Parse`: one field. It is never called at the end of the input. -/
def parseField (p : HPackParser) : Bytes → Progress UInt8 HPackError HPackParser
  | [] => .eof p
  | cur :: rest => p.parseOp (opCode cur) rest

def beginFrame (p : HPackParser) (metadataBuffer : Option MetadataBatch)
    (metadataSizeLimit : Nat) (boundary : Boundary) (priority : Priority) : HPackParser :=
  { p with
    metadataBuffer, boundary, priority, metadataSizeLimit
    dynamicTableUpdatesAllowed := 2
    frameLength := 0 }

def finishFrame (p : HPackParser) : HPackParser := { p with metadataBuffer := none }

/-- Skip the priority block in front of the fields, then parse the fields. -/
def parseInputInner (p : HPackParser) (input : Bytes) :
    Drained UInt8 HPackError HPackParser :=
  match p.priority with
  | .none => drain parseField p input
  | .included =>
    if input.length < 5 then .pending p input
    else drain parseField { p with priority := .none } (input.drop 5)

def parseInput (p : HPackParser) (input : Bytes) (isLast : Bool) : Effect :=
  match p.parseInputInner input with
  | .complete p => (none, p)
  | .pending p rest =>
    if isLast && p.isBoundary then (some .incompleteHeader, p)
    else (none, { p with unparsedBytes := rest })
  | .failed error p => (some error, p)

def parse (p : HPackParser) (slice : Bytes) (isLast : Bool) : Effect :=
  if p.unparsedBytes ≠ [] then
    parseInput { p with unparsedBytes := [] } (p.unparsedBytes ++ slice) isLast
  else p.parseInput slice isLast

end HPackParser

end GrpcCore.Hpack
