import GrpcCore.Hpack.SliceSplit

/-!
# Header blocks split into frames

A block's frames are parsed one after another, each with a fresh allowance of
table size updates and a fresh count of header bytes. A block that is valid as
one frame therefore stays valid, with the same effect, however it is split.
Two parsers with the same dynamic table read the same fields, so comparing the
effects of a field is enough to compare whole slices.
-/

namespace GrpcCore.Hpack

open Incremental MetadataBatch

namespace HPackParser

/-- A relation between parsers and one between effects that every kind of field
respects. -/
structure FieldSimulation (Rel : HPackParser → HPackParser → Prop)
    (Eff : Effect → Effect → Prop) : Prop where
  table : ∀ {p q}, Rel p q → p.table = q.table
  forbidTableUpdates : ∀ {p q}, Rel p q → Rel p.forbidTableUpdates q.forbidTableUpdates
  finishHeader : ∀ {p q}, Rel p q → ∀ addToTable md,
    Eff (p.finishHeader addToTable md) (q.finishHeader addToTable md)
  finishIndexed : ∀ {p q}, Rel p q → ∀ index, Eff (p.finishIndexed index) (q.finishIndexed index)
  finishMaxTableSize : ∀ {p q}, Rel p q → ∀ size,
    Eff (p.finishMaxTableSize size) (q.finishMaxTableSize size)
  readError : ∀ {p q}, Rel p q → ∀ error, Eff (some error, p) (some error, q)

/-- Two parsers that read the same field: the end of the input is met by both,
otherwise their effects are compared. -/
def ProgressRel (Rel : HPackParser → HPackParser → Prop) (Eff : Effect → Effect → Prop) :
    Progress UInt8 HPackError HPackParser → Progress UInt8 HPackError HPackParser → Prop
  | .eof p, .eof q => Rel p q
  | .done p rest, .done q rest' => rest = rest' ∧ Eff (none, p) (none, q)
  | .done p _, .failed error q => Eff (none, p) (some error, q)
  | .failed error p, .done q _ => Eff (some error, p) (none, q)
  | .failed error p, .failed error' q => Eff (some error, p) (some error', q)
  | _, _ => False

variable {Rel : HPackParser → HPackParser → Prop} {Eff : Effect → Effect → Prop}

theorem applyRead_rel {Value : Type} {p q : HPackParser} {finish finish' : Value → Effect}
    (sim : FieldSimulation Rel Eff) (rel : Rel p q)
    (finished : ∀ value, Eff (finish value) (finish' value))
    (outcome : Outcome UInt8 HPackError Value) :
    ProgressRel Rel Eff (p.applyRead finish outcome) (q.applyRead finish' outcome) := by
  cases outcome with
  | eof => exact rel
  | failed error => exact sim.readError rel error
  | done value =>
    have effects := finished value
    simp only [applyRead]
    revert effects
    rcases finish value with ⟨_ | error, p'⟩ <;> rcases finish' value with ⟨_ | error', q'⟩
    · exact fun effects => ⟨rfl, effects⟩
    · exact id
    · exact id
    · exact id

theorem parseField_rel (sim : FieldSimulation Rel Eff) {p q : HPackParser} (rel : Rel p q)
    (input : Bytes) : ProgressRel Rel Eff (p.parseField input) (q.parseField input) := by
  cases input with
  | nil => exact rel
  | cons cur =>
    simp only [parseField]
    cases opCode cur with
    | literalKey addToTable => exact applyRead_rel sim rel (sim.finishHeader rel addToTable) _
    | indexedKey addToTable =>
      simp only [parseOp, sim.table rel]
      exact applyRead_rel sim rel (sim.finishHeader rel addToTable) _
    | maxTableSize => exact applyRead_rel sim rel (sim.finishMaxTableSize rel) _
    | indexed =>
      have forbidden := sim.forbidTableUpdates rel
      exact applyRead_rel sim forbidden (sim.finishIndexed forbidden) _
    | illegal => exact sim.readError rel _

end HPackParser

structure FramePart where
  payload : Bytes
  boundary : Boundary
  priority : Priority
deriving DecidableEq

variable {batch : MetadataBatch} {md : Memento}

namespace MetadataBatch

/-- The sum of the sizes of what a batch has received. -/
def size (batch : MetadataBatch) : Nat := (batch.received.map Memento.transportSize).sum

variable {batch' : MetadataBatch}

theorem set_ok (stored : batch.set md = .ok batch') : batch'.received = batch.received ++ [md] := by
  cases md with
  | empty =>
    cases stored
    rfl
  | elem =>
    simp only [set, bind, Except.bind] at stored
    split at stored
    · cases stored
    · cases stored
      rfl

theorem size_set (stored : batch.set md = .ok batch') :
    batch'.size = batch.size + md.transportSize := by
  simp [size, set_ok stored]

end MetadataBatch

namespace HPackParser

/-- The frames of a block in order, for one batch. The batch outlives the frame:
the parser only points to it. -/
def parseFrames (metadataSizeLimit : Nat) : HPackParser → MetadataBatch → List FramePart →
    Option HPackError × HPackParser × MetadataBatch
  | p, batch, [] => (none, p, batch)
  | p, batch, part :: parts =>
    match (p.beginFrame (some batch) metadataSizeLimit part.boundary part.priority).parse
        part.payload true with
    | (some error, q) => (some error, q, q.metadataBuffer.getD batch)
    | (none, q) =>
      parseFrames metadataSizeLimit q.finishFrame (q.metadataBuffer.getD batch) parts

variable {p p' : HPackParser}

theorem emitHeader_ok (buffering : p.metadataBuffer = some batch)
    (emitted : p.emitHeader md = (none, p')) :
    (p.frameLength + md.transportSize) % 4294967296 ≤ p.metadataSizeLimit ∧
      ∃ batch', batch.set md = .ok batch' ∧
        p' = { p with
          frameLength := (p.frameLength + md.transportSize) % 4294967296
          metadataBuffer := some batch' } := by
  simp only [emitHeader, buffering] at emitted
  split at emitted
  · cases emitted
  · cases stored : batch.set md with
    | error => simp [stored] at emitted
    | ok batch' =>
      simp only [stored, Prod.mk.injEq, true_and] at emitted
      exact ⟨by omega, batch', rfl, emitted.symm⟩

/-- `q`, somewhere inside a split block, is at the same field as `p`, inside the
same block in one frame, and has at least its allowances left. `base` is the
size of the batch before the block. -/
structure Ahead (base : Nat) (p q : HPackParser) : Prop where
  table : p.table = q.table
  buffer : p.metadataBuffer = q.metadataBuffer
  limit : p.metadataSizeLimit = q.metadataSizeLimit
  updates : p.dynamicTableUpdatesAllowed ≤ q.dynamicTableUpdatesAllowed
  buffering : ∃ batch, q.metadataBuffer = some batch ∧ q.frameLength + base ≤ batch.size

/-- The batch has not received more than the limit since the block began. -/
def Fits (base : Nat) (p : HPackParser) : Prop :=
  ∀ batch, p.metadataBuffer = some batch → batch.size ≤ base + p.metadataSizeLimit

/-- Whatever the parser of the single frame does, within the limit, the other
does too. -/
def Follows (base : Nat) (effect effect' : Effect) : Prop :=
  ∀ p', effect = (none, p') → Fits base p' → ∃ q', effect' = (none, q') ∧ Ahead base p' q'

variable {q : HPackParser} {base : Nat}

section

variable (ahead : Ahead base p q)
include ahead

theorem follows_emitHeader (md : Memento) : Follows base (p.emitHeader md) (q.emitHeader md) := by
  intro p' emitted fits
  obtain ⟨batch, buffering, length⟩ := ahead.buffering
  obtain ⟨-, batch', stored, rfl⟩ := emitHeader_ok (ahead.buffer.trans buffering) emitted
  have grown := size_set stored
  have room := fits batch' rfl
  have limit : p.metadataSizeLimit = q.metadataSizeLimit := ahead.limit
  have within : ¬ (q.frameLength + md.transportSize) % 4294967296 > q.metadataSizeLimit := by
    simp only at room
    omega
  refine ⟨{ q with
    frameLength := (q.frameLength + md.transportSize) % 4294967296
    metadataBuffer := some batch' }, ?_, ahead.table, rfl, ahead.limit, ahead.updates,
    batch', rfl, by dsimp only; omega⟩
  simp only [emitHeader, buffering, if_neg within, stored]

theorem follows_finishHeader (addToTable : Bool) (md : Memento) :
    Follows base (p.finishHeader addToTable md) (q.finishHeader addToTable md) := by
  cases addToTable with
  | false => exact follows_emitHeader ahead md
  | true =>
    intro p' finished fits
    simp only [finishHeader, if_true, finishHeaderAndAddToTable] at finished ⊢
    cases emitted : p.emitHeader md with
    | mk error pe =>
      rw [emitted] at finished
      cases added : pe.table.add md with
      | error => cases error <;> simp [added] at finished
      | ok table =>
        simp only [added, Prod.mk.injEq] at finished
        obtain ⟨rfl, rfl⟩ := finished
        obtain ⟨qe, emitted', ahead'⟩ := follows_emitHeader ahead md pe emitted fits
        refine ⟨{ qe with table }, ?_, ⟨rfl, ahead'.buffer, ahead'.limit,
          ahead'.updates, ahead'.buffering⟩⟩
        rw [ahead'.table] at added
        simp only [emitted', added]

theorem follows_finishIndexed (index : Nat) :
    Follows base (p.finishIndexed index) (q.finishIndexed index) := by
  intro p' finished fits
  simp only [finishIndexed, ahead.table] at finished ⊢
  split at finished
  · cases finished
  · exact follows_emitHeader ahead _ p' finished fits

theorem follows_finishMaxTableSize (size : Nat) :
    Follows base (p.finishMaxTableSize size) (q.finishMaxTableSize size) := by
  intro p' finished _
  have updates := ahead.updates
  simp only [finishMaxTableSize] at finished ⊢
  split at finished
  · cases finished
  · have allowed' : ¬ q.dynamicTableUpdatesAllowed = 0 := by omega
    rw [if_neg allowed', ← ahead.table]
    cases resized : p.table.setCurrentTableSize size with
    | error => simp [resized] at finished
    | ok =>
      simp only [resized, Prod.mk.injEq, true_and] at finished
      subst finished
      exact ⟨_, rfl, ⟨rfl, ahead.buffer, ahead.limit, Nat.sub_le_sub_right updates 1,
        ahead.buffering⟩⟩

end

theorem follows_simulation (base : Nat) : FieldSimulation (Ahead base) (Follows base) where
  table := fun ahead => ahead.table
  forbidTableUpdates := fun ahead =>
    ⟨ahead.table, ahead.buffer, ahead.limit, Nat.le_refl _, ahead.buffering⟩
  finishHeader := follows_finishHeader
  finishIndexed := follows_finishIndexed
  finishMaxTableSize := follows_finishMaxTableSize
  readError := by
    intro p q _ error p' failed
    cases failed

/-- What the batch has received only grows, the allowance of table size updates
does not, and the limit stays. -/
def Grows (p q : HPackParser) : Prop :=
  q.metadataSizeLimit = p.metadataSizeLimit ∧
    q.dynamicTableUpdatesAllowed ≤ p.dynamicTableUpdatesAllowed ∧
    match p.metadataBuffer, q.metadataBuffer with
    | none, none => True
    | some batch, some batch' => batch.received <+: batch'.received
    | _, _ => False

theorem Grows.refl (p : HPackParser) : Grows p p := by
  refine ⟨rfl, Nat.le_refl _, ?_⟩
  cases p.metadataBuffer with
  | none => trivial
  | some => exact List.prefix_refl _

theorem Grows.trans {p q r : HPackParser} (first : Grows p q) (second : Grows q r) :
    Grows p r := by
  obtain ⟨limit, updates, buffers⟩ := first
  obtain ⟨limit', updates', buffers'⟩ := second
  refine ⟨limit'.trans limit, Nat.le_trans updates' updates, ?_⟩
  revert buffers buffers'
  cases p.metadataBuffer <;> cases q.metadataBuffer <;> cases r.metadataBuffer <;> simp
  exact List.IsPrefix.trans

theorem grows_emitHeader (p : HPackParser) (md : Memento) : Grows p (p.emitHeader md).2 := by
  cases buffering : p.metadataBuffer with
  | none =>
    simp only [emitHeader, buffering]
    exact Grows.refl p
  | some batch =>
    simp only [emitHeader, buffering]
    split
    · exact ⟨rfl, Nat.le_refl _, by simp [buffering]⟩
    · cases stored : batch.set md with
      | error => exact ⟨rfl, Nat.le_refl _, by simp [buffering]⟩
      | ok =>
        refine ⟨rfl, Nat.le_refl _, ?_⟩
        simp [buffering, set_ok stored]

theorem grows_finishHeader (p : HPackParser) (addToTable : Bool) (md : Memento) :
    Grows p (p.finishHeader addToTable md).2 := by
  have emitted := grows_emitHeader p md
  cases addToTable with
  | false => exact emitted
  | true =>
    simp only [finishHeader, if_true, finishHeaderAndAddToTable]
    split
    · exact ⟨emitted.1, emitted.2.1, emitted.2.2⟩
    · exact emitted

theorem grows_finishIndexed (p : HPackParser) (index : Nat) :
    Grows p (p.finishIndexed index).2 := by
  unfold finishIndexed
  split
  · exact Grows.refl p
  · exact grows_emitHeader p _

theorem grows_finishMaxTableSize (p : HPackParser) (size : Nat) :
    Grows p (p.finishMaxTableSize size).2 := by
  unfold finishMaxTableSize
  split
  · exact Grows.refl p
  · have spent : Grows p
        { p with dynamicTableUpdatesAllowed := p.dynamicTableUpdatesAllowed - 1 } :=
      ⟨rfl, Nat.sub_le _ _, (Grows.refl p).2.2⟩
    dsimp only
    split <;> exact spent

theorem grows_applyRead {Value : Type} {start : HPackParser} {finish : Value → Effect}
    (started : Grows p start) (kept : ∀ value, Grows p (finish value).2)
    (outcome : Outcome UInt8 HPackError Value) :
    Grows p (start.applyRead finish outcome).state := by
  cases outcome with
  | eof => exact started
  | failed => exact started
  | done value =>
    have after := kept value
    simp only [applyRead]
    revert after
    rcases finish value with ⟨_ | error, state⟩ <;> exact id

theorem grows_parseField (p : HPackParser) (input : Bytes) :
    Grows p (p.parseField input).state := by
  cases input with
  | nil => exact Grows.refl p
  | cons cur =>
    simp only [parseField]
    cases opCode cur with
    | literalKey addToTable | indexedKey addToTable =>
      exact grows_applyRead (Grows.refl p) (grows_finishHeader p addToTable) _
    | maxTableSize =>
      exact grows_applyRead (Grows.refl p) (grows_finishMaxTableSize p) _
    | indexed =>
      have started : Grows p p.forbidTableUpdates :=
        ⟨rfl, Nat.zero_le _, (Grows.refl p).2.2⟩
      exact grows_applyRead started
        (fun value => started.trans (grows_finishIndexed p.forbidTableUpdates value)) _
    | illegal => exact Grows.refl p

theorem grows_drain (p : HPackParser) (input : Bytes) :
    Grows p (drain parseField p input).state := by
  apply drain_preserves parseField_resumable (Grows p) ?_ (Grows.refl p)
  intro q input grown
  exact grown.trans (grows_parseField q input)

theorem grows_parseInputInner (p : HPackParser) (input : Bytes) :
    Grows p (p.parseInputInner input).state := by
  unfold parseInputInner
  split
  · exact grows_drain p input
  · split
    · exact Grows.refl p
    · have started : Grows p { p with priority := .none } := Grows.refl p
      exact started.trans (grows_drain _ _)

theorem grows_parse (p : HPackParser) (slice : Bytes) (isLast : Bool) :
    Grows p (p.parse slice isLast).2 := by
  have started : Grows p { p with unparsedBytes := [] } := Grows.refl p
  have parsed := started.trans (grows_parseInputInner { p with unparsedBytes := [] }
    (p.unparsedBytes ++ slice))
  rw [parse_eq, parseInput]
  split
  · rename_i complete
    rw [complete] at parsed
    exact parsed
  · rename_i pending
    rw [pending] at parsed
    split <;> exact parsed
  · rename_i failed
    rw [failed] at parsed
    exact parsed

theorem boundary_parseInputInner (p : HPackParser) (input : Bytes) :
    (p.parseInputInner input).state.boundary = p.boundary := by
  unfold parseInputInner
  split
  · exact (sameFrame_drain _ _).1
  · split
    · rfl
    · exact (sameFrame_drain _ _).1

theorem boundary_parse (p : HPackParser) (slice : Bytes) (isLast : Bool) :
    (p.parse slice isLast).2.boundary = p.boundary := by
  have parsed := boundary_parseInputInner { p with unparsedBytes := [] }
    (p.unparsedBytes ++ slice)
  rw [parse_eq, parseInput]
  split
  · rename_i complete
    rw [complete] at parsed
    exact parsed
  · rename_i pending
    rw [pending] at parsed
    split <;> exact parsed
  · rename_i failed
    rw [failed] at parsed
    exact parsed

variable {payload : Bytes}

theorem unparsedBytes_of_boundary (closes : p.boundary ≠ .none)
    (parsed : p.parse payload true = (none, q)) : q.unparsedBytes = [] := by
  have unparsed := unparsedBytes_parseInputInner { p with unparsedBytes := [] }
    (p.unparsedBytes ++ payload)
  have boundary := boundary_parseInputInner { p with unparsedBytes := [] }
    (p.unparsedBytes ++ payload)
  rw [parse_eq, parseInput] at parsed
  split at parsed
  · rename_i complete
    cases parsed
    rw [complete] at unparsed
    exact unparsed
  · rename_i q' rest pending
    rw [pending] at boundary
    have closed : q'.isBoundary = true := by
      simp [isBoundary, show q'.boundary = p.boundary from boundary, closes]
    simp [closed] at parsed
  · cases parsed

theorem Fits.of_grows (grown : Grows p q) (fits : Fits base q) : Fits base p := by
  intro batch buffering
  obtain ⟨limit, -, buffers⟩ := grown
  rw [buffering] at buffers
  cases buffering' : q.metadataBuffer with
  | none => simp [buffering'] at buffers
  | some batch' =>
    rw [buffering'] at buffers
    obtain ⟨more, extended⟩ := buffers
    have bound := fits batch' buffering'
    have split : batch'.size = batch.size + (more.map Memento.transportSize).sum := by
      simp [size, ← extended]
    omega

theorem drain_ahead (ahead : Ahead base p q) (input : Bytes)
    (fits : Fits base (drain parseField p input).state) :
    match drain parseField p input with
    | .complete p' => ∃ q', drain parseField q input = .complete q' ∧ Ahead base p' q'
    | .pending p' rest => ∃ q', drain parseField q input = .pending q' rest ∧ Ahead base p' q'
    | .failed _ _ => True := by
  generalize size : input.length = bound
  induction bound using Nat.strongRecOn generalizing p q input with
  | _ bound ih =>
    cases input with
    | nil => exact ⟨q, rfl, ahead⟩
    | cons cur rest =>
      have fields := parseField_rel (follows_simulation base) ahead (cur :: rest)
      rw [drain_cons parseField_resumable] at fits ⊢
      rw [drain_cons parseField_resumable]
      cases parsed : p.parseField (cur :: rest) with
      | failed error p' => trivial
      | eof p' =>
        rw [parsed] at fields
        cases parsed' : q.parseField (cur :: rest) with
        | done q' rest' => simp [parsed', ProgressRel] at fields
        | failed error q' => simp [parsed', ProgressRel] at fields
        | eof q' =>
          rw [parsed'] at fields
          exact ⟨q', rfl, fields⟩
      | done p' rest' =>
        rw [parsed] at fields fits
        have fits' : Fits base p' := fits.of_grows (grows_drain p' rest')
        cases parsed' : q.parseField (cur :: rest) with
        | eof q' => simp [parsed', ProgressRel] at fields
        | failed error q' =>
          simp only [parsed', ProgressRel] at fields
          obtain ⟨q'', impossible, -⟩ := fields p' rfl fits'
          cases impossible
        | done q' rest'' =>
          simp only [parsed', ProgressRel] at fields
          obtain ⟨rfl, effects⟩ := fields
          obtain ⟨q'', same, ahead'⟩ := effects p' rfl fits'
          cases same
          exact ih rest'.length (size ▸ parseField_resumable.progress parsed)
            ahead' rest' fits rfl

variable {p₁ : HPackParser} {piece : Bytes}

/-- One piece of a block: the parser of the split block stops inside it where the
other would, with the rest of the block still to come for both. -/
theorem drain_piece (ahead : Ahead base p q) {rest : Bytes}
    (whole : drain parseField p (piece ++ rest) = .complete p₁) (fits : Fits base p₁) :
    ∃ p' q' left, Ahead base p' q' ∧ Grows p p' ∧
      drain parseField p' (left ++ rest) = .complete p₁ ∧
      (drain parseField q piece = .complete q' ∧ left = [] ∨
        drain parseField q piece = .pending q' left) := by
  have advanced := grows_drain p piece
  rw [drain_append parseField_resumable] at whole
  cases parsed : drain parseField p piece with
  | failed => simp [parsed, Drained.continue] at whole
  | complete p' =>
    simp only [parsed, Drained.continue, Drained.state] at whole advanced
    have ends := grows_drain p' rest
    rw [whole] at ends
    have places := drain_ahead ahead piece (by rw [parsed]; exact fits.of_grows ends)
    rw [parsed] at places
    obtain ⟨q', parsed', ahead'⟩ := places
    exact ⟨p', q', [], ahead', advanced, whole, .inl ⟨parsed', rfl⟩⟩
  | pending p' left =>
    simp only [parsed, Drained.continue, Drained.state] at whole advanced
    have ends := grows_drain p' (left ++ rest)
    rw [whole] at ends
    have places := drain_ahead ahead piece (by rw [parsed]; exact fits.of_grows ends)
    rw [parsed] at places
    obtain ⟨q', parsed', ahead'⟩ := places
    exact ⟨p', q', left, ahead', advanced, whole, .inr parsed'⟩

theorem drain_last (ahead : Ahead base p q) (whole : drain parseField p piece = .complete p₁)
    (fits : Fits base p₁) : ∃ q₁, drain parseField q piece = .complete q₁ ∧ Ahead base p₁ q₁ := by
  have places := drain_ahead ahead piece (by rw [whole]; exact fits)
  rw [whole] at places
  exact places

/-- The split block between two frames: the block in one frame would have
reached `p`, with the bytes left over in `q` still to come. -/
structure Between (base : Nat) (batch : MetadataBatch) (p q : HPackParser) : Prop where
  table : p.table = q.table
  buffer : p.metadataBuffer = some batch
  updates : p.dynamicTableUpdatesAllowed ≤ 2
  grown : base ≤ batch.size

def startFrame (q : HPackParser) (batch : MetadataBatch) (metadataSizeLimit : Nat)
    (boundary : Boundary) : HPackParser :=
  { q.beginFrame (some batch) metadataSizeLimit boundary .none with unparsedBytes := [] }

theorem Between.ahead (between : Between base batch p q) (boundary : Boundary) :
    Ahead base p (q.startFrame batch p.metadataSizeLimit boundary) :=
  ⟨between.table, between.buffer, rfl, between.updates, batch, rfl, by
    simpa [startFrame, beginFrame] using between.grown⟩

theorem Ahead.between {q' : HPackParser} (ahead : Ahead base p' q') (grown : Grows p p')
    (updates : p.dynamicTableUpdatesAllowed ≤ 2) (left : Bytes) :
    ∃ batch', q'.metadataBuffer = some batch' ∧
      Between base batch' p' (finishFrame { q' with unparsedBytes := left }) := by
  obtain ⟨batch', buffering, length⟩ := ahead.buffering
  exact ⟨batch', buffering, ahead.table, ahead.buffer.trans buffering,
    Nat.le_trans grown.2.1 updates, by omega⟩

theorem parse_startFrame (q : HPackParser) (batch : MetadataBatch) (metadataSizeLimit : Nat)
    (boundary : Boundary) (payload : Bytes) :
    (q.beginFrame (some batch) metadataSizeLimit boundary .none).parse payload true =
      match drain parseField (q.startFrame batch metadataSizeLimit boundary)
          (q.unparsedBytes ++ payload) with
      | .complete q' => (none, q')
      | .pending q' rest =>
        if q'.isBoundary then (some .incompleteHeader, q')
        else (none, { q' with unparsedBytes := rest })
      | .failed error q' => (some error, q') := by
  have inner : (q.startFrame batch metadataSizeLimit boundary).parseInputInner
      (q.unparsedBytes ++ payload) = drain parseField
        (q.startFrame batch metadataSizeLimit boundary) (q.unparsedBytes ++ payload) := rfl
  rw [parse_eq]
  change (q.startFrame batch metadataSizeLimit boundary).parseInput
    (q.unparsedBytes ++ payload) true = _
  rw [parseInput, inner]
  cases drain parseField (q.startFrame batch metadataSizeLimit boundary)
    (q.unparsedBytes ++ payload) <;> simp

theorem parse_piece (between : Between base batch p q) {rest : Bytes}
    (whole : drain parseField p (q.unparsedBytes ++ piece ++ rest) = .complete p₁)
    (fits : Fits base p₁) :
    ∃ p' q' batch', (q.beginFrame (some batch) p.metadataSizeLimit .none .none).parse piece true =
        (none, q') ∧ q'.metadataBuffer = some batch' ∧
      Between base batch' p' q'.finishFrame ∧ p'.metadataSizeLimit = p.metadataSizeLimit ∧
      drain parseField p' (q'.unparsedBytes ++ rest) = .complete p₁ := by
  obtain ⟨p', q', left, ahead, grown, ends, stops⟩ :=
    drain_piece (between.ahead .none) whole fits
  obtain ⟨batch', buffering, between'⟩ := ahead.between grown between.updates left
  refine ⟨p', { q' with unparsedBytes := left }, batch', ?_, buffering, between', grown.1, ends⟩
  have kept := sameFrame_drain (q.startFrame batch p.metadataSizeLimit .none)
    (q.unparsedBytes ++ piece)
  rw [parse_startFrame]
  rcases stops with ⟨complete, rfl⟩ | pending
  · rw [complete] at kept ⊢
    simp only [Prod.mk.injEq, true_and]
    exact (withUnparsedBytes_eq_self kept.2.2.1).symm
  · rw [pending] at kept ⊢
    have inside : q'.isBoundary = false := by
      simp [isBoundary, show q'.boundary = .none from kept.1]
    simp [inside]

theorem parse_last (between : Between base batch p q) (boundary : Boundary)
    (whole : drain parseField p (q.unparsedBytes ++ piece) = .complete p₁) (fits : Fits base p₁) :
    ∃ q₁, (q.beginFrame (some batch) p.metadataSizeLimit boundary .none).parse piece true =
        (none, q₁) ∧ Ahead base p₁ q₁ ∧ q₁.unparsedBytes = [] := by
  obtain ⟨q₁, complete, ahead⟩ := drain_last (between.ahead boundary) whole fits
  have kept := sameFrame_drain (q.startFrame batch p.metadataSizeLimit boundary)
    (q.unparsedBytes ++ piece)
  rw [complete] at kept
  refine ⟨q₁, ?_, ahead, kept.2.2.1⟩
  rw [parse_startFrame, complete]

def continuationParts (boundary : Boundary) (middles : List Bytes) (last : Bytes) :
    List FramePart :=
  middles.map (fun payload => ⟨payload, .none, .none⟩) ++ [⟨last, boundary, .none⟩]

variable {middles : List Bytes}

theorem parseFrames_continuation (boundary : Boundary) {last : Bytes}
    (between : Between base batch p q)
    (whole : drain parseField p (q.unparsedBytes ++ (middles.flatten ++ last)) = .complete p₁)
    (fits : Fits base p₁) :
    ∃ q₁ batch₁, q.parseFrames p.metadataSizeLimit batch
        (continuationParts boundary middles last) = (none, q₁, batch₁) ∧
      q₁.table = p₁.table ∧ p₁.metadataBuffer = some batch₁ ∧ q₁.unparsedBytes = [] := by
  induction middles generalizing batch p q with
  | nil =>
    rw [List.flatten_nil, List.nil_append] at whole
    obtain ⟨q₁, parsed, ahead, clean⟩ := parse_last between boundary whole fits
    obtain ⟨batch₁, buffering, -⟩ := ahead.buffering
    refine ⟨q₁.finishFrame, batch₁, ?_, ahead.table.symm, ahead.buffer.trans buffering, clean⟩
    simp only [continuationParts, List.map_nil, List.nil_append, parseFrames, parsed,
      buffering, Option.getD_some]
  | cons piece middles ih =>
    rw [List.flatten_cons, List.append_assoc, ← List.append_assoc q.unparsedBytes] at whole
    obtain ⟨p', q', batch', parsed, buffering, between', limit, whole'⟩ :=
      parse_piece between whole fits
    obtain ⟨q₁, batch₁, frames, result⟩ := ih between' whole'
    rw [limit] at frames
    refine ⟨q₁, batch₁, ?_, result⟩
    simp only [continuationParts, List.map_cons, List.cons_append, parseFrames, parsed,
      buffering, Option.getD_some]
    exact frames

variable {priority : Priority} {block : Bytes}

/-- A first frame whose payload begins with the priority block it announces, in
terms of its fields. -/
theorem parse_priority (q : HPackParser) (batch : MetadataBatch) (metadataSizeLimit : Nat)
    (boundary : Boundary) (clean : q.unparsedBytes = [])
    (announced : block.length = if priority = .included then 5 else 0) :
    (q.beginFrame (some batch) metadataSizeLimit boundary priority).parse (block ++ payload)
        true =
      (q.beginFrame (some batch) metadataSizeLimit boundary .none).parse payload true := by
  cases priority with
  | none =>
    have empty : block = [] := by simpa using announced
    rw [empty, List.nil_append]
  | included =>
    have long : ¬ (block ++ payload).length < 5 := by
      simp [announced]
    have dropped : (block ++ payload).drop 5 = payload := by
      exact List.drop_left' announced
    rw [parse_eq, parse_eq]
    simp only [parseInput, parseInputInner, beginFrame, clean, List.nil_append, if_neg long,
      dropped]

/-- A block valid as one frame, with no more than the limit of headers in it, is
valid in any split into frames, with the same headers and dynamic table and no
bytes left over. -/
theorem parseFrames_split {boundary : Boundary} (closes : boundary ≠ .none) {first last : Bytes}
    {metadataSizeLimit : Nat} (clean : p.unparsedBytes = [])
    (announced : block.length = if priority = .included then 5 else 0)
    (valid : (p.beginFrame (some batch) metadataSizeLimit boundary priority).parse
      (block ++ (first ++ (middles.flatten ++ last))) true = (none, p₁)) (fits : Fits batch.size p₁) :
    ∃ q₁ batch₁, p.parseFrames metadataSizeLimit batch
        (⟨block ++ first, .none, priority⟩ :: continuationParts boundary middles last) =
        (none, q₁, batch₁) ∧
      q₁.table = p₁.table ∧ p₁.metadataBuffer = some batch₁ ∧ q₁.unparsedBytes = [] := by
  rw [parse_priority p batch metadataSizeLimit boundary clean announced,
    parse_startFrame, clean, List.nil_append] at valid
  have kept := sameFrame_drain (p.startFrame batch metadataSizeLimit boundary)
    (first ++ (middles.flatten ++ last))
  cases whole : drain parseField (p.startFrame batch metadataSizeLimit boundary)
      (first ++ (middles.flatten ++ last)) with
  | failed => simp [whole] at valid
  | pending p' =>
    have closed : p'.isBoundary = true := by
      rw [whole] at kept
      simp [isBoundary, show p'.boundary = boundary from kept.1, closes]
    simp [whole, closed] at valid
  | complete p' =>
    simp only [whole, Prod.mk.injEq, true_and] at valid
    subst valid
    have between : Between batch.size batch (p.startFrame batch metadataSizeLimit boundary) p :=
      ⟨rfl, rfl, Nat.le_refl _, Nat.le_refl _⟩
    have started : drain parseField (p.startFrame batch metadataSizeLimit boundary)
        (p.unparsedBytes ++ first ++ (middles.flatten ++ last)) = .complete p' := by
      rw [clean, List.nil_append]
      exact whole
    obtain ⟨p'', q', batch', parsed, buffering, between', limit, whole'⟩ :=
      parse_piece between started fits
    obtain ⟨q₁, batch₁, frames, result⟩ := parseFrames_continuation boundary between' whole' fits
    rw [limit] at frames
    refine ⟨q₁, batch₁, ?_, result⟩
    simp only [parseFrames, parse_priority p batch metadataSizeLimit .none clean announced]
    rw [show p.beginFrame (some batch) metadataSizeLimit .none .none =
      p.beginFrame (some batch)
        (p.startFrame batch metadataSizeLimit boundary).metadataSizeLimit .none .none from rfl,
      parsed]
    simp only [buffering, Option.getD_some]
    exact frames

end HPackParser

end GrpcCore.Hpack
