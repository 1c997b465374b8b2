import GrpcCore.Hpack.BlockSplit

/-!
# The limit on the size of metadata

The parser counts the headers of a frame, in 32 bits, and starts again with the
next frame. Compared with a parser that has no limit, it receives the headers up
to the first one that takes the count of its own frame above the limit.
-/

namespace GrpcCore.Hpack

open Incremental

def frameCounts (count : Nat) : List Nat → List (Nat × Nat)
  | [] => []
  | size :: sizes =>
    (size, (count + size) % 4294967296) :: frameCounts ((count + size) % 4294967296) sizes

/-- Every header of a block, given the sizes of the headers of its frames. -/
def blockCounts (frames : List (List Nat)) : List (Nat × Nat) := frames.flatMap (frameCounts 0)

/-- The header that takes the block above the limit takes the count of its own
frame above the limit. -/
def LimitNoticed (limit : Nat) (frames : List (List Nat)) : Prop :=
  ∀ before header after, blockCounts frames = before ++ header :: after →
    (before.map Prod.fst).sum ≤ limit → limit < (before.map Prod.fst).sum + header.1 →
    limit < header.2

variable {limit : Nat}

section Counts

theorem map_fst_frameCounts (count : Nat) (sizes : List Nat) :
    (frameCounts count sizes).map Prod.fst = sizes := by
  induction sizes generalizing count with
  | nil => rfl
  | cons size sizes ih => simp [frameCounts, ih]

theorem frameCounts_append (count : Nat) (sizes more : List Nat) :
    frameCounts (count % 4294967296) (sizes ++ more) =
      frameCounts (count % 4294967296) sizes ++
        frameCounts ((count + sizes.sum) % 4294967296) more := by
  induction sizes generalizing count with
  | nil => simp [frameCounts]
  | cons size sizes ih =>
    have next : (count % 4294967296 + size) % 4294967296 = (count + size) % 4294967296 := by
      omega
    simp only [List.cons_append, frameCounts, next, ih, List.sum_cons, Nat.add_assoc]

def Bounded (total : Nat) (counted : List (Nat × Nat)) : Prop :=
  ∀ before header after, counted = before ++ header :: after →
    header.2 ≤ total + (before.map Prod.fst).sum + header.1

variable {counted : List (Nat × Nat)} {total : Nat}

theorem bounded_append {more : List (Nat × Nat)} (first : Bounded total counted)
    (second : Bounded (total + (counted.map Prod.fst).sum) more) :
    Bounded total (counted ++ more) := by
  intro before header after cut
  rcases List.append_eq_append_iff.mp cut with ⟨before', rfl, cut'⟩ | ⟨after', rfl, cut'⟩
  · have bound := second before' header after cut'
    rw [List.map_append, List.sum_append]
    omega
  · cases after' with
    | nil =>
      have bound := second [] header after (by simpa using cut'.symm)
      simpa using bound
    | cons header' after' =>
      obtain ⟨rfl, -⟩ := List.cons.inj cut'
      exact first before header after' rfl

theorem bounded_frameCounts {count : Nat} (sizes : List Nat) (counted : count ≤ total) :
    Bounded total (frameCounts count sizes) := by
  induction sizes generalizing total count with
  | nil =>
    intro before header after cut
    simp [frameCounts] at cut
  | cons size sizes ih =>
    intro before header after cut
    cases before with
    | nil =>
      obtain ⟨rfl, -⟩ := List.cons.inj cut
      omega
    | cons first before =>
      obtain ⟨rfl, rest⟩ := List.cons.inj cut
      have bound := ih (show (count + size) % 4294967296 ≤ total + size by omega) before
        header after rest
      simp only [List.map_cons, List.sum_cons]
      omega

theorem bounded_blockCounts (total : Nat) (frames : List (List Nat)) :
    Bounded total (blockCounts frames) := by
  unfold blockCounts
  induction frames generalizing total with
  | nil =>
    intro before header after cut
    simp at cut
  | cons sizes frames ih =>
    exact bounded_append (bounded_frameCounts sizes (Nat.zero_le _)) (ih _)

/-- Stopping at the first count above the limit keeps the total within it exactly
when the header that takes the total above it is the one that stops. -/
theorem takeWhile_le_iff (bounded : Bounded total counted) (within : total ≤ limit) :
    total + ((counted.takeWhile (·.2 ≤ limit)).map Prod.fst).sum ≤ limit ↔
      ∀ before header after, counted = before ++ header :: after →
        total + (before.map Prod.fst).sum ≤ limit →
        limit < total + (before.map Prod.fst).sum + header.1 → limit < header.2 := by
  induction counted generalizing total with
  | nil => simpa using within
  | cons first counted ih =>
    have firstBound := bounded [] first counted rfl
    simp only [List.map_nil, List.sum_nil, Nat.add_zero] at firstBound
    have restBounded : Bounded (total + first.1) counted := by
      intro before header after cut
      have bound := bounded (first :: before) header after (by rw [cut]; rfl)
      simp only [List.map_cons, List.sum_cons] at bound
      omega
    by_cases stops : limit < first.2
    · have dropped : (first :: counted).takeWhile (·.2 ≤ limit) = [] := by
        simp [stops]
      rw [dropped]
      simp only [List.map_nil, List.sum_nil, Nat.add_zero, within, true_iff]
      intro before header after cut small _
      cases before with
      | nil =>
        obtain ⟨rfl, -⟩ := List.cons.inj cut
        exact stops
      | cons =>
        obtain ⟨rfl, -⟩ := List.cons.inj cut
        simp only [List.map_cons, List.sum_cons] at small
        omega
    · have kept : (first :: counted).takeWhile (·.2 ≤ limit) =
          first :: counted.takeWhile (·.2 ≤ limit) := by
        simp [Nat.not_lt.mp stops]
      rw [kept]
      simp only [List.map_cons, List.sum_cons]
      by_cases fits : total + first.1 ≤ limit
      · rw [← Nat.add_assoc, ih restBounded fits]
        constructor
        · intro noticed before header after cut small large
          cases before with
          | nil =>
            obtain ⟨rfl, -⟩ := List.cons.inj cut
            simp only [List.map_nil, List.sum_nil, Nat.add_zero] at large
            omega
          | cons first' before =>
            obtain ⟨rfl, rest⟩ := List.cons.inj cut
            simp only [List.map_cons, List.sum_cons, ← Nat.add_assoc] at small large
            exact noticed before header after rest small large
        · intro noticed before header after cut small large
          apply noticed (first :: before) header after (by rw [cut]; rfl)
          · simpa only [List.map_cons, List.sum_cons, ← Nat.add_assoc] using small
          · simpa only [List.map_cons, List.sum_cons, ← Nat.add_assoc] using large
      · constructor
        · omega
        · intro noticed
          have impossible := noticed [] first counted rfl (by simpa using within) (by omega)
          omega

end Counts

def sizes (received : List Memento) : List Nat := received.map Memento.transportSize

variable {batch' batch : MetadataBatch}

theorem MetadataBatch.size_append {received : List Memento}
    (contents : batch'.received = batch.received ++ received) :
    batch'.size = batch.size + (sizes received).sum := by
  simp [size, sizes, contents]

namespace HPackParser

def noLimit : Nat := 4294967295

def withoutLimit (p : HPackParser) : HPackParser := { p with metadataSizeLimit := noLimit }

/-- The batch has received `before` ahead of the frame and `inFrame` in it, each
header within the limit. -/
structure Received (limit : Nat) (before inFrame : List Memento) (p : HPackParser) : Prop where
  buffering : ∃ batch, p.metadataBuffer = some batch ∧ batch.received = before ++ inFrame
  within : ∀ header ∈ frameCounts 0 (sizes inFrame), header.2 ≤ limit

structure Counting (limit : Nat) (before : List Memento) (p : HPackParser) : Prop where
  limited : p.metadataSizeLimit = limit
  received : ∃ inFrame, Received limit before inFrame p ∧
    p.frameLength = (sizes inFrame).sum % 4294967296

/-- The parser without a limit has received one more header than the other, and
that header is above the limit. -/
def Exceeded (limit : Nat) (before : List Memento) (p q : HPackParser) : Prop :=
  ∃ inFrame md more, Received limit before inFrame p ∧
    limit < ((sizes inFrame).sum + md.transportSize) % 4294967296 ∧
    ∃ batch, q.metadataBuffer = some batch ∧ batch.received = before ++ (inFrame ++ md :: more)

def Agreed (limit : Nat) (before : List Memento) (p q : HPackParser) : Prop :=
  ∃ inFrame, Received limit before inFrame p ∧ q.metadataBuffer = p.metadataBuffer

/-- An effect with the limit and the same without it: as long as the first
succeeds they agree; where it fails, so does the other, or the limit is exceeded. -/
def Limited (limit : Nat) (before : List Memento) : Effect → Effect → Prop
  | (none, p), effect => effect = (none, p.withoutLimit) ∧ Counting limit before p
  | (some _, p), (error, q) =>
    Exceeded limit before p q ∨ (error ≠ none ∧ Agreed limit before p q)

variable {before : List Memento} {p : HPackParser}

theorem Counting.agreed (counting : Counting limit before p) :
    Agreed limit before p p.withoutLimit := by
  obtain ⟨inFrame, received, -⟩ := counting.received
  exact ⟨inFrame, received, rfl⟩

theorem limited_failed (counting : Counting limit before p) (error : HPackError) :
    Limited limit before (some error, p) (some error, p.withoutLimit) :=
  .inr ⟨by simp, counting.agreed⟩

variable {p' q' q : HPackParser}

theorem Exceeded.congr (exceeded : Exceeded limit before p q)
    (same : p'.metadataBuffer = p.metadataBuffer) (same' : q'.metadataBuffer = q.metadataBuffer) :
    Exceeded limit before p' q' := by
  obtain ⟨inFrame, md, more, received, above, batch, buffering⟩ := exceeded
  refine ⟨inFrame, md, more, ⟨?_, received.within⟩, above, batch, ?_⟩
  · rw [same]
    exact received.buffering
  · rw [same']
    exact buffering

theorem Agreed.congr (agreed : Agreed limit before p q)
    (same : p'.metadataBuffer = p.metadataBuffer) (same' : q'.metadataBuffer = q.metadataBuffer) :
    Agreed limit before p' q' := by
  obtain ⟨inFrame, received, buffers⟩ := agreed
  refine ⟨inFrame, ⟨?_, received.within⟩, ?_⟩
  · rw [same]
    exact received.buffering
  · rw [same', same, buffers]

variable {inFrame : List Memento}

theorem Received.concat {md : Memento} (received : Received limit before inFrame p)
    (buffering : p.metadataBuffer = some batch) (stored : batch.set md = .ok batch')
    (small : ((sizes inFrame).sum + md.transportSize) % 4294967296 ≤ limit)
    (buffering' : p'.metadataBuffer = some batch') :
    Received limit before (inFrame ++ [md]) p' := by
  obtain ⟨batch'', same, contents⟩ := received.buffering
  rw [buffering] at same
  cases same
  refine ⟨⟨batch', buffering', ?_⟩, ?_⟩
  · rw [MetadataBatch.set_ok stored, contents, List.append_assoc]
  · intro header membership
    have counts := frameCounts_append 0 (sizes inFrame) (sizes [md])
    rw [sizes, List.map_append, ← sizes, ← sizes, counts] at membership
    rcases List.mem_append.mp membership with old | new
    · exact received.within header old
    · simp only [sizes, List.map_cons, List.map_nil, frameCounts, List.mem_singleton] at new
      rw [new]
      simpa [sizes] using small

theorem limited_emitHeader (counting : Counting limit before p) (md : Memento) :
    Limited limit before (p.emitHeader md) (p.withoutLimit.emitHeader md) := by
  obtain ⟨inFrame, received, count⟩ := counting.received
  obtain ⟨batch, buffering, contents⟩ := received.buffering
  have unlimited : ¬ (p.frameLength + md.transportSize) % 4294967296 > noLimit := by
    unfold noLimit
    omega
  have counted : (p.frameLength + md.transportSize) % 4294967296 =
      ((sizes inFrame).sum + md.transportSize) % 4294967296 := by
    omega
  simp only [emitHeader, withoutLimit, buffering, if_neg unlimited]
  split
  · rename_i above
    have exceeds : limit < ((sizes inFrame).sum + md.transportSize) % 4294967296 := by
      rw [← counted, ← counting.limited]
      exact above
    cases stored : batch.set md with
    | ok batch' =>
      refine .inl ⟨inFrame, md, [], ⟨⟨batch, rfl, contents⟩, received.within⟩, exceeds,
        batch', rfl, ?_⟩
      rw [MetadataBatch.set_ok stored, contents, List.append_assoc]
    | error =>
      exact .inr ⟨by simp, inFrame, ⟨⟨batch, rfl, contents⟩, received.within⟩, rfl⟩
  · rename_i fits
    cases stored : batch.set md with
    | ok =>
      refine ⟨rfl, counting.limited, inFrame ++ [md], ?_, ?_⟩
      · apply received.concat buffering stored ?_ rfl
        rw [← counted, ← counting.limited]
        exact Nat.not_lt.mp fits
      · simp [counted, sizes]
    | error =>
      exact .inr ⟨by simp, inFrame, ⟨⟨batch, rfl, contents⟩, received.within⟩, rfl⟩

theorem table_emitHeader (p : HPackParser) (md : Memento) :
    (p.emitHeader md).2.table = p.table := by
  unfold emitHeader
  split
  · rfl
  · dsimp only
    split
    · rfl
    · split <;> rfl

section

variable (counting : Counting limit before p)
include counting

theorem Counting.congr (buffer : p'.metadataBuffer = p.metadataBuffer)
    (sameLimit : p'.metadataSizeLimit = p.metadataSizeLimit)
    (length : p'.frameLength = p.frameLength) : Counting limit before p' := by
  obtain ⟨limited, inFrame, received, count⟩ := counting
  refine ⟨sameLimit.trans limited, inFrame, ⟨?_, received.within⟩, length.trans count⟩
  rw [buffer]
  exact received.buffering

theorem limited_finishHeader (addToTable : Bool) (md : Memento) :
    Limited limit before (p.finishHeader addToTable md)
      (p.withoutLimit.finishHeader addToTable md) := by
  have emitted := limited_emitHeader counting md
  cases addToTable with
  | false => exact emitted
  | true =>
    simp only [finishHeader, if_true, finishHeaderAndAddToTable]
    have tables := table_emitHeader p md
    have tables' := table_emitHeader p.withoutLimit md
    rcases limited : p.emitHeader md with ⟨_ | error, pe⟩
    · rw [limited] at emitted
      obtain ⟨unlimited, counting'⟩ := emitted
      simp only [unlimited]
      rw [show pe.withoutLimit.table = pe.table from rfl]
      cases pe.table.add md with
      | ok => exact ⟨rfl, counting'.congr rfl rfl rfl⟩
      | error error => exact limited_failed counting' error
    · rw [limited] at emitted tables
      rcases unlimited : p.withoutLimit.emitHeader md with ⟨error', qe⟩
      rw [unlimited] at emitted tables'
      simp only [show pe.table = p.table from tables, show qe.table = p.table from tables']
      cases p.table.add md with
      | ok =>
        rcases emitted with exceeded | ⟨failed, agreed⟩
        · exact .inl (exceeded.congr rfl rfl)
        · exact .inr ⟨failed, agreed.congr rfl rfl⟩
      | error =>
        rcases emitted with exceeded | ⟨failed, agreed⟩
        · exact .inl (exceeded.congr rfl rfl)
        · refine .inr ⟨?_, agreed.congr rfl rfl⟩
          cases error' with
          | none => exact absurd rfl failed
          | some => simp

theorem limited_finishIndexed (index : Nat) :
    Limited limit before (p.finishIndexed index) (p.withoutLimit.finishIndexed index) := by
  simp only [finishIndexed, show p.withoutLimit.table = p.table from rfl]
  cases p.table.lookup index with
  | none => exact limited_failed counting _
  | some elem => exact limited_emitHeader counting elem

theorem limited_finishMaxTableSize (size : Nat) :
    Limited limit before (p.finishMaxTableSize size) (p.withoutLimit.finishMaxTableSize size) := by
  simp only [finishMaxTableSize,
    show p.withoutLimit.dynamicTableUpdatesAllowed = p.dynamicTableUpdatesAllowed from rfl,
    show p.withoutLimit.table = p.table from rfl]
  split
  · exact limited_failed counting _
  · cases p.table.setCurrentTableSize size with
    | ok => exact ⟨rfl, counting.congr rfl rfl rfl⟩
    | error error =>
      have spent : Counting limit before
          { p with dynamicTableUpdatesAllowed := p.dynamicTableUpdatesAllowed - 1 } :=
        counting.congr rfl rfl rfl
      exact limited_failed spent error

end

theorem limited_simulation (limit : Nat) (before : List Memento) :
    FieldSimulation (fun p q => q = p.withoutLimit ∧ Counting limit before p)
      (Limited limit before) where
  table := by
    rintro p q ⟨rfl, -⟩
    rfl
  forbidTableUpdates := by
    rintro p q ⟨rfl, counting⟩
    exact ⟨rfl, counting.congr rfl rfl rfl⟩
  finishHeader := by
    rintro p q ⟨rfl, counting⟩ addToTable md
    exact limited_finishHeader counting addToTable md
  finishIndexed := by
    rintro p q ⟨rfl, counting⟩ index
    exact limited_finishIndexed counting index
  finishMaxTableSize := by
    rintro p q ⟨rfl, counting⟩ size
    exact limited_finishMaxTableSize counting size
  readError := by
    rintro p q ⟨rfl, counting⟩ error
    exact limited_failed counting error

theorem Exceeded.of_grows (exceeded : Exceeded limit before p q) (grown : Grows q q') :
    Exceeded limit before p q' := by
  obtain ⟨inFrame, md, more, received, above, batch, buffering, contents⟩ := exceeded
  have buffers := grown.2.2
  rw [buffering] at buffers
  cases buffering' : q'.metadataBuffer with
  | none => simp [buffering'] at buffers
  | some batch' =>
    rw [buffering'] at buffers
    obtain ⟨rest, extended⟩ := buffers
    refine ⟨inFrame, md, more ++ rest, received, above, batch', buffering', ?_⟩
    rw [← extended, contents]
    simp

def LimitedPiece (limit : Nat) (before : List Memento) :
    Drained UInt8 HPackError HPackParser → Drained UInt8 HPackError HPackParser → Prop
  | .complete p, drained => drained = .complete p.withoutLimit ∧ Counting limit before p
  | .pending p rest, drained =>
    drained = .pending p.withoutLimit rest ∧ Counting limit before p
  | .failed _ p, .failed _ q => Exceeded limit before p q ∨ Agreed limit before p q
  | .failed _ p, drained => Exceeded limit before p drained.state

theorem limitedPiece_exceeded {error : HPackError} {drained : Drained UInt8 HPackError HPackParser}
    (exceeded : Exceeded limit before p drained.state) :
    LimitedPiece limit before (.failed error p) drained := by
  cases drained with
  | complete => exact exceeded
  | pending => exact exceeded
  | failed => exact .inl exceeded

theorem limited_drain (counting : Counting limit before p) (input : Bytes) :
    LimitedPiece limit before (drain parseField p input)
      (drain parseField p.withoutLimit input) := by
  generalize size : input.length = bound
  induction bound using Nat.strongRecOn generalizing p input with
  | _ bound ih =>
    cases input with
    | nil => exact ⟨rfl, counting⟩
    | cons cur rest =>
      have fields := parseField_rel (limited_simulation limit before) ⟨rfl, counting⟩ (cur :: rest)
      rw [drain_cons parseField_resumable, drain_cons parseField_resumable]
      cases parsed : p.parseField (cur :: rest) with
      | eof =>
        rw [parsed] at fields
        cases parsed' : p.withoutLimit.parseField (cur :: rest) with
        | eof =>
          rw [parsed'] at fields
          obtain ⟨rfl, counting'⟩ := fields
          exact ⟨rfl, counting'⟩
        | done => simp [parsed', ProgressRel] at fields
        | failed => simp [parsed', ProgressRel] at fields
      | done p' rest' =>
        rw [parsed] at fields
        cases parsed' : p.withoutLimit.parseField (cur :: rest) with
        | eof => simp [parsed', ProgressRel] at fields
        | failed => simp [parsed', ProgressRel, Limited] at fields
        | done q' =>
          rw [parsed'] at fields
          obtain ⟨rfl, same, counting'⟩ := fields
          obtain rfl : q' = p'.withoutLimit := (Prod.mk.inj same).2
          exact ih rest'.length (size ▸ parseField_resumable.progress parsed) counting'
            rest' rfl
      | failed =>
        rw [parsed] at fields
        cases parsed' : p.withoutLimit.parseField (cur :: rest) with
        | eof => simp [parsed', ProgressRel] at fields
        | failed =>
          rw [parsed'] at fields
          rcases fields with exceeded | ⟨-, agreed⟩
          · exact .inl exceeded
          · exact .inr agreed
        | done q' rest'' =>
          rw [parsed'] at fields
          rcases fields with exceeded | ⟨failed, -⟩
          · exact limitedPiece_exceeded
              (exceeded.of_grows (grows_drain q' rest''))
          · exact absurd rfl failed

theorem limited_parseInputInner (counting : Counting limit before p) (input : Bytes) :
    LimitedPiece limit before (p.parseInputInner input) (p.withoutLimit.parseInputInner input) := by
  unfold parseInputInner
  rw [show p.withoutLimit.priority = p.priority from rfl]
  cases p.priority with
  | none => exact limited_drain counting input
  | included =>
    dsimp only
    split
    · exact ⟨rfl, counting⟩
    · have started : Counting limit before { p with priority := .none } :=
        counting.congr rfl rfl rfl
      exact limited_drain started _

theorem limited_parse (counting : Counting limit before p) (payload : Bytes) :
    Limited limit before (p.parse payload true) (p.withoutLimit.parse payload true) := by
  have started : Counting limit before { p with unparsedBytes := [] } :=
    counting.congr rfl rfl rfl
  have pieces := limited_parseInputInner started (p.unparsedBytes ++ payload)
  rw [parse_eq, parse_eq]
  simp only [parseInput, Bool.true_and]
  rw [show ({ p.withoutLimit with unparsedBytes := [] } : HPackParser) =
    withoutLimit { p with unparsedBytes := [] } from rfl,
    show p.withoutLimit.unparsedBytes = p.unparsedBytes from rfl]
  generalize withoutLimit { p with unparsedBytes := [] } = q at pieces ⊢
  cases parsed : parseInputInner { p with unparsedBytes := [] } (p.unparsedBytes ++ payload) with
  | complete =>
    rw [parsed] at pieces
    rw [pieces.1]
    exact ⟨rfl, pieces.2⟩
  | pending p' =>
    rw [parsed] at pieces
    rw [pieces.1]
    dsimp only
    rw [show p'.withoutLimit.isBoundary = p'.isBoundary from rfl]
    cases p'.isBoundary with
    | true => exact limited_failed pieces.2 _
    | false => exact ⟨rfl, pieces.2.congr rfl rfl rfl⟩
  | failed =>
    rw [parsed] at pieces
    cases parsed' : q.parseInputInner (p.unparsedBytes ++ payload) with
    | complete =>
      rw [parsed'] at pieces
      exact .inl pieces
    | pending q' =>
      rw [parsed'] at pieces
      dsimp only
      cases q'.isBoundary with
      | true => exact .inl pieces
      | false => exact .inl (pieces.congr rfl rfl)
    | failed =>
      rw [parsed'] at pieces
      rcases pieces with exceeded | agreed
      · exact .inl exceeded
      · exact .inr ⟨by simp, agreed⟩

/-- The sizes of the headers in each frame of a block, read without a limit up to
the first error. -/
def decodedSizes : HPackParser → MetadataBatch → List FramePart → List (List Nat)
  | _, _, [] => []
  | p, batch, part :: parts =>
    match (p.beginFrame (some batch) noLimit part.boundary part.priority).parse
        part.payload true with
    | (some _, q) =>
      [sizes ((q.metadataBuffer.getD batch).received.drop batch.received.length)]
    | (none, q) =>
      sizes ((q.metadataBuffer.getD batch).received.drop batch.received.length) ::
        decodedSizes q.finishFrame (q.metadataBuffer.getD batch) parts

theorem decodedSizes_withoutLimit (p : HPackParser) (batch : MetadataBatch)
    (parts : List FramePart) :
    p.withoutLimit.decodedSizes batch parts = p.decodedSizes batch parts := by
  cases parts <;> rfl

theorem counting_beginFrame (p : HPackParser) (batch : MetadataBatch) (limit : Nat)
    (boundary : Boundary) (priority : Priority) :
    Counting limit batch.received (p.beginFrame (some batch) limit boundary priority) :=
  ⟨rfl, [], ⟨⟨batch, rfl, by simp⟩, by simp [sizes, frameCounts]⟩, rfl⟩

theorem takeWhile_frameCounts (received : Received limit before inFrame p) :
    (frameCounts 0 (sizes inFrame)).takeWhile (·.2 ≤ limit) = frameCounts 0 (sizes inFrame) := by
  apply List.takeWhile_eq_self_iff.mpr
  intro header membership
  simpa using received.within header membership

theorem takeWhile_exceeded {more : List Memento} {md : Memento}
    (received : Received limit before inFrame p)
    (above : limit < ((sizes inFrame).sum + md.transportSize) % 4294967296)
    (rest : List (Nat × Nat)) :
    (frameCounts 0 (sizes (inFrame ++ md :: more)) ++ rest).takeWhile (·.2 ≤ limit) =
      frameCounts 0 (sizes inFrame) := by
  have counts := frameCounts_append 0 (sizes inFrame) (sizes (md :: more))
  have stop : ¬ ((sizes inFrame).sum % 4294967296 + md.transportSize) % 4294967296 ≤ limit := by
    omega
  rw [sizes, List.map_append, ← sizes, ← sizes, counts, List.append_assoc,
    List.takeWhile_append_of_pos (by simpa using received.within)]
  simp only [sizes, List.map_cons, frameCounts, List.cons_append] at stop ⊢
  rw [List.takeWhile_cons_of_neg (by simpa using stop), List.append_nil]

/-- A block with the limit receives the headers up to the first one above it, and
all of them when it succeeds. -/
theorem parseFrames_received {limit : Nat} {p : HPackParser} {batch : MetadataBatch}
    {parts : List FramePart} :
    ∃ received,
      (p.parseFrames limit batch parts).2.2.received = batch.received ++ received ∧
      sizes received =
        ((blockCounts (p.decodedSizes batch parts)).takeWhile (·.2 ≤ limit)).map Prod.fst ∧
      ((p.parseFrames limit batch parts).1 = none →
        sizes received = (p.decodedSizes batch parts).flatten) := by
  induction parts generalizing p batch with
  | nil => exact ⟨[], by simp [parseFrames], by simp [decodedSizes, blockCounts, sizes], by
      simp [decodedSizes, sizes]⟩
  | cons part parts ih =>
    have frame := limited_parse (counting_beginFrame p batch limit part.boundary part.priority)
      part.payload
    rw [show (p.beginFrame (some batch) limit part.boundary part.priority).withoutLimit =
      p.beginFrame (some batch) noLimit part.boundary part.priority from rfl] at frame
    simp only [parseFrames, decodedSizes]
    rcases limited : (p.beginFrame (some batch) limit part.boundary part.priority).parse
      part.payload true with ⟨_ | error, p'⟩
    · rw [limited] at frame
      obtain ⟨unlimited, counting⟩ := frame
      obtain ⟨inFrame, received, -⟩ := counting.received
      obtain ⟨batch', buffering, contents⟩ := received.buffering
      obtain ⟨later, received', counts, complete⟩ := @ih p'.finishFrame batch'
      have buffering' : p'.withoutLimit.metadataBuffer = some batch' := buffering
      simp only [unlimited, buffering, buffering', Option.getD_some]
      rw [show p'.withoutLimit.finishFrame = p'.finishFrame.withoutLimit from rfl,
        decodedSizes_withoutLimit]
      have inFrameEq : batch'.received.drop batch.received.length = inFrame := by
        rw [contents, List.drop_left]
      refine ⟨inFrame ++ later, ?_, ?_, ?_⟩
      · rw [received', contents, List.append_assoc]
      · rw [inFrameEq, blockCounts, List.flatMap_cons, ← blockCounts,
          List.takeWhile_append_of_pos (by simpa using received.within), List.map_append,
          map_fst_frameCounts, ← counts]
        simp [sizes]
      · intro succeeded
        rw [inFrameEq, List.flatten_cons, ← complete succeeded]
        simp [sizes]
    · rw [limited] at frame
      rcases unlimited : (p.beginFrame (some batch) noLimit part.boundary part.priority).parse
        part.payload true with ⟨error', q'⟩
      rw [unlimited] at frame
      rcases frame with ⟨inFrame, md, more, received, above, batch', buffering', contents'⟩ |
        ⟨failed, inFrame, received, same⟩
      · obtain ⟨batch'', buffering, contents⟩ := received.buffering
        have inFrameEq : batch'.received.drop batch.received.length = inFrame ++ md :: more := by
          rw [contents', List.drop_left]
        refine ⟨inFrame, by simp [buffering, contents], ?_, by simp⟩
        cases error' with
        | none | some =>
          simp only [buffering', Option.getD_some, inFrameEq, blockCounts, List.flatMap_cons]
          rw [takeWhile_exceeded received above, map_fst_frameCounts]
      · obtain ⟨batch'', buffering, contents⟩ := received.buffering
        rw [buffering] at same
        have inFrameEq : batch''.received.drop batch.received.length = inFrame := by
          rw [contents, List.drop_left]
        refine ⟨inFrame, by simp [buffering, contents], ?_, by simp⟩
        cases error' with
        | none => exact absurd rfl failed
        | some =>
          simp only [same, Option.getD_some, inFrameEq, blockCounts, List.flatMap_cons,
            List.flatMap_nil, List.append_nil]
          rw [takeWhile_frameCounts received, map_fst_frameCounts]

end HPackParser

end GrpcCore.Hpack
