import GrpcCore.Lib.BigEndian
import GrpcCore.Slice.ByteView
import GrpcCore.Transport.DataParser

/-!
# Messages are received as they were sent

Wherever the stream of messages is cut into slices and whenever the calls are made, the parser
is at a position in the stream: inside a header, inside a payload, behind the last message, or
stuck at a byte that is no type.
-/

namespace GrpcCore.Transport.Data

open SliceBuffer Machine

structure Message where
  compressed : Bool
  payload : List UInt8

namespace Message

variable (m : Message)

def flags : UInt32 := if m.compressed then GRPC_WRITE_INTERNAL_COMPRESS else 0

def typeByte : UInt8 := if m.compressed then 1 else 0

def lengthByte (shift : Nat) : UInt8 := UInt8.ofNat (m.payload.length >>> shift)

def header : List UInt8 := m.typeByte :: BigEndian.bytes32 m.payload.length

end Message

def encode (messages : List Message) : List UInt8 :=
  messages.flatMap fun m => m.header ++ m.payload

/-- A message that has begun: its stream and the slices handed over. -/
structure Received where
  length : Nat
  flags : UInt32
  slices : List Slice

namespace Received

def payload (r : Received) : List UInt8 := contentOf r.slices

/-- What has been received is the message, but for the bytes `left` of its payload. -/
structure Lacks (r : Received) (m : Message) (left : List UInt8) : Prop where
  length : r.length = m.payload.length
  flags : r.flags = m.flags
  payload : r.payload ++ left = m.payload

def Is (r : Received) (m : Message) : Prop := r.Lacks m []

end Received

/-- The messages that have begun, with what a call hands over. -/
def receive (received : List Received) (streamOut : Option IncomingByteStream)
    (sliceOut : Option Slice) : List Received :=
  let received :=
    match streamOut with
    | some stream => received ++ [⟨stream.length, stream.flags, []⟩]
    | none => received
  match sliceOut with
  | some slice => received.modifyLast fun r => { r with slices := r.slices ++ [slice] }
  | none => received

/-- A parser between the bytes of a header, the last of which are still to come. -/
inductive Header (m : Message) (p : DataParser) : List UInt8 → Prop where
  | fh0 (state : p.state = .fh0) : Header m p m.header
  | fh1 (state : p.state = .fh1) (compressed : p.isFrameCompressed = m.compressed) :
      Header m p [m.lengthByte 24, m.lengthByte 16, m.lengthByte 8, m.lengthByte 0]
  | fh2 (state : p.state = .fh2) (compressed : p.isFrameCompressed = m.compressed)
      (size : p.frameSize = (m.lengthByte 24).toNat <<< 24) :
      Header m p [m.lengthByte 16, m.lengthByte 8, m.lengthByte 0]
  | fh3 (state : p.state = .fh3) (compressed : p.isFrameCompressed = m.compressed)
      (size : p.frameSize = (m.lengthByte 24).toNat <<< 24 ||| (m.lengthByte 16).toNat <<< 16) :
      Header m p [m.lengthByte 8, m.lengthByte 0]
  | fh4 (state : p.state = .fh4) (compressed : p.isFrameCompressed = m.compressed)
      (size : p.frameSize = (m.lengthByte 24).toNat <<< 24 ||| (m.lengthByte 16).toNat <<< 16 |||
        (m.lengthByte 8).toNat <<< 8) : Header m p [m.lengthByte 0]

inductive HeaderRead (m : Message) (p : DataParser) (header bytes : List UInt8) :
    DataPass → Prop where
  | ended {p' : DataParser} {header' : List UInt8} (later : Header m p' header')
      (split : header = bytes ++ header') (same : p'.parsingFrame = p.parsingFrame) :
      HeaderRead m p header bytes (.ended p')
  | began {p' : DataParser} {rest : List UInt8} (split : bytes = header ++ rest)
      (size : p'.frameSize = m.payload.length) (same : p'.parsingFrame = p.parsingFrame) :
      HeaderRead m p header bytes (.began p' (.create m.payload.length m.flags) rest)

section Header

variable {m : Message} {p p' : DataParser} {header bytes more after : List UInt8}
  {taken : DataPass}

theorem HeaderRead.cons (read : HeaderRead m p' header bytes taken)
    (same : p'.parsingFrame = p.parsingFrame) (cur : UInt8) :
    HeaderRead m p (cur :: header) (cur :: bytes) taken := by
  cases read with
  | ended later split same' =>
    exact .ended later (congrArg (cur :: ·) split) (same'.trans same)
  | began split size same' => exact .began (congrArg (cur :: ·) split) size (same'.trans same)

section

variable (small : m.payload.length < 4294967296) (compressed : p.isFrameCompressed = m.compressed)
include small compressed

theorem read_fh4
    (size : p.frameSize = (m.lengthByte 24).toNat <<< 24 ||| (m.lengthByte 16).toNat <<< 16 |||
      (m.lengthByte 8).toNat <<< 8) (stream : bytes ++ more = [m.lengthByte 0] ++ after) :
    HeaderRead m p [m.lengthByte 0] bytes (p.fh4 bytes) := by
  cases bytes with
  | nil => exact .ended (.fh4 rfl compressed size) rfl rfl
  | cons =>
    obtain ⟨isByte, _⟩ := List.cons.inj stream
    have whole : p.frameSize ||| (m.lengthByte 0).toNat = m.payload.length := by
      rw [size]
      exact BigEndian.join_bytes32 small
    have flags : (if p.isFrameCompressed then GRPC_WRITE_INTERNAL_COMPRESS else 0) = m.flags := by
      rw [compressed]
      rfl
    rw [isByte, DataParser.fh4, whole, flags]
    exact .began rfl rfl rfl

theorem read_fh3
    (size : p.frameSize = (m.lengthByte 24).toNat <<< 24 ||| (m.lengthByte 16).toNat <<< 16)
    (stream : bytes ++ more = [m.lengthByte 8, m.lengthByte 0] ++ after) :
    HeaderRead m p [m.lengthByte 8, m.lengthByte 0] bytes (p.fh3 bytes) := by
  cases bytes with
  | nil => exact .ended (.fh3 rfl compressed size) rfl rfl
  | cons =>
    obtain ⟨isByte, stream⟩ := List.cons.inj stream
    rw [isByte, DataParser.fh3]
    have later := read_fh4 (p := { p with frameSize := p.frameSize ||| (m.lengthByte 8).toNat <<< 8 })
      small compressed (by rw [size]) stream
    exact later.cons (p := p) rfl _

theorem read_fh2 (size : p.frameSize = (m.lengthByte 24).toNat <<< 24)
    (stream : bytes ++ more = [m.lengthByte 16, m.lengthByte 8, m.lengthByte 0] ++ after) :
    HeaderRead m p [m.lengthByte 16, m.lengthByte 8, m.lengthByte 0] bytes (p.fh2 bytes) := by
  cases bytes with
  | nil => exact .ended (.fh2 rfl compressed size) rfl rfl
  | cons =>
    obtain ⟨isByte, stream⟩ := List.cons.inj stream
    rw [isByte, DataParser.fh2]
    have later := read_fh3 (p := { p with frameSize := p.frameSize ||| (m.lengthByte 16).toNat <<< 16 })
      small compressed (by rw [size]) stream
    exact later.cons (p := p) rfl _

theorem read_fh1 (stream : bytes ++ more =
      [m.lengthByte 24, m.lengthByte 16, m.lengthByte 8, m.lengthByte 0] ++ after) :
    HeaderRead m p [m.lengthByte 24, m.lengthByte 16, m.lengthByte 8, m.lengthByte 0] bytes
      (p.fh1 bytes) := by
  cases bytes with
  | nil => exact .ended (.fh1 rfl compressed) rfl rfl
  | cons =>
    obtain ⟨isByte, stream⟩ := List.cons.inj stream
    rw [isByte, DataParser.fh1]
    have later := read_fh2 (p := { p with frameSize := (m.lengthByte 24).toNat <<< 24 })
      small compressed rfl stream
    exact later.cons (p := p) rfl _

end

theorem read_fh0 (small : m.payload.length < 4294967296) (streamId : Nat) (some_ : bytes ≠ [])
    (stream : bytes ++ more = m.header ++ after) :
    HeaderRead m p m.header bytes (p.fh0 streamId bytes) := by
  cases bytes with
  | nil => exact absurd rfl some_
  | cons cur rest =>
    obtain ⟨isByte, stream⟩ := List.cons.inj stream
    have later (p' : DataParser) (compressed : p'.isFrameCompressed = m.compressed)
        (same : p'.parsingFrame = p.parsingFrame) :
        HeaderRead m p m.header (m.typeByte :: rest) (p'.fh1 rest) :=
      .cons (read_fh1 small compressed stream) same _
    rw [isByte, DataParser.fh0]
    cases compressed : m.compressed with
    | false =>
      have isZero : m.typeByte = 0 := by rw [Message.typeByte, compressed]; rfl
      rw [if_pos isZero]
      exact later _ compressed.symm rfl
    | true =>
      have isOne : m.typeByte = 1 := by rw [Message.typeByte, compressed]; rfl
      rw [if_neg (by rw [isOne]; decide), if_pos isOne]
      exact later _ compressed.symm rfl

theorem Header.pass (begun : Header m p header) (small : m.payload.length < 4294967296)
    (streamId : Nat) (some_ : bytes ≠ []) (stream : bytes ++ more = header ++ after) :
    HeaderRead m p header bytes (p.pass streamId bytes) := by
  unfold DataParser.pass
  cases begun with
  | fh0 state =>
    rw [state]
    exact read_fh0 small streamId some_ stream
  | fh1 state compressed =>
    rw [state]
    exact read_fh1 small compressed stream
  | fh2 state compressed size =>
    rw [state]
    exact read_fh2 small compressed size stream
  | fh3 state compressed size =>
    rw [state]
    exact read_fh3 small compressed size stream
  | fh4 state compressed size =>
    rw [state]
    exact read_fh4 small compressed size stream

theorem Header.ne_nil (begun : Header m p header) : header ≠ [] := by
  cases begun <;> exact List.cons_ne_nil _ _

theorem Header.state_ne_error (begun : Header m p header) : p.state ≠ .error := by
  intro isError
  cases begun with
  | fh0 state => exact nomatch state.symm.trans isError
  | fh1 state => exact nomatch state.symm.trans isError
  | fh2 state => exact nomatch state.symm.trans isError
  | fh3 state => exact nomatch state.symm.trans isError
  | fh4 state => exact nomatch state.symm.trans isError

end Header

/-- Where a parser is in the stream of the messages and of a tail behind them, of which
`remaining` is still to be read. -/
inductive Position (streamId : Nat) (messages : List Message) (tail : List UInt8) (p : DataParser)
    (received : List Received) (remaining : List UInt8) : Prop where
  | header {done later : List Message} {m : Message} {header : List UInt8}
      (split : messages = done ++ m :: later) (whole : List.Forall₂ Received.Is received done)
      (begun : Header m p header) (isNone : p.parsingFrame = none)
      (rest : remaining = header ++ (m.payload ++ (encode later ++ tail)))
  | payload {done later : List Message} {m : Message} {front : List Received} {r : Received}
      {left : List UInt8} {stream : IncomingByteStream} (split : messages = done ++ m :: later)
      (isReceived : received = front ++ [r]) (whole : List.Forall₂ Received.Is front done)
      (state : p.state = .frame) (isSome : p.parsingFrame = some stream)
      (owed : stream.remainingBytes = left.length) (size : p.frameSize = left.length)
      (more : left ≠ []) (lacks : r.Lacks m left) (rest : remaining = left ++ (encode later ++ tail))
  | finished (whole : List.Forall₂ Received.Is received messages) (state : p.state = .fh0)
      (isNone : p.parsingFrame = none) (rest : remaining = tail)
  | stuck {first : UInt8} {rest more : List UInt8} (isTail : tail = first :: rest)
      (whole : List.Forall₂ Received.Is received messages) (state : p.state = .error)
      (error : p.error = some (.badFrameType first streamId (first :: more) 0))

section Position

variable {streamId : Nat} {messages done later : List Message} {tail remaining : List UInt8}
  {p : DataParser} {received : List Received}

theorem encode_cons (m : Message) (messages : List Message) :
    encode (m :: messages) = m.header ++ (m.payload ++ encode messages) := by
  rfl

theorem Position.between (split : messages = done ++ later)
    (whole : List.Forall₂ Received.Is received done) (state : p.state = .fh0)
    (isNone : p.parsingFrame = none) (rest : remaining = encode later ++ tail) :
    Position streamId messages tail p received remaining := by
  cases later with
  | nil =>
    rw [List.append_nil] at split
    exact .finished (split ▸ whole) state isNone rest
  | cons =>
    refine .header split whole (.fh0 state) isNone ?_
    rw [rest, encode_cons]
    simp only [List.append_assoc]

end Position

/-- What a call on a buffer, with `future` still to be added to it, comes to. An error is the one
that the parser keeps, and it is returned unless nothing was left to be read. -/
structure Called (streamId : Nat) (messages : List Message) (tail : List UInt8) (p : DataParser)
    (received : List Received) (sb : SliceBuffer) (future : List UInt8) (d : Deframed) : Prop where
  position : Position streamId messages tail d.parser (receive received d.streamOut d.sliceOut)
    (d.slices.content ++ future)
  error : d.error =
    if d.parser.state = .error ∧ (p.state = .error → sb.content ≠ []) then d.parser.error else none
  stuck : p.state = .error → d.parser = p
  shrinks : d.slices.content.length ≤ sb.content.length
  progress : sb.content ≠ [] → d.slices.content.length < sb.content.length
  short : ∀ slice ∈ d.slices.slices, slice.length < 4294967296

section Call

variable {streamId : Nat} {messages : List Message} {tail future : List UInt8}
  {p : DataParser} {received : List Received} {sb : SliceBuffer} {slice : Slice} {rest : List Slice}

section

variable (isSlices : sb.slices = slice :: rest)
include isSlices

theorem removeFirst_eq : ∃ left, sb.removeFirst = some left ∧ left.slices = rest := by
  rw [removeFirst, isSlices]
  exact ⟨_, rfl, rfl⟩

theorem subFirst_eq {begin_ : Nat} (inside : begin_ ≤ slice.length) :
    ∃ left, sb.subFirst begin_ slice.length = some left ∧
      left.slices = slice.sub begin_ slice.length :: rest := by
  have within : begin_ ≤ slice.length ∧ slice.length ≤ slice.length := ⟨inside, Nat.le_refl _⟩
  rw [subFirst, isSlices]
  dsimp only
  rw [if_pos within]
  exact ⟨_, rfl, rfl⟩

theorem content_cons : sb.content = slice.bytes ++ contentOf rest := by
  rw [content, isSlices, contentOf_cons]

end

theorem bytes_sub_end (slice : Slice) (begin_ : Nat) :
    (slice.sub begin_ slice.length).bytes = slice.bytes.drop begin_ := by
  rw [bytes_sub, Slice.length, List.take_length]

theorem bytes_copy (slice : Slice) (begin_ end_ : Nat) :
    (DataParser.sub slice begin_ end_).bytes = (slice.bytes.take end_).drop begin_ := by
  unfold DataParser.sub
  split
  · rfl
  · exact bytes_sub slice begin_ end_

section

variable (isSlices : sb.slices = slice :: rest)
  (short : ∀ slice ∈ sb.slices, slice.length < 4294967296)
include isSlices short

theorem called_beginMessage {done later : List Message} {m : Message} {left : List UInt8}
    {bytes : List UInt8} (fine : p.state ≠ .error) (split : messages = done ++ m :: later)
    (whole : List.Forall₂ Received.Is received done) (isBytes : slice.bytes = bytes ++ left)
    (some_ : bytes ≠ []) {p' : DataParser} (size : p'.frameSize = m.payload.length)
    (stream : left ++ (contentOf rest ++ future) = m.payload ++ (encode later ++ tail)) :
    ∃ d, p'.beginMessage sb slice (.create m.payload.length m.flags) left = some d ∧
      Called streamId messages tail p received sb future d := by
  have length : slice.length = bytes.length + left.length := by
    rw [Slice.length, isBytes, List.length_append]
  have positive := List.length_pos_of_ne_nil some_
  obtain ⟨after, isAfter, content, short'⟩ : ∃ after,
      (if left ≠ [] then sb.subFirst (slice.length - left.length) slice.length else sb.removeFirst) =
        some after ∧ after.content = left ++ contentOf rest ∧
          ∀ slice ∈ after.slices, slice.length < 4294967296 := by
    rw [isSlices] at short
    by_cases last : left = []
    · obtain ⟨after, removed, slices⟩ := removeFirst_eq isSlices
      rw [if_neg (not_not.mpr last)]
      refine ⟨after, removed, ?_, ?_⟩
      · rw [last, SliceBuffer.content, slices]
        rfl
      · rw [slices]
        exact fun slice listed => short slice (List.mem_cons_of_mem _ listed)
    · obtain ⟨after, cut, slices⟩ := subFirst_eq isSlices (Nat.sub_le slice.length left.length)
      have bytes_eq : (slice.sub (slice.length - left.length) slice.length).bytes = left := by
        rw [bytes_sub_end, length, Nat.add_sub_cancel, isBytes, List.drop_left' rfl]
      rw [if_pos last]
      refine ⟨after, cut, ?_, ?_⟩
      · rw [content_cons slices, bytes_eq]
      · rw [slices]
        intro slice' listed
        rcases List.mem_cons.mp listed with isFirst | later
        · rw [isFirst, Slice.length, bytes_eq]
          have first := short slice List.mem_cons_self
          omega
        · exact short slice' (List.mem_cons_of_mem _ later)
  have less : after.content.length < sb.content.length := by
    rw [content, content_cons isSlices, isBytes, List.length_append, List.length_append,
      List.length_append]
    omega
  have begun (p'' : DataParser) (reached : DataState) (state : p''.state = reached)
      (fine' : reached ≠ .error)
      (position : Position streamId messages tail p''
        (received ++ [⟨m.payload.length, m.flags, []⟩]) (left ++ (contentOf rest ++ future))) :
      Called streamId messages tail p received sb future
        { parser := p'', slices := after, streamOut := some (.create m.payload.length m.flags) } := by
    refine ⟨?_, ?_, fun stuck => absurd stuck fine, Nat.le_of_lt less, fun _ => less, short'⟩
    · rw [content, List.append_assoc]
      exact position
    · rw [if_neg fun stuck => fine' (state.symm.trans stuck.1)]
  rw [DataParser.beginMessage, isAfter]
  refine ⟨_, rfl, ?_⟩
  by_cases empty : m.payload.length = 0
  · have nothing := List.eq_nil_of_length_eq_zero empty
    rw [if_pos (show (IncomingByteStream.create m.payload.length m.flags).remainingBytes = 0 from
      empty)]
    apply begun _ .fh0 rfl (by decide)
    have split' : messages = (done ++ [m]) ++ later := by
      rw [split, List.append_assoc]
      rfl
    apply Position.between split' _ rfl rfl
    · rw [stream, nothing, List.nil_append]
    · exact List.rel_append whole (.cons ⟨rfl, rfl, nothing.symm⟩ .nil)
  · rw [if_neg (show (IncomingByteStream.create m.payload.length m.flags).remainingBytes ≠ 0 from
      empty)]
    apply begun _ .frame rfl (by decide)
    exact .payload split rfl whole rfl rfl rfl size (fun nothing => empty (congrArg _ nothing))
      ⟨rfl, rfl, rfl⟩ stream

theorem called_readPayload {done later : List Message} {m : Message} {front : List Received}
    {r : Received} {left : List UInt8} {stream : IncomingByteStream}
    (split : messages = done ++ m :: later) (isReceived : received = front ++ [r])
    (whole : List.Forall₂ Received.Is front done) (state : p.state = .frame)
    (owed : stream.remainingBytes = left.length) (size : p.frameSize = left.length)
    (more : left ≠ []) (lacks : r.Lacks m left) (some_ : slice.bytes ≠ [])
    (remaining : slice.bytes ++ (contentOf rest ++ future) = left ++ (encode later ++ tail)) :
    ∃ d, p.readPayload sb slice stream = some d ∧
      Called streamId messages tail p received sb future d := by
  have fine : p.state ≠ .error := by rw [state]; decide
  rw [isSlices] at short
  have small := short slice List.mem_cons_self
  have positive : 0 < slice.length := List.length_pos_of_ne_nil some_
  have content := content_cons isSlices
  have restShort : ∀ slice ∈ rest, slice.length < 4294967296 := fun slice listed =>
    short slice (List.mem_cons_of_mem _ listed)
  -- the bytes that are handed over go to the last message
  have handed (out : Slice) : receive received none (some out) =
      front ++ [{ r with slices := r.slices ++ [out] }] := by
    rw [isReceived]
    exact List.modifyLast_concat _ _ _
  have grows {out : Slice} {left' : List UInt8} (bytes : out.bytes ++ left' = left) :
      Received.Lacks { r with slices := r.slices ++ [out] } m left' := by
    refine ⟨lacks.length, lacks.flags, ?_⟩
    rw [← lacks.payload, ← bytes, Received.payload, contentOf_append, contentOf_cons, contentOf_nil,
      List.append_nil, List.append_assoc]
    rfl
  have split' : messages = (done ++ [m]) ++ later := by
    rw [split, List.append_assoc]
    rfl
  -- the message is over, and `after` has what comes behind it
  have finishes {out : Slice} {after : SliceBuffer} {removed : Option SliceBuffer}
      (bytes : out.bytes = left) (less : after.content.length < sb.content.length)
      (afterShort : ∀ slice ∈ after.slices, slice.length < 4294967296)
      (isRest : after.content ++ future = encode later ++ tail) :
      ∃ d, p.finish { stream with remainingBytes := stream.remainingBytes - out.length } out
          (some after) removed = some d ∧
        Called streamId messages tail p received sb future d := by
    have none : stream.remainingBytes - out.length = 0 := by
      rw [owed, Slice.length, bytes, Nat.sub_self]
    rw [DataParser.finish, IncomingByteStream.finished, none, if_neg (not_not.mpr rfl)]
    refine ⟨_, rfl, ?_, ?_, fun stuck => absurd stuck fine, Nat.le_of_lt less, fun _ => less,
      afterShort⟩
    · rw [handed]
      apply Position.between split' _ rfl rfl isRest
      refine List.rel_append whole (.cons (grows ?_) .nil)
      rw [bytes, List.append_nil]
    · exact (if_neg fun stuck => by cases stuck.1).symm
  have pushes {out : Slice} (fits : out.length ≤ left.length) : stream.push out =
      .ok { stream with remainingBytes := stream.remainingBytes - out.length } := by
    rw [IncomingByteStream.push, if_neg (by rw [owed]; exact Nat.not_lt.mpr fits)]
  have copyAll : (DataParser.sub slice 0 slice.length).bytes = slice.bytes := by
    rw [bytes_copy, Slice.length, List.take_length]
    rfl
  have copyLength : (DataParser.sub slice 0 slice.length).length = slice.length := by
    rw [Slice.length, copyAll]
    rfl
  rw [DataParser.readPayload, Nat.mod_eq_of_lt small, size]
  obtain ⟨removed, isRemoved, removedSlices⟩ := removeFirst_eq isSlices
  have removedContent : removed.content = contentOf rest := by
    rw [SliceBuffer.content, removedSlices]
  have removedLess : removed.content.length < sb.content.length := by
    rw [removedContent, content, List.length_append]
    exact Nat.lt_add_of_pos_left positive
  have removedShort : ∀ slice ∈ removed.slices, slice.length < 4294967296 := by
    rw [removedSlices]
    exact restShort
  rcases Nat.lt_trichotomy slice.length left.length with part | all | beyond
  · rw [if_neg (Nat.ne_of_lt part), if_pos part, pushes (by rw [copyLength]; exact Nat.le_of_lt part),
      isRemoved]
    obtain ⟨left', isLeft, isRest⟩ : ∃ left', slice.bytes ++ left' = left ∧
        contentOf rest ++ future = left' ++ (encode later ++ tail) := by
      rcases List.append_eq_append_iff.mp remaining with ⟨left', isLeft, isRest⟩ | ⟨extra, isBytes, _⟩
      · exact ⟨left', isLeft.symm, isRest⟩
      · rw [Slice.length, isBytes, List.length_append] at part
        omega
    have length : slice.length + left'.length = left.length := by
      rw [← isLeft, List.length_append]
      rfl
    have lacks' := grows (copyAll ▸ isLeft : (DataParser.sub slice 0 slice.length).bytes ++ left' = left)
    refine ⟨_, rfl, ?_, ?_, fun stuck => absurd stuck fine, Nat.le_of_lt removedLess,
      fun _ => removedLess, removedShort⟩
    · refine .payload split (handed _) whole state rfl ?_ ?_ ?_ lacks' ?_
      · change stream.remainingBytes - (DataParser.sub slice 0 slice.length).length = _
        omega
      · change left.length - slice.length = _
        omega
      · intro nothing
        rw [nothing, List.length_nil] at length
        omega
      · rw [removedContent, isRest]
    · exact (if_neg fun stuck => fine stuck.1).symm
  · obtain ⟨isBytes, isRest⟩ := List.append_inj remaining all
    rw [if_pos all, pushes (Nat.le_of_eq (copyLength.trans all)), isRemoved]
    apply finishes (copyAll.trans isBytes) removedLess removedShort
    rw [removedContent, isRest]
  · obtain ⟨extra, isBytes, isRest⟩ : ∃ extra, slice.bytes = left ++ extra ∧
        encode later ++ tail = extra ++ (contentOf rest ++ future) := by
      rcases List.append_eq_append_iff.mp remaining with ⟨left', isLeft, _⟩ | ⟨extra, isBytes, isRest⟩
      · rw [isLeft, List.length_append, ← Slice.length] at beyond
        omega
      · exact ⟨extra, isBytes, isRest⟩
    have copyBytes : (DataParser.sub slice 0 left.length).bytes = left := by
      rw [bytes_copy, isBytes, List.take_left' rfl]
      rfl
    have copyLength : (DataParser.sub slice 0 left.length).length = left.length := by
      rw [Slice.length, copyBytes]
    obtain ⟨after, cut, slices⟩ := subFirst_eq isSlices (Nat.le_of_lt beyond)
    have extraBytes : (slice.sub left.length slice.length).bytes = extra := by
      rw [bytes_sub_end, isBytes, List.drop_left' rfl]
    have afterContent : after.content = extra ++ contentOf rest := by
      rw [content_cons slices, extraBytes]
    have positive := List.length_pos_of_ne_nil more
    rw [if_neg (Nat.ne_of_gt beyond), if_neg (Nat.not_lt.mpr (Nat.le_of_lt beyond)),
      pushes (Nat.le_of_eq copyLength), cut]
    apply finishes copyBytes
    · rw [afterContent, content, isBytes, List.length_append, List.length_append, List.length_append]
      omega
    · rw [slices]
      intro slice' listed
      rcases List.mem_cons.mp listed with isFirst | later
      · rw [isFirst, Slice.length, extraBytes]
        rw [Slice.length, isBytes, List.length_append] at small
        omega
      · exact restShort slice' later
    · rw [afterContent, isRest, List.append_assoc]

end

theorem deframeLoop_called (small : ∀ m ∈ messages, m.payload.length < 4294967296)
    (bad : ∀ first rest, tail = first :: rest → first ≠ 0 ∧ first ≠ 1) {slices : List Slice}
    (isSlices : sb.slices = slices) (short : ∀ slice ∈ sb.slices, slice.length < 4294967296)
    (position : Position streamId messages tail p received (sb.content ++ future)) :
    ∃ d, deframeLoop streamId p.parsingFrame.isNone p.parsingFrame.isSome slices p sb = some d ∧
      Called streamId messages tail p received sb future d := by
  induction slices generalizing sb p with
  | nil =>
    have empty : sb.content = [] := content_eq_nil isSlices rfl
    refine ⟨_, rfl, position, ?_, fun _ => rfl, Nat.le_refl _, fun more => absurd empty more, short⟩
    refine (if_neg ?_).symm
    rintro ⟨error, more⟩
    exact more error empty
  | cons slice rest ih =>
    obtain ⟨left, removed, slices⟩ := removeFirst_eq isSlices
    have content := content_cons isSlices
    have leftContent : left.content = contentOf rest := by rw [SliceBuffer.content, slices]
    have leftShort : ∀ slice ∈ left.slices, slice.length < 4294967296 := by
      rw [slices]
      rw [isSlices] at short
      exact fun slice listed => short slice (List.mem_cons_of_mem _ listed)
    by_cases empty : slice.bytes = []
    · have same : left.content = sb.content := by rw [leftContent, content, empty, List.nil_append]
      rw [deframeLoop, if_pos empty, removed, Option.bind_some]
      obtain ⟨d, taken, called⟩ := ih slices leftShort (same ▸ position)
      refine ⟨d, taken, called.position, ?_, called.stuck, ?_, ?_, called.short⟩
      · rw [← same]
        exact called.error
      · rw [← same]
        exact called.shrinks
      · rw [← same]
        exact called.progress
    · have positive := List.length_pos_of_ne_nil empty
      have more : sb.content ≠ [] := by
        rw [content]
        exact List.append_ne_nil_of_left_ne_nil empty _
      have less : left.content.length < sb.content.length := by
        rw [leftContent, content, List.length_append]
        omega
      rw [deframeLoop, if_neg empty]
      cases position with
      | @header done later m header split whole begun isNone stream =>
        have fits := small m (by rw [split]; exact List.mem_append_right _ List.mem_cons_self)
        have fine := begun.state_ne_error
        rw [content, List.append_assoc] at stream
        have read := begun.pass fits streamId empty stream
        generalize p.pass streamId slice.bytes = taken at read
        cases read with
        | @ended p' header' begun' splitHeader same =>
          have stream' : left.content ++ future =
              header' ++ (m.payload ++ (encode later ++ tail)) := by
            rw [splitHeader, List.append_assoc] at stream
            rw [leftContent]
            exact List.append_cancel_left stream
          dsimp only
          rw [removed, Option.bind_some, ← same]
          obtain ⟨d, taken, called⟩ :=
            ih slices leftShort (.header split whole begun' (same.trans isNone) stream')
          have fine' := begun'.state_ne_error
          have fewer := Nat.lt_of_le_of_lt called.shrinks less
          refine ⟨d, taken, called.position, ?_, fun stuck => absurd stuck fine,
            Nat.le_of_lt fewer, fun _ => fewer, called.short⟩
          have error := called.error
          simp only [fine', fine, false_implies, and_true] at error ⊢
          exact error
        | @began p' remains splitBytes size same =>
          dsimp only
          rw [same, isNone]
          apply called_beginMessage isSlices short fine split whole splitBytes begun.ne_nil size
          rw [splitBytes, List.append_assoc] at stream
          exact List.append_cancel_left stream
      | payload split isReceived whole state isSome owed size more' lacks stream =>
        have pass : p.pass streamId slice.bytes = .payload := by rw [DataParser.pass, state]
        rw [content, List.append_assoc] at stream
        rw [pass, isSome]
        exact called_readPayload isSlices short split isReceived whole state owed size more' lacks
          empty stream
      | finished whole state isNone stream =>
        cases bytes : slice.bytes with
        | nil => exact absurd bytes empty
        | cons first others =>
          rw [content, bytes] at stream
          obtain ⟨notZero, notOne⟩ := bad first _ stream.symm
          have pass : p.pass streamId (first :: others) = .failed
              { p with frameType := first, state := .error
                       error := some (.badFrameType first streamId (first :: others) 0) }
              (.badFrameType first streamId (first :: others) 0) := by
            rw [DataParser.pass, state]
            rw [DataParser.fh0, if_neg notZero, if_neg notOne]
          rw [pass]
          rw [removed]
          refine ⟨_, rfl, ?_, ?_, (fun stuck => by cases state.symm.trans stuck),
            Nat.le_of_lt less, fun _ => less, leftShort⟩
          · exact .stuck stream.symm whole rfl rfl
          · exact (if_pos ⟨rfl, fun _ => more⟩).symm
      | stuck isTail whole state error =>
        have pass : p.pass streamId slice.bytes = .repeats := by rw [DataParser.pass, state]
        rw [pass]
        rw [removed]
        refine ⟨_, rfl, .stuck isTail whole state error, ?_, fun _ => rfl, Nat.le_of_lt less,
          fun _ => less, leftShort⟩
        exact (if_pos ⟨state, fun _ => more⟩).symm

end Call

/-- A parser, the buffer it is called on, what has been received, and what the calls have
returned, each with whether bytes were left for it. -/
structure Deframing where
  parser : DataParser := {}
  slices : SliceBuffer := .init
  received : List Received := []
  returned : List (Bool × Option DataError) := []

/-- Slices are added to the buffer at any time. -/
inductive Action where
  | append (slice : Slice)
  | call

/-- A call has `stream_out` while no frame is being parsed, and `slice_out` while one is. -/
def Deframing.step (streamId : Nat) (s : Deframing) : Action → Option Deframing
  | .append slice => some { s with slices := s.slices.add slice }
  | .call =>
    (deframeUnprocessedIncomingFrames streamId s.parser s.slices s.parser.parsingFrame.isSome
      s.parser.parsingFrame.isNone).map fun d =>
        { parser := d.parser
          slices := d.slices
          received := receive s.received d.streamOut d.sliceOut
          returned := s.returned ++ [(decide (s.slices.content ≠ []), d.error)] }

def Action.bytes : Action → List UInt8
  | append slice => slice.bytes
  | call => []

/-- The bytes that are added in a run. -/
def appended (actions : List Action) : List UInt8 := actions.flatMap Action.bytes

/-- After the first error, every later call for which a byte is left returns it again. -/
def Repeats (returned : List (Bool × Option DataError)) (error : DataError) : Prop :=
  ∃ fine first failed, returned = fine ++ (first, some error) :: failed ∧
    (∀ call ∈ fine, call.2 = none) ∧ ∀ call ∈ failed, call.1 = true → call.2 = some error

/-- The messages that have been received are the first of those sent, and only the last of them
may be incomplete. An error comes after all of them, from the first byte of the tail. -/
structure Delivered (streamId : Nat) (messages : List Message) (tail : List UInt8) (s : Deframing) :
    Prop where
  within : ∀ (index : Nat) (r : Received), s.received[index]? = some r →
    ∃ m, messages[index]? = some m ∧ r.length = m.payload.length ∧ r.flags = m.flags ∧
      r.payload <+: m.payload ∧ (index + 1 < s.received.length → r.payload = m.payload)
  errors : (∀ call ∈ s.returned, call.2 = none) ∨ ∃ first rest more, tail = first :: rest ∧
    List.Forall₂ Received.Is s.received messages ∧
      Repeats s.returned (.badFrameType first streamId (first :: more) 0)

/-- All messages have been received, and there is an error exactly if there is a tail. -/
structure Complete (streamId : Nat) (messages : List Message) (tail : List UInt8) (s : Deframing) :
    Prop where
  whole : List.Forall₂ Received.Is s.received messages
  errors : match tail with
    | [] => ∀ call ∈ s.returned, call.2 = none
    | first :: _ => ∃ more, Repeats s.returned (.badFrameType first streamId (first :: more) 0)

/-- The parser is at its position in the stream, of which `future` has not been added yet. -/
structure InStream (streamId : Nat) (messages : List Message) (tail : List UInt8) (s : Deframing)
    (future : List UInt8) : Prop where
  position : Position streamId messages tail s.parser s.received (s.slices.content ++ future)
  short : ∀ slice ∈ s.slices.slices, slice.length < 4294967296
  fine : s.parser.state ≠ .error → ∀ call ∈ s.returned, call.2 = none
  failed : s.parser.state = .error → ∀ error, s.parser.error = some error →
    Repeats s.returned error

theorem Repeats.concat {returned : List (Bool × Option DataError)} {error : DataError}
    (repeats : Repeats returned error) {call : Bool × Option DataError}
    (again : call.1 = true → call.2 = some error) : Repeats (returned ++ [call]) error := by
  obtain ⟨fine, first, failed, split, isFine, repeated⟩ := repeats
  refine ⟨fine, first, failed ++ [call], ?_, isFine, ?_⟩
  · rw [split, List.append_assoc, List.cons_append]
  · intro call' listed more
    rcases List.mem_append.mp listed with earlier | last
    · exact repeated call' earlier more
    · rw [List.mem_singleton.mp last] at more ⊢
      exact again more

theorem exec_append {State Action : Type} {step : State → Action → Option State}
    {actions : List Action} {state state' : State}
    (done : exec step state actions = some state') (actions' : List Action) :
    exec step state (actions ++ actions') = exec step state' actions' := by
  induction actions generalizing state with
  | nil => rw [List.nil_append, Option.some.inj done]
  | cons action actions ih =>
    obtain ⟨next, taken, rest⟩ := Option.bind_eq_some_iff.mp done
    rw [List.cons_append, exec, taken, Option.bind_some]
    exact ih rest

theorem short_add {sb : SliceBuffer} {slice : Slice}
    (short : ∀ slice ∈ sb.slices, slice.length < 4294967296) (isShort : slice.length < 4294967296) :
    ∀ slice' ∈ (sb.add slice).slices, slice'.length < 4294967296 := by
  intro slice' listed
  have inlined {bytes : List UInt8} (small : bytes.length ≤ GRPC_SLICE_INLINED_SIZE) :
      (Slice.inlined bytes small).length < 4294967296 :=
    Nat.lt_of_le_of_lt small (by decide)
  rcases sb.add_cases slice with same | ⟨data, back, small, room, isBack, same⟩
  · rw [same, slices_addIndexed] at listed
    rcases List.mem_append.mp listed with earlier | last
    · exact short slice' earlier
    · rw [List.mem_singleton.mp last]
      exact isShort
  · rw [same] at listed
    unfold addInlined at listed
    split at listed
    · rcases List.mem_append.mp listed with earlier | last
      · exact short slice' (List.dropLast_subset _ earlier)
      · rw [List.mem_singleton.mp last]
        exact inlined _
    · rcases List.mem_append.mp listed with earlier | last
      · have earlier : slice' ∈ (sb.setBack (Slice.filled back data room)).maybeEmbiggen.slices :=
          earlier
        rw [slices_maybeEmbiggen] at earlier
        rcases List.mem_append.mp earlier with earlier | last
        · exact short slice' (List.dropLast_subset _ earlier)
        · rw [List.mem_singleton.mp last]
          exact inlined _
      · rw [List.mem_singleton.mp last]
        exact inlined _

section Run

variable {streamId : Nat} {messages : List Message} {tail future : List UInt8} {s : Deframing}
  {p : DataParser} {received : List Received} {remaining : List UInt8}

theorem Position.of_error (position : Position streamId messages tail p received remaining)
    (state : p.state = .error) : ∃ first rest more, tail = first :: rest ∧
      List.Forall₂ Received.Is received messages ∧
        p.error = some (.badFrameType first streamId (first :: more) 0) := by
  cases position with
  | header split whole begun =>
    exact absurd state begun.state_ne_error
  | payload split isReceived whole here => exact absurd (here.symm.trans state) nofun
  | finished whole here => exact absurd (here.symm.trans state) nofun
  | stuck isTail whole here error => exact ⟨_, _, _, isTail, whole, error⟩

theorem InStream.call (inStream : InStream streamId messages tail s future) {d : Deframed}
    (called : Called streamId messages tail s.parser s.received s.slices future d) :
    InStream streamId messages tail
      { parser := d.parser
        slices := d.slices
        received := receive s.received d.streamOut d.sliceOut
        returned := s.returned ++ [(decide (s.slices.content ≠ []), d.error)] } future := by
  refine ⟨called.position, called.short, fun state => ?_, fun state error isError => ?_⟩
  · have before : s.parser.state ≠ .error := fun stuck => state (called.stuck stuck ▸ stuck)
    intro call listed
    rcases List.mem_append.mp listed with earlier | last
    · exact inStream.fine before call earlier
    · rw [List.mem_singleton.mp last]
      exact called.error.trans (if_neg fun ⟨isError, _⟩ => state isError)
  · by_cases before : s.parser.state = .error
    · have same := called.stuck before
      rw [same] at isError
      apply (inStream.failed before error isError).concat
      intro more
      have returns := called.error
      rw [if_pos ⟨state, fun _ => of_decide_eq_true more⟩, same] at returns
      exact returns.trans isError
    · have returns := called.error
      rw [if_pos ⟨state, fun stuck => absurd stuck before⟩, isError] at returns
      refine ⟨s.returned, decide (s.slices.content ≠ []), [], ?_, inStream.fine before,
        List.forall_mem_nil _⟩
      rw [returns]

section

variable (small : ∀ m ∈ messages, m.payload.length < 4294967296)
  (bad : ∀ first rest, tail = first :: rest → first ≠ 0 ∧ first ≠ 1)
include small bad

theorem InStream.exec {actions : List Action}
    (short : ∀ slice, .append slice ∈ actions → slice.length < 4294967296)
    (inStream : InStream streamId messages tail s (appended actions ++ future)) :
    ∃ final, exec (Deframing.step streamId) s actions = some final ∧
      InStream streamId messages tail final future ∧
        final.slices.content.length ≤ s.slices.content.length + (appended actions).length := by
  induction actions generalizing s with
  | nil => exact ⟨s, rfl, inStream, Nat.le_refl _⟩
  | cons action actions ih =>
    have later {s : Deframing} := ih (s := s) fun slice listed =>
      short slice (List.mem_cons_of_mem _ listed)
    have split : appended (action :: actions) = action.bytes ++ appended actions := rfl
    rw [split, List.append_assoc] at inStream
    cases action with
    | append slice =>
      have added : InStream streamId messages tail { s with slices := s.slices.add slice }
          (appended actions ++ future) := by
        refine ⟨?_, short_add inStream.short (short slice List.mem_cons_self), inStream.fine,
          inStream.failed⟩
        change Position _ _ _ _ _ ((s.slices.add slice).content ++ _)
        rw [content_add, List.append_assoc]
        exact inStream.position
      obtain ⟨final, rest, inStream', fewer⟩ := later added
      refine ⟨final, rest, inStream', ?_⟩
      rw [content_add, List.length_append, Nat.add_assoc] at fewer
      rw [split, List.length_append]
      exact fewer
    | call =>
      obtain ⟨d, taken, called⟩ := deframeLoop_called small bad rfl inStream.short inStream.position
      obtain ⟨final, rest, inStream', fewer⟩ := later (inStream.call called)
      refine ⟨final, ?_, inStream', Nat.le_trans fewer (Nat.add_le_add_right called.shrinks _)⟩
      rw [Machine.exec, Deframing.step, deframeUnprocessedIncomingFrames, taken]
      exact rest

theorem InStream.drain {calls : Nat} (inStream : InStream streamId messages tail s [])
    (enough : s.slices.content.length ≤ calls) :
    ∃ final, Machine.exec (Deframing.step streamId) s (List.replicate calls .call) = some final ∧
      InStream streamId messages tail final [] ∧ final.slices.content = [] := by
  induction calls generalizing s with
  | zero => exact ⟨s, rfl, inStream, List.eq_nil_of_length_eq_zero (Nat.le_zero.mp enough)⟩
  | succ calls ih =>
    obtain ⟨d, taken, called⟩ := deframeLoop_called small bad rfl inStream.short inStream.position
    have fewer : d.slices.content.length ≤ calls := by
      by_cases more : s.slices.content = []
      · have shrinks := called.shrinks
        rw [more] at shrinks
        exact Nat.le_trans shrinks (Nat.zero_le _)
      · exact Nat.le_of_lt_succ (Nat.lt_of_lt_of_le (called.progress more) enough)
    obtain ⟨final, rest, inStream', empty⟩ := ih (inStream.call called) fewer
    refine ⟨final, ?_, inStream', empty⟩
    rw [List.replicate_succ, Machine.exec, Deframing.step, deframeUnprocessedIncomingFrames, taken]
    exact rest

end

theorem getElem?_of_whole {received : List Received} {messages : List Message}
    (whole : List.Forall₂ Received.Is received messages) {index : Nat} {r : Received}
    (found : received[index]? = some r) : ∃ m, messages[index]? = some m ∧ r.Is m := by
  induction whole generalizing index with
  | nil => exact nomatch found
  | cons first rest ih =>
    cases index with
    | zero => exact ⟨_, rfl, Option.some.inj found ▸ first⟩
    | succ => exact ih found

theorem Received.Is.payload_eq {r : Received} {m : Message} (is : r.Is m) : r.payload = m.payload := by
  rw [← is.payload, List.append_nil]

theorem within_of_whole {done : List Message} (isPrefix : done <+: messages)
    (whole : List.Forall₂ Received.Is received done) {index : Nat} {r : Received}
    (found : received[index]? = some r) :
    ∃ m, messages[index]? = some m ∧ r.length = m.payload.length ∧ r.flags = m.flags ∧
      r.payload <+: m.payload ∧ r.payload = m.payload := by
  obtain ⟨m, isSent, is⟩ := getElem?_of_whole whole found
  refine ⟨m, ?_, is.length, is.flags, ⟨[], is.payload⟩, is.payload_eq⟩
  obtain ⟨later, split⟩ := isPrefix
  rw [← split, List.getElem?_append_left (List.getElem?_eq_some_iff.mp isSent).1, isSent]

theorem InStream.delivered (inStream : InStream streamId messages tail s future) :
    Delivered streamId messages tail s := by
  constructor
  · intro index r found
    have ofWhole {done : List Message} (isPrefix : done <+: messages)
        (whole : List.Forall₂ Received.Is s.received done) :
        ∃ m, messages[index]? = some m ∧ r.length = m.payload.length ∧ r.flags = m.flags ∧
          r.payload <+: m.payload ∧ (index + 1 < s.received.length → r.payload = m.payload) := by
      obtain ⟨m, isSent, length, flags, begins, same⟩ := within_of_whole isPrefix whole found
      exact ⟨m, isSent, length, flags, begins, fun _ => same⟩
    cases inStream.position with
    | header split whole => exact ofWhole ⟨_, split.symm⟩ whole
    | finished whole => exact ofWhole List.prefix_rfl whole
    | stuck isTail whole => exact ofWhole List.prefix_rfl whole
    | @payload done later m front last left stream split isReceived whole state isSome owed size more
        lacks rest =>
        have lengths := whole.length_eq
        rw [isReceived] at found ⊢
        rcases Nat.lt_trichotomy index front.length with earlier | isLast | beyond
        · rw [List.getElem?_append_left earlier] at found
          obtain ⟨m, isSent, length, flags, begins, same⟩ :=
            within_of_whole ⟨_, split.symm⟩ whole found
          exact ⟨m, isSent, length, flags, begins, fun _ => same⟩
        · rw [isLast, List.getElem?_concat_length] at found
          rw [← Option.some.inj found]
          refine ⟨m, ?_, lacks.length, lacks.flags, ⟨left, lacks.payload⟩, fun inside => ?_⟩
          · rw [split, isLast, lengths, List.getElem?_append_right (Nat.le_refl _), Nat.sub_self]
            rfl
          · rw [isLast, List.length_append, List.length_singleton] at inside
            exact absurd inside (Nat.lt_irrefl _)
        · rw [List.getElem?_eq_none (by rw [List.length_append, List.length_singleton]; exact beyond)]
            at found
          exact nomatch found
  · by_cases state : s.parser.state = .error
    · obtain ⟨first, rest, more, isTail, whole, error⟩ := inStream.position.of_error state
      exact .inr ⟨first, rest, more, isTail, whole, inStream.failed state _ error⟩
    · exact .inl (inStream.fine state)

theorem InStream.complete (inStream : InStream streamId messages tail s [])
    (empty : s.slices.content = []) : Complete streamId messages tail s := by
  have position := inStream.position
  rw [empty] at position
  cases position with
  | header split whole begun isNone rest =>
    exact absurd (List.append_eq_nil_iff.mp rest.symm).1 begun.ne_nil
  | payload split isReceived whole state isSome owed size more lacks rest =>
    exact absurd (List.append_eq_nil_iff.mp rest.symm).1 more
  | finished whole state isNone rest =>
    refine ⟨whole, ?_⟩
    rw [← rest]
    exact inStream.fine fun error => nomatch state.symm.trans error
  | stuck isTail whole state error =>
    refine ⟨whole, ?_⟩
    rw [isTail]
    exact ⟨_, inStream.failed state _ error⟩

end Run

/-- However the messages, and a byte behind them that is no type, are cut into slices of less
than four gigabytes and whenever the calls are made, the messages are received as they were sent. -/
theorem deframing_delivers (streamId : Nat) {messages : List Message}
    (small : ∀ m ∈ messages, m.payload.length < 4294967296) {tail : List UInt8}
    (bad : ∀ first rest, tail = first :: rest → first ≠ 0 ∧ first ≠ 1) {actions : List Action}
    (short : ∀ slice, .append slice ∈ actions → slice.length < 4294967296) {future : List UInt8}
    (segmented : appended actions ++ future = encode messages ++ tail) :
    ∃ final, exec (Deframing.step streamId) {} actions = some final ∧
      Delivered streamId messages tail final ∧
      (future = [] → ∀ calls, (encode messages ++ tail).length ≤ calls →
        ∃ final', exec (Deframing.step streamId) {} (actions ++ List.replicate calls .call) =
          some final' ∧ Complete streamId messages tail final') := by
  have initially : InStream streamId messages tail {} (appended actions ++ future) := by
    refine ⟨?_, List.forall_mem_nil _, fun _ => List.forall_mem_nil _, nofun⟩
    exact .between rfl .nil rfl rfl segmented
  obtain ⟨final, executed, inStream, fewer⟩ := initially.exec small bad short
  refine ⟨final, executed, inStream.delivered, fun nothing calls enough => ?_⟩
  rw [nothing] at inStream segmented
  rw [← segmented, List.append_nil] at enough
  have enough' : final.slices.content.length ≤ calls :=
    Nat.le_trans fewer ((Nat.zero_add _).trans_le enough)
  obtain ⟨final', drained, inStream', empty⟩ := inStream.drain small bad enough'
  exact ⟨final', (exec_append executed _).trans drained, inStream'.complete empty⟩

/-- A compressed message of one byte and a bad type behind it, with a call in the middle. -/
theorem deframing_delivers_compressed :
    ∃ final, exec (Deframing.step 1) {} [.append (.refcounted [1, 0, 0]), .call,
        .append (.refcounted [0, 1, 5, 2])] = some final ∧
      Delivered 1 [⟨true, [5]⟩] [2] final ∧
      (([] : List UInt8) = [] → ∀ calls, (encode [⟨true, [5]⟩] ++ [2]).length ≤ calls →
        ∃ final', exec (Deframing.step 1) {} ([.append (.refcounted [1, 0, 0]), .call,
          .append (.refcounted [0, 1, 5, 2])] ++ List.replicate calls .call) = some final' ∧
            Complete 1 [⟨true, [5]⟩] [2] final') := by
  apply deframing_delivers 1 _ _ _ rfl
  · intro m listed
    rw [List.mem_singleton.mp listed]
    decide
  · intro first rest isTail
    rw [← (List.cons.inj isTail).1]
    decide
  · intro slice listed
    simp only [List.mem_cons, Action.append.injEq, reduceCtorEq, false_or, List.not_mem_nil,
      or_false] at listed
    rcases listed with same | same
    · rw [same]
      decide
    · rw [same]
      decide

theorem length_encode_empty (count : Nat) :
    (encode (List.replicate count ⟨false, []⟩)).length = 5 * count := by
  induction count with
  | zero => rfl
  | succ count ih =>
    rw [List.replicate_succ, encode_cons, List.length_append, List.length_append, ih]
    change 5 + (0 + 5 * count) = _
    omega

theorem huge_slice_refused {bytes : List UInt8} (huge : (7 :: bytes).length = 4294967296) :
    (exec (Deframing.step 1) {} [.append (.refcounted [0, 0, 0, 0, 1]),
      .append (.refcounted (7 :: bytes)), .call, .call]).map Deframing.returned =
        some [(true, none), (true, some .tooManyBytes)] := by
  have pass : ({} : DataParser).pass 1 (Slice.refcounted [0, 0, 0, 0, 1]).bytes =
    .began { frameSize := 1 } (.create 1 0) [] := rfl
  obtain ⟨sb, isBuffer⟩ : ∃ sb, sb =
    (SliceBuffer.init.add (.refcounted [0, 0, 0, 0, 1])).add (.refcounted (7 :: bytes)) := ⟨_, rfl⟩
  have both : sb.slices = [.refcounted [0, 0, 0, 0, 1], .refcounted (7 :: bytes)] := by
    rw [isBuffer]
    rfl
  obtain ⟨left, removed, slices⟩ := removeFirst_eq both
  have first : deframeUnprocessedIncomingFrames 1 {} sb false true =
      some { parser := { frameSize := 1, state := .frame, parsingFrame := some ⟨1, 0, 1⟩ }
             slices := left, streamOut := some ⟨1, 0, 1⟩ } := by
    rw [deframeUnprocessedIncomingFrames, both, deframeLoop]
    rw [pass]
    change DataParser.beginMessage _ _ _ _ _ = _
    rw [DataParser.beginMessage, if_neg (not_not.mpr rfl), removed]
    rfl
  have some_ : sb.content ≠ [] := by
    rw [content_cons both]
    exact List.cons_ne_nil _ _
  have added : exec (Deframing.step 1) {} [.append (.refcounted [0, 0, 0, 0, 1]),
      .append (.refcounted (7 :: bytes))] = some { slices := sb } := by
    rw [isBuffer]
    rfl
  have begun : (Deframing.step 1 { slices := sb } .call) = some
      { parser := { frameSize := 1, state := .frame, parsingFrame := some ⟨1, 0, 1⟩ }
        slices := left, received := [⟨1, 0, []⟩], returned := [(true, none)] } := by
    change (deframeUnprocessedIncomingFrames 1 {} sb false true).map _ = _
    rw [first, decide_eq_true some_]
    rfl
  obtain ⟨slice, isSlice⟩ : ∃ slice, slice = Slice.refcounted (7 :: bytes) := ⟨_, rfl⟩
  have isBytes : slice.bytes = 7 :: bytes := by rw [isSlice]; rfl
  have length : slice.length = 4294967296 := by rw [Slice.length, isBytes, huge]
  have copied : (DataParser.sub slice 0 slice.length).length = 4294967296 := by
    rw [Slice.length, bytes_copy, Slice.length, List.take_length, List.drop_zero]
    exact length
  rw [← isSlice] at slices
  have refused (p : DataParser) (size : p.frameSize = 1) : p.readPayload left slice ⟨1, 0, 1⟩ =
      some { parser := p, slices := left, error := some .tooManyBytes } := by
    rw [DataParser.readPayload, size, if_neg (by rw [length]; decide),
      if_pos (by rw [length]; decide), IncomingByteStream.push, if_pos (by rw [copied]; decide)]
  have second (p : DataParser) (size : p.frameSize = 1) (state : p.state = .frame)
      (isSome : p.parsingFrame = some ⟨1, 0, 1⟩) :
      deframeUnprocessedIncomingFrames 1 p left true false =
        some { parser := p, slices := left, error := some .tooManyBytes } := by
    have pass : p.pass 1 slice.bytes = .payload := by rw [DataParser.pass, state]
    rw [deframeUnprocessedIncomingFrames, slices, deframeLoop,
      if_neg (by rw [isBytes]; exact List.cons_ne_nil _ _), pass, isSome]
    exact refused p size
  have more : left.content ≠ [] := by
    rw [content_cons slices, isBytes]
    exact List.cons_ne_nil _ _
  have failed (s : Deframing) (isSlices : s.slices = left) (size : s.parser.frameSize = 1)
      (state : s.parser.state = .frame) (isSome : s.parser.parsingFrame = some ⟨1, 0, 1⟩) :
      (Deframing.step 1 s .call).map Deframing.returned =
        some (s.returned ++ [(true, some .tooManyBytes)]) := by
    rw [Deframing.step, isSome, isSlices]
    change ((deframeUnprocessedIncomingFrames 1 s.parser left true false).map _).map _ = _
    rw [second _ size state isSome, decide_eq_true more]
    rfl
  have all := exec_append added [.call, .call]
  rw [List.cons_append, List.cons_append, List.nil_append] at all
  generalize isState : (⟨_, left, _, _⟩ : Deframing) = s at begun
  have last := failed s (isState ▸ rfl) (isState ▸ rfl) (isState ▸ rfl) (isState ▸ rfl)
  have nothing : s.returned = [(true, none)] := isState ▸ rfl
  rw [all, exec, begun, Option.bind_some, exec]
  change ((Deframing.step 1 s .call).bind some).map _ = _
  rw [Option.bind_fun_some, last, nothing]
  rfl

/-- A call for which no byte is left does not repeat the error, and a slice of four gigabytes in
a sound stream is refused. -/
theorem deframing_shows :
    (exec (Deframing.step 1) {} [.append (.refcounted [2]), .call, .call]).map Deframing.returned =
        some [(true, some (.badFrameType 2 1 [2] 0)), (false, none)] ∧
      ∃ messages bytes, encode messages = [0, 0, 0, 0, 1] ++ 7 :: bytes ∧
        (exec (Deframing.step 1) {} [.append (.refcounted [0, 0, 0, 0, 1]),
          .append (.refcounted (7 :: bytes)), .call, .call]).map Deframing.returned =
            some [(true, none), (true, some .tooManyBytes)] := by
  refine ⟨by decide, ⟨false, [7]⟩ :: List.replicate 858993459 ⟨false, []⟩,
    encode (List.replicate 858993459 ⟨false, []⟩), ?_, ?_⟩
  · rw [encode_cons]
    rfl
  · apply huge_slice_refused
    rw [List.length_cons, length_encode_empty]

end GrpcCore.Transport.Data
