import GrpcCore.Transport.ControlFrames
import GrpcCore.Transport.FlowControl
import GrpcCore.Transport.HeaderBlocks
import GrpcCore.Transport.Settings
import GrpcCore.Lib.Segments

/-!
# From frames to their parsers

`init_frame_parser` chooses the parser of a frame from its header, and
`parse_frame_slice` hands it the payload. What a frame does to the rest of the
transport is left to a `Host`, which may do anything with it.
-/

namespace GrpcCore.Transport

open Hpack HeaderReader

structure FrameHeader where
  size : Nat
  type : UInt8
  flags : UInt8
  streamId : Nat
deriving DecidableEq

inductive FrameError where
  | connectStringMismatch (expected got : UInt8) (at_ : Nat)
  | expectedSettingsFirst (type : UInt8)
  | expectedContinuation (type : UInt8)
  | expectedContinuationForStream (expected got : Nat)
  | unexpectedContinuation
  | settingsForStream
  | frameTooLarge (size maxFrameSize : Nat)
  | assertionFailed
  | settings (error : SettingsError)
  | control (error : ControlError)
  | header (error : HeaderError)
  | flowControl (error : FlowControlError)
deriving DecidableEq

/-- What the payload of a frame asks of the rest of the transport. -/
inductive FrameAction where
  | settingsReceived
  | settingsRefused (errorValue : Nat)
  | pingAcked (opaque8Bytes : Nat)
  | pingReceived (opaque8Bytes : Nat)
  | streamReset (streamId reason : Nat)
  | windowUpdated (streamId amount : Nat)
  | goawayReceived (goaway : Goaway)
  | headersEnded (streamId : Nat)
  | dataRefused (streamId : Nat)
  | dataEnded (streamId : Nat)
deriving DecidableEq

/-- The rest of the transport: whether it takes a new stream, what flow control
says to a DATA frame, and what it does when asked. -/
structure Host (World : Type) where
  acceptStream : World → Nat → Bool
  recvData : FrameHeader → HeaderReader → World → Except FlowControlError World
  act : FrameAction → HeaderReader → World → HeaderReader × World

/-- `t->parser` with its data. -/
inductive FrameParser where
  | skip
  | header
  | data (streamId : Nat) (receivedLastFrame : Bool)
  | settings (p : SettingsParser)
  | windowUpdate (streamId : Nat) (p : WindowUpdateParser)
  | ping (p : PingParser)
  | rstStream (streamId : Nat) (p : RstStreamParser)
  | goaway (p : GoawayParser)
deriving DecidableEq

/-- The transport as far as frames are concerned. -/
structure Frames (World : Type) where
  headers : HeaderReader
  world : World
  isFirstFrame : Bool := true
  flowControlEnabled : Bool := true
  peerSettings : Settings := {}
  sentSettings : Settings := {}
  ackedSettings : Settings := {}
  initialWindowUpdate : Int := 0
  frameStorage : List (Nat × Bytes) := []
  parser : FrameParser := .skip
deriving DecidableEq

/-- `grpc_chttp2_header_parser_parse` on one slice. -/
def HeaderReader.parseSlice (r : HeaderReader) (slice : Bytes) (isLast : Bool) :
    Option HeaderError × HeaderReader :=
  match r.hpackParser.parse slice isLast with
  | (some error, hpackParser) => (some (.hpack error), { r with hpackParser }.storeBuffer)
  | (none, hpackParser) =>
    let r := { r with hpackParser }.storeBuffer
    if isLast then r.finishFrame else (none, r)

/-- The bytes received for a stream and not yet taken from it. -/
def storeData (storage : List (Nat × Bytes)) (streamId : Nat) (slice : Bytes) :
    List (Nat × Bytes) :=
  match storage with
  | [] => [(streamId, slice)]
  | (id, bytes) :: storage =>
    if id = streamId then (id, bytes ++ slice) :: storage
    else (id, bytes) :: storeData storage streamId slice

namespace Frames

variable {World : Type} (host : Host World)

def perform (action : FrameAction) (f : Frames World) : Frames World :=
  let (headers, world) := host.act action f.headers f.world
  { f with headers, world }

def ackSettings (f : Frames World) : Option FrameError × Frames World :=
  match f.headers.hpackParser.table.setMaxBytes f.sentSettings.headerTableSize with
  | .error _ => (some .assertionFailed, f)
  | .ok table =>
    (none, { f with
      ackedSettings := f.sentSettings
      headers := { f.headers with
        maxHeaderListSize := f.sentSettings.maxHeaderListSize
        maxConcurrentStreams := f.sentSettings.maxConcurrentStreams
        hpackParser := { f.headers.hpackParser with table } } })

def initSettingsFrameParser (f : Frames World) (header : FrameHeader) :
    Option FrameError × Frames World :=
  if header.streamId ≠ 0 then (some .settingsForStream, f)
  else
    match SettingsParser.beginFrame f.peerSettings header.size header.flags with
    | .error error => (some (.settings error), f)
    | .ok p =>
      let (error, f) := if header.flags &&& flagAck ≠ 0 then f.ackSettings else (none, f)
      (error, { f with parser := .settings p })

/-- Flags other than END_STREAM close the stream and the payload is skipped. -/
def initDataFrameParser (f : Frames World) (header : FrameHeader) :
    Option FrameError × Frames World :=
  match host.recvData header f.headers f.world with
  | .error error => (some (.flowControl error), f)
  | .ok world =>
    let f := { f with world }
    match f.headers.lookupStream header.streamId with
    | none => (none, { f with parser := .skip })
    | some s =>
      if s.readClosed then (none, { f with parser := .skip })
      else if header.flags &&& 0xfe ≠ 0 then
        (none, { f.perform host (.dataRefused header.streamId) with parser := .skip })
      else
        let ends := header.flags &&& flagEndStream ≠ 0
        let s := if ends then { s with eosReceived := true } else s
        (none, { f with
          headers := f.headers.setStream header.streamId s
          parser := .data header.streamId ends })

def initHeaderFrameParser (f : Frames World) (header : FrameHeader) (isContinuation : Bool) :
    Option FrameError × Frames World :=
  let frame : HeaderFrame :=
    { type := if isContinuation then .continuation else .headers
      flags := header.flags
      streamId := header.streamId
      accepted := host.acceptStream f.world header.streamId }
  match f.headers.initHeaderFrameParser frame with
  | .error error => (some (.header error), f)
  | .ok headers => (none, { f with headers, parser := .header })

def initWindowUpdateFrameParser (f : Frames World) (header : FrameHeader) :
    Option FrameError × Frames World :=
  match WindowUpdateParser.beginFrame header.size header.flags with
  | .error error => (some (.control error), f)
  | .ok p =>
    if header.streamId ≠ 0 ∧ f.headers.lookupStream header.streamId = none then
      (none, { f with parser := .skip })
    else (none, { f with parser := .windowUpdate header.streamId p })

def initPingParser (f : Frames World) (header : FrameHeader) :
    Option FrameError × Frames World :=
  match PingParser.beginFrame header.size header.flags with
  | .error error => (some (.control error), f)
  | .ok p => (none, { f with parser := .ping p })

def initRstStreamParser (f : Frames World) (header : FrameHeader) :
    Option FrameError × Frames World :=
  match RstStreamParser.beginFrame header.size header.flags with
  | .error error => (some (.control error), f)
  | .ok p =>
    if f.headers.lookupStream header.streamId = none then (none, { f with parser := .skip })
    else (none, { f with parser := .rstStream header.streamId p })

def initGoawayParser (f : Frames World) (header : FrameHeader) :
    Option FrameError × Frames World :=
  match GoawayParser.beginFrame header.size header.flags with
  | .error error => (some (.control error), f)
  | .ok p => (none, { f with parser := .goaway p })

/-- Frame types not listed are skipped. -/
def initFrameParser (f : Frames World) (header : FrameHeader) :
    Option FrameError × Frames World :=
  if f.isFirstFrame ∧ header.type ≠ 4 then (some (.expectedSettingsFirst header.type), f)
  else
    let f := { f with isFirstFrame := false }
    if f.headers.expectContinuationStreamId ≠ 0 then
      if header.type ≠ 9 then (some (.expectedContinuation header.type), f)
      else if f.headers.expectContinuationStreamId ≠ header.streamId then
        (some (.expectedContinuationForStream f.headers.expectContinuationStreamId
          header.streamId), f)
      else f.initHeaderFrameParser host header true
    else
      match header.type with
      | 0 => f.initDataFrameParser host header
      | 1 => f.initHeaderFrameParser host header false
      | 9 => (some .unexpectedContinuation, f)
      | 3 => f.initRstStreamParser header
      | 4 => f.initSettingsFrameParser header
      | 8 => f.initWindowUpdateFrameParser header
      | 6 => f.initPingParser header
      | 7 => f.initGoawayParser header
      | _ => (none, { f with parser := .skip })

/-- The error value in the GOAWAY that a refused setting is answered with. -/
def refusedErrorValue : SettingsError → Nat
  | .invalidValue _ id => (settingsParameters id).errorValue
  | _ => http2ProtocolError

def parseSettings (f : Frames World) (p : SettingsParser) (slice : Bytes) (isLast : Bool) :
    Option FrameError × Frames World :=
  match p.parse f.flowControlEnabled f.initialWindowUpdate slice with
  | (some error, p, initialWindowUpdate) =>
    (some (.settings error), { f with parser := .settings p, initialWindowUpdate }.perform host
      (.settingsRefused (refusedErrorValue error)))
  | (none, p, initialWindowUpdate) =>
    let f := { f with parser := .settings p, initialWindowUpdate }
    (none, if p.commits isLast then
        { f with peerSettings := p.incomingSettings }.perform host .settingsReceived
      else f)

/-- The end of a collected payload: the parser goes on, or the frame acts. -/
def finishPayload {State Result : Type} (f : Frames World) (parser : State → FrameParser)
    (action : Result → FrameAction) :
    Except ControlError (State × Option Result) → Option FrameError × Frames World
  | .error error => (some (.control error), f)
  | .ok (state, result) =>
    let f := { f with parser := parser state }
    match result with
    | none => (none, f)
    | some result => (none, f.perform host (action result))

/-- The headers of a frame have been published on the stream they are for. -/
def endHeaders (f : Frames World) (headers : HeaderReader) (isLast : Bool) : Frames World :=
  match isLast, f.headers.incomingStream with
  | true, some streamId => { f with headers }.perform host (.headersEnded streamId)
  | _, _ => { f with headers }

def parseFrameSlice (f : Frames World) (slice : Bytes) (isLast : Bool) :
    Option FrameError × Frames World :=
  match f.parser with
  | .skip => (none, f)
  | .header =>
    match f.headers.parseSlice slice isLast with
    | (some error, headers) => (some (.header error), { f with headers })
    | (none, headers) => (none, f.endHeaders host headers isLast)
  | .data streamId receivedLastFrame =>
    let f := { f with frameStorage := storeData f.frameStorage streamId slice }
    (none, if isLast && receivedLastFrame then f.perform host (.dataEnded streamId) else f)
  | .settings p => f.parseSettings host p slice isLast
  | .windowUpdate streamId p =>
    f.finishPayload host (fun amount => .windowUpdate streamId { amount })
      (.windowUpdated streamId) (p.parse slice isLast)
  | .ping p =>
    f.finishPayload host (fun opaque8Bytes => .ping { p with opaque8Bytes })
      (if p.isAck then .pingAcked else .pingReceived) (p.parse slice isLast)
  | .rstStream streamId p =>
    f.finishPayload host (fun reasonBytes => .rstStream streamId { reasonBytes })
      (.streamReset streamId) (p.parse slice isLast)
  | .goaway p => f.finishPayload host .goaway .goawayReceived (p.parse slice isLast)

def endFrame (f : Frames World) : Frames World :=
  { f with headers := { f.headers with incomingStream := none } }

end Frames

namespace HeaderReader

variable {r : HeaderReader}

theorem storeBuffer_some {id : Nat} {slot : MetadataSlot} {batch : MetadataBatch}
    {s : IncomingStream} (stream : r.incomingStream = some id)
    (buffer : r.incomingBuffer = some slot) (filled : r.hpackParser.metadataBuffer = some batch)
    (found : r.lookupStream id = some s) :
    r.storeBuffer = r.setStream id (s.setBuffer slot batch) := by
  simp only [storeBuffer, stream, buffer, filled, found]

theorem storeBuffer_idle
    (idle : ∀ id slot batch s, r.incomingStream = some id → r.incomingBuffer = some slot →
      r.hpackParser.metadataBuffer = some batch → r.lookupStream id ≠ some s) :
    r.storeBuffer = r := by
  unfold storeBuffer
  split
  · rename_i id slot batch stream buffer filled
    split
    · rename_i s found
      exact absurd found (idle id slot batch s stream buffer filled)
    · rfl
  · rfl

variable (r : HeaderReader)

theorem storeBuffer_storeBuffer (p q : HPackParser)
    (kept : p.metadataBuffer.isSome → q.metadataBuffer.isSome) :
    storeBuffer { storeBuffer { r with hpackParser := p } with hpackParser := q } =
      storeBuffer { r with hpackParser := q } := by
  by_cases stores : ∃ id slot batch s, r.incomingStream = some id ∧
      r.incomingBuffer = some slot ∧ p.metadataBuffer = some batch ∧
      r.lookupStream id = some s
  · obtain ⟨id, slot, batch, s, stream, buffer, filled, found⟩ := stores
    obtain ⟨batch', filled'⟩ := Option.isSome_iff_exists.mp (kept (by simp [filled]))
    have first : storeBuffer { r with hpackParser := p } =
        setStream { r with hpackParser := p } id (s.setBuffer slot batch) :=
      storeBuffer_some stream buffer filled found
    have again : lookupStream { setStream { r with hpackParser := p } id
        (s.setBuffer slot batch) with hpackParser := q } id = some (s.setBuffer slot batch) :=
      lookup_setStream r id _ (by simp [found])
    have second : storeBuffer { setStream { r with hpackParser := p } id
        (s.setBuffer slot batch) with hpackParser := q } =
        setStream { setStream { r with hpackParser := p } id (s.setBuffer slot batch) with
          hpackParser := q } id ((s.setBuffer slot batch).setBuffer slot batch') :=
      storeBuffer_some stream buffer filled' again
    have target : storeBuffer { r with hpackParser := q } =
        setStream { r with hpackParser := q } id (s.setBuffer slot batch') :=
      storeBuffer_some stream buffer filled' found
    rw [first, second, target, IncomingStream.setBuffer_setBuffer]
    have replaced := congrArg streams
      (setStream_setStream r id (s.setBuffer slot batch) (s.setBuffer slot batch'))
    simp only [setStream] at replaced ⊢
    rw [replaced]
  · have first : storeBuffer { r with hpackParser := p } = { r with hpackParser := p } := by
      apply storeBuffer_idle
      intro id slot batch s stream buffer filled found
      exact stores ⟨id, slot, batch, s, stream, buffer, filled, found⟩
    rw [first]

theorem incomingStream_storeBuffer : r.storeBuffer.incomingStream = r.incomingStream := by
  unfold storeBuffer
  split
  · split <;> rfl
  · rfl

theorem incomingStream_parseSlice (slice : Bytes) :
    (r.parseSlice slice false).2.incomingStream = r.incomingStream := by
  unfold parseSlice
  rcases r.hpackParser.parse slice false with ⟨_ | error, hpackParser⟩ <;>
    exact incomingStream_storeBuffer _

theorem parseSlice_append (slice more : Bytes) (isLast : Bool) :
    r.parseSlice (slice ++ more) isLast =
      match r.parseSlice slice false with
      | (none, r) => r.parseSlice more isLast
      | (some error, r) => (some error, r) := by
  have whole := HPackParser.parse_append r.hpackParser slice more isLast
  unfold parseSlice
  rcases first : r.hpackParser.parse slice false with ⟨_ | error, p⟩
  · rw [first] at whole
    have same : ({ r with hpackParser := p } : HeaderReader).storeBuffer.hpackParser = p := by
      unfold storeBuffer
      split
      · split <;> rfl
      · rfl
    have grown := (HPackParser.grows_parse p more isLast).2.2
    simp only [Bool.false_eq_true, if_false, same, whole]
    rcases second : p.parse more isLast with ⟨result, q⟩
    rw [second] at grown
    have kept : p.metadataBuffer.isSome → q.metadataBuffer.isSome := by
      revert grown
      cases p.metadataBuffer <;> cases q.metadataBuffer <;> simp
    cases result <;> simp only [storeBuffer_storeBuffer r p q kept]
  · rw [first] at whole
    simp only [whole]

end HeaderReader

theorem storeData_append (storage : List (Nat × Bytes)) (streamId : Nat) (slice more : Bytes) :
    storeData (storeData storage streamId slice) streamId more =
      storeData storage streamId (slice ++ more) := by
  induction storage with
  | nil => simp [storeData]
  | cons entry storage ih =>
    obtain ⟨id, bytes⟩ := entry
    by_cases same : id = streamId
    · simp [storeData, same]
    · simp [storeData, same, ih]

/-- The parser expects exactly the bytes that are still to come. -/
def FrameParser.Fits : FrameParser → Nat → Prop
  | .windowUpdate _ p, size => p.amount.byte + size = 4
  | .ping p, size => p.opaque8Bytes.byte + size = 8
  | .rstStream _ p, size => p.reasonBytes.byte + size = 4
  | .goaway p, size =>
    p.state ≤ 8 ∧ (p.state < 8 → p.debugData = []) ∧ p.consumed + size = 8 + p.debugLength ∧
      8 + p.debugLength < 16777216
  | _, _ => True

namespace Frames

variable {World : Type} {host : Host World}

open Segments (Agrees)

def thenSlice (host : Host World) (first : Option FrameError × Frames World) (slice : Bytes)
    (isLast : Bool) : Option FrameError × Frames World :=
  match first with
  | (none, f) => f.parseFrameSlice host slice isLast
  | (some error, f) => (some error, f)

/-- The law of `parse_frame_slice` for one parser: a slice that leaves bytes to
come is taken without a trace. -/
def SliceLaw (host : Host World) (f : Frames World) (size : Nat) : Prop :=
  ∀ slice more isLast, slice.length < size → (slice ++ more).length ≤ size →
    Agrees (fun _ _ => True)
      (thenSlice host (f.parseFrameSlice host slice false) more isLast)
      (f.parseFrameSlice host (slice ++ more) isLast) ∧
    ∀ f', f.parseFrameSlice host slice false = (none, f') →
      f'.parser.Fits (size - slice.length)

theorem agrees_of_eq {outcome outcome' : Option FrameError × Frames World}
    (same : outcome = outcome') : Agrees (fun _ _ => True) outcome outcome' := by
  subst same
  exact Agrees.refl (fun _ => trivial) _

variable {f : Frames World}

theorem sliceLaw_header (parser : f.parser = .header) (size : Nat) : f.SliceLaw host size := by
  intro slice more isLast _ _
  have parts := parseSlice_append f.headers slice more isLast
  have kept := incomingStream_parseSlice f.headers slice
  simp only [parseFrameSlice, parser]
  rcases first : f.headers.parseSlice slice false with ⟨_ | error, headers⟩
  · rw [first] at parts kept
    dsimp only at kept
    refine ⟨agrees_of_eq ?_, ?_⟩
    · simp only [thenSlice, endHeaders, parseFrameSlice, parser, parts, kept]
    · simp [FrameParser.Fits, endHeaders, parser]
  · rw [first] at parts
    refine ⟨agrees_of_eq ?_, by simp⟩
    simp only [thenSlice, parts]

theorem sliceLaw_data {streamId : Nat} {receivedLastFrame : Bool}
    (parser : f.parser = .data streamId receivedLastFrame) (size : Nat) : f.SliceLaw host size := by
  intro slice more isLast _ _
  simp only [parseFrameSlice, parser, Bool.false_and, Bool.false_eq_true, if_false]
  refine ⟨agrees_of_eq ?_, ?_⟩
  · simp only [thenSlice, parseFrameSlice, storeData_append]
  · rintro f' ⟨⟩
    simp [FrameParser.Fits]

theorem sliceLaw_settings {p : SettingsParser} (parser : f.parser = .settings p) (size : Nat) :
    f.SliceLaw host size := by
  intro slice more isLast _ _
  have parts := SettingsParser.parse_append f.flowControlEnabled p f.initialWindowUpdate slice
    more
  simp only [parseFrameSlice, parser, parseSettings]
  rcases first : p.parse f.flowControlEnabled f.initialWindowUpdate slice with
    ⟨_ | error, p', update⟩
  · rw [first] at parts
    have unfinished : p'.commits false = false := by simp [SettingsParser.commits]
    simp only [unfinished, Bool.false_eq_true, if_false]
    refine ⟨agrees_of_eq ?_, ?_⟩
    · simp only [thenSlice, parseFrameSlice, parseSettings, parts]
    · simp [FrameParser.Fits]
  · rw [first] at parts
    refine ⟨agrees_of_eq ?_, by simp⟩
    simp only [thenSlice, parts]

variable {size : Nat}

theorem sliceLaw_collect {Value Result : Type} {total : Nat} {place : Value → Nat → UInt8 → Value}
    {finish : Value → Except ControlError Result} (wrap : Gathered Value → FrameParser)
    (action : Result → FrameAction) {gathered : Gathered Value} (parser : f.parser = wrap gathered)
    (parses : ∀ gathered slice isLast,
      parseFrameSlice host { f with parser := wrap gathered } slice isLast =
        finishPayload host { f with parser := wrap gathered } wrap action
          (gathered.collect total place finish slice isLast))
    (wrapFits : ∀ gathered size, (wrap gathered).Fits size ↔ gathered.byte + size = total)
    (fits : f.parser.Fits size) : f.SliceLaw host size := by
  intro slice more isLast short _
  have count := (wrapFits gathered size).mp (parser ▸ fits)
  have collected : gathered.collect total place finish slice false =
      .ok (gathered.gather total place slice, none) :=
    Gathered.collect_short gathered slice false (by omega)
  have byte : (gathered.gather total place slice).byte = gathered.byte + slice.length :=
    Gathered.byte_gather place gathered slice (by omega)
  have itself : f = { f with parser := wrap gathered } := by rw [← parser]
  have first : f.parseFrameSlice host slice false =
      (none, { f with parser := wrap (gathered.gather total place slice) }) := by
    rw [itself, parses, collected]
    rfl
  have whole : f.parseFrameSlice host (slice ++ more) isLast =
      finishPayload host f wrap action
        ((gathered.gather total place slice).collect total place finish more isLast) := by
    rw [itself, parses, Gathered.collect_append, ← itself]
  rw [first, whole]
  constructor
  · simp only [thenSlice, parses]
    cases (gathered.gather total place slice).collect total place finish more isLast with
    | error => exact ⟨f, rfl, trivial⟩
    | ok result =>
      obtain ⟨state, _ | result⟩ := result
      · rfl
      · rfl
  · rintro f' ⟨⟩
    exact (wrapFits _ _).mpr (by omega)

theorem sliceLaw_goaway {p : GoawayParser} (parser : f.parser = .goaway p)
    (fits : f.parser.Fits size) : f.SliceLaw host size := by
  intro slice more isLast short within
  rw [parser] at fits
  obtain ⟨numbers, fresh, count, small⟩ := fits
  obtain ⟨p', goaway, parsed, numbers', fresh', length, consumed, unfinished⟩ :=
    GoawayParser.parse_ok false numbers fresh (show p.consumed + slice.length < 16777216 by omega)
  obtain rfl := unfinished rfl
  have whole := GoawayParser.parse_append isLast numbers fresh
    (show p.consumed + (slice ++ more).length < 16777216 by omega) parsed
  simp only [parseFrameSlice, parser, parsed, finishPayload, whole]
  constructor
  · simp only [thenSlice, parseFrameSlice]
    cases p'.parse more isLast with
    | error => exact ⟨_, rfl, trivial⟩
    | ok result =>
      obtain ⟨state, _ | result⟩ := result
      · rfl
      · rfl
  · rintro f' ⟨⟩
    exact ⟨numbers', fresh', by omega, by omega⟩

theorem sliceLaw (fits : f.parser.Fits size) : f.SliceLaw host size := by
  cases parser : f.parser with
  | skip =>
    intro slice more isLast _ _
    simp only [parseFrameSlice, parser]
    refine ⟨agrees_of_eq ?_, ?_⟩
    · simp only [thenSlice, parseFrameSlice, parser]
    · rintro f' ⟨⟩
      simp [parser, FrameParser.Fits]
  | header => exact sliceLaw_header parser size
  | data => exact sliceLaw_data parser size
  | settings => exact sliceLaw_settings parser size
  | windowUpdate streamId =>
    exact sliceLaw_collect (fun amount => .windowUpdate streamId { amount })
      (.windowUpdated streamId) parser (fun _ _ _ => rfl) (fun _ _ => Iff.rfl) fits
  | ping p =>
    exact sliceLaw_collect (fun opaque8Bytes => .ping { p with opaque8Bytes })
      (if p.isAck then .pingAcked else .pingReceived) parser (fun _ _ _ => rfl) (fun _ _ => Iff.rfl) fits
  | rstStream streamId =>
    exact sliceLaw_collect (fun reasonBytes => .rstStream streamId { reasonBytes })
      (.streamReset streamId) parser (fun _ _ _ => rfl) (fun _ _ => Iff.rfl) fits
  | goaway => exact sliceLaw_goaway parser fits

end Frames

end GrpcCore.Transport
