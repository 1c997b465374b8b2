import GrpcCore.Hpack.Literals
import GrpcCore.Transport.FrameBytes

/-!
# Hand-rolled frames

`close_from_api` writes a header block of its own, without the compressor, and
`grpc_chttp2_goaway_append` a GOAWAY. The text in them is the caller's, and nothing
splits it. What the peer takes for a frame is what was written, as long as that is
no larger than the peer's `MAX_FRAME_SIZE`.
-/

namespace GrpcCore.Transport

open Hpack BigEndian

def httpStatusHdr : Bytes := [0x00, 7] ++ ascii ":status" ++ [3] ++ ascii "200"

def contentTypeHdr : Bytes := [0x00, 12] ++ ascii "content-type" ++ [16] ++ ascii "application/grpc"

def statusHdr (grpcStatus : Nat) : Bytes :=
  [0x00, 11] ++ ascii "grpc-status" ++
    if grpcStatus < 10 then [1, UInt8.ofNat (48 + grpcStatus)]
    else [2, UInt8.ofNat (48 + grpcStatus / 10), UInt8.ofNat (48 + grpcStatus % 10)]

def messagePfx (msgLen : Nat) : Bytes :=
  [0x00, 12] ++ ascii "grpc-message" ++ varintWrite 1 0 msgLen

def rstStreamCreate (id code : Nat) : Bytes :=
  FrameHeader.bytes ⟨4, 3, 0, id⟩ ++ bytes32 code

/-- The slices that `close_from_api` adds to `qbuf`. Their lengths are added up in
32 bits, and 24 of these are written. -/
def closeFromApi (sentInitialMetadata : Bool) (id grpcStatus : Nat) (message : Bytes) :
    Option (List Bytes) :=
  if ¬ grpcStatus < 100 ∨ message.length > 4294967295 then none
  else
    let initial := if sentInitialMetadata then [] else [httpStatusHdr, contentTypeHdr]
    let fields := initial ++ [statusHdr grpcStatus, messagePfx message.length]
    let len := ((fields.map List.length).sum + message.length) % 4294967296
    some (FrameHeader.bytes ⟨len, 1, 5, id⟩ :: fields ++ [message, rstStreamCreate id 0])

/-- `grpc_chttp2_goaway_append`. -/
def goawayAppend (lastStreamId errorCode : Nat) (debugData : Bytes) : Option (List Bytes) :=
  if debugData.length < 4294967295 - 4 - 4 then
    some [
      FrameHeader.bytes ⟨4 + 4 + debugData.length, 7, 0, 0⟩ ++ bytes32 lastStreamId ++
        bytes32 errorCode,
      debugData]
  else none

def closeFields (sentInitialMetadata : Bool) (grpcStatus : Nat) (message : Bytes) :
    List Header :=
  (if sentInitialMetadata then []
    else [⟨ascii ":status", ascii "200"⟩, ⟨ascii "content-type", ascii "application/grpc"⟩]) ++
    [⟨ascii "grpc-status", ascii (toString grpcStatus)⟩, ⟨ascii "grpc-message", message⟩]

/-- The length of these fields. -/
def closeLength (sentInitialMetadata : Bool) (grpcStatus msgLen : Nat) : Nat :=
  (if sentInitialMetadata then 0 else 44) + (if grpcStatus < 10 then 15 else 16) +
    (14 + (varintWrite 1 0 msgLen).length + msgLen)

theorem statusHdr_eq {grpcStatus : Nat} (small : grpcStatus < 100) :
    statusHdr grpcStatus = literalField ⟨ascii "grpc-status", ascii (toString grpcStatus)⟩ := by
  have all : ∀ status : Fin 100,
      statusHdr status = literalField ⟨ascii "grpc-status", ascii (toString status.val)⟩ := by
    decide
  exact all ⟨grpcStatus, small⟩

theorem messagePfx_append (message : Bytes) :
    messagePfx message.length ++ message = literalField ⟨ascii "grpc-message", message⟩ := by
  have key : varintWrite 1 0 (ascii "grpc-message").length = [12] := by decide
  simp only [messagePfx, literalField, key, plainString, List.cons_append, List.nil_append,
    List.append_assoc]

theorem httpStatusHdr_eq : httpStatusHdr = literalField ⟨ascii ":status", ascii "200"⟩ := by
  decide

theorem contentTypeHdr_eq :
    contentTypeHdr = literalField ⟨ascii "content-type", ascii "application/grpc"⟩ := by
  decide

theorem length_statusHdr (grpcStatus : Nat) :
    (statusHdr grpcStatus).length = if grpcStatus < 10 then 15 else 16 := by
  unfold statusHdr
  split_ifs <;> rfl

theorem length_messagePfx (msgLen : Nat) :
    (messagePfx msgLen).length = 14 + (varintWrite 1 0 msgLen).length := by
  rw [messagePfx, List.length_append]
  rfl

section CloseFromApi

variable {sentInitialMetadata : Bool} {id grpcStatus : Nat} {message : Bytes}

theorem closeLength_pos (sentInitialMetadata : Bool) (grpcStatus msgLen : Nat) :
    29 + msgLen ≤ closeLength sentInitialMetadata grpcStatus msgLen := by
  unfold closeLength
  split_ifs <;> omega

def closeSlices (sentInitialMetadata : Bool) (grpcStatus msgLen : Nat) : List Bytes :=
  (if sentInitialMetadata then [] else [httpStatusHdr, contentTypeHdr]) ++
    [statusHdr grpcStatus, messagePfx msgLen]

theorem flatten_closeSlices (status : grpcStatus < 100) :
    (closeSlices sentInitialMetadata grpcStatus message.length).flatten ++ message =
      literalBlock (closeFields sentInitialMetadata grpcStatus message) := by
  have last := messagePfx_append message
  cases sentInitialMetadata with
  | true =>
    simp [closeSlices, closeFields, literalBlock, ← last, statusHdr_eq status]
  | false =>
    simp [closeSlices, closeFields, literalBlock, ← last, statusHdr_eq status, httpStatusHdr_eq,
      contentTypeHdr_eq]

theorem length_closeSlices (sentInitialMetadata : Bool) (grpcStatus msgLen : Nat) :
    ((closeSlices sentInitialMetadata grpcStatus msgLen).map List.length).sum + msgLen =
      closeLength sentInitialMetadata grpcStatus msgLen := by
  have first : httpStatusHdr.length + contentTypeHdr.length = 44 := by decide
  cases sentInitialMetadata with
  | true =>
    simp only [closeSlices, closeLength, if_true, List.nil_append, List.map_cons, List.map_nil,
      List.sum_cons, List.sum_nil, length_statusHdr, length_messagePfx]
    omega
  | false =>
    simp only [closeSlices, closeLength, Bool.false_eq_true, if_false, List.cons_append,
      List.nil_append, List.map_cons, List.map_nil, List.sum_cons, List.sum_nil,
      length_statusHdr, length_messagePfx]
    omega

theorem closeFromApi_eq (sentInitialMetadata : Bool) (id : Nat) (status : grpcStatus < 100)
    (short : message.length < 4294967296) :
    ∃ slices, closeFromApi sentInitialMetadata id grpcStatus message = some slices ∧
      slices.flatten =
        FrameHeader.bytes
            ⟨closeLength sentInitialMetadata grpcStatus message.length % 4294967296, 1, 5, id⟩ ++
          (literalBlock (closeFields sentInitialMetadata grpcStatus message) ++
            rstStreamCreate id 0) ∧
      (literalBlock (closeFields sentInitialMetadata grpcStatus message)).length =
        closeLength sentInitialMetadata grpcStatus message.length := by
  have passes : ¬ (¬ grpcStatus < 100 ∨ message.length > 4294967295) := by omega
  have block : _ = literalBlock (closeFields sentInitialMetadata grpcStatus message) :=
    flatten_closeSlices status
  have length := length_closeSlices sentInitialMetadata grpcStatus message.length
  refine ⟨FrameHeader.bytes
      ⟨closeLength sentInitialMetadata grpcStatus message.length % 4294967296, 1, 5, id⟩ ::
    closeSlices sentInitialMetadata grpcStatus message.length ++
      [message, rstStreamCreate id 0], ?_, ?_, ?_⟩
  · rw [closeFromApi, if_neg passes, ← length]
    rfl
  · rw [← block]
    simp only [List.cons_append, List.flatten_cons, List.flatten_append, List.flatten_nil,
      List.append_nil, List.append_assoc]
  · rw [← block, ← length, List.length_append, List.length_flatten]

theorem plain_closeFields (status : grpcStatus < 100) (short : message.length < 4294967296) :
    ∀ field ∈ closeFields sentInitialMetadata grpcStatus message, field.Plain := by
  have digits : ∀ status : Fin 100, (ascii (toString status.val)).length < 4294967296 := by decide
  have statusField : Header.Plain ⟨ascii "grpc-status", ascii (toString grpcStatus)⟩ :=
    ⟨(by decide : (ascii "grpc-status").length < 4294967296), digits ⟨grpcStatus, status⟩,
      (by decide : isBinaryHeader (ascii "grpc-status") = false)⟩
  have messageField : Header.Plain ⟨ascii "grpc-message", message⟩ :=
    ⟨(by decide : (ascii "grpc-message").length < 4294967296), short,
      (by decide : isBinaryHeader (ascii "grpc-message") = false)⟩
  cases sentInitialMetadata with
  | true =>
    simp only [closeFields, if_true, List.nil_append, List.forall_mem_cons]
    exact ⟨statusField, messageField, by simp⟩
  | false =>
    simp only [closeFields, Bool.false_eq_true, if_false, List.cons_append, List.nil_append,
      List.forall_mem_cons]
    exact ⟨⟨by decide, by decide, by decide⟩, ⟨by decide, by decide, by decide⟩, statusField,
      messageField, by simp⟩

theorem distinct_closeFields (sentInitialMetadata : Bool) (grpcStatus : Nat) (message : Bytes) :
    ((closeFields sentInitialMetadata grpcStatus message).map Header.key).Nodup := by
  cases sentInitialMetadata with
  | true =>
    change [ascii "grpc-status", ascii "grpc-message"].Nodup
    decide
  | false =>
    change [ascii ":status", ascii "content-type", ascii "grpc-status", ascii "grpc-message"].Nodup
    decide

/-- The peer takes what is queued for one HEADERS frame that ends its stream, with
the fields in it, and a RST_STREAM. -/
def ClosesWell (maxFrameSize : Nat) (p : HPackParser) (sentInitialMetadata : Bool)
    (id grpcStatus : Nat) (message : Bytes) : Prop :=
  ∃ slices payload,
    closeFromApi sentInitialMetadata id grpcStatus message = some slices ∧
      deframe maxFrameSize slices.flatten =
        some [(⟨payload.length, 1, 5, id⟩, payload), (⟨4, 3, 0, id⟩, bytes32 0)] ∧
      p.decodeBlock payload =
        some ((closeFields sentInitialMetadata grpcStatus message).map Header.memento)

theorem closesWell_iff {maxFrameSize : Nat} (limit : maxFrameSize < 16777216)
    {p : HPackParser} (between : p.unparsedBytes = []) (streamId : id < 2147483648)
    (status : grpcStatus < 100) :
    ClosesWell maxFrameSize p sentInitialMetadata id grpcStatus message ↔
      closeLength sentInitialMetadata grpcStatus message.length ≤ maxFrameSize := by
  constructor
  · rintro ⟨slices, payload, queued, frames, -⟩
    have short : message.length < 4294967296 := by
      by_contra long
      rw [closeFromApi, if_pos (.inr (by omega))] at queued
      cases queued
    obtain ⟨slices', queued', flat, length⟩ :=
      closeFromApi_eq sentInitialMetadata id status short
    obtain rfl := Option.mem_unique queued queued'
    obtain ⟨sum, inLimit⟩ := length_deframe frames
    have small := inLimit _ List.mem_cons_self
    rw [flat] at sum
    simp only [List.map_cons, List.map_nil, List.sum_cons, List.sum_nil, List.length_append,
      length_headerBytes, length, rstStreamCreate, bytes32, List.length_cons, List.length_nil]
      at sum
    dsimp only at small
    omega
  · intro fits
    have least := closeLength_pos sentInitialMetadata grpcStatus message.length
    have short : message.length < 4294967296 := by omega
    obtain ⟨slices, queued, flat, length⟩ :=
      closeFromApi_eq sentInitialMetadata id status short
    refine ⟨slices, literalBlock (closeFields sentInitialMetadata grpcStatus message), queued, ?_,
      HPackParser.decodeBlock_literalBlock between (plain_closeFields status short)
        (distinct_closeFields _ _ _)⟩
    have rst : deframe maxFrameSize (rstStreamCreate id 0) = some [(⟨4, 3, 0, id⟩, bytes32 0)] :=
      deframe_single ⟨(by decide : 4 < 16777216), streamId⟩ rfl (by dsimp only; omega)
    rw [flat, Nat.mod_eq_of_lt (by omega), ← length, ← List.append_assoc]
    exact (deframe_frame ⟨by dsimp only; omega, streamId⟩ rfl (by dsimp only; omega) _).trans
      (by rw [rst]; rfl)

end CloseFromApi

namespace GoawayParser

theorem parse_number {p : GoawayParser} (number : p.state < 8) (cur : UInt8) (rest : Bytes)
    (isLast : Bool) : p.parse (cur :: rest) isLast = (p.readByte cur).parse rest isLast := by
  rw [parse, if_pos number]

theorem parse_text {p : GoawayParser} (text : p.state = 8) (slice : Bytes) (isLast : Bool) :
    p.parse slice isLast = p.readDebugData slice isLast := by
  have past : ¬ p.state < 8 := by omega
  cases slice with
  | nil => rw [parse, if_neg past]
  | cons cur slice => rw [parse, if_neg past]

theorem parse_lastStreamId {lastStreamId : Nat} (small : lastStreamId < 4294967296)
    (debugLength : Nat) (rest : Bytes) (isLast : Bool) :
    parse { debugLength } (bytes32 lastStreamId ++ rest) isLast =
      parse { state := 4, lastStreamId, debugLength } rest isLast := by
  have joined := join_bytes32 small
  simp only [bytes32, List.cons_append, List.nil_append]
  rw [parse_number (by simp), parse_number (by simp [readByte]),
    parse_number (by simp [readByte]), parse_number (by simp [readByte])]
  simp only [readByte, joined]

theorem parse_errorCode {errorCode : Nat} (small : errorCode < 4294967296)
    (lastStreamId debugLength : Nat) (rest : Bytes) (isLast : Bool) :
    parse { state := 4, lastStreamId, debugLength } (bytes32 errorCode ++ rest) isLast =
      parse { state := 8, lastStreamId, errorCode, debugLength } rest isLast := by
  have joined := join_bytes32 small
  simp only [bytes32, List.cons_append, List.nil_append]
  rw [parse_number (by simp), parse_number (by simp [readByte]),
    parse_number (by simp [readByte]), parse_number (by simp [readByte])]
  simp only [readByte, joined]

theorem parse_goaway {lastStreamId errorCode : Nat} (lastSmall : lastStreamId < 4294967296)
    (codeSmall : errorCode < 4294967296) {debugData : Bytes}
    (short : debugData.length < 4294967295) (debugLength : Nat) :
    parse { debugLength } (bytes32 lastStreamId ++ (bytes32 errorCode ++ debugData)) true =
      .ok ({ state := 8, lastStreamId, errorCode, debugLength, debugData },
        some ⟨errorCode, lastStreamId, debugData⟩) := by
  have room : ¬ ¬ debugData.length < 4294967295 - ([] : Bytes).length := not_not.mpr short
  rw [parse_lastStreamId lastSmall, parse_errorCode codeSmall, parse_text rfl, readDebugData]
  simp only [if_neg room, if_true, List.nil_append]

end GoawayParser

/-- The peer takes what is queued for one GOAWAY frame with the two numbers and the
text. -/
def GoawayWell (maxFrameSize lastStreamId errorCode : Nat) (debugData : Bytes) : Prop :=
  ∃ slices payload p p',
    goawayAppend lastStreamId errorCode debugData = some slices ∧
      deframe maxFrameSize slices.flatten = some [(⟨payload.length, 7, 0, 0⟩, payload)] ∧
      GoawayParser.beginFrame payload.length 0 = .ok p ∧
      p.parse payload true = .ok (p', some ⟨errorCode, lastStreamId, debugData⟩)

theorem goawayWell_iff {maxFrameSize : Nat} (limit : maxFrameSize < 16777216)
    {lastStreamId errorCode : Nat} (lastSmall : lastStreamId < 4294967296)
    (codeSmall : errorCode < 4294967296) (debugData : Bytes) :
    GoawayWell maxFrameSize lastStreamId errorCode debugData ↔
      8 + debugData.length ≤ maxFrameSize := by
  constructor
  · rintro ⟨slices, payload, p, p', queued, frames, -, -⟩
    obtain ⟨short, rfl⟩ := Option.ite_some_none_eq_some.mp queued
    obtain ⟨sum, inLimit⟩ := length_deframe frames
    have small := inLimit _ List.mem_cons_self
    simp only [List.map_cons, List.map_nil, List.sum_cons, List.sum_nil, List.flatten_cons,
      List.flatten_nil, List.length_append, length_headerBytes, bytes32, List.length_cons,
      List.length_nil] at sum
    dsimp only at small
    omega
  · intro fits
    have short : debugData.length < 4294967295 - 4 - 4 := by omega
    have length : (bytes32 lastStreamId ++ (bytes32 errorCode ++ debugData)).length =
        8 + debugData.length := by
      simp only [bytes32, List.length_append, List.length_cons, List.length_nil]
      omega
    have enough : ¬ 8 + debugData.length < 8 := by omega
    refine ⟨_, bytes32 lastStreamId ++ (bytes32 errorCode ++ debugData),
      { debugLength := 8 + debugData.length - 8 }, _, if_pos short, ?_, ?_,
      GoawayParser.parse_goaway lastSmall codeSmall (by omega) _⟩
    · have encodable : FrameHeader.Encodable ⟨8 + debugData.length, 7, 0, 0⟩ :=
        ⟨by dsimp only; omega, (by decide : 0 < 2147483648)⟩
      have frame := deframe_single encodable length fits
      simp only [List.flatten_cons, List.flatten_nil, List.append_nil, List.append_assoc, length]
      exact frame
    · rw [length, GoawayParser.beginFrame, if_neg enough]

/-- A frame written by hand is taken for what it is exactly when its payload is no
larger than the peer's `MAX_FRAME_SIZE`: nothing cuts the text, and nothing splits
the frame. -/
theorem handRolled_wellFramed_iff {peer : Settings} (advertised : peer.Valid)
    {p : HPackParser} (between : p.unparsedBytes = []) (sentInitialMetadata : Bool)
    {id grpcStatus : Nat} (streamId : id < 2147483648) (status : grpcStatus < 100)
    (message : Bytes) {lastStreamId errorCode : Nat} (lastSmall : lastStreamId < 4294967296)
    (codeSmall : errorCode < 4294967296) (debugData : Bytes) :
    (ClosesWell peer.maxFrameSize p sentInitialMetadata id grpcStatus message ↔
        closeLength sentInitialMetadata grpcStatus message.length ≤ peer.maxFrameSize) ∧
      (GoawayWell peer.maxFrameSize lastStreamId errorCode debugData ↔
        8 + debugData.length ≤ peer.maxFrameSize) := by
  have most : peer.maxFrameSize ≤ 16777215 := (advertised .maxFrameSize).2
  have limit : peer.maxFrameSize < 16777216 := by omega
  exact ⟨closesWell_iff limit between streamId status,
    goawayWell_iff limit lastSmall codeSmall debugData⟩

/-- A stream closed with a short text, and a transport with another. -/
theorem cancelled_wellFramed :
    ClosesWell ({} : Settings).maxFrameSize {} false 1 13 (ascii "Cancelled") ∧
      GoawayWell ({} : Settings).maxFrameSize 3 0 (ascii "Server shutdown") := by
  have between : ({} : HPackParser).unparsedBytes = [] := rfl
  have both := handRolled_wellFramed_iff Settings.default_valid between false
    (by decide : 1 < 2147483648) (by decide : 13 < 100) (ascii "Cancelled")
    (by decide : 3 < 4294967296) (by decide : 0 < 4294967296) (ascii "Server shutdown")
  exact ⟨both.1.mpr (by decide), both.2.mpr (by decide)⟩

/-- A text of 16384 bytes makes a frame that a peer with the default settings
refuses. -/
theorem closeFromApi_not_wellFramed :
    ¬ ∀ (peer : Settings) (sentInitialMetadata : Bool) (id grpcStatus : Nat) (message : Bytes),
      peer.Valid → id < 2147483648 → grpcStatus < 100 →
        ClosesWell peer.maxFrameSize {} sentInitialMetadata id grpcStatus message := by
  intro always
  have well := always {} false 1 13 (List.replicate 16384 97) Settings.default_valid (by decide)
    (by decide)
  have limit : ({} : Settings).maxFrameSize < 16777216 := by decide
  have fits := (closesWell_iff limit rfl (by decide) (by decide)).mp well
  have least := closeLength_pos false 13 (List.replicate 16384 (97 : UInt8)).length
  rw [List.length_replicate] at least fits
  have tooLong : 29 + 16384 ≤ ({} : Settings).maxFrameSize := Nat.le_trans least fits
  exact absurd tooLong (by decide)

end GrpcCore.Transport
