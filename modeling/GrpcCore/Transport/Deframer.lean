import GrpcCore.Transport.FrameDispatch

/-!
# The deframer

`grpc_chttp2_perform_read`: the connect string, nine header bytes and the payload
of one frame after another, from slices that may end anywhere.
-/

namespace GrpcCore.Transport

open Hpack Segments

/-- `grpc_chttp2_deframe_transport_state`. -/
inductive DeframeState where
  | clientPrefix (i : Fin 24)
  | fh0 | fh1 | fh2 | fh3 | fh4 | fh5 | fh6 | fh7 | fh8
  | frame
deriving DecidableEq

def clientConnectString : Bytes := ascii "PRI * HTTP/2.0\r\n\r\nSM\r\n\r\n"

/-- The calls made for one frame: its header, unless they began before, the bytes
its parser was handed and how many times it was told that they were the last. -/
structure FrameCalls where
  header : Option FrameHeader
  payload : Bytes := []
  lastSlices : Nat := 0
deriving DecidableEq

/-- The deframing part of the transport. `calls` records what was called, the
newest frame first. -/
structure Deframer (World : Type) where
  deframeState : DeframeState
  incomingFrameSize : Nat := 0
  incomingFrameType : UInt8 := 0
  incomingFrameFlags : UInt8 := 0
  incomingStreamId : Nat := 0
  frames : Frames World
  calls : List FrameCalls := []
deriving DecidableEq

namespace Deframer

variable {World : Type} (host : Host World)

def incomingHeader (d : Deframer World) : FrameHeader :=
  ⟨d.incomingFrameSize, d.incomingFrameType, d.incomingFrameFlags, d.incomingStreamId⟩

def notePayload (calls : List FrameCalls) (slice : Bytes) (isLast : Bool) : List FrameCalls :=
  match calls with
  | [] => [{ header := none, payload := slice, lastSlices := isLast.toNat }]
  | call :: calls =>
    { call with
      payload := call.payload ++ slice
      lastSlices := call.lastSlices + isLast.toNat } :: calls

def parseFrameSlice (d : Deframer World) (slice : Bytes) (isLast : Bool) :
    Option FrameError × Deframer World :=
  let (error, frames) := d.frames.parseFrameSlice host slice isLast
  (error, { d with frames, calls := notePayload d.calls slice isLast })

def initFrameParser (d : Deframer World) : Option FrameError × Deframer World :=
  let (error, frames) := d.frames.initFrameParser host d.incomingHeader
  (error, { d with frames, calls := { header := some d.incomingHeader } :: d.calls })

def endFrame (d : Deframer World) : Deframer World :=
  { d with deframeState := .fh0, frames := d.frames.endFrame }

/-- The last byte of a header. A frame without a payload is complete at once. -/
def startFrame (d : Deframer World) (rest : Bytes) :
    Taken UInt8 FrameError (Deframer World) :=
  match d.initFrameParser host with
  | (some error, d) => .failed error d
  | (none, d) =>
    if d.incomingFrameSize = 0 then
      match d.parseFrameSlice host [] true with
      | (some error, d) => .failed error d
      | (none, d) => .took d.endFrame rest
    else if d.frames.flowControlEnabled ∧
        d.incomingFrameSize > d.frames.ackedSettings.maxFrameSize then
      .failed (.frameTooLarge d.incomingFrameSize d.frames.ackedSettings.maxFrameSize) d
    else .took d rest

/-- The payload, as much of it as the slice has. The length of the slice is cast
to `uint32_t`. -/
def readPayload (d : Deframer World) (slice : Bytes) :
    Taken UInt8 FrameError (Deframer World) :=
  let available := slice.length % 4294967296
  if available = d.incomingFrameSize then
    match d.parseFrameSlice host slice true with
    | (some error, d) => .failed error d
    | (none, d) => .took d.endFrame []
  else if available > d.incomingFrameSize then
    match d.parseFrameSlice host (slice.take d.incomingFrameSize) true with
    | (some error, d') => .failed error d'
    | (none, d') => .took d'.endFrame (slice.drop d.incomingFrameSize)
  else
    match d.parseFrameSlice host slice false with
    | (some error, d) => .failed error d
    | (none, d) => .took { d with incomingFrameSize := d.incomingFrameSize - available } []

def nextPrefix (i : Fin 24) : DeframeState :=
  if below : i.val + 1 < 24 then .clientPrefix ⟨i.val + 1, below⟩ else .fh0

/-- One byte of the connect string or of a header, or as much of a payload as
there is. -/
def step (d : Deframer World) : Bytes → Taken UInt8 FrameError (Deframer World)
  | [] => .took d []
  | cur :: rest =>
    match d.deframeState with
    | .clientPrefix i =>
      let expected := clientConnectString.getD i 0
      if cur ≠ expected then .failed (.connectStringMismatch expected cur i) d
      else .took { d with deframeState := nextPrefix i } rest
    | .fh0 => .took { d with incomingFrameSize := cur.toNat <<< 16, deframeState := .fh1 } rest
    | .fh1 =>
      .took { d with
        incomingFrameSize := d.incomingFrameSize ||| cur.toNat <<< 8
        deframeState := .fh2 } rest
    | .fh2 =>
      .took { d with
        incomingFrameSize := d.incomingFrameSize ||| cur.toNat
        deframeState := .fh3 } rest
    | .fh3 => .took { d with incomingFrameType := cur, deframeState := .fh4 } rest
    | .fh4 => .took { d with incomingFrameFlags := cur, deframeState := .fh5 } rest
    | .fh5 =>
      .took { d with
        incomingStreamId := (cur &&& 0x7f).toNat <<< 24
        deframeState := .fh6 } rest
    | .fh6 =>
      .took { d with
        incomingStreamId := d.incomingStreamId ||| cur.toNat <<< 16
        deframeState := .fh7 } rest
    | .fh7 =>
      .took { d with
        incomingStreamId := d.incomingStreamId ||| cur.toNat <<< 8
        deframeState := .fh8 } rest
    | .fh8 =>
      startFrame host { d with
        incomingStreamId := d.incomingStreamId ||| cur.toNat
        deframeState := .frame } rest
    | .frame => d.readPayload host (cur :: rest)

def performRead (d : Deframer World) (slice : Bytes) : Option FrameError × Deframer World :=
  read (step host) d slice

/-- Slices in order, up to the first error. -/
def performReads (d : Deframer World) (slices : List Bytes) :
    Option FrameError × Deframer World :=
  readAll (step host) d slices

end Deframer

end GrpcCore.Transport
