import GrpcCore.Transport.SettingsFrame

/-!
# Two transports that exchange their settings

`queue_setting_update` changes the local settings, a write flushes them with the
acknowledgements in `qbuf`, and the peer reads one frame after another. Frames of
other kinds come between, and leave the settings as they are.
-/

namespace GrpcCore.Transport

open Hpack MachineInt

inductive Side where
  | client
  | server
deriving DecidableEq

def Side.other : Side → Side
  | .client => .server
  | .server => .client

inductive SettingsMessage where
  | settings (frame : Bytes)
  | ack
deriving DecidableEq

def SettingsMessage.bytes : SettingsMessage → Bytes
  | .settings frame => frame
  | .ack => settingsAckCreate

/-- The frames in `qbuf`: a received SETTINGS frame is answered by one. -/
def qbufHost : Host (List SettingsMessage) where
  acceptStream _ _ := true
  recvData _ _ qbuf := .ok qbuf
  act
    | .settingsReceived, r, qbuf => (r, qbuf ++ [.ack])
    | _, r, qbuf => (r, qbuf)

/-- One of the transports, with its peer's, sent and acknowledged settings in the
deframer. -/
structure SettingsParty where
  deframer : Deframer (List SettingsMessage)
  localSettings : Settings := {}
  forceSendSettings : List SettingId := [.initialWindowSize]
  dirtiedLocalSettings : Bool := true
  sentLocalSettings : Bool := false
  failed : Option FrameError := none
deriving DecidableEq

namespace SettingsParty

def peerSettings (party : SettingsParty) : Settings := party.deframer.frames.peerSettings

def sentSettings (party : SettingsParty) : Settings := party.deframer.frames.sentSettings

def ackedSettings (party : SettingsParty) : Settings := party.deframer.frames.ackedSettings

def qbuf (party : SettingsParty) : List SettingsMessage := party.deframer.frames.world

def withFrames (party : SettingsParty) (frames : Frames (List SettingsMessage)) :
    SettingsParty :=
  { party with deframer := { party.deframer with frames } }

/-- `grpc_core::Clamp` to the bounds of the table. -/
def clampSetting (id : SettingId) (value : UInt32) : Nat :=
  (clamp value.toNat (settingsParameters id).minValue (settingsParameters id).maxValue).toNat

def queueSettingUpdate (party : SettingsParty) (id : SettingId) (value : UInt32) :
    SettingsParty :=
  let useValue := clampSetting id value
  if useValue ≠ party.localSettings.get id then
    { party with
      localSettings := party.localSettings.set id useValue
      dirtiedLocalSettings := true }
  else party

/-- `FlushSettings`: one frame at most is on its way. -/
def flushSettings (party : SettingsParty) : List SettingsMessage × SettingsParty :=
  if party.dirtiedLocalSettings && !party.sentLocalSettings then
    let created := settingsCreate party.sentSettings party.localSettings party.forceSendSettings
    ([.settings created.1],
      { party.withFrames { party.deframer.frames with sentSettings := created.2 } with
        forceSendSettings := []
        dirtiedLocalSettings := false
        sentLocalSettings := true })
  else ([], party)

/-- `FlushQueuedBuffers`. -/
def flushQueuedBuffers (party : SettingsParty) : SettingsParty :=
  party.withFrames { party.deframer.frames with world := [] }

def acknowledged (d : Deframer (List SettingsMessage)) : Bool :=
  (d.calls.head?.bind FrameCalls.header).any fun header =>
    header.type = 4 && header.flags &&& flagAck ≠ 0

def receive (party : SettingsParty) (message : SettingsMessage) : SettingsParty :=
  let outcome := party.deframer.performRead qbufHost message.bytes
  { party with
    deframer := outcome.2
    sentLocalSettings := party.sentLocalSettings && !acknowledged outcome.2
    failed := outcome.1 }

def drains (table : HPackTable) : Bool :=
  match table.evictWhile (fun table => table.memUsed > 0) table.memUsed with
  | .ok table => table.memUsed = 0
  | .error _ => false

/-- Whole frames of other kinds take the deframer to another state. -/
def admits (party : SettingsParty) (d : Deframer (List SettingsMessage)) : Bool :=
  d.deframeState = .fh0 && d.frames.headers.expectContinuationStreamId = 0 &&
    d.frames.flowControlEnabled = party.deframer.frames.flowControlEnabled &&
    d.frames.peerSettings = party.peerSettings && d.frames.sentSettings = party.sentSettings &&
    d.frames.ackedSettings = party.ackedSettings && d.frames.world = party.qbuf &&
    drains d.frames.headers.hpackParser.table

end SettingsParty

/-- Both transports and the frames on their way, by the side they come from. -/
structure SettingsExchange where
  parties : Side → SettingsParty
  wires : Side → List SettingsMessage

inductive SettingsAction where
  | update (side : Side) (id : SettingId) (value : UInt32)
  | flush (side : Side)
  | deliver (side : Side)
  | traffic (side : Side) (d : Deframer (List SettingsMessage))
deriving DecidableEq

namespace SettingsExchange

def setParty (state : SettingsExchange) (side : Side) (party : SettingsParty) :
    SettingsExchange :=
  { state with parties := Function.update state.parties side party }

def setWire (state : SettingsExchange) (side : Side) (wire : List SettingsMessage) :
    SettingsExchange :=
  { state with wires := Function.update state.wires side wire }

def flush (state : SettingsExchange) (side : Side) : SettingsExchange :=
  let flushed := (state.parties side).flushSettings
  (state.setWire side (state.wires side ++ flushed.1 ++ flushed.2.qbuf)).setParty side
    flushed.2.flushQueuedBuffers

/-- The first frame from a side arrives at the other. -/
def deliver (state : SettingsExchange) (side : Side) : Option SettingsExchange :=
  match state.wires side with
  | [] => none
  | message :: wire =>
    some ((state.setWire side wire).setParty side.other
      ((state.parties side.other).receive message))

def step (state : SettingsExchange) : SettingsAction → Option SettingsExchange
  | .update side id value =>
    some (state.setParty side ((state.parties side).queueSettingUpdate id value))
  | .flush side => some (state.flush side)
  | .deliver side => state.deliver side
  | .traffic side d =>
    if (state.parties side).admits d then
      some (state.setParty side { state.parties side with deframer := d })
    else none

/-- Flow control is on, and all settings are the defaults. -/
def initially : SettingsExchange where
  parties side := { deframer :=
    { deframeState := .fh0
      frames := { headers := { isClient := side = .client }, world := [] } } }
  wires _ := []

end SettingsExchange

end GrpcCore.Transport
