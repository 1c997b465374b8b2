import GrpcCore.Hpack.Metadata

/-!
# Settings

The table of settings and the SETTINGS frame: `grpc_chttp2_settings_parser`
reads six bytes for each setting, in whatever slices they arrive, and changes
the peer's settings only when the frame is complete.
-/

namespace GrpcCore.Transport

open Hpack

inductive SettingId where
  | headerTableSize
  | enablePush
  | maxConcurrentStreams
  | initialWindowSize
  | maxFrameSize
  | maxHeaderListSize
  | grpcAllowTrueBinaryMetadata
deriving DecidableEq

inductive InvalidValueBehavior where
  | clampInvalidValue
  | disconnectOnInvalidValue
deriving DecidableEq

structure SettingParameters where
  name : String
  defaultValue : Nat
  minValue : Nat
  maxValue : Nat
  invalidValueBehavior : InvalidValueBehavior
  errorValue : Nat
deriving DecidableEq

def http2ProtocolError : Nat := 1
def http2FlowControlError : Nat := 3

def settingsParameters : SettingId → SettingParameters
  | .headerTableSize =>
    ⟨"HEADER_TABLE_SIZE", 4096, 0, 4294967295, .clampInvalidValue, http2ProtocolError⟩
  | .enablePush => ⟨"ENABLE_PUSH", 1, 0, 1, .disconnectOnInvalidValue, http2ProtocolError⟩
  | .maxConcurrentStreams =>
    ⟨"MAX_CONCURRENT_STREAMS", 4294967295, 0, 4294967295, .disconnectOnInvalidValue,
      http2ProtocolError⟩
  | .initialWindowSize =>
    ⟨"INITIAL_WINDOW_SIZE", 65535, 0, 2147483647, .disconnectOnInvalidValue,
      http2FlowControlError⟩
  | .maxFrameSize =>
    ⟨"MAX_FRAME_SIZE", 16384, 16384, 16777215, .disconnectOnInvalidValue,
      http2ProtocolError⟩
  | .maxHeaderListSize =>
    ⟨"MAX_HEADER_LIST_SIZE", 16777216, 0, 16777216, .clampInvalidValue, http2ProtocolError⟩
  | .grpcAllowTrueBinaryMetadata =>
    ⟨"GRPC_ALLOW_TRUE_BINARY_METADATA", 0, 0, 1, .clampInvalidValue, http2ProtocolError⟩

/-- `grpc_setting_id_to_wire_id`, in the order of the ids. -/
def settingIdToWireId : List (SettingId × Nat) := [
    (.headerTableSize, 1), (.enablePush, 2), (.maxConcurrentStreams, 3),
    (.initialWindowSize, 4), (.maxFrameSize, 5), (.maxHeaderListSize, 6),
    (.grpcAllowTrueBinaryMetadata, 65027)]

/-- The `uint32_t` subtraction wraps at wire id 0, which is found nowhere. -/
def wireIdToSettingId (wireId : Nat) : Option SettingId :=
  let i := if wireId = 0 then 4294967295 else wireId - 1
  let x := i % 256
  let y := i / 256
  let h := if y = 254 then x + 4 else x
  match settingIdToWireId[h]? with
  | some (id, wire) => if wire = wireId then some id else none
  | none => none

/-- One set of values, indexed by setting. -/
structure Settings where
  headerTableSize : Nat := 4096
  enablePush : Nat := 1
  maxConcurrentStreams : Nat := 4294967295
  initialWindowSize : Nat := 65535
  maxFrameSize : Nat := 16384
  maxHeaderListSize : Nat := 16777216
  grpcAllowTrueBinaryMetadata : Nat := 0
deriving DecidableEq

variable (id : SettingId)

namespace Settings

def get (settings : Settings) : SettingId → Nat
  | .headerTableSize => settings.headerTableSize
  | .enablePush => settings.enablePush
  | .maxConcurrentStreams => settings.maxConcurrentStreams
  | .initialWindowSize => settings.initialWindowSize
  | .maxFrameSize => settings.maxFrameSize
  | .maxHeaderListSize => settings.maxHeaderListSize
  | .grpcAllowTrueBinaryMetadata => settings.grpcAllowTrueBinaryMetadata

def set (settings : Settings) (id : SettingId) (value : Nat) : Settings :=
  match id with
  | .headerTableSize => { settings with headerTableSize := value }
  | .enablePush => { settings with enablePush := value }
  | .maxConcurrentStreams => { settings with maxConcurrentStreams := value }
  | .initialWindowSize => { settings with initialWindowSize := value }
  | .maxFrameSize => { settings with maxFrameSize := value }
  | .maxHeaderListSize => { settings with maxHeaderListSize := value }
  | .grpcAllowTrueBinaryMetadata => { settings with grpcAllowTrueBinaryMetadata := value }

/-- Every value is one its setting allows. -/
def Valid (settings : Settings) : Prop :=
  ∀ id, (settingsParameters id).minValue ≤ settings.get id ∧
    settings.get id ≤ (settingsParameters id).maxValue

theorem get_set (settings : Settings) (id id' : SettingId) (value : Nat) :
    (settings.set id value).get id' = if id' = id then value else settings.get id' := by
  cases id <;> cases id' <;> rfl

theorem default_valid : ({} : Settings).Valid := by
  intro id
  cases id <;> decide

end Settings

inductive SettingsError where
  | nonEmptyAck
  | invalidFlags
  | notMultipleOfSix
  | invalidValue (value : Nat) (id : SettingId)
deriving DecidableEq

inductive SettingsParseState where
  | id0 | id1 | val0 | val1 | val2 | val3
deriving DecidableEq

structure SettingsParser where
  state : SettingsParseState := .id0
  id : Nat := 0
  value : Nat := 0
  incomingSettings : Settings := {}
  isAck : Bool := false
deriving DecidableEq

def flagAck : UInt8 := 1

namespace SettingsParser

def beginFrame (settings : Settings) (length : Nat) (flags : UInt8) :
    Except SettingsError SettingsParser :=
  if flags = flagAck then
    if length ≠ 0 then .error .nonEmptyAck
    else .ok { incomingSettings := settings, isAck := true }
  else if flags ≠ 0 then .error .invalidFlags
  else if length % 6 ≠ 0 then .error .notMultipleOfSix
  else .ok { incomingSettings := settings }

def checkValue (id : SettingId) (value : Nat) : Except SettingsError Nat :=
  let sp := settingsParameters id
  if value < sp.minValue ∨ value > sp.maxValue then
    match sp.invalidValueBehavior with
    | .clampInvalidValue => .ok (max sp.minValue (min value sp.maxValue))
    | .disconnectOnInvalidValue => .error (.invalidValue value id)
  else .ok value

/-- A whole setting has been read. A change of the initial window is added to the
connection's pending update at once, before the frame is complete. -/
def applySetting (flowControlEnabled : Bool) (p : SettingsParser) (initialWindowUpdate : Int) :
    Option SettingsError × SettingsParser × Int :=
  match wireIdToSettingId p.id with
  | none => (none, p, initialWindowUpdate)
  | some id =>
    if !flowControlEnabled && (id = .initialWindowSize || id = .maxFrameSize) then
      (none, p, initialWindowUpdate)
    else
      match checkValue id p.value with
      | .error error => (some error, p, initialWindowUpdate)
      | .ok value =>
        let update : Int :=
          if id = .initialWindowSize then value - p.incomingSettings.get id else 0
        (none, { p with value, incomingSettings := p.incomingSettings.set id value },
          initialWindowUpdate + update)

def readByte (flowControlEnabled : Bool) (p : SettingsParser) (initialWindowUpdate : Int)
    (cur : UInt8) : Option SettingsError × SettingsParser × Int :=
  match p.state with
  | .id0 => (none, { p with id := cur.toNat <<< 8, state := .id1 }, initialWindowUpdate)
  | .id1 => (none, { p with id := p.id ||| cur.toNat, state := .val0 }, initialWindowUpdate)
  | .val0 => (none, { p with value := cur.toNat <<< 24, state := .val1 }, initialWindowUpdate)
  | .val1 =>
    (none, { p with value := p.value ||| cur.toNat <<< 16, state := .val2 },
      initialWindowUpdate)
  | .val2 =>
    (none, { p with value := p.value ||| cur.toNat <<< 8, state := .val3 },
      initialWindowUpdate)
  | .val3 =>
    applySetting flowControlEnabled { p with value := p.value ||| cur.toNat, state := .id0 }
      initialWindowUpdate

def readBytes (flowControlEnabled : Bool) : SettingsParser → Int → Bytes →
    Option SettingsError × SettingsParser × Int
  | p, initialWindowUpdate, [] => (none, p, initialWindowUpdate)
  | p, initialWindowUpdate, cur :: slice =>
    match p.readByte flowControlEnabled initialWindowUpdate cur with
    | (none, p, initialWindowUpdate) =>
      readBytes flowControlEnabled p initialWindowUpdate slice
    | (some error, p, initialWindowUpdate) => (some error, p, initialWindowUpdate)

def parse (flowControlEnabled : Bool) (p : SettingsParser) (initialWindowUpdate : Int)
    (slice : Bytes) : Option SettingsError × SettingsParser × Int :=
  if p.isAck then (none, p, initialWindowUpdate)
  else p.readBytes flowControlEnabled initialWindowUpdate slice

def commits (p : SettingsParser) (isLast : Bool) : Bool :=
  !p.isAck && isLast && p.state = .id0

variable (flowControlEnabled : Bool)

section

variable (p : SettingsParser) (initialWindowUpdate : Int)
include p initialWindowUpdate

theorem readBytes_append (slice more : Bytes) :
    p.readBytes flowControlEnabled initialWindowUpdate (slice ++ more) =
      match p.readBytes flowControlEnabled initialWindowUpdate slice with
      | (none, p, initialWindowUpdate) =>
        p.readBytes flowControlEnabled initialWindowUpdate more
      | (some error, p, initialWindowUpdate) => (some error, p, initialWindowUpdate) := by
  induction slice generalizing p initialWindowUpdate with
  | nil => rfl
  | cons cur slice ih =>
    simp only [List.cons_append, readBytes]
    rcases p.readByte flowControlEnabled initialWindowUpdate cur with ⟨_ | error, p', update⟩
    · exact ih p' update
    · rfl

theorem isAck_applySetting :
    (p.applySetting flowControlEnabled initialWindowUpdate).2.1.isAck = p.isAck := by
  unfold applySetting
  cases wireIdToSettingId p.id with
  | none => rfl
  | some id =>
    dsimp only
    split
    · rfl
    · cases checkValue id p.value <;> rfl

theorem isAck_readByte (cur : UInt8) :
    (p.readByte flowControlEnabled initialWindowUpdate cur).2.1.isAck = p.isAck := by
  cases state : p.state <;> simp only [readByte, state]
  exact isAck_applySetting flowControlEnabled
    { p with value := p.value ||| cur.toNat, state := .id0 } initialWindowUpdate

theorem isAck_readBytes (slice : Bytes) :
    (p.readBytes flowControlEnabled initialWindowUpdate slice).2.1.isAck = p.isAck := by
  induction slice generalizing p initialWindowUpdate with
  | nil => rfl
  | cons cur slice ih =>
    have kept := isAck_readByte flowControlEnabled p initialWindowUpdate cur
    simp only [readBytes]
    rcases read : p.readByte flowControlEnabled initialWindowUpdate cur with
      ⟨_ | error, p', update⟩
    · rw [read] at kept
      exact (ih p' update).trans kept
    · rw [read] at kept
      exact kept

theorem parse_append (slice more : Bytes) :
    p.parse flowControlEnabled initialWindowUpdate (slice ++ more) =
      match p.parse flowControlEnabled initialWindowUpdate slice with
      | (none, p, initialWindowUpdate) => p.parse flowControlEnabled initialWindowUpdate more
      | (some error, p, initialWindowUpdate) => (some error, p, initialWindowUpdate) := by
  unfold parse
  cases ack : p.isAck with
  | true => simp [ack]
  | false =>
    have kept := isAck_readBytes flowControlEnabled p initialWindowUpdate slice
    rw [readBytes_append]
    rcases read : p.readBytes flowControlEnabled initialWindowUpdate slice with
      ⟨_ | error, p', update⟩
    · rw [read, ack] at kept
      simp [show p'.isAck = false from kept]
    · rfl

end

end SettingsParser

end GrpcCore.Transport
