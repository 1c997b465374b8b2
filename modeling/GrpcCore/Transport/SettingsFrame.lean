import GrpcCore.Transport.FrameBytes

/-!
# Writing SETTINGS frames

`grpc_chttp2_settings_create` writes the settings that have changed since the last
frame, and those of a mask. Reading such a frame makes the peer's copy equal to the
one it was written from.
-/

namespace GrpcCore.Transport

open Hpack BigEndian SettingsParser

def settingIds : List SettingId := settingIdToWireId.map Prod.fst

def wireId (id : SettingId) : Nat := (settingIdToWireId.lookup id).getD 0

def fillHeader (length : Nat) (flags : UInt8) : Bytes :=
  FrameHeader.bytes ⟨length, 4, flags, 0⟩

def settingBytes (id : SettingId) (value : Nat) : Bytes := bytes16 (wireId id) ++ bytes32 value

def changedSettings (old new : Settings) (forceMask : List SettingId) : List SettingId :=
  settingIds.filter fun id => new.get id ≠ old.get id ∨ id ∈ forceMask

def settingsPayload (new : Settings) (ids : List SettingId) : Bytes :=
  ids.flatMap fun id => settingBytes id (new.get id)

/-- The frame, and the old settings with what was written copied into them. -/
def settingsCreate (old new : Settings) (forceMask : List SettingId) : Bytes × Settings :=
  let ids := changedSettings old new forceMask
  (fillHeader (6 * ids.length) 0 ++ settingsPayload new ids,
    ids.foldl (fun settings id => settings.set id (new.get id)) old)

def settingsAckCreate : Bytes := fillHeader 0 flagAck

namespace Settings

theorem ext_get {settings settings' : Settings}
    (same : ∀ id, settings.get id = settings'.get id) : settings = settings' := by
  have headerTableSize := same .headerTableSize
  have enablePush := same .enablePush
  have maxConcurrentStreams := same .maxConcurrentStreams
  have initialWindowSize := same .initialWindowSize
  have maxFrameSize := same .maxFrameSize
  have maxHeaderListSize := same .maxHeaderListSize
  have grpcAllowTrueBinaryMetadata := same .grpcAllowTrueBinaryMetadata
  simp only [get] at *
  cases settings
  simp_all

theorem get_foldl_set (ids : List SettingId) (old new : Settings) (id : SettingId) :
    (ids.foldl (fun settings id => settings.set id (new.get id)) old).get id =
      if id ∈ ids then new.get id else old.get id := by
  induction ids generalizing old with
  | nil => simp
  | cons first ids ih =>
    rw [List.foldl_cons, ih, get_set]
    by_cases later : id ∈ ids
    · simp [later]
    · by_cases now : id = first
      · simp [now]
      · simp [later, now]

end Settings

theorem mem_settingIds (id : SettingId) : id ∈ settingIds := by
  cases id <;> decide

theorem mem_changedSettings {old new : Settings} {forceMask : List SettingId} {id : SettingId} :
    id ∈ changedSettings old new forceMask ↔ new.get id ≠ old.get id ∨ id ∈ forceMask := by
  simp [changedSettings, mem_settingIds]

theorem foldl_changedSettings (old new : Settings) (forceMask : List SettingId) :
    (changedSettings old new forceMask).foldl (fun settings id => settings.set id (new.get id))
      old = new := by
  apply Settings.ext_get
  intro id
  rw [Settings.get_foldl_set]
  split_ifs with written
  · rfl
  · by_contra different
    exact written (mem_changedSettings.mpr (.inl (Ne.symm different)))

theorem settingsCreate_snd (old new : Settings) (forceMask : List SettingId) :
    (settingsCreate old new forceMask).2 = new :=
  foldl_changedSettings old new forceMask

theorem length_settingsPayload (new : Settings) (ids : List SettingId) :
    (settingsPayload new ids).length = 6 * ids.length := by
  induction ids with
  | nil => rfl
  | cons id ids ih =>
    rw [settingsPayload, List.flatMap_cons, List.length_append, ← settingsPayload, ih,
      List.length_cons]
    simp only [settingBytes, bytes16, bytes32, List.length_append, List.length_cons,
      List.length_nil]
    omega

theorem length_changedSettings (old new : Settings) (forceMask : List SettingId) :
    (changedSettings old new forceMask).length ≤ 7 :=
  List.length_filter_le _ settingIds

namespace SettingsParser

theorem wireIdToSettingId_wireId (id : SettingId) : wireIdToSettingId (wireId id) = some id := by
  cases id <;> decide

theorem join_wireId (id : SettingId) :
    (UInt8.ofNat (wireId id >>> 8)).toNat <<< 8 ||| (UInt8.ofNat (wireId id)).toNat = wireId id := by
  cases id <;> decide

theorem checkValue_valid {id : SettingId} {value : Nat}
    (bounds : (settingsParameters id).minValue ≤ value ∧ value ≤ (settingsParameters id).maxValue) :
    checkValue id value = .ok value := by
  have inside : ¬ (value < (settingsParameters id).minValue ∨
      value > (settingsParameters id).maxValue) := by omega
  simp only [checkValue, if_neg inside]

theorem maxValue_lt (id : SettingId) : (settingsParameters id).maxValue < 4294967296 := by
  cases id <;> decide

theorem readBytes_setting {p : SettingsParser} (start : p.state = .id0) (update : Int)
    {id : SettingId} {value : Nat}
    (bounds : (settingsParameters id).minValue ≤ value ∧ value ≤ (settingsParameters id).maxValue) :
    ∃ p' update', p.readBytes true update (settingBytes id value) = (none, p', update') ∧
      p'.state = .id0 ∧ p'.isAck = p.isAck ∧
      p'.incomingSettings = p.incomingSettings.set id value := by
  have wire := join_wireId id
  have word := join_bytes32 (Nat.lt_of_le_of_lt bounds.2 (maxValue_lt id))
  refine ⟨{ p with
    state := .id0, id := wireId id, value, incomingSettings := p.incomingSettings.set id value },
    update + if id = .initialWindowSize then (value : Int) - p.incomingSettings.get id else 0,
    ?_, rfl, rfl, rfl⟩
  simp only [settingBytes, bytes16, bytes32, List.cons_append, List.nil_append, readBytes, readByte,
    start, wire, word, applySetting, wireIdToSettingId_wireId, checkValue_valid bounds,
    Bool.not_true, Bool.false_and, Bool.false_eq_true, if_false]

theorem readBytes_settingsPayload {new : Settings} (valid : new.Valid) (ids : List SettingId)
    {p : SettingsParser} (start : p.state = .id0) (update : Int) :
    ∃ p' update', p.readBytes true update (settingsPayload new ids) = (none, p', update') ∧
      p'.state = .id0 ∧ p'.isAck = p.isAck ∧
      p'.incomingSettings =
        ids.foldl (fun settings id => settings.set id (new.get id)) p.incomingSettings := by
  induction ids generalizing p update with
  | nil => exact ⟨p, update, rfl, start, rfl, rfl⟩
  | cons id ids ih =>
    obtain ⟨p₁, update₁, read₁, start₁, ack₁, incoming₁⟩ :=
      readBytes_setting start update (valid id)
    obtain ⟨p₂, update₂, read₂, start₂, ack₂, incoming₂⟩ := ih start₁ update₁
    refine ⟨p₂, update₂, ?_, start₂, ack₂.trans ack₁, ?_⟩
    · rw [settingsPayload, List.flatMap_cons, readBytes_append, read₁]
      exact read₂
    · rw [incoming₂, incoming₁, List.foldl_cons]

end SettingsParser

namespace Deframer

variable {World : Type} {host : Host World} {d : Deframer World}

/-- A transport that can take a SETTINGS frame: it is between frames and between
header blocks, flow control is on, and no setting lowers the size of a frame below
that of seven settings. -/
structure TakesSettings (d : Deframer World) : Prop where
  between : d.deframeState = .fh0
  noBlock : d.frames.headers.expectContinuationStreamId = 0
  flowControlEnabled : d.frames.flowControlEnabled = true
  maxFrameSize : 42 ≤ d.frames.ackedSettings.maxFrameSize

theorem beginFrame_settings (settings : Settings) (count : Nat) :
    beginFrame settings (6 * count) 0 = .ok { incomingSettings := settings } := by
  have multiple : ¬ 6 * count % 6 ≠ 0 := by omega
  simp only [beginFrame, if_neg multiple]
  rfl

def settingsHeader (count : Nat) : FrameHeader := ⟨6 * count, 4, 0, 0⟩

theorem initFrameParser_settings (f : Frames World) (noBlock : f.headers.expectContinuationStreamId = 0)
    (count : Nat) :
    f.initFrameParser host (settingsHeader count) =
      (none, { f with
        isFirstFrame := false
        parser := .settings { incomingSettings := f.peerSettings } }) := by
  have settings : ¬ (f.isFirstFrame ∧ (settingsHeader count).type ≠ 4) := by simp [settingsHeader]
  have block : ¬ f.headers.expectContinuationStreamId ≠ 0 := not_not.mpr noBlock
  rw [Frames.initFrameParser, if_neg settings, if_neg block]
  have notAck : (0 : UInt8) &&& flagAck = 0 := by decide
  simp only [settingsHeader, Frames.initSettingsFrameParser, beginFrame_settings, notAck, ne_eq,
    not_true_eq_false, if_false]

theorem parseSettings_payload {f : Frames World} (enabled : f.flowControlEnabled = true)
    {payload : Bytes} {p : SettingsParser} {update : Int} {new : Settings}
    (read : ({ incomingSettings := f.peerSettings } : SettingsParser).readBytes true
      f.initialWindowUpdate payload = (none, p, update))
    (start : p.state = .id0) (ack : p.isAck = false) (incoming : p.incomingSettings = new) :
    Frames.parseFrameSlice host { f with
        isFirstFrame := false
        parser := .settings { incomingSettings := f.peerSettings } } payload true =
      (none, Frames.perform host .settingsReceived { f with
        isFirstFrame := false
        parser := .settings p
        initialWindowUpdate := update
        peerSettings := new }) := by
  have commits : p.commits true = true := by simp [SettingsParser.commits, start, ack]
  simp only [Frames.parseFrameSlice, Frames.parseSettings, parse, enabled, read,
    Bool.false_eq_true, if_false, commits, if_true, incoming]

/-- A frame that was written from the peer's copy makes that copy the new settings,
and is acknowledged. -/
theorem performRead_settingsCreate (takes : d.TakesSettings) {new : Settings} (valid : new.Valid)
    (forceMask : List SettingId) :
    ∃ payload p update,
      d.performRead host (settingsCreate d.frames.peerSettings new forceMask).1 =
        (none, d.afterFrame
          (settingsHeader (changedSettings d.frames.peerSettings new forceMask).length) payload
          (Frames.perform host .settingsReceived { d.frames with
            isFirstFrame := false
            parser := .settings p
            initialWindowUpdate := update
            peerSettings := new })) := by
  generalize ids : changedSettings d.frames.peerSettings new forceMask = changed
  have few : changed.length ≤ 7 := ids ▸ length_changedSettings _ _ _
  have copied : changed.foldl (fun settings id => settings.set id (new.get id))
      d.frames.peerSettings = new := ids ▸ foldl_changedSettings _ _ _
  obtain ⟨p, update, read, start, ack, incoming⟩ :=
    readBytes_settingsPayload valid changed
      (p := { incomingSettings := d.frames.peerSettings }) rfl d.frames.initialWindowUpdate
  refine ⟨settingsPayload new changed, p, update, ?_⟩
  have length := length_settingsPayload new changed
  have encodable : (settingsHeader changed.length).Encodable := by
    refine ⟨?_, Nat.zero_lt_succ _⟩
    simp only [settingsHeader]
    omega
  have frame : d.performRead host
      ((settingsHeader changed.length).bytes ++ (settingsPayload new changed ++ [])) = _ :=
    performRead_frame takes.between encodable length
      (initFrameParser_settings d.frames takes.noBlock changed.length)
      (fun _ => by simp only [settingsHeader]; have := takes.maxFrameSize; omega)
      (parseSettings_payload takes.flowControlEnabled read start ack (incoming.trans copied))
      (by rw [List.append_nil]; omega)
  rw [List.append_nil] at frame
  rw [settingsCreate, ids]
  exact frame

def ackHeader : FrameHeader := ⟨0, 4, flagAck, 0⟩

theorem performRead_settingsAck (takes : d.TakesSettings) {table : HPackTable}
    (evicts : d.frames.headers.hpackParser.table.setMaxBytes
      d.frames.sentSettings.headerTableSize = .ok table) :
    d.performRead host settingsAckCreate =
      (none, d.afterFrame ackHeader [] { d.frames with
        isFirstFrame := false
        parser := .settings { incomingSettings := d.frames.peerSettings, isAck := true }
        ackedSettings := d.frames.sentSettings
        headers := { d.frames.headers with
          maxHeaderListSize := d.frames.sentSettings.maxHeaderListSize
          maxConcurrentStreams := d.frames.sentSettings.maxConcurrentStreams
          hpackParser := { d.frames.headers.hpackParser with table } } }) := by
  have block : ¬ d.frames.headers.expectContinuationStreamId ≠ 0 := not_not.mpr takes.noBlock
  have settings : ¬ (d.frames.isFirstFrame ∧ ackHeader.type ≠ 4) := by simp [ackHeader]
  have isAck : ¬ flagAck &&& flagAck = 0 := by decide
  have begins : d.frames.initFrameParser host ackHeader = (none, { d.frames with
      isFirstFrame := false
      parser := .settings { incomingSettings := d.frames.peerSettings, isAck := true }
      ackedSettings := d.frames.sentSettings
      headers := { d.frames.headers with
        maxHeaderListSize := d.frames.sentSettings.maxHeaderListSize
        maxConcurrentStreams := d.frames.sentSettings.maxConcurrentStreams
        hpackParser := { d.frames.headers.hpackParser with table } } }) := by
    rw [Frames.initFrameParser, if_neg settings, if_neg block]
    simp only [ackHeader, Frames.initSettingsFrameParser, beginFrame, isAck, ne_eq,
      not_true_eq_false, not_false_eq_true, if_true, if_false, Frames.ackSettings, evicts]
  have frame : d.performRead host (ackHeader.bytes ++ ([] ++ [])) = _ :=
    performRead_frame takes.between ⟨by decide, by decide⟩ rfl begins
      (fun _ => Nat.zero_le _) rfl (by decide)
  exact frame

end Deframer

end GrpcCore.Transport
