import GrpcCore.Transport.SettingsExchange

/-!
# The peer's copy follows the settings that were sent

At most one SETTINGS frame is between two transports that has not been
acknowledged. The peer's copy is what was sent before it, and what was sent as soon
as it has been read.
-/

namespace GrpcCore.Hpack.HPackTable

inductive Drains : HPackTable → Prop where
  | empty {table} (none : table.memUsed = 0) : Drains table
  | evict {table table'} (evicted : table.evictOne = .ok table') (drains : Drains table') :
      Drains table

theorem Drains.evictWhile {table : HPackTable} (drains : Drains table) (bytes turns : Nat) :
    ∃ table', table.evictWhile (fun table => table.memUsed > bytes) turns = .ok table' ∧
      Drains table' := by
  induction drains generalizing turns with
  | @empty table none =>
    refine ⟨table, ?_, .empty none⟩
    cases turns with
    | zero => rfl
    | succ => simp [HPackTable.evictWhile, none]
  | @evict table table' evicted drains ih =>
    cases turns with
    | zero => exact ⟨table, rfl, .evict evicted drains⟩
    | succ turns =>
      by_cases full : table.memUsed > bytes
      · obtain ⟨table'', done, drains'⟩ := ih turns
        refine ⟨table'', ?_, drains'⟩
        simp only [HPackTable.evictWhile, full, decide_true, if_true, evicted]
        exact done
      · refine ⟨table, ?_, .evict evicted drains⟩
        simp [HPackTable.evictWhile, full]

variable {table : HPackTable}

theorem drains_of_evictWhile {turns : Nat} {table' : HPackTable}
    (done : table.evictWhile (fun table => table.memUsed > 0) turns = .ok table')
    (none : table'.memUsed = 0) : Drains table := by
  induction turns generalizing table with
  | zero =>
    obtain rfl := Except.ok.inj done
    exact .empty none
  | succ turns ih =>
    by_cases full : table.memUsed > 0
    · simp only [evictWhile, full, decide_true, if_true] at done
      cases evicted : table.evictOne with
      | error =>
        rw [evicted] at done
        cases done
      | ok =>
        rw [evicted] at done
        exact .evict evicted (ih done)
    · exact .empty (by omega)

theorem Drains.with_maxBytes (drains : Drains table) (maxBytes : Nat) :
    Drains { table with maxBytes } := by
  induction drains with
  | empty none => exact .empty none
  | @evict table table' evicted drains ih =>
    refine .evict ?_ ih
    unfold evictOne at evicted ⊢
    dsimp only at evicted ⊢
    split_ifs at evicted with enough
    obtain rfl := Except.ok.inj evicted
    exact if_pos enough

theorem Drains.setMaxBytes {table : HPackTable} (drains : Drains table) (maxBytes : Nat) :
    ∃ table', table.setMaxBytes maxBytes = .ok table' ∧ Drains table' := by
  unfold HPackTable.setMaxBytes
  split_ifs with same
  · exact ⟨table, rfl, drains⟩
  · obtain ⟨table', done, drains'⟩ := drains.evictWhile maxBytes table.memUsed
    refine ⟨{ table' with maxBytes }, ?_, drains'.with_maxBytes maxBytes⟩
    rw [done]
    rfl

end GrpcCore.Hpack.HPackTable

namespace GrpcCore.Transport

open Hpack MachineInt

variable (side : Side)

namespace Side

theorem other_other : side.other.other = side := by
  cases side <;> rfl

theorem other_ne : side.other ≠ side := by
  cases side <;> decide

theorem eq_or_other (acting : Side) : side = acting ∨ side = acting.other := by
  cases side <;> cases acting <;> simp [other]

end Side

def settingsIn (messages : List SettingsMessage) : List Bytes :=
  messages.filterMap fun
    | .settings frame => some frame
    | .ack => none

def acksIn (messages : List SettingsMessage) : Nat := messages.count .ack

variable (messages : List SettingsMessage)

theorem settingsIn_append (more : List SettingsMessage) :
    settingsIn (messages ++ more) = settingsIn messages ++ settingsIn more :=
  List.filterMap_append

theorem acksIn_append (more : List SettingsMessage) :
    acksIn (messages ++ more) = acksIn messages + acksIn more :=
  List.count_append

variable (frame : Bytes)

theorem acksIn_settings : acksIn [.settings frame] = 0 := by
  simp [acksIn]

theorem settingsIn_cons (messages : List SettingsMessage) :
    settingsIn (.settings frame :: messages) = frame :: settingsIn messages := rfl

theorem settingsIn_ack : settingsIn (.ack :: messages) = settingsIn messages := rfl

theorem acksIn_cons (messages : List SettingsMessage) :
    acksIn (.settings frame :: messages) = acksIn messages := by
  simp [acksIn]

theorem acksIn_ack : acksIn (.ack :: messages) = acksIn messages + 1 := by
  simp [acksIn]

/-- How far the settings of a transport have come: all are acknowledged, a frame is
on its way, or its acknowledgement is. -/
inductive Mirrored (waiting : Bool) (sent acked peer : Settings) (frames : List Bytes)
    (acks : Nat) : Prop where
  | acknowledged (idle : waiting = false) (none : frames = []) (noAck : acks = 0)
      (same : peer = sent) (agreed : acked = sent)
  | flying (forceMask : List SettingId) (awaits : waiting = true)
      (one : frames = [(settingsCreate peer sent forceMask).1]) (noAck : acks = 0)
  | answered (awaits : waiting = true) (none : frames = []) (one : acks = 1)
      (same : peer = sent)

structure SettingsParty.Sound (party : SettingsParty) : Prop where
  takes : party.deframer.deframeState = .fh0 ∧
    party.deframer.frames.headers.expectContinuationStreamId = 0 ∧
    party.deframer.frames.flowControlEnabled = true
  drains : party.deframer.frames.headers.hpackParser.table.Drains
  localValid : party.localSettings.Valid
  sentValid : party.sentSettings.Valid
  ackedValid : party.ackedSettings.Valid
  remembers : party.dirtiedLocalSettings = false → party.localSettings = party.sentSettings
  onlyAcks : settingsIn party.qbuf = []
  lives : party.failed = none

theorem Settings.Valid.set {settings : Settings} (valid : settings.Valid) {id : SettingId}
    {value : Nat}
    (bounds : (settingsParameters id).minValue ≤ value ∧ value ≤ (settingsParameters id).maxValue) :
    (settings.set id value).Valid := by
  intro id'
  rw [Settings.get_set]
  split_ifs with same
  · exact same ▸ bounds
  · exact valid id'

variable {d : Deframer (List SettingsMessage)}

namespace SettingsParty

theorem clampSetting_bounds (id : SettingId) (value : UInt32) :
    (settingsParameters id).minValue ≤ clampSetting id value ∧
      clampSetting id value ≤ (settingsParameters id).maxValue := by
  have ordered : (settingsParameters id).minValue ≤ (settingsParameters id).maxValue := by
    cases id <;> decide
  have bounds := clamp_mem (Int.ofNat_le.mpr ordered) value.toNat
  unfold clampSetting
  omega

variable {party : SettingsParty}

theorem Sound.takesSettings (sound : party.Sound) : party.deframer.TakesSettings := by
  obtain ⟨between, noBlock, enabled⟩ := sound.takes
  refine ⟨between, noBlock, enabled, ?_⟩
  have bounds : 16384 ≤ party.ackedSettings.maxFrameSize := (sound.ackedValid .maxFrameSize).1
  exact Nat.le_trans (by decide) bounds

theorem sound_queueSettingUpdate (sound : party.Sound) (id : SettingId) (value : UInt32) :
    (party.queueSettingUpdate id value).Sound := by
  unfold queueSettingUpdate
  dsimp only
  split_ifs
  · exact { sound with
      localValid := sound.localValid.set (clampSetting_bounds id value)
      remembers := fun clean => absurd clean (by simp) }
  · exact sound

theorem flushSettings_cases (sound : party.Sound) :
    (party.flushSettings = ([], party) ∧
      (party.sentLocalSettings = false → party.localSettings = party.sentSettings)) ∨
    ∃ party', party.flushSettings =
        ([.settings (settingsCreate party.sentSettings party.localSettings
          party.forceSendSettings).1], party') ∧
      party.sentLocalSettings = false ∧ party'.sentLocalSettings = true ∧
      party'.sentSettings = party.localSettings ∧ party'.Sound ∧
      party'.peerSettings = party.peerSettings ∧ party'.ackedSettings = party.ackedSettings ∧
      party'.localSettings = party.localSettings ∧ party'.qbuf = party.qbuf := by
  unfold flushSettings
  split_ifs with sends
  · obtain ⟨-, idle⟩ := Bool.and_eq_true_iff.mp sends
    have created := settingsCreate_snd party.sentSettings party.localSettings party.forceSendSettings
    refine .inr ⟨_, rfl, by simpa using idle, rfl, created, ?_, rfl, rfl, rfl, rfl⟩
    exact { sound with
      sentValid := by
        rw [created]
        exact sound.localValid
      remembers := fun _ => created.symm }
  · refine .inl ⟨rfl, ?_⟩
    intro idle
    apply sound.remembers
    simpa [idle] using sends

theorem flushQueuedBuffers_qbuf (party : SettingsParty) : party.flushQueuedBuffers.qbuf = [] := rfl

theorem sound_flushQueuedBuffers (sound : party.Sound) : party.flushQueuedBuffers.Sound :=
  { sound with onlyAcks := rfl }

theorem acknowledged_afterFrame (d : Deframer (List SettingsMessage)) (header : FrameHeader)
    (payload : Bytes) (frames : Frames (List SettingsMessage)) :
    acknowledged (d.afterFrame header payload frames) =
      (header.type = 4 && header.flags &&& flagAck ≠ 0) := rfl

theorem receive_of_read {message : SettingsMessage}
    (read : party.deframer.performRead qbufHost message.bytes = (none, d)) :
    party.receive message =
      { party with
        deframer := d
        sentLocalSettings := party.sentLocalSettings && !acknowledged d
        failed := none } := by
  rw [receive, read]

theorem receive_settings (sound : party.Sound) {new : Settings} (valid : new.Valid)
    (forceMask : List SettingId) :
    ∃ party', party.receive (.settings (settingsCreate party.peerSettings new forceMask).1) =
        party' ∧
      party'.Sound ∧ party'.peerSettings = new ∧ party'.sentSettings = party.sentSettings ∧
      party'.ackedSettings = party.ackedSettings ∧
      party'.sentLocalSettings = party.sentLocalSettings ∧
      party'.localSettings = party.localSettings ∧ party'.qbuf = party.qbuf ++ [.ack] := by
  obtain ⟨payload, p, update, read⟩ :=
    @Deframer.performRead_settingsCreate _ qbufHost _ sound.takesSettings new valid forceMask
  refine ⟨_, receive_of_read read, ?_, rfl, rfl, rfl, ?_, rfl, rfl⟩
  · exact { sound with
      takes := ⟨rfl, sound.takes.2.1, sound.takes.2.2⟩
      drains := sound.drains
      onlyAcks := by
        have appended := settingsIn_append party.qbuf [.ack]
        rw [sound.onlyAcks] at appended
        exact appended
      lives := rfl }
  · rw [acknowledged_afterFrame]
    simp [Deframer.settingsHeader]

theorem receive_ack (sound : party.Sound) :
    ∃ party', party.receive .ack = party' ∧ party'.Sound ∧
      party'.peerSettings = party.peerSettings ∧ party'.sentSettings = party.sentSettings ∧
      party'.ackedSettings = party.sentSettings ∧ party'.sentLocalSettings = false ∧
      party'.localSettings = party.localSettings ∧ party'.qbuf = party.qbuf := by
  obtain ⟨table, evicts, drains⟩ := sound.drains.setMaxBytes party.sentSettings.headerTableSize
  have read := @Deframer.performRead_settingsAck _ qbufHost _ sound.takesSettings table evicts
  refine ⟨_, receive_of_read read, ?_, rfl, rfl, rfl, ?_, rfl, rfl⟩
  · exact { sound with
      takes := ⟨rfl, sound.takes.2.1, sound.takes.2.2⟩
      drains := drains
      ackedValid := sound.sentValid
      onlyAcks := sound.onlyAcks
      lives := rfl }
  · exact Bool.and_false _

theorem sound_traffic (sound : party.Sound) (admits : party.admits d = true) :
    ({ party with deframer := d } : SettingsParty).Sound ∧ d.frames.peerSettings = party.peerSettings ∧
      d.frames.sentSettings = party.sentSettings ∧ d.frames.ackedSettings = party.ackedSettings ∧
      d.frames.world = party.qbuf := by
  simp only [SettingsParty.admits, Bool.and_eq_true, decide_eq_true_eq] at admits
  obtain ⟨⟨⟨⟨⟨⟨⟨between, noBlock⟩, enabled⟩, peer⟩, sent⟩, acked⟩, qbuf⟩, drained⟩ := admits
  refine ⟨?_, peer, sent, acked, qbuf⟩
  have drains : d.frames.headers.hpackParser.table.Drains := by
    unfold SettingsParty.drains at drained
    split at drained
    · rename_i table done
      exact HPackTable.drains_of_evictWhile done (by simpa using drained)
    · cases drained
  exact { sound with
    takes := ⟨between, noBlock, enabled.trans sound.takes.2.2⟩
    drains := drains
    sentValid := (congrArg Settings.Valid sent).mpr sound.sentValid
    ackedValid := (congrArg Settings.Valid acked).mpr sound.ackedValid
    remembers := fun clean => (sound.remembers clean).trans sent.symm
    onlyAcks := (congrArg settingsIn qbuf).trans sound.onlyAcks }

end SettingsParty

namespace SettingsExchange

def outgoing (state : SettingsExchange) (side : Side) : List SettingsMessage :=
  state.wires side ++ (state.parties side).qbuf

def MirroredFrom (state : SettingsExchange) (side : Side) : Prop :=
  Mirrored (state.parties side).sentLocalSettings (state.parties side).sentSettings
    (state.parties side).ackedSettings (state.parties side.other).peerSettings
    (settingsIn (state.outgoing side)) (acksIn (state.outgoing side.other))

structure Synced (state : SettingsExchange) : Prop where
  sound : ∀ side, (state.parties side).Sound
  mirrored : ∀ side, state.MirroredFrom side

theorem parties_setWire (state : SettingsExchange) (side : Side) (wire : List SettingsMessage) :
    (state.setWire side wire).parties = state.parties := rfl

variable {wire : List SettingsMessage}

theorem synced_of_sides {state : SettingsExchange} {mine theirs : SettingsParty}
    {wire' : List SettingsMessage} (party : state.parties side = mine)
    (party' : state.parties side.other = theirs) (onWire : state.wires side = wire)
    (onWire' : state.wires side.other = wire') (sound : mine.Sound) (sound' : theirs.Sound)
    (mirrored : Mirrored mine.sentLocalSettings mine.sentSettings mine.ackedSettings
      theirs.peerSettings (settingsIn (wire ++ mine.qbuf)) (acksIn (wire' ++ theirs.qbuf)))
    (mirrored' : Mirrored theirs.sentLocalSettings theirs.sentSettings theirs.ackedSettings
      mine.peerSettings (settingsIn (wire' ++ theirs.qbuf)) (acksIn (wire ++ mine.qbuf))) :
    state.Synced := by
  constructor
  · intro one
    rcases one.eq_or_other side with rfl | rfl
    · exact party ▸ sound
    · exact party' ▸ sound'
  · intro one
    unfold MirroredFrom outgoing
    rcases one.eq_or_other side with rfl | rfl
    · rw [party, party', onWire, onWire']
      exact mirrored
    · rw [side.other_other, party, party', onWire, onWire']
      exact mirrored'

variable {state : SettingsExchange}

theorem synced_update (synced : state.Synced) (side : Side) (id : SettingId) (value : UInt32) :
    (state.setParty side ((state.parties side).queueSettingUpdate id value)).Synced := by
  have sound := SettingsParty.sound_queueSettingUpdate (synced.sound side) id value
  have mirrored := synced.mirrored side
  have mirrored' := synced.mirrored side.other
  unfold MirroredFrom outgoing at mirrored mirrored'
  rw [side.other_other] at mirrored'
  refine synced_of_sides side (Function.update_self ..) (Function.update_of_ne side.other_ne ..)
    rfl rfl sound (synced.sound side.other) ?_ ?_
  all_goals
    unfold SettingsParty.queueSettingUpdate
    dsimp only
    split_ifs
  · exact mirrored
  · exact mirrored
  · exact mirrored'
  · exact mirrored'

variable {side : Side}

theorem synced_traffic (synced : state.Synced) (admits : (state.parties side).admits d = true) :
    (state.setParty side { state.parties side with deframer := d }).Synced := by
  obtain ⟨sound, peer, sent, acked, qbuf⟩ :=
    SettingsParty.sound_traffic (synced.sound side) admits
  have mirrored := synced.mirrored side
  have mirrored' := synced.mirrored side.other
  unfold MirroredFrom outgoing at mirrored mirrored'
  rw [side.other_other] at mirrored'
  refine synced_of_sides side (Function.update_self ..) (Function.update_of_ne side.other_ne ..)
    rfl rfl sound (synced.sound side.other) ?_ ?_
  · simp only [SettingsParty.sentSettings, SettingsParty.ackedSettings, SettingsParty.qbuf, sent,
      acked, qbuf] at mirrored ⊢
    exact mirrored
  · simp only [SettingsParty.peerSettings, SettingsParty.qbuf, peer, qbuf] at mirrored' ⊢
    exact mirrored'

theorem synced_flush (synced : state.Synced) (side : Side) : (state.flush side).Synced := by
  have sound := synced.sound side
  have mirrored := synced.mirrored side
  have mirrored' := synced.mirrored side.other
  unfold MirroredFrom outgoing at mirrored mirrored'
  rw [side.other_other] at mirrored'
  unfold flush
  rcases SettingsParty.flushSettings_cases sound with
    ⟨nothing, -⟩ | ⟨party, sends, idle, waits, sent, sound', peer, acked, -, qbuf⟩
  · rw [nothing]
    refine synced_of_sides side (Function.update_self ..) (Function.update_of_ne side.other_ne ..)
      (Function.update_self ..) (Function.update_of_ne side.other_ne ..)
      (SettingsParty.sound_flushQueuedBuffers sound) (synced.sound side.other) ?_ ?_
    · simp only [SettingsParty.flushQueuedBuffers_qbuf, List.append_nil]
      exact mirrored
    · simp only [SettingsParty.flushQueuedBuffers_qbuf, List.append_nil]
      exact mirrored'
  · rw [sends]
    refine synced_of_sides side (Function.update_self ..) (Function.update_of_ne side.other_ne ..)
      (Function.update_self ..) (Function.update_of_ne side.other_ne ..)
      (SettingsParty.sound_flushQueuedBuffers sound') (synced.sound side.other) ?_ ?_
    · -- nothing was on its way, so the peer's copy is what was sent before
      cases mirrored with
      | acknowledged _ none noAck same =>
        refine .flying (state.parties side).forceSendSettings waits ?_ noAck
        rw [settingsIn_append, sound.onlyAcks, List.append_nil] at none
        simp only [SettingsParty.flushQueuedBuffers_qbuf, List.append_nil, settingsIn_append, qbuf,
          none, sound.onlyAcks, List.nil_append, parties_setWire]
        change [_] = [(settingsCreate _ party.sentSettings _).1]
        rw [same, sent]
      | flying _ awaits | answered awaits => exact absurd (idle.symm.trans awaits) (by decide)
    · simp only [SettingsParty.flushQueuedBuffers_qbuf, List.append_nil, acksIn_append, qbuf,
        acksIn_settings, Nat.add_zero, parties_setWire]
      rw [acksIn_append, ← peer] at mirrored'
      exact mirrored'

variable {frame : Bytes}

theorem synced_deliver_settings (synced : state.Synced)
    (onWire : state.wires side = .settings frame :: wire) :
    ((state.setWire side wire).setParty side.other
      ((state.parties side.other).receive (.settings frame))).Synced := by
  have mirrored := synced.mirrored side
  have mirrored' := synced.mirrored side.other
  unfold MirroredFrom outgoing at mirrored mirrored'
  rw [onWire, List.cons_append, settingsIn_cons] at mirrored
  rw [side.other_other, onWire, List.cons_append, acksIn_cons] at mirrored'
  cases mirrored with
  | acknowledged _ none => cases none
  | answered _ none => cases none
  | flying forceMask awaits one noAck =>
    obtain ⟨rfl, last⟩ := List.cons.inj one
    obtain ⟨party, received, sound, peer, sent, acked, waits, -, qbuf⟩ :=
      SettingsParty.receive_settings (synced.sound side.other) (synced.sound side).sentValid
        forceMask
    rw [received]
    refine synced_of_sides side (Function.update_of_ne side.other_ne.symm ..)
      (Function.update_self ..) (Function.update_self ..)
      (Function.update_of_ne side.other_ne ..) (synced.sound side) sound ?_ ?_
    · refine .answered awaits last ?_ peer
      rw [qbuf, ← List.append_assoc, acksIn_append, noAck]
      rfl
    · rw [sent, acked, waits, qbuf, ← List.append_assoc, settingsIn_append, settingsIn_ack]
      rw [← List.append_nil (settingsIn _)] at mirrored'
      exact mirrored'

theorem synced_deliver_ack (synced : state.Synced) (onWire : state.wires side = .ack :: wire) :
    ((state.setWire side wire).setParty side.other
      ((state.parties side.other).receive .ack)).Synced := by
  have mirrored := synced.mirrored side
  have mirrored' := synced.mirrored side.other
  unfold MirroredFrom outgoing at mirrored mirrored'
  rw [onWire, List.cons_append, settingsIn_ack] at mirrored
  rw [side.other_other, onWire, List.cons_append, acksIn_ack] at mirrored'
  cases mirrored' with
  | acknowledged _ _ noAck => cases noAck
  | flying _ _ _ noAck => cases noAck
  | answered awaits none one same =>
    obtain ⟨party, received, sound, peer, sent, acked, waits, -, qbuf⟩ :=
      SettingsParty.receive_ack (synced.sound side.other)
    rw [received]
    refine synced_of_sides side (Function.update_of_ne side.other_ne.symm ..)
      (Function.update_self ..) (Function.update_self ..)
      (Function.update_of_ne side.other_ne ..) (synced.sound side) sound ?_ ?_
    · rw [peer, qbuf]
      exact mirrored
    · rw [qbuf]
      refine .acknowledged waits none (Nat.succ.inj one) (same.trans sent.symm) ?_
      exact acked.trans sent.symm

variable {state' : SettingsExchange}

theorem synced_step (synced : state.Synced) {action : SettingsAction}
    (taken : state.step action = some state') : state'.Synced := by
  cases action with
  | update side id value =>
    obtain rfl := Option.some.inj taken
    exact synced_update synced side id value
  | flush side =>
    obtain rfl := Option.some.inj taken
    exact synced_flush synced side
  | deliver =>
    simp only [step, deliver] at taken
    split at taken
    · cases taken
    · rename_i message wire onWire
      obtain rfl := Option.some.inj taken
      cases message with
      | settings => exact synced_deliver_settings synced onWire
      | ack => exact synced_deliver_ack synced onWire
  | traffic =>
    obtain ⟨admits, rfl⟩ := Option.ite_some_none_eq_some.mp taken
    exact synced_traffic synced admits

theorem synced_initially : initially.Synced := by
  refine ⟨fun side => ?_, fun side => .acknowledged rfl rfl rfl rfl rfl⟩
  exact {
    takes := ⟨rfl, rfl, rfl⟩
    drains := .empty rfl
    localValid := Settings.default_valid
    sentValid := Settings.default_valid
    ackedValid := Settings.default_valid
    remembers := fun _ => rfl
    onlyAcks := rfl
    lives := rfl }

/-- What the other side holds follows what a side has sent, and what it has sent
follows what it wants. -/
structure Follows (state : SettingsExchange) (side : Side) : Prop where
  accepts : (state.parties side.other).failed = none
  afterFrame : ∀ frame wire state', state.wires side = .settings frame :: wire →
    state.step (.deliver side) = some state' →
      (state'.parties side.other).peerSettings = (state'.parties side).sentSettings ∧
        .ack ∈ (state'.parties side.other).qbuf
  afterAck : ∀ wire state', state.wires side.other = .ack :: wire →
    state.step (.deliver side.other) = some state' →
      (state'.parties side).ackedSettings = (state'.parties side).sentSettings ∧
        (state'.parties side).sentSettings = (state'.parties side.other).peerSettings ∧
        (state'.parties side).sentLocalSettings = false
  remembers : (state.parties side).localSettings ≠ (state.parties side).sentSettings →
    (state.parties side).dirtiedLocalSettings = true
  sendsAll : ∀ state', (state.parties side).sentLocalSettings = false →
    state.step (.flush side) = some state' →
      (state'.parties side).sentSettings = (state.parties side).localSettings

theorem Synced.afterFrame (synced : state.Synced)
    (onWire : state.wires side = .settings frame :: wire)
    (taken : state.step (.deliver side) = some state') :
    (state'.parties side.other).peerSettings = (state'.parties side).sentSettings ∧
      .ack ∈ (state'.parties side.other).qbuf := by
  have mirrored := synced.mirrored side
  unfold MirroredFrom outgoing at mirrored
  rw [onWire, List.cons_append, settingsIn_cons] at mirrored
  simp only [step, deliver, onWire] at taken
  obtain rfl := Option.some.inj taken
  cases mirrored with
  | acknowledged _ none => cases none
  | answered _ none => cases none
  | flying forceMask _ one =>
    obtain ⟨rfl, -⟩ := List.cons.inj one
    obtain ⟨party, received, -, peer, -, -, -, -, qbuf⟩ :=
      SettingsParty.receive_settings (synced.sound side.other) (synced.sound side).sentValid
        forceMask
    rw [received]
    simp [setParty, setWire, Function.update_of_ne side.other_ne.symm, peer, qbuf]

theorem Synced.afterAck (synced : state.Synced) (onWire : state.wires side.other = .ack :: wire)
    (taken : state.step (.deliver side.other) = some state') :
    (state'.parties side).ackedSettings = (state'.parties side).sentSettings ∧
      (state'.parties side).sentSettings = (state'.parties side.other).peerSettings ∧
      (state'.parties side).sentLocalSettings = false := by
  have waits : (state'.parties side).sentLocalSettings = false := by
    simp only [step, deliver, onWire] at taken
    obtain rfl := Option.some.inj taken
    obtain ⟨party, received, -, -, -, -, idle, -⟩ := SettingsParty.receive_ack (synced.sound side)
    simp [setParty, side.other_other, received, idle]
  cases (synced_step synced taken).mirrored side with
  | acknowledged _ _ _ same agreed => exact ⟨agreed, same.symm, waits⟩
  | flying _ awaits | answered awaits => exact absurd (waits.symm.trans awaits) (by decide)

theorem Synced.sendsAll (synced : state.Synced)
    (idle : (state.parties side).sentLocalSettings = false)
    (taken : state.step (.flush side) = some state') :
    (state'.parties side).sentSettings = (state.parties side).localSettings := by
  obtain rfl := Option.some.inj taken
  rcases SettingsParty.flushSettings_cases (synced.sound side) with
    ⟨nothing, same⟩ | ⟨party, sends, -, -, sent, -⟩
  · simp only [flush, nothing, setParty, Function.update_self]
    exact (same idle).symm
  · simp only [flush, sends, setParty, Function.update_self]
    exact sent

/-- In every run the settings of each side are mirrored at the other. -/
theorem settings_follow {actions : List SettingsAction} {state : SettingsExchange}
    (run : Machine.Reach step initially actions state) (side : Side) : state.Follows side := by
  have synced : state.Synced :=
    run.invariant (fun synced _ taken => synced_step synced taken) synced_initially
  exact {
    accepts := (synced.sound side.other).lives
    afterFrame := fun _ _ _ onWire taken => synced.afterFrame onWire taken
    afterAck := fun _ _ onWire taken => synced.afterAck onWire taken
    remembers := fun different => by
      by_contra clean
      exact different ((synced.sound side).remembers (by simpa using clean))
    sendsAll := fun _ idle taken => synced.sendsAll idle taken }

/-- The client turns push off, and wants larger frames while that is on its way. -/
def changesTwice : List SettingsAction := [
    .update .client .enablePush 0, .flush .client, .update .client .maxFrameSize 20000,
    .flush .client, .deliver .client, .flush .server, .deliver .server, .deliver .server,
    .flush .client, .deliver .client]

/-- Both changes have arrived. -/
theorem settings_follow_twice : ∃ state,
    Machine.Reach step initially changesTwice state ∧ state.Follows .client ∧
      (state.parties .server).peerSettings = { enablePush := 0, maxFrameSize := 20000 } := by
  obtain ⟨state, run, peer⟩ := Machine.exists_reach step initially changesTwice
    (fun state => (state.parties .server).peerSettings)
    { enablePush := 0, maxFrameSize := 20000 } (by decide)
  exact ⟨state, run, settings_follow run .client, peer⟩

end SettingsExchange

end GrpcCore.Transport
