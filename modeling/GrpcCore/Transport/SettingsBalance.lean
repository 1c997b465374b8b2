import GrpcCore.Transport.HostInvariant

/-!
# The pending change of the initial window

While a SETTINGS frame is read, its changes of `INITIAL_WINDOW_SIZE` are summed up
at once, but the peer's setting changes only with the last byte of the frame. The
sum, less the setting and less what the frame is about to change, stays the same.
-/

namespace GrpcCore.Transport

open Hpack Segments SettingsParser

namespace SettingsParseState

/-- How many of the six bytes of a setting have been read. -/
def phase : SettingsParseState → Nat
  | .id0 => 0
  | .id1 => 1
  | .val0 => 2
  | .val1 => 3
  | .val2 => 4
  | .val3 => 5

end SettingsParseState

namespace Settings

theorem initialWindowSize_set (settings : Settings) (id : SettingId) (value : Nat) :
    ((settings.set id value).initialWindowSize : Int) =
      settings.initialWindowSize +
        if id = .initialWindowSize then (value : Int) - settings.get id else 0 := by
  cases id with
  | initialWindowSize =>
    simp only [set, get, if_true]
    omega
  | _ => simp [set]

end Settings

variable {p : SettingsParser} {slice : Bytes}

namespace SettingsParser

variable {flowControlEnabled : Bool} {p' : SettingsParser} {update' update : Int}

theorem balance_applySetting
    (applied : p.applySetting flowControlEnabled update = (none, p', update')) :
    update' - p'.incomingSettings.initialWindowSize =
        update - p.incomingSettings.initialWindowSize ∧
      p'.state = p.state := by
  unfold applySetting at applied
  split at applied
  · cases applied
    exact ⟨rfl, rfl⟩
  · rename_i id _
    split at applied
    · cases applied
      exact ⟨rfl, rfl⟩
    · split at applied
      · cases applied
      · rename_i value _
        cases applied
        have changed := Settings.initialWindowSize_set p.incomingSettings id value
        refine ⟨?_, rfl⟩
        dsimp only
        omega

theorem balance_readByte {cur : UInt8}
    (read : p.readByte flowControlEnabled update cur = (none, p', update')) :
    update' - p'.incomingSettings.initialWindowSize =
        update - p.incomingSettings.initialWindowSize ∧
      p'.state.phase = (p.state.phase + 1) % 6 := by
  cases state : p.state <;> simp only [readByte, state] at read
  case val3 =>
      obtain ⟨balance, same⟩ := balance_applySetting read
      exact ⟨balance, by rw [same]; rfl⟩
  all_goals
    cases read
    exact ⟨rfl, rfl⟩

theorem balance_readBytes (read : p.readBytes flowControlEnabled update slice = (none, p', update')) :
    update' - p'.incomingSettings.initialWindowSize =
        update - p.incomingSettings.initialWindowSize ∧
      p'.state.phase = (p.state.phase + slice.length) % 6 := by
  induction slice generalizing p update with
  | nil =>
    cases read
    refine ⟨rfl, ?_⟩
    cases p'.state <;> rfl
  | cons cur slice ih =>
    unfold readBytes at read
    split at read
    · rename_i next update'' byte
      obtain ⟨balance, phase⟩ := balance_readByte byte
      obtain ⟨balance', phase'⟩ := ih read
      rw [phase', phase, List.length_cons]
      omega
    · cases read

end SettingsParser

variable {size : Nat} {isLast : Bool}

namespace Frames

variable {World : Type} {host : Host World}

/-- What the SETTINGS frame being read is about to add to the initial window. -/
def pendingWindow (f : Frames World) : Int :=
  match f.parser with
  | .settings p => p.incomingSettings.initialWindowSize - f.peerSettings.initialWindowSize
  | _ => 0

def balance (f : Frames World) : Int :=
  f.initialWindowUpdate - f.peerSettings.initialWindowSize - f.pendingWindow

/-- A SETTINGS frame ends after a whole setting. One that acknowledges has none. -/
def Aligned (f : Frames World) (remaining : Nat) : Prop :=
  ∀ p, f.parser = .settings p →
    if p.isAck then f.pendingWindow = 0 else (p.state.phase + remaining) % 6 = 0

variable {f : Frames World}

theorem pendingWindow_settings (parser : f.parser = .settings p) :
    f.pendingWindow = p.incomingSettings.initialWindowSize - f.peerSettings.initialWindowSize := by
  unfold pendingWindow
  rw [parser]

theorem pendingWindow_other (other : ∀ p, f.parser ≠ .settings p) : f.pendingWindow = 0 := by
  unfold pendingWindow
  split
  · rename_i p parser
    exact absurd parser (other p)
  · rfl

/-- What a frame header does to the settings: nothing, and the parser of a
SETTINGS frame is at its beginning. -/
structure Begun (f f' : Frames World) (size : Nat) : Prop where
  peer : f'.peerSettings = f.peerSettings
  update : f'.initialWindowUpdate = f.initialWindowUpdate
  parser : ∀ p, f'.parser = .settings p →
    p.incomingSettings = f.peerSettings ∧ (p.isAck = false → (p.state.phase + size) % 6 = 0)

theorem Begun.pendingWindow {f f' : Frames World} {size : Nat} (begun : Begun f f' size) :
    f'.pendingWindow = 0 := by
  unfold Frames.pendingWindow
  split
  · rename_i p parser
    rw [(begun.parser p parser).1, begun.peer, Int.sub_self]
  · rfl

variable {f' : Frames World}

theorem Begun.aligned (begun : Begun f f' size) : f'.Aligned size := by
  intro p parser
  split_ifs with ack
  · exact begun.pendingWindow
  · exact (begun.parser p parser).2 (by simpa using ack)

theorem Begun.balance {f f' : Frames World} {size : Nat} (begun : Begun f f' size)
    (between : f.pendingWindow = 0) : f'.balance = f.balance := by
  unfold Frames.balance
  rw [begun.update, begun.peer, begun.pendingWindow, between]

theorem Begun.other {f f' : Frames World} {size : Nat} (peer : f'.peerSettings = f.peerSettings)
    (update : f'.initialWindowUpdate = f.initialWindowUpdate)
    (other : ∀ p, f'.parser ≠ .settings p) : Begun f f' size :=
  ⟨peer, update, fun p parser => absurd parser (other p)⟩

variable {header : FrameHeader}

theorem begun_initData (begun : f.initDataFrameParser host header = (none, f')) :
    Begun f f' size := by
  unfold initDataFrameParser at begun
  split at begun
  · cases begun
  · dsimp only at begun
    split at begun
    · cases begun
      exact Begun.other rfl rfl (by simp)
    · split_ifs at begun <;>
      · cases begun
        exact Begun.other rfl rfl (by simp)

theorem begun_initHeader {isContinuation : Bool}
    (begun : f.initHeaderFrameParser host header isContinuation = (none, f')) :
    Begun f f' size := by
  unfold initHeaderFrameParser at begun
  dsimp only at begun
  split at begun
  · cases begun
  · cases begun
    exact Begun.other rfl rfl (by simp)

theorem begun_initWindowUpdate (begun : f.initWindowUpdateFrameParser header = (none, f')) :
    Begun f f' size := by
  unfold initWindowUpdateFrameParser at begun
  split at begun
  · cases begun
  · split at begun <;>
    · cases begun
      exact Begun.other rfl rfl (by simp)

theorem begun_initPing (begun : f.initPingParser header = (none, f')) : Begun f f' size := by
  unfold initPingParser at begun
  split at begun
  · cases begun
  · cases begun
    exact Begun.other rfl rfl (by simp)

theorem begun_initRstStream (begun : f.initRstStreamParser header = (none, f')) :
    Begun f f' size := by
  unfold initRstStreamParser at begun
  split at begun
  · cases begun
  · split at begun <;>
    · cases begun
      exact Begun.other rfl rfl (by simp)

theorem begun_initGoaway (begun : f.initGoawayParser header = (none, f')) : Begun f f' size := by
  unfold initGoawayParser at begun
  split at begun
  · cases begun
  · cases begun
    exact Begun.other rfl rfl (by simp)

theorem beginFrame_start {settings : Settings} {length : Nat} {flags : UInt8}
    (begun : beginFrame settings length flags = .ok p) :
    p.incomingSettings = settings ∧ (p.isAck = false → (p.state.phase + length) % 6 = 0) := by
  unfold beginFrame at begun
  split_ifs at begun with ack empty flagged multiple
  · cases begun
    exact ⟨rfl, by simp⟩
  · cases begun
    simpa [SettingsParseState.phase] using multiple

theorem begun_initSettings (begun : f.initSettingsFrameParser header = (none, f')) :
    Begun f f' header.size := by
  unfold initSettingsFrameParser at begun
  split at begun
  · cases begun
  · split at begun
    · cases begun
    · rename_i p started
      have start := beginFrame_start started
      split_ifs at begun
      · have same : f.ackSettings.2.peerSettings = f.peerSettings ∧
            f.ackSettings.2.initialWindowUpdate = f.initialWindowUpdate := by
          unfold ackSettings
          split <;> exact ⟨rfl, rfl⟩
        obtain rfl := (Prod.mk.inj begun).2
        refine ⟨same.1, same.2, ?_⟩
        rintro q ⟨⟩
        exact start
      · cases begun
        refine ⟨rfl, rfl, ?_⟩
        rintro q ⟨⟩
        exact start

theorem begun_initFrameParser (begun : f.initFrameParser host header = (none, f')) :
    Begun f f' header.size := by
  unfold initFrameParser at begun
  dsimp only at begun
  have same : Begun f f' header.size ↔
      Begun { f with isFirstFrame := false } f' header.size :=
    ⟨fun b => ⟨b.peer, b.update, b.parser⟩, fun b => ⟨b.peer, b.update, b.parser⟩⟩
  rw [same]
  split_ifs at begun
  · cases begun
  · cases begun
  · cases begun
  · exact begun_initHeader begun
  · split at begun
    · exact begun_initData begun
    · exact begun_initHeader begun
    · cases begun
    · exact begun_initRstStream begun
    · exact begun_initSettings begun
    · exact begun_initWindowUpdate begun
    · exact begun_initPing begun
    · exact begun_initGoaway begun
    · cases begun
      exact Begun.other rfl rfl (by simp)

/-- What a slice does to the settings: the balance is kept, and at the end of the
frame nothing is pending. -/
structure Advanced (f f' : Frames World) (size : Nat) (slice : Bytes) (isLast : Bool) : Prop where
  balance : f'.balance = f.balance
  aligned : isLast = false → f'.Aligned (size - slice.length)
  ended : isLast = true → f'.pendingWindow = 0

theorem Advanced.other {f f' : Frames World} {size : Nat} {slice : Bytes} {isLast : Bool}
    (peer : f'.peerSettings = f.peerSettings)
    (update : f'.initialWindowUpdate = f.initialWindowUpdate)
    (other : ∀ p, f.parser ≠ .settings p) (other' : ∀ p, f'.parser ≠ .settings p) :
    Advanced f f' size slice isLast where
  balance := by
    unfold Frames.balance
    rw [peer, update, pendingWindow_other other, pendingWindow_other other']
  aligned _ p parser := absurd parser (other' p)
  ended _ := pendingWindow_other other'

theorem advanced_finishPayload {State Result : Type} {parser : State → FrameParser}
    {action : Result → FrameAction} {parsed : Except ControlError (State × Option Result)}
    (other : ∀ p, f.parser ≠ .settings p) (others : ∀ state p, parser state ≠ .settings p)
    (finished : f.finishPayload host parser action parsed = (none, f')) :
    Advanced f f' size slice isLast := by
  rcases parsed with error | ⟨state, _ | result⟩
  · cases finished
  · cases finished
    exact .other rfl rfl other (others state)
  · cases finished
    exact .other rfl rfl other (others state)

theorem advanced_settings (parser : f.parser = .settings p) (aligned : f.Aligned size)
    (fits : slice.length ≤ size) (last : isLast = true → slice.length = size)
    (parsed : f.parseSettings host p slice isLast = (none, f')) :
    Advanced f f' size slice isLast := by
  have law := aligned p parser
  have pending := pendingWindow_settings parser
  unfold parseSettings at parsed
  split at parsed
  · cases parsed
  · rename_i p' update read
    unfold parse at read
    split_ifs at read law with ack
    · cases read
      have commits : p.commits isLast = false := by simp [SettingsParser.commits, ack]
      rw [commits] at parsed
      cases parsed
      have idle : p.incomingSettings.initialWindowSize - f.peerSettings.initialWindowSize =
          (0 : Int) := pending.symm.trans law
      refine ⟨?_, ?_, fun _ => idle⟩
      · unfold balance
        rw [pending]
        rfl
      · rintro _ q ⟨⟩
        rw [if_pos ack]
        exact idle
    · have kept := isAck_readBytes f.flowControlEnabled p f.initialWindowUpdate slice
      rw [read] at kept
      have ack' : p'.isAck = false := kept.trans (by simpa using ack)
      obtain ⟨settled, phase⟩ := balance_readBytes read
      split_ifs at parsed with commits
      · cases parsed
        refine ⟨?_, ?_, ?_⟩
        · unfold balance
          rw [pending]
          simp only [perform, pendingWindow]
          omega
        · intro going
          simp [SettingsParser.commits, going] at commits
        · simp [perform, pendingWindow]
      · cases parsed
        refine ⟨?_, ?_, ?_⟩
        · unfold balance
          rw [pending]
          simp only [pendingWindow]
          omega
        · rintro _ q ⟨⟩
          rw [if_neg (by simp [ack']), phase]
          omega
        · intro ended
          -- the last byte of a frame that is a multiple of six completes a setting
          have whole : p'.state.phase = 0 := by
            rw [phase, last ended]
            exact law
          have start : p'.state = .id0 := by
            revert whole
            cases p'.state <;> simp [SettingsParseState.phase]
          simp [SettingsParser.commits, ended, start, ack'] at commits

theorem advanced_parseFrameSlice (aligned : f.Aligned size) (fits : slice.length ≤ size)
    (last : isLast = true → slice.length = size)
    (parsed : f.parseFrameSlice host slice isLast = (none, f')) :
    Advanced f f' size slice isLast := by
  unfold parseFrameSlice at parsed
  split at parsed
  case h_1 parser =>
      cases parsed
      exact .other rfl rfl (by simp [parser]) (by simp [parser])
  case h_2 parser =>
      split at parsed
      · cases parsed
      · cases parsed
        unfold endHeaders
        split <;> exact .other rfl rfl (by simp [parser]) (by simp [parser, perform])
  case h_3 parser =>
      cases parsed
      split_ifs <;> exact .other rfl rfl (by simp [parser]) (by simp [parser, perform])
  case h_4 parser => exact advanced_settings parser aligned fits last parsed
  all_goals
    rename_i parser
    exact advanced_finishPayload (by simp [parser]) (by simp) parsed

end Frames

namespace Deframer

variable {World : Type} {host : Host World}

/-- Inside a frame its parser is in step with the bytes still to come, and between
frames nothing is pending. -/
structure Aligned (d : Deframer World) : Prop where
  inFrame : d.deframeState = .frame → 0 < d.incomingFrameSize ∧ d.frames.Aligned d.incomingFrameSize
  between : d.deframeState ≠ .frame → d.frames.pendingWindow = 0

variable {d : Deframer World}

theorem aligned_endFrame (ended : d.frames.pendingWindow = 0) :
    d.endFrame.Aligned ∧ d.endFrame.frames.balance = d.frames.balance :=
  ⟨⟨by simp [endFrame], fun _ => ended⟩, rfl⟩

variable {d' : Deframer World}

theorem advanced_slice (aligned : d.frames.Aligned size) (fits : slice.length ≤ size)
    (last : isLast = true → slice.length = size)
    (parsed : d.parseFrameSlice host slice isLast = (none, d')) :
    d.frames.Advanced d'.frames size slice isLast ∧ d'.deframeState = d.deframeState := by
  have succeeded : (d.frames.parseFrameSlice host slice isLast).1 = none :=
    congrArg Prod.fst parsed
  obtain rfl : { d with
      frames := (d.frames.parseFrameSlice host slice isLast).2
      calls := notePayload d.calls slice isLast } = d' := congrArg Prod.snd parsed
  exact ⟨Frames.advanced_parseFrameSlice aligned fits last (Prod.ext succeeded rfl), rfl⟩

variable {rest rest' : Bytes}

theorem aligned_startFrame (inFrame : d.deframeState = .frame)
    (between : d.frames.pendingWindow = 0) (taken : d.startFrame host rest = .took d' rest') :
    d'.Aligned ∧ d'.frames.balance = d.frames.balance := by
  unfold startFrame at taken
  split at taken
  · cases taken
  · rename_i started initialised
    have succeeded : (d.frames.initFrameParser host d.incomingHeader).1 = none :=
      congrArg Prod.fst initialised
    obtain rfl : { d with
        frames := (d.frames.initFrameParser host d.incomingHeader).2
        calls := { header := some d.incomingHeader } :: d.calls } = started :=
      congrArg Prod.snd initialised
    have begun : d.frames.Begun (d.frames.initFrameParser host d.incomingHeader).2
        d.incomingFrameSize := Frames.begun_initFrameParser (Prod.ext succeeded rfl)
    split_ifs at taken with empty large
    · split at taken
      · cases taken
      · rename_i ended parsed
        cases taken
        have nothing : ([] : Bytes).length = d.incomingFrameSize := empty.symm
        obtain ⟨advanced, _⟩ := advanced_slice begun.aligned (Nat.le_of_eq nothing)
          (fun _ => nothing) parsed
        obtain ⟨aligned, balance⟩ := aligned_endFrame (advanced.ended rfl)
        exact ⟨aligned, balance.trans (advanced.balance.trans (begun.balance between))⟩
    · cases taken
      refine ⟨⟨fun _ => ⟨Nat.pos_of_ne_zero empty, begun.aligned⟩, ?_⟩, begun.balance between⟩
      intro outside
      exact absurd inFrame outside

theorem aligned_readPayload (inFrame : d.deframeState = .frame) (aligned : d.Aligned)
    (short : slice.length < 4294967296) (taken : d.readPayload host slice = .took d' rest) :
    (d'.Aligned ∧ d'.frames.balance = d.frames.balance) ∧ rest.length ≤ slice.length - 1 := by
  obtain ⟨positive, law⟩ := aligned.inFrame inFrame
  obtain ⟨next, parsed, others⟩ := readPayload_took short taken
  obtain ⟨advanced, state⟩ := advanced_slice law
    (by rw [List.length_take]; exact Nat.min_le_left _ _)
    (by
      intro complete
      rw [List.length_take]
      exact Nat.min_eq_left (by simpa using complete)) parsed
  rcases others with ⟨complete, rfl, rfl⟩ | ⟨less, rfl, rfl⟩
  · obtain ⟨aligned', balance⟩ := aligned_endFrame (advanced.ended (by simpa using complete))
    refine ⟨⟨aligned', balance.trans advanced.balance⟩, ?_⟩
    rw [List.length_drop]
    omega
  · have partly := advanced.aligned (by simpa using less)
    rw [List.take_of_length_le (Nat.le_of_lt less)] at partly
    refine ⟨⟨⟨fun _ => ⟨Nat.sub_pos_of_lt less, partly⟩, ?_⟩, advanced.balance⟩, Nat.zero_le _⟩
    intro outside
    exact absurd (state.trans inFrame) outside

theorem aligned_step {cur : UInt8} (aligned : d.Aligned) (short : rest.length + 1 < 4294967296)
    (taken : d.step host (cur :: rest) = .took d' rest') :
    (d'.Aligned ∧ d'.frames.balance = d.frames.balance) ∧ rest'.length ≤ rest.length := by
  cases state : d.deframeState with
  | clientPrefix i =>
    simp only [step, state] at taken
    split at taken
    · cases taken
    · cases taken
      refine ⟨⟨⟨?_, fun _ => aligned.between (by simp [state])⟩, rfl⟩, Nat.le_refl _⟩
      unfold nextPrefix
      split <;> simp
  | fh0 | fh1 | fh2 | fh3 | fh4 | fh5 | fh6 | fh7 =>
    simp only [step, state] at taken
    cases taken
    exact ⟨⟨⟨by simp, fun _ => aligned.between (by simp [state])⟩, rfl⟩, Nat.le_refl _⟩
  | fh8 =>
    simp only [step, state] at taken
    have between : d.frames.pendingWindow = 0 := aligned.between (by simp [state])
    obtain rfl := shrinks_startFrame taken
    refine ⟨?_, Nat.le_refl _⟩
    exact aligned_startFrame (d := { d with
      deframeState := .frame
      incomingStreamId := d.incomingStreamId ||| cur.toNat }) rfl between taken
  | frame =>
    simp only [step, state] at taken
    exact aligned_readPayload state aligned (by simpa using short) taken

theorem aligned_performRead (aligned : d.Aligned) (short : slice.length < 4294967296)
    (succeeded : (d.performRead host slice).1 = none) :
    (d.performRead host slice).2.Aligned ∧
      (d.performRead host slice).2.frames.balance = d.frames.balance := by
  apply read_success (fun d' : Deframer World =>
    d'.Aligned ∧ d'.frames.balance = d.frames.balance) ?_ ⟨aligned, rfl⟩ short
    (Prod.ext succeeded rfl)
  intro d' cur rest d'' rest' holds short taken
  obtain ⟨⟨aligned', balance⟩, shorter⟩ := aligned_step holds.1 short taken
  exact ⟨⟨aligned', balance.trans holds.2⟩, shorter⟩

end Deframer

end GrpcCore.Transport
