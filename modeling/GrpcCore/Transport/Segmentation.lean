import GrpcCore.Transport.Deframer

/-!
# Segmentation invariance

How the bytes of a connection are cut into slices makes no difference to the
calls the deframer makes, nor to what the parsers of its frames do with them.
-/

namespace GrpcCore.Transport

open Hpack Segments Taken FrameCalls

variable {slice : Bytes} {slices : List Bytes}

namespace Frames

variable {World : Type} {host : Host World}

variable {header : FrameHeader} {f f' : Frames World} {size : Nat}

theorem fits_initData (begun : f.initDataFrameParser host header = (none, f')) :
    f'.parser.Fits size := by
  unfold initDataFrameParser at begun
  split at begun
  · cases begun
  · dsimp only at begun
    split at begun
    · cases begun
      trivial
    · split at begun
      · cases begun
        trivial
      · split at begun
        · cases begun
          trivial
        · cases begun
          trivial

theorem fits_initHeader {isContinuation : Bool}
    (begun : f.initHeaderFrameParser host header isContinuation = (none, f')) :
    f'.parser.Fits size := by
  unfold initHeaderFrameParser at begun
  dsimp only at begun
  split at begun
  · cases begun
  · cases begun
    trivial

theorem fits_initSettings (begun : f.initSettingsFrameParser header = (none, f')) :
    f'.parser.Fits size := by
  unfold initSettingsFrameParser at begun
  split at begun
  · cases begun
  · split at begun
    · cases begun
    · have after := congrArg Prod.snd begun
      dsimp only at after
      rw [← after]
      trivial

theorem fits_initWindowUpdate (begun : f.initWindowUpdateFrameParser header = (none, f')) :
    f'.parser.Fits header.size := by
  unfold initWindowUpdateFrameParser WindowUpdateParser.beginFrame at begun
  by_cases invalid : header.flags ≠ 0 ∨ header.size ≠ 4
  · simp [if_pos invalid] at begun
  · simp only [if_neg invalid] at begun
    have four : header.size = 4 := by
      by_contra other
      exact invalid (.inr other)
    split at begun
    · cases begun
      trivial
    · cases begun
      simp [FrameParser.Fits, four]

theorem fits_initPing (begun : f.initPingParser header = (none, f')) :
    f'.parser.Fits header.size := by
  unfold initPingParser PingParser.beginFrame at begun
  by_cases invalid : header.flags &&& 0xfe ≠ 0 ∨ header.size ≠ 8
  · simp [if_pos invalid] at begun
  · simp only [if_neg invalid] at begun
    have eight : header.size = 8 := by
      by_contra other
      exact invalid (.inr other)
    cases begun
    simp [FrameParser.Fits, eight]

theorem fits_initRstStream (begun : f.initRstStreamParser header = (none, f')) :
    f'.parser.Fits header.size := by
  unfold initRstStreamParser RstStreamParser.beginFrame at begun
  by_cases invalid : header.size ≠ 4
  · simp [if_pos invalid] at begun
  · simp only [if_neg invalid] at begun
    split at begun
    · cases begun
      trivial
    · cases begun
      simp [FrameParser.Fits, not_not.mp invalid]

theorem fits_initGoaway (small : header.size < 16777216)
    (begun : f.initGoawayParser header = (none, f')) : f'.parser.Fits header.size := by
  unfold initGoawayParser GoawayParser.beginFrame at begun
  by_cases invalid : header.size < 8
  · simp [if_pos invalid] at begun
  · simp only [if_neg invalid] at begun
    cases begun
    have length : 8 + (header.size - 8) = header.size := by omega
    refine ⟨Nat.zero_le 8, fun _ => rfl, ?_, ?_⟩
    · simp [GoawayParser.consumed, length]
    · rw [length]
      exact small

theorem fits_initFrameParser (small : header.size < 16777216)
    (begun : f.initFrameParser host header = (none, f')) : f'.parser.Fits header.size := by
  unfold initFrameParser at begun
  split at begun
  · cases begun
  · dsimp only at begun
    split at begun
    · split at begun
      · cases begun
      · split at begun
        · cases begun
        · exact fits_initHeader begun
    · split at begun
      · exact fits_initData begun
      · exact fits_initHeader begun
      · cases begun
      · exact fits_initRstStream begun
      · exact fits_initSettings begun
      · exact fits_initWindowUpdate begun
      · exact fits_initPing begun
      · exact fits_initGoaway small begun
      · cases begun
        trivial

/-- The slices of one payload, the last of which is announced. -/
def parseSlices (host : Host World) : Frames World → Bytes → List Bytes →
    Option FrameError × Frames World
  | f, slice, [] => f.parseFrameSlice host slice true
  | f, slice, next :: slices =>
    match f.parseFrameSlice host slice false with
    | (none, f) => parseSlices host f next slices
    | (some error, f) => (some error, f)

theorem parseSlices_agrees (fits : f.parser.Fits size) (nonempty : ∀ piece ∈ slices, piece ≠ [])
    (length : (slice :: slices).flatten.length = size) :
    Agrees (fun _ _ => True) (parseSlices host f slice slices)
      (f.parseFrameSlice host (slice :: slices).flatten true) := by
  induction slices generalizing f slice size with
  | nil =>
    rw [List.flatten_cons, List.flatten_nil, List.append_nil]
    exact Agrees.refl (fun _ => trivial) _
  | cons next slices ih =>
    rw [List.flatten_cons, List.length_append] at length
    have more : 0 < (next :: slices).flatten.length := by
      rw [List.flatten_cons, List.length_append]
      exact Nat.add_pos_left (List.length_pos_iff.mpr (nonempty next (by simp))) _
    have law : f.SliceLaw host size := sliceLaw fits
    obtain ⟨parts, kept⟩ := law slice (next :: slices).flatten true (by omega)
      (by rw [List.length_append]; omega)
    simp only [parseSlices]
    rcases first : f.parseFrameSlice host slice false with ⟨_ | error, f'⟩
    · rw [first] at parts
      have rest := ih (kept f' first) (fun piece membership =>
        nonempty piece (List.mem_cons_of_mem _ membership))
        (show (next :: slices).flatten.length = size - slice.length by omega)
      exact Agrees.trans (fun _ _ _ _ _ => trivial) rest parts
    · rw [first] at parts
      exact parts

end Frames

/-- The calls for a frame that is over: its parser was handed as many bytes as the
header said and was told once that they were the last. -/
structure FrameCalls.Complete (call : FrameCalls) : Prop where
  once : call.lastSlices = 1
  sized : ∀ header, call.header = some header → call.payload.length = header.size

namespace Deframer

variable {World : Type} {host : Host World}

/-- A frame size has 24 bits, and inside a frame the parser expects exactly the
bytes still to come. -/
structure WellFormed (d : Deframer World) : Prop where
  small : d.incomingFrameSize < 16777216
  inFrame : d.deframeState = .frame →
    0 < d.incomingFrameSize ∧ d.frames.parser.Fits d.incomingFrameSize

/-- Two reads that stopped with the same error: in the same frame, with the same
calls before it, and the first not further into the frame than the second. -/
structure StoppedAlike (d d' : Deframer World) : Prop where
  deframeState : d.deframeState = d'.deframeState
  type : d.incomingFrameType = d'.incomingFrameType
  flags : d.incomingFrameFlags = d'.incomingFrameFlags
  streamId : d.incomingStreamId = d'.incomingStreamId
  earlier : d.calls.tail = d'.calls.tail
  headers : d.calls.map FrameCalls.header = d'.calls.map FrameCalls.header
  payload : (d.calls.head?.map FrameCalls.payload).getD [] <+:
    (d'.calls.head?.map FrameCalls.payload).getD []

theorem StoppedAlike.refl (d : Deframer World) : StoppedAlike d d :=
  ⟨rfl, rfl, rfl, rfl, rfl, rfl, List.prefix_refl _⟩

theorem StoppedAlike.trans (d d' d'' : Deframer World) (first : StoppedAlike d d')
    (second : StoppedAlike d' d'') : StoppedAlike d d'' :=
  ⟨first.deframeState.trans second.deframeState, first.type.trans second.type,
    first.flags.trans second.flags, first.streamId.trans second.streamId,
    first.earlier.trans second.earlier, first.headers.trans second.headers,
    first.payload.trans second.payload⟩

theorem readPayload_eq (d : Deframer World) (short : slice.length < 4294967296) :
    d.readPayload host slice =
      match d.parseFrameSlice host (slice.take d.incomingFrameSize)
          (decide (d.incomingFrameSize ≤ slice.length)) with
      | (some error, d') => .failed error d'
      | (none, d') =>
        if d.incomingFrameSize ≤ slice.length then
          .took d'.endFrame (slice.drop d.incomingFrameSize)
        else
          .took { d' with incomingFrameSize := d.incomingFrameSize - slice.length } [] := by
  unfold readPayload
  rw [Nat.mod_eq_of_lt short]
  rcases Nat.lt_trichotomy slice.length d.incomingFrameSize with less | equal | more
  · have notAll : ¬ d.incomingFrameSize ≤ slice.length := by omega
    simp only [if_neg (show ¬ slice.length = d.incomingFrameSize by omega),
      if_neg (show ¬ slice.length > d.incomingFrameSize by omega),
      List.take_of_length_le (Nat.le_of_lt less), notAll, decide_false, if_false]
    unfold parseFrameSlice
    rcases d.frames.parseFrameSlice host slice false with ⟨_ | error, frames⟩ <;> rfl
  · have all : d.incomingFrameSize ≤ slice.length := by omega
    rcases parsed : d.parseFrameSlice host slice true with ⟨_ | error, d'⟩ <;>
      simp only [if_pos equal, List.take_of_length_le (Nat.le_of_eq equal), all, decide_true,
        if_true, List.drop_of_length_le (Nat.le_of_eq equal), parsed]
  · have all : d.incomingFrameSize ≤ slice.length := by omega
    rcases parsed : d.parseFrameSlice host (slice.take d.incomingFrameSize) true with
      ⟨_ | error, d'⟩ <;>
      simp only [if_neg (show ¬ slice.length = d.incomingFrameSize by omega), if_pos more, all,
        decide_true, if_true, parsed]

/-- What a payload step does that goes on: the frame ends, or all of the slice belongs to it. -/
theorem readPayload_took {d d' : Deframer World} (short : slice.length < 4294967296)
    (taken : d.readPayload host slice = .took d' rest) :
    ∃ next, d.parseFrameSlice host (slice.take d.incomingFrameSize)
        (decide (d.incomingFrameSize ≤ slice.length)) = (none, next) ∧
      (d.incomingFrameSize ≤ slice.length ∧ d' = next.endFrame ∧
          rest = slice.drop d.incomingFrameSize ∨
        slice.length < d.incomingFrameSize ∧
          d' = { next with incomingFrameSize := d.incomingFrameSize - slice.length } ∧
          rest = []) := by
  rw [readPayload_eq d short] at taken
  split at taken
  · cases taken
  · rename_i next parsed
    refine ⟨next, parsed, ?_⟩
    split_ifs at taken with all
    · cases taken
      exact .inl ⟨all, rfl, rfl⟩
    · cases taken
      exact .inr ⟨Nat.lt_of_not_le all, rfl, rfl⟩

theorem fields_parseFrameSlice (d : Deframer World) (slice : Bytes) (isLast : Bool) :
    (d.parseFrameSlice host slice isLast).2 =
      { d with
        frames := (d.frames.parseFrameSlice host slice isLast).2
        calls := notePayload d.calls slice isLast } := rfl

variable {d : Deframer World}

theorem wellFormed_endFrame (small : d.incomingFrameSize < 16777216) :
    d.endFrame.WellFormed := ⟨small, by simp [endFrame]⟩

variable {d' : Deframer World} {rest' rest : Bytes}

theorem shrinks_startFrame (taken : d.startFrame host rest = .took d' rest') : rest' = rest := by
  unfold startFrame at taken
  split at taken
  · cases taken
  · split at taken
    · split at taken
      · cases taken
      · cases taken
        rfl
    · split at taken
      · cases taken
      · cases taken
        rfl

theorem wellFormed_startFrame (small : d.incomingFrameSize < 16777216)
    (taken : d.startFrame host rest = .took d' rest') : d'.WellFormed := by
  unfold startFrame at taken
  split at taken
  · cases taken
  · rename_i begun started
    have after : (d.initFrameParser host).2 = begun := by rw [started]
    have frames : d.frames.initFrameParser host d.incomingHeader = (none, begun.frames) := by
      have succeeded : (d.frames.initFrameParser host d.incomingHeader).1 = none :=
        congrArg Prod.fst started
      rw [← after]
      exact Prod.ext succeeded rfl
    have size : begun.incomingFrameSize = d.incomingFrameSize := by
      rw [← after]
      rfl
    split at taken
    · split at taken
      · cases taken
      · rename_i ended parsed
        cases taken
        apply wellFormed_endFrame
        have after' : (begun.parseFrameSlice host [] true).2 = ended := by rw [parsed]
        rw [← after', fields_parseFrameSlice]
        exact size ▸ small
    · rename_i nonempty
      split at taken
      · cases taken
      · cases taken
        refine ⟨size ▸ small, fun _ => ⟨Nat.pos_of_ne_zero nonempty, ?_⟩⟩
        rw [size]
        exact Frames.fits_initFrameParser small frames

theorem shift_lt {n shift : Nat} (cur : UInt8) (small : n < 2 ^ 24) (room : shift ≤ 16) :
    n ||| cur.toNat <<< shift < 2 ^ 24 := by
  apply Nat.or_lt_two_pow small
  rw [Nat.shiftLeft_eq]
  calc cur.toNat * 2 ^ shift < 2 ^ 8 * 2 ^ shift :=
        Nat.mul_lt_mul_of_pos_right cur.toNat_lt (Nat.two_pow_pos shift)
    _ = 2 ^ (8 + shift) := by rw [Nat.pow_add]
    _ ≤ 2 ^ 24 := Nat.pow_le_pow_right (by decide) (by omega)

theorem size_cases {n : Nat} (cur : UInt8) (small : n < 16777216) :
    cur.toNat <<< 16 < 16777216 ∧ n ||| cur.toNat <<< 8 < 16777216 ∧
      n ||| cur.toNat < 16777216 := by
  have first : 0 ||| cur.toNat <<< 16 < 2 ^ 24 := shift_lt cur (by decide) (by decide)
  have second : n ||| cur.toNat <<< 8 < 2 ^ 24 := shift_lt cur small (by decide)
  have third : n ||| cur.toNat <<< 0 < 2 ^ 24 := shift_lt cur small (by decide)
  rw [Nat.zero_or] at first
  exact ⟨first, second, third⟩

theorem wellFormed_readPayload (wellFormed : d.WellFormed) (inFrame : d.deframeState = .frame)
    (short : slice.length < 4294967296) (taken : d.readPayload host slice = .took d' rest') :
    d'.WellFormed := by
  have small := wellFormed.small
  obtain ⟨positive, fits⟩ := wellFormed.inFrame inFrame
  obtain ⟨next, parsed, others⟩ := readPayload_took short taken
  obtain rfl := congrArg Prod.snd parsed
  rcases others with ⟨all, rfl, -⟩ | ⟨less, rfl, -⟩
  · exact wellFormed_endFrame small
  · rw [List.take_of_length_le (Nat.le_of_lt less), decide_eq_false (Nat.not_le_of_lt less)]
      at parsed ⊢
    have frames : d.frames.parseFrameSlice host slice false = (none, _) :=
      Prod.ext (show (d.parseFrameSlice host slice false).1 = none by rw [parsed]) rfl
    have law : d.frames.SliceLaw host d.incomingFrameSize := Frames.sliceLaw fits
    have kept := (law slice [] true (by omega) (by simp only [List.append_nil]; omega)).2 _
      frames
    exact ⟨by dsimp only; omega, fun _ => ⟨by dsimp only; omega, kept⟩⟩

variable {cur : UInt8}

theorem wellFormed_step (wellFormed : d.WellFormed) (short : rest.length + 1 < 4294967296)
    (taken : d.step host (cur :: rest) = .took d' rest') : d'.WellFormed := by
  obtain ⟨first, second, third⟩ := size_cases cur wellFormed.small
  cases state : d.deframeState with
  | clientPrefix =>
    simp only [step, state] at taken
    split at taken
    · cases taken
    · cases taken
      refine ⟨wellFormed.small, ?_⟩
      unfold nextPrefix
      split <;> simp
  | fh0 =>
    simp only [step, state] at taken
    cases taken
    exact ⟨first, by simp⟩
  | fh1 =>
    simp only [step, state] at taken
    cases taken
    exact ⟨second, by simp⟩
  | fh2 =>
    simp only [step, state] at taken
    cases taken
    exact ⟨third, by simp⟩
  | fh3 | fh4 | fh5 | fh6 | fh7 =>
    simp only [step, state] at taken
    cases taken
    exact ⟨wellFormed.small, by simp⟩
  | fh8 =>
    simp only [step, state] at taken
    refine wellFormed_startFrame ?_ taken
    exact wellFormed.small
  | frame =>
    simp only [step, state] at taken
    exact wellFormed_readPayload wellFormed state (by simpa using short) taken

theorem step_shrinks (wellFormed : d.WellFormed)
    (taken : d.step host (cur :: rest) = .took d' rest') : rest'.length ≤ rest.length := by
  cases state : d.deframeState with
  | clientPrefix =>
    simp only [step, state] at taken
    split at taken
    · cases taken
    · cases taken
      exact Nat.le_refl _
  | fh0 | fh1 | fh2 | fh3 | fh4 | fh5 | fh6 | fh7 =>
    simp only [step, state] at taken
    cases taken
    exact Nat.le_refl _
  | fh8 =>
    simp only [step, state] at taken
    exact Nat.le_of_eq (congrArg List.length (shrinks_startFrame taken))
  | frame =>
    have positive := (wellFormed.inFrame state).1
    simp only [step, state, readPayload] at taken
    split at taken
    · split at taken
      · cases taken
      · cases taken
        exact Nat.zero_le _
    · split at taken
      · split at taken
        · cases taken
        · cases taken
          simp only [List.length_drop, List.length_cons]
          omega
      · split at taken
        · cases taken
        · cases taken
          exact Nat.zero_le _

variable (calls : List FrameCalls)

theorem notePayload_append (slice more : Bytes) (isLast : Bool) :
    notePayload (notePayload calls slice false) more isLast =
      notePayload calls (slice ++ more) isLast := by
  cases calls with
  | nil => simp [notePayload]
  | cons => simp [notePayload]

variable {more : Bytes}

theorem notePayload_prefix (isLast isLast' : Bool) (longer : slice <+: more) :
    (notePayload calls slice isLast).tail = (notePayload calls more isLast').tail ∧
      (notePayload calls slice isLast).map header =
        (notePayload calls more isLast').map header ∧
      ((notePayload calls slice isLast).head?.map payload).getD [] <+:
        ((notePayload calls more isLast').head?.map payload).getD [] := by
  cases calls with
  | nil => simpa [notePayload] using longer
  | cons =>
    simpa [notePayload] using longer

/-- Between frames the size of the last one is left over and never read. -/
def forgetSize (d : Deframer World) : Deframer World :=
  if d.deframeState = .fh0 then { d with incomingFrameSize := 0 } else d

theorem step_forgetSize (d : Deframer World) (cur : UInt8) (rest : Bytes) :
    d.forgetSize.step host (cur :: rest) = d.step host (cur :: rest) := by
  unfold forgetSize
  split
  · rename_i idle
    simp only [step, idle]
  · rfl

theorem StoppedAlike.forgetSize {d d' : Deframer World} (alike : StoppedAlike d d') :
    StoppedAlike d.forgetSize d'.forgetSize := by
  have fields : ∀ d : Deframer World, d.forgetSize.deframeState = d.deframeState ∧
      d.forgetSize.incomingFrameType = d.incomingFrameType ∧
      d.forgetSize.incomingFrameFlags = d.incomingFrameFlags ∧
      d.forgetSize.incomingStreamId = d.incomingStreamId ∧ d.forgetSize.calls = d.calls := by
    intro d
    unfold Deframer.forgetSize
    split <;> exact ⟨rfl, rfl, rfl, rfl, rfl⟩
  obtain ⟨state, type, flags, id, calls⟩ := fields d
  obtain ⟨state', type', flags', id', calls'⟩ := fields d'
  refine ⟨?_, ?_, ?_, ?_, ?_, ?_, ?_⟩
  · rw [state, state', alike.deframeState]
  · rw [type, type', alike.type]
  · rw [flags, flags', alike.flags]
  · rw [id, id', alike.streamId]
  · rw [calls, calls', alike.earlier]
  · rw [calls, calls', alike.headers]
  · rw [calls, calls']
    exact alike.payload

theorem readPayload_continue (host : Host World) (wellFormed : d.WellFormed)
    (inFrame : d.deframeState = .frame) (short : (slice ++ more).length < 4294967296)
    (inside : slice.length < d.incomingFrameSize) :
    match d.readPayload host slice with
    | .took d' rest => rest = [] ∧ d'.deframeState = .frame ∧
        ((d'.readPayload host more).map forgetSize).Agrees StoppedAlike
          ((d.readPayload host (slice ++ more)).map forgetSize)
    | .failed error d' =>
      ∃ d'', d.readPayload host (slice ++ more) = .failed error d'' ∧ StoppedAlike d' d'' := by
  obtain ⟨-, fits⟩ := wellFormed.inFrame inFrame
  have law : d.frames.SliceLaw host d.incomingFrameSize := Frames.sliceLaw fits
  simp only [List.length_append] at short
  have notAll : ¬ d.incomingFrameSize ≤ slice.length := by omega
  have wholeTake : (slice ++ more).take d.incomingFrameSize =
      slice ++ more.take (d.incomingFrameSize - slice.length) := by
    rw [List.take_append, List.take_of_length_le (Nat.le_of_lt inside)]
  have wholeDrop : (slice ++ more).drop d.incomingFrameSize =
      more.drop (d.incomingFrameSize - slice.length) := by
    rw [List.drop_append, List.drop_of_length_le (Nat.le_of_lt inside), List.nil_append]
  have wholeLast : decide (d.incomingFrameSize ≤ (slice ++ more).length) =
      decide (d.incomingFrameSize - slice.length ≤ more.length) := by
    simp only [List.length_append]
    congr 1
    apply propext
    omega
  have parts := (law slice (more.take (d.incomingFrameSize - slice.length))
    (decide (d.incomingFrameSize - slice.length ≤ more.length)) inside
    (by simp only [List.length_append, List.length_take]; omega)).1
  rw [readPayload_eq d (show slice.length < 4294967296 by omega),
    readPayload_eq d (show (slice ++ more).length < 4294967296 by
      simp only [List.length_append]; omega)]
  simp only [wholeTake, wholeDrop, wholeLast, List.take_of_length_le (Nat.le_of_lt inside),
    decide_eq_false notAll, if_neg notAll, parseFrameSlice]
  rcases first : d.frames.parseFrameSlice host slice false with ⟨_ | error, frames⟩
  · rw [first] at parts
    refine ⟨rfl, inFrame, ?_⟩
    rw [readPayload_eq _ (show more.length < 4294967296 by omega)]
    simp only [parseFrameSlice, notePayload_append]
    simp only [Frames.thenSlice] at parts
    rcases second : frames.parseFrameSlice host
      (more.take (d.incomingFrameSize - slice.length))
      (decide (d.incomingFrameSize - slice.length ≤ more.length)) with ⟨_ | error, frames'⟩
    · rw [second] at parts
      rw [show d.frames.parseFrameSlice host
        (slice ++ more.take (d.incomingFrameSize - slice.length))
        (decide (d.incomingFrameSize - slice.length ≤ more.length)) = (none, frames') from parts]
      by_cases all : d.incomingFrameSize - slice.length ≤ more.length
      · have all' : d.incomingFrameSize ≤ (slice ++ more).length := by
          simp only [List.length_append]
          omega
        simp only [if_pos all, if_pos all']
        rfl
      · have notAll' : ¬ d.incomingFrameSize ≤ (slice ++ more).length := by
          simp only [List.length_append]
          omega
        simp only [if_neg all, if_neg notAll']
        simp only [List.length_append, Nat.sub_add_eq]
        rfl
    · rw [second] at parts
      obtain ⟨frames'', whole, -⟩ := parts
      rw [whole]
      refine ⟨_, rfl, StoppedAlike.forgetSize ?_⟩
      exact ⟨rfl, rfl, rfl, rfl, rfl, rfl, List.prefix_refl _⟩
  · rw [first] at parts
    obtain ⟨frames', whole, -⟩ := parts
    rw [whole]
    obtain ⟨earlier, headers, payload⟩ := notePayload_prefix d.calls false
      (decide (d.incomingFrameSize - slice.length ≤ more.length))
      (List.prefix_append slice (more.take (d.incomingFrameSize - slice.length)))
    exact ⟨_, rfl, rfl, rfl, rfl, rfl, earlier, headers, payload⟩

theorem readPayload_complete (host : Host World) (short : (slice ++ more).length < 4294967296)
    (reaches : d.incomingFrameSize ≤ slice.length) :
    match d.readPayload host slice with
    | .took d' rest => d.readPayload host (slice ++ more) = .took d' (rest ++ more)
    | .failed error d' =>
      ∃ d'', d.readPayload host (slice ++ more) = .failed error d'' ∧ StoppedAlike d' d'' := by
  simp only [List.length_append] at short
  have reaches' : d.incomingFrameSize ≤ (slice ++ more).length := by
    simp only [List.length_append]
    omega
  rw [readPayload_eq d (show slice.length < 4294967296 by omega),
    readPayload_eq d (show (slice ++ more).length < 4294967296 by
      simp only [List.length_append]; omega)]
  simp only [if_pos reaches, if_pos reaches', decide_eq_true reaches, decide_eq_true reaches',
    List.take_append_of_le_length reaches, List.drop_append_of_le_length reaches]
  rcases d.parseFrameSlice host (slice.take d.incomingFrameSize) true with ⟨_ | error, d'⟩
  · rfl
  · exact ⟨d', rfl, StoppedAlike.refl d'⟩

theorem startFrame_append (host : Host World) (d : Deframer World) (rest more : Bytes) :
    match d.startFrame host rest with
    | .took d' rest' => d.startFrame host (rest ++ more) = .took d' (rest' ++ more)
    | .failed error d' => d.startFrame host (rest ++ more) = .failed error d' := by
  unfold startFrame
  rcases d.initFrameParser host with ⟨_ | error, begun⟩
  · by_cases empty : begun.incomingFrameSize = 0
    · simp only [if_pos empty]
      rcases begun.parseFrameSlice host [] true with ⟨_ | error, ended⟩ <;> rfl
    · simp only [if_neg empty]
      by_cases large : begun.frames.flowControlEnabled ∧
          begun.incomingFrameSize > begun.frames.ackedSettings.maxFrameSize
      · simp only [if_pos large]
      · simp only [if_neg large]
  · rfl

theorem step_cut (host : Host World) (wellFormed : d.WellFormed) (nonempty : slice ≠ [])
    (nonempty' : more ≠ []) (short : (slice ++ more).length < 4294967296) :
    match d.step host slice with
    | .took d' rest =>
      d.step host (slice ++ more) = .took d' (rest ++ more) ∨
        rest = [] ∧ ((d'.step host more).map forgetSize).Agrees StoppedAlike
          ((d.step host (slice ++ more)).map forgetSize)
    | .failed error d' =>
      ∃ d'', d.step host (slice ++ more) = .failed error d'' ∧ StoppedAlike d' d'' := by
  obtain ⟨cur, rest, rfl⟩ := List.exists_cons_of_ne_nil nonempty
  obtain ⟨next, more, rfl⟩ := List.exists_cons_of_ne_nil nonempty'
  cases state : d.deframeState with
  | clientPrefix i =>
    simp only [List.cons_append, step, state]
    by_cases mismatch : cur ≠ clientConnectString.getD i 0
    · simp only [if_pos mismatch]
      exact ⟨d, rfl, StoppedAlike.refl d⟩
    · simp only [if_neg mismatch]
      exact .inl trivial
  | fh0 | fh1 | fh2 | fh3 | fh4 | fh5 | fh6 | fh7 =>
    simp only [List.cons_append, step, state]
    exact .inl trivial
  | fh8 =>
    simp only [List.cons_append, step, state]
    have parts := startFrame_append host { d with
      incomingStreamId := d.incomingStreamId ||| cur.toNat
      deframeState := .frame } rest (next :: more)
    revert parts
    generalize startFrame host { d with
      incomingStreamId := d.incomingStreamId ||| cur.toNat
      deframeState := .frame } rest = taken
    cases taken with
    | took => exact .inl
    | failed error d' => exact fun parts => ⟨d', parts, StoppedAlike.refl d'⟩
  | frame =>
    by_cases reaches : d.incomingFrameSize ≤ (cur :: rest).length
    · have parts := readPayload_complete host short reaches
      simp only [List.cons_append, step, state] at parts ⊢
      revert parts
      generalize d.readPayload host (cur :: rest) = taken
      cases taken with
      | took => exact .inl
      | failed => exact id
    · have parts := readPayload_continue host wellFormed state short
        (Nat.not_le.mp reaches)
      simp only [List.cons_append, step, state] at parts ⊢
      revert parts
      generalize d.readPayload host (cur :: rest) = taken
      cases taken with
      | took =>
        rintro ⟨ends, state', agrees⟩
        simp only [state']
        exact .inr ⟨ends, agrees⟩
      | failed => exact id

theorem wellFormed_forgetSize (wellFormed : d.WellFormed) : d.forgetSize.WellFormed := by
  unfold forgetSize
  split
  · rename_i idle
    exact ⟨by simp, by simp [idle]⟩
  · exact wellFormed

theorem cuttable (host : Host World) :
    Cuttable (fun d slice => (step host d slice).map forgetSize) WellFormed StoppedAlike
      4294967296 where
  shrinks := by
    intro d cur rest d' rest' wellFormed taken
    cases stepped : d.step host (cur :: rest) with
    | failed => simp [stepped, map] at taken
    | took =>
      simp only [stepped, map, Taken.took.injEq] at taken
      rw [← taken.2]
      exact step_shrinks wellFormed stepped
  keeps := by
    intro d cur rest d' rest' wellFormed short taken
    cases stepped : d.step host (cur :: rest) with
    | failed => simp [stepped, map] at taken
    | took =>
      simp only [stepped, map, Taken.took.injEq] at taken
      rw [← taken.1]
      exact wellFormed_forgetSize (wellFormed_step wellFormed short stepped)
  cut := by
    intro d slice more wellFormed nonempty nonempty' short
    have parts := step_cut host wellFormed nonempty nonempty' short
    cases stepped : d.step host slice with
    | failed =>
      rw [stepped] at parts
      obtain ⟨d'', whole, alike⟩ := parts
      exact ⟨d''.forgetSize, by rw [whole]; rfl, alike.forgetSize⟩
    | took =>
      rw [stepped] at parts
      rcases parts with unnoticed | ⟨ends, continued⟩
      · exact .inl (by rw [unnoticed]; rfl)
      · obtain ⟨next, more, rfl⟩ := List.exists_cons_of_ne_nil nonempty'
        refine .inr ⟨ends, ?_⟩
        rw [step_forgetSize]
        exact continued

/-- Slices in order and their concatenation in one slice: the same error in the
same place, or none and the same deframer, but for the size left over between
frames. -/
theorem performReads_agrees (host : Host World) (wellFormed : d.WellFormed)
    (short : slices.flatten.length < 4294967296) :
    Agrees StoppedAlike
      ((d.performReads host slices).1, (d.performReads host slices).2.forgetSize)
      ((d.performRead host slices.flatten).1,
        (d.performRead host slices.flatten).2.forgetSize) := by
  have agrees := readAll_agrees (cuttable host) StoppedAlike.refl StoppedAlike.trans
    (wellFormed_forgetSize wellFormed) short
  rw [readAll_forget step_forgetSize, read_forget step_forgetSize] at agrees
  exact agrees

/-- All frames but the newest are over, and so is the newest unless the deframer
is inside it. -/
structure Delivered (d : Deframer World) : Prop where
  earlier : ∀ call ∈ d.calls.tail, call.Complete
  newest : d.deframeState ≠ .frame → ∀ call, d.calls.head? = some call → call.Complete
  current : d.deframeState = .frame → ∀ call, d.calls.head? = some call →
    call.lastSlices = 0 ∧
      ∀ header, call.header = some header →
        call.payload.length + d.incomingFrameSize = header.size

section

variable (delivered : d.Delivered)
include delivered

theorem Delivered.all (between : d.deframeState ≠ .frame) : ∀ call ∈ d.calls, call.Complete := by
  cases calls : d.calls with
  | nil => simp
  | cons =>
    intro call' membership
    rcases List.mem_cons.mp membership with rfl | membership
    · exact delivered.newest between call' (by rw [calls]; rfl)
    · exact delivered.earlier call' (by rw [calls]; exact membership)

theorem Delivered.between (state : d.deframeState ≠ .frame) (calls : d'.calls = d.calls)
    (state' : d'.deframeState ≠ .frame) : d'.Delivered := by
  refine ⟨?_, ?_, fun inFrame => absurd inFrame state'⟩
  · rw [calls]
    exact delivered.earlier
  · intro _
    rw [calls]
    exact delivered.newest state

theorem delivered_slice {isLast : Bool}
    (inFrame : d.deframeState = .frame) (calls : d'.calls = notePayload d.calls slice isLast)
    (ends : isLast = true → slice.length = d.incomingFrameSize ∧ d'.deframeState = .fh0)
    (goesOn : isLast = false → slice.length + d'.incomingFrameSize = d.incomingFrameSize ∧
      d'.deframeState = .frame) : d'.Delivered := by
  cases before : d.calls with
  | nil =>
    rw [before] at calls
    refine ⟨by simp [calls, notePayload], ?_, ?_⟩
    · intro between call newest
      cases isLast with
      | false => exact absurd (goesOn rfl).2 between
      | true =>
        simp only [calls, notePayload, List.head?_cons, Option.some.injEq] at newest
        subst newest
        exact ⟨rfl, by simp⟩
    · intro inFrame' call newest
      cases isLast with
      | true =>
        rw [(ends rfl).2] at inFrame'
        cases inFrame'
      | false =>
        simp only [calls, notePayload, List.head?_cons, Option.some.injEq] at newest
        subst newest
        exact ⟨rfl, by simp⟩
  | cons call =>
    obtain ⟨none, sized⟩ := delivered.current inFrame call (by rw [before]; rfl)
    have earlier := delivered.earlier
    rw [before] at calls earlier
    refine ⟨by rw [calls]; exact earlier, ?_, ?_⟩
    · intro between call' newest
      cases isLast with
      | false => exact absurd (goesOn rfl).2 between
      | true =>
        simp only [calls, notePayload, List.head?_cons, Option.some.injEq] at newest
        subst newest
        refine ⟨by simp [none], ?_⟩
        intro header isHeader
        have size := sized header isHeader
        simp only [List.length_append]
        have length := (ends rfl).1
        omega
    · intro inFrame' call' newest
      cases isLast with
      | true =>
        rw [(ends rfl).2] at inFrame'
        cases inFrame'
      | false =>
        simp only [calls, notePayload, List.head?_cons, Option.some.injEq] at newest
        subst newest
        refine ⟨by simp [none], ?_⟩
        intro header isHeader
        have size := sized header isHeader
        simp only [List.length_append]
        have length := (goesOn rfl).1
        omega

theorem delivered_readPayload (inFrame : d.deframeState = .frame)
    (short : slice.length < 4294967296) (taken : d.readPayload host slice = .took d' rest) :
    d'.Delivered := by
  obtain ⟨next, parsed, others⟩ := readPayload_took short taken
  obtain rfl := congrArg Prod.snd parsed
  rcases others with ⟨all, rfl, -⟩ | ⟨less, rfl, -⟩
  · refine delivered_slice delivered inFrame rfl ?_ (by simp [all])
    intro _
    exact ⟨by rw [List.length_take]; omega, rfl⟩
  · refine delivered_slice delivered inFrame rfl (by simp [less]) ?_
    intro _
    refine ⟨?_, inFrame⟩
    simp only [List.length_take]
    omega

end

theorem delivered_startFrame (earlier : ∀ call ∈ d.calls, call.Complete)
    (inFrame : d.deframeState = .frame) (taken : d.startFrame host rest = .took d' rest') :
    d'.Delivered := by
  unfold startFrame at taken
  split at taken
  · cases taken
  · rename_i begun started
    have after : (d.initFrameParser host).2 = begun := by rw [started]
    have fresh : begun.Delivered := by
      rw [← after]
      refine ⟨earlier, fun between => absurd inFrame between, ?_⟩
      intro _ call newest
      simp only [initFrameParser, List.head?_cons, Option.some.injEq] at newest
      subst newest
      refine ⟨rfl, ?_⟩
      intro header isHeader
      cases isHeader
      exact Nat.zero_add _
    have inside : begun.deframeState = .frame := by
      rw [← after]
      exact inFrame
    split at taken
    · rename_i empty
      split at taken
      · cases taken
      · rename_i ended parsed
        cases taken
        have after' : (begun.parseFrameSlice host [] true).2 = ended := by rw [parsed]
        refine delivered_slice fresh inside (show ended.endFrame.calls = _ by
          rw [← after']; rfl) ?_ (by simp)
        intro _
        exact ⟨empty.symm, rfl⟩
    · split at taken
      · cases taken
      · cases taken
        exact fresh

theorem delivered_step (delivered : d.Delivered) (short : rest.length + 1 < 4294967296)
    (taken : d.step host (cur :: rest) = .took d' rest') : d'.Delivered := by
  cases state : d.deframeState with
  | clientPrefix =>
    simp only [step, state] at taken
    split at taken
    · cases taken
    · cases taken
      refine delivered.between (by simp [state]) rfl ?_
      unfold nextPrefix
      split <;> simp
  | fh0 | fh1 | fh2 | fh3 | fh4 | fh5 | fh6 | fh7 =>
    simp only [step, state] at taken
    cases taken
    exact delivered.between (by simp [state]) rfl (by simp)
  | fh8 =>
    simp only [step, state] at taken
    refine delivered_startFrame ?_ ?_ taken
    · exact delivered.all (by simp [state])
    · rfl
  | frame =>
    simp only [step, state] at taken
    exact delivered_readPayload delivered state (by simpa using short) taken

theorem delivered_forgetSize (delivered : d.Delivered) : d.forgetSize.Delivered := by
  unfold forgetSize
  split
  · rename_i idle
    exact delivered.between (by simp [idle]) rfl (by simp [idle])
  · exact delivered

/-- After a read without an error the deframer is well formed again and every
frame that is over was delivered whole. -/
theorem performRead_kept (wellFormed : d.WellFormed) (delivered : d.Delivered)
    (short : slice.length < 4294967296) (succeeded : (d.performRead host slice).1 = none) :
    (d.performRead host slice).2.forgetSize.WellFormed ∧
      (d.performRead host slice).2.forgetSize.Delivered := by
  have both := (cuttable host).strengthen Delivered (by
    intro d cur rest d' rest' _ delivered short taken
    cases stepped : d.step host (cur :: rest) with
    | failed => simp [stepped, map] at taken
    | took =>
      simp only [stepped, map, Taken.took.injEq] at taken
      rw [← taken.1]
      exact delivered_forgetSize (delivered_step delivered short stepped))
  apply read_keeps both ⟨wellFormed_forgetSize wellFormed, delivered_forgetSize delivered⟩ short
  rw [read_forget step_forgetSize]
  exact Prod.ext succeeded rfl

/-- Cutting the bytes of a connection into slices makes no difference. Without an
error the calls, the parsers and the state are the same, but for the size left
over between frames, and every frame that is over was delivered whole, its end
announced once. With an error it is the same error, in the same frame, after the
same calls. And the parser of every frame does the same with every split of its
payload. -/
theorem performReads_segmentation_invariant (host : Host World) {d : Deframer World}
    (wellFormed : d.WellFormed) (delivered : d.Delivered) {slices : List Bytes}
    (short : slices.flatten.length < 4294967296) :
    (d.performReads host slices).1 = (d.performRead host slices.flatten).1 ∧
      ((d.performRead host slices.flatten).1 = none →
        (d.performReads host slices).2.forgetSize =
          (d.performRead host slices.flatten).2.forgetSize ∧
        (d.performRead host slices.flatten).2.forgetSize.WellFormed ∧
        (d.performRead host slices.flatten).2.forgetSize.Delivered) ∧
      ((d.performRead host slices.flatten).1 ≠ none →
        StoppedAlike (d.performReads host slices).2.forgetSize
          (d.performRead host slices.flatten).2.forgetSize) ∧
      ∀ (f : Frames World) (slice : Bytes) (others : List Bytes),
        f.parser.Fits (slice :: others).flatten.length → (∀ piece ∈ others, piece ≠ []) →
        Agrees (fun _ _ => True) (f.parseSlices host slice others)
          (f.parseFrameSlice host (slice :: others).flatten true) := by
  have agrees := performReads_agrees host wellFormed short
  refine ⟨?_, ?_, ?_, ?_⟩
  · rcases split : d.performReads host slices with ⟨_ | error, d'⟩
    · rw [split] at agrees
      exact (congrArg Prod.fst agrees).symm
    · rw [split] at agrees
      obtain ⟨d'', whole, -⟩ := agrees
      exact (congrArg Prod.fst whole).symm
  · intro succeeded
    refine ⟨?_, performRead_kept wellFormed delivered short succeeded⟩
    rcases split : d.performReads host slices with ⟨_ | error, d'⟩
    · rw [split] at agrees
      exact (congrArg Prod.snd agrees).symm
    · rw [split] at agrees
      obtain ⟨d'', whole, -⟩ := agrees
      have failed := congrArg Prod.fst whole
      simp [succeeded] at failed
  · intro failed
    rcases split : d.performReads host slices with ⟨_ | error, d'⟩
    · rw [split] at agrees
      exact absurd (congrArg Prod.fst agrees) failed
    · rw [split] at agrees
      obtain ⟨d'', whole, alike⟩ := agrees
      rw [show (d.performRead host slices.flatten).2.forgetSize = d'' from
        congrArg Prod.snd whole]
      exact alike
  · intro f slice others fits nonempty
    exact Frames.parseSlices_agrees fits nonempty rfl

/-- A transport that accepts every stream and every byte and never acts. -/
def quietHost : Host Unit where
  acceptStream _ _ := true
  recvData _ _ _ := .ok ()
  act _ headers world := (headers, world)

/-- A client between frames, after the first. -/
def quietDeframer : Deframer Unit where
  deframeState := .fh0
  frames := { headers := { isClient := true }, world := (), isFirstFrame := false }

def pingFrame : Bytes := [0, 0, 8, 6, 0, 0, 0, 0, 0, 1, 2, 3, 4, 5, 6, 7, 8]

theorem performReads_ping :
    (quietDeframer.performReads quietHost [pingFrame.take 12, pingFrame.drop 12]).1 =
      (quietDeframer.performRead quietHost [pingFrame.take 12, pingFrame.drop 12].flatten).1 := by
  have wellFormed : quietDeframer.WellFormed := ⟨by decide, by simp [quietDeframer]⟩
  have delivered : quietDeframer.Delivered :=
    ⟨by simp [quietDeframer], by simp [quietDeframer], by simp [quietDeframer]⟩
  exact (performReads_segmentation_invariant quietHost wellFormed delivered (by decide)).1

/-- `ENABLE_PUSH` 2, which is refused, and `HEADER_TABLE_SIZE` 0. -/
def refusedSettings : Bytes := [0, 0, 12, 4, 0, 0, 0, 0, 0, 0, 2, 0, 0, 0, 2, 0, 1, 0, 0, 0, 0]

/-- Inside an unknown frame with one byte to come. -/
def lastByte : Deframer Unit := { quietDeframer with deframeState := .frame, incomingFrameSize := 1 }

def strayContinuation : Bytes := [0, 0, 0, 9, 0, 0, 0, 0, 0]

theorem performReads_stray (more : Bytes) :
    (lastByte.performReads quietHost [[0], strayContinuation ++ more]).1 =
      some .unexpectedContinuation := rfl

theorem performRead_huge (huge : slice.length = 4294967296) :
    (lastByte.performRead quietHost (0 :: slice)).1 = none := by
  have available : (0 :: slice).length % 4294967296 = lastByte.incomingFrameSize := by
    rw [List.length_cons, huge]
    rfl
  have stepped : lastByte.step quietHost (0 :: slice) =
      .took (lastByte.parseFrameSlice quietHost (0 :: slice) true).2.endFrame [] := by
    rw [show lastByte.step quietHost (0 :: slice) = lastByte.readPayload quietHost (0 :: slice)
      from rfl, readPayload, if_pos available]
    rfl
  simp only [performRead, Segments.read, List.length_cons, readFuel, stepped]

/-- The size left over after a frame shows how it was cut; the parser of a refused
frame has been handed less of it; and a slice of four gigabytes is not taken for
what it is. -/
theorem segmentation_shows :
    (quietDeframer.performReads quietHost
        [pingFrame.take 12, pingFrame.drop 12]).2.incomingFrameSize ≠
      (quietDeframer.performRead quietHost pingFrame).2.incomingFrameSize ∧
    (quietDeframer.performReads quietHost
        [refusedSettings.take 16, refusedSettings.drop 16]).2.calls ≠
      (quietDeframer.performRead quietHost refusedSettings).2.calls ∧
    ∃ slice, (lastByte.performReads quietHost [[0], slice]).1 ≠
      (lastByte.performRead quietHost (0 :: slice)).1 := by
  refine ⟨by decide, by decide,
    strayContinuation ++ List.replicate (4294967296 - strayContinuation.length) 0, ?_⟩
  have length : (strayContinuation ++
      List.replicate (4294967296 - strayContinuation.length) (0 : UInt8)).length =
      4294967296 := by
    rw [List.length_append, List.length_replicate]
    rfl
  rw [performRead_huge length, performReads_stray]
  simp

end Deframer

end GrpcCore.Transport
