import GrpcCore.Hpack.Metadata

/-!
# PING, RST_STREAM, WINDOW_UPDATE and GOAWAY payloads

The parsers of the frames with a fixed layout. Three of them collect a fixed
number of bytes and act when they have them; the fourth reads two numbers and
keeps the rest as text. Each may be handed its payload in any slices.
-/

namespace GrpcCore.Transport

open Hpack

/-- Bytes collected so far: how many there are and the value they add up to. -/
structure Gathered (Value : Type) where
  byte : Nat := 0
  value : Value
deriving DecidableEq

namespace Gathered

variable {Value : Type}

/-- The loop the three parsers share: `place` puts the byte at its position. -/
def gather (size : Nat) (place : Value → Nat → UInt8 → Value) :
    Gathered Value → Bytes → Gathered Value
  | gathered, [] => gathered
  | gathered, cur :: slice =>
    if gathered.byte = size then gathered
    else gather size place ⟨gathered.byte + 1, place gathered.value gathered.byte cur⟩ slice

theorem gather_append (size : Nat) (place : Value → Nat → UInt8 → Value)
    (gathered : Gathered Value) (slice more : Bytes) :
    gather size place gathered (slice ++ more) =
      gather size place (gather size place gathered slice) more := by
  induction slice generalizing gathered with
  | nil => rfl
  | cons cur slice ih =>
    simp only [List.cons_append, gather]
    by_cases full : gathered.byte = size
    · simp only [if_pos full]
      cases more with
      | nil => rfl
      | cons => simp only [gather, if_pos full]
    · simp only [if_neg full]
      exact ih _

theorem byte_gather {size : Nat} (place : Value → Nat → UInt8 → Value)
    (gathered : Gathered Value) (slice : Bytes) (fits : gathered.byte + slice.length ≤ size) :
    (gather size place gathered slice).byte = gathered.byte + slice.length := by
  induction slice generalizing gathered with
  | nil => rfl
  | cons cur slice ih =>
    simp only [List.length_cons] at fits
    have room : ¬ gathered.byte = size := by omega
    simp only [gather, if_neg room, List.length_cons]
    rw [ih _ (by simp only; omega)]
    simp only
    omega

end Gathered

/-- `GPR_ASSERT` and the errors of the payloads. -/
inductive ControlError where
  | assertionFailed
  | invalidPing (length : Nat) (flags : UInt8)
  | invalidRstStream (length : Nat) (flags : UInt8)
  | invalidWindowUpdate (length : Nat) (flags : UInt8)
  | invalidWindowUpdateBytes (amount : Nat)
  | goawayTooShort (length : Nat)
deriving DecidableEq

namespace Gathered

variable {Value Result : Type}

/-- Collect the bytes of a slice; once all are there, check the value and assert
that nothing follows. -/
def collect (size : Nat) (place : Value → Nat → UInt8 → Value)
    (finish : Value → Except ControlError Result) (gathered : Gathered Value) (slice : Bytes)
    (isLast : Bool) : Except ControlError (Gathered Value × Option Result) :=
  let gathered := gathered.gather size place slice
  if gathered.byte = size then
    match finish gathered.value with
    | .error error => .error error
    | .ok result => if isLast then .ok (gathered, some result) else .error .assertionFailed
  else .ok (gathered, none)

variable {size : Nat} {place : Value → Nat → UInt8 → Value}
  {finish : Value → Except ControlError Result}

variable (gathered : Gathered Value)

theorem collect_short (slice : Bytes) (isLast : Bool) (short : gathered.byte + slice.length < size) :
    collect size place finish gathered slice isLast =
      .ok (gathered.gather size place slice, none) := by
  have count := byte_gather place gathered slice (Nat.le_of_lt short)
  have unfinished : ¬ (gathered.gather size place slice).byte = size := by omega
  simp only [collect, if_neg unfinished]

theorem collect_append (slice more : Bytes) (isLast : Bool) :
    collect size place finish gathered (slice ++ more) isLast =
      collect size place finish (gathered.gather size place slice) more isLast := by
  simp only [collect, gather_append]

end Gathered

structure PingParser where
  isAck : Bool
  opaque8Bytes : Gathered Nat := ⟨0, 0⟩
deriving DecidableEq

namespace PingParser

def beginFrame (length : Nat) (flags : UInt8) : Except ControlError PingParser :=
  if flags &&& 0xfe ≠ 0 ∨ length ≠ 8 then .error (.invalidPing length flags)
  else .ok { isAck := flags ≠ 0 }

def placeByte (opaque8Bytes byte : Nat) (cur : UInt8) : Nat :=
  opaque8Bytes ||| cur.toNat <<< (56 - 8 * byte)

/-- The eight bytes once they are all there. -/
def parse (p : PingParser) (slice : Bytes) (isLast : Bool) :
    Except ControlError (Gathered Nat × Option Nat) :=
  p.opaque8Bytes.collect 8 placeByte .ok slice isLast

end PingParser

structure RstStreamParser where
  reasonBytes : Gathered Bytes := ⟨0, []⟩
deriving DecidableEq

namespace RstStreamParser

def beginFrame (length : Nat) (flags : UInt8) : Except ControlError RstStreamParser :=
  if length ≠ 4 then .error (.invalidRstStream length flags) else .ok {}

def placeByte (reasonBytes : Bytes) (_byte : Nat) (cur : UInt8) : Bytes := reasonBytes ++ [cur]

def reason : Bytes → Nat
  | [b0, b1, b2, b3] =>
    b0.toNat <<< 24 ||| b1.toNat <<< 16 ||| b2.toNat <<< 8 ||| b3.toNat
  | _ => 0

/-- The reason once it is there. -/
def parse (p : RstStreamParser) (slice : Bytes) (isLast : Bool) :
    Except ControlError (Gathered Bytes × Option Nat) :=
  p.reasonBytes.collect 4 placeByte (fun reasonBytes => .ok (reason reasonBytes)) slice isLast

end RstStreamParser

structure WindowUpdateParser where
  amount : Gathered Nat := ⟨0, 0⟩
deriving DecidableEq

namespace WindowUpdateParser

def beginFrame (length : Nat) (flags : UInt8) : Except ControlError WindowUpdateParser :=
  if flags ≠ 0 ∨ length ≠ 4 then .error (.invalidWindowUpdate length flags) else .ok {}

def placeByte (amount byte : Nat) (cur : UInt8) : Nat :=
  amount ||| cur.toNat <<< (8 * (3 - byte))

/-- The top bit is reserved and ignored; an increment of zero is an error. -/
def receivedUpdate (amount : Nat) : Except ControlError Nat :=
  if amount % 2147483648 = 0 then .error (.invalidWindowUpdateBytes amount)
  else .ok (amount % 2147483648)

/-- The increment once it is there. -/
def parse (p : WindowUpdateParser) (slice : Bytes) (isLast : Bool) :
    Except ControlError (Gathered Nat × Option Nat) :=
  p.amount.collect 4 placeByte receivedUpdate slice isLast

end WindowUpdateParser

structure Goaway where
  errorCode : Nat
  lastStreamId : Nat
  debugData : Bytes
deriving DecidableEq

/-- `state` counts the bytes of the two numbers; at eight the rest is text. -/
structure GoawayParser where
  state : Nat := 0
  lastStreamId : Nat := 0
  errorCode : Nat := 0
  debugLength : Nat
  debugData : Bytes := []
deriving DecidableEq

namespace GoawayParser

def beginFrame (length : Nat) (_flags : UInt8) : Except ControlError GoawayParser :=
  if length < 8 then .error (.goawayTooShort length) else .ok { debugLength := length - 8 }

def readByte (p : GoawayParser) (cur : UInt8) : GoawayParser :=
  match p.state with
  | 0 => { p with lastStreamId := cur.toNat <<< 24, state := 1 }
  | 1 => { p with lastStreamId := p.lastStreamId ||| cur.toNat <<< 16, state := 2 }
  | 2 => { p with lastStreamId := p.lastStreamId ||| cur.toNat <<< 8, state := 3 }
  | 3 => { p with lastStreamId := p.lastStreamId ||| cur.toNat, state := 4 }
  | 4 => { p with errorCode := cur.toNat <<< 24, state := 5 }
  | 5 => { p with errorCode := p.errorCode ||| cur.toNat <<< 16, state := 6 }
  | 6 => { p with errorCode := p.errorCode ||| cur.toNat <<< 8, state := 7 }
  | _ => { p with errorCode := p.errorCode ||| cur.toNat, state := 8 }

def readDebugData (p : GoawayParser) (slice : Bytes) (isLast : Bool) :
    Except ControlError (GoawayParser × Option Goaway) :=
  if ¬ slice.length < 4294967295 - p.debugData.length then .error .assertionFailed
  else
    let p := { p with debugData := p.debugData ++ slice }
    .ok (p, if isLast then some ⟨p.errorCode, p.lastStreamId, p.debugData⟩ else none)

/-- The parser after a slice, and the frame's contents once it is complete. -/
def parse (p : GoawayParser) (slice : Bytes) (isLast : Bool) :
    Except ControlError (GoawayParser × Option Goaway) :=
  match slice with
  | [] => if p.state < 8 then .ok (p, none) else p.readDebugData [] isLast
  | cur :: rest =>
    if p.state < 8 then (p.readByte cur).parse rest isLast
    else p.readDebugData (cur :: rest) isLast

def consumed (p : GoawayParser) : Nat := p.state + p.debugData.length

variable {p : GoawayParser}

theorem readByte_spec (cur : UInt8) (number : p.state < 8) :
    (p.readByte cur).state = p.state + 1 ∧ (p.readByte cur).debugData = p.debugData ∧
      (p.readByte cur).debugLength = p.debugLength := by
  unfold readByte
  split <;> simp_all
  omega

variable {slice : Bytes} (isLast : Bool)

theorem readDebugData_ok (text : p.state = 8) (short : p.consumed + slice.length < 16777216) :
    ∃ p' goaway, p.readDebugData slice isLast = .ok (p', goaway) ∧ p'.state ≤ 8 ∧
      (p'.state < 8 → p'.debugData = []) ∧ p'.debugLength = p.debugLength ∧
      p'.consumed = p.consumed + slice.length ∧ (isLast = false → goaway = none) := by
  unfold consumed at short
  have room : ¬ ¬ slice.length < 4294967295 - p.debugData.length := by omega
  refine ⟨{ p with debugData := p.debugData ++ slice },
    if isLast then some ⟨p.errorCode, p.lastStreamId, p.debugData ++ slice⟩ else none,
    ?_, by simp [text], by simp [text], rfl, ?_, by simp⟩
  · rw [readDebugData, if_neg room]
  · simp only [consumed, List.length_append]
    omega

variable {goaway : Option Goaway} {p' : GoawayParser}

theorem readDebugData_append {more : Bytes} (text : p.state = 8)
    (short : p.consumed + (slice ++ more).length < 16777216)
    (read : p.readDebugData slice false = .ok (p', goaway)) :
    p.readDebugData (slice ++ more) isLast = p'.parse more isLast := by
  simp only [consumed, List.length_append] at short
  have room : ¬ ¬ slice.length < 4294967295 - p.debugData.length := by omega
  have room' : ¬ ¬ (slice ++ more).length < 4294967295 - p.debugData.length := by
    simp only [List.length_append]
    omega
  have room'' : ¬ ¬ more.length < 4294967295 - (p.debugData ++ slice).length := by
    simp only [List.length_append]
    omega
  rw [readDebugData, if_neg room] at read
  obtain rfl := (Prod.mk.inj (Except.ok.inj read)).1
  have inText : ¬ p.state < 8 := by omega
  rw [readDebugData, if_neg room']
  cases more with
  | nil =>
    unfold parse
    simp only [if_neg inText, readDebugData, if_neg room'', List.append_nil]
  | cons =>
    unfold parse
    simp only [if_neg inText, readDebugData, if_neg room'', List.append_assoc]

theorem parse_ok (numbers : p.state ≤ 8) (fresh : p.state < 8 → p.debugData = [])
    (short : p.consumed + slice.length < 16777216) :
    ∃ p' goaway, p.parse slice isLast = .ok (p', goaway) ∧ p'.state ≤ 8 ∧
      (p'.state < 8 → p'.debugData = []) ∧ p'.debugLength = p.debugLength ∧
      p'.consumed = p.consumed + slice.length ∧ (isLast = false → goaway = none) := by
  induction slice generalizing p with
  | nil =>
    unfold parse
    by_cases number : p.state < 8
    · rw [if_pos number]
      exact ⟨p, none, rfl, numbers, fresh, rfl, rfl, fun _ => rfl⟩
    · rw [if_neg number]
      exact readDebugData_ok isLast (by omega) short
  | cons cur slice ih =>
    unfold parse
    by_cases number : p.state < 8
    · rw [if_pos number]
      obtain ⟨state, text, length⟩ := readByte_spec cur number
      have empty := fresh number
      have counted : (p.readByte cur).consumed = p.consumed + 1 := by
        simp only [consumed, state, text]
        omega
      simp only [List.length_cons] at short ⊢
      obtain ⟨p', goaway, parsed, numbers', fresh', length', consumed', ends⟩ :=
        @ih (p.readByte cur) (by omega) (fun _ => text.trans empty) (by omega)
      exact ⟨p', goaway, parsed, numbers', fresh', length'.trans length, by omega, ends⟩
    · rw [if_neg number]
      exact readDebugData_ok isLast (by omega) short

theorem parse_append {more : Bytes} (numbers : p.state ≤ 8) (fresh : p.state < 8 → p.debugData = [])
    (short : p.consumed + (slice ++ more).length < 16777216)
    (parsed : p.parse slice false = .ok (p', goaway)) :
    p.parse (slice ++ more) isLast = p'.parse more isLast := by
  induction slice generalizing p with
  | nil =>
    unfold parse at parsed
    by_cases number : p.state < 8
    · rw [if_pos number] at parsed
      obtain rfl := (Prod.mk.inj (Except.ok.inj parsed)).1
      rfl
    · rw [if_neg number] at parsed
      have text := readDebugData_append isLast (by omega) short parsed
      rw [← text]
      cases more with
      | nil =>
        rw [List.append_nil, parse, if_neg number]
      | cons => rw [List.nil_append, parse, if_neg number]
  | cons cur slice ih =>
    unfold parse at parsed
    by_cases number : p.state < 8
    · rw [if_pos number] at parsed
      obtain ⟨state, text, -⟩ := readByte_spec cur number
      have empty := fresh number
      rw [List.cons_append, parse, if_pos number]
      simp only [List.cons_append, List.length_cons] at short
      refine ih (by omega) (fun _ => text.trans empty) ?_ parsed
      simp only [consumed, state, text] at short ⊢
      omega
    · rw [if_neg number] at parsed
      have text := readDebugData_append isLast (by omega) short parsed
      rw [List.cons_append, parse, if_neg number]
      exact text

end GoawayParser

end GrpcCore.Transport
