import GrpcCore.Hpack.BinDecoder

/-!
# Decoding full blocks and the tail behind them

What a call of the base64 decoder returns, split into full blocks, which are valid
or make it fail, and the few characters left after them.
-/

namespace GrpcCore.Hpack.BinDecoder

section Padding

theorem unpadded_split (slice : Bytes) : ∃ body pads,
    slice = body ++ List.replicate pads pad ∧ unpaddedLength slice = body.length ∧
      ∀ front last, body = front ++ [last] → last ≠ pad := by
  refine ⟨Input.stripBase64Padding slice,
    (slice.reverse.takeWhile (· == 0x3d)).length, ?_, rfl, ?_⟩
  · have pads : slice.reverse.takeWhile (· == 0x3d) =
        List.replicate (slice.reverse.takeWhile (· == 0x3d)).length pad := by
      apply List.eq_replicate_iff.mpr ⟨rfl, ?_⟩
      intro char listed
      have kept := List.all_eq_true.mp (List.all_takeWhile (p := (· == 0x3d))) char listed
      exact eq_of_beq kept
    rw [Input.stripBase64Padding, ← List.reverse_replicate, ← pads, ← List.reverse_append,
      List.takeWhile_append_dropWhile, List.reverse_reverse]
  · intro front last split padded
    have reversed := congrArg List.reverse split
    rw [Input.stripBase64Padding, List.reverse_reverse, List.reverse_append] at reversed
    have first := List.head?_dropWhile_not (· == 0x3d) slice.reverse
    rw [reversed, padded] at first
    exact absurd first Bool.true_eq_false.mp

theorem inputIsValid_pad (front back : Bytes) : inputIsValid (front ++ pad :: back) = false := by
  rw [inputIsValid, List.all_append, List.all_cons]
  have invalid : (decodeTable pad &&& 0xc0 == 0) = false := rfl
  rw [invalid, Bool.false_and, Bool.and_false]

end Padding

theorem decodeBlocks_of_short {room : Nat} (short : room < 3) (input output : Bytes) :
    decodeBlocks input room output = some (input, room, output) := by
  unfold decodeBlocks
  split
  next => omega
  next => rfl

theorem decodeBlocks_append {count room : Nat} {blocks : Bytes} (full : blocks.length = 4 * count)
    (short : room < 3) (rest output : Bytes) : ∃ bytes, bytes.length = 3 * count ∧
      decodeBlocks (blocks ++ rest) (3 * count + room) output =
        if inputIsValid blocks then some (rest, room, output ++ bytes) else none := by
  induction count generalizing blocks output with
  | zero =>
    rw [List.eq_nil_of_length_eq_zero full]
    refine ⟨[], rfl, ?_⟩
    rw [List.append_nil, Nat.mul_zero, Nat.zero_add]
    exact decodeBlocks_of_short short rest output
  | succ count ih =>
    match blocks, full with
    | c0 :: c1 :: c2 :: c3 :: blocks, full =>
      have full : blocks.length = 4 * count := by
        simp only [List.length_cons] at full
        omega
      obtain ⟨bytes, length, decoded⟩ := ih full (output ++
        [composeOutputByte0 c0 c1, composeOutputByte1 c1 c2, composeOutputByte2 c2 c3])
      refine ⟨[composeOutputByte0 c0 c1, composeOutputByte1 c1 c2, composeOutputByte2 c2 c3] ++
        bytes, ?_, ?_⟩
      · rw [List.length_append, length]
        exact Nat.add_comm 3 _
      · have roomy : 3 * (count + 1) + room = (3 * count + room) + 3 := by omega
        have valid : inputIsValid (c0 :: c1 :: c2 :: c3 :: blocks) =
            (inputIsValid [c0, c1, c2, c3] && inputIsValid blocks) := by
          rw [inputIsValid, inputIsValid, inputIsValid, ← List.all_append]
          rfl
        rw [roomy, valid, ← List.append_assoc]
        change (if inputIsValid [c0, c1, c2, c3] then decodeBlocks (blocks ++ rest) _ _
          else none) = _
        rw [decoded]
        cases inputIsValid [c0, c1, c2, c3] with
        | false => rfl
        | true => rfl

theorem conclude_append {count : Nat} (room : Nat) {blocks : Bytes} (full : blocks.length = 4 * count)
    (short : room < 3) (rest : Bytes) (containsTail : Bool) (complete : Context → Bool) :
    ∃ bytes, bytes.length = 3 * count ∧
      conclude complete (decodePartial
          { input := blocks ++ rest, room := 3 * count + room, containsTail }) =
        if inputIsValid blocks then
          conclude complete (decodeTail { input := rest, room, output := bytes, containsTail })
        else .returned [] := by
  obtain ⟨bytes, length, decoded⟩ := decodeBlocks_append full short rest []
  refine ⟨bytes, length, ?_⟩
  rw [decodePartial, decoded]
  cases inputIsValid blocks with
  | false => rfl
  | true => rfl

theorem returns_nil (length : Nat) : Returns (.returned []) length := ⟨[], rfl, .inl rfl⟩

theorem returns_full {slice : Bytes} {length : Nat} (full : slice.length = length) :
    Returns (.returned slice) length :=
  ⟨slice, rfl, .inr full⟩

theorem not_returns_aborted (length : Nat) : ¬ Returns .aborted length :=
  fun ⟨_, returned, _⟩ => Outcome.noConfusion returned

theorem not_returns_outOfBounds (length : Nat) : ¬ Returns .outOfBounds length :=
  fun ⟨_, returned, _⟩ => Outcome.noConfusion returned

section Tails

variable {count : Nat} {bytes : Bytes} (length : bytes.length = 3 * count) (containsTail : Bool)
  {complete : Context → Bool} (whole : ∀ output containsTail,
    complete { input := [], room := 0, output, containsTail } = true)
include length whole

theorem returns_padded_one (c0 c1 : UInt8) :
    Returns (conclude complete (decodeTail
      { input := [c0, c1, pad, pad], room := 1, output := bytes, containsTail })) (3 * count + 1) := by
  change Returns (conclude complete (if inputIsValid [c0, c1] then .decoded
    { input := [], room := 0, output := bytes ++ [composeOutputByte0 c0 c1], containsTail }
    else .failed)) _
  cases inputIsValid [c0, c1] with
  | false => exact returns_nil _
  | true =>
    rw [if_pos rfl, conclude, if_pos (whole _ _)]
    exact returns_full (by rw [List.length_append, length, List.length_singleton])

theorem returns_padded_two (c0 c1 : UInt8) {c2 : UInt8} (unpadded : c2 ≠ pad) :
    Returns (conclude complete (decodeTail
      { input := [c0, c1, c2, pad], room := 2, output := bytes, containsTail })) (3 * count + 2) := by
  have tail : decodeTail { input := [c0, c1, c2, pad], room := 2, output := bytes, containsTail } =
      if inputIsValid [c0, c1, c2] then .decoded
        { input := [], room := 0,
          output := bytes ++ [composeOutputByte0 c0 c1, composeOutputByte1 c1 c2], containsTail }
      else .failed := by
    change decodePadded { input := [c0, c1, c2, pad], room := 2, output := bytes, containsTail }
      c0 c1 c2 pad = _
    rw [decodePadded, if_pos rfl, if_neg fun both => unpadded both.1]
    rfl
  rw [tail]
  cases inputIsValid [c0, c1, c2] with
  | false => exact returns_nil _
  | true =>
    rw [if_pos rfl, conclude, if_pos (whole _ _)]
    exact returns_full (by rw [List.length_append, length]; rfl)

end Tails

/-- The check of `grpc_chttp2_base64_decode_with_length`. -/
def filled (ctx : Context) : Bool := ctx.room == 0

section WithLength

variable {count : Nat} (room size : Nat) {blocks rest : Bytes} (full : blocks.length = 4 * count)
  (short : room < 3) (tail : rest.length = size) (whole : size % 4 ≠ 1)
  (fits : room ≤ size / 4 * 3 + tailXtra.getD (size % 4) 0)
include full short tail whole fits

theorem decodeWithLength_append : ∃ bytes, bytes.length = 3 * count ∧
    decodeWithLength (blocks ++ rest) (3 * count + room) =
      if inputIsValid blocks then
        conclude filled (decodeTail { input := rest, room, output := bytes, containsTail := true })
      else .returned [] := by
  obtain ⟨bytes, length, decoded⟩ := conclude_append room full short rest true filled
  have total : (blocks ++ rest).length = 4 * count + size := by
    rw [List.length_append, full, tail]
  have residue : (4 * count + size) % 4 = size % 4 := by omega
  have quotient : (4 * count + size) / 4 * 3 = 3 * count + size / 4 * 3 := by omega
  refine ⟨bytes, length, ?_⟩
  rw [decodeWithLength, total, residue, quotient, if_neg whole, if_neg (by omega)]
  exact decoded

theorem returns_append (good : ∀ bytes : Bytes, bytes.length = 3 * count →
      Returns (conclude filled
        (decodeTail { input := rest, room, output := bytes, containsTail := true }))
        (3 * count + room)) :
    Returns (decodeWithLength (blocks ++ rest) (3 * count + room)) (3 * count + room) := by
  obtain ⟨bytes, length, decoded⟩ := decodeWithLength_append room size full short tail whole fits
  rw [decoded]
  cases inputIsValid blocks with
  | false => exact returns_nil _
  | true => exact good bytes length

end WithLength

/-- Without an inferred length nothing is decoded, but a tail longer than four
characters is looked up in `tail_xtra`. -/
theorem returns_zero_iff (slice : Bytes) :
    Returns (decodeWithLength slice 0) 0 ↔ slice.length % 4 = 1 ∨ slice.length ≤ 4 := by
  by_cases residue : slice.length % 4 = 1
  · rw [decodeWithLength, if_pos residue]
    exact ⟨fun _ => .inl residue, fun _ => returns_nil 0⟩
  · rw [decodeWithLength, if_neg residue, if_neg (Nat.not_lt_zero _), decodePartial]
    dsimp only
    rw [decodeBlocks_of_short (by decide)]
    match slice, residue with
    | [], _ => exact ⟨fun _ => .inr (Nat.zero_le 4), fun _ => returns_nil 0⟩
    | [c0], residue => exact absurd rfl residue
    | [c0, c1], _ => exact ⟨fun _ => .inr (by decide : 2 ≤ 4), fun _ => returns_nil 0⟩
    | [c0, c1, c2], _ => exact ⟨fun _ => .inr (by decide : 3 ≤ 4), fun _ => returns_nil 0⟩
    | [c0, c1, c2, c3], _ =>
      have nothing : decodeTail { input := [c0, c1, c2, c3], room := 0, containsTail := true } =
          .decoded { input := [c0, c1, c2, c3], room := 0, containsTail := true } := by
        change decodePadded { input := [c0, c1, c2, c3], room := 0, containsTail := true }
          c0 c1 c2 c3 = _
        rw [decodePadded]
        split
        next =>
          rw [if_neg fun both => absurd both.2 (Nat.not_succ_le_zero 0),
            if_neg (Nat.not_succ_le_zero 1)]
        next => rfl
      refine ⟨fun _ => .inr (by decide : 4 ≤ 4), fun _ => ?_⟩
      dsimp only
      rw [nothing]
      exact returns_nil 0
    | c0 :: c1 :: c2 :: c3 :: c4 :: rest, residue =>
      constructor
      · exact fun returned => absurd returned (not_returns_outOfBounds 0)
      · rintro (same | few)
        · exact absurd same residue
        · simp only [List.length_cons] at few
          omega

end GrpcCore.Hpack.BinDecoder
