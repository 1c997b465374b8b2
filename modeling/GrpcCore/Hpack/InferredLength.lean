import GrpcCore.Hpack.Base64Blocks

/-!
# When decoding with the inferred length is safe

The inferred length counts the characters without padding; the decoder looks at the
length with it. The two disagree on a single pad character where two belong, and
on inputs without an inferred length.
-/

namespace GrpcCore.Hpack.BinDecoder

theorem returns_blocks_iff {count pads : Nat} {blocks tail : Bytes}
    (full : blocks.length = 4 * count) (few : pads ≤ 2) (partly : tail.length < 4)
    (odd : tail.length ≠ 1) (unpadded : ∀ front last, tail = front ++ [last] → last ≠ pad) :
    Returns (decodeWithLength (blocks ++ (tail ++ List.replicate pads pad))
        (3 * count + tailXtra.getD tail.length 0)) (3 * count + tailXtra.getD tail.length 0) ↔
      ¬ (pads = 1 ∧ tail.length = 2 ∧ inputIsValid blocks = true) := by
  have whole : ∀ output containsTail,
      filled { input := [], room := 0, output, containsTail } = true := fun _ _ => rfl
  have rejected {rest : Bytes} (length : Nat) (residue : rest.length % 4 = 1) :
      Returns (decodeWithLength (blocks ++ rest) length) length := by
    have total : (blocks ++ rest).length % 4 = 1 := by
      rw [List.length_append, full]
      omega
    rw [decodeWithLength, if_pos total]
    exact returns_nil length
  have pads_eq : pads = 0 ∨ pads = 1 ∨ pads = 2 := by omega
  rcases tail with _ | ⟨c0, _ | ⟨c1, _ | ⟨c2, _ | ⟨c3, tail⟩⟩⟩⟩
  · refine ⟨fun _ half => absurd half.2.1 (by decide), fun _ => ?_⟩
    rcases pads_eq with rfl | rfl | rfl
    · apply returns_append 0 0 full (by decide) rfl (by decide) (by decide)
      exact fun bytes length => returns_full length
    · exact rejected _ rfl
    · apply returns_append 0 2 full (by decide) rfl (by decide) (by decide)
      exact fun bytes length => returns_full length
  · exact absurd rfl odd
  · rcases pads_eq with rfl | rfl | rfl
    · refine ⟨fun _ half => absurd half.1 (by decide), fun _ => ?_⟩
      apply returns_append 1 2 full (by decide) rfl (by decide) (by decide)
      intro bytes length
      change Returns (conclude filled (if inputIsValid [c0, c1] then .decoded
        { input := [], room := 0, output := bytes ++ [composeOutputByte0 c0 c1], containsTail := true }
        else .failed)) _
      cases inputIsValid [c0, c1] with
      | false => exact returns_nil _
      | true => exact returns_full (by rw [List.length_append, length]; rfl)
    · have restLength : [c0, c1, pad].length = 3 := rfl
      obtain ⟨bytes, _, decoded⟩ :=
        decodeWithLength_append 1 3 full (by decide) restLength (by decide) (by decide)
      change Returns (decodeWithLength (blocks ++ [c0, c1, pad]) (3 * count + 1)) _ ↔ _
      rw [decoded]
      cases valid : inputIsValid blocks with
      | false => exact ⟨fun _ half => absurd half.2.2 Bool.false_ne_true, fun _ => returns_nil _⟩
      | true =>
        exact ⟨fun returned => absurd returned (not_returns_aborted _),
          fun safe => absurd ⟨rfl, rfl, rfl⟩ safe⟩
    · refine ⟨fun _ half => absurd half.1 (by decide), fun _ => ?_⟩
      apply returns_append 1 4 full (by decide) rfl (by decide) (by decide)
      exact fun bytes length => returns_padded_one length true whole c0 c1
  · refine ⟨fun _ half => absurd half.2.1 (by decide : 3 ≠ 2), fun _ => ?_⟩
    rcases pads_eq with rfl | rfl | rfl
    · apply returns_append 2 3 full (by decide) rfl (by decide) (by decide)
      intro bytes length
      change Returns (conclude filled (if inputIsValid [c0, c1, c2] then .decoded
        { input := [], room := 0,
          output := bytes ++ [composeOutputByte0 c0 c1, composeOutputByte1 c1 c2],
          containsTail := true }
        else .failed)) _
      cases inputIsValid [c0, c1, c2] with
      | false => exact returns_nil _
      | true => exact returns_full (by rw [List.length_append, length]; rfl)
    · apply returns_append 2 4 full (by decide) rfl (by decide) (by decide)
      exact fun bytes length =>
        returns_padded_two length true whole c0 c1 (unpadded [c0, c1] c2 rfl)
    · exact rejected _ (rfl : 5 % 4 = 1)
  · rw [List.length_cons, List.length_cons, List.length_cons, List.length_cons] at partly
    omega

theorem returns_withLength_iff (slice : Bytes) :
    Returns (decodeWithLength slice (inferLength slice)) (inferLength slice) ↔
      ¬ HalfPadded slice ∧ ¬ OverlongTail slice := by
  obtain ⟨body, pads, split, unpadded, last⟩ := unpadded_split slice
  have total : slice.length = body.length + pads := by
    rw [split, List.length_append, List.length_replicate]
  have spare : slice.length - body.length = pads := by omega
  by_cases inferred : pads ≤ 2 ∧ body.length % 4 ≠ 1
  · obtain ⟨few, odd⟩ := inferred
    have value : inferLength slice = 3 * (body.length / 4) + tailXtra.getD (body.length % 4) 0 := by
      rw [inferLength, unpadded, spare]
      dsimp only
      rw [if_neg (Nat.not_lt_of_le few), if_neg odd, Nat.mul_comm]
    have full : (body.take (4 * (body.length / 4))).length = 4 * (body.length / 4) := by
      rw [List.length_take]
      omega
    have tail : (body.drop (4 * (body.length / 4))).length = body.length % 4 := by
      rw [List.length_drop]
      omega
    have whole : slice = body.take (4 * (body.length / 4)) ++
        (body.drop (4 * (body.length / 4)) ++ List.replicate pads pad) := by
      rw [← List.append_assoc, List.take_append_drop, ← split]
    have front : slice.take (body.length / 4 * 4) = body.take (4 * (body.length / 4)) := by
      rw [Nat.mul_comm, whole, List.take_left' full]
    have ends : ∀ front last, body.drop (4 * (body.length / 4)) = front ++ [last] → last ≠ pad := by
      intro front lastChar split
      apply last (body.take (4 * (body.length / 4)) ++ front) lastChar
      rw [List.append_assoc, ← split, List.take_append_drop]
    have decoded := returns_blocks_iff full few (by omega) (by omega) ends
    rw [tail, ← whole, ← value] at decoded
    rw [decoded]
    have half : HalfPadded slice ↔ pads = 1 ∧ body.length % 4 = 2 ∧
        inputIsValid (body.take (4 * (body.length / 4))) = true := by
      rw [HalfPadded, unpadded, front, total]
      exact and_congr_left' (by omega)
    have short : ¬ OverlongTail slice := by
      rw [OverlongTail, unpadded, total]
      omega
    rw [half]
    exact ⟨fun safe => ⟨safe, short⟩, fun safe => safe.1⟩
  · have value : inferLength slice = 0 := by
      rw [inferLength, unpadded, spare]
      dsimp only
      split
      next => rfl
      next few => rw [if_pos (by omega)]
    have half : ¬ HalfPadded slice := by
      rw [HalfPadded, unpadded, total]
      omega
    have long : OverlongTail slice ↔ 4 < slice.length ∧ slice.length % 4 ≠ 1 := by
      rw [OverlongTail, unpadded]
      omega
    rw [value, returns_zero_iff, long]
    exact ⟨fun safe => ⟨half, by omega⟩, fun safe => by omega⟩

/-- The checks of `grpc_chttp2_base64_decode`. -/
def consumed (ctx : Context) : Bool := ctx.room == 0 && ctx.input.isEmpty

theorem unpaddedLength_append (front : Bytes) {last : UInt8} (unpadded : last ≠ pad) (pads : Nat) :
    unpaddedLength (front ++ last :: List.replicate pads pad) = front.length + 1 := by
  have kept : ¬ ((· == 0x3d) last) = true := fun same => unpadded (eq_of_beq same)
  have dropped : (List.replicate pads pad).dropWhile (· == 0x3d) = [] := by
    rw [List.dropWhile_replicate]
    rfl
  rw [unpaddedLength, Input.stripBase64Padding, List.reverse_append, List.reverse_cons,
    List.reverse_replicate, List.append_assoc, List.dropWhile_append, dropped]
  change ((if true then List.dropWhile _ (last :: front.reverse) else _) : Bytes).reverse.length = _
  rw [if_pos rfl, List.dropWhile_cons_of_neg (p := (· == 0x3d)) kept, List.length_reverse,
    List.length_cons, List.length_reverse]

theorem last_four {slice : Bytes} (long : 4 ≤ slice.length) : ∃ blocks c0 c1 c2 c3,
    slice = blocks ++ [c0, c1, c2, c3] := by
  have tail : (slice.drop (slice.length - 4)).length = 4 := by
    rw [List.length_drop]
    omega
  match found : slice.drop (slice.length - 4), tail with
  | [c0, c1, c2, c3], _ =>
    refine ⟨slice.take (slice.length - 4), c0, c1, c2, c3, ?_⟩
    rw [← found, List.take_append_drop]

theorem inferLength_eq {slice : Bytes} {len : Nat} (unpadded : unpaddedLength slice = len)
    (few : slice.length ≤ len + 2) (odd : len % 4 ≠ 1) :
    inferLength slice = 3 * (len / 4) + tailXtra.getD (len % 4) 0 := by
  rw [inferLength, unpadded]
  dsimp only
  rw [if_neg (by omega), if_neg odd, Nat.mul_comm]

theorem returns_if {outcome : Outcome} {length : Nat} {valid : Bool}
    (returned : Returns outcome length) :
    Returns (if valid then outcome else .returned []) length := by
  cases valid with
  | false => exact returns_nil length
  | true => exact returned

theorem returns_decode (slice : Bytes) : Returns (decode slice) (inferLength slice) := by
  have whole : ∀ output containsTail,
      consumed { input := [], room := 0, output, containsTail } = true := fun _ _ => rfl
  by_cases aligned : slice.length % 4 = 0
  · rw [decode, if_neg (not_not_intro aligned)]
    change Returns (conclude consumed _) _
    by_cases empty : slice.length = 0
    · rw [List.eq_nil_of_length_eq_zero empty]
      exact returns_nil _
    · have long : 4 ≤ slice.length := by omega
      obtain ⟨blocks, c0, c1, c2, c3, split⟩ := last_four long
      have total : slice.length = blocks.length + 4 := by
        rw [split, List.length_append]
        rfl
      obtain ⟨count, full⟩ : ∃ count, blocks.length = 4 * count :=
        ⟨blocks.length / 4, by omega⟩
      have reserved : paddedLength slice = if c3 = pad then
          if c2 = pad then 3 * count + 1 else 3 * count + 2 else 3 * (count + 1) := by
        have third : slice.length / 4 * 3 = 3 * count + 3 := by omega
        have reverse : slice.reverse = c3 :: c2 :: c1 :: c0 :: blocks.reverse := by
          rw [split, List.reverse_append]
          rfl
        rw [paddedLength, reverse]
        dsimp only
        rw [third]
        rfl
      rw [reserved]
      split
      next padded =>
        split
        next padded' =>
          obtain ⟨bytes, length, decoded⟩ :=
            conclude_append 1 full (by decide) [c0, c1, pad, pad] false consumed
          have whole' : slice = (blocks ++ [c0]) ++ c1 :: List.replicate 2 pad := by
            rw [split, padded, padded', List.append_assoc]
            rfl
          have read : slice = blocks ++ [c0, c1, pad, pad] := by rw [split, padded, padded']
          rw [read, decoded, ← read]
          by_cases padded'' : c1 = pad
          · have invalid : inputIsValid [c0, c1] = false := by
              rw [padded'']
              exact inputIsValid_pad [c0] []
            have failed : conclude consumed (decodeTail
                { input := [c0, c1, pad, pad], room := 1, output := bytes, containsTail := false }) =
                  .returned [] := by
              change conclude consumed (if inputIsValid [c0, c1] then _ else .failed) = _
              rw [invalid]
              rfl
            rw [failed]
            exact returns_if (returns_nil _)
          · have unpadded := unpaddedLength_append (blocks ++ [c0]) padded'' 2
            rw [← whole', List.length_append, full, List.length_singleton] at unpadded
            have value : inferLength slice = 3 * count + 1 := by
              rw [inferLength_eq unpadded (by omega) (by omega)]
              have quotient : (4 * count + 1 + 1) / 4 = count := by omega
              have residue : (4 * count + 1 + 1) % 4 = 2 := by omega
              rw [quotient, residue]
              rfl
            rw [value]
            exact returns_if (returns_padded_one length false whole c0 c1)
        next unpadded' =>
          obtain ⟨bytes, length, decoded⟩ :=
            conclude_append 2 full (by decide) [c0, c1, c2, pad] false consumed
          have whole' : slice = (blocks ++ [c0, c1]) ++ c2 :: List.replicate 1 pad := by
            rw [split, padded, List.append_assoc]
            rfl
          have unpadded := unpaddedLength_append (blocks ++ [c0, c1]) unpadded' 1
          rw [← whole', List.length_append, full] at unpadded
          have value : inferLength slice = 3 * count + 2 := by
            rw [inferLength_eq unpadded (by rw [total, full]; exact Nat.le_succ _) (by
              change (4 * count + 2 + 1) % 4 ≠ 1
              omega)]
            have quotient : (4 * count + 2 + 1) / 4 = count := by omega
            have residue : (4 * count + 2 + 1) % 4 = 3 := by omega
            change 3 * ((4 * count + 2 + 1) / 4) + tailXtra.getD ((4 * count + 2 + 1) % 4) 0 = _
            rw [quotient, residue]
            rfl
          have read : slice = blocks ++ [c0, c1, c2, pad] := by rw [split, padded]
          rw [read, decoded, ← read, value]
          exact returns_if (returns_padded_two length false whole c0 c1 unpadded')
      next unpadded' =>
        have whole' : slice = (blocks ++ [c0, c1, c2]) ++ c3 :: List.replicate 0 pad := by
          rw [split, List.append_assoc]
          rfl
        have unpadded := unpaddedLength_append (blocks ++ [c0, c1, c2]) unpadded' 0
        rw [← whole', List.length_append, full] at unpadded
        have unpadded : unpaddedLength slice = 4 * (count + 1) := unpadded
        have value : inferLength slice = 3 * (count + 1) := by
          rw [inferLength_eq unpadded (by omega) (by omega), Nat.mul_mod_right,
            Nat.mul_div_cancel_left _ (by decide)]
          rfl
        have total' : slice.length = 4 * (count + 1) := by omega
        obtain ⟨bytes, length, decoded⟩ :=
          conclude_append 0 total' (by decide) [] false consumed
        rw [List.append_nil] at decoded
        change Returns (conclude consumed (decodePartial
          { input := slice, room := 3 * (count + 1) + 0, containsTail := false })) _
        rw [decoded, value]
        exact returns_if (returns_full length)
  · rw [decode, if_pos aligned]
    exact returns_nil _

/-- Both decoders return nothing or as many bytes as were inferred, but for a pad
character missing and for tails too long to look up. -/
theorem decodes_iff (slice : Bytes) :
    (Returns (decodeWithLength slice (inferLength slice)) (inferLength slice) ∧
        Returns (decode slice) (inferLength slice)) ↔
      ¬ HalfPadded slice ∧ ¬ OverlongTail slice := by
  rw [and_iff_left (returns_decode slice)]
  exact returns_withLength_iff slice

/-- `"AA="`: one byte is inferred, and two would be needed for three characters. -/
theorem single_pad_aborts :
    ¬ Returns (decodeWithLength (ascii "AA=") (inferLength (ascii "AA="))) (inferLength (ascii "AA=")) := by
  have aborted : decodeWithLength (ascii "AA=") (inferLength (ascii "AA=")) = .aborted := by
    decide
  rw [aborted]
  exact not_returns_aborted _

end GrpcCore.Hpack.BinDecoder
