import GrpcCore.Slice.Base64RoundTrip

/-!
# Padding in base64 texts

The groups a text falls into, and what each of them gives.
-/

namespace GrpcCore.Slice.Base64

/-- What a text stands for, without the characters that are skipped; `none` if one is invalid. -/
def textCodes (urlSafe : Bool) : Bytes → Option (List Nat)
  | [] => some []
  | c :: b64 =>
    match charCode urlSafe c with
    | none => none
    | some none => textCodes urlSafe b64
    | some (some code) => (textCodes urlSafe b64).map (code :: ·)

def fullGroups : List Nat → List (List Nat)
  | c0 :: c1 :: c2 :: c3 :: codes => [c0, c1, c2, c3] :: fullGroups codes
  | _ => []

def shortGroup : List Nat → List Nat
  | _ :: _ :: _ :: _ :: codes => shortGroup codes
  | codes => codes

def groups (codes : List Nat) : List (List Nat) := fullGroups codes ++ [shortGroup codes]

/-- Padding is the last code of a group of four, or the last two. -/
def PaddedAtEnd (group : List Nat) : Prop :=
  GRPC_BASE64_PAD_BYTE ∉ group ∨
    ∃ c0 c1 c2, c0 ≠ GRPC_BASE64_PAD_BYTE ∧ c1 ≠ GRPC_BASE64_PAD_BYTE ∧
      group = [c0, c1, c2, GRPC_BASE64_PAD_BYTE]

def groupBytes : List Nat → Bytes
  | [c0, c1] => decodeOneChar c0 c1
  | [c0, c1, c2] => decodeTwoChars c0 c1 c2
  | [c0, c1, c2, c3] => decodeThreeChars c0 c1 c2 c3
  | _ => []

/-- The bytes that the other codes than padding have the bits of. -/
def dataBytes (group : List Nat) : Bytes := groupBytes (group.filter (· ≠ GRPC_BASE64_PAD_BYTE))

section Written

variable (urlSafe : Bool)

/-- What has been written when a decoding has ended. -/
def written : Except Bytes Bytes → Bytes
  | .error result => result
  | .ok result => result

theorem length_append_le {result bytes : Bytes} {codes : List Nat}
    (fewer : bytes.length ≤ codes.length) :
    (written (.ok (result ++ bytes))).length ≤ result.length + codes.length := by
  rw [written, List.length_append]
  exact Nat.add_le_add_left fewer _

theorem length_decodeGroup (result : Bytes) (codes : List Nat) :
    (written (decodeGroup result codes)).length ≤ result.length + codes.length := by
  unfold decodeGroup
  split
  · exact length_append_le (Nat.le_succ 1)
  · exact length_append_le (Nat.le_succ 2)
  · split_ifs
    · exact Nat.le_add_right _ _
    · exact length_append_le (Nat.le_add_right 1 3)
    · exact Nat.le_add_right _ _
    · exact length_append_le (Nat.le_add_right 2 2)
    · exact length_append_le (Nat.le_succ 3)
  · exact Nat.le_add_right _ _

/-- What has been written, with the codes that are waiting, fits a number of bytes. -/
def Fits (room : Nat) : Except Bytes (List Nat × Bytes) → Prop
  | .error result => result.length ≤ room
  | .ok (codes, result) => result.length + codes.length ≤ room

theorem Fits.mono {room room' : Nat} (le : room ≤ room') {outcome : Except Bytes (List Nat × Bytes)}
    (fits : Fits room outcome) : Fits room' outcome := by
  cases outcome with
  | error => exact Nat.le_trans fits le
  | ok => exact Nat.le_trans fits le

theorem fits_decodeLoop (b64 : Bytes) (codes : List Nat) (result : Bytes) :
    Fits (result.length + codes.length + b64.length) (decodeLoop urlSafe b64 codes result) := by
  induction b64 generalizing codes result with
  | nil => exact Nat.le_refl _
  | cons c b64 ih =>
    rw [decodeLoop, List.length_cons]
    cases charCode urlSafe c with
    | none => exact Nat.le_trans (Nat.le_add_right _ _) (Nat.le_add_right _ _)
    | some found =>
      cases found with
      | none => exact (ih codes result).mono (Nat.le_succ _)
      | some code =>
        have longer : (codes ++ [code]).length = codes.length + 1 := List.length_append
        have group := length_decodeGroup result (codes ++ [code])
        dsimp only
        split_ifs with full
        · cases decoded : decodeGroup result (codes ++ [code]) with
          | error =>
            rw [decoded, written] at group
            exact Nat.le_trans group (by omega)
          | ok result' =>
            rw [decoded, written] at group
            refine (ih [] result').mono ?_
            rw [List.length_nil]
            omega
        · refine (ih (codes ++ [code]) result).mono ?_
          omega

theorem length_decodeWithLen (b64 : Bytes) :
    (written (decodeWithLen urlSafe b64)).length ≤ b64.length := by
  have fits := fits_decodeLoop urlSafe b64 [] []
  rw [List.length_nil, List.length_nil, Nat.zero_add] at fits
  unfold decodeWithLen
  cases decoded : decodeLoop urlSafe b64 [] [] with
  | error =>
    rw [decoded] at fits
    exact fits
  | ok found =>
    rw [decoded] at fits
    dsimp only
    split_ifs
    · exact Nat.le_trans (length_decodeGroup found.2 found.1) fits
    · exact Nat.le_trans (Nat.le_add_right _ _) fits

end Written

section Groups

variable {c0 c1 c2 c3 : Nat} (result : Bytes)

theorem decodeGroup_of_paddedAtEnd (padded : PaddedAtEnd [c0, c1, c2, c3]) :
    decodeGroup result [c0, c1, c2, c3] = .ok (result ++ dataBytes [c0, c1, c2, c3]) := by
  rcases padded with none | ⟨c0', c1', c2', data0, data1, same⟩
  · simp only [List.mem_cons, List.not_mem_nil, or_false, not_or] at none
    obtain ⟨data0, data1, data2, data3⟩ := none
    rw [decodeGroup, if_neg (not_or.mpr ⟨Ne.symm data0, Ne.symm data1⟩), if_neg (Ne.symm data2),
      if_neg (Ne.symm data3)]
    simp [dataBytes, Ne.symm data0, Ne.symm data1, Ne.symm data2, Ne.symm data3, groupBytes]
  · obtain ⟨rfl, rfl, rfl, rfl⟩ : c0 = c0' ∧ c1 = c1' ∧ c2 = c2' ∧ c3 = GRPC_BASE64_PAD_BYTE := by
      simpa using same
    rw [decodeGroup, if_neg (not_or.mpr ⟨data0, data1⟩)]
    by_cases pad2 : c2 = GRPC_BASE64_PAD_BYTE
    · simp [dataBytes, data0, data1, pad2, groupBytes]
    · simp [dataBytes, data0, data1, pad2, groupBytes]

theorem decodeGroup_of_not_paddedAtEnd (padded : ¬ PaddedAtEnd [c0, c1, c2, c3]) :
    decodeGroup result [c0, c1, c2, c3] = .error result := by
  rw [decodeGroup]
  split_ifs with pads pad2 pad3 pad3
  · rfl
  · exact absurd (.inr ⟨c0, c1, c2, (not_or.mp pads).1, (not_or.mp pads).2, by rw [pad3]⟩) padded
  · rfl
  · exact absurd (.inr ⟨c0, c1, c2, (not_or.mp pads).1, (not_or.mp pads).2, by rw [pad3]⟩) padded
  · refine absurd (.inl ?_) padded
    simp only [List.mem_cons, List.not_mem_nil, or_false, not_or]
    exact ⟨Ne.symm (not_or.mp pads).1, Ne.symm (not_or.mp pads).2, Ne.symm pad2, Ne.symm pad3⟩

theorem decodeGroup_short {short : List Nat} (nonempty : short ≠ []) (small : short.length < 4) :
    decodeGroup result short =
      if short.length = 1 then .error result else .ok (result ++ groupBytes short) := by
  match short with
  | [_] => rfl
  | [_, _] => rfl
  | [_, _, _] => rfl
  | _ :: _ :: _ :: _ :: _ => exact absurd small (by simp)

end Groups

section Texts

variable {urlSafe : Bool}

def runGroups : List Nat → Bytes → Except Bytes (List Nat × Bytes)
  | c0 :: c1 :: c2 :: c3 :: codes, result =>
    match decodeGroup result [c0, c1, c2, c3] with
    | .error result => .error result
    | .ok result => runGroups codes result
  | codes, result => .ok (codes, result)

theorem length_lt_of_short {codes : List Nat}
    (short : ∀ c0 c1 c2 c3 codes', codes = c0 :: c1 :: c2 :: c3 :: codes' → False) :
    codes.length < 4 := by
  match codes, short with
  | [], _ => exact Nat.zero_lt_succ 3
  | [_], _ => exact (by decide : 1 < 4)
  | [_, _], _ => exact (by decide : 2 < 4)
  | [_, _, _], _ => exact (by decide : 3 < 4)
  | c0 :: c1 :: c2 :: c3 :: codes, short => exact absurd rfl (short c0 c1 c2 c3 codes)

theorem runGroups_short {codes : List Nat} (small : codes.length < 4) (result : Bytes) :
    runGroups codes result = .ok (codes, result) ∧ fullGroups codes = [] ∧
      shortGroup codes = codes := by
  match codes with
  | [] => exact ⟨rfl, rfl, rfl⟩
  | [_] => exact ⟨rfl, rfl, rfl⟩
  | [_, _] => exact ⟨rfl, rfl, rfl⟩
  | [_, _, _] => exact ⟨rfl, rfl, rfl⟩
  | _ :: _ :: _ :: _ :: _ => exact absurd small (by simp)

theorem runGroups_four {group : List Nat} (full : group.length = 4) (codes : List Nat)
    (result : Bytes) :
    runGroups (group ++ codes) result =
      match decodeGroup result group with
      | .error result => .error result
      | .ok result => runGroups codes result := by
  match group, full with
  | [_, _, _, _], _ => rfl

theorem decodeLoop_eq {b64 : Bytes} {found : List Nat} (codes : List Nat) (result : Bytes)
    (small : codes.length < 4) (text : textCodes urlSafe b64 = some found) :
    decodeLoop urlSafe b64 codes result = runGroups (codes ++ found) result := by
  induction b64 generalizing codes result found with
  | nil =>
    cases text
    rw [List.append_nil, (runGroups_short small result).1]
    rfl
  | cons c b64 ih =>
    rw [textCodes] at text
    rw [decodeLoop]
    generalize charCode urlSafe c = found at text ⊢
    cases found with
    | none => cases text
    | some kind =>
      cases kind with
      | none => exact ih codes result small text
      | some code =>
        obtain ⟨behind, textBehind, rfl⟩ := Option.map_eq_some_iff.mp text
        have longer : (codes ++ [code]).length = codes.length + 1 := List.length_append
        have joined : codes ++ code :: behind = (codes ++ [code]) ++ behind :=
          List.append_cons codes code behind
        dsimp only
        rw [joined]
        split_ifs with full
        · rw [runGroups_four full]
          cases decodeGroup result (codes ++ [code]) with
          | error => rfl
          | ok result' => exact ih [] result' (by decide) textBehind
        · exact ih (codes ++ [code]) result (by omega) textBehind

theorem decodeLoop_of_invalid {b64 : Bytes} (codes : List Nat) (result : Bytes)
    (invalid : textCodes urlSafe b64 = none) :
    ∃ result', decodeLoop urlSafe b64 codes result = .error result' := by
  induction b64 generalizing codes result with
  | nil => cases invalid
  | cons c b64 ih =>
    rw [textCodes] at invalid
    rw [decodeLoop]
    generalize charCode urlSafe c = found at invalid ⊢
    cases found with
    | none => exact ⟨result, rfl⟩
    | some kind =>
      cases kind with
      | none => exact ih codes result invalid
      | some code =>
        have behind := Option.map_eq_none_iff.mp invalid
        dsimp only
        split_ifs
        · cases decodeGroup result (codes ++ [code]) with
          | error result' => exact ⟨result', rfl⟩
          | ok result' => exact ih [] result' behind
        · exact ih (codes ++ [code]) result behind

theorem runGroups_eq_ok_iff {codes short : List Nat} {result result' : Bytes} :
    runGroups codes result = .ok (short, result') ↔
      (∀ group ∈ fullGroups codes, PaddedAtEnd group) ∧ short = shortGroup codes ∧
        result' = result ++ (fullGroups codes).flatMap dataBytes := by
  induction codes using fullGroups.induct generalizing result with
  | case1 c0 c1 c2 c3 codes ih =>
    rw [runGroups, fullGroups, shortGroup, List.forall_mem_cons, List.flatMap_cons]
    by_cases padded : PaddedAtEnd [c0, c1, c2, c3]
    · rw [decodeGroup_of_paddedAtEnd result padded]
      rw [ih, List.append_assoc]
      exact ⟨fun found => ⟨⟨padded, found.1⟩, found.2⟩, fun found => ⟨found.1.2, found.2⟩⟩
    · rw [decodeGroup_of_not_paddedAtEnd result padded]
      exact iff_of_false nofun fun found => padded found.1.1
  | case2 codes short =>
    obtain ⟨ran, noGroups, whole⟩ := runGroups_short (length_lt_of_short short) result
    rw [ran, noGroups, whole, List.flatMap_nil, List.append_nil, Except.ok.injEq, Prod.mk.injEq]
    exact ⟨fun found => ⟨List.forall_mem_nil _, found.1.symm, found.2.symm⟩,
      fun found => ⟨found.2.1.symm, found.2.2.symm⟩⟩

theorem length_shortGroup (codes : List Nat) : (shortGroup codes).length < 4 := by
  induction codes using fullGroups.induct with
  | case1 c0 c1 c2 c3 codes ih => exact ih
  | case2 codes short =>
    have small := length_lt_of_short short
    rwa [(runGroups_short small []).2.2]

theorem finish_eq_ok_iff {short : List Nat} (small : short.length < 4) {before result : Bytes} :
    (if short.length ≠ 0 then decodeGroup before short else .ok before) = .ok result ↔
      short.length ≠ 1 ∧ result = before ++ groupBytes short := by
  cases short with
  | nil =>
    rw [if_neg (by simp), groupBytes, List.append_nil, Except.ok.injEq]
    · exact ⟨fun same => ⟨by simp, same.symm⟩, fun found => found.2.symm⟩
    all_goals exact nofun
  | cons =>
    rw [if_pos (by simp), decodeGroup_short before (List.cons_ne_nil _ _) small]
    split_ifs with single
    · exact iff_of_false nofun fun found => found.1 single
    · rw [Except.ok.injEq]
      exact ⟨fun same => ⟨single, same.symm⟩, fun found => found.2.symm⟩

/-- What is decoded, and when: the full groups have their padding at the end, and the short group is
not a single code. -/
theorem decodeWithLen_eq_ok_iff {b64 result : Bytes} :
    decodeWithLen urlSafe b64 = .ok result ↔
      ∃ codes, textCodes urlSafe b64 = some codes ∧
        (∀ group ∈ fullGroups codes, PaddedAtEnd group) ∧ (shortGroup codes).length ≠ 1 ∧
        result = (fullGroups codes).flatMap dataBytes ++ groupBytes (shortGroup codes) := by
  unfold decodeWithLen
  cases text : textCodes urlSafe b64 with
  | none =>
    obtain ⟨result', refused⟩ := decodeLoop_of_invalid [] [] text
    rw [refused]
    exact iff_of_false nofun (by rintro ⟨codes, ⟨⟩, -⟩)
  | some codes =>
    rw [decodeLoop_eq [] [] (by decide) text, List.nil_append]
    have only : (∃ codes', some codes = some codes' ∧
          (∀ group ∈ fullGroups codes', PaddedAtEnd group) ∧ (shortGroup codes').length ≠ 1 ∧
          result = (fullGroups codes').flatMap dataBytes ++ groupBytes (shortGroup codes')) ↔
        (∀ group ∈ fullGroups codes, PaddedAtEnd group) ∧ (shortGroup codes).length ≠ 1 ∧
          result = (fullGroups codes).flatMap dataBytes ++ groupBytes (shortGroup codes) :=
      ⟨fun ⟨_, same, found⟩ => Option.some.inj same ▸ found, fun found => ⟨codes, rfl, found⟩⟩
    rw [only]
    cases ran : runGroups codes [] with
    | error =>
      refine iff_of_false nofun fun found => ?_
      have accepted : runGroups codes [] =
          .ok (shortGroup codes, (fullGroups codes).flatMap dataBytes) :=
        runGroups_eq_ok_iff.mpr ⟨found.1, rfl, rfl⟩
      exact absurd (ran.symm.trans accepted) nofun
    | ok found =>
      obtain ⟨padded, short, before⟩ := runGroups_eq_ok_iff.mp ran
      dsimp only
      rw [short, finish_eq_ok_iff (length_shortGroup codes), before, List.nil_append]
      exact ⟨fun found => ⟨padded, found⟩, fun found => found.2⟩

/-- A decoding that succeeds has padding only at the end of groups of four, and the bytes of the
other codes. -/
def PaddingKept (urlSafe : Bool) (b64 : Bytes) : Prop :=
  ∀ result, decodeWithLen urlSafe b64 = .ok result →
    ∃ codes, textCodes urlSafe b64 = some codes ∧ (∀ group ∈ groups codes, PaddedAtEnd group) ∧
      result = (groups codes).flatMap dataBytes

/-- The short group of a text that is decoded up to it has no padding. -/
def ShortGroupUnpadded (urlSafe : Bool) (b64 : Bytes) : Prop :=
  ∀ codes, textCodes urlSafe b64 = some codes → (∀ group ∈ fullGroups codes, PaddedAtEnd group) →
    (shortGroup codes).length ≠ 1 → GRPC_BASE64_PAD_BYTE ∉ shortGroup codes

theorem dataBytes_of_unpadded {group : List Nat} (none : GRPC_BASE64_PAD_BYTE ∉ group) :
    dataBytes group = groupBytes group := by
  rw [dataBytes, List.filter_eq_self.mpr]
  intro code listed
  exact decide_eq_true fun same => none (same ▸ listed)

theorem paddingKept_iff (b64 : Bytes) :
    PaddingKept urlSafe b64 ↔ ShortGroupUnpadded urlSafe b64 := by
  constructor
  · intro kept codes text padded several
    obtain ⟨codes', text', padded', -⟩ :=
      kept _ (decodeWithLen_eq_ok_iff.mpr ⟨codes, text, padded, several, rfl⟩)
    obtain rfl := Option.mem_unique text text'
    rcases padded' (shortGroup codes) (List.mem_append_right _ (List.mem_singleton_self _)) with
      none | ⟨c0, c1, c2, -, -, four⟩
    · exact none
    · have small := length_shortGroup codes
      rw [four] at small
      exact absurd small (by simp)
  · intro unpadded result decoded
    obtain ⟨codes, text, padded, several, bytes⟩ := decodeWithLen_eq_ok_iff.mp decoded
    have none := unpadded codes text padded several
    refine ⟨codes, text, List.forall_mem_append.mpr ⟨padded, List.forall_mem_singleton.mpr (.inl none)⟩,
      ?_⟩
    rw [bytes, groups, List.flatMap_append, List.flatMap_singleton, dataBytes_of_unpadded none]

end Texts

/-- Encoding fits its buffer and decodes to what was encoded, decoding fits its own, and padding gives
no bits exactly when there is none in the short group of a text that is decoded up to it. -/
theorem base64_right_iff (urlSafe multiline : Bool) (data b64 : Bytes) :
    ((∃ encoded, encode urlSafe multiline data = some encoded ∧
        encoded.length ≤ estimateEncodedSize data.length multiline ∧
        decode urlSafe encoded = .ok data) ∧
      (written (decodeWithLen urlSafe b64)).length ≤ b64.length) ∧
    (PaddingKept urlSafe b64 ↔ ShortGroupUnpadded urlSafe b64) := by
  obtain ⟨encoded, fits⟩ := @encode_eq urlSafe multiline data
  exact ⟨⟨⟨_, encoded, fits, decode_encodeData data⟩, length_decodeWithLen urlSafe b64⟩,
    paddingKept_iff b64⟩

/-- The padding of `QQ=` gives the low bits of a second byte. -/
theorem decode_short_padding :
    ¬ ∀ urlSafe b64, PaddingKept urlSafe b64 := by
  intro kept
  obtain ⟨codes, text, padded, -⟩ := kept false [81, 81, 61] [65, 31] (by decide)
  have known : codes = [16, 16, GRPC_BASE64_PAD_BYTE] :=
    Option.some.inj (text.symm.trans (by decide))
  subst known
  rcases padded [16, 16, GRPC_BASE64_PAD_BYTE] (by decide) with none | ⟨c0, c1, c2, -, -, four⟩
  · exact none (by decide)
  · have lengths : 3 = 4 := congrArg List.length four
    exact absurd lengths (by decide)

end GrpcCore.Slice.Base64
