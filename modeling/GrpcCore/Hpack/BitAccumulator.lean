import GrpcCore.Hpack.BinEncoder

/-!
# The encoder's accumulator as a bit string

What has been written and what waits in the 32-bit word, as one string. A word
shifted in leaves that string as it was, but for the waiting bits it pushes out,
which become zeros.
-/

namespace GrpcCore.Hpack

open BitString

/-- The bits of `coded` that wait: never more than eight, and none only at the start. -/
def pendingBits (coded : List Bool) : List Bool := coded.drop (8 * ((coded.length - 1) / 8))

def writtenBits (coded : List Bool) : List Bool := coded.take (8 * ((coded.length - 1) / 8))

/-- How many waiting bits do not fit the 32-bit word with `length` more. -/
def overflow (coded : List Bool) (length : Nat) : Nat := (pendingBits coded).length + length - 32

def pushed (coded code : List Bool) : List Bool :=
  writtenBits coded ++ clearFront (overflow coded code.length) (pendingBits coded) ++ code

theorem written_append_pending (coded : List Bool) :
    writtenBits coded ++ pendingBits coded = coded :=
  List.take_append_drop _ _

theorem length_pushed (coded : List Bool) {code : List Bool} (short : code.length ≤ 32) :
    (pushed coded code).length = coded.length + code.length := by
  have inside : overflow coded code.length ≤ (pendingBits coded).length := by
    rw [overflow]
    omega
  conv_rhs => rw [← written_append_pending coded]
  rw [pushed, List.length_append, List.length_append, length_clearFront inside, List.length_append]

theorem length_pendingBits_le (coded : List Bool) : (pendingBits coded).length ≤ 8 := by
  rw [pendingBits, List.length_drop]
  omega

theorem pushed_of_overflow_zero {coded code : List Bool} (fits : overflow coded code.length = 0) :
    pushed coded code = coded ++ code := by
  rw [pushed, fits, clearFront_zero, written_append_pending]

theorem pushed_of_short (coded : List Bool) {code : List Bool} (short : code.length ≤ 24) :
    pushed coded code = coded ++ code := by
  have waiting := length_pendingBits_le coded
  exact pushed_of_overflow_zero (Nat.sub_eq_zero_of_le (by omega))

namespace HuffOut

def stream (out : HuffOut) : List Bool := ofBytes out.out ++ bits out.tempLength out.temp

structure Settled (out : HuffOut) : Prop where
  short : out.tempLength ≤ 8
  waiting : out.out ≠ [] → 0 < out.tempLength

theorem settled_initial : Settled {} := ⟨Nat.zero_le 8, fun written => absurd rfl written⟩

theorem stream_flushSome (temp tempLength : Nat) (out : Bytes) :
    (flushSome temp tempLength out).stream = ofBytes out ++ bits tempLength temp := by
  fun_induction flushSome temp tempLength out with
  | case1 more out ih =>
    have split : bits (more + 9) temp = bits 8 (temp >>> (more + 1)) ++ bits (more + 1) temp := by
      rw [← bits_add]
      congr 1
      omega
    rw [ih, ofBytes_append, ofBytes_cons, ofBytes_nil, List.append_nil,
      bits_toUInt8, List.append_assoc]
    exact congrArg (ofBytes out ++ ·) split.symm
  | case2 => rfl

theorem settled_flushSome (temp : Nat) {tempLength : Nat} (out : Bytes) (some : 0 < tempLength) :
    (flushSome temp tempLength out).Settled := by
  fun_induction flushSome temp tempLength out with
  | case1 more out ih => exact ih (Nat.succ_pos more)
  | case2 tempLength out short =>
    refine ⟨?_, fun _ => some⟩
    by_contra long
    have more : tempLength = (tempLength - 9) + 9 := by
      dsimp only at long
      omega
    exact short (tempLength - 9) more

variable {out : HuffOut}

theorem length_stream (out : HuffOut) : out.stream.length = 8 * out.out.length + out.tempLength := by
  rw [stream, List.length_append, length_ofBytes, length_bits]

theorem Settled.split (settled : out.Settled) :
    ofBytes out.out = writtenBits out.stream ∧
      bits out.tempLength out.temp = pendingBits out.stream := by
  have boundary : 8 * ((out.stream.length - 1) / 8) = (ofBytes out.out).length := by
    rw [length_stream, length_ofBytes]
    have short := settled.short
    cases written : out.out with
    | nil =>
      rw [List.length_nil]
      omega
    | cons byte bytes =>
      have waiting := settled.waiting (by rw [written]; exact List.cons_ne_nil byte bytes)
      omega
  rw [writtenBits, pendingBits, boundary, stream]
  exact ⟨(List.take_left' rfl).symm, (List.drop_left' rfl).symm⟩

theorem shifted_eq {temp length : Nat} (short : length ≤ 32) :
    shifted temp length = (temp % 2 ^ (32 - length)) <<< length := by
  have word : 4294967296 = 2 ^ (32 - length) * 2 ^ length := by
    rw [← Nat.pow_add, Nat.sub_add_cancel short]
  rw [shifted, word, Nat.shiftLeft_eq, Nat.shiftLeft_eq, Nat.mul_mod_mul_right]

theorem stream_shift (settled : out.Settled) {word length : Nat} (fits : word < 2 ^ length)
    (short : length ≤ 32) :
    (flushSome (shifted out.temp length ||| word) (out.tempLength + length) out.out).stream =
      pushed out.stream (bits length word) := by
  obtain ⟨written, waiting⟩ := settled.split
  have lost : out.tempLength - (32 - length) = overflow out.stream (bits length word).length := by
    rw [overflow, ← waiting, length_bits, length_bits]
    omega
  rw [stream_flushSome, shifted_eq short, bits_shiftLeft_or fits, bits_mod_two_pow, written,
    waiting, lost, pushed, List.append_assoc]

theorem Settled.add (settled : out.Settled) {sym : HuffSym} (listed : sym ∈ huffsyms) :
    (out.add sym).Settled ∧ (out.add sym).stream = pushed out.stream sym.code := by
  obtain ⟨long, short, fits, _⟩ := huffsyms_bounds sym listed
  exact ⟨settled_flushSome _ _ (Nat.add_pos_right _ (Nat.lt_of_lt_of_le (by decide) long)),
    stream_shift settled fits (Nat.le_trans short (by decide))⟩

theorem ofBytes_finish (settled : out.Settled) : ∃ count < 8,
    ofBytes out.finish = out.stream ++ List.replicate count true := by
  by_cases waits : out.tempLength = 0
  · refine ⟨0, by decide, ?_⟩
    rw [finish, if_neg (not_not_intro waits), stream, waits, bits_zero, List.append_nil,
      List.replicate_zero, List.append_nil]
  · obtain ⟨filling, whole⟩ := Nat.exists_eq_add_of_le settled.short
    have free : 8 - out.tempLength = filling := by omega
    have ones : 0xff >>> out.tempLength = 2 ^ filling - 1 := by
      rw [← free, Nat.shiftRight_eq_div_pow]
      have short := settled.short
      generalize out.tempLength = length at short
      revert length
      decide
    have last : bits 8 (out.temp <<< filling ||| (2 ^ filling - 1)) =
        bits out.tempLength out.temp ++ List.replicate filling true := by
      rw [whole, bits_shiftLeft_or (Nat.sub_lt (Nat.two_pow_pos filling) Nat.one_pos), bits_ones]
    refine ⟨filling, by omega, ?_⟩
    rw [finish, if_pos waits, free, ones, ofBytes_append, ofBytes_cons, ofBytes_nil,
      List.append_nil, bits_or_toUInt8, last, stream, List.append_assoc]

end HuffOut

end GrpcCore.Hpack
