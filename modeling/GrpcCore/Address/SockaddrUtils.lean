import Mathlib

/-!
# Subnets

`grpc_sockaddr_mask_bits` and `grpc_sockaddr_match_subnet`. An address is kept as the 32-bit words
that the machine reads from it, and its bits are counted in network order.
-/

namespace GrpcCore.Address

inductive ByteOrder where
  | little
  | big

/-- `grpc_htonl`. -/
def htonl : ByteOrder → BitVec 32 → BitVec 32
  | .little, word =>
    word.extractLsb' 0 8 ++ word.extractLsb' 8 8 ++ word.extractLsb' 16 8 ++ word.extractLsb' 24 8
  | .big, word => word

inductive Sockaddr where
  | inet (addr : BitVec 32)
  | inet6 (parts : Fin 4 → BitVec 32)
  | other (family : Nat)

namespace Sockaddr

variable (order : ByteOrder)

/-- `~uint32_t(0) << (32 - mask_bits)`, in network order. -/
def maskIpAddr (maskBits : Nat) : BitVec 32 := htonl order (BitVec.allOnes 32 <<< (32 - maskBits))

/-- The words before one stay, that one is masked, and those behind it are zero. -/
def maskParts (parts : Fin 4 → BitVec 32) (masked : Nat) (bits : Nat) : Sockaddr :=
  inet6 fun part =>
    if part.val < masked then parts part
    else if part.val = masked then parts part &&& maskIpAddr order bits
    else 0#32

/-- `grpc_sockaddr_mask_bits`. -/
def maskBits (addr : Sockaddr) (bits : Nat) : Sockaddr :=
  match addr with
  | inet word =>
    if bits = 0 then inet 0#32
    else if bits ≥ 32 then addr
    else inet (word &&& maskIpAddr order bits)
  | inet6 parts =>
    if bits = 0 then inet6 fun _ => 0#32
    else if bits ≥ 128 then addr
    else if bits ≤ 32 then maskParts order parts 0 bits
    else if bits ≤ 64 then maskParts order parts 1 (bits - 32)
    else if bits ≤ 96 then maskParts order parts 2 (bits - 64)
    else maskParts order parts 3 (bits - 96)
  | other _ => addr

/-- `grpc_sockaddr_match_subnet`. Addresses of other families never match. -/
def matchSubnet (address subnetAddress : Sockaddr) (bits : Nat) : Bool :=
  match address.maskBits order bits, subnetAddress with
  | inet addr, inet subnet => decide (addr = subnet)
  | inet6 addr, inet6 subnet => decide (addr = subnet)
  | _, _ => false

/-- The number of the bits of an address. -/
def width : Sockaddr → Nat
  | inet _ => 32
  | inet6 _ => 128
  | other _ => 0

/-- A bit of an address in network order. -/
def bit : Sockaddr → Nat → Bool
  | inet addr, index => (htonl order addr).getMsbD index
  | inet6 parts, index =>
    if within : index / 32 < 4 then (htonl order (parts ⟨index / 32, within⟩)).getMsbD (index % 32)
    else false
  | other _, _ => false

/-- The same kind of IP address. -/
def SameFamily : Sockaddr → Sockaddr → Prop
  | inet _, inet _ => True
  | inet6 _, inet6 _ => True
  | _, _ => False

end Sockaddr

section Words

variable {order : ByteOrder}

theorem getLsbD_htonl_little (word : BitVec 32) (index : Nat) :
    (htonl .little word).getLsbD index =
      (decide (index < 32) && word.getLsbD (8 * (3 - index / 8) + index % 8)) := by
  unfold htonl
  simp only [BitVec.getLsbD_append, BitVec.getLsbD_extractLsb']
  split_ifs with fourth third second
  · rw [show 8 * (3 - index / 8) + index % 8 = 24 + index by omega,
      decide_eq_true fourth, decide_eq_true (by omega : index < 32)]
  · rw [show 8 * (3 - index / 8) + index % 8 = 16 + (index - 8) by omega,
      decide_eq_true third, decide_eq_true (by omega : index < 32)]
  · rw [show 8 * (3 - index / 8) + index % 8 = 8 + (index - 8 - 8) by omega,
      decide_eq_true second, decide_eq_true (by omega : index < 32)]
  · by_cases inside : index < 32
    · rw [show 8 * (3 - index / 8) + index % 8 = 0 + (index - 8 - 8 - 8) by omega,
        decide_eq_true inside, decide_eq_true (by omega : index - 8 - 8 - 8 < 8)]
    · rw [decide_eq_false inside, decide_eq_false (by omega), Bool.false_and, Bool.false_and]

theorem htonl_and (first second : BitVec 32) :
    htonl order (first &&& second) = htonl order first &&& htonl order second := by
  cases order with
  | little =>
    apply BitVec.eq_of_getLsbD_eq
    intro index small
    simp only [getLsbD_htonl_little, BitVec.getLsbD_and, small, decide_true, Bool.true_and]
  | big => rfl

theorem htonl_htonl (word : BitVec 32) : htonl order (htonl order word) = word := by
  cases order with
  | little =>
    apply BitVec.eq_of_getLsbD_eq
    intro index small
    simp only [getLsbD_htonl_little]
    have within : 8 * (3 - index / 8) + index % 8 < 32 := by omega
    have back : 8 * (3 - (8 * (3 - index / 8) + index % 8) / 8) +
        (8 * (3 - index / 8) + index % 8) % 8 = index := by omega
    simp only [small, within, back, decide_true, Bool.true_and]
  | big => rfl

theorem getMsbD_htonl_zero (index : Nat) : (htonl order 0#32).getMsbD index = false := by
  have zero : htonl order 0#32 = 0#32 := by cases order <;> rfl
  rw [zero, BitVec.getMsbD_zero]

theorem getMsbD_maskIpAddr {bits index : Nat} (fits : bits ≤ 32) :
    (htonl order (Sockaddr.maskIpAddr order bits)).getMsbD index = decide (index < bits) := by
  rw [Sockaddr.maskIpAddr, htonl_htonl, BitVec.getMsbD_shiftLeft, BitVec.getMsbD_allOnes]
  exact decide_eq_decide.mpr (by omega)

end Words

namespace Sockaddr

variable {order : ByteOrder}

theorem bit_maskParts (parts : Fin 4 → BitVec 32) {masked bits index : Nat}
    (some_ : 32 * masked < bits) (fits : bits ≤ 32 * (masked + 1)) (inside : index < 128) :
    (maskParts order parts masked (bits - 32 * masked)).bit order index =
      ((inet6 parts).bit order index && decide (index < bits)) := by
  have within : index / 32 < 4 := by omega
  simp only [bit, maskParts, dif_pos within]
  split_ifs with before here
  · simp [show index < bits by omega]
  · rw [htonl_and, BitVec.getMsbD_and, getMsbD_maskIpAddr (by omega)]
    exact congrArg _ (decide_eq_decide.mpr (by omega))
  · rw [getMsbD_htonl_zero, decide_eq_false (by omega), Bool.and_false]

theorem bit_maskBits (addr : Sockaddr) (bits : Nat) {index : Nat} (inside : index < addr.width) :
    (addr.maskBits order bits).bit order index =
      (addr.bit order index && decide (index < bits)) := by
  cases addr with
  | other => exact absurd inside (Nat.not_lt_zero _)
  | inet =>
    have inside : index < 32 := inside
    simp only [maskBits]
    split_ifs with none_ all
    · simp [bit, getMsbD_htonl_zero, none_]
    · simp [show index < bits by omega]
    · simp only [bit, htonl_and, BitVec.getMsbD_and, getMsbD_maskIpAddr (Nat.le_of_not_le all)]
  | inet6 parts =>
    have inside : index < 128 := inside
    simp only [maskBits]
    split_ifs with none_ all first second third
    · simp [bit, getMsbD_htonl_zero, none_]
    · simp [show index < bits by omega]
    all_goals exact bit_maskParts parts (by omega) (by omega) inside

theorem sameFamily_maskBits (addr other : Sockaddr) (bits : Nat) :
    SameFamily (addr.maskBits order bits) other ↔ SameFamily addr other := by
  cases addr with
  | other => rfl
  | inet =>
    simp only [maskBits]
    split_ifs <;> cases other <;> rfl
  | inet6 =>
    simp only [maskBits, maskParts]
    split_ifs <;> cases other <;> rfl

variable {first second : Sockaddr}

theorem SameFamily.symm (family : SameFamily first second) : SameFamily second first := by
  cases first <;> cases second <;> exact family

theorem SameFamily.width (family : SameFamily first second) : first.width = second.width := by
  cases first <;> cases second <;> first | rfl | exact family.elim

theorem width_maskBits (addr : Sockaddr) (bits : Nat) :
    (addr.maskBits order bits).width = addr.width := by
  cases addr with
  | other => rfl
  | inet word => exact SameFamily.width ((sameFamily_maskBits _ (inet word) bits).mpr trivial)
  | inet6 parts => exact SameFamily.width ((sameFamily_maskBits _ (inet6 parts) bits).mpr trivial)

theorem eq_of_bit (family : SameFamily first second)
    (same : ∀ index < first.width, first.bit order index = second.bit order index) :
    first = second := by
  cases first with
  | other => cases second <;> exact family.elim
  | inet word =>
    cases second with
    | other | inet6 => exact family.elim
    | inet word' =>
      have words : htonl order word = htonl order word' :=
        BitVec.eq_of_getMsbD_eq fun index small => same index small
      rw [← @htonl_htonl order word, words, htonl_htonl]
  | inet6 parts =>
    cases second with
    | other | inet => exact family.elim
    | inet6 parts' =>
      refine congrArg inet6 (funext fun part => ?_)
      have words : htonl order (parts part) = htonl order (parts' part) := by
        refine BitVec.eq_of_getMsbD_eq fun index small => ?_
        have there := same (32 * part.val + index) (by simp only [width]; omega)
        have place : (32 * part.val + index) / 32 = part.val := by omega
        have offset : (32 * part.val + index) % 32 = index := by omega
        simpa only [bit, place, offset, part.isLt, dif_pos, Fin.eta] using there
      rw [← @htonl_htonl order (parts part), words, htonl_htonl]

theorem matchSubnet_eq (order : ByteOrder) (address subnetAddress : Sockaddr) (bits : Nat) :
    matchSubnet order address subnetAddress bits = true ↔
      SameFamily (address.maskBits order bits) subnetAddress ∧
        address.maskBits order bits = subnetAddress := by
  unfold matchSubnet
  cases address.maskBits order bits <;> cases subnetAddress <;> simp [SameFamily]

/-- An address matches a masked subnet address when it is of its family and has its first bits. -/
theorem matchSubnet_maskBits (order : ByteOrder) (address subnetAddress : Sockaddr) (bits : Nat) :
    matchSubnet order address (subnetAddress.maskBits order bits) bits = true ↔
      SameFamily address subnetAddress ∧ ∀ index < min bits address.width,
        address.bit order index = subnetAddress.bit order index := by
  rw [matchSubnet_eq, sameFamily_maskBits]
  constructor
  · rintro ⟨family, same⟩
    have family := ((@sameFamily_maskBits order subnetAddress address bits).mp family.symm).symm
    refine ⟨family, fun index small => ?_⟩
    obtain ⟨first, inside⟩ := Nat.lt_min.mp small
    have bits_ := congrArg (fun addr => addr.bit order index) same
    simpa only [bit_maskBits _ bits inside, bit_maskBits _ bits (family.width ▸ inside), first,
      decide_true, Bool.and_true] using bits_
  · rintro ⟨family, same⟩
    have masked := ((@sameFamily_maskBits order subnetAddress address bits).mpr family.symm).symm
    refine ⟨masked, @eq_of_bit order _ _ ((sameFamily_maskBits _ _ bits).mpr masked) ?_⟩
    intro index inside
    rw [width_maskBits] at inside
    rw [bit_maskBits _ bits inside, bit_maskBits _ bits (family.width ▸ inside)]
    by_cases first : index < bits
    · rw [same index (Nat.lt_min.mpr ⟨first, inside⟩)]
    · rw [decide_eq_false first, Bool.and_false, Bool.and_false]

/-- The match needs the family and the first bits, and masking keeps the first bits and nothing
else, once and for all. -/
theorem matchSubnet_iff (order : ByteOrder) (address subnetAddress : Sockaddr) (bits : Nat) :
    (address.width ≠ 0 →
      (matchSubnet order address (subnetAddress.maskBits order bits) bits = true ↔
        SameFamily address subnetAddress ∧ ∀ index < min bits address.width,
          address.bit order index = subnetAddress.bit order index)) ∧
    (∀ index < subnetAddress.width, (subnetAddress.maskBits order bits).bit order index =
      (subnetAddress.bit order index && decide (index < bits))) ∧
    (subnetAddress.maskBits order bits).maskBits order bits = subnetAddress.maskBits order bits := by
  refine ⟨fun _ => matchSubnet_maskBits order address subnetAddress bits,
    fun index inside => bit_maskBits subnetAddress bits inside, ?_⟩
  · have again (ip : SameFamily subnetAddress subnetAddress) :
        (subnetAddress.maskBits order bits).maskBits order bits =
          subnetAddress.maskBits order bits := by
      have masked := ((@sameFamily_maskBits order _ _ bits).mpr ip).symm
      apply @eq_of_bit order _ _
        ((sameFamily_maskBits _ _ bits).mpr ((sameFamily_maskBits _ _ bits).mpr masked))
      intro index inside
      rw [width_maskBits] at inside
      rw [bit_maskBits _ bits inside, bit_maskBits _ bits (width_maskBits _ bits ▸ inside),
        Bool.and_assoc, Bool.and_self]
    cases subnetAddress with
    | other => rfl
    | inet => exact again trivial
    | inet6 => exact again trivial

/-- 10.1.2.3 is in 10.1.0.0/16. -/
theorem matchSubnet_private : matchSubnet .little (inet 0x0302010a#32)
    ((inet 0x0000010a#32).maskBits .little 16) 16 = true :=
  ((matchSubnet_iff .little (inet 0x0302010a#32) (inet 0x0000010a#32) 16).1 (by decide)).mpr
    ⟨trivial, by decide⟩

end Sockaddr

end GrpcCore.Address
