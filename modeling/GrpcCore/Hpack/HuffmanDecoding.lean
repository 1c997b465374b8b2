import GrpcCore.Hpack.HuffmanCode

/-!
# What the nibble tables decode

The parser's Huffman decoder as a decoder of a prefix code: whatever it reads is
the code words of what it emits, then the start of one more.
-/

namespace GrpcCore.Hpack

open BitString PrefixCode

theorem huffsym_mem (symbol : Symbol) : huffsym symbol ∈ huffsyms := by
  have inside : (symbol : Nat) < huffsyms.length := by
    rw [length_huffsyms]
    exact symbol.isLt
  rw [huffsym, List.getD_eq_getElem _ _ inside]
  exact List.getElem_mem inside

@[simp] theorem length_symbolCode (symbol : Symbol) :
    (symbolCode symbol).length = (huffsym symbol).length :=
  length_bits _ _

theorem prefixFree_symbolCode : PrefixFree symbolCode := by
  have apart := pairwise_apart_of_separated separated_huffsyms
  have entry (symbol : Symbol) :
      (huffsyms.map HuffSym.code)[(symbol : Nat)]? = some (symbolCode symbol) := by
    have inside : (symbol : Nat) < huffsyms.length := by
      rw [length_huffsyms]
      exact symbol.isLt
    rw [List.getElem?_map, List.getElem?_eq_getElem inside, symbolCode, huffsym,
      List.getD_eq_getElem _ _ inside, Option.map_some]
  intro symbol symbol' starts
  obtain ⟨inside, word⟩ := List.getElem_of_getElem? (entry symbol)
  obtain ⟨inside', word'⟩ := List.getElem_of_getElem? (entry symbol')
  rcases Nat.lt_trichotomy symbol symbol' with before | same | after
  · have apart := List.pairwise_iff_getElem.mp apart _ _ inside inside' before
    rw [word, word'] at apart
    exact absurd starts apart.1
  · exact Fin.ext same
  · have apart := List.pairwise_iff_getElem.mp apart _ _ inside' inside after
    rw [word, word'] at apart
    exact absurd starts apart.2

theorem unfinished_padding {count : Nat} (short : count < 8) :
    Unfinished symbolCode (List.replicate count true) := by
  intro symbol starts
  obtain ⟨_, _, fits, notOnes⟩ := huffsyms_bounds _ (huffsym_mem symbol)
  have length := starts.length_le
  rw [length_symbolCode, List.length_replicate] at length
  have ones : symbolCode symbol = List.replicate (huffsym symbol).length true := by
    rw [List.prefix_replicate_iff] at starts
    rw [starts.2, length_symbolCode]
  rw [← bits_ones] at ones
  exact notOnes (by omega) (bits_injective fits (Nat.sub_lt (Nat.two_pow_pos _) Nat.one_pos) ones)

namespace Partial

variable {start : Partial}

theorem code_prefix (listed : start ∈ pendingTbl) :
    ∃ symbol : Symbol, start.sym.code <+: symbolCode symbol ∧
      start.sym.code.length < (symbolCode symbol).length := by
  obtain ⟨inside, short⟩ := pendingTbl_starts start listed
  have split : (huffsym start.symbol).length =
      start.length + ((huffsym start.symbol).length - start.length) := by omega
  have front : symbolCode ⟨start.symbol, inside⟩ = start.sym.code ++
      bits ((huffsym start.symbol).length - start.length) (huffsym start.symbol).bits := by
    change bits (huffsym start.symbol).length (huffsym start.symbol).bits = _
    conv_lhs => rw [split]
    exact bits_add _ _ _
  refine ⟨⟨start.symbol, inside⟩, ⟨_, front.symm⟩, ?_⟩
  rw [length_symbolCode, HuffSym.code, length_bits]
  exact short

theorem unfinished (listed : start ∈ pendingTbl) : Unfinished symbolCode start.sym.code := by
  intro symbol starts
  obtain ⟨whole, front, short⟩ := code_prefix listed
  have same := prefixFree_symbolCode symbol whole (starts.trans front)
  rw [← same] at short
  exact absurd starts.length_le (Nat.not_le_of_lt short)

theorem bits_lt (listed : start ∈ pendingTbl) : start.sym.bits < 2 ^ start.length := by
  obtain ⟨inside, short⟩ := pendingTbl_starts start listed
  obtain ⟨_, _, fits, _⟩ := huffsyms_bounds _ (huffsym_mem ⟨start.symbol, inside⟩)
  have split : 2 ^ (huffsym start.symbol).length =
      2 ^ ((huffsym start.symbol).length - start.length) * 2 ^ start.length := by
    rw [← Nat.pow_add]
    congr 1
    omega
  change (huffsym start.symbol).bits >>> _ < _
  rw [Nat.shiftRight_eq_div_pow]
  exact Nat.div_lt_of_lt_mul (split ▸ fits)

end Partial

theorem rowAccounted_of_statesAccounted {count state : Nat}
    (checked : statesAccounted count = true) (below : state < count) :
    rowAccounted (((tableFrom pendingTbl state).headD ⟨0, 0⟩).sym) (List.range 16)
      (tableRow emitSubTbl ((tableFrom emitTbl state).headD 0))
      (tableRow nextSubTbl ((tableFrom nextTbl state).headD 0)) = true := by
  induction count with
  | zero => exact absurd below (Nat.not_lt_zero state)
  | succ count ih =>
    rw [statesAccounted, Bool.and_eq_true] at checked
    rcases Nat.lt_succ_iff_lt_or_eq.mp below with lower | last
    · exact ih checked.2 lower
    · rw [last]
      exact checked.1

theorem nibbleAccounted_of_row {start : HuffSym} {values emits nexts : List Nat} {index value : Nat}
    (checked : rowAccounted start values emits nexts = true) (listed : values[index]? = some value) :
    nibbleAccounted start value (emits.getD index 0) (nexts.getD index 0) = true := by
  induction values generalizing emits nexts index with
  | nil => exact absurd listed (Option.some_ne_none value).symm
  | cons first values ih =>
    cases emits with
    | nil => exact absurd checked Bool.false_ne_true
    | cons =>
      cases nexts with
      | nil => exact absurd checked Bool.false_ne_true
      | cons =>
        rw [rowAccounted, Bool.and_eq_true] at checked
        cases index with
        | zero =>
          have same : first = value := Option.some.inj listed
          rw [← same]
          exact checked.1
        | succ =>
          have later := ih checked.2 listed
          exact later

def emitAt (state value : Nat) : Nat := emitSubTbl.getD (16 * emitTbl.getD state 0 + value) 0

def nextAt (state value : Nat) : Nat := nextSubTbl.getD (16 * nextTbl.getD state 0 + value) 0

theorem headD_tableFrom {Entry : Type} (table : List Entry) (index : Nat) (default : Entry) :
    (tableFrom table index).headD default = table.getD index default := by
  rw [tableFrom_eq, List.headD_eq_head?_getD, List.head?_drop, List.getD_eq_getElem?_getD]

theorem nibbleAccounted_at {state value : Nat} (below : state < 256) (half : value < 16) :
    nibbleAccounted (pendingTbl.getD state ⟨0, 0⟩).sym value (emitAt state value)
      (nextAt state value) = true := by
  have row := rowAccounted_of_statesAccounted statesAccounted_all below
  have listed : (List.range 16)[value]? = some value := List.getElem?_range half
  have checked := nibbleAccounted_of_row row listed
  rw [headD_tableFrom, headD_tableFrom, headD_tableFrom, tableRow_eq, tableRow_eq, getD_drop,
    getD_drop] at checked
  exact checked

theorem getD_pendingTbl_mem {state : Nat} (below : state < 256) :
    pendingTbl.getD state ⟨0, 0⟩ ∈ pendingTbl := by
  have inside : state < pendingTbl.length := by
    rw [length_pendingTbl]
    exact below
  rw [List.getD_eq_getElem _ _ inside]
  exact List.getElem_mem inside

/-- The symbol completed by half a byte; no entry but these is below 257. -/
def symbolAt (state value : Nat) : Option Symbol :=
  if emitted : emitAt state value < 257 then some ⟨emitAt state value, emitted⟩ else none

theorem code_append_nibble (start : HuffSym) {value : Nat} (half : value < 16) :
    start.code ++ bits 4 value = bits (start.length + 4) (start.bits <<< 4 ||| value) := by
  have fits : value < 2 ^ 4 := half
  exact (bits_shiftLeft_or fits start.length).symm

theorem nibble_accounts {state value : Nat} (below : state < 256) (half : value < 16) :
    nextAt state value < 256 ∧
      (pendingTbl.getD state ⟨0, 0⟩).sym.code ++ bits 4 value =
        encode symbolCode (symbolAt state value).toList ++
          (pendingTbl.getD (nextAt state value) ⟨0, 0⟩).sym.code := by
  have checked := nibbleAccounted_at below half
  rw [code_append_nibble _ half]
  unfold nibbleAccounted at checked
  split at checked
  next => exact absurd checked Bool.false_ne_true
  next after _ found =>
    obtain ⟨inside, entry⟩ := getD_of_tableFrom found ⟨0, 0⟩
    rw [length_pendingTbl] at inside
    refine ⟨inside, ?_⟩
    have low : after.sym.bits < 2 ^ after.length := by
      rw [← entry]
      exact Partial.bits_lt (getD_pendingTbl_mem inside)
    rw [entry]
    split at checked
    next emitted =>
      have emitted : emitAt state value < 257 := Nat.lt_succ_of_le (Nat.le_of_ble_eq_true emitted)
      split at checked
      next => exact absurd checked Bool.false_ne_true
      next sym _ word =>
        have word := (getD_of_tableFrom word ⟨0, 0⟩).2
        rw [Bool.and_eq_true] at checked
        rw [Nat.eq_of_beq_eq_true checked.1, Nat.eq_of_beq_eq_true checked.2,
          bits_shiftLeft_or low, symbolAt, dif_pos emitted]
        change _ = (huffsyms.getD _ _).code ++ [] ++ _
        rw [word, List.append_nil]
        rfl
    next beyond =>
      have beyond : ¬ emitAt state value < 257 := by
        intro below
        rw [Nat.ble_eq_true_of_le (Nat.le_of_lt_succ below)] at beyond
        exact absurd beyond Bool.noConfusion
      rw [Bool.and_eq_true] at checked
      rw [Nat.eq_of_beq_eq_true checked.1, Nat.eq_of_beq_eq_true checked.2, symbolAt,
        dif_neg beyond]
      rfl

def nibbleDecoder : Decoder Symbol Bool (Fin 256) (Fin 16) where
  letters value := bits 4 value
  pending state := (pendingTbl.getD state ⟨0, 0⟩).sym.code
  step state value :=
    (symbolAt state value, ⟨nextAt state value, (nibble_accounts state.isLt value.isLt).1⟩)

theorem accounts_nibbleDecoder : nibbleDecoder.Accounts symbolCode :=
  fun state value => (nibble_accounts state.isLt value.isLt).2

theorem unfinished_nibbleDecoder (state : Fin 256) :
    Unfinished symbolCode (nibbleDecoder.pending state) :=
  Partial.unfinished (getD_pendingTbl_mem state.isLt)

def highHalf (byte : UInt8) : Fin 16 := ⟨(byte >>> 4).toNat, by
  rw [UInt8.toNat_shiftRight, Nat.shiftRight_eq_div_pow]
  exact Nat.div_lt_of_lt_mul byte.toNat_lt⟩

def lowHalf (byte : UInt8) : Fin 16 := ⟨(byte &&& 0xf).toNat, by
  rw [UInt8.toNat_and]
  exact Nat.lt_of_le_of_lt Nat.and_le_right (by decide)⟩

def nibbles (byte : UInt8) : List (Fin 16) := [highHalf byte, lowHalf byte]

theorem letters_nibbles (byte : UInt8) :
    (nibbles byte).flatMap nibbleDecoder.letters = bits 8 byte.toNat := by
  have high : (byte >>> 4).toNat = byte.toNat >>> 4 := UInt8.toNat_shiftRight byte 4
  have low : (byte &&& 0xf).toNat = byte.toNat % 2 ^ 4 := by
    exact Nat.and_two_pow_sub_one_eq_mod byte.toNat 4
  change bits 4 (byte >>> 4).toNat ++ (bits 4 (byte &&& 0xf).toNat ++ []) = _
  rw [high, low, List.append_nil, bits_mod]
  exact (bits_add 4 4 byte.toNat).symm

theorem letters_flatMap_nibbles (bytes : Bytes) :
    (bytes.flatMap nibbles).flatMap nibbleDecoder.letters = ofBytes bytes := by
  rw [List.flatMap_assoc]
  exact List.flatMap_congr fun byte _ => letters_nibbles byte

def symbolByte (symbol : Symbol) : Option UInt8 :=
  if (symbol : Nat) < 256 then some (symbol : Nat).toUInt8 else none

theorem nibble_step (state : Fin 256) (value : Fin 16) :
    Input.nibble state value = ((nibbleDecoder.step state value).1.bind symbolByte,
      ((nibbleDecoder.step state value).2 : Nat)) := by
  have output : (if emitAt state value < 256 then some (emitAt state value).toUInt8 else none) =
      (symbolAt state value).bind symbolByte := by
    by_cases emitted : emitAt state value < 257
    · rw [symbolAt, dif_pos emitted]
      rfl
    · rw [symbolAt, dif_neg emitted, Option.bind_none,
        if_neg fun below => emitted (Nat.lt_succ_of_lt below)]
  exact Prod.ext output rfl

theorem filterMap_toList (symbol : Option Symbol) :
    symbol.toList.filterMap symbolByte = (symbol.bind symbolByte).toList := by
  cases symbol with
  | none => rfl
  | some symbol =>
    cases symbolByte symbol <;> rfl

theorem huffOutput_eq (state : Fin 256) (bytes : Bytes) :
    Input.huffOutput state bytes =
      (nibbleDecoder.emitted state (bytes.flatMap nibbles)).filterMap symbolByte := by
  induction bytes generalizing state with
  | nil => rfl
  | cons byte bytes ih =>
    have high : Input.nibble state (byte >>> 4).toNat = _ := nibble_step state (highHalf byte)
    have low : Input.nibble (nibbleDecoder.step state (highHalf byte)).2 (byte &&& 0xf).toNat = _ :=
      nibble_step (nibbleDecoder.step state (highHalf byte)).2 (lowHalf byte)
    rw [Input.huffOutput, high]
    rw [low, ih, List.flatMap_cons, nibbles, List.cons_append, List.cons_append,
      List.nil_append, Decoder.emitted, Decoder.emitted, List.filterMap_append,
      List.filterMap_append, filterMap_toList, filterMap_toList, List.append_assoc]

end GrpcCore.Hpack
