import GrpcCore.Hpack.BitAccumulator
import GrpcCore.Hpack.HuffmanDecoding

/-!
# When the Huffman compressor is inverted by the parser

The accumulator holds 32 bits, up to eight of them waiting, and a code word has up
to 30. A waiting 1 that the word pushes out is lost, and the parser then reads
something else.
-/

namespace GrpcCore.Hpack

open BitString PrefixCode Incremental

/-- No waiting 1 is pushed out by `length` more bits. -/
def KeepsBits (coded : List Bool) (length : Nat) : Prop :=
  ∀ bit ∈ (pendingBits coded).take (overflow coded length), bit = false

/-- No byte's code word pushes out a waiting 1 of the code words before it. -/
def PushesOutZeros (input : Bytes) : Prop :=
  ∀ before byte after, input = before ++ byte :: after →
    KeepsBits (huffmanCode before) (symbolCode (byteSymbol byte)).length

def pushBytes (coded : List Bool) (input : Bytes) : List Bool :=
  input.foldl (fun coded byte => pushed coded (symbolCode (byteSymbol byte))) coded

theorem symbolCode_short (symbol : Symbol) : (symbolCode symbol).length ≤ 30 := by
  rw [length_symbolCode]
  exact (huffsyms_bounds _ (huffsym_mem symbol)).2.1

variable (coded : List Bool)

theorem overflow_le (symbol : Symbol) :
    overflow coded (symbolCode symbol).length ≤ (pendingBits coded).length := by
  have short := symbolCode_short symbol
  rw [overflow]
  omega

variable {symbol : Symbol}

theorem pushed_of_keeps {coded : List Bool} (keeps : KeepsBits coded (symbolCode symbol).length) :
    pushed coded (symbolCode symbol) = coded ++ symbolCode symbol := by
  rw [pushed, clearFront_eq_self (overflow_le coded symbol) keeps, written_append_pending]

theorem count_pushed (symbol : Symbol) :
    (pushed coded (symbolCode symbol)).count true +
        ((pendingBits coded).take (overflow coded (symbolCode symbol).length)).count true =
      coded.count true + (symbolCode symbol).count true := by
  have cleared := count_clearFront (overflow coded (symbolCode symbol).length) (pendingBits coded)
  have split := congrArg (List.count true) (written_append_pending coded)
  rw [List.count_append] at split
  rw [pushed, List.count_append, List.count_append]
  omega

theorem keeps_of_count {coded : List Bool}
    (all : coded.count true + (symbolCode symbol).count true ≤
      (pushed coded (symbolCode symbol)).count true) :
    KeepsBits coded (symbolCode symbol).length := by
  have counted := count_pushed coded symbol
  intro bit listed
  cases bit with
  | false => rfl
  | true =>
    have some := List.count_pos_iff.mpr listed
    omega

theorem count_pushBytes_le (input : Bytes) :
    (pushBytes coded input).count true ≤ coded.count true + (huffmanCode input).count true := by
  induction input generalizing coded with
  | nil => exact Nat.le_refl _
  | cons byte input ih =>
    have later := ih (pushed coded (symbolCode (byteSymbol byte)))
    have first := count_pushed coded (byteSymbol byte)
    rw [huffmanCode_cons, List.count_append]
    change (pushBytes (pushed coded _) input).count true ≤ _
    omega

theorem pushBytes_eq_iff (input : Bytes) :
    pushBytes coded input = coded ++ huffmanCode input ↔
      ∀ before byte after, input = before ++ byte :: after →
        KeepsBits (coded ++ huffmanCode before) (symbolCode (byteSymbol byte)).length := by
  induction input generalizing coded with
  | nil =>
    constructor
    · intro _ before byte after split
      exact absurd split (by simp)
    · exact fun _ => (List.append_nil coded).symm
  | cons byte input ih =>
    have code (input : Bytes) :
        coded ++ huffmanCode (byte :: input) =
          (coded ++ symbolCode (byteSymbol byte)) ++ huffmanCode input :=
      (List.append_assoc coded _ _).symm
    have step : pushBytes coded (byte :: input) =
        pushBytes (pushed coded (symbolCode (byteSymbol byte))) input := rfl
    constructor
    · intro whole
      have all : coded.count true + (symbolCode (byteSymbol byte)).count true ≤
          (pushed coded (symbolCode (byteSymbol byte))).count true := by
        have counted := congrArg (List.count true) whole
        have later := count_pushBytes_le (pushed coded (symbolCode (byteSymbol byte))) input
        rw [code, List.count_append, List.count_append, step] at counted
        omega
      have keeps := keeps_of_count all
      rw [code, step, pushed_of_keeps keeps] at whole
      have later := (ih _).mp whole
      intro before byte' after split
      cases before with
      | nil =>
        have same := (List.cons_eq_cons.mp split).1
        rw [← same]
        change KeepsBits (coded ++ []) _
        rw [List.append_nil]
        exact keeps
      | cons first before =>
        obtain ⟨same, split⟩ := List.cons_eq_cons.mp split
        rw [← same, code]
        exact later before byte' after split
    · intro keeps
      have first : KeepsBits coded (symbolCode (byteSymbol byte)).length := by
        have first := keeps [] byte input rfl
        change KeepsBits (coded ++ []) _ at first
        rw [List.append_nil] at first
        exact first
      rw [code, step, pushed_of_keeps first]
      apply (ih _).mpr
      intro before byte' after split
      have later := keeps (byte :: before) byte' after (by rw [split]; rfl)
      rw [code] at later
      exact later

variable (input : Bytes)

theorem encode_map_byteSymbol : encode symbolCode (input.map byteSymbol) = huffmanCode input :=
  List.flatMap_map byteSymbol symbolCode input

theorem symbolByte_byteSymbol (byte : UInt8) : symbolByte (byteSymbol byte) = some byte := by
  have below : (byteSymbol byte : Nat) < 256 := byte.toNat_lt
  rw [symbolByte, if_pos below]
  exact congrArg some UInt8.ofNat_toNat

theorem filterMap_map_byteSymbol : (input.map byteSymbol).filterMap symbolByte = input := by
  induction input with
  | nil => rfl
  | cons byte input ih =>
    rw [List.map_cons, List.filterMap_cons, symbolByte_byteSymbol, ih]

theorem byteSymbol_of_symbolByte {byte : UInt8} (output : symbolByte symbol = some byte) :
    byteSymbol byte = symbol := by
  obtain ⟨below, same⟩ := Option.ite_none_right_eq_some.mp output
  apply Fin.ext
  rw [← Option.some.inj same]
  exact Nat.mod_eq_of_lt below

theorem length_of_symbolByte_none (silent : symbolByte symbol = none) :
    (symbolCode symbol).length = 30 := by
  have last : symbol = 256 := by
    apply Fin.ext
    by_contra other
    rw [symbolByte, if_pos (by omega)] at silent
    exact Option.some_ne_none _ silent
  rw [last, length_symbolCode]
  decide

theorem symbols_or_longer (symbols : List Symbol) :
    symbols = (symbols.filterMap symbolByte).map byteSymbol ∨
      (huffmanCode (symbols.filterMap symbolByte)).length + 30 ≤
        (encode symbolCode symbols).length := by
  have shorter (symbols : List Symbol) : (huffmanCode (symbols.filterMap symbolByte)).length ≤
      (encode symbolCode symbols).length := by
    induction symbols with
    | nil => exact Nat.le_refl _
    | cons symbol symbols ih =>
      rw [List.filterMap_cons, encode_cons, List.length_append]
      cases output : symbolByte symbol with
      | none => exact Nat.le_add_left_of_le ih
      | some byte =>
        rw [← byteSymbol_of_symbolByte output]
        rw [huffmanCode_cons, List.length_append]
        exact Nat.add_le_add_left ih _
  induction symbols with
  | nil => exact .inl rfl
  | cons symbol symbols ih =>
    rw [List.filterMap_cons, encode_cons, List.length_append]
    cases output : symbolByte symbol with
    | none =>
      have silent := length_of_symbolByte_none output
      have rest := shorter symbols
      exact .inr (by dsimp only; omega)
    | some byte =>
      have same := byteSymbol_of_symbolByte output
      rw [huffmanCode_cons, List.length_append, List.map_cons, same]
      rcases ih with all | longer
      · exact .inl (congrArg _ all)
      · exact .inr (by omega)

theorem huffOutput_of_code {input out : Bytes} {count : Nat} (short : count < 8)
    (coded : ofBytes out = huffmanCode input ++ List.replicate count true) :
    Input.huffOutput 0 out = input := by
  have read : nibbleDecoder.emitted 0 (out.flatMap nibbles) = input.map byteSymbol := by
    apply accounts_nibbleDecoder.emitted_of_encode prefixFree_symbolCode
      unfinished_nibbleDecoder rfl (unfinished_padding short)
    rw [letters_flatMap_nibbles, encode_map_byteSymbol, coded]
  have output := huffOutput_eq 0 out
  rw [read, filterMap_map_byteSymbol] at output
  exact output

theorem code_of_huffOutput {input out : Bytes} (read : Input.huffOutput 0 out = input)
    (length : (ofBytes out).length < (huffmanCode input).length + 8) :
    huffmanCode input <+: ofBytes out := by
  have output := huffOutput_eq 0 out
  have text := accounts_nibbleDecoder.run 0 (out.flatMap nibbles)
  rw [letters_flatMap_nibbles] at text
  have text : ofBytes out = _ := text
  change Input.huffOutput 0 out = _ at output
  rw [read] at output
  rcases symbols_or_longer (nibbleDecoder.emitted 0 (out.flatMap nibbles)) with all | longer
  · rw [← output] at all
    rw [all, encode_map_byteSymbol] at text
    exact ⟨_, text.symm⟩
  · rw [← output] at longer
    have lengths := congrArg List.length text
    rw [List.length_append] at lengths
    omega

theorem stream_foldl {out : HuffOut} (settled : out.Settled) (input : Bytes) :
    (input.foldl (fun (out : HuffOut) byte => out.add (huffsym byte.toNat)) out).Settled ∧
      (input.foldl (fun (out : HuffOut) byte => out.add (huffsym byte.toNat)) out).stream =
        pushBytes out.stream input := by
  induction input generalizing out with
  | nil => exact ⟨settled, rfl⟩
  | cons byte input ih =>
    obtain ⟨settled, stream⟩ := settled.add (huffsym_mem (byteSymbol byte))
    have rest := ih settled
    rw [stream] at rest
    exact rest

theorem length_pushBytes (input : Bytes) :
    (pushBytes coded input).length = coded.length + (huffmanCode input).length := by
  induction input generalizing coded with
  | nil => rfl
  | cons byte input ih =>
    have short := symbolCode_short (byteSymbol byte)
    have step : pushBytes coded (byte :: input) =
        pushBytes (pushed coded (symbolCode (byteSymbol byte))) input := rfl
    rw [step, ih, length_pushed coded (Nat.le_trans short (by decide)),
      huffmanCode_cons, List.length_append, Nat.add_assoc]

theorem sum_lengths :
    (input.map fun byte => (huffsym byte.toNat).length).sum = (huffmanCode input).length := by
  induction input with
  | nil => rfl
  | cons byte input ih =>
    rw [List.map_cons, List.sum_cons, ih, huffmanCode_cons, List.length_append,
      length_symbolCode]
    rfl

theorem bytesFor_eq {nbits bytes count : Nat} (short : count < 8)
    (filled : 8 * bytes = nbits + count) : bytes = bytesFor nbits := by
  rw [bytesFor]
  split
  next => omega
  next => omega

theorem huffmanCompress_eq : ∃ out count, count < 8 ∧
    huffmanCompress input = some out ∧
      ofBytes out = pushBytes [] input ++ List.replicate count true := by
  obtain ⟨settled, stream⟩ := stream_foldl HuffOut.settled_initial input
  obtain ⟨count, short, finished⟩ := HuffOut.ofBytes_finish settled
  rw [stream] at finished
  refine ⟨_, count, short, ?_, finished⟩
  have lengths := congrArg List.length finished
  rw [length_ofBytes, List.length_append, List.length_replicate, length_pushBytes] at lengths
  apply if_pos
  rw [sum_lengths]
  apply bytesFor_eq short
  rw [lengths]
  exact congrArg (· + count) (Nat.zero_add _)

/-- The parser reads back what the compressor was given. -/
def RoundTrips (input : Bytes) : Prop :=
  ∃ out, huffmanCompress input = some out ∧
    ∀ rest, Input.parseHuff out.length (out ++ rest) = .done input rest

theorem parseHuff_append (out rest : Bytes) :
    Input.parseHuff out.length (out ++ rest) = .done (Input.huffOutput 0 out) rest := by
  have inside : ¬ (out ++ rest).length < out.length := by
    rw [List.length_append]
    omega
  rw [Input.parseHuff, Reader.bind, Reader.take, if_neg inside, List.take_left' rfl,
    List.drop_left' rfl]
  rfl

theorem roundTrips_iff_pushesOutZeros (input : Bytes) :
    RoundTrips input ↔ PushesOutZeros input := by
  obtain ⟨out, count, short, compressed, coded⟩ := huffmanCompress_eq input
  have whole := pushBytes_eq_iff [] input
  constructor
  · intro ⟨out', compressed', read⟩
    rw [compressed] at compressed'
    rw [← Option.some.inj compressed'] at read
    have read := read []
    rw [parseHuff_append] at read
    injection read with read
    have lengths := congrArg List.length coded
    rw [List.length_append, List.length_replicate, length_pushBytes, List.length_nil,
      Nat.zero_add] at lengths
    have starts := code_of_huffOutput read (by omega)
    rw [coded] at starts
    have same : pushBytes [] input = huffmanCode input := by
      have front := List.prefix_iff_eq_take.mp starts
      have length := length_pushBytes [] input
      rw [List.length_nil, Nat.zero_add] at length
      rw [← length, List.take_left' rfl] at front
      exact front.symm
    exact whole.mp same
  · intro zeros
    have same : pushBytes [] input = huffmanCode input := whole.mpr zeros
    rw [same] at coded
    refine ⟨out, compressed, fun rest => ?_⟩
    rw [parseHuff_append, huffOutput_of_code short coded]

/-- A byte of eight bits, then one of 28: four waiting ones are pushed out. -/
theorem waiting_bits_lost : ¬ RoundTrips [0x58, 0x02] := by
  intro ⟨out, compressed, read⟩
  have output : huffmanCompress [0x58, 0x02] = some [12, 255, 255, 254, 47] := by decide
  rw [output] at compressed
  rw [← Option.some.inj compressed] at read
  have read := read []
  rw [parseHuff_append] at read
  injection read with read
  exact absurd read (by decide)

end GrpcCore.Hpack
