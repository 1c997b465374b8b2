import Mathlib

/-!
# Prefix codes and the automata that decode them

Where no code word starts another, a text determines the symbols it encodes. An
automaton that reads the text in pieces decodes it when every state stands for
the start of a code word not yet complete.
-/

namespace PrefixCode

universe u v w x
variable {Symbol : Type u} {Letter : Type v} {State : Type w} {Piece : Type x}

def PrefixFree (code : Symbol → List Letter) : Prop :=
  ∀ symbol symbol', code symbol <+: code symbol' → symbol = symbol'

def Unfinished (code : Symbol → List Letter) (text : List Letter) : Prop :=
  ∀ symbol, ¬ code symbol <+: text

def encode (code : Symbol → List Letter) (symbols : List Symbol) : List Letter :=
  symbols.flatMap code

variable {code : Symbol → List Letter}

@[simp] theorem encode_nil : encode code [] = [] := rfl

@[simp] theorem encode_cons (symbol : Symbol) (symbols : List Symbol) :
    encode code (symbol :: symbols) = code symbol ++ encode code symbols := rfl

@[simp] theorem encode_append (symbols symbols' : List Symbol) :
    encode code (symbols ++ symbols') = encode code symbols ++ encode code symbols' :=
  List.flatMap_append

theorem PrefixFree.cancel_cons (free : PrefixFree code) {symbol symbol' : Symbol}
    {rest rest' : List Letter} (same : code symbol ++ rest = code symbol' ++ rest') :
    symbol = symbol' ∧ rest = rest' := by
  have equal : symbol = symbol' := by
    rcases List.prefix_or_prefix_of_prefix (List.prefix_append (code symbol) rest)
      (same ▸ List.prefix_append (code symbol') rest') with first | second
    · exact free symbol symbol' first
    · exact (free symbol' symbol second).symm
  subst equal
  exact ⟨rfl, List.append_cancel_left same⟩

theorem PrefixFree.encode_unique (free : PrefixFree code) {symbols symbols' : List Symbol}
    {rest rest' : List Letter} (unfinished : Unfinished code rest)
    (unfinished' : Unfinished code rest')
    (same : encode code symbols ++ rest = encode code symbols' ++ rest') :
    symbols = symbols' ∧ rest = rest' := by
  induction symbols generalizing symbols' with
  | nil =>
    cases symbols' with
    | nil => exact ⟨rfl, same⟩
    | cons symbol' symbols' =>
      have starts : code symbol' <+: rest :=
        ⟨encode code symbols' ++ rest', by rw [← List.append_assoc]; exact same.symm⟩
      exact absurd starts (unfinished symbol')
  | cons symbol symbols ih =>
    cases symbols' with
    | nil =>
      have starts : code symbol <+: rest' :=
        ⟨encode code symbols ++ rest, by rw [← List.append_assoc]; exact same⟩
      exact absurd starts (unfinished' symbol)
    | cons =>
      rw [encode_cons, encode_cons, List.append_assoc, List.append_assoc] at same
      obtain ⟨equal, rest⟩ := free.cancel_cons same
      obtain ⟨symbols, rest⟩ := ih rest
      exact ⟨by rw [equal, symbols], rest⟩

/-- The rest of a word that starts with `letter`. -/
def strip [DecidableEq Letter] (letter : Letter) : List Letter → Option (List Letter)
  | [] => none
  | first :: rest => if first = letter then some rest else none

def separated : Nat → List (List Bool) → Bool
  | _, [] => true
  | _, [_] => true
  | 0, _ => false
  | depth + 1, words =>
    words.all (fun word => !word.isEmpty) && separated depth (words.filterMap (strip false)) &&
      separated depth (words.filterMap (strip true))

def Apart (word word' : List Bool) : Prop := ¬ word <+: word' ∧ ¬ word' <+: word

theorem apart_of_strip {word word' : List Bool} (filled : word ≠ []) (filled' : word' ≠ [])
    (apart : ∀ letter, ∀ rest, strip letter word = some rest →
      ∀ rest', strip letter word' = some rest' → Apart rest rest') : Apart word word' := by
  cases word with
  | nil => exact absurd rfl filled
  | cons first rest =>
    cases word' with
    | nil => exact absurd rfl filled'
    | cons first' rest' =>
      by_cases same : first' = first
      · subst same
        have apart := apart first' rest (if_pos rfl) rest' (if_pos rfl)
        exact ⟨fun starts => apart.1 (List.cons_prefix_cons.mp starts).2,
          fun starts => apart.2 (List.cons_prefix_cons.mp starts).2⟩
      · exact ⟨fun starts => same (List.cons_prefix_cons.mp starts).1.symm,
          fun starts => same (List.cons_prefix_cons.mp starts).1⟩

theorem pairwise_apart_of_separated {depth : Nat} {words : List (List Bool)}
    (checked : separated depth words = true) : words.Pairwise Apart := by
  fun_induction separated depth words with
  | case1 => exact List.Pairwise.nil
  | case2 => exact List.pairwise_singleton _ _
  | case3 => exact absurd checked Bool.false_ne_true
  | case4 depth words _ _ zeros ones =>
    obtain ⟨⟨filled, checkedZeros⟩, checkedOnes⟩ :
        (words.all (fun word => !word.isEmpty) = true ∧
          separated depth (words.filterMap (strip false)) = true) ∧
          separated depth (words.filterMap (strip true)) = true := by
      rw [Bool.and_eq_true, Bool.and_eq_true] at checked
      exact checked
    have nonempty : ∀ word ∈ words, word ≠ [] := by
      intro word listed empty
      have filled := List.all_eq_true.mp filled word listed
      rw [empty] at filled
      exact Bool.false_ne_true filled
    have both := (List.pairwise_filterMap.mp (zeros checkedZeros)).and
      (List.pairwise_filterMap.mp (ones checkedOnes))
    apply both.imp_of_mem
    intro word word' listed listed' apart
    apply apart_of_strip (nonempty word listed) (nonempty word' listed')
    intro letter
    cases letter with
    | false => exact apart.1
    | true => exact apart.2

structure Decoder (Symbol : Type u) (Letter : Type v) (State : Type w) (Piece : Type x) where
  /-- The letters that make up a piece. -/
  letters : Piece → List Letter
  /-- What a state has read since the last code word ended. -/
  pending : State → List Letter
  step : State → Piece → Option Symbol × State

namespace Decoder

variable (decoder : Decoder Symbol Letter State Piece)

def Accounts (code : Symbol → List Letter) : Prop :=
  ∀ state piece, decoder.pending state ++ decoder.letters piece =
    encode code (decoder.step state piece).1.toList ++
      decoder.pending (decoder.step state piece).2

def emitted : State → List Piece → List Symbol
  | _, [] => []
  | state, piece :: pieces =>
    (decoder.step state piece).1.toList ++ emitted (decoder.step state piece).2 pieces

def final : State → List Piece → State
  | state, [] => state
  | state, piece :: pieces => final (decoder.step state piece).2 pieces

variable {decoder}

theorem Accounts.run (accounts : decoder.Accounts code) (state : State) (pieces : List Piece) :
    decoder.pending state ++ pieces.flatMap decoder.letters =
      encode code (decoder.emitted state pieces) ++
        decoder.pending (decoder.final state pieces) := by
  induction pieces generalizing state with
  | nil => exact List.append_nil _
  | cons piece pieces ih =>
    calc decoder.pending state ++ (decoder.letters piece ++ pieces.flatMap decoder.letters)
        = encode code (decoder.step state piece).1.toList ++
            (decoder.pending (decoder.step state piece).2 ++ pieces.flatMap decoder.letters) := by
          rw [← List.append_assoc, accounts state piece, List.append_assoc]
      _ = encode code (decoder.emitted state (piece :: pieces)) ++
            decoder.pending (decoder.final state (piece :: pieces)) := by
          rw [ih, ← List.append_assoc, ← encode_append]
          rfl

theorem Accounts.emitted_of_encode (accounts : decoder.Accounts code) (free : PrefixFree code)
    (unfinished : ∀ state, Unfinished code (decoder.pending state)) {start : State}
    (between : decoder.pending start = []) {pieces : List Piece} {symbols : List Symbol}
    {rest : List Letter} (unfinishedRest : Unfinished code rest)
    (text : pieces.flatMap decoder.letters = encode code symbols ++ rest) :
    decoder.emitted start pieces = symbols := by
  have read := accounts.run start pieces
  rw [between, List.nil_append, text] at read
  exact (free.encode_unique unfinishedRest (unfinished _) read).1.symm

end Decoder

end PrefixCode
