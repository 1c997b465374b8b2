import GrpcCore.Lib.BitString
import GrpcCore.Lib.PrefixCode
import GrpcCore.Hpack.Input

/-!
# The Huffman code and its decoder

`grpc_chttp2_huffsyms`, and the proof that the parser's nibble tables decode it:
every state stands for the bits read since the last complete code word.
-/

namespace GrpcCore.Hpack

open BitString PrefixCode

/-- A code word: the low `length` bits of `bits`. -/
structure HuffSym where
  bits : Nat
  length : Nat
deriving DecidableEq

namespace HuffSym

def code (sym : HuffSym) : List Bool := BitString.bits sym.length sym.bits

end HuffSym

/-- `grpc_chttp2_huffsyms`: the 256 bytes, then the end of the string. -/
def huffsyms : List HuffSym := [
    ⟨0x1ff8, 13⟩, ⟨0x7fffd8, 23⟩, ⟨0xfffffe2, 28⟩, ⟨0xfffffe3, 28⟩, ⟨0xfffffe4, 28⟩,
    ⟨0xfffffe5, 28⟩, ⟨0xfffffe6, 28⟩, ⟨0xfffffe7, 28⟩, ⟨0xfffffe8, 28⟩, ⟨0xffffea, 24⟩,
    ⟨0x3ffffffc, 30⟩, ⟨0xfffffe9, 28⟩, ⟨0xfffffea, 28⟩, ⟨0x3ffffffd, 30⟩, ⟨0xfffffeb, 28⟩,
    ⟨0xfffffec, 28⟩, ⟨0xfffffed, 28⟩, ⟨0xfffffee, 28⟩, ⟨0xfffffef, 28⟩, ⟨0xffffff0, 28⟩,
    ⟨0xffffff1, 28⟩, ⟨0xffffff2, 28⟩, ⟨0x3ffffffe, 30⟩, ⟨0xffffff3, 28⟩, ⟨0xffffff4, 28⟩,
    ⟨0xffffff5, 28⟩, ⟨0xffffff6, 28⟩, ⟨0xffffff7, 28⟩, ⟨0xffffff8, 28⟩, ⟨0xffffff9, 28⟩,
    ⟨0xffffffa, 28⟩, ⟨0xffffffb, 28⟩, ⟨0x14, 6⟩, ⟨0x3f8, 10⟩, ⟨0x3f9, 10⟩, ⟨0xffa, 12⟩,
    ⟨0x1ff9, 13⟩, ⟨0x15, 6⟩, ⟨0xf8, 8⟩, ⟨0x7fa, 11⟩, ⟨0x3fa, 10⟩, ⟨0x3fb, 10⟩, ⟨0xf9, 8⟩,
    ⟨0x7fb, 11⟩, ⟨0xfa, 8⟩, ⟨0x16, 6⟩, ⟨0x17, 6⟩, ⟨0x18, 6⟩, ⟨0x0, 5⟩, ⟨0x1, 5⟩, ⟨0x2, 5⟩,
    ⟨0x19, 6⟩, ⟨0x1a, 6⟩, ⟨0x1b, 6⟩, ⟨0x1c, 6⟩, ⟨0x1d, 6⟩, ⟨0x1e, 6⟩, ⟨0x1f, 6⟩, ⟨0x5c, 7⟩,
    ⟨0xfb, 8⟩, ⟨0x7ffc, 15⟩, ⟨0x20, 6⟩, ⟨0xffb, 12⟩, ⟨0x3fc, 10⟩, ⟨0x1ffa, 13⟩, ⟨0x21, 6⟩,
    ⟨0x5d, 7⟩, ⟨0x5e, 7⟩, ⟨0x5f, 7⟩, ⟨0x60, 7⟩, ⟨0x61, 7⟩, ⟨0x62, 7⟩, ⟨0x63, 7⟩, ⟨0x64, 7⟩,
    ⟨0x65, 7⟩, ⟨0x66, 7⟩, ⟨0x67, 7⟩, ⟨0x68, 7⟩, ⟨0x69, 7⟩, ⟨0x6a, 7⟩, ⟨0x6b, 7⟩, ⟨0x6c, 7⟩,
    ⟨0x6d, 7⟩, ⟨0x6e, 7⟩, ⟨0x6f, 7⟩, ⟨0x70, 7⟩, ⟨0x71, 7⟩, ⟨0x72, 7⟩, ⟨0xfc, 8⟩, ⟨0x73, 7⟩,
    ⟨0xfd, 8⟩, ⟨0x1ffb, 13⟩, ⟨0x7fff0, 19⟩, ⟨0x1ffc, 13⟩, ⟨0x3ffc, 14⟩, ⟨0x22, 6⟩, ⟨0x7ffd, 15⟩,
    ⟨0x3, 5⟩, ⟨0x23, 6⟩, ⟨0x4, 5⟩, ⟨0x24, 6⟩, ⟨0x5, 5⟩, ⟨0x25, 6⟩, ⟨0x26, 6⟩, ⟨0x27, 6⟩,
    ⟨0x6, 5⟩, ⟨0x74, 7⟩, ⟨0x75, 7⟩, ⟨0x28, 6⟩, ⟨0x29, 6⟩, ⟨0x2a, 6⟩, ⟨0x7, 5⟩, ⟨0x2b, 6⟩,
    ⟨0x76, 7⟩, ⟨0x2c, 6⟩, ⟨0x8, 5⟩, ⟨0x9, 5⟩, ⟨0x2d, 6⟩, ⟨0x77, 7⟩, ⟨0x78, 7⟩, ⟨0x79, 7⟩,
    ⟨0x7a, 7⟩, ⟨0x7b, 7⟩, ⟨0x7ffe, 15⟩, ⟨0x7fc, 11⟩, ⟨0x3ffd, 14⟩, ⟨0x1ffd, 13⟩, ⟨0xffffffc, 28⟩,
    ⟨0xfffe6, 20⟩, ⟨0x3fffd2, 22⟩, ⟨0xfffe7, 20⟩, ⟨0xfffe8, 20⟩, ⟨0x3fffd3, 22⟩, ⟨0x3fffd4, 22⟩,
    ⟨0x3fffd5, 22⟩, ⟨0x7fffd9, 23⟩, ⟨0x3fffd6, 22⟩, ⟨0x7fffda, 23⟩, ⟨0x7fffdb, 23⟩,
    ⟨0x7fffdc, 23⟩, ⟨0x7fffdd, 23⟩, ⟨0x7fffde, 23⟩, ⟨0xffffeb, 24⟩, ⟨0x7fffdf, 23⟩,
    ⟨0xffffec, 24⟩, ⟨0xffffed, 24⟩, ⟨0x3fffd7, 22⟩, ⟨0x7fffe0, 23⟩, ⟨0xffffee, 24⟩,
    ⟨0x7fffe1, 23⟩, ⟨0x7fffe2, 23⟩, ⟨0x7fffe3, 23⟩, ⟨0x7fffe4, 23⟩, ⟨0x1fffdc, 21⟩,
    ⟨0x3fffd8, 22⟩, ⟨0x7fffe5, 23⟩, ⟨0x3fffd9, 22⟩, ⟨0x7fffe6, 23⟩, ⟨0x7fffe7, 23⟩,
    ⟨0xffffef, 24⟩, ⟨0x3fffda, 22⟩, ⟨0x1fffdd, 21⟩, ⟨0xfffe9, 20⟩, ⟨0x3fffdb, 22⟩,
    ⟨0x3fffdc, 22⟩, ⟨0x7fffe8, 23⟩, ⟨0x7fffe9, 23⟩, ⟨0x1fffde, 21⟩, ⟨0x7fffea, 23⟩,
    ⟨0x3fffdd, 22⟩, ⟨0x3fffde, 22⟩, ⟨0xfffff0, 24⟩, ⟨0x1fffdf, 21⟩, ⟨0x3fffdf, 22⟩,
    ⟨0x7fffeb, 23⟩, ⟨0x7fffec, 23⟩, ⟨0x1fffe0, 21⟩, ⟨0x1fffe1, 21⟩, ⟨0x3fffe0, 22⟩,
    ⟨0x1fffe2, 21⟩, ⟨0x7fffed, 23⟩, ⟨0x3fffe1, 22⟩, ⟨0x7fffee, 23⟩, ⟨0x7fffef, 23⟩,
    ⟨0xfffea, 20⟩, ⟨0x3fffe2, 22⟩, ⟨0x3fffe3, 22⟩, ⟨0x3fffe4, 22⟩, ⟨0x7ffff0, 23⟩,
    ⟨0x3fffe5, 22⟩, ⟨0x3fffe6, 22⟩, ⟨0x7ffff1, 23⟩, ⟨0x3ffffe0, 26⟩, ⟨0x3ffffe1, 26⟩,
    ⟨0xfffeb, 20⟩, ⟨0x7fff1, 19⟩, ⟨0x3fffe7, 22⟩, ⟨0x7ffff2, 23⟩, ⟨0x3fffe8, 22⟩,
    ⟨0x1ffffec, 25⟩, ⟨0x3ffffe2, 26⟩, ⟨0x3ffffe3, 26⟩, ⟨0x3ffffe4, 26⟩, ⟨0x7ffffde, 27⟩,
    ⟨0x7ffffdf, 27⟩, ⟨0x3ffffe5, 26⟩, ⟨0xfffff1, 24⟩, ⟨0x1ffffed, 25⟩, ⟨0x7fff2, 19⟩,
    ⟨0x1fffe3, 21⟩, ⟨0x3ffffe6, 26⟩, ⟨0x7ffffe0, 27⟩, ⟨0x7ffffe1, 27⟩, ⟨0x3ffffe7, 26⟩,
    ⟨0x7ffffe2, 27⟩, ⟨0xfffff2, 24⟩, ⟨0x1fffe4, 21⟩, ⟨0x1fffe5, 21⟩, ⟨0x3ffffe8, 26⟩,
    ⟨0x3ffffe9, 26⟩, ⟨0xffffffd, 28⟩, ⟨0x7ffffe3, 27⟩, ⟨0x7ffffe4, 27⟩, ⟨0x7ffffe5, 27⟩,
    ⟨0xfffec, 20⟩, ⟨0xfffff3, 24⟩, ⟨0xfffed, 20⟩, ⟨0x1fffe6, 21⟩, ⟨0x3fffe9, 22⟩, ⟨0x1fffe7, 21⟩,
    ⟨0x1fffe8, 21⟩, ⟨0x7ffff3, 23⟩, ⟨0x3fffea, 22⟩, ⟨0x3fffeb, 22⟩, ⟨0x1ffffee, 25⟩,
    ⟨0x1ffffef, 25⟩, ⟨0xfffff4, 24⟩, ⟨0xfffff5, 24⟩, ⟨0x3ffffea, 26⟩, ⟨0x7ffff4, 23⟩,
    ⟨0x3ffffeb, 26⟩, ⟨0x7ffffe6, 27⟩, ⟨0x3ffffec, 26⟩, ⟨0x3ffffed, 26⟩, ⟨0x7ffffe7, 27⟩,
    ⟨0x7ffffe8, 27⟩, ⟨0x7ffffe9, 27⟩, ⟨0x7ffffea, 27⟩, ⟨0x7ffffeb, 27⟩, ⟨0xffffffe, 28⟩,
    ⟨0x7ffffec, 27⟩, ⟨0x7ffffed, 27⟩, ⟨0x7ffffee, 27⟩, ⟨0x7ffffef, 27⟩, ⟨0x7fffff0, 27⟩,
    ⟨0x3ffffee, 26⟩, ⟨0x3fffffff, 30⟩]

abbrev Symbol := Fin 257

/-- `GRPC_CHTTP2_HUFFSYM` of a byte. -/
def huffsym (symbol : Nat) : HuffSym := huffsyms.getD symbol ⟨0, 0⟩

def symbolCode (symbol : Symbol) : List Bool := (huffsym symbol).code

def byteSymbol (byte : UInt8) : Symbol := ⟨byte.toNat, Nat.lt_succ_of_lt byte.toNat_lt⟩

/-- The code words of a sequence of bytes, one after another. -/
def huffmanCode (bytes : Bytes) : List Bool := bytes.flatMap fun byte => symbolCode (byteSymbol byte)

@[simp] theorem huffmanCode_nil : huffmanCode [] = [] := rfl

@[simp] theorem huffmanCode_cons (byte : UInt8) (bytes : Bytes) :
    huffmanCode (byte :: bytes) = symbolCode (byteSymbol byte) ++ huffmanCode bytes := rfl

/-- The start of a code word: its symbol, and how many bits of it have been read. -/
structure Partial where
  symbol : Nat
  length : Nat
deriving DecidableEq

namespace Partial

def sym (start : Partial) : HuffSym :=
  ⟨(huffsym start.symbol).bits >>> ((huffsym start.symbol).length - start.length), start.length⟩

end Partial

def pendingTbl : List Partial := [
    ⟨0, 0⟩, ⟨48, 4⟩, ⟨48, 3⟩, ⟨48, 2⟩, ⟨32, 1⟩, ⟨32, 5⟩, ⟨99, 3⟩, ⟨32, 2⟩, ⟨0, 1⟩, ⟨61, 5⟩,
    ⟨32, 3⟩, ⟨58, 2⟩, ⟨58, 6⟩, ⟨47, 3⟩, ⟨61, 3⟩, ⟨58, 3⟩, ⟨69, 3⟩, ⟨0, 3⟩, ⟨38, 7⟩, ⟨44, 7⟩,
    ⟨88, 7⟩, ⟨0, 7⟩, ⟨35, 11⟩, ⟨0, 11⟩, ⟨0, 2⟩, ⟨69, 6⟩, ⟨71, 6⟩, ⟨73, 6⟩, ⟨75, 6⟩, ⟨77, 6⟩,
    ⟨79, 6⟩, ⟨81, 6⟩, ⟨83, 6⟩, ⟨85, 6⟩, ⟨87, 6⟩, ⟨106, 6⟩, ⟨113, 6⟩, ⟨119, 6⟩, ⟨121, 6⟩, ⟨38, 6⟩,
    ⟨0, 6⟩, ⟨39, 10⟩, ⟨35, 10⟩, ⟨0, 10⟩, ⟨60, 14⟩, ⟨1, 14⟩, ⟨92, 18⟩, ⟨128, 18⟩, ⟨131, 18⟩,
    ⟨153, 18⟩, ⟨176, 18⟩, ⟨129, 18⟩, ⟨1, 18⟩, ⟨1, 22⟩, ⟨137, 22⟩, ⟨139, 22⟩, ⟨141, 22⟩, ⟨2, 18⟩,
    ⟨147, 22⟩, ⟨150, 22⟩, ⟨152, 22⟩, ⟨157, 22⟩, ⟨165, 22⟩, ⟨168, 22⟩, ⟨175, 22⟩, ⟨182, 22⟩,
    ⟨188, 22⟩, ⟨197, 22⟩, ⟨9, 22⟩, ⟨144, 22⟩, ⟨171, 22⟩, ⟨199, 22⟩, ⟨192, 22⟩, ⟨203, 26⟩,
    ⟨2, 22⟩, ⟨211, 26⟩, ⟨214, 26⟩, ⟨222, 26⟩, ⟨241, 26⟩, ⟨245, 26⟩, ⟨247, 26⟩, ⟨250, 26⟩,
    ⟨252, 26⟩, ⟨2, 26⟩, ⟨4, 26⟩, ⟨8, 26⟩, ⟨15, 26⟩, ⟨19, 26⟩, ⟨24, 26⟩, ⟨28, 26⟩, ⟨10, 26⟩,
    ⟨1, 11⟩, ⟨1, 15⟩, ⟨128, 19⟩, ⟨131, 19⟩, ⟨184, 19⟩, ⟨224, 19⟩, ⟨153, 19⟩, ⟨176, 19⟩,
    ⟨216, 19⟩, ⟨129, 19⟩, ⟨154, 19⟩, ⟨178, 19⟩, ⟨1, 19⟩, ⟨147, 19⟩, ⟨2, 19⟩, ⟨9, 23⟩, ⟨144, 23⟩,
    ⟨148, 23⟩, ⟨171, 23⟩, ⟨215, 23⟩, ⟨236, 23⟩, ⟨199, 23⟩, ⟨192, 23⟩, ⟨203, 23⟩, ⟨211, 23⟩,
    ⟨2, 23⟩, ⟨2, 27⟩, ⟨4, 27⟩, ⟨6, 27⟩, ⟨8, 27⟩, ⟨12, 27⟩, ⟨15, 27⟩, ⟨17, 27⟩, ⟨19, 27⟩,
    ⟨21, 27⟩, ⟨24, 27⟩, ⟨26, 27⟩, ⟨28, 27⟩, ⟨30, 27⟩, ⟨127, 27⟩, ⟨10, 27⟩, ⟨67, 6⟩, ⟨95, 5⟩,
    ⟨100, 5⟩, ⟨103, 5⟩, ⟨108, 5⟩, ⟨110, 5⟩, ⟨114, 5⟩, ⟨58, 5⟩, ⟨69, 5⟩, ⟨73, 5⟩, ⟨77, 5⟩,
    ⟨81, 5⟩, ⟨85, 5⟩, ⟨106, 5⟩, ⟨119, 5⟩, ⟨0, 5⟩, ⟨33, 9⟩, ⟨40, 9⟩, ⟨39, 9⟩, ⟨0, 9⟩, ⟨94, 13⟩,
    ⟨1, 13⟩, ⟨92, 17⟩, ⟨131, 17⟩, ⟨129, 17⟩, ⟨129, 21⟩, ⟨133, 21⟩, ⟨136, 21⟩, ⟨154, 21⟩,
    ⟨160, 21⟩, ⟨164, 21⟩, ⟨170, 21⟩, ⟨1, 17⟩, ⟨178, 21⟩, ⟨185, 21⟩, ⟨187, 21⟩, ⟨190, 21⟩,
    ⟨198, 21⟩, ⟨232, 21⟩, ⟨1, 21⟩, ⟨139, 21⟩, ⟨147, 21⟩, ⟨152, 21⟩, ⟨165, 21⟩, ⟨175, 21⟩,
    ⟨188, 21⟩, ⟨9, 21⟩, ⟨171, 21⟩, ⟨2, 21⟩, ⟨192, 25⟩, ⟨200, 25⟩, ⟨202, 25⟩, ⟨210, 25⟩,
    ⟨218, 25⟩, ⟨238, 25⟩, ⟨242, 25⟩, ⟨203, 25⟩, ⟨211, 25⟩, ⟨222, 25⟩, ⟨245, 25⟩, ⟨250, 25⟩,
    ⟨2, 25⟩, ⟨8, 25⟩, ⟨19, 25⟩, ⟨10, 25⟩, ⟨10, 29⟩, ⟨22, 29⟩, ⟨45, 5⟩, ⟨47, 5⟩, ⟨52, 5⟩, ⟨54, 5⟩,
    ⟨56, 5⟩, ⟨50, 4⟩, ⟨99, 4⟩, ⟨105, 4⟩, ⟨115, 4⟩, ⟨32, 4⟩, ⟨47, 4⟩, ⟨54, 4⟩, ⟨61, 4⟩, ⟨100, 4⟩,
    ⟨108, 4⟩, ⟨58, 4⟩, ⟨69, 4⟩, ⟨77, 4⟩, ⟨85, 4⟩, ⟨0, 4⟩, ⟨33, 8⟩, ⟨0, 8⟩, ⟨0, 12⟩, ⟨64, 12⟩,
    ⟨93, 12⟩, ⟨1, 12⟩, ⟨92, 16⟩, ⟨153, 20⟩, ⟨167, 20⟩, ⟨1, 16⟩, ⟨176, 20⟩, ⟨179, 20⟩, ⟨216, 20⟩,
    ⟨227, 20⟩, ⟨129, 20⟩, ⟨133, 20⟩, ⟨154, 20⟩, ⟨164, 20⟩, ⟨178, 20⟩, ⟨187, 20⟩, ⟨198, 20⟩,
    ⟨1, 20⟩, ⟨147, 20⟩, ⟨165, 20⟩, ⟨9, 20⟩, ⟨2, 20⟩, ⟨199, 24⟩, ⟨234, 24⟩, ⟨192, 24⟩, ⟨202, 24⟩,
    ⟨218, 24⟩, ⟨203, 24⟩, ⟨211, 24⟩, ⟨245, 24⟩, ⟨2, 24⟩, ⟨10, 24⟩, ⟨10, 28⟩]

/-- A table from one entry on. Each is the tail of the one before, so that a check
over all of them walks the table once. -/
def tableFrom {Entry : Type} (table : List Entry) (index : Nat) : List Entry :=
  Nat.rec table (fun _ rest => rest.tail) index

def tableRow {Entry : Type} (table : List Entry) (row : Nat) : List Entry :=
  Nat.rec table (fun _ rest => rest.drop 16) row

theorem tableFrom_eq {Entry : Type} (table : List Entry) (index : Nat) :
    tableFrom table index = table.drop index := by
  induction index with
  | zero => rfl
  | succ index ih =>
    change (tableFrom table index).tail = _
    rw [ih, List.tail_drop]

theorem tableRow_eq {Entry : Type} (table : List Entry) (row : Nat) :
    tableRow table row = table.drop (16 * row) := by
  induction row with
  | zero => rfl
  | succ row ih =>
    change (tableRow table row).drop 16 = _
    rw [ih, List.drop_drop, Nat.mul_succ]

theorem getD_drop {Entry : Type} (table : List Entry) (skipped index : Nat) (default : Entry) :
    (table.drop skipped).getD index default = table.getD (skipped + index) default := by
  rw [List.getD_eq_getElem?_getD, List.getD_eq_getElem?_getD, List.getElem?_drop]

theorem getD_of_tableFrom {Entry : Type} {table : List Entry} {index : Nat} {entry : Entry}
    {rest : List Entry} (found : tableFrom table index = entry :: rest) (default : Entry) :
    index < table.length ∧ table.getD index default = entry := by
  rw [tableFrom_eq] at found
  have inside : index < table.length := by
    by_contra beyond
    rw [List.drop_eq_nil_of_le (Nat.le_of_not_lt beyond)] at found
    exact List.cons_ne_nil _ _ found.symm
  have entry : (table.drop index).getD 0 default = entry := by
    rw [found]
    rfl
  rw [getD_drop] at entry
  exact ⟨inside, entry⟩

/-- The bits of one nibble read from a state are those of the code word it completes, if
any, and those the next state stands for. -/
def nibbleAccounted (start : HuffSym) (value emit next : Nat) : Bool :=
  match tableFrom pendingTbl next with
  | [] => false
  | after :: _ =>
    match Nat.ble emit 256 with
    | true =>
      match tableFrom huffsyms emit with
      | [] => false
      | sym :: _ =>
        (start.length + 4).beq (sym.length + after.length) &&
          (start.bits <<< 4 ||| value).beq (sym.bits <<< after.length ||| after.sym.bits)
    | false =>
      (start.length + 4).beq after.length && (start.bits <<< 4 ||| value).beq after.sym.bits

def rowAccounted (start : HuffSym) : List Nat → List Nat → List Nat → Bool
  | [], _, _ => true
  | value :: values, emit :: emits, next :: nexts =>
    nibbleAccounted start value emit next && rowAccounted start values emits nexts
  | _ :: _, _, _ => false

def statesAccounted : Nat → Bool
  | 0 => true
  | state + 1 =>
    rowAccounted (((tableFrom pendingTbl state).headD ⟨0, 0⟩).sym) (List.range 16)
        (tableRow emitSubTbl ((tableFrom emitTbl state).headD 0))
        (tableRow nextSubTbl ((tableFrom nextTbl state).headD 0)) &&
      statesAccounted state

theorem tables_checked :
    (huffsyms.length = 257 ∧ pendingTbl.length = 256) ∧
    (∀ sym ∈ huffsyms, 5 ≤ sym.length ∧ sym.length ≤ 30 ∧
      sym.bits < 2 ^ sym.length ∧ (sym.length < 8 → sym.bits ≠ 2 ^ sym.length - 1)) ∧
    (∀ start ∈ pendingTbl,
      start.symbol < 257 ∧ start.length < (huffsym start.symbol).length) ∧
    separated 31 (huffsyms.map HuffSym.code) = true ∧ statesAccounted 256 = true := by
  decide +kernel

theorem length_huffsyms : huffsyms.length = 257 := tables_checked.1.1

theorem length_pendingTbl : pendingTbl.length = 256 := tables_checked.1.2

theorem huffsyms_bounds : ∀ sym ∈ huffsyms, 5 ≤ sym.length ∧ sym.length ≤ 30 ∧
    sym.bits < 2 ^ sym.length ∧ (sym.length < 8 → sym.bits ≠ 2 ^ sym.length - 1) :=
  tables_checked.2.1

theorem pendingTbl_starts : ∀ start ∈ pendingTbl,
    start.symbol < 257 ∧ start.length < (huffsym start.symbol).length := tables_checked.2.2.1

theorem separated_huffsyms : separated 31 (huffsyms.map HuffSym.code) = true :=
  tables_checked.2.2.2.1

theorem statesAccounted_all : statesAccounted 256 = true := tables_checked.2.2.2.2

end GrpcCore.Hpack
