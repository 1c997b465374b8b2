import GrpcCore.ClientChannel.LbConfig
import GrpcCore.Cpp.LoadDataStore
import GrpcCore.Lib.BigEndian

/-!
# Keys of load records

What the filter stores of a client's address and its balancer token, and what the load
reporter reads of it. A character stands for a byte.
-/

namespace GrpcCore.Cpp

/-- The address of a peer: the values of its 32-bit words in network order. -/
inductive ClientAddress where
  | absent
  | ipv4 (word : UInt32)
  | ipv6 (first second third fourth : UInt32)
deriving DecidableEq

/-- The bytes that `grpc_htonl` leaves in memory. -/
def htonl (word : UInt32) : List UInt8 := BigEndian.bytes32 word.toNat

def ClientAddress.bytes : ClientAddress → List UInt8
  | absent => []
  | ipv4 word => htonl word
  | ipv6 first second third fourth => htonl first ++ htonl second ++ htonl third ++ htonl fourth

section Store

def hexDigit (value : Nat) : Char := Char.ofNat (if value < 10 then 48 + value else 87 + value)

/-- The format `%08x`. -/
def format08x (word : UInt32) : List Char :=
  [7, 6, 5, 4, 3, 2, 1, 0].map fun place => hexDigit (word.toNat / 16 ^ place % 16)

/-- `GetCensusSafeClientIpString`. -/
def ClientAddress.censusSafeString : ClientAddress → List Char
  | absent => []
  | ipv4 word => format08x word
  | ipv6 first second third fourth => [first, second, third, fourth].flatMap format08x

/-- What `strncpy` writes: zeros from the end of the source on. -/
def strncpy (source : List Char) (count : Nat) : List Char :=
  let text := (source.take count).takeWhile (· ≠ '\x00')
  text ++ List.replicate (count - text.length) '\x00'

def storeClientIpAndLrToken (address : ClientAddress) (lrToken : List Char) :
    Option (List Char) :=
  let clientIp := address.censusSafeString
  let rest := strncpy clientIp clientIp.length ++ strncpy lrToken lrToken.length
  if clientIp.length = 0 then some (strncpy ['0', '0'] 2 ++ rest)
  else if clientIp.length = 8 then some (strncpy ['0', '8'] 2 ++ rest)
  else if clientIp.length = 32 then some (strncpy ['3', '2'] 2 ++ rest)
  else none

end Store

section Read

/-- The format `%d` of a text that is too short to overflow. -/
def scanDecimal (text : List Char) : Option Int :=
  let (value, rest) := ClientChannel.strtol text
  if rest.length = text.length then none else some value

def hexValue (digit : Char) : Option Nat :=
  if digit.isDigit then some (digit.toNat - 48)
  else if 'a' ≤ digit ∧ digit ≤ 'f' then some (digit.toNat - 87)
  else if 'A' ≤ digit ∧ digit ≤ 'F' then some (digit.toNat - 55)
  else none

/-- The format `%x`: all leading digits, and what fits the word of their value. -/
def scanHex (text : List Char) : Option UInt32 :=
  let digits := text.takeWhile fun char => (hexValue char).isSome
  if digits = [] then none
  else some (UInt32.ofNat
    (digits.foldl (fun value digit => value * 16 + (hexValue digit).getD 0) 0))

/-- No text when the position is behind the end, where the code throws. -/
def substr (text : List Char) (position count : Nat) : Option (List Char) :=
  if position ≤ text.length then some ((text.drop position).take count) else none

/-- The constructor of `LoadRecordKey` from what the filter has stored. -/
def LoadRecordKey.read (clientIpAndToken : List Char) (userId : String) : Option LoadRecordKey := do
  if clientIpAndToken.length < 2 then none
  let ipHexSize ← scanDecimal (clientIpAndToken.take 2)
  if ¬ (ipHexSize = 0 ∨ ipHexSize = 8 ∨ ipHexSize = 32) then none
  let clientIpHex ← substr clientIpAndToken 2 ipHexSize.toNat
  let curPos := 2 + ipHexSize.toNat
  -- the difference of the sizes is unsigned, and so is large behind the end
  if curPos ≤ clientIpAndToken.length ∧ clientIpAndToken.length - curPos < 8 then
    some ⟨kInvalidLbId, "", userId, .ofList clientIpHex⟩
  else
    let lbId ← substr clientIpAndToken curPos 8
    let lbTag ← substr clientIpAndToken (curPos + 8) clientIpAndToken.length
    some ⟨.ofList lbId, .ofList lbTag, userId, .ofList clientIpHex⟩

/-- The part of each word is cut from its first digit on, and as long as the words up to it. -/
def LoadRecordKey.getClientIpBytes (key : LoadRecordKey) : Option (List UInt8) :=
  let hex := key.clientIpHex.toList
  if hex = [] then some []
  else if hex.length = 8 then
    match scanHex hex with
    | none => some []
    | some word => some (htonl word)
  else if hex.length = 32 then
    match [0, 1, 2, 3].mapM fun i => (substr hex (i * 8) ((i + 1) * 8)).bind scanHex with
    | none => some []
    | some words => some (words.flatMap htonl)
  else none

end Read

section RoundTrip

def ClientAddress.Reread : ClientAddress → Prop
  | ipv6 _ second third fourth => second = third ∧ third = fourth
  | _ => True

/-- What is stored for a client is read again. -/
def RoundTrips (address : ClientAddress) (lrToken : List Char) (userId : String) : Prop :=
  ∃ text key, storeClientIpAndLrToken address lrToken = some text ∧
    LoadRecordKey.read text userId = some key ∧ key.getClientIpBytes = some address.bytes ∧
      (key.lbId, key.lbTag) =
        if lrToken.length < 8 then (kInvalidLbId, "")
        else (.ofList (lrToken.take 8), .ofList (lrToken.drop 8))

theorem hexValue_hexDigit {value : Nat} (small : value < 16) :
    hexValue (hexDigit value) = some value := by
  have all : ∀ value < 16, hexValue (hexDigit value) = some value := by decide
  exact all value small

theorem mem_format08x {word : UInt32} {char : Char} (mem : char ∈ format08x word) :
    (hexValue char).isSome := by
  obtain ⟨place, -, rfl⟩ := List.mem_map.mp mem
  rw [hexValue_hexDigit (Nat.mod_lt _ (by decide))]
  rfl

@[simp] theorem length_format08x (word : UInt32) : (format08x word).length = 8 := rfl

theorem foldl_format08x (word : UInt32) (value : Nat) :
    (format08x word).foldl (fun value digit => value * 16 + (hexValue digit).getD 0) value =
      value * 4294967296 + word.toNat := by
  have bound := word.toNat_lt
  simp only [format08x, List.map_cons, List.map_nil, List.foldl_cons, List.foldl_nil,
    hexValue_hexDigit (Nat.mod_lt _ (by decide : 0 < 16)), Option.getD_some]
  omega

/-- Of two words in one part the last one is left. -/
theorem scanHex_append (before : List Char) (all : ∀ char ∈ before, (hexValue char).isSome)
    (word : UInt32) : scanHex (before ++ format08x word) = some word := by
  have digits : (before ++ format08x word).takeWhile (fun char => (hexValue char).isSome) =
      before ++ format08x word := by
    rw [List.takeWhile_eq_self_iff]
    intro char mem
    exact (List.mem_append.mp mem).elim (all char) mem_format08x
  rw [scanHex, digits, if_neg (by simp [format08x]), List.foldl_append, foldl_format08x]
  congr 1
  apply UInt32.toNat_inj.mp
  rw [UInt32.toNat_ofNat', Nat.mul_add_mod_self_right]
  exact Nat.mod_eq_of_lt word.toNat_lt

theorem scanHex_format08x (word : UInt32) : scanHex (format08x word) = some word :=
  scanHex_append [] nofun word

theorem scanHex_pair (first second : UInt32) :
    scanHex (format08x first ++ format08x second) = some second :=
  scanHex_append _ (fun _ => mem_format08x) second

theorem htonl_injective : Function.Injective htonl := by
  intro first second same
  simp only [htonl, BigEndian.bytes32, List.cons.injEq, and_true] at same
  obtain ⟨same0, same1, same2, same3⟩ := same
  have joined := BigEndian.join_bytes32 first.toNat_lt
  rw [same0, same1, same2, same3, BigEndian.join_bytes32 second.toNat_lt] at joined
  exact UInt32.toNat_inj.mp joined.symm

theorem strncpy_of_not_mem {source : List Char} (whole : '\x00' ∉ source) :
    strncpy source source.length = source := by
  have text : source.takeWhile (· ≠ '\x00') = source := by
    rw [List.takeWhile_eq_self_iff]
    intro char mem
    exact decide_eq_true (ne_of_mem_of_not_mem mem whole)
  rw [strncpy, List.take_length, text, Nat.sub_self]
  exact List.append_nil source

theorem censusSafeString_whole (address : ClientAddress) :
    '\x00' ∉ address.censusSafeString := by
  have word_whole (word : UInt32) : '\x00' ∉ format08x word := fun mem =>
    absurd (mem_format08x mem) (by decide)
  cases address with
  | absent => exact List.not_mem_nil
  | ipv4 word => exact word_whole word
  | ipv6 first second third fourth =>
    intro mem
    obtain ⟨word, -, mem⟩ := List.mem_flatMap.mp mem
    exact word_whole word mem

variable {lrToken : List Char} (userId : String)

theorem substr_append (before : List Char) {after : List Char} {skipped : Nat}
    (inside : skipped ≤ after.length) (count : Nat) :
    substr (before ++ after) (before.length + skipped) count =
      some ((after.drop skipped).take count) := by
  rw [substr, if_pos, List.drop_length_add_append]
  rw [List.length_append]
  exact Nat.add_le_add_left inside _

theorem read_eq {tens ones : Char} {hex : List Char}
    (size : scanDecimal [tens, ones] = some (hex.length : Int))
    (fits : hex.length = 0 ∨ hex.length = 8 ∨ hex.length = 32) :
    LoadRecordKey.read (([tens, ones] ++ hex) ++ lrToken) userId =
      some (if lrToken.length < 8 then ⟨kInvalidLbId, "", userId, .ofList hex⟩
        else ⟨.ofList (lrToken.take 8), .ofList (lrToken.drop 8), userId, .ofList hex⟩) := by
  have fits : (hex.length : Int) = 0 ∨ (hex.length : Int) = 8 ∨ (hex.length : Int) = 32 := by
    exact_mod_cast fits
  have before : ([tens, ones] ++ hex).length = 2 + hex.length := List.length_append
  have length : (([tens, ones] ++ hex) ++ lrToken).length = 2 + hex.length + lrToken.length := by
    rw [List.length_append, before]
  have hexPart : substr (([tens, ones] ++ hex) ++ lrToken) 2 hex.length = some hex := by
    exact (substr_append [tens, ones] (Nat.zero_le _) _).trans (congrArg some List.take_left)
  have tokenPart (skipped : Nat) (inside : skipped ≤ lrToken.length) (count : Nat) :=
    substr_append ([tens, ones] ++ hex) inside count
  rw [before] at tokenPart
  have pair : (([tens, ones] ++ hex) ++ lrToken).take 2 = [tens, ones] := rfl
  have long : ¬ 2 + hex.length + lrToken.length < 2 := by omega
  simp only [LoadRecordKey.read, length, pair, size, Int.toNat_natCast, hexPart, fits, long,
    Option.bind_eq_bind, Option.bind_some, not_true_eq_false, if_false, Nat.add_sub_cancel_left,
    Nat.le_add_right, true_and]
  by_cases short : lrToken.length < 8
  · simp only [short, if_true]
  · have lbId := tokenPart 0 (Nat.zero_le _) 8
    have lbTag := tokenPart 8 (Nat.le_of_not_lt short) (2 + hex.length + lrToken.length)
    rw [Nat.add_zero, List.drop_zero] at lbId
    rw [List.take_of_length_le (by rw [List.length_drop]; omega)] at lbTag
    simp only [short, if_false, lbId, lbTag, Option.bind_some]

theorem store_eq (address : ClientAddress) (whole : '\x00' ∉ lrToken) :
    ∃ tens ones, storeClientIpAndLrToken address lrToken =
        some (([tens, ones] ++ address.censusSafeString) ++ lrToken) ∧
      scanDecimal [tens, ones] = some (address.censusSafeString.length : Int) ∧
      (address.censusSafeString.length = 0 ∨ address.censusSafeString.length = 8 ∨
        address.censusSafeString.length = 32) := by
  rw [storeClientIpAndLrToken, strncpy_of_not_mem whole,
    strncpy_of_not_mem (censusSafeString_whole address)]
  cases address with
  | absent => exact ⟨'0', '0', rfl, by decide, .inl rfl⟩
  | ipv4 word => exact ⟨'0', '8', rfl, (by decide : scanDecimal ['0', '8'] = some 8), .inr (.inl rfl)⟩
  | ipv6 first second third fourth => exact ⟨'3', '2', rfl, (by decide : scanDecimal ['3', '2'] = some 32), .inr (.inr rfl)⟩

/-- The second and the third part have two words, of which the last is read. -/
theorem words_read (first second third fourth : UInt32) :
    ([0, 1, 2, 3].mapM fun i => (substr ([first, second, third, fourth].flatMap format08x)
      (i * 8) ((i + 1) * 8)).bind scanHex) = some [first, third, fourth, fourth] := by
  have part0 : substr (format08x first ++ (format08x second ++
      (format08x third ++ format08x fourth))) 0 8 = some (format08x first) := rfl
  have part1 : substr (format08x first ++ (format08x second ++
      (format08x third ++ format08x fourth))) 8 16 =
        some (format08x second ++ format08x third) := rfl
  have part2 : substr (format08x first ++ (format08x second ++
      (format08x third ++ format08x fourth))) 16 24 =
        some (format08x third ++ format08x fourth) := rfl
  have part3 : substr (format08x first ++ (format08x second ++
      (format08x third ++ format08x fourth))) 24 32 = some (format08x fourth) := rfl
  simp [part0, part1, part2, part3, scanHex_format08x, scanHex_pair]

theorem getClientIpBytes_eq (address : ClientAddress) (lbId lbTag : String) :
    LoadRecordKey.getClientIpBytes ⟨lbId, lbTag, userId, .ofList address.censusSafeString⟩ =
      some (match address with
        | .absent => []
        | .ipv4 word => htonl word
        | .ipv6 first _ third fourth => [first, third, fourth, fourth].flatMap htonl) := by
  rw [LoadRecordKey.getClientIpBytes]
  simp only [String.toList_ofList]
  cases address with
  | absent => rfl
  | ipv4 word =>
    simp only [ClientAddress.censusSafeString, length_format08x, scanHex_format08x, if_true]
    rfl
  | ipv6 first second third fourth =>
    simp only [ClientAddress.censusSafeString, words_read]
    rfl

theorem words_eq_iff (first second third fourth : UInt32) :
    [first, third, fourth, fourth].flatMap htonl =
        (ClientAddress.ipv6 first second third fourth).bytes ↔ second = third ∧ third = fourth := by
  constructor
  · intro same
    simp only [List.flatMap_cons, List.flatMap_nil, List.append_nil, ClientAddress.bytes,
      List.append_assoc, List.append_cancel_left_eq] at same
    obtain ⟨second_eq, same⟩ := List.append_inj same rfl
    obtain ⟨third_eq, -⟩ := List.append_inj same rfl
    exact ⟨htonl_injective second_eq.symm, htonl_injective third_eq.symm⟩
  · rintro ⟨rfl, rfl⟩
    simp only [List.flatMap_cons, List.flatMap_nil, List.append_nil, ClientAddress.bytes,
      List.append_assoc]

/-- A key is read as it was stored, but for an address of version 6 whose last three words
differ. -/
theorem key_reread_iff (address : ClientAddress) (whole : '\x00' ∉ lrToken) :
    RoundTrips address lrToken userId ↔ address.Reread := by
  obtain ⟨tens, ones, stored, size, fits⟩ := store_eq address whole
  have key := @read_eq lrToken userId _ _ _ size fits
  have bytes_iff (lbId lbTag : String) :
      LoadRecordKey.getClientIpBytes ⟨lbId, lbTag, userId, .ofList address.censusSafeString⟩ =
        some address.bytes ↔ address.Reread := by
    rw [getClientIpBytes_eq, Option.some.injEq]
    cases address with
    | absent => exact iff_of_true rfl trivial
    | ipv4 word => exact iff_of_true rfl trivial
    | ipv6 first second third fourth => exact words_eq_iff first second third fourth
  constructor
  · rintro ⟨text, read, stored', isRead, bytes, -⟩
    obtain rfl := Option.mem_unique stored stored'
    obtain rfl := Option.mem_unique key isRead
    split_ifs at bytes
    · exact (bytes_iff _ _).mp bytes
    · exact (bytes_iff _ _).mp bytes
  · intro reread
    refine ⟨_, _, stored, key, ?_⟩
    split_ifs
    · exact ⟨(bytes_iff _ _).mpr reread, rfl⟩
    · exact ⟨(bytes_iff _ _).mpr reread, rfl⟩

theorem key_reread_iff_ipv4 :
    RoundTrips (.ipv4 0x7f000001) ['t', 'o', 'k', 'e', 'n'] "user" ↔
      (ClientAddress.ipv4 0x7f000001).Reread :=
  key_reread_iff "user" (.ipv4 0x7f000001) (by decide)

/-- The second and the third word are read as the words after them. -/
theorem ipv6_misread : ¬ RoundTrips (.ipv6 0x20010db8 1 2 3) [] "user" := by
  rintro ⟨text, key, stored, isRead, bytes, -⟩
  have misread : ((storeClientIpAndLrToken (.ipv6 0x20010db8 1 2 3) []).bind fun text =>
      (LoadRecordKey.read text "user").bind LoadRecordKey.getClientIpBytes) ≠
        some (ClientAddress.ipv6 0x20010db8 1 2 3).bytes := by
    decide
  rw [stored, Option.bind_some, isRead, Option.bind_some] at misread
  exact misread bytes

end RoundTrip

end GrpcCore.Cpp
