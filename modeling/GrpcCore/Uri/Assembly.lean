import GrpcCore.Uri.UriParser

/-!
# Assembled URIs

URIs put together from encoded components, and what `URI::Parse` makes of them.
-/

namespace GrpcCore.UriParser

open PercentEscapes (percent Spells ne_percent_of_value)

/-- What absl documents for `\xhh`: the byte with that hexadecimal value. -/
def UnescapesHex (cUnescape : Bytes → Option Bytes) : Prop :=
  ∀ first second high low, Hex.value first = some high → Hex.value second = some low →
    cUnescape (bytes "\\x" ++ [first, second]) = some [Hex.join high low]

def endsEscaped : Bytes → Bool
  | [] => false
  | byte :: rest => (rest.length == 2 && byte == percent) || endsEscaped rest

section Decoding

variable {cUnescape : Bytes → Option Bytes} {plain : UInt8 → Prop} {text str : Bytes}

theorem decodeFrom_cons {byte : UInt8} (other : byte ≠ percent) (rest : Bytes) :
    decodeFrom cUnescape (byte :: rest) = byte :: decodeFrom cUnescape rest := by
  rcases rest with _ | ⟨first, _ | ⟨second, _ | ⟨third, rest⟩⟩⟩
  all_goals exact if_neg other

theorem decodeFrom_append_of_not_mem {front : Bytes} (none : percent ∉ front) (rest : Bytes) :
    decodeFrom cUnescape (front ++ rest) = front ++ decodeFrom cUnescape rest := by
  induction front with
  | nil => rfl
  | cons byte front ih =>
    obtain ⟨other, noneFront⟩ := List.ne_and_not_mem_of_not_mem_cons none
    rw [List.cons_append, decodeFrom_cons other.symm, ih noneFront, List.cons_append]

theorem decodeFrom_of_not_mem (none : percent ∉ text) : decodeFrom cUnescape text = text := by
  have copied : decodeFrom cUnescape (text ++ []) = text ++ [] :=
    decodeFrom_append_of_not_mem none []
  rwa [List.append_nil] at copied

theorem percentDecode_eq (str : Bytes) : percentDecode cUnescape str = decodeFrom cUnescape str := by
  unfold percentDecode
  split_ifs with escaped
  · rfl
  · exact (decodeFrom_of_not_mem fun listed => escaped (List.contains_iff_mem.mpr listed)).symm

theorem decodeFrom_escape (unescapes : UnescapesHex cUnescape) {first second high low : UInt8}
    (readHigh : Hex.value first = some high) (readLow : Hex.value second = some low)
    {rest : Bytes} (more : rest ≠ []) :
    decodeFrom cUnescape (percent :: first :: second :: rest) =
      Hex.join high low :: decodeFrom cUnescape rest := by
  cases rest with
  | nil => exact absurd rfl more
  | cons =>
    rw [decodeFrom, if_pos rfl, unescapes first second high low readHigh readLow]
    rfl

theorem decodeFrom_lastEscape {first second high low : UInt8}
    (readHigh : Hex.value first = some high) (readLow : Hex.value second = some low) :
    decodeFrom cUnescape [percent, first, second] = [percent, first, second] := by
  have copied : decodeFrom cUnescape [first, second] = [first, second] := decodeFrom_of_not_mem
    (by simp [(ne_percent_of_value readHigh).symm, (ne_percent_of_value readLow).symm])
  exact congrArg (percent :: ·) copied

section

variable (unescapes : UnescapesHex cUnescape) (spells : Spells plain text str)
include unescapes spells

theorem decodeFrom_eq_iff : decodeFrom cUnescape text = str ↔ endsEscaped text = false := by
  induction spells with
  | nil => exact iff_of_true rfl rfl
  | @plain byte text str other allowed rest ih =>
    rw [decodeFrom_cons other, List.cons_inj_right, ih, endsEscaped,
      beq_eq_false_iff_ne.mpr other, Bool.and_false, Bool.false_or]
  | @escaped first second high low text str readHigh readLow rest ih =>
    have noFirst := beq_eq_false_iff_ne.mpr (ne_percent_of_value readHigh)
    have noSecond := beq_eq_false_iff_ne.mpr (ne_percent_of_value readLow)
    by_cases more : text = []
    · subst more
      rw [decodeFrom_lastEscape readHigh readLow]
      cases rest
      have ends : endsEscaped [percent, first, second] = true := rfl
      exact iff_of_false (by simp) (by rw [ends]; decide)
    · have long : ((first :: second :: text).length == 2) = false := by
        simpa using more
      rw [decodeFrom_escape unescapes readHigh readLow more, List.cons_inj_right,
        ih, endsEscaped, endsEscaped, endsEscaped, long, noFirst, noSecond,
        Bool.false_and, Bool.and_false, Bool.and_false, Bool.false_or, Bool.false_or,
        Bool.false_or]

theorem decodeFrom_append {rest : Bytes} (more : rest ≠ []) :
    decodeFrom cUnescape (text ++ rest) = str ++ decodeFrom cUnescape rest := by
  induction spells with
  | nil => rfl
  | plain other allowed spells ih =>
    rw [List.cons_append, decodeFrom_cons other, ih, List.cons_append]
  | escaped readHigh readLow spells ih =>
    rw [List.cons_append, List.cons_append, List.cons_append,
      decodeFrom_escape unescapes readHigh readLow (List.append_ne_nil_of_right_ne_nil _ more),
      ih, List.cons_append]

theorem decodeFrom_measure (le : Bytes → Bytes → Prop) (refl : le [] [])
    (cons : ∀ byte front back, le front back → le (byte :: front) (byte :: back))
    (left : ∀ first second high low, Hex.value first = some high → Hex.value second = some low →
      le [Hex.join high low] [percent, first, second]) :
    le str (decodeFrom cUnescape text) := by
  induction spells with
  | nil => exact refl
  | @plain byte text str other allowed rest ih =>
    rw [decodeFrom_cons other]
    exact cons byte _ _ ih
  | @escaped first second high low text str readHigh readLow rest ih =>
    by_cases more : text = []
    · subst more
      cases rest
      rw [decodeFrom_lastEscape readHigh readLow]
      exact left first second high low readHigh readLow
    · rw [decodeFrom_escape unescapes readHigh readLow more]
      exact cons _ _ _ ih

theorem length_le_decodeFrom : str.length ≤ (decodeFrom cUnescape text).length :=
  decodeFrom_measure unescapes spells (fun front back => front.length ≤ back.length)
    (Nat.le_refl 0) (fun _ _ _ => Nat.succ_le_succ) fun _ _ _ _ _ _ => Nat.le_add_left 1 2

end

theorem ne_slash_of_value {byte half : UInt8} (read : Hex.value byte = some half) :
    byte ≠ slash := by
  rintro rfl
  have unread : Hex.value slash = none := by decide
  exact absurd (unread.symm.trans read) nofun

theorem count_slash_decodeFrom (unescapes : UnescapesHex cUnescape)
    (spells : Spells plain text str) :
    (decodeFrom cUnescape text).count slash ≤ str.count slash := by
  refine decodeFrom_measure unescapes spells
    (fun front back => back.count slash ≤ front.count slash) (Nat.le_refl 0)
    (fun byte front back le => ?_) (fun first second high low readHigh readLow => ?_)
  · rw [List.count_cons, List.count_cons]
    exact Nat.add_le_add_right le _
  · have none : slash ∉ [percent, first, second] := by
      simp [(ne_slash_of_value readHigh).symm, (ne_slash_of_value readLow).symm,
        (by decide : slash ≠ percent)]
    rw [List.count_eq_zero.mpr none]
    exact Nat.zero_le _

theorem decodeFrom_ne_nil (more : text ≠ []) : decodeFrom cUnescape text ≠ [] := by
  cases text with
  | nil => exact absurd rfl more
  | cons byte rest =>
    by_cases other : byte = percent
    · rcases rest with _ | ⟨first, _ | ⟨second, _ | ⟨third, rest⟩⟩⟩
      iterate 3 exact (if_pos other).trans_ne (List.cons_ne_nil _ _)
      · rw [decodeFrom, if_pos other]
        split
        · split_ifs
          · exact List.cons_ne_nil _ _
          · exact List.cons_ne_nil _ _
        · exact List.cons_ne_nil _ _
    · rw [decodeFrom_cons other]
      exact List.cons_ne_nil _ _

theorem lt_length_decodeFrom_drop (unescapes : UnescapesHex cUnescape)
    (spells : Spells plain text str) {n : Nat} (cut : n < text.length) {rest back : Bytes}
    (spellsRest : Spells plain rest back) :
    back.length < (decodeFrom cUnescape (text.drop n ++ rest)).length := by
  obtain ⟨digits, text', str', split, none, spells'⟩ := spells.drop n
  have length := length_le_decodeFrom unescapes (spells'.append spellsRest)
  rw [List.length_append] at length
  have nonempty : digits ≠ [] ∨ str' ≠ [] := by
    by_contra empty
    obtain ⟨noDigits, noBytes⟩ := not_or.mp empty
    rw [not_not.mp noDigits, spells'.eq_nil_iff.mpr (not_not.mp noBytes)] at split
    exact absurd (List.drop_eq_nil_iff.mp split) (Nat.not_le_of_lt cut)
  rw [split, List.append_assoc, decodeFrom_append_of_not_mem none, List.length_append]
  rcases nonempty with some | some
  · have positive := List.length_pos_of_ne_nil some
    omega
  · have positive := List.length_pos_of_ne_nil some
    omega

end Decoding

section Components

/-! The bytes that stand for themselves in a component are those the parser does not split at. -/

def authorityPlain (byte : UInt8) : Prop := byte ∉ [slash, question, hash]

def pathPlain (byte : UInt8) : Prop := byte ∉ [question, hash]

def keyPlain (byte : UInt8) : Prop := isPChar byte = true ∧ byte ∉ [ampersand, equals]

def valuePlain (byte : UInt8) : Prop := isPChar byte = true ∧ byte ≠ ampersand

def fragmentPlain (byte : UInt8) : Prop := isPChar byte = true

structure Encoded (plain : UInt8 → Prop) where
  original : Bytes
  text : Bytes
  spells : Spells plain text original

structure EncodedParam where
  key : Encoded keyPlain
  value : Encoded valuePlain

structure Assembly where
  scheme : Bytes
  schemeAlpha : isAlpha (scheme.headD 0) = true
  schemeChars : scheme.all isSchemeChar = true
  authority : Option (Encoded authorityPlain)
  path : Encoded pathPlain
  query : List EncodedParam
  fragment : Option (Encoded fragmentPlain)

namespace Assembly

def authorityText (parts : Assembly) : Bytes :=
  match parts.authority with
  | none => []
  | some authority => slash :: slash :: authority.text

def paramText (param : EncodedParam) : Bytes := param.key.text ++ equals :: param.value.text

def queryText (parts : Assembly) : Bytes :=
  match parts.query with
  | [] => []
  | query => question :: [ampersand].intercalate (query.map paramText)

def fragmentText (parts : Assembly) : Bytes :=
  match parts.fragment with
  | none => []
  | some fragment => hash :: fragment.text

def text (parts : Assembly) : Bytes :=
  parts.scheme ++ colon ::
    (parts.authorityText ++ (parts.path.text ++ (parts.queryText ++ parts.fragmentText)))

def param (encoded : EncodedParam) : QueryParam := ⟨encoded.key.original, encoded.value.original⟩

def fragmentOriginal (parts : Assembly) : Bytes :=
  match parts.fragment with
  | none => []
  | some fragment => fragment.original

def authorityOriginal (parts : Assembly) : Bytes :=
  match parts.authority with
  | none => []
  | some authority => authority.original

/-- The URI that has been assembled. -/
def uri (parts : Assembly) : Uri where
  scheme := parts.scheme
  authority := parts.authorityOriginal
  path := parts.path.original
  queryParameterPairs := parts.query.map param
  fragment := parts.fragmentOriginal

/-- The path does not run into the authority, as the URI grammar demands. -/
def Separated (parts : Assembly) : Prop :=
  match parts.authority with
  | none => ¬ [slash, slash] <+: parts.path.text
  | some _ => parts.path.text = [] ∨ parts.path.text.head? = some slash

/-- The assemblies that are parsed as they should be. -/
structure Undisturbed (parts : Assembly) : Prop where
  separated : parts.Separated
  authority : percent ∉ parts.authorityText
  pathEnd : endsEscaped parts.path.text = false
  pathEscape : percent ∈ parts.path.text → parts.query = [] ∧ parts.fragmentOriginal = []
  keys : ∀ param ∈ parts.query, param.key.original ≠ [] ∧ endsEscaped param.key.text = false
  values : ∀ param ∈ parts.query, endsEscaped param.value.text = false
  fragment : endsEscaped parts.fragmentText = false

end Assembly

end Components

section Stages

variable {cUnescape : Bytes → Option Bytes}

theorem before_append {delimiters front rest : Bytes} (none : ∀ byte ∈ front, byte ∉ delimiters)
    (ends : ∀ byte ∈ rest.head?, byte ∈ delimiters) : before delimiters (front ++ rest) = front := by
  have stops : rest.takeWhile (fun byte => !delimiters.contains byte) = [] := by
    cases rest with
    | nil => rfl
    | cons byte =>
      rw [List.takeWhile_cons_of_neg]
      simpa using ends byte rfl
  rw [before, List.takeWhile_append_of_pos, stops, List.append_nil]
  intro byte listed
  simpa using none byte listed

theorem before_append_of_forall {delimiters front : Bytes} (none : ∀ byte ∈ front, byte ∉ delimiters)
    (rest : Bytes) : before delimiters (front ++ rest) = front ++ before delimiters rest := by
  rw [before, List.takeWhile_append_of_pos]
  · rfl
  · intro byte listed
    simpa using none byte listed

theorem parseComponents_eq_ok_iff {uriText scheme remaining : Bytes} {uri : Uri} :
    parseComponents cUnescape uriText scheme remaining = .ok uri ↔
      uri.scheme = scheme ∧ uri.authority = (parseAuthority cUnescape remaining).1 ∧
        uri.path = (parsePath cUnescape (parseAuthority cUnescape remaining).2).1 ∧
        ∃ behind,
          parseQuery cUnescape uriText
              (parsePath cUnescape (parseAuthority cUnescape remaining).2).2 =
            .ok (uri.queryParameterPairs, behind) ∧
          parseFragment cUnescape uriText behind = .ok uri.fragment := by
  obtain ⟨scheme', authority, path, query, fragment⟩ := uri
  unfold parseComponents
  dsimp only [bind, Except.bind, pure, Except.pure]
  cases parseQuery cUnescape uriText
      (parsePath cUnescape (parseAuthority cUnescape remaining).2).2 with
  | error => exact iff_of_false nofun (by rintro ⟨-, -, -, behind, ⟨⟩, -⟩)
  | ok found =>
    dsimp only
    cases read : parseFragment cUnescape uriText found.2 with
    | error =>
      refine iff_of_false nofun ?_
      rintro ⟨-, -, -, behind, ⟨⟩, fragment⟩
      exact absurd (read.symm.trans fragment) nofun
    | ok =>
      constructor
      · rintro ⟨⟩
        exact ⟨rfl, rfl, rfl, found.2, rfl, read⟩
      · rintro ⟨rfl, rfl, rfl, behind, ⟨⟩, fragment⟩
        cases read.symm.trans fragment
        rfl

variable (parts : Assembly)

theorem parse_text :
    parse cUnescape parts.text =
      parseComponents cUnescape parts.text parts.scheme
        (parts.authorityText ++ (parts.path.text ++ (parts.queryText ++ parts.fragmentText))) := by
  have noColon : ∀ byte ∈ parts.scheme, byte ∉ [colon] := by
    intro byte listed
    have valid := List.all_eq_true.mp parts.schemeChars byte listed
    rintro colon
    rw [List.mem_singleton.mp colon] at valid
    exact absurd valid (by decide)
  have scheme : before [colon] parts.text = parts.scheme :=
    before_append noColon fun byte found => List.mem_singleton.mpr (Option.some.inj found).symm
  have nonempty : parts.scheme.isEmpty = false := by
    cases empty : parts.scheme with
    | nil =>
      have alpha := parts.schemeAlpha
      rw [empty] at alpha
      exact absurd alpha (by decide)
    | cons => rfl
  have found : parts.text.contains colon = true := by
    rw [List.contains_iff_mem]
    exact List.mem_append_right _ List.mem_cons_self
  have parsed : parseScheme parts.text = .ok parts.scheme := by
    unfold parseScheme
    dsimp only
    rw [scheme, nonempty, found, parts.schemeChars, parts.schemeAlpha]
    rfl
  unfold parse
  rw [parsed]
  change parseComponents cUnescape parts.text parts.scheme
    (parts.text.drop (parts.scheme.length + 1)) = _
  rw [Assembly.text, List.drop_append, Nat.add_sub_cancel_left, List.drop_one, List.tail_cons,
    List.drop_eq_nil_of_le (Nat.le_succ _), List.nil_append]

theorem Encoded.not_mem {plain : UInt8 → Prop} (encoded : Encoded plain) (delimiters : Bytes)
    (apart : ∀ byte, plain byte → byte ∉ delimiters)
    (noEscape : delimiters.all (fun byte => byte ≠ percent ∧ Hex.value byte = none) = true) :
    ∀ byte ∈ encoded.text, byte ∉ delimiters := by
  have free : ∀ byte ∈ delimiters, byte ≠ percent ∧ Hex.value byte = none :=
    fun byte listed => of_decide_eq_true (List.all_eq_true.mp noEscape byte listed)
  refine encoded.spells.forall_mem apart (fun listed => (free _ listed).1 rfl) ?_
  intro byte half read listed
  rw [(free _ listed).2] at read
  cases read

theorem path_not_mem : ∀ byte ∈ parts.path.text, byte ∉ [question, hash] :=
  parts.path.not_mem [question, hash] (fun _ => id) (by decide)

theorem fragmentText_head : ∀ byte ∈ parts.fragmentText.head?, byte = hash := by
  unfold Assembly.fragmentText
  cases parts.fragment with
  | none => nofun
  | some => exact fun byte found => (Option.some.inj found).symm

theorem tail_head :
    ∀ byte ∈ (parts.queryText ++ parts.fragmentText).head?, byte ∈ [question, hash] := by
  unfold Assembly.queryText
  cases parts.query with
  | nil =>
    intro byte found
    rw [fragmentText_head parts byte found]
    exact List.mem_cons_of_mem _ List.mem_cons_self
  | cons =>
    intro byte found
    rw [← Option.some.inj found]
    exact List.mem_cons_self

theorem before_path {front : Bytes} (apart : ∀ byte ∈ front, byte ∉ [question, hash]) :
    before [question, hash] (front ++ (parts.path.text ++ (parts.queryText ++ parts.fragmentText))) =
      front ++ parts.path.text := by
  rw [← List.append_assoc]
  exact before_append (List.forall_mem_append.mpr ⟨apart, path_not_mem parts⟩) (tail_head parts)

theorem parsePath_eq (remaining : Bytes) :
    (parsePath cUnescape remaining).1 = decodeFrom cUnescape (before [question, hash] remaining) :=
  percentDecode_eq _

theorem not_isPrefixOf (separated : ¬ [slash, slash] <+: parts.path.text) :
    [slash, slash].isPrefixOf
      (parts.path.text ++ (parts.queryText ++ parts.fragmentText)) = false := by
  have head := tail_head parts
  have noSlash : slash ∉ [question, hash] := by decide
  rw [← Bool.not_eq_true, List.isPrefixOf_iff_prefix]
  intro starts
  rcases path : parts.path.text with _ | ⟨first, _ | ⟨second, rest⟩⟩
  · rw [path, List.nil_append] at starts
    obtain ⟨rest, tail⟩ := starts
    exact noSlash (head slash (by rw [← tail]; rfl))
  · rw [path] at starts
    obtain ⟨rest, tail⟩ := starts
    have tail := (List.cons.inj tail).2
    exact noSlash (head slash (by exact congrArg List.head? tail.symm))
  · rw [path] at starts separated
    obtain ⟨rest', tail⟩ := starts
    obtain ⟨same, tail⟩ := List.cons.inj tail
    obtain ⟨same', tail⟩ := List.cons.inj tail
    exact separated ⟨rest, by rw [← same, ← same']; rfl⟩

theorem authority_not_mem (authority : Encoded authorityPlain) :
    ∀ byte ∈ authority.text, byte ∉ [slash, question, hash] :=
  authority.not_mem [slash, question, hash] (fun _ => id) (by decide)

theorem path_head (separated : parts.path.text = [] ∨ parts.path.text.head? = some slash) :
    ∀ byte ∈ (parts.path.text ++ (parts.queryText ++ parts.fragmentText)).head?,
      byte ∈ [slash, question, hash] := by
  intro byte found
  rcases separated with empty | starts
  · rw [empty] at found
    exact List.mem_cons_of_mem _ (tail_head parts byte found)
  · rw [List.head?_append, starts] at found
    rw [← Option.some.inj found]
    exact List.mem_cons_self

theorem parseAuthority_slashes (remaining : Bytes) :
    parseAuthority cUnescape (slash :: slash :: remaining) =
      (decodeFrom cUnescape (before [slash, question, hash] remaining),
        remaining.drop (decodeFrom cUnescape (before [slash, question, hash] remaining)).length) := by
  rw [← percentDecode_eq]
  rfl

theorem parseAuthority_eq (separated : parts.Separated) (unescaped : percent ∉ parts.authorityText) :
    parseAuthority cUnescape (parts.authorityText ++
        (parts.path.text ++ (parts.queryText ++ parts.fragmentText))) =
      (parts.authorityOriginal, parts.path.text ++ (parts.queryText ++ parts.fragmentText)) := by
  unfold Assembly.Separated Assembly.authorityText Assembly.authorityOriginal at *
  cases authority : parts.authority with
  | none =>
    rw [authority] at separated
    rw [List.nil_append, parseAuthority, not_isPrefixOf parts separated]
    rfl
  | some authority' =>
    rw [authority] at separated unescaped
    have none : percent ∉ authority'.text := fun listed =>
      unescaped (List.mem_cons_of_mem _ (List.mem_cons_of_mem _ listed))
    rw [List.cons_append, List.cons_append, parseAuthority_slashes,
      before_append (authority_not_mem authority') (path_head parts separated),
      decodeFrom_of_not_mem none, List.drop_left, authority'.spells.eq_of_not_mem none]

theorem not_prefix_of_right (unescapes : UnescapesHex cUnescape)
    (authorityRight :
      (parseAuthority cUnescape
        (parts.path.text ++ (parts.queryText ++ parts.fragmentText))).1 = [])
    (pathRight :
      (parsePath cUnescape (parseAuthority cUnescape
        (parts.path.text ++ (parts.queryText ++ parts.fragmentText))).2).1 = parts.path.original) :
    ¬ [slash, slash] <+: parts.path.text := by
  rintro ⟨rest, path⟩
  have plain : slash ≠ percent := by decide
  have spells := parts.path.spells
  have notPath := path_not_mem parts
  rw [← path] at spells notPath authorityRight pathRight
  rw [List.append_assoc, List.cons_append, List.singleton_append, parseAuthority_slashes]
    at authorityRight pathRight
  dsimp only at authorityRight pathRight
  rw [authorityRight, List.length_nil, List.drop_zero, parsePath_eq,
    before_append (fun byte listed => notPath byte (List.mem_append_right _ listed))
      (tail_head parts)] at pathRight
  obtain ⟨afterFirst, original, spells⟩ := spells.cons_inv plain
  obtain ⟨afterSecond, original', spells⟩ := spells.cons_inv plain
  have count : (decodeFrom cUnescape rest).count slash ≤ afterSecond.count slash :=
    count_slash_decodeFrom unescapes spells
  rw [pathRight, original, original', List.count_cons_self, List.count_cons_self] at count
  omega

theorem separated_of_authority (unescapes : UnescapesHex cUnescape)
    (authority : Encoded authorityPlain)
    (authorityRight :
      decodeFrom cUnescape (before [slash, question, hash] (authority.text ++
        (parts.path.text ++ (parts.queryText ++ parts.fragmentText)))) = authority.original) :
    parts.path.text = [] ∨ parts.path.text.head? = some slash := by
  rw [before_append_of_forall (authority_not_mem authority)] at authorityRight
  cases path : parts.path.text with
  | nil => exact .inl rfl
  | cons first =>
    right
    by_contra other
    have notPath := path_not_mem parts first (by rw [path]; exact List.mem_cons_self)
    have apart : first ∉ [slash, question, hash] :=
      List.not_mem_cons_of_ne_of_not_mem (fun same => other (congrArg some same)) notPath
    have more : before [slash, question, hash]
        (parts.path.text ++ (parts.queryText ++ parts.fragmentText)) ≠ [] := by
      rw [path, List.cons_append, before, List.takeWhile_cons_of_pos (by simpa using apart)]
      exact List.cons_ne_nil _ _
    rw [decodeFrom_append unescapes authority.spells more] at authorityRight
    exact decodeFrom_ne_nil more (List.append_right_eq_self.mp authorityRight)

theorem separated_of_right (unescapes : UnescapesHex cUnescape)
    (authorityRight :
      (parseAuthority cUnescape (parts.authorityText ++
        (parts.path.text ++ (parts.queryText ++ parts.fragmentText)))).1 = parts.authorityOriginal)
    (pathRight :
      (parsePath cUnescape (parseAuthority cUnescape (parts.authorityText ++
        (parts.path.text ++ (parts.queryText ++ parts.fragmentText)))).2).1 = parts.path.original) :
    parts.Separated ∧ percent ∉ parts.authorityText := by
  unfold Assembly.Separated Assembly.authorityText Assembly.authorityOriginal at *
  cases authority : parts.authority with
  | none =>
    rw [authority] at authorityRight pathRight
    exact ⟨not_prefix_of_right parts unescapes authorityRight pathRight, List.not_mem_nil⟩
  | some authority' =>
    rw [authority] at authorityRight pathRight
    rw [List.cons_append, List.cons_append, parseAuthority_slashes] at authorityRight pathRight
    dsimp only at authorityRight pathRight
    have separated := separated_of_authority parts unescapes authority' authorityRight
    refine ⟨separated, fun escaped => ?_⟩
    have listed : percent ∈ authority'.text := by
      simpa [(by decide : percent ≠ slash)] using escaped
    have cut := authority'.spells.length_lt listed
    rw [authorityRight, List.drop_append_of_le_length (Nat.le_of_lt cut), parsePath_eq,
      before_path] at pathRight
    · have longer := lt_length_decodeFrom_drop unescapes
        (authority'.spells.mono fun _ _ => trivial) cut
        (parts.path.spells.mono fun _ _ => trivial)
      rw [pathRight] at longer
      exact absurd longer (Nat.lt_irrefl _)
    · intro byte remains delimiter
      exact authority_not_mem authority' byte (List.mem_of_mem_drop remains)
        (List.mem_cons_of_mem _ delimiter)

theorem components_of_shift {uriText remaining : Bytes} {first : UInt8}
    (head : remaining.head? = some first) (other : first ∉ [question, hash]) :
    parseQuery cUnescape uriText remaining = .ok ([], remaining) ∧
      parseFragment cUnescape uriText remaining = .ok [] := by
  have noQuestion : ¬ remaining.head? = some question := fun found =>
    other (Option.mem_unique head found ▸ List.mem_cons_self)
  have noHash : ¬ remaining.head? = some hash := fun found =>
    other (Option.mem_unique head found ▸
      List.mem_cons_of_mem _ List.mem_cons_self)
  exact ⟨if_neg noQuestion, if_neg noHash⟩

theorem parseParam_paramText (param : EncodedParam) :
    parseParam cUnescape (Assembly.paramText param) =
      if param.key.text.isEmpty then none
      else some ⟨decodeFrom cUnescape param.key.text, decodeFrom cUnescape param.value.text⟩ := by
  have key : before [equals] (Assembly.paramText param) = param.key.text := by
    apply before_append
    · exact param.key.not_mem [equals] (fun _ plain listed => plain.2 (List.mem_cons_of_mem _ listed))
        (by decide)
    · exact fun byte found => List.mem_singleton.mpr (Option.some.inj found).symm
  have value : (Assembly.paramText param).drop (param.key.text.length + 1) = param.value.text := by
    rw [Assembly.paramText, List.drop_append, Nat.add_sub_cancel_left, List.drop_one,
      List.tail_cons, List.drop_eq_nil_of_le (Nat.le_succ _), List.nil_append]
  unfold parseParam
  dsimp only
  rw [key, value, percentDecode_eq, percentDecode_eq]

theorem ampersand_not_mem_paramText (param : EncodedParam) :
    ampersand ∉ Assembly.paramText param := by
  intro listed
  rcases List.mem_append.mp listed with key | value
  · exact param.key.not_mem [ampersand]
      (fun _ plain listed => plain.2 (List.mem_singleton.mp listed ▸ List.mem_cons_self))
      (by decide) ampersand key List.mem_cons_self
  · rcases List.mem_cons.mp value with same | value
    · exact absurd same (by decide)
    · exact param.value.not_mem [ampersand]
        (fun _ plain listed => plain.2 (List.mem_singleton.mp listed))
        (by decide) ampersand value List.mem_cons_self

theorem isPChar_of_value : ∀ byte half, Hex.value byte = some half → isPChar byte = true := by
  have digits : ∀ n : Fin 256, Hex.isDigit (UInt8.ofFin n) = true →
      isPChar (UInt8.ofFin n) = true := by
    decide +kernel
  intro byte half read
  exact digits byte.toFin ((Hex.isSome_value byte).symm.trans (Option.isSome_of_eq_some read))

theorem Encoded.isPCharString {plain : UInt8 → Prop} (encoded : Encoded plain)
    (pchar : ∀ byte, plain byte → isPChar byte = true) : ∀ byte ∈ encoded.text, isPChar byte = true :=
  encoded.spells.forall_mem pchar (by decide) isPChar_of_value

theorem forall_mem_intercalate (holds : UInt8 → Prop) {separator : UInt8} {texts : List Bytes}
    (ofSeparator : holds separator) (ofTexts : ∀ text ∈ texts, ∀ byte ∈ text, holds byte) :
    ∀ byte ∈ [separator].intercalate texts, holds byte := by
  induction texts with
  | nil => exact List.forall_mem_nil _
  | cons text texts ih =>
    obtain ⟨ofText, ofTexts⟩ := List.forall_mem_cons.mp ofTexts
    cases texts with
    | nil =>
      rw [List.intercalate_singleton]
      exact ofText
    | cons =>
      rw [List.intercalate_cons_cons]
      exact List.forall_mem_append.mpr ⟨List.forall_mem_append.mpr
        ⟨ofText, List.forall_mem_singleton.mpr ofSeparator⟩, ih ofTexts⟩

theorem parseQuery_eq (uriText : Bytes) :
    parseQuery cUnescape uriText (parts.queryText ++ parts.fragmentText) =
      .ok ((parts.query.map Assembly.paramText).filterMap (parseParam cUnescape),
        parts.fragmentText) := by
  unfold Assembly.queryText
  cases query : parts.query with
  | nil =>
    refine if_neg fun found => ?_
    exact absurd (fragmentText_head parts question found) (by decide)
  | cons param params =>
    dsimp only
    have pchars : ∀ byte ∈ [ampersand].intercalate ((param :: params).map Assembly.paramText),
        isPChar byte = true := by
      apply forall_mem_intercalate (isPChar · = true) (by decide)
      intro text listed
      obtain ⟨param, -, rfl⟩ := List.mem_map.mp listed
      exact List.forall_mem_append.mpr ⟨param.key.isPCharString fun _ plain => plain.1,
        List.forall_mem_cons.mpr ⟨by decide, param.value.isPCharString fun _ plain => plain.1⟩⟩
    have split : ([ampersand].intercalate ((param :: params).map Assembly.paramText)).splitOn
        ampersand = (param :: params).map Assembly.paramText :=
      List.splitOn_intercalate ampersand
        (List.forall_mem_map.mpr fun param _ => ampersand_not_mem_paramText param)
        (List.cons_ne_nil _ _)
    generalize [ampersand].intercalate ((param :: params).map Assembly.paramText) = tmpQuery at *
    have found : before [hash] (tmpQuery ++ parts.fragmentText) = tmpQuery := by
      apply before_append
      · intro byte listed isHash
        have valid := pchars byte listed
        rw [List.mem_singleton.mp isHash] at valid
        exact absurd valid (by decide)
      · exact fun byte found => List.mem_singleton.mpr (fragmentText_head parts byte found)
    have nonempty : tmpQuery.isEmpty = false := by
      cases tmpQuery with
      | nil =>
        have empty : [] = Assembly.paramText param := (List.cons.inj split).1
        exact absurd empty.symm (List.append_ne_nil_of_right_ne_nil _ (List.cons_ne_nil _ _))
      | cons => rfl
    have valid : isPCharString tmpQuery = true := List.all_eq_true.mpr pchars
    rw [parseQuery, List.cons_append, List.head?_cons, if_pos rfl]
    dsimp only
    rw [List.drop_one, List.tail_cons, found, nonempty, valid, split, List.drop_left]
    rfl

theorem parseFragment_eq (uriText : Bytes) :
    parseFragment cUnescape uriText parts.fragmentText =
      .ok (decodeFrom cUnescape (parts.fragmentText.drop 1)) := by
  unfold Assembly.fragmentText
  cases parts.fragment with
  | none => rfl
  | some fragment =>
    have valid : isPCharString fragment.text = true :=
      List.all_eq_true.mpr (fragment.isPCharString fun _ => id)
    rw [parseFragment, List.head?_cons, if_pos rfl]
    dsimp only
    rw [List.drop_one, List.tail_cons, valid, percentDecode_eq]
    rfl

/-- The parameters that are found are the original ones exactly when no key is empty and no escape
ends a key or a value. -/
theorem params_eq_iff (unescapes : UnescapesHex cUnescape) (query : List EncodedParam) :
    (query.map Assembly.paramText).filterMap (parseParam cUnescape) = query.map Assembly.param ↔
      (∀ param ∈ query, param.key.original ≠ [] ∧ endsEscaped param.key.text = false) ∧
        ∀ param ∈ query, endsEscaped param.value.text = false := by
  rw [List.filterMap_map]
  induction query with
  | nil => exact iff_of_true rfl ⟨List.forall_mem_nil _, List.forall_mem_nil _⟩
  | cons param query ih =>
    have parsed := @parseParam_paramText cUnescape param
    rw [List.forall_mem_cons, List.forall_mem_cons, List.filterMap_cons, Function.comp_apply,
      parsed, List.map_cons]
    split_ifs with empty
    · dsimp only
      refine iff_of_false (fun same => ?_) ?_
      · have length := congrArg List.length same
        have shorter := List.length_filterMap_le (parseParam cUnescape ∘ Assembly.paramText) query
        rw [List.length_cons, List.length_map] at length
        omega
      · rintro ⟨⟨⟨nonempty, -⟩, -⟩, -⟩
        exact nonempty (param.key.spells.eq_nil_iff.mp (List.isEmpty_iff.mp empty))
    · have nonempty : param.key.original ≠ [] := fun none =>
        empty (List.isEmpty_iff.mpr (param.key.spells.eq_nil_iff.mpr none))
      rw [List.cons_eq_cons, ih, Assembly.param, QueryParam.mk.injEq,
        decodeFrom_eq_iff unescapes param.key.spells,
        decodeFrom_eq_iff unescapes param.value.spells]
      tauto

theorem fragment_eq_iff (unescapes : UnescapesHex cUnescape) :
    decodeFrom cUnescape (parts.fragmentText.drop 1) = parts.fragmentOriginal ↔
      endsEscaped parts.fragmentText = false := by
  unfold Assembly.fragmentText Assembly.fragmentOriginal
  cases parts.fragment with
  | none => exact iff_of_true rfl rfl
  | some fragment =>
    have other : (hash == percent) = false := by decide
    rw [List.drop_succ_cons, List.drop_zero, decodeFrom_eq_iff unescapes fragment.spells,
      endsEscaped, other, Bool.and_false, Bool.false_or]

theorem components_of_exact (unescapes : UnescapesHex cUnescape) :
    (∃ behind,
      parseQuery cUnescape parts.text (parts.queryText ++ parts.fragmentText) =
          .ok (parts.query.map Assembly.param, behind) ∧
        parseFragment cUnescape parts.text behind = .ok parts.fragmentOriginal) ↔
      ((∀ param ∈ parts.query, param.key.original ≠ [] ∧ endsEscaped param.key.text = false) ∧
        ∀ param ∈ parts.query, endsEscaped param.value.text = false) ∧
        endsEscaped parts.fragmentText = false := by
  rw [← params_eq_iff unescapes, ← fragment_eq_iff parts unescapes, parseQuery_eq]
  constructor
  · rintro ⟨behind, query, fragment⟩
    obtain ⟨params, rfl⟩ := Prod.mk.inj (Except.ok.inj query)
    rw [parseFragment_eq] at fragment
    exact ⟨params, Except.ok.inj fragment⟩
  · rintro ⟨params, fragment⟩
    refine ⟨parts.fragmentText, by rw [params], ?_⟩
    rw [parseFragment_eq, fragment]

theorem endsEscaped_of_empty (empty : parts.fragmentOriginal = []) :
    endsEscaped parts.fragmentText = false := by
  unfold Assembly.fragmentOriginal at empty
  unfold Assembly.fragmentText
  cases found : parts.fragment with
  | none => rfl
  | some fragment =>
    rw [found] at empty
    dsimp only
    rw [fragment.spells.eq_nil_iff.mpr empty]
    rfl

theorem parsePath_fst :
    (parsePath cUnescape (parts.path.text ++ (parts.queryText ++ parts.fragmentText))).1 =
      decodeFrom cUnescape parts.path.text := by
  rw [parsePath_eq, before_append (path_not_mem parts) (tail_head parts)]

theorem parsePath_snd :
    (parsePath cUnescape (parts.path.text ++ (parts.queryText ++ parts.fragmentText))).2 =
      (parts.path.text ++ (parts.queryText ++ parts.fragmentText)).drop
        (decodeFrom cUnescape parts.path.text).length := by
  rw [← parsePath_fst]
  rfl

theorem parsePath_exact (unescaped : percent ∉ parts.path.text) :
    (parsePath cUnescape (parts.path.text ++ (parts.queryText ++ parts.fragmentText))).2 =
      parts.queryText ++ parts.fragmentText := by
  rw [parsePath_snd, decodeFrom_of_not_mem unescaped, List.drop_left]

theorem parsePath_shift (unescapes : UnescapesHex cUnescape) (escaped : percent ∈ parts.path.text)
    (ends : endsEscaped parts.path.text = false) :
    ∃ first,
      (parsePath cUnescape (parts.path.text ++ (parts.queryText ++ parts.fragmentText))).2.head? =
          some first ∧
        first ∉ [question, hash] := by
  have cut := parts.path.spells.length_lt escaped
  rw [parsePath_snd, (decodeFrom_eq_iff unescapes parts.path.spells).mpr ends,
    List.drop_append_of_le_length (Nat.le_of_lt cut)]
  cases remains : parts.path.text.drop parts.path.original.length with
  | nil => exact absurd (List.drop_eq_nil_iff.mp remains) (Nat.not_le_of_lt cut)
  | cons first =>
    have listed : first ∈ parts.path.text.drop parts.path.original.length := by
      rw [remains]
      exact List.mem_cons_self
    exact ⟨first, rfl, path_not_mem parts first (List.mem_of_mem_drop listed)⟩

/-- Parsing gives back what has been assembled exactly when the path is kept apart from the
authority, the authority has no escape, a path with escapes is the last component that is not empty,
no key is empty, and no path, key, value or fragment ends with an escape. -/
theorem parse_text_iff (unescapes : UnescapesHex cUnescape) :
    parse cUnescape parts.text = .ok parts.uri ↔ parts.Undisturbed := by
  rw [parse_text, parseComponents_eq_ok_iff]
  constructor
  · rintro ⟨-, authority, path, found⟩
    obtain ⟨separated, unescaped⟩ :=
      separated_of_right parts unescapes authority.symm path.symm
    rw [parseAuthority_eq parts separated unescaped] at path found
    dsimp only at path found
    rw [parsePath_fst] at path
    have ends := (decodeFrom_eq_iff unescapes parts.path.spells).mp path.symm
    by_cases escaped : percent ∈ parts.path.text
    · obtain ⟨first, head, other⟩ := parsePath_shift parts unescapes escaped ends
      obtain ⟨noQuery, noFragment⟩ := components_of_shift head other
      obtain ⟨behind, query, fragment⟩ := found
      obtain ⟨params, rfl⟩ := Prod.mk.inj (Except.ok.inj (noQuery.symm.trans query))
      have empty : parts.query = [] := List.map_eq_nil_iff.mp params.symm
      have emptyFragment := Except.ok.inj (noFragment.symm.trans fragment)
      refine ⟨separated, unescaped, ends, fun _ => ⟨empty, emptyFragment.symm⟩, ?_, ?_,
        endsEscaped_of_empty parts emptyFragment.symm⟩
      · rw [empty]
        exact List.forall_mem_nil _
      · rw [empty]
        exact List.forall_mem_nil _
    · rw [parsePath_exact parts escaped] at found
      obtain ⟨⟨keys, values⟩, fragment⟩ := (components_of_exact parts unescapes).mp found
      exact ⟨separated, unescaped, ends, fun listed => absurd listed escaped, keys, values, fragment⟩
  · intro undisturbed
    have path := (decodeFrom_eq_iff unescapes parts.path.spells).mpr undisturbed.pathEnd
    rw [parseAuthority_eq parts undisturbed.separated undisturbed.authority, parsePath_fst, path]
    refine ⟨rfl, rfl, rfl, ?_⟩
    by_cases escaped : percent ∈ parts.path.text
    · obtain ⟨first, head, other⟩ := parsePath_shift parts unescapes escaped undisturbed.pathEnd
      obtain ⟨noQuery, noFragment⟩ := components_of_shift head other
      obtain ⟨query, fragment⟩ := undisturbed.pathEscape escaped
      refine ⟨_, noQuery.trans ?_, noFragment.trans ?_⟩
      · rw [Assembly.uri, query]
        rfl
      · rw [Assembly.uri, fragment]
    · rw [parsePath_exact parts escaped]
      exact (components_of_exact parts unescapes).mpr
        ⟨⟨undisturbed.keys, undisturbed.values⟩, undisturbed.fragment⟩

end Stages

section Runs

/-- The unescaping of two digits and nothing else. -/
def cUnescapeHex : Bytes → Option Bytes
  | [92, 120, first, second] => do
    let high ← Hex.value first
    let low ← Hex.value second
    some [Hex.join high low]
  | _ => none

theorem unescapesHex_cUnescapeHex : UnescapesHex cUnescapeHex := by
  intro first second high low readHigh readLow
  change (Hex.value first).bind (fun high => (Hex.value second).bind fun low =>
    some [Hex.join high low]) = _
  rw [readHigh, Option.bind_some, readLow, Option.bind_some]

/-- `%61b`, for `ab`. -/
def escapedLetter {plain : UInt8 → Prop} (allowed : plain 98) : Encoded plain where
  original := [97, 98]
  text := [percent, 54, 49, 98]
  spells := .escaped (by decide : Hex.value 54 = some 6) (by decide : Hex.value 49 = some 1)
    (.plain (by decide) allowed .nil)

/-- `dns:%61b`. -/
def escapedPath : Assembly where
  scheme := bytes "dns"
  schemeAlpha := by decide
  schemeChars := by decide
  authority := none
  path := escapedLetter (by unfold pathPlain; decide)
  query := []
  fragment := none

/-- `dns://%61b`. -/
def escapedAuthority : Assembly where
  scheme := bytes "dns"
  schemeAlpha := by decide
  schemeChars := by decide
  authority := some (escapedLetter (by unfold authorityPlain; decide))
  path := ⟨[], [], .nil⟩
  query := []
  fragment := none

theorem parse_escapedPath :
    UnescapesHex cUnescapeHex ∧
      (parse cUnescapeHex escapedPath.text = .ok escapedPath.uri ↔ escapedPath.Undisturbed) :=
  ⟨unescapesHex_cUnescapeHex, parse_text_iff escapedPath unescapesHex_cUnescapeHex⟩

/-- The two bytes by which the escape is longer than its letter are taken for a path. -/
theorem parse_escapedAuthority :
    ¬ ∀ cUnescape, UnescapesHex cUnescape → ∀ parts : Assembly,
      parse cUnescape parts.text = .ok parts.uri := by
  intro right
  have parsed := right cUnescapeHex unescapesHex_cUnescapeHex escapedAuthority
  have path : (parse cUnescapeHex escapedAuthority.text).toOption.map Uri.path = some [49, 98] := by
    decide
  rw [parsed] at path
  exact absurd path (by decide)

end Runs

end GrpcCore.UriParser
