import GrpcCore.Security.AuthorizationEngine

/-!
# What an authorization policy means

Which requests a rule matches, by the lists of patterns it has, and that the translation
keeps this meaning.
-/

namespace GrpcCore.Security

open StringMatcher

/-- A pattern is exact, a beginning followed by a star, a star followed by an ending, or a
star. -/
def PatternMatches (pattern value : String) : Prop :=
  pattern = "*" ∨
    (∃ ending, ending ≠ [] ∧ pattern.toList = '*' :: ending ∧ ending <:+ value.toList) ∨
    (∃ beginning, beginning ≠ [] ∧ beginning.head? ≠ some '*' ∧
      pattern.toList = beginning ++ ['*'] ∧ beginning <+: value.toList) ∨
    pattern.toList.head? ≠ some '*' ∧ pattern.toList.getLast? ≠ some '*' ∧ pattern = value

namespace Json

/-- The strings of an array that is a member of an object, none if there is no such array. -/
def strings (json : Json) (field : String) : List String :=
  ((json.find field).map fun member => member.arrayValue.map stringValue).getD []

/-- The objects of an array that is a member of an object. -/
def children (json : Json) (field : String) : List Json :=
  ((json.find field).map arrayValue).getD []

/-- A member of an object that is itself an object, if need be an empty one. -/
def member (json : Json) (field : String) : Json := (json.find field).getD (object [])

end Json

/-- The peer is authenticated by TLS and some principal pattern matches one of its names. -/
def PeerMatches (principals : List String) (args : EvaluateArgs) : Prop :=
  (args.transportSecurityType = "ssl" ∨ args.transportSecurityType = "tls") ∧
    ∃ principal ∈ principals, principal = "*" ∨ principal = "" ∨
      ∃ san ∈ args.uriSans ++ args.dnsSans, PatternMatches principal san

def SourceMatches (source : Json) (args : EvaluateArgs) : Prop :=
  source.strings "principals" = [] ∨ PeerMatches (source.strings "principals") args

def PathMatches (paths : List String) (args : EvaluateArgs) : Prop :=
  args.path ≠ "" ∧ ∃ path ∈ paths, PatternMatches path args.path

def HeaderMatches (header : Json) (args : EvaluateArgs) : Prop :=
  ∃ value, args.headerValue ((header.find "key").map Json.stringValue |>.getD "") = some value ∧
    ∃ pattern ∈ header.strings "values", PatternMatches pattern value

def RequestMatches (request : Json) (args : EvaluateArgs) : Prop :=
  (request.strings "paths" = [] ∨ PathMatches (request.strings "paths") args) ∧
    ∀ header ∈ request.children "headers", HeaderMatches header args

def RuleMatches (rule : Json) (args : EvaluateArgs) : Prop :=
  SourceMatches (rule.member "source") args ∧ RequestMatches (rule.member "request") args

variable {pattern value : String}

theorem eq_star_iff : pattern = "*" ↔ pattern.toList = ['*'] := by
  constructor
  · rintro rfl
    rfl
  · intro shape
    exact String.ext shape

variable {ending : List Char}

theorem patternMatches_ending (shape : pattern.toList = '*' :: ending) (filled : ending ≠ []) :
    PatternMatches pattern value ↔ ending <:+ value.toList := by
  constructor
  · rintro (star | ⟨other, _, same, suffix⟩ | ⟨beginning, filled', unstarred, same, _⟩ | exact)
    · rw [eq_star_iff, shape] at star
      exact absurd (List.cons.inj star).2 filled
    · rw [shape] at same
      rw [(List.cons.inj same).2]
      exact suffix
    · rw [shape] at same
      cases beginning with
      | nil => exact absurd rfl filled'
      | cons =>
        rw [← (List.cons.inj same).1] at unstarred
        exact absurd rfl unstarred
    · rw [shape] at exact
      exact absurd rfl exact.1
  · intro suffix
    exact .inr (.inl ⟨ending, filled, shape, suffix⟩)

variable {beginning : List Char}

theorem patternMatches_beginning (shape : pattern.toList = beginning ++ ['*'])
    (filled : beginning ≠ []) (unstarred : beginning.head? ≠ some '*') :
    PatternMatches pattern value ↔ beginning <+: value.toList := by
  have head : pattern.toList.head? ≠ some '*' := by
    rw [shape, List.head?_append_of_ne_nil _ filled]
    exact unstarred
  constructor
  · rintro (star | ⟨other, _, same, _⟩ | ⟨other, _, _, same, found⟩ | exact)
    · rw [eq_star_iff.mp star] at head
      exact absurd rfl head
    · rw [same] at head
      exact absurd rfl head
    · rw [shape] at same
      rw [List.append_cancel_right same]
      exact found
    · rw [shape, List.getLast?_concat] at exact
      exact absurd rfl exact.2.1
  · intro found
    exact .inr (.inr (.inl ⟨beginning, filled, unstarred, shape, found⟩))

theorem patternMatches_exact (unstarred : pattern.toList.head? ≠ some '*')
    (unended : pattern.toList.getLast? ≠ some '*') :
    PatternMatches pattern value ↔ pattern = value := by
  constructor
  · rintro (star | ⟨other, _, same, _⟩ | ⟨other, _, _, same, _⟩ | exact)
    · rw [eq_star_iff.mp star] at unstarred
      exact absurd rfl unstarred
    · rw [same] at unstarred
      exact absurd rfl unstarred
    · rw [same, List.getLast?_concat] at unended
      exact absurd rfl unended
    · exact exact.2.2
  · intro same
    exact .inr (.inr (.inr ⟨unstarred, unended, same⟩))

theorem getMatcherType_ending (shape : pattern.toList = '*' :: ending) (filled : ending ≠ []) :
    getMatcherType pattern = (.kSuffix, .ofList ending) := by
  have several : pattern ≠ "*" := fun star =>
    filled (List.cons.inj (shape.symm.trans (eq_star_iff.mp star))).2
  have starred : "*".toList.isPrefixOf pattern.toList = true := by
    rw [shape]
    exact List.isPrefixOf_iff_prefix.mpr ⟨ending, rfl⟩
  unfold getMatcherType
  rw [if_neg several, if_pos starred, shape]
  rfl

theorem not_starred (unstarred : pattern.toList.head? ≠ some '*') :
    pattern ≠ "*" ∧ ¬ "*".toList.isPrefixOf pattern.toList = true := by
  constructor
  · rintro rfl
    exact unstarred rfl
  · intro starred
    obtain ⟨rest, shape⟩ := List.isPrefixOf_iff_prefix.mp starred
    rw [← shape] at unstarred
    exact unstarred rfl

theorem getMatcherType_beginning (shape : pattern.toList = beginning ++ ['*'])
    (unstarred : pattern.toList.head? ≠ some '*') :
    getMatcherType pattern = (.kPrefix, .ofList beginning) := by
  have ended : "*".toList.isSuffixOf pattern.toList = true := by
    rw [shape]
    exact List.isSuffixOf_iff_suffix.mpr ⟨beginning, rfl⟩
  unfold getMatcherType
  rw [if_neg (not_starred unstarred).1, if_neg (not_starred unstarred).2, if_pos ended, shape,
    List.dropLast_concat]

theorem getMatcherType_exact (unstarred : pattern.toList.head? ≠ some '*')
    (unended : pattern.toList.getLast? ≠ some '*') : getMatcherType pattern = (.kExact, pattern) := by
  have open_ended : ¬ "*".toList.isSuffixOf pattern.toList = true := by
    intro ended
    obtain ⟨rest, shape⟩ := List.isSuffixOf_iff_suffix.mp ended
    rw [← shape] at unended
    exact unended List.getLast?_concat
  unfold getMatcherType
  rw [if_neg (not_starred unstarred).1, if_neg (not_starred unstarred).2, if_neg open_ended]

theorem pattern_cases (pattern : String) :
    pattern = "*" ∨ (∃ ending, ending ≠ [] ∧ pattern.toList = '*' :: ending) ∨
      (∃ beginning, beginning ≠ [] ∧ pattern.toList.head? ≠ some '*' ∧
        pattern.toList = beginning ++ ['*']) ∨
      pattern.toList.head? ≠ some '*' ∧ pattern.toList.getLast? ≠ some '*' := by
  by_cases starred : pattern.toList.head? = some '*'
  · obtain ⟨ending, shape⟩ := List.head?_eq_some_iff.mp starred
    cases ending with
    | nil => exact .inl (eq_star_iff.mpr shape)
    | cons next rest => exact .inr (.inl ⟨next :: rest, nofun, shape⟩)
  · by_cases ended : pattern.toList.getLast? = some '*'
    · obtain ⟨beginning, shape⟩ := List.getLast?_eq_some_iff.mp ended
      refine .inr (.inr (.inl ⟨beginning, ?_, starred, shape⟩))
      rintro rfl
      rw [shape] at starred
      exact starred rfl
    · exact .inr (.inr (.inr ⟨starred, ended⟩))

theorem matches_getStringMatcher :
    (getStringMatcher pattern).matchesValue value = true ↔ PatternMatches pattern value := by
  unfold getStringMatcher
  rcases pattern_cases pattern with
    rfl | ⟨ending, filled, shape⟩ | ⟨beginning, filled, unstarred, shape⟩ | ⟨unstarred, unended⟩
  · exact iff_of_true rfl (.inl rfl)
  · rw [getMatcherType_ending shape filled, patternMatches_ending shape filled]
    simp [matchesValue, characters]
  · rw [getMatcherType_beginning shape unstarred, patternMatches_beginning shape filled ?_]
    · simp [matchesValue, characters]
    · rwa [shape, List.head?_append_of_ne_nil _ filled] at unstarred
  · rw [getMatcherType_exact unstarred unended, patternMatches_exact unstarred unended]
    simp [matchesValue, characters, String.toList_inj, eq_comm]

theorem stringMatcher_eq_empty_iff :
    (getStringMatcher pattern).stringMatcher = "" ↔ pattern = "*" ∨ pattern = "" := by
  unfold getStringMatcher
  rcases pattern_cases pattern with
    rfl | ⟨ending, filled, shape⟩ | ⟨beginning, filled, unstarred, shape⟩ | ⟨unstarred, unended⟩
  · exact iff_of_true rfl (.inl rfl)
  · rw [getMatcherType_ending shape filled]
    refine iff_of_false (fun empty => filled (by simpa using congrArg String.toList empty)) ?_
    rintro (rfl | rfl)
    · exact filled (List.cons.inj shape).2.symm
    · cases shape
  · rw [getMatcherType_beginning shape unstarred]
    refine iff_of_false (fun empty => filled (by simpa using congrArg String.toList empty)) ?_
    rintro (rfl | rfl)
    · exact unstarred rfl
    · exact filled (List.append_eq_nil_iff.mp shape.symm).1
  · rw [getMatcherType_exact unstarred unended]
    constructor
    · exact .inr
    · rintro (rfl | rfl)
      · exact absurd rfl unstarred
      · rfl

theorem exists_of_bind {Middle Result : Type} {first : Except String Middle}
    {next : Middle → Except String Result} {result : Result} (done : first >>= next = .ok result) :
    ∃ middle, first = .ok middle ∧ next middle = .ok result := by
  cases first with
  | error => cases done
  | ok middle => exact ⟨middle, rfl, done⟩

theorem ok_of_mapError {Result : Type} {first : Except String Result} {change : String → String}
    {result : Result} (done : first.mapError change = .ok result) : first = .ok result := by
  cases first with
  | error => cases done
  | ok => exact done

variable {elements : List Json} {i : Nat}

theorem parseArray_forall₂ {Result : Type} {parse : Nat → Json → Except String Result}
    {means : Json → Result → Prop}
    (child : ∀ i json result, parse i json = .ok result → means json result) {results : List Result}
    (parsed : parseArray parse i elements = .ok results) : List.Forall₂ means elements results := by
  induction elements generalizing i results with
  | nil =>
    cases parsed
    exact .nil
  | cons element rest ih =>
    obtain ⟨result, first, parsed⟩ := exists_of_bind parsed
    obtain ⟨others, later, parsed⟩ := exists_of_bind parsed
    cases parsed
    exact .cons (child i element result first) (ih later)

variable {field : String}

theorem parseArray_strings {Result : Type} {make : String → Result} {results : List Result}
    (parsed : parseArray (parseString field make) i elements = .ok results) :
    results = elements.map fun element => make element.stringValue := by
  have each : List.Forall₂ (fun element result => make (Json.stringValue element) = result)
      elements results := by
    refine parseArray_forall₂ ?_ parsed
    intro i json result parsed
    cases json with
    | string =>
      cases parsed
      rfl
    | _ => cases parsed
  rw [← List.forall₂_map_left_iff] at each
  exact (List.forall₂_eq_eq_eq ▸ each : _ = _).symm

variable {json : Json}

theorem findArray_eq (found : findArray json field = .ok elements) :
    json.children field = elements := by
  unfold findArray at found
  unfold Json.children
  cases member : json.find field with
  | none =>
    rw [member] at found
    cases found
    rfl
  | some value =>
    rw [member] at found
    cases value with
    | array =>
      cases found
      rfl
    | _ => cases found

theorem strings_eq_map (json : Json) (field : String) :
    json.strings field = (json.children field).map Json.stringValue := by
  unfold Json.strings Json.children
  cases json.find field with
  | none => rfl
  | some => rfl

variable {args : EvaluateArgs}

open AuthorizationMatcher

theorem matchesAuthenticated_iff (pattern : String) :
    matchesAuthenticated (getStringMatcher pattern) args = true ↔
      (args.transportSecurityType = "ssl" ∨ args.transportSecurityType = "tls") ∧
        (pattern = "*" ∨ pattern = "" ∨
          ∃ san ∈ args.uriSans ++ args.dnsSans, PatternMatches pattern san) := by
  unfold matchesAuthenticated
  by_cases insecure : args.transportSecurityType ≠ "ssl" ∧ args.transportSecurityType ≠ "tls"
  · rw [if_pos insecure]
    refine iff_of_false Bool.false_ne_true ?_
    rintro ⟨ssl | tls, _⟩
    · exact insecure.1 ssl
    · exact insecure.2 tls
  · rw [if_neg insecure, ← or_assoc, ← stringMatcher_eq_empty_iff]
    have secure : args.transportSecurityType = "ssl" ∨ args.transportSecurityType = "tls" := by
      by_contra neither
      exact insecure (not_or.mp neither)
    rw [and_iff_right secure]
    by_cases anything : (getStringMatcher pattern).stringMatcher = ""
    · rw [if_pos anything]
      exact iff_of_true rfl (.inl anything)
    · rw [if_neg anything, or_iff_right anything, ← List.any_append, List.any_eq_true]
      simp only [matches_getStringMatcher]

theorem peerMatches_iff (principals : List String) :
    (principals.any fun pattern => matchesAuthenticated (getStringMatcher pattern) args) = true ↔
      PeerMatches principals args := by
  rw [List.any_eq_true]
  simp only [matchesAuthenticated_iff]
  constructor
  · rintro ⟨pattern, listed, secure, found⟩
    exact ⟨secure, pattern, listed, found⟩
  · rintro ⟨secure, pattern, listed, found⟩
    exact ⟨pattern, listed, secure, found⟩

variable {principal : Principal}

theorem parsePrincipalsArray_eq (parsed : parsePrincipalsArray elements = .ok principal) :
    principal = .or (elements.map fun element => .principalName (getStringMatcher element.stringValue)) := by
  obtain ⟨names, listed, made⟩ := exists_of_bind parsed
  cases made
  rw [parseArray_strings listed]

theorem sourceMatches_iff (parsed : parsePeer json = .ok principal) :
    (ofPrincipal principal).matchesArgs args = true ↔ SourceMatches json args := by
  obtain ⟨elements, found, parsed⟩ := exists_of_bind parsed
  obtain ⟨names, listed, parsed⟩ := exists_of_bind parsed
  rw [parsePrincipalsArray_eq listed] at parsed
  unfold SourceMatches
  rw [strings_eq_map, findArray_eq found, List.map_eq_nil_iff]
  cases elements with
  | nil =>
    cases parsed
    exact iff_of_true rfl (.inl rfl)
  | cons =>
    cases parsed
    rw [or_iff_right (List.cons_ne_nil _ _), ← peerMatches_iff]
    simp [ofPrincipal, ofPrincipals, ofPrincipals_eq_map, matchesArgs, allMatch,
      anyMatches_eq_any, Function.comp_def]

theorem matchesPath_iff (pattern : String) :
    matchesPath (getStringMatcher pattern) args = true ↔
      args.path ≠ "" ∧ PatternMatches pattern args.path := by
  unfold matchesPath
  by_cases absent : args.path = ""
  · rw [if_pos absent]
    exact iff_of_false Bool.false_ne_true fun present => present.1 absent
  · rw [if_neg absent, and_iff_right absent, matches_getStringMatcher]

theorem pathMatches_iff (paths : List String) :
    (paths.any fun pattern => matchesPath (getStringMatcher pattern) args) = true ↔
      PathMatches paths args := by
  rw [List.any_eq_true]
  simp only [matchesPath_iff]
  constructor
  · rintro ⟨pattern, listed, present, found⟩
    exact ⟨present, pattern, listed, found⟩
  · rintro ⟨present, pattern, listed, found⟩
    exact ⟨pattern, listed, present, found⟩

theorem matchesHeader_iff (name pattern : String) (value : Option String) :
    (getHeaderMatcher name pattern).matchesValue value = true ↔
      ∃ found, value = some found ∧ PatternMatches pattern found := by
  have same : (getHeaderMatcher name pattern).matcher = getStringMatcher pattern := rfl
  have straight : (getHeaderMatcher name pattern).invertMatch = false := rfl
  unfold HeaderMatcher.matchesValue
  rw [same, straight, Bool.bne_false]
  cases value with
  | none => exact iff_of_false Bool.false_ne_true nofun
  | some found =>
    rw [Option.any_some, matches_getStringMatcher]
    constructor
    · intro matched
      exact ⟨found, rfl, matched⟩
    · rintro ⟨_, same, matched⟩
      cases same
      exact matched

variable {permission : Permission}

theorem parseHeaders_spec (parsed : parseHeaders json = .ok permission) :
    ∃ headerName elements, json.find "key" = some (.string headerName) ∧
      json.children "values" = elements ∧
      permission = .or (elements.map fun element =>
        .header (getHeaderMatcher headerName element.stringValue)) := by
  unfold parseHeaders at parsed
  split at parsed
  · cases parsed
  · rename_i headerName key
    split at parsed
    · cases parsed
    · split at parsed
      · cases parsed
      · rename_i elements values
        unfold parseHeaderValues at parsed
        split at parsed
        · cases parsed
        · obtain ⟨matchers, listed, made⟩ := exists_of_bind parsed
          cases made
          refine ⟨headerName, elements, key, ?_, ?_⟩
          · rw [Json.children, values]
            rfl
          · rw [parseArray_strings listed]
      · cases parsed
  · cases parsed

theorem headerMatches_iff (parsed : parseHeadersChild i json = .ok permission) :
    (ofPermission permission).matchesArgs args = true ↔ HeaderMatches json args := by
  cases json with
  | object =>
    obtain ⟨headerName, elements, key, values, rfl⟩ := parseHeaders_spec (ok_of_mapError parsed)
    unfold HeaderMatches
    rw [key, strings_eq_map, values, ofPermission, ofPermissions_eq_map, matchesArgs,
      anyMatches_eq_any, List.map_map, List.any_map, List.any_eq_true]
    simp only [Function.comp_apply, ofPermission, matchesArgs, matchesHeader_iff, List.mem_map]
    constructor
    · rintro ⟨element, listed, value, present, found⟩
      exact ⟨value, present, element.stringValue, ⟨element, listed, rfl⟩, found⟩
    · rintro ⟨value, present, _, ⟨element, listed, rfl⟩, found⟩
      exact ⟨element, listed, value, present, found⟩
  | _ => cases parsed

theorem matchesArgs_request {parts : List Permission}
    (made : (if parts.isEmpty then Except.ok Permission.any else .ok (.and parts)) =
      (Except.ok permission : Except String Permission)) :
    (ofPermission permission).matchesArgs args =
      parts.all fun part => (ofPermission part).matchesArgs args := by
  cases parts with
  | nil =>
    cases made
    rfl
  | cons =>
    cases made
    rw [ofPermission, ofPermissions_eq_map, matchesArgs, allMatch_eq_all, List.all_map]
    rfl

theorem parsePathsArray_eq (parsed : parsePathsArray elements = .ok permission) :
    permission = .or (elements.map fun element => .path (getStringMatcher element.stringValue)) := by
  obtain ⟨paths, listed, made⟩ := exists_of_bind parsed
  cases made
  rw [parseArray_strings listed]

def partMatches (args : EvaluateArgs) (part : Permission) : Bool :=
  part.permissions.isEmpty || (ofPermission part).matchesArgs args

theorem pathsPart_iff (elements : List Json) :
    partMatches args (.or (elements.map fun element =>
      .path (getStringMatcher element.stringValue))) = true ↔
      elements.map Json.stringValue = [] ∨ PathMatches (elements.map Json.stringValue) args := by
  cases elements with
  | nil => exact iff_of_true rfl (.inl rfl)
  | cons =>
    rw [or_iff_right (by simp), ← pathMatches_iff]
    simp [partMatches, Permission.permissions, ofPermission, ofPermissions_eq_map, matchesArgs,
      anyMatches_eq_any, Function.comp_def]

theorem headersPart_iff (parsed : parseHeadersArray elements = .ok permission) :
    partMatches args permission = true ↔ ∀ header ∈ elements, HeaderMatches header args := by
  obtain ⟨headers, listed, made⟩ := exists_of_bind parsed
  cases made
  have each : List.Forall₂ (fun element header =>
      (ofPermission header).matchesArgs args = true ↔ HeaderMatches element args)
      elements headers := by
    refine parseArray_forall₂ ?_ listed
    intro i element header parsed
    exact headerMatches_iff parsed
  have all : (headers.isEmpty || (headers.all fun header =>
      (ofPermission header).matchesArgs args)) = headers.all fun header =>
      (ofPermission header).matchesArgs args := by
    cases headers with
    | nil => rfl
    | cons => rfl
  simp only [partMatches, Permission.permissions, ofPermission, ofPermissions_eq_map, matchesArgs,
    allMatch_eq_all, List.all_map, Function.comp_def]
  rw [all]
  clear parsed listed all
  induction each with
  | nil => exact iff_of_true rfl nofun
  | cons first _ ih =>
    rw [List.all_cons, Bool.and_eq_true, List.forall_mem_cons]
    exact and_congr first ih

theorem requestMatches_iff (parsed : parseRequest json = .ok permission) :
    (ofPermission permission).matchesArgs args = true ↔ RequestMatches json args := by
  obtain ⟨pathElements, foundPaths, parsed⟩ := exists_of_bind parsed
  obtain ⟨paths, parsedPaths, parsed⟩ := exists_of_bind parsed
  obtain ⟨headerElements, foundHeaders, parsed⟩ := exists_of_bind parsed
  obtain ⟨headers, parsedHeaders, made⟩ := exists_of_bind parsed
  rw [matchesArgs_request made, List.all_filter]
  unfold RequestMatches
  rw [strings_eq_map, findArray_eq foundPaths, findArray_eq foundHeaders,
    ← pathsPart_iff, ← headersPart_iff parsedHeaders, ← parsePathsArray_eq parsedPaths]
  simp [partMatches]

theorem parseObject_iff {Result : Type} {absent result : Result}
    {parse : Json → Except String Result} (means : Json → Result → Prop)
    (parsed : parseObject json field absent parse = .ok result)
    (present : ∀ member result, parse member = .ok result → means member result)
    (empty : means (.object []) absent) : means (json.member field) result := by
  unfold parseObject at parsed
  unfold Json.member
  cases found : json.find field with
  | none =>
    rw [found] at parsed
    cases parsed
    exact empty
  | some member =>
    rw [found] at parsed
    cases member with
    | object => exact present _ _ parsed
    | _ => cases parsed

theorem ruleMatches_iff {policy : Policy} (parsed : parseRules json = .ok policy) :
    (PolicyAuthorizationMatcher.ofPolicy policy).matchesArgs args = true ↔
      RuleMatches json args := by
  obtain ⟨principals, parsedSource, parsed⟩ := exists_of_bind parsed
  obtain ⟨permissions, parsedRequest, made⟩ := exists_of_bind parsed
  cases made
  have source : (ofPrincipal principals).matchesArgs args = true ↔
      SourceMatches (json.member "source") args :=
    parseObject_iff
      (fun member principal =>
        (ofPrincipal principal).matchesArgs args = true ↔ SourceMatches member args)
      parsedSource (fun _ _ parsed => sourceMatches_iff parsed) (iff_of_true rfl (.inl rfl))
  have request : (ofPermission permissions).matchesArgs args = true ↔
      RequestMatches (json.member "request") args :=
    parseObject_iff
      (fun member permission =>
        (ofPermission permission).matchesArgs args = true ↔ RequestMatches member args)
      parsedRequest (fun _ _ parsed => requestMatches_iff parsed)
      (iff_of_true rfl ⟨.inl rfl, nofun⟩)
  unfold PolicyAuthorizationMatcher.matchesArgs PolicyAuthorizationMatcher.ofPolicy RuleMatches
  rw [Bool.and_eq_true, source, request]
  exact and_comm

end GrpcCore.Security
