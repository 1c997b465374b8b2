import Mathlib

/-!
# Virtual hosts

The domain patterns of `RouteConfigParse` and the search of `FindVirtualHostForDomain` for the
virtual host whose pattern fits a host name best.
-/

namespace GrpcCore.Xds

/-- A smaller value is a better match. -/
inductive MatchType where
  | exactMatch
  | suffixMatch
  | prefixMatch
  | universeMatch
  | invalidMatch
deriving DecidableEq

def MatchType.value : MatchType → Nat
  | exactMatch => 0
  | suffixMatch => 1
  | prefixMatch => 2
  | universeMatch => 3
  | invalidMatch => 4

/-- A virtual host, by its domains. -/
abbrev VirtualHost := List (List UInt8)

def asterisk : UInt8 := 42

/-- `std::tolower` in the C locale. -/
def lower (text : List UInt8) : List UInt8 :=
  text.map fun c => if 65 ≤ c ∧ c ≤ 90 then c + 32 else c

def cString (text : List UInt8) : List UInt8 := text.takeWhile (· ≠ 0)

/-- `DomainMatch`. Only the parts of the suffix comparison are read as C strings. -/
def domainMatch (matchType : MatchType) (domainPatternIn expectedHostNameIn : List UInt8) : Bool :=
  let domainPattern := lower domainPatternIn
  let expectedHostName := lower expectedHostNameIn
  match matchType with
  | .exactMatch => domainPattern = expectedHostName
  | .suffixMatch =>
    if expectedHostName.length < domainPattern.length then false
    else
      let patternSuffix := cString (domainPattern.drop 1)
      let hostSuffix :=
        cString (expectedHostName.drop (expectedHostName.length - patternSuffix.length))
      patternSuffix = hostSuffix
  | .prefixMatch =>
    if expectedHostName.length < domainPattern.length then false
    else
      let patternPrefix := domainPattern.take (domainPattern.length - 1)
      let hostPrefix := expectedHostName.take patternPrefix.length
      patternPrefix = hostPrefix
  | .universeMatch => true
  | .invalidMatch => false

/-- `DomainPatternMatchType`. -/
def domainPatternMatchType (domainPattern : List UInt8) : MatchType :=
  if domainPattern = [] then .invalidMatch
  else if asterisk ∉ domainPattern then .exactMatch
  else if domainPattern = [asterisk] then .universeMatch
  else if domainPattern.head? = some asterisk then .suffixMatch
  else if domainPattern.getLast? = some asterisk then .prefixMatch
  else .invalidMatch

inductive DomainError where
  | invalidPattern (domainPattern : List UInt8)
  | noDomains

/-- The domains of one virtual host in `RouteConfigParse`. -/
def parseDomains (domains : List (List UInt8)) : Except DomainError VirtualHost :=
  match domains.find? fun domainPattern => domainPatternMatchType domainPattern = .invalidMatch with
  | some domainPattern => .error (.invalidPattern domainPattern)
  | none => if domains = [] then .error .noDomains else .ok domains

/-- The locals of `FindVirtualHostForDomain`; the target is its index. -/
structure Search where
  targetVhost : Option Nat
  bestMatchType : MatchType
  longestMatch : Nat

/-- The loop over the patterns of one virtual host, which fails with the assertion. -/
def Search.patterns (domain : List UInt8) (vhost : Nat) (search : Search) :
    List (List UInt8) → Option Search
  | [] => some search
  | domainPattern :: domains =>
    let matchType := domainPatternMatchType domainPattern
    if matchType = .invalidMatch then none
    else if search.bestMatchType.value < matchType.value then search.patterns domain vhost domains
    else if matchType = search.bestMatchType ∧ domainPattern.length ≤ search.longestMatch then
      search.patterns domain vhost domains
    else if domainMatch matchType domainPattern domain then
      let search : Search := ⟨some vhost, matchType, domainPattern.length⟩
      if matchType = .exactMatch then some search else search.patterns domain vhost domains
    else search.patterns domain vhost domains

/-- The loop over the virtual hosts. -/
def Search.hosts (domain : List UInt8) (vhost : Nat) (search : Search) :
    List VirtualHost → Option Search
  | [] => some search
  | domains :: virtualHosts =>
    (search.patterns domain vhost domains).bind fun search =>
      if search.bestMatchType = .exactMatch then some search
      else search.hosts domain (vhost + 1) virtualHosts

/-- `FindVirtualHostForDomain`, over the domains of the virtual hosts. -/
def findVirtualHostForDomain (virtualHosts : List VirtualHost) (domain : List UInt8) :
    Option (Option Nat) :=
  (Search.hosts domain 0 ⟨none, .invalidMatch, 0⟩ virtualHosts).map Search.targetVhost

/-- What a pattern means: an asterisk at its front or at its back stands for at least one
character, and the asterisk alone for any name. -/
def Fits (domainPattern domain : List UInt8) : Prop :=
  match domainPatternMatchType domainPattern with
  | .exactMatch => lower domainPattern = lower domain
  | .suffixMatch => ∃ start ≠ [], lower domain = start ++ lower domainPattern.tail
  | .prefixMatch => ∃ rest ≠ [], lower domain = lower domainPattern.dropLast ++ rest
  | .universeMatch => True
  | .invalidMatch => False

/-- The better type, and then the longer pattern. -/
def Better (domainPattern other : List UInt8) : Prop :=
  (domainPatternMatchType domainPattern).value < (domainPatternMatchType other).value ∨
    (domainPatternMatchType domainPattern).value = (domainPatternMatchType other).value ∧
      other.length < domainPattern.length

/-- A pattern fits, and none that fits is better. -/
def Best (virtualHosts : List VirtualHost) (domain domainPattern : List UInt8) : Prop :=
  Fits domainPattern domain ∧ ∀ domains ∈ virtualHosts, ∀ other ∈ domains, Fits other domain →
    ¬Better other domainPattern

/-- No suffix pattern has a NUL byte. -/
def NoNul (domains : VirtualHost) : Prop :=
  ∀ domainPattern ∈ domains, domainPatternMatchType domainPattern = .suffixMatch →
    0 ∉ domainPattern

section Matching

theorem lower_tail (text : List UInt8) : lower text.tail = (lower text).tail := List.map_tail

theorem lower_dropLast (text : List UInt8) : lower text.dropLast = (lower text).dropLast :=
  List.map_dropLast ..

theorem zero_notMem_lower {text : List UInt8} (plain : 0 ∉ text) : 0 ∉ lower text := by
  intro nul
  obtain ⟨c, member, zero⟩ := List.mem_map.mp nul
  split at zero
  case isTrue upper =>
    have upper := UInt8.le_iff_toNat_le.mp upper.2
    have sum := congrArg UInt8.toNat zero
    simp at upper sum
    omega
  case isFalse => exact plain (zero ▸ member)

theorem cString_eq {text : List UInt8} (plain : 0 ∉ text) : cString text = text :=
  List.takeWhile_eq_self_iff.mpr fun _ member =>
    decide_eq_true fun zero => plain (zero ▸ member)

theorem eq_cString_iff {text tail : List UInt8} (plain : 0 ∉ text)
    (same : text.length = tail.length) : text = cString tail ↔ text = tail := by
  constructor
  · intro equal
    have whole : (cString tail).length = tail.length := equal ▸ same
    exact equal.trans ((List.takeWhile_prefix _).eq_of_length whole)
  · rintro rfl
    exact (cString_eq plain).symm

theorem length_pos_of_valid {domainPattern : List UInt8}
    (valid : domainPatternMatchType domainPattern ≠ .invalidMatch) : 0 < domainPattern.length := by
  apply List.length_pos_iff.mpr
  rintro rfl
  exact valid rfl

theorem exists_start_iff {name suffix : List UInt8} :
    (∃ start ≠ [], name = start ++ suffix) ↔
      suffix.length < name.length ∧ suffix = name.drop (name.length - suffix.length) := by
  constructor
  · rintro ⟨start, some_, rfl⟩
    have front := List.length_pos_iff.mpr some_
    rw [List.length_append, Nat.add_sub_cancel, List.drop_left]
    exact ⟨Nat.lt_add_of_pos_left front, rfl⟩
  · rintro ⟨shorter, same⟩
    refine ⟨name.take (name.length - suffix.length), ?_, ?_⟩
    · apply List.ne_nil_of_length_pos
      rw [List.length_take]
      omega
    · exact (List.take_append_drop ..).symm.trans (congrArg _ same.symm)

theorem exists_rest_iff {name start : List UInt8} :
    (∃ rest ≠ [], name = start ++ rest) ↔
      start.length < name.length ∧ start = name.take start.length := by
  constructor
  · rintro ⟨rest, some_, rfl⟩
    have behind := List.length_pos_iff.mpr some_
    rw [List.length_append, List.take_left]
    exact ⟨Nat.lt_add_of_pos_right behind, rfl⟩
  · rintro ⟨shorter, same⟩
    refine ⟨name.drop start.length, ?_, ?_⟩
    · apply List.ne_nil_of_length_pos
      rw [List.length_drop]
      omega
    · exact (List.take_append_drop ..).symm.trans (congrArg (· ++ _) same.symm)

theorem domainMatch_iff {domainPattern : List UInt8} (domain : List UInt8)
    (plain : domainPatternMatchType domainPattern = .suffixMatch → 0 ∉ domainPattern) :
    domainMatch (domainPatternMatchType domainPattern) domainPattern domain = true ↔
      Fits domainPattern domain := by
  unfold domainMatch Fits
  cases type : domainPatternMatchType domainPattern with
  | exactMatch => exact decide_eq_true_iff
  | universeMatch => exact iff_of_true rfl trivial
  | invalidMatch => exact iff_of_false Bool.false_ne_true id
  | suffixMatch =>
    have pos := length_pos_of_valid (by rw [type]; nofun)
    have tail := zero_notMem_lower fun nul => plain type (List.mem_of_mem_tail nul)
    have length : (lower domainPattern.tail).length = (lower domainPattern).length - 1 := by
      simp [lower]
    have full : 0 < (lower domainPattern).length := by simpa [lower] using pos
    dsimp only
    rw [exists_start_iff, List.drop_one, ← lower_tail, cString_eq tail]
    split
    case isTrue short => exact iff_of_false Bool.false_ne_true fun fits => by omega
    case isFalse long =>
      have rest : (lower domainPattern.tail).length =
          ((lower domain).drop
            ((lower domain).length - (lower domainPattern.tail).length)).length := by
        rw [List.length_drop]
        omega
      rw [decide_eq_true_iff, eq_cString_iff tail rest]
      exact (and_iff_right (by omega)).symm
  | prefixMatch =>
    have pos := length_pos_of_valid (by rw [type]; nofun)
    have length : (lower domainPattern.dropLast).length = (lower domainPattern).length - 1 := by
      simp [lower]
    have full : 0 < (lower domainPattern).length := by simpa [lower] using pos
    dsimp only
    rw [exists_rest_iff, ← List.dropLast_eq_take, ← lower_dropLast]
    split
    case isTrue short => exact iff_of_false Bool.false_ne_true fun fits => by omega
    case isFalse long =>
      rw [decide_eq_true_iff]
      exact (and_iff_right (by omega)).symm

end Matching

section Searching

variable {domain domainPattern : List UInt8} {seen more : List (Nat × List UInt8)} {search : Search}
  {vhost : Nat} {domains : VirtualHost} {virtualHosts : List VirtualHost}

theorem MatchType.value_injective : Function.Injective MatchType.value := by
  intro first second same
  cases first <;> cases second <;> first | rfl | cases same

theorem valid_of_fits (fits : Fits domainPattern domain) :
    domainPatternMatchType domainPattern ≠ .invalidMatch := by
  intro invalid
  unfold Fits at fits
  rw [invalid] at fits
  exact fits

/-- What the search knows of the patterns it has seen, each with the index of its host. -/
inductive Tracks (domain : List UInt8) (seen : List (Nat × List UInt8)) : Search → Prop
  | nothing (unfit : ∀ pattern ∈ seen, ¬Fits pattern.2 domain) :
      Tracks domain seen ⟨none, .invalidMatch, 0⟩
  | target {vhost : Nat} {domainPattern : List UInt8} (found : (vhost, domainPattern) ∈ seen)
      (fits : Fits domainPattern domain)
      (best : ∀ pattern ∈ seen, Fits pattern.2 domain → ¬Better pattern.2 domainPattern ∧
        (pattern.1 < vhost → Better domainPattern pattern.2)) :
      Tracks domain seen ⟨some vhost, domainPatternMatchType domainPattern, domainPattern.length⟩

def Search.Skips (search : Search) (domainPattern : List UInt8) : Prop :=
  search.bestMatchType.value < (domainPatternMatchType domainPattern).value ∨
    domainPatternMatchType domainPattern = search.bestMatchType ∧
      domainPattern.length ≤ search.longestMatch

section

variable (tracks : Tracks domain seen search)
include tracks

theorem Tracks.append (behind : ∀ pattern ∈ seen, ∀ later ∈ more, pattern.1 ≤ later.1)
    (worse : ∀ pattern ∈ more, Fits pattern.2 domain → search.Skips pattern.2) :
    Tracks domain (seen ++ more) search := by
  cases tracks with
  | nothing unfit =>
    refine .nothing fun pattern member => (List.mem_append.mp member).elim (unfit pattern) ?_
    intro new fits
    rcases worse pattern new fits with worse | ⟨invalid, _⟩
    · cases type : domainPatternMatchType pattern.2 <;> rw [type] at worse <;>
        simp [MatchType.value] at worse
    · exact valid_of_fits fits invalid
  | @target vhost domainPattern found fits best =>
    refine .target (List.mem_append_left _ found) fits fun pattern member fits => ?_
    rcases List.mem_append.mp member with old | new
    · exact best pattern old fits
    · refine ⟨fun better => ?_, fun earlier => absurd (behind _ found _ new) earlier.not_ge⟩
      unfold Better at better
      rcases worse pattern new fits with worse | ⟨same, short⟩
      · dsimp only at worse
        omega
      · dsimp only at same short
        rw [same] at better
        omega

theorem Tracks.skip (behind : ∀ pattern ∈ seen, pattern.1 ≤ vhost)
    (worse : Fits domainPattern domain → search.Skips domainPattern) :
    Tracks domain (seen ++ [(vhost, domainPattern)]) search :=
  tracks.append (by simpa using behind) (by simpa using worse)

theorem Tracks.choose (fits : Fits domainPattern domain) (better : ¬search.Skips domainPattern) :
    Tracks domain (seen ++ [(vhost, domainPattern)])
      ⟨some vhost, domainPatternMatchType domainPattern, domainPattern.length⟩ := by
  refine .target (List.mem_append_right _ List.mem_cons_self) fits fun pattern member other => ?_
  rcases List.mem_append.mp member with old | new
  · cases tracks with
    | nothing unfit => exact absurd other (unfit pattern old)
    | @target _ found' _ _ best =>
      have noWorse := (best pattern old other).1
      have value : domainPatternMatchType domainPattern = domainPatternMatchType found' ↔
          (domainPatternMatchType domainPattern).value = (domainPatternMatchType found').value :=
        ⟨congrArg _, fun same => MatchType.value_injective same⟩
      unfold Search.Skips at better
      unfold Better at noWorse ⊢
      dsimp only at better
      rw [value] at better
      constructor
      · omega
      · omega
  · cases List.mem_singleton.mp new
    refine ⟨fun better => ?_, fun earlier => absurd earlier (Nat.lt_irrefl _)⟩
    exact better.elim (Nat.lt_irrefl _) fun same => Nat.lt_irrefl _ same.2

theorem Tracks.append_of_exact (exact : search.bestMatchType = .exactMatch)
    (behind : ∀ pattern ∈ seen, ∀ later ∈ more, pattern.1 ≤ later.1) :
    Tracks domain (seen ++ more) search := by
  refine tracks.append behind fun pattern _ other => ?_
  cases tracks with
  | nothing => cases exact
  | @target vhost domainPattern found fits best =>
    unfold Search.Skips
    dsimp only at exact ⊢
    cases type : domainPatternMatchType pattern.2 with
    | exactMatch =>
      unfold Fits at fits other
      rw [exact] at fits ⊢
      rw [type] at other
      have same := congrArg List.length (other.trans fits.symm)
      exact .inr ⟨rfl, by simpa [lower] using same.le⟩
    | _ =>
      rw [exact]
      exact .inl (by simp [MatchType.value])

theorem tracks_patterns (behind : ∀ pattern ∈ seen, pattern.1 ≤ vhost)
    (valid : ∀ domainPattern ∈ domains, domainPatternMatchType domainPattern ≠ .invalidMatch)
    (plain : NoNul domains) : ∃ search', search.patterns domain vhost domains = some search' ∧
      Tracks domain (seen ++ domains.map fun domainPattern => (vhost, domainPattern)) search' := by
  induction domains generalizing seen search with
  | nil => exact ⟨search, rfl, by simpa using tracks⟩
  | cons domainPattern domains ih =>
    obtain ⟨here, valid⟩ := List.forall_mem_cons.mp valid
    obtain ⟨plain', plain⟩ := List.forall_mem_cons.mp plain
    have reached : ∀ pattern ∈ seen ++ [(vhost, domainPattern)], pattern.1 ≤ vhost := by
      simpa [or_imp, forall_and] using behind
    rw [List.map_cons, List.append_cons]
    have skip (worse : Fits domainPattern domain → search.Skips domainPattern) :=
      ih (tracks.skip behind worse) reached valid plain
    unfold Search.patterns
    rw [if_neg here]
    split
    case isTrue worse => exact skip fun _ => .inl worse
    case isFalse noWorse =>
      split
      case isTrue short => exact skip fun _ => .inr short
      case isFalse longer =>
        split
        case isTrue done =>
          have chosen : Tracks domain (seen ++ [(vhost, domainPattern)]) _ :=
            tracks.choose ((domainMatch_iff domain plain').mp done) (not_or.mpr ⟨noWorse, longer⟩)
          split
          case isTrue exact =>
            refine ⟨_, rfl, chosen.append_of_exact exact fun pattern old later new => ?_⟩
            obtain ⟨_, _, rfl⟩ := List.mem_map.mp new
            exact reached pattern old
          case isFalse => exact ih chosen reached valid plain
        case isFalse failed =>
          exact skip fun fits => absurd ((domainMatch_iff domain plain').mpr fits) failed

end

def candidates : Nat → List VirtualHost → List (Nat × List UInt8)
  | _, [] => []
  | vhost, domains :: virtualHosts =>
    (domains.map fun domainPattern => (vhost, domainPattern)) ++
      candidates (vhost + 1) virtualHosts

theorem mem_candidates {index : Nat} : (index, domainPattern) ∈ candidates vhost virtualHosts ↔
      ∃ place domains, index = vhost + place ∧ virtualHosts[place]? = some domains ∧
        domainPattern ∈ domains := by
  induction virtualHosts generalizing vhost with
  | nil => simp [candidates]
  | cons domains virtualHosts ih =>
    rw [candidates, List.mem_append, ih]
    constructor
    · rintro (here | ⟨place, found, rfl, there, member⟩)
      · obtain ⟨_, member, same⟩ := List.mem_map.mp here
        cases same
        exact ⟨0, domains, rfl, rfl, member⟩
      · exact ⟨place + 1, found, by omega, there, member⟩
    · rintro ⟨place, found, rfl, there, member⟩
      cases place with
      | zero =>
        cases there
        exact .inl (List.mem_map.mpr ⟨_, member, rfl⟩)
      | succ place => exact .inr ⟨place, found, by omega, there, member⟩

theorem le_of_mem_candidates {pattern : Nat × List UInt8} (member : pattern ∈ candidates vhost virtualHosts) :
    vhost ≤ pattern.1 := by
  obtain ⟨place, _, same, _⟩ := mem_candidates.mp member
  omega

theorem tracks_hosts (tracks : Tracks domain seen search)
    (behind : ∀ pattern ∈ seen, pattern.1 ≤ vhost)
    (valid : ∀ domains ∈ virtualHosts, ∀ domainPattern ∈ domains,
      domainPatternMatchType domainPattern ≠ .invalidMatch)
    (plain : ∀ domains ∈ virtualHosts, NoNul domains) :
    ∃ search', search.hosts domain vhost virtualHosts = some search' ∧
      Tracks domain (seen ++ candidates vhost virtualHosts) search' := by
  induction virtualHosts generalizing vhost seen search with
  | nil => exact ⟨search, rfl, by simpa [candidates] using tracks⟩
  | cons domains virtualHosts ih =>
    obtain ⟨valid', valid⟩ := List.forall_mem_cons.mp valid
    obtain ⟨plain', plain⟩ := List.forall_mem_cons.mp plain
    obtain ⟨middle, searched, tracks'⟩ := tracks_patterns tracks behind valid' plain'
    have reached : ∀ pattern ∈ seen ++ domains.map fun domainPattern => (vhost, domainPattern),
        pattern.1 ≤ vhost := by
      intro pattern member
      rcases List.mem_append.mp member with old | new
      · exact behind pattern old
      · obtain ⟨_, _, rfl⟩ := List.mem_map.mp new
        exact le_rfl
    unfold Search.hosts
    rw [searched, Option.bind_some, candidates, ← List.append_assoc]
    split
    case isTrue exact =>
      refine ⟨middle, rfl, tracks'.append_of_exact exact fun pattern old later new => ?_⟩
      exact (reached pattern old).trans ((Nat.le_succ _).trans (le_of_mem_candidates new))
    case isFalse =>
      exact ih tracks' (fun pattern old => (reached pattern old).trans (Nat.le_succ _)) valid plain

theorem valid_of_parseDomains {raw : VirtualHost} (parsed : parseDomains raw = .ok domains) :
    ∀ domainPattern ∈ domains, domainPatternMatchType domainPattern ≠ .invalidMatch := by
  unfold parseDomains at parsed
  split at parsed
  · cases parsed
  · next none_ =>
      split at parsed
      · cases parsed
      · cases parsed
        simpa using List.find?_eq_none.mp none_

/-- The first host with a best fitting pattern is found, and no host when no pattern fits. -/
theorem findVirtualHostForDomain_best (virtualHosts : List VirtualHost)
    (domain : List UInt8)
    (accepted : ∀ domains ∈ virtualHosts, ∃ raw, parseDomains raw = .ok domains)
    (plain : ∀ domains ∈ virtualHosts, NoNul domains) :
    ∃ target, findVirtualHostForDomain virtualHosts domain = some target ∧
      (target = none ↔
        ∀ domains ∈ virtualHosts, ∀ domainPattern ∈ domains, ¬Fits domainPattern domain) ∧
      ∀ vhost, target = some vhost →
        (∃ domains, virtualHosts[vhost]? = some domains ∧
          ∃ domainPattern ∈ domains, Best virtualHosts domain domainPattern) ∧
        ∀ earlier domains, earlier < vhost → virtualHosts[earlier]? = some domains →
          ∀ domainPattern ∈ domains, ¬Best virtualHosts domain domainPattern := by
  have start : Tracks domain [] ⟨none, .invalidMatch, 0⟩ := .nothing nofun
  obtain ⟨search, searched, tracks⟩ : ∃ search, Search.hosts domain 0 _ virtualHosts = some search ∧
      Tracks domain ([] ++ candidates 0 virtualHosts) search :=
    tracks_hosts start nofun (fun domains member => (accepted domains member).elim fun _ =>
      valid_of_parseDomains) plain
  have listed {domains : VirtualHost} {place : Nat} {domainPattern : List UInt8}
      (there : virtualHosts[place]? = some domains) (member : domainPattern ∈ domains) :
      (place, domainPattern) ∈ [] ++ candidates 0 virtualHosts :=
    mem_candidates.mpr ⟨place, domains, (Nat.zero_add place).symm, there, member⟩
  refine ⟨search.targetVhost, congrArg _ searched, ?_⟩
  cases tracks with
  | nothing unfit =>
    refine ⟨iff_of_true rfl fun domains member domainPattern within => ?_, nofun⟩
    obtain ⟨place, there⟩ := List.getElem?_of_mem member
    exact unfit _ (listed there within)
  | @target vhost domainPattern found fits best =>
    obtain ⟨place, domains, rfl, there, member⟩ := mem_candidates.mp found
    rw [Nat.zero_add] at best ⊢
    refine ⟨iff_of_false nofun fun unfit => unfit domains (List.mem_of_getElem? there)
      domainPattern member fits, ?_⟩
    rintro _ ⟨⟩
    constructor
    · refine ⟨domains, there, domainPattern, member, fits, fun domains' listed' other within => ?_⟩
      obtain ⟨place', there'⟩ := List.getElem?_of_mem listed'
      exact fun fits' => (best _ (listed there' within) fits').1
    · intro earlier domains' before there' other within top
      exact top.2 domains (List.mem_of_getElem? there) domainPattern member fits
        ((best _ (listed there' within) top.1).2 before)

/-- A host that has the name itself comes behind one that has a suffix of it. -/
theorem findVirtualHostForDomain_exact : ∃ target, findVirtualHostForDomain
    [[[42, 46, 97]], [[120, 46, 97]]] [120, 46, 97] = some target ∧ target ≠ none := by
  obtain ⟨target, found, none_, _⟩ := findVirtualHostForDomain_best
    [[[42, 46, 97]], [[120, 46, 97]]] [120, 46, 97]
    (by
      simp only [List.forall_mem_cons]
      exact ⟨⟨[[42, 46, 97]], rfl⟩, ⟨[[120, 46, 97]], rfl⟩, nofun⟩)
    (by simp only [NoNul, List.forall_mem_cons]; decide)
  exact ⟨target, found, fun nothing =>
    none_.mp nothing _ (List.mem_cons_of_mem _ List.mem_cons_self) _ List.mem_cons_self rfl⟩

/-- The reading in which each asterisk stands for at least one character. -/
def Glob : List UInt8 → List UInt8 → Prop
  | [], domain => domain = []
  | c :: domainPattern, domain =>
    ∃ start rest, domain = start ++ rest ∧ Glob domainPattern rest ∧
      if c = asterisk then start ≠ [] else start = [c]

/-- The second asterisk of a suffix pattern is an ordinary character. -/
theorem second_asterisk_literal : ¬∀ (virtualHosts : List VirtualHost)
    (domain : List UInt8), (∀ domains ∈ virtualHosts, ∃ raw, parseDomains raw = .ok domains) →
      (findVirtualHostForDomain virtualHosts domain = some none ↔ ∀ domains ∈ virtualHosts,
        ∀ domainPattern ∈ domains, ¬Glob (lower domainPattern) (lower domain)) := by
  intro documented
  have unfit := (documented [[[42, 97, 42]]] [120, 97, 121] fun domains member =>
    ⟨[[42, 97, 42]], by cases List.mem_singleton.mp member; rfl⟩).mp (by decide)
  exact unfit _ List.mem_cons_self _ List.mem_cons_self
    ⟨[120], [97, 121], rfl, ⟨[97], [121], rfl, ⟨[121], [], rfl, rfl, by decide⟩, by decide⟩,
      by decide⟩

end Searching

end GrpcCore.Xds
