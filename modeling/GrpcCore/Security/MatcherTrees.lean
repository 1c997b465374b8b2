import GrpcCore.Address.SockaddrUtils
import GrpcCore.Security.AuthorizationEngine
import GrpcCore.Xds.SelectorEquality

/-!
# Matcher trees

RBAC permissions and principals with every kind of leaf, the matchers created from them, and what
a tree means for a request.
-/

namespace GrpcCore.Rbac

/-- Rules joined by `kAnd`, `kOr` and `kNot`, over leaves. -/
inductive Rule (Leaf : Type) where
  | and (rules : List (Rule Leaf))
  | or (rules : List (Rule Leaf))
  | not (rule : Rule Leaf)
  | any
  | leaf (leaf : Leaf)

/-- What each kind of rule becomes, given what the rules in it have become. -/
structure Reading (Leaf Result : Type) where
  and : List Result → Result
  or : List Result → Result
  not : Result → Result
  any : Result
  leaf : Leaf → Result

namespace Rule

variable {Leaf Other Result : Type}

mutual

def read (reading : Reading Leaf Result) : Rule Leaf → Result
  | .and rules => reading.and (readAll reading rules)
  | .or rules => reading.or (readAll reading rules)
  | .not rule => reading.not (read reading rule)
  | .any => reading.any
  | .leaf item => reading.leaf item

def readAll (reading : Reading Leaf Result) : List (Rule Leaf) → List Result
  | [] => []
  | rule :: rules => read reading rule :: readAll reading rules

end

/-- `AuthorizationMatcher::Create`, given the matchers of the leaves. -/
def create (leaf : Leaf → Other) : Rule Leaf → Rule Other := read ⟨.and, .or, .not, .any, .leaf ∘ leaf⟩

/-- `AuthorizationMatcher::Matches`, given those of the leaves. -/
def allows (leaf : Leaf → Bool) : Rule Leaf → Bool :=
  read ⟨fun results => results.all id, fun results => results.any id, fun result => !result, true, leaf⟩

/-- The truth value of a tree. -/
def Holds (leaf : Leaf → Prop) : Rule Leaf → Prop :=
  read ⟨fun truths => ∀ truth ∈ truths, truth, fun truths => ∃ truth ∈ truths, truth, Not, True, leaf⟩

/-- The nodes of a tree. -/
inductive Within (node : Rule Leaf) : Rule Leaf → Prop where
  | root : Within node node
  | and {rule rules} : rule ∈ rules → Within node rule → Within node (.and rules)
  | or {rule rules} : rule ∈ rules → Within node rule → Within node (.or rules)
  | not {rule} : Within node rule → Within node (.not rule)

theorem Within.trans {inner node rule : Rule Leaf} (below : Within inner node)
    (within : Within node rule) : Within inner rule := by
  induction within with
  | root => exact below
  | and member _ ih => exact .and member ih
  | or member _ ih => exact .or member ih
  | not _ ih => exact .not ih

theorem readAll_eq (reading : Reading Leaf Result) (rules : List (Rule Leaf)) :
    readAll reading rules = rules.map (read reading) := by
  induction rules with
  | nil => rfl
  | cons rule rules ih => rw [readAll, List.map_cons, ih]

/-- Induction over the rules of a tree. -/
theorem induct {motive : Rule Leaf → Prop}
    (and : ∀ rules, (∀ rule ∈ rules, motive rule) → motive (.and rules))
    (or : ∀ rules, (∀ rule ∈ rules, motive rule) → motive (.or rules))
    (not : ∀ rule, motive rule → motive (.not rule)) (any : motive .any)
    (leaf : ∀ leaf, motive (.leaf leaf)) (rule : Rule Leaf) : motive rule :=
  @Rule.rec Leaf motive (fun rules => ∀ rule ∈ rules, motive rule) and or not any leaf
    (List.forall_mem_nil _) (fun _ _ head tail => List.forall_mem_cons.mpr ⟨head, tail⟩) rule

/-- A created tree has the truth value when its leaves have theirs. -/
theorem allows_create {create' : Leaf → Other} {allows' : Other → Bool} {holds : Leaf → Prop}
    (rule : Rule Leaf) (leaves : ∀ leaf, Within (.leaf leaf) rule →
      (allows' (create' leaf) = true ↔ holds leaf)) :
    (rule.create create').allows allows' = true ↔ rule.Holds holds := by
  induction rule using induct with
  | and rules ih =>
    simp only [create, allows, Holds, read, readAll_eq, List.all_map, List.all_eq_true,
      List.forall_mem_map]
    refine forall₂_congr fun rule member => ?_
    exact ih rule member fun leaf within => leaves leaf (.and member within)
  | or rules ih =>
    simp only [create, allows, Holds, read, readAll_eq, List.any_map, List.any_eq_true,
      List.mem_map, exists_exists_and_eq_and]
    refine exists_congr fun rule => and_congr_right fun member => ?_
    exact ih rule member fun leaf within => leaves leaf (.or member within)
  | not rule ih =>
    have inner := ih fun leaf within => leaves leaf (.not within)
    simp only [create, allows, Holds, read, Bool.not_eq_true'] at inner ⊢
    rw [← Bool.not_eq_true, inner]
  | any => exact iff_of_true rfl trivial
  | leaf item => exact leaves item .root

end Rule

open Address Xds.Resolver

open Security (EvaluateArgs)

/-- `Rbac::CidrRange`. -/
structure CidrRange where
  addressPrefix : String
  prefixLen : Nat

inductive PermissionLeaf where
  | header (matcher : HeaderMatcher)
  | path (matcher : StringMatcher)
  | destIp (ip : CidrRange)
  | destPort (port : Int)
  | reqServerName (matcher : StringMatcher)

inductive PrincipalLeaf where
  | principalName (matcher : StringMatcher)
  | sourceIp (ip : CidrRange)
  | directRemoteIp (ip : CidrRange)
  | remoteIp (ip : CidrRange)
  | header (matcher : HeaderMatcher)
  | path (matcher : StringMatcher)

inductive IpType where
  | kDestIp
  | kSourceIp
  | kDirectRemoteIp
  | kRemoteIp

/-- The subclasses of `AuthorizationMatcher` for leaves. -/
inductive LeafMatcher where
  | header (matcher : HeaderMatcher)
  | ip (type : IpType) (subnetAddress : Sockaddr) (prefixLen : Nat)
  | port (number : Int)
  | authenticated (matcher : StringMatcher)
  | reqServerName (matcher : StringMatcher)
  | path (matcher : StringMatcher)

/-- `EvaluateArgs` with the addresses of the connection. -/
structure Request extends EvaluateArgs where
  localAddress : Sockaddr
  localPort : Int
  peerAddress : Sockaddr

/-- What the matchers take from the machine and from other libraries. -/
structure Platform where
  order : ByteOrder
  stringToSockaddr : String → Option Sockaddr
  simpleAtoi : String → Option Int
  fullMatch : String → String → Bool

variable (platform : Platform)

/-- `IpAuthorizationMatcher`. An address that cannot be read stays zeroed. -/
def ipMatcher (type : IpType) (range : CidrRange) : LeafMatcher :=
  match platform.stringToSockaddr range.addressPrefix with
  | some address => .ip type (address.maskBits platform.order range.prefixLen) range.prefixLen
  | none => .ip type (.other 0) range.prefixLen

def PermissionLeaf.create : PermissionLeaf → LeafMatcher
  | .header matcher => .header matcher
  | .path matcher => .path matcher
  | .destIp ip => ipMatcher platform .kDestIp ip
  | .destPort port => .port port
  | .reqServerName matcher => .reqServerName matcher

def PrincipalLeaf.create : PrincipalLeaf → LeafMatcher
  | .principalName matcher => .authenticated matcher
  | .sourceIp ip => ipMatcher platform .kSourceIp ip
  | .directRemoteIp ip => ipMatcher platform .kDirectRemoteIp ip
  | .remoteIp ip => ipMatcher platform .kRemoteIp ip
  | .header matcher => .header matcher
  | .path matcher => .path matcher

/-- The characters that are compared. -/
def characters (matcher : StringMatcher) (text : List Char) : List Char :=
  text.map fun character => if matcher.caseSensitive then character else character.toLower

/-- `StringMatcher::Match`. -/
def matchText (matcher : StringMatcher) (value : String) : Bool :=
  let pattern := characters matcher matcher.matcher.toList
  let text := characters matcher value.toList
  match matcher.type with
  | .kExact => text = pattern
  | .kPrefix => pattern.isPrefixOf text
  | .kSuffix => pattern.isSuffixOf text
  | .kContains => decide (pattern <:+: text)
  | .kSafeRegex => platform.fullMatch matcher.matcher value

/-- `string_matcher`, which a regular expression leaves empty. -/
def stringMatcher (matcher : StringMatcher) : String :=
  if matcher.type = .kSafeRegex then "" else matcher.matcher

/-- `HeaderMatcher::Match`. -/
def matchHeader (matcher : HeaderMatcher) (value : Option String) : Bool :=
  let found :=
    match matcher.type, value with
    | .kPresent presentMatch, value => value.isSome == presentMatch
    | _, none => false
    | .kRange start stop, some value =>
      (platform.simpleAtoi value).any fun number => start ≤ number ∧ number < stop
    | .matcher matcher, some value => matchText platform matcher value
  found != matcher.invertMatch

/-- `AuthenticatedAuthorizationMatcher::Matches`. -/
def matchAuthenticated (matcher : StringMatcher) (args : Request) : Bool :=
  if args.transportSecurityType ≠ "ssl" ∧ args.transportSecurityType ≠ "tls" then false
  else if stringMatcher matcher = "" then true
  else args.uriSans.any (matchText platform matcher) || args.dnsSans.any (matchText platform matcher)

def LeafMatcher.allows (args : Request) : LeafMatcher → Bool
  | .header matcher => matchHeader platform matcher (args.headerValue matcher.name)
  | .ip .kDestIp subnet prefixLen =>
    args.localAddress.matchSubnet platform.order subnet prefixLen
  | .ip .kSourceIp subnet prefixLen | .ip .kDirectRemoteIp subnet prefixLen =>
    args.peerAddress.matchSubnet platform.order subnet prefixLen
  | .ip .kRemoteIp _ _ => false
  | .port number => number = args.localPort
  | .authenticated matcher => matchAuthenticated platform matcher args
  | .reqServerName _ => false
  | .path matcher => if args.path = "" then false else matchText platform matcher args.path

/-- `AuthorizationMatcher::Create(permission)->Matches(args)`. -/
def permits (permission : Rule PermissionLeaf) (args : Request) : Bool :=
  (permission.create (·.create platform)).allows (·.allows platform args)

/-- `AuthorizationMatcher::Create(principal)->Matches(args)`. -/
def admits (principal : Rule PrincipalLeaf) (args : Request) : Bool :=
  (principal.create (·.create platform)).allows (·.allows platform args)

/-- A part of the value at the matcher's place is its text, or the regular expression accepts it. -/
def Accepts (matcher : StringMatcher) (value : String) : Prop :=
  if matcher.type = .kSafeRegex then platform.fullMatch matcher.matcher value = true
  else ∃ front middle back, value.toList = front ++ middle ++ back ∧
    characters matcher middle = characters matcher matcher.matcher.toList ∧
    (matcher.type = .kExact ∨ matcher.type = .kPrefix → front = []) ∧
    (matcher.type = .kExact ∨ matcher.type = .kSuffix → back = [])

/-- What a header matcher says before it is inverted. -/
def Found (value : Option String) : HeaderMatcherType → Prop
  | .kPresent presentMatch => value.isSome = presentMatch
  | .kRange start stop => ∃ text ∈ value, ∃ number ∈ platform.simpleAtoi text,
      start ≤ number ∧ number < stop
  | .matcher matcher => ∃ text ∈ value, Accepts platform matcher text

def HeaderTrue (matcher : HeaderMatcher) (args : Request) : Prop :=
  Found platform (args.headerValue matcher.name) matcher.type ↔ matcher.invertMatch = false

def PathTrue (matcher : StringMatcher) (args : Request) : Prop :=
  args.path ≠ "" ∧ Accepts platform matcher args.path

/-- The address has the first bits of the range. -/
def InRange (range : CidrRange) (address : Sockaddr) : Prop :=
  ∃ subnet ∈ platform.stringToSockaddr range.addressPrefix, address.SameFamily subnet ∧
    ∀ index < min range.prefixLen address.width,
      address.bit platform.order index = subnet.bit platform.order index

def Authenticated (args : Request) : Prop :=
  args.transportSecurityType = "ssl" ∨ args.transportSecurityType = "tls"

def Request.sans (args : Request) : List String := args.uriSans ++ args.dnsSans

/-- An empty text lets every authenticated peer in, other matchers ask for a name they accept. -/
def NameTrue (matcher : StringMatcher) (args : Request) : Prop :=
  Authenticated args ∧ (matcher.type ≠ .kSafeRegex ∧ matcher.matcher = "" ∨
    ∃ san ∈ args.sans, Accepts platform matcher san)

/-- Requested server names are not supported. -/
def PermissionLeaf.Holds (args : Request) : PermissionLeaf → Prop
  | .header matcher => HeaderTrue platform matcher args
  | .path matcher => PathTrue platform matcher args
  | .destIp ip => InRange platform ip args.localAddress
  | .destPort port => port = args.localPort
  | .reqServerName _ => False

/-- Remote addresses other than direct ones are not supported. -/
def PrincipalLeaf.Holds (args : Request) : PrincipalLeaf → Prop
  | .principalName matcher => NameTrue platform matcher args
  | .sourceIp ip | .directRemoteIp ip => InRange platform ip args.peerAddress
  | .remoteIp _ => False
  | .header matcher => HeaderTrue platform matcher args
  | .path matcher => PathTrue platform matcher args

variable {platform}

theorem characters_eq_append {matcher : StringMatcher} {value text start rest : List Char} :
    start ++ characters matcher text ++ rest = characters matcher value ↔
      ∃ front middle back, value = front ++ middle ++ back ∧
        characters matcher middle = characters matcher text ∧
        characters matcher front = start ∧ characters matcher back = rest := by
  constructor
  · intro split
    obtain ⟨before, back, rfl, split, atBack⟩ := List.map_eq_append_iff.mp split.symm
    obtain ⟨front, middle, rfl, atFront, same⟩ := List.map_eq_append_iff.mp split
    exact ⟨front, middle, back, rfl, same, atFront, atBack⟩
  · rintro ⟨front, middle, back, rfl, same, rfl, rfl⟩
    rw [← same]
    simp only [characters, List.map_append]

theorem characters_eq_nil {matcher : StringMatcher} {text : List Char} :
    characters matcher text = [] ↔ text = [] := List.map_eq_nil_iff

theorem matchText_iff (matcher : StringMatcher) (value : String) :
    matchText platform matcher value = true ↔ Accepts platform matcher value := by
  have placed (start rest : List Char) :=
    @characters_eq_append matcher value.toList matcher.matcher.toList start rest
  unfold matchText Accepts
  cases kind : matcher.type with
  | kSafeRegex => simp
  | kExact => simp
  | kPrefix =>
    have start := exists_congr (placed [])
    simp only [List.nil_append, characters_eq_nil] at start
    simpa [List.isPrefixOf_iff_prefix, List.IsPrefix] using start
  | kSuffix =>
    have ending := exists_congr fun start => placed start []
    simp only [List.append_nil, characters_eq_nil] at ending
    simpa [List.isSuffixOf_iff_suffix, List.IsSuffix] using ending
  | kContains =>
    have inside := exists_congr fun start => exists_congr (placed start)
    exact decide_eq_true_iff.trans (by simpa [List.IsInfix] using inside)

theorem matchHeader_iff (matcher : HeaderMatcher) (args : Request) :
    matchHeader platform matcher (args.headerValue matcher.name) = true ↔
      HeaderTrue platform matcher args := by
  obtain ⟨name, type, invert⟩ := matcher
  have found (found : Bool) {truth : Prop} (same : found = true ↔ truth) :
      (found != invert) = true ↔ (truth ↔ invert = false) := by
    rw [← same]
    cases found <;> cases invert <;> decide
  refine found _ ?_
  cases type with
  | kPresent => exact beq_iff_eq
  | kRange =>
    cases args.headerValue name with
    | none => simp [Found]
    | some => simp [Found, Option.any_eq_true]
  | matcher =>
    cases args.headerValue name with
    | none => simp [Found]
    | some => simp [Found, matchText_iff]

theorem matchPath_iff (matcher : StringMatcher) (args : Request) :
    (if args.path = "" then false else matchText platform matcher args.path) = true ↔
      PathTrue platform matcher args := by
  rw [Bool.ite_eq_true_distrib, PathTrue, ← matchText_iff]
  by_cases empty : args.path = "" <;> simp [empty]

theorem ipMatcher_iff (range : CidrRange) (address : Sockaddr) (type : IpType) :
    ∃ subnet, ipMatcher platform type range = .ip type subnet range.prefixLen ∧
      (address.matchSubnet platform.order subnet range.prefixLen = true ↔
        InRange platform range address) := by
  unfold ipMatcher InRange
  cases platform.stringToSockaddr range.addressPrefix with
  | none => exact ⟨_, rfl, by simp [Sockaddr.matchSubnet]⟩
  | some =>
    refine ⟨_, rfl, ?_⟩
    rw [Sockaddr.matchSubnet_maskBits]
    simp

theorem PermissionLeaf.allows_create (leaf : PermissionLeaf) (args : Request) :
    (leaf.create platform).allows platform args = true ↔ leaf.Holds platform args := by
  cases leaf with
  | header matcher => exact matchHeader_iff matcher args
  | path matcher => exact matchPath_iff matcher args
  | destPort => exact decide_eq_true_iff
  | reqServerName => exact iff_of_false Bool.false_ne_true id
  | destIp ip =>
    obtain ⟨subnet, made, inside⟩ := ipMatcher_iff ip args.localAddress .kDestIp
    rw [create, made]
    exact inside

theorem matchAuthenticated_iff (matcher : StringMatcher) (args : Request) :
    matchAuthenticated platform matcher args = true ↔ Authenticated args ∧
      (stringMatcher matcher = "" ∨ ∃ san ∈ args.sans, Accepts platform matcher san) := by
  unfold matchAuthenticated
  split_ifs with other empty
  · exact iff_of_false id fun both => both.1.elim other.1 other.2
  · exact iff_of_true rfl ⟨by tauto, .inl empty⟩
  · have peer : Authenticated args := by tauto
    simp [peer, empty, Request.sans, matchText_iff, or_and_right, exists_or]

/-- What a principal-name matcher with a regular expression needs to be right about a peer. -/
def RegexAccepts (platform : Platform) (args : Request) (matcher : StringMatcher) : Prop :=
  matcher.type = .kSafeRegex → Authenticated args →
    ∃ san ∈ args.sans, platform.fullMatch matcher.matcher san = true

theorem matchAuthenticated_right_iff (matcher : StringMatcher) (args : Request) :
    (matchAuthenticated platform matcher args = true ↔ NameTrue platform matcher args) ↔
      RegexAccepts platform args matcher := by
  rw [matchAuthenticated_iff, NameTrue, and_congr_right_iff, RegexAccepts, stringMatcher]
  by_cases regex : matcher.type = .kSafeRegex
  · simp [regex, Accepts]
  · simp [regex]

theorem PrincipalLeaf.allows_create {leaf : PrincipalLeaf} {args : Request}
    (accepts : ∀ matcher, leaf = .principalName matcher → RegexAccepts platform args matcher) :
    (leaf.create platform).allows platform args = true ↔ leaf.Holds platform args := by
  cases leaf with
  | principalName matcher => exact (matchAuthenticated_right_iff matcher args).mpr (accepts _ rfl)
  | header matcher => exact matchHeader_iff matcher args
  | path matcher => exact matchPath_iff matcher args
  | sourceIp ip =>
    obtain ⟨subnet, made, inside⟩ := ipMatcher_iff ip args.peerAddress .kSourceIp
    rw [create, made]
    exact inside
  | directRemoteIp ip =>
    obtain ⟨subnet, made, inside⟩ := ipMatcher_iff ip args.peerAddress .kDirectRemoteIp
    rw [create, made]
    exact inside
  | remoteIp ip =>
    obtain ⟨subnet, made, -⟩ := ipMatcher_iff ip args.peerAddress .kRemoteIp
    rw [create, made]
    exact iff_of_false Bool.false_ne_true id

end GrpcCore.Rbac
