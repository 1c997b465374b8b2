import GrpcCore.Lib.OrderedMap

/-!
# Translation of authorization policies

An SDK authorization policy in JSON is translated to two RBAC policies, one of rules that
deny and one of rules that allow.
-/

namespace GrpcCore.Security

/-- `Json`. The members of an object are in the order of their keys. -/
inductive Json where
  | null
  | boolean (value : Bool)
  | number (text : String)
  | string (value : String)
  | array (elements : List Json)
  | object (members : List (String × Json))

namespace Json

/-- `object_value().find`. Only objects have members. -/
def find (key : String) : Json → Option Json
  | object members => members.lookup key
  | _ => none

/-- `array_value()`, which is empty for everything but arrays. -/
def arrayValue : Json → List Json
  | array elements => elements
  | _ => []

/-- `string_value()`. -/
def stringValue : Json → String
  | string value => value
  | _ => ""

end Json

inductive StringMatcherType where
  | kExact
  | kPrefix
  | kSuffix
  | kContains
deriving DecidableEq

/-- `StringMatcher`, without regular expressions. -/
structure StringMatcher where
  type : StringMatcherType
  stringMatcher : String
  caseSensitive : Bool
deriving DecidableEq

namespace StringMatcher

def characters (matcher : StringMatcher) (text : String) : List Char :=
  if matcher.caseSensitive then text.toList else text.toLower.toList

/-- `StringMatcher::Match`. -/
def matchesValue (matcher : StringMatcher) (value : String) : Bool :=
  let pattern := matcher.characters matcher.stringMatcher
  let text := matcher.characters value
  match matcher.type with
  | .kExact => text = pattern
  | .kPrefix => pattern.isPrefixOf text
  | .kSuffix => pattern.isSuffixOf text
  | .kContains => decide (pattern <:+: text)

end StringMatcher

/-- `HeaderMatcher`, without ranges and presence. -/
structure HeaderMatcher where
  name : String
  matcher : StringMatcher
  invertMatch : Bool
deriving DecidableEq

/-- `HeaderMatcher::Match`. -/
def HeaderMatcher.matchesValue (matcher : HeaderMatcher) (value : Option String) : Bool :=
  value.any matcher.matcher.matchesValue != matcher.invertMatch

/-- `Rbac::Permission`. -/
inductive Permission where
  | and (permissions : List Permission)
  | or (permissions : List Permission)
  | not (permission : Permission)
  | any
  | header (matcher : HeaderMatcher)
  | path (matcher : StringMatcher)

def Permission.permissions : Permission → List Permission
  | and permissions => permissions
  | or permissions => permissions
  | not permission => [permission]
  | _ => []

/-- `Rbac::Principal`. -/
inductive Principal where
  | and (principals : List Principal)
  | or (principals : List Principal)
  | not (principal : Principal)
  | any
  | principalName (matcher : StringMatcher)
  | header (matcher : HeaderMatcher)
  | path (matcher : StringMatcher)

def Principal.principals : Principal → List Principal
  | and principals => principals
  | or principals => principals
  | not principal => [principal]
  | _ => []

/-- `Rbac::Policy`. -/
structure Policy where
  permissions : Permission
  principals : Principal

inductive Rbac.Action where
  | kAllow
  | kDeny
deriving DecidableEq

/-- `Rbac`, with the policies in the order of their names. -/
structure Rbac where
  action : Rbac.Action
  policies : List (String × Policy)

structure RbacPolicies where
  denyPolicy : Rbac
  allowPolicy : Rbac

/-- `GetMatcherType`. -/
def getMatcherType (value : String) : StringMatcherType × String :=
  if value = "*" then (.kPrefix, "")
  else if "*".toList.isPrefixOf value.toList then (.kSuffix, .ofList (value.toList.drop 1))
  else if "*".toList.isSuffixOf value.toList then (.kPrefix, .ofList value.toList.dropLast)
  else (.kExact, value)

/-- `GetStringMatcher`. -/
def getStringMatcher (value : String) : StringMatcher :=
  ⟨(getMatcherType value).1, (getMatcherType value).2, true⟩

/-- `GetHeaderMatcher`. -/
def getHeaderMatcher (name value : String) : HeaderMatcher :=
  ⟨name, ⟨(getMatcherType value).1, (getMatcherType value).2, true⟩, false⟩

def kUnsupportedHeaders : List String :=
  ["host", "connection", "keep-alive", "proxy-authenticate", "proxy-authorization", "te",
    "trailer", "transfer-encoding", "upgrade"]

def isUnsupportedHeader (headerName : String) : Bool :=
  kUnsupportedHeaders.any fun unsupported => headerName.toLower = unsupported.toLower

def parseArray {Result : Type} (parse : Nat → Json → Except String Result) :
    Nat → List Json → Except String (List Result)
  | _, [] => .ok []
  | i, child :: rest => do
    let result ← parse i child
    let results ← parseArray parse (i + 1) rest
    .ok (result :: results)

def parseString {Result : Type} (field : String) (make : String → Result) (i : Nat) :
    Json → Except String Result
  | .string value => .ok (make value)
  | _ => .error ("\"" ++ field ++ "\" " ++ toString i ++ ": is not a string.")

def findArray (json : Json) (field : String) : Except String (List Json) :=
  match json.find field with
  | none => .ok []
  | some (.array elements) => .ok elements
  | some _ => .error ("\"" ++ field ++ "\" is not an array.")

/-- `ParsePrincipalsArray`. -/
def parsePrincipalsArray (elements : List Json) : Except String Principal := do
  let principalNames ← parseArray
    (parseString "principals" fun value => Principal.principalName (getStringMatcher value)) 0
    elements
  .ok (.or principalNames)

/-- `ParsePeer`. -/
def parsePeer (json : Json) : Except String Principal := do
  let elements ← findArray json "principals"
  let principalNames ← parsePrincipalsArray elements
  if principalNames.principals.isEmpty then .ok .any else .ok (.and [principalNames])

/-- `ParseHeaderValues`. -/
def parseHeaderValues (elements : List Json) (headerName : String) : Except String Permission :=
  if elements.isEmpty then .error "\"values\" list is empty."
  else do
    let values ← parseArray
      (parseString "values" fun value => Permission.header (getHeaderMatcher headerName value)) 0
      elements
    .ok (.or values)

/-- `ParseHeaders`. -/
def parseHeaders (json : Json) : Except String Permission :=
  match json.find "key" with
  | none => .error "\"key\" is not present."
  | some (.string headerName) =>
    if ":".toList.isPrefixOf headerName.toList || "grpc-".toList.isPrefixOf headerName.toList ||
        isUnsupportedHeader headerName then
      .error ("Unsupported \"key\" " ++ headerName ++ ".")
    else
      match json.find "values" with
      | none => .error "\"values\" is not present."
      | some (.array elements) => parseHeaderValues elements headerName
      | some _ => .error "\"values\" is not an array."
  | some _ => .error "\"key\" is not a string."

def parseHeadersChild (i : Nat) : Json → Except String Permission
  | .object members =>
    (parseHeaders (.object members)).mapError fun message =>
      "\"headers\" " ++ toString i ++ ": " ++ message
  | _ => .error ("\"headers\" " ++ toString i ++ ": is not an object.")

/-- `ParseHeadersArray`. -/
def parseHeadersArray (elements : List Json) : Except String Permission := do
  let headers ← parseArray parseHeadersChild 0 elements
  .ok (.and headers)

/-- `ParsePathsArray`. -/
def parsePathsArray (elements : List Json) : Except String Permission := do
  let paths ← parseArray
    (parseString "paths" fun value => Permission.path (getStringMatcher value)) 0 elements
  .ok (.or paths)

/-- `ParseRequest`. -/
def parseRequest (json : Json) : Except String Permission := do
  let pathElements ← findArray json "paths"
  let paths ← parsePathsArray pathElements
  let headerElements ← findArray json "headers"
  let headers ← parseHeadersArray headerElements
  let request := [paths, headers].filter fun permission => !permission.permissions.isEmpty
  if request.isEmpty then .ok .any else .ok (.and request)

def parseObject {Result : Type} (json : Json) (field : String) (absent : Result)
    (parse : Json → Except String Result) : Except String Result :=
  match json.find field with
  | none => .ok absent
  | some (.object members) => parse (.object members)
  | some _ => .error ("\"" ++ field ++ "\" is not an object.")

/-- `ParseRules`. -/
def parseRules (json : Json) : Except String Policy := do
  let principals ← parseObject json "source" .any parsePeer
  let permissions ← parseObject json "request" .any parseRequest
  .ok ⟨permissions, principals⟩

def parseRulesChild (name : String) (i : Nat) : Json → Except String (String × Policy)
  | .object members =>
    match (Json.object members).find "name" with
    | none => .error ("rules " ++ toString i ++ ": \"name\" is not present.")
    | some (.string ruleName) => do
      let policy ← (parseRules (.object members)).mapError fun message =>
        "rules " ++ toString i ++ ": " ++ message
      .ok (name ++ "_" ++ ruleName, policy)
    | some _ => .error ("rules " ++ toString i ++ ": \"name\" is not a string.")
  | _ => .error ("rules " ++ toString i ++ ": is not an object.")

/-- `ParseRulesArray`. -/
def parseRulesArray (elements : List Json) (name : String) :
    Except String (List (String × Policy)) := do
  let policies ← parseArray (parseRulesChild name) 0 elements
  .ok (policies.foldl (fun map policy => OrderedMap.assign policy.1 policy.2 map) [])

/-- `ParseDenyRulesArray` and `ParseAllowRulesArray`. -/
def parseActionRulesArray (action : Rbac.Action) (elements : List Json) (name : String) :
    Except String Rbac := do
  let policies ← parseRulesArray elements name
  .ok ⟨action, policies⟩

def translateDenyRules (json : Json) (name : String) : Except String Rbac :=
  match json.find "deny_rules" with
  | none => .ok ⟨.kDeny, []⟩
  | some (.array elements) =>
    (parseActionRulesArray .kDeny elements name).mapError fun message => "deny_" ++ message
  | some _ => .error "\"deny_rules\" is not an array."

def translateAllowRules (json : Json) (name : String) : Except String Rbac :=
  match json.find "allow_rules" with
  | none => .error "\"allow_rules\" is not present."
  | some (.array elements) =>
    (parseActionRulesArray .kAllow elements name).mapError fun message => "allow_" ++ message
  | some _ => .error "\"allow_rules\" is not an array."

/-- `GenerateRbacPolicies` after the policy has been read. -/
def translatePolicies (json : Json) : Except String RbacPolicies :=
  match json with
  | .object members =>
    match (Json.object members).find "name" with
    | none => .error "\"name\" field is not present."
    | some (.string name) => do
      let denyPolicy ← translateDenyRules json name
      let allowPolicy ← translateAllowRules json name
      .ok ⟨denyPolicy, allowPolicy⟩
    | some _ => .error "\"name\" is not a string."
  | _ => .error "SDK authorization policy is not an object."

/-- `GenerateRbacPolicies`, with `Json::Parse`. -/
def generateRbacPolicies (parse : String → Except String Json) (authzPolicy : String) :
    Except String RbacPolicies :=
  match parse authzPolicy with
  | .error message =>
    .error ("Failed to parse SDK authorization policy. Error: " ++ message)
  | .ok json => translatePolicies json

end GrpcCore.Security
