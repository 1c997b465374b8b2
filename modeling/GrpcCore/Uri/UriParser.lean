import GrpcCore.Lib.PercentEscapes

/-!
# URI parsing

`uri_parser.cc`: each part is found in the remaining text, decoded, and removed from it.
-/

namespace GrpcCore.UriParser

open PercentEscapes (percent)

abbrev Bytes := List UInt8

def bytes (text : String) : Bytes := text.toList.map fun char => char.toUInt8

def colon : UInt8 := ':'.toUInt8
def slash : UInt8 := '/'.toUInt8
def question : UInt8 := '?'.toUInt8
def hash : UInt8 := '#'.toUInt8
def ampersand : UInt8 := '&'.toUInt8
def equals : UInt8 := '='.toUInt8

structure QueryParam where
  key : Bytes
  value : Bytes
deriving DecidableEq

structure Uri where
  scheme : Bytes
  authority : Bytes
  path : Bytes
  queryParameterPairs : List QueryParam
  fragment : Bytes
deriving DecidableEq

/-- `MakeInvalidURIStatus`. -/
structure InvalidUri where
  partName : String
  uri : Bytes
  extra : String
deriving DecidableEq

section PercentDecode

variable (cUnescape : Bytes → Option Bytes)

/-- The loop of `PercentDecode`, from a position on. An escape is only looked at when there is a
third byte behind the percent sign. -/
def decodeFrom : Bytes → Bytes
  | [] => []
  | byte :: rest =>
    if byte = percent then
      match rest with
      | first :: second :: third :: rest =>
        match cUnescape (bytes "\\x" ++ [first, second]) with
        | some unescaped =>
          if 1 < unescaped.length then byte :: decodeFrom (first :: second :: third :: rest)
          else unescaped.headD 0 :: decodeFrom (third :: rest)
        | none => byte :: decodeFrom (first :: second :: third :: rest)
      | rest => byte :: decodeFrom rest
    else byte :: decodeFrom rest

def percentDecode (str : Bytes) : Bytes :=
  if str.contains percent then decodeFrom cUnescape str else str

end PercentDecode

def alphabet : Bytes := bytes "ABCDEFGHIJKLMNOPQRSTUVWXYZabcdefghijklmnopqrstuvwxyz"

def digits : Bytes := bytes "0123456789"

def isAlpha (byte : UInt8) : Bool := alphabet.contains byte

def isSchemeChar (byte : UInt8) : Bool := (alphabet ++ digits ++ bytes "+-.").contains byte

def isPChar (byte : UInt8) : Bool :=
  (alphabet ++ digits ++ bytes "?/:@\\-._~!$&'()*+,;=%").contains byte

def isPCharString (str : Bytes) : Bool := str.all isPChar

/-- The bytes before the first of some delimiters. -/
def before (delimiters : Bytes) (text : Bytes) : Bytes :=
  text.takeWhile fun byte => !delimiters.contains byte

section Parse

variable (cUnescape : Bytes → Option Bytes)

def parseScheme (uriText : Bytes) : Except InvalidUri Bytes :=
  let scheme := before [colon] uriText
  if !uriText.contains colon || scheme.isEmpty then
    .error ⟨"scheme", uriText, "Scheme not found."⟩
  else if !scheme.all isSchemeChar then
    .error ⟨"scheme", uriText, "Scheme contains invalid characters."⟩
  else if !isAlpha (scheme.headD 0) then
    .error ⟨"scheme", uriText, "Scheme must begin with an alpha character [A-Za-z]."⟩
  else .ok scheme

/-- The decoded authority, and the text that remains when its length has been removed. -/
def parseAuthority (remaining : Bytes) : Bytes × Bytes :=
  if [slash, slash].isPrefixOf remaining then
    let remaining := remaining.drop 2
    let authority := percentDecode cUnescape (before [slash, question, hash] remaining)
    (authority, remaining.drop authority.length)
  else ([], remaining)

/-- The decoded path, and the text that remains when its length has been removed. -/
def parsePath (remaining : Bytes) : Bytes × Bytes :=
  let path := percentDecode cUnescape (before [question, hash] remaining)
  (path, remaining.drop path.length)

/-- One step of the loop over the query; the value is what comes behind the first `=`. -/
def parseParam (queryParam : Bytes) : Option QueryParam :=
  let key := before [equals] queryParam
  if key.isEmpty then none
  else
    some ⟨percentDecode cUnescape key,
      percentDecode cUnescape (queryParam.drop (key.length + 1))⟩

def parseQuery (uriText remaining : Bytes) : Except InvalidUri (List QueryParam × Bytes) :=
  if remaining.head? = some question then
    let remaining := remaining.drop 1
    let tmpQuery := before [hash] remaining
    if tmpQuery.isEmpty then .error ⟨"query", uriText, "Invalid query string."⟩
    else if !isPCharString tmpQuery then
      .error ⟨"query string", uriText, "Query string contains invalid characters."⟩
    else
      .ok ((tmpQuery.splitOn ampersand).filterMap (parseParam cUnescape),
        remaining.drop tmpQuery.length)
  else .ok ([], remaining)

def parseFragment (uriText remaining : Bytes) : Except InvalidUri Bytes :=
  if remaining.head? = some hash then
    let remaining := remaining.drop 1
    if !isPCharString remaining then
      .error ⟨"fragment", uriText, "Fragment contains invalid characters."⟩
    else .ok (percentDecode cUnescape remaining)
  else .ok []

def parseComponents (uriText scheme remaining : Bytes) : Except InvalidUri Uri := do
  let (authority, remaining) := parseAuthority cUnescape remaining
  let (path, remaining) := parsePath cUnescape remaining
  let (queryParameterPairs, remaining) ← parseQuery cUnescape uriText remaining
  let fragment ← parseFragment cUnescape uriText remaining
  return ⟨scheme, authority, path, queryParameterPairs, fragment⟩

def parse (uriText : Bytes) : Except InvalidUri Uri := do
  let scheme ← parseScheme uriText
  parseComponents cUnescape uriText scheme (uriText.drop (scheme.length + 1))

end Parse

end GrpcCore.UriParser
