import CodeMentor.Text.Percent
import CodeMentor.Text.Pieces

/-!
# Request targets

The target of a request is a path and a query, possibly behind the name of the server. Escapes in a
path are resolved before the path is divided, except those that would change how it is divided or
read later; in a query a plus sign is a blank as well. Bytes that are no text after decoding become
replacement characters.
-/

namespace CodeMentor.Server

open CodeMentor.Text

/-- A part of a query, decoded. -/
def formDecode (text : List Char) : String :=
  percentDecode (text.map fun c => if c = '+' then ' ' else c)

/-- The names and values of a query. A part without an equals sign has an empty value. -/
def queryPairs (query : List Char) : List (String × String) :=
  ((pieces (· == '&') query).filter (!·.isEmpty)).map fun pair =>
    let (name, value) := pair.span (· != '=')
    (formDecode name, formDecode (value.drop 1))

structure Target where
  /-- The segments of the path, each behind a slash. -/
  segments : List String
  query : List (String × String)
deriving DecidableEq, Repr

def isSchemeChar (c : Char) : Bool :=
  c.isAlphanum || c == '+' || c == '-' || c == '.'

/-- What a target has behind the name of the server: all of it if it starts with a slash, and
nothing if it neither does nor names a scheme and a server. -/
def localPart (uri : List Char) : List Char :=
  match uri with
  | '/' :: _ => uri
  | _ =>
    match uri.dropWhile isSchemeChar with
    | ':' :: '/' :: '/' :: rest =>
      match rest.dropWhile fun c => c != '/' && c != '?' with
      | '/' :: path => '/' :: path
      | query => '/' :: query
    | _ => []

/-- The bytes that a path keeps escaped until its variables are read: percent sign, slash and plus
sign. -/
def staysEscaped (b : UInt8) : Bool :=
  b == 0x25 || b == 0x2F || b == 0x2B

/-- Read the target of a request; a fragment does not belong to it. -/
def Target.parse (uri : String) : Target :=
  let (path, query) := (localPart (uri.toList.takeWhile (· != '#'))).span (· != '?')
  let path := (percentDecodeExcept staysEscaped path).toList
  { segments := ((pieces (· == '/') path).drop 1).map String.ofList
    query := queryPairs (query.drop 1) }

/-- The value of a field that occurs once at most; outer `none` if it is repeated. -/
def queryField? (query : List (String × String)) (name : String) : Option (Option String) :=
  match query.filter (·.1 == name) with
  | [] => some none
  | [(_, value)] => some (some value)
  | _ => none

def queryFlag? (text : String) : Option Bool :=
  if text = "true" then some true else if text = "false" then some false else none

end CodeMentor.Server
