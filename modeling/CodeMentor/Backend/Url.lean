import CodeMentor.Backend.Address
import CodeMentor.Backend.DomainName
import CodeMentor.Text.Percent
import CodeMentor.Text.Pieces

/-!
# Locators

Where the backend is found. A locator is read leniently, as browsers do, and written in one normal
form: scheme and host in lower case, the host in plain letters or as an address, no port that goes
without saying, no dot segments, and everything that may not stand in a path or query escaped.
-/

namespace CodeMentor

open CodeMentor.Text

/-- A locator of the web. -/
structure Url where
  secure : Bool
  host : String
  /-- The port, unless it is the usual one of the scheme. -/
  port : Option Nat
  /-- The segments of the path, each behind a slash. -/
  segments : List String
  /-- The query with its question mark and the fragment with its number sign. -/
  trailer : String
deriving DecidableEq, Repr

namespace Url

def forbidsHost (c : Char) : Bool :=
  c.toNat ≤ 0x20 || c.toNat = 0x7f || "#/:<>?@[\\]^|%".toList.contains c

/-- The host that a text names. An address of the longer kind stands in brackets. -/
def host? (text : List Char) : Option String :=
  match text with
  | '[' :: inner => do
    if inner.getLast? == some ']' then
      return "[" ++ Address.longText (← Address.long? inner.dropLast) ++ "]"
    else none
  | _ => do
    let name ← DomainName.plain? ((percentDecode text).toList.map Char.toNat)
    let labels := pieces (· == '.') name
    let labels := if 1 < labels.length && labels.getLast? == some [] then labels.dropLast else labels
    if name.isEmpty || name.any forbidsHost then none
    else if labels.getLast?.any Address.isNumeric then
      return Address.shortText (← Address.short? labels)
    else return String.ofList name

/-- The port of a scheme that goes without saying. -/
def usualPort (secure : Bool) : Nat :=
  if secure then 443 else 80

/-- The port that a text after the host names: none if it is empty or the usual one. -/
def port? (secure : Bool) : List Char → Option (Option Nat)
  | [] => some none
  | ':' :: digits => do
    let port ← Address.number? 10 digits
    if 65535 < port then none
    else return if digits.isEmpty || port = usualPort secure then none else some port
  | _ => none

/-- The host and the rest of an authority: a bracketed host ends with its bracket. -/
def splitHost (authority : List Char) : List Char × List Char :=
  match authority with
  | '[' :: _ =>
    let (inner, rest) := authority.span (· != ']')
    (inner ++ rest.take 1, rest.drop 1)
  | _ => authority.span (· != ':')

def escapesInPath (c : Char) : Bool :=
  c.toNat ≤ 0x20 || 0x7f ≤ c.toNat || "\"<>`\x7b\x7d".toList.contains c

def escapesInQuery (c : Char) : Bool :=
  c.toNat ≤ 0x20 || 0x7f ≤ c.toNat || "\"<>'".toList.contains c

def escapesInFragment (c : Char) : Bool :=
  c.toNat ≤ 0x20 || 0x7f ≤ c.toNat || "\"<>`".toList.contains c

/-- The number of dots that a segment consists of, if it consists of dots. A dot may be escaped. -/
def dots? : List Char → Option Nat
  | [] => some 0
  | '.' :: rest => (dots? rest).map (· + 1)
  | '%' :: '2' :: e :: rest => if e = 'e' ∨ e = 'E' then (dots? rest).map (· + 1) else none
  | _ => none

/-- The segments that are left when single and double dots are resolved. -/
def resolveDots (found : List (List Char)) : List (List Char) → List (List Char)
  | [] => found
  | segment :: rest =>
    let dots := dots? segment
    let found := if dots = some 2 then found.dropLast else found
    if dots = some 1 ∨ dots = some 2 then
      resolveDots (if rest.isEmpty then found ++ [[]] else found) rest
    else resolveDots (found ++ [segment]) rest

/-- Whether a character ends the authority or a segment. -/
def isSlash (c : Char) : Bool := c == '/' || c == '\\'

def parse? (text : String) : Option Url := do
  let text := strip (·.toNat ≤ 0x20) text.toList
  let text := text.filter fun c => c != '\t' && c != '\n' && c != '\r'
  let (scheme, rest) := text.span (· != ':')
  let secure ← match String.ofList (scheme.map Char.toLower) with
    | "http" => some false
    | "https" => some true
    | _ => none
  let rest := (← rest.tail?).dropWhile isSlash
  let (authority, rest) := rest.span fun c => !isSlash c && c != '?' && c != '#'
  let (host, port) := splitHost ((pieces (· == '@') authority).getLastD [])
  let host ← host? host
  let port ← port? secure port
  let (path, rest) := rest.span fun c => c != '?' && c != '#'
  let (query, fragment) := rest.span (· != '#')
  return {
    secure, host, port
    segments := (resolveDots [] (pieces isSlash (path.drop 1))).map fun segment =>
      String.ofList (percentEncode escapesInPath segment)
    trailer := String.ofList
      (percentEncode escapesInQuery query ++ percentEncode escapesInFragment fragment) }

def origin (url : Url) : String :=
  (if url.secure then "https://" else "http://") ++ url.host ++
    match url.port with
    | some port => s!":{port}"
    | none => ""

def path (url : Url) : String :=
  String.join (url.segments.map ("/" ++ ·))

def text (url : Url) : String :=
  url.origin ++ url.path ++ url.trailer

def lengthLimit : Nat := 65534

/-- Whether a request can be sent to a locator. The reader of locators accepts a few characters in
the name of a host that a request may not hold. -/
def isSendable (url : Url) : Bool :=
  !url.host.toList.any (fun c => "\"`\x7b\x7d".toList.contains c) &&
    url.text.utf8ByteSize ≤ lengthLimit

end Url

end CodeMentor
