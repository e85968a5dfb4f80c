import CodeMentor.Text.Pieces

/-!
# Media types

What a request says about the form of its body: a type and a subtype, which may end in a suffix
behind a plus sign, and parameters. A machine with eight states checks the parameters, of which only
the form matters.
-/

namespace CodeMentor.Server

open CodeMentor.Text

def isToken (c : Char) : Bool :=
  c.isAlphanum || "!#$%&'*+-.^_`|~".toList.contains c

/-- Whether a character may stand between quotes: the printable characters of ASCII. -/
def isQuotable (c : Char) : Bool :=
  0x20 ≤ c.toNat && c.toNat < 0x7f

/-- Where the reading of parameters stands. -/
inductive ParameterState where
  | ready
  | name
  | equals
  | value
  /-- Behind the opening quote; whatever comes is part of the value. -/
  | opened
  | quoted
  | closed
  /-- What was read is no list of parameters. -/
  | broken
deriving DecidableEq, Repr

namespace ParameterState

def step : ParameterState → Char → ParameterState
  | ready, c => if c = ' ' then ready else if isToken c then name else broken
  | name, c => if isToken c then name else if c = '=' then equals else broken
  | equals, c => if c = '"' then opened else if isToken c then value else broken
  | value, c => if isToken c then value else if c = ';' then ready else broken
  | opened, c => if isQuotable c then quoted else broken
  | quoted, c => if c = '"' then closed else if isQuotable c then quoted else broken
  | closed, c => if c = ' ' then closed else if c = ';' then ready else broken
  | broken, _ => broken

/-- Whether the text may end here. -/
def isFinal : ParameterState → Bool
  | ready | equals | value | closed => true
  | _ => false

end ParameterState

/-- A media type without its parameters. -/
structure MediaType where
  type : List Char
  subtype : List Char
  /-- What stands behind the last plus sign, if anything stands before it. -/
  suffix : Option (List Char)
deriving DecidableEq, Repr

namespace MediaType

def splitSuffix (name : List Char) : List Char × Option (List Char) :=
  match pieces (· == '+') name.reverse with
  | suffix :: front =>
    let before := (['+'].intercalate front).reverse
    if before.isEmpty then (name, none) else (before, some suffix.reverse)
  | [] => (name, none)

/-- Read a media type. Names are compared in lower case. -/
def parse? (text : String) : Option MediaType :=
  let (type, rest) := text.toList.span isToken
  match rest with
  | '/' :: rest =>
    let (name, rest) := rest.span isToken
    let (subtype, suffix) := splitSuffix (name.map Char.toLower)
    let wellFormed := match rest with
      | [] => true
      | ';' :: parameters => (parameters.foldl ParameterState.step .ready).isFinal
      | _ => false
    if type.isEmpty || name.isEmpty || !wellFormed then none
    else some ⟨type.map Char.toLower, subtype, suffix⟩
  | _ => none

def json : List Char := "json".toList

/-- Whether the body is JSON, by the subtype or by the suffix. -/
def isJson (m : MediaType) : Bool :=
  m.subtype == json || m.suffix == some json

end MediaType

end CodeMentor.Server
