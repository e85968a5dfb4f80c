import CodeMentor.Backend.Config

/-!
# Scanning arguments

Arguments are options and operands. An option is written long or by one letter, with its value
attached or in the next argument; letters can share an argument; after two dashes everything is an
operand. The first argument that does not fit ends the scan, and so does a request for help or for
the version, whichever comes first.
-/

namespace CodeMentor.CommandLine

inductive OptionName where
  | apiUrl
  | model
  | noStream
  | context
  | ai
  | threshold
  | format
  | reportOutput
  | language
  | error
  | help
  | version
deriving DecidableEq, Repr

inductive Format where
  | text
  | json
  | markdown
deriving DecidableEq, Repr

def Format.ofName? : String → Option Format
  | "text" => some .text
  | "json" => some .json
  | "markdown" => some .markdown
  | _ => none

/-- A threshold between 0 and 100; a sign may stand before its digits. -/
def threshold? (text : String) : Option UInt8 :=
  (match text.toList with
    | '-' :: '+' :: _ => none
    | '-' :: digits => Config.number? 1 (String.ofList digits)
    | _ => Config.number? 101 text).map UInt8.ofNat

namespace OptionName

def long : OptionName → String
  | apiUrl => "api-url"
  | model => "model"
  | noStream => "no-stream"
  | context => "context"
  | ai => "ai"
  | threshold => "threshold"
  | format => "format"
  | reportOutput => "report-output"
  | language => "language"
  | error => "error"
  | help => "help"
  | version => "version"

def letter? : OptionName → Option Char
  | model => some 'm'
  | language => some 'l'
  | error => some 'e'
  | help => some 'h'
  | version => some 'V'
  | _ => none

def takesValue : OptionName → Bool
  | noStream | ai | help | version => false
  | _ => true

/-- Whether a text can be the value of an option. -/
def accepts : OptionName → String → Bool
  | threshold, text => (threshold? text).isSome
  | format, text => (Format.ofName? text).isSome
  | reportOutput, text => !text.isEmpty
  | _, _ => true

end OptionName

/-- Why a scan ends early. -/
inductive Stop where
  | usage
  | help
  | version
deriving DecidableEq, Repr

/-- What an operand may be. -/
inductive Operand where
  | text
  /-- A path, which is not empty. -/
  | path
deriving DecidableEq, Repr

def Operand.accepts : Operand → String → Bool
  | .text, _ => true
  | .path, value => !value.isEmpty

/-- What is known at some place of the command line. -/
structure Level where
  options : List OptionName
  operands : List Operand
  /-- The words that hand over to a level of their own. -/
  commands : List String

/-- What has been found so far. -/
structure Found where
  options : List (OptionName × String)
  operands : List String
deriving DecidableEq, Repr

namespace Found

def empty : Found := ⟨[], []⟩

def value? (f : Found) (name : OptionName) : Option String :=
  (f.options.find? (·.1 = name)).map (·.2)

def has (f : Found) (name : OptionName) : Bool :=
  (f.value? name).isSome

/-- Add an option with its value, or with an empty text if it has none. No option comes twice. -/
def addOption (f : Found) (name : OptionName) (value : String) : Except Stop Found :=
  match name with
  | .help => .error .help
  | .version => .error .version
  | _ =>
    if f.has name || !name.accepts value then .error .usage
    else .ok { f with options := f.options ++ [(name, value)] }

/-- Add an operand, if the level has room for one more. -/
def addOperand (f : Found) (level : Level) (text : String) : Except Stop Found :=
  match level.operands[f.operands.length]? with
  | none => .error .usage
  | some operand =>
    if operand.accepts text then .ok { f with operands := f.operands ++ [text] }
    else .error .usage

end Found

/-- An argument by its shape. -/
inductive Word where
  /-- Two dashes and a name, perhaps with an equals sign and a value. -/
  | long (name : String) (value : Option String)
  /-- A dash and letters. -/
  | short (letters : List Char)
  | plain (text : String)
deriving DecidableEq, Repr

/-- The shape of an argument. A single dash is a plain word. -/
def Word.ofArgument (argument : String) : Word :=
  match argument.toList with
  | '-' :: '-' :: body =>
    let (name, value) := body.span (· != '=')
    .long (String.ofList name) (value.tail?.map String.ofList)
  | '-' :: c :: letters => .short (c :: letters)
  | _ => .plain argument

/-- Add the options of an argument with letters. The letter of an option with a value is followed by
the value; if nothing follows, the option waits for the next argument. -/
def Level.cluster (level : Level) (found : Found) :
    List Char → Except Stop (Found × Option OptionName)
  | [] => .ok (found, none)
  | c :: rest =>
    match level.options.find? (·.letter? = some c) with
    | none => .error .usage
    | some name =>
      if name.takesValue then
        match rest with
        | [] => .ok (found, some name)
        | '=' :: value => return (← found.addOption name (String.ofList value), none)
        | value => return (← found.addOption name (String.ofList value), none)
      else do level.cluster (← found.addOption name "") rest

/-- Add the options of an argument; the last one may wait for its value. -/
def Level.addWord (level : Level) (found : Found) : Word → Except Stop (Found × Option OptionName)
  | .plain text => return (← found.addOperand level text, none)
  | .short letters => level.cluster found letters
  | .long text value? =>
    match level.options.find? (·.long = text), value? with
    | none, _ => .error .usage
    | some name, some value =>
      if name.takesValue then return (← found.addOption name value, none) else .error .usage
    | some name, none =>
      if name.takesValue then .ok (found, some name)
      else return (← found.addOption name "", none)

/-- Scan the arguments of a level: what is found, and the command that takes over with the arguments
after it. -/
def Level.scan (level : Level) (found : Found) :
    List String → Except Stop (Found × Option (String × List String))
  | [] => .ok (found, none)
  | argument :: rest => do
    if argument = "--" then
      return (← rest.foldlM (fun f text => f.addOperand level text) found, none)
    else if argument ∈ level.commands then return (found, some (argument, rest))
    else
      match ← level.addWord found (.ofArgument argument), rest with
      | (found, none), rest => level.scan found rest
      | (_, some _), [] => .error .usage
      | (found, some name), value :: rest =>
        match Word.ofArgument value with
        | .plain value => level.scan (← found.addOption name value) rest
        | _ => .error .usage

end CodeMentor.CommandLine
