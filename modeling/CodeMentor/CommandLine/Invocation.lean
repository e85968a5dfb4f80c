import CodeMentor.CommandLine.Scan

/-!
# Invocations

What a command line asks for: one of eight commands, and how the backend is reached. The two options
on the backend may stand before or after the command, the later one counts, and a variable of the
environment stands in for one that is missing.
-/

namespace CodeMentor.CommandLine

/-- What the command line says about the backend. -/
structure BackendOptions where
  apiUrl : Option String
  model : Option String
deriving DecidableEq, Repr

structure ReportOptions where
  format : Format
  /-- The file to write; without one the report is printed. -/
  path : Option String
deriving DecidableEq, Repr

/-- What the program is asked to do. -/
inductive Command where
  | ask (question : String) (stream : Bool) (context : Option String)
  | models
  | check
  /-- Analyze a file, and fail if its score is below a threshold. -/
  | analyze (file : String) (ai : Bool) (threshold : Option UInt8) (report : ReportOptions)
  | explain (file : String) (language : Option String)
  | debug (file : String) (error language : Option String)
  | generate (description language : String)
  | languages
deriving DecidableEq, Repr

/-- The source file that a command reads. -/
def Command.source? : Command → Option String
  | .analyze file .. | .explain file _ | .debug file .. => some file
  | _ => none

inductive Verb where
  | ask
  | models
  | check
  | analyze
  | explain
  | debug
  | generate
  | languages
deriving DecidableEq, Repr

namespace Verb

def all : List Verb :=
  [ask, models, check, analyze, explain, debug, generate, languages]

def name : Verb → String
  | ask => "ask"
  | models => "models"
  | check => "check"
  | analyze => "analyze"
  | explain => "explain"
  | debug => "debug"
  | generate => "generate"
  | languages => "languages"

def ofName? (text : String) : Option Verb :=
  all.find? (·.name = text)

def operands : Verb → List Operand
  | ask | generate => [.text]
  | analyze | explain | debug => [.path]
  | models | check | languages => []

def options : Verb → List OptionName
  | ask => [.noStream, .context]
  | analyze => [.ai, .threshold, .format, .reportOutput]
  | explain | generate => [.language]
  | debug => [.error, .language]
  | models | check | languages => []

/-- What is known after the word for a command. -/
def level (v : Verb) : Level where
  options := v.options ++ [.apiUrl, .model, .help]
  operands := v.operands
  commands := []

/-- The command that a verb and what is found after it make, if nothing is missing. -/
def command? (v : Verb) (f : Found) : Option Command :=
  match v, f.operands with
  | ask, [question] => some (.ask question (!f.has .noStream) (f.value? .context))
  | models, [] => some .models
  | check, [] => some .check
  | analyze, [file] =>
    some (.analyze file (f.has .ai) ((f.value? .threshold).bind threshold?)
      ⟨((f.value? .format).bind Format.ofName?).getD .text, f.value? .reportOutput⟩)
  | explain, [file] => some (.explain file (f.value? .language))
  | debug, [file] => some (.debug file (f.value? .error) (f.value? .language))
  | generate, [description] => (f.value? .language).map (.generate description)
  | languages, [] => some .languages
  | _, _ => none

end Verb

structure Invocation where
  backend : BackendOptions
  command : Command
deriving DecidableEq, Repr

def helpWord : String := "help"

def rootLevel : Level where
  options := [.apiUrl, .model, .help, .version]
  operands := []
  commands := helpWord :: Verb.all.map Verb.name

/-- What the word for help comes to: it can be followed by one of the words for commands. -/
def helpOn : List String → Stop
  | [] => .help
  | [word] => if word ∈ rootLevel.commands then .help else .usage
  | _ => .usage

def Invocation.parse (arguments : List String) : Except Stop Invocation := do
  match ← rootLevel.scan .empty arguments with
  | (_, none) => .error .usage
  | (outer, some (word, rest)) =>
    if word = helpWord then .error (helpOn rest)
    else
      match Verb.ofName? word with
      | none => .error .usage
      | some verb =>
        let (inner, _) ← verb.level.scan .empty rest
        match verb.command? inner with
        | none => .error .usage
        | some command =>
          let value? (name : OptionName) := (inner.value? name).orElse fun _ => outer.value? name
          return ⟨⟨value? .apiUrl, value? .model⟩, command⟩

/-- The options on the backend, with the environment's variables for those that are missing. -/
def BackendOptions.orElse (options : BackendOptions) (lookup : String → Option String) :
    BackendOptions where
  apiUrl := options.apiUrl.orElse fun _ => lookup "OLLAMA_API_URL"
  model := options.model.orElse fun _ => lookup "EDUCATOR_MODEL"

/-- The configuration for a command line in an environment: the environment's own, which has to be
valid by itself, with the options put in and checked again. -/
def BackendOptions.configure (options : BackendOptions) (lookup : String → Option String) :
    Except Error Config := do
  let config ← Config.ofLookup lookup
  let options := options.orElse lookup
  Config.validate { config with
    baseUrl := options.apiUrl.getD config.baseUrl
    defaultModel := options.model.getD config.defaultModel }

end CodeMentor.CommandLine
