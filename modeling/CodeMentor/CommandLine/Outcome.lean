import CodeMentor.Analysis.Report
import CodeMentor.Analysis.Service
import CodeMentor.Assistant.Service
import CodeMentor.CommandLine.Invocation
import CodeMentor.Json.Printer

/-!
# Running commands

A command is carried out over the services and comes to an outcome: what is printed, which report is
to be written, and what went wrong. A report is produced before the gate speaks, so a failing gate
does not hide it.
-/

namespace CodeMentor.CommandLine

open CodeMentor.Text

inductive Failure where
  | service (cause : Error)
  | file (cause : IoFailure)
  /-- Something to be said in words alone. -/
  | words (message : String)
deriving DecidableEq, Repr

def Failure.debug : Failure → String
  | .service cause => cause.debug
  | .file cause => cause.debug
  | .words message => quoted message

structure Report where
  path : String
  contents : String
deriving DecidableEq, Repr

structure Outcome where
  printed : String
  report : Option Report
  failure : Option Failure
deriving DecidableEq, Repr

namespace Outcome

def success (text : String) : Outcome := ⟨text, none, none⟩

def failed (cause : Failure) : Outcome := ⟨"", none, some cause⟩

def ofResult {α : Type} (value : α → Outcome) : Except Error α → Outcome
  | .ok a => value a
  | .error e => failed (.service e)

end Outcome

def noResponse : String := "No response generated.\n"

/-- Print an answer without white space at its end. -/
def printAnswer (answer : String) : Outcome :=
  .success (if blank answer then noResponse else trimEnd answer ++ "\n")

/-- Print fragments as they come, and a line break after the last one. A failure leaves what has
been printed. -/
def printFragments (received : Bool) (printed : String) : List Fragment → Outcome
  | [] => .success (if received then printed ++ "\n" else noResponse)
  | .ok text :: rest => printFragments true (printed ++ text) rest
  | .error e :: _ => ⟨printed, none, some (.service e)⟩

/-- A report in some format, with the verdict of the gate if there is one. -/
def Format.render (a : Analysis) (verdict? : Option Verdict) : Format → String
  | .json =>
    (match verdict? with
      | some v => (Json.object [("analysis", a.toJson), ("verdict", v.toJson)]).pretty
      | none => a.toJson.pretty) ++ "\n"
  | .text =>
    a.text ++
      match verdict? with
      | some v => "\n" ++ v.text
      | none => ""
  | .markdown =>
    a.markdown ++
      match verdict? with
      | some v => "### Quality gate\n```text\n" ++ v.text ++ "```\n"
      | none => ""

def gateFailure (v : Verdict) : Option Failure :=
  if v.passed then none
  else some (.words s!"quality gate failed: score {v.score.toNat} is below {v.threshold.toNat}")

/-- The outcome of an analysis: its report, and the failure of the gate. -/
def reportOutcome (threshold : Option UInt8) (options : ReportOptions) (a : Analysis) : Outcome :=
  let verdict? := threshold.map a.verdict
  let contents := options.format.render a verdict?
  let failure := verdict?.bind gateFailure
  match options.path with
  | some path => ⟨"", some ⟨path, contents⟩, failure⟩
  | none => ⟨contents, none, failure⟩

def readSource (files : Files) (path : String) : Except Failure String :=
  match files path with
  | .error e => .error (.words s!"failed to read {path}: {e.message}")
  | .ok bytes =>
    match Utf8.decode bytes with
    | .ok code => .ok code
    | .error _ => .error (.words s!"failed to read {path}: stream did not contain valid UTF-8")

def guessLanguage (code : String) : Option String :=
  (Language.guess code).map Language.name

variable {σ : Type}

/-- Read a source file, settle its language, and print an answer about it. -/
def aboutSource (files : Files) (path : String) (language : Option String)
    (ask : String → Option String → Session σ (Except Error String)) : Session σ Outcome := do
  match readSource files path with
  | .error e => return .failed e
  | .ok code =>
    let language := language.orElse fun _ => guessLanguage code
    return .ofResult printAnswer (← ask code language)

def languagesText (s : AnalysisStats) : String :=
  unlines (["Supported languages:"] ++ s.supportedLanguages.map ("  - " ++ ·) ++
    [if s.coreModuleAvailable then "Analyzer: native" else "Analyzer: heuristic"])

def Command.run (transport : Transport σ) (config : Config) (files : Files) :
    Command → Session σ Outcome
  | .ask question stream context => do
    let assistant := Assistant.ofConfig transport config
    if stream then
      return .ofResult (fun fragments => printFragments false "" (fragments.drain.1.map (·.1)))
        (← assistant.askStream question none context)
    else return .ofResult printAnswer (← assistant.ask question none context)
  | .models => do
    let assistant := Assistant.ofConfig transport config
    return .ofResult (.success ∘ modelsText) (← assistant.models)
  | .check => do
    if ← (Client.ofConfig transport config).checkConnection then
      return .success s!"Connected to the model backend at {config.baseUrl}\n"
    else return .failed (.words s!"cannot connect to the model backend at {config.baseUrl}")
  | .analyze file ai threshold report => do
    let service := AnalysisService.ofConfig .standard transport config
    return .ofResult (reportOutcome threshold report) (← service.analyzeFile files file ai none)
  | .explain file language =>
    aboutSource files file language fun code language =>
      (Assistant.ofConfig transport config).explain code language none
  | .debug file error language =>
    aboutSource files file language fun code language =>
      (Assistant.ofConfig transport config).debug code error language none
  | .generate description language => do
    let assistant := Assistant.ofConfig transport config
    return .ofResult printAnswer (← assistant.generate description language none)
  | .languages =>
    return .success (languagesText (AnalysisService.ofConfig .standard transport config).stats)

/-- Carry out an invocation in an environment, over the transport to the configured backend. -/
def Invocation.run (i : Invocation) (transport : String → Transport σ)
    (lookup : String → Option String) (files : Files) : Session σ Outcome :=
  match i.backend.configure lookup with
  | .error e => return .failed (.service e)
  | .ok config => i.command.run (transport config.baseUrl) config files

structure Exit where
  code : UInt8
  stdout : String
  stderr : String
deriving DecidableEq, Repr

/-- How a run ends once its report, if it has one, has been written or not. -/
def Outcome.exit (o : Outcome) (written : Except IoFailure Unit) : Exit :=
  let failure := match written with
    | .error cause => some (Failure.file cause)
    | .ok () => o.failure
  match failure with
  | none => ⟨0, o.printed, ""⟩
  | some cause => ⟨1, o.printed, s!"Error: {cause.debug}\n"⟩

def versionText : String := "educator 0.0.1\n"

def helpText : String :=
  unlines
    (["Code Educator CLI", "", "Usage: educator [OPTIONS] <COMMAND>", "", "Commands:"] ++
      Verb.all.map (fun v => "  " ++ v.name) ++
      ["", "Options:", "      --api-url <API_URL>", "  -m, --model <MODEL>", "  -h, --help",
       "  -V, --version"])

def Stop.exit : Stop → Exit
  | .usage => ⟨2, "", "error: the arguments cannot be used; try '--help'\n"⟩
  | .help => ⟨0, helpText, ""⟩
  | .version => ⟨0, versionText, ""⟩

end CodeMentor.CommandLine
