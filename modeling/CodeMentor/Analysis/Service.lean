import CodeMentor.Analysis.Analyzer
import CodeMentor.Analysis.Result
import CodeMentor.Assistant.Prompt
import CodeMentor.Backend.Client

/-!
# The analysis service

Code is analyzed by an analyzer and, on request, commented on by the model. Whatever goes wrong with
the commentary leaves the analysis as it is.
-/

namespace CodeMentor

open CodeMentor.Text

/-- What an analysis service can do. -/
structure AnalysisStats where
  coreModuleAvailable : Bool
  supportedLanguages : List String
  features : Dictionary Bool
deriving DecidableEq

namespace AnalysisStats

def toJson (s : AnalysisStats) : Json :=
  .object
    [("core_module_available", .bool s.coreModuleAvailable),
     ("supported_languages", .ofTexts s.supportedLanguages),
     ("features", s.features.toJson .bool)]

def schema : Json.Schema :=
  [("core_module_available", .required), ("supported_languages", .required),
   ("features", .required)]

def ofJson? (j : Json) : Option AnalysisStats := do
  match ← j.fields? schema with
  | [some available, some languages, some features] =>
    return {
      coreModuleAvailable := ← available.flag?
      supportedLanguages := ← languages.list? Json.text?
      features := ← Dictionary.ofJson? Json.flag? features }
  | _ => none

end AnalysisStats

/-- The file system as far as it is read: the bytes of a path, or why there are none. -/
abbrev Files := String → Except IoFailure (List UInt8)

/-- The last name of a path, unless that is a step upwards. Empty names and single dots between the
slashes are no names. -/
def fileName? (path : String) : Option String :=
  let names := ((pieces (· == '/') path.toList).map String.ofList).filter fun part =>
    part ≠ "" ∧ part ≠ "."
  names.getLast?.filter (· ≠ "..")

structure AnalysisService (σ : Type) where
  analyzer : Analyzer
  client : Client σ
  config : Config

namespace AnalysisService

variable {σ : Type}

def ofConfig (analyzer : Analyzer) (transport : Transport σ) (config : Config) :
    AnalysisService σ :=
  ⟨analyzer, .ofConfig transport config, config⟩

/-- What the model says about code, if it can be asked and answers. -/
def commentary (s : AnalysisService σ) (code language : String) (model : Option String) :
    Session σ (Option String) := do
  if ← s.client.checkConnection then
    let prompt := Prompt.analysis code language s.config.replyLanguage
    match (s.config.draft prompt model).build with
    | .error _ => return none
    | .ok request => return (← s.client.generateText request).toOption
  else return none

def analyze (s : AnalysisService σ) (code : String) (includeAi : Bool) (model : Option String) :
    Session σ (Except Error Analysis) := do
  match s.analyzer.run code with
  | .error e => return .error e
  | .ok report =>
    let commentary ←
      if includeAi then s.commentary code report.facts.language model else pure none
    return .ok {
      facts := report.facts
      metrics := report.metrics
      qualityScore := report.qualityScore
      commentary
      filePath := none
      fileName := none
      metadata := report.metadata }

def analyzeFile (s : AnalysisService σ) (files : Files) (path : String) (includeAi : Bool)
    (model : Option String) : Session σ (Except Error Analysis) := do
  match files path with
  | .error e => return .error (.io e)
  | .ok bytes =>
    match Utf8.decode bytes with
    | .error fault => return .error (.encoding s!"{path}: {fault.message}")
    | .ok code =>
      return (← s.analyze code includeAi model).map fun a =>
        { a with filePath := some path, fileName := fileName? path }

def supportedLanguages : List String :=
  Language.all.map Language.name

def stats (s : AnalysisService σ) : AnalysisStats where
  coreModuleAvailable := s.analyzer.isDetailed
  supportedLanguages := supportedLanguages
  features := .ofList
    [("detailed_analysis", s.analyzer.isDetailed),
     ("complexity_calculation", s.analyzer.isDetailed),
     ("quality_scoring", s.analyzer.isDetailed),
     ("ai_analysis", true)]

end AnalysisService

end CodeMentor
