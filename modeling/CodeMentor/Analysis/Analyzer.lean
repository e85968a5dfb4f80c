import CodeMentor.Analysis.Score
import CodeMentor.Error
import CodeMentor.Source.Advice
import CodeMentor.Source.Complexity
import CodeMentor.Source.Declarations
import CodeMentor.Source.LineCount

/-!
# Analyzers

An analyzer either has an engine that reads the code closely, or falls back on a guess that never
fails. The outcome of an engine is brought into range before anyone sees it.
-/

namespace CodeMentor

open CodeMentor.Number CodeMentor.Source

/-- A way to analyze code closely. -/
structure Engine where
  parse : String → Except Error Facts
  measure : String → Except Error Metrics
  score : Metrics → UInt8

inductive Analyzer where
  | detailed (engine : Engine)
  | heuristic

/-- The outcome of an analysis without commentary. -/
structure StructuralReport where
  facts : Facts
  metrics : Metrics
  qualityScore : UInt8
  /-- Extra data of the analyzer; a guess has none. -/
  metadata : Dictionary String

namespace Engine

def supported (code : String) : Except Error Language :=
  match Language.detect code with
  | some language => .ok language
  | none => .error (.analysisFailed "unsupported language")

def factsOf (language : Language) (code : String) : Facts :=
  { language := language.name
    imports := imports language code
    functions := functions language code
    classes := classes code
    complexity := structuralComplexity code }

def metricsOf (language : Language) (code : String) : Metrics :=
  let facts := factsOf language code
  let lineCount := UInt32.ofNat (LineCount.filled language code)
  let commentCount := UInt32.ofNat (LineCount.comments language code)
  let nesting := nestingDepth language code
  let cyclomatic := cyclomaticComplexity code
  { lineCount, commentCount
    commentRatio := Metrics.ratio commentCount lineCount
    nestingDepth := nesting
    cyclomaticComplexity := cyclomatic
    potentialIssues := issues language code nesting cyclomatic
    suggestions := suggestions language code facts.complexity facts.functions.length
      facts.classes.length facts.imports.length }

/-- The engine that works on the surface of the text. -/
def native : Engine where
  parse code := (supported code).map fun language => factsOf language code
  measure code := (supported code).map fun language => metricsOf language code
  score := Metrics.qualityScore

end Engine

def guessedFacts (code : String) : Facts :=
  { language := Language.nameOf (Language.guess code)
    imports := [], functions := [], classes := []
    complexity := sizeEstimate code }

def guessedMetrics (code : String) : Metrics :=
  { lineCount := UInt32.ofNat (filledLines code.toList).length
    commentCount := 0, commentRatio := .zero, nestingDepth := 0, cyclomaticComplexity := 1
    potentialIssues :=
      ["Native analyzer unavailable; only a basic heuristic analysis was performed."]
    suggestions := ["Build with the `native` feature enabled for a detailed analysis."] }

/-- The score of a guess, which says nothing about the code. -/
def neutralScore : UInt8 := 50

def factsMetadata (facts : Facts) : Dictionary String :=
  .ofList
    [("language", facts.language), ("function_count", toString facts.functions.length),
     ("class_count", toString facts.classes.length),
     ("import_count", toString facts.imports.length)]

/-- Metrics with the comment ratio between zero and one and at least one path through the code. -/
def Metrics.normalized (m : Metrics) : Metrics :=
  { m with
    commentRatio := m.commentRatio.clamp .zero .one
    cyclomaticComplexity := max m.cyclomaticComplexity 1 }

namespace Analyzer

/-- The analyzer used unless another is asked for. -/
def standard : Analyzer :=
  .detailed .native

/-- Whether the analysis is more than a guess. -/
def isDetailed : Analyzer → Bool
  | .detailed _ => true
  | .heuristic => false

def debug : Analyzer → String
  | .detailed _ => "StructuralAnalyzer::Native"
  | .heuristic => "StructuralAnalyzer::Heuristic"

/-- Score metrics; never above 100. -/
def score (metrics : Metrics) : Analyzer → UInt8
  | .detailed engine => min (engine.score metrics) 100
  | .heuristic => neutralScore

def run (code : String) : Analyzer → Except Error StructuralReport
  | .detailed engine => do
    let facts ← engine.parse code
    let metrics := (← engine.measure code).normalized
    return {
      facts, metrics
      qualityScore := min (engine.score metrics) 100
      metadata := factsMetadata facts }
  | .heuristic =>
    .ok {
      facts := guessedFacts code
      metrics := guessedMetrics code
      qualityScore := neutralScore
      metadata := .empty }

end Analyzer

end CodeMentor
