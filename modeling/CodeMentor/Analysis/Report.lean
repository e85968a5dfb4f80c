import CodeMentor.Analysis.Gate
import CodeMentor.Backend.Model
import CodeMentor.Text.Pieces

/-!
# Reports

Analyses, verdicts and model listings as text for a terminal and as Markdown. Every line, the last
one included, ends in a newline.
-/

namespace CodeMentor

open CodeMentor.Number

/-- An empty line, a title and the items; nothing if there are no items. -/
def textSection (title : String) (items : List String) : List String :=
  if items.isEmpty then [] else "" :: (title ++ ":") :: items.map ("  - " ++ ·)

def listedFunctions : Nat := 5

/-- The functions of a report: the first few by name, the others by number. -/
def functionSection (names : List String) : List String :=
  if names.isEmpty then []
  else
    "" :: s!"Functions ({names.length}):" :: (names.take listedFunctions).map ("  - " ++ ·) ++
      if listedFunctions < names.length then
        [s!"  ... +{names.length - listedFunctions} more"]
      else []

/-- What a report for a terminal says, in sections. -/
def Analysis.textSections (a : Analysis) : List (List String) :=
  let m := a.metrics
  let percent := (m.commentRatio.mul (.ofNat 100)).fixed 1
  [(a.filePath.map ("File: " ++ ·)).toList,
   [s!"Language: {a.facts.language}",
    s!"Complexity: {a.facts.complexity.toNat}",
    s!"Lines: {m.lineCount.toNat}",
    s!"Comments: {m.commentCount.toNat} ({percent}%)",
    s!"Nesting depth: {m.nestingDepth.toNat}",
    s!"Cyclomatic complexity: {m.cyclomaticComplexity.toNat}",
    s!"Quality score: {a.qualityScore.toNat}/100"],
   functionSection a.facts.functions,
   textSection "Potential issues" m.potentialIssues,
   textSection "Suggestions" m.suggestions,
   match a.commentary with
   | some commentary => ["", "AI analysis:", trimEnd commentary]
   | none => []]

def Analysis.text (a : Analysis) : String :=
  unlines a.textSections.flatten

/-- A titled list in Markdown, with a sentence for an empty list. -/
def markdownSection (title : String) (items : List String) (none : String) : List String :=
  s!"### {title}" :: (if items.isEmpty then [none] else items.map ("- " ++ ·)) ++ [""]

/-- What a report in Markdown says, in sections. -/
def Analysis.markdownSections (a : Analysis) : List (List String) :=
  let m := a.metrics
  let ratio := m.commentRatio.fixed 2
  let title := a.fileName.getD "snippet"
  [[s!"# Code Analysis: {title}", ""],
   (a.filePath.map fun path => s!"- Path: `{path}`").toList,
   [s!"- Language: {a.facts.language}",
    s!"- Quality score: **{a.qualityScore.toNat}**/100",
    ""],
   ["### Metrics",
    "| Metric | Value |",
    "| --- | --- |",
    s!"| Complexity | {a.facts.complexity.toNat} |",
    s!"| Lines | {m.lineCount.toNat} |",
    s!"| Comments | {m.commentCount.toNat} |",
    s!"| Comment ratio | {ratio} |",
    s!"| Nesting depth | {m.nestingDepth.toNat} |",
    s!"| Cyclomatic complexity | {m.cyclomaticComplexity.toNat} |",
    ""],
   markdownSection "Imports" a.facts.imports "No imports found.",
   markdownSection "Functions" a.facts.functions "No functions found.",
   markdownSection "Classes" a.facts.classes "No classes found.",
   markdownSection "Potential issues" m.potentialIssues "No issues found.",
   markdownSection "Suggestions" m.suggestions "No suggestions.",
   match a.commentary with
   | some commentary => ["### AI analysis", trimEnd commentary, ""]
   | none => []]

def Analysis.markdown (a : Analysis) : String :=
  unlines a.markdownSections.flatten

def Verdict.textSections (v : Verdict) : List (List String) :=
  let status := if v.passed then "PASSED" else "FAILED"
  [[s!"Quality gate {status}: score {v.score.toNat} (threshold {v.threshold.toNat})"],
   textSection "Issues" v.issues,
   textSection "Suggestions" v.suggestions]

def Verdict.text (v : Verdict) : String :=
  unlines v.textSections.flatten

/-- Units of size above the byte, each 1024 times the one before. -/
def sizeUnits : List String :=
  ["KB", "MB", "GB"]

/-- A number of bytes in the largest of the units that it fills, with one decimal place. -/
def sizeIn (value : Binary64) (unit : String) : List String → String
  | [] => value.fixed 1 ++ " " ++ unit
  | next :: larger =>
    if value.lt (.ofNat 1024) then value.fixed 1 ++ " " ++ unit
    else sizeIn (value.div (.ofNat 1024)) next larger

def sizeText (bytes : UInt64) : String :=
  let value := Binary64.ofNat bytes.toNat
  if value.lt (.ofNat 1024) then s!"{bytes.toNat} B" else sizeIn value "B" sizeUnits

def modelsText (models : List Model) : String :=
  if models.isEmpty then "No models available.\n"
  else
    unlines <| "Available models:" :: models.map fun m =>
      let size := (m.size.map sizeText).getD "unknown size"
      s!"  - {m.name} ({size})"

end CodeMentor
