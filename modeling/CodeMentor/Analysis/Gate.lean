import CodeMentor.Analysis.Result

/-!
# The quality gate

A score passes if it reaches the threshold. A verdict that passes carries nothing; one that fails
says why, and suggests at least one thing.
-/

namespace CodeMentor

/-- The outcome of comparing a score with a threshold. -/
structure Verdict where
  score : UInt8
  threshold : UInt8
  passed : Bool
  issues : List String
  suggestions : List String
deriving DecidableEq, Repr

namespace Verdict

/-- The suggestion given when there is no other. -/
def fallback : String :=
  "Reduce complexity and nesting, and document the code to raise its score."

def belowThreshold (score threshold : UInt8) : String :=
  s!"Quality score {score.toNat} is below the threshold {threshold.toNat}."

def evaluate (score threshold : UInt8) (issues suggestions : List String) : Verdict :=
  if threshold ≤ score then
    { score, threshold, passed := true, issues := [], suggestions := [] }
  else
    { score, threshold, passed := false
      issues := belowThreshold score threshold :: issues
      suggestions := if suggestions.isEmpty then [fallback] else suggestions }

def toJson (v : Verdict) : Json :=
  .object
    [("score", .ofNat v.score.toNat), ("threshold", .ofNat v.threshold.toNat),
     ("passed", .bool v.passed), ("issues", .ofTexts v.issues),
     ("suggestions", .ofTexts v.suggestions)]

def schema : Json.Schema :=
  [("score", .required), ("threshold", .required), ("passed", .required), ("issues", .required),
   ("suggestions", .required)]

def ofJson? (j : Json) : Option Verdict := do
  match ← j.fields? schema with
  | [some score, some threshold, some passed, some issues, some suggestions] =>
    return {
      score := ← score.uint8?
      threshold := ← threshold.uint8?
      passed := ← passed.flag?
      issues := ← issues.list? Json.text?
      suggestions := ← suggestions.list? Json.text? }
  | _ => none

end Verdict

def Analysis.verdict (a : Analysis) (threshold : UInt8) : Verdict :=
  .evaluate a.qualityScore threshold a.metrics.potentialIssues a.metrics.suggestions

end CodeMentor
