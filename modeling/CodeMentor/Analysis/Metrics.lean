import CodeMentor.Dictionary

/-!
# Facts and metrics

What an analysis says about a text: the names it declares and the numbers that measure it. Both have
a JSON form, with the members in the order of the fields.
-/

namespace CodeMentor

open CodeMentor.Number

/-- What a text declares. -/
structure Facts where
  language : String
  /-- Import statements in the order of the text. -/
  imports : List String
  functions : List String
  classes : List String
  /-- The structural complexity estimate. -/
  complexity : UInt32
deriving DecidableEq, Repr

namespace Facts

def members (f : Facts) : List (String × Json) :=
  [("language", .string f.language), ("imports", .ofTexts f.imports),
   ("functions", .ofTexts f.functions), ("classes", .ofTexts f.classes),
   ("complexity", .ofNat f.complexity.toNat)]

def toJson (f : Facts) : Json :=
  .object f.members

def schema : Json.Schema :=
  [("language", .required), ("imports", .required), ("functions", .required),
   ("classes", .required), ("complexity", .required)]

def ofJson? (j : Json) : Option Facts := do
  match ← j.fields? schema with
  | [some language, some imports, some functions, some classes, some complexity] =>
    return {
      language := ← language.text?
      imports := ← imports.list? Json.text?
      functions := ← functions.list? Json.text?
      classes := ← classes.list? Json.text?
      complexity := ← complexity.uint32? }
  | _ => none

end Facts

/-- What a text measures. -/
structure Metrics where
  /-- The number of lines that are not blank. -/
  lineCount : UInt32
  commentCount : UInt32
  /-- Comment lines per line. -/
  commentRatio : Binary64
  nestingDepth : UInt32
  /-- One more than the number of decision points. -/
  cyclomaticComplexity : UInt32
  potentialIssues : List String
  suggestions : List String
deriving DecidableEq, Repr

namespace Metrics

/-- Comment lines per line, between zero and one; a text without lines counts as one line. -/
def ratio (commentCount lineCount : UInt32) : Binary64 :=
  ((Binary64.ofNat commentCount.toNat).div (Binary64.ofNat (max lineCount.toNat 1))).clamp
    .zero .one

def members (m : Metrics) : List (String × Json) :=
  [("line_count", .ofNat m.lineCount.toNat), ("comment_count", .ofNat m.commentCount.toNat),
   ("comment_ratio", .ofBinary64 m.commentRatio), ("nesting_depth", .ofNat m.nestingDepth.toNat),
   ("cyclomatic_complexity", .ofNat m.cyclomaticComplexity.toNat),
   ("potential_issues", .ofTexts m.potentialIssues), ("suggestions", .ofTexts m.suggestions)]

def toJson (m : Metrics) : Json :=
  .object m.members

def schema : Json.Schema :=
  [("line_count", .required), ("comment_count", .required), ("comment_ratio", .required),
   ("nesting_depth", .required), ("cyclomatic_complexity", .required),
   ("potential_issues", .required), ("suggestions", .required)]

def ofJson? (j : Json) : Option Metrics := do
  match ← j.fields? schema with
  | [some lineCount, some commentCount, some commentRatio, some nestingDepth,
     some cyclomaticComplexity, some potentialIssues, some suggestions] =>
    return {
      lineCount := ← lineCount.uint32?
      commentCount := ← commentCount.uint32?
      commentRatio := ← commentRatio.binary64?
      nestingDepth := ← nestingDepth.uint32?
      cyclomaticComplexity := ← cyclomaticComplexity.uint32?
      potentialIssues := ← potentialIssues.list? Json.text?
      suggestions := ← suggestions.list? Json.text? }
  | _ => none

end Metrics

end CodeMentor
