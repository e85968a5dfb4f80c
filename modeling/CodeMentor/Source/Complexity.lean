import CodeMentor.Source.Nesting
import CodeMentor.Source.Pattern

/-!
# Complexity

Two measures of a text: a size estimate from its length, its control-flow words and its deepest
indentation, and the cyclomatic count of its decision points. A count of any size is cut to 32 bits
before it is used, and sums and products of such counts wrap around.
-/

namespace CodeMentor.Source

open CodeMentor.Text

def sizeEstimate (code : String) : UInt32 :=
  .ofNat (code.toList.length / 100)

/-- Control-flow words with the weight of each occurrence. -/
def weights : List (String × UInt32) :=
  [("if", 1), ("for", 2), ("while", 2), ("switch", 3), ("try", 1)]

/-- The size estimate, weighted control-flow words, and half the widest indentation. -/
def structuralComplexity (code : String) : UInt32 :=
  let text := code.toList
  let control := weights.foldl (fun sum w => sum + countWord text w.1.toList * w.2) 0
  let indents := (filledLines text).map fun line => (line.takeWhile isIndent).length
  sizeEstimate code + control + .ofNat (indents.max?.getD 0) / 2

def decisionWords : List String :=
  ["if", "elif", "for", "while", "case", "catch", "except", "and", "or"]

/-- A decision point: one of the words, a short-circuit operator, or a question mark. -/
def decisionPoint : Pattern Unit := fun before text =>
  let whole := if wordMayStart before then
      (word? text).bind fun w =>
        if decisionWords.contains (String.ofList w.1) then some w.2 else none
    else none
  let rest := whole.or ((keyword? "&&" text).or ((keyword? "||" text).or (char? '?' text)))
  rest.map fun rest => ((), rest)

def cyclomaticComplexity (code : String) : UInt32 :=
  1 + .ofNat (decisionPoint.findAll code.toList).length

end CodeMentor.Source
