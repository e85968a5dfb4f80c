import CodeMentor.Analysis.Metrics

/-!
# The quality score

One hundred points, less a penalty for each metric and three points for every likely problem, but
never below zero.
-/

namespace CodeMentor

open CodeMentor.Number

def cyclomaticPenalty (complexity : UInt32) : Nat :=
  if 15 < complexity then 20 else if 10 < complexity then 10 else if 5 < complexity then 5 else 0

/-- The penalty for few comments: below a tenth, and below two fifths. -/
def commentPenalty (ratio : Binary64) : Nat :=
  if ratio.lt (.ofRatio false 1 10) then 10 else if ratio.lt (.ofRatio false 2 5) then 5 else 0

def nestingPenalty (depth : UInt32) : Nat :=
  if 5 < depth then 15 else if 3 < depth then 8 else if 1 < depth then 3 else 0

def Metrics.penalty (m : Metrics) : Nat :=
  cyclomaticPenalty m.cyclomaticComplexity + commentPenalty m.commentRatio
    + nestingPenalty m.nestingDepth + m.potentialIssues.length * 3

/-- The quality score, from 0 to 100. -/
def Metrics.qualityScore (m : Metrics) : UInt8 :=
  UInt8.ofNat (100 - m.penalty)

theorem Metrics.toNat_qualityScore (m : Metrics) : m.qualityScore.toNat = 100 - m.penalty := by
  have h : 100 - m.penalty < 2 ^ 8 := by omega
  rw [qualityScore, UInt8.toNat_ofNat']
  exact Nat.mod_eq_of_lt h

end CodeMentor
