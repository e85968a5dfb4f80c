import CodeMentor.Analysis.Gate
import CodeMentor.Analysis.Score
import CodeMentor.Proofs.Number.Range

/-!
# Better metrics before the gate

A penalty is a ladder of thresholds: the first one that is passed decides. Metrics that are no worse
pass no threshold that the others do not pass, so they lose no more points. The main result carries
this through the sum, the bounds of the score and the gate, and says what a verdict that fails
carries.
-/

namespace CodeMentor

open CodeMentor.Number

/-! ## Penalties -/

/-- One rung of a ladder. Where the conditions differ, the left side has gone on to the lower rungs,
and these stay below the rung at which the right side has stopped. -/
theorem rung_le_rung {p q : Prop} [Decidable p] [Decidable q] {rung low low' : ℕ} (h : p → q)
    (hlow : low ≤ low') (hrung : low ≤ rung) :
    (if p then rung else low) ≤ if q then rung else low' := by
  by_cases hp : p
  · rw [if_pos hp, if_pos (h hp)]
  · rw [if_neg hp]
    by_cases hq : q
    · rwa [if_pos hq]
    · rwa [if_neg hq]

/-- A ladder of three rungs over a count. -/
theorem ladder_mono {c d : UInt32} (h : c ≤ d) (first second third : UInt32) {x y z : ℕ}
    (hyx : y ≤ x) (hzy : z ≤ y) :
    (if first < c then x else if second < c then y else if third < c then z else 0) ≤
      if first < d then x else if second < d then y else if third < d then z else 0 := by
  have hpass : ∀ limit : UInt32, limit < c → limit < d := fun _ hc ↦ UInt32.lt_of_lt_of_le hc h
  have hthird : (if third < c then z else 0) ≤ z := by split <;> omega
  have hsecond : (if second < c then y else if third < c then z else 0) ≤ y := by split <;> omega
  exact rung_le_rung (hpass first)
    (rung_le_rung (hpass second)
      (rung_le_rung (hpass third) le_rfl (Nat.zero_le z)) (hthird.trans hzy))
    (hsecond.trans hyx)

theorem cyclomaticPenalty_mono {c d : UInt32} (h : c ≤ d) :
    cyclomaticPenalty c ≤ cyclomaticPenalty d :=
  ladder_mono h 15 10 5 (by decide) (by decide)

theorem nestingPenalty_mono {c d : UInt32} (h : c ≤ d) : nestingPenalty c ≤ nestingPenalty d :=
  ladder_mono h 5 3 1 (by decide) (by decide)

theorem commentPenalty_anti {x y : Binary64} (h : x.le y = true) :
    commentPenalty y ≤ commentPenalty x := by
  have hpass : ∀ limit : Binary64, y.lt limit = true → x.lt limit = true :=
    fun _ hy ↦ Binary64.lt_of_le_of_lt h hy
  have hlow : (if y.lt (.ofRatio false 2 5) then 5 else 0) ≤ 10 := by split <;> decide
  exact rung_le_rung (hpass _) (rung_le_rung (hpass _) le_rfl (Nat.zero_le 5)) hlow

/-! ## Scores -/

namespace Metrics

/-- No measure of the first metrics is worse than the same measure of the second. A ratio that is
NaN compares with nothing. -/
structure NoWorse (a b : Metrics) : Prop where
  paths : a.cyclomaticComplexity ≤ b.cyclomaticComplexity
  nesting : a.nestingDepth ≤ b.nestingDepth
  comments : b.commentRatio.le a.commentRatio = true
  issues : a.potentialIssues.length ≤ b.potentialIssues.length

variable {a b : Metrics}

theorem NoWorse.penalty_le (h : a.NoWorse b) : a.penalty ≤ b.penalty := by
  have hpaths := cyclomaticPenalty_mono h.paths
  have hcomments := commentPenalty_anti h.comments
  have hnesting := nestingPenalty_mono h.nesting
  have hissues := h.issues
  rw [penalty, penalty]
  omega

theorem NoWorse.score_le (h : a.NoWorse b) : b.qualityScore ≤ a.qualityScore := by
  rw [UInt8.le_iff_toNat_le, toNat_qualityScore, toNat_qualityScore]
  exact Nat.sub_le_sub_left h.penalty_le 100

theorem qualityScore_le (m : Metrics) : m.qualityScore ≤ 100 := by
  rw [UInt8.le_iff_toNat_le, toNat_qualityScore]
  exact Nat.sub_le 100 m.penalty

end Metrics

/-! ## Verdicts -/

namespace Verdict

variable {score threshold : UInt8} {issues suggestions : List String}

theorem evaluate_of_reached (h : threshold ≤ score) :
    evaluate score threshold issues suggestions = ⟨score, threshold, true, [], []⟩ :=
  if_pos h

theorem evaluate_of_missed (h : ¬ threshold ≤ score) :
    evaluate score threshold issues suggestions =
      ⟨score, threshold, false, belowThreshold score threshold :: issues,
        if suggestions.isEmpty then [fallback] else suggestions⟩ :=
  if_neg h

theorem passed_evaluate :
    (evaluate score threshold issues suggestions).passed = true ↔ threshold ≤ score := by
  by_cases h : threshold ≤ score
  · simp [evaluate_of_reached h, h]
  · simp [evaluate_of_missed h, h]

theorem suggestions_ne_nil (h : ¬ threshold ≤ score) :
    (evaluate score threshold issues suggestions).suggestions ≠ [] := by
  rw [evaluate_of_missed h]
  cases suggestions with
  | nil => exact List.cons_ne_nil fallback []
  | cons first rest => exact List.cons_ne_nil first rest

end Verdict

/-- Metrics that are no worse score at least as high, and every score is at most a hundred. So they
pass every gate that the other metrics pass, at that threshold and at each lower one, and a verdict
that passes carries nothing. A verdict that fails carries the line about the threshold, then the
issues that were given, and at least one suggestion. -/
theorem better_metrics_pass {a b : Metrics} (h : a.NoWorse b) :
    b.qualityScore ≤ a.qualityScore ∧ a.qualityScore ≤ 100 ∧ b.qualityScore ≤ 100 ∧
      (∀ (threshold lower : UInt8) (issues suggestions issues' suggestions' : List String),
        lower ≤ threshold →
        (Verdict.evaluate b.qualityScore threshold issues suggestions).passed = true →
        let verdict := Verdict.evaluate a.qualityScore lower issues' suggestions'
        verdict.passed = true ∧ verdict.issues = [] ∧ verdict.suggestions = []) ∧
      ∀ (score threshold : UInt8) (issues suggestions : List String),
        let verdict := Verdict.evaluate score threshold issues suggestions
        verdict.passed = false →
          verdict.issues =
            s!"Quality score {score.toNat} is below the threshold {threshold.toNat}." :: issues ∧
          verdict.suggestions ≠ [] := by
  refine ⟨h.score_le, a.qualityScore_le, b.qualityScore_le, ?_, ?_⟩
  · intro threshold lower issues suggestions issues' suggestions' hlower hpassed
    have hreached : lower ≤ a.qualityScore :=
      UInt8.le_trans hlower (UInt8.le_trans (Verdict.passed_evaluate.mp hpassed) h.score_le)
    rw [Verdict.evaluate_of_reached hreached]
    exact ⟨rfl, rfl, rfl⟩
  · intro score threshold issues suggestions verdict hfailed
    have hmissed : ¬ threshold ≤ score := fun hreached ↦ by
      rw [Verdict.passed_evaluate.mpr hreached] at hfailed
      cases hfailed
    refine ⟨?_, Verdict.suggestions_ne_nil hmissed⟩
    change (Verdict.evaluate score threshold issues suggestions).issues = _
    rw [Verdict.evaluate_of_missed hmissed]
    rfl

/-- Metrics on the edges of the thresholds, against metrics that are one step worse in each. -/
theorem better_metrics_pass_edges :
    let a : Metrics := ⟨0, 0, .ofRatio false 2 5, 3, 10, [], []⟩
    let b : Metrics := ⟨0, 0, .ofRatio false 1 10, 4, 11, ["deep"], []⟩
    a.NoWorse b ∧ a.qualityScore = 92 ∧ b.qualityScore = 74 ∧
      (Verdict.evaluate b.qualityScore 74 ["deep"] []).passed = true ∧
      (Verdict.evaluate a.qualityScore 70 [] []).passed = true := by
  intro a b
  have hworse : a.NoWorse b := ⟨by decide, by decide, by decide +kernel, by decide⟩
  have hpassed : (Verdict.evaluate b.qualityScore 74 ["deep"] []).passed = true := by
    decide +kernel
  exact ⟨hworse, by decide +kernel, by decide +kernel, hpassed,
    ((better_metrics_pass hworse).2.2.2.1 74 70 ["deep"] [] [] [] (by decide) hpassed).1⟩

end CodeMentor
