import CodeMentor.Proofs.Analysis.Commentary
import CodeMentor.Proofs.Number.Range

/-!
# What a structural report promises

An engine may return whatever it likes. A report is brought into range before it is scored, so its
numbers keep their promises and scoring its metrics once more gives its own score. The main result
says this for every analyzer and every code, tells exactly when an analyzer rejects code, and carries
the score over to the analyses that a service returns.
-/

namespace CodeMentor

open CodeMentor.Number

namespace Analyzer

/-- No measured comment ratio is NaN. -/
def MeasuresNumbers : Analyzer → Prop
  | .heuristic => True
  | .detailed engine =>
    ∀ code m, engine.measure code = .ok m → m.commentRatio.isNaN = false

/-- The engine fails on the code; what it says about the declarations comes first. -/
def Rejects (code : String) (e : Error) : Analyzer → Prop
  | .heuristic => False
  | .detailed engine =>
    engine.parse code = .error e ∨
      (∃ facts, engine.parse code = .ok facts) ∧ engine.measure code = .error e

/-- The entries of the extra data, in order: four for an engine, and none for a guess. -/
def extraEntries (facts : Facts) : Analyzer → List (String × String)
  | .heuristic => []
  | .detailed _ =>
    [("class_count", toString facts.classes.length),
     ("function_count", toString facts.functions.length),
     ("import_count", toString facts.imports.length),
     ("language", facts.language)]

/-- What is promised of a report. -/
structure Promises (analyzer : Analyzer) (r : StructuralReport) : Prop where
  ratio_nonneg : Binary64.zero.le r.metrics.commentRatio = true
  ratio_le_one : r.metrics.commentRatio.le .one = true
  paths : 1 ≤ r.metrics.cyclomaticComplexity
  score_le : r.qualityScore ≤ 100
  rescored : analyzer.score r.metrics = r.qualityScore
  metadata : r.metadata.entries = analyzer.extraEntries r.facts

theorem run_detailed_eq_ok_iff {engine : Engine} {code : String} {r : StructuralReport} :
    run code (.detailed engine) = .ok r ↔
      ∃ facts m, engine.parse code = .ok facts ∧ engine.measure code = .ok m ∧
        r = ⟨facts, m.normalized, min (engine.score m.normalized) 100, factsMetadata facts⟩ := by
  simp only [run, bind_eq_ok_iff, pure, Except.pure, Except.ok.injEq]
  constructor
  · rintro ⟨facts, hfacts, m, hm, rfl⟩
    exact ⟨facts, m, hfacts, hm, rfl⟩
  · rintro ⟨facts, m, hfacts, hm, rfl⟩
    exact ⟨facts, hfacts, m, hm, rfl⟩

theorem run_eq_error_iff {analyzer : Analyzer} {code : String} {e : Error} :
    analyzer.run code = .error e ↔ analyzer.Rejects code e := by
  cases analyzer with
  | heuristic => simp [run, Rejects]
  | detailed engine =>
      simp only [run, Rejects]
      cases hparse : engine.parse code with
      | error e' => simp [bind, Except.bind]
      | ok facts =>
          cases hmeasure : engine.measure code with
          | error e' => simp [bind, Except.bind]
          | ok m => simp [bind, Except.bind, pure, Except.pure]

theorem entries_factsMetadata (facts : Facts) :
    (factsMetadata facts).entries =
      [("class_count", toString facts.classes.length),
       ("function_count", toString facts.functions.length),
       ("import_count", toString facts.imports.length),
       ("language", facts.language)] := by
  have hfirst : "function_count" < "language" := by decide
  have hsecond : "class_count" < "function_count" := by decide
  have hthird : ¬ "import_count" < "class_count" ∧ ¬ "import_count" < "function_count" ∧
      "import_count" < "language" := by decide
  simp only [factsMetadata, Dictionary.ofList, Dictionary.insert, Dictionary.empty,
    List.foldl_cons, List.foldl_nil, putEntry, hfirst, hsecond, hthird, String.reduceEq, if_true,
    if_false]

theorem one_le_paths (m : Metrics) : 1 ≤ m.normalized.cyclomaticComplexity := by
  change 1 ≤ if m.cyclomaticComplexity ≤ 1 then 1 else m.cyclomaticComplexity
  by_cases h : m.cyclomaticComplexity ≤ 1
  · rw [if_pos h]
    exact UInt32.le_refl 1
  · rw [if_neg h]
    exact (UInt32.le_total _ _).resolve_left h

theorem promises_of_detailed {engine : Engine} (h : MeasuresNumbers (.detailed engine))
    {code : String} {r : StructuralReport} (hrun : run code (.detailed engine) = .ok r) :
    Promises (.detailed engine) r := by
  obtain ⟨facts, m, -, hmeasure, rfl⟩ := run_detailed_eq_ok_iff.mp hrun
  obtain ⟨hnonneg, hle⟩ := Binary64.clamp_mem (h code m hmeasure)
    (show Binary64.zero.le .one = true by decide)
  constructor
  · exact hnonneg
  · exact hle
  · exact one_le_paths m
  · exact Std.min_le_right
  · rfl
  · exact entries_factsMetadata facts

theorem promises_of_heuristic {code : String} {r : StructuralReport}
    (hrun : run code .heuristic = .ok r) : Promises .heuristic r := by
  obtain rfl := Except.ok.inj hrun
  constructor
  · exact (show Binary64.zero.le .zero = true by decide)
  · exact (show Binary64.zero.le .one = true by decide)
  · exact UInt32.le_refl 1
  · exact (show neutralScore ≤ 100 by decide)
  · rfl
  · rfl

end Analyzer

/-! ## Returned analyses -/

namespace AnalysisService

variable {σ : Type} {s : AnalysisService σ} {includeAi : Bool} {model : Option String}
  {w : World σ} {a : Analysis}

theorem exists_report_of_analyze {code : String}
    (h : (s.analyze code includeAi model w).1 = .ok a) :
    ∃ r commentary, s.analyzer.run code = .ok r ∧ a = r.withCommentary commentary := by
  cases hrun : s.analyzer.run code with
  | error e =>
      rw [s.analyze_of_rejected code model w hrun] at h
      cases h
  | ok r =>
      cases includeAi with
      | false =>
          rw [s.analyze_plain code model w hrun] at h
          exact ⟨r, none, rfl, (Except.ok.inj h).symm⟩
      | true =>
          rw [s.analyze_commented code model w hrun] at h
          exact ⟨r, _, rfl, (Except.ok.inj h).symm⟩

theorem exists_analyze_of_analyzeFile {files : Files} {path : String}
    (h : (s.analyzeFile files path includeAi model w).1 = .ok a) :
    ∃ code b, (s.analyze code includeAi model w).1 = .ok b ∧ a.metrics = b.metrics ∧
      a.qualityScore = b.qualityScore := by
  simp only [analyzeFile] at h
  cases hfile : files path with
  | error e =>
      rw [hfile] at h
      cases h
  | ok bytes =>
      cases hdecode : Text.Utf8.decode bytes with
      | error fault =>
          simp only [hfile, hdecode] at h
          cases h
      | ok code =>
          simp only [hfile, hdecode] at h
          obtain ⟨b, hb, rfl⟩ := map_eq_ok_iff.mp h
          exact ⟨code, b, hb, rfl, rfl⟩

end AnalysisService

/-- The analysis is one that a service returns, of code or of a file. -/
def AnalysisService.Returns {σ : Type} (s : AnalysisService σ) (a : Analysis) : Prop :=
  ∃ includeAi model w,
    (∃ code, (s.analyze code includeAi model w).1 = .ok a) ∨
      ∃ files path, (s.analyzeFile files path includeAi model w).1 = .ok a

theorem AnalysisService.Returns.exists_report {σ : Type} {s : AnalysisService σ} {a : Analysis}
    (h : s.Returns a) :
    ∃ code r, s.analyzer.run code = .ok r ∧ a.metrics = r.metrics ∧
      a.qualityScore = r.qualityScore := by
  obtain ⟨includeAi, model, w, ⟨code, hcode⟩ | ⟨files, path, hfile⟩⟩ := h
  · obtain ⟨r, commentary, hrun, rfl⟩ := exists_report_of_analyze hcode
    exact ⟨code, r, hrun, rfl, rfl⟩
  · obtain ⟨code, b, hcode, hmetrics, hscore⟩ := exists_analyze_of_analyzeFile hfile
    obtain ⟨r, commentary, hrun, rfl⟩ := exists_report_of_analyze hcode
    exact ⟨code, r, hrun, hmetrics, hscore⟩

/-- Every report of an analyzer that measures no NaN keeps its promises, however its engine
misbehaves otherwise. The analyzer fails exactly if its engine cannot find the declarations or
measure the code, with the failure of the first before that of the second, and a guess never fails.
Scoring the metrics of an analysis that a service returns gives the score of that analysis. -/
theorem reports_keep_promises {analyzer : Analyzer} (h : analyzer.MeasuresNumbers) :
    (∀ code r, analyzer.run code = .ok r → analyzer.Promises r) ∧
      (∀ code e, analyzer.run code = .error e ↔ analyzer.Rejects code e) ∧
      ∀ (σ : Type) (s : AnalysisService σ), s.analyzer = analyzer → ∀ a, s.Returns a →
        s.analyzer.score a.metrics = a.qualityScore := by
  have hpromises : ∀ code r, analyzer.run code = .ok r → analyzer.Promises r := by
    intro code r hrun
    cases analyzer with
    | heuristic => exact Analyzer.promises_of_heuristic hrun
    | detailed engine => exact Analyzer.promises_of_detailed h hrun
  refine ⟨hpromises, fun code e ↦ Analyzer.run_eq_error_iff, ?_⟩
  rintro σ s rfl a ha
  obtain ⟨code, r, hrun, hmetrics, hscore⟩ := ha.exists_report
  rw [hmetrics, hscore]
  exact (hpromises code r hrun).rescored

/-- An engine with an infinite ratio, no path through the code and a score beyond a hundred. -/
theorem reports_keep_promises_wild :
    let m : Metrics := ⟨0, 0, .infinity false, 0, 0, [], []⟩
    let engine : Engine := ⟨fun _ ↦ .ok ⟨"c", [], ["f"], [], 0⟩, fun _ ↦ .ok m, fun _ ↦ 255⟩
    (Analyzer.detailed engine).MeasuresNumbers ∧ ∃ r,
      (Analyzer.detailed engine).run "" = .ok r ∧ (Analyzer.detailed engine).Promises r ∧
        r.metrics.commentRatio = .one ∧ r.metrics.cyclomaticComplexity = 1 ∧
        r.qualityScore = 100 := by
  intro m engine
  have hnumbers : (Analyzer.detailed engine).MeasuresNumbers := by
    intro code m' hm
    obtain rfl := Except.ok.inj hm
    decide
  exact ⟨hnumbers, _, rfl, (reports_keep_promises hnumbers).1 "" _ rfl, by decide, by decide,
    by decide⟩

end CodeMentor
