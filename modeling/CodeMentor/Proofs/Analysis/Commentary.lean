import CodeMentor.Analysis.Service
import CodeMentor.Proofs.Backend.Attempts
import CodeMentor.Proofs.Results

/-!
# Commentary beside an analysis

The model is asked for its commentary only when the code has been analyzed, and the answer goes to a
field of its own. The main result holds an analysis with commentary against one without: whatever
the backend does, they agree in everything else, and the commentary is there exactly when the probe,
the request and the generation all succeed.
-/

namespace CodeMentor

variable {σ : Type}

def StructuralReport.withCommentary (r : StructuralReport) (commentary : Option String) :
    Analysis where
  facts := r.facts
  metrics := r.metrics
  qualityScore := r.qualityScore
  commentary := commentary
  filePath := none
  fileName := none
  metadata := r.metadata

namespace AnalysisService

variable (s : AnalysisService σ) (code language : String) (model : Option String) (w : World σ)

def commentaryRequest : Except Error Request :=
  (s.config.draft (Prompt.analysis code language s.config.replyLanguage) model).build

/-- The model says `text` about code in a language: the backend answers the probe, a request can be
made of the prompt, and the generation that follows the probe gives the text. -/
structure Says (text : String) : Prop where
  probe : ∃ listing, (s.client.transport.tags s.client.probeTimeout w.peer).1 = .ok listing
  generation : ∃ request, s.commentaryRequest code language model = .ok request ∧
    (s.client.generateText request (s.client.probed w)).1 = .ok text

theorem commentary_of_refused {e : TransportError}
    (h : (s.client.transport.tags s.client.probeTimeout w.peer).1 = .error e) :
    (s.commentary code language model w).1 = none := by
  simp only [commentary, bind, StateT.bind, Client.checkConnection_eq, h]
  rfl

theorem commentary_of_answered {listing : String}
    (h : (s.client.transport.tags s.client.probeTimeout w.peer).1 = .ok listing) :
    (s.commentary code language model w).1 =
      (s.commentaryRequest code language model >>= fun request ↦
        (s.client.generateText request (s.client.probed w)).1).toOption := by
  simp only [commentary, bind, StateT.bind, Client.checkConnection_eq, h, commentaryRequest]
  cases (s.config.draft (Prompt.analysis code language s.config.replyLanguage) model).build with
  | error e => rfl
  | ok request => rfl

theorem commentary_eq_some_iff (text : String) :
    (s.commentary code language model w).1 = some text ↔ s.Says code language model w text := by
  cases hprobe : (s.client.transport.tags s.client.probeTimeout w.peer).1 with
  | error e =>
      rw [commentary_of_refused s code language model w hprobe]
      constructor
      · intro hnone
        cases hnone
      · rintro ⟨⟨listing, hlisting⟩, -⟩
        rw [hprobe] at hlisting
        cases hlisting
  | ok listing =>
      rw [commentary_of_answered s code language model w hprobe, toOption_eq_some_iff,
        bind_eq_ok_iff]
      exact ⟨fun hgeneration ↦ ⟨⟨listing, hprobe⟩, hgeneration⟩, fun hsays ↦ hsays.generation⟩

/-! ## Two analyses of the same code -/

theorem analyze_of_rejected {e : Error} (h : s.analyzer.run code = .error e) (includeAi : Bool) :
    s.analyze code includeAi model w = (.error e, w) := by
  simp only [analyze, h]
  rfl

theorem analyze_plain {report : StructuralReport} (h : s.analyzer.run code = .ok report) :
    s.analyze code false model w = (.ok (report.withCommentary none), w) := by
  simp only [analyze, h]
  rfl

theorem analyze_commented {report : StructuralReport} (h : s.analyzer.run code = .ok report) :
    s.analyze code true model w =
      let r := s.commentary code report.facts.language model w
      (.ok (report.withCommentary r.1), r.2) := by
  simp only [analyze, h]
  rfl

/-- An analysis with commentary beside one without, each in a world of its own. Without commentary
nothing is called. If the analyzer accepts the code, both succeed and differ at most in the
commentary, which is what the model says. If not, both fail alike and nothing is called. -/
theorem commentary_leaves_analysis (w' : World σ) :
    let commented := s.analyze code true model w
    let plain := s.analyze code false model w'
    plain.2 = w' ∧
      (∀ report, s.analyzer.run code = .ok report →
        ∃ a b, commented.1 = .ok a ∧ plain.1 = .ok b ∧
          a = { b with commentary := a.commentary } ∧ b.commentary = none ∧
          ∀ text, a.commentary = some text ↔
            s.Says code report.facts.language model w text) ∧
      (∀ e, s.analyzer.run code = .error e →
        commented = (.error e, w) ∧ plain = (.error e, w')) := by
  intro commented plain
  refine ⟨?_, ?_, ?_⟩
  · cases hrun : s.analyzer.run code with
    | error e => exact congrArg Prod.snd (s.analyze_of_rejected code model w' hrun false)
    | ok report => exact congrArg Prod.snd (s.analyze_plain code model w' hrun)
  · intro report hrun
    refine ⟨report.withCommentary (s.commentary code report.facts.language model w).1,
      report.withCommentary none, ?_, ?_, rfl, rfl, ?_⟩
    · exact congrArg Prod.fst (s.analyze_commented code model w hrun)
    · exact congrArg Prod.fst (s.analyze_plain code model w' hrun)
    · exact s.commentary_eq_some_iff code report.facts.language model w
  · intro e hrun
    exact ⟨s.analyze_of_rejected code model w hrun true,
      s.analyze_of_rejected code model w' hrun false⟩

end AnalysisService

end CodeMentor
