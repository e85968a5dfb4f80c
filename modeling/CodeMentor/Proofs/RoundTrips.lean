import CodeMentor.Analysis.Gate
import CodeMentor.Analysis.Service
import CodeMentor.Assistant.Service
import CodeMentor.Proofs.Json.Records

/-!
# Values that survive being written

Every type with a JSON form is read back from it, in either layout. An analysis is written as one
flat object together with its facts and its metrics; all names in it are distinct, so each of the
three parts finds its own members and no other.
-/

namespace CodeMentor

open CodeMentor.Json

/-! ## Models and chunks -/

theorem Chunk.recovers (c : Chunk) : Recovers Chunk.ofJson? c.toJson c := by
  apply Writable.recovers
  · simp [toJson]
  · rfl

namespace Model

theorem ofJson?_toJson (m : Model) : Model.ofJson? m.toJson = some m := by
  have hsize : absent? uint64? (some ((m.size.map fun n ↦ ofNat n.toNat).getD .null)) =
      some m.size :=
    absent?_map uint64?_ofNat (fun _ hnull ↦ by cases hnull) m.size
  rw [ofJson?, toJson, fields?_of_names rfl (by simp)]
  simp [hsize]

theorem writable_toJson (m : Model) : m.toJson.Writable := by
  have hsize : Writable ((m.size.map fun n ↦ ofNat n.toNat).getD .null) := by
    cases m.size with
    | none => exact .null
    | some n => exact writable_ofNat n.toNat
  simp [toJson, hsize]

end Model

theorem ModelDetails.recovers (d : ModelDetails) : Recovers ModelDetails.ofJson? d.toJson d := by
  apply Writable.recovers
  · simp [toJson]
  · rw [ofJson?, toJson, fields?_of_names rfl (by simp)]
    simp

theorem AssistantStatus.recovers (s : AssistantStatus) :
    Recovers AssistantStatus.ofJson? s.toJson s := by
  have hmodels : list? Model.ofJson? (.array (s.availableModels.map Model.toJson)) =
      some s.availableModels :=
    list?_map Model.ofJson?_toJson s.availableModels
  apply Writable.recovers
  · simp [toJson, Model.writable_toJson]
  · rw [ofJson?, toJson, fields?_of_names rfl (by simp)]
    simp [hmodels]

/-! ## Facts and metrics -/

namespace Facts

/-- The facts are read from any object that has their members among others. -/
theorem ofJson?_of_subset (f : Facts) {members : List (String × Json)}
    (hsub : f.members ⊆ members) (hnodup : (members.map (·.1)).Nodup) :
    Facts.ofJson? (.object members) = some f := by
  rw [ofJson?, fields?_of_subset rfl hsub hnodup]
  simp [Facts.members]

theorem writable_members (f : Facts) : ∀ m ∈ f.members, m.2.Writable := by
  simp [members]

theorem plain_members (f : Facts) : ∀ m ∈ f.members, m.2.Plain := by
  have hcomplexity := plain_ofNat (f.complexity.toNat_lt.trans (by decide))
  simp [members, plain_string, plain_ofTexts, hcomplexity]

theorem recovers (f : Facts) : Recovers Facts.ofJson? f.toJson f :=
  (Writable.object f.writable_members).recovers
    (f.ofJson?_of_subset (List.Subset.refl _) (by simp [members]))

end Facts

namespace Metrics

/-- The metrics are read from any object that has their members among others. -/
theorem ofJson?_of_subset (m : Metrics) (hratio : ReadsBack m.commentRatio)
    {members : List (String × Json)} (hsub : m.members ⊆ members)
    (hnodup : (members.map (·.1)).Nodup) : Metrics.ofJson? (.object members) = some m := by
  have hvalue := hratio.numeral.2
  rw [ofJson?, fields?_of_subset rfl hsub hnodup]
  simp [Metrics.members, hvalue]

theorem writable_members (m : Metrics) : ∀ x ∈ m.members, x.2.Writable := by
  simp [members]

theorem plain_members (m : Metrics) (hratio : ReadsBack m.commentRatio) :
    ∀ x ∈ m.members, x.2.Plain := by
  have hcount : ∀ n : UInt32, Plain (ofNat n.toNat) := fun n ↦
    plain_ofNat (n.toNat_lt.trans (by decide))
  simp [members, plain_ofTexts, hcount, hratio.plain]

theorem recovers (m : Metrics) (hratio : ReadsBack m.commentRatio) :
    Recovers Metrics.ofJson? m.toJson m :=
  (Writable.object m.writable_members).recovers
    (m.ofJson?_of_subset hratio (List.Subset.refl _) (by simp [members]))

end Metrics

/-! ## Analyses -/

namespace Analysis

/-- The names of facts, metrics and the analysis itself do not collide. -/
theorem nodup_members (a : Analysis) : (a.members.map (·.1)).Nodup := by
  simp [members, Facts.members, Metrics.members]

/-- What is left for facts and metrics are all their members and nothing else. -/
theorem inner_members (a : Analysis) :
    inner a.members = a.facts.members ++ a.metrics.members := by
  simp [inner, members, Facts.members, Metrics.members, schema]

theorem writable_toJson (a : Analysis) : a.toJson.Writable := by
  have hmetadata : (a.metadata.toJson Json.string).Writable :=
    Dictionary.writable_toJson Writable.string a.metadata
  apply Writable.object
  rw [members, List.forall_mem_append, List.forall_mem_append]
  refine ⟨⟨a.facts.writable_members, a.metrics.writable_members⟩, ?_⟩
  simp [hmetadata]

theorem ofJson?_toJson (a : Analysis) (hratio : ReadsBack a.metrics.commentRatio) :
    Analysis.ofJson? a.toJson = some a := by
  have hinner : ((a.facts.members ++ a.metrics.members).map (·.1)).Nodup := by
    simp [Facts.members, Metrics.members]
  have hfacts : Facts.ofJson? (.object (inner a.members)) = some a.facts := by
    rw [inner_members]
    exact a.facts.ofJson?_of_subset (List.subset_append_left _ _) hinner
  have hmetrics : Metrics.ofJson? (.object (inner a.members)) = some a.metrics := by
    rw [inner_members]
    exact a.metrics.ofJson?_of_subset hratio (List.subset_append_right _ _) hinner
  have hheld : (Json.object (inner a.members)).isHoldable = true := by
    apply isHoldable_of_plain
    rw [inner_members, List.forall_mem_append]
    exact ⟨a.facts.plain_members, a.metrics.plain_members hratio⟩
  have hmetadata : Dictionary.ofJson? text? (a.metadata.toJson Json.string) = some a.metadata :=
    Dictionary.ofJson?_toJson text?_string a.metadata
  have hfields : (Json.object a.members).fields? schema =
      some [some (.ofNat a.qualityScore.toNat), some (.ofText? a.commentary),
        some (.ofText? a.filePath), some (.ofText? a.fileName),
        some (a.metadata.toJson Json.string)] :=
    fields?_of_subset rfl (List.subset_append_right _ _) a.nodup_members
  rw [toJson, ofJson?]
  simp [hheld, hfields, hfacts, hmetrics, hmetadata]

end Analysis

theorem Verdict.writable_toJson (v : Verdict) : v.toJson.Writable := by
  simp [toJson]

theorem Verdict.recovers (v : Verdict) : Recovers Verdict.ofJson? v.toJson v := by
  apply v.writable_toJson.recovers
  rw [ofJson?, toJson, fields?_of_names rfl (by simp)]
  simp

theorem AnalysisStats.recovers (s : AnalysisStats) :
    Recovers AnalysisStats.ofJson? s.toJson s := by
  have hwritable := Dictionary.writable_toJson Writable.bool s.features
  have hfeatures : Dictionary.ofJson? flag? (s.features.toJson Json.bool) = some s.features :=
    Dictionary.ofJson?_toJson flag?_bool s.features
  apply Writable.recovers
  · simp [toJson, hwritable]
  · rw [ofJson?, toJson, fields?_of_names rfl (by simp)]
    simp [hfeatures]

/-! ## All types -/

/-- Every value of a type with a JSON form is read back from both layouts of that form, where a
binary number must be one that its own text is read as. In the flat form of an analysis no two
members share a name, and those of its facts and metrics are all there. -/
theorem values_survive_writing :
    (∀ c : Chunk, Recovers Chunk.ofJson? c.toJson c) ∧
    (∀ m : Model, Recovers Model.ofJson? m.toJson m) ∧
    (∀ d : ModelDetails, Recovers ModelDetails.ofJson? d.toJson d) ∧
    (∀ f : Facts, Recovers Facts.ofJson? f.toJson f) ∧
    (∀ m : Metrics, ReadsBack m.commentRatio → Recovers Metrics.ofJson? m.toJson m) ∧
    (∀ a : Analysis, ReadsBack a.metrics.commentRatio →
      Recovers Analysis.ofJson? a.toJson a ∧ (a.members.map (·.1)).Nodup ∧
        Analysis.inner a.members = a.facts.members ++ a.metrics.members) ∧
    (∀ v : Verdict, Recovers Verdict.ofJson? v.toJson v) ∧
    (∀ s : AnalysisStats, Recovers AnalysisStats.ofJson? s.toJson s) ∧
    ∀ s : AssistantStatus, Recovers AssistantStatus.ofJson? s.toJson s := by
  refine ⟨Chunk.recovers, ?_, ModelDetails.recovers, Facts.recovers, Metrics.recovers, ?_,
    Verdict.recovers, AnalysisStats.recovers, AssistantStatus.recovers⟩
  · intro m
    exact m.writable_toJson.recovers m.ofJson?_toJson
  · intro a hratio
    have hrecovers := a.writable_toJson.recovers (a.ofJson?_toJson hratio)
    exact ⟨hrecovers, a.nodup_members, a.inner_members⟩

/-- An analysis with a third for its ratio, the greatest counts, and entries of its own that are
named like its members. -/
theorem values_survive_writing_flat :
    let a : Analysis := {
      facts := ⟨"rust", ["use é;\n"], ["f", "\"g\""], [], 0xFFFFFFFF⟩
      metrics := ⟨3, 1, Metrics.ratio 1 3, 0, 1, ["\x01"], []⟩
      qualityScore := 255
      commentary := none
      filePath := some "src/é.rs"
      fileName := some ""
      metadata := .ofList [("metadata", "null"), ("language", "\\")] }
    ReadsBack a.metrics.commentRatio ∧ Recovers Analysis.ofJson? a.toJson a := by
  intro a
  have hratio : ReadsBack a.metrics.commentRatio := by decide +kernel
  obtain ⟨-, -, -, -, -, hanalysis, -⟩ := values_survive_writing
  exact ⟨hratio, (hanalysis a hratio).1⟩

end CodeMentor
