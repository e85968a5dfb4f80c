import CodeMentor.Analysis.Metrics

/-!
# Analyses

An analysis as it is handed to callers: facts, metrics and score, optional commentary and the file
it belongs to. Its JSON form is one flat object. When it is read back, members that belong to
neither part are held as whole values first, so they must be of moderate depth and their numbers
finite.
-/

namespace CodeMentor

/-- A finished analysis. -/
structure Analysis where
  facts : Facts
  metrics : Metrics
  qualityScore : UInt8
  commentary : Option String
  filePath : Option String
  fileName : Option String
  metadata : Dictionary String
deriving DecidableEq

namespace Analysis

def members (a : Analysis) : List (String × Json) :=
  a.facts.members ++ a.metrics.members ++
    [("quality_score", .ofNat a.qualityScore.toNat), ("ai_analysis", .ofText? a.commentary),
     ("file_path", .ofText? a.filePath), ("file_name", .ofText? a.fileName),
     ("metadata", a.metadata.toJson .string)]

def toJson (a : Analysis) : Json :=
  .object a.members

/-- The fields that belong to neither facts nor metrics. -/
def schema : Json.Schema :=
  [("quality_score", .required), ("ai_analysis", .nullable), ("file_path", .nullable),
   ("file_name", .nullable), ("metadata", .required)]

/-- The members that are not fields of the analysis itself. -/
def inner (members : List (String × Json)) : List (String × Json) :=
  members.filter fun m => !(schema.map (·.1)).contains m.1

def ofJson? : Json → Option Analysis
  | .object members => do
    let rest := Json.object (inner members)
    if !rest.isHoldable then none
    else
      match ← (Json.object members).fields? schema with
      | [some qualityScore, commentary, filePath, fileName, some metadata] =>
        return {
          facts := ← Facts.ofJson? rest
          metrics := ← Metrics.ofJson? rest
          qualityScore := ← qualityScore.uint8?
          commentary := ← Json.absent? Json.text? commentary
          filePath := ← Json.absent? Json.text? filePath
          fileName := ← Json.absent? Json.text? fileName
          metadata := ← Dictionary.ofJson? Json.text? metadata }
      | _ => none
  | _ => none

end Analysis

end CodeMentor
