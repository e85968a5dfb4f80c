import CodeMentor.Json.Record

/-!
# Models and pieces of generated text

What the backend says about its models and the chunks in which it delivers text, with their JSON
forms.
-/

namespace CodeMentor

/-- A model installed on the backend. -/
structure Model where
  name : String
  /-- The size on disk in bytes. -/
  size : Option UInt64
  /-- When it was last changed, in the words of the backend. -/
  modifiedAt : Option String
deriving DecidableEq, Repr

namespace Model

def toJson (m : Model) : Json :=
  .object
    [("name", .string m.name), ("size", (m.size.map fun n => Json.ofNat n.toNat).getD .null),
     ("modified_at", .ofText? m.modifiedAt)]

def schema : Json.Schema :=
  [("name", .required), ("size", .defaulted), ("modified_at", .defaulted)]

def ofJson? (j : Json) : Option Model := do
  match ← j.fields? schema with
  | [some name, size, modifiedAt] =>
    return {
      name := ← name.text?
      size := ← Json.absent? Json.uint64? size
      modifiedAt := ← Json.absent? Json.text? modifiedAt }
  | _ => none

end Model

structure ModelDetails where
  name : String
  family : Option String
  format : Option String
  parameterSize : Option String
  quantizationLevel : Option String
  license : Option String
  template : Option String
deriving DecidableEq, Repr

namespace ModelDetails

def toJson (d : ModelDetails) : Json :=
  .object
    [("name", .string d.name), ("family", .ofText? d.family), ("format", .ofText? d.format),
     ("parameter_size", .ofText? d.parameterSize),
     ("quantization_level", .ofText? d.quantizationLevel), ("license", .ofText? d.license),
     ("template", .ofText? d.template)]

def schema : Json.Schema :=
  [("name", .required), ("family", .nullable), ("format", .nullable),
   ("parameter_size", .nullable), ("quantization_level", .nullable), ("license", .nullable),
   ("template", .nullable)]

def ofJson? (j : Json) : Option ModelDetails := do
  match ← j.fields? schema with
  | [some name, family, format, parameterSize, quantizationLevel, license, template] =>
    return {
      name := ← name.text?
      family := ← Json.absent? Json.text? family
      format := ← Json.absent? Json.text? format
      parameterSize := ← Json.absent? Json.text? parameterSize
      quantizationLevel := ← Json.absent? Json.text? quantizationLevel
      license := ← Json.absent? Json.text? license
      template := ← Json.absent? Json.text? template }
  | _ => none

end ModelDetails

/-- A piece of generated text. -/
structure Chunk where
  response : String
  /-- Whether nothing follows. -/
  done : Bool
deriving DecidableEq, Repr

namespace Chunk

def toJson (c : Chunk) : Json :=
  .object [("response", .string c.response), ("done", .bool c.done)]

def schema : Json.Schema :=
  [("response", .defaulted), ("done", .defaulted)]

def ofJson? (j : Json) : Option Chunk := do
  match ← j.fields? schema with
  | [response, done] =>
    return {
      response := ← Json.orElse? "" Json.text? response
      done := ← Json.orElse? false Json.flag? done }
  | _ => none

end Chunk

end CodeMentor
