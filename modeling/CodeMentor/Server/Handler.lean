import CodeMentor.Analysis.Gate
import CodeMentor.Analysis.Service
import CodeMentor.Assistant.Service
import CodeMentor.Json.Printer
import CodeMentor.Server.Endpoint
import CodeMentor.Server.MediaType

/-!
# Handling requests

A request is routed to an endpoint, its arguments are read, and the services do the work. A request
that names no endpoint or whose arguments cannot be read is refused before any handler sees it; a
failure of a service becomes an answer with the status of its cause.
-/

namespace CodeMentor.Server

open CodeMentor.Text

structure Call where
  method : String
  uri : String
  contentType : Option String
  body : List UInt8

inductive Response where
  | json (status : Nat) (body : Json)
  /-- Text as it is generated. -/
  | stream (fragments : FragmentStream)
  /-- The description of the interface. -/
  | document
  /-- Refused without a look at the request's meaning. -/
  | refused (status : Nat)

def version : String := "0.0.1"

def statusOf : Error → Nat
  | .invalidInput _ | .encoding _ => 400
  | .unreachable .. => 503
  | .rejected .. | .malformed _ => 502
  | .analysisFailed _ | .io _ => 500

def messageJson (message : String) : Json :=
  .object [("message", .string message)]

def failure (e : Error) : Response :=
  .json (statusOf e) (messageJson e.message)

def respond {α : Type} (value : α → Json) : Except Error α → Response
  | .ok a => .json 200 (value a)
  | .error e => failure e

structure QuestionRequest where
  question : String
  model : Option String
  language : Option String
  context : Option String
deriving DecidableEq, Repr

def QuestionRequest.ofJson? (j : Json) : Option QuestionRequest := do
  match ← j.fields? [("question", .required), ("model", .nullable), ("language", .nullable),
      ("context", .nullable)] with
  | [some question, model, language, context] =>
    return {
      question := ← question.text?
      model := ← Json.absent? Json.text? model
      language := ← Json.absent? Json.text? language
      context := ← Json.absent? Json.text? context }
  | _ => none

structure ExplainRequest where
  code : String
  language : Option String
  model : Option String
deriving DecidableEq, Repr

def ExplainRequest.ofJson? (j : Json) : Option ExplainRequest := do
  match ← j.fields? [("code", .required), ("language", .nullable), ("model", .nullable)] with
  | [some code, language, model] =>
    return {
      code := ← code.text?
      language := ← Json.absent? Json.text? language
      model := ← Json.absent? Json.text? model }
  | _ => none

structure GenerateRequest where
  description : String
  language : String
  model : Option String
deriving DecidableEq, Repr

def GenerateRequest.ofJson? (j : Json) : Option GenerateRequest := do
  match ← j.fields? [("description", .required), ("language", .required),
      ("model", .nullable)] with
  | [some description, some language, model] =>
    return {
      description := ← description.text?
      language := ← language.text?
      model := ← Json.absent? Json.text? model }
  | _ => none

structure DebugRequest where
  code : String
  errorMessage : Option String
  language : Option String
  model : Option String
deriving DecidableEq, Repr

def DebugRequest.ofJson? (j : Json) : Option DebugRequest := do
  match ← j.fields? [("code", .required), ("error_message", .nullable), ("language", .nullable),
      ("model", .nullable)] with
  | [some code, errorMessage, language, model] =>
    return {
      code := ← code.text?
      errorMessage := ← Json.absent? Json.text? errorMessage
      language := ← Json.absent? Json.text? language
      model := ← Json.absent? Json.text? model }
  | _ => none

structure AnalyzeRequest where
  code : String
  aiAnalysis : Bool
  model : Option String
deriving DecidableEq, Repr

def AnalyzeRequest.ofJson? (j : Json) : Option AnalyzeRequest := do
  match ← j.fields? [("code", .required), ("ai_analysis", .defaulted), ("model", .nullable)] with
  | [some code, aiAnalysis, model] =>
    return {
      code := ← code.text?
      aiAnalysis := ← Json.orElse? false Json.flag? aiAnalysis
      model := ← Json.absent? Json.text? model }
  | _ => none

/-- What a query says about an uploaded file. -/
structure UploadQuery where
  name : Option String
  aiAnalysis : Bool
  model : Option String
deriving DecidableEq, Repr

def UploadQuery.ofQuery? (query : List (String × String)) : Option UploadQuery := do
  let aiAnalysis ← match ← queryField? query "ai_analysis" with
    | some text => queryFlag? text
    | none => some false
  return {
    name := ← queryField? query "name"
    aiAnalysis
    model := ← queryField? query "model" }

/-- The services behind the server. -/
structure State (σ : Type) where
  analysis : AnalysisService σ
  assistant : Assistant σ

variable {σ : Type}

def State.ofConfig (analyzer : Analyzer) (transport : Transport σ) (config : Config) : State σ :=
  ⟨.ofConfig analyzer transport config, .ofConfig transport config⟩

/-- An answer of the assistant with the model it came from. -/
def answered (model : String) (result : Except Error String) : Response :=
  respond (fun text =>
    .object [("response", .string text), ("model_used", .string model)]) result

def State.modelUsed (s : State σ) (model : Option String) : String :=
  s.assistant.config.modelFor model

/-- Answer a question; one with a language is a programming question. -/
def State.ask (s : State σ) (r : QuestionRequest) : Session σ Response := do
  let result ← match r.language.filter (!blank ·) with
    | some language => s.assistant.codingHelp r.question (some language) r.model
    | none => s.assistant.ask r.question r.model r.context
  return answered (s.modelUsed r.model) result

def State.askStream (s : State σ) (r : QuestionRequest) : Session σ Response := do
  match ← s.assistant.askStream r.question r.model r.context with
  | .ok fragments => return .stream fragments
  | .error e => return failure e

def State.explain (s : State σ) (r : ExplainRequest) : Session σ Response := do
  return answered (s.modelUsed r.model) (← s.assistant.explain r.code r.language r.model)

def State.generate (s : State σ) (r : GenerateRequest) : Session σ Response := do
  return answered (s.modelUsed r.model)
    (← s.assistant.generate r.description r.language r.model)

def State.debug (s : State σ) (r : DebugRequest) : Session σ Response := do
  return answered (s.modelUsed r.model)
    (← s.assistant.debug r.code r.errorMessage r.language r.model)

def State.analyze (s : State σ) (r : AnalyzeRequest) : Session σ Response := do
  return respond Analysis.toJson (← s.analysis.analyze r.code r.aiAnalysis r.model)

def State.analyzeUpload (s : State σ) (q : UploadQuery) (body : List UInt8) :
    Session σ Response := do
  match Utf8.decode body with
  | .error fault =>
    return failure (.encoding s!"upload is not valid UTF-8: {fault.message}")
  | .ok code =>
    let result ← s.analysis.analyze code q.aiAnalysis q.model
    return respond (fun a => Analysis.toJson { a with fileName := q.name }) result

/-- Hold code against a threshold. -/
def State.quality (s : State σ) (threshold : UInt8) (code : String) : Session σ Response := do
  let result ← s.analysis.analyze code false none
  return respond (fun a => (a.verdict threshold).toJson) result

def State.health (s : State σ) (now : String) : Session σ Response := do
  let status ← s.assistant.status
  let stats := s.analysis.stats
  return .json 200 (.object
    [("status", .string "healthy"), ("ollama_connected", .bool status.connected),
     ("core_module", .bool stats.coreModuleAvailable),
     ("supported_languages", .ofTexts stats.supportedLanguages),
     ("features", stats.features.toJson .bool), ("timestamp", .string now)])

def State.models (s : State σ) : Session σ Response := do
  return respond (fun models => .object [("models", .array (models.map Model.toJson))])
    (← s.assistant.models)

def State.modelDetails (s : State σ) (name : String) : Session σ Response := do
  match ← s.assistant.modelInfo name with
  | .ok (some details) => return .json 200 details.toJson
  | .ok none => return .json 404 (messageJson s!"model {name} not found")
  | .error e => return failure e

def State.stats (s : State σ) : Session σ Response := do
  let status ← s.assistant.status
  return .json 200 (.object
    [("ai_service", status.toJson), ("code_analysis", s.analysis.stats.toJson),
     ("system", .object
       [("api_version", .string version), ("endpoints", .ofNat Endpoint.all.length)])])

def State.languages (s : State σ) : Response :=
  let stats := s.analysis.stats
  .json 200 (.object
    [("languages", .ofTexts stats.supportedLanguages),
     ("core_module_available", .bool stats.coreModuleAvailable)])

/-- The name of the server and where it is described. -/
def root : Response :=
  .json 200 (.object
    [("message", .string "Code Educator API"), ("version", .string version),
     ("docs", .string "/openapi.json")])

def jsonLimit : Nat := 2 * 1024 * 1024

def uploadLimit : Nat := 256 * 1024

def withJson {α : Type} (call : Call) (ofJson? : Json → Option α)
    (handle : α → Session σ Response) : Session σ Response :=
  if !(call.contentType.bind MediaType.parse?).any MediaType.isJson then return .refused 400
  else if jsonLimit < call.body.length then return .refused 413
  else match (Json.parseBytes? call.body).bind ofJson? with
    | some value => handle value
    | none => return .refused 400

/-- Handle a request whose query has been read. -/
def withQuery {α : Type} (value? : Option α) (handle : α → Session σ Response) :
    Session σ Response :=
  match value? with
  | some value => handle value
  | none => return .refused 400

def State.handle (s : State σ) (now : String) (call : Call) : Session σ Response :=
  let target := Target.parse call.uri
  match Endpoint.find? call.method target.segments with
  | some (.root, _) => return root
  | some (.analyze, _) => withJson call AnalyzeRequest.ofJson? s.analyze
  | some (.analyzeFile, _) =>
    withQuery (UploadQuery.ofQuery? target.query) fun q =>
      if uploadLimit < call.body.length then return .refused 413 else s.analyzeUpload q call.body
  | some (.quality, values) =>
    match (values.head?.bind (Config.number? UInt8.size)).map UInt8.ofNat with
    | some threshold =>
      withQuery ((queryField? target.query "code").bind id) (s.quality threshold)
    | none => return .refused 404
  | some (.ask, _) => withJson call QuestionRequest.ofJson? s.ask
  | some (.askStream, _) => withJson call QuestionRequest.ofJson? s.askStream
  | some (.debug, _) => withJson call DebugRequest.ofJson? s.debug
  | some (.explain, _) => withJson call ExplainRequest.ofJson? s.explain
  | some (.generate, _) => withJson call GenerateRequest.ofJson? s.generate
  | some (.health, _) => s.health now
  | some (.languages, _) => return s.languages
  | some (.models, _) => s.models
  | some (.modelDetails, values) => s.modelDetails (values.headD "")
  | some (.openapi, _) => return .document
  | some (.stats, _) => s.stats
  | none => return .refused 404

end CodeMentor.Server
