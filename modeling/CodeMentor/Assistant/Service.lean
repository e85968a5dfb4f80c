import CodeMentor.Assistant.Prompt
import CodeMentor.Backend.Client

/-!
# The assistant

Questions about programming, answered by the model. An operation first checks its texts, then probes
the backend, and only then builds and sends its request.
-/

namespace CodeMentor

/-- What is known of the backend at some moment. -/
structure AssistantStatus where
  connected : Bool
  defaultModel : String
  availableModels : List Model
deriving DecidableEq, Repr

namespace AssistantStatus

def toJson (s : AssistantStatus) : Json :=
  .object
    [("connected", .bool s.connected), ("default_model", .string s.defaultModel),
     ("available_models", .array (s.availableModels.map Model.toJson))]

def schema : Json.Schema :=
  [("connected", .required), ("default_model", .required), ("available_models", .required)]

def ofJson? (j : Json) : Option AssistantStatus := do
  match ← j.fields? schema with
  | [some connected, some defaultModel, some availableModels] =>
    return {
      connected := ← connected.flag?
      defaultModel := ← defaultModel.text?
      availableModels := ← availableModels.list? Model.ofJson? }
  | _ => none

end AssistantStatus

structure Assistant (σ : Type) where
  client : Client σ
  config : Config

namespace Assistant

variable {σ : Type}

def ofConfig (transport : Transport σ) (config : Config) : Assistant σ :=
  ⟨.ofConfig transport config, config⟩

def requireText (field value : String) : Except Error Unit :=
  if blank value then .error (.invalidInput s!"{field} must not be empty") else .ok ()

/-- The failure of a probe. -/
def disconnected (a : Assistant σ) : Error :=
  .unreachable 1 s!"cannot reach model backend at {a.config.baseUrl}"

/-- Probe the backend, then draft and build a request and send it. -/
def send {α : Type} (a : Assistant σ) (draft : Draft)
    (call : Request → Session σ (Except Error α)) : Session σ (Except Error α) := do
  if ← a.client.checkConnection then
    match draft.build with
    | .error e => return .error e
    | .ok request => call request
  else return .error a.disconnected

def complete (a : Assistant σ) (prompt : String) (model : Option String) :
    Session σ (Except Error String) :=
  a.send (a.config.draft prompt model) a.client.generateText

/-- Do something if a check holds. -/
def checked {α : Type} (check : Except Error Unit) (act : Session σ (Except Error α)) :
    Session σ (Except Error α) :=
  match check with
  | .error e => return .error e
  | .ok () => act

def ask (a : Assistant σ) (question : String) (model context : Option String) :
    Session σ (Except Error String) :=
  checked (requireText "question" question)
    (a.complete (Prompt.ask question context a.config.replyLanguage) model)

def askStream (a : Assistant σ) (question : String) (model context : Option String) :
    Session σ (Except Error FragmentStream) :=
  checked (requireText "question" question)
    (a.send
      { a.config.draft (Prompt.ask question context a.config.replyLanguage) model with
        streaming := true }
      a.client.generateStream)

def codingHelp (a : Assistant σ) (question : String) (language model : Option String) :
    Session σ (Except Error String) :=
  checked (requireText "question" question)
    (a.complete (Prompt.codingHelp question language a.config.replyLanguage) model)

def explain (a : Assistant σ) (code : String) (language model : Option String) :
    Session σ (Except Error String) :=
  checked (requireText "code" code)
    (a.complete (Prompt.explain code language a.config.replyLanguage) model)

/-- Find the cause of an error, or review code. -/
def debug (a : Assistant σ) (code : String) (errorMessage language model : Option String) :
    Session σ (Except Error String) :=
  checked (requireText "code" code)
    (a.complete (Prompt.debug code errorMessage language a.config.replyLanguage) model)

def generate (a : Assistant σ) (description language : String) (model : Option String) :
    Session σ (Except Error String) :=
  checked (requireText "description" description)
    (checked (requireText "language" language)
      (a.complete (Prompt.generate description language a.config.replyLanguage) model))

def models (a : Assistant σ) : Session σ (Except Error (List Model)) :=
  a.client.listModels

/-- The details of one model; none if it is not installed. -/
def modelInfo (a : Assistant σ) (name : String) :
    Session σ (Except Error (Option ModelDetails)) :=
  checked (requireText "model name" name) (a.client.modelInfo name)

/-- Probe the backend and list its models if it answers; a failed listing is empty. -/
def status (a : Assistant σ) : Session σ AssistantStatus := do
  let connected ← a.client.checkConnection
  let models ← if connected then a.client.listModels else pure (.ok [])
  return {
    connected
    defaultModel := a.config.defaultModel
    availableModels := match models with
      | .ok models => models
      | .error _ => [] }

end Assistant

end CodeMentor
