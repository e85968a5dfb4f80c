import CodeMentor.Backend.Config
import CodeMentor.Backend.Retry
import CodeMentor.Backend.Stream

/-!
# The client

Calls of the backend with their answers understood. Only generation is attempted more than once; a
probe takes every failure for "not connected".
-/

namespace CodeMentor

/-- Read a body as a JSON value of some type; `what` names the body in the failure. -/
def readBody {α : Type} (what : String) (ofJson? : Json → Option α) (body : String) :
    Except Error α :=
  match (Json.parse? body).bind ofJson? with
  | some value => .ok value
  | none => .error (.malformed s!"{what}: unexpected content")

def modelListing? (j : Json) : Option (List Model) := do
  match ← j.fields? [("models", .defaulted)] with
  | [models] => Json.orElse? [] (Json.list? Model.ofJson?) models
  | _ => none

structure GenerateReply where
  response : Option String
  error : Option String
deriving DecidableEq, Repr

def GenerateReply.ofJson? (j : Json) : Option GenerateReply := do
  match ← j.fields? [("response", .defaulted), ("error", .defaulted)] with
  | [response, error] =>
    return {
      response := ← Json.absent? Json.text? response
      error := ← Json.absent? Json.text? error }
  | _ => none

/-- The text of a buffered answer. An error that the backend reports comes before everything. -/
def readGeneration (body : String) : Except Error String := do
  let reply ← readBody "generation" GenerateReply.ofJson? body
  match reply.error, reply.response with
  | some message, _ => .error (.reported message)
  | none, some text => .ok text
  | none, none => .error (.malformed "generation reply has no response field")

structure ShowDetails where
  family : Option String
  format : Option String
  parameterSize : Option String
  quantizationLevel : Option String
deriving DecidableEq, Repr

def ShowDetails.ofJson? (j : Json) : Option ShowDetails := do
  match ← j.fields? [("family", .nullable), ("format", .nullable),
      ("parameter_size", .nullable), ("quantization_level", .nullable)] with
  | [family, format, parameterSize, quantizationLevel] =>
    return {
      family := ← Json.absent? Json.text? family
      format := ← Json.absent? Json.text? format
      parameterSize := ← Json.absent? Json.text? parameterSize
      quantizationLevel := ← Json.absent? Json.text? quantizationLevel }
  | _ => none

def modelDetails? (name : String) (j : Json) : Option ModelDetails := do
  match ← j.fields? [("license", .defaulted), ("template", .defaulted),
      ("details", .defaulted)] with
  | [license, template, details] =>
    let license ← Json.absent? Json.text? license
    let template ← Json.absent? Json.text? template
    let details ← Json.absent? ShowDetails.ofJson? details
    let details := details.getD ⟨none, none, none, none⟩
    return {
      name, license, template
      family := details.family
      format := details.format
      parameterSize := details.parameterSize
      quantizationLevel := details.quantizationLevel }
  | _ => none

/-- Generated text, complete or still to come. -/
inductive Generation where
  | text (whole : String)
  | stream (fragments : FragmentStream)

def Generation.intoText : Generation → Except Error String
  | .text whole => .ok whole
  | .stream fragments => fragments.collect

structure Client (σ : Type) where
  transport : Transport σ
  policy : RetryPolicy
  probeTimeout : Duration
  requestTimeout : Duration

namespace Client

variable {σ : Type}

def ofConfig (transport : Transport σ) (config : Config) : Client σ where
  transport
  policy := .new config.maxRetries config.retryDelay
  probeTimeout := config.probeTimeout
  requestTimeout := config.requestTimeout

def checkConnection (c : Client σ) : Session σ Bool := do
  return (← Session.tags c.transport c.probeTimeout).isOk

/-- The installed models, in one attempt. -/
def listModels (c : Client σ) : Session σ (Except Error (List Model)) := do
  match ← Session.tags c.transport c.requestTimeout with
  | .error e => return .error (.unreachable 1 e.message)
  | .ok body => return readBody "model listing" modelListing? body

/-- The details of one model; none if the backend does not know it. -/
def modelInfo (c : Client σ) (name : String) : Session σ (Except Error (Option ModelDetails)) := do
  match ← Session.describe c.transport name c.requestTimeout with
  | .error (.status 404 _) => return .ok none
  | .error e => return .error (e.toError 1)
  | .ok body => return (readBody "model details" (modelDetails? name) body).map some

def generateText (c : Client σ) (request : Request) : Session σ (Except Error String) := do
  let payload : Payload := ⟨request.model, request.prompt, false⟩
  let body ← c.policy.run Session.sleep fun _ => do
    return (← Session.generate c.transport payload request.timeout).mapError .ofTransport
  return body.bind readGeneration

/-- Open a stream of generated text. Once it is open, every failure is final. -/
def generateStream (c : Client σ) (request : Request) :
    Session σ (Except Error FragmentStream) := do
  let payload : Payload := ⟨request.model, request.prompt, true⟩
  let bytes ← c.policy.run Session.sleep fun _ => do
    return (← Session.stream c.transport payload request.timeout).mapError .ofTransport
  return bytes.map fun bytes => .new bytes request.timeout

def generate (c : Client σ) (request : Request) : Session σ (Except Error Generation) := do
  if request.streaming then return (← c.generateStream request).map .stream
  else return (← c.generateText request).map .text

end Client

end CodeMentor
