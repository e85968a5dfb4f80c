import CodeMentor.Backend.Request

/-!
# Configuration

How the backend is reached and used. A configuration is read from named variables, normalised and
checked; the first fault in a fixed order is reported.
-/

namespace CodeMentor

/-- The settings shared by everything that talks to the backend. -/
structure Config where
  baseUrl : String
  /-- The model used when a call names none. -/
  defaultModel : String
  /-- How often a generation is attempted at most. -/
  maxRetries : UInt32
  /-- The pause after the first failure; it doubles after each one. -/
  retryDelay : Duration
  /-- How long a generation may take, and how long a stream may be silent. -/
  requestTimeout : Duration
  probeTimeout : Duration
  replyLanguage : Option String
deriving DecidableEq

namespace Config

/-- The configuration without any variables. -/
def standard : Config where
  baseUrl := "http://localhost:11434"
  defaultModel := "codellama"
  maxRetries := 3
  retryDelay := .ofSeconds 1
  requestTimeout := .ofSeconds defaultTimeoutSeconds
  probeTimeout := .ofSeconds 5
  replyLanguage := none

def validate (c : Config) : Except Error Config :=
  let url := dropEndChar (trim c.baseUrl) '/'
  let model := trim c.defaultModel
  if url.isEmpty then .error (.invalidInput "backend url is required")
  else if !startsWith url "http://" && !startsWith url "https://" then
    .error (.invalidInput s!"backend url must start with http:// or https://: {url}")
  else if model.isEmpty then .error (.invalidInput "default model must not be empty")
  else if c.maxRetries = 0 then .error (.invalidInput "max retries must be at least 1")
  else if c.requestTimeout.isZero || c.probeTimeout.isZero then
    .error (.invalidInput "timeouts must be positive")
  else .ok { c with baseUrl := url, defaultModel := model }

/-- The natural number below `bound` that a text of ASCII digits stands for; a plus sign may stand
before them. -/
def number? (bound : Nat) (text : String) : Option Nat :=
  let digits := match text.toList with
    | '+' :: rest => rest
    | cs => cs
  if digits.isEmpty || !digits.all Char.isDigit then none
  else some (digits.foldl (fun n c => n * 10 + (c.toNat - 48)) 0) |>.filter (· < bound)

/-- The trimmed value of a variable, unless it is missing or blank. -/
def read (lookup : String → Option String) (name : String) : Option String :=
  (lookup name).bind trimmed?

def readNumber (lookup : String → Option String) (name : String) (bound : Nat) :
    Except Error (Option Nat) :=
  match read lookup name with
  | none => .ok none
  | some raw =>
    match number? bound raw with
    | some n => .ok (some n)
    | none => .error (.invalidInput s!"{name} must be a number, got {raw}")

/-- The whole seconds that a variable holds, if it is set. -/
def readSeconds (lookup : String → Option String) (name : String) (default : Duration) :
    Except Error Duration :=
  (readNumber lookup name UInt64.size).map fun n =>
    (n.map fun n => Duration.ofSeconds (UInt64.ofNat n)).getD default

def variableNames : List String :=
  ["OLLAMA_API_URL", "EDUCATOR_MODEL", "EDUCATOR_MAX_RETRIES", "EDUCATOR_RETRY_DELAY_SECS",
   "EDUCATOR_TIMEOUT_SECS", "EDUCATOR_PROBE_TIMEOUT_SECS", "EDUCATOR_REPLY_LANGUAGE"]

def ofLookup (lookup : String → Option String) : Except Error Config := do
  let maxRetries ← readNumber lookup "EDUCATOR_MAX_RETRIES" UInt32.size
  let retryDelay ← readSeconds lookup "EDUCATOR_RETRY_DELAY_SECS" standard.retryDelay
  let requestTimeout ← readSeconds lookup "EDUCATOR_TIMEOUT_SECS" standard.requestTimeout
  let probeTimeout ← readSeconds lookup "EDUCATOR_PROBE_TIMEOUT_SECS" standard.probeTimeout
  validate {
    baseUrl := (read lookup "OLLAMA_API_URL").getD standard.baseUrl
    defaultModel := (read lookup "EDUCATOR_MODEL").getD standard.defaultModel
    maxRetries := (maxRetries.map UInt32.ofNat).getD standard.maxRetries
    retryDelay, requestTimeout, probeTimeout
    replyLanguage := read lookup "EDUCATOR_REPLY_LANGUAGE" }

/-- The model of a call: the one it names, unless that is blank, or the default. -/
def modelFor (c : Config) (model : Option String) : String :=
  (model.bind trimmed?).getD c.defaultModel

def draft (c : Config) (prompt : String) (model : Option String) : Draft :=
  { Draft.new prompt (c.modelFor model) with timeoutSeconds := c.requestTimeout.seconds }

end Config

end CodeMentor
