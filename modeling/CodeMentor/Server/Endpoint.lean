import CodeMentor.Server.Uri

/-!
# Endpoints

What the server offers: fifteen endpoints, each with a method and a path in which one segment may be
a variable, and the names of the types that occur in its interface.
-/

namespace CodeMentor.Server

inductive Endpoint where
  | root
  | analyze
  | analyzeFile
  | quality
  | ask
  | askStream
  | debug
  | explain
  | generate
  | health
  | languages
  | models
  | modelDetails
  | openapi
  | stats
deriving DecidableEq, Repr

namespace Endpoint

/-- Every endpoint, in the order of the paths. -/
def all : List Endpoint :=
  [root, analyze, analyzeFile, quality, ask, askStream, debug, explain, generate, health,
   languages, models, modelDetails, openapi, stats]

def method : Endpoint → String
  | analyze | analyzeFile | ask | askStream | debug | explain | generate => "POST"
  | _ => "GET"

/-- A segment of a path: fixed, or a variable with a name. -/
inductive Segment where
  | fixed (text : String)
  | variable (name : String)
deriving DecidableEq, Repr

def segments : Endpoint → List Segment
  | root => [.fixed ""]
  | analyze => [.fixed "analyze"]
  | analyzeFile => [.fixed "analyze", .fixed "file"]
  | quality => [.fixed "analyze", .fixed "quality", .variable "threshold"]
  | ask => [.fixed "ask"]
  | askStream => [.fixed "ask", .fixed "stream"]
  | debug => [.fixed "debug"]
  | explain => [.fixed "explain"]
  | generate => [.fixed "generate"]
  | health => [.fixed "health"]
  | languages => [.fixed "languages"]
  | models => [.fixed "models"]
  | modelDetails => [.fixed "models", .variable "name"]
  | openapi => [.fixed "openapi.json"]
  | stats => [.fixed "stats"]

def Segment.text : Segment → String
  | .fixed text => text
  | .variable name => "\x7b" ++ name ++ "\x7d"

def path (e : Endpoint) : String :=
  String.join (e.segments.map fun s => "/" ++ s.text)

/-- The values of the variables if the segments fit a path. A variable is never empty, and the
escapes that are left in its segment are resolved. -/
def fit? : List Segment → List String → Option (List String)
  | [], [] => some []
  | .fixed text :: path, segment :: rest => if text = segment then fit? path rest else none
  | .variable _ :: path, segment :: rest =>
    if segment.isEmpty then none
    else (fit? path rest).map (Text.percentDecode segment.toList :: ·)
  | _, _ => none

/-- The endpoint of a request and the values of its variables. -/
def find? (method : String) (segments : List String) : Option (Endpoint × List String) :=
  all.findSome? fun e =>
    if e.method = method then (fit? e.segments segments).map fun values => (e, values) else none

end Endpoint

def schemaNames : List String :=
  ["AnalysisMetrics", "AnalysisResult", "AnalysisStats", "AnalyzeRequest", "AssistantStatus",
   "CodeExplainRequest", "CodeGenerateRequest", "DebugRequest", "ErrorResponse",
   "HealthResponse", "LanguagesResponse", "ModelDescriptor", "ModelDetails", "ModelsResponse",
   "QualityVerdict", "QuestionRequest", "QuestionResponse", "RootResponse", "StatsResponse",
   "StructuralFacts", "SystemInfo"]

end CodeMentor.Server
