import CodeMentor.Text.Quoted

/-!
# Failures

What can go wrong, by cause, with the sentence shown to a user and the form shown in diagnostics.
-/

namespace CodeMentor

inductive IoFailure where
  | system (code : Nat) (kind message : String)
  /-- Described by a sentence alone. -/
  | other (message : String)
deriving DecidableEq, Repr

namespace IoFailure

def message : IoFailure → String
  | .system code _ message => s!"{message} (os error {code})"
  | .other message => message

def debug : IoFailure → String
  | .system code kind message =>
    s!"Os \x7b code: {code}, kind: {kind}, message: " ++ quoted message ++ " \x7d"
  | .other message => "Custom \x7b kind: Other, error: " ++ quoted message ++ " \x7d"

def notFound : IoFailure := .system 2 "NotFound" "No such file or directory"

def isDirectory : IoFailure := .system 21 "IsADirectory" "Is a directory"

def alreadyExists : IoFailure := .system 17 "AlreadyExists" "File exists"

/-- A part of the path that should be a directory is a file. -/
def notDirectory : IoFailure := .system 20 "NotADirectory" "Not a directory"

def nameTooLong : IoFailure := .system 36 "InvalidFilename" "File name too long"

end IoFailure

/-- Why an operation failed. -/
inductive Error where
  /-- The backend could not be reached in the given number of attempts. -/
  | unreachable (attempts : UInt32) (message : String)
  /-- The backend answered with a status that is no success. -/
  | rejected (status : UInt16) (body : String)
  /-- The backend answered, but not with anything usable. -/
  | malformed (message : String)
  | analysisFailed (message : String)
  | io (cause : IoFailure)
  /-- A file holds no text. -/
  | encoding (message : String)
  | invalidInput (message : String)
deriving DecidableEq, Repr

namespace Error

def message : Error → String
  | .unreachable attempts message =>
    s!"backend unreachable after {attempts.toNat} attempt(s): {message}"
  | .rejected status body =>
    if body.isEmpty then s!"backend rejected request with status {status.toNat}"
    else s!"backend rejected request with status {status.toNat}: {body}"
  | .malformed message => s!"malformed backend response: {message}"
  | .analysisFailed message => s!"analysis failed: {message}"
  | .io cause => "io error: " ++ cause.message
  | .encoding message => s!"encoding error: {message}"
  | .invalidInput message => s!"invalid input: {message}"

def debug : Error → String
  | .unreachable attempts message =>
    s!"BackendUnreachable \x7b attempts: {attempts.toNat}, message: " ++ quoted message ++ " \x7d"
  | .rejected status body =>
    s!"BackendRejected \x7b status: {status.toNat}, body: " ++ quoted body ++ " \x7d"
  | .malformed message => "MalformedResponse(" ++ quoted message ++ ")"
  | .analysisFailed message => "AnalysisFailed(" ++ quoted message ++ ")"
  | .io cause => "Io(" ++ cause.debug ++ ")"
  | .encoding message => "Encoding(" ++ quoted message ++ ")"
  | .invalidInput message => "InvalidInput(" ++ quoted message ++ ")"

/-- Whether the failure came from the backend rather than from local input. -/
def isBackend : Error → Bool
  | .unreachable .. | .rejected .. | .malformed .. => true
  | _ => false

/-- The failure that the backend itself reported in place of an answer. -/
def reported (message : String) : Error :=
  .malformed ("backend error: " ++ message)

def source : Error → Option String
  | .io cause => some cause.message
  | _ => none

end Error

end CodeMentor
