import CodeMentor.Duration
import CodeMentor.Error
import CodeMentor.Text.Pieces

/-!
# Requests for generated text

A draft can hold anything; a request is built from a draft that names a model and allows some time.
-/

namespace CodeMentor

/-- What a request will be, before it has been checked. -/
structure Draft where
  prompt : String
  model : String
  timeoutSeconds : UInt64
  streaming : Bool
deriving DecidableEq, Repr

structure Request where
  prompt : String
  model : String
  timeoutSeconds : UInt64
  streaming : Bool
deriving DecidableEq, Repr

def defaultTimeoutSeconds : UInt64 := 30

def Draft.new (prompt model : String) : Draft :=
  { prompt, model, timeoutSeconds := defaultTimeoutSeconds, streaming := false }

/-- Check a draft: the trimmed model name must not be empty and the time not zero. -/
def Draft.build (d : Draft) : Except Error Request :=
  let model := trim d.model
  if model.isEmpty then .error (.invalidInput "model name must not be empty")
  else if d.timeoutSeconds = 0 then .error (.invalidInput "timeout must be positive")
  else .ok { prompt := d.prompt, model, timeoutSeconds := d.timeoutSeconds, streaming := d.streaming }

def Request.timeout (r : Request) : Duration :=
  .ofSeconds r.timeoutSeconds

end CodeMentor
