import CodeMentor.Proofs.RoundTrips
import CodeMentor.Proofs.Text.Pieces
import CodeMentor.Proofs.Text.Utf8
import CodeMentor.Server.Handler

/-!
# Requests that bring code

Three endpoints take code: in a JSON body, as the body itself, and in the query beside a threshold.
What the server does with such a request is settled by the code that is read from it and by its
size: a body beyond the limit of its endpoint is refused before anything looks at the code, and any
other comes to its handler. The last sections write a request of each kind for every code.
-/

namespace CodeMentor.Text

/-! ## Escapes -/

/-- A text in which every byte is escaped. -/
def allEscaped (text : String) : List Char :=
  (Utf8.encode text).flatMap percentEscape

end CodeMentor.Text

namespace CodeMentor.Server

open CodeMentor.Text

variable {σ : Type}

/-! ## What is read from a request -/

/-- The answer to a request if its body is not longer than a limit. -/
def Call.within (call : Call) (limit : ℕ) (answer : Response) : Response :=
  if limit < call.body.length then .refused 413 else answer

namespace State

variable (s : State σ) (now : String) {call : Call}

end State

/-! ## Targets -/

/-- Code in the query, behind a threshold in the path. -/
def Call.gate (threshold : UInt8) (code : String) : Call where
  method := "GET"
  uri := String.ofList ('/' :: ("analyze/quality/".toList ++ Nat.toDigits 10 threshold.toNat) ++
    '?' :: ("code=".toList ++ allEscaped code))
  contentType := none
  body := []

namespace Call

end Call

end CodeMentor.Server
