import CodeMentor.Duration
import CodeMentor.Error

/-!
# Talking to the backend

The four calls of the backend's interface and what can go wrong before an answer is understood. A
transport answers calls from a state of its own; a session pairs that state with the record of all
calls and pauses, so that what a program does is a function of what it is answered.
-/

namespace CodeMentor

/-- A failure of a call, before any interpretation. -/
inductive TransportError where
  | connect (message : String)
  | timeout (message : String)
  | status (code : UInt16) (body : String)
  /-- The backend answered but did not finish in time. -/
  | stalled (message : String)
  /-- The answer could not be read to its end. -/
  | body (message : String)
  /-- The call could not even be made. -/
  | request (message : String)
deriving DecidableEq, Repr

namespace TransportError

/-- Whether the backend cannot have seen the call, so that it may be repeated. -/
def isRetryable : TransportError → Bool
  | .connect _ | .timeout _ => true
  | _ => false

def message : TransportError → String
  | .connect message => s!"connection failed: {message}"
  | .timeout message => s!"timed out: {message}"
  | .stalled message => s!"response stalled: {message}"
  | .status code _ => s!"unexpected status {code.toNat}"
  | .body message => s!"failed to read body: {message}"
  | .request message => s!"invalid request: {message}"

def toError (attempts : UInt32) : TransportError → Error
  | .connect message | .timeout message | .stalled message => .unreachable attempts message
  | .status code text => .rejected code text
  | .body message => .malformed message
  | .request message => .invalidInput message

end TransportError

structure Payload where
  model : String
  prompt : String
  stream : Bool
deriving DecidableEq, Repr

/-- What a stream of bytes does next. -/
inductive Piece where
  | bytes (chunk : List UInt8)
  | failure (cause : TransportError)
  /-- Milliseconds pass. -/
  | wait (millis : Nat)
  | stall
deriving DecidableEq, Repr

/-- A stream of bytes, which ends after its last piece. -/
abbrev ByteStream := List Piece

inductive Event where
  | tags (timeout : Duration)
  | describe (name : String) (timeout : Duration)
  | generate (payload : Payload) (timeout : Duration)
  | stream (payload : Payload) (timeout : Duration)
  | sleep (pause : Duration)
deriving DecidableEq

/-- A way to make calls, with a state of type `σ` behind it. -/
structure Transport (σ : Type) where
  tags : Duration → σ → Except TransportError String × σ
  describe : String → Duration → σ → Except TransportError String × σ
  generate : Payload → Duration → σ → Except TransportError String × σ
  /-- Generate text and receive it as it comes. -/
  stream : Payload → Duration → σ → Except TransportError ByteStream × σ

/-- The state behind the transport and everything that has happened, in order. -/
structure World (σ : Type) where
  peer : σ
  trace : List Event

abbrev Session (σ : Type) := StateM (World σ)

namespace Session

variable {σ : Type}

def call {α : Type} (event : Event) (answer : σ → α × σ) : Session σ α := fun w =>
  let (a, peer) := answer w.peer
  (a, ⟨peer, w.trace ++ [event]⟩)

def sleep (pause : Duration) : Session σ Unit := fun w =>
  ((), ⟨w.peer, w.trace ++ [.sleep pause]⟩)

def tags (t : Transport σ) (timeout : Duration) : Session σ (Except TransportError String) :=
  call (.tags timeout) (t.tags timeout)

def describe (t : Transport σ) (name : String) (timeout : Duration) :
    Session σ (Except TransportError String) :=
  call (.describe name timeout) (t.describe name timeout)

def generate (t : Transport σ) (payload : Payload) (timeout : Duration) :
    Session σ (Except TransportError String) :=
  call (.generate payload timeout) (t.generate payload timeout)

def stream (t : Transport σ) (payload : Payload) (timeout : Duration) :
    Session σ (Except TransportError ByteStream) :=
  call (.stream payload timeout) (t.stream payload timeout)

end Session

/-- Answers prepared in advance, one queue for each kind of call. -/
structure Script where
  tags : List (Except TransportError String)
  describe : List (Except TransportError String)
  generate : List (Except TransportError String)
  stream : List (Except TransportError ByteStream)

def Script.empty : Script := ⟨[], [], [], []⟩

/-- The next answer of a queue; a queue that is used up refuses the connection. -/
def nextAnswer {α : Type} : List (Except TransportError α) →
    Except TransportError α × List (Except TransportError α)
  | [] => (.error (.connect "unscripted"), [])
  | answer :: rest => (answer, rest)

def Script.transport : Transport Script where
  tags _ s := let (a, rest) := nextAnswer s.tags; (a, { s with tags := rest })
  describe _ _ s := let (a, rest) := nextAnswer s.describe; (a, { s with describe := rest })
  generate _ _ s := let (a, rest) := nextAnswer s.generate; (a, { s with generate := rest })
  stream _ _ s := let (a, rest) := nextAnswer s.stream; (a, { s with stream := rest })

end CodeMentor
