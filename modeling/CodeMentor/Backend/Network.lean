import CodeMentor.Backend.Transport
import CodeMentor.Backend.Url
import CodeMentor.Json.Printer

/-!
# The backend on the network

The transport that speaks to a backend at some locator, over a network that is a value: at one
origin, at most, somebody listens and answers each path from a queue. Everything that can happen to
a request is a case: no locator, nobody there, a dropped connection, silence before or within the
answer, an answer that breaks off, and an answer with a status.
-/

namespace CodeMentor

open CodeMentor.Text

/-- What a listener does with a request. -/
inductive Reply where
  | answer (status : UInt16) (body : List UInt8)
  | drop
  /-- Announce success, send some of the body and close the connection. -/
  | truncated (body : List UInt8)
  | hang
  /-- Announce success, send some of the body and say nothing more. -/
  | stalled (body : List UInt8)
deriving DecidableEq, Repr

/-- A request as the listener sees it. -/
structure SentRequest where
  method : String
  path : String
  contentType : Option String
  body : String
deriving DecidableEq, Repr

def userAgent : String := "educator-core"

/-- A network with one listener at most. -/
structure Network where
  /-- The origin at which somebody listens. -/
  listener : Option String
  /-- The replies for each path, in order; the last one is used again and again. -/
  replies : List (String × List Reply)
  seen : List SentRequest

namespace Network

def silent : Network := ⟨none, [], []⟩

/-- The next reply of a queue and what is left of it. An empty queue knows no such path. -/
def nextReply : List Reply → Reply × List Reply
  | [] => (.answer 404 [], [])
  | [reply] => (reply, [reply])
  | reply :: rest => (reply, rest)

def reply (path : String) : List (String × List Reply) → Reply × List (String × List Reply)
  | [] => (.answer 404 [], [])
  | (name, queue) :: rest =>
    if name = path then
      let (answer, queue) := nextReply queue
      (answer, (name, queue) :: rest)
    else
      let (answer, rest) := reply path rest
      (answer, (name, queue) :: rest)

/-- Send a request and see what the listener does with it. A network without a listener at the
origin of the request does not take it. -/
def send (url : Url) (request : SentRequest) (n : Network) : Option Reply × Network :=
  if n.listener = some url.origin then
    let (answer, replies) := reply request.path n.replies
    (some answer, { n with replies, seen := n.seen ++ [request] })
  else (none, n)

/-- A call of the backend: what is asked of which path. -/
structure Query where
  method : String
  path : String
  body : Option Json

namespace Query

def tags : Query := ⟨"GET", "/api/tags", none⟩

def describe (name : String) : Query :=
  ⟨"POST", "/api/show", some (.object [("name", .string name)])⟩

def generate (payload : Payload) : Query :=
  ⟨"POST", "/api/generate", some (.object
    [("model", .string payload.model), ("prompt", .string payload.prompt),
     ("stream", .bool payload.stream)])⟩

def request (q : Query) (url : Url) : SentRequest where
  method := q.method
  path := url.path
  contentType := q.body.map fun _ => "application/json"
  body := (q.body.map Json.compact).getD ""

end Query

def isSuccess (status : UInt16) : Bool :=
  200 ≤ status && status < 300

/-- The wording when a request gets no answer. -/
def unanswered (url : Url) : String :=
  s!"error sending request for url ({url.text})"

def unreadable : String := "error decoding response body"

/-- The wording when a base is no locator. -/
def unlocated : String := "builder error"

def unsendable (url : Url) : String :=
  s!"{unlocated} for url ({url.text})"

/-- Make a call at a base locator: the reply, or why there is none. -/
def dispatch (base : String) (q : Query) (n : Network) :
    Except TransportError (Url × Reply) × Network :=
  match Url.parse? (dropEndChar base '/' ++ q.path) with
  | none => (.error (.request unlocated), n)
  | some url =>
    if !url.isSendable then (.error (.request (unsendable url)), n)
    else match send url (q.request url) n with
      | (none, n) | (some .drop, n) => (.error (.connect (unanswered url)), n)
      | (some reply, n) => (.ok (url, reply), n)

def whole (base : String) (q : Query) (n : Network) : Except TransportError String × Network :=
  let (outcome, n) := dispatch base q n
  (outcome.bind fun
    | (_, .answer status body) =>
      if isSuccess status then .ok (Utf8.lossy body) else .error (.status status (Utf8.lossy body))
    | (_, .truncated _) => .error (.body unreadable)
    | (_, .stalled _) => .error (.stalled unreadable)
    | (url, .hang) => .error (.timeout (unanswered url))
    | (url, .drop) => .error (.connect (unanswered url)), n)

/-- Make a call and receive the answer as it comes. Only the wait for its beginning is limited. -/
def opened (base : String) (q : Query) (timeout : Duration) (n : Network) :
    Except TransportError ByteStream × Network :=
  let (outcome, n) := dispatch base q n
  (outcome.bind fun
    | (_, .answer status body) =>
      if isSuccess status then .ok [.bytes body] else .error (.status status (Utf8.lossy body))
    | (_, .truncated body) => .ok [.bytes body, .failure (.body unreadable)]
    | (_, .stalled body) => .ok [.bytes body, .stall]
    | (_, .hang) => .error (.timeout s!"no response within {timeout.text}")
    | (url, .drop) => .error (.connect (unanswered url)), n)

def transport (base : String) : Transport Network where
  tags _ := whole base .tags
  describe name _ := whole base (.describe name)
  generate payload _ := whole base (.generate payload)
  stream payload timeout := opened base (.generate payload) timeout

end Network

end CodeMentor
