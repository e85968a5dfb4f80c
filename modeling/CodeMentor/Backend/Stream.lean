import CodeMentor.Backend.Model
import CodeMentor.Backend.Transport
import CodeMentor.Json.Parser
import CodeMentor.Text.Pieces
import CodeMentor.Text.Utf8

/-!
# Streams of generated text

Bytes arrive in chunks that need not end where lines or characters do. A line decoder cuts them into
lines; every line is a chunk of text, an end mark, an error of the backend, or noise. The stream of
fragments reads on only when nothing it has decoded is still waiting, and lets go of the connection
as soon as it has decoded an end or a failure.
-/

namespace CodeMentor

open CodeMentor.Text

def newlineByte : UInt8 := 10

/-- The bytes of the line that is not complete yet. -/
structure LineDecoder where
  buffer : List UInt8
deriving DecidableEq, Repr

namespace LineDecoder

def empty : LineDecoder := ⟨[]⟩

/-- Take in bytes and give the lines that they complete. -/
def push (d : LineDecoder) (bytes : List UInt8) : List String × LineDecoder :=
  let ps := pieces (· == newlineByte) (d.buffer ++ bytes)
  (ps.dropLast.map Utf8.lossy, ⟨ps.getLast?.getD []⟩)

/-- Give the line without a newline at the end, if there is one. -/
def finish (d : LineDecoder) : Option String × LineDecoder :=
  (if d.buffer.isEmpty then none else some (Utf8.lossy d.buffer), empty)

end LineDecoder

inductive StreamLine where
  | chunk (chunk : Chunk)
  | done
  | error (message : String)
  | skip
deriving DecidableEq, Repr

/-- What a line of JSON carries. -/
structure StreamPayload where
  response : String
  done : Bool
  error : Option String
deriving DecidableEq, Repr

def StreamPayload.ofJson? (j : Json) : Option StreamPayload := do
  match ← j.fields? [("response", .defaulted), ("done", .defaulted), ("error", .defaulted)] with
  | [response, done, error] =>
    return {
      response := ← Json.orElse? "" Json.text? response
      done := ← Json.orElse? false Json.flag? done
      error := ← Json.absent? Json.text? error }
  | _ => none

/-- The part of a line that matters: trimmed, and without the frame of an event stream. -/
def payloadText (line : String) : String :=
  let line := trim line
  ((stripHead? "data:" line).map trim).getD line

def StreamLine.parse (line : String) : StreamLine :=
  let payload := payloadText line
  if payload.isEmpty then .skip
  else if payload = "[DONE]" then .done
  else
    match (Json.parse? payload).bind StreamPayload.ofJson? with
    | some payload =>
      match payload.error with
      | some message => .error message
      | none => .chunk ⟨payload.response, payload.done⟩
    | none => .skip

/-- A fragment of text, or the failure that ends the stream. -/
abbrev Fragment := Except Error String

/-- The failure of a stream that a failed read amounts to. -/
def TransportError.toStreamError : TransportError → Error
  | .timeout message | .connect message => .unreachable 1 s!"stream interrupted: {message}"
  | other => other.toError 1

/-- A stream of fragments over a stream of bytes. -/
structure FragmentStream where
  /-- What the bytes still have to say. -/
  source : ByteStream
  held : Bool
  decoder : LineDecoder
  /-- Fragments that have been decoded but not asked for. -/
  pending : List Fragment
  idleTimeout : Duration

namespace FragmentStream

def new (source : ByteStream) (idleTimeout : Duration) : FragmentStream :=
  { source, held := true, decoder := .empty, pending := [], idleTimeout }

def close (s : FragmentStream) : FragmentStream :=
  { s with held := false }

/-- Take in a line; after the end, lines mean nothing. -/
def absorb (s : FragmentStream) (line : String) : FragmentStream :=
  if s.held then
    match StreamLine.parse line with
    | .chunk chunk =>
      { s with
        pending := if chunk.response.isEmpty then s.pending else s.pending ++ [.ok chunk.response]
        held := !chunk.done }
    | .done => s.close
    | .error message => { s.close with pending := s.pending ++ [.error (.reported message)] }
    | .skip => s
  else s

def absorbBytes (s : FragmentStream) (bytes : List UInt8) : FragmentStream :=
  let (lines, decoder) := s.decoder.push bytes
  lines.foldl absorb { s with decoder }

def absorbEnd (s : FragmentStream) : FragmentStream :=
  let (line, decoder) := s.decoder.finish
  (line.toList.foldl absorb { s with decoder }).close

/-- The failure of a connection that has been silent for too long. -/
def silent (s : FragmentStream) : TransportError :=
  .timeout s!"no output for {s.idleTimeout.text}"

/-- End in a failure, with the rest of the bytes unread. -/
def failWith (s : FragmentStream) (cause : TransportError) (rest : ByteStream) :
    Option (Fragment × FragmentStream) :=
  some (.error cause.toStreamError, { s with source := rest, held := false, pending := [] })

def pop (s : FragmentStream) : Option (Fragment × FragmentStream) :=
  match s.pending with
  | fragment :: pending => some (fragment, { s with pending })
  | [] => none

/-- Read on from a connection that has been silent for `waited` milliseconds. -/
def read (s : FragmentStream) (waited : Nat) : ByteStream → Option (Fragment × FragmentStream)
  | [] => ({ s.absorbEnd with source := [] }).pop
  | .bytes chunk :: rest =>
    let s := { s.absorbBytes chunk with source := rest }
    match s.pending with
    | fragment :: pending => some (fragment, { s with pending })
    | [] => if s.held then s.read 0 rest else none
  | .failure cause :: rest => s.failWith cause rest
  | .wait millis :: rest =>
    if s.idleTimeout.ticks < waited + millis then s.failWith s.silent rest
    else s.read (waited + millis) rest
  | .stall :: rest => s.failWith s.silent rest

/-- The next fragment and the stream behind it. -/
def next (s : FragmentStream) : Option (Fragment × FragmentStream) :=
  match s.pending with
  | fragment :: pending => some (fragment, { s with pending })
  | [] => if s.held then s.read 0 s.source else none

/-- How much there is left to read. -/
def rank (s : FragmentStream) : Nat :=
  s.source.length + if s.held then 1 else 0

theorem rank_le_of_read {s t : FragmentStream} {waited : Nat} {source : ByteStream}
    {fragment : Fragment} (h : s.read waited source = some (fragment, t)) :
    t.rank ≤ source.length := by
  induction source generalizing s waited with
  | nil =>
    simp only [read, pop, absorbEnd] at h
    split at h
    · cases h; simp [rank, close]
    · cases h
  | cons piece rest ih =>
    cases piece with
    | bytes chunk =>
      simp only [read] at h
      split at h
      · cases h
        simp only [rank, List.length_cons]
        split <;> omega
      · split at h
        · exact Nat.le_succ_of_le (ih h)
        · cases h
    | failure cause =>
      simp only [read, failWith] at h
      cases h
      simp [rank]
    | wait millis =>
      simp only [read] at h
      split at h
      · simp only [failWith] at h
        cases h
        simp [rank]
      · exact Nat.le_succ_of_le (ih h)
    | stall =>
      simp only [read, failWith] at h
      cases h
      simp [rank]

/-- Each fragment leaves less to read, or as much and less pending. -/
theorem rank_decreases {s t : FragmentStream} {fragment : Fragment}
    (h : s.next = some (fragment, t)) :
    t.rank < s.rank ∨ t.rank = s.rank ∧ t.pending.length < s.pending.length := by
  simp only [next] at h
  split at h
  next fragment' pending hp =>
    cases h
    right
    simp [rank, hp]
  next hp =>
    split at h
    next hheld =>
      left
      have := rank_le_of_read h
      simp only [rank, hheld] at this ⊢
      simp only [if_true]
      omega
    · cases h

/-- All fragments to come, each with whether the connection is held right after it, and the stream
at its end. -/
def drain (s : FragmentStream) : List (Fragment × Bool) × FragmentStream :=
  match _h : s.next with
  | none => ([], s.close)
  | some (fragment, t) =>
    let (rest, final) := t.drain
    ((fragment, t.held) :: rest, final)
termination_by (s.rank, s.pending.length)
decreasing_by
  rcases rank_decreases _h with h | ⟨h, h'⟩
  · exact Prod.Lex.left _ _ h
  · rw [h]; exact Prod.Lex.right _ h'

/-- Up to `count` fragments, as `drain` gives them. -/
def take : Nat → FragmentStream → List (Fragment × Bool) × FragmentStream
  | 0, s => ([], s)
  | count + 1, s =>
    match s.next with
    | none => ([], s.close)
    | some (fragment, t) =>
      let (rest, final) := take count t
      ((fragment, t.held) :: rest, final)

def joinFragments : List Fragment → Except Error String
  | [] => .ok ""
  | .ok text :: rest => (joinFragments rest).map (text ++ ·)
  | .error e :: _ => .error e

def collect (s : FragmentStream) : Except Error String :=
  joinFragments (s.drain.1.map (·.1))

end FragmentStream

end CodeMentor
