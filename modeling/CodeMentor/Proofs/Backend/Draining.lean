import CodeMentor.Backend.Stream
import CodeMentor.Proofs.Text.Pieces
import CodeMentor.Proofs.Text.Utf8

/-!
# The fragments of a stream

A stream of fragments is held against a reference that never sees a chunk: it takes all bytes that
arrive, cuts them into lines, stops after the first line that ends the output, and lists the texts
of what is left. The main result says that draining a stream gives this list. The invariant of a
read is that the decoder holds the open line of the bytes so far and that nothing is pending.
-/

namespace CodeMentor

open CodeMentor.Text

/-! ## The reference -/

/-- How the reads of a stream of bytes end. -/
inductive Ending where
  | complete
  | failed (cause : TransportError)
deriving DecidableEq, Repr

def silence (idle : Duration) : TransportError :=
  .timeout s!"no output for {idle.text}"

/-- What is read of a stream of bytes: the chunks before its end or its first failure. -/
structure Delivery where
  chunks : List (List UInt8)
  ending : Ending
deriving DecidableEq, Repr

def Delivery.content (d : Delivery) : List UInt8 :=
  d.chunks.flatten

/-- The delivery of a stream whose connection has been silent for `waited` milliseconds. A read
fails when the silence before it grows longer than `idle`. -/
def deliveryFrom (idle : Duration) : (waited : Nat) → ByteStream → Delivery
  | _, [] => ⟨[], .complete⟩
  | _, .bytes chunk :: rest =>
    let d := deliveryFrom idle 0 rest
    ⟨chunk :: d.chunks, d.ending⟩
  | _, .failure cause :: _ => ⟨[], .failed cause⟩
  | waited, .wait millis :: rest =>
    if idle.ticks < waited + millis then ⟨[], .failed (silence idle)⟩
    else deliveryFrom idle (waited + millis) rest
  | _, .stall :: _ => ⟨[], .failed (silence idle)⟩

/-- The delivery of a stream of bytes of which none has been read. -/
def ByteStream.delivery (source : ByteStream) (idle : Duration) : Delivery :=
  deliveryFrom idle 0 source

theorem ByteStream.delivery_chunks (chunks : List (List UInt8)) (idle : Duration) :
    ByteStream.delivery (chunks.map .bytes) idle = ⟨chunks, .complete⟩ := by
  have hfrom : ∀ waited, deliveryFrom idle waited (chunks.map .bytes) = ⟨chunks, .complete⟩ := by
    induction chunks with
    | nil => intro waited; rfl
    | cons chunk chunks ih => intro waited; simp [deliveryFrom, ih]
  exact hfrom 0

/-- The lines of the bytes: those that a newline ends and, when the bytes are complete, what follows
the last newline, unless that is nothing. -/
def linesOf (content : List UInt8) (ending : Ending) : List String :=
  let ps := content.splitOn newlineByte
  let rest := ps.getLast?.getD []
  let last := if ending = .complete ∧ rest ≠ [] then [rest] else []
  (ps.dropLast ++ last).map Utf8.lossy

namespace StreamLine

def isTerminal : StreamLine → Bool
  | .chunk c => c.done
  | .done => true
  | .error _ => true
  | .skip => false

/-- The text that a line carries, unless it is empty. -/
def text? : StreamLine → Option String
  | .chunk c => if c.response.isEmpty then none else some c.response
  | _ => none

/-- The lines up to the first that ends the output, that one included. -/
def cut (lines : List StreamLine) : List StreamLine :=
  lines.takeWhile (!·.isTerminal) ++ (lines.find? (·.isTerminal)).toList

/-- The failure at the end of the output, from the line that ends it or, without such a line, from
the end of the reads. -/
def failure? (lines : List StreamLine) (ending : Ending) : Option Error :=
  match lines.find? (·.isTerminal), ending with
  | some (.error message), _ => some (.reported message)
  | some _, _ => none
  | none, .failed cause => some cause.toStreamError
  | none, .complete => none

/-- The texts of the lines that count, in order, and then the failure, if there is one. -/
def fragments (lines : List StreamLine) (ending : Ending) : List Fragment :=
  ((cut lines).filterMap text?).map .ok ++ (failure? lines ending).toList.map .error

end StreamLine

def fragmentsOf (content : List UInt8) (ending : Ending) : List Fragment :=
  StreamLine.fragments ((linesOf content ending).map .parse) ending

def FragmentStream.fragments (s : FragmentStream) : List Fragment :=
  s.drain.1.map (·.1)

/-! ## One line -/

namespace StreamLine

def yield : StreamLine → List Fragment
  | .error message => [.error (.reported message)]
  | line => line.text?.toList.map .ok

/-- The fragments that lines add when those after the end of the output mean nothing. -/
def yields : List StreamLine → List Fragment
  | [] => []
  | line :: lines => line.yield ++ if line.isTerminal then [] else yields lines

theorem fragments_nil_complete : fragments [] .complete = [] := rfl

theorem fragments_nil_failed (cause : TransportError) :
    fragments [] (.failed cause) = [.error cause.toStreamError] := rfl

theorem fragments_cons (line : StreamLine) (lines : List StreamLine) (ending : Ending) :
    fragments (line :: lines) ending =
      line.yield ++ if line.isTerminal then [] else fragments lines ending := by
  cases h : line.isTerminal with
  | true =>
      have hcut : cut (line :: lines) = [line] := by simp [cut, h]
      have hfind : (line :: lines).find? (·.isTerminal) = some line := by simp [h]
      cases line with
      | chunk c => cases ht : (chunk c).text? <;> simp [fragments, failure?, hcut, hfind, yield, ht]
      | done => simp [fragments, failure?, hcut, hfind, yield, text?]
      | error message => simp [fragments, failure?, hcut, hfind, yield, text?]
      | skip => simp [isTerminal] at h
  | false =>
      have hyield : line.yield = line.text?.toList.map .ok := by
        cases line with
        | error message => simp [isTerminal] at h
        | _ => rfl
      cases ht : line.text? <;> simp [fragments, cut, failure?, hyield, h, ht]

theorem fragments_append (first rest : List StreamLine) (ending : Ending) :
    fragments (first ++ rest) ending =
      yields first ++ if first.any (·.isTerminal) then [] else fragments rest ending := by
  induction first with
  | nil => simp [yields]
  | cons line first ih =>
      rw [List.cons_append, fragments_cons, ih]
      cases h : line.isTerminal <;> simp [yields, h]

end StreamLine

namespace FragmentStream

theorem absorb_of_held {s : FragmentStream} (h : s.held = true) (line : String) :
    s.absorb line =
      { s with
        pending := s.pending ++ (StreamLine.parse line).yield
        held := !(StreamLine.parse line).isTerminal } := by
  obtain ⟨source, held, decoder, pending, idle⟩ := s
  simp only at h
  subst h
  simp only [absorb, if_true]
  cases StreamLine.parse line with
  | chunk c =>
      cases hr : c.response.isEmpty <;>
        simp [StreamLine.yield, StreamLine.text?, StreamLine.isTerminal, hr]
  | done => simp [close, StreamLine.yield, StreamLine.text?, StreamLine.isTerminal]
  | error message => simp [close, StreamLine.yield, StreamLine.isTerminal]
  | skip => simp [StreamLine.yield, StreamLine.text?, StreamLine.isTerminal]

theorem foldl_absorb_of_not_held {s : FragmentStream} (h : s.held = false)
    (lines : List String) : lines.foldl absorb s = s := by
  induction lines with
  | nil => rfl
  | cons line lines ih =>
      have hline : s.absorb line = s := by simp [absorb, h]
      rw [List.foldl_cons, hline, ih]

theorem foldl_absorb {s : FragmentStream} (h : s.held = true) (lines : List String) :
    lines.foldl absorb s =
      { s with
        pending := s.pending ++ StreamLine.yields (lines.map .parse)
        held := !(lines.map StreamLine.parse).any (·.isTerminal) } := by
  induction lines generalizing s with
  | nil => simp [StreamLine.yields, ← h]
  | cons line lines ih =>
      rw [List.foldl_cons, absorb_of_held h]
      cases hline : (StreamLine.parse line).isTerminal with
      | true =>
          rw [foldl_absorb_of_not_held (by simp)]
          simp [StreamLine.yields, hline]
      | false =>
          rw [ih (by simp)]
          simp [StreamLine.yields, hline]

end FragmentStream

/-! ## One chunk -/

abbrev endsLine (b : UInt8) : Bool :=
  b == newlineByte

theorem endsLine_eq_false_of_mem_encode {text : String} (h : '\n' ∉ text.toList) :
    ∀ b ∈ Utf8.encode text, endsLine b = false := by
  intro b hb
  by_contra hends
  obtain rfl : b = newlineByte := by simpa using hends
  exact h (Utf8.mem_of_mem_encode hb (by decide))

def completedLines (bytes : List UInt8) : List StreamLine :=
  ((pieces endsLine bytes).dropLast.map Utf8.lossy).map .parse

theorem linesOf_eq (content : List UInt8) (ending : Ending) :
    linesOf content ending =
      ((pieces endsLine content).dropLast ++
        if ending = .complete ∧ openPiece endsLine content ≠ [] then
          [openPiece endsLine content] else []).map Utf8.lossy := by
  rw [linesOf, List.splitOn_eq_splitOnP, ← pieces_eq_splitOnP]
  rfl

/-- The lines that a part of the bytes completes come first; only its open line goes on. -/
theorem linesOf_append (first rest : List UInt8) (ending : Ending) :
    linesOf (first ++ rest) ending =
      (pieces endsLine first).dropLast.map Utf8.lossy ++
        linesOf (openPiece endsLine first ++ rest) ending := by
  rw [linesOf_eq, linesOf_eq, dropLast_pieces_append, openPiece_append, List.append_assoc,
    List.map_append]

theorem fragmentsOf_append (first rest : List UInt8) (ending : Ending) :
    fragmentsOf (first ++ rest) ending =
      StreamLine.yields (completedLines first) ++
        if (completedLines first).any (·.isTerminal) then []
        else fragmentsOf (openPiece endsLine first ++ rest) ending := by
  rw [fragmentsOf, linesOf_append, List.map_append, StreamLine.fragments_append]
  rfl

theorem fragmentsOf_line {line : List UInt8} (hline : ∀ b ∈ line, endsLine b = false)
    (rest : List UInt8) (ending : Ending) :
    fragmentsOf (line ++ newlineByte :: rest) ending =
      (StreamLine.parse (Utf8.lossy line)).yield ++
        if (StreamLine.parse (Utf8.lossy line)).isTerminal then []
        else fragmentsOf rest ending := by
  have hcompleted : completedLines (line ++ [newlineByte]) = [.parse (Utf8.lossy line)] := by
    rw [completedLines, pieces_append_cons rfl, pieces_eq_singleton hline]
    rfl
  have hopen : openPiece endsLine (line ++ [newlineByte]) = [] :=
    openPiece_append_cons rfl line []
  rw [List.append_cons, fragmentsOf_append, hcompleted, hopen]
  simp [StreamLine.yields]

/-- Bytes without a newline that fail to be followed by more are no line. -/
theorem fragmentsOf_failed {content : List UInt8} (h : ∀ b ∈ content, endsLine b = false)
    (cause : TransportError) :
    fragmentsOf content (.failed cause) = [.error cause.toStreamError] := by
  simp [fragmentsOf, linesOf_eq, pieces_eq_singleton h, StreamLine.fragments_nil_failed]

/-- Bytes without a newline that are complete are one line, unless there are none. -/
theorem fragmentsOf_complete {content : List UInt8} (h : ∀ b ∈ content, endsLine b = false) :
    fragmentsOf content .complete =
      if content = [] then [] else (StreamLine.parse (Utf8.lossy content)).yield := by
  by_cases hc : content = []
  · subst hc
    rfl
  · simp [fragmentsOf, linesOf_eq, pieces_eq_singleton h, openPiece_eq_self h, hc,
      StreamLine.fragments_cons, StreamLine.fragments_nil_complete]

namespace FragmentStream

theorem absorbBytes_of_held {s : FragmentStream} (h : s.held = true) (chunk : List UInt8) :
    s.absorbBytes chunk =
      { s with
        decoder := ⟨openPiece endsLine (s.decoder.buffer ++ chunk)⟩
        pending := s.pending ++ StreamLine.yields (completedLines (s.decoder.buffer ++ chunk))
        held := !(completedLines (s.decoder.buffer ++ chunk)).any (·.isTerminal) } := by
  let decoder : LineDecoder := ⟨openPiece endsLine (s.decoder.buffer ++ chunk)⟩
  exact foldl_absorb (s := { s with decoder }) h _

theorem absorbEnd_of_held {s : FragmentStream} (h : s.held = true) :
    s.absorbEnd =
      { s with
        decoder := .empty
        pending := s.pending ++
          if s.decoder.buffer = [] then []
          else (StreamLine.parse (Utf8.lossy s.decoder.buffer)).yield
        held := false } := by
  rw [absorbEnd]
  simp only [LineDecoder.finish]
  rw [foldl_absorb (s := { s with decoder := .empty }) h]
  by_cases hb : s.decoder.buffer = [] <;> simp [hb, StreamLine.yields, close]

/-! ## Draining -/

theorem fragments_of_next_none {s : FragmentStream} (h : s.next = none) : s.fragments = [] := by
  rw [fragments, drain]
  split
  · rfl
  · simp_all

theorem fragments_of_next_some {s t : FragmentStream} {fragment : Fragment}
    (h : s.next = some (fragment, t)) : s.fragments = fragment :: t.fragments := by
  rw [fragments, drain]
  split
  · simp_all
  · simp_all [fragments]

theorem fragments_pending (s : FragmentStream) (pending : List Fragment) :
    ({ s with pending } : FragmentStream).fragments =
      pending ++ ({ s with pending := [] } : FragmentStream).fragments := by
  induction pending with
  | nil => rfl
  | cons fragment pending ih =>
      rw [fragments_of_next_some (t := { s with pending }) rfl, ih, List.cons_append]

theorem fragments_of_not_held {s : FragmentStream} (h : s.held = false) :
    s.fragments = s.pending := by
  have hs := fragments_pending s s.pending
  have hnone : ({ s with pending := [] } : FragmentStream).next = none := by simp [next, h]
  rw [fragments_of_next_none hnone, List.append_nil] at hs
  exact hs

def fragmentsFrom : Option (Fragment × FragmentStream) → List Fragment
  | none => []
  | some (fragment, s) => fragment :: s.fragments

theorem fragments_eq_fragmentsFrom (s : FragmentStream) : s.fragments = fragmentsFrom s.next := by
  cases h : s.next with
  | none => exact fragments_of_next_none h
  | some p => exact fragments_of_next_some h

theorem fragments_of_held {s : FragmentStream} (hheld : s.held = true) (hpending : s.pending = []) :
    s.fragments = fragmentsFrom (s.read 0 s.source) := by
  rw [fragments_eq_fragmentsFrom, next, hpending, hheld]
  rfl

theorem fragmentsFrom_failWith {s : FragmentStream}
    (hbuffer : ∀ b ∈ s.decoder.buffer, endsLine b = false) (cause : TransportError)
    (rest : ByteStream) :
    fragmentsFrom (s.failWith cause rest) = fragmentsOf s.decoder.buffer (.failed cause) := by
  rw [fragmentsOf_failed hbuffer]
  simp [failWith, fragmentsFrom, fragments_of_not_held]

/-- A chunk gives what the lines it completes yield. If none of them ends the output, reading goes
on with the open line behind them. -/
theorem fragmentsFrom_read_bytes {s : FragmentStream} (hheld : s.held = true)
    (hpending : s.pending = []) (waited : Nat) (chunk : List UInt8) (rest : ByteStream) :
    fragmentsFrom (s.read waited (.bytes chunk :: rest)) =
      let bytes := s.decoder.buffer ++ chunk
      let t := { s with source := rest, decoder := ⟨openPiece endsLine bytes⟩ }
      StreamLine.yields (completedLines bytes) ++
        if (completedLines bytes).any (·.isTerminal) then []
        else fragmentsFrom (t.read 0 rest) := by
  obtain ⟨source, held, decoder, pending, idle⟩ := s
  simp only at hheld hpending
  subst hheld hpending
  have hnext : read ⟨source, true, decoder, [], idle⟩ waited (.bytes chunk :: rest) =
      ({ absorbBytes ⟨source, true, decoder, [], idle⟩ chunk with source := rest } :
        FragmentStream).next := rfl
  rw [hnext, ← fragments_eq_fragmentsFrom, absorbBytes_of_held rfl]
  refine (fragments_pending ⟨rest, _, _, [], idle⟩ _).trans ?_
  rw [List.nil_append]
  congr 1
  split
  next hterminal => exact fragments_of_not_held (by simp [hterminal])
  next hopen =>
    have hany : (completedLines (decoder.buffer ++ chunk)).any (·.isTerminal) = false := by
      simpa using hopen
    simp only [hany, Bool.not_false]
    exact fragments_of_held rfl rfl

theorem fragmentsFrom_read_nil {s : FragmentStream} (hheld : s.held = true)
    (hpending : s.pending = []) (hbuffer : ∀ b ∈ s.decoder.buffer, endsLine b = false)
    (waited : Nat) :
    fragmentsFrom (s.read waited []) = fragmentsOf s.decoder.buffer .complete := by
  have hnext : s.read waited [] = ({ s.absorbEnd with source := [] } : FragmentStream).next := by
    rw [absorbEnd_of_held hheld]
    simp [read, absorbEnd_of_held hheld, pop, next]
  rw [hnext, ← fragments_eq_fragmentsFrom, absorbEnd_of_held hheld, fragments_of_not_held rfl,
    fragmentsOf_complete hbuffer, hpending, List.nil_append]

/-- Reading on from a state with an open line and nothing pending gives what the reference makes of
that line and the bytes to come. The induction is on the pieces that are left; each chunk leaves
the decoder with the open line of all bytes so far. -/
theorem fragmentsFrom_read {s : FragmentStream} (hheld : s.held = true) (hpending : s.pending = [])
    (hbuffer : ∀ b ∈ s.decoder.buffer, endsLine b = false) (waited : Nat) (source : ByteStream) :
    fragmentsFrom (s.read waited source) =
      let d := deliveryFrom s.idleTimeout waited source
      fragmentsOf (s.decoder.buffer ++ d.content) d.ending := by
  induction source generalizing s waited with
  | nil =>
      rw [fragmentsFrom_read_nil hheld hpending hbuffer]
      simp [deliveryFrom, Delivery.content]
  | cons piece rest ih =>
      cases piece with
      | bytes chunk =>
          let line := openPiece endsLine (s.decoder.buffer ++ chunk)
          have hopen : ∀ b ∈ line, endsLine b = false := separates_eq_false_of_mem_openPiece _ _
          rw [fragmentsFrom_read_bytes hheld hpending]
          simp only [deliveryFrom, Delivery.content, List.flatten_cons, ← List.append_assoc]
          rw [fragmentsOf_append]
          congr 2
          exact ih (s := { s with source := rest, decoder := ⟨line⟩ }) hheld hpending hopen 0
      | failure cause =>
          rw [read, fragmentsFrom_failWith hbuffer]
          simp [deliveryFrom, Delivery.content]
      | wait millis =>
          rw [read, deliveryFrom]
          split
          · rw [fragmentsFrom_failWith hbuffer]
            simp [Delivery.content, silent, silence]
          · exact ih hheld hpending hbuffer _
      | stall =>
          rw [read, fragmentsFrom_failWith hbuffer]
          simp [deliveryFrom, Delivery.content, silent, silence]

theorem fragments_new (source : ByteStream) (idle : Duration) :
    (new source idle).fragments =
      fragmentsOf (source.delivery idle).content (source.delivery idle).ending := by
  rw [fragments_of_held rfl rfl, fragmentsFrom_read rfl rfl (by simp [new, LineDecoder.empty])]
  rfl

theorem next_drain (s : FragmentStream) : s.drain.2.next = none := by
  fun_induction drain s with
  | case1 s hnone =>
      have hpending : s.pending = [] := by
        cases hp : s.pending with
        | nil => rfl
        | cons fragment pending => simp [next, hp] at hnone
      simp [close, next, hpending]
  | case2 s fragment t hsome rest final hdrain ih =>
      rw [hdrain] at ih
      exact ih

/-- Draining a stream gives the texts of the lines that arrive, up to the first line that ends the
output, and then the failure that this line or the end of the reads amounts to. Nothing comes after
that, and where the bytes were cut into chunks does not show. -/
theorem drain_eq_lines (source : ByteStream) (idle : Duration) :
    (new source idle).fragments =
        fragmentsOf (source.delivery idle).content (source.delivery idle).ending ∧
      (new source idle).drain.2.next = none ∧
      ∀ (source' : ByteStream) (idle' : Duration),
        (source'.delivery idle').content = (source.delivery idle).content →
        (source'.delivery idle').ending = (source.delivery idle).ending →
        (new source' idle').fragments = (new source idle).fragments := by
  refine ⟨fragments_new source idle, next_drain _, ?_⟩
  intro source' idle' hcontent hending
  rw [fragments_new, fragments_new, hcontent, hending]

/-- A cut inside a character, and one inside a line, against the same bytes in one chunk that a
failure follows. -/
theorem drain_eq_lines_cut :
    let whole := Utf8.encode "\x7b\"response\":\"é\"\x7d\n\x7b\"resp"
    let tail : ByteStream := [.failure (.body "reset"), .bytes [10]]
    (new (.bytes (whole.take 14) :: .bytes (whole.drop 14) :: tail) (.ofSeconds 1)).fragments =
      (new (.bytes whole :: tail) (.ofSeconds 1)).fragments :=
  (drain_eq_lines _ _).2.2 _ _ (by decide) (by decide)

end FragmentStream

end CodeMentor
