import CodeMentor.Proofs.Backend.Draining
import Mathlib.Order.Bounds.Basic

/-!
# How far a stream reads

A pull on a stream of fragments reads its connection only while nothing is pending, one read after
the other. Here a pull is written with the record of its reads, and shown to be the pull of the
stream. What has been read is held against what those reads determine on their own: the lines that
are complete in them, up to the first that ends the output. The main result says that pulling reads
no further than it must, that the connection is held as long as nothing that ends the output has
been read, and that a connection that has been let go is left alone.
-/

namespace CodeMentor

open CodeMentor.Text

/-! ## Reads -/

/-- What one read of a connection comes to. -/
inductive Reading where
  | chunk (bytes : List UInt8)
  | failed (cause : TransportError)
  | ended
deriving DecidableEq, Repr

def Ending.reading : Ending → Reading
  | .complete => .ended
  | .failed cause => .failed cause

/-- All reads, up to the one that they end in. -/
def Delivery.readings (d : Delivery) : List Reading :=
  d.chunks.map .chunk ++ [d.ending.reading]

/-- One read of a connection that has been silent for `waited` milliseconds, and what it leaves. -/
def readOnce (idle : Duration) : (waited : Nat) → ByteStream → Reading × ByteStream
  | _, [] => (.ended, [])
  | _, .bytes chunk :: rest => (.chunk chunk, rest)
  | _, .failure cause :: rest => (.failed cause, rest)
  | waited, .wait millis :: rest =>
    if idle.ticks < waited + millis then (.failed (silence idle), rest)
    else readOnce idle (waited + millis) rest
  | _, .stall :: rest => (.failed (silence idle), rest)

/-- A read gives a chunk, and what it leaves has the other reads, or it is the last. -/
theorem readOnce_cases (idle : Duration) (waited : Nat) (source : ByteStream) :
    (∃ bytes rest, readOnce idle waited source = (.chunk bytes, rest) ∧
      (deliveryFrom idle waited source).readings =
        .chunk bytes :: (rest.delivery idle).readings) ∨
    ∃ (ending : Ending) (rest : ByteStream), readOnce idle waited source = (ending.reading, rest) ∧
      (deliveryFrom idle waited source).readings = [ending.reading] := by
  induction source generalizing waited with
  | nil => exact .inr ⟨.complete, _, rfl, rfl⟩
  | cons piece rest ih =>
      cases piece with
      | bytes chunk => exact .inl ⟨chunk, rest, rfl, rfl⟩
      | failure cause => exact .inr ⟨.failed cause, _, rfl, rfl⟩
      | stall => exact .inr ⟨.failed (silence idle), _, rfl, rfl⟩
      | wait millis =>
          rw [readOnce, deliveryFrom]
          split
          · exact .inr ⟨.failed (silence idle), _, rfl, rfl⟩
          · exact ih _

theorem length_readOnce (idle : Duration) (waited : Nat) (source : ByteStream) :
    readOnce idle waited source = (.ended, []) ∨
      (readOnce idle waited source).2.length < source.length := by
  induction source generalizing waited with
  | nil => exact .inl rfl
  | cons piece rest ih =>
      cases piece with
      | bytes chunk => exact .inr (Nat.lt_succ_self _)
      | failure cause => exact .inr (Nat.lt_succ_self _)
      | stall => exact .inr (Nat.lt_succ_self _)
      | wait millis =>
          rw [readOnce]
          split
          · exact .inr (Nat.lt_succ_self _)
          · apply (ih _).imp_right
            intro hlt
            exact hlt.trans (Nat.lt_succ_self _)

namespace FragmentStream

/-- Take in what a read comes to and what it leaves. A failure takes the place of what is
pending. -/
def receive (s : FragmentStream) : Reading × ByteStream → FragmentStream
  | (.chunk bytes, rest) => { s.absorbBytes bytes with source := rest }
  | (.ended, rest) => { s.absorbEnd with source := rest }
  | (.failed cause, rest) =>
    { s with source := rest, held := false, pending := [.error cause.toStreamError] }

def reading (s : FragmentStream) : Reading :=
  (readOnce s.idleTimeout 0 s.source).1

def readOn (s : FragmentStream) : FragmentStream :=
  s.receive (readOnce s.idleTimeout 0 s.source)

theorem source_receive (s : FragmentStream) (reading : Reading) (rest : ByteStream) :
    (s.receive (reading, rest)).source = rest := by
  cases reading <;> rfl

theorem rank_le (s : FragmentStream) : s.rank ≤ s.source.length + 1 := by
  rw [rank]
  split <;> omega

theorem rank_readOn_lt {s : FragmentStream} (h : s.held = true) : s.readOn.rank < s.rank := by
  have hrank : s.rank = s.source.length + 1 := by simp [rank, h]
  rw [hrank, readOn]
  obtain hended | hlt := length_readOnce s.idleTimeout 0 s.source
  · rw [hended, receive, absorbEnd_of_held h]
    simp [rank]
  · apply Nat.lt_of_le_of_lt (rank_le _)
    rw [source_receive]
    exact Nat.succ_lt_succ hlt

/-- What pulling comes to: the reads it took, the fragments it gave, and the stream behind it. -/
structure Pulled where
  readings : List Reading
  fragments : List Fragment
  after : FragmentStream

/-- The same pulls, one read later. -/
def Pulled.behind (p : Pulled) (reading : Reading) : Pulled :=
  { p with readings := reading :: p.readings }

/-- Pull once, with the record of the reads. -/
def pull (s : FragmentStream) : Pulled :=
  match s.pending with
  | fragment :: pending => ⟨[], [fragment], { s with pending }⟩
  | [] =>
    if _h : s.held = true then s.readOn.pull.behind s.reading
    else ⟨[], [], s⟩
termination_by s.rank
decreasing_by exact rank_readOn_lt _h

def pulls (s : FragmentStream) : (count : Nat) → Pulled
  | 0 => ⟨[], [], s⟩
  | count + 1 =>
    let run := s.pulls count
    let p := run.after.pull
    ⟨run.readings ++ p.readings, run.fragments ++ p.fragments, p.after⟩

theorem read_eq_next_receive {s : FragmentStream} (h : s.held = true) (waited : Nat)
    (source : ByteStream) :
    s.read waited source = (s.receive (readOnce s.idleTimeout waited source)).next := by
  induction source generalizing waited with
  | nil =>
      rw [readOnce, receive, read, absorbEnd_of_held h]
      simp [pop, next]
  | cons piece rest ih =>
      cases piece with
      | bytes chunk => rfl
      | failure cause => rfl
      | wait millis =>
          rw [read, readOnce]
          split
          · rfl
          · exact ih _
      | stall => rfl

/-- A pull with its record gives what the stream gives. -/
theorem next_eq_pull (s : FragmentStream) :
    s.next = s.pull.fragments.head?.map (·, s.pull.after) := by
  fun_induction pull s with
  | case1 s fragment pending hpending => simp [next, hpending]
  | case2 s hpending hheld ih =>
      rw [next, hpending, hheld]
      exact (read_eq_next_receive hheld 0 s.source).trans ih
  | case3 s hpending hheld => simp [next, hpending, hheld]

end FragmentStream

/-! ## What reads determine -/

def Reading.bytes : Reading → List UInt8
  | .chunk bytes => bytes
  | _ => []

def Reading.ending? : Reading → Option Ending
  | .chunk _ => none
  | .failed cause => some (.failed cause)
  | .ended => some .complete

/-- The end of the reads, once they have come to it. -/
def ending? (readings : List Reading) : Option Ending :=
  readings.findSome? Reading.ending?

/-- What the lines mean that reads complete. The end of the bytes completes the last line. -/
def decoded (readings : List Reading) : List StreamLine :=
  let content := readings.flatMap Reading.bytes
  match ending? readings with
  | none => completedLines content
  | some ending => (linesOf content ending).map .parse

/-- The fragments that reads determine, whatever comes behind them. -/
def determined (readings : List Reading) : List Fragment :=
  StreamLine.fragments (decoded readings) ((ending? readings).getD .complete)

/-- Whether reads hold something that ends the output. -/
def settled (readings : List Reading) : Bool :=
  (ending? readings).isSome || (decoded readings).any (·.isTerminal)

theorem ending?_chunks (chunks : List (List UInt8)) : ending? (chunks.map .chunk) = none := by
  simp [ending?, Reading.ending?]

theorem content_chunks (chunks : List (List UInt8)) :
    (chunks.map Reading.chunk).flatMap Reading.bytes = chunks.flatten := by
  simp [List.flatMap_map, Reading.bytes, List.flatMap_id']

theorem ending?_readings (d : Delivery) : ending? d.readings = some d.ending := by
  have hchunks := ending?_chunks d.chunks
  rw [ending?] at hchunks
  rw [ending?, Delivery.readings, List.findSome?_append, hchunks]
  cases h : d.ending <;> rfl

theorem content_readings (d : Delivery) : d.readings.flatMap Reading.bytes = d.content := by
  rw [Delivery.readings, List.flatMap_append, content_chunks]
  cases h : d.ending <;> simp [Ending.reading, Reading.bytes, Delivery.content]

theorem StreamLine.yields_eq (lines : List StreamLine) :
    fragments lines .complete = yields lines := by
  have h := fragments_append lines [] .complete
  rw [List.append_nil] at h
  rw [h]
  simp [fragments_nil_complete]

theorem determined_chunks (chunks : List (List UInt8)) :
    determined (chunks.map .chunk) = StreamLine.yields (completedLines chunks.flatten) := by
  simp only [determined, decoded, ending?_chunks, content_chunks, Option.getD_none,
    StreamLine.yields_eq]

theorem determined_readings (d : Delivery) :
    determined d.readings = fragmentsOf d.content d.ending := by
  simp only [determined, decoded, ending?_readings, content_readings, Option.getD_some, fragmentsOf]

theorem settled_chunks (chunks : List (List UInt8)) :
    settled (chunks.map .chunk) = (completedLines chunks.flatten).any (·.isTerminal) := by
  simp only [settled, decoded, ending?_chunks, content_chunks, Option.isSome_none, Bool.false_or]

theorem settled_readings (d : Delivery) : settled d.readings = true := by
  simp only [settled, ending?_readings, Option.isSome_some, Bool.true_or]

theorem StreamLine.yields_append (first rest : List StreamLine) :
    yields (first ++ rest) =
      yields first ++ if first.any (·.isTerminal) then [] else yields rest := by
  rw [← yields_eq, fragments_append, yields_eq]

theorem completedLines_append (first rest : List UInt8) :
    completedLines (first ++ rest) =
      completedLines first ++ completedLines (openPiece endsLine first ++ rest) := by
  rw [completedLines, dropLast_pieces_append, List.map_append, List.map_append]
  rfl

section OpenChunks

variable {chunks : List (List UInt8)} (h : settled (chunks.map .chunk) = false)
include h

theorem determined_concat (bytes : List UInt8) :
    determined ((chunks ++ [bytes]).map .chunk) =
      determined (chunks.map .chunk) ++
        StreamLine.yields (completedLines (openPiece endsLine chunks.flatten ++ bytes)) := by
  rw [settled_chunks] at h
  rw [determined_chunks, determined_chunks, List.flatten_append, List.flatten_singleton,
    completedLines_append, StreamLine.yields_append, h]
  rfl

theorem settled_concat (bytes : List UInt8) :
    settled ((chunks ++ [bytes]).map .chunk) =
      (completedLines (openPiece endsLine chunks.flatten ++ bytes)).any (·.isTerminal) := by
  rw [settled_chunks] at h
  rw [settled_chunks, List.flatten_append, List.flatten_singleton, completedLines_append,
    List.any_append, h, Bool.false_or]

theorem determined_end (ending : Ending) :
    determined (chunks.map .chunk ++ [ending.reading]) =
      determined (chunks.map .chunk) ++ fragmentsOf (openPiece endsLine chunks.flatten) ending := by
  have hall := determined_readings ⟨chunks, ending⟩
  have happend := fragmentsOf_append chunks.flatten [] ending
  rw [settled_chunks] at h
  rw [List.append_nil, List.append_nil, h] at happend
  rw [determined_chunks]
  exact hall.trans happend

end OpenChunks

theorem prefix_readings_cases {d : Delivery} {readings : List Reading}
    (h : readings <+: d.readings) :
    readings = d.readings ∨
      ∃ chunks rest, readings = chunks.map .chunk ∧ d.chunks = chunks ++ rest := by
  obtain hall | hchunks := List.prefix_concat_iff.mp h
  · exact .inl hall
  · obtain ⟨chunks, ⟨rest, hrest⟩, hreadings⟩ := List.prefix_map_iff.mp hchunks
    exact .inr ⟨chunks, rest, hreadings, hrest.symm⟩

/-- What reads determine comes first in what all of them determine. -/
theorem determined_prefix {d : Delivery} {readings : List Reading} (h : readings <+: d.readings) :
    determined readings <+: fragmentsOf d.content d.ending := by
  obtain rfl | ⟨chunks, rest, rfl, hrest⟩ := prefix_readings_cases h
  · exact ⟨[], by rw [List.append_nil, determined_readings]⟩
  · rw [Delivery.content, hrest, List.flatten_append, fragmentsOf_append, determined_chunks]
    exact List.prefix_append _ _

/-- Behind an end of the output nothing is determined. -/
theorem determined_of_settled {d : Delivery} {readings : List Reading}
    (h : readings <+: d.readings) (hsettled : settled readings = true) :
    determined readings = fragmentsOf d.content d.ending := by
  obtain rfl | ⟨chunks, rest, rfl, hrest⟩ := prefix_readings_cases h
  · exact determined_readings d
  · rw [settled_chunks] at hsettled
    rw [Delivery.content, hrest, List.flatten_append, fragmentsOf_append, determined_chunks,
      hsettled]
    simp

namespace FragmentStream

/-- A stream that has taken in some of the reads to come and given some fragments: what it decoded
but did not give is pending, and the connection is held unless the reads hold an end of the
output. -/
structure Reached (outcomes readings : List Reading) (given : List Fragment) (s : FragmentStream) :
    Prop where
  consumed : readings <+: outcomes
  determined : CodeMentor.determined readings = given ++ s.pending
  held : s.held = !settled readings
  /-- While the connection is held, all reads were chunks, the open line is buffered, and the other
  reads are still to come. -/
  openLine : s.held = true → ∃ chunks : List (List UInt8),
    readings = chunks.map .chunk ∧ s.decoder.buffer = openPiece endsLine chunks.flatten ∧
      outcomes = readings ++ (s.source.delivery s.idleTimeout).readings

theorem reached_new (source : ByteStream) (idle : Duration) :
    Reached (source.delivery idle).readings [] [] (new source idle) where
  consumed := List.nil_prefix
  determined := rfl
  held := rfl
  openLine _ := ⟨[], rfl, rfl, rfl⟩

variable {outcomes readings : List Reading} {given : List Fragment} {s : FragmentStream}

theorem Reached.pop {fragment : Fragment} {pending : List Fragment}
    (h : Reached outcomes readings given s) (hpending : s.pending = fragment :: pending) :
    Reached outcomes readings (given ++ [fragment]) { s with pending } where
  consumed := h.consumed
  determined := by rw [h.determined, hpending, List.append_assoc, List.singleton_append]
  held := h.held
  openLine := h.openLine

theorem receive_chunk (h : s.held = true) (hpending : s.pending = []) (bytes : List UInt8)
    (rest : ByteStream) :
    s.receive (.chunk bytes, rest) =
      { source := rest
        held := !(completedLines (s.decoder.buffer ++ bytes)).any (·.isTerminal)
        decoder := ⟨openPiece endsLine (s.decoder.buffer ++ bytes)⟩
        pending := StreamLine.yields (completedLines (s.decoder.buffer ++ bytes))
        idleTimeout := s.idleTimeout } := by
  rw [receive, absorbBytes_of_held h, hpending]
  rfl

theorem receive_end (h : s.held = true) (hpending : s.pending = [])
    (hline : ∀ b ∈ s.decoder.buffer, endsLine b = false) (ending : Ending) (rest : ByteStream) :
    (s.receive (ending.reading, rest)).held = false ∧
      (s.receive (ending.reading, rest)).pending = fragmentsOf s.decoder.buffer ending := by
  cases ending with
  | complete =>
      rw [Ending.reading, receive, absorbEnd_of_held h, hpending, fragmentsOf_complete hline]
      exact ⟨rfl, rfl⟩
  | failed cause =>
      rw [Ending.reading, receive, fragmentsOf_failed hline]
      exact ⟨rfl, rfl⟩

/-- One read, made when nothing is pending. -/
theorem Reached.readOn (h : Reached outcomes readings given s) (hheld : s.held = true)
    (hpending : s.pending = []) : Reached outcomes (readings ++ [s.reading]) given s.readOn := by
  obtain ⟨chunks, rfl, hbuffer, houtcomes⟩ := h.openLine hheld
  have hunsettled : settled (chunks.map .chunk) = false := by
    simpa [hheld] using h.held
  have hgiven : CodeMentor.determined (chunks.map .chunk) = given := by
    rw [h.determined, hpending, List.append_nil]
  rw [FragmentStream.readOn, FragmentStream.reading]
  obtain ⟨bytes, rest, hread, hrest⟩ | ⟨ending, rest, hread, hlast⟩ :=
    readOnce_cases s.idleTimeout 0 s.source
  · have hchunks : chunks.map Reading.chunk ++ [.chunk bytes] = (chunks ++ [bytes]).map .chunk := by
      simp
    have hreads : outcomes = (chunks ++ [bytes]).map .chunk ++
        (rest.delivery s.idleTimeout).readings := by
      rw [houtcomes, ByteStream.delivery, hrest, ← hchunks, List.append_cons]
    have hopen : openPiece endsLine (s.decoder.buffer ++ bytes) =
        openPiece endsLine (chunks ++ [bytes]).flatten := by
      rw [hbuffer, List.flatten_append, List.flatten_singleton,
        openPiece_append endsLine chunks.flatten]
    rw [hread, receive_chunk hheld hpending, hchunks]
    constructor
    · exact ⟨_, hreads.symm⟩
    · rw [determined_concat hunsettled, hgiven, hbuffer]
    · rw [settled_concat hunsettled, hbuffer]
    · intro _
      exact ⟨chunks ++ [bytes], rfl, hopen, hreads⟩
  · have hline : ∀ b ∈ s.decoder.buffer, endsLine b = false := by
      rw [hbuffer]
      exact separates_eq_false_of_mem_openPiece _ _
    have hreads : outcomes = chunks.map .chunk ++ [ending.reading] := by
      rw [houtcomes, ByteStream.delivery, hlast]
    have hsettled : settled (chunks.map .chunk ++ [ending.reading]) = true :=
      settled_readings ⟨chunks, ending⟩
    obtain ⟨hreleased, hleft⟩ := receive_end hheld hpending hline ending rest
    rw [hread]
    constructor
    · exact ⟨[], by rw [List.append_nil, hreads]⟩
    · rw [determined_end hunsettled, hgiven, hleft, hbuffer]
    · rw [hreleased, hsettled]
      rfl
    · intro hagain
      rw [hreleased] at hagain
      contradiction

theorem pull_of_exhausted (hheld : s.held = false) (hpending : s.pending = []) :
    s.pull = ⟨[], [], s⟩ := by
  rw [FragmentStream.pull, hpending]
  simp [hheld]

/-- A pull reads nothing when something is pending or the connection has been let go. -/
theorem pull_of_needless (h : s.pending ≠ [] ∨ s.held = false) :
    s.pull.readings = [] ∧ s.pull.after.source = s.source ∧ s.pull.after.held = s.held := by
  cases hpending : s.pending with
  | nil =>
      have hheld : s.held = false := by simpa [hpending] using h
      rw [pull_of_exhausted hheld hpending]
      exact ⟨rfl, rfl, rfl⟩
  | cons fragment pending =>
      have hpull : s.pull = ⟨[], [fragment], { s with pending }⟩ := by
        rw [FragmentStream.pull, hpending]
      rw [hpull]
      exact ⟨rfl, rfl, rfl⟩

/-- A connection that has been let go is left alone. -/
theorem pulls_of_released {count : Nat} (h : (s.pulls count).after.held = false) (later : Nat) :
    (s.pulls (count + later)).readings = (s.pulls count).readings ∧
      (s.pulls (count + later)).after.source = (s.pulls count).after.source ∧
      (s.pulls (count + later)).after.held = false := by
  induction later with
  | zero => exact ⟨rfl, rfl, h⟩
  | succ later ih =>
      obtain ⟨hreadings, hsource, hheld⟩ := ih
      obtain ⟨hnone, hleft, hstill⟩ := pull_of_needless (.inr hheld)
      rw [← Nat.add_assoc, pulls, hnone, List.append_nil]
      exact ⟨hreadings, hleft.trans hsource, hstill.trans hheld⟩

/-- What a pull does from a stream that has been reached. It reads only while what has been read
determines no further fragment and does not end the output. -/
theorem Reached.pull (h : Reached outcomes readings given s) :
    Reached outcomes (readings ++ s.pull.readings) (given ++ s.pull.fragments) s.pull.after ∧
      (∀ m < s.pull.readings.length,
        CodeMentor.determined (readings ++ s.pull.readings.take m) = given ∧
          settled (readings ++ s.pull.readings.take m) = false) ∧
      (s.pull.fragments.length = 1 ∨
        s.pull.fragments = [] ∧ s.pull.after.held = false ∧ s.pull.after.pending = []) := by
  fun_induction FragmentStream.pull s generalizing readings with
  | case1 s fragment pending hpending =>
      rw [List.append_nil]
      exact ⟨h.pop hpending, nofun, .inl rfl⟩
  | case2 s hpending hheld ih =>
      obtain ⟨hafter, hbefore, hgives⟩ := ih (h.readOn hheld hpending)
      rw [List.append_assoc, List.singleton_append] at hafter
      refine ⟨hafter, ?_, hgives⟩
      -- Before the read nothing was pending; behind it, the pull goes on as from there.
      intro m hm
      cases m with
      | zero =>
          have hsettled := h.held
          rw [hheld] at hsettled
          rw [List.take_zero, List.append_nil, h.determined, hpending, List.append_nil]
          exact ⟨rfl, by simpa using hsettled⟩
      | succ m =>
          have hread := hbefore m (Nat.lt_of_succ_lt_succ hm)
          rw [List.append_assoc, List.singleton_append] at hread
          exact hread
  | case3 s hpending hheld =>
      rw [List.append_nil, List.append_nil]
      exact ⟨h, nofun, .inr ⟨rfl, by simpa using hheld, hpending⟩⟩

/-- What `count` pulls do. As long as there is something to give, each gives a fragment; the reads
before the last determine fewer fragments than that and do not end the output. -/
theorem Reached.pulls (h : Reached outcomes [] [] s) (count : Nat) :
    Reached outcomes (s.pulls count).readings (s.pulls count).fragments (s.pulls count).after ∧
      (∀ m < (s.pulls count).readings.length,
        (CodeMentor.determined ((s.pulls count).readings.take m)).length < count ∧
          settled ((s.pulls count).readings.take m) = false) ∧
      ((s.pulls count).fragments.length = count ∨ (s.pulls count).fragments.length < count ∧
        (s.pulls count).after.held = false ∧ (s.pulls count).after.pending = []) := by
  induction count with
  | zero => exact ⟨h, nofun, .inl rfl⟩
  | succ count ih =>
      obtain ⟨hrun, hbefore, hgiven⟩ := ih
      obtain ⟨hafter, hneeded, hgives⟩ := hrun.pull
      rw [FragmentStream.pulls]
      have hle : (s.pulls count).fragments.length ≤ count := by omega
      refine ⟨hafter, ?_, ?_⟩
      · -- The first `m` reads end among those of the earlier pulls or among those of this one.
        intro m hm
        rw [List.take_append]
        obtain hlt | hge := Nat.lt_or_ge m (s.pulls count).readings.length
        · rw [Nat.sub_eq_zero_of_le hlt.le, List.take_zero, List.append_nil]
          have hfirst := hbefore m hlt
          exact ⟨hfirst.1.trans (Nat.lt_succ_self _), hfirst.2⟩
        · have hlast := hneeded (m - (s.pulls count).readings.length) (by simp at hm; omega)
          rw [List.take_of_length_le hge, hlast.1]
          exact ⟨Nat.lt_succ_of_le hle, hlast.2⟩
      · rw [List.length_append]
        obtain hcount | ⟨-, hreleased, hempty⟩ := hgiven
        · obtain hone | ⟨hnone, hreleased, hempty⟩ := hgives
          · left
            omega
          · right
            rw [hnone]
            exact ⟨Nat.lt_succ_of_le hle, hreleased, hempty⟩
        · right
          rw [pull_of_exhausted hreleased hempty]
          exact ⟨Nat.lt_succ_of_le hle, hreleased, hempty⟩

/-- The fragments that pulls give are the first of the stream. If they are fewer than the pulls,
the reads hold an end of the output. -/
theorem given_by_pulls (source : ByteStream) (idle : Duration) (count : Nat) :
    ((new source idle).pulls count).fragments = (new source idle).fragments.take count ∧
      ((new source idle).fragments.length < count →
        settled ((new source idle).pulls count).readings = true) := by
  have hwhole := fragments_new source idle
  obtain ⟨hreached, -, hcount⟩ := (reached_new source idle).pulls count
  have hprefix := determined_prefix hreached.consumed
  have hgiven := hreached.determined
  rw [← hwhole] at hprefix
  obtain hfull | ⟨hfew, hreleased, hempty⟩ := hcount
  · have hfirst : ((new source idle).pulls count).fragments <+: (new source idle).fragments := by
      apply List.IsPrefix.trans _ hprefix
      rw [hgiven]
      exact List.prefix_append _ _
    constructor
    · have htake := List.prefix_iff_eq_take.mp hfirst
      rw [hfull] at htake
      exact htake
    · intro hshort
      have hle := hfirst.length_le
      omega
  · have hsettled : settled ((new source idle).pulls count).readings = true := by
      have hheld := hreached.held
      rw [hreleased] at hheld
      simpa using hheld
    have hall : (new source idle).fragments = ((new source idle).pulls count).fragments := by
      rw [hwhole, ← determined_of_settled hreached.consumed hsettled, hgiven, hempty,
        List.append_nil]
    constructor
    · rw [hall, List.take_of_length_le hfew.le]
    · intro _
      exact hsettled

/-- Reads from the front that have a property which none of their beginnings has are the fewest
with it. -/
theorem isLeast_length_of_prefix (p : List Reading → Prop) (hconsumed : readings <+: outcomes)
    (h : p readings) (hbefore : ∀ m < readings.length, ¬ p (readings.take m)) :
    IsLeast {m | p (outcomes.take m)} readings.length := by
  have hreadings : outcomes.take readings.length = readings :=
    (List.prefix_iff_eq_take.mp hconsumed).symm
  constructor
  · rw [Set.mem_ofPred_eq, hreadings]
    exact h
  · intro m hm
    by_contra hlt
    have hm' := hbefore m (Nat.not_le.mp hlt)
    rw [← hreadings, List.take_take, Nat.min_eq_left (Nat.not_le.mp hlt).le] at hm'
    exact hm' hm

/-- Pulling reads no further than it must. After `count` pulls, the reads are the fewest that
determine `count` fragments or, if the stream has fewer, the fewest that hold an end of the output.
Nothing is read for what is pending. The connection is held exactly as long as nothing read ends
the output, and once it has been let go it is left alone. -/
theorem pulls_read_no_further (source : ByteStream) (idle : Duration) (count : Nat) :
    let s := new source idle
    let outcomes := (source.delivery idle).readings
    let run := s.pulls count
    run.readings <+: outcomes ∧
      run.fragments = s.fragments.take count ∧
      run.after.next = run.after.pull.fragments.head?.map (·, run.after.pull.after) ∧
      (count ≤ s.fragments.length →
        IsLeast {m | count ≤ (determined (outcomes.take m)).length} run.readings.length) ∧
      (s.fragments.length < count →
        IsLeast {m | settled (outcomes.take m) = true} run.readings.length) ∧
      (run.after.pending ≠ [] →
        run.after.pull.readings = [] ∧ run.after.pull.after.source = run.after.source ∧
          run.after.pull.after.held = run.after.held) ∧
      (run.after.held = true ↔ settled run.readings = false) ∧
      (run.after.held = true →
        outcomes = run.readings ++ (run.after.source.delivery run.after.idleTimeout).readings) ∧
      (run.after.held = false → ∀ later,
        (s.pulls (count + later)).readings = run.readings ∧
          (s.pulls (count + later)).after.source = run.after.source ∧
          (s.pulls (count + later)).after.held = false) := by
  intro s outcomes run
  obtain ⟨hreached, hbefore, -⟩ := (reached_new source idle).pulls count
  obtain ⟨hgiven, hend⟩ := given_by_pulls source idle count
  refine ⟨hreached.consumed, hgiven, next_eq_pull _, ?_, ?_, ?_, ?_, ?_, pulls_of_released⟩
  · intro hcount
    apply isLeast_length_of_prefix (fun reads ↦ count ≤ (determined reads).length)
      hreached.consumed
    · rw [hreached.determined, hgiven, List.length_append, List.length_take_of_le hcount]
      exact Nat.le_add_right _ _
    · intro m hm
      exact Nat.not_le.mpr (hbefore m hm).1
  · intro hshort
    apply isLeast_length_of_prefix (fun reads ↦ settled reads = true) hreached.consumed
    · exact hend hshort
    · intro m hm
      exact ne_true_of_eq_false (hbefore m hm).2
  · intro hpending
    exact pull_of_needless (.inl hpending)
  · rw [hreached.held, Bool.not_eq_true']
  · intro hheld
    obtain ⟨-, -, -, hunread⟩ := hreached.openLine hheld
    exact hunread

end FragmentStream

end CodeMentor
