import CodeMentor.Proofs.Backend.Draining
import CodeMentor.Proofs.Text.Lossy

/-!
# Lines of a decoder

A line decoder sees bytes in chunks, cuts them where a newline stands and reads each line by itself.
The main result says that nothing of this shows: whatever the chunks, it gives the lines of the text
that all bytes make together, also where they are no text. Two things are in the way of this, and
both fall away because a newline byte is a character by itself: what is left open of a line stays in
the buffer until its newline comes, and a malformed character does not reach over the newline.
-/

namespace CodeMentor

open CodeMentor.Text

/-! ## Lines of bytes and lines of text -/

theorem pieces_lossy_line {line : List UInt8} (hline : ∀ b ∈ line, endsLine b = false) :
    pieces (· == '\n') (Utf8.lossy line).toList = [(Utf8.lossy line).toList] := by
  refine pieces_eq_singleton fun c hc ↦ ?_
  by_contra hends
  obtain rfl : c = '\n' := by simpa using hends
  cases hline _ (Utf8.mem_of_mem_lossy hc (by decide))

/-- Reading the pieces of bytes by themselves gives the pieces of what is read of all bytes. -/
theorem map_lossy_pieces (bytes : List UInt8) :
    (pieces endsLine bytes).map (fun line ↦ (Utf8.lossy line).toList) =
      pieces (· == '\n') (Utf8.lossy bytes).toList := by
  induction bytes using pieces_induction endsLine with
  | piece line hline =>
      rw [pieces_eq_singleton hline, pieces_lossy_line hline]
      rfl
  | cut line b rest hline hb ih =>
      obtain rfl : b = newlineByte := by simpa using hb
      have hnewline : Char.ofNat newlineByte.toNat = '\n' := rfl
      rw [pieces_append_cons hb, List.map_append, ih, pieces_eq_singleton hline,
        Utf8.lossy_append_cons (by decide), hnewline, pieces_append_cons (by decide),
        pieces_lossy_line hline]
      rfl

theorem rawLines_eq (text : List Char) :
    rawLines text = (pieces (· == '\n') text).dropLast ++
      if openPiece (· == '\n') text = [] then [] else [openPiece (· == '\n') text] := by
  have hsplit := dropLast_append_openPiece (· == '\n') text
  have hlast : (pieces (· == '\n') text).getLast? = some (openPiece (· == '\n') text) := by
    rw [← hsplit, List.getLast?_concat]
  rw [rawLines, hlast]
  by_cases hopen : openPiece (· == '\n') text = []
  · simp [hopen]
  · simp [hopen, hsplit]

theorem openPiece_lossy (bytes : List UInt8) :
    openPiece (· == '\n') (Utf8.lossy bytes).toList =
      (Utf8.lossy (openPiece endsLine bytes)).toList := by
  rw [openPiece, ← map_lossy_pieces, ← dropLast_append_openPiece endsLine bytes, List.map_append,
    List.map_singleton, List.getLast?_concat, Option.getD_some]

/-- The lines of complete bytes are those of the text that is read of them. -/
theorem linesOf_complete (bytes : List UInt8) :
    linesOf bytes .complete = (rawLines (Utf8.lossy bytes).toList).map String.ofList := by
  have hread : ∀ line : List UInt8, String.ofList (Utf8.lossy line).toList = Utf8.lossy line :=
    fun line ↦ String.ofList_toList
  rw [linesOf_eq, rawLines_eq, openPiece_lossy, ← map_lossy_pieces, ← List.map_dropLast,
    List.map_append, List.map_append, List.map_map]
  congr 1
  · exact List.map_congr_left fun line _ ↦ (hread line).symm
  · by_cases hlast : openPiece endsLine bytes = []
    · simp [hlast]
    · simp [hlast]

/-! ## Pushing chunks -/

namespace LineDecoder

/-- Push chunks in order: the lines that they complete, and the decoder behind them. -/
def pushAll (d : LineDecoder) : List (List UInt8) → List String × LineDecoder
  | [] => ([], d)
  | chunk :: rest =>
    let (lines, d) := d.push chunk
    let (more, d) := d.pushAll rest
    (lines ++ more, d)

/-- Push chunks in order and then finish: all lines, and the decoder at the end. -/
def decode (d : LineDecoder) (chunks : List (List UInt8)) : List String × LineDecoder :=
  let (lines, d) := d.pushAll chunks
  let (last, d) := d.finish
  (lines ++ last.toList, d)

theorem push_eq (d : LineDecoder) (bytes : List UInt8) :
    d.push bytes =
      ((pieces endsLine (d.buffer ++ bytes)).dropLast.map Utf8.lossy,
        ⟨openPiece endsLine (d.buffer ++ bytes)⟩) := rfl

theorem newline_not_mem_push (d : LineDecoder) (bytes : List UInt8) :
    newlineByte ∉ (d.push bytes).2.buffer := by
  intro hmem
  cases separates_eq_false_of_mem_openPiece endsLine (d.buffer ++ bytes) _ hmem

/-- The buffer holds the open line of all bytes so far, and the lines before it have been given. -/
theorem pushAll_eq {d : LineDecoder} (hd : ∀ b ∈ d.buffer, endsLine b = false)
    (chunks : List (List UInt8)) :
    d.pushAll chunks =
      ((pieces endsLine (d.buffer ++ chunks.flatten)).dropLast.map Utf8.lossy,
        ⟨openPiece endsLine (d.buffer ++ chunks.flatten)⟩) := by
  induction chunks generalizing d with
  | nil =>
      rw [pushAll, List.flatten_nil, List.append_nil, pieces_eq_singleton hd, openPiece_eq_self hd]
      rfl
  | cons chunk rest ih =>
      have hopen : ∀ b ∈ (d.push chunk).2.buffer, endsLine b = false :=
        separates_eq_false_of_mem_openPiece endsLine (d.buffer ++ chunk)
      simp only [pushAll, ih hopen]
      rw [push_eq, List.flatten_cons, ← List.append_assoc,
        dropLast_pieces_append endsLine (d.buffer ++ chunk),
        openPiece_append endsLine (d.buffer ++ chunk), List.map_append]

theorem decode_empty (chunks : List (List UInt8)) :
    empty.decode chunks = (linesOf chunks.flatten .complete, empty) := by
  have hbuffer : ∀ b ∈ empty.buffer, endsLine b = false := by simp [empty]
  rw [decode, pushAll_eq hbuffer, linesOf_eq]
  simp only [empty, List.nil_append, finish]
  by_cases hopen : openPiece endsLine chunks.flatten = []
  · simp [hopen]
  · simp [hopen]

/-- Chunks pushed one after another and then the end give, in order, the lines of the text that all
bytes together make, wherever the bytes are cut and whether they are text or not. No newline stays
in the buffer behind a push, and nothing at all behind the end. -/
theorem decode_eq_rawLines :
    (∀ chunks : List (List UInt8), empty.decode chunks =
      ((rawLines (Utf8.lossy chunks.flatten).toList).map String.ofList, empty)) ∧
    (∀ (d : LineDecoder) (bytes : List UInt8), newlineByte ∉ (d.push bytes).2.buffer) ∧
    ∀ d : LineDecoder, d.finish.2.buffer = [] := by
  refine ⟨?_, newline_not_mem_push, fun d ↦ rfl⟩
  intro chunks
  rw [decode_empty, linesOf_complete]

/-- The first line ends within a character, and the second begins with one that is broken off. -/
example : (empty.decode [[0xE2, 0x82], [0x0A, 0xC3], [0x28, 0x0A]]).1 = ["\uFFFD", "\uFFFD("] := by
  decide +kernel

end LineDecoder

end CodeMentor
