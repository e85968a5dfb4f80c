import CodeMentor.Proofs.Backend.ReportedErrors
import CodeMentor.Proofs.Json.Printing

/-!
# Texts sent in chunks

The backend sends a text as chunks, each the compact JSON of a piece on a line of its own, and marks
the last one. Escapes keep every newline of the text out of the lines, so the lines are cut where the
backend ended them, and each is read as the chunk that was sent. What follows the marked chunk is
not looked at. The main result says that the pieces arrive as they were sent, however the bytes are
cut, and that the whole text is what a buffered answer would have given.
-/

namespace CodeMentor

open CodeMentor.Text

/-! ## One chunk -/

namespace Chunk

theorem writable_toJson (c : Chunk) : c.toJson.Writable := by
  apply Json.Writable.object
  simp only [List.forall_mem_cons]
  exact ⟨.string c.response, .bool c.done, by simp⟩

/-- The bytes of a chunk on a line of its own. -/
def line (c : Chunk) : List UInt8 :=
  Utf8.encode c.toJson.compact ++ [newlineByte]

theorem parse_compact (c : Chunk) : StreamLine.parse c.toJson.compact = .chunk c := by
  have hobject := Json.parse?_compact c.writable_toJson
  rw [parse_of_object hobject]
  rfl

theorem readGeneration_compact (c : Chunk) : readGeneration c.toJson.compact = .ok c.response := by
  have hobject := Json.parse?_compact c.writable_toJson
  have hreply : GenerateReply.ofJson? c.toJson = some ⟨some c.response, none⟩ := rfl
  rw [readGeneration, readBody, hobject, Option.bind_some, hreply]
  rfl

/-- A chunk at the front of the bytes adds its text, unless that is empty, and what is behind it
counts unless the chunk is marked as the last. -/
theorem fragmentsOf_line_append (c : Chunk) (rest : List UInt8) (ending : Ending) :
    fragmentsOf (c.line ++ rest) ending =
      ([c.response].filter (· ≠ "")).map .ok ++
        if c.done then [] else fragmentsOf rest ending := by
  have hline : ∀ b ∈ Utf8.encode c.toJson.compact, endsLine b = false :=
    endsLine_eq_false_of_mem_encode (Json.newline_not_mem_compact c.writable_toJson)
  rw [line, List.append_assoc, List.singleton_append, fragmentsOf_line hline, Utf8.lossy_encode,
    c.parse_compact]
  congr 1
  by_cases hempty : c.response = "" <;>
    simp [StreamLine.yield, StreamLine.text?, String.isEmpty_iff, hempty]

end Chunk

/-! ## All chunks -/

/-- The chunks of an output, of which the last is marked. -/
def chunksOf : List String → List Chunk
  | [] => []
  | [text] => [⟨text, true⟩]
  | text :: texts => ⟨text, false⟩ :: chunksOf texts

def sentBytes (texts : List String) : List UInt8 :=
  (chunksOf texts).flatMap Chunk.line

/-- The induction is on the texts; only the last chunk keeps the bytes behind it out. -/
theorem fragmentsOf_sentBytes {texts : List String} (hne : texts ≠ []) (after : List UInt8)
    (ending : Ending) :
    fragmentsOf (sentBytes texts ++ after) ending = (texts.filter (· ≠ "")).map .ok := by
  induction texts with
  | nil => exact absurd rfl hne
  | cons text texts ih =>
      cases texts with
      | nil =>
          have hsent : sentBytes [text] = Chunk.line ⟨text, true⟩ := by
            simp [sentBytes, chunksOf]
          rw [hsent, Chunk.fragmentsOf_line_append]
          simp
      | cons next texts =>
          have hsent : sentBytes (text :: next :: texts) =
              Chunk.line ⟨text, false⟩ ++ sentBytes (next :: texts) := by
            simp [sentBytes, chunksOf]
          have hfilter : (text :: next :: texts).filter (· ≠ "") =
              [text].filter (· ≠ "") ++ (next :: texts).filter (· ≠ "") :=
            List.filter_append [text] (next :: texts)
          rw [hsent, List.append_assoc, Chunk.fragmentsOf_line_append,
            ih (List.cons_ne_nil next texts), hfilter, List.map_append]
          rfl

theorem FragmentStream.joinFragments_ok (texts : List String) :
    joinFragments (texts.map .ok) = .ok (String.join texts) := by
  induction texts with
  | nil => rfl
  | cons text texts ih =>
      rw [List.map_cons, joinFragments, ih, String.join_cons]
      rfl

theorem join_filter_ne_empty (texts : List String) :
    String.join (texts.filter (· ≠ "")) = String.join texts := by
  induction texts with
  | nil => rfl
  | cons text texts ih =>
      by_cases hempty : text = "" <;> simpa [String.join_cons, hempty] using ih

/-- The bytes of all chunks arrive, in any cut and with anything behind them. The fragments are the
texts that were sent, without the empty ones. Joined they are the whole text, and a buffered answer
that carries the whole text in one chunk gives the same. -/
theorem sent_texts_arrive {texts : List String} (hne : texts ≠ []) (source : ByteStream)
    (idle : Duration) (after : List UInt8)
    (hsent : (source.delivery idle).content = sentBytes texts ++ after) :
    let s := FragmentStream.new source idle
    let whole := String.join texts
    s.fragments = (texts.filter (· ≠ "")).map .ok ∧
      s.collect = .ok whole ∧
      (Generation.stream s).intoText = .ok whole ∧
      ∀ {σ : Type} (t : Transport σ) (config : Config) (request : Request) (w : World σ),
        AnsweredWith t config request w (Chunk.toJson ⟨whole, true⟩).compact →
        ((Client.ofConfig t config).generateText request w).1 = .ok whole := by
  intro s whole
  have hfragments : s.fragments = (texts.filter (· ≠ "")).map .ok := by
    rw [FragmentStream.fragments_new, hsent, fragmentsOf_sentBytes hne]
  have hcollect : s.collect = .ok whole := by
    change FragmentStream.joinFragments s.fragments = _
    rw [hfragments, FragmentStream.joinFragments_ok, join_filter_ne_empty]
  refine ⟨hfragments, hcollect, hcollect, ?_⟩
  intro σ t config request w hanswered
  rw [generateText_of_answered hanswered, Chunk.readGeneration_compact]

/-- Texts with a newline, a quote and a control character, an empty one between them. The first
chunk of bytes ends inside a character, and a byte that is no text follows the last line. -/
theorem sent_texts_arrive_cut :
    let texts := ["é\n", "", "\"\x01"]
    let bytes := sentBytes texts ++ [0xFF]
    let s := FragmentStream.new [.bytes (bytes.take 14), .bytes (bytes.drop 14)] (.ofSeconds 1)
    let body := (Chunk.toJson ⟨"é\n\"\x01", true⟩).compact
    let w : World Script := ⟨{ Script.empty with generate := [.ok body] }, []⟩
    s.fragments = [.ok "é\n", .ok "\"\x01"] ∧ s.collect = .ok "é\n\"\x01" ∧
      ((Client.ofConfig Script.transport .standard).generateText ⟨"hi", "m", 30, false⟩ w).1 =
        .ok "é\n\"\x01" := by
  intro texts bytes s body w
  have hsent : (ByteStream.delivery [.bytes (bytes.take 14), .bytes (bytes.drop 14)]
      (.ofSeconds 1)).content = sentBytes texts ++ [0xFF] := by
    have hdelivery := ByteStream.delivery_chunks [bytes.take 14, bytes.drop 14] (.ofSeconds 1)
    simp only [List.map_cons, List.map_nil] at hdelivery
    rw [hdelivery]
    simp only [Delivery.content, List.flatten_cons, List.flatten_nil, List.append_nil,
      List.take_append_drop]
    rfl
  have hanswered : AnsweredWith Script.transport .standard ⟨"hi", "m", 30, false⟩ w body :=
    ⟨0, by decide, by simp, rfl⟩
  obtain ⟨hfragments, hcollect, -, hbuffered⟩ :=
    @sent_texts_arrive texts (List.cons_ne_nil _ _) _ _ _ hsent
  exact ⟨hfragments, hcollect, hbuffered _ _ _ w hanswered⟩

end CodeMentor
