import CodeMentor.Proofs.Backend.ReportedErrors

/-!
# One answer in both modes

A whole answer is decoded after the attempts; a stream is cut into lines, and each line is trimmed,
decoded by another record, queued and collected. The main result says that an object which both can
read comes to the same in either mode: to the error that it reports or else to its text.
-/

namespace CodeMentor

open CodeMentor.Text

/-! ## What both records read -/

/-- The members can be read in both modes: no name occurs twice, the text is given, the end is marked
by a truth value or not at all, and an error is a text, null or missing. -/
structure SharedAnswer (members : List (String × Json)) (text : String) : Prop where
  names : (members.map (·.1)).Nodup
  response : ("response", .string text) ∈ members
  flag : ∀ j, ("done", j) ∈ members → ∃ b, j = .bool b
  error : ∀ j, ("error", j) ∈ members → j = .null ∨ ∃ message, j = .string message

theorem Json.exists_fieldOf? {members : List (String × Json)}
    (h : (members.map (·.1)).Nodup) (name : String) :
    ∃ v, fieldOf? members (name, .defaulted) = some v := by
  rw [← Option.ne_none_iff_exists', ne_eq, fieldOf?_eq_none_iff, not_lt]
  have hcount := List.nodup_iff_count_le_one.mp h name
  rwa [List.count, List.countP_map] at hcount

namespace SharedAnswer

variable {members : List (String × Json)} {text : String}

/-- Both records find the text and the same error; that one of them also looks for the end makes no
difference. -/
theorem exists_records (h : SharedAnswer members text) :
    ∃ error : Option String, (∀ m, ("error", .string m) ∈ members ↔ error = some m) ∧
      GenerateReply.ofJson? (.object members) = some ⟨some text, error⟩ ∧
      ∃ done, StreamPayload.ofJson? (.object members) = some ⟨text, done, error⟩ := by
  obtain ⟨response, hresponse⟩ := Json.exists_fieldOf? h.names "response"
  obtain ⟨done, hdone⟩ := Json.exists_fieldOf? h.names "done"
  obtain ⟨error, herror⟩ := Json.exists_fieldOf? h.names "error"
  obtain rfl : response = some (.string text) :=
    (Json.mem_iff_of_fieldOf? hresponse _).mp h.response
  obtain ⟨b, hb⟩ := (exists_flag_iff done).mpr fun j hj ↦
    h.flag j ((Json.mem_iff_of_fieldOf? hdone j).mpr hj)
  obtain ⟨message, hmessage, hiff⟩ : ∃ message, Json.absent? Json.text? error = some message ∧
      ∀ m, error = some (.string m) ↔ message = some m := by
    cases error with
    | none => exact ⟨none, rfl, by simp⟩
    | some j =>
        rcases h.error j ((Json.mem_iff_of_fieldOf? herror j).mpr rfl) with rfl | ⟨m, rfl⟩
        · exact ⟨none, rfl, by simp⟩
        · exact ⟨some m, rfl, by simp⟩
  refine ⟨message, ?_, ?_, b, ?_⟩
  · intro m
    rw [Json.mem_iff_of_fieldOf? herror, hiff]
  · have htext : Json.absent? Json.text? (some (.string text)) = some (some text) := rfl
    simp [GenerateReply.ofJson?_object, hresponse, herror, hmessage, htext]
  · have htext : Json.orElse? "" Json.text? (some (.string text)) = some text := rfl
    simp [StreamPayload.ofJson?_object, hresponse, hdone, herror, hmessage, hb, htext]

end SharedAnswer

/-! ## One line alone -/

/-- The bytes are one line, with or without a newline behind it, and complete with it. -/
structure Delivery.IsLine (d : Delivery) (line : List UInt8) : Prop where
  content : d.content = line ∨ d.content = line ++ [newlineByte]
  ending : d.ending = .complete

theorem Delivery.IsLine.hasLine {d : Delivery} {line : List UInt8} (h : d.IsLine line) :
    d.HasLine [] line [] := by
  refine ⟨.inl rfl, rfl, ?_⟩
  rcases h.content with hcontent | hcontent
  · exact .inr ⟨by simpa using hcontent, rfl, h.ending⟩
  · exact .inl (by simpa using hcontent)

theorem encode_ne_nil_of_parse? {body : String} {j : Json} (h : Json.parse? body = some j) :
    Utf8.encode body ≠ [] := by
  intro hnil
  have hbody : body = "" := by rw [← Utf8.lossy_encode body, hnil]; rfl
  rw [hbody] at h
  cases h

theorem FragmentStream.fragments_of_isLine {source : ByteStream} {idle : Duration} {body : String}
    (h : (source.delivery idle).IsLine (Utf8.encode body)) (hline : '\n' ∉ body.toList)
    (hne : Utf8.encode body ≠ []) :
    (new source idle).fragments = (StreamLine.parse body).yield := by
  have hnil : fragmentsOf [] Ending.complete = [] := rfl
  rw [fragments_new,
    h.hasLine.fragmentsOf_content (endsLine_eq_false_of_mem_encode hline) hne, Utf8.lossy_encode,
    h.ending, hnil, ite_self, List.append_nil]
  exact List.nil_append _

/-- The text of a line that is a chunk is collected whole, be it empty or not. -/
theorem FragmentStream.joinFragments_yield_chunk (c : Chunk) :
    joinFragments (StreamLine.chunk c).yield = .ok c.response := by
  by_cases hempty : c.response = "" <;>
    simp [StreamLine.yield, StreamLine.text?, String.isEmpty_iff, hempty, joinFragments, Except.map]

variable {σ : Type}

/-- An object on one line that both modes can read is the answer to a call for a whole text, and the
only line of a stream. Both calls come to the same: to the error that the object reports, and without
one to its text, which may be empty. -/
theorem modes_agree (t : Transport σ) (config : Config) (request : Request) (w : World σ)
    {body text : String} {members : List (String × Json)}
    (hobject : Json.parse? body = some (.object members)) (hline : '\n' ∉ body.toList)
    (hshared : SharedAnswer members text) (hanswered : AnsweredWith t config request w body)
    (source : ByteStream) (idle : Duration)
    (hdelivered : (source.delivery idle).IsLine (Utf8.encode body)) :
    let buffered := ((Client.ofConfig t config).generateText request w).1
    let streamed := (FragmentStream.new source idle).collect
    buffered = streamed ∧
      (∀ m, ("error", .string m) ∈ members → streamed = .error (.reported m)) ∧
      ((∀ m, ("error", .string m) ∉ members) → streamed = .ok text) := by
  intro buffered streamed
  have hne := encode_ne_nil_of_parse? hobject
  obtain ⟨error, herror, hreply, done, hpayload⟩ := hshared.exists_records
  have hbuffered : buffered = readGeneration body := generateText_of_answered hanswered
  have hstreamed : streamed = FragmentStream.joinFragments (StreamLine.parse body).yield := by
    rw [← FragmentStream.fragments_of_isLine hdelivered hline hne]
    rfl
  simp only [readGeneration, readBody, hobject, Option.bind_some, hreply] at hbuffered
  rw [parse_of_object hobject, hpayload] at hstreamed
  cases error with
  | some message =>
      have hwhole : buffered = .error (.reported message) := hbuffered
      have hjoined : streamed = .error (.reported message) := hstreamed
      refine ⟨hwhole.trans hjoined.symm, ?_, ?_⟩
      · intro m hm
        obtain rfl : message = m := by simpa using (herror m).mp hm
        exact hjoined
      · intro hnone
        exact absurd ((herror message).mpr rfl) (hnone message)
  | none =>
      have hwhole : buffered = .ok text := hbuffered
      have hjoined : streamed = .ok text := by
        rw [hstreamed]
        exact FragmentStream.joinFragments_yield_chunk ⟨text, done⟩
      refine ⟨hwhole.trans hjoined.symm, ?_, fun _ ↦ hjoined⟩
      intro m hm
      cases (herror m).mp hm

/-- A line with an escape and a member that neither record knows, cut inside a character. The call
for a whole text is answered at the second attempt. -/
theorem modes_agree_cut :
    let body := "\x7b\"tags\":[1],\"error\":null,\"response\":\"é\\n\"\x7d"
    let bytes := Utf8.encode body
    let source : ByteStream := [.bytes (bytes.take 38), .wait 5, .bytes (bytes.drop 38)]
    let w : World Script :=
      ⟨{ Script.empty with generate := [.error (.connect "refused"), .ok body] }, []⟩
    ((Client.ofConfig Script.transport .standard).generateText ⟨"hi", "m", 30, false⟩ w).1 =
        .ok "é\n" ∧
      (FragmentStream.new source (.ofSeconds 1)).collect = .ok "é\n" := by
  intro body bytes source w
  let members : List (String × Json) :=
    [("tags", .array [.number ['1']]), ("error", .null), ("response", .string "é\n")]
  have hobject : Json.parse? body = some (.object members) := by cbv
  have hshared : SharedAnswer members "é\n" :=
    ⟨by decide, by simp [members], by simp [members], by simp [members]⟩
  have hanswered : AnsweredWith Script.transport .standard ⟨"hi", "m", 30, false⟩ w body := by
    refine ⟨1, by decide, ?_, rfl⟩
    intro i hi
    obtain rfl : i = 0 := by omega
    rfl
  have hdelivered : (source.delivery (.ofSeconds 1)).IsLine bytes :=
    ⟨.inl (by decide), by decide⟩
  obtain ⟨hsame, -, htext⟩ := modes_agree Script.transport .standard ⟨"hi", "m", 30, false⟩ w
    hobject (by decide) hshared hanswered source (.ofSeconds 1) hdelivered
  have hstreamed := htext (by simp [members])
  exact ⟨hsame.trans hstreamed, hstreamed⟩

end CodeMentor
