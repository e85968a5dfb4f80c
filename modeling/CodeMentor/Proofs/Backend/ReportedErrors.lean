import CodeMentor.Proofs.Backend.Attempts
import CodeMentor.Proofs.Backend.Draining
import CodeMentor.Proofs.Json.Spelling

/-!
# Errors that the backend reports

A whole answer and a line of a stream are read by different records. Both look for an error first,
but a line is passed over when any of its members does not fit, so an error that a whole answer
reports can be lost in a stream. The main result says for which objects this happens.
-/

namespace CodeMentor

open CodeMentor.Text

/-! ## Fields of an object -/

namespace Json

variable {members : List (String × Json)} {name : String}

theorem mem_iff_of_fieldOf? {v : Option Json}
    (h : fieldOf? members (name, .defaulted) = some v) (j : Json) :
    (name, j) ∈ members ↔ v = some j := by
  have hmem : (name, j) ∈ members ↔ (name, j) ∈ members.filter (·.1 == name) := by simp
  rw [hmem]
  rw [fieldOf?] at h
  split at h
  next hnil =>
    obtain rfl : v = none := by simpa using h.symm
    simp [hnil]
  next n value hone =>
    obtain rfl : n = name := by
      have hn : (n, value) ∈ members.filter (·.1 == name) := by simp [hone]
      simpa using List.of_mem_filter hn
    obtain rfl : v = some value := by simpa using h.symm
    simp [hone, eq_comm]
  next => cases h

/-- A field that may be missing is refused when several members have its name. -/
theorem fieldOf?_eq_none_iff :
    fieldOf? members (name, .defaulted) = none ↔ 1 < members.countP (·.1 == name) := by
  rw [List.countP_eq_length_filter, fieldOf?]
  split
  next hnil => simp [hnil]
  next hone => simp [hone]
  next hnil hone =>
    rcases hf : members.filter (·.1 == name) with _ | ⟨m, _ | ⟨m', ms⟩⟩
    · exact absurd hf hnil
    · exact absurd hf (hone m.1 m.2)
    · simp [hf]

end Json

/-! ## Two records -/

/-- The members suit a line of a stream: the text is not null, and the end is marked by one truth
value or not at all. -/
structure Legible (members : List (String × Json)) : Prop where
  response : ("response", .null) ∉ members
  flag : ∀ j, ("done", j) ∈ members → ∃ b, j = .bool b
  once : members.countP (·.1 == "done") ≤ 1

theorem GenerateReply.ofJson?_object (members : List (String × Json)) :
    GenerateReply.ofJson? (.object members) = do
      let response ← Json.fieldOf? members ("response", .defaulted)
      let error ← Json.fieldOf? members ("error", .defaulted)
      return ⟨← Json.absent? Json.text? response, ← Json.absent? Json.text? error⟩ := by
  simp [GenerateReply.ofJson?, Json.fields?, Option.bind_assoc]

theorem StreamPayload.ofJson?_object (members : List (String × Json)) :
    StreamPayload.ofJson? (.object members) = do
      let response ← Json.fieldOf? members ("response", .defaulted)
      let done ← Json.fieldOf? members ("done", .defaulted)
      let error ← Json.fieldOf? members ("error", .defaulted)
      return ⟨← Json.orElse? "" Json.text? response, ← Json.orElse? false Json.flag? done,
        ← Json.absent? Json.text? error⟩ := by
  simp [StreamPayload.ofJson?, Json.fields?, Option.bind_assoc]

/-- A text that a whole answer may have suits a line unless it is null. -/
theorem exists_text_iff {response : Option Json} {text : Option String}
    (h : Json.absent? Json.text? response = some text) :
    (∃ s, Json.orElse? "" Json.text? response = some s) ↔ response ≠ some .null := by
  cases response with
  | none => simp [Json.orElse?]
  | some j =>
      cases j with
      | null => simp [Json.orElse?, Json.text?]
      | string s => simp [Json.orElse?, Json.text?]
      | _ => simp [Json.absent?, Json.orElse?, Json.nullable?, Json.text?] at h

theorem exists_flag_iff (done : Option Json) :
    (∃ b, Json.orElse? false Json.flag? done = some b) ↔ ∀ j, done = some j → ∃ b, j = .bool b := by
  cases done with
  | none => simp [Json.orElse?]
  | some j => cases j <;> simp [Json.orElse?, Json.flag?]

/-- Where a whole answer can be read, a line can be read exactly if its members suit one. -/
theorem exists_payload_iff {members : List (String × Json)} {reply : GenerateReply}
    (h : GenerateReply.ofJson? (.object members) = some reply) :
    (∃ payload, StreamPayload.ofJson? (.object members) = some payload) ↔ Legible members := by
  simp only [GenerateReply.ofJson?_object, Option.bind_eq_bind, Option.bind_eq_some_iff] at h
  obtain ⟨response, hresponse, error, herror, text, htext, message, hmessage, -⟩ := h
  have hnull : ("response", Json.null) ∈ members ↔ response = some .null :=
    Json.mem_iff_of_fieldOf? hresponse .null
  simp only [StreamPayload.ofJson?_object, hresponse, herror, hmessage, Option.bind_eq_bind,
    Option.bind_some, Option.bind_eq_some_iff, Option.pure_def, Option.some.injEq]
  constructor
  · rintro ⟨payload, done, hdone, s, hs, b, hb, -⟩
    refine ⟨?_, ?_, ?_⟩
    · rw [hnull]
      exact (exists_text_iff htext).mp ⟨s, hs⟩
    · intro j hj
      exact (exists_flag_iff done).mp ⟨b, hb⟩ j ((Json.mem_iff_of_fieldOf? hdone j).mp hj)
    · by_contra hmany
      rw [Json.fieldOf?_eq_none_iff.mpr (by omega)] at hdone
      cases hdone
  · intro hlegible
    obtain ⟨s, hs⟩ := (exists_text_iff htext).mpr fun hn ↦ hlegible.response (hnull.mpr hn)
    obtain ⟨done, hdone⟩ : ∃ done, Json.fieldOf? members ("done", .defaulted) = some done := by
      rw [← Option.ne_none_iff_exists', ne_eq, Json.fieldOf?_eq_none_iff]
      exact not_lt.mpr hlegible.once
    obtain ⟨b, hb⟩ := (exists_flag_iff done).mpr fun j hj ↦
      hlegible.flag j ((Json.mem_iff_of_fieldOf? hdone j).mpr hj)
    exact ⟨_, done, hdone, s, hs, b, hb, rfl⟩

theorem payload_error_eq {members : List (String × Json)} {reply : GenerateReply}
    {payload : StreamPayload} (hreply : GenerateReply.ofJson? (.object members) = some reply)
    (hpayload : StreamPayload.ofJson? (.object members) = some payload) :
    payload.error = reply.error := by
  simp only [GenerateReply.ofJson?_object, Option.bind_eq_bind, Option.bind_eq_some_iff,
    Option.pure_def, Option.some.injEq] at hreply
  obtain ⟨response, hresponse, error, herror, text, htext, message, hmessage, rfl⟩ := hreply
  simp only [StreamPayload.ofJson?_object, herror, hmessage, Option.bind_eq_bind, Option.bind_some,
    Option.bind_eq_some_iff, Option.pure_def, Option.some.injEq] at hpayload
  obtain ⟨response', -, done, -, s, -, b, -, rfl⟩ := hpayload
  rfl

/-! ## One line -/

theorem Error.reported_inj {m m' : String} (h : Error.reported m = Error.reported m') : m = m' := by
  rw [Error.reported, Error.reported, Error.malformed.injEq] at h
  exact (String.append_right_inj _).mp h

/-- The failures of the program's own reading start with another letter. -/
theorem Error.malformed_ne_reported {text : String} (h : text.toList.head? = some 'g')
    (message : String) : Error.malformed text ≠ .reported message := by
  intro heq
  rw [Error.reported, Error.malformed.injEq] at heq
  rw [heq] at h
  simp at h

theorem exists_reply_of_reported {body message : String} {members : List (String × Json)}
    (hobject : Json.parse? body = some (.object members))
    (h : readGeneration body = .error (.reported message)) :
    ∃ reply, GenerateReply.ofJson? (.object members) = some reply ∧
      reply.error = some message := by
  rw [readGeneration, readBody, hobject, Option.bind_some] at h
  cases hreply : GenerateReply.ofJson? (.object members) with
  | none =>
      simp only [hreply, bind, Except.bind, Except.error.injEq] at h
      exact absurd h (Error.malformed_ne_reported (by decide) message)
  | some reply =>
      refine ⟨reply, rfl, ?_⟩
      obtain ⟨response, error⟩ := reply
      cases error with
      | none =>
          cases response with
          | none =>
              simp only [hreply, bind, Except.bind, Except.error.injEq] at h
              exact absurd h (Error.malformed_ne_reported (by decide) message)
          | some text => simp [hreply, bind, Except.bind] at h
      | some m =>
          simp only [hreply, bind, Except.bind, Except.error.injEq] at h
          rw [Error.reported_inj h]

theorem readGeneration_of_error {body message : String} {response : Option String}
    (h : (Json.parse? body).bind GenerateReply.ofJson? = some ⟨response, some message⟩) :
    readGeneration body = .error (.reported message) := by
  rw [readGeneration, readBody, h]
  rfl

theorem payloadText_of_object {body : String} {members : List (String × Json)}
    (h : Json.parse? body = some (.object members)) : payloadText body = trim body := by
  obtain ⟨-, inside, htrim⟩ := Json.parse?_trim h
  simp [payloadText, htrim, stripHead?, Text.after?]

theorem parse_of_object {body : String} {members : List (String × Json)}
    (h : Json.parse? body = some (.object members)) :
    StreamLine.parse body =
      match StreamPayload.ofJson? (.object members) with
      | some payload =>
        match payload.error with
        | some message => .error message
        | none => .chunk ⟨payload.response, payload.done⟩
      | none => .skip := by
  obtain ⟨hparse, inside, htrim⟩ := Json.parse?_trim h
  have hempty : (trim body).isEmpty = false := by simp [htrim]
  have hdone : trim body ≠ "[DONE]" := by
    rw [htrim]
    intro heq
    simpa using congrArg String.toList heq
  simp only [StreamLine.parse, payloadText_of_object h, hempty, hdone, hparse, if_false,
    Option.bind_some]
  rfl

/-- An error that a whole answer reports is read from a line with the same text exactly if the
members suit a line; otherwise the line means nothing. -/
theorem parse_of_reported {body message : String} {members : List (String × Json)}
    (hobject : Json.parse? body = some (.object members))
    (h : readGeneration body = .error (.reported message)) :
    (Legible members → StreamLine.parse body = .error message) ∧
      (¬ Legible members → StreamLine.parse body = .skip) := by
  obtain ⟨reply, hreply, hmessage⟩ := exists_reply_of_reported hobject h
  rw [parse_of_object hobject]
  constructor
  · intro hlegible
    obtain ⟨payload, hpayload⟩ := (exists_payload_iff hreply).mpr hlegible
    have herror : payload.error = some message := by
      rw [payload_error_eq hreply hpayload, hmessage]
    simp [hpayload, herror]
  · intro hlegible
    have hnone : StreamPayload.ofJson? (.object members) = none := by
      by_contra hsome
      exact hlegible ((exists_payload_iff hreply).mp (Option.ne_none_iff_exists'.mp hsome))
    rw [hnone]

/-! ## The line in a stream -/

/-- The bytes hold a line of their own, between those before and those after it. Nothing before the
line ends the output; behind the line there is a newline, unless the bytes are complete with it. -/
structure Delivery.HasLine (d : Delivery) (before line after : List UInt8) : Prop where
  start : before = [] ∨ before.getLast? = some newlineByte
  quiet : (completedLines before).any (·.isTerminal) = false
  stop : d.content = before ++ (line ++ newlineByte :: after) ∨
    d.content = before ++ line ∧ after = [] ∧ d.ending = .complete

namespace Delivery.HasLine

variable {d : Delivery} {before line after : List UInt8}

theorem openPiece_before (h : d.HasLine before line after) : openPiece endsLine before = [] := by
  rcases h.start with rfl | hlast
  · rfl
  · obtain ⟨bytes, rfl⟩ := List.getLast?_eq_some_iff.mp hlast
    exact openPiece_append_cons rfl bytes []

theorem fragmentsOf_before (h : d.HasLine before line after) (rest : List UInt8)
    (ending : Ending) :
    fragmentsOf (before ++ rest) ending =
      StreamLine.yields (completedLines before) ++ fragmentsOf rest ending := by
  rw [fragmentsOf_append, h.openPiece_before, h.quiet]
  rfl

theorem fragmentsOf_content (h : d.HasLine before line after)
    (hline : ∀ b ∈ line, endsLine b = false) (hne : line ≠ []) :
    fragmentsOf d.content d.ending =
      StreamLine.yields (completedLines before) ++ ((StreamLine.parse (Utf8.lossy line)).yield ++
        if (StreamLine.parse (Utf8.lossy line)).isTerminal then []
        else fragmentsOf after d.ending) := by
  rcases h.stop with hcontent | ⟨hcontent, rfl, hending⟩
  · rw [hcontent, h.fragmentsOf_before, fragmentsOf_line hline]
  · rw [hcontent, h.fragmentsOf_before, hending, fragmentsOf_complete hline, if_neg hne]
    simp [fragmentsOf_complete]

end Delivery.HasLine

theorem StreamLine.ok_of_mem_yields {lines : List StreamLine}
    (h : lines.any (·.isTerminal) = false) {fragment : Fragment} (hf : fragment ∈ yields lines) :
    ∃ text, fragment = .ok text := by
  induction lines with
  | nil => simp [yields] at hf
  | cons line lines ih =>
      rw [List.any_cons, Bool.or_eq_false_iff] at h
      rw [yields, h.1, List.mem_append] at hf
      rcases hf with hf | hf
      · cases line with
        | error message => simp [isTerminal] at h
        | _ =>
            obtain ⟨text, -, rfl⟩ := List.mem_map.mp hf
            exact ⟨text, rfl⟩
      · exact ih h.2 hf

variable {σ : Type}

/-- The call for a whole text is answered with the body, at once or after attempts that leave room
for another. -/
def AnsweredWith (t : Transport σ) (config : Config) (request : Request) (w : World σ)
    (body : String) : Prop :=
  let o := outcomes (t.generate ⟨request.model, request.prompt, false⟩ request.timeout) w.peer
  ∃ j < config.attemptLimit, (∀ i < j, asksAgain (o i) = true) ∧ o j = .ok body

theorem generateText_of_answered {t : Transport σ} {config : Config} {request : Request}
    {w : World σ} {body : String} (h : AnsweredWith t config request w body) :
    ((Client.ofConfig t config).generateText request w).1 = readGeneration body := by
  obtain ⟨j, hj, hbefore, hbody⟩ := h
  rw [Client.generateText_eq, Client.ofConfig, run_of_settled _ _ _ w
    (by rwa [config.toNat_maxAttempts]) hbefore (by rw [hbody]; rfl), hbody]
  rfl

/-- An object on one line, for which the call for a whole text fails with an error of the backend,
is delivered as a line of a stream. If its members suit a line, the stream ends with the same error
right there; if not, the stream is as though the line were missing. So a stream whose bytes are
complete with the line ends with the error exactly if the members suit a line. -/
theorem stream_reports_iff_legible (t : Transport σ) (config : Config) (request : Request)
    (w : World σ) {body message : String} {members : List (String × Json)}
    (hobject : Json.parse? body = some (.object members)) (hline : '\n' ∉ body.toList)
    (hanswered : AnsweredWith t config request w body)
    (hreported : ((Client.ofConfig t config).generateText request w).1 =
      .error (.reported message))
    (source : ByteStream) (idle : Duration) {before after : List UInt8}
    (hdelivered : (source.delivery idle).HasLine before (Utf8.encode body) after) :
    let fragments := (FragmentStream.new source idle).fragments
    let ending := (source.delivery idle).ending
    (Legible members → fragments =
      StreamLine.yields (completedLines before) ++ [.error (.reported message)]) ∧
    (¬ Legible members → fragments = fragmentsOf (before ++ after) ending) ∧
    (after = [] → ending = .complete →
      (fragments.getLast? = some (.error (.reported message)) ↔ Legible members)) := by
  intro fragments ending
  rw [generateText_of_answered hanswered] at hreported
  obtain ⟨herror, hskip⟩ := parse_of_reported hobject hreported
  have hne : Utf8.encode body ≠ [] := by
    intro hnil
    have hbody : body = "" := by rw [← Utf8.lossy_encode body, hnil]; rfl
    rw [hbody] at hobject
    cases hobject
  have hfragments : fragments = fragmentsOf (source.delivery idle).content ending :=
    FragmentStream.fragments_new source idle
  rw [hdelivered.fragmentsOf_content (endsLine_eq_false_of_mem_encode hline) hne,
    Utf8.lossy_encode] at hfragments
  have hlegible : Legible members → fragments =
      StreamLine.yields (completedLines before) ++ [.error (.reported message)] := by
    intro hl
    rw [hfragments, herror hl]
    rfl
  have hillegible : ¬ Legible members → fragments = fragmentsOf (before ++ after) ending := by
    intro hl
    rw [hfragments, hskip hl, hdelivered.fragmentsOf_before]
    rfl
  refine ⟨hlegible, hillegible, ?_⟩
  intro hafter hending
  constructor
  · intro hlast
    by_contra hl
    -- Without the line only texts are left, so the last fragment is no failure.
    have hyields : fragments = StreamLine.yields (completedLines before) := by
      rw [hillegible hl, hdelivered.fragmentsOf_before, hafter, hending]
      exact List.append_nil _
    rw [hyields] at hlast
    obtain ⟨text, htext⟩ := StreamLine.ok_of_mem_yields hdelivered.quiet
      (List.mem_of_getLast? hlast)
    cases htext
  · intro hl
    rw [hlegible hl, List.getLast?_concat]

/-- An error alone, with its line cut in two. -/
theorem stream_reports_lone_error :
    let body := "\x7b\"error\":\"m\"\x7d"
    let bytes := Utf8.encode body
    let source : ByteStream := [.bytes (bytes.take 5), .bytes (bytes.drop 5 ++ [newlineByte])]
    (FragmentStream.new source (.ofSeconds 1)).fragments.getLast? =
      some (.error (.reported "m")) := by
  intro body bytes source
  let w : World Script := ⟨{ Script.empty with generate := [.ok body] }, []⟩
  have hobject : Json.parse? body = some (.object [("error", .string "m")]) := by cbv
  have hanswered : AnsweredWith Script.transport .standard ⟨"hi", "m", 30, false⟩ w body :=
    ⟨0, by decide, by simp, rfl⟩
  have hreply : (Json.parse? body).bind GenerateReply.ofJson? = some ⟨none, some "m"⟩ := by
    decide +kernel
  have hreported := (generateText_of_answered hanswered).trans (readGeneration_of_error hreply)
  have hdelivered : (source.delivery (.ofSeconds 1)).HasLine [] bytes [] :=
    ⟨.inl rfl, rfl, .inl (by decide)⟩
  have hlegible : Legible [("error", .string "m")] := ⟨by simp, by simp, by simp⟩
  have hiff := (stream_reports_iff_legible Script.transport .standard ⟨"hi", "m", 30, false⟩ w
    hobject (by decide) hanswered hreported source (.ofSeconds 1) hdelivered).2.2 rfl (by decide)
  exact hiff.mpr hlegible

/-- Next to an error, a text that is null: the call for a whole text reports the error, and a stream
that delivers the same bytes ends as though nothing had been said. -/
theorem stream_swallows_error :
    let body := "\x7b\"error\":\"m\",\"response\":null\x7d"
    let w : World Script := ⟨{ Script.empty with generate := [.ok body] }, []⟩
    let source : ByteStream := [.bytes (Utf8.encode body ++ [newlineByte])]
    ((Client.ofConfig Script.transport .standard).generateText ⟨"hi", "m", 30, false⟩ w).1 =
        .error (.reported "m") ∧
      (FragmentStream.new source (.ofSeconds 1)).fragments = [] := by
  intro body w source
  have hanswered : AnsweredWith Script.transport .standard ⟨"hi", "m", 30, false⟩ w body :=
    ⟨0, by decide, by simp, rfl⟩
  have hdelivered : (source.delivery (.ofSeconds 1)).HasLine [] (Utf8.encode body) [] :=
    ⟨.inl rfl, rfl, .inl (by decide)⟩
  have hparse : StreamLine.parse body = .skip := by decide +kernel
  have hreply : (Json.parse? body).bind GenerateReply.ofJson? = some ⟨none, some "m"⟩ := by
    decide +kernel
  constructor
  · rw [generateText_of_answered hanswered, readGeneration_of_error hreply]
  · rw [FragmentStream.fragments_new,
      hdelivered.fragmentsOf_content (by decide +kernel) (by decide), Utf8.lossy_encode, hparse]
    rfl

end CodeMentor
