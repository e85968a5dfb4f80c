import CodeMentor.Proofs.Assistant.Traffic
import CodeMentor.Proofs.Backend.Configuration
import CodeMentor.Server.Handler

/-!
# What the server asks the model

Five endpoints have the model answer: four of them wait for the whole text and name the model that
it came from, the fifth hands the text on as it comes. The first result compares the two that answer
questions. They name the same model, but only one of them looks at the language of the question, so
they ask for the same thing exactly if there is none. The second result is about the four: the model
that an answer names is the one that has been asked, in every attempt.
-/

namespace CodeMentor

variable {σ : Type}

/-! ## Payloads -/

def Event.payload? : Event → Option Payload
  | .generate payload _ | .stream payload _ => some payload
  | .tags _ | .describe .. | .sleep _ => none

/-- What the model has been asked, in order. -/
def asked (events : List Event) : List Payload :=
  events.filterMap Event.payload?

@[simp] theorem asked_nil : asked [] = [] := rfl

@[simp] theorem asked_tags (timeout : Duration) (events : List Event) :
    asked (.tags timeout :: events) = asked events := rfl

@[simp] theorem asked_sleep (pause : Duration) (events : List Event) :
    asked (.sleep pause :: events) = asked events := rfl

theorem asked_cons {call : Event} {payload : Payload} (h : call.payload? = some payload)
    (events : List Event) : asked (call :: events) = payload :: asked events :=
  List.filterMap_cons_some h

theorem asked_attemptTrace {call : Event} {payload : Payload} (h : call.payload? = some payload)
    (p : RetryPolicy) (n : ℕ) : asked (attemptTrace p call n) = List.replicate n payload := by
  induction n with
  | zero => rfl
  | succ n ih =>
      rw [attemptTrace_succ, asked, List.filterMap_append, ← asked, ← asked, ih,
        List.replicate_succ']
      split
      · rw [asked_cons h, asked_nil]
      · rw [asked_sleep, asked_cons h, asked_nil]

namespace Operation

def payload (config : Config) (op : Operation) : Payload :=
  ⟨config.modelFor op.model, op.prompt config.replyLanguage, op.streams⟩

theorem payload?_call (op : Operation) (request : Request) :
    (op.call request).payload? = some ⟨request.model, request.prompt, op.streams⟩ := by
  rw [call]
  cases op.streams with
  | true => rfl
  | false => rfl

theorem lacks_of_required (op : Operation) {field value : String}
    (h : op.required = [(field, value)]) : op.Lacks ↔ trim value = "" := by
  simp [Lacks, h]

theorem build_draft {config : Config} (h : Config.IsTidy config.defaultModel) (op : Operation) :
    (op.draft config).build =
      if config.requestTimeout.seconds = 0 then .error (.invalidInput "timeout must be positive")
      else .ok ⟨op.prompt config.replyLanguage, config.modelFor op.model,
        config.requestTimeout.seconds, op.streams⟩ :=
  Config.build_of_isTidy (d := op.draft config) (Config.isTidy_modelFor h op.model)

end Operation

namespace Traffic

variable {t : Transport σ} {config : Config} {op : Operation} {w : World σ}
  {traffic : List Event} {result : Except Error Generation}

theorem eq_payload_of_mem_asked (h : Traffic t config op w traffic result)
    (hmodel : Config.IsTidy config.defaultModel) {p : Payload} (hp : p ∈ asked traffic) :
    p = op.payload config := by
  cases h with
  | refused _ => cases hp
  | disconnected _ _ => cases hp
  | unbuilt _ _ _ => cases hp
  | sent _ _ hbuild _ _ =>
      rw [op.build_draft hmodel] at hbuild
      split_ifs at hbuild
      obtain rfl := Except.ok.inj hbuild
      rw [asked_tags, asked_attemptTrace (op.payload?_call _)] at hp
      exact List.eq_of_mem_replicate hp

theorem asked_ne_nil_iff (h : Traffic t config op w traffic result) :
    asked traffic ≠ [] ↔ ¬ op.Lacks ∧
      (∃ listing, (t.tags config.probeTimeout w.peer).1 = .ok listing) ∧
      ∃ request, (op.draft config).build = .ok request := by
  cases h with
  | refused hmissing => simp [op.lacks_iff, hmissing]
  | disconnected _ hprobe => simp [hprobe]
  | unbuilt _ _ hbuild => simp [hbuild]
  | sent hgiven hprobe hbuild hpos _ =>
      refine iff_of_true ?_ ⟨hgiven, ⟨_, hprobe⟩, ⟨_, hbuild⟩⟩
      rw [asked_tags, asked_attemptTrace (op.payload?_call _), ne_eq, List.replicate_eq_nil_iff]
      omega

theorem asked_ne_nil_of_ok (h : Traffic t config op w traffic result) {answer : Generation}
    (hresult : result = .ok answer) : asked traffic ≠ [] := by
  rw [h.asked_ne_nil_iff]
  cases h with
  | refused _ => cases hresult
  | disconnected _ _ => cases hresult
  | unbuilt _ _ _ => cases hresult
  | sent hgiven hprobe hbuild _ _ => exact ⟨hgiven, ⟨_, hprobe⟩, ⟨_, hbuild⟩⟩

end Traffic

/-! ## Prompts -/

theorem length_unlines (lines : List String) :
    (unlines lines).length = (lines.map (·.length + 1)).sum := by
  induction lines with
  | nil => rfl
  | cons line lines ih =>
      rw [unlines_cons, String.length_append, String.length_append, ih, List.map_cons,
        List.sum_cons]
      rfl

/-- A programming question is never put like a question with or without context. -/
theorem Prompt.codingHelp_ne_ask (question : String) (language context reply : Option String) :
    codingHelp question language reply ≠ ask question context reply := by
  rw [codingHelp, ask]
  cases context.filter (!blank ·) with
  | some context =>
      intro heq
      have hhead := congrArg (·.toList.head?) heq
      simp [unlines_cons] at hhead
  | none =>
      intro heq
      have hlength := congrArg String.length heq
      simp only [length_unlines, List.map_append, List.sum_append, List.map_cons, List.sum_cons,
        List.map_nil, List.sum_nil] at hlength
      omega

namespace Server

/-! ## Handlers -/

def QuestionRequest.operation (r : QuestionRequest) : Operation :=
  match r.language.filter (!blank ·) with
  | some language => .codingHelp r.question (some language) r.model
  | none => .ask r.question r.model r.context

/-- The operation that a question amounts to when its answer is received as it comes. -/
def QuestionRequest.streamed (r : QuestionRequest) : Operation :=
  .askStream r.question r.model r.context

namespace QuestionRequest

variable (r : QuestionRequest)

/-- A question without a language, or with a blank one. -/
def Plain : Prop :=
  ∀ language, r.language = some language → trim language = ""

theorem filter_language_eq_none_iff : r.language.filter (!blank ·) = none ↔ r.Plain := by
  simp [Option.filter_eq_none_iff, Plain, blank]

theorem model_operation : r.operation.model = r.model := by
  rw [operation]
  split <;> rfl

theorem streams_operation : r.operation.streams = false := by
  rw [operation]
  split <;> rfl

theorem required_operation : r.operation.required = [("question", r.question)] := by
  rw [operation]
  split <;> rfl

theorem prompt_operation_eq_iff (reply : Option String) :
    r.operation.prompt reply = r.streamed.prompt reply ↔ r.Plain := by
  rw [← filter_language_eq_none_iff, operation]
  cases r.language.filter (!blank ·) with
  | none => exact iff_of_true rfl rfl
  | some language =>
      refine iff_of_false ?_ (Option.some_ne_none language)
      exact Prompt.codingHelp_ne_ask r.question (some language) r.context reply

end QuestionRequest

namespace State

@[simp] theorem assistant_ofConfig (analyzer : Analyzer) (t : Transport σ) (config : Config) :
    (ofConfig analyzer t config).assistant = Assistant.ofConfig t config := rfl

variable (s : State σ)

/-- A handler carries out an operation and names a model with the answer. -/
def Answers (op : Operation) (act : Session σ Response) : Prop :=
  ∀ w, ∃ result, op.run s.assistant w = (result.map .text, (act w).2) ∧
    (act w).1 = answered (s.modelUsed op.model) result

theorem Answers.world_eq {s : State σ} {op : Operation} {act : Session σ Response}
    (h : s.Answers op act) (w : World σ) : (act w).2 = (op.run s.assistant w).2 := by
  obtain ⟨result, hrun, -⟩ := h w
  rw [hrun]

theorem answers_of_run (op : Operation) {act : Session σ (Except Error String)}
    (h : op.run s.assistant = act.wrap .text) :
    s.Answers op (do return answered (s.modelUsed op.model) (← act)) := by
  intro w
  rw [h, Session.wrap_apply]
  exact ⟨_, rfl, rfl⟩

theorem answers_ask (r : QuestionRequest) : s.Answers r.operation (s.ask r) := by
  rw [QuestionRequest.operation, ask]
  cases r.language.filter (!blank ·) with
  | some language =>
      exact s.answers_of_run (.codingHelp r.question (some language) r.model) rfl
  | none => exact s.answers_of_run (.ask r.question r.model r.context) rfl

theorem answers_explain (r : ExplainRequest) :
    s.Answers (.explain r.code r.language r.model) (s.explain r) := by
  rw [explain]
  exact s.answers_of_run (.explain r.code r.language r.model) rfl

theorem answers_generate (r : GenerateRequest) :
    s.Answers (.generate r.description r.language r.model) (s.generate r) := by
  rw [generate]
  exact s.answers_of_run (.generate r.description r.language r.model) rfl

theorem answers_debug (r : DebugRequest) :
    s.Answers (.debug r.code r.errorMessage r.language r.model) (s.debug r) := by
  rw [debug]
  exact s.answers_of_run (.debug r.code r.errorMessage r.language r.model) rfl

theorem world_askStream (r : QuestionRequest) (w : World σ) :
    (s.askStream r w).2 = (r.streamed.run s.assistant w).2 := by
  rw [askStream, QuestionRequest.streamed, Operation.run, Session.wrap_apply]
  simp only [bind, StateT.bind]
  cases s.assistant.askStream r.question r.model r.context w with
  | mk result w' =>
      cases result with
      | ok fragments => rfl
      | error e => rfl

end State

/-- What is sent for a question when the backend answers the probe: the same payload in every call,
and at least one call if a request may take some time. -/
theorem exists_asked {config : Config} (hmodel : Config.IsTidy config.defaultModel)
    (t : Transport σ) {op : Operation} (hgiven : ¬ op.Lacks) {w : World σ} {listing : String}
    (hprobe : (t.tags config.probeTimeout w.peer).1 = .ok listing) :
    ∃ traffic, (op.run (Assistant.ofConfig t config) w).2.trace = w.trace ++ traffic ∧
      (asked traffic ≠ [] ↔ config.requestTimeout.seconds ≠ 0) ∧
      ∀ p ∈ asked traffic, p = op.payload config := by
  obtain ⟨traffic, htrace, htraffic⟩ := op.exists_traffic t config w
  refine ⟨traffic, htrace, ?_, fun p ↦ htraffic.eq_payload_of_mem_asked hmodel⟩
  rw [htraffic.asked_ne_nil_iff, op.build_draft hmodel]
  by_cases hseconds : config.requestTimeout.seconds = 0
  · simp [hseconds]
  · simp [hseconds, hgiven, hprobe]

/-- Waiting for the whole answer and receiving it as it comes name the same model. They ask for the
same thing exactly if the question has no language, or a blank one. -/
theorem questions_asked_alike_iff {given config : Config} (hvalid : given.validate = .ok config)
    (analyzer : Analyzer) (t : Transport σ) (r : QuestionRequest)
    (hquestion : trim r.question ≠ "") {w w' : World σ} {listing listing' : String}
    (hprobe : (t.tags config.probeTimeout w.peer).1 = .ok listing)
    (hprobe' : (t.tags config.probeTimeout w'.peer).1 = .ok listing') :
    ∃ whole streamed,
      ((State.ofConfig analyzer t config).ask r w).2.trace = w.trace ++ whole ∧
      ((State.ofConfig analyzer t config).askStream r w').2.trace = w'.trace ++ streamed ∧
      (asked whole ≠ [] ↔ config.requestTimeout.seconds ≠ 0) ∧
      (asked streamed ≠ [] ↔ config.requestTimeout.seconds ≠ 0) ∧
      ∀ p ∈ asked whole, ∀ q ∈ asked streamed,
        p.model = q.model ∧ p.stream = false ∧ q.stream = true ∧
        (p.prompt = q.prompt ↔ r.Plain) := by
  obtain ⟨hc, rfl⟩ := Config.validate_eq_ok_iff.mp hvalid
  have hgiven : ¬ r.operation.Lacks := by
    rwa [r.operation.lacks_of_required r.required_operation]
  have hgiven' : ¬ r.streamed.Lacks := by
    rwa [r.streamed.lacks_of_required rfl]
  obtain ⟨whole, htrace, hasked, hsame⟩ := exists_asked hc.isTidy_model t hgiven hprobe
  obtain ⟨streamed, htrace', hasked', hsame'⟩ := exists_asked hc.isTidy_model t hgiven' hprobe'
  refine ⟨whole, streamed, ?_, ?_, hasked, hasked', ?_⟩
  · rw [(State.answers_ask _ r).world_eq, State.assistant_ofConfig, htrace]
  · rw [State.world_askStream, State.assistant_ofConfig, htrace']
  · intro p hp q hq
    rw [hsame p hp, hsame' q hq]
    refine ⟨?_, r.streams_operation, rfl, r.prompt_operation_eq_iff _⟩
    exact congrArg given.normalized.modelFor r.model_operation

/-- A blank language is none, and a model with blanks around its name is the same both ways. -/
theorem questions_asked_alike_blank :
    let r : QuestionRequest := ⟨"hi", some " m ", some " ", some "c"⟩
    let w : World Script := ⟨{ Script.empty with tags := [.ok "x"] }, []⟩
    Config.standard.validate = .ok .standard ∧ trim r.question ≠ "" ∧ r.Plain ∧
      ∃ whole streamed,
        ((State.ofConfig .standard Script.transport .standard).ask r w).2.trace =
          w.trace ++ whole ∧
        ((State.ofConfig .standard Script.transport .standard).askStream r w).2.trace =
          w.trace ++ streamed ∧
        asked whole ≠ [] ∧ asked streamed ≠ [] ∧
        ∀ p ∈ asked whole, ∀ q ∈ asked streamed, p.model = q.model ∧ p.prompt = q.prompt := by
  intro r w
  have hvalid : Config.standard.validate = .ok .standard := by decide +kernel
  have hquestion : trim r.question ≠ "" := by decide +kernel
  have hplain : r.Plain := by
    intro language hlanguage
    obtain rfl := Option.some.inj hlanguage
    decide +kernel
  have hprobe : (Script.transport.tags Config.standard.probeTimeout w.peer).1 = .ok "x" := rfl
  have hseconds : Config.standard.requestTimeout.seconds ≠ 0 := by decide
  obtain ⟨whole, streamed, hwhole, hstreamed, hasked, hasked', hsame⟩ :=
    questions_asked_alike_iff hvalid .standard Script.transport r hquestion hprobe hprobe
  refine ⟨hvalid, hquestion, hplain, whole, streamed, hwhole, hstreamed, hasked.mpr hseconds,
    hasked'.mpr hseconds, ?_⟩
  intro p hp q hq
  obtain ⟨hmodel, -, -, hprompt⟩ := hsame p hp q hq
  exact ⟨hmodel, hprompt.mpr hplain⟩

/-- With a language, only the answer that is waited for comes from a programming expert. -/
theorem questions_asked_apart :
    let r : QuestionRequest := ⟨"hi", none, some "rust", none⟩
    let s := State.ofConfig .standard Script.transport .standard
    let w : World Script := ⟨{ Script.empty with
      tags := [.ok "x"], generate := [.ok "x"], stream := [.ok []] }, []⟩
    (asked (s.ask r w).2.trace).map (·.prompt) = [Prompt.codingHelp "hi" (some "rust") none] ∧
      (asked (s.askStream r w).2.trace).map (·.prompt) = [Prompt.ask "hi" none none] ∧
      Prompt.codingHelp "hi" (some "rust") none ≠ Prompt.ask "hi" none none := by
  decide +kernel

/-! ## The model that an answer names -/

theorem eq_ok_of_answered {model : String} {result : Except Error String} {body : Json}
    (h : answered model result = .json 200 body) :
    ∃ text, result = .ok text ∧
      body = .object [("response", .string text), ("model_used", .string model)] := by
  cases result with
  | ok text =>
      injection h with _ hbody
      exact ⟨text, rfl, hbody.symm⟩
  | error e =>
      injection h with hstatus _
      cases e <;> cases hstatus

namespace State

variable (s : State σ)

/-- A request with a JSON body that is answered has come to its handler. -/
theorem exists_answers_of_withJson {α : Type} {op : α → Operation} {handle : α → Session σ Response}
    (hhandle : ∀ r, s.Answers (op r) (handle r)) {call : Call} {ofJson? : Json → Option α}
    {w : World σ} {body : Json} (h : (withJson call ofJson? handle w).1 = .json 200 body) :
    ∃ op act, s.Answers op act ∧ withJson call ofJson? handle w = act w := by
  rw [withJson] at h ⊢
  split at h
  · cases h
  · split at h
    · cases h
    · cases hparse : (Json.parseBytes? call.body).bind ofJson? with
      | none =>
          rw [hparse] at h
          cases h
      | some r => exact ⟨op r, handle r, hhandle r, by simp [*]⟩

theorem exists_answers_of_handle (now : String) {call : Call} (hmethod : call.method = "POST")
    (hpath : (Target.parse call.uri).segments ∈ [["ask"], ["explain"], ["generate"], ["debug"]])
    {w : World σ} {body : Json} (h : (s.handle now call w).1 = .json 200 body) :
    ∃ op act, s.Answers op act ∧ s.handle now call w = act w := by
  have hask : Endpoint.find? "POST" ["ask"] = some (.ask, []) := by decide
  have hexplain : Endpoint.find? "POST" ["explain"] = some (.explain, []) := by decide
  have hgenerate : Endpoint.find? "POST" ["generate"] = some (.generate, []) := by decide
  have hdebug : Endpoint.find? "POST" ["debug"] = some (.debug, []) := by decide
  simp only [List.mem_cons, List.not_mem_nil, or_false] at hpath
  rw [handle, hmethod] at h ⊢
  rcases hpath with hpath | hpath | hpath | hpath
  · simp only [hpath, hask] at h ⊢
    exact s.exists_answers_of_withJson s.answers_ask h
  · simp only [hpath, hexplain] at h ⊢
    exact s.exists_answers_of_withJson s.answers_explain h
  · simp only [hpath, hgenerate] at h ⊢
    exact s.exists_answers_of_withJson s.answers_generate h
  · simp only [hpath, hdebug] at h ⊢
    exact s.exists_answers_of_withJson s.answers_debug h

end State

/-- An answer names the model that has been asked, in every attempt. -/
theorem model_used_is_asked {given config : Config} (hvalid : given.validate = .ok config)
    (analyzer : Analyzer) (t : Transport σ) (now : String) {call : Call}
    (hmethod : call.method = "POST")
    (hpath : (Target.parse call.uri).segments ∈ [["ask"], ["explain"], ["generate"], ["debug"]])
    (w : World σ) {body : Json}
    (hanswer : ((State.ofConfig analyzer t config).handle now call w).1 = .json 200 body) :
    ∃ model traffic, body.member? "model_used" = some (.string model) ∧
      ((State.ofConfig analyzer t config).handle now call w).2.trace = w.trace ++ traffic ∧
      asked traffic ≠ [] ∧ ∀ p ∈ asked traffic, p.model = model := by
  obtain ⟨hc, rfl⟩ := Config.validate_eq_ok_iff.mp hvalid
  obtain ⟨op, act, hact, hhandle⟩ :=
    State.exists_answers_of_handle _ now hmethod hpath hanswer
  rw [hhandle] at hanswer ⊢
  obtain ⟨result, hrun, hresponse⟩ := hact w
  obtain ⟨text, rfl, rfl⟩ := eq_ok_of_answered (hresponse.symm.trans hanswer)
  obtain ⟨traffic, htrace, htraffic⟩ := op.exists_traffic t given.normalized w
  have hmodel : ∀ p ∈ asked traffic, p.model = given.normalized.modelFor op.model := by
    intro p hp
    rw [htraffic.eq_payload_of_mem_asked hc.isTidy_model hp, Operation.payload]
  refine ⟨given.normalized.modelFor op.model, traffic, rfl, ?_, ?_, hmodel⟩
  · rw [hact.world_eq, State.assistant_ofConfig, htrace]
  · exact htraffic.asked_ne_nil_of_ok (congrArg (·.1) hrun)

def Response.isSuccess : Response → Bool
  | .json status _ => status == 200
  | _ => false

theorem Response.exists_of_isSuccess {r : Response} (h : r.isSuccess = true) :
    ∃ body, r = .json 200 body := by
  cases r with
  | json status body =>
      obtain rfl : status = 200 := by simpa [isSuccess] using h
      exact ⟨body, rfl⟩
  | stream _ => cases h
  | document => cases h
  | refused _ => cases h

/-- A model with blanks around its name answers the second of two attempts. -/
theorem model_used_is_asked_again :
    let call : Call := ⟨"POST", "/ask", some "application/json",
      Text.Utf8.encode "\x7b\"question\":\"hi\",\"model\":\" m \"\x7d"⟩
    let w : World Script := ⟨{ Script.empty with
      tags := [.ok "x"]
      generate := [.error (.connect "x"), .ok "\x7b\"response\":\"y\"\x7d"] }, []⟩
    ∃ body model traffic,
      ((State.ofConfig .standard Script.transport .standard).handle "" call w).1 =
        .json 200 body ∧
      body.member? "model_used" = some (.string model) ∧
      ((State.ofConfig .standard Script.transport .standard).handle "" call w).2.trace =
        w.trace ++ traffic ∧
      (asked traffic).map (·.model) = ["m", "m"] ∧ ∀ p ∈ asked traffic, p.model = model := by
  intro call w
  have hvalid : Config.standard.validate = .ok .standard := by decide +kernel
  have hpath : (Target.parse call.uri).segments ∈
      [["ask"], ["explain"], ["generate"], ["debug"]] := by decide +kernel
  have hsuccess : ((State.ofConfig .standard Script.transport .standard).handle
      "" call w).1.isSuccess = true := by decide +kernel
  obtain ⟨body, hanswer⟩ := Response.exists_of_isSuccess hsuccess
  obtain ⟨model, traffic, hmodel, htrace, -, hsame⟩ :=
    model_used_is_asked hvalid .standard Script.transport "" rfl hpath w hanswer
  have hmodels : (asked ((State.ofConfig .standard Script.transport .standard).handle
      "" call w).2.trace).map (·.model) = ["m", "m"] := by decide +kernel
  rw [htrace] at hmodels
  exact ⟨body, model, traffic, hanswer, hmodel, htrace, hmodels, hsame⟩

end Server

end CodeMentor
