import CodeMentor.Assistant.Service
import CodeMentor.Proofs.Backend.Attempts

/-!
# The traffic of the assistant

Six operations ask the model for something. Each of them checks its texts, probes the backend, builds
a request and only then sends it, with repetitions. The main result says what passes between the
assistant and the backend: nothing when a text is missing, the probe alone when it fails or no
request can be built, and otherwise the probe and behind it one call, made once or several times
with a pause between each two.
-/

namespace CodeMentor

variable {σ α β : Type}

/-! ## Operations -/

/-- A session with its answer in another form. -/
def Session.wrap (act : Session σ (Except Error α)) (form : α → β) :
    Session σ (Except Error β) := do
  return (← act).map form

theorem Session.wrap_apply (act : Session σ (Except Error α)) (form : α → β) (w : World σ) :
    act.wrap form w = ((act w).1.map form, (act w).2) := rfl

inductive Operation where
  | ask (question : String) (model context : Option String)
  | askStream (question : String) (model context : Option String)
  | codingHelp (question : String) (language model : Option String)
  | explain (code : String) (language model : Option String)
  | debug (code : String) (errorMessage language model : Option String)
  | generate (description language : String) (model : Option String)

namespace Operation

def run (a : Assistant σ) : Operation → Session σ (Except Error Generation)
  | .ask question model context => (a.ask question model context).wrap .text
  | .askStream question model context => (a.askStream question model context).wrap .stream
  | .codingHelp question language model => (a.codingHelp question language model).wrap .text
  | .explain code language model => (a.explain code language model).wrap .text
  | .debug code errorMessage language model =>
    (a.debug code errorMessage language model).wrap .text
  | .generate description language model => (a.generate description language model).wrap .text

/-- The texts that must not be blank, with their names, in the order in which they are checked. -/
def required : Operation → List (String × String)
  | .ask question _ _ | .askStream question _ _ | .codingHelp question _ _ =>
    [("question", question)]
  | .explain code _ _ | .debug code _ _ _ => [("code", code)]
  | .generate description language _ => [("description", description), ("language", language)]

/-- What the model is asked. -/
def prompt (replyLanguage : Option String) : Operation → String
  | .ask question _ context | .askStream question _ context =>
    Prompt.ask question context replyLanguage
  | .codingHelp question language _ => Prompt.codingHelp question language replyLanguage
  | .explain code language _ => Prompt.explain code language replyLanguage
  | .debug code errorMessage language _ => Prompt.debug code errorMessage language replyLanguage
  | .generate description language _ => Prompt.generate description language replyLanguage

def model : Operation → Option String
  | .ask _ model _ | .askStream _ model _ | .codingHelp _ _ model | .explain _ _ model
  | .debug _ _ _ model | .generate _ _ model => model

def streams : Operation → Bool
  | .askStream .. => true
  | _ => false

def draft (config : Config) (op : Operation) : Draft :=
  { config.draft (op.prompt config.replyLanguage) op.model with streaming := op.streams }

def call (op : Operation) (request : Request) : Event :=
  let payload : Payload := ⟨request.model, request.prompt, op.streams⟩
  if op.streams then .stream payload request.timeout else .generate payload request.timeout

def Lacks (op : Operation) : Prop :=
  ∃ field ∈ op.required, trim field.2 = ""

end Operation

/-- What passes between the assistant and the backend when an operation is carried out in a world,
and the result that goes with it. -/
inductive Traffic (t : Transport σ) (config : Config) (op : Operation) (w : World σ) :
    List Event → Except Error Generation → Prop
  | refused {field value : String}
      (hmissing : op.required.find? (fun f ↦ blank f.2) = some (field, value)) :
      Traffic t config op w [] (.error (.invalidInput s!"{field} must not be empty"))
  | disconnected {e : TransportError} (hgiven : ¬ op.Lacks)
      (hprobe : (t.tags config.probeTimeout w.peer).1 = .error e) :
      Traffic t config op w [.tags config.probeTimeout]
        (.error (.unreachable 1 s!"cannot reach model backend at {config.baseUrl}"))
  | unbuilt {listing message : String} (hgiven : ¬ op.Lacks)
      (hprobe : (t.tags config.probeTimeout w.peer).1 = .ok listing)
      (hbuild : (op.draft config).build = .error (.invalidInput message)) :
      Traffic t config op w [.tags config.probeTimeout] (.error (.invalidInput message))
  /-- The probe succeeds, and `n` calls with one request follow. -/
  | sent {listing : String} {request : Request} {result : Except Error Generation} {n : ℕ}
      (hgiven : ¬ op.Lacks) (hprobe : (t.tags config.probeTimeout w.peer).1 = .ok listing)
      (hbuild : (op.draft config).build = .ok request) (hpos : 1 ≤ n)
      (hlimit : n ≤ max 1 config.maxRetries.toNat) :
      Traffic t config op w
        (.tags config.probeTimeout :: attemptTrace config.policy (op.call request) n) result

/-! ## Sending -/

theorem Draft.exists_message_of_build {d : Draft} {e : Error} (h : d.build = .error e) :
    ∃ message, e = .invalidInput message := by
  simp only [Draft.build] at h
  split_ifs at h
  · exact ⟨_, (Except.error.inj h).symm⟩
  · exact ⟨_, (Except.error.inj h).symm⟩

/-- A call under the policy of a configuration is made at least once and no more often than the
configuration allows. -/
theorem exists_attempts (config : Config) (call : Event)
    (answer : σ → Except TransportError α × σ) (w : World σ) :
    ∃ n, 1 ≤ n ∧ n ≤ config.attemptLimit ∧
      (config.policy.run Session.sleep (attemptOf call answer) w).2.trace =
        w.trace ++ attemptTrace config.policy call n := by
  obtain ⟨n, hcourse⟩ := course_run config call answer (β := α) .ok w
  refine ⟨n, hcourse.pos, ?_, hcourse.trace⟩
  have hle : (n : ℕ∞) ≤ config.attemptLimit := by
    rw [hcourse.count]
    exact min_le_right _ _
  exact_mod_cast hle

theorem Client.trace_probed (c : Client σ) (w : World σ) :
    (c.probed w).trace = w.trace ++ [.tags c.probeTimeout] := rfl

namespace Assistant

variable (a : Assistant σ) (draft : Draft) (call : Request → Session σ (Except Error α))
  (w : World σ)

theorem send_of_refused {e : TransportError}
    (h : (a.client.transport.tags a.client.probeTimeout w.peer).1 = .error e) :
    a.send draft call w = (.error a.disconnected, a.client.probed w) := by
  simp only [send, bind, StateT.bind, Client.checkConnection_eq, h]
  rfl

theorem send_of_answered {listing : String}
    (h : (a.client.transport.tags a.client.probeTimeout w.peer).1 = .ok listing) :
    a.send draft call w =
      match draft.build with
      | .error e => (.error e, a.client.probed w)
      | .ok request => call request (a.client.probed w) := by
  simp only [send, bind, StateT.bind, Client.checkConnection_eq, h]
  cases draft.build with
  | error e => rfl
  | ok request => rfl

def guarded (fields : List (String × String)) (act : Session σ (Except Error α)) :
    Session σ (Except Error α) :=
  fields.foldr (fun field act ↦ checked (requireText field.1 field.2) act) act

theorem guarded_cons (field : String × String) (fields : List (String × String))
    (act : Session σ (Except Error α)) :
    guarded (field :: fields) act w =
      if blank field.2 then
        (.error (.invalidInput s!"{field.1} must not be empty"), w)
      else guarded fields act w := by
  rw [guarded, List.foldr_cons, requireText]
  split
  · rfl
  · rfl

/-- The first blank text decides. The induction is on the texts that are still to be checked. -/
theorem guarded_eq (fields : List (String × String)) (act : Session σ (Except Error α)) :
    guarded fields act w =
      match fields.find? (fun f ↦ blank f.2) with
      | some (field, _) => (.error (.invalidInput s!"{field} must not be empty"), w)
      | none => act w := by
  induction fields with
  | nil => rfl
  | cons f fields ih =>
      rw [guarded_cons, List.find?_cons, ih]
      cases blank f.2 with
      | true => rfl
      | false => rfl

end Assistant

/-! ## The traffic of each operation -/

theorem Operation.lacks_iff (op : Operation) :
    op.Lacks ↔ (op.required.find? fun f ↦ blank f.2).isSome = true := by
  simp [Lacks, blank]

theorem traffic_of_guarded (t : Transport σ) (config : Config) (op : Operation) (w : World σ)
    (call : Request → Session σ (Except Error α)) (form : α → Generation)
    (hcall : ∀ request w, ∃ n, 1 ≤ n ∧ n ≤ config.attemptLimit ∧
      (call request w).2.trace = w.trace ++ attemptTrace config.policy (op.call request) n) :
    let r := Session.wrap (Assistant.guarded op.required
      ((Assistant.ofConfig t config).send (op.draft config) call)) form w
    ∃ traffic, r.2.trace = w.trace ++ traffic ∧ Traffic t config op w traffic r.1 := by
  have hlacks := op.lacks_iff
  simp only [Session.wrap_apply, Assistant.guarded_eq]
  cases hfind : op.required.find? (fun f ↦ blank f.2) with
  | some f =>
      obtain ⟨field, value⟩ := f
      simp only [Except.map]
      exact ⟨[], (List.append_nil _).symm, .refused hfind⟩
  | none =>
      rw [hfind] at hlacks
      have hgiven : ¬ op.Lacks := by simp [hlacks]
      have hprobed := (Assistant.ofConfig t config).client.trace_probed w
      cases hprobe : (t.tags config.probeTimeout w.peer).1 with
      | error e =>
          have hsend :=
            (Assistant.ofConfig t config).send_of_refused (op.draft config) call w hprobe
          simp only [hsend, Except.map]
          exact ⟨_, hprobed, .disconnected hgiven hprobe⟩
      | ok listing =>
          have hsend :=
            (Assistant.ofConfig t config).send_of_answered (op.draft config) call w hprobe
          simp only [hsend]
          cases hbuild : (op.draft config).build with
          | error e =>
              obtain ⟨message, rfl⟩ := Draft.exists_message_of_build hbuild
              exact ⟨_, hprobed, .unbuilt hgiven hprobe hbuild⟩
          | ok request =>
              obtain ⟨n, hpos, hlimit, htrace⟩ :=
                hcall request ((Assistant.ofConfig t config).client.probed w)
              refine ⟨_, ?_, .sent hgiven hprobe hbuild hpos hlimit⟩
              rw [hprobed, List.append_assoc, List.singleton_append] at htrace
              exact htrace

theorem generateText_attempts (t : Transport σ) (config : Config) (request : Request)
    (w : World σ) :
    ∃ n, 1 ≤ n ∧ n ≤ config.attemptLimit ∧
      ((Client.ofConfig t config).generateText request w).2.trace =
        w.trace ++ attemptTrace config.policy
          (.generate ⟨request.model, request.prompt, false⟩ request.timeout) n := by
  rw [Client.generateText_eq, Client.ofConfig]
  exact exists_attempts config _ _ w

theorem generateStream_attempts (t : Transport σ) (config : Config) (request : Request)
    (w : World σ) :
    ∃ n, 1 ≤ n ∧ n ≤ config.attemptLimit ∧
      ((Client.ofConfig t config).generateStream request w).2.trace =
        w.trace ++ attemptTrace config.policy
          (.stream ⟨request.model, request.prompt, true⟩ request.timeout) n := by
  rw [Client.generateStream_eq, Client.ofConfig]
  exact exists_attempts config _ _ w

/-- How an operation sends its request. -/
def Operation.perform (a : Assistant σ) (op : Operation) : Session σ (Except Error Generation) :=
  if op.streams then
    (Assistant.guarded op.required (a.send (op.draft a.config)
      a.client.generateStream)).wrap .stream
  else
    (Assistant.guarded op.required (a.send (op.draft a.config) a.client.generateText)).wrap .text

/-- All operations are alike: they differ in the texts that they check, in the draft of their
request and in the way in which they receive the answer. -/
theorem Operation.run_eq_perform (a : Assistant σ) (op : Operation) : op.run a = op.perform a := by
  cases op <;>
    simp only [run, perform, streams, required, draft, prompt, model, Assistant.ask,
      Assistant.askStream, Assistant.codingHelp, Assistant.explain, Assistant.debug,
      Assistant.generate, Assistant.complete, Assistant.guarded, List.foldr_cons, List.foldr_nil,
      Config.draft, Draft.new] <;>
    rfl

theorem Operation.exists_traffic (t : Transport σ) (config : Config) (op : Operation)
    (w : World σ) :
    let r := op.run (Assistant.ofConfig t config) w
    ∃ traffic, r.2.trace = w.trace ++ traffic ∧ Traffic t config op w traffic r.1 := by
  rw [op.run_eq_perform, perform]
  cases hstreams : op.streams with
  | true =>
      refine traffic_of_guarded t config op w _ .stream ?_
      simp only [call, hstreams]
      exact generateStream_attempts t config
  | false =>
      refine traffic_of_guarded t config op w _ .text ?_
      simp only [call, hstreams]
      exact generateText_attempts t config

theorem attemptTrace_ne_nil (p : RetryPolicy) (call : Event) {n : ℕ} (h : 1 ≤ n) :
    attemptTrace p call n ≠ [] := by
  obtain ⟨n, rfl⟩ := Nat.exists_eq_add_of_le' h
  rw [attemptTrace_succ]
  split <;> simp

namespace Traffic

variable {t : Transport σ} {config : Config} {op : Operation} {w : World σ}
  {traffic : List Event} {result : Except Error Generation}

theorem eq_nil_iff (h : Traffic t config op w traffic result) : traffic = [] ↔ op.Lacks := by
  cases h with
  | refused hmissing => simp [op.lacks_iff, hmissing]
  | disconnected hgiven _ => simp [hgiven]
  | unbuilt hgiven _ _ => simp [hgiven]
  | sent hgiven _ _ _ _ => simp [hgiven]

theorem eq_probe_iff (h : Traffic t config op w traffic result) :
    traffic = [.tags config.probeTimeout] ↔ ¬ op.Lacks ∧
      ((∃ e, (t.tags config.probeTimeout w.peer).1 = .error e) ∨
        ∃ e, (op.draft config).build = .error e) := by
  cases h with
  | refused hmissing => simp [op.lacks_iff, hmissing]
  | disconnected hgiven hprobe => simp [hgiven, hprobe]
  | unbuilt hgiven _ hbuild => simp [hgiven, hbuild]
  | sent hgiven hprobe hbuild hpos _ =>
      simp [hgiven, hprobe, hbuild, attemptTrace_ne_nil _ _ hpos]

theorem probed_of_asks (h : Traffic t config op w traffic result) {event : Event}
    (hevent : event ∈ traffic) (hasks : event.isGenerate = true ∨ event.isStream = true) :
    ∃ listing rest, (t.tags config.probeTimeout w.peer).1 = .ok listing ∧
      traffic = .tags config.probeTimeout :: rest := by
  cases h with
  | refused _ => cases hevent
  | disconnected _ _ =>
      obtain rfl := List.mem_singleton.mp hevent
      simp [Event.isGenerate, Event.isStream] at hasks
  | unbuilt _ hprobe _ => exact ⟨_, _, hprobe, rfl⟩
  | sent _ hprobe _ _ _ => exact ⟨_, _, hprobe, rfl⟩

end Traffic

/-- Every operation of the assistant, whatever its arguments, the configuration and the answers of
the backend: its traffic is nothing, the probe, or the probe and one call made `n` times with the
pauses of the policy between. There is none exactly if a text that is required is blank, and it is
the probe alone exactly if the probe fails or no request can be built. No text is asked for unless
the probe before it has succeeded. -/
theorem operation_traffic (t : Transport σ) (config : Config) (op : Operation) (w : World σ) :
    let r := op.run (Assistant.ofConfig t config) w
    ∃ traffic, r.2.trace = w.trace ++ traffic ∧ Traffic t config op w traffic r.1 ∧
      (traffic = [] ↔ op.Lacks) ∧
      (traffic = [.tags config.probeTimeout] ↔ ¬ op.Lacks ∧
        ((∃ e, (t.tags config.probeTimeout w.peer).1 = .error e) ∨
          ∃ e, (op.draft config).build = .error e)) ∧
      ∀ event ∈ traffic, event.isGenerate = true ∨ event.isStream = true →
        ∃ listing rest, (t.tags config.probeTimeout w.peer).1 = .ok listing ∧
          traffic = .tags config.probeTimeout :: rest := by
  obtain ⟨traffic, htrace, htraffic⟩ := op.exists_traffic t config w
  exact ⟨traffic, htrace, htraffic, htraffic.eq_nil_iff, htraffic.eq_probe_iff,
    fun _ ↦ htraffic.probed_of_asks⟩

end CodeMentor
