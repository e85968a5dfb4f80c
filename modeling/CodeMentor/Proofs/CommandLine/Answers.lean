import CodeMentor.CommandLine.Outcome
import CodeMentor.Proofs.Assistant.Traffic
import CodeMentor.Proofs.Backend.Transmission
import CodeMentor.Proofs.Results

/-!
# Printed answers

A question is asked in one of two ways: the answer is printed when it is complete, without white
space at its end, or its fragments are printed as they come. Both ways have the same words for an
answer that says nothing, but they recognise it by different signs: the first by a text of white
space, the second by the lack of any fragment. No fragment of a stream is empty, so the signs differ
on those texts of white space that are not empty, and there the two ways print different things.
-/

namespace CodeMentor

open CodeMentor.Text

/-! ## Fragments of an answer -/

theorem StreamLine.ne_empty_of_mem_fragments {lines : List StreamLine} {ending : Ending}
    {text : String} (h : .ok text ∈ fragments lines ending) : text ≠ "" := by
  simp only [fragments, List.mem_append, List.mem_map, reduceCtorEq, and_false, exists_false,
    or_false, Except.ok.injEq, exists_eq_right, List.mem_filterMap] at h
  obtain ⟨line, -, hline⟩ := h
  cases line with
  | chunk c =>
      simp only [text?, Option.ite_none_left_eq_some, String.isEmpty_iff,
        Option.some.injEq] at hline
      exact hline.2 ▸ hline.1
  | done => cases hline
  | error message => cases hline
  | skip => cases hline

namespace FragmentStream

theorem joinFragments_eq_ok_iff {fragments : List Fragment} {whole : String} :
    joinFragments fragments = .ok whole ↔
      ∃ texts : List String, fragments = texts.map .ok ∧ String.join texts = whole := by
  constructor
  · intro h
    induction fragments generalizing whole with
    | nil => exact ⟨[], rfl, Except.ok.inj h⟩
    | cons fragment fragments ih =>
        cases fragment with
        | error e => cases h
        | ok text =>
            obtain ⟨rest, hrest, rfl⟩ := map_eq_ok_iff.mp h
            obtain ⟨texts, rfl, rfl⟩ := ih hrest
            exact ⟨text :: texts, rfl, String.join_cons⟩
  · rintro ⟨texts, rfl, rfl⟩
    exact joinFragments_ok texts

theorem collect_new (source : ByteStream) (idle : Duration) :
    (new source idle).collect = joinFragments
      (fragmentsOf (source.delivery idle).content (source.delivery idle).ending) := by
  rw [← fragments_new, collect, fragments]

/-- The texts of a stream that ends without failure. None of them is empty. -/
theorem exists_texts_of_collect {source : ByteStream} {idle : Duration} {whole : String}
    (h : (new source idle).collect = .ok whole) :
    ∃ texts : List String, (new source idle).fragments = texts.map .ok ∧
      String.join texts = whole ∧ "" ∉ texts := by
  obtain ⟨texts, htexts, hwhole⟩ := joinFragments_eq_ok_iff.mp h
  refine ⟨texts, htexts, hwhole, ?_⟩
  intro hmem
  have hfragment : .ok "" ∈ (new source idle).fragments := by
    rw [fragments, htexts]
    exact List.mem_map_of_mem hmem
  rw [fragments_new] at hfragment
  exact StreamLine.ne_empty_of_mem_fragments hfragment rfl

end FragmentStream

/-! ## Streams that are opened -/

section Opened

variable {σ : Type}

/-- The call for a stream is answered with its bytes, at once or after attempts that leave room for
another. -/
def OpenedWith (t : Transport σ) (config : Config) (request : Request) (w : World σ)
    (source : ByteStream) : Prop :=
  let o := outcomes (t.stream ⟨request.model, request.prompt, true⟩ request.timeout) w.peer
  ∃ j < config.attemptLimit, (∀ i < j, asksAgain (o i) = true) ∧ o j = .ok source

theorem generateStream_of_opened {t : Transport σ} {config : Config} {request : Request}
    {w : World σ} {source : ByteStream} (h : OpenedWith t config request w source) :
    ((Client.ofConfig t config).generateStream request w).1 =
      .ok (.new source request.timeout) := by
  obtain ⟨j, hj, hbefore, hsource⟩ := h
  rw [Client.generateStream_eq, Client.ofConfig, run_of_settled _ _ _ w
    (by rwa [config.toNat_maxAttempts]) hbefore (by rw [hsource]; rfl), hsource]
  rfl

theorem Draft.build_streaming {d : Draft} {request : Request} (h : d.build = .ok request) :
    Draft.build { d with streaming := true } = .ok { request with streaming := true } := by
  simp only [Draft.build] at h ⊢
  split_ifs at h ⊢
  obtain rfl := Except.ok.inj h
  rfl

theorem Assistant.ask_of_probed {a : Assistant σ} {question listing : String}
    {model context : Option String} {request : Request} {w : World σ}
    (hquestion : requireText "question" question = .ok ())
    (hprobe : (a.client.transport.tags a.client.probeTimeout w.peer).1 = .ok listing)
    (hbuild : (a.config.draft (Prompt.ask question context a.config.replyLanguage) model).build =
      .ok request) :
    a.ask question model context w = a.client.generateText request (a.client.probed w) ∧
      a.askStream question model context w =
        a.client.generateStream { request with streaming := true } (a.client.probed w) := by
  simp only [ask, askStream, hquestion, checked, complete]
  constructor
  · rw [send_of_answered _ _ _ _ hprobe, hbuild]
  · rw [send_of_answered _ _ _ _ hprobe, Draft.build_streaming hbuild]

/-- What is asked for as a stream has been read of nothing yet. -/
theorem Assistant.exists_new_of_askStream {a : Assistant σ} {question : String}
    {model context : Option String} {w : World σ} {s : FragmentStream}
    (h : (a.askStream question model context w).1 = .ok s) :
    ∃ source idle, s = .new source idle := by
  rw [askStream] at h
  cases hquestion : requireText "question" question with
  | error e =>
      rw [hquestion] at h
      cases h
  | ok =>
      simp only [hquestion, checked] at h
      cases hprobe : (a.client.transport.tags a.client.probeTimeout w.peer).1 with
      | error e =>
          rw [send_of_refused _ _ _ _ hprobe] at h
          cases h
      | ok listing =>
          rw [send_of_answered _ _ _ _ hprobe] at h
          split at h
          · cases h
          · rw [Client.generateStream_eq] at h
            obtain ⟨source, -, hs⟩ := bind_eq_ok_iff.mp h
            exact ⟨source, _, (Except.ok.inj hs).symm⟩

end Opened

namespace CommandLine

/-! ## What is printed -/

/-- The induction is on the fragments, for all that has been printed before them. -/
theorem printFragments_ok (received : Bool) (printed : String) (texts : List String) :
    printFragments received printed (texts.map .ok) =
      .success (if received = false ∧ texts = [] then noResponse
        else printed ++ String.join texts ++ "\n") := by
  induction texts generalizing received printed with
  | nil => cases received <;> simp [printFragments]
  | cons text texts ih =>
      rw [List.map_cons, printFragments, ih]
      simp [String.join_cons, String.append_assoc]

theorem printFragments_of_collect {source : ByteStream} {idle : Duration} {whole : String}
    (h : (FragmentStream.new source idle).collect = .ok whole) :
    printFragments false "" (FragmentStream.new source idle).fragments =
      .success (if whole = "" then noResponse else whole ++ "\n") := by
  obtain ⟨texts, htexts, rfl, hempty⟩ := FragmentStream.exists_texts_of_collect h
  rw [htexts, printFragments_ok]
  cases texts with
  | nil => rfl
  | cons text texts =>
      have htext : text ≠ "" := by
        rintro rfl
        exact hempty List.mem_cons_self
      simp [String.join_cons, htext]

/-- The two ways of printing agree but for white space at the end unless they disagree about whether
there is an answer. -/
theorem trimEnd_printed_eq_iff (text : String) :
    trimEnd (if blank text then noResponse else trimEnd text ++ "\n") =
        trimEnd (if text = "" then noResponse else text ++ "\n") ↔
      (blank text = true → text = "") := by
  by_cases hempty : text = ""
  · subst hempty
    have hblank : blank "" = true := by decide
    simp [hblank]
  · rw [if_neg hempty, trimEnd_append_newline]
    cases hblank : blank text with
    | true =>
        have hnothing : trimEnd text = "" := trimEnd_eq_empty_iff.mpr hblank
        have hwords : trimEnd noResponse ≠ "" := by decide +kernel
        simp [hnothing, hwords, hempty]
    | false =>
        rw [if_neg Bool.false_ne_true, trimEnd_append_newline, trimEnd_trimEnd]
        simp

section Ask

variable {σ : Type} {t : Transport σ} {config : Config} {question : String}
  {context : Option String}

/-- What a backend delivers that gives one text in both ways: as a whole from one world, and in
fragments that end without failure from another. -/
structure Delivered (t : Transport σ) (config : Config) (question : String)
    (context : Option String) (text : String) (w w' : World σ) : Prop where
  whole : ((Assistant.ofConfig t config).ask question none context w).1 = .ok text
  fragments : ∃ s : FragmentStream,
    ((Assistant.ofConfig t config).askStream question none context w').1 = .ok s ∧
      s.collect = .ok text

/-- A backend that can be reached, answers a call for the whole with a text and opens a stream of
the same text, both perhaps after some attempts. -/
theorem Delivered.of_answers {request : Request} {listing listing' body text : String}
    {source : ByteStream} {w w' : World σ} (hquestion : blank question = false)
    (hbuild : (config.draft (Prompt.ask question context config.replyLanguage) none).build =
      .ok request)
    (hprobe : (t.tags config.probeTimeout w.peer).1 = .ok listing)
    (hprobe' : (t.tags config.probeTimeout w'.peer).1 = .ok listing')
    (hanswered : AnsweredWith t config request ((Client.ofConfig t config).probed w) body)
    (hopened : OpenedWith t config request ((Client.ofConfig t config).probed w') source)
    (htext : readGeneration body = .ok text)
    (hcollect : (FragmentStream.new source request.timeout).collect = .ok text) :
    Delivered t config question context text w w' := by
  have hrequired : Assistant.requireText "question" question = .ok () := by
    simp [Assistant.requireText, hquestion]
  have hasked := Assistant.ask_of_probed (a := Assistant.ofConfig t config) hrequired hprobe hbuild
  have hstreamed :=
    Assistant.ask_of_probed (a := Assistant.ofConfig t config) hrequired hprobe' hbuild
  refine ⟨?_, .new source request.timeout, ?_, hcollect⟩
  · rw [hasked.1]
    exact (generateText_of_answered hanswered).trans htext
  · rw [hstreamed.2]
    exact generateStream_of_opened hopened

def asked (t : Transport σ) (config : Config) (files : Files) (question : String)
    (context : Option String) (stream : Bool) (w : World σ) : Outcome :=
  ((Command.ask question stream context).run t config files w).1

theorem asked_whole (files : Files) {text : String} {w : World σ}
    (h : ((Assistant.ofConfig t config).ask question none context w).1 = .ok text) :
    asked t config files question context false w = printAnswer text := by
  rcases hask : (Assistant.ofConfig t config).ask question none context w with ⟨result, after⟩
  obtain rfl : result = .ok text := by rw [← h, hask]
  simp only [asked, Command.run, Bool.false_eq_true, if_false, bind, StateT.bind, pure, StateT.pure,
    hask, Outcome.ofResult]

theorem asked_fragments (files : Files) {text : String} {w : World σ} {s : FragmentStream}
    (h : ((Assistant.ofConfig t config).askStream question none context w).1 = .ok s)
    (hcollect : s.collect = .ok text) :
    asked t config files question context true w =
      .success (if text = "" then noResponse else text ++ "\n") := by
  obtain ⟨source, idle, rfl⟩ := Assistant.exists_new_of_askStream h
  rcases hask : (Assistant.ofConfig t config).askStream question none context w with ⟨result, after⟩
  obtain rfl : result = .ok (.new source idle) := by rw [← h, hask]
  simp only [asked, Command.run, if_true, bind, StateT.bind, pure, StateT.pure, hask,
    Outcome.ofResult]
  exact printFragments_of_collect hcollect

/-- An answer that is delivered in both ways is printed in both ways, and the same but for white
space at the end unless the answer is white space and not empty. Then the words for no answer stand
on one side and nothing but white space on the other. -/
theorem answer_printed_alike_iff (files : Files) {text : String} {w w' : World σ}
    (h : Delivered t config question context text w w') :
    asked t config files question context false w =
        .success (if blank text then noResponse else trimEnd text ++ "\n") ∧
      asked t config files question context true w' =
        .success (if text = "" then noResponse else text ++ "\n") ∧
      (trimEnd (asked t config files question context false w).printed =
          trimEnd (asked t config files question context true w').printed ↔
        (blank text = true → text = "")) := by
  obtain ⟨s, hopened, hcollect⟩ := h.fragments
  have hwhole := asked_whole files h.whole
  have hstream := asked_fragments files hopened hcollect
  refine ⟨hwhole, hstream, ?_⟩
  simp only [hwhole, hstream, printAnswer, Outcome.success]
  exact trimEnd_printed_eq_iff text

end Ask

/-- A backend that has one answer for each way of asking. -/
def backendWith (body : String) (source : ByteStream) : World Script :=
  { peer := { Script.empty with
      tags := [.ok "\x7b\x7d"], generate := [.ok body], stream := [.ok source] }
    trace := [] }

theorem delivered_by_script {body text : String} {source : ByteStream}
    (htext : readGeneration body = .ok text)
    (hcollect : (FragmentStream.new source (.ofSeconds 30)).collect = .ok text) :
    Delivered Script.transport .standard "hi" none text (backendWith body source)
      (backendWith body source) := by
  have hquestion : blank "hi" = false := by decide
  have hbuild : (Config.standard.draft
      (Prompt.ask "hi" none Config.standard.replyLanguage) none).build =
        .ok ⟨"hi\n", "codellama", 30, false⟩ := by
    decide +kernel
  have hlimit : 0 < Config.standard.attemptLimit := by decide
  have hanswered : AnsweredWith Script.transport .standard ⟨"hi\n", "codellama", 30, false⟩
      ((Client.ofConfig Script.transport .standard).probed (backendWith body source)) body :=
    ⟨0, hlimit, by simp, rfl⟩
  have hopened : OpenedWith Script.transport .standard ⟨"hi\n", "codellama", 30, false⟩
      ((Client.ofConfig Script.transport .standard).probed (backendWith body source)) source :=
    ⟨0, hlimit, by simp, rfl⟩
  have hprobe : (Script.transport.tags Config.standard.probeTimeout
      (backendWith body source).peer).1 = .ok "\x7b\x7d" := rfl
  exact .of_answers hquestion hbuild hprobe hprobe hanswered hopened htext hcollect

/-- An answer in three fragments of which the last two are white space. -/
theorem answer_printed_alike_pieces :
    let source : ByteStream := [.bytes (sentBytes ["42", " ", "\n"])]
    let w := backendWith (Chunk.toJson ⟨"42 \n", true⟩).compact source
    let printed stream :=
      (asked Script.transport .standard (fun _ ↦ .error .notFound) "hi" none stream w).printed
    Delivered Script.transport .standard "hi" none "42 \n" w w ∧
      printed false = "42\n" ∧ printed true = "42 \n\n" ∧
      trimEnd (printed false) = trimEnd (printed true) := by
  intro source w printed
  have hdelivered : Delivered Script.transport .standard "hi" none "42 \n" w w := by
    have hcollect : (FragmentStream.new source (.ofSeconds 30)).collect = .ok "42 \n" := by
      rw [FragmentStream.collect_new]
      decide +kernel
    exact delivered_by_script (Chunk.readGeneration_compact _) hcollect
  have hblank : blank "42 \n" = false := by decide
  obtain ⟨hwhole, hfragments, halike⟩ :=
    answer_printed_alike_iff (fun _ ↦ .error .notFound) hdelivered
  refine ⟨hdelivered, ?_, ?_, halike.mpr (by simp [hblank])⟩
  · simp only [printed, hwhole]
    decide +kernel
  · simp only [printed, hfragments]
    decide +kernel

/-- One blank is no answer if it is printed as a whole, but it is one if it is printed as it comes. -/
theorem blank_answer_printed_apart :
    let source : ByteStream := [.bytes (sentBytes [" "])]
    let w := backendWith (Chunk.toJson ⟨" ", true⟩).compact source
    let printed stream :=
      (asked Script.transport .standard (fun _ ↦ .error .notFound) "hi" none stream w).printed
    Delivered Script.transport .standard "hi" none " " w w ∧
      printed false = noResponse ∧ printed true = " \n" ∧
      trimEnd (printed false) ≠ trimEnd (printed true) := by
  intro source w printed
  have hdelivered : Delivered Script.transport .standard "hi" none " " w w := by
    have hcollect : (FragmentStream.new source (.ofSeconds 30)).collect = .ok " " := by
      rw [FragmentStream.collect_new]
      decide +kernel
    exact delivered_by_script (Chunk.readGeneration_compact _) hcollect
  obtain ⟨s, hopened, hcollect⟩ := hdelivered.fragments
  have hwhole : printed false = noResponse := by
    simp only [printed, asked_whole _ hdelivered.whole]
    decide +kernel
  have hfragments : printed true = " \n" := by
    simp only [printed, asked_fragments _ hopened hcollect]
    decide +kernel
  refine ⟨hdelivered, hwhole, hfragments, ?_⟩
  rw [hwhole, hfragments]
  decide +kernel

end CommandLine

end CodeMentor
