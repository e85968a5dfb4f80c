import CodeMentor.Backend.Config
import CodeMentor.Proofs.Results
import CodeMentor.Proofs.Text.Pieces

/-!
# What a configuration is good for

A configuration is checked twice: as a whole when it is read, and in part when a request is built
from it. The first check looks at whole spans of time, the second only at their full seconds. So a
configuration that passes the first can still refuse every request, or allow a request less time
than it says; the first result tells for which spans this happens. The second result is about the
configurations that variables describe: their spans are full seconds, and both checks agree.
-/

namespace CodeMentor

/-! ## Spans of time -/

namespace Duration

theorem isZero_iff (d : Duration) : d.isZero = true ↔ d.seconds = 0 ∧ d.nanos = 0 := by
  simp [isZero]

theorem seconds_ne_zero {d : Duration} (hnanos : d.nanos = 0) (h : d.isZero = false) :
    d.seconds ≠ 0 := by
  intro hseconds
  rw [(isZero_iff d).mpr ⟨hseconds, hnanos⟩] at h
  cases h

theorem ofSeconds_seconds_eq_self_iff (d : Duration) : ofSeconds d.seconds = d ↔ d.nanos = 0 := by
  obtain ⟨seconds, nanos, hnanos⟩ := d
  simp [ofSeconds, eq_comm]

theorem second_le_toNanos {d : Duration} (h : d.seconds ≠ 0) :
    (ofSeconds 1).toNanos ≤ d.toNanos := by
  have hpos : 1 ≤ d.seconds.toNat := by
    apply Nat.one_le_iff_ne_zero.mpr
    intro hzero
    exact h (UInt64.toNat_inj.mp hzero)
  have hmul := Nat.mul_le_mul_right nanosPerSecond hpos
  exact hmul.trans (Nat.le_add_right _ _)

end Duration

namespace Config

/-! ## The first check -/

/-- The configuration with its names trimmed and no slash behind the address. -/
def normalized (c : Config) : Config :=
  { c with
    baseUrl := dropEndChar (trim c.baseUrl) '/'
    defaultModel := trim c.defaultModel }

-- By unfolding and not by `rfl`, which would compare the texts first.
@[simp] theorem normalized_maxRetries (c : Config) : c.normalized.maxRetries = c.maxRetries := by
  rw [normalized]

@[simp] theorem normalized_requestTimeout (c : Config) :
    c.normalized.requestTimeout = c.requestTimeout := by
  rw [normalized]

@[simp] theorem normalized_probeTimeout (c : Config) :
    c.normalized.probeTimeout = c.probeTimeout := by
  rw [normalized]

@[simp] theorem normalized_replyLanguage (c : Config) :
    c.normalized.replyLanguage = c.replyLanguage := by
  rw [normalized]

structure Acceptable (c : Config) : Prop where
  scheme : "http://".toList <+: c.normalized.baseUrl.toList ∨
    "https://".toList <+: c.normalized.baseUrl.toList
  model : c.normalized.defaultModel ≠ ""
  retries : c.maxRetries ≠ 0
  requestTimeout : c.requestTimeout.isZero = false
  probeTimeout : c.probeTimeout.isZero = false

theorem validate_eq_ok_iff {c c' : Config} :
    c.validate = .ok c' ↔ c.Acceptable ∧ c' = c.normalized := by
  constructor
  · intro h
    simp only [validate] at h
    split_ifs at h with hurl hscheme hmodel hretries htimeouts
    simp only [Bool.not_eq_true, Bool.or_eq_false_iff] at htimeouts
    obtain rfl := Except.ok.inj h
    refine ⟨⟨?_, ?_, hretries, htimeouts.1, htimeouts.2⟩, rfl⟩
    · rw [← startsWith_iff, ← startsWith_iff, normalized]
      by_contra hnot
      rw [not_or, Bool.not_eq_true, Bool.not_eq_true] at hnot
      simp [hnot.1, hnot.2] at hscheme
    · intro hempty
      exact hmodel (String.isEmpty_iff.mpr hempty)
  · rintro ⟨hc, rfl⟩
    have hscheme := hc.scheme
    rw [← startsWith_iff, ← startsWith_iff] at hscheme
    have hurl : c.normalized.baseUrl.isEmpty = false := by
      rw [Bool.eq_false_iff, ne_eq, String.isEmpty_iff]
      intro hempty
      rw [hempty] at hscheme
      revert hscheme
      decide
    have hmodel : c.normalized.defaultModel.isEmpty = false := by
      rw [Bool.eq_false_iff, ne_eq, String.isEmpty_iff]
      exact hc.model
    simp only [normalized] at hscheme hurl hmodel
    rcases hscheme with hhttp | hhttps
    · simp [validate, normalized, hurl, hmodel, hhttp, hc.retries, hc.requestTimeout,
        hc.probeTimeout]
    · simp [validate, normalized, hurl, hmodel, hhttps, hc.retries, hc.requestTimeout,
        hc.probeTimeout]

/-! ## The second check -/

structure IsTidy (name : String) : Prop where
  ne : name ≠ ""
  trimmed : trim name = name

theorem isTidy_of_trimmed? {s t : String} (h : trimmed? s = some t) : IsTidy t := by
  obtain ⟨rfl, hne⟩ := trimmed?_eq_some_iff.mp h
  exact ⟨hne, trim_trim s⟩

theorem Acceptable.isTidy_model {c : Config} (h : c.Acceptable) :
    IsTidy c.normalized.defaultModel :=
  ⟨h.model, trim_trim c.defaultModel⟩

theorem modelFor_of_named {name : String} (h : trim name ≠ "") (c : Config) :
    c.modelFor (some name) = trim name := by
  have hname : trimmed? name = some (trim name) := trimmed?_eq_some_iff.mpr ⟨rfl, h⟩
  rw [modelFor, Option.bind_some, hname, Option.getD_some]

theorem modelFor_of_unnamed {model : Option String}
    (h : ∀ name, model = some name → trim name = "") (c : Config) :
    c.modelFor model = c.defaultModel := by
  have hnone : model.bind trimmed? = none := by
    rw [Option.eq_none_iff_forall_ne_some]
    intro t ht
    obtain ⟨name, hmodel, hname⟩ := Option.bind_eq_some_iff.mp ht
    obtain ⟨rfl, hne⟩ := trimmed?_eq_some_iff.mp hname
    exact hne (h name hmodel)
  rw [modelFor, hnone, Option.getD_none]

theorem isTidy_modelFor {c : Config} (h : IsTidy c.defaultModel) (model : Option String) :
    IsTidy (c.modelFor model) := by
  rw [modelFor]
  cases hmodel : model.bind trimmed? with
  | none => exact h
  | some name =>
      obtain ⟨s, -, hs⟩ := Option.bind_eq_some_iff.mp hmodel
      exact isTidy_of_trimmed? hs

theorem build_of_isTidy {d : Draft} (h : IsTidy d.model) :
    d.build =
      if d.timeoutSeconds = 0 then .error (.invalidInput "timeout must be positive")
      else .ok ⟨d.prompt, d.model, d.timeoutSeconds, d.streaming⟩ := by
  have hempty : d.model.isEmpty = false := by simpa using h.ne
  rw [Draft.build, h.trimmed, hempty]
  rfl

theorem build_draft {c : Config} (h : IsTidy c.defaultModel) (prompt : String)
    (model : Option String) :
    (c.draft prompt model).build =
      if c.requestTimeout.seconds = 0 then .error (.invalidInput "timeout must be positive")
      else .ok ⟨prompt, c.modelFor model, c.requestTimeout.seconds, false⟩ :=
  build_of_isTidy (d := c.draft prompt model) (isTidy_modelFor h model)

/-- From a configuration that has passed the first check, a request can be built exactly if its time
has a full second in it, whatever the prompt and the model. The request then has the full seconds,
so it has the configured time exactly if that is nothing but full seconds. -/
theorem validated_requests_iff {c c' : Config} (h : c.validate = .ok c') (prompt : String)
    (model : Option String) :
    let built := (c'.draft prompt model).build
    ((∃ r, built = .ok r) ↔ c'.requestTimeout.seconds ≠ 0) ∧
      (c'.requestTimeout.seconds = 0 →
        built = .error (.invalidInput "timeout must be positive")) ∧
      (∀ r, built = .ok r → r.timeout = .ofSeconds c'.requestTimeout.seconds) ∧
      ((∃ r, built = .ok r ∧ r.timeout = c'.requestTimeout) ↔
        c'.requestTimeout.seconds ≠ 0 ∧ c'.requestTimeout.nanos = 0) := by
  obtain ⟨hc, rfl⟩ := validate_eq_ok_iff.mp h
  simp only [build_draft hc.isTidy_model, normalized_requestTimeout]
  by_cases hzero : c.requestTimeout.seconds = 0
  · simp [hzero]
  · simp [hzero, Request.timeout, Duration.ofSeconds_seconds_eq_self_iff]

/-- A second and a half pass the first check, and a request gets one second. -/
theorem validated_requests_truncated :
    let c := { standard with requestTimeout := ⟨1, 500000000, by decide⟩ }
    c.validate = .ok c ∧ ∃ r, (c.draft "hi" none).build = .ok r ∧ r.timeout = .ofSeconds 1 := by
  intro c
  have hvalid : c.validate = .ok c := by decide +kernel
  obtain ⟨hbuilt, -, htime, -⟩ := validated_requests_iff hvalid "hi" none
  obtain ⟨r, hr⟩ := hbuilt.mpr (by decide)
  exact ⟨hvalid, r, hr, htime r hr⟩

/-- Half a second passes the first check as a positive time and fails the second as none. -/
theorem validated_requests_refused :
    let c := { standard with requestTimeout := ⟨0, 500000000, by decide⟩ }
    c.validate = .ok c ∧
      (c.draft "hi" none).build = .error (.invalidInput "timeout must be positive") := by
  decide +kernel

/-! ## Variables -/

structure Ready (c : Config) : Prop where
  scheme : "http://".toList <+: c.baseUrl.toList ∨ "https://".toList <+: c.baseUrl.toList
  address : c.baseUrl.toList.getLast? ≠ some '/'
  model : IsTidy c.defaultModel
  retries : 1 ≤ c.maxRetries
  requestTimeout : (Duration.ofSeconds 1).toNanos ≤ c.requestTimeout.toNanos
  probeTimeout : (Duration.ofSeconds 1).toNanos ≤ c.probeTimeout.toNanos
  replyLanguage : ∀ language, c.replyLanguage = some language → IsTidy language

/-- A request for a prompt keeps the prompt and the configured time, and names the model of the
call unless that is missing or blank. -/
structure Serves (c : Config) (prompt : String) (model : Option String) (r : Request) : Prop where
  prompt : r.prompt = prompt
  named : ∀ name, model = some name → trim name ≠ "" → r.model = trim name
  unnamed : (∀ name, model = some name → trim name = "") → r.model = c.defaultModel
  timeout : r.timeout = c.requestTimeout

theorem Acceptable.ready {c : Config} (h : c.Acceptable) (hrequest : c.requestTimeout.nanos = 0)
    (hprobe : c.probeTimeout.nanos = 0)
    (hreply : ∀ language, c.replyLanguage = some language → IsTidy language) :
    c.normalized.Ready := by
  refine ⟨h.scheme, ?_, h.isTidy_model, ?_, ?_, ?_, ?_⟩
  · exact getLast?_dropEndChar (trim c.baseUrl) '/'
  · rw [normalized_maxRetries, UInt32.le_iff_toNat_le]
    apply Nat.one_le_iff_ne_zero.mpr
    intro hzero
    exact h.retries (UInt32.toNat_inj.mp hzero)
  · rw [normalized_requestTimeout]
    exact Duration.second_le_toNanos (Duration.seconds_ne_zero hrequest h.requestTimeout)
  · rw [normalized_probeTimeout]
    exact Duration.second_le_toNanos (Duration.seconds_ne_zero hprobe h.probeTimeout)
  · rw [normalized_replyLanguage]
    exact hreply

theorem serves_of_full_seconds {c : Config} (h : c.requestTimeout.nanos = 0) (prompt : String)
    (model : Option String) :
    c.Serves prompt model ⟨prompt, c.modelFor model, c.requestTimeout.seconds, false⟩ := by
  refine ⟨rfl, ?_, ?_, ?_⟩
  · rintro name rfl hname
    dsimp only
    exact modelFor_of_named hname c
  · intro hblank
    dsimp only
    exact modelFor_of_unnamed hblank c
  · exact (Duration.ofSeconds_seconds_eq_self_iff c.requestTimeout).mpr h

theorem nanos_of_readSeconds {lookup : String → Option String} {name : String}
    {default d : Duration} (hdefault : default.nanos = 0)
    (h : readSeconds lookup name default = .ok d) : d.nanos = 0 := by
  rw [readSeconds, map_eq_ok_iff] at h
  obtain ⟨n, -, rfl⟩ := h
  cases n with
  | none => exact hdefault
  | some n => rfl

theorem isTidy_of_read {lookup : String → Option String} {name value : String}
    (h : read lookup name = some value) : IsTidy value := by
  obtain ⟨raw, -, hraw⟩ := Option.bind_eq_some_iff.mp h
  exact isTidy_of_trimmed? hraw

/-- What variables describe has passed the first check, its times are full seconds, and its texts
are trimmed. -/
theorem exists_acceptable_of_ofLookup {lookup : String → Option String} {c : Config}
    (h : ofLookup lookup = .ok c) :
    ∃ raw : Config, raw.Acceptable ∧ c = raw.normalized ∧ raw.requestTimeout.nanos = 0 ∧
      raw.probeTimeout.nanos = 0 ∧
      ∀ language, raw.replyLanguage = some language → IsTidy language := by
  simp only [ofLookup, bind_eq_ok_iff] at h
  obtain ⟨retries, -, delay, -, request, hrequest, probe, hprobe, hvalid⟩ := h
  obtain ⟨hraw, rfl⟩ := validate_eq_ok_iff.mp hvalid
  have hrequest' : standard.requestTimeout.nanos = 0 := rfl
  have hprobe' : standard.probeTimeout.nanos = 0 := rfl
  exact ⟨_, hraw, rfl, nanos_of_readSeconds hrequest' hrequest,
    nanos_of_readSeconds hprobe' hprobe, fun _ ↦ isTidy_of_read⟩

/-- A configuration that variables describe keeps what is promised, and every request can be built
from it and serves its prompt. -/
theorem lookup_configuration_serves {lookup : String → Option String} {c : Config}
    (h : ofLookup lookup = .ok c) :
    c.Ready ∧ ∀ prompt model, ∃ r, (c.draft prompt model).build = .ok r ∧
      c.Serves prompt model r := by
  obtain ⟨raw, hraw, rfl, hrequest, hprobe, hreply⟩ := exists_acceptable_of_ofLookup h
  refine ⟨hraw.ready hrequest hprobe hreply, ?_⟩
  intro prompt model
  have hnanos : raw.normalized.requestTimeout.nanos = 0 := by
    rwa [normalized_requestTimeout]
  have hseconds : raw.normalized.requestTimeout.seconds ≠ 0 := by
    rw [normalized_requestTimeout]
    exact Duration.seconds_ne_zero hrequest hraw.requestTimeout
  rw [build_draft hraw.isTidy_model, if_neg hseconds]
  exact ⟨_, rfl, serves_of_full_seconds hnanos prompt model⟩

/-- Variables with blanks around them, a sign before a number, and a blank one. -/
theorem lookup_configuration_serves_padded :
    let lookup := fun name ↦ List.lookup name
      [("OLLAMA_API_URL", " https://h// "), ("EDUCATOR_MODEL", "\tm "),
        ("EDUCATOR_TIMEOUT_SECS", " +7"), ("EDUCATOR_REPLY_LANGUAGE", " ")]
    ∃ c, ofLookup lookup = .ok c ∧ c.Ready ∧ c.requestTimeout = .ofSeconds 7 ∧
      ∃ r, (c.draft "hi" (some " n ")).build = .ok r ∧ r.model = trim " n " ∧
        r.timeout = .ofSeconds 7 := by
  intro lookup
  let c : Config := { standard with
    baseUrl := "https://h", defaultModel := "m", requestTimeout := .ofSeconds 7 }
  have hlookup : ofLookup lookup = .ok c := by decide +kernel
  obtain ⟨hready, hserves⟩ := lookup_configuration_serves hlookup
  obtain ⟨r, hr, hserved⟩ := hserves "hi" (some " n ")
  exact ⟨c, hlookup, hready, rfl, r, hr, hserved.named " n " rfl (by decide +kernel),
    hserved.timeout⟩

end Config

end CodeMentor
