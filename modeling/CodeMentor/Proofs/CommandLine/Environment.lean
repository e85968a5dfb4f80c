import CodeMentor.CommandLine.Invocation
import CodeMentor.Proofs.Backend.Recheck

/-!
# Two readings of the environment

Two variables of the environment are read twice when the program starts: by the configuration, for
which a blank variable is a missing one, and as stand-ins for options, which take the text of a
variable as it is. The text of the second reading replaces what the first one made of it, and the
whole is checked again. The main result says for which environments this comes to the configuration
that the environment alone describes: for all but those in which one of the two variables is set and
blank.
-/

namespace CodeMentor

def SetBlank (lookup : String → Option String) (name : String) : Prop :=
  ∃ text, lookup name = some text ∧ trim text = ""

namespace Config

theorem exists_validate_of_ofLookup {lookup : String → Option String} {c : Config}
    (h : ofLookup lookup = .ok c) :
    ∃ raw : Config, raw.baseUrl = (read lookup "OLLAMA_API_URL").getD standard.baseUrl ∧
      raw.defaultModel = (read lookup "EDUCATOR_MODEL").getD standard.defaultModel ∧
      raw.validate = .ok c := by
  simp only [ofLookup, bind_eq_ok_iff] at h
  obtain ⟨retries, -, delay, -, request, -, probe, -, hvalid⟩ := h
  exact ⟨_, rfl, rfl, hvalid⟩

theorem tidyUrl_trim (url : String) : tidyUrl (trim url) = tidyUrl url := by
  rw [tidyUrl, tidyUrl, trim_trim]

theorem tidyUrl_of_blank {url : String} (h : trim url = "") : tidyUrl url = "" := by
  rw [tidyUrl, h]
  rfl

/-- A text that means the same before and after it is trimmed comes to the same in both readings,
unless it is blank. -/
theorem tidy_getD_eq (tidy : String → String) (htidy : ∀ text, tidy (trim text) = tidy text)
    {lookup : String → Option String} {name default known : String}
    (hdefault : tidy (tidy default) = tidy default)
    (hknown : known = tidy ((read lookup name).getD default)) (h : ¬ SetBlank lookup name) :
    tidy ((lookup name).getD known) = known := by
  rw [hknown, read]
  cases hlookup : lookup name with
  | none => exact hdefault
  | some text =>
      have hne : trim text ≠ "" := fun hblank ↦ h ⟨text, hlookup, hblank⟩
      have htrimmed : trimmed? text = some (trim text) := trimmed?_eq_some_iff.mpr ⟨rfl, hne⟩
      rw [Option.bind_some, htrimmed, Option.getD_some, Option.getD_some, htidy]

section Replaced

variable {raw c : Config} (h : raw.validate = .ok c) {url model : String}

include h

/-- Other spellings of the address and of the model pass the check again, with the same outcome. -/
theorem validate_replaced (hurl : tidyUrl url = c.baseUrl) (hmodel : trim model = c.defaultModel) :
    validate { c with baseUrl := url, defaultModel := model } = .ok c := by
  obtain ⟨hraw, rfl⟩ := validate_eq_ok_iff.mp h
  have hsame : normalized { raw.normalized with baseUrl := url, defaultModel := model } =
      raw.normalized := by
    rw [tidyUrl] at hurl
    rw [normalized, hurl, hmodel]
  refine validate_eq_ok_iff.mpr ⟨⟨?_, ?_, ?_, ?_, ?_⟩, hsame.symm⟩
  · rw [hsame]
    exact hraw.scheme
  · rw [hsame]
    exact hraw.model
  · simpa using hraw.retries
  · simpa using hraw.requestTimeout
  · simpa using hraw.probeTimeout

theorem validate_blank_model (hurl : tidyUrl url = c.baseUrl) (hmodel : trim model = "") :
    validate { c with baseUrl := url, defaultModel := model } =
      .error (.invalidInput "default model must not be empty") := by
  obtain ⟨hraw, rfl⟩ := validate_eq_ok_iff.mp h
  have hscheme := hraw.scheme
  have hempty : raw.normalized.baseUrl.isEmpty = false := by
    rw [Bool.eq_false_iff, ne_eq, String.isEmpty_iff]
    intro hnone
    rw [hnone] at hscheme
    revert hscheme
    decide
  rw [← startsWith_iff, ← startsWith_iff] at hscheme
  rw [← hurl, tidyUrl] at hscheme hempty
  rcases hscheme with hhttp | hhttps
  · simp [validate, hempty, hhttp, hmodel]
  · simp [validate, hempty, hhttps, hmodel]

end Replaced

theorem validate_blank_url {c : Config} (h : trim c.baseUrl = "") :
    c.validate = .error (.invalidInput "backend url is required") := by
  have hurl := tidyUrl_of_blank h
  rw [tidyUrl] at hurl
  simp [validate, hurl]

end Config

namespace CommandLine

open CodeMentor.Config

def BackendOptions.absent : BackendOptions := ⟨none, none⟩

theorem BackendOptions.configure_absent (lookup : String → Option String) :
    absent.configure lookup = (ofLookup lookup).bind fun c ↦ validate { c with
      baseUrl := (lookup "OLLAMA_API_URL").getD c.baseUrl
      defaultModel := (lookup "EDUCATOR_MODEL").getD c.defaultModel } := rfl

theorem BackendOptions.configure_absent_of_error {lookup : String → Option String} {e : Error}
    (h : ofLookup lookup = .error e) : absent.configure lookup = .error e := by
  simp only [configure_absent, h, Except.bind]

/-- What the second reading makes of a valid environment that describes `c`. -/
structure Reread (lookup : String → Option String) (c : Config)
    (configured : Except Error Config) : Prop where
  blankUrl : SetBlank lookup "OLLAMA_API_URL" →
    configured = .error (.invalidInput "backend url is required")
  blankModel : ¬ SetBlank lookup "OLLAMA_API_URL" → SetBlank lookup "EDUCATOR_MODEL" →
    configured = .error (.invalidInput "default model must not be empty")
  same : ¬ SetBlank lookup "OLLAMA_API_URL" → ¬ SetBlank lookup "EDUCATOR_MODEL" →
    configured = .ok c

theorem BackendOptions.reread_configure_absent {lookup : String → Option String} {c : Config}
    (h : ofLookup lookup = .ok c) : Reread lookup c (absent.configure lookup) := by
  obtain ⟨raw, hbase, hname, hvalid⟩ := exists_validate_of_ofLookup h
  obtain ⟨-, hnormal⟩ := validate_eq_ok_iff.mp hvalid
  have hbaseUrl : c.baseUrl = tidyUrl ((read lookup "OLLAMA_API_URL").getD standard.baseUrl) := by
    rw [hnormal, normalized_baseUrl, hbase]
  have hdefaultModel :
      c.defaultModel = trim ((read lookup "EDUCATOR_MODEL").getD standard.defaultModel) := by
    rw [hnormal, normalized, hname]
  have hconfigured : absent.configure lookup = validate { c with
      baseUrl := (lookup "OLLAMA_API_URL").getD c.baseUrl
      defaultModel := (lookup "EDUCATOR_MODEL").getD c.defaultModel } := by
    simp only [configure_absent, h, Except.bind]
  -- A text that is set and not blank is put in place of its own trimmed form.
  have hurl : ¬ SetBlank lookup "OLLAMA_API_URL" →
      tidyUrl ((lookup "OLLAMA_API_URL").getD c.baseUrl) = c.baseUrl :=
    tidy_getD_eq tidyUrl tidyUrl_trim (by decide +kernel) hbaseUrl
  have hmodel : ¬ SetBlank lookup "EDUCATOR_MODEL" →
      trim ((lookup "EDUCATOR_MODEL").getD c.defaultModel) = c.defaultModel :=
    tidy_getD_eq trim trim_trim (by decide +kernel) hdefaultModel
  rw [hconfigured]
  refine ⟨?_, ?_, ?_⟩
  · rintro ⟨text, hset, hblank⟩
    rw [hset]
    exact validate_blank_url hblank
  · rintro hnot ⟨text, hset, hblank⟩
    rw [hset]
    exact validate_blank_model hvalid (hurl hnot) hblank
  · intro hnotUrl hnotModel
    exact validate_replaced hvalid (hurl hnotUrl) (hmodel hnotModel)

/-- With no options given, the command line is configured as the environment alone describes exactly
if the environment describes nothing valid, or neither of the two variables that stand in for
options is set and blank. Where the environment fails, the command line fails alike. Otherwise a
blank address is refused as missing, though the configuration would have taken the standard one, and
so is a blank model. -/
theorem environment_read_alike_iff (lookup : String → Option String) :
    ((∀ c, BackendOptions.absent.configure lookup = .ok c ↔ ofLookup lookup = .ok c) ↔
      (∃ e, ofLookup lookup = .error e) ∨
        ¬ SetBlank lookup "OLLAMA_API_URL" ∧ ¬ SetBlank lookup "EDUCATOR_MODEL") ∧
    (∀ e, ofLookup lookup = .error e → BackendOptions.absent.configure lookup = .error e) ∧
    ∀ c, ofLookup lookup = .ok c → Reread lookup c (BackendOptions.absent.configure lookup) := by
  have hfailed : ∀ e, ofLookup lookup = .error e →
      BackendOptions.absent.configure lookup = .error e :=
    fun e he ↦ BackendOptions.configure_absent_of_error he
  refine ⟨?_, hfailed, fun c hc ↦ BackendOptions.reread_configure_absent hc⟩
  cases hlookup : ofLookup lookup with
  | error e => simp [hfailed e hlookup]
  | ok c =>
      have hreread := BackendOptions.reread_configure_absent hlookup
      by_cases hurl : SetBlank lookup "OLLAMA_API_URL"
      · simp [hreread.blankUrl hurl, hurl]
      · by_cases hmodel : SetBlank lookup "EDUCATOR_MODEL"
        · simp [hreread.blankModel hurl hmodel, hmodel]
        · simp [hreread.same hurl hmodel, hurl, hmodel]

/-- An empty address and a blank model: the environment describes the standard configuration, and
the command line is refused. -/
theorem environment_read_apart :
    let emptyUrl := Function.update (fun _ ↦ none) "OLLAMA_API_URL" (some "")
    let blankModel := Function.update (fun _ ↦ none) "EDUCATOR_MODEL" (some " ")
    ofLookup emptyUrl = .ok .standard ∧ ofLookup blankModel = .ok .standard ∧
      BackendOptions.absent.configure emptyUrl =
        .error (.invalidInput "backend url is required") ∧
      BackendOptions.absent.configure blankModel =
        .error (.invalidInput "default model must not be empty") := by
  decide +kernel

end CommandLine

end CodeMentor
