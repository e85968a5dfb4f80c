import CodeMentor.Proofs.CommandLine.Environment

/-!
# Options against the environment

The options on the backend replace an address and a model that variables give. But the environment
is checked as a whole before the options are put in, so an address that is about to be replaced can
still decide the outcome. The check is taken apart into the faults it looks for, in order; the main
result compares two environments that differ in the two variables only, under the same two options.
-/

namespace CodeMentor

namespace Config

/-! ## Faults in order -/

instance (url : String) : Decidable (HasScheme url) :=
  inferInstanceAs (Decidable (_ <+: _ ∨ _ <+: _))

/-- Why the check refuses an address. -/
def urlFault? (text : String) : Option Error :=
  if tidyUrl text = "" then some (.invalidInput "backend url is required")
  else if HasScheme (tidyUrl text) then none
  else some (.invalidInput
    s!"backend url must start with http:// or https://: {tidyUrl text}")

def modelFault? (text : String) : Option Error :=
  if trim text = "" then some (.invalidInput "default model must not be empty") else none

def limitsFault? (c : Config) : Option Error :=
  if c.maxRetries = 0 then some (.invalidInput "max retries must be at least 1")
  else if c.requestTimeout.isZero || c.probeTimeout.isZero then
    some (.invalidInput "timeouts must be positive")
  else none

def unlessFault (fault? : Option Error) (c : Config) : Except Error Config :=
  fault?.elim (.ok c) .error

theorem unlessFault_some (e : Error) (c : Config) : unlessFault (some e) c = .error e := rfl

theorem unlessFault_none (c : Config) : unlessFault none c = .ok c := rfl

theorem unlessFault_eq_iff {x y : Option Error} {c : Config} :
    unlessFault x c = unlessFault y c ↔ x = y := by
  cases x <;> cases y <;> simp [unlessFault]

theorem schemeless_eq_true_iff (url : String) :
    (!startsWith url "http://" && !startsWith url "https://") = true ↔ ¬ HasScheme url := by
  rw [HasScheme, ← startsWith_iff, ← startsWith_iff, not_or, Bool.and_eq_true, Bool.not_eq_true',
    Bool.not_eq_true', Bool.not_eq_true, Bool.not_eq_true]

/-- The check reports the first fault there is. -/
theorem validate_eq_unlessFault (c : Config) :
    c.validate =
      unlessFault ((urlFault? c.baseUrl).or ((modelFault? c.defaultModel).or (limitsFault? c)))
        c.normalized := by
  have htidy : dropEndChar (trim c.baseUrl) '/' = tidyUrl c.baseUrl := by rw [tidyUrl]
  simp only [validate, normalized, htidy, urlFault?, modelFault?, limitsFault?,
    String.isEmpty_iff, schemeless_eq_true_iff, ite_not]
  split_ifs
  all_goals simp only [Option.none_or, Option.some_or, unlessFault_some, unlessFault_none]

theorem validate_put (c : Config) (url model : String) :
    validate { c with baseUrl := url, defaultModel := model } =
      unlessFault ((urlFault? url).or ((modelFault? model).or (limitsFault? c)))
        { c with baseUrl := tidyUrl url, defaultModel := trim model } := by
  rw [validate_eq_unlessFault, normalized, tidyUrl]
  simp only [limitsFault?]

/-- Faults of an address can be told from all others by their first words. -/
theorem exists_of_urlFault? {text : String} {e : Error} (h : urlFault? text = some e) :
    ∃ rest, e = .invalidInput ("backend url " ++ rest) := by
  simp only [urlFault?] at h
  split_ifs at h with hempty hscheme
  · exact ⟨"is required", (Option.some.inj h).symm⟩
  · refine ⟨"must start with http:// or https://: " ++ tidyUrl text, ?_⟩
    rw [← Option.some.inj h, ← String.append_assoc]
    rfl

theorem urlFault_ne_later {text model : String} {c : Config} {e : Error}
    (h : urlFault? text = some e) : modelFault? model ≠ some e ∧ limitsFault? c ≠ some e := by
  obtain ⟨rest, rfl⟩ := exists_of_urlFault? h
  constructor
  · intro hmodel
    simp only [modelFault?] at hmodel
    split_ifs at hmodel
    simp [← String.toList_inj] at hmodel
  · intro hlimits
    simp only [limitsFault?] at hlimits
    split_ifs at hlimits
    · simp [← String.toList_inj] at hlimits
    · simp [← String.toList_inj] at hlimits

/-! ## What an environment says -/

/-- The two environments differ at most in the variables that options on the backend replace. -/
def AlikeButForOptions (a b : String → Option String) : Prop :=
  ∀ name, name ≠ "OLLAMA_API_URL" → name ≠ "EDUCATOR_MODEL" → a name = b name

def addressOf (lookup : String → Option String) : String :=
  (read lookup "OLLAMA_API_URL").getD standard.baseUrl

def modelOf (lookup : String → Option String) : String :=
  (read lookup "EDUCATOR_MODEL").getD standard.defaultModel

/-- What the other variables of an environment describe, with the standard address and model. -/
def settings (lookup : String → Option String) : Except Error Config := do
  let maxRetries ← readNumber lookup "EDUCATOR_MAX_RETRIES" UInt32.size
  let retryDelay ← readSeconds lookup "EDUCATOR_RETRY_DELAY_SECS" standard.retryDelay
  let requestTimeout ← readSeconds lookup "EDUCATOR_TIMEOUT_SECS" standard.requestTimeout
  let probeTimeout ← readSeconds lookup "EDUCATOR_PROBE_TIMEOUT_SECS" standard.probeTimeout
  return { standard with
    maxRetries := (maxRetries.map UInt32.ofNat).getD standard.maxRetries
    retryDelay, requestTimeout, probeTimeout
    replyLanguage := read lookup "EDUCATOR_REPLY_LANGUAGE" }

theorem settings_congr {a b : String → Option String} (h : AlikeButForOptions a b) :
    settings a = settings b := by
  have hread : ∀ name, name ≠ "OLLAMA_API_URL" → name ≠ "EDUCATOR_MODEL" →
      read a name = read b name := by
    intro name hurl hmodel
    rw [read, read, h name hurl hmodel]
  simp only [settings, readSeconds, readNumber]
  rw [hread "EDUCATOR_MAX_RETRIES" (by decide) (by decide),
    hread "EDUCATOR_RETRY_DELAY_SECS" (by decide) (by decide),
    hread "EDUCATOR_TIMEOUT_SECS" (by decide) (by decide),
    hread "EDUCATOR_PROBE_TIMEOUT_SECS" (by decide) (by decide),
    hread "EDUCATOR_REPLY_LANGUAGE" (by decide) (by decide)]

/-- A model that variables give is never blank. -/
theorem modelFault?_modelOf (lookup : String → Option String) :
    modelFault? (modelOf lookup) = none := by
  have htidy : trim (modelOf lookup) ≠ "" := by
    rw [modelOf]
    cases hread : read lookup "EDUCATOR_MODEL" with
    | none => decide +kernel
    | some model =>
        have hmodel := isTidy_of_read hread
        rw [Option.getD_some, hmodel.trimmed]
        exact hmodel.ne
  rw [modelFault?, if_neg htidy]

theorem ofLookup_eq_bind (lookup : String → Option String) :
    ofLookup lookup = settings lookup >>= fun s ↦
      unlessFault ((urlFault? (addressOf lookup)).or (limitsFault? s))
        { s with baseUrl := tidyUrl (addressOf lookup), defaultModel := trim (modelOf lookup) } := by
  have hput : ∀ s : Config,
      unlessFault ((urlFault? (addressOf lookup)).or (limitsFault? s))
        { s with baseUrl := tidyUrl (addressOf lookup), defaultModel := trim (modelOf lookup) } =
      validate { s with baseUrl := addressOf lookup, defaultModel := modelOf lookup } := by
    intro s
    rw [validate_put, modelFault?_modelOf, Option.none_or]
  simp only [hput, settings, bind_assoc, pure_bind]
  rfl

/-- Why an environment is refused for its address, which is checked only if the numbers among the
variables can be read. -/
def refusal? (lookup : String → Option String) : Option Error :=
  (settings lookup).toOption.bind fun _ ↦ urlFault? (addressOf lookup)

theorem refusal?_of_settings {lookup : String → Option String} {s : Config}
    (h : settings lookup = .ok s) : refusal? lookup = urlFault? (addressOf lookup) := by
  rw [refusal?, h, Except.toOption, Option.bind_some]

theorem ofLookup_of_refusal? {lookup : String → Option String} {e : Error}
    (h : refusal? lookup = some e) : ofLookup lookup = .error e := by
  obtain ⟨s, hs, hurl⟩ := Option.bind_eq_some_iff.mp h
  rw [ofLookup_eq_bind, toOption_eq_some_iff.mp hs, hurl]
  simp only [bind, Except.bind, Option.some_or, unlessFault_some]

theorem exists_ofLookup_iff {lookup : String → Option String} {s : Config}
    (h : settings lookup = .ok s) :
    (∃ c, ofLookup lookup = .ok c) ↔ refusal? lookup = none ∧ limitsFault? s = none := by
  rw [refusal?_of_settings h, ← Option.or_eq_none_iff, ofLookup_eq_bind, h]
  simp only [bind, Except.bind]
  cases (urlFault? (addressOf lookup)).or (limitsFault? s) with
  | none => simp [unlessFault_none]
  | some e => simp [unlessFault_some]

end Config

namespace CommandLine

open CodeMentor.Config

def BackendOptions.given (url model : String) : BackendOptions := ⟨some url, some model⟩

/-- The faults that are looked for behind the environment's address, when both options are given. -/
def laterFault? (s : Config) (url model : String) : Option Error :=
  (limitsFault? s).or ((urlFault? url).or (modelFault? model))

/-- With both options the environment's model is gone, but its address is still checked first. -/
theorem BackendOptions.configure_given (url model : String) (lookup : String → Option String) :
    (given url model).configure lookup = settings lookup >>= fun s ↦
      unlessFault ((urlFault? (addressOf lookup)).or (laterFault? s url model))
        { s with baseUrl := tidyUrl url, defaultModel := trim model } := by
  have hconfigure : (given url model).configure lookup = ofLookup lookup >>= fun c ↦
      validate { c with baseUrl := url, defaultModel := model } := rfl
  rw [hconfigure, ofLookup_eq_bind, bind_assoc]
  refine bind_congr fun s ↦ ?_
  rw [laterFault?]
  cases hfirst : (urlFault? (addressOf lookup)).or (limitsFault? s) with
  | some e =>
      rw [← Option.or_assoc, hfirst, Option.some_or, unlessFault_some, unlessFault_some]
      rfl
  | none =>
      obtain ⟨haddress, hlimits⟩ := Option.or_eq_none_iff.mp hfirst
      have hsame : limitsFault? { s with
          baseUrl := tidyUrl (addressOf lookup), defaultModel := trim (modelOf lookup) } =
          none := by
        rw [← hlimits, limitsFault?, limitsFault?]
      have hsecond := validate_put { s with
        baseUrl := tidyUrl (addressOf lookup), defaultModel := trim (modelOf lookup) } url model
      rw [hsame, Option.or_none] at hsecond
      rw [haddress, hlimits, Option.none_or, Option.none_or, unlessFault_none]
      simp only [bind, Except.bind]
      exact hsecond

theorem BackendOptions.configure_of_refusal? {lookup : String → Option String} {e : Error}
    (h : refusal? lookup = some e) (options : BackendOptions) :
    options.configure lookup = .error e := by
  rw [configure, ofLookup_of_refusal? h]
  rfl

/-- The one environment is refused for its address with the very fault that the option's own address
has, and the other is valid, so that this fault comes up there as well. -/
def FaultsCoincide (url : String) (valid refused : String → Option String) : Prop :=
  ∃ e, urlFault? url = some e ∧ (∃ c, ofLookup valid = .ok c) ∧ refusal? refused = some e

theorem not_faultsCoincide {url : String} {valid refused : String → Option String}
    (h : refusal? refused = none) : ¬ FaultsCoincide url valid refused := by
  rintro ⟨e, -, -, hrefused⟩
  rw [h] at hrefused
  cases hrefused

section Both

variable {a b : String → Option String} {s : Config}

/-- Behind the environment's address, a fault of an address can only be that of the option. -/
theorem faultsCoincide_iff (ha : settings a = .ok s) (hb : settings b = .ok s) {e : Error}
    (hvalid : refusal? a = none) (hrefused : refusal? b = some e) (url model : String) :
    FaultsCoincide url a b ↔ laterFault? s url model = some e := by
  rw [refusal?_of_settings hb] at hrefused
  obtain ⟨hmodel, hlimits⟩ : modelFault? model ≠ some e ∧ limitsFault? s ≠ some e :=
    urlFault_ne_later hrefused
  rw [FaultsCoincide, exists_ofLookup_iff ha, refusal?_of_settings hb, hrefused, laterFault?]
  simp only [Option.or_eq_some_iff, hmodel, hlimits, hvalid, and_false, or_false, false_or,
    true_and, Option.some.injEq]
  constructor
  · rintro ⟨e', hurl, hnone, rfl⟩
    exact ⟨hnone, hurl⟩
  · rintro ⟨hnone, hurl⟩
    exact ⟨e, hurl, hnone, rfl⟩

theorem refusal?_or_eq_iff (ha : settings a = .ok s) (hb : settings b = .ok s)
    (url model : String) :
    (refusal? a).or (laterFault? s url model) = (refusal? b).or (laterFault? s url model) ↔
      refusal? a = refusal? b ∨ FaultsCoincide url a b ∨ FaultsCoincide url b a := by
  cases hx : refusal? a with
  | none =>
      have hba : ¬ FaultsCoincide url b a := not_faultsCoincide hx
      cases hy : refusal? b with
      | none => simp
      | some e => simp [faultsCoincide_iff ha hb hx hy url model, hba]
  | some e =>
      cases hy : refusal? b with
      | none =>
          have hab : ¬ FaultsCoincide url a b := not_faultsCoincide hy
          simp [faultsCoincide_iff hb ha hy hx url model, hab, eq_comm]
      | some e' =>
          -- Neither environment is valid, so the faults have to be the same by themselves.
          have hab : ¬ FaultsCoincide url a b := by
            rintro ⟨-, -, hvalid, -⟩
            simp [exists_ofLookup_iff ha, hx] at hvalid
          have hba : ¬ FaultsCoincide url b a := by
            rintro ⟨-, -, hvalid, -⟩
            simp [exists_ofLookup_iff hb, hy] at hvalid
          simp [hab, hba]

end Both

/-- Of two environments that differ only in the variables for the address and the model, and with
both options given, the outcome is the same exactly if the address of neither environment is
refused, or both are refused alike, or the one that is refused has the fault that the option's own
address has in the other. A refused address of the environment decides the outcome whatever the
options are, though they replace it. -/
theorem options_override_iff {a b : String → Option String} (h : AlikeButForOptions a b)
    (url model : String) :
    ((BackendOptions.given url model).configure a = (BackendOptions.given url model).configure b ↔
      refusal? a = refusal? b ∨ FaultsCoincide url a b ∨ FaultsCoincide url b a) ∧
    ∀ e, refusal? a = some e → ∀ options : BackendOptions, options.configure a = .error e := by
  refine ⟨?_, fun e he ↦ BackendOptions.configure_of_refusal? he⟩
  have hsettings := settings_congr h
  rw [BackendOptions.configure_given, BackendOptions.configure_given, hsettings]
  cases hs : settings b with
  | error e =>
      have hrefusal : ∀ lookup, settings lookup = .error e → refusal? lookup = none := by
        intro lookup hlookup
        rw [refusal?, hlookup]
        rfl
      simp [hrefusal a (hsettings.trans hs), hrefusal b hs, bind, Except.bind]
  | ok s =>
      have hboth := refusal?_or_eq_iff (hsettings.trans hs) hs url model
      rw [refusal?_of_settings hs, refusal?_of_settings (hsettings.trans hs)] at hboth ⊢
      simp only [bind, Except.bind]
      rw [unlessFault_eq_iff]
      exact hboth

/-- Two addresses that are replaced, one of them padded: neither is refused. -/
theorem options_override_padded :
    let a := Function.update (fun _ ↦ none) "OLLAMA_API_URL" (some " https://h/ ")
    let b := Function.update (fun _ ↦ none) "EDUCATOR_MODEL" (some "n")
    AlikeButForOptions a b ∧
      (BackendOptions.given "http://k" "m").configure a =
        (BackendOptions.given "http://k" "m").configure b := by
  intro a b
  have halike : AlikeButForOptions a b := by
    intro name hurl hmodel
    simp [a, b, Function.update_of_ne hurl, Function.update_of_ne hmodel]
  refine ⟨halike, (options_override_iff halike "http://k" "m").1.mpr (.inl ?_)⟩
  decide +kernel

/-- The environment's address is replaced by an option, and still the command line fails with it;
without it, it succeeds. -/
theorem options_do_not_override :
    let a := Function.update (fun _ ↦ none) "OLLAMA_API_URL" (some "ftp://x")
    let b := fun _ ↦ none
    AlikeButForOptions a b ∧
      (BackendOptions.given "http://h" "m").configure a =
        .error (.invalidInput "backend url must start with http:// or https://: ftp://x") ∧
      (BackendOptions.given "http://h" "m").configure b =
        .ok { Config.standard with baseUrl := "http://h", defaultModel := "m" } := by
  intro a b
  refine ⟨?_, by decide +kernel, by decide +kernel⟩
  intro name hurl _
  simp [a, b, Function.update_of_ne hurl]

end CommandLine

end CodeMentor
