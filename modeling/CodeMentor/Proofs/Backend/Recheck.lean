import CodeMentor.Proofs.Backend.Configuration

/-!
# Checking a configuration again

The check takes the white space off both ends of an address and then the slashes off its end. White
space that stood before those slashes is now at the end itself, and only another check takes it off.
So a configuration that has passed the check need not pass it again unchanged: the main result says
exactly when it does, and what a second check makes of the others. Some it even refuses, because
white space was all that kept the slashes of the scheme from being slashes at the end.
-/

namespace CodeMentor

open CodeMentor.Text

/-! ## Ends of lists and texts -/

namespace Text

variable {α : Type} {p : α → Bool} {xs : List α}

/-- Of a list that starts with an element that stays, stripping takes from the end only. -/
theorem strip_eq_dropEndWhile {a : α} (h : xs.head? = some a) (ha : p a = false) :
    strip p xs = dropEndWhile p xs := by
  obtain ⟨rest, rfl⟩ := List.head?_eq_some_iff.mp h
  rw [strip, List.dropWhile_cons_of_neg (by simp [ha])]

theorem dropEndWhile_eq_self_iff :
    dropEndWhile p xs = xs ↔ ∀ a, xs.getLast? = some a → p a = false := by
  rw [dropEndWhile_eq_rdropWhile, List.rdropWhile_eq_self_iff]
  constructor
  · intro h a ha
    obtain ⟨hne, rfl⟩ := List.mem_getLast?_eq_getLast ha
    simpa using h hne
  · intro h hne
    simpa using h _ (List.getLast?_eq_some_getLast hne)

end Text

def EndsBlank (s : String) : Prop :=
  ∃ c, s.toList.getLast? = some c ∧ isSpace c = true

theorem not_endsBlank_trim (s : String) : ¬ EndsBlank (trim s) := by
  rintro ⟨c, hlast, hspace⟩
  rw [trim, String.toList_ofList, strip] at hlast
  rw [eq_false_of_getLast?_dropEndWhile hlast] at hspace
  cases hspace

namespace Config

/-! ## Addresses -/

def tidyUrl (url : String) : String :=
  dropEndChar (trim url) '/'

theorem toList_tidyUrl (url : String) :
    (tidyUrl url).toList = dropEndWhile (· == '/') (trim url).toList := by
  rw [tidyUrl, dropEndChar, String.toList_ofList]

/-- White space is left at the end of an address exactly if it stood before slashes at the end. -/
theorem endsBlank_tidyUrl_iff (url : String) :
    EndsBlank (tidyUrl url) ↔ ∃ before blank slashes, isSpace blank = true ∧
      (trim url).toList = before ++ blank :: List.replicate (slashes + 1) '/' := by
  rw [EndsBlank, toList_tidyUrl, dropEndWhile_eq_rdropWhile]
  constructor
  · rintro ⟨blank, hlast, hblank⟩
    obtain ⟨before, hbefore⟩ := List.getLast?_eq_some_iff.mp hlast
    obtain ⟨n, hslashes⟩ : ∃ n, (trim url).toList.rtakeWhile (· == '/') =
        List.replicate n '/' := by
      refine ⟨_, List.eq_replicate_length.mpr ?_⟩
      intro s hs
      simpa using List.mem_rtakeWhile_imp hs
    have hsplit : (trim url).toList = before ++ blank :: List.replicate n '/' := by
      rw [← List.rdropWhile_append_rtakeWhile (p := (· == '/')) (l := (trim url).toList),
        hbefore, hslashes, List.append_assoc, List.singleton_append]
    cases n with
    | zero => exact absurd ⟨blank, by simp [hsplit], hblank⟩ (not_endsBlank_trim url)
    | succ n => exact ⟨before, blank, n, hblank, hsplit⟩
  · rintro ⟨before, blank, slashes, hblank, hsplit⟩
    have hne : ¬ (blank == '/') = true := by
      intro hslash
      rw [eq_of_beq hslash] at hblank
      revert hblank
      decide
    have hdrop : ∀ n, (before ++ blank :: List.replicate n '/').rdropWhile (· == '/') =
        before ++ [blank] := by
      intro n
      induction n with
      | zero => exact List.rdropWhile_concat_neg _ _ _ hne
      | succ n ih =>
          rw [List.replicate_succ', ← List.cons_append, ← List.append_assoc,
            List.rdropWhile_concat_pos _ _ _ (by simp), ih]
    exact ⟨blank, by rw [hsplit, hdrop, List.getLast?_concat], hblank⟩

def HasScheme (url : String) : Prop :=
  "http://".toList <+: url.toList ∨ "https://".toList <+: url.toList

section Scheme

variable {url : String} (h : HasScheme url)

include h

theorem HasScheme.head : url.toList.head? = some 'h' := by
  rcases h with ⟨tail, htail⟩ | ⟨tail, htail⟩
  · rw [← htail]
    rfl
  · rw [← htail]
    rfl

theorem HasScheme.toList_trim : (trim url).toList = dropEndWhile isSpace url.toList := by
  rw [trim, String.toList_ofList, strip_eq_dropEndWhile h.head (by decide)]

theorem HasScheme.tidyUrl_ne_empty : tidyUrl url ≠ "" := by
  have htrim : (trim url).toList.head? = some 'h' := by
    rw [h.toList_trim, head?_dropEndWhile h.head (by decide)]
  have htidy : (tidyUrl url).toList.head? = some 'h' := by
    rw [toList_tidyUrl, head?_dropEndWhile htrim (by decide)]
  intro hempty
  rw [hempty] at htidy
  cases htidy

/-- An address without a slash at its end is left alone exactly if it does not end with white
space. -/
theorem HasScheme.tidyUrl_eq_self_iff (hslash : url.toList.getLast? ≠ some '/') :
    tidyUrl url = url ↔ ¬ EndsBlank url := by
  have hblank : dropEndWhile isSpace url.toList = url.toList ↔ ¬ EndsBlank url := by
    rw [dropEndWhile_eq_self_iff]
    simp [EndsBlank]
  rw [← hblank, ← String.toList_inj, toList_tidyUrl, h.toList_trim]
  constructor
  · intro hself
    -- Both steps only shorten the address, so neither of them did.
    have hfirst : dropEndWhile isSpace url.toList <+: url.toList := List.rdropWhile_prefix _ _
    have hsecond : dropEndWhile (· == '/') (dropEndWhile isSpace url.toList) <+:
        dropEndWhile isSpace url.toList := List.rdropWhile_prefix _ _
    rw [hself] at hsecond
    exact hfirst.eq_of_length_le hsecond.length_le
  · intro htrim
    rw [htrim, dropEndWhile_eq_self_iff]
    intro a ha
    by_contra hne
    obtain rfl : a = '/' := by simpa using hne
    exact hslash ha

end Scheme

/-! ## The second check -/

theorem normalized_baseUrl (c : Config) : c.normalized.baseUrl = tidyUrl c.baseUrl := by
  rw [normalized, tidyUrl]

theorem normalized_of_trimmed {c : Config} (h : trim c.defaultModel = c.defaultModel) :
    c.normalized = { c with baseUrl := tidyUrl c.baseUrl } := by
  rw [normalized, h, tidyUrl]

theorem validate_of_no_scheme {c : Config} (hempty : tidyUrl c.baseUrl ≠ "")
    (h : ¬ HasScheme (tidyUrl c.baseUrl)) :
    c.validate = .error (.invalidInput
      s!"backend url must start with http:// or https://: {tidyUrl c.baseUrl}") := by
  rw [HasScheme, ← startsWith_iff, ← startsWith_iff, not_or, Bool.not_eq_true,
    Bool.not_eq_true] at h
  have hurl : (tidyUrl c.baseUrl).isEmpty = false := by simpa using hempty
  rw [tidyUrl] at hurl h
  simp [validate, tidyUrl, hurl, h.1, h.2]

theorem Acceptable.hasScheme {c : Config} (h : c.Acceptable) : HasScheme c.normalized.baseUrl :=
  h.scheme

/-- What a second check makes of a configuration that has passed the first: only the address can
change, and only its scheme can be missed. -/
theorem Acceptable.validate_normalized {c : Config} (h : c.Acceptable) :
    let url := tidyUrl c.normalized.baseUrl
    (HasScheme url → c.normalized.validate = .ok { c.normalized with baseUrl := url }) ∧
      (¬ HasScheme url → c.normalized.validate = .error (.invalidInput
        s!"backend url must start with http:// or https://: {url}")) := by
  have hmodel := h.isTidy_model
  constructor
  · intro hurl
    refine validate_eq_ok_iff.mpr ⟨⟨?_, ?_, ?_, ?_, ?_⟩, ?_⟩
    · rw [normalized_baseUrl c.normalized]
      exact hurl
    · rw [normalized_of_trimmed hmodel.trimmed]
      exact hmodel.ne
    · rw [normalized_maxRetries]
      exact h.retries
    · rw [normalized_requestTimeout]
      exact h.requestTimeout
    · rw [normalized_probeTimeout]
      exact h.probeTimeout
    · rw [normalized_of_trimmed hmodel.trimmed]
  · exact validate_of_no_scheme h.hasScheme.tidyUrl_ne_empty

/-- A configuration that has passed the check passes it again unchanged exactly if its address does
not end with white space, that is, unless white space stood before slashes at the end of the address
that was given. Otherwise the second check shortens the address, and refuses it if too little is
left of the scheme. -/
theorem second_check_iff {c c' : Config} (h : c.validate = .ok c') :
    let url := tidyUrl c'.baseUrl
    (c'.validate = .ok c' ↔ ¬ EndsBlank c'.baseUrl) ∧
      (EndsBlank c'.baseUrl ↔ ∃ before blank slashes, isSpace blank = true ∧
        (trim c.baseUrl).toList = before ++ blank :: List.replicate (slashes + 1) '/') ∧
      (HasScheme url → c'.validate = .ok { c' with baseUrl := url }) ∧
      (¬ HasScheme url → c'.validate = .error (.invalidInput
        s!"backend url must start with http:// or https://: {url}")) := by
  obtain ⟨hc, rfl⟩ := validate_eq_ok_iff.mp h
  obtain ⟨hkept, hmissed⟩ := hc.validate_normalized
  have hslash : c.normalized.baseUrl.toList.getLast? ≠ some '/' := by
    rw [normalized_baseUrl]
    exact getLast?_dropEndChar (trim c.baseUrl) '/'
  have hself := hc.hasScheme.tidyUrl_eq_self_iff hslash
  refine ⟨?_, ?_, hkept, hmissed⟩
  · rw [← hself]
    constructor
    · intro hagain
      rw [← normalized_baseUrl, ← (validate_eq_ok_iff.mp hagain).2]
    · intro hurl
      rw [hkept (by rw [hurl]; exact hc.hasScheme), hurl]
  · rw [normalized_baseUrl]
    exact endsBlank_tidyUrl_iff c.baseUrl

/-- Slashes at the end with white space behind them are gone after one check. -/
theorem second_check_trailing_slashes :
    let c := { standard with baseUrl := " http://h// ", defaultModel := "m " }
    let c' := { standard with baseUrl := "http://h", defaultModel := "m" }
    c.validate = .ok c' ∧ c'.validate = .ok c' := by
  intro c c'
  have hfirst : c.validate = .ok c' := by decide +kernel
  refine ⟨hfirst, (second_check_iff hfirst).1.mpr ?_⟩
  rintro ⟨last, hlast, hspace⟩
  obtain rfl : 'h' = last := by simpa [c'] using hlast
  revert hspace
  decide

/-- White space before the last slash: a second check changes the address of one configuration and
refuses another, though both have passed the first. -/
theorem second_check_differs :
    (let c := { standard with baseUrl := "http://h /" }
      let c' := { standard with baseUrl := "http://h " }
      c.validate = .ok c' ∧ c'.validate = .ok { c' with baseUrl := "http://h" } ∧
        c'.validate ≠ .ok c') ∧
    (let c := { standard with baseUrl := "https:// /" }
      let c' := { standard with baseUrl := "https:// " }
      c.validate = .ok c' ∧ c'.validate =
        .error (.invalidInput "backend url must start with http:// or https://: https:")) := by
  decide +kernel

end Config

end CodeMentor
