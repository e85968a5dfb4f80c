import CodeMentor.Proofs.Results
import CodeMentor.Proofs.Source.Announcements
import CodeMentor.Proofs.Source.ImportLines

/-!
# Where facts stand in the code

The names and statements that are listed of a code stand in it verbatim. A search goes on behind
each match, and every pattern captures a part of what it matches, so the entries of one list stand
apart from each other and in the order of the list; an entry that is left out afterwards does not
change that. What remains is to say, for each pattern, where in its match the captured part stands.
-/

namespace CodeMentor.Source

open CodeMentor.Text

variable {α : Type} {kind front : List Char → Prop}

/-! ## Entries in order -/

/-- At this position of the text the entry stands, which is of the kind, behind such a front. -/
def StandsAt (kind front : List Char → Prop) (text : List Char) (position : ℕ)
    (entry : List Char) : Prop :=
  kind entry ∧ ∃ u v w, text = u ++ (v ++ (entry ++ w)) ∧ front v ∧
    u.length + v.length = position

/-- All entries stand in the code, at increasing positions and each behind the end of the one
before. -/
def ListedInOrder (kind front : List Char → Prop) (code : String) (entries : List String) : Prop :=
  ∃ found : List (ℕ × String), found.map (·.2) = entries ∧
    (∀ e ∈ found, StandsAt kind front code.toList e.1 e.2.toList) ∧
    found.Pairwise fun a b ↦ a.1 < b.1 ∧ a.1 + a.2.toList.length ≤ b.1

def anything : List Char → Prop := fun _ ↦ True

/-- What the pattern captures is of the kind, and it stands in the match behind such a front. -/
def Pattern.Quotes (p : Pattern α) (entry : α → List Char) (kind front : List Char → Prop) : Prop :=
  ∀ before text found left, p before text = some (found, left) →
    kind (entry found) ∧ ∃ u v, text = u ++ (entry found ++ v) ∧ front u ∧ left <:+ v

section Search

variable {p : Pattern α} {entry : α → List Char} {text : List Char} {start : ℕ}
  {found : List (ℕ × α)}

/-- From `start` on, the entries of what was found stand in the text, one behind the other. -/
structure Located (kind front : List Char → Prop) (entry : α → List Char) (text : List Char)
    (start : ℕ) (found : List (ℕ × α)) : Prop where
  stands : ∀ e ∈ found, start ≤ e.1 ∧ StandsAt kind front text e.1 (entry e.2)
  apart : found.Pairwise fun a b ↦ a.1 + (entry a.2).length ≤ b.1

theorem Located.nil : Located kind front entry text start [] :=
  ⟨by simp, List.Pairwise.nil⟩

theorem Located.mono (h : Located kind front entry text start found) {earlier : ℕ}
    (hearlier : earlier ≤ start) : Located kind front entry text earlier found :=
  ⟨fun e he ↦ ⟨hearlier.trans (h.stands e he).1, (h.stands e he).2⟩, h.apart⟩

theorem Located.cons (h : Located kind front entry text start found) {position earlier : ℕ} {a : α}
    (hat : StandsAt kind front text position (entry a)) (hearlier : earlier ≤ position)
    (hend : position + (entry a).length ≤ start) :
    Located kind front entry text earlier ((position, a) :: found) where
  stands := by
    intro e he
    rcases List.mem_cons.mp he with rfl | he
    · exact ⟨hearlier, hat⟩
    · obtain ⟨hstart, hstands⟩ := h.stands e he
      exact ⟨by omega, hstands⟩
  apart := by
    refine List.pairwise_cons.mpr ⟨?_, h.apart⟩
    intro e he
    exact hend.trans (h.stands e he).1

/-- What a search finds behind a part of the text that it has passed. The induction is on the length
of the text that is left, since a match takes the search behind itself. -/
theorem Pattern.Quotes.exists_located (h : p.Quotes entry kind front)
    (hkind : ∀ w, kind w → w ≠ []) (before : Option Char) (passed text : List Char) :
    ∃ found : List (ℕ × α), found.map (·.2) = p.scan 0 before text ∧
      Located kind front entry (passed ++ text) passed.length found := by
  induction hn : text.length using Nat.strong_induction_on generalizing before passed text with
  | _ n ih =>
      cases text with
      | nil => exact ⟨[], rfl, .nil⟩
      | cons c rest =>
          rw [List.length_cons] at hn
          cases hmatch : p before (c :: rest) with
          | none =>
              obtain ⟨found, hfound, hlocated⟩ :=
                ih rest.length (by omega) (some c) (passed ++ [c]) rest rfl
              rw [List.append_assoc, List.singleton_append, List.length_append] at hlocated
              refine ⟨found, ?_, hlocated.mono (by omega)⟩
              rw [hfound, Pattern.scan, hmatch]
          | some captured =>
              obtain ⟨a, left⟩ := captured
              obtain ⟨ha, u, v, htext, hu, w, rfl⟩ := h before (c :: rest) a left hmatch
              have hwhole : c :: rest = u ++ entry a ++ w ++ left := by simp [htext]
              obtain ⟨d, m, hm⟩ : ∃ d m, u ++ entry a ++ w = d :: m := by
                apply List.exists_cons_of_ne_nil
                simp [hkind _ ha]
              have hshorter : left.length < n := by
                rw [hm] at hwhole
                have hlength := congrArg List.length hwhole
                simp only [List.length_cons, List.length_append] at hlength
                omega
              obtain ⟨found, hfound, hlocated⟩ := ih left.length hshorter (lastOf (some d) m)
                (passed ++ (u ++ entry a ++ w)) left rfl
              rw [List.append_assoc, ← hwhole] at hlocated
              refine ⟨(passed.length + u.length, a) :: found, ?_, hlocated.cons ?_ ?_ ?_⟩
              · rw [hm] at hwhole
                rw [Pattern.scan_of_match hmatch hwhole, List.map_cons, hfound]
              · exact ⟨ha, passed, u, w ++ left, by rw [htext], hu, rfl⟩
              · omega
              · simp only [List.length_append]
                omega

/-- Any of the matches of a pattern, in their order. -/
theorem Pattern.Quotes.listedInOrder (h : p.Quotes entry kind front)
    (hkind : ∀ w, kind w → w ≠ []) {code : String} {entries : List α}
    (hentries : entries.Sublist (p.findAll code.toList)) :
    ListedInOrder kind front code (entries.map fun a ↦ String.ofList (entry a)) := by
  obtain ⟨found, hfound, hlocated⟩ := h.exists_located hkind none [] code.toList
  rw [Pattern.findAll, ← hfound] at hentries
  obtain ⟨kept, hkept, rfl⟩ := List.sublist_map_iff.mp hentries
  refine ⟨kept.map fun e ↦ (e.1, String.ofList (entry e.2)), ?_, ?_, ?_⟩
  · rw [List.map_map, List.map_map]
    rfl
  · intro e he
    obtain ⟨e, hkeep, rfl⟩ := List.mem_map.mp he
    rw [String.toList_ofList]
    exact (hlocated.stands e (hkept.mem hkeep)).2
  · rw [List.pairwise_map]
    refine (hlocated.apart.sublist hkept).imp_of_mem fun {a b} ha _ hbehind ↦ ?_
    obtain ⟨-, ha, -⟩ := hlocated.stands a (hkept.mem ha)
    have hpos : 0 < (entry a.2).length := List.length_pos_of_ne_nil (hkind _ ha)
    simp only [String.toList_ofList]
    omega

end Search

/-! ## What readers leave -/

section Readers

variable {text rest : List Char}

theorem spaces_suffix (text : List Char) : spaces text <:+ text :=
  List.dropWhile_suffix isSpace

theorem keyword?_suffix {keyword : String} (h : keyword? keyword text = some rest) :
    rest <:+ text :=
  ⟨keyword.toList, (keyword?_eq_some_iff.mp h).symm⟩

theorem some?_suffix {q : Char → Bool} (h : some? q text = some rest) : rest <:+ text := by
  obtain ⟨w, -, -, rfl⟩ := some?_eq_some_iff.mp h
  exact List.suffix_append w rest

theorem one?_suffix {q : Char → Bool} (h : one? q text = some rest) : rest <:+ text := by
  cases text with
  | nil => cases h
  | cons c text =>
      rw [one?] at h
      split_ifs at h
      obtain rfl : text = rest := Option.some.inj h
      exact List.suffix_cons c text

theorem word?_suffix {w : List Char} (h : word? text = some (w, rest)) : rest <:+ text := by
  obtain ⟨-, -, rfl⟩ := word?_eq_some_iff.mp h
  exact List.suffix_append w rest

theorem parameters?_suffix (h : parameters? text = some rest) : rest <:+ text := by
  obtain ⟨inner, -, rfl⟩ := parameters?_eq_some_iff.mp h
  exact ⟨'(' :: (inner ++ [')']), by simp⟩

theorem quotation?_suffix (h : quotation? text = some rest) : rest <:+ text := by
  cases text with
  | nil => cases h
  | cons q text =>
      rw [quotation?] at h
      split_ifs at h
      rw [List.span_eq_takeWhile_dropWhile] at h
      split at h
      next c w q' left hspan =>
        split_ifs at h
        obtain rfl : left = rest := Option.some.inj h
        obtain ⟨-, hdrop⟩ := Prod.mk.inj hspan
        have hbehind : q' :: left <:+ text := hdrop ▸ List.dropWhile_suffix _
        exact ((List.suffix_cons q' left).trans hbehind).trans (List.suffix_cons q text)
      next => cases h

theorem throughQuotation?_suffix (h : throughQuotation? text = some rest) : rest <:+ text := by
  induction text with
  | nil => cases h
  | cons c text ih =>
      rw [throughQuotation?] at h
      split at h
      next left hquotation =>
        cases h
        exact quotation?_suffix hquotation
      next =>
        split_ifs at h
        exact (ih h).trans (List.suffix_cons c text)

theorem arrow_suffix (h : keyword? "=>" (spaces text) = some rest) : rest <:+ text :=
  (keyword?_suffix h).trans (spaces_suffix text)

theorem functionValue?_suffix (h : functionValue? text = some rest) : rest <:+ text := by
  simp only [functionValue?, Option.or_eq_some_iff, Option.bind_eq_some_iff] at h
  rcases h with hfunction | ⟨-, ⟨behind, hparameters, harrow⟩ | ⟨-, w, hword, harrow⟩⟩
  · split at hfunction
    next behind hkeyword =>
      split_ifs at hfunction
      cases hfunction
      exact keyword?_suffix hkeyword
    next => cases hfunction
  · exact (arrow_suffix harrow).trans (parameters?_suffix hparameters)
  · exact (arrow_suffix harrow).trans (word?_suffix hword)

end Readers

/-! ## What patterns capture -/

theorem quotes_importLine : importLine.Quotes id (· ≠ []) anything := by
  intro before text found left h
  rw [importLine_eq] at h
  split_ifs at h
  obtain ⟨rest, htarget, hfound⟩ := Option.map_eq_some_iff.mp h
  obtain ⟨rfl, rfl⟩ := Prod.mk.inj hfound
  refine ⟨?_, text.takeWhile isIndent, leftOut (text.dropWhile isIndent), ?_, trivial,
    List.suffix_append _ _⟩
  · have himport : IsImport (text.dropWhile isIndent) :=
      isSome_target?_iff.mp (by rw [htarget]; rfl)
    rw [← List.takeWhile_append_dropWhile (p := staysOnLine) (l := text.dropWhile isIndent),
      isImport_append_iff (endsRun_dropWhile _ _), ← isImport_dropEndWhile_iff] at himport
    intro hnil
    rw [id_eq] at hnil
    rw [hnil] at himport
    exact absurd himport (by decide)
  · rw [id_eq, append_leftOut, List.takeWhile_append_dropWhile]

/-- The pattern captures all that it matches, and this is not all white space. -/
def Pattern.Whole (p : Pattern (List Char)) : Prop :=
  ∀ before text found left, p before text = some (found, left) →
    text = found ++ left ∧ ∃ c ∈ found, isSpace c = false

section Whole

variable {p : Pattern (List Char)}

theorem Pattern.Whole.quotes (h : p.Whole) : p.Quotes id (· ≠ []) anything := by
  intro before text found left hmatch
  obtain ⟨rfl, c, hc, -⟩ := h before text found left hmatch
  exact ⟨List.ne_nil_of_mem hc, [], left, rfl, trivial, List.suffix_rfl⟩

theorem Pattern.Whole.quotes_strip (h : p.Whole) :
    p.Quotes (strip isSpace) (· ≠ []) anything := by
  intro before text found left hmatch
  obtain ⟨rfl, c, hc, hspace⟩ := h before text found left hmatch
  obtain ⟨u, v, hstrip⟩ := strip_infix isSpace found
  have hne : strip isSpace found ≠ [] := by
    intro hnil
    simp [strip_eq_nil_iff.mp hnil c hc] at hspace
  refine ⟨hne, u, v ++ left, ?_, trivial, List.suffix_append v left⟩
  conv_lhs => rw [← hstrip]
  simp

/-- A match up to some place behind a part that is not all white space. -/
theorem whole_of_suffix {u rest left : List Char} {c : Char} (hc : c ∈ u)
    (hspace : isSpace c = false) (h : left <:+ rest) :
    u ++ rest = upTo (u ++ rest) left ++ left ∧
      ∃ c ∈ upTo (u ++ rest) left, isSpace c = false := by
  obtain ⟨v, rfl⟩ := h
  rw [← List.append_assoc, upTo_append]
  exact ⟨rfl, c, List.mem_append_left v hc, hspace⟩

end Whole

theorem whole_inclusion : inclusion.Whole := by
  intro before text found left h
  simp only [inclusion, bind, Option.bind_eq_some_iff, pure, Option.some.injEq,
    Prod.mk.injEq] at h
  obtain ⟨rest₁, hkeyword, rest₂, hopen, rest₃, hpath, rest₄, hclose, rfl, rfl⟩ := h
  obtain rfl := keyword?_eq_some_iff.mp hkeyword
  have hleft : rest₄ <:+ rest₁ :=
    (((one?_suffix hclose).trans (some?_suffix hpath)).trans (one?_suffix hopen)).trans
      (spaces_suffix rest₁)
  exact whole_of_suffix (c := '#') (by decide) (by decide) hleft

theorem whole_requireCall : requireCall.Whole := by
  intro before text found left h
  simp only [requireCall, bind, Option.bind_eq_some_iff, pure, Option.some.injEq,
    Prod.mk.injEq] at h
  obtain ⟨rest₁, hkeyword, rest₂, hquotation, rest₃, hclose, rfl, rfl⟩ := h
  obtain rfl := keyword?_eq_some_iff.mp hkeyword
  have hleft : rest₃ <:+ rest₁ :=
    (((one?_suffix hclose).trans (spaces_suffix rest₂)).trans
      (quotation?_suffix hquotation)).trans (spaces_suffix rest₁)
  exact whole_of_suffix (c := 'r') (by decide) (by decide) hleft

theorem whole_importStatement : importStatement.Whole := by
  intro before text found left h
  rw [importStatement] at h
  split_ifs at h
  simp only [bind, Option.bind_eq_some_iff, pure, Option.some.injEq, Prod.mk.injEq] at h
  obtain ⟨rest₁, hkeyword, rest₂, hspace, rest₃, hquotation, rfl, rfl⟩ := h
  have htext : text = text.takeWhile isIndent ++ "import".toList ++ rest₁ := by
    rw [List.append_assoc, ← keyword?_eq_some_iff.mp hkeyword, List.takeWhile_append_dropWhile]
  have hleft : rest₃ <:+ rest₁ := (throughQuotation?_suffix hquotation).trans (one?_suffix hspace)
  rw [htext]
  exact whole_of_suffix (c := 'i') (by simp) (by decide) hleft

theorem quotes_announcedFunction (keyword : String) :
    (announcedFunction keyword).Quotes id (IsRun isWord) anything := by
  intro before text found left h
  obtain ⟨-, a, rfl, rfl⟩ := announcedFunction_eq_some_iff.mp h
  refine ⟨a.name_run, keyword.toList ++ a.gap, a.blanks ++ '(' :: left, ?_, trivial, ?_⟩
  · simp [Announcement.text]
  · exact ⟨a.blanks ++ ['('], by simp⟩

theorem quotes_typedFunction : typedFunction.Quotes (·.2) (IsRun isWord) anything := by
  rintro before text ⟨type, name⟩ left h
  obtain ⟨-, head, rfl, rfl, rfl⟩ := typedFunction_eq_some_iff.mp h
  let behind := head.blanks ++ '(' :: (head.parameters ++ ')' :: head.ending)
  refine ⟨head.name_run, head.type ++ head.gap, behind ++ left, ?_, trivial,
    List.suffix_append behind left⟩
  simp [FunctionHead.text, FunctionHead.opening, behind]

theorem quotes_boundFunction : boundFunction.Quotes id (IsRun isWord) anything := by
  intro before text found left h
  rw [boundFunction] at h
  split_ifs at h
  simp only [bind, Option.bind_eq_some_iff, pure, Option.some.injEq, Prod.mk.injEq,
    Prod.exists] at h
  obtain ⟨rest₁, hkeyword, rest₂, hgap, name, rest₃, hname, rest₄, hbound, value, hvalue, rfl,
    rfl⟩ := h
  have hfront : rest₂ <:+ text := by
    refine (some?_suffix hgap).trans ?_
    simp only [Option.or_eq_some_iff] at hkeyword
    rcases hkeyword with hconst | ⟨-, hlet | ⟨-, hvar⟩⟩
    · exact keyword?_suffix hconst
    · exact keyword?_suffix hlet
    · exact keyword?_suffix hvar
  have hleft : value <:+ rest₃ := by
    have hbehind : spaces rest₄ <:+ rest₃ :=
      ((spaces_suffix rest₄).trans (one?_suffix hbound)).trans (spaces_suffix rest₃)
    refine List.IsSuffix.trans ?_ hbehind
    rcases Option.or_eq_some_iff.mp hvalue with hlater | ⟨-, hnow⟩
    · obtain ⟨rest₅, hlater, hfunction⟩ := Option.bind_eq_some_iff.mp hlater
      obtain ⟨rest₆, hasync, hspaces⟩ := Option.bind_eq_some_iff.mp hlater
      exact ((functionValue?_suffix hfunction).trans (some?_suffix hspaces)).trans
        (keyword?_suffix hasync)
    · exact functionValue?_suffix hnow
  obtain ⟨hrun, -, rfl⟩ := word?_eq_some_iff.mp hname
  obtain ⟨u, rfl⟩ := hfront
  exact ⟨hrun, u, rest₃, rfl, trivial, hleft⟩

/-- The keyword of a class and white space. -/
def IsClassFront (u : List Char) : Prop :=
  ∃ blanks, IsRun isSpace blanks ∧ u = "class".toList ++ blanks

theorem quotes_classHead : classHead.Quotes id (IsRun isWord) IsClassFront := by
  intro before text found left h
  rw [classHead] at h
  split_ifs at h
  simp only [bind, Option.bind_eq_some_iff] at h
  obtain ⟨rest₁, hkeyword, rest₂, hgap, hname⟩ := h
  obtain rfl := keyword?_eq_some_iff.mp hkeyword
  obtain ⟨blanks, hblanks, -, rfl⟩ := some?_eq_some_iff.mp hgap
  obtain ⟨hrun, -, rfl⟩ := word?_eq_some_iff.mp hname
  refine ⟨hrun, "class".toList ++ blanks, left, ?_, ⟨blanks, hblanks, rfl⟩, List.suffix_rfl⟩
  rw [List.append_assoc]
  rfl

theorem Pattern.Quotes.orElse {p q : Pattern α} {entry : α → List Char}
    (hp : p.Quotes entry kind front) (hq : q.Quotes entry kind front) :
    (p.orElse q).Quotes entry kind front := by
  intro before text found left h
  rcases Option.or_eq_some_iff.mp h with h | ⟨-, h⟩
  · exact hp before text found left h
  · exact hq before text found left h

/-! ## The lists of facts -/

theorem imports_listedInOrder (language : Language) (code : String) :
    ListedInOrder (· ≠ []) anything code (imports language code) := by
  have hkind : ∀ w : List Char, w ≠ [] → w ≠ [] := fun _ ↦ id
  cases language with
  | python => exact quotes_importLine.listedInOrder hkind (List.Sublist.refl _)
  | c => exact whole_inclusion.quotes.listedInOrder hkind (List.Sublist.refl _)
  | cpp => exact whole_inclusion.quotes.listedInOrder hkind (List.Sublist.refl _)
  | javascript =>
      have hquotes := whole_importStatement.quotes_strip.orElse whole_requireCall.quotes_strip
      have hlisted := hquotes.listedInOrder hkind
        (List.Sublist.refl (Pattern.findAll _ code.toList))
      simpa only [imports, trim, String.toList_ofList] using hlisted

theorem functions_listedInOrder (language : Language) (code : String) :
    ListedInOrder (IsRun isWord) anything code (functions language code) := by
  have hkind : ∀ w : List Char, IsRun isWord w → w ≠ [] := fun _ hw ↦ hw.ne
  cases language with
  | python => exact (quotes_announcedFunction "def").listedInOrder hkind (List.Sublist.refl _)
  | c => exact quotes_typedFunction.listedInOrder hkind List.filter_sublist
  | cpp => exact quotes_typedFunction.listedInOrder hkind List.filter_sublist
  | javascript =>
      exact ((quotes_announcedFunction "function").orElse quotes_boundFunction).listedInOrder hkind
        (List.Sublist.refl _)

theorem classes_listedInOrder (code : String) :
    ListedInOrder (IsRun isWord) IsClassFront code (classes code) :=
  quotes_classHead.listedInOrder (fun _ hw ↦ hw.ne) (List.Sublist.refl _)

/-- Whatever is listed of a code that can be parsed stands in it verbatim, and the entries of each
list stand in the order of the list without touching each other's characters. No entry is empty,
functions and classes are words, and each class stands behind its keyword and white space. -/
theorem facts_stand_in_code {code : String} {facts : Facts}
    (h : Engine.native.parse code = .ok facts) :
    ListedInOrder (· ≠ []) anything code facts.imports ∧
      ListedInOrder (IsRun isWord) anything code facts.functions ∧
      ListedInOrder (IsRun isWord) IsClassFront code facts.classes := by
  obtain ⟨language, -, rfl⟩ := map_eq_ok_iff.mp h
  exact ⟨imports_listedInOrder language code, functions_listedInOrder language code,
    classes_listedInOrder code⟩

/-- An import in front of which there are blanks, a class with two, and a function that is bound. -/
theorem facts_stand_in_code_script :
    let code := "\timport a from 'm';\nclass  Node \x7b \x7d\nlet f = async x => 1;"
    ∃ facts, Engine.native.parse code = .ok facts ∧ facts.imports = ["import a from 'm'"] ∧
      facts.functions = ["f"] ∧ facts.classes = ["Node"] ∧
      ListedInOrder (· ≠ []) anything code facts.imports ∧
      ListedInOrder (IsRun isWord) anything code facts.functions ∧
      ListedInOrder (IsRun isWord) IsClassFront code facts.classes := by
  intro code
  have hdetect : Language.detect code = some .javascript := by decide +kernel
  have hparse : Engine.native.parse code = .ok (Engine.factsOf .javascript code) := by
    simp only [Engine.native, Engine.supported, hdetect]
    rfl
  have hlists : imports .javascript code = ["import a from 'm'"] ∧
      functions .javascript code = ["f"] ∧ classes code = ["Node"] := by
    decide +kernel
  exact ⟨_, hparse, hlists.1, hlists.2.1, hlists.2.2, facts_stand_in_code hparse⟩

end CodeMentor.Source
