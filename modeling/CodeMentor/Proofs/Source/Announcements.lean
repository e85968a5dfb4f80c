import CodeMentor.Proofs.Source.Expressions
import CodeMentor.Proofs.Source.FunctionHeads

/-!
# Announced functions

A function may be announced by a keyword in front of its name and an opening bracket behind it. No
announcement starts inside another: of the two words in it, the first is the keyword of this
announcement, and the second is followed by the bracket and so announces nothing. Hence the search,
which goes on behind each match, lists a name for every announcement in the text.
-/

namespace CodeMentor.Source

open CodeMentor.Text

/-! ## Announcements as they are written -/

/-- What stands between a keyword and an opening bracket. There is white space in front of the name
and no word character behind it, so it is a whole word. -/
structure Announcement (keyword : String) where
  gap : List Char
  name : List Char
  blanks : List Char
  gap_run : IsRun isSpace gap
  name_run : IsRun isWord name
  blanks_space : ∀ c ∈ blanks, isSpace c = true

def Announcement.text {keyword : String} (a : Announcement keyword) : List Char :=
  keyword.toList ++ (a.gap ++ (a.name ++ (a.blanks ++ ['('])))

theorem isSpace_of_isWord {c : Char} (h : isWord c = true) : isSpace c = false := by
  by_contra hspace
  rw [isWord_of_isSpace (by simpa using hspace)] at h
  cases h

section Keyword

variable {keyword : String} {before : Option Char} {text name left : List Char}

theorem announcedFunction_eq_some_iff_parts :
    announcedFunction keyword before text = some (name, left) ↔
      wordMayStart before = true ∧ ∃ rest₁ rest₂ rest₃, keyword? keyword text = some rest₁ ∧
        spaces? rest₁ = some rest₂ ∧ word? rest₂ = some (name, rest₃) ∧
        char? '(' (spaces rest₃) = some left := by
  by_cases hbefore : wordMayStart before = true
  · simp only [announcedFunction, hbefore, if_true, bind, Option.bind_eq_some_iff, Prod.exists,
      pure, Option.some.injEq, Prod.mk.injEq, true_and]
    constructor
    · rintro ⟨rest₁, hkeyword, rest₂, hgap, _, rest₃, hname, _, hopen, rfl, rfl⟩
      exact ⟨rest₁, rest₂, rest₃, hkeyword, hgap, hname, hopen⟩
    · rintro ⟨rest₁, rest₂, rest₃, hkeyword, hgap, hname, hopen⟩
      exact ⟨rest₁, hkeyword, rest₂, hgap, name, rest₃, hname, left, hopen, rfl, rfl⟩
  · simp [announcedFunction, hbefore]

/-- A text matches exactly if it starts with an announcement where a word may start. -/
theorem announcedFunction_eq_some_iff :
    announcedFunction keyword before text = some (name, left) ↔ wordMayStart before = true ∧
      ∃ a : Announcement keyword, a.name = name ∧ text = a.text ++ left := by
  rw [announcedFunction_eq_some_iff_parts]
  refine and_congr_right fun _ ↦ ?_
  constructor
  · rintro ⟨rest₁, rest₂, rest₃, hkeyword, hgap, hname, hopen⟩
    obtain rfl := keyword?_eq_some_iff.mp hkeyword
    obtain ⟨gap, hgapRun, -, rfl⟩ := some?_eq_some_iff.mp hgap
    obtain ⟨hnameRun, -, rfl⟩ := word?_eq_some_iff.mp hname
    obtain ⟨blanks, hblanks, hrest₃⟩ := exists_spaces rest₃
    rw [char?_eq_some_iff.mp hopen] at hrest₃
    refine ⟨⟨gap, name, blanks, hgapRun, hnameRun, hblanks⟩, rfl, ?_⟩
    simp [Announcement.text, hrest₃]
  · rintro ⟨a, rfl, rfl⟩
    have hbracket : ∀ c ∈ a.blanks, isWord c = false := fun c hc ↦
      isWord_of_isSpace (a.blanks_space c hc)
    refine ⟨a.gap ++ (a.name ++ (a.blanks ++ '(' :: left)), a.name ++ (a.blanks ++ '(' :: left),
      a.blanks ++ '(' :: left, ?_, ?_, ?_, ?_⟩
    · apply keyword?_eq_some_iff.mpr
      simp [Announcement.text]
    · exact some?_eq_some_iff.mpr
        ⟨a.gap, a.gap_run, a.name_run.endsRun (fun _ ↦ isSpace_of_isWord) _, rfl⟩
    · exact word?_eq_some_iff.mpr
        ⟨a.name_run, endsRun_append hbracket (endsRun_cons (by decide) _), rfl⟩
    · rw [spaces_append a.blanks_space (endsRun_cons (by decide) _)]
      exact char?_eq_some_iff.mpr rfl

/-! ## No announcement starts inside another -/

theorem atWords_announcedFunction (hkeyword : IsRun isWord keyword.toList) :
    (announcedFunction keyword).AtWords where
  inside _ _ h := by simp [announcedFunction, h]
  outside before text h := by
    rw [Option.eq_none_iff_forall_ne_some]
    rintro ⟨name, left⟩ hmatch
    obtain ⟨-, a, -, rfl⟩ := announcedFunction_eq_some_iff.mp hmatch
    obtain ⟨c, w, hw⟩ := List.exists_cons_of_ne_nil hkeyword.ne
    have hc : isWord c = false := h c (by simp [Announcement.text, hw])
    rw [hkeyword.all c (by simp [hw])] at hc
    cases hc

/-- The name of an announcement announces nothing, since a bracket and no other name follows. -/
theorem announcedFunction_name (hkeyword : IsRun isWord keyword.toList)
    (a : Announcement keyword) (before : Option Char) (left : List Char) :
    announcedFunction keyword before (a.name ++ (a.blanks ++ '(' :: left)) = none := by
  rw [Option.eq_none_iff_forall_ne_some]
  rintro ⟨name, left'⟩ hmatch
  obtain ⟨-, b, -, htext⟩ := announcedFunction_eq_some_iff.mp hmatch
  have hblanks : ∀ c ∈ a.blanks, isWord c = false := fun c hc ↦
    isWord_of_isSpace (a.blanks_space c hc)
  have hword := congrArg (List.dropWhile isWord) htext
  rw [dropWhile_append_of_endsRun a.name_run.all
      (endsRun_append hblanks (endsRun_cons (by decide) left)),
    Announcement.text, List.append_assoc, dropWhile_append_of_endsRun hkeyword.all] at hword
  · -- Behind the name there are blanks and the bracket, behind the keyword blanks and a word.
    have hbracket := congrArg (List.dropWhile isSpace) hword
    rw [dropWhile_append_of_endsRun a.blanks_space (endsRun_cons (by decide) left),
      List.append_assoc, dropWhile_append_of_endsRun b.gap_run.all] at hbracket
    · obtain ⟨c, w, hw⟩ := List.exists_cons_of_ne_nil b.name_run.ne
      rw [hw, List.append_assoc, List.cons_append] at hbracket
      obtain ⟨rfl, -⟩ := List.cons.inj hbracket
      exact absurd (b.name_run.all '(' (by simp [hw])) (by decide)
    · rw [List.append_assoc]
      exact b.name_run.endsRun (fun _ ↦ isSpace_of_isWord) _
  · rw [List.append_assoc]
    exact b.gap_run.endsRun (fun _ ↦ isWord_of_isSpace) _

theorem apart_announcedFunction (hkeyword : IsRun isWord keyword.toList) :
    (announcedFunction keyword).Apart := by
  rintro before text name left hmatch
  obtain ⟨-, a, -, rfl⟩ := announcedFunction_eq_some_iff.mp hmatch
  have hwords := atWords_announcedFunction hkeyword
  obtain ⟨c, w, hw⟩ := List.exists_cons_of_ne_nil hkeyword.ne
  obtain ⟨hc, hall⟩ := List.forall_mem_cons.mp (hw ▸ hkeyword.all)
  refine ⟨c, w ++ (a.gap ++ (a.name ++ (a.blanks ++ ['(']))), ?_, ?_⟩
  · simp [Announcement.text, hw]
  · rw [Pattern.passes_append, Pattern.passes_append, Pattern.passes_append]
    refine ⟨hwords.passes_inside hc hall, ?_, ?_, ?_⟩
    · exact hwords.passes_between fun d hd ↦ isWord_of_isSpace (a.gap_run.all d hd)
    · apply hwords.passes_word a.name_run
      rw [List.append_assoc]
      exact announcedFunction_name hkeyword a _ left
    · apply hwords.passes_between
      intro d hd
      rcases List.mem_append.mp hd with hd | hd
      · exact isWord_of_isSpace (a.blanks_space d hd)
      · rw [List.mem_singleton.mp hd]
        decide

/-! ## The expression -/

/-- The expression `keyword\s+(\w+)\s*\(`. -/
def announcementExpression (keyword : String) : Capture where
  front := .seq (.keyword keyword) (.oneOrMore isSpace)
  group := .oneOrMore isWord
  back := .seq (.greedy isSpace) (.one (· == '('))

/-- The pattern behind a word boundary, if what it matches begins with a word. -/
def Pattern.atWordStart {α : Type} (p : Pattern α) : Pattern α := fun before text ↦
  if wordMayStart before then p before text else none

section Ways

variable {α : Type} (k : Place → Option α) (a : Place)

theorem first_bracket :
    (announcementExpression keyword).back.first k a =
      (char? '(' (spaces a.rest)).bind fun rest ↦ k ⟨some '(', rest⟩ := by
  have hall : Expression.TakesAll isSpace ((Expression.one (· == '(')).first k) := by
    refine .inr fun b c rest hc ↦ ?_
    have hne : (c == '(') = false := by
      rw [beq_eq_false_iff_ne]
      rintro rfl
      exact absurd hc (by decide)
    rw [Expression.first_one_cons, hne]
    rfl
  rw [announcementExpression, Expression.first_seq, Expression.first_greedy _ hall, spaces]
  cases a.rest.dropWhile isSpace with
  | nil => rfl
  | cons c rest => by_cases hc : c = '(' <;> simp [Expression.first_one_cons, char?, one?, hc]

end Ways

theorem word?_eq_map (text : List Char) :
    word? text = (some? isWord text).map fun rest ↦ (upTo text rest, rest) := by
  cases hrest : some? isWord text with
  | some rest =>
      obtain ⟨w, hw, hends, rfl⟩ := some?_eq_some_iff.mp hrest
      rw [word?_eq_some_iff.mpr ⟨hw, hends, rfl⟩, Option.map_some, upTo_append]
  | none =>
      rw [Option.map_none, Option.eq_none_iff_forall_ne_some]
      rintro ⟨w, rest⟩ hword
      obtain ⟨hw, hends, rfl⟩ := word?_eq_some_iff.mp hword
      rw [some?_eq_some_iff.mpr ⟨w, hw, hends, rfl⟩] at hrest
      cases hrest

/-- What is captured when the group begins at a place. -/
def nameAt (keyword : String) (start : Place) : Option (List Char × List Char) :=
  (announcementExpression keyword).group.first (fun stop ↦
    (announcementExpression keyword).back.first
      (fun last ↦ some (upTo start.rest stop.rest, last.rest)) stop) start

theorem nameAt_eq (start : Place) :
    nameAt keyword start =
      (word? start.rest).bind fun w ↦ (char? '(' (spaces w.2)).map fun left ↦ (w.1, left) := by
  have hall : Expression.TakesAll isWord fun stop ↦
      (announcementExpression keyword).back.first
        (fun last ↦ some (upTo start.rest stop.rest, last.rest)) stop := by
    refine .inr fun b c rest hc ↦ ?_
    have hne : (c == '(') = false := by
      rw [beq_eq_false_iff_ne]
      rintro rfl
      exact absurd hc (by decide)
    simp [first_bracket, spaces, isSpace_of_isWord hc, char?, one?, hne]
  have hgroup : (announcementExpression keyword).group = .oneOrMore isWord := rfl
  rw [nameAt, hgroup, Expression.first_oneOrMore _ hall, word?_eq_map]
  simp only [first_bracket, Option.map_eq_bind, Option.bind_assoc, Option.bind_some,
    Function.comp_def]

/-- A function is announced where the expression matches behind a word boundary, and the name is
what it captures on the first of its ways. -/
theorem announcedFunction_eq_pattern (keyword : String) :
    announcedFunction keyword = (announcementExpression keyword).pattern.atWordStart := by
  funext before text
  have hall : Expression.TakesAll isSpace (nameAt keyword) := by
    refine .inr fun b c rest hc ↦ ?_
    rw [nameAt_eq, word?_eq_map, some?, isWord_of_isSpace hc]
    rfl
  have hfront : (announcementExpression keyword).front =
      .seq (.keyword keyword) (.oneOrMore isSpace) := rfl
  have hpattern : (announcementExpression keyword).pattern before text =
      (announcementExpression keyword).front.first (nameAt keyword) ⟨before, text⟩ :=
    Capture.pattern_eq _ before text
  rw [Pattern.atWordStart, hpattern, hfront, Expression.first_seq, Expression.first_keyword]
  simp only [Expression.first_oneOrMore _ hall, nameAt_eq, announcedFunction, Option.map_eq_bind]
  rfl

/-! ## All announcements -/

/-- At this position, where a word may start, the text announces a function of this name. -/
def AnnouncedAt (keyword : String) (text : List Char) (position : ℕ) (name : List Char) : Prop :=
  ∃ front back, ∃ a : Announcement keyword, text = front ++ (a.text ++ back) ∧
    front.length = position ∧ wordMayStart front.getLast? = true ∧ a.name = name

theorem mem_placed_announcedFunction (hkeyword : keyword.toList ≠ []) {position : ℕ} :
    (position, name) ∈ (announcedFunction keyword).placed 0 none text ↔
      AnnouncedAt keyword text position name := by
  rw [Pattern.mem_placed]
  constructor
  · rintro ⟨u, c, v, left, rfl, rfl, hmatch⟩
    obtain ⟨hstart, a, hname, htext⟩ := announcedFunction_eq_some_iff.mp hmatch
    refine ⟨u, left, a, by rw [htext], by omega, ?_, hname⟩
    simpa [lastOf] using hstart
  · rintro ⟨front, back, a, rfl, rfl, hstart, hname⟩
    obtain ⟨c, w, hw⟩ := List.exists_cons_of_ne_nil hkeyword
    have hcons : ∃ v, a.text ++ back = c :: v := by simp [Announcement.text, hw]
    obtain ⟨v, hv⟩ := hcons
    refine ⟨front, c, v, back, by rw [hv], by omega, ?_⟩
    rw [← hv, announcedFunction_eq_some_iff]
    exact ⟨by simpa [lastOf] using hstart, a, hname, rfl⟩

theorem announced_in_order (hkeyword : IsRun isWord keyword.toList) (text : List Char) :
    ∃ found : List (ℕ × List Char),
      (announcedFunction keyword).findAll text = found.map (·.2) ∧
      found.Pairwise (·.1 < ·.1) ∧
      ∀ position name, (position, name) ∈ found ↔ AnnouncedAt keyword text position name :=
  ⟨_, Pattern.findAll_eq_placed (apart_announcedFunction hkeyword) text,
    Pattern.pairwise_placed 0 none text,
    fun _ _ ↦ mem_placed_announcedFunction hkeyword.ne⟩

end Keyword

/-- The functions of a Python text are what the expression captures behind word boundaries, and
these are the names of all announcements, one for each position at which there is one, by increasing
position. -/
theorem functions_python_eq_announced (code : String) :
    functions .python code =
        ((announcementExpression "def").pattern.atWordStart.findAll code.toList).map
          String.ofList ∧
      ∃ found : List (ℕ × String), functions .python code = found.map (·.2) ∧
        found.Pairwise (·.1 < ·.1) ∧
        ∀ position name, (position, name) ∈ found ↔
          AnnouncedAt "def" code.toList position name.toList := by
  have hkeyword : IsRun isWord "def".toList := ⟨by decide, List.all_eq_true.mp (by decide)⟩
  obtain ⟨found, hfound, horder, hmem⟩ := announced_in_order hkeyword code.toList
  refine ⟨by rw [← announcedFunction_eq_pattern, functions],
    found.map fun e ↦ (e.1, String.ofList e.2), ?_, ?_, ?_⟩
  · rw [functions, hfound, List.map_map, List.map_map]
    rfl
  · exact List.pairwise_map.mpr horder
  · intro position name
    rw [← hmem, List.mem_map]
    constructor
    · rintro ⟨⟨i, n⟩, hn, hsame⟩
      obtain ⟨rfl, rfl⟩ := Prod.mk.inj hsame
      rwa [String.toList_ofList]
    · intro hname
      exact ⟨_, hname, by rw [String.ofList_toList]⟩

/-- A function named like the keyword, one inside the parameters of another, and one over two
lines. -/
example : functions .python "def def (a, def\n f(x)):\n undef g()\n def h :\ndef i\t(" =
    ["def", "f", "i"] := by
  decide +kernel

end CodeMentor.Source
