import CodeMentor.Analysis.Analyzer
import CodeMentor.Proofs.Source.Matches

/-!
# Heads of functions

In two of the languages a function is recognised by its head alone: a word for the type, a name, a
pair of brackets and an opening brace. A control statement looks the same from its own word on, so
all depends on the word before it. Heads are described as they are written; the pattern matches
exactly the heads, and no head starts inside another, so the names that are listed are those of all
heads whose first word is not itself the word of a statement. The main result reads off when a
control statement is listed as a function.
-/

namespace CodeMentor.Source

open CodeMentor.Text

/-! ## Classes of characters -/

def spacePoints : List Nat :=
  [9, 10, 11, 12, 13, 0x20, 0x85, 0xA0, 0x1680, 0x2000, 0x2001, 0x2002, 0x2003, 0x2004, 0x2005,
   0x2006, 0x2007, 0x2008, 0x2009, 0x200A, 0x2028, 0x2029, 0x202F, 0x205F, 0x3000]

theorem isWord_of_isSpace {c : Char} (h : isSpace c = true) : isWord c = false := by
  have hpoints : ∀ n ∈ spacePoints, isWord (Char.ofNat n) = false := by decide +kernel
  have hmem : c.toNat ∈ spacePoints := by
    simp only [isSpace, Bool.or_eq_true, Bool.and_eq_true, decide_eq_true_eq, beq_iff_eq] at h
    simp only [spacePoints, List.mem_cons, List.not_mem_nil]
    omega
  rw [← Char.ofNat_toNat c]
  exact hpoints _ hmem

/-- What may stand between a type and a name. -/
def isGap (c : Char) : Bool :=
  isSpace c || c == '*' || c == '&'

theorem isWord_of_isGap {c : Char} (h : isGap c = true) : isWord c = false := by
  simp only [isGap, Bool.or_eq_true, beq_iff_eq] at h
  rcases h with (hspace | rfl) | rfl
  · exact isWord_of_isSpace hspace
  · decide
  · decide

theorem isGap_of_isWord {c : Char} (h : isWord c = true) : isGap c = false := by
  by_contra hgap
  rw [isWord_of_isGap (by simpa using hgap)] at h
  cases h

theorem isBracket_eq_false {p : Char → Bool} (hopen : p '(' = false) (hclose : p ')' = false)
    {c : Char} (h : p c = true) : isBracket c = false := by
  by_contra hbracket
  rw [Bool.not_eq_false, isBracket, Bool.or_eq_true, beq_iff_eq, beq_iff_eq] at hbracket
  rcases hbracket with rfl | rfl
  · rw [hopen] at h
    contradiction
  · rw [hclose] at h
    contradiction

theorem isBracket_of_isWord {c : Char} : isWord c = true → isBracket c = false :=
  isBracket_eq_false (by decide) (by decide)

theorem isBracket_of_isGap {c : Char} : isGap c = true → isBracket c = false :=
  isBracket_eq_false (by decide) (by decide)

theorem isGap_of_isSpace {c : Char} (h : isSpace c = true) : isGap c = true := by
  simp [isGap, h]

/-! ## Heads as they are written -/

/-- What may stand between the parameters and the brace: nothing, or a word and white space. -/
def IsQualifier (text : List Char) : Prop :=
  text = [] ∨ ∃ blanks, (∀ c ∈ blanks, isSpace c = true) ∧ text = "const".toList ++ blanks

/-- The head of a function with all that stands between its parts. -/
structure FunctionHead where
  type : List Char
  gap : List Char
  name : List Char
  blanks : List Char
  parameters : List Char
  blanksBehind : List Char
  qualifier : List Char
  type_run : IsRun isWord type
  gap_run : IsRun isGap gap
  name_run : IsRun isWord name
  blanks_space : ∀ c ∈ blanks, isSpace c = true
  parameters_flat : ∀ c ∈ parameters, isBracket c = false
  behind_space : ∀ c ∈ blanksBehind, isSpace c = true
  qualifier_form : IsQualifier qualifier

namespace FunctionHead

def ending (h : FunctionHead) : List Char :=
  h.blanksBehind ++ (h.qualifier ++ ['\x7b'])

def opening (h : FunctionHead) : List Char :=
  h.type ++ (h.gap ++ (h.name ++ h.blanks))

/-- The head as it is written. -/
def text (h : FunctionHead) : List Char :=
  h.opening ++ ('(' :: (h.parameters ++ ')' :: h.ending))

end FunctionHead

def behindQualifier (text : List Char) : List Char :=
  match keyword? "const" text with
  | some rest => spaces rest
  | none => text

theorem behindQualifier_append {qualifier : List Char} (h : IsQualifier qualifier)
    (left : List Char) : behindQualifier (qualifier ++ '\x7b' :: left) = '\x7b' :: left := by
  rcases h with rfl | ⟨blanks, hblanks, rfl⟩
  · rfl
  · have hword : keyword? "const" ("const".toList ++ blanks ++ '\x7b' :: left) =
        some (blanks ++ '\x7b' :: left) := by
      rw [keyword?_eq_some_iff, List.append_assoc]
    rw [behindQualifier, hword]
    exact spaces_append hblanks (endsRun_cons (by decide) left)

theorem exists_qualifier (text : List Char) :
    ∃ qualifier, IsQualifier qualifier ∧ text = qualifier ++ behindQualifier text := by
  rw [behindQualifier]
  cases hword : keyword? "const" text with
  | none => exact ⟨[], .inl rfl, rfl⟩
  | some rest =>
      obtain ⟨blanks, hblanks, hrest⟩ := exists_spaces rest
      refine ⟨"const".toList ++ blanks, .inr ⟨blanks, hblanks, rfl⟩, ?_⟩
      rw [keyword?_eq_some_iff.mp hword, List.append_assoc]
      exact congrArg _ hrest

theorem endsRun_space_qualifier {qualifier : List Char} (h : IsQualifier qualifier)
    (left : List Char) : EndsRun isSpace (qualifier ++ '\x7b' :: left) := by
  rcases h with rfl | ⟨blanks, -, rfl⟩
  · exact endsRun_cons (by decide) left
  · exact endsRun_cons (by decide) _

theorem typedFunction_eq_some_iff_parts {before : Option Char}
    {text type name left : List Char} :
    typedFunction before text = some ((type, name), left) ↔
      wordMayStart before = true ∧ ∃ rest₁ rest₂ rest₃ rest₄, word? text = some (type, rest₁) ∧
        some? isGap rest₁ = some rest₂ ∧ word? rest₂ = some (name, rest₃) ∧
        parameters? (spaces rest₃) = some rest₄ ∧
        char? '\x7b' (behindQualifier (spaces rest₄)) = some left := by
  by_cases hbefore : wordMayStart before = true
  · simp only [typedFunction, hbefore, if_true, bind, Option.bind_eq_some_iff, Prod.exists, pure,
      Option.some.injEq, Prod.mk.injEq, true_and]
    constructor
    · rintro ⟨_, rest₁, htype, rest₂, hgap, _, rest₃, hname, rest₄, hparameters, _, hbrace,
        ⟨rfl, rfl⟩, rfl⟩
      exact ⟨rest₁, rest₂, rest₃, rest₄, htype, hgap, hname, hparameters, hbrace⟩
    · rintro ⟨rest₁, rest₂, rest₃, rest₄, htype, hgap, hname, hparameters, hbrace⟩
      exact ⟨type, rest₁, htype, rest₂, hgap, name, rest₃, hname, rest₄, hparameters, left, hbrace,
        ⟨rfl, rfl⟩, rfl⟩
  · simp [typedFunction, hbefore]

/-- A text matches exactly if it starts with a head where a word may start. -/
theorem typedFunction_eq_some_iff {before : Option Char} {text type name left : List Char} :
    typedFunction before text = some ((type, name), left) ↔ wordMayStart before = true ∧
      ∃ h : FunctionHead, h.type = type ∧ h.name = name ∧ text = h.text ++ left := by
  rw [typedFunction_eq_some_iff_parts]
  refine and_congr_right fun _ ↦ ?_
  constructor
  · rintro ⟨rest₁, rest₂, rest₃, rest₄, htype, hgap, hname, hparameters, hbrace⟩
    obtain ⟨htypeRun, -, rfl⟩ := word?_eq_some_iff.mp htype
    obtain ⟨gap, hgapRun, -, rfl⟩ := some?_eq_some_iff.mp hgap
    obtain ⟨hnameRun, -, rfl⟩ := word?_eq_some_iff.mp hname
    obtain ⟨blanks, hblanks, hrest₃⟩ := exists_spaces rest₃
    obtain ⟨parameters, hflat, hopen⟩ := parameters?_eq_some_iff.mp hparameters
    obtain ⟨behind, hbehind, hrest₄⟩ := exists_spaces rest₄
    obtain ⟨qualifier, hqualifier, hend⟩ := exists_qualifier (spaces rest₄)
    rw [char?_eq_some_iff] at hbrace
    rw [hbrace] at hend
    rw [hend] at hrest₄
    rw [hopen, hrest₄] at hrest₃
    refine ⟨⟨type, gap, name, blanks, parameters, behind, qualifier, htypeRun, hgapRun,
      hnameRun, hblanks, hflat, hbehind, hqualifier⟩, rfl, rfl, ?_⟩
    simp [FunctionHead.text, FunctionHead.opening, FunctionHead.ending, hrest₃]
  · rintro ⟨h, rfl, rfl, rfl⟩
    refine ⟨h.gap ++ (h.name ++ (h.blanks ++ ('(' :: (h.parameters ++ ')' :: (h.ending ++ left))))),
      h.name ++ (h.blanks ++ ('(' :: (h.parameters ++ ')' :: (h.ending ++ left)))),
      h.blanks ++ ('(' :: (h.parameters ++ ')' :: (h.ending ++ left))), h.ending ++ left,
      ?_, ?_, ?_, ?_, ?_⟩
    · refine word?_eq_some_iff.mpr ⟨h.type_run, h.gap_run.endsRun (fun _ ↦ isWord_of_isGap) _, ?_⟩
      simp [FunctionHead.text, FunctionHead.opening]
    · exact some?_eq_some_iff.mpr ⟨h.gap, h.gap_run,
        h.name_run.endsRun (fun _ ↦ isGap_of_isWord) _, rfl⟩
    · refine word?_eq_some_iff.mpr ⟨h.name_run, ?_, rfl⟩
      exact endsRun_append (fun c hc ↦ isWord_of_isSpace (h.blanks_space c hc))
        (endsRun_cons (by decide) _)
    · rw [spaces_append h.blanks_space (endsRun_cons (by decide) _)]
      exact parameters?_eq_some_iff.mpr ⟨h.parameters, h.parameters_flat, rfl⟩
    · rw [FunctionHead.ending, List.append_assoc, List.append_assoc, List.singleton_append,
        spaces_append h.behind_space (endsRun_space_qualifier h.qualifier_form left),
        behindQualifier_append h.qualifier_form]
      exact char?_eq_some_iff.mpr rfl

/-! ## No head starts inside another -/

theorem FunctionHead.opening_flat (h : FunctionHead) : ∀ c ∈ h.opening, isBracket c = false := by
  intro c hc
  simp only [FunctionHead.opening, List.mem_append] at hc
  rcases hc with htype | hgap | hname | hblanks
  · exact isBracket_of_isWord (h.type_run.all c htype)
  · exact isBracket_of_isGap (h.gap_run.all c hgap)
  · exact isBracket_of_isWord (h.name_run.all c hname)
  · exact isBracket_of_isGap (isGap_of_isSpace (h.blanks_space c hblanks))

theorem not_match_of_no_head {before : Option Char} {text : List Char}
    (h : ∀ (head : FunctionHead) left, text ≠ head.text ++ left) :
    typedFunction before text = none := by
  rw [Option.eq_none_iff_forall_ne_some]
  rintro ⟨⟨type, name⟩, left⟩ hmatch
  obtain ⟨-, head, -, -, htext⟩ := typedFunction_eq_some_iff.mp hmatch
  exact h head left htext

theorem not_match_of_no_word {before : Option Char} {text : List Char}
    (h : EndsRun isWord text) : typedFunction before text = none := by
  apply not_match_of_no_head
  rintro head left rfl
  obtain ⟨c, w, hw⟩ := List.exists_cons_of_ne_nil head.type_run.ne
  have hc := head.type_run.all c (by simp [hw])
  rw [h c (by simp [FunctionHead.text, FunctionHead.opening, hw])] at hc
  cases hc

/-- A word with no other word behind it is no type. -/
theorem not_match_of_lone_word {before : Option Char} {w blanks : List Char} {c : Char}
    (hw : IsRun isWord w) (hblanks : ∀ b ∈ blanks, isSpace b = true) (hgap : isGap c = false)
    (hword : isWord c = false) (rest : List Char) :
    typedFunction before (w ++ (blanks ++ c :: rest)) = none := by
  rw [Option.eq_none_iff_forall_ne_some]
  rintro ⟨⟨type, name⟩, left⟩ hmatch
  obtain ⟨-, rest₁, rest₂, rest₃, -, htype, hbetween, hname, -, -⟩ :=
    typedFunction_eq_some_iff_parts.mp hmatch
  have hends : EndsRun isWord (blanks ++ c :: rest) :=
    endsRun_append (fun b hb ↦ isWord_of_isSpace (hblanks b hb)) (endsRun_cons hword rest)
  rw [word?_eq_some_iff.mpr ⟨hw, hends, rfl⟩] at htype
  obtain ⟨rfl, rfl⟩ := Prod.mk.inj (Option.some.inj htype)
  obtain ⟨gap, hgapRun, hends₂, hsplit⟩ := some?_eq_some_iff.mp hbetween
  have hdrop := congrArg (List.dropWhile isGap) hsplit
  rw [dropWhile_append_of_endsRun (fun b hb ↦ isGap_of_isSpace (hblanks b hb))
    (endsRun_cons hgap rest), dropWhile_append_of_endsRun hgapRun.all hends₂] at hdrop
  obtain ⟨hnameRun, -, hrest₂⟩ := word?_eq_some_iff.mp hname
  obtain ⟨d, v, rfl⟩ := List.exists_cons_of_ne_nil hnameRun.ne
  rw [← hdrop] at hrest₂
  obtain ⟨rfl, -⟩ := List.cons.inj hrest₂
  have hd := hnameRun.all c (by simp)
  rw [hword] at hd
  cases hd

/-- The first bracket of a head opens. -/
theorem not_match_before_close {before : Option Char} {inner : List Char}
    (h : ∀ c ∈ inner, isBracket c = false) (rest : List Char) :
    typedFunction before (inner ++ ')' :: rest) = none := by
  apply not_match_of_no_head
  intro head left htext
  have hinner : ∀ c ∈ inner, (!isBracket c) = true := by simpa using h
  have hopening : ∀ c ∈ head.opening, (!isBracket c) = true := by simpa using head.opening_flat
  have hdrop := congrArg (List.dropWhile (!isBracket ·)) htext
  rw [dropWhile_append_of_endsRun hinner (endsRun_cons (by decide) rest), FunctionHead.text,
    List.append_assoc, List.cons_append,
    dropWhile_append_of_endsRun hopening (endsRun_cons (by decide) _)] at hdrop
  cases hdrop

theorem atWords_typedFunction : typedFunction.AtWords where
  inside _ _ h := by simp [typedFunction, h]
  outside _ _ h := not_match_of_no_word h

theorem passes_lone_word {before : Option Char} {w blanks rest : List Char} {c : Char}
    (hw : IsRun isWord w) (hblanks : ∀ b ∈ blanks, isSpace b = true) (hgap : isGap c = false)
    (hword : isWord c = false) :
    Pattern.Passes typedFunction before w (blanks ++ c :: rest) :=
  atWords_typedFunction.passes_word hw (not_match_of_lone_word hw hblanks hgap hword rest)

theorem passes_parameters {before : Option Char} {w rest : List Char}
    (hw : ∀ c ∈ w, isBracket c = false) :
    Pattern.Passes typedFunction before w (')' :: rest) := by
  rintro u c v rfl
  exact not_match_before_close (fun d hd ↦ hw d (List.mem_append_right u hd)) rest

theorem FunctionHead.passes_ending (h : FunctionHead) (before : Option Char) (left : List Char) :
    Pattern.Passes typedFunction before h.ending left := by
  have hbrace : ∀ before, Pattern.Passes typedFunction before ['\x7b'] left :=
    fun _ ↦ atWords_typedFunction.passes_between (List.forall_mem_singleton.mpr (by decide))
  rw [ending, Pattern.passes_append, Pattern.passes_append]
  have hspaces : Pattern.Passes typedFunction before h.blanksBehind
      (h.qualifier ++ ['\x7b'] ++ left) :=
    atWords_typedFunction.passes_between fun d hd ↦ isWord_of_isSpace (h.behind_space d hd)
  refine ⟨hspaces, ?_, hbrace _⟩
  rcases h.qualifier_form with hnone | ⟨blanks, hblanks, hconst⟩
  · rw [hnone]
    exact Pattern.passes_nil _ _
  · have hrun : IsRun isWord "const".toList := ⟨by decide, List.all_eq_true.mp (by decide)⟩
    rw [hconst, Pattern.passes_append]
    exact ⟨passes_lone_word hrun hblanks (by decide) (by decide),
      atWords_typedFunction.passes_between fun d hd ↦ isWord_of_isSpace (hblanks d hd)⟩

theorem FunctionHead.passes_brackets (h : FunctionHead) (before : Option Char)
    (left : List Char) :
    Pattern.Passes typedFunction before ('(' :: (h.parameters ++ ')' :: h.ending)) left := by
  rw [Pattern.passes_cons, Pattern.passes_append, Pattern.passes_cons]
  refine ⟨?_, ?_, ?_, h.passes_ending _ left⟩
  · exact not_match_of_no_word (endsRun_cons (by decide) _)
  · exact passes_parameters h.parameters_flat
  · exact not_match_of_no_word (endsRun_cons (by decide) _)

theorem apart_typedFunction : Pattern.Apart typedFunction := by
  rintro before text ⟨type, name⟩ left hmatch
  obtain ⟨-, h, rfl, rfl, rfl⟩ := typedFunction_eq_some_iff.mp hmatch
  obtain ⟨c, w, hw⟩ := List.exists_cons_of_ne_nil h.type_run.ne
  obtain ⟨hc, hall⟩ := List.forall_mem_cons.mp (hw ▸ h.type_run.all)
  let brackets := '(' :: (h.parameters ++ ')' :: h.ending)
  refine ⟨c, w ++ (h.gap ++ (h.name ++ (h.blanks ++ brackets))), ?_, ?_⟩
  · simp [FunctionHead.text, FunctionHead.opening, brackets, hw]
  · rw [Pattern.passes_append, Pattern.passes_append, Pattern.passes_append,
      Pattern.passes_append]
    refine ⟨atWords_typedFunction.passes_inside hc hall, ?_, ?_, ?_, h.passes_brackets _ left⟩
    · exact atWords_typedFunction.passes_between fun d hd ↦ isWord_of_isGap (h.gap_run.all d hd)
    · rw [List.append_assoc]
      exact passes_lone_word h.name_run h.blanks_space (by decide) (by decide)
    · exact atWords_typedFunction.passes_between fun d hd ↦ isWord_of_isSpace (h.blanks_space d hd)

/-! ## The names that are listed -/

/-- Somewhere in the code, where a word may start, stands the head of a function with this type and
this name. -/
def HeadsFunction (code type name : String) : Prop :=
  ∃ before after, ∃ h : FunctionHead, code.toList = before ++ (h.text ++ after) ∧
    wordMayStart before.getLast? = true ∧ h.type = type.toList ∧ h.name = name.toList

theorem mem_findAll_typedFunction {code type name : String} :
    (type.toList, name.toList) ∈ typedFunction.findAll code.toList ↔
      HeadsFunction code type name := by
  rw [Pattern.findAll_eq_everywhere apart_typedFunction, Pattern.mem_everywhere]
  constructor
  · rintro ⟨u, c, v, left, hcode, hmatch⟩
    obtain ⟨hbefore, h, htype, hname, htext⟩ := typedFunction_eq_some_iff.mp hmatch
    refine ⟨u, left, h, by rw [hcode, htext], ?_, htype, hname⟩
    simpa [lastOf] using hbefore
  · rintro ⟨before, after, h, hcode, hbefore, htype, hname⟩
    have hmatch : typedFunction (lastOf none before) (h.text ++ after) =
        some ((type.toList, name.toList), after) := by
      refine typedFunction_eq_some_iff.mpr ⟨?_, h, htype, hname, rfl⟩
      simpa [lastOf] using hbefore
    obtain ⟨c, w, hw⟩ := List.exists_cons_of_ne_nil h.type_run.ne
    have hcons : ∃ v, h.text ++ after = c :: v := by
      simp [FunctionHead.text, FunctionHead.opening, hw]
    obtain ⟨v, hv⟩ := hcons
    rw [hv] at hcode hmatch
    exact ⟨before, c, v, after, hcode, hmatch⟩

/-- A name is listed exactly if it has a head whose type is not the word of a statement. -/
theorem mem_functions_iff {language : Language} (h : language = .c ∨ language = .cpp)
    {code name : String} :
    name ∈ functions language code ↔
      ∃ type, type ∉ statementWords ∧ HeadsFunction code type name := by
  have hfunctions : functions language code = ((typedFunction.findAll code.toList).filter
      fun found ↦ !statementWords.contains (String.ofList found.1)).map
        fun found ↦ String.ofList found.2 := by
    rcases h with rfl | rfl
    · rfl
    · rfl
  rw [hfunctions, List.mem_map]
  constructor
  · rintro ⟨⟨type, name'⟩, hmem, rfl⟩
    obtain ⟨hfound, hword⟩ := List.mem_filter.mp hmem
    refine ⟨String.ofList type, by simpa using hword, mem_findAll_typedFunction.mp ?_⟩
    rwa [String.toList_ofList, String.toList_ofList]
  · rintro ⟨type, hword, hheads⟩
    refine ⟨(type.toList, name.toList), ?_, String.ofList_toList⟩
    rw [List.mem_filter, String.ofList_toList]
    exact ⟨mem_findAll_typedFunction.mpr hheads, by simpa using hword⟩

/-- Of code in one of the two languages, a name is listed as a function exactly if a head with that
name stands in the code behind a word that is not itself the word of a statement. So no control
statement is listed exactly if each head that a control statement seems to be stands behind such a
word. -/
theorem statements_listed_iff {code : String} {language : Language}
    (hdetect : Language.detect code = some language) (h : language = .c ∨ language = .cpp) :
    ∃ facts, Engine.native.parse code = .ok facts ∧
      (∀ name, name ∈ facts.functions ↔
        ∃ type, type ∉ statementWords ∧ HeadsFunction code type name) ∧
      ((∀ word ∈ statementWords, word ∉ facts.functions) ↔
        ∀ word ∈ statementWords, ∀ type, HeadsFunction code type word →
          type ∈ statementWords) := by
  have hparse : Engine.native.parse code = .ok (Engine.factsOf language code) := by
    simp only [Engine.native, Engine.supported, hdetect]
    rfl
  have hlisted : ∀ name, name ∈ (Engine.factsOf language code).functions ↔
      ∃ type, type ∉ statementWords ∧ HeadsFunction code type name :=
    fun name ↦ mem_functions_iff h
  refine ⟨_, hparse, hlisted, ?_⟩
  constructor
  · intro hnone word hword type hheads
    by_contra htype
    exact hnone word hword ((hlisted word).mpr ⟨type, htype, hheads⟩)
  · intro hall word hword hmem
    obtain ⟨type, htype, hheads⟩ := (hlisted word).mp hmem
    exact htype (hall word hword type hheads)

/-- Behind a brace and behind `else` there is no type for a head. -/
theorem statements_listed_nested :
    let code := "#include <stdio.h>\nint main() \x7b if (a) \x7b\x7d else if (b) \x7b\x7d \x7d"
    ∃ facts, Engine.native.parse code = .ok facts ∧ facts.functions = ["main"] ∧
      ∀ type, HeadsFunction code type "if" → type ∈ statementWords := by
  intro code
  have hdetect : Language.detect code = some .c := by decide +kernel
  obtain ⟨facts, hparse, -, hnone⟩ := statements_listed_iff hdetect (.inl rfl)
  have hfunctions : (Engine.native.parse code).map Facts.functions = .ok ["main"] := by
    decide +kernel
  rw [hparse] at hfunctions
  have hlisted : facts.functions = ["main"] := Except.ok.inj hfunctions
  refine ⟨facts, hparse, hlisted, hnone.mp ?_ "if" (by decide)⟩
  rw [hlisted]
  decide

/-- The word of a preprocessor directive is taken for a type. -/
theorem statements_listed_behind_directive :
    let code := "#include <stdio.h>\nint main(void) \x7b\n#if LOUD\n    puts(\"hi\");\n#endif\n" ++
      "    if (LOUD) \x7b\n        return 0;\n    \x7d\n    return 1;\n\x7d\n"
    Language.detect code = some .c ∧
      (Engine.native.parse code).map Facts.functions = .ok ["main", "if"] := by
  decide +kernel

end CodeMentor.Source
