import CodeMentor.Proofs.Source.DecisionPoints
import CodeMentor.Proofs.Source.WordCounts
import Mathlib.Algebra.BigOperators.Group.List.Basic
import Mathlib.Data.UInt

/-!
# Counting decision points

The number of decision points of a text is a sum of counts that know nothing of each other: of words
between other characters, of doubled signs that do not overlap, and of question marks. A line break
is part of no decision point, so those of a file are those of its lines, in whatever order the lines
stand.
-/

namespace CodeMentor.Source

open CodeMentor.Text

/-! ## Counts -/

/-- Passing over `skip` characters, which belong to the occurrence before. -/
def occurrencesFrom (part : List Char) : (skip : ℕ) → List Char → ℕ
  | _, [] => 0
  | skip + 1, _ :: rest => occurrencesFrom part skip rest
  | 0, c :: rest =>
    if part.isPrefixOf (c :: rest) then occurrencesFrom part (part.length - 1) rest + 1
    else occurrencesFrom part 0 rest

/-- How often `part` occurs in a text, counted from left to right without overlap. -/
def occurrences (part text : List Char) : ℕ :=
  occurrencesFrom part 0 text

theorem occurrences_double (c : Char) (rest : List Char) :
    occurrences [c, c] (c :: c :: rest) = occurrences [c, c] rest + 1 := by
  simp [occurrences, occurrencesFrom]

theorem occurrences_of_not_prefix {part : List Char} {c : Char} {rest : List Char}
    (h : ¬ part <+: c :: rest) : occurrences part (c :: rest) = occurrences part rest := by
  rw [← List.isPrefixOf_iff_prefix] at h
  rw [occurrences, occurrencesFrom, if_neg h]
  rfl

theorem occurrences_double_of_ne {c d : Char} (h : c ≠ d) (rest : List Char) :
    occurrences [d, d] (c :: rest) = occurrences [d, d] rest :=
  occurrences_of_not_prefix fun hprefix ↦ h (List.cons_prefix_cons.mp hprefix).1.symm

theorem occurrences_double_append {d : Char} {w : List Char} (h : d ∉ w) (rest : List Char) :
    occurrences [d, d] (w ++ rest) = occurrences [d, d] rest := by
  induction w with
  | nil => rfl
  | cons c w ih =>
      obtain ⟨hc, hw⟩ := List.ne_and_not_mem_of_not_mem_cons h
      rw [List.cons_append, occurrences_double_of_ne hc.symm, ih hw]

/-- The words of a text that are decision points. -/
def decisionWordCount (text : List Char) : ℕ :=
  (pieces (!isWord ·) text).countP fun w ↦ decisionWords.contains (String.ofList w)

theorem decisionWordCount_cons {c : Char} (h : isWord c = false) (rest : List Char) :
    decisionWordCount (c :: rest) = decisionWordCount rest := by
  rw [decisionWordCount, pieces_cons_of_separates (by simp [h]),
    List.countP_cons_of_neg (by decide)]
  rfl

theorem decisionWordCount_append {w rest : List Char} (hw : IsRun isWord w)
    (hrest : EndsRun isWord rest) :
    decisionWordCount (w ++ rest) =
      decisionWordCount rest + if decisionWords.contains (String.ofList w) then 1 else 0 := by
  have hpieces : pieces (!isWord ·) w = [w] :=
    pieces_eq_singleton fun c hc ↦ by simp [hw.all c hc]
  cases rest with
  | nil =>
      have hnil : decisionWordCount [] = 0 := rfl
      rw [List.append_nil, hnil, Nat.zero_add, decisionWordCount, hpieces, List.countP_singleton]
  | cons c rest =>
      have hc : isWord c = false := hrest c rfl
      rw [decisionWordCount_cons hc, decisionWordCount, pieces_append_cons (by simp [hc]), hpieces,
        List.countP_append, List.countP_singleton, Nat.add_comm]
      rfl

/-- What a reading meets is what the words and the signs count by themselves. -/
theorem Reading.eq_counts {text : List Char} {n : ℕ} (h : Reading text n) :
    n = decisionWordCount text + occurrences ['&', '&'] text + occurrences ['|', '|'] text +
      text.count '?' := by
  induction h with
  | nil => rfl
  | @word w rest n hw hrest _ ih =>
      have hfree : ∀ {c}, isWord c = false → c ∉ w := by
        intro c hc hmem
        rw [hw.all c hmem] at hc
        cases hc
      rw [decisionWordCount_append hw hrest, occurrences_double_append (hfree (by decide)),
        occurrences_double_append (hfree (by decide)), List.count_append,
        List.count_eq_zero.mpr (hfree (by decide)), ih]
      omega
  | @double c rest n hc _ ih =>
      rcases hc with rfl | rfl
      all_goals
        rw [decisionWordCount_cons (by decide), decisionWordCount_cons (by decide),
          occurrences_double, occurrences_double_of_ne (by decide),
          occurrences_double_of_ne (by decide), List.count_cons_of_ne (by decide),
          List.count_cons_of_ne (by decide), ih]
        omega
  | @question rest n _ ih =>
      rw [decisionWordCount_cons (by decide), occurrences_double_of_ne (by decide),
        occurrences_double_of_ne (by decide), List.count_cons_self, ih]
      omega
  | @other c rest n hword hquestion hsingle _ ih =>
      have hfree : ∀ d, d = '&' ∨ d = '|' → ¬ [d, d] <+: c :: rest := by
        rintro d hd hprefix
        obtain ⟨rfl, hnext⟩ := List.cons_prefix_cons.mp hprefix
        refine hsingle hd ?_
        obtain ⟨left, rfl⟩ := hnext
        rfl
      rw [decisionWordCount_cons hword, occurrences_of_not_prefix (hfree _ (.inl rfl)),
        occurrences_of_not_prefix (hfree _ (.inr rfl)), List.count_cons_of_ne hquestion, ih]

section Distinct

variable {α : Type} [DecidableEq α]

theorem sum_map_ite_eq_count (x : α) (words : List α) :
    (words.map fun w ↦ if x == w then 1 else 0).sum = words.count x := by
  induction words with
  | nil => rfl
  | cons w words ih =>
      rw [List.map_cons, List.sum_cons, ih, List.count_cons, Nat.add_comm, BEq.comm]

/-- How many elements are in a list of distinct words: each word counts by itself. -/
theorem countP_contains {words : List α} (h : words.Nodup) (xs : List α) :
    xs.countP words.contains = (words.map fun w ↦ xs.count w).sum := by
  induction xs with
  | nil => simp
  | cons x xs ih =>
      simp only [List.countP_cons, List.count_cons, List.sum_map_add, ih, sum_map_ite_eq_count,
        h.count, List.contains_iff_mem]

end Distinct

theorem decisionWordCount_eq_sum {text : List Char} (h : ∀ c ∈ text, c.toNat < 0x80) :
    decisionWordCount text = (decisionWords.map fun w ↦ wholeWords text w.toList).sum := by
  have hpieces : pieces (!isWord ·) text = pieces (fun c ↦ !isName c) text :=
    pieces_congr fun c hc ↦ congrArg not (isWord_eq_isName_of_ascii (h c hc))
  have hcount : ∀ w : String, wholeWords text w.toList =
      ((pieces (!isWord ·) text).map String.ofList).count w := by
    intro w
    rw [wholeWords, hpieces, List.count, List.countP_map]
    refine List.countP_congr fun piece _ ↦ ?_
    rw [Function.comp_apply, beq_iff_eq, beq_iff_eq, ← String.toList_inj, String.toList_ofList]
  simp only [hcount]
  rw [← countP_contains (by decide), List.countP_map]
  rfl

theorem ofNat_sum (ns : List ℕ) : UInt32.ofNat ns.sum = (ns.map UInt32.ofNat).sum := by
  induction ns with
  | nil => rfl
  | cons n ns ih => rw [List.sum_cons, UInt32.ofNat_add, ih, List.map_cons, List.sum_cons]

theorem isNameRun_of_mem_decisionWords {word : String} (h : word ∈ decisionWords) :
    IsRun isName word.toList := by
  have hchars : ∀ word ∈ decisionWords, word.toList.all isName = true := by decide +kernel
  exact ⟨(isRun_of_mem_decisionWords h).ne, List.all_eq_true.mp (hchars word h)⟩

/-- Of a text of ASCII characters, the decision points are the words and signs that the counts find
by themselves: with counters of 32 bits that start again behind their greatest number in any text,
and in natural numbers if the text is not too long for the counters. -/
theorem cyclomaticComplexity_eq_counts {code : String} (h : ∀ c ∈ code.toList, c.toNat < 0x80) :
    cyclomaticComplexity code = 1 + .ofNat (firstAlternative.findAll code.toList).length ∧
      let words := ["if", "elif", "for", "while", "case", "catch", "except", "and", "or"]
      cyclomaticComplexity code = 1 +
        (words.map fun word ↦ countWord code.toList word.toList).sum +
        .ofNat (occurrences "&&".toList code.toList) +
        .ofNat (occurrences "||".toList code.toList) + .ofNat (code.toList.count '?') ∧
      (code.toList.length + 1 < 2 ^ 32 → (cyclomaticComplexity code).toNat = 1 +
        (words.map fun word ↦ (countWord code.toList word.toList).toNat).sum +
        occurrences "&&".toList code.toList + occurrences "||".toList code.toList +
        code.toList.count '?') := by
  refine ⟨by rw [cyclomaticComplexity, decisionPoint_eq_firstAlternative], ?_⟩
  intro words
  obtain ⟨n, hn⟩ := exists_reading code.toList
  have hcount : decisionCount code.toList =
      (words.map fun word ↦ wholeWords code.toList word.toList).sum +
        occurrences "&&".toList code.toList + occurrences "||".toList code.toList +
        code.toList.count '?' := by
    rw [hn.decisionCount_eq, hn.eq_counts, decisionWordCount_eq_sum h]
    rfl
  constructor
  · rw [cyclomaticComplexity_eq, hcount, UInt32.ofNat_add, UInt32.ofNat_add, UInt32.ofNat_add,
      ofNat_sum, List.map_map]
    simp only [UInt32.add_assoc]
    rfl
  · intro hsize
    have hwords : (words.map fun word ↦ (countWord code.toList word.toList).toNat) =
        words.map fun word ↦ wholeWords code.toList word.toList := by
      apply List.map_congr_left
      intro word hword
      exact toNat_countWord (isNameRun_of_mem_decisionWords hword) (by omega)
    rw [toNat_cyclomaticComplexity hsize, hcount, hwords]
    omega

/-- Signs that overlap, and words that hold decision words: only six decision points. -/
theorem cyclomaticComplexity_eq_counts_overlapping :
    let code := "x = a &&& b ||| iffy ? elif : for-or;"
    (∀ c ∈ code.toList, c.toNat < 0x80) ∧ code.toList.length + 1 < 2 ^ 32 ∧
      cyclomaticComplexity code = 7 ∧ (cyclomaticComplexity code).toNat = 7 := by
  intro code
  have hascii : ∀ c ∈ code.toList, c.toNat < 0x80 := by
    have hall : (code.toList.all fun c ↦ decide (c.toNat < 0x80)) = true := by decide +kernel
    exact fun c hc ↦ of_decide_eq_true (List.all_eq_true.mp hall c hc)
  have hsize : code.toList.length + 1 < 2 ^ 32 := by decide +kernel
  obtain ⟨-, hcounters, hexact⟩ := cyclomaticComplexity_eq_counts hascii
  refine ⟨hascii, hsize, ?_, ?_⟩
  · rw [hcounters]
    decide +kernel
  · rw [hexact hsize]
    decide +kernel

/-! ## Texts with line breaks -/

theorem decisionCount_append_cons {c : Char} (hword : isWord c = false)
    (hsign : c ≠ '&' ∧ c ≠ '|' ∧ c ≠ '?') (a b : List Char) :
    decisionCount (a ++ c :: b) = decisionCount a + decisionCount b := by
  obtain ⟨n, ha⟩ := exists_reading a
  obtain ⟨m, hb⟩ := exists_reading b
  rw [(Reading.append hword hsign ha hb).decisionCount_eq, ha.decisionCount_eq, hb.decisionCount_eq]

theorem decisionCount_append_line (a b : List Char) :
    decisionCount (a ++ '\n' :: b) = decisionCount a + decisionCount b :=
  decisionCount_append_cons (by decide) (by decide) a b

theorem decisionCount_intercalate (parts : List (List Char)) :
    decisionCount (['\n'].intercalate parts) = (parts.map decisionCount).sum := by
  induction parts with
  | nil => rfl
  | cons part parts ih =>
      cases parts with
      | nil => simp
      | cons next parts =>
          rw [List.intercalate_cons_cons, List.append_assoc, List.singleton_append,
            decisionCount_append_line, ih]
          rfl

theorem decisionCount_dropReturn (line : List Char) :
    decisionCount (dropReturn line) = decisionCount line := by
  rw [dropReturn]
  split
  next h =>
    obtain ⟨kept, rfl⟩ := List.getLast?_eq_some_iff.mp (eq_of_beq h)
    rw [List.dropLast_concat, decisionCount_append_cons (by decide) (by decide)]
    rfl
  next => rfl

/-- The decision points of a text are those of its lines. -/
theorem decisionCount_lines (text : List Char) :
    ((lines text).map decisionCount).sum = decisionCount text := by
  have hclosed : ∀ ls : List (List Char),
      (ls.map dropReturn).map decisionCount = ls.map decisionCount := by
    intro ls
    rw [List.map_map]
    exact List.map_congr_left fun line _ ↦ decisionCount_dropReturn line
  have hsplit := dropLast_append_openPiece (· == '\n') text
  have htext : decisionCount text = ((pieces (· == '\n') text).map decisionCount).sum := by
    rw [← decisionCount_intercalate, intercalate_pieces]
  rw [htext, ← hsplit, lines, ← hsplit]
  simp only [List.dropLast_concat, List.getLast?_concat]
  cases openPiece (· == '\n') text with
  | nil =>
      rw [hclosed, List.map_append, List.sum_append]
      rfl
  | cons c last => rw [List.map_append, hclosed, List.map_append]

theorem decisionCount_join (parts : List String) :
    decisionCount ("\n".intercalate parts).toList =
      (parts.map fun part ↦ decisionCount part.toList).sum := by
  have hjoin : ("\n".intercalate parts).toList = ['\n'].intercalate (parts.map String.toList) :=
    String.toList_intercalate
  rw [hjoin, decisionCount_intercalate, List.map_map]
  rfl

/-- The decision points of two texts with a line break between them are those of both: with counters
of 32 bits always, and in natural numbers if the text is not too long for the counters. So they stay
the same when the parts of a text between line breaks change places, whether it is cut at all line
breaks or at some, and when its lines are put together again in any order. -/
theorem cyclomaticComplexity_lines :
    (∀ a b : String, cyclomaticComplexity (a ++ "\n" ++ b) + 1 =
      cyclomaticComplexity a + cyclomaticComplexity b) ∧
    (∀ a b : String, (a ++ "\n" ++ b).toList.length < 2 ^ 32 →
      (cyclomaticComplexity (a ++ "\n" ++ b)).toNat + 1 =
        (cyclomaticComplexity a).toNat + (cyclomaticComplexity b).toNat) ∧
    (∀ (code : String) (parts parts' : List String), "\n".intercalate parts = code →
      parts'.Perm parts → cyclomaticComplexity ("\n".intercalate parts') =
        cyclomaticComplexity code) ∧
    ∀ (code : String) (parts : List String), parts.Perm ((lines code.toList).map String.ofList) →
      cyclomaticComplexity ("\n".intercalate parts) = cyclomaticComplexity code := by
  have htext : ∀ a b : String, (a ++ "\n" ++ b).toList = a.toList ++ '\n' :: b.toList := by
    intro a b
    rw [String.toList_append, String.toList_append, List.append_assoc]
    rfl
  refine ⟨?_, ?_, ?_, ?_⟩
  · intro a b
    rw [cyclomaticComplexity_eq, htext, decisionCount_append_line, cyclomaticComplexity_eq,
      cyclomaticComplexity_eq, UInt32.ofNat_add]
    ac_rfl
  · intro a b hsize
    have hlengths := hsize
    rw [htext, List.length_append, List.length_cons] at hlengths
    have ha := decisionCount_le_length a.toList
    have hb := decisionCount_le_length b.toList
    rw [cyclomaticComplexity_eq, htext, decisionCount_append_line,
      toNat_cyclomaticComplexity (by omega), toNat_cyclomaticComplexity (by omega),
      UInt32.toNat_add, UInt32.toNat_one, UInt32.toNat_ofNat']
    omega
  · rintro code parts parts' rfl hperm
    rw [cyclomaticComplexity_eq, cyclomaticComplexity_eq, decisionCount_join, decisionCount_join,
      (hperm.map _).sum_eq]
  · intro code parts hperm
    have hlines : ((lines code.toList).map String.ofList).map
        (fun part ↦ decisionCount part.toList) = (lines code.toList).map decisionCount := by
      simp [Function.comp_def]
    rw [cyclomaticComplexity_eq, cyclomaticComplexity_eq, decisionCount_join,
      (hperm.map _).sum_eq, hlines, decisionCount_lines]

/-- The lines of a file with two kinds of line breaks, in another order. -/
theorem cyclomaticComplexity_lines_swapped :
    let code := "if a\r\nfor b\nx ? y &\n"
    (lines code.toList).map String.ofList = ["if a", "for b", "x ? y &"] ∧
      cyclomaticComplexity "x ? y &\nfor b\nif a" = cyclomaticComplexity code ∧
      ("x ? y &" ++ "\n" ++ "for b\nif a").toList.length < 2 ^ 32 ∧
      (cyclomaticComplexity ("x ? y &" ++ "\n" ++ "for b\nif a")).toNat + 1 =
        (cyclomaticComplexity "x ? y &").toNat + (cyclomaticComplexity "for b\nif a").toNat := by
  intro code
  have hlines : (lines code.toList).map String.ofList = ["if a", "for b", "x ? y &"] := by
    decide +kernel
  have hperm : ["x ? y &", "for b", "if a"].Perm ((lines code.toList).map String.ofList) := by
    rw [hlines]
    decide
  have hsize : ("x ? y &" ++ "\n" ++ "for b\nif a").toList.length < 2 ^ 32 := by decide +kernel
  have hjoin : "\n".intercalate ["x ? y &", "for b", "if a"] = "x ? y &\nfor b\nif a" := by
    decide +kernel
  obtain ⟨-, hsum, -, hlast⟩ := cyclomaticComplexity_lines
  have hswapped := hlast code ["x ? y &", "for b", "if a"] hperm
  rw [hjoin] at hswapped
  exact ⟨hlines, hswapped, hsize, hsum "x ? y &" "for b\nif a" hsize⟩

end CodeMentor.Source
