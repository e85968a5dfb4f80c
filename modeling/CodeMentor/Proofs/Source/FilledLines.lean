import CodeMentor.Analysis.Analyzer
import CodeMentor.Proofs.Results
import CodeMentor.Proofs.Text.Pieces
import Mathlib.Data.List.Forall2

/-!
# Two counts of lines

The lines of a text are counted in two ways: by a scanner that follows literals and comments from
one line to the next, and by whether a line holds anything but white space. The scanner gives each
line one kind, in whatever state it comes to the line, and it calls a line blank only if nothing is
open and the line is white space; so it counts every line that the other count has, and no line
twice.
-/

namespace CodeMentor.Source

open CodeMentor.Text

/-! ## Lines of a text -/

theorem length_pieces {α : Type} (separates : α → Bool) (xs : List α) :
    (pieces separates xs).length = xs.countP separates + 1 := by
  induction xs with
  | nil => rfl
  | cons a xs ih =>
      cases h : separates a with
      | true => rw [pieces_cons_of_separates h, List.length_cons, ih, List.countP_cons_of_pos h]
      | false =>
          have hneg : ¬ separates a = true := by simp [h]
          rw [pieces_cons_of_not_separates h, List.length_modifyHead, ih,
            List.countP_cons_of_neg hneg]

theorem isBlank_dropReturn (line : List Char) : isBlank (dropReturn line) = isBlank line := by
  rw [dropReturn]
  split
  next h =>
    obtain ⟨kept, rfl⟩ := List.getLast?_eq_some_iff.mp (eq_of_beq h)
    have hreturn : isSpace '\r' = true := by decide
    simp [isBlank, hreturn]
  next => rfl

/-- Whether a line ends in one character or two makes no difference to which lines are blank. -/
theorem map_isBlank_lines (text : List Char) :
    (lines text).map isBlank = (rawLines text).map isBlank := by
  have hsplit := dropLast_append_openPiece (· == '\n') text
  have hclosed : ∀ ls : List (List Char), (ls.map dropReturn).map isBlank = ls.map isBlank := by
    intro ls
    rw [List.map_map]
    exact List.map_congr_left fun line _ ↦ isBlank_dropReturn line
  rw [lines, rawLines, ← hsplit]
  simp only [List.dropLast_concat, List.getLast?_concat]
  cases openPiece (· == '\n') text with
  | nil => exact hclosed _
  | cons c last =>
      rw [List.map_append, hclosed, ← List.map_append]
      rfl

theorem length_rawLines_le (text : List Char) : (rawLines text).length ≤ text.count '\n' + 1 := by
  have hlength := length_pieces (· == '\n') text
  rw [rawLines]
  split
  · rw [List.length_dropLast, hlength]
    exact Nat.le_succ_of_le le_rfl
  · exact hlength.le

/-! ## Kinds of lines -/

namespace LineCount

theorem isSpace_of_isAsciiSpace {c : Char} (h : isAsciiSpace c = true) : isSpace c = true := by
  simp only [isAsciiSpace, Bool.or_eq_true, beq_iff_eq, Bool.and_eq_true, decide_eq_true_eq] at h
  rcases h with rfl | h
  · decide
  · simp [isSpace, h]

theorem isBlank_of_strip {line : List Char} (h : strip isAsciiSpace line = []) :
    isBlank line = true := by
  rw [isBlank, List.all_eq_true]
  intro c hc
  exact isSpace_of_isAsciiSpace (strip_eq_nil_iff.mp h c hc)

/-- Only a line of white space is blank, and only if nothing is open in front of it. -/
theorem Marks.isBlank_of_classify {m : Marks} {s : State} {line : List Char}
    (h : (m.classify s line).1 = .blank) :
    s.quote = none ∧ s.comment = false ∧ isBlank line = true := by
  simp only [Marks.classify] at h
  split at h
  next hblank =>
    simp only [Bool.and_eq_true, Option.isNone_iff_eq_none, Bool.not_eq_true',
      List.isEmpty_iff] at hblank
    exact ⟨hblank.1.1, hblank.1.2, isBlank_of_strip hblank.2⟩
  next =>
    split at h
    · dsimp only at h
      split at h <;> cases h
    · dsimp only at h
      split at h <;> cases h

/-- Each line has one kind, which is not blank if the line is not. The induction is on the lines,
for every state in front of them. -/
theorem Marks.forall₂_kinds (m : Marks) (s : State) (lines : List (List Char)) :
    List.Forall₂ (fun blank kind ↦ blank = false → kind ≠ .blank) (lines.map isBlank)
      (m.kinds s lines) := by
  induction lines generalizing s with
  | nil => exact .nil
  | cons line rest ih =>
      refine .cons ?_ (ih _)
      intro hline hkind
      rw [(Marks.isBlank_of_classify hkind).2.2] at hline
      cases hline

theorem countP_le_of_forall₂ {α β : Type} {p : α → Bool} {q : β → Bool} {xs : List α}
    {ys : List β} (h : List.Forall₂ (fun a b ↦ p a = true → q b = true) xs ys) :
    xs.countP p ≤ ys.countP q := by
  induction h with
  | nil => exact le_rfl
  | @cons a b _ _ hab _ ih =>
      cases ha : p a with
      | true =>
          rw [List.countP_cons_of_pos ha, List.countP_cons_of_pos (hab ha)]
          exact Nat.succ_le_succ ih
      | false =>
          rw [List.countP_cons_of_neg (by simp [ha])]
          exact ih.trans (List.sublist_cons_self b _).countP_le

theorem countP_ne_blank (kinds : List Kind) :
    kinds.countP (· != .blank) = kinds.count .code + kinds.count .comment := by
  induction kinds with
  | nil => rfl
  | cons kind kinds ih =>
      rw [List.countP_cons, List.count_cons, List.count_cons, ih]
      cases kind with
      | blank => rfl
      | code => simp +arith
      | comment => simp +arith

section Counts

variable (language : Language) (code : String)

theorem forall₂_kinds :
    List.Forall₂ (fun line kind ↦ isBlank line = false → kind ≠ .blank) (lines code.toList)
      (kinds language code) := by
  have hkinds := (marks language).forall₂_kinds .start (rawLines code.toList)
  rwa [← map_isBlank_lines, List.forall₂_map_left_iff] at hkinds

theorem length_filledLines_le : (filledLines code.toList).length ≤ filled language code := by
  rw [filledLines, ← List.countP_eq_length_filter]
  refine countP_le_of_forall₂ ((forall₂_kinds language code).imp ?_)
  intro line kind h hline
  simpa using h (by simpa using hline)

theorem comments_le_filled : comments language code ≤ filled language code := by
  refine List.countP_mono_left fun kind _ hcomment ↦ ?_
  rw [eq_of_beq hcomment]
  rfl

theorem filled_le_length : filled language code ≤ (lines code.toList).length := by
  rw [(forall₂_kinds language code).length_eq]
  exact List.countP_le_length

theorem length_lines_le : (lines code.toList).length ≤ code.toList.count '\n' + 1 := by
  have hlength := congrArg List.length (map_isBlank_lines code.toList)
  rw [List.length_map, List.length_map] at hlength
  rw [hlength]
  exact length_rawLines_le code.toList

end Counts

end LineCount

open LineCount in
/-- The two counts of the lines of a code, if it has fewer than `2 ^ 32` of them. Comments are lines
that are counted, the scanner counts all lines with something other than white space, and it counts
no more lines than there are: each line in order has one kind, which is code or comment unless the
line is white space, and what is counted are the lines of these two kinds. -/
theorem line_counts_bracket {code : String} {metrics : Metrics}
    (hlines : (lines code.toList).length < UInt32.size)
    (h : Engine.native.measure code = .ok metrics) :
    metrics.commentCount ≤ metrics.lineCount ∧
      (guessedMetrics code).lineCount ≤ metrics.lineCount ∧
      metrics.lineCount.toNat ≤ code.toList.count '\n' + 1 ∧
      ∃ language, Language.detect code = some language ∧
        List.Forall₂ (fun line kind ↦ isBlank line = false → kind = .code ∨ kind = .comment)
          (lines code.toList) (kinds language code) ∧
        metrics.lineCount.toNat =
          (kinds language code).count .code + (kinds language code).count .comment ∧
        metrics.commentCount.toNat = (kinds language code).count .comment := by
  obtain ⟨language, hsupported, rfl⟩ := map_eq_ok_iff.mp h
  have hdetect : Language.detect code = some language := by
    rw [Engine.supported] at hsupported
    split at hsupported
    next hsome => rw [hsome, Except.ok.inj hsupported]
    next => cases hsupported
  have hfilled := filled_le_length language code
  have hcomments := comments_le_filled language code
  have hguess := length_filledLines_le language code
  have hlineCount : (Engine.metricsOf language code).lineCount.toNat = filled language code :=
    UInt32.toNat_ofNat_of_lt' (by omega)
  have hcommentCount :
      (Engine.metricsOf language code).commentCount.toNat = comments language code :=
    UInt32.toNat_ofNat_of_lt' (by omega)
  have hguessed :
      (guessedMetrics code).lineCount.toNat = (filledLines code.toList).length :=
    UInt32.toNat_ofNat_of_lt' (by omega)
  refine ⟨?_, ?_, ?_, language, hdetect, ?_, ?_, ?_⟩
  · rw [UInt32.le_iff_toNat_le, hcommentCount, hlineCount]
    exact hcomments
  · rw [UInt32.le_iff_toNat_le, hguessed, hlineCount]
    exact hguess
  · rw [hlineCount]
    exact hfilled.trans (length_lines_le code)
  · refine (forall₂_kinds language code).imp ?_
    intro line kind hkind hline
    cases kind with
    | blank => exact absurd rfl (hkind hline)
    | code => exact .inl rfl
    | comment => exact .inr rfl
  · rw [hlineCount, filled, countP_ne_blank]
  · rw [hcommentCount]
    rfl

/-- A literal that is never closed, with a no-break space on the last line: all three bounds are
strict, since the scanner takes the last line for code and leaves out the empty one. -/
theorem line_counts_bracket_open_literal :
    let code := "def f():\r\n  # note\n\n  s = \"open\n  # in\n\u00a0"
    ∃ metrics, (lines code.toList).length < UInt32.size ∧ Engine.native.measure code = .ok metrics ∧
      metrics.commentCount = 1 ∧ metrics.lineCount = 5 ∧ (guessedMetrics code).lineCount = 4 ∧
      metrics.commentCount ≤ metrics.lineCount ∧
      (guessedMetrics code).lineCount ≤ metrics.lineCount ∧
      metrics.lineCount.toNat ≤ code.toList.count '\n' + 1 := by
  intro code
  have hlength : (lines code.toList).length < UInt32.size := by decide +kernel
  have hdetect : Language.detect code = some .python := by decide +kernel
  have hmeasure : Engine.native.measure code = .ok (Engine.metricsOf .python code) := by
    simp only [Engine.native, Engine.supported, hdetect]
    rfl
  have hcounts : LineCount.comments .python code = 1 ∧ LineCount.filled .python code = 5 ∧
      (filledLines code.toList).length = 4 := by
    decide +kernel
  obtain ⟨hcomments, hguess, hlines, -⟩ := line_counts_bracket hlength hmeasure
  refine ⟨_, hlength, hmeasure, ?_, ?_, ?_, hcomments, hguess, hlines⟩
  · exact congrArg UInt32.ofNat hcounts.1
  · exact congrArg UInt32.ofNat hcounts.2.1
  · exact congrArg UInt32.ofNat hcounts.2.2

end CodeMentor.Source
