import CodeMentor.Assistant.Prompt
import CodeMentor.Proofs.Text.Pieces

/-!
# What a review prompt tells of the code

A review prompt shows the first characters of the code, and counts the others in a notice if there
are any. The code may hold whatever the prompt holds, so no place inside the prompt can be trusted.
The end can: the last line says whether there is a notice, and the digits before its last words are
its number. With the end known, the sample is what is left. The main result says that two codes give
one prompt exactly if their samples and the numbers of characters left out are the same.
-/

namespace CodeMentor

open CodeMentor.Text

namespace Prompt

/-! ## The notice -/

/-- The notice about `n` characters that are left out. -/
def notice (n : ℕ) : List String :=
  if n = 0 then []
  else ["", s!"Note: the code was truncated; {n} more characters were omitted."]

theorem omissionLines_eq (code : String) :
    omissionLines code = notice (code.length - sampleLimit) := by
  have hlength : code.toList.length = code.length := String.length_toList
  simp only [omissionLines, notice, hlength]
  by_cases h : sampleLimit < code.length
  · rw [if_pos h, if_neg (by omega)]
  · rw [if_neg h, if_pos (by omega)]

theorem toList_notice {n : ℕ} (h : n ≠ 0) :
    (unlines (notice n)).toList =
      "\nNote: the code was truncated;".toList ++ ' ' ::
        (Nat.toDigits 10 n ++ " more characters were omitted.\n".toList) := by
  have hdigits : (toString n).toList = Nat.toDigits 10 n := by
    rw [Nat.toString_eq_ofList_toDigits, String.toList_ofList]
  have htext : unlines (notice n) = "\n" ++ ("Note: the code was truncated; " ++ toString n ++
      " more characters were omitted." ++ "\n") := by
    rw [notice, if_neg h, unlines_cons, unlines_cons]
    simp [unlines, toString]
  rw [htext, ← hdigits]
  simp

/-- Digits behind another character are the number at the end of a text. -/
theorem eq_of_append_digits {u v : List Char} {a b : Char} (ha : a.isDigit = false)
    (hb : b.isDigit = false) {m n : ℕ}
    (h : u ++ a :: Nat.toDigits 10 m = v ++ b :: Nat.toDigits 10 n) : m = n := by
  have hrun : ∀ (w : List Char) (c : Char) (k : ℕ), c.isDigit = false →
      (w ++ c :: Nat.toDigits 10 k).rtakeWhile Char.isDigit = Nat.toDigits 10 k := by
    intro w c k hc
    have hdigits : ∀ d ∈ (Nat.toDigits 10 k).reverse, d.isDigit = true := fun d hd ↦
      Nat.isDigit_of_mem_toDigits (by decide) (by decide) (List.mem_reverse.mp hd)
    rw [List.rtakeWhile, List.reverse_append, List.reverse_cons, List.append_assoc,
      List.takeWhile_append_of_pos hdigits, List.singleton_append,
      List.takeWhile_cons_of_neg (by simp [hc]), List.append_nil, List.reverse_reverse]
  calc
    m = Nat.ofDigitChars 10 (Nat.toDigits 10 m) 0 := Nat.ofDigitChars_ten_toDigits.symm
    _ = Nat.ofDigitChars 10 (Nat.toDigits 10 n) 0 := by rw [← hrun u a m ha, h, hrun v b n hb]
    _ = n := Nat.ofDigitChars_ten_toDigits

theorem suffix_notice {n : ℕ} (h : n ≠ 0) (text : List Char) :
    ['.', '\n'] <:+ text ++ (unlines (notice n)).toList := by
  rw [toList_notice h]
  refine List.IsSuffix.trans ?_ (List.suffix_append text _)
  refine List.IsSuffix.trans ?_ (List.suffix_append _ _)
  refine List.IsSuffix.trans ?_ (List.suffix_cons _ _)
  exact List.IsSuffix.trans (by decide) (List.suffix_append _ _)

/-- A text that does not end like a notice is no text with a notice at its end. -/
theorem ne_append_notice {c : Char} (hc : c ≠ '.') {text : List Char}
    (htext : [c, '\n'] <:+ text) {n : ℕ} (h : n ≠ 0) (text' : List Char) :
    text ≠ text' ++ (unlines (notice n)).toList := by
  intro heq
  have hnotice := suffix_notice h text'
  rw [← heq] at hnotice
  have hsame : [c, '\n'] = ['.', '\n'] :=
    (List.suffix_of_suffix_length_le htext hnotice le_rfl).eq_of_length rfl
  exact hc (List.cons.inj hsame).1

/-- The end of a text tells which notice it carries. -/
theorem notice_unique {c : Char} (hc : c ≠ '.') {u v : List Char} (hu : [c, '\n'] <:+ u)
    (hv : [c, '\n'] <:+ v) {m n : ℕ}
    (h : u ++ (unlines (notice m)).toList = v ++ (unlines (notice n)).toList) : m = n := by
  have hnil : (unlines (notice 0)).toList = [] := rfl
  by_cases hm : m = 0 <;> by_cases hn : n = 0
  · rw [hm, hn]
  · rw [hm, hnil, List.append_nil] at h
    exact absurd h (ne_append_notice hc hu hn v)
  · rw [hn, hnil, List.append_nil] at h
    exact absurd h.symm (ne_append_notice hc hv hm u)
  · rw [toList_notice hm, toList_notice hn] at h
    simp only [← List.append_assoc, ← List.cons_append, List.append_cancel_right_eq] at h
    exact eq_of_append_digits (by decide) (by decide) h

/-! ## Prompts -/

/-- What stands behind the code that a prompt shows, up to the notice about the `n` characters that
it does not show. -/
def closing (back : List String) (n : ℕ) : String :=
  "\n```\n" ++ unlines back ++ unlines (notice n)

theorem append_closing_inj {c : Char} (hc : c ≠ '.') {back : List String}
    (hback : [c, '\n'] <:+ (unlines back).toList) {u v : List Char} {m n : ℕ} :
    u ++ (closing back m).toList = v ++ (closing back n).toList ↔ u = v ∧ m = n := by
  constructor
  · intro h
    have hends : ∀ w : List Char, [c, '\n'] <:+ w ++ ("\n```\n" ++ unlines back).toList := by
      intro w
      rw [String.toList_append]
      exact hback.trans ((List.suffix_append _ _).trans (List.suffix_append w _))
    have hcut : ∀ (w : List Char) (k : ℕ), w ++ (closing back k).toList =
        w ++ ("\n```\n" ++ unlines back).toList ++ (unlines (notice k)).toList := by
      intro w k
      rw [closing, String.toList_append, List.append_assoc]
    obtain rfl : m = n := by
      rw [hcut, hcut] at h
      exact notice_unique hc (hends u) (hends v) h
    exact ⟨List.append_cancel_right h, rfl⟩
  · rintro ⟨rfl, rfl⟩
    rfl

/-- The last line ends the text. -/
theorem suffix_unlines {lines : List String} {last : String} {c : Char}
    (hlast : lines.getLast? = some last) (hc : last.toList.getLast? = some c) :
    [c, '\n'] <:+ (unlines lines).toList := by
  obtain ⟨others, rfl⟩ := List.getLast?_eq_some_iff.mp hlast
  obtain ⟨word, hword⟩ := List.getLast?_eq_some_iff.mp hc
  rw [unlines_append, unlines_cons, String.toList_append, String.toList_append,
    String.toList_append, hword]
  refine ⟨(unlines others).toList ++ word, ?_⟩
  simp [unlines]

theorem toList_sampled (front back tail : List String) (language code : String) :
    (unlines (front ++ fenced language (String.ofList (code.toList.take sampleLimit)) ++ back ++
        omissionLines code ++ tail)).toList =
      (unlines front).toList ++ (("```" ++ language ++ "\n").toList ++
        (((code.toList.take sampleLimit).rdropWhile (· == '\n') ++
          (closing back (code.length - sampleLimit)).toList) ++ (unlines tail).toList)) := by
  simp [fenced, dropEndChar, dropEndWhile_eq_rdropWhile, unlines_append, unlines_cons,
    omissionLines_eq, closing]

/-- Prompts that differ at most in the code that they show and in what they say of the rest. -/
theorem unlines_sampled_inj {c : Char} (hc : c ≠ '.') {front back tail : List String}
    (hback : [c, '\n'] <:+ (unlines back).toList) {language c₁ c₂ : String} :
    unlines (front ++ fenced language (String.ofList (c₁.toList.take sampleLimit)) ++ back ++
          omissionLines c₁ ++ tail) =
        unlines (front ++ fenced language (String.ofList (c₂.toList.take sampleLimit)) ++ back ++
          omissionLines c₂ ++ tail) ↔
      (c₁.toList.take sampleLimit).rdropWhile (· == '\n') =
          (c₂.toList.take sampleLimit).rdropWhile (· == '\n') ∧
        c₁.length - sampleLimit = c₂.length - sampleLimit := by
  rw [← String.toList_inj, toList_sampled, toList_sampled, List.append_cancel_left_eq,
    List.append_cancel_left_eq, List.append_cancel_right_eq]
  exact append_closing_inj hc hback

/-- Two codes give one prompt exactly if their first 4000 characters are the same up to the newlines
at their end, and as many characters follow these. So a prompt says nothing else of a code, and a
code that holds parts of a prompt is not taken for another. -/
theorem analysis_eq_iff (c₁ c₂ language : String) (replyLanguage : Option String) :
    analysis c₁ language replyLanguage = analysis c₂ language replyLanguage ↔
      (c₁.toList.take 4000).rdropWhile (· == '\n') =
          (c₂.toList.take 4000).rdropWhile (· == '\n') ∧
        c₁.length - 4000 = c₂.length - 4000 :=
  unlines_sampled_inj (c := 's') (by decide) (suffix_unlines rfl (by decide +kernel))

end Prompt

end CodeMentor
