import CodeMentor.Proofs.Source.Matches
import Mathlib.Data.Set.Card

/-!
# Whole words

Words are counted by cutting a text wherever a character is no part of a name and comparing the
pieces. The main result says what this counts: the positions where the word stands with no name
character on either side. Both sides of the equation add up where a text is cut, because a word that
holds name characters only never reaches over the cut; so the equation is one about pieces.
-/

namespace CodeMentor.Source

open CodeMentor.Text

/-- The word stands in the text behind the first `i` characters, and the characters next to it, if
there are any, are no name characters. -/
def WordAt (word text : List Char) (i : ℕ) : Prop :=
  ∃ front behind, text = front ++ word ++ behind ∧ front.length = i ∧
    (∀ c, front.getLast? = some c → isName c = false) ∧ EndsRun isName behind

variable {word text a b : List Char} {c : Char} {i : ℕ}

theorem WordAt.le_length (h : WordAt word text i) : i + word.length ≤ text.length := by
  obtain ⟨front, behind, rfl, rfl, -, -⟩ := h
  simp only [List.length_append]
  omega

theorem getLast?_append_cons (a : List Char) (c : Char) (b : List Char) :
    (a ++ c :: b).getLast? = some (b.getLast?.getD c) := by
  simp [List.getLast?_append, List.getLast?_cons]

/-! ## One piece -/

/-- In a text of name characters a word stands by itself only if it is all of the text. -/
theorem wordAt_iff_of_isName (htext : ∀ c ∈ text, isName c = true) :
    WordAt word text i ↔ text = word ∧ i = 0 := by
  constructor
  · rintro ⟨front, behind, rfl, rfl, hfront, hbehind⟩
    have hnone : front = [] := by
      by_contra hne
      have hlast := hfront _ (List.getLast?_eq_some_getLast hne)
      rw [htext _ (by simp)] at hlast
      cases hlast
    have hend : behind = [] := by
      cases behind with
      | nil => rfl
      | cons d behind =>
          have hhead := hbehind d rfl
          rw [htext d (by simp)] at hhead
          cases hhead
    simp [hnone, hend]
  · rintro ⟨rfl, rfl⟩
    exact ⟨[], [], by simp, rfl, by simp, by simp [EndsRun]⟩

theorem wholeWords_of_isName (htext : ∀ c ∈ text, isName c = true) (word : List Char) :
    wholeWords text word = if text = word then 1 else 0 := by
  have hnone : ∀ c ∈ text, (!isName c) = false := fun c hc ↦ by simp [htext c hc]
  rw [wholeWords, pieces_eq_singleton hnone, List.countP_singleton]
  simp only [beq_iff_eq]

theorem encard_wordAt_of_isName (htext : ∀ c ∈ text, isName c = true) (word : List Char) :
    {i | WordAt word text i}.encard = wholeWords text word := by
  simp only [wordAt_iff_of_isName htext, wholeWords_of_isName htext]
  by_cases hword : text = word
  · simp [hword]
  · simp [hword]

/-! ## Two parts -/

/-- A word of name characters stands on one side of a character that is none. -/
theorem wordAt_append_cons_iff (hword : IsRun isName word) (hc : isName c = false) :
    WordAt word (a ++ c :: b) i ↔
      WordAt word a i ∨ ∃ j, WordAt word b j ∧ a.length + 1 + j = i := by
  have hfree : c ∉ word := by
    intro hmem
    rw [hword.all c hmem] at hc
    cases hc
  constructor
  · rintro ⟨front, behind, htext, rfl, hfront, hbehind⟩
    rw [List.append_assoc, List.append_eq_append_iff] at htext
    rcases htext with ⟨t, rfl, hb⟩ | ⟨t, rfl, hword'⟩
    · -- The front reaches the cut, and goes over it since the word does not begin with it.
      cases t with
      | nil =>
          obtain ⟨d, w, rfl⟩ := List.exists_cons_of_ne_nil hword.ne
          obtain ⟨rfl, -⟩ := List.cons.inj hb
          simp at hfree
      | cons d t =>
          obtain ⟨rfl, rfl⟩ := List.cons.inj hb
          have hposition : a.length + 1 + t.length = (a ++ c :: t).length := by
            rw [List.length_append, List.length_cons]
            omega
          refine .inr ⟨t.length, ⟨t, behind, by simp, rfl, ?_, hbehind⟩, hposition⟩
          intro e he
          exact hfront e (by rw [getLast?_append_cons, he, Option.getD_some])
    · -- The cut is behind the word or, which cannot be, inside it.
      rw [List.append_eq_append_iff] at hword'
      rcases hword' with ⟨t', rfl, rfl⟩ | ⟨t', rfl, hb⟩
      · rw [endsRun_append_cons_iff hc] at hbehind
        exact .inl ⟨front, t', by simp, rfl, hfront, hbehind⟩
      · cases t' with
        | nil => exact .inl ⟨front, [], by simp, rfl, hfront, by simp [EndsRun]⟩
        | cons d t' =>
            obtain ⟨rfl, -⟩ := List.cons.inj hb
            simp at hfree
  · rintro (⟨front, behind, rfl, rfl, hfront, hbehind⟩ |
      ⟨j, ⟨front, behind, rfl, rfl, hfront, hbehind⟩, rfl⟩)
    · refine ⟨front, behind ++ c :: b, by simp, rfl, hfront, ?_⟩
      exact (endsRun_append_cons_iff hc).mpr hbehind
    · have hposition : (a ++ c :: front).length = a.length + 1 + front.length := by
        rw [List.length_append, List.length_cons]
        omega
      refine ⟨a ++ c :: front, behind, by simp, hposition, ?_, hbehind⟩
      intro d hd
      rw [getLast?_append_cons, Option.some.injEq] at hd
      cases hlast : front.getLast? with
      | none =>
          rw [hlast, Option.getD_none] at hd
          rwa [← hd]
      | some e =>
          rw [hlast, Option.getD_some] at hd
          exact hfront d (hd ▸ hlast)

theorem encard_wordAt_append_cons (hword : IsRun isName word) (hc : isName c = false) :
    {i | WordAt word (a ++ c :: b) i}.encard =
      {i | WordAt word a i}.encard + {i | WordAt word b i}.encard := by
  have hsplit : {i | WordAt word (a ++ c :: b) i} =
      {i | WordAt word a i} ∪ (a.length + 1 + ·) '' {i | WordAt word b i} := by
    ext i
    exact wordAt_append_cons_iff hword hc
  have hdisjoint :
      Disjoint {i | WordAt word a i} ((a.length + 1 + ·) '' {i | WordAt word b i}) := by
    rw [Set.disjoint_left]
    rintro _ hfirst ⟨j, -, rfl⟩
    have hle := WordAt.le_length hfirst
    dsimp only at hle
    omega
  rw [hsplit, Set.encard_union_eq hdisjoint, (add_right_injective _).encard_image]

theorem wholeWords_append_cons (word : List Char) (hc : isName c = false) (a b : List Char) :
    wholeWords (a ++ c :: b) word = wholeWords a word + wholeWords b word := by
  have hcut : pieces (fun c ↦ !isName c) (a ++ c :: b) =
      pieces (fun c ↦ !isName c) a ++ pieces (fun c ↦ !isName c) b :=
    pieces_append_cons (by simp [hc]) a b
  rw [wholeWords, hcut, List.countP_append]
  rfl

theorem wholeWords_eq_encard (hword : IsRun isName word) (text : List Char) :
    wholeWords text word = {i | WordAt word text i}.encard := by
  induction text using pieces_induction (fun c ↦ !isName c) with
  | piece text htext => exact (encard_wordAt_of_isName (by simpa using htext) word).symm
  | cut a c b ha hc ih =>
      have hsign : isName c = false := by simpa using hc
      rw [wholeWords_append_cons word hsign, encard_wordAt_append_cons hword hsign, ← ih,
        encard_wordAt_of_isName (by simpa using ha), Nat.cast_add]

/-! ## Counters -/

/-- A word that is not empty stands at fewer positions than the text has characters, or as many. -/
theorem wholeWords_le_length (hword : IsRun isName word) (text : List Char) :
    wholeWords text word ≤ text.length := by
  have hsubset : {i | WordAt word text i} ⊆ (Finset.range text.length : Set ℕ) := by
    intro i hi
    have hle := WordAt.le_length hi
    have hpos := List.length_pos_of_ne_nil hword.ne
    rw [Finset.mem_coe, Finset.mem_range]
    omega
  have hle := Set.encard_le_encard hsubset
  rw [← wholeWords_eq_encard hword, Set.encard_coe_eq_coe_finsetCard, Finset.card_range] at hle
  exact_mod_cast hle

theorem toNat_countWord (hword : IsRun isName word) (hsize : text.length < 2 ^ 32) :
    (countWord text word).toNat = wholeWords text word :=
  UInt32.toNat_ofNat_of_lt' ((wholeWords_le_length hword text).trans_lt hsize)

/-- What is counted under a word of name characters are the positions where it stands with no name
character next to it: modulo 2³² in any text, and exactly in a text of fewer than 2³² characters. So
two texts with another character between them have the words of both. -/
theorem countWord_eq_encard (hword : IsRun isName word) :
    (∀ text, {i | WordAt word text i}.Finite ∧
      countWord text word = .ofNat {i | WordAt word text i}.ncard) ∧
    (∀ text, text.length < 2 ^ 32 →
      {i | WordAt word text i}.encard = (countWord text word).toNat) ∧
    (∀ a c b, isName c = false →
      countWord (a ++ c :: b) word = countWord a word + countWord b word) ∧
    ∀ a c b, isName c = false → (a ++ c :: b).length < 2 ^ 32 →
      (countWord (a ++ c :: b) word).toNat =
        (countWord a word).toNat + (countWord b word).toNat := by
  refine ⟨?_, ?_, ?_, ?_⟩
  · intro text
    have hcount := wholeWords_eq_encard hword text
    have hfinite : {i | WordAt word text i}.Finite := by
      apply Set.finite_of_encard_eq_coe
      exact hcount.symm
    refine ⟨hfinite, ?_⟩
    rw [← hfinite.cast_ncard_eq, Nat.cast_inj] at hcount
    rw [countWord, hcount]
  · intro text hsize
    rw [toNat_countWord hword hsize, wholeWords_eq_encard hword]
  · intro a c b hc
    rw [countWord, wholeWords_append_cons word hc, UInt32.ofNat_add]
    rfl
  · intro a c b hc hsize
    have hsizes : a.length < 2 ^ 32 ∧ b.length < 2 ^ 32 := by
      rw [List.length_append, List.length_cons] at hsize
      omega
    rw [toNat_countWord hword hsize, toNat_countWord hword hsizes.1,
      toNat_countWord hword hsizes.2, wholeWords_append_cons word hc]

/-- Next to a letter, accented or not, or a raised digit the word does not count: two of five. -/
theorem countWord_eq_encard_marks :
    let word := "try".toList
    let rest := "retry) tryé try² -try".toList
    IsRun isName word ∧ isName '(' = false ∧
      (word ++ '(' :: rest).length < 2 ^ 32 ∧
      {i | WordAt word (word ++ '(' :: rest) i}.encard = 2 ∧
      countWord (word ++ '(' :: rest) word = countWord word word + countWord rest word ∧
      (countWord word word).toNat + (countWord rest word).toNat = 2 := by
  intro word rest
  have hall : word.all isName = true := by decide +kernel
  have hword : IsRun isName word := ⟨by decide, List.all_eq_true.mp hall⟩
  have hsign : isName '(' = false := by decide +kernel
  have hsize : (word ++ '(' :: rest).length < 2 ^ 32 := by decide +kernel
  have htwo : countWord (word ++ '(' :: rest) word = 2 := by decide +kernel
  obtain ⟨-, hexact, hadd, hsum⟩ := countWord_eq_encard hword
  refine ⟨hword, hsign, hsize, ?_, hadd word '(' rest hsign, ?_⟩
  · rw [hexact _ hsize, htwo]
    rfl
  · rw [← hsum word '(' rest hsign hsize, htwo]
    rfl

end CodeMentor.Source
