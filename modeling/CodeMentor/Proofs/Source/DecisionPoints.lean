import CodeMentor.Proofs.Source.Matches
import CodeMentor.Source.Complexity
import Mathlib.Algebra.Ring.Nat
import Mathlib.Data.Nat.Init

/-!
# Decision points

At one place of a text the pattern tries words between word boundaries and signs. No two of its
alternatives start at the same place, so their order does not matter. The text as a whole is read
from left to right as words, doubled signs and single signs. The search takes the same steps, so it
finds as many decision points as the reading meets, and whatever follows the reading can be compared
with it.
-/

namespace CodeMentor.Source

open CodeMentor.Text

/-! ## One place -/

/-- What follows one of the signs that are decision points. -/
def sign? (text : List Char) : Option (List Char) :=
  (keyword? "&&" text).or ((keyword? "||" text).or (char? '?' text))

theorem sign?_eq_some_iff {text rest : List Char} :
    sign? text = some rest ↔
      text = '&' :: '&' :: rest ∨ text = '|' :: '|' :: rest ∨ text = '?' :: rest := by
  constructor
  · intro h
    rw [sign?, Option.or_eq_some_iff, Option.or_eq_some_iff, keyword?_eq_some_iff,
      keyword?_eq_some_iff, char?_eq_some_iff] at h
    rcases h with hand | ⟨-, hor | ⟨-, hquestion⟩⟩
    · exact .inl hand
    · exact .inr (.inl hor)
    · exact .inr (.inr hquestion)
  · rintro (rfl | rfl | rfl) <;> rfl

theorem sign?_double {c : Char} (hc : c = '&' ∨ c = '|') (rest : List Char) :
    sign? (c :: c :: rest) = some rest := by
  rcases hc with rfl | rfl <;> rfl

theorem sign?_eq_none {c : Char} {rest : List Char} (hquestion : c ≠ '?')
    (hsingle : c = '&' ∨ c = '|' → rest.head? ≠ some c) : sign? (c :: rest) = none := by
  rw [Option.eq_none_iff_forall_ne_some]
  intro left hleft
  rw [sign?_eq_some_iff] at hleft
  simp only [List.cons.injEq] at hleft
  rcases hleft with ⟨rfl, rfl⟩ | ⟨rfl, rfl⟩ | ⟨rfl, -⟩
  · exact hsingle (.inl rfl) rfl
  · exact hsingle (.inr rfl) rfl
  · exact hquestion rfl

theorem sign?_of_isWord {c : Char} (h : isWord c = true) (rest : List Char) :
    sign? (c :: rest) = none := by
  have hne : ∀ d, isWord d = false → c ≠ d := by
    rintro d hd rfl
    rw [hd] at h
    cases h
  refine sign?_eq_none (hne '?' (by decide)) ?_
  rintro (hc | hc)
  · exact absurd hc (hne '&' (by decide))
  · exact absurd hc (hne '|' (by decide))

/-- What follows a word that is a decision point. -/
def decisionWord? (before : Option Char) (text : List Char) : Option (List Char) :=
  if wordMayStart before then
    (word? text).bind fun w ↦
      if decisionWords.contains (String.ofList w.1) then some w.2 else none
  else none

theorem decisionPoint_eq (before : Option Char) (text : List Char) :
    decisionPoint before text =
      ((decisionWord? before text).or (sign? text)).map fun rest ↦ ((), rest) := rfl

theorem decisionPoint_of_not_isWord {c : Char} (h : isWord c = false) (before : Option Char)
    (rest : List Char) :
    decisionPoint before (c :: rest) = (sign? (c :: rest)).map fun left ↦ ((), left) := by
  have hnone : decisionWord? before (c :: rest) = none := by
    simp [decisionWord?, word?, List.span_eq_takeWhile_dropWhile, h]
  rw [decisionPoint_eq, hnone, Option.none_or]

theorem decisionPoint_word {before : Option Char} (hbefore : wordMayStart before = true)
    {w rest : List Char} (hw : IsRun isWord w) (hrest : EndsRun isWord rest) :
    decisionPoint before (w ++ rest) =
      if decisionWords.contains (String.ofList w) then some ((), rest) else none := by
  have hword : word? (w ++ rest) = some (w, rest) := word?_eq_some_iff.mpr ⟨hw, hrest, rfl⟩
  have hsign : sign? (w ++ rest) = none := by
    obtain ⟨c, w, rfl⟩ := List.exists_cons_of_ne_nil hw.ne
    exact sign?_of_isWord (hw.all c (by simp)) (w ++ rest)
  simp only [decisionPoint_eq, hsign, decisionWord?, hbefore, hword, if_true, Option.bind_some,
    Option.or_none]
  split <;> rfl

theorem decisionPoint_inside {c : Char} (h : isWord c = true) {before : Option Char}
    (hbefore : wordMayStart before = false) (rest : List Char) :
    decisionPoint before (c :: rest) = none := by
  simp [decisionPoint_eq, decisionWord?, hbefore, sign?_of_isWord h]

/-! ## The alternatives in order -/

/-- Of the characters around a place, one belongs to a word and the other does not. -/
def wordBoundary (before : Option Char) (text : List Char) : Bool :=
  before.any isWord != text.head?.any isWord

/-- What follows the word, if it stands here between two word boundaries. -/
def bounded? (word : String) (before : Option Char) (text : List Char) : Option (List Char) :=
  if wordBoundary before text then
    (keyword? word text).filter (wordBoundary word.toList.getLast?)
  else none

/-- The alternatives of a decision point, in the order in which they are tried. -/
def alternatives (before : Option Char) (text : List Char) : List (Option (List Char)) :=
  ["if", "elif", "for", "while", "case", "catch", "except"].map (bounded? · before text) ++
    [keyword? "&&" text, keyword? "||" text, char? '?' text] ++
    ["and", "or"].map (bounded? · before text)

theorem wordBoundary_behind {w : List Char} (hw : IsRun isWord w) (rest : List Char) :
    wordBoundary w.getLast? rest = true ↔ EndsRun isWord rest := by
  have hlast : isWord (w.getLast hw.ne) = true := hw.all _ (List.getLast_mem hw.ne)
  rw [List.getLast?_eq_some_getLast hw.ne]
  cases rest with
  | nil => simp [wordBoundary, hlast, EndsRun]
  | cons c rest => simp [wordBoundary, hlast, EndsRun]

theorem wordBoundary_before {w : List Char} (hw : IsRun isWord w) (before : Option Char)
    (rest : List Char) : wordBoundary before (w ++ rest) = wordMayStart before := by
  obtain ⟨c, w, rfl⟩ := List.exists_cons_of_ne_nil hw.ne
  simp [wordBoundary, wordMayStart, hw.all c (by simp)]

theorem bounded?_eq_some_iff {word : String} (hword : IsRun isWord word.toList)
    {before : Option Char} {text rest : List Char} :
    bounded? word before text = some rest ↔
      wordMayStart before = true ∧ word? text = some (word.toList, rest) := by
  constructor
  · intro h
    rw [bounded?] at h
    split at h
    · next hbefore =>
      obtain ⟨hkeyword, hbehind⟩ := Option.filter_eq_some_iff.mp h
      obtain rfl := keyword?_eq_some_iff.mp hkeyword
      rw [wordBoundary_before hword] at hbefore
      rw [wordBoundary_behind hword] at hbehind
      exact ⟨hbefore, word?_eq_some_iff.mpr ⟨hword, hbehind, rfl⟩⟩
    · cases h
  · rintro ⟨hbefore, h⟩
    obtain ⟨-, hrest, rfl⟩ := word?_eq_some_iff.mp h
    rw [bounded?, wordBoundary_before hword, if_pos hbefore, Option.filter_eq_some_iff]
    exact ⟨keyword?_eq_some_iff.mpr rfl, (wordBoundary_behind hword rest).mpr hrest⟩

theorem isRun_of_mem_decisionWords {word : String} (h : word ∈ decisionWords) :
    IsRun isWord word.toList := by
  have hchars : ∀ word ∈ decisionWords, word.toList ≠ [] ∧ word.toList.all isWord = true := by
    decide +kernel
  obtain ⟨hne, hall⟩ := hchars word h
  exact ⟨hne, List.all_eq_true.mp hall⟩

theorem decisionWord?_eq_some_iff {before : Option Char} {text rest : List Char} :
    decisionWord? before text = some rest ↔
      ∃ word ∈ decisionWords, bounded? word before text = some rest := by
  constructor
  · intro h
    rw [decisionWord?] at h
    split at h
    · next hbefore =>
      obtain ⟨⟨w, left⟩, hw, hdecision⟩ := Option.bind_eq_some_iff.mp h
      split at hdecision
      · next hcontains =>
        obtain rfl := Option.some.inj hdecision
        have hmem : String.ofList w ∈ decisionWords := by simpa using hcontains
        refine ⟨String.ofList w, hmem, ?_⟩
        rw [bounded?_eq_some_iff (isRun_of_mem_decisionWords hmem), String.toList_ofList]
        exact ⟨hbefore, hw⟩
      · cases hdecision
    · cases h
  · rintro ⟨word, hword, h⟩
    obtain ⟨hbefore, hrun⟩ := (bounded?_eq_some_iff (isRun_of_mem_decisionWords hword)).mp h
    simp [decisionWord?, hbefore, hrun, hword]

theorem mem_alternatives {before : Option Char} {text rest : List Char} :
    some rest ∈ alternatives before text ↔
      decisionWord? before text = some rest ∨ sign? text = some rest := by
  have hsigns : some rest ∈ [keyword? "&&" text, keyword? "||" text, char? '?' text] ↔
      sign? text = some rest := by
    simp only [List.mem_cons, List.not_mem_nil, or_false, eq_comm (a := some rest),
      sign?_eq_some_iff, keyword?_eq_some_iff, char?_eq_some_iff]
    rfl
  have hwords (words : List String) : some rest ∈ words.map (bounded? · before text) ↔
      ∃ word ∈ words, bounded? word before text = some rest := List.mem_map
  have hsplit : decisionWords =
      ["if", "elif", "for", "while", "case", "catch", "except"] ++ ["and", "or"] := rfl
  rw [alternatives, List.mem_append, List.mem_append, hsigns, hwords, hwords,
    decisionWord?_eq_some_iff, hsplit, or_right_comm]
  simp only [List.mem_append, or_and_right, exists_or]

theorem sign?_of_decisionWord? {before : Option Char} {text rest : List Char}
    (h : decisionWord? before text = some rest) : sign? text = none := by
  obtain ⟨word, hword, hbounded⟩ := decisionWord?_eq_some_iff.mp h
  have hrun := (bounded?_eq_some_iff (isRun_of_mem_decisionWords hword)).mp hbounded
  obtain ⟨hw, -, rfl⟩ := word?_eq_some_iff.mp hrun.2
  obtain ⟨c, w, hcons⟩ := List.exists_cons_of_ne_nil hw.ne
  rw [hcons]
  exact sign?_of_isWord (hw.all c (by simp [hcons])) (w ++ rest)

/-- The first alternative that matches. -/
def firstAlternative : Pattern Unit := fun before text ↦
  ((alternatives before text).findSome? id).map fun rest ↦ ((), rest)

/-- The order of the alternatives does not matter: a word and a sign never start at the same place,
and a place starts one word only. -/
theorem decisionPoint_eq_firstAlternative : decisionPoint = firstAlternative := by
  funext before text
  rw [decisionPoint_eq, firstAlternative]
  congr 1
  cases hfirst : (alternatives before text).findSome? id with
  | none =>
      have hnone : ∀ rest, some rest ∉ alternatives before text := by
        intro rest hmem
        cases List.findSome?_eq_none_iff.mp hfirst _ hmem
      rw [Option.eq_none_iff_forall_ne_some]
      intro rest h
      refine hnone rest (mem_alternatives.mpr ?_)
      exact (Option.or_eq_some_iff.mp h).imp_right And.right
  | some rest =>
      obtain ⟨alternative, hmem, rfl⟩ := List.exists_of_findSome?_eq_some hfirst
      rcases mem_alternatives.mp hmem with hword | hsign
      · rw [hword, Option.some_or]
      · have hnone : decisionWord? before text = none := by
          by_contra hne
          obtain ⟨left, hleft⟩ := Option.ne_none_iff_exists'.mp hne
          rw [sign?_of_decisionWord? hleft] at hsign
          cases hsign
        rw [hnone, hsign, Option.none_or]

/-! ## Readings -/

/-- The text read as words, doubled signs and single signs, with the number of decision points among
them. -/
inductive Reading : List Char → ℕ → Prop
  | nil : Reading [] 0
  | word {w rest : List Char} {n : ℕ} (hw : IsRun isWord w) (hrest : EndsRun isWord rest)
      (h : Reading rest n) :
      Reading (w ++ rest) (n + if decisionWords.contains (String.ofList w) then 1 else 0)
  | double {c : Char} {rest : List Char} {n : ℕ} (hc : c = '&' ∨ c = '|') (h : Reading rest n) :
      Reading (c :: c :: rest) (n + 1)
  | question {rest : List Char} {n : ℕ} (h : Reading rest n) : Reading ('?' :: rest) (n + 1)
  | other {c : Char} {rest : List Char} {n : ℕ} (hword : isWord c = false) (hquestion : c ≠ '?')
      (hsingle : c = '&' ∨ c = '|' → rest.head? ≠ some c) (h : Reading rest n) :
      Reading (c :: rest) n

/-- Every decision point takes a character of the text. -/
theorem Reading.le_length {text : List Char} {n : ℕ} (h : Reading text n) : n ≤ text.length := by
  induction h with
  | nil => exact Nat.le_refl 0
  | word hw _ _ ih =>
      have hpos := List.length_pos_of_ne_nil hw.ne
      rw [List.length_append]
      split <;> omega
  | double _ _ ih =>
      simp only [List.length_cons]
      omega
  | question _ ih => exact Nat.succ_le_succ ih
  | other _ _ _ _ ih => exact Nat.le_succ_of_le ih

theorem exists_reading (text : List Char) : ∃ n, Reading text n := by
  -- A word is read as a whole, so the induction is on the length.
  induction hlength : text.length using Nat.strong_induction_on generalizing text with
  | _ k ih =>
      have hshorter : ∀ rest : List Char, rest.length < text.length → ∃ n, Reading rest n :=
        fun rest h ↦ ih rest.length (hlength ▸ h) rest rfl
      cases text with
      | nil => exact ⟨0, .nil⟩
      | cons c rest =>
          by_cases hword : isWord c = true
          · have hw : IsRun isWord ((c :: rest).takeWhile isWord) :=
              ⟨by simp [hword], fun d hd ↦ List.mem_takeWhile_imp hd⟩
            have hlt : ((c :: rest).dropWhile isWord).length < (c :: rest).length := by
              rw [List.dropWhile_cons_of_pos hword, List.length_cons]
              exact Nat.lt_succ_of_le (List.length_dropWhile_le isWord rest)
            obtain ⟨n, hn⟩ := hshorter _ hlt
            have hreading := Reading.word hw (endsRun_dropWhile isWord _) hn
            rw [List.takeWhile_append_dropWhile] at hreading
            exact ⟨_, hreading⟩
          · obtain ⟨n, hn⟩ := hshorter rest (by simp)
            by_cases hquestion : c = '?'
            · exact ⟨n + 1, hquestion ▸ .question hn⟩
            · by_cases hdouble : (c = '&' ∨ c = '|') ∧ rest.head? = some c
              · obtain ⟨hc, hhead⟩ := hdouble
                obtain ⟨left, rfl⟩ := List.head?_eq_some_iff.mp hhead
                obtain ⟨m, hm⟩ := hshorter left (by simp only [List.length_cons]; omega)
                exact ⟨m + 1, .double hc hm⟩
              · exact ⟨n, .other (by simpa using hword) hquestion
                  (fun hc hhead ↦ hdouble ⟨hc, hhead⟩) hn⟩

/-- Two readings with a sign between them that is part of no decision point. -/
theorem Reading.append {a b : List Char} {n m : ℕ} {c : Char} (hword : isWord c = false)
    (hsign : c ≠ '&' ∧ c ≠ '|' ∧ c ≠ '?') (ha : Reading a n) (hb : Reading b m) :
    Reading (a ++ c :: b) (n + m) := by
  induction ha with
  | nil =>
      rw [Nat.zero_add]
      refine .other hword hsign.2.2 ?_ hb
      rintro (hc | hc)
      · exact absurd hc hsign.1
      · exact absurd hc hsign.2.1
  | @word w rest n hw hrest _ ih =>
      have hends : EndsRun isWord (rest ++ c :: b) := (endsRun_append_cons_iff hword).mpr hrest
      rw [List.append_assoc, Nat.add_right_comm]
      exact .word hw hends ih
  | double hc _ ih =>
      rw [Nat.add_right_comm]
      exact .double hc ih
  | question _ ih =>
      rw [Nat.add_right_comm]
      exact .question ih
  | @other d rest n hd hquestion hsingle _ ih =>
      refine .other hd hquestion ?_ ih
      intro hdouble hhead
      cases rest with
      | nil =>
          obtain rfl : c = d := Option.some.inj hhead
          rcases hdouble with hc | hc
          · exact hsign.1 hc
          · exact hsign.2.1 hc
      | cons d' rest => exact hsingle hdouble hhead

/-! ## The search -/

/-- No decision point starts in the rest of a word. -/
theorem passes_word {before : Option Char} (hbefore : wordMayStart before = false) {w : List Char}
    (hw : ∀ c ∈ w, isWord c = true) (rest : List Char) :
    decisionPoint.Passes before w rest := by
  induction w generalizing before with
  | nil => exact Pattern.passes_nil before rest
  | cons c w ih =>
      obtain ⟨hc, hall⟩ := List.forall_mem_cons.mp hw
      refine Pattern.passes_cons.mpr ⟨decisionPoint_inside hc hbefore (w ++ rest), ?_⟩
      exact ih (by simp [wordMayStart, hc]) hall

/-- The search finds as many decision points as the reading meets, unless it starts in the middle of
a word. -/
theorem Reading.length_scan {text : List Char} {n : ℕ} (h : Reading text n)
    (before : Option Char) (hstart : wordMayStart before = true ∨ EndsRun isWord text) :
    (decisionPoint.scan 0 before text).length = n := by
  induction h generalizing before with
  | nil => rfl
  | @word w rest n hw hrest _ ih =>
      obtain ⟨c, w, rfl⟩ := List.exists_cons_of_ne_nil hw.ne
      obtain ⟨hc, hall⟩ := List.forall_mem_cons.mp hw.all
      have hbefore : wordMayStart before = true := by
        refine hstart.resolve_right fun hends ↦ ?_
        rw [hends c rfl] at hc
        cases hc
      have hmatch := decisionPoint_word hbefore hw hrest
      have hinside : wordMayStart (some c) = false := by simp [wordMayStart, hc]
      have hbehind := ih (lastOf (some c) w) (.inr hrest)
      cases hdecision : decisionWords.contains (String.ofList (c :: w)) with
      | true =>
          rw [hdecision, if_pos rfl] at hmatch
          rw [Pattern.scan_of_match hmatch rfl, List.length_cons, hbehind, if_pos rfl]
      | false =>
          rw [hdecision, if_neg Bool.false_ne_true] at hmatch
          have hpasses : decisionPoint.Passes before (c :: w) rest :=
            Pattern.passes_cons.mpr ⟨hmatch, passes_word hinside hall rest⟩
          rw [Pattern.scan_of_passes hpasses, lastOf_cons, hbehind, if_neg Bool.false_ne_true,
            Nat.add_zero]
  | @double c rest n hc _ ih =>
      have hword : isWord c = false := by rcases hc with rfl | rfl <;> decide
      have hmatch : decisionPoint before (c :: c :: rest) = some ((), rest) := by
        rw [decisionPoint_of_not_isWord hword, sign?_double hc, Option.map_some]
      have hbehind := ih (some c) (.inl (by simp [wordMayStart, hword]))
      rw [Pattern.scan_of_match (w := [c]) hmatch rfl, List.length_cons]
      exact congrArg (· + 1) hbehind
  | @question rest n _ ih =>
      have hmatch : decisionPoint before ('?' :: rest) = some ((), rest) := by
        rw [decisionPoint_of_not_isWord (by decide)]
        rfl
      have hbehind := ih (some '?') (.inl rfl)
      rw [Pattern.scan_of_match (w := []) hmatch rfl, List.length_cons]
      exact congrArg (· + 1) hbehind
  | @other c rest n hword hquestion hsingle _ ih =>
      have hmatch : decisionPoint before (c :: rest) = none := by
        rw [decisionPoint_of_not_isWord hword, sign?_eq_none hquestion hsingle, Option.map_none]
      rw [Pattern.scan, hmatch]
      exact ih (some c) (.inl (by simp [wordMayStart, hword]))

/-- The number of decision points in a text. -/
def decisionCount (text : List Char) : ℕ :=
  (decisionPoint.findAll text).length

theorem cyclomaticComplexity_eq (code : String) :
    cyclomaticComplexity code = 1 + .ofNat (decisionCount code.toList) := rfl

theorem Reading.decisionCount_eq {text : List Char} {n : ℕ} (h : Reading text n) :
    decisionCount text = n :=
  h.length_scan none (.inl rfl)

theorem decisionCount_le_length (text : List Char) : decisionCount text ≤ text.length := by
  obtain ⟨n, hn⟩ := exists_reading text
  rw [hn.decisionCount_eq]
  exact hn.le_length

/-- In a text that is not too long the counter of decision points does not start again. -/
theorem toNat_cyclomaticComplexity {code : String} (hsize : code.toList.length + 1 < 2 ^ 32) :
    (cyclomaticComplexity code).toNat = 1 + decisionCount code.toList := by
  have hle := decisionCount_le_length code.toList
  rw [cyclomaticComplexity_eq, UInt32.toNat_add, UInt32.toNat_one, UInt32.toNat_ofNat']
  omega

end CodeMentor.Source
