import CodeMentor.Proofs.Text.Pieces
import CodeMentor.Source.Pattern
import Mathlib.Data.List.TakeDrop
import Mathlib.Data.List.TakeWhile

/-!
# All matches of a pattern

A search goes on behind each match, so a match that starts inside another is never seen. The main
result says when nothing is lost that way: if no match of the pattern can start inside another, the
search finds what the pattern captures at every place of the text. The second half says what the
parts that patterns are made of match, each as an equation for the text.
-/

namespace CodeMentor.Source

open CodeMentor.Text

/-! ## Places -/

/-- The character before the place behind `passed`, when `before` stood before all of it. -/
def lastOf (before : Option Char) (passed : List Char) : Option Char :=
  passed.getLast?.or before

@[simp] theorem lastOf_nil (before : Option Char) : lastOf before [] = before := rfl

@[simp] theorem lastOf_cons (before : Option Char) (c : Char) (passed : List Char) :
    lastOf before (c :: passed) = lastOf (some c) passed := by
  cases hlast : passed.getLast? <;> simp [lastOf, List.getLast?_cons, hlast]

@[simp] theorem lastOf_append (before : Option Char) (u v : List Char) :
    lastOf before (u ++ v) = lastOf (lastOf before u) v := by
  induction u generalizing before with
  | nil => rfl
  | cons c u ih => rw [List.cons_append, lastOf_cons, ih, lastOf_cons]

namespace Pattern

variable {α : Type} (p : Pattern α)

/-- What the pattern captures at every place, matches that overlap included. -/
def everywhere (before : Option Char) : List Char → List α
  | [] => []
  | c :: rest => ((p before (c :: rest)).map (·.1)).toList ++ everywhere (some c) rest

/-- No match starts in `w` when it stands behind `before` and in front of `rest`. -/
def Passes (before : Option Char) (w rest : List Char) : Prop :=
  ∀ u c v, w = u ++ c :: v → p (lastOf before u) (c :: v ++ rest) = none

/-- A match is not empty, and no match starts inside it. -/
def Apart : Prop :=
  ∀ before text found left, p before text = some (found, left) →
    ∃ c w, text = c :: w ++ left ∧ p.Passes (some c) w left

variable {p}

theorem passes_nil (before : Option Char) (rest : List Char) : p.Passes before [] rest := by
  intro u c v h
  simp at h

theorem passes_cons {before : Option Char} {c : Char} {w rest : List Char} :
    p.Passes before (c :: w) rest ↔
      p before (c :: w ++ rest) = none ∧ p.Passes (some c) w rest := by
  constructor
  · intro h
    refine ⟨h [] c w rfl, ?_⟩
    intro u d v hw
    have hplace := h (c :: u) d v (by rw [hw, List.cons_append])
    rwa [lastOf_cons] at hplace
  · rintro ⟨hfirst, hrest⟩ u d v hw
    cases u with
    | nil =>
        obtain ⟨rfl, rfl⟩ := List.cons.inj hw
        exact hfirst
    | cons d' u =>
        obtain ⟨rfl, htail⟩ := List.cons.inj hw
        rw [lastOf_cons]
        exact hrest u d v htail

theorem passes_append {before : Option Char} {w w' rest : List Char} :
    p.Passes before (w ++ w') rest ↔
      p.Passes before w (w' ++ rest) ∧ p.Passes (lastOf before w) w' rest := by
  induction w generalizing before with
  | nil => simp [passes_nil]
  | cons c w ih =>
      rw [List.cons_append, passes_cons, passes_cons, ih, lastOf_cons, and_assoc]
      simp only [List.cons_append, List.append_assoc]

theorem everywhere_of_passes {before : Option Char} {w rest : List Char}
    (h : p.Passes before w rest) :
    p.everywhere before (w ++ rest) = p.everywhere (lastOf before w) rest := by
  induction w generalizing before with
  | nil => rfl
  | cons c w ih =>
      obtain ⟨hnone, hpasses⟩ := passes_cons.mp h
      rw [List.cons_append] at hnone ⊢
      rw [everywhere, hnone, ih hpasses, lastOf_cons]
      rfl

theorem scan_length (before : Option Char) (w rest : List Char) :
    p.scan w.length before (w ++ rest) = p.scan 0 (lastOf before w) rest := by
  induction w generalizing before with
  | nil => rfl
  | cons c w ih => rw [List.length_cons, List.cons_append, scan, ih, lastOf_cons]

/-- A search goes on behind a match. -/
theorem scan_of_match {before : Option Char} {text : List Char} {found : α} {c : Char}
    {w left : List Char} (h : p before text = some (found, left)) (htext : text = c :: w ++ left) :
    p.scan 0 before text = found :: p.scan 0 (lastOf (some c) w) left := by
  have hskip : (w ++ left).length - left.length = w.length := by simp
  rw [htext, List.cons_append] at h ⊢
  simp only [scan, h, hskip, scan_length]

/-- A search goes on behind a part in which no match starts. -/
theorem scan_of_passes {before : Option Char} {w rest : List Char} (h : p.Passes before w rest) :
    p.scan 0 before (w ++ rest) = p.scan 0 (lastOf before w) rest := by
  induction w generalizing before with
  | nil => rfl
  | cons c w ih =>
      obtain ⟨hnone, hpasses⟩ := passes_cons.mp h
      rw [List.cons_append] at hnone ⊢
      rw [scan, hnone, lastOf_cons]
      exact ih hpasses

theorem scan_eq_everywhere (h : p.Apart) (before : Option Char) (text : List Char) :
    p.scan 0 before text = p.everywhere before text := by
  -- A match takes the search to the text behind it, so the induction is on the length.
  induction hn : text.length using Nat.strong_induction_on generalizing before text with
  | _ n ih =>
      cases text with
      | nil => rfl
      | cons c rest =>
          rw [List.length_cons] at hn
          cases hmatch : p before (c :: rest) with
          | none =>
              rw [scan, hmatch, everywhere, hmatch]
              exact ih rest.length (by omega) (some c) rest rfl
          | some captured =>
              obtain ⟨found, left⟩ := captured
              obtain ⟨c', w, htext, hpasses⟩ := h before (c :: rest) found left hmatch
              have hscan := scan_of_match hmatch htext
              rw [List.cons_append] at htext
              obtain ⟨rfl, rfl⟩ := List.cons.inj htext
              have hshorter : left.length < n := by
                rw [List.length_append] at hn
                omega
              rw [hscan, everywhere, hmatch, everywhere_of_passes hpasses,
                ih left.length hshorter (lastOf (some c) w) left rfl]
              rfl

/-- A search finds what the pattern captures at every place of the text. -/
theorem findAll_eq_everywhere (h : p.Apart) (text : List Char) :
    p.findAll text = p.everywhere none text :=
  scan_eq_everywhere h none text

theorem mem_everywhere {before : Option Char} {text : List Char} {found : α} :
    found ∈ p.everywhere before text ↔
      ∃ u c v left, text = u ++ c :: v ∧ p (lastOf before u) (c :: v) = some (found, left) := by
  induction text generalizing before with
  | nil => simp [everywhere]
  | cons d rest ih =>
      rw [everywhere, List.mem_append, ih]
      constructor
      · rintro (hhere | ⟨u, c, v, left, rfl, hlater⟩)
        · obtain ⟨⟨found', left⟩, hmatch, rfl⟩ :=
            Option.map_eq_some_iff.mp (Option.mem_toList.mp hhere)
          exact ⟨[], d, rest, left, rfl, hmatch⟩
        · refine ⟨d :: u, c, v, left, rfl, ?_⟩
          rwa [lastOf_cons]
      · rintro ⟨u, c, v, left, htext, hmatch⟩
        cases u with
        | nil =>
            obtain ⟨rfl, rfl⟩ := List.cons.inj htext
            left
            rw [lastOf_nil] at hmatch
            simp [hmatch]
        | cons d' u =>
            obtain ⟨rfl, rfl⟩ := List.cons.inj htext
            rw [lastOf_cons] at hmatch
            exact .inr ⟨u, c, v, left, rfl, hmatch⟩

/-- What the pattern captures at every place, with the positions of the places. The first of them is
at `position`. -/
def placed (position : ℕ) (before : Option Char) : List Char → List (ℕ × α)
  | [] => []
  | c :: rest =>
    ((p before (c :: rest)).map fun m ↦ (position, m.1)).toList ++
      placed (position + 1) (some c) rest

theorem map_snd_placed (position : ℕ) (before : Option Char) (text : List Char) :
    (p.placed position before text).map (·.2) = p.everywhere before text := by
  induction text generalizing position before with
  | nil => rfl
  | cons c rest ih =>
      rw [placed, everywhere, List.map_append, ih]
      cases p before (c :: rest) with
      | none => rfl
      | some m => rfl

theorem mem_placed {position i : ℕ} {before : Option Char} {text : List Char} {found : α} :
    (i, found) ∈ p.placed position before text ↔
      ∃ u c v left, text = u ++ c :: v ∧ i = position + u.length ∧
        p (lastOf before u) (c :: v) = some (found, left) := by
  induction text generalizing position before with
  | nil => simp [placed]
  | cons d rest ih =>
      rw [placed, List.mem_append, ih]
      constructor
      · rintro (hhere | ⟨u, c, v, left, rfl, rfl, hlater⟩)
        · obtain ⟨⟨found', left⟩, hmatch, hfound⟩ :=
            Option.map_eq_some_iff.mp (Option.mem_toList.mp hhere)
          obtain ⟨rfl, rfl⟩ := Prod.mk.inj hfound
          exact ⟨[], d, rest, left, rfl, rfl, hmatch⟩
        · refine ⟨d :: u, c, v, left, rfl, ?_, ?_⟩
          · rw [List.length_cons]
            omega
          · rwa [lastOf_cons]
      · rintro ⟨u, c, v, left, htext, hi, hmatch⟩
        cases u with
        | nil =>
            obtain ⟨rfl, rfl⟩ := List.cons.inj htext
            left
            rw [lastOf_nil] at hmatch
            simp [hmatch, hi]
        | cons d' u =>
            obtain ⟨rfl, rfl⟩ := List.cons.inj htext
            rw [lastOf_cons] at hmatch
            refine .inr ⟨u, c, v, left, rfl, ?_, hmatch⟩
            rw [hi, List.length_cons]
            omega

theorem pairwise_placed (position : ℕ) (before : Option Char) (text : List Char) :
    (p.placed position before text).Pairwise (·.1 < ·.1) := by
  induction text generalizing position before with
  | nil => exact List.Pairwise.nil
  | cons c rest ih =>
      rw [placed, List.pairwise_append]
      refine ⟨?_, ih _ _, ?_⟩
      · cases p before (c :: rest) with
        | none => exact List.Pairwise.nil
        | some m => exact List.pairwise_singleton _ _
      · rintro ⟨i, found⟩ hhere ⟨j, found'⟩ hlater
        obtain ⟨m, -, hm⟩ := Option.map_eq_some_iff.mp (Option.mem_toList.mp hhere)
        obtain ⟨rfl, -⟩ := Prod.mk.inj hm
        obtain ⟨u, -, -, -, -, rfl, -⟩ := mem_placed.mp hlater
        dsimp only
        omega

/-- A search finds what the pattern captures at every place, by increasing position. -/
theorem findAll_eq_placed (h : p.Apart) (text : List Char) :
    p.findAll text = (p.placed 0 none text).map (·.2) := by
  rw [findAll_eq_everywhere h, map_snd_placed]

end Pattern

/-! ## Runs of characters -/

/-- One or more characters, all of the class. -/
structure IsRun (p : Char → Bool) (w : List Char) : Prop where
  ne : w ≠ []
  all : ∀ c ∈ w, p c = true

/-- A run of the class ends in front of the text. -/
def EndsRun (p : Char → Bool) (rest : List Char) : Prop :=
  ∀ c, rest.head? = some c → p c = false

variable {p : Char → Bool} {w rest : List Char}

theorem endsRun_cons {c : Char} (h : p c = false) (rest : List Char) : EndsRun p (c :: rest) := by
  intro d hd
  cases hd
  exact h

theorem endsRun_append (hw : ∀ c ∈ w, p c = false) (h : EndsRun p rest) :
    EndsRun p (w ++ rest) := by
  cases w with
  | nil => exact h
  | cons c w => exact endsRun_cons (hw c (by simp)) (w ++ rest)

theorem endsRun_append_cons_iff {c : Char} (h : p c = false) :
    EndsRun p (w ++ c :: rest) ↔ EndsRun p w := by
  cases w with
  | nil => exact iff_of_true (endsRun_cons h rest) (by simp [EndsRun])
  | cons d w => simp [EndsRun]

theorem IsRun.endsRun {q : Char → Bool} (h : IsRun q w) (hq : ∀ c, q c = true → p c = false)
    (rest : List Char) : EndsRun p (w ++ rest) := by
  obtain ⟨c, w, rfl⟩ := List.exists_cons_of_ne_nil h.ne
  exact endsRun_cons (hq c (h.all c (by simp))) (w ++ rest)

theorem endsRun_dropWhile (p : Char → Bool) (text : List Char) :
    EndsRun p (text.dropWhile p) := by
  intro c hc
  have hhead := List.head?_dropWhile_not p text
  rw [hc] at hhead
  simpa using hhead

theorem takeWhile_append_of_endsRun (hw : ∀ c ∈ w, p c = true) (h : EndsRun p rest) :
    (w ++ rest).takeWhile p = w := by
  rw [List.takeWhile_append_of_pos hw]
  cases rest with
  | nil => simp
  | cons c rest => simp [h c rfl]

theorem dropWhile_append_of_endsRun (hw : ∀ c ∈ w, p c = true) (h : EndsRun p rest) :
    (w ++ rest).dropWhile p = rest := by
  rw [List.dropWhile_append_of_pos hw]
  cases rest with
  | nil => rfl
  | cons c rest => simp [h c rfl]

/-! ## Patterns of words -/

/-- The pattern matches only from the first character of a word on. -/
structure Pattern.AtWords {α : Type} (p : Pattern α) : Prop where
  inside : ∀ before text, wordMayStart before = false → p before text = none
  outside : ∀ before text, EndsRun isWord text → p before text = none

namespace Pattern.AtWords

variable {α : Type} {p : Pattern α} {before : Option Char}

theorem passes_inside (h : p.AtWords) {c : Char} (hc : isWord c = true)
    (hw : ∀ d ∈ w, isWord d = true) : p.Passes (some c) w rest := by
  induction w generalizing c with
  | nil => exact passes_nil _ _
  | cons d w ih =>
      obtain ⟨hd, hw⟩ := List.forall_mem_cons.mp hw
      refine passes_cons.mpr ⟨?_, ih hd hw⟩
      apply h.inside
      simp [wordMayStart, hc]

theorem passes_between (h : p.AtWords) (hw : ∀ d ∈ w, isWord d = false) :
    p.Passes before w rest := by
  rintro u c v rfl
  exact h.outside _ _ (endsRun_cons (hw c (by simp)) _)

/-- Of a word, only the first character can be where a match starts. -/
theorem passes_word (h : p.AtWords) (hw : IsRun isWord w) (hfirst : p before (w ++ rest) = none) :
    p.Passes before w rest := by
  obtain ⟨c, v, rfl⟩ := List.exists_cons_of_ne_nil hw.ne
  obtain ⟨hc, hv⟩ := List.forall_mem_cons.mp hw.all
  exact passes_cons.mpr ⟨hfirst, h.passes_inside hc hv⟩

end Pattern.AtWords

/-! ## Parts of patterns -/

theorem word?_eq_some_iff {text : List Char} :
    word? text = some (w, rest) ↔ IsRun isWord w ∧ EndsRun isWord rest ∧ text = w ++ rest := by
  rw [word?, List.span_eq_takeWhile_dropWhile]
  constructor
  · intro h
    split at h
    · cases h
    · next w' rest' hne hspan =>
        cases h
        obtain ⟨rfl, rfl⟩ := Prod.mk.inj hspan
        refine ⟨⟨?_, ?_⟩, endsRun_dropWhile _ _, List.takeWhile_append_dropWhile.symm⟩
        · exact hne
        · intro c hc
          exact List.mem_takeWhile_imp hc
  · rintro ⟨hw, hrest, rfl⟩
    rw [takeWhile_append_of_endsRun hw.all hrest, dropWhile_append_of_endsRun hw.all hrest]
    obtain ⟨c, w, rfl⟩ := List.exists_cons_of_ne_nil hw.ne
    rfl

theorem some?_eq_some_iff {text : List Char} :
    some? p text = some rest ↔ ∃ w, IsRun p w ∧ EndsRun p rest ∧ text = w ++ rest := by
  constructor
  · intro h
    cases text with
    | nil => cases h
    | cons c text =>
        rw [some?] at h
        split_ifs at h with hc
        obtain rfl := Option.some.inj h
        refine ⟨c :: text.takeWhile p, ⟨by simp, ?_⟩, endsRun_dropWhile _ _, ?_⟩
        · intro d hd
          rcases List.mem_cons.mp hd with rfl | hd
          · exact hc
          · exact List.mem_takeWhile_imp hd
        · rw [List.cons_append, List.takeWhile_append_dropWhile]
  · rintro ⟨w, hw, hrest, rfl⟩
    obtain ⟨c, w, rfl⟩ := List.exists_cons_of_ne_nil hw.ne
    obtain ⟨hc, hall⟩ := List.forall_mem_cons.mp hw.all
    rw [List.cons_append, some?, if_pos hc, dropWhile_append_of_endsRun hall hrest]

theorem upTo_append (passed rest : List Char) : upTo (passed ++ rest) rest = passed := by
  rw [upTo, List.length_append, Nat.add_sub_cancel, List.take_left']
  rfl

theorem spaces_append (hw : ∀ c ∈ w, isSpace c = true) (h : EndsRun isSpace rest) :
    spaces (w ++ rest) = rest :=
  dropWhile_append_of_endsRun hw h

theorem exists_spaces (text : List Char) :
    ∃ blanks, (∀ c ∈ blanks, isSpace c = true) ∧ text = blanks ++ spaces text :=
  ⟨text.takeWhile isSpace, fun _ hc ↦ List.mem_takeWhile_imp hc,
    List.takeWhile_append_dropWhile.symm⟩

theorem keyword?_eq_some_iff {keyword : String} {text : List Char} :
    keyword? keyword text = some rest ↔ text = keyword.toList ++ rest :=
  after?_eq_some_iff

theorem char?_eq_some_iff {c : Char} {text : List Char} :
    char? c text = some rest ↔ text = c :: rest := by
  cases text with
  | nil => simp [char?, one?]
  | cons d text => simp [char?, one?]

/-- The round brackets. -/
def isBracket (c : Char) : Bool :=
  c == '(' || c == ')'

theorem parameters?_eq_some_iff {text : List Char} :
    parameters? text = some rest ↔
      ∃ inner, (∀ c ∈ inner, isBracket c = false) ∧ text = '(' :: (inner ++ ')' :: rest) := by
  have hclass : (fun c : Char ↦ c != '(' && c != ')') = fun c ↦ !isBracket c := by
    funext c
    simp [isBracket, bne]
  rw [parameters?, hclass]
  constructor
  · intro h
    split at h
    · cases h
    · next inner hopen =>
        rw [char?_eq_some_iff] at h hopen
        refine ⟨inner.takeWhile fun c ↦ !isBracket c, ?_, ?_⟩
        · intro c hc
          simpa using List.mem_takeWhile_imp hc
        · rw [hopen, ← h, List.takeWhile_append_dropWhile]
  · rintro ⟨inner, hinner, rfl⟩
    have hall : ∀ c ∈ inner, (!isBracket c) = true := by simpa using hinner
    have hopen : char? '(' ('(' :: (inner ++ ')' :: rest)) = some (inner ++ ')' :: rest) :=
      char?_eq_some_iff.mpr rfl
    simp only [hopen]
    rw [dropWhile_append_of_endsRun hall (endsRun_cons (by decide) rest)]
    exact char?_eq_some_iff.mpr rfl

end CodeMentor.Source
