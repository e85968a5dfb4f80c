import CodeMentor.Text.Pieces
import Mathlib.Data.List.DropRight

/-!
# Laws of splitting and stripping

`pieces` is the splitting of the list library. The law of concatenation says what a reader may
forget: of a first part only the piece after its last separator still matters.
-/

namespace CodeMentor.Text

variable {α : Type}

/-- The piece after the last separator. -/
def openPiece (separates : α → Bool) (xs : List α) : List α :=
  (pieces separates xs).getLast?.getD []

theorem pieces_cons_of_separates {separates : α → Bool} {a : α} (h : separates a = true)
    (xs : List α) : pieces separates (a :: xs) = [] :: pieces separates xs := by
  simp [pieces, h]

theorem pieces_cons_of_not_separates {separates : α → Bool} {a : α} (h : separates a = false)
    (xs : List α) :
    pieces separates (a :: xs) = (pieces separates xs).modifyHead (a :: ·) := by
  rcases hp : pieces separates xs with _ | ⟨p, ps⟩
  · exact absurd hp (pieces_ne_nil _ _)
  · simp [pieces, h, hp]

theorem pieces_eq_splitOnP (separates : α → Bool) (xs : List α) :
    pieces separates xs = xs.splitOnP separates := by
  induction xs with
  | nil => rfl
  | cons a xs ih =>
      rw [List.splitOnP_cons_eq_if_modifyHead, ← ih]
      cases h : separates a with
      | true => simp [pieces_cons_of_separates h]
      | false => simp [pieces_cons_of_not_separates h]

theorem pieces_congr {p q : α → Bool} {xs : List α} (h : ∀ a ∈ xs, p a = q a) :
    pieces p xs = pieces q xs := by
  induction xs with
  | nil => rfl
  | cons a xs ih =>
      obtain ⟨ha, hxs⟩ := List.forall_mem_cons.mp h
      rw [pieces, pieces, ha, ih hxs]

theorem dropLast_append_openPiece (separates : α → Bool) (xs : List α) :
    (pieces separates xs).dropLast ++ [openPiece separates xs] = pieces separates xs := by
  obtain ⟨ps, p, hp⟩ := List.eq_nil_or_concat (pieces separates xs) |>.resolve_left
    (pieces_ne_nil separates xs)
  simp [openPiece, hp]

theorem pieces_eq_singleton {separates : α → Bool} {xs : List α}
    (h : ∀ a ∈ xs, separates a = false) : pieces separates xs = [xs] := by
  rw [pieces_eq_splitOnP, List.splitOnP_eq_singleton h]

theorem openPiece_eq_self {separates : α → Bool} {xs : List α}
    (h : ∀ a ∈ xs, separates a = false) : openPiece separates xs = xs := by
  simp [openPiece, pieces_eq_singleton h]

/-- Splitting a concatenation: the complete pieces of the first part stand, and its open piece goes
on into the second. -/
theorem pieces_append (separates : α → Bool) (xs ys : List α) :
    pieces separates (xs ++ ys) =
      (pieces separates xs).dropLast ++ pieces separates (openPiece separates xs ++ ys) := by
  induction xs with
  | nil => simp [pieces, openPiece]
  | cons a xs ih =>
      have hsplit := dropLast_append_openPiece separates xs
      cases h : separates a with
      | true =>
          rw [List.cons_append, pieces_cons_of_separates h, ih]
          have hlast : openPiece separates (a :: xs) = openPiece separates xs := by
            rw [openPiece, pieces_cons_of_separates h, ← hsplit, ← List.cons_append,
              List.getLast?_concat, Option.getD_some]
          rw [hlast, pieces_cons_of_separates h,
            List.dropLast_cons_of_ne_nil (pieces_ne_nil separates xs), List.cons_append]
      | false =>
          rw [List.cons_append, pieces_cons_of_not_separates h, ih]
          have hcons := pieces_cons_of_not_separates h xs
          -- The element goes to the first piece, which is the open one if there is no other.
          rcases hd : (pieces separates xs).dropLast with _ | ⟨q, qs⟩
          · rw [hd, List.nil_append] at hsplit
            rw [← hsplit, List.modifyHead_cons] at hcons
            have hlast : openPiece separates (a :: xs) = a :: openPiece separates xs := by
              simp [openPiece, hcons]
            rw [hlast, hcons, List.cons_append, pieces_cons_of_not_separates h]
            simp
          · rw [hd, List.cons_append] at hsplit
            rw [← hsplit, List.modifyHead_cons] at hcons
            have hlast : openPiece separates (a :: xs) = openPiece separates xs := by
              rw [openPiece, hcons, ← List.cons_append, List.getLast?_concat, Option.getD_some]
            rw [hlast, hcons, ← List.cons_append, List.dropLast_concat]
            simp

theorem dropLast_pieces_append (separates : α → Bool) (xs ys : List α) :
    (pieces separates (xs ++ ys)).dropLast =
      (pieces separates xs).dropLast ++
        (pieces separates (openPiece separates xs ++ ys)).dropLast := by
  rw [pieces_append, List.dropLast_append_of_ne_nil (pieces_ne_nil _ _)]

theorem openPiece_append (separates : α → Bool) (xs ys : List α) :
    openPiece separates (xs ++ ys) = openPiece separates (openPiece separates xs ++ ys) := by
  rw [openPiece, pieces_append,
    ← dropLast_append_openPiece separates (openPiece separates xs ++ ys), ← List.append_assoc,
    List.getLast?_concat, Option.getD_some]

theorem separates_eq_false_of_mem {separates : α → Bool} {xs p : List α}
    (hp : p ∈ pieces separates xs) : ∀ a ∈ p, separates a = false := by
  induction xs generalizing p with
  | nil =>
      rw [pieces, List.mem_singleton] at hp
      simp [hp]
  | cons b xs ih =>
      cases h : separates b with
      | true =>
          rw [pieces_cons_of_separates h, List.mem_cons] at hp
          rcases hp with rfl | hp
          · simp
          · exact ih hp
      | false =>
          rw [pieces_cons_of_not_separates h] at hp
          rcases hq : pieces separates xs with _ | ⟨q, qs⟩
          · exact absurd hq (pieces_ne_nil _ _)
          · rw [hq, List.modifyHead_cons, List.mem_cons] at hp
            rcases hp with rfl | hp
            · intro a ha
              rcases List.mem_cons.mp ha with rfl | ha
              · exact h
              · exact ih (by simp [hq]) a ha
            · exact ih (by simp [hq, hp])

theorem separates_eq_false_of_mem_openPiece (separates : α → Bool) (xs : List α) :
    ∀ a ∈ openPiece separates xs, separates a = false := by
  have hmem : openPiece separates xs ∈ pieces separates xs := by
    rw [← dropLast_append_openPiece separates xs]
    simp
  exact separates_eq_false_of_mem hmem

theorem pieces_append_cons {separates : α → Bool} {a : α} (h : separates a = true)
    (xs ys : List α) :
    pieces separates (xs ++ a :: ys) = pieces separates xs ++ pieces separates ys := by
  simp only [pieces_eq_splitOnP, List.splitOnP_append_cons xs ys h]

theorem openPiece_append_cons {separates : α → Bool} {a : α} (h : separates a = true)
    (xs ys : List α) : openPiece separates (xs ++ a :: ys) = openPiece separates ys := by
  rw [openPiece, pieces_append_cons h, ← dropLast_append_openPiece separates ys,
    ← List.append_assoc, List.getLast?_concat, Option.getD_some]

/-- What holds of lists without a separator, and of a list if it holds of what follows its first
separator, holds of all lists. -/
@[elab_as_elim]
theorem pieces_induction (separates : α → Bool) {motive : List α → Prop}
    (piece : ∀ xs, (∀ a ∈ xs, separates a = false) → motive xs)
    (cut : ∀ xs a ys, (∀ b ∈ xs, separates b = false) → separates a = true → motive ys →
      motive (xs ++ a :: ys))
    (xs : List α) : motive xs := by
  -- The elements passed since the last separator are kept in front.
  have hall : ∀ ys xs : List α, (∀ a ∈ xs, separates a = false) → motive (xs ++ ys) := by
    intro ys
    induction ys with
    | nil =>
        intro xs hxs
        rw [List.append_nil]
        exact piece xs hxs
    | cons a ys ih =>
        intro xs hxs
        cases ha : separates a with
        | true => exact cut xs a ys hxs ha (ih [] (by simp))
        | false =>
            rw [List.append_cons]
            refine ih (xs ++ [a]) fun b hb ↦ ?_
            rcases List.mem_append.mp hb with hb | hb
            · exact hxs b hb
            · rwa [List.mem_singleton.mp hb]
  exact hall xs [] (by simp)

/-- Stripping takes away what surrounds two elements that stay. -/
theorem strip_append_cons {p : α → Bool} {xs ys : List α} (hxs : ∀ x ∈ xs, p x = true)
    (hys : ∀ y ∈ ys, p y = true) {a b : α} (ha : p a = false) (hb : p b = false) (zs : List α) :
    strip p (xs ++ a :: (zs ++ b :: ys)) = a :: (zs ++ [b]) := by
  have hys' : ∀ y ∈ ys.reverse, p y = true := fun y hy ↦ hys y (List.mem_reverse.mp hy)
  have hrev : (a :: (zs ++ b :: ys)).reverse = ys.reverse ++ b :: (zs.reverse ++ [a]) := by simp
  rw [strip, List.dropWhile_append_of_pos hxs, List.dropWhile_cons_of_neg (by simp [ha]),
    dropEndWhile, hrev, List.dropWhile_append_of_pos hys',
    List.dropWhile_cons_of_neg (by simp [hb])]
  simp

theorem dropEndWhile_eq_rdropWhile (p : α → Bool) (xs : List α) :
    dropEndWhile p xs = xs.rdropWhile p := rfl

theorem strip_strip (p : α → Bool) (xs : List α) : strip p (strip p xs) = strip p xs := by
  have hhead : (strip p xs).dropWhile p = strip p xs := by
    cases hs : strip p xs with
    | nil => rfl
    | cons a rest =>
        -- What is left starts with the first element that is not dropped.
        obtain ⟨tail, htail⟩ : strip p xs <+: xs.dropWhile p := List.rdropWhile_prefix p _
        have hfirst := List.head?_dropWhile_not p xs
        rw [← htail, hs] at hfirst
        exact List.dropWhile_cons_of_neg (by simpa using hfirst)
  have hlast : dropEndWhile p (strip p xs) = strip p xs :=
    List.rdropWhile_idempotent p (xs.dropWhile p)
  rw [strip, hhead, hlast]

/-- Elements that are dropped in front of a list do not matter. -/
theorem strip_append_left {p : α → Bool} {xs : List α} (h : ∀ x ∈ xs, p x = true) (ys : List α) :
    strip p (xs ++ ys) = strip p ys := by
  rw [strip, List.dropWhile_append_of_pos h, strip]

theorem dropEndWhile_append_right {p : α → Bool} {ys : List α} (h : ∀ y ∈ ys, p y = true)
    (xs : List α) : dropEndWhile p (xs ++ ys) = dropEndWhile p xs := by
  have hys : ∀ y ∈ ys.reverse, p y = true := fun y hy ↦ h y (List.mem_reverse.mp hy)
  rw [dropEndWhile, List.reverse_append, List.dropWhile_append_of_pos hys, dropEndWhile]

/-- Elements that are dropped behind a list do not matter. -/
theorem strip_append_right {p : α → Bool} {ys : List α} (h : ∀ y ∈ ys, p y = true)
    (xs : List α) : strip p (xs ++ ys) = strip p xs := by
  have hys : ys.dropWhile p = [] := List.dropWhile_eq_nil_iff.mpr h
  rw [strip, strip, List.dropWhile_append]
  cases hxs : xs.dropWhile p with
  | nil => simp [hys]
  | cons x rest => exact dropEndWhile_append_right h (x :: rest)

theorem strip_infix (p : α → Bool) (xs : List α) : strip p xs <:+: xs :=
  (List.rdropWhile_prefix p (xs.dropWhile p)).isInfix.trans (List.dropWhile_suffix p).isInfix

theorem strip_eq_nil_iff {p : α → Bool} {xs : List α} :
    strip p xs = [] ↔ ∀ a ∈ xs, p a = true := by
  constructor
  · intro hnil a ha
    have hdropped := List.rdropWhile_eq_nil_iff.mp hnil
    rw [← List.takeWhile_append_dropWhile (p := p) (l := xs), List.mem_append] at ha
    rcases ha with ha | ha
    · exact List.mem_takeWhile_imp ha
    · exact hdropped a ha
  · intro hall
    rw [strip, List.dropWhile_eq_nil_iff.mpr hall]
    rfl

theorem strip_dropEndWhile (p : α → Bool) (xs : List α) :
    strip p (dropEndWhile p xs) = strip p xs := by
  have hdropped : ∀ x ∈ xs.rtakeWhile p, p x = true := fun x hx ↦ List.mem_rtakeWhile_imp hx
  have hsplit := strip_append_right hdropped (dropEndWhile p xs)
  rwa [dropEndWhile_eq_rdropWhile, List.rdropWhile_append_rtakeWhile, eq_comm] at hsplit

theorem dropEndWhile_append_cons {p : α → Bool} {a : α} (h : p a = false) (xs ys : List α) :
    dropEndWhile p (xs ++ a :: ys) = xs ++ a :: dropEndWhile p ys := by
  have ha : (a :: xs.reverse).dropWhile p = a :: xs.reverse :=
    List.dropWhile_cons_of_neg (by simp [h])
  have hreverse : (xs ++ a :: ys).reverse = ys.reverse ++ a :: xs.reverse := by simp
  rw [dropEndWhile, hreverse, List.dropWhile_append, dropEndWhile]
  cases hys : ys.reverse.dropWhile p with
  | nil => simp [ha]
  | cons y rest => simp

theorem eq_false_of_getLast?_dropEndWhile {p : α → Bool} {xs : List α} {a : α}
    (h : (dropEndWhile p xs).getLast? = some a) : p a = false := by
  rw [dropEndWhile_eq_rdropWhile] at h
  obtain ⟨hne, rfl⟩ := List.mem_getLast?_eq_getLast h
  simpa using List.rdropWhile_last_not p xs hne

theorem head?_dropEndWhile {p : α → Bool} {xs : List α} {a : α}
    (h : xs.head? = some a) (ha : p a = false) :
    (dropEndWhile p xs).head? = some a := by
  obtain ⟨tail, htail⟩ := List.rdropWhile_prefix p xs
  rw [dropEndWhile_eq_rdropWhile]
  cases hkept : xs.rdropWhile p with
  | nil =>
      have hall := List.rdropWhile_eq_nil_iff.mp hkept a (List.mem_of_head? h)
      rw [ha] at hall
      cases hall
  | cons b rest =>
      rw [← htail, hkept] at h
      exact h

end CodeMentor.Text

namespace CodeMentor

open CodeMentor.Text

theorem trim_trim (s : String) : trim (trim s) = trim s := by
  rw [trim, trim, String.toList_ofList, strip_strip]

theorem trimEnd_eq_empty_iff {s : String} : trimEnd s = "" ↔ blank s = true := by
  rw [blank, String.isEmpty_iff, trim, trimEnd, String.ofList_eq_empty_iff,
    String.ofList_eq_empty_iff, strip_eq_nil_iff, dropEndWhile_eq_rdropWhile]
  exact List.rdropWhile_eq_nil_iff

theorem trimEnd_append_newline (s : String) : trimEnd (s ++ "\n") = trimEnd s := by
  have hnewline : ∀ c ∈ "\n".toList, isSpace c = true := by simp [isSpace]
  rw [trimEnd, String.toList_append, dropEndWhile_append_right hnewline, trimEnd]

theorem trimEnd_trimEnd (s : String) : trimEnd (trimEnd s) = trimEnd s := by
  rw [trimEnd, trimEnd, String.toList_ofList, dropEndWhile_eq_rdropWhile,
    dropEndWhile_eq_rdropWhile, List.rdropWhile_idempotent]

theorem trimmed?_eq_some_iff {s t : String} : trimmed? s = some t ↔ t = trim s ∧ t ≠ "" := by
  rw [trimmed?]
  split
  next hempty =>
    have htrim : trim s = "" := String.isEmpty_iff.mp hempty
    simp [htrim]
  next hempty =>
    have htrim : trim s ≠ "" := fun h ↦ hempty (String.isEmpty_iff.mpr h)
    constructor
    · rintro ⟨⟩
      exact ⟨rfl, htrim⟩
    · rintro ⟨rfl, -⟩
      rfl

theorem getLast?_dropEndChar (s : String) (c : Char) :
    (dropEndChar s c).toList.getLast? ≠ some c := by
  intro hlast
  rw [dropEndChar, String.toList_ofList] at hlast
  simpa using eq_false_of_getLast?_dropEndWhile hlast

theorem unlines_append (a b : List String) : unlines (a ++ b) = unlines a ++ unlines b := by
  simp [unlines]

theorem unlines_cons (line : String) (rest : List String) :
    unlines (line :: rest) = line ++ "\n" ++ unlines rest := by
  simp [unlines, String.join_cons]

theorem startsWith_iff {s head : String} : startsWith s head = true ↔ head.toList <+: s.toList := by
  rw [startsWith, Option.isSome_iff_exists]
  simp only [after?_eq_some_iff]
  constructor
  · rintro ⟨rest, hrest⟩
    exact ⟨rest, hrest.symm⟩
  · rintro ⟨rest, hrest⟩
    exact ⟨rest, hrest.symm⟩

end CodeMentor
