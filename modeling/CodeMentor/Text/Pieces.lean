import CodeMentor.Text.Character

/-!
# Cutting and searching sequences

Splitting at separators, trimming at both ends, and looking for one sequence inside another.
Everything is stated on lists, so the same functions serve characters and bytes; the versions on
`String` are at the end.
-/

namespace CodeMentor.Text

/-- The pieces between separators. There is always one more piece than there are separators. -/
def pieces {α : Type} (separates : α → Bool) : List α → List (List α)
  | [] => [[]]
  | a :: rest =>
    match separates a, pieces separates rest with
    | true, ps => [] :: ps
    | false, [] => [[a]]
    | false, p :: ps => (a :: p) :: ps

theorem pieces_ne_nil {α : Type} (separates : α → Bool) (xs : List α) :
    pieces separates xs ≠ [] := by
  induction xs with
  | nil => simp [pieces]
  | cons a rest ih =>
    simp only [pieces]
    split <;> simp

/-- Joining the pieces with what separated them gives back the whole: here, for one separator. -/
theorem intercalate_pieces {α : Type} [DecidableEq α] (s : α) (xs : List α) :
    [s].intercalate (pieces (· == s) xs) = xs := by
  induction xs with
  | nil => simp [pieces, List.intercalate]
  | cons a rest ih =>
    simp only [pieces]
    rcases hp : pieces (· == s) rest with _ | ⟨p, ps⟩
    · exact absurd hp (pieces_ne_nil _ _)
    · rw [hp] at ih
      by_cases ha : a = s
      · subst ha
        simp only [beq_self_eq_true]
        simpa [List.intercalate, List.intersperse] using ih
      · have hb : (a == s) = false := by simpa using ha
        simp only [hb]
        cases ps with
        | nil => simpa [List.intercalate] using ih
        | cons q qs => simpa [List.intercalate, List.intersperse] using ih

def dropEndWhile {α : Type} (p : α → Bool) (xs : List α) : List α :=
  (xs.reverse.dropWhile p).reverse

def strip {α : Type} (p : α → Bool) (xs : List α) : List α :=
  dropEndWhile p (xs.dropWhile p)

/-- What follows `head` in `xs`, if `xs` starts with it. -/
def after? {α : Type} [BEq α] : (head xs : List α) → Option (List α)
  | [], xs => some xs
  | _ :: _, [] => none
  | h :: hs, x :: xs => if h == x then after? hs xs else none

theorem after?_eq_some_iff {α : Type} [BEq α] [LawfulBEq α] {head xs rest : List α} :
    after? head xs = some rest ↔ xs = head ++ rest := by
  induction head generalizing xs with
  | nil => simp [after?]
  | cons h hs ih =>
    cases xs with
    | nil => simp [after?]
    | cons x xs =>
      by_cases hx : h = x
      · subst hx; simp [after?, ih]
      · have hb : (h == x) = false := by simpa using hx
        simp [after?, hb, Ne.symm hx]

def occursIn {α : Type} [BEq α] (part : List α) : List α → Bool
  | [] => part.isEmpty
  | x :: xs => (after? part (x :: xs)).isSome || occursIn part xs

/-- How many pieces of `text` between non-name characters are exactly `word`. -/
def wholeWords (text word : List Char) : Nat :=
  (pieces (fun c => !isName c) text).countP (· == word)

/-- The number of whole words in the 32 bits of a counter. -/
def countWord (text word : List Char) : UInt32 :=
  .ofNat (wholeWords text word)

/-- The lines of a text: pieces between newlines, without the empty piece after a final newline. -/
def rawLines (text : List Char) : List (List Char) :=
  let ps := pieces (· == '\n') text
  if ps.getLast? == some [] then ps.dropLast else ps

def dropReturn (line : List Char) : List Char :=
  if line.getLast? == some '\r' then line.dropLast else line

/-- The lines of a text, where a carriage return before a newline belongs to the line break. -/
def lines (text : List Char) : List (List Char) :=
  let ps := pieces (· == '\n') text
  let closed := ps.dropLast.map dropReturn
  match ps.getLast? with
  | some (c :: last) => closed ++ [c :: last]
  | _ => closed

def isBlank (text : List Char) : Bool :=
  text.all isSpace

end CodeMentor.Text

namespace CodeMentor

def trim (s : String) : String :=
  String.ofList (Text.strip Text.isSpace s.toList)

def trimEnd (s : String) : String :=
  String.ofList (Text.dropEndWhile Text.isSpace s.toList)

def blank (s : String) : Bool :=
  (trim s).isEmpty

/-- The text without white space at its ends, if anything is left. -/
def trimmed? (s : String) : Option String :=
  let t := trim s
  if t.isEmpty then none else some t

def contains (s part : String) : Bool :=
  Text.occursIn part.toList s.toList

def stripHead? (head s : String) : Option String :=
  (Text.after? head.toList s.toList).map String.ofList

def startsWith (s head : String) : Bool :=
  (Text.after? head.toList s.toList).isSome

/-- Lines, each with a newline at its end. -/
def unlines (lines : List String) : String :=
  String.join (lines.map (· ++ "\n"))

/-- The text without the given character at its end, however often it stands there. -/
def dropEndChar (s : String) (c : Char) : String :=
  String.ofList (Text.dropEndWhile (· == c) s.toList)

end CodeMentor
