import CodeMentor.Text.Unicode.Composition

/-!
# Composed text

Two texts that look the same have one composed form: every character is taken apart, marks are put
into the order of their classes, and what can be composed is composed again. Texts are lists of code
points here. Syllables of the Korean alphabet are composed by arithmetic, everything else by table.
-/

namespace CodeMentor.Text

/-- The class by which a mark is ordered; zero for a character that marks stand on. -/
def combiningClass (point : Nat) : Nat :=
  (Unicode.combiningClasses.findSome? fun
    | [first, last, order] => if first ≤ point ∧ point ≤ last then some order else none
    | _ => none).getD 0

namespace Syllable

def base : Nat := 0xAC00

def leads : Nat := 0x1100

def vowels : Nat := 0x1161

/-- The place before the first trailing consonant, which stands for none. -/
def tails : Nat := 0x11A7

def leadCount : Nat := 19

def vowelCount : Nat := 21

/-- How many trailing consonants there are, with none among them. -/
def tailCount : Nat := 28

def count : Nat := leadCount * vowelCount * tailCount

def split? (point : Nat) : Option (List Nat) :=
  let index := point - base
  if point < base ∨ count ≤ index then none
  else
    let front := [leads + index / (vowelCount * tailCount), vowels + index / tailCount % vowelCount]
    some (if index % tailCount = 0 then front else front ++ [tails + index % tailCount])

/-- The syllable of a consonant and a vowel, or of a syllable without a trailing consonant and such
a consonant. -/
def join? (first second : Nat) : Option Nat :=
  let lead := first - leads
  let vowel := second - vowels
  let index := first - base
  let tail := second - tails
  if leads ≤ first ∧ lead < leadCount ∧ vowels ≤ second ∧ vowel < vowelCount then
    some (base + (lead * vowelCount + vowel) * tailCount)
  else if base ≤ first ∧ index < count ∧ index % tailCount = 0 ∧
      tails < second ∧ tail < tailCount then
    some (first + tail)
  else none

end Syllable

def compose? (first second : Nat) : Option Nat :=
  Syllable.join? first second <|> Unicode.composites.findSome? fun
    | [composite, a, b] => if a = first ∧ b = second then some composite else none
    | _ => none

def parts? (point : Nat) : Option (Nat × Nat) :=
  Unicode.composites.findSome? fun
    | [composite, a, b] => if composite = point then some (a, b) else none
    | _ => none

/-- The characters that one is ultimately composed of, with the marks taken off one by one. -/
def takeApart : (fuel : Nat) → Nat → List Nat
  | 0, point => [point]
  | fuel + 1, point =>
    match Syllable.split? point, parts? point with
    | some letters, _ => letters
    | none, some (first, mark) => takeApart fuel first ++ [mark]
    | none, none => [point]

/-- How many marks are taken off one character at most. -/
def markLimit : Nat := 8

/-- Put a mark behind the marks before it whose class is not greater. -/
def insertMark (mark : Nat) : List Nat → List Nat
  | [] => [mark]
  | first :: rest =>
    if combiningClass mark < combiningClass first then mark :: first :: rest
    else first :: insertMark mark rest

/-- The characters with every run of marks in order; `marks` is the run that is open. -/
def orderMarks (marks : List Nat) : List Nat → List Nat
  | [] => marks
  | point :: rest =>
    if combiningClass point = 0 then marks ++ point :: orderMarks [] rest
    else orderMarks (insertMark point marks) rest

/-- Compose what follows a base character. The marks between were kept; they hide the base from a
character whose class is not greater than that of the last of them. -/
def composeFrom (base : Nat) (between : List Nat) : List Nat → List Nat
  | [] => base :: between
  | point :: rest =>
    let order := combiningClass point
    let visible : Bool := match between.getLast? with
      | some last => combiningClass last < order
      | none => true
    match if visible then compose? base point else none with
    | some composite => composeFrom composite between rest
    | none =>
      if order = 0 then base :: between ++ composeFrom point [] rest
      else composeFrom base (between ++ [point]) rest

def composeAll : List Nat → List Nat
  | [] => []
  | point :: rest =>
    if combiningClass point = 0 then composeFrom point [] rest else point :: composeAll rest

def composed (points : List Nat) : List Nat :=
  composeAll (orderMarks [] (points.flatMap (takeApart markLimit)))

end CodeMentor.Text
