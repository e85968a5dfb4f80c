import CodeMentor.Text.Pieces

/-!
# Searching source text

A pattern is tried at one place of a text. It sees the character before the place, for word
boundaries and line starts, and the text from the place on; when it matches, it gives what it
captured and the text that follows. All matches of a text are found from left to right: a match
starts at the first place where the pattern holds, and the search goes on behind it.
-/

namespace CodeMentor.Source

open CodeMentor.Text

/-- A pattern with captures of type `α`. -/
abbrev Pattern (α : Type) := (before : Option Char) → (text : List Char) → Option (α × List Char)

/-- The captures of all matches, after passing over the next `skip` characters, which belong to the
match before. -/
def Pattern.scan {α : Type} (p : Pattern α) : (skip : Nat) → (before : Option Char) →
    List Char → List α
  | _, _, [] => []
  | skip + 1, _, c :: rest => scan p skip (some c) rest
  | 0, before, c :: rest =>
    match p before (c :: rest) with
    | some (found, left) => found :: scan p (rest.length - left.length) (some c) rest
    | none => scan p 0 (some c) rest

def Pattern.findAll {α : Type} (p : Pattern α) (text : List Char) : List α :=
  p.scan 0 none text

/-- The place is not inside or right behind a word. -/
def wordMayStart (before : Option Char) : Bool :=
  !before.any isWord

def lineStarts (before : Option Char) : Bool :=
  before == none || before == some '\n'

/-- A word: one or more word characters, as many as there are. -/
def word? (text : List Char) : Option (List Char × List Char) :=
  match text.span isWord with
  | ([], _) => none
  | (w, rest) => some (w, rest)

def spaces (text : List Char) : List Char :=
  text.dropWhile isSpace

/-- The text behind one or more characters that satisfy `p`. -/
def some? (p : Char → Bool) : List Char → Option (List Char)
  | c :: rest => if p c then some (rest.dropWhile p) else none
  | [] => none

def spaces? : List Char → Option (List Char) :=
  some? isSpace

def keyword? (keyword : String) (text : List Char) : Option (List Char) :=
  after? keyword.toList text

def one? (p : Char → Bool) : List Char → Option (List Char)
  | c :: rest => if p c then some rest else none
  | [] => none

def char? (c : Char) : List Char → Option (List Char) :=
  one? (· == c)

/-- What stands between a place and the rest of the text behind it. -/
def upTo (text rest : List Char) : List Char :=
  text.take (text.length - rest.length)

def isQuote (c : Char) : Bool :=
  c == '\'' || c == '"'

/-- The text behind a non-empty quotation that stays on its line. -/
def quotation? : List Char → Option (List Char)
  | [] => none
  | q :: rest =>
    if isQuote q then
      match rest.span fun c => !isQuote c && c != '\n' with
      | (_ :: _, q' :: left) => if isQuote q' then some left else none
      | _ => none
    else none

/-- The text behind a parameter list: a bracketed part without inner brackets. -/
def parameters? (text : List Char) : Option (List Char) :=
  match char? '(' text with
  | none => none
  | some rest => char? ')' (rest.dropWhile fun c => c != '(' && c != ')')

end CodeMentor.Source
