import CodeMentor.Source.Language

/-!
# Counting lines of code and comment

Each line is blank, code or comment. A scanner follows string literals and block comments from line
to line; a line that cannot hold the start of either is classified by its first characters alone.
-/

namespace CodeMentor.Source.LineCount

open CodeMentor.Text

/-- The marks that delimit comments and literals in a language. -/
structure Marks where
  /-- Starts a comment up to the end of the line. -/
  lineComment : List Char
  /-- Whether there are block comments, which never nest. -/
  blocks : Bool
  /-- Open and close ordinary literals. -/
  quotes : List (List Char)
  /-- Open and close documentation literals. -/
  docQuotes : List (List Char)
  /-- Open and close literals without escapes. -/
  verbatim : List (List Char × List Char)

def blockOpen : List Char := ['/', '*']

def blockClose : List Char := ['*', '/']

def marks : Language → Marks
  | .python =>
    { lineComment := ['#'], blocks := false, quotes := [['"'], ['\'']]
      docQuotes := [['"', '"', '"'], ['\'', '\'', '\'']], verbatim := [] }
  | .c =>
    { lineComment := ['/', '/'], blocks := true, quotes := [['"']], docQuotes := []
      verbatim := [] }
  | .cpp =>
    { lineComment := ['/', '/'], blocks := true, quotes := [['"']], docQuotes := []
      verbatim := [(['R', '"', '('], [')', '"'])] }
  | .javascript =>
    { lineComment := ['/', '/'], blocks := true, quotes := [['"'], ['\''], ['\x60']]
      docQuotes := [], verbatim := [] }

/-- The texts without which a line can start neither a literal nor a block comment. -/
def Marks.important (m : Marks) : List (List Char) :=
  m.quotes ++ if m.blocks then [blockOpen] else []

/-- What is open between two characters. -/
structure State where
  /-- The text that closes the open literal. -/
  quote : Option (List Char)
  /-- Whether the last literal opened takes no escapes. -/
  verbatim : Bool
  comment : Bool
deriving DecidableEq, Repr

def State.start : State := ⟨none, false, false⟩

def starts (text mark : List Char) : Bool :=
  (after? mark text).isSome

/-- A literal that the text opens: its opening mark, what closes it, and whether it is verbatim.
Documentation literals come first, ordinary ones last. -/
def Marks.opened? (m : Marks) (text : List Char) : Option (List Char × List Char × Bool) :=
  ((m.docQuotes.find? (starts text)).map fun q => (q, q, false)).or
    (((m.verbatim.find? fun v => starts text v.1).map fun v => (v.1, v.2, true)).or
      ((m.quotes.find? (starts text)).map fun q => (q, q, false)))

def Marks.escapes (m : Marks) : List Char → Bool
  | '\\' :: rest => m.quotes.any (starts rest)
  | _ => false

/-- What one place of a line does: the state after it and how many characters it takes, or the end
of what matters on the line. -/
def Marks.step (m : Marks) (s : State) (text : List Char) : Option (State × Nat) :=
  match s.quote with
  | some close =>
    if starts text close then some ({ s with quote := none }, close.length)
    else if !s.verbatim && m.escapes text then some (s, 2)
    else some (s, 1)
  | none =>
    if !s.verbatim && m.escapes text then some (s, 2)
    else if m.blocks && s.comment && starts text blockClose then
      some ({ s with comment := false }, 2)
    else
      match if s.comment then none else m.opened? text with
      | some (opening, close, verbatim) =>
        some ({ s with quote := some close, verbatim }, opening.length)
      | none =>
        if m.blocks && starts text blockOpen then some ({ s with comment := true }, 2)
        else if !s.comment && starts text m.lineComment then none
        else some (s, 1)

/-- The state behind a line, after passing over `skip` characters. -/
def Marks.scan (m : Marks) : (skip : Nat) → State → List Char → State
  | _, s, [] => s
  | skip + 1, s, _ :: rest => m.scan skip s rest
  | 0, s, c :: rest =>
    match m.step s (c :: rest) with
    | none => s
    | some (s, taken) => m.scan (taken - 1) s rest

inductive Kind where
  | blank
  | code
  | comment
deriving DecidableEq, Repr

def isAsciiSpace (c : Char) : Bool :=
  c == ' ' || (9 ≤ c.toNat && c.toNat ≤ 13)

def Marks.classify (m : Marks) (s : State) (line : List Char) : Kind × State :=
  let trimmed := strip isAsciiSpace line
  let leading := starts trimmed m.lineComment
  if s.quote.isNone && !s.comment && trimmed.isEmpty then (.blank, s)
  else if s.quote.isNone && !s.comment && !m.important.any (occursIn · line) then
    (if leading then .comment else .code, s)
  else
    let after := m.scan 0 s line
    let opens := m.blocks && starts trimmed blockOpen
    let closes := starts trimmed.reverse blockClose.reverse
    let comment := after.quote.isNone
      && (s.comment || leading || opens && (closes || after.comment))
    (if comment then .comment else .code, after)

def Marks.kinds (m : Marks) : State → List (List Char) → List Kind
  | _, [] => []
  | s, line :: rest =>
    let (kind, s) := m.classify s line
    kind :: m.kinds s rest

def kinds (language : Language) (code : String) : List Kind :=
  (marks language).kinds .start (rawLines code.toList)

/-- The number of lines that are not blank. -/
def filled (language : Language) (code : String) : Nat :=
  (kinds language code).countP (· != .blank)

def comments (language : Language) (code : String) : Nat :=
  (kinds language code).countP (· == .comment)

end CodeMentor.Source.LineCount
