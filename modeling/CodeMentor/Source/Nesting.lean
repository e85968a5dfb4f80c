import CodeMentor.Source.Language

/-!
# Nesting depth

Python nests by indentation, the other languages by braces. Braces inside string literals and
comments do not count: a scanner with four modes lists the braces that stand in code, and the depth
is the deepest level that this list reaches when a closing brace at level zero is ignored. Levels
and widths are counted in 32 bits and wrap around.
-/

namespace CodeMentor.Source

open CodeMentor.Text

inductive Mode where
  | code
  | literal (quote : Char)
  | lineComment
  | blockComment
deriving DecidableEq, Repr

inductive Brace where
  | opening
  | closing
deriving DecidableEq, Repr

/-- The braces that stand in code, in order. A backslash in a literal takes the next character with
it, and a line break ends a literal unless its quote is a backtick. -/
def codeBraces : Mode → List Char → List Brace
  | _, [] => []
  | .code, '/' :: '/' :: rest => codeBraces .lineComment rest
  | .code, '/' :: '*' :: rest => codeBraces .blockComment rest
  | .code, c :: rest =>
    if c = '"' ∨ c = '\'' ∨ c = '\x60' then codeBraces (.literal c) rest
    else if c = '\x7b' then .opening :: codeBraces .code rest
    else if c = '\x7d' then .closing :: codeBraces .code rest
    else codeBraces .code rest
  | .literal quote, '\\' :: _ :: rest => codeBraces (.literal quote) rest
  | .literal quote, c :: rest =>
    if c = quote ∨ c = '\n' ∧ quote ≠ '\x60' then codeBraces .code rest
    else codeBraces (.literal quote) rest
  | .lineComment, c :: rest =>
    if c = '\n' then codeBraces .code rest else codeBraces .lineComment rest
  | .blockComment, '*' :: '/' :: rest => codeBraces .code rest
  | .blockComment, _ :: rest => codeBraces .blockComment rest

/-- The greatest level reached, given the current level and the greatest so far. -/
def deepestFrom (level deepest : UInt32) : List Brace → UInt32
  | [] => deepest
  | .opening :: rest => deepestFrom (level + 1) (max deepest (level + 1)) rest
  | .closing :: rest => deepestFrom (if level = 0 then 0 else level - 1) deepest rest

def deepest (braces : List Brace) : UInt32 :=
  deepestFrom 0 0 braces

def braceDepth (text : List Char) : UInt32 :=
  deepest (codeBraces .code text)

/-- The width of a line's indentation; a tab is as wide as four blanks. -/
def indentWidth (line : List Char) : UInt32 :=
  (line.takeWhile isIndent).foldl (fun width c => width + if c = '\t' then 4 else 1) 0

/-- The lines of a text that hold something other than white space. -/
def filledLines (text : List Char) : List (List Char) :=
  (lines text).filter (!isBlank ·)

/-- The nesting depth by indentation, in levels of four columns. -/
def indentDepth (text : List Char) : UInt32 :=
  ((filledLines text).map fun line => indentWidth line / 4).max?.getD 0

def nestingDepth (language : Language) (code : String) : UInt32 :=
  match language with
  | .python => indentDepth code.toList
  | _ => braceDepth code.toList

end CodeMentor.Source
