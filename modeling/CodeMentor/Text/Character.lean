import CodeMentor.Text.Unicode.Addition
import CodeMentor.Text.Unicode.Alphabetic
import CodeMentor.Text.Unicode.Mark
import CodeMentor.Text.Unicode.Number
import CodeMentor.Text.Unicode.Unprintable

/-!
# Classes of characters

Four classes decide how source text and user input are read: white space, word characters,
alphanumeric characters, and characters that are written as an escape in quoted text.
-/

namespace CodeMentor.Text

/-- White space, by the Unicode property White_Space. -/
def isSpace (c : Char) : Bool :=
  let n := c.toNat
  (9 ≤ n && n ≤ 13) || n == 0x20 || n == 0x85 || n == 0xA0 || n == 0x1680
    || (0x2000 ≤ n && n ≤ 0x200A) || n == 0x2028 || n == 0x2029 || n == 0x202F
    || n == 0x205F || n == 0x3000

/-- The two blanks that indent a line. -/
def isIndent (c : Char) : Bool :=
  c == ' ' || c == '\t'

/-- Punctuation that connects words, above the ASCII range. -/
def isConnector (n : Nat) : Bool :=
  n == 0x203F || n == 0x2040 || n == 0x2054 || n == 0xFE33 || n == 0xFE34
    || (0xFE4D ≤ n && n ≤ 0xFE4F) || n == 0xFF3F

/-- The characters of a word: letters, marks, decimal digits, connectors and joiners. The class
follows version 16 of the standard, so what version 17 added is in no word. -/
def isWord (c : Char) : Bool :=
  let n := c.toNat
  if n < 0x80 then c.isAlphanum || c == '_'
  else
    (Unicode.alphabetic.has n || Unicode.mark.has n || Unicode.decimalDigit.has n
      || isConnector n || n == 0x200C || n == 0x200D) && !Unicode.addition.has n

def isAlphanumeric (c : Char) : Bool :=
  let n := c.toNat
  if n < 0x80 then c.isAlphanum
  else Unicode.alphabetic.has n || Unicode.decimalDigit.has n || Unicode.otherNumber.has n

/-- The characters of a keyword or name when words are counted. -/
def isName (c : Char) : Bool :=
  isAlphanumeric c || c == '_'

/-- Characters that quoted text shows only by their number. -/
def isHidden (c : Char) : Bool :=
  let n := c.toNat
  if n < 0x80 then n < 0x20 || n == 0x7F
  else Unicode.unprintable.has n || Unicode.extendingMark.has n

theorem isWord_eq_isName_of_ascii {c : Char} (h : c.toNat < 0x80) : isWord c = isName c := by
  simp [isWord, isName, isAlphanumeric, h]

end CodeMentor.Text
