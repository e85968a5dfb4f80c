/-!
# Sets of code points

A property of the Unicode standard is a list of closed ranges of code points. Longer tables are kept
as lines of hexadecimal numbers: a blank divides rows, and a hyphen divides the numbers of a row.
-/

namespace CodeMentor.Text.Unicode

/-- Closed ranges of code points, in ascending order. -/
abbrev Ranges := List (Nat × Nat)

/-- Whether a code point lies in one of the ranges. -/
def Ranges.has (table : Ranges) (point : Nat) : Bool :=
  table.any fun range => range.1 ≤ point && point ≤ range.2

/-- The value of a hexadecimal digit in lower case. -/
def digitOf (c : Char) : Nat :=
  if c ≤ '9' then c.toNat - '0'.toNat else c.toNat - 'a'.toNat + 10

/-- The rows of a line, after the numbers of an open row and a part of the next number. -/
def readRows (row : List Nat) (number : Nat) : List Char → List (List Nat)
  | [] => [row ++ [number]]
  | c :: rest =>
    if c = ' ' then (row ++ [number]) :: readRows [] 0 rest
    else if c = '-' then readRows (row ++ [number]) 0 rest
    else readRows row (number * 16 + digitOf c) rest

/-- The rows of a table. -/
def rows (lines : List String) : List (List Nat) :=
  lines.flatMap fun line => readRows [] 0 line.toList

/-- The ranges of a table; a row with one number is a range of one code point. -/
def ranges (lines : List String) : Ranges :=
  (rows lines).filterMap fun
    | [point] => some (point, point)
    | [first, last] => some (first, last)
    | _ => none

end CodeMentor.Text.Unicode
