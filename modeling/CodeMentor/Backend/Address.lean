import CodeMentor.Json.Parser
import CodeMentor.Text.Pieces

/-!
# Numeric addresses

Addresses of hosts in their two lengths. The short one is read leniently, in any base and with fewer
than four parts, and written as four decimal numbers; the long one is read strictly and written with
its longest run of zeros left out.
-/

namespace CodeMentor.Address

open CodeMentor.Text

/-- The digits of a number in some base up to sixteen. -/
def number? (base : Nat) (digits : List Char) : Option Nat :=
  digits.foldlM (fun n c => do
    let d ← Json.hexValue? c
    if d < base then some (n * base + d) else none) 0

/-- A part of a short address: hexadecimal behind `0x`, octal behind `0`, else decimal. -/
def part? : List Char → Option Nat
  | [] => none
  | '0' :: 'x' :: digits => number? 16 digits
  | '0' :: digits => number? 8 digits
  | digits => number? 10 digits

/-- The short address that the parts between points stand for. The last part fills all places that
are left. -/
def short? (labels : List (List Char)) : Option Nat := do
  let parts ← labels.mapM part?
  let last ← parts.getLast?
  let front := parts.dropLast
  if 3 < front.length || front.any (255 < ·) || Nat.pow 256 (4 - front.length) ≤ last then none
  else
    let high := front.foldl (fun n part => n * 256 + part) 0
    return high * Nat.pow 256 (4 - front.length) + last

def shortText (value : Nat) : String :=
  s!"{value / 0x1000000}.{value / 0x10000 % 256}.{value / 256 % 256}.{value % 256}"

/-- Whether a label is meant as a number, so that its host has to be an address. -/
def isNumeric (label : List Char) : Bool :=
  !label.isEmpty && label.all Char.isDigit ||
    match label with
    | '0' :: 'x' :: digits => (number? 16 digits).isSome
    | _ => false

/-- A group of a long address: up to four hexadecimal digits. -/
def group? (digits : List Char) : Option Nat :=
  if digits.isEmpty || 4 < digits.length then none else number? 16 digits

/-- A number below 256 in decimal digits without superfluous zeros. -/
def octet? (digits : List Char) : Option Nat := do
  let n ← number? 10 digits
  if digits.isEmpty || n ≠ 0 && digits.head? == some '0' || n = 0 && 1 < digits.length || 255 < n
  then none
  else return n

/-- The two groups that four decimal numbers stand for. -/
def octets? (text : List Char) : Option (List Nat) := do
  match ← (pieces (· == '.') text).mapM octet? with
  | [a, b, c, d] => return [a * 256 + b, c * 256 + d]
  | _ => none

/-- The groups of one side of a long address. Only at the very end of the address four decimal
numbers may stand for two groups. -/
def groups? (isEnd : Bool) (text : List Char) : Option (List Nat) :=
  if text.isEmpty then some []
  else
    let labels := pieces (· == ':') text
    let last := labels.getLastD []
    if isEnd && last.contains '.' then do
      return (← labels.dropLast.mapM group?) ++ (← octets? last)
    else labels.mapM group?

/-- The text before and after the first two colons in a row. -/
def splitGap : List Char → Option (List Char × List Char)
  | ':' :: ':' :: rest => some ([], rest)
  | c :: rest => (splitGap rest).map fun (before, after) => (c :: before, after)
  | [] => none

/-- The eight groups of a long address. A gap between two colons stands for one or more zeros. -/
def long? (text : List Char) : Option (List Nat) := do
  match splitGap text with
  | some (before, after) =>
    let front ← groups? false before
    let back ← groups? true after
    let known := front.length + back.length
    if known ≤ 7 then return front ++ List.replicate (8 - known) 0 ++ back else none
  | none =>
    let groups ← groups? true text
    if groups.length = 8 then return groups else none

def zeros (groups : List Nat) : Nat :=
  (groups.takeWhile (· == 0)).length

/-- Where the first longest run of zeros starts, and how long it is. -/
def longestZeros : List Nat → Nat × Nat
  | [] => (0, 0)
  | group :: rest =>
    let (start, length) := longestZeros rest
    if length ≤ zeros (group :: rest) then (0, zeros (group :: rest)) else (start + 1, length)

def groupsText (groups : List Nat) : List Char :=
  [':'].intercalate (groups.map (Nat.toDigits 16))

/-- The text of a long address: a run of two or more zeros is left out. -/
def longText (groups : List Nat) : String :=
  let (start, length) := longestZeros groups
  String.ofList (if length < 2 then groupsText groups
    else groupsText (groups.take start) ++ ':' :: ':' :: groupsText (groups.drop (start + length)))

end CodeMentor.Address
