import CodeMentor.Json.Basic
import CodeMentor.Text.Utf8

/-!
# Reading JSON text

A recursive reader without a limit on nesting. It accepts exactly the JSON grammar: blanks are
space, tab, carriage return and line feed; strings hold no bare control character; numbers have no
superfluous zero. The input is a list of characters with gaps: `none` stands for bytes that are no
character, which only a string may hold. Every function returns what it read and the rest of the
input.
-/

namespace CodeMentor.Json

/-- The input of the reader: characters, and `none` for bytes that are none. -/
abbrev Units := List (Option Char)

def isBlank (c : Char) : Bool :=
  c == ' ' || c == '\n' || c == '\t' || c == '\r'

def skip (s : Units) : Units :=
  s.dropWhile (·.any isBlank)

def hexValue? (c : Char) : Option Nat :=
  if '0' ≤ c ∧ c ≤ '9' then some (c.toNat - 48)
  else if 'a' ≤ c ∧ c ≤ 'f' then some (c.toNat - 87)
  else if 'A' ≤ c ∧ c ≤ 'F' then some (c.toNat - 55)
  else none

def hex4? (a b c d : Option Char) : Option Nat := do
  let a ← a.bind hexValue?
  let b ← b.bind hexValue?
  let c ← c.bind hexValue?
  let d ← d.bind hexValue?
  return ((a * 16 + b) * 16 + c) * 16 + d

/-- The character that a letter stands for after a backslash. -/
def unescape? (c : Char) : Option Char :=
  if c = '"' then some '"'
  else if c = '\\' then some '\\'
  else if c = '/' then some '/'
  else if c = 'b' then some '\x08'
  else if c = 'f' then some '\x0c'
  else if c = 'n' then some '\n'
  else if c = 'r' then some '\r'
  else if c = 't' then some '\t'
  else none

/-- The units of a string after its opening quote, and the input after its closing quote. Half of a
surrogate pair is no character. -/
def readString : Units → Option (Units × Units)
  | [] => none
  | some '"' :: rest => some ([], rest)
  | some '\\' :: some 'u' :: a :: b :: c :: d :: rest =>
    match hex4? a b c d with
    | none => none
    | some unit =>
      if unit < 0xD800 ∨ 0xDFFF < unit then
        (readString rest).map fun (cs, rest) => (some (Char.ofNat unit) :: cs, rest)
      else if unit < 0xDC00 then
        match rest with
        | some '\\' :: some 'u' :: a :: b :: c :: d :: after =>
          match hex4? a b c d with
          | none => none
          | some low =>
            if 0xDC00 ≤ low ∧ low ≤ 0xDFFF then
              let point := 0x10000 + (unit - 0xD800) * 0x400 + (low - 0xDC00)
              (readString after).map fun (cs, rest) => (some (Char.ofNat point) :: cs, rest)
            else (readString after).map fun (cs, rest) => (none :: cs, rest)
        | rest => (readString rest).map fun (cs, rest) => (none :: cs, rest)
      else (readString rest).map fun (cs, rest) => (none :: cs, rest)
  | some '\\' :: e :: rest =>
    match e.bind unescape? with
    | none => none
    | some c => (readString rest).map fun (cs, rest) => (some c :: cs, rest)
  | c :: rest =>
    if c.any fun c => c.toNat < 0x20 || c == '\\' then none
    else (readString rest).map fun (cs, rest) => (c :: cs, rest)

/-- The text of the units, if all of them are characters. -/
def textOf? (units : Units) : Option String :=
  (units.mapM id).map String.ofList

def readDigits (s : Units) : Option (List Char × Units) :=
  match s.span (·.any Char.isDigit) with
  | ([], _) => none
  | (ds, rest) => some (ds.filterMap id, rest)

/-- The integer part of a number: zero alone, or digits that do not start with zero. -/
def readInteger : Units → Option (List Char × Units)
  | some '0' :: c :: rest => if c.any Char.isDigit then none else some (['0'], c :: rest)
  | s => readDigits s

/-- The fraction of a number, with its point; possibly empty. -/
def readFraction : Units → Option (List Char × Units)
  | some '.' :: rest => (readDigits rest).map fun (ds, rest) => ('.' :: ds, rest)
  | s => some ([], s)

def readPower : Units → Option (List Char × Units)
  | some '+' :: rest => (readDigits rest).map fun (ds, rest) => ('+' :: ds, rest)
  | some '-' :: rest => (readDigits rest).map fun (ds, rest) => ('-' :: ds, rest)
  | s => readDigits s

def readExponent : Units → Option (List Char × Units)
  | some 'e' :: rest => (readPower rest).map fun (ds, rest) => ('e' :: ds, rest)
  | some 'E' :: rest => (readPower rest).map fun (ds, rest) => ('E' :: ds, rest)
  | s => some ([], s)

/-- A number without its sign. -/
def readMagnitude (s : Units) : Option (List Char × Units) := do
  let (whole, s) ← readInteger s
  let (fraction, s) ← readFraction s
  let (exponent, s) ← readExponent s
  return (whole ++ fraction ++ exponent, s)

def readNumber : Units → Option (List Char × Units)
  | some '-' :: rest => (readMagnitude rest).map fun (text, rest) => ('-' :: text, rest)
  | s => readMagnitude s

def ofUnits (units : Units) : Json :=
  match textOf? units with
  | some s => .string s
  | none => .unreadable

/-- The object with the members; one whose names are not all texts is unreadable. -/
def ofMembers (members : List (Units × Json)) : Json :=
  match members.mapM fun m => (textOf? m.1).map (·, m.2) with
  | some members => .object members
  | none => .unreadable

mutual

/-- A value at the front of the input, which starts with no blank. -/
def readValue : (fuel : Nat) → Units → Option (Json × Units)
  | 0, _ => none
  | fuel + 1, s =>
    match s with
    | some 'n' :: some 'u' :: some 'l' :: some 'l' :: rest => some (.null, rest)
    | some 't' :: some 'r' :: some 'u' :: some 'e' :: rest => some (.bool true, rest)
    | some 'f' :: some 'a' :: some 'l' :: some 's' :: some 'e' :: rest =>
      some (.bool false, rest)
    | some '"' :: rest => (readString rest).map fun (units, rest) => (ofUnits units, rest)
    | some '[' :: rest =>
      match skip rest with
      | some ']' :: rest => some (.array [], rest)
      | rest => (readItems fuel rest).map fun (items, rest) => (.array items, rest)
    | some '\x7b' :: rest =>
      match skip rest with
      | some '\x7d' :: rest => some (.object [], rest)
      | rest => (readMembers fuel rest).map fun (members, rest) => (ofMembers members, rest)
    | s => (readNumber s).map fun (text, rest) => (.number text, rest)

/-- The items of an array up to and including its closing bracket. -/
def readItems : (fuel : Nat) → Units → Option (List Json × Units)
  | 0, _ => none
  | fuel + 1, s =>
    match readValue fuel s with
    | none => none
    | some (item, rest) =>
      match skip rest with
      | some ']' :: rest => some ([item], rest)
      | some ',' :: rest =>
        (readItems fuel (skip rest)).map fun (items, rest) => (item :: items, rest)
      | _ => none

def readMembers : (fuel : Nat) → Units → Option (List (Units × Json) × Units)
  | 0, _ => none
  | fuel + 1, s =>
    match s with
    | some '"' :: rest =>
      match readString rest with
      | none => none
      | some (name, rest) =>
        match skip rest with
        | some ':' :: rest =>
          match readValue fuel (skip rest) with
          | none => none
          | some (value, rest) =>
            match skip rest with
            | some '\x7d' :: rest => some ([(name, value)], rest)
            | some ',' :: rest =>
              (readMembers fuel (skip rest)).map fun (members, rest) =>
                ((name, value) :: members, rest)
            | _ => none
        | _ => none
    | _ => none

end

/-- The value that the units stand for. Every call of the reader that does not consume a unit is
followed by one that does, so twice the length is enough fuel. -/
def parseUnits? (s : Units) : Option Json :=
  match readValue (2 * s.length + 2) (skip s) with
  | some (value, rest) => if (skip rest).isEmpty then some value else none
  | none => none

def parse? (text : String) : Option Json :=
  parseUnits? (text.toList.map some)

def parseBytes? (bytes : List UInt8) : Option Json :=
  parseUnits? (Text.Utf8.units bytes)

end CodeMentor.Json
