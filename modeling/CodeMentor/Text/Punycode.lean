/-!
# Names in plain letters

Punycode writes a text with the characters of ASCII alone: the plain characters first, and behind a
hyphen the places and code points of all others. These are visited in ascending order, so a number
for each says how many steps of an imagined walk lie between one insertion and the next: the walk
goes through all places of the text for one code point before it goes on to the next code point.
-/

namespace CodeMentor.Text.Punycode

/-- The number of digits: the letters, then the ten digits. -/
def base : Nat := 36

/-- The code point at which the walk begins: the first that is not plain. -/
def firstPoint : Nat := 0x80

def digit (value : Nat) : Char :=
  if value < 26 then Char.ofNat ('a'.toNat + value) else Char.ofNat ('0'.toNat + value - 26)

def value? (c : Char) : Option Nat :=
  if 'a' ≤ c ∧ c ≤ 'z' then some (c.toNat - 'a'.toNat)
  else if '0' ≤ c ∧ c ≤ '9' then some (c.toNat - '0'.toNat + 26)
  else none

/-- The least value that a digit has unless it ends its number. -/
def threshold (bias place : Nat) : Nat :=
  max 1 (min 26 (base * (place + 1) - bias))

theorem threshold_pos (bias place : Nat) : 0 < threshold bias place := by
  unfold threshold
  omega

/-- How often a number is divided by 35 until it is small, and what is left of it. -/
def damped (n : Nat) : Nat × Nat :=
  if 455 < n then
    let (times, rest) := damped (n / 35)
    (times + 1, rest)
  else (0, n)
termination_by n
decreasing_by omega

/-- The bias for the next number, after `steps` steps to one of `count` places. -/
def adapt (steps count : Nat) (isFirst : Bool) : Nat :=
  let scaled := if isFirst then steps / 700 else steps / 2
  let (times, rest) := damped (scaled + scaled / count)
  base * times + base * rest / (rest + 38)

/-- The digits of a number, the least significant first. -/
def encodeNumber (bias place n : Nat) : List Char :=
  let t := threshold bias place
  if n < t then [digit n]
  else digit (t + (n - t) % (base - t)) :: encodeNumber bias (place + 1) ((n - t) / (base - t))
termination_by n
decreasing_by
  have h := threshold_pos bias place
  have : (n - threshold bias place) / (base - threshold bias place) ≤ n - threshold bias place :=
    Nat.div_le_self _ _
  omega

structure Writer where
  output : List Char
  /-- Steps since the last insertion. -/
  steps : Nat
  bias : Nat
  count : Nat
deriving DecidableEq, Repr

/-- Visit one place of the text while the walk is at a code point. -/
def Writer.visit (point plain : Nat) (w : Writer) (c : Nat) : Writer :=
  if c < point then { w with steps := w.steps + 1 }
  else if c = point then
    { output := w.output ++ encodeNumber w.bias 0 w.steps
      steps := 0
      bias := adapt w.steps (w.count + 1) (w.count == plain)
      count := w.count + 1 }
  else w

/-- Walk through the text once for each of the code points. -/
def Writer.walk (text : List Nat) (plain : Nat) : (previous : Nat) → List Nat → Writer → Writer
  | _, [], w => w
  | previous, point :: rest, w =>
    let w := { w with steps := w.steps + (point - previous) * (w.count + 1) }
    let w := text.foldl (visit point plain) w
    walk text plain (point + 1) rest { w with steps := w.steps + 1 }

def encode (text : List Nat) : List Char :=
  let plain := text.filter (· < firstPoint)
  let others := ((text.filter (firstPoint ≤ ·)).mergeSort (· ≤ ·)).eraseDups
  let head := if plain.isEmpty then [] else plain.map Char.ofNat ++ ['-']
  head ++ (Writer.walk text plain.length firstPoint others ⟨[], 0, 72, plain.length⟩).output

def decodeNumber (bias : Nat) : (place weight : Nat) → List Char → Option (Nat × List Char)
  | _, _, [] => none
  | place, weight, c :: rest => do
    let d ← value? c
    let t := threshold bias place
    if d < t then return (d * weight, rest)
    else
      let (n, rest) ← decodeNumber bias (place + 1) (weight * (base - t)) rest
      return (d * weight + n, rest)

/-- Insert the characters that the numbers stand for; each number takes a character of the input at
least, so the length of the input is enough fuel. -/
def insertAll (bias point place : Nat) (isFirst : Bool) (text : List Nat) :
    (fuel : Nat) → List Char → Option (List Nat)
  | _, [] => some text
  | 0, _ :: _ => none
  | fuel + 1, input => do
    let (steps, input) ← decodeNumber bias 0 1 input
    let count := text.length + 1
    let point := point + (place + steps) / count
    let place := (place + steps) % count
    if point.isValidChar then
      insertAll (adapt steps count isFirst) point (place + 1) false
        (text.take place ++ point :: text.drop place) fuel input
    else none

def decode? (input : List Char) : Option (List Nat) :=
  match (input.reverse.span (· != '-')) with
  | (_, ['-']) => none
  | (numbers, plain) =>
    insertAll 72 firstPoint 0 true ((plain.drop 1).reverse.map Char.toNat) input.length
      numbers.reverse

end CodeMentor.Text.Punycode
