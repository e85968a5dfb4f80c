import CodeMentor.Number.Binary64

/-!
# Decimal text of binary numbers

Two ways to write a finite number: with the fewest digits that read back as the same number, and
with a fixed count of decimal places. Both work on the exact value.
-/

namespace CodeMentor.Number

/-- Decimal digits and the power of ten of the first of them: `d.ddd * 10 ^ exponent`. -/
structure Decimal where
  digits : List Char
  exponent : Int
deriving DecidableEq, Repr

/-- How often `num` must be multiplied by ten to reach `den`, searching `fuel` steps. -/
def tenfoldsBelow (den : Nat) : (fuel num : Nat) → Nat
  | 0, _ => 0
  | fuel + 1, num => if den ≤ num then 0 else tenfoldsBelow den fuel (num * 10) + 1

/-- The power of ten of the leading digit of a positive `num / den`. -/
def leadingExponent (num den : Nat) : Int :=
  if den ≤ num then ((Nat.toDigits 10 (num / den)).length : Int) - 1
  else -(tenfoldsBelow den 400 num : Int)

namespace Binary64

/-- The decimal with `count` digits nearest to `num / den`, if one lies strictly inside the given
bounds or, when `closed`, on them. All three fractions share the denominator `den`. Of two
decimals that are equally near, the one whose last digit is even is taken. -/
def decimalWithin? (low num high den : Nat) (closed : Bool) (exponent : Int) (count : Nat) :
    Option Decimal :=
  let shift := exponent - (count : Int) + 1
  let up := Nat.pow 10 shift.toNat
  let down := Nat.pow 10 (-shift).toNat
  let floor := num * down / (den * up)
  let fits (d : Nat) : Bool :=
    let v := d * den * up
    if closed then low * down ≤ v && v ≤ high * down else low * down < v && v < high * down
  let below := fits floor
  let above := fits (floor + 1)
  let remainder := num * down - floor * den * up
  let pick (d : Nat) : Decimal :=
    let text := Nat.toDigits 10 d
    { digits := match (text.reverse.dropWhile (· == '0')).reverse with
        | [] => ['0']
        | ds => ds
      exponent := exponent + (text.length : Int) - (count : Int) }
  if below && above then
    if 2 * remainder < den * up ∨ (2 * remainder = den * up ∧ floor % 2 = 0) then
      some (pick floor)
    else some (pick (floor + 1))
  else if below then some (pick floor)
  else if above then some (pick (floor + 1))
  else none

/-- The fewest digits that read back as the magnitude of a finite non-zero number. Numbers that
round to it fill the interval between the midpoints to its neighbours; an even significand owns
the midpoints. -/
def shortest (x : Binary64) : Decimal :=
  let m := x.significand
  let unit := Nat.pow 2 x.scale
  let below := if m = Nat.pow 2 52 ∧ 0 < x.scale then 1 else 2
  let low := (4 * m - below) * unit
  let high := (4 * m + 2) * unit
  let num := 4 * m * unit
  let den := 4 * unitsPerOne
  let exponent := leadingExponent num den
  ((List.range 17).findSome? fun n =>
    decimalWithin? low num high den (m % 2 == 0) exponent (n + 1)).getD ⟨['0'], 0⟩

/-- The text of a finite number as the data format writes it: positional from `10 ^ -5` up to
below `10 ^ 16`, always with a fraction, and otherwise with a signed exponent. -/
def text (x : Binary64) : List Char :=
  let sign := if x.negative then ['-'] else []
  let body :=
    if x.magnitude == 0 then ['0', '.', '0']
    else
      let d := x.shortest
      let count := d.digits.length
      if 16 ≤ d.exponent ∨ d.exponent < -5 then
        let fraction := match d.digits.drop 1 with
          | [] => []
          | ds => '.' :: ds
        let mark := if d.exponent < 0 then '-' else '+'
        d.digits.take 1 ++ fraction ++ 'e' :: mark :: Nat.toDigits 10 d.exponent.natAbs
      else if d.exponent < 0 then
        '0' :: '.' :: List.replicate (d.exponent.natAbs - 1) '0' ++ d.digits
      else
        let point := d.exponent.toNat + 1
        if count ≤ point then d.digits ++ List.replicate (point - count) '0' ++ ['.', '0']
        else d.digits.take point ++ '.' :: d.digits.drop point
  sign ++ body

/-- The number with exactly `places` digits after the point, from the exact value, halves going to
the even digit. -/
def fixed (x : Binary64) (places : Nat) : String :=
  if x.isNaN then "NaN"
  else
    let sign := if x.negative then "-" else ""
    if !x.isFinite then sign ++ "inf"
    else
      let unit := Nat.pow 10 places
      let scaled := roundDiv (x.units * unit) unitsPerOne
      let fraction := Nat.toDigits 10 (scaled % unit)
      let padding := List.replicate (places - fraction.length) '0'
      s!"{sign}{scaled / unit}." ++ String.ofList (padding ++ fraction)

end Binary64

end CodeMentor.Number
