import CodeMentor.Json.Basic
import CodeMentor.Number.Decimal

/-!
# The value of a numeral

An integer is written with digits alone. A binary number is read from a significand of at most 64
bits, which takes as many digits as fit, and a power of ten: two roundings, one for the significand
and one for the scaling. A numeral too large for a finite number has no value.
-/

namespace CodeMentor.Json

open CodeMentor.Number

def digitsValue (digits : List Char) : Nat :=
  digits.foldl (fun n c => n * 10 + (c.toNat - 48)) 0

def natural? : Json → Option Nat
  | .number text =>
    if text.isEmpty || !text.all Char.isDigit then none else some (digitsValue text)
  | _ => none

/-- Extend a significand by digits as long as it stays below `2 ^ 64`; what is left over is
returned. -/
def absorbDigits (significand : Nat) : List Char → Nat × List Char
  | [] => (significand, [])
  | c :: rest =>
    let next := significand * 10 + (c.toNat - 48)
    if next < UInt64.size then absorbDigits next rest else (significand, c :: rest)

/-- A number times a power of ten, if the result is finite. Powers below `10 ^ -308` are applied in
steps of that size. -/
def scaleByTen : (fuel : Nat) → Binary64 → Int → Option Binary64
  | 0, _, _ => none
  | fuel + 1, x, exponent =>
    if exponent.natAbs ≤ 308 then
      let power := Binary64.ofNat (Nat.pow 10 exponent.natAbs)
      if 0 ≤ exponent then
        let y := x.mul power
        if y.isFinite then some y else none
      else some (x.div power)
    else if x.magnitude == 0 then some x
    else if 0 ≤ exponent then none
    else scaleByTen fuel (x.div (Binary64.ofNat (Nat.pow 10 308))) (exponent + 308)

/-- The greatest exponent that is read digit by digit. -/
def exponentLimit : Nat := 0x7FFFFFFF

def magnitude? (text : List Char) : Option Binary64 :=
  let (whole, rest) := text.span Char.isDigit
  let (fraction, rest) := match rest with
    | '.' :: rest => rest.span Char.isDigit
    | rest => ([], rest)
  let (significand, left) := absorbDigits 0 whole
  let (significand, left') := absorbDigits significand fraction
  let exponent : Int := (left.length : Int) - ((fraction.length - left'.length : Nat) : Int)
  let start := Binary64.ofNat significand
  match rest with
  | _ :: rest =>
    let (negative, digits) := match rest with
      | '-' :: ds => (true, ds)
      | '+' :: ds => (false, ds)
      | ds => (false, ds)
    let power := digitsValue digits
    if exponentLimit < power then
      if significand = 0 ∨ negative then some Binary64.zero else none
    else scaleByTen 8 start (if negative then exponent - power else exponent + power)
  | [] => scaleByTen 8 start exponent

def binary64? : Json → Option Binary64
  | .number ('-' :: text) => (magnitude? text).map fun x => .ofMagnitude true x.magnitude
  | .number text => magnitude? text
  | _ => none

/-- A binary number; what is not finite has no numeral. -/
def ofBinary64 (x : Binary64) : Json :=
  if x.isFinite then .number x.text else .null

end CodeMentor.Json
