/-!
# Binary floating-point numbers of 64 bits

A number is its 64 bits in the IEEE 754 interchange format. Values are compared and combined through
exact integers: a finite number is `significand * 2 ^ scale / 2 ^ 1074`, and every operation rounds
the exact result once, to the nearest number and on a tie to the even one.
-/

namespace CodeMentor.Number

/-- The nearest integer to `num / den`; halfway cases go to the even neighbour. -/
def roundDiv (num den : Nat) : Nat :=
  let q := num / den
  let r := num % den
  if 2 * r < den then q else if den < 2 * r then q + 1 else q + q % 2

/-- A number in the 64-bit interchange format. -/
structure Binary64 where
  bits : UInt64
deriving DecidableEq, Repr

namespace Binary64

instance : Inhabited Binary64 := ⟨⟨0⟩⟩

/-- The bits without the sign. -/
def magnitude (x : Binary64) : Nat :=
  x.bits.toNat % Nat.pow 2 63

def negative (x : Binary64) : Bool :=
  Nat.pow 2 63 ≤ x.bits.toNat

/-- The magnitude of infinity; above it lie the NaNs. -/
def infinite : Nat := 0x7FF0000000000000

def isNaN (x : Binary64) : Bool :=
  infinite < x.magnitude

def isFinite (x : Binary64) : Bool :=
  x.magnitude < infinite

/-- Magnitudes are ordered as the values they stand for, so this integer orders all numbers that
are not NaN, and takes both zeros to zero. -/
def key (x : Binary64) : Int :=
  if x.negative then -(x.magnitude : Int) else x.magnitude

/-- Strictly less; false as soon as one side is NaN. -/
def lt (x y : Binary64) : Bool :=
  !x.isNaN && !y.isNaN && x.key < y.key

/-- At most; false as soon as one side is NaN. -/
def le (x y : Binary64) : Bool :=
  !x.isNaN && !y.isNaN && x.key ≤ y.key

/-- The integer significand. -/
def significand (x : Binary64) : Nat :=
  if x.magnitude < Nat.pow 2 52 then x.magnitude
  else Nat.pow 2 52 + x.magnitude % Nat.pow 2 52

/-- The power of two over `2 ^ -1074` that the significand counts. -/
def scale (x : Binary64) : Nat :=
  x.magnitude / Nat.pow 2 52 - 1

/-- The absolute value of a finite number, in units of `2 ^ -1074`. -/
def units (x : Binary64) : Nat :=
  x.significand * Nat.pow 2 x.scale

def unitsPerOne : Nat := Nat.pow 2 1074

/-- A sign and a magnitude; magnitudes beyond infinity become infinity. -/
def ofMagnitude (negative : Bool) (magnitude : Nat) : Binary64 :=
  ⟨UInt64.ofNat ((if negative then Nat.pow 2 63 else 0) + min magnitude infinite)⟩

/-- The number nearest to `num / den`. The scale leaves 53 bits of the quotient, or all of them
when the quotient is small. -/
def ofRatio (negative : Bool) (num den : Nat) : Binary64 :=
  let num := num * unitsPerOne
  let scale := Nat.log2 (num / den) - 52
  ofMagnitude negative (scale * Nat.pow 2 52 + roundDiv num (den * Nat.pow 2 scale))

/-- The number nearest to a natural number. -/
def ofNat (n : Nat) : Binary64 :=
  ofRatio false n 1

def nan : Binary64 := ⟨0x7FF8000000000000⟩

def infinity (negative : Bool) : Binary64 :=
  ofMagnitude negative infinite

def zero : Binary64 := ⟨0⟩

def one : Binary64 := ⟨0x3FF0000000000000⟩

/-- The product, rounded once. -/
def mul (x y : Binary64) : Binary64 :=
  let sign := x.negative != y.negative
  if x.isNaN || y.isNaN then nan
  else if x.isFinite && y.isFinite then
    ofRatio sign (x.units * y.units) (unitsPerOne * unitsPerOne)
  else if x.magnitude == 0 || y.magnitude == 0 then nan
  else infinity sign

def div (x y : Binary64) : Binary64 :=
  let sign := x.negative != y.negative
  if x.isNaN || y.isNaN then nan
  else if x.isFinite && y.isFinite then
    if y.magnitude == 0 then if x.magnitude == 0 then nan else infinity sign
    else ofRatio sign x.units y.units
  else if x.isFinite then ofMagnitude sign 0
  else if y.isFinite then infinity sign
  else nan

/-- The number moved into the range from `low` to `high`; NaN stays. -/
def clamp (x low high : Binary64) : Binary64 :=
  if x.lt low then low else if high.lt x then high else x

end Binary64

end CodeMentor.Number
