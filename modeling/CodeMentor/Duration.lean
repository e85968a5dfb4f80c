/-!
# Spans of time

A span is a count of whole seconds below `2 ^ 64` and a count of nanoseconds below one second.
Multiplication stops at the longest span instead of overflowing.
-/

namespace CodeMentor

def nanosPerSecond : Nat := 1000000000

structure Duration where
  seconds : UInt64
  nanos : UInt32
  nanos_lt : nanos.toNat < nanosPerSecond
deriving DecidableEq

namespace Duration

def longest : Duration :=
  ⟨UInt64.ofNat (UInt64.size - 1), 999999999, by decide⟩

def ofSeconds (seconds : UInt64) : Duration :=
  ⟨seconds, 0, by decide⟩

/-- Whole seconds and nanoseconds, if the latter are less than a second. -/
def of? (seconds : UInt64) (nanos : UInt32) : Option Duration :=
  if h : nanos.toNat < nanosPerSecond then some ⟨seconds, nanos, h⟩ else none

def toNanos (d : Duration) : Nat :=
  d.seconds.toNat * nanosPerSecond + d.nanos.toNat

def isZero (d : Duration) : Bool :=
  d.seconds == 0 && d.nanos == 0

/-- The span in milliseconds, rounded up: the clock ticks once a millisecond. -/
def ticks (d : Duration) : Nat :=
  (d.toNanos + 999999) / 1000000

/-- The span taken `factor` times. The nanoseconds are multiplied first and carry into the seconds;
when the seconds do not fit, the result is the longest span. -/
def scale (d : Duration) (factor : Nat) : Duration :=
  let nanos := d.nanos.toNat * factor
  let seconds := d.seconds.toNat * factor + nanos / nanosPerSecond
  if seconds < UInt64.size then
    ⟨UInt64.ofNat seconds, UInt32.ofNat (nanos % nanosPerSecond), by
      have h : nanos % nanosPerSecond < nanosPerSecond := Nat.mod_lt _ (by decide)
      rw [UInt32.toNat_ofNat_of_lt' (Nat.lt_trans h (by decide))]
      exact h⟩
  else longest

/-- A whole part and a fraction of `places` digits, without zeros at its end. -/
def fractionText (whole fraction places : Nat) : String :=
  let digits := Nat.toDigits 10 fraction
  let padded := List.replicate (places - digits.length) '0' ++ digits
  match (padded.reverse.dropWhile (· == '0')).reverse with
  | [] => toString whole
  | ds => s!"{whole}." ++ String.ofList ds

/-- The span in the largest unit that it fills at least once: `1.5s`, `20ms`, `1.5µs`, `0ns`. -/
def text (d : Duration) : String :=
  let nanos := d.nanos.toNat
  if 0 < d.seconds.toNat then fractionText d.seconds.toNat nanos 9 ++ "s"
  else if 1000000 ≤ nanos then fractionText (nanos / 1000000) (nanos % 1000000) 6 ++ "ms"
  else if 1000 ≤ nanos then fractionText (nanos / 1000) (nanos % 1000) 3 ++ "µs"
  else s!"{nanos}ns"

end Duration

end CodeMentor
