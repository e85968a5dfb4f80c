/-!
# UTF-8

Bytes are read one at a time by a small machine. What the machine refuses is an error with its place
(`decode`), or a gap among the characters (`units`), or shown as the replacement character, one for
each longest run of bytes that began a character and did not end it (`lossy`).
-/

namespace CodeMentor.Text.Utf8

def encode (s : String) : List UInt8 :=
  s.toList.flatMap String.utf8EncodeChar

/-- Where the reader stands: between characters, or inside one with `owed + 1` bytes to come, the
next of them between `low` and `high`. -/
inductive State where
  | start
  | inside (owed : Nat) (low high : UInt8) (value : Nat)
deriving DecidableEq, Repr

inductive Step where
  | more (state : State)
  | done (c : Char)
  | refuse
deriving DecidableEq, Repr

def first (b : UInt8) : Step :=
  let n := b.toNat
  if n < 0x80 then .done (Char.ofNat n)
  else if n < 0xC2 then .refuse
  else if n < 0xE0 then .more (.inside 0 0x80 0xBF (n - 0xC0))
  else if n = 0xE0 then .more (.inside 1 0xA0 0xBF 0)
  else if n = 0xED then .more (.inside 1 0x80 0x9F 0xD)
  else if n < 0xF0 then .more (.inside 1 0x80 0xBF (n - 0xE0))
  else if n = 0xF0 then .more (.inside 2 0x90 0xBF 0)
  else if n < 0xF4 then .more (.inside 2 0x80 0xBF (n - 0xF0))
  else if n = 0xF4 then .more (.inside 2 0x80 0x8F 4)
  else .refuse

def feed : State → UInt8 → Step
  | .start, b => first b
  | .inside owed low high value, b =>
    if low ≤ b ∧ b ≤ high then
      let value := value * 64 + b.toNat % 64
      match owed with
      | 0 => .done (Char.ofNat value)
      | owed + 1 => .more (.inside owed 0x80 0xBF value)
    else .refuse

/-- The character shown for bytes that are no text. -/
def replacement : Char := '\uFFFD'

/-- The characters of the bytes from a state on; `none` stands for bytes that are no character. A
byte that does not continue the open character ends it and is read again as a first byte. -/
def unitsFrom : State → List UInt8 → List (Option Char)
  | .start, [] => []
  | .inside .., [] => [none]
  | .start, b :: rest =>
    match first b with
    | .more st => unitsFrom st rest
    | .done c => some c :: unitsFrom .start rest
    | .refuse => none :: unitsFrom .start rest
  | .inside owed low high value, b :: rest =>
    match feed (.inside owed low high value) b with
    | .more st => unitsFrom st rest
    | .done c => some c :: unitsFrom .start rest
    | .refuse =>
      none ::
        match first b with
        | .more st => unitsFrom st rest
        | .done c => some c :: unitsFrom .start rest
        | .refuse => none :: unitsFrom .start rest

/-- The characters of the bytes, with `none` for each longest run of bytes that began a character
and did not end it. -/
def units (bytes : List UInt8) : List (Option Char) :=
  unitsFrom .start bytes

/-- The text of the bytes, with replacements for what is no text. -/
def lossy (bytes : List UInt8) : String :=
  String.ofList ((units bytes).map (·.getD replacement))

/-- Why bytes are no text: where the offending character starts, and how many bytes of it stand
there when it is not merely cut off by the end. -/
structure Fault where
  index : Nat
  length : Option Nat
deriving DecidableEq, Repr

def Fault.message (f : Fault) : String :=
  match f.length with
  | some n => s!"invalid utf-8 sequence of {n} bytes from index {f.index}"
  | none => s!"incomplete utf-8 byte sequence from index {f.index}"

/-- Read characters from a state on; `index` is where the open character starts and `held` how many
of its bytes have been read. -/
def decodeFrom : State → (index held : Nat) → List UInt8 → Except Fault (List Char)
  | .start, _, _, [] => .ok []
  | .inside .., index, _, [] => .error ⟨index, none⟩
  | st, index, held, b :: rest =>
    match feed st b with
    | .more st => decodeFrom st index (held + 1) rest
    | .done c => (decodeFrom .start (index + held + 1) 0 rest).map (c :: ·)
    | .refuse => .error ⟨index, some (max held 1)⟩

def decode (bytes : List UInt8) : Except Fault String :=
  (decodeFrom .start 0 0 bytes).map String.ofList

end CodeMentor.Text.Utf8
