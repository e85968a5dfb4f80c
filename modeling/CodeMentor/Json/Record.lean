import CodeMentor.Json.Numeral

/-!
# Reading records

A record is given as an object, by name, or as an array, by position. A name of the record may
occur once at most and other names are ignored. Whether a field may be missing depends on the field
and on the form: one that is merely nullable may be missing from an object but not from an array.
-/

namespace CodeMentor.Json

inductive Presence where
  /-- The record is refused. -/
  | required
  /-- An object may leave it out. -/
  | nullable
  /-- Both forms may leave it out. -/
  | defaulted
deriving DecidableEq, Repr

/-- The names of a record's fields in order. -/
abbrev Schema := List (String × Presence)

/-- The value of a field in a list of members: outer `none` if the members are refused. -/
def fieldOf? (members : List (String × Json)) (field : String × Presence) :
    Option (Option Json) :=
  match members.filter (·.1 == field.1) with
  | [] => if field.2 = .required then none else some none
  | [(_, value)] => some (some value)
  | _ => none

/-- The fields of a record given by position. -/
def positional? : Schema → List Json → Option (List (Option Json))
  | [], [] => some []
  | [], _ :: _ => none
  | field :: schema, [] =>
    if field.2 = .defaulted then (positional? schema []).map (none :: ·) else none
  | _ :: schema, value :: values => (positional? schema values).map (some value :: ·)

def fields? (schema : Schema) : Json → Option (List (Option Json))
  | .object members => schema.mapM (fieldOf? members)
  | .array items => positional? schema items
  | _ => none

def text? : Json → Option String
  | .string s => some s
  | _ => none

def flag? : Json → Option Bool
  | .bool b => some b
  | _ => none

def below? (bound : Nat) (j : Json) : Option Nat :=
  (natural? j).filter (· < bound)

def uint8? (j : Json) : Option UInt8 :=
  (below? UInt8.size j).map UInt8.ofNat

def uint16? (j : Json) : Option UInt16 :=
  (below? UInt16.size j).map UInt16.ofNat

def uint32? (j : Json) : Option UInt32 :=
  (below? UInt32.size j).map UInt32.ofNat

def uint64? (j : Json) : Option UInt64 :=
  (below? UInt64.size j).map UInt64.ofNat

def list? {α : Type} (item? : Json → Option α) : Json → Option (List α)
  | .array items => items.mapM item?
  | _ => none

def nullable? {α : Type} (value? : Json → Option α) : Json → Option (Option α)
  | .null => some none
  | j => (value? j).map some

/-- A field that may be missing, with what it then is. -/
def orElse? {α : Type} (default : α) (value? : Json → Option α) : Option Json → Option α
  | none => some default
  | some j => value? j

/-- A field that may be missing or null. -/
def absent? {α : Type} (value? : Json → Option α) : Option Json → Option (Option α) :=
  orElse? none (nullable? value?)

mutual

def depth : Json → Nat
  | .array items => depthItems items + 1
  | .object members => depthMembers members + 1
  | _ => 0

def depthItems : List Json → Nat
  | [] => 0
  | item :: rest => max (depth item) (depthItems rest)

def depthMembers : List (String × Json) → Nat
  | [] => 0
  | (_, value) :: rest => max (depth value) (depthMembers rest)

end

mutual

/-- Whether every numeral has a finite value and every string stands for a text. -/
def meaningful : Json → Bool
  | .number text => (binary64? (.number text)).isSome
  | .array items => meaningfulItems items
  | .object members => meaningfulMembers members
  | .unreadable => false
  | _ => true

def meaningfulItems : List Json → Bool
  | [] => true
  | item :: rest => meaningful item && meaningfulItems rest

def meaningfulMembers : List (String × Json) → Bool
  | [] => true
  | (_, value) :: rest => meaningful value && meaningfulMembers rest

end

/-- How deeply a value may be nested that is held as a whole before it is read. -/
def depthLimit : Nat := 127

/-- Whether a value can be held as a whole before it is read. -/
def isHoldable (j : Json) : Bool :=
  j.meaningful && decide (j.depth ≤ depthLimit)

end CodeMentor.Json
