/-!
# JSON values

Objects keep their members in the order of the text, repeated names included, and numbers keep the
text they were written as: what a member may be is decided by the type that reads it. What is
written as a string need not stand for a text, and such a value may still be passed over.
-/

namespace CodeMentor

inductive Json where
  | null
  | bool (value : Bool)
  | number (text : List Char)
  | string (value : String)
  | array (items : List Json)
  | object (members : List (String × Json))
  /-- A string that stands for no text, because it holds half of a surrogate pair or bytes that are
  no character, or an object with such a string for a name. -/
  | unreadable

namespace Json

instance : Inhabited Json := ⟨.null⟩

def ofNat (n : Nat) : Json :=
  .number (Nat.toDigits 10 n)

def ofText? : Option String → Json
  | none => .null
  | some s => .string s

def ofTexts (texts : List String) : Json :=
  .array (texts.map .string)

/-- The value of the last member with the name. -/
def member? (name : String) : Json → Option Json
  | .object members => (members.reverse.find? (·.1 == name)).map (·.2)
  | _ => none

end Json

end CodeMentor
