import CodeMentor.Text.Character

/-!
# Quoted text for diagnostics

A text between double quotes. Quote and backslash are escaped, four controls have a letter, and
every other hidden character is written by its number.
-/

namespace CodeMentor.Text

def escaped (c : Char) : List Char :=
  if c = '"' then ['\\', '"']
  else if c = '\\' then ['\\', '\\']
  else if c = '\n' then ['\\', 'n']
  else if c = '\r' then ['\\', 'r']
  else if c = '\t' then ['\\', 't']
  else if c = Char.ofNat 0 then ['\\', '0']
  else if isHidden c then ['\\', 'u', '\x7b'] ++ Nat.toDigits 16 c.toNat ++ ['\x7d']
  else [c]

end CodeMentor.Text

namespace CodeMentor

/-- The text between double quotes, with escapes. -/
def quoted (s : String) : String :=
  String.ofList ('"' :: s.toList.flatMap Text.escaped ++ ['"'])

end CodeMentor
