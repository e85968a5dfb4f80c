import CodeMentor.Text.Pieces

/-!
# Programming languages

The languages that can be analyzed, and two ways to recognise them by the phrases a text contains.
The rules are tried in order and the first that holds decides.
-/

namespace CodeMentor

inductive Language where
  | python
  | cpp
  | c
  | javascript
deriving DecidableEq, Repr

namespace Language

def name : Language → String
  | .python => "python"
  | .cpp => "cpp"
  | .c => "c"
  | .javascript => "javascript"

/-- Every language, in the order in which they are listed to users. -/
def all : List Language :=
  [.python, .cpp, .c, .javascript]

def nameOf : Option Language → String
  | some language => language.name
  | none => "unknown"

/-- The language of a text, for a detailed analysis. -/
def detect (code : String) : Option Language :=
  let has := contains code
  if has "def " || has "import " && !has ";" || has "class " && has ":" && !has "\x7b" then
    some .python
  else if has "#include" && (has "<stdio.h>" || has "<stdlib.h>") && !has "std::"
      && !has "class " then
    some .c
  else if has "#include" || has "int main" || has "std::" then some .cpp
  else if has "function " || has "const " || has "let " || has "=>" || has "import " then
    some .javascript
  else none

/-- The language of a text, guessed with fewer rules. -/
def guess (code : String) : Option Language :=
  let has := contains code
  if has "def " || has "import " then some .python
  else if has "#include" || has "std::" then some .cpp
  else if has "function " || has "const " || has "=>" then some .javascript
  else if has "printf" && has "#include" then some .c
  else none

end Language

end CodeMentor
