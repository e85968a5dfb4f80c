import CodeMentor.Source.Language

/-!
# Issues and suggestions

Fixed sentences, each with the condition under which it is given.
-/

namespace CodeMentor.Source

open CodeMentor.Text

/-- The sentences whose condition holds. -/
def applicable (rules : List (Bool × String)) : List String :=
  (rules.filter (·.1)).map (·.2)

def longText : Nat := 1000

/-- Likely problems of a text with the given nesting depth and cyclomatic complexity. -/
def issues (language : Language) (code : String) (nesting cyclomatic : UInt32) : List String :=
  let has := contains code
  let evaluates := (has "eval(", "Avoid using eval() for security reasons.")
  applicable
    [(longText < code.toList.length,
        "Code is too long, consider breaking it into smaller functions."),
     (5 < nesting, "Code has high nesting depth, consider refactoring."),
     (10 < cyclomatic, "Code has high cyclomatic complexity, consider refactoring.")] ++
  applicable (match language with
    | .python =>
      [evaluates,
       (has "except:", "Bare except clause catches every exception."),
       (!has "except:" && has "global ", "Avoid using global variables unless necessary.")]
    | .cpp => [(has "using namespace std;", "Avoid 'using namespace std;' in shared code.")]
    | .javascript => [evaluates]
    | .c => [])

/-- Whether two equality signs stand alone: not part of a longer run and not behind an exclamation
mark or an angle bracket. -/
def looseEquality : (before : Option Char) → List Char → Bool
  | before, '=' :: '=' :: rest =>
    (rest.head? != some '=' && !before.any fun c => c == '=' || c == '!' || c == '<' || c == '>')
      || looseEquality (some '=') ('=' :: rest)
  | _, c :: rest => looseEquality (some c) rest
  | _, [] => false

/-- The first tip of the language whose condition holds. -/
def tip? (language : Language) (code : String) : Option String :=
  let has := contains code
  let count (word : String) := countWord code.toList word.toList
  (applicable <| match language with
    | .python =>
      [(has "except:", "Specify the exception type in the except clause."),
       (has "global ", "Pass values explicitly instead of using global variables.")]
    | .cpp =>
      [(0 < count "new" && count "delete" == 0,
          "Consider using smart pointers to manage memory."),
       (has "using namespace std;",
          "Qualify names with std:: instead of importing the namespace.")]
    | .javascript =>
      [(has "var ", "Consider using 'let' or 'const' instead of 'var'."),
       (looseEquality none code.toList,
          "Consider using '===' for strict equality comparison.")]
    | .c =>
      [(has "malloc" && !has "free(", "Release memory allocated with 'malloc' using 'free'."),
       (has "strcpy", "Consider using 'strncpy' to avoid buffer overflow.")]).head?

def suggestions (language : Language) (code : String) (complexity : UInt32)
    (functions classes imports : Nat) : List String :=
  applicable
    [(10 < complexity, "Consider refactoring the code to reduce complexity."),
     (10 < functions, "Consider splitting this file into smaller modules."),
     (5 < classes, "Consider breaking down large classes into smaller ones."),
     (5 < imports, "Consider removing unused imports.")] ++
  (tip? language code).toList

end CodeMentor.Source
