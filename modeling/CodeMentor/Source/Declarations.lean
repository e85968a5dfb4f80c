import CodeMentor.Source.Language
import CodeMentor.Source.Pattern

/-!
# Imports, functions and classes

What a source text declares, found by patterns on its surface and listed in the order of the text.
-/

namespace CodeMentor.Source

open CodeMentor.Text

/-- A line that imports a module, without blanks around it. -/
def importLine : Pattern (List Char) := fun before text =>
  if lineStarts before then do
    let statement := text.dropWhile isIndent
    let rest ← (keyword? "import" statement).or (keyword? "from" statement)
    let target ← some? isIndent rest
    let _ ← some? (fun c => isWord c || c == '.') target
    let (line, rest) := statement.span (· != '\n')
    return (dropEndWhile isIndent line, rest)
  else none

def inclusion : Pattern (List Char) := fun _ text => do
  let rest ← keyword? "#include" text
  let rest ← one? (fun c => c == '<' || c == '"') (spaces rest)
  let rest ← some? (fun c => isWord c || c == '.' || c == '/') rest
  let rest ← one? (fun c => c == '>' || c == '"') rest
  return (upTo text rest, rest)

/-- The text behind the first quotation that a statement reaches on its line. -/
def throughQuotation? : List Char → Option (List Char)
  | [] => none
  | c :: rest =>
    match quotation? (c :: rest) with
    | some left => some left
    | none => if c == ';' || c == '\n' then none else throughQuotation? rest

/-- An import statement at the start of a line, up to the quoted module. -/
def importStatement : Pattern (List Char) := fun before text =>
  if lineStarts before then do
    let rest ← keyword? "import" (text.dropWhile isIndent)
    let rest ← one? isSpace rest
    let rest ← throughQuotation? rest
    return (upTo text rest, rest)
  else none

def requireCall : Pattern (List Char) := fun _ text => do
  let rest ← keyword? "require(" text
  let rest ← quotation? (spaces rest)
  let rest ← char? ')' (spaces rest)
  return (upTo text rest, rest)

/-- The first of two patterns that matches at a place. -/
def Pattern.orElse {α : Type} (p q : Pattern α) : Pattern α := fun before text =>
  (p before text).or (q before text)

def announcedFunction (keyword : String) : Pattern (List Char) := fun before text =>
  if wordMayStart before then do
    let rest ← keyword? keyword text
    let rest ← spaces? rest
    let (name, rest) ← word? rest
    let rest ← char? '(' (spaces rest)
    return (name, rest)
  else none

/-- A function with a result type, a parameter list and a body; captures the word before the name
and the name. -/
def typedFunction : Pattern (List Char × List Char) := fun before text =>
  if wordMayStart before then do
    let (type, rest) ← word? text
    let rest ← some? (fun c => isSpace c || c == '*' || c == '&') rest
    let (name, rest) ← word? rest
    let rest ← parameters? (spaces rest)
    let rest := spaces rest
    let rest := match keyword? "const" rest with
      | some rest => spaces rest
      | none => rest
    let rest ← char? '\x7b' rest
    return ((type, name), rest)
  else none

/-- The text behind the start of a function value: `function`, or parameters and an arrow. -/
def functionValue? (text : List Char) : Option (List Char) :=
  let functionWord := match keyword? "function" text with
    | some rest => if rest.head?.any isWord then none else some rest
    | none => none
  let arrow (rest : List Char) := keyword? "=>" (spaces rest)
  functionWord.or (((parameters? text).bind arrow).or ((word? text).bind fun w => arrow w.2))

/-- A variable bound to a function value; captures the name. -/
def boundFunction : Pattern (List Char) := fun before text =>
  if wordMayStart before then do
    let rest ← (keyword? "const" text).or ((keyword? "let" text).or (keyword? "var" text))
    let rest ← spaces? rest
    let (name, rest) ← word? rest
    let rest ← char? '=' (spaces rest)
    let value := spaces rest
    let later := ((keyword? "async" value).bind spaces?).bind functionValue?
    let rest ← later.or (functionValue? value)
    return (name, rest)
  else none

def classHead : Pattern (List Char) := fun before text =>
  if wordMayStart before then do
    let rest ← keyword? "class" text
    let rest ← spaces? rest
    word? rest
  else none

/-- Words that start a statement and are no result type. -/
def statementWords : List String :=
  ["if", "for", "while", "switch", "else", "return", "do"]

def imports (language : Language) (code : String) : List String :=
  let text := code.toList
  match language with
  | .python => (importLine.findAll text).map String.ofList
  | .c | .cpp => (inclusion.findAll text).map String.ofList
  | .javascript =>
    ((importStatement.orElse requireCall).findAll text).map fun found =>
      trim (String.ofList found)

def functions (language : Language) (code : String) : List String :=
  let text := code.toList
  match language with
  | .python => ((announcedFunction "def").findAll text).map String.ofList
  | .c | .cpp =>
    ((typedFunction.findAll text).filter fun found =>
      !statementWords.contains (String.ofList found.1)).map fun found => String.ofList found.2
  | .javascript =>
    (((announcedFunction "function").orElse boundFunction).findAll text).map String.ofList

def classes (code : String) : List String :=
  (classHead.findAll code.toList).map String.ofList

end CodeMentor.Source
