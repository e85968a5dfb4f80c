import CodeMentor.Text.Pieces

/-!
# Prompts

The texts sent to the model. Each is a list of lines: an instruction, the code between fences or the
question, a numbered list of what to cover, and a last line that names the language of the reply
when one is configured.
-/

namespace CodeMentor.Prompt

/-- The line that asks for a reply in a language. -/
def replyLines (replyLanguage : Option String) : List String :=
  match replyLanguage.bind trimmed? with
  | some language => ["", s!"Answer in {language}."]
  | none => []

/-- Code between fences, without newlines at its end. -/
def fenced (language code : String) : List String :=
  ["```" ++ language, dropEndChar code '\n', "```"]

/-- Items with their numbers, from `first` on. -/
def numberedFrom (first : Nat) : List String → List String
  | [] => []
  | item :: rest => s!"{first}. {item}" :: numberedFrom (first + 1) rest

def numbered (heading : String) (items : List String) : List String :=
  "" :: heading :: numberedFrom 1 items

/-- A language with a blank behind it, or nothing. -/
def adjective (language : Option String) : String :=
  match language.bind trimmed? with
  | some language => language ++ " "
  | none => ""

def fenceLanguage (language : Option String) : String :=
  (language.map trim).getD ""

/-- How many characters of code a review prompt holds at most. -/
def sampleLimit : Nat := 4000

/-- The line about the characters that a sample leaves out. -/
def omissionLines (code : String) : List String :=
  let total := code.toList.length
  if sampleLimit < total then
    ["", s!"Note: the code was truncated; {total - sampleLimit} more characters were omitted."]
  else []

/-- Ask for a review of the first part of the code. -/
def analysis (code language : String) (replyLanguage : Option String) : String :=
  let sample := String.ofList (code.toList.take sampleLimit)
  unlines <|
    [s!"Analyze the following {language} code and suggest improvements:", ""] ++
    fenced language sample ++
    numbered "Cover the following aspects:"
      ["Code quality and readability",
       "Performance optimization opportunities",
       "Security issues",
       "Adherence to best practices",
       "Concrete improvement suggestions"] ++
    omissionLines code ++
    replyLines replyLanguage

def ask (question : String) (context replyLanguage : Option String) : String :=
  unlines <|
    (match context.filter (!blank ·) with
    | some context =>
      ["Context:", context, "", s!"Question: {question}", "",
       "Use the context above when answering."]
    | none => [question]) ++
    replyLines replyLanguage

/-- Ask a programming question, with a special field if one is given. -/
def codingHelp (question : String) (language replyLanguage : Option String) : String :=
  unlines <|
    ["You are a " ++ adjective language ++
      "programming expert. Give a detailed, practical answer to this question:",
     "", question] ++
    numbered "Include:"
      ["A clear explanation",
       "Code examples where possible",
       "Best practices",
       "Caveats and tips"] ++
    replyLines replyLanguage

def explain (code : String) (language replyLanguage : Option String) : String :=
  unlines <|
    ["Explain the following " ++ adjective language ++ "code in detail:", ""] ++
    fenced (fenceLanguage language) code ++
    numbered "Cover:"
      ["Overall purpose and behaviour",
       "Main logic and algorithms",
       "The role of each part",
       "Techniques or patterns used",
       "Possible improvements"] ++
    replyLines replyLanguage

/-- Ask for the cause of an error, or for a review when no error is known. -/
def debug (code : String) (errorMessage language replyLanguage : Option String) : String :=
  unlines <|
    (match errorMessage.filter (!blank ·) with
    | some message =>
      ["The following " ++ adjective language ++
        "code fails with an error. Find the problem and explain how to fix it.",
       "", "Code:"] ++
      fenced (fenceLanguage language) code ++
      ["", "Error message:"] ++
      fenced "" message ++
      numbered "Include:"
        ["The root cause of the error",
         "A concrete fix",
         "The corrected code",
         "Tips to avoid similar errors"]
    | none =>
      ["Review the following " ++ adjective language ++
        "code for potential problems and improvements:", ""] ++
      fenced (fenceLanguage language) code ++
      numbered "Check for:"
        ["Syntax errors",
         "Logic errors",
         "Performance problems",
         "Security issues",
         "Code quality improvements"]) ++
    replyLines replyLanguage

def generate (description language : String) (replyLanguage : Option String) : String :=
  unlines <|
    [s!"Write {language} code that satisfies the following description.", "",
     s!"Requirements: {description}"] ++
    numbered "Structure the answer as:"
      ["A short explanation of the code",
       "Complete, runnable code",
       "A usage example",
       "Further improvement ideas"] ++
    ["", "Keep the code clear and readable with helpful comments."] ++
    replyLines replyLanguage

end CodeMentor.Prompt
