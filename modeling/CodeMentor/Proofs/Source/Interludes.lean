import CodeMentor.Source.Nesting
import Mathlib.Data.List.Infix

/-!
# Comments and literals in braces

The scanner for braces reads a text piece by piece: cut where it does not look ahead, a text has the
braces of its first part, followed by those that its second part has from the mode behind the first.
Every comment and every literal takes the scanner from code back to code and lists nothing. So it
can be put in wherever code is read, and the depth stays what it was.
-/

namespace CodeMentor.Source

/-! ## One character -/

section Step

variable {mode : Mode} {quote c : Char} {rest : List Char}

def braceOf (c : Char) : List Brace :=
  if c = '\x7b' then [.opening] else if c = '\x7d' then [.closing] else []

/-- The mode behind a character that is read as code by itself. -/
def Mode.behindCode (c : Char) : Mode :=
  if c = '"' ∨ c = '\'' ∨ c = '\x60' then .literal c else .code

/-- The mode behind a character of a literal that nothing escapes. -/
def Mode.behindLiteral (quote c : Char) : Mode :=
  if c = quote ∨ c = '\n' ∧ quote ≠ '\x60' then .code else .literal quote

def Mode.behindLineComment (c : Char) : Mode :=
  if c = '\n' then .code else .lineComment

theorem codeBraces_code (h₁ : ∀ rest', c = '/' → rest = '/' :: rest' → False)
    (h₂ : ∀ rest', c = '/' → rest = '*' :: rest' → False) :
    codeBraces .code (c :: rest) = braceOf c ++ codeBraces (.behindCode c) rest := by
  rw [codeBraces]
  · by_cases hquote : c = '"' ∨ c = '\'' ∨ c = '\x60'
    · have hnone : braceOf c = [] := by
        rcases hquote with rfl | rfl | rfl <;> rfl
      simp [Mode.behindCode, hquote, hnone]
    · simp only [Mode.behindCode, if_neg hquote, braceOf]
      split_ifs <;> rfl
  · exact h₁
  · exact h₂

theorem codeBraces_literal (h : c ≠ '\\') :
    codeBraces (.literal quote) (c :: rest) = codeBraces (.behindLiteral quote c) rest := by
  rw [codeBraces]
  · rw [Mode.behindLiteral]
    split_ifs <;> rfl
  · exact fun _ _ hc _ ↦ h hc

theorem codeBraces_lineComment :
    codeBraces .lineComment (c :: rest) = codeBraces (.behindLineComment c) rest := by
  rw [codeBraces, Mode.behindLineComment]
  split_ifs <;> rfl

theorem codeBraces_blockComment (h : ∀ rest', c = '*' → rest = '/' :: rest' → False) :
    codeBraces .blockComment (c :: rest) = codeBraces .blockComment rest := by
  rw [codeBraces]
  exact h

end Step

/-! ## Reading in parts -/

/-- The mode of the scanner behind a text that it reads from the given mode on. -/
def modeBehind : Mode → List Char → Mode
  | mode, [] => mode
  | .code, '/' :: '/' :: rest => modeBehind .lineComment rest
  | .code, '/' :: '*' :: rest => modeBehind .blockComment rest
  | .code, c :: rest => modeBehind (.behindCode c) rest
  | .literal quote, ['\\'] => .literal quote
  | .literal quote, '\\' :: _ :: rest => modeBehind (.literal quote) rest
  | .literal quote, c :: rest => modeBehind (.behindLiteral quote c) rest
  | .lineComment, c :: rest => modeBehind (.behindLineComment c) rest
  | .blockComment, '*' :: '/' :: rest => modeBehind .code rest
  | .blockComment, _ :: rest => modeBehind .blockComment rest

/-- What the scanner does with this character depends on the next one. -/
def Mode.looksAhead : Mode → Char → Bool
  | .code, c => c == '/'
  | .literal _, c => c == '\\'
  | .lineComment, _ => false
  | .blockComment, c => c == '*'

/-- The scanner has read the text to its end and needs to know nothing about what follows. -/
def Settled (mode : Mode) (text : List Char) : Prop :=
  ∀ c, text.getLast? = some c → (modeBehind mode text).looksAhead c = false

theorem getLast?_of_cons {P : Char → Prop} {c : Char} {rest : List Char}
    (h : ∀ d, (c :: rest).getLast? = some d → P d) : ∀ d, rest.getLast? = some d → P d := by
  intro d hd
  refine h d ?_
  rw [List.getLast?_cons, hd]
  rfl

/-- Where no pair of characters starts, none starts after more text is put behind, unless the first
character was the last one. -/
theorem no_pair_append {a b c : Char} {rest : List Char}
    (h : ∀ rest', c = a → rest = b :: rest' → False) (hlast : rest = [] → c ≠ a)
    (s rest' : List Char) : c = a → rest ++ s = b :: rest' → False := by
  intro hc happend
  cases rest with
  | nil => exact hlast rfl hc
  | cons d rest =>
      obtain ⟨rfl, -⟩ := List.cons.inj happend
      exact h rest hc rfl

/-- A text can be read in two parts, unless the scanner looks ahead at the end of the first. -/
theorem codeBraces_append {mode : Mode} {p : List Char} (hp : Settled mode p) (s : List Char) :
    codeBraces mode (p ++ s) = codeBraces mode p ++ codeBraces (modeBehind mode p) s := by
  unfold Settled at hp
  fun_induction modeBehind mode p with
  | case1 mode => cases mode <;> rfl
  | case2 rest ih | case3 rest ih =>
      simp only [List.cons_append, codeBraces]
      exact ih (getLast?_of_cons (getLast?_of_cons hp))
  | case4 c rest h₁ h₂ ih =>
      have hlast : rest = [] → c ≠ '/' := by
        rintro rfl rfl
        cases hp '/' rfl
      rw [List.cons_append, codeBraces_code h₁ h₂,
        codeBraces_code (no_pair_append h₁ hlast s) (no_pair_append h₂ hlast s),
        ih (getLast?_of_cons hp), List.append_assoc]
  | case5 quote => cases hp '\\' rfl
  | case6 quote d rest ih =>
      simp only [List.cons_append, codeBraces]
      exact ih (getLast?_of_cons (getLast?_of_cons hp))
  | case7 quote c rest h₁ h₂ ih =>
      have hplain : c ≠ '\\' := by
        rintro rfl
        cases rest with
        | nil => exact h₁ rfl rfl
        | cons d rest => exact h₂ d rest rfl rfl
      rw [List.cons_append, codeBraces_literal hplain, codeBraces_literal hplain]
      exact ih (getLast?_of_cons hp)
  | case8 c rest ih =>
      rw [List.cons_append, codeBraces_lineComment, codeBraces_lineComment]
      exact ih (getLast?_of_cons hp)
  | case9 rest ih =>
      simp only [List.cons_append, codeBraces]
      exact ih (getLast?_of_cons (getLast?_of_cons hp))
  | case10 c rest h ih =>
      have hlast : rest = [] → c ≠ '*' := by
        rintro rfl rfl
        cases hp '*' rfl
      rw [List.cons_append, codeBraces_blockComment h,
        codeBraces_blockComment (no_pair_append h hlast s)]
      exact ih (getLast?_of_cons hp)

/-! ## Comments and literals -/

/-- What may stand in a literal with these quotes: a backslash takes the next character with it,
and neither the quote nor, unless the quote is a backtick, a line break stands by itself. -/
inductive LiteralBody (quote : Char) : List Char → Prop
  | nil : LiteralBody quote []
  | escape (c : Char) {rest : List Char} (h : LiteralBody quote rest) :
      LiteralBody quote ('\\' :: c :: rest)
  | plain {c : Char} {rest : List Char} (hbackslash : c ≠ '\\') (hquote : c ≠ quote)
      (hline : c = '\n' → quote = '\x60') (h : LiteralBody quote rest) :
      LiteralBody quote (c :: rest)

/-- A whole comment or a whole literal. -/
inductive Interlude : List Char → Prop
  | blockComment {body : List Char} (h : ¬ ['*', '/'] <:+: body) :
      Interlude (['/', '*'] ++ body ++ ['*', '/'])
  | lineComment {body : List Char} (h : '\n' ∉ body) : Interlude (['/', '/'] ++ body ++ ['\n'])
  | literal {quote : Char} {body : List Char} (hquote : quote ∈ ['"', '\'', '\x60'])
      (h : LiteralBody quote body) : Interlude ([quote] ++ body ++ [quote])

theorem codeBraces_blockComment_append {body : List Char} (h : ¬ ['*', '/'] <:+: body)
    (s : List Char) :
    codeBraces .blockComment (body ++ '*' :: '/' :: s) = codeBraces .code s := by
  induction body with
  | nil => rfl
  | cons c body ih =>
      have hpair : ∀ rest', c = '*' → body ++ '*' :: '/' :: s = '/' :: rest' → False := by
        rintro rest' rfl hrest
        cases body with
        | nil => cases hrest
        | cons d body =>
            obtain ⟨rfl, -⟩ := List.cons.inj hrest
            exact h ⟨[], body, rfl⟩
      rw [List.cons_append, codeBraces_blockComment hpair]
      exact ih fun hinfix ↦ h (List.infix_cons hinfix)

theorem codeBraces_lineComment_append {body : List Char} (h : '\n' ∉ body) (s : List Char) :
    codeBraces .lineComment (body ++ '\n' :: s) = codeBraces .code s := by
  induction body with
  | nil => rfl
  | cons c body ih =>
      obtain ⟨hc, hbody⟩ := List.ne_and_not_mem_of_not_mem_cons h
      rw [List.cons_append, codeBraces_lineComment, Mode.behindLineComment, if_neg (Ne.symm hc)]
      exact ih hbody

theorem codeBraces_literal_append {quote : Char} (hquote : quote ≠ '\\') {body : List Char}
    (h : LiteralBody quote body) (s : List Char) :
    codeBraces (.literal quote) (body ++ quote :: s) = codeBraces .code s := by
  induction h with
  | nil =>
      rw [List.nil_append, codeBraces_literal hquote, Mode.behindLiteral, if_pos (.inl rfl)]
  | escape c _ ih => simpa only [List.cons_append, codeBraces] using ih
  | @plain c rest hbackslash hends hline _ ih =>
      have hstays : ¬ (c = quote ∨ c = '\n' ∧ quote ≠ '\x60') := by
        rintro (hc | ⟨hc, hq⟩)
        · exact hends hc
        · exact hq (hline hc)
      rw [List.cons_append, codeBraces_literal hbackslash, Mode.behindLiteral, if_neg hstays]
      exact ih

/-- The scanner comes back to code behind a comment or a literal and has listed nothing. -/
theorem codeBraces_interlude {x : List Char} (h : Interlude x) (s : List Char) :
    codeBraces .code (x ++ s) = codeBraces .code s := by
  cases h with
  | @blockComment body h =>
      simpa [codeBraces] using codeBraces_blockComment_append h s
  | @lineComment body h =>
      simpa [codeBraces] using codeBraces_lineComment_append h s
  | @literal quote body hquote h =>
      simp only [List.mem_cons, List.not_mem_nil, or_false] at hquote
      have hne : quote ≠ '\\' ∧ quote ≠ '/' := by
        rcases hquote with rfl | rfl | rfl <;> decide
      have hbrace : braceOf quote = [] := by
        rcases hquote with rfl | rfl | rfl <;> rfl
      have happend : [quote] ++ body ++ [quote] ++ s = quote :: (body ++ quote :: s) := by simp
      rw [happend, codeBraces_code (fun _ hc _ ↦ hne.2 hc) (fun _ hc _ ↦ hne.2 hc), hbrace,
        Mode.behindCode, if_pos hquote, List.nil_append]
      exact codeBraces_literal_append hne.1 h s

/-- A comment or a literal may stand wherever code is read, unless a slash in front of it makes
another comment of it: the braces in code are the same, and so is the depth. -/
theorem braceDepth_insert_interlude {p x : List Char} (hmode : modeBehind .code p = .code)
    (hslash : p.getLast? ≠ some '/') (hx : Interlude x) (s : List Char) :
    codeBraces .code (p ++ x ++ s) = codeBraces .code (p ++ s) ∧
      braceDepth (p ++ x ++ s) = braceDepth (p ++ s) := by
  have hp : Settled .code p := by
    intro c hc
    rw [hmode]
    simp only [Mode.looksAhead, beq_eq_false_iff_ne, ne_eq]
    rintro rfl
    exact hslash hc
  have hbraces : codeBraces .code (p ++ x ++ s) = codeBraces .code (p ++ s) := by
    rw [List.append_assoc, codeBraces_append hp, codeBraces_append hp, hmode,
      codeBraces_interlude hx]
  exact ⟨hbraces, congrArg deepest hbraces⟩

/-- A literal with an escaped quote, a brace and the beginning of a comment. -/
theorem braceDepth_insert_interlude_quoted :
    let p := "if (a) \x7b b = '/*'; ".toList
    let x := "\"\\\"\x7b/*\"".toList
    let s := "if (c) \x7b\x7d \x7d".toList
    modeBehind .code p = .code ∧ p.getLast? ≠ some '/' ∧ Interlude x ∧
      braceDepth (p ++ x ++ s) = 2 := by
  intro p x s
  have hmode : modeBehind .code p = .code := by decide +kernel
  have hslash : p.getLast? ≠ some '/' := by decide +kernel
  have hbody : LiteralBody '"' ['\\', '"', '\x7b', '/', '*'] := by
    refine .escape '"' (.plain ?_ ?_ ?_ (.plain ?_ ?_ ?_ (.plain ?_ ?_ ?_ .nil))) <;> decide
  have hx : Interlude x := .literal (by decide) hbody
  refine ⟨hmode, hslash, hx, ?_⟩
  rw [(braceDepth_insert_interlude hmode hslash hx s).2]
  decide +kernel

end CodeMentor.Source
