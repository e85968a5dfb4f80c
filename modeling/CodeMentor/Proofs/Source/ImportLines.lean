import CodeMentor.Proofs.Source.Expressions
import CodeMentor.Source.Declarations

/-!
# Import lines

The imports of a Python text are found by an expression with a greedy, a lazy and two anchored
parts. Its first way at a place is worked out part by part, from the last to the first: the lazy
part stops in front of the blanks that end the line, and no other part gains anything by taking less
than it can. So a match is a line without its blanks, and a search for all matches is a filter of
the lines, which is the main result.
-/

namespace CodeMentor.Source

open CodeMentor.Text

/-! ## The expression -/

/-- A character of the name of a module. -/
def isTarget (c : Char) : Bool :=
  isWord c || c == '.'

def staysOnLine (c : Char) : Bool :=
  c != '\n'

/-- The expression `^[ \t]*((?:import|from)[ \t]+[\w.]+.*?)[ \t]*$`, with its ends at line ends. -/
def importExpression : Capture where
  front := .seq .lineStart (.greedy isIndent)
  group := .seq (.either (.keyword "import") (.keyword "from"))
    (.seq (.oneOrMore isIndent) (.seq (.oneOrMore isTarget) (.lazy staysOnLine)))
  back := .seq (.greedy isIndent) .lineEnd

theorem staysOnLine_of_isIndent {c : Char} (h : isIndent c = true) : staysOnLine c = true := by
  simp only [isIndent, Bool.or_eq_true, beq_iff_eq] at h
  rcases h with rfl | rfl <;> rfl

theorem isTarget_of_isIndent {c : Char} (h : isIndent c = true) : isTarget c = false := by
  simp only [isIndent, Bool.or_eq_true, beq_iff_eq] at h
  rcases h with rfl | rfl <;> decide

theorem isIndent_of_isTarget {c : Char} (h : isTarget c = true) : isIndent c = false := by
  cases hindent : isIndent c with
  | true => rwa [isTarget_of_isIndent hindent, eq_comm] at h
  | false => rfl

theorem endsRun_isIndent {rest : List Char} (h : EndsRun staysOnLine rest) :
    EndsRun isIndent rest := by
  intro c hc
  cases hindent : isIndent c with
  | true => rw [← h c hc, staysOnLine_of_isIndent hindent]
  | false => rfl

theorem staysOnLine_of_isTarget {c : Char} (h : isTarget c = true) : staysOnLine c = true := by
  have hne : c ≠ '\n' := by
    rintro rfl
    exact absurd h (by decide)
  simpa [staysOnLine] using hne

/-! ## Import statements -/

/-- The text behind the start of an import statement, which is its first word, blanks, and the first
characters of a module. -/
def target? (text : List Char) : Option (List Char) :=
  ((keyword? "import" text).or (keyword? "from" text)).bind fun rest ↦
    (some? isIndent rest).bind (some? isTarget)

/-- The line starts with the keyword of an import, blanks, and the first character of a module. -/
def IsImport (line : List Char) : Prop :=
  ∃ keyword ∈ ["import", "from"], ∃ blanks c rest, IsRun isIndent blanks ∧
    (isWord c = true ∨ c = '.') ∧ line = keyword.toList ++ (blanks ++ c :: rest)

theorem staysOnLine_of_mem_keyword {keyword : String} (hkeyword : keyword ∈ ["import", "from"]) :
    ∀ c ∈ keyword.toList, staysOnLine c = true := by
  simp only [List.mem_cons, List.not_mem_nil, or_false] at hkeyword
  rcases hkeyword with rfl | rfl <;> exact List.all_eq_true.mp rfl

theorem keyword?_or_eq_some_iff {text rest : List Char} :
    (keyword? "import" text).or (keyword? "from" text) = some rest ↔
      ∃ keyword ∈ ["import", "from"], text = keyword.toList ++ rest := by
  constructor
  · intro h
    rw [Option.or_eq_some_iff, keyword?_eq_some_iff, keyword?_eq_some_iff] at h
    rcases h with h | ⟨-, h⟩
    · exact ⟨"import", by simp, h⟩
    · exact ⟨"from", by simp, h⟩
  · rintro ⟨keyword, hkeyword, rfl⟩
    simp only [List.mem_cons, List.not_mem_nil, or_false] at hkeyword
    rcases hkeyword with rfl | rfl <;> rfl

theorem isTarget_iff {c : Char} : isTarget c = true ↔ isWord c = true ∨ c = '.' := by
  simp [isTarget]

theorem target?_eq_some_iff {text rest : List Char} :
    target? text = some rest ↔
      ∃ keyword ∈ ["import", "from"], ∃ blanks target, IsRun isIndent blanks ∧
        IsRun isTarget target ∧ EndsRun isTarget rest ∧
        text = keyword.toList ++ (blanks ++ (target ++ rest)) := by
  simp only [target?, Option.bind_eq_some_iff, keyword?_or_eq_some_iff, some?_eq_some_iff]
  constructor
  · rintro ⟨_, ⟨keyword, hkeyword, rfl⟩, _, ⟨blanks, hblanks, -, rfl⟩, target, htarget, hrest, rfl⟩
    exact ⟨keyword, hkeyword, blanks, target, hblanks, htarget, hrest, rfl⟩
  · rintro ⟨keyword, hkeyword, blanks, target, hblanks, htarget, hrest, rfl⟩
    have hend : EndsRun isIndent (target ++ rest) :=
      htarget.endsRun (fun _ ↦ isIndent_of_isTarget) rest
    exact ⟨_, ⟨keyword, hkeyword, rfl⟩, _, ⟨blanks, hblanks, hend, rfl⟩, target, htarget, hrest, rfl⟩

theorem isSome_target?_iff {text : List Char} :
    (target? text).isSome = true ↔ IsImport text := by
  simp only [Option.isSome_iff_exists, target?_eq_some_iff, IsImport, ← isTarget_iff]
  constructor
  · rintro ⟨rest, keyword, hkeyword, blanks, target, hblanks, htarget, -, rfl⟩
    obtain ⟨c, target, rfl⟩ := List.exists_cons_of_ne_nil htarget.ne
    exact ⟨keyword, hkeyword, blanks, c, target ++ rest, hblanks, htarget.all c (by simp), rfl⟩
  · rintro ⟨keyword, hkeyword, blanks, c, rest, hblanks, hc, rfl⟩
    refine ⟨rest.dropWhile isTarget, keyword, hkeyword, blanks, c :: rest.takeWhile isTarget, hblanks,
      ⟨by simp, ?_⟩, endsRun_dropWhile _ _, ?_⟩
    · intro d hd
      rcases List.mem_cons.mp hd with rfl | hd
      · exact hc
      · exact List.mem_takeWhile_imp hd
    · rw [List.cons_append, List.takeWhile_append_dropWhile]

instance : DecidablePred IsImport := fun _ ↦ decidable_of_iff _ isSome_target?_iff

theorem target?_cons_of_isIndent {c : Char} (h : isIndent c = true) (rest : List Char) :
    target? (c :: rest) = none := by
  simp only [isIndent, Bool.or_eq_true, beq_iff_eq] at h
  rcases h with rfl | rfl <;> rfl

/-- The start of a statement is on one line and has no blank at its end. -/
theorem exists_of_target? {text rest : List Char} (h : target? text = some rest) :
    ∃ passed c, text = passed ++ c :: rest ∧ isIndent c = false ∧
      ∀ d ∈ passed ++ [c], staysOnLine d = true := by
  obtain ⟨keyword, hkeyword, blanks, target, hblanks, htarget, -, rfl⟩ := target?_eq_some_iff.mp h
  obtain ⟨target, c, rfl⟩ := List.eq_nil_or_concat target |>.resolve_left htarget.ne
  refine ⟨keyword.toList ++ (blanks ++ target), c, by simp, ?_, ?_⟩
  · exact isIndent_of_isTarget (htarget.all c (by simp))
  · intro d hd
    simp only [List.append_assoc, List.mem_append] at hd
    rcases hd with hd | hd | hd
    · exact staysOnLine_of_mem_keyword hkeyword d hd
    · exact staysOnLine_of_isIndent (hblanks.all d hd)
    · exact staysOnLine_of_isTarget (htarget.all d (by simpa using hd))

theorem IsImport.append {line : List Char} (h : IsImport line) (more : List Char) :
    IsImport (line ++ more) := by
  obtain ⟨keyword, hkeyword, blanks, c, rest, hblanks, hc, rfl⟩ := h
  exact ⟨keyword, hkeyword, blanks, c, rest ++ more, hblanks, hc, by simp⟩

/-- The start of an import is on one line, so the next lines have no part in it. -/
theorem isImport_append_iff {line left : List Char} (hleft : EndsRun staysOnLine left) :
    IsImport (line ++ left) ↔ IsImport line := by
  refine ⟨?_, fun h ↦ h.append left⟩
  rintro ⟨keyword, hkeyword, blanks, c, rest, hblanks, hc, hsplit⟩
  have hstart : ∀ d ∈ keyword.toList ++ blanks ++ [c], staysOnLine d = true := by
    intro d hd
    simp only [List.mem_append, List.mem_singleton] at hd
    rcases hd with (hd | hd) | rfl
    · exact staysOnLine_of_mem_keyword hkeyword d hd
    · exact staysOnLine_of_isIndent (hblanks.all d hd)
    · exact staysOnLine_of_isTarget (isTarget_iff.mpr hc)
  have hparts : line ++ left = keyword.toList ++ blanks ++ [c] ++ rest := by simp [hsplit]
  obtain ⟨more, hstart', hrest⟩ | ⟨more, hline, -⟩ := List.append_eq_append_iff.mp hparts
  · -- Otherwise the start would reach into what follows the line.
    obtain rfl : more = [] := by
      rcases more with _ | ⟨d, more⟩
      · rfl
      · have hd := hstart d (by rw [hstart']; simp)
        rw [hleft d (by rw [hrest]; rfl)] at hd
        cases hd
    exact ⟨keyword, hkeyword, blanks, c, [], hblanks, hc, by simpa using hstart'.symm⟩
  · exact ⟨keyword, hkeyword, blanks, c, more, hblanks, hc, by simp [hline]⟩

theorem isImport_dropEndWhile_iff {line : List Char} :
    IsImport (dropEndWhile isIndent line) ↔ IsImport line := by
  constructor
  · intro h
    have hline := h.append (line.rtakeWhile isIndent)
    rwa [dropEndWhile_eq_rdropWhile, List.rdropWhile_append_rtakeWhile] at hline
  · rintro ⟨keyword, hkeyword, blanks, c, rest, hblanks, hc, rfl⟩
    have hindent := isIndent_of_isTarget (isTarget_iff.mpr hc)
    refine ⟨keyword, hkeyword, blanks, c, dropEndWhile isIndent rest, hblanks, hc, ?_⟩
    rw [← List.append_assoc, dropEndWhile_append_cons hindent, List.append_assoc]

/-! ## The first way -/

theorem endsLine_of_endsRun {rest : List Char} (h : EndsRun staysOnLine rest)
    (before : Option Char) : Place.endsLine ⟨before, rest⟩ = true := by
  cases rest with
  | nil => rfl
  | cons c rest => simpa [Place.endsLine, staysOnLine] using h c rfl

theorem endsLine_cons {c : Char} (h : staysOnLine c = true) (before : Option Char)
    (rest : List Char) : Place.endsLine ⟨before, c :: rest⟩ = false := by
  simpa [Place.endsLine, staysOnLine] using h

section Back

variable {α : Type} (k : Place → Option α) (before : Option Char)

/-- The blanks are taken up to the last one, and then the line must end. -/
theorem first_back (text : List Char) :
    importExpression.back.first k ⟨before, text⟩ =
      let stop : Place := ⟨lastOf before (text.takeWhile isIndent), text.dropWhile isIndent⟩
      if stop.endsLine then k stop else none := by
  have hall : Expression.TakesAll isIndent (Expression.lineEnd.first k) := by
    refine .inr fun b c rest hc ↦ ?_
    rw [Expression.first_lineEnd, endsLine_cons (staysOnLine_of_isIndent hc)]
    rfl
  rw [importExpression, Expression.first_seq, Expression.first_greedy _ hall,
    Expression.first_lineEnd]

theorem first_back_blanks {blanks left : List Char} (hblanks : ∀ c ∈ blanks, isIndent c = true)
    (hleft : EndsRun staysOnLine left) :
    importExpression.back.first k ⟨before, blanks ++ left⟩ = k ⟨lastOf before blanks, left⟩ := by
  have hend := endsRun_isIndent hleft
  rw [first_back, takeWhile_append_of_endsRun hblanks hend,
    dropWhile_append_of_endsRun hblanks hend]
  simp only [endsLine_of_endsRun hleft, if_true]

/-- In front of a character that is no blank, blanks do not end the line. -/
theorem first_back_of_mem {text : List Char} {c : Char} (hc : c ∈ text)
    (hindent : isIndent c = false) (htext : ∀ d ∈ text, staysOnLine d = true) (left : List Char) :
    importExpression.back.first k ⟨before, text ++ left⟩ = none := by
  obtain ⟨d, rest, hrest⟩ := List.exists_cons_of_ne_nil (l := text.dropWhile isIndent)
    fun hnil ↦ by simp [List.dropWhile_eq_nil_iff.mp hnil c hc] at hindent
  have hd : staysOnLine d = true :=
    htext d ((List.dropWhile_sublist isIndent).mem (by rw [hrest]; simp))
  rw [first_back, List.dropWhile_append, hrest]
  simp [endsLine_cons hd]

end Back

/-- What is captured if the group stops at a place. -/
def captureAt (text : List Char) (stop : Place) : Option (List Char × List Char) :=
  importExpression.back.first (fun last ↦ some (upTo text stop.rest, last.rest)) stop

/-- The lazy part takes what it must: up to the last character of the line that is no blank. The
induction is on what it takes. -/
theorem first_tail {kept blanks left : List Char} (hkept : ∀ c ∈ kept, staysOnLine c = true)
    (hlast : ∀ c, kept.getLast? = some c → isIndent c = false)
    (hblanks : ∀ c ∈ blanks, isIndent c = true) (hleft : EndsRun staysOnLine left)
    (before : Option Char) (text : List Char) :
    (Expression.lazy staysOnLine).first (captureAt text) ⟨before, kept ++ (blanks ++ left)⟩ =
      some (upTo text (blanks ++ left), left) := by
  induction kept generalizing before with
  | nil =>
      apply Expression.first_lazy_of_some
      exact first_back_blanks _ before hblanks hleft
  | cons c kept ih =>
      obtain ⟨d, hd⟩ : ∃ d, (c :: kept).getLast? = some d := ⟨_, List.getLast?_cons⟩
      have hhere : captureAt text ⟨before, c :: (kept ++ (blanks ++ left))⟩ = none :=
        first_back_of_mem _ before (List.mem_of_getLast? hd) (hlast d hd) hkept (blanks ++ left)
      obtain ⟨hc, hkept⟩ := List.forall_mem_cons.mp hkept
      refine (Expression.first_lazy_of_none hc hhere).trans (ih hkept ?_ (some c))
      intro e he
      exact hlast e (by rw [List.getLast?_cons, he]; rfl)

/-- What a capture leaves out behind a place: the blanks at the end of the line, and the next
lines. -/
def leftOut (rest : List Char) : List Char :=
  (rest.takeWhile staysOnLine).rtakeWhile isIndent ++ rest.dropWhile staysOnLine

theorem append_leftOut (rest : List Char) :
    dropEndWhile isIndent (rest.takeWhile staysOnLine) ++ leftOut rest = rest := by
  rw [leftOut, dropEndWhile_eq_rdropWhile, ← List.append_assoc, List.rdropWhile_append_rtakeWhile,
    List.takeWhile_append_dropWhile]

/-- From any place the lazy part goes on to the end of the line. -/
theorem first_tail_line (text rest : List Char) (before : Option Char) :
    (Expression.lazy staysOnLine).first (captureAt text) ⟨before, rest⟩ =
      some (upTo text (leftOut rest), rest.dropWhile staysOnLine) := by
  conv_lhs => rw [← append_leftOut rest]
  refine first_tail ?_ ?_ ?_ (endsRun_dropWhile _ _) before text
  · intro c hc
    exact List.mem_takeWhile_imp ((List.rdropWhile_prefix _ _).mem hc)
  · intro c hc
    exact eq_false_of_getLast?_dropEndWhile hc
  · intro c hc
    exact List.mem_rtakeWhile_imp hc

theorem first_module (text rest : List Char) (before : Option Char) :
    (Expression.seq (.oneOrMore isTarget) (.lazy staysOnLine)).first (captureAt text)
        ⟨before, rest⟩ =
      (some? isTarget rest).map fun rest ↦
        (upTo text (leftOut rest), rest.dropWhile staysOnLine) := by
  have hall : Expression.TakesAll isTarget
      ((Expression.lazy staysOnLine).first (captureAt text)) :=
    .inl fun b ↦ by rw [first_tail_line]; rfl
  simp only [Expression.first_seq, Expression.first_oneOrMore _ hall, first_tail_line,
    Option.map_eq_bind, Function.comp_def]

theorem first_arguments (text rest : List Char) (before : Option Char) :
    (Expression.seq (.oneOrMore isIndent) (.seq (.oneOrMore isTarget) (.lazy staysOnLine))).first
        (captureAt text) ⟨before, rest⟩ =
      ((some? isIndent rest).bind (some? isTarget)).map fun rest ↦
        (upTo text (leftOut rest), rest.dropWhile staysOnLine) := by
  have hall : Expression.TakesAll isIndent
      ((Expression.seq (.oneOrMore isTarget) (.lazy staysOnLine)).first (captureAt text)) :=
    .inr fun b c rest hc ↦ by
      rw [first_module, some?, isTarget_of_isIndent hc]
      rfl
  simp only [Expression.first_seq (Expression.oneOrMore isIndent),
    Expression.first_oneOrMore _ hall, first_module, Option.map_bind, Function.comp_def]

theorem captured_of_target? {text rest : List Char} (h : target? text = some rest) :
    (upTo text (leftOut rest), rest.dropWhile staysOnLine) =
      (dropEndWhile isIndent (text.takeWhile staysOnLine), text.dropWhile staysOnLine) := by
  obtain ⟨passed, c, rfl, hindent, hline⟩ := exists_of_target? h
  have hcut : passed ++ c :: rest = passed ++ [c] ++ rest := by simp
  have hkept : dropEndWhile isIndent ((passed ++ c :: rest).takeWhile staysOnLine) =
      passed ++ c :: dropEndWhile isIndent (rest.takeWhile staysOnLine) := by
    rw [hcut, List.takeWhile_append_of_pos hline, List.append_assoc, List.singleton_append,
      dropEndWhile_append_cons hindent]
  have hsplit : passed ++ c :: rest =
      passed ++ c :: dropEndWhile isIndent (rest.takeWhile staysOnLine) ++ leftOut rest := by
    rw [List.append_assoc, List.cons_append, append_leftOut]
  rw [hkept, hsplit, upTo_append, ← hsplit, hcut, List.dropWhile_append_of_pos hline]

/-- The group and the part behind it: what is captured is the line from the place on, without the
blanks at its end. -/
theorem first_group (start : Place) :
    importExpression.group.first (captureAt start.rest) start =
      (target? start.rest).map fun _ ↦
        (dropEndWhile isIndent (start.rest.takeWhile staysOnLine),
          start.rest.dropWhile staysOnLine) := by
  obtain ⟨before, text⟩ := start
  have hfirst : importExpression.group.first (captureAt text) ⟨before, text⟩ =
      (target? text).map fun rest ↦ (upTo text (leftOut rest), rest.dropWhile staysOnLine) := by
    rw [importExpression, Expression.first_seq, Expression.first_either, Expression.first_keyword,
      Expression.first_keyword, target?]
    simp only [first_arguments]
    cases himport : keyword? "import" text with
    | none =>
        cases keyword? "from" text with
        | none => rfl
        | some rest => rfl
    | some rest =>
        -- The two words start with different letters.
        have hfrom : keyword? "from" text = none := by
          rw [keyword?_eq_some_iff] at himport
          rw [himport]
          rfl
        rw [hfrom, Option.bind_none, Option.or_none, Option.or_none, Option.bind_some,
          Option.bind_some]
  rw [hfirst]
  cases htarget : target? text with
  | none => rfl
  | some rest => exact congrArg some (captured_of_target? htarget)

theorem importLine_eq (before : Option Char) (text : List Char) :
    importLine before text =
      if lineStarts before then
        (target? (text.dropWhile isIndent)).map fun _ ↦
          (dropEndWhile isIndent ((text.dropWhile isIndent).takeWhile staysOnLine),
            (text.dropWhile isIndent).dropWhile staysOnLine)
      else none := by
  have htarget : (fun c ↦ isWord c || c == '.') = isTarget := rfl
  have hstays : (fun c ↦ c != '\n') = staysOnLine := rfl
  simp only [importLine, target?, htarget, hstays, List.span_eq_takeWhile_dropWhile,
    Option.map_eq_bind, Option.bind_assoc]
  rfl

/-- An import line is what the expression captures on the first of its ways. -/
theorem importLine_eq_pattern : importLine = importExpression.pattern := by
  funext before text
  have hall : Expression.TakesAll isIndent fun start ↦
      importExpression.group.first (captureAt start.rest) start := by
    refine .inr fun b c rest hc ↦ (first_group ⟨b, c :: rest⟩).trans ?_
    rw [target?_cons_of_isIndent hc]
    rfl
  have hfront : importExpression.pattern before text =
      importExpression.front.first (fun start ↦
        importExpression.group.first (captureAt start.rest) start) ⟨before, text⟩ :=
    Capture.pattern_eq _ before text
  have hstart : importExpression.front = .seq .lineStart (.greedy isIndent) := rfl
  rw [importLine_eq, hfront, hstart, Expression.first_seq, Expression.first_lineStart,
    Expression.first_greedy _ hall, first_group]

/-! ## Lines -/

variable {before : Option Char} {line left : List Char}

/-- At the start of a line. -/
theorem importLine_line (hbefore : lineStarts before = true)
    (hline : ∀ c ∈ line, staysOnLine c = true) (hleft : EndsRun staysOnLine left) :
    importLine before (line ++ left) =
      if IsImport (strip isIndent line) then some (strip isIndent line, left) else none := by
  have hbody : (line ++ left).dropWhile isIndent = line.dropWhile isIndent ++ left := by
    rw [List.dropWhile_append]
    cases hdrop : line.dropWhile isIndent with
    | nil => exact dropWhile_append_of_endsRun (w := []) (by simp) (endsRun_isIndent hleft)
    | cons c rest => rfl
  have hstays : ∀ c ∈ line.dropWhile isIndent, staysOnLine c = true := fun c hc ↦
    hline c ((List.dropWhile_sublist isIndent).mem hc)
  rw [importLine_eq, if_pos hbefore, hbody, takeWhile_append_of_endsRun hstays hleft,
    dropWhile_append_of_endsRun hstays hleft, strip]
  have hiff : IsImport (dropEndWhile isIndent (line.dropWhile isIndent)) ↔
      (target? (line.dropWhile isIndent ++ left)).isSome = true := by
    rw [isImport_dropEndWhile_iff, isSome_target?_iff, isImport_append_iff hleft]
  simp only [hiff]
  cases target? (line.dropWhile isIndent ++ left) <;> rfl

/-- Inside a line. -/
theorem importLine_of_not_lineStarts (hbefore : lineStarts before = false) (text : List Char) :
    importLine before text = none := by
  rw [importLine, hbefore]
  rfl

/-- A search takes from a line what the line gives, and goes on behind the line in any case. -/
theorem scan_importLine_line (hbefore : lineStarts before = true)
    (hline : ∀ c ∈ line, staysOnLine c = true) (hleft : EndsRun staysOnLine left) :
    importLine.scan 0 before (line ++ left) =
      [strip isIndent line].filter (IsImport ·) ++ importLine.scan 0 (lastOf before line) left := by
  have hhere := importLine_line hbefore hline hleft
  by_cases himport : IsImport (strip isIndent line)
  · obtain ⟨c, rest, rfl⟩ : ∃ c rest, line = c :: rest := by
      refine List.exists_cons_of_ne_nil ?_
      rintro rfl
      exact absurd himport (by decide)
    rw [if_pos himport] at hhere
    rw [Pattern.scan_of_match hhere rfl, lastOf_cons]
    simp [himport]
  · have hpasses : importLine.Passes before line left := by
      rintro u c v rfl
      rcases List.eq_nil_or_concat u with rfl | ⟨u, d, rfl⟩
      · rw [if_neg himport] at hhere
        exact hhere
      · have hd : staysOnLine d = true := hline d (by simp)
        refine importLine_of_not_lineStarts ?_ _
        simpa [lastOf, lineStarts, staysOnLine] using hd
    rw [Pattern.scan_of_passes hpasses]
    simp [himport]

theorem scan_importLine_newline (before : Option Char) (rest : List Char) :
    importLine.scan 0 before ('\n' :: rest) = importLine.scan 0 (some '\n') rest := by
  have hnone : importLine before ('\n' :: rest) = none := by
    rw [importLine_eq]
    split <;> rfl
  exact Pattern.scan_of_passes (w := ['\n'])
    (Pattern.passes_cons.mpr ⟨hnone, Pattern.passes_nil _ _⟩)

theorem scan_importLine_lines {lines : List (List Char)} (hne : lines ≠ [])
    (hlines : ∀ line ∈ lines, ∀ c ∈ line, staysOnLine c = true)
    (hbefore : lineStarts before = true) :
    importLine.scan 0 before (['\n'].intercalate lines) =
      (lines.map (strip isIndent)).filter (IsImport ·) := by
  induction lines generalizing before with
  | nil => exact absurd rfl hne
  | cons line rest ih =>
      obtain ⟨hline, hrest⟩ := List.forall_mem_cons.mp hlines
      cases rest with
      | nil =>
          have hend : EndsRun staysOnLine [] := by simp [EndsRun]
          have hscan := scan_importLine_line hbefore hline hend
          rw [List.append_nil, Pattern.scan, List.append_nil] at hscan
          rwa [List.intercalate_singleton]
      | cons next rest =>
          have hnewline := endsRun_cons (p := staysOnLine) (c := '\n') rfl
            (['\n'].intercalate (next :: rest))
          rw [List.intercalate_cons_cons, List.append_assoc, List.singleton_append,
            scan_importLine_line hbefore hline hnewline, scan_importLine_newline,
            ih (by simp) hrest rfl, ← List.filter_append, ← List.map_singleton, ← List.map_append,
            List.singleton_append]

/-- The imports of a Python text are what the expression captures on its matches, and these are the
lines, without the blanks around them, that are imports. -/
theorem imports_python_eq_lines (code : String) :
    imports .python code = (importExpression.pattern.findAll code.toList).map String.ofList ∧
      imports .python code =
        (((code.toList.splitOn '\n').map (strip isIndent)).filter (IsImport ·)).map
          String.ofList := by
  refine ⟨by rw [← importLine_eq_pattern, imports], ?_⟩
  have hsplit : code.toList.splitOn '\n' = pieces (· == '\n') code.toList :=
    (pieces_eq_splitOnP _ _).symm
  have hlines : ∀ line ∈ pieces (· == '\n') code.toList, ∀ c ∈ line, staysOnLine c = true := by
    intro line hline c hc
    simpa [staysOnLine] using separates_eq_false_of_mem hline c hc
  have hstart : lineStarts none = true := rfl
  have hscan := scan_importLine_lines (pieces_ne_nil _ _) hlines hstart
  rw [intercalate_pieces] at hscan
  rw [imports, Pattern.findAll, hscan, hsplit]

/-- A carriage return is a part of its line, and no import goes on behind a newline. -/
example : imports .python "import os\r\n\timport os \nfrom\n.a\nimportant x" =
    ["import os\r", "import os"] := by
  decide +kernel

end CodeMentor.Source
