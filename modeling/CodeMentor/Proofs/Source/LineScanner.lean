import CodeMentor.Proofs.Text.Pieces
import CodeMentor.Source.LineCount

/-!
# Scanning a line within its file

A scanner that has the whole file at hand may look at more than the line: it may compare the end of
an open literal with what follows the line as well, and it may leave the line at once where there is
nothing but white space up to the end of the file. Neither makes a difference. A mark has no newline
in it, so it does not end behind a line in which it starts; and a mark does not start with white
space, so white space changes no state.
-/

namespace CodeMentor.Source.LineCount

open CodeMentor.Text

/-! ## The scanner with the file at hand -/

/-- One place of a line, where the rest of the line and the file behind it are known apart. -/
def Marks.stepInFile (m : Marks) (behind : List Char) (s : State) (text : List Char) :
    Option (State × Nat) :=
  match s.quote with
  | some close =>
    if starts (text ++ behind) close then some ({ s with quote := none }, close.length)
    else if !s.verbatim && m.escapes text then some (s, 2)
    else some (s, 1)
  | none => m.step s text

def Marks.scanInFile (m : Marks) (behind : List Char) :
    (skip : Nat) → State → List Char → State
  | _, s, [] => s
  | skip + 1, s, _ :: rest => m.scanInFile behind skip s rest
  | 0, s, c :: rest =>
    if (c :: rest ++ behind).all isAsciiSpace then s
    else match m.stepInFile behind s (c :: rest) with
      | none => s
      | some (s, taken) => m.scanInFile behind (taken - 1) s rest

/-! ## Marks -/

/-- What can stand as a mark: it starts with something visible and stays on its line. -/
def IsMark (mark : List Char) : Prop :=
  mark.head?.any (!isAsciiSpace ·) = true ∧ '\n' ∉ mark

instance (mark : List Char) : Decidable (IsMark mark) :=
  inferInstanceAs (Decidable (_ ∧ _))

theorem starts_iff {text mark : List Char} : starts text mark = true ↔ mark <+: text := by
  rw [starts, Option.isSome_iff_exists]
  constructor
  · rintro ⟨rest, hrest⟩
    exact ⟨rest, (after?_eq_some_iff.mp hrest).symm⟩
  · rintro ⟨rest, rfl⟩
    exact ⟨rest, after?_eq_some_iff.mpr rfl⟩

namespace IsMark

variable {mark text behind : List Char}

theorem starts_space (h : IsMark mark) {c : Char} (hc : isAsciiSpace c = true) :
    starts (c :: text) mark = false := by
  rw [Bool.eq_false_iff, ne_eq, starts_iff]
  intro hprefix
  have hvisible := h.1
  cases mark with
  | nil => cases hvisible
  | cons first rest =>
      obtain ⟨rfl, -⟩ := List.cons_prefix_cons.mp hprefix
      simp [hc] at hvisible

/-- The line may end within the mark, but then the mark does not go on with a newline. -/
theorem starts_append (h : IsMark mark) (hbehind : ∀ c ∈ behind.head?, c = '\n') :
    starts (text ++ behind) mark = starts text mark := by
  rw [Bool.eq_iff_iff, starts_iff, starts_iff]
  refine ⟨fun hprefix ↦ ?_, fun hprefix ↦ hprefix.trans (List.prefix_append text behind)⟩
  rcases List.prefix_or_prefix_of_prefix hprefix (List.prefix_append text behind) with
    hwithin | ⟨tail, rfl⟩
  · exact hwithin
  · rw [List.prefix_append_right_inj] at hprefix
    cases tail with
    | nil => simp
    | cons c tail =>
        obtain ⟨rest, rfl⟩ := hprefix
        obtain rfl := hbehind c (by simp)
        exact absurd (by simp) h.2

end IsMark

theorem isMark_blockOpen : IsMark blockOpen := by decide

theorem isMark_blockClose : IsMark blockClose := by decide

/-- Every text that delimits something in the language. -/
def Marks.all (m : Marks) : List (List Char) :=
  m.lineComment :: (m.quotes ++ m.docQuotes ++ m.verbatim.flatMap fun v ↦ [v.1, v.2])

def Marks.Proper (m : Marks) : Prop :=
  ∀ mark ∈ m.all, IsMark mark

theorem proper_marks (language : Language) : (marks language).Proper := by
  rw [Marks.Proper]
  cases language <;> decide

/-! ## States -/

/-- The literal that is open ends in a mark. -/
def State.EndsInMark (s : State) : Prop :=
  ∀ close, s.quote = some close → IsMark close

section Proper

variable {m : Marks} {s s' : State} {text behind : List Char} {taken : Nat}

theorem Marks.Proper.isMark_opened (hm : m.Proper) {opening close : List Char} {verbatim : Bool}
    (h : m.opened? text = some (opening, close, verbatim)) :
    IsMark opening ∧ IsMark close ∧ starts text opening = true := by
  simp only [Marks.opened?, Option.or_eq_some_iff, Option.map_eq_some_iff, Prod.mk.injEq] at h
  have hquote : ∀ q ∈ m.quotes ++ m.docQuotes, IsMark q := fun q hq ↦
    hm q (List.mem_cons_of_mem _ (List.mem_append_left _ hq))
  rcases h with ⟨q, hq, rfl, rfl, -⟩ | ⟨-, ⟨v, hv, rfl, rfl, -⟩ | ⟨-, q, hq, rfl, rfl, -⟩⟩
  · have hmark := hquote q (List.mem_append_right _ (List.mem_of_find?_eq_some hq))
    exact ⟨hmark, hmark, List.find?_some hq⟩
  · have hmem : ∀ mark ∈ [v.1, v.2], IsMark mark := by
      intro mark hmark
      refine hm mark (List.mem_cons_of_mem _ (List.mem_append_right _ ?_))
      exact List.mem_flatMap.mpr ⟨v, List.mem_of_find?_eq_some hv, hmark⟩
    exact ⟨hmem v.1 (by simp), hmem v.2 (by simp), by simpa using List.find?_some hv⟩
  · have hmark := hquote q (List.mem_append_left _ (List.mem_of_find?_eq_some hq))
    exact ⟨hmark, hmark, List.find?_some hq⟩

theorem Marks.Proper.endsInMark_step (hm : m.Proper) (hs : s.EndsInMark)
    (h : m.step s text = some (s', taken)) : s'.EndsInMark := by
  have hnone : ∀ {s : State}, s.quote = none → s.EndsInMark := by
    intro s hquote close hclose
    rw [hquote] at hclose
    cases hclose
  rw [Marks.step] at h
  split at h
  next close hquote =>
    split at h
    · cases h
      exact hnone rfl
    · split at h
      · cases h
        exact hs
      · cases h
        exact hs
  next hquote =>
    split at h
    · cases h
      exact hs
    · split at h
      · cases h
        exact hnone hquote
      · split at h
        next opening close verbatim hopened =>
          cases h
          have hopened' : m.opened? text = some (opening, close, verbatim) := by
            split at hopened
            · cases hopened
            · exact hopened
          rintro _ ⟨⟩
          exact (hm.isMark_opened hopened').2.1
        next =>
          split at h
          · cases h
            exact hnone hquote
          · split at h
            · cases h
            · cases h
              exact hs

theorem Marks.Proper.step_space (hm : m.Proper) (hs : s.EndsInMark) {c : Char}
    (hc : isAsciiSpace c = true) : m.step s (c :: text) = some (s, 1) := by
  have hescapes : m.escapes (c :: text) = false := by
    rw [Marks.escapes]
    rintro _ ⟨⟩
    exact absurd hc (by decide)
  have hopened : m.opened? (c :: text) = none := by
    rw [Option.eq_none_iff_forall_ne_some]
    rintro ⟨opening, close, verbatim⟩ hsome
    obtain ⟨hmark, -, hstarts⟩ := hm.isMark_opened hsome
    rw [hmark.starts_space hc] at hstarts
    cases hstarts
  have hcomment : IsMark m.lineComment := hm m.lineComment List.mem_cons_self
  rw [Marks.step]
  cases hquote : s.quote with
  | some close => simp [(hs close hquote).starts_space hc, hescapes]
  | none =>
      simp [hescapes, hopened, isMark_blockClose.starts_space hc,
        isMark_blockOpen.starts_space hc, hcomment.starts_space hc]

theorem Marks.Proper.scan_space (hm : m.Proper) (hs : s.EndsInMark) (skip : Nat)
    (htext : ∀ c ∈ text, isAsciiSpace c = true) : m.scan skip s text = s := by
  induction text generalizing skip with
  | nil => cases skip <;> rfl
  | cons c rest ih =>
      obtain ⟨hc, hrest⟩ := List.forall_mem_cons.mp htext
      cases skip with
      | zero =>
          simp only [Marks.scan, hm.step_space hs hc]
          exact ih _ hrest
      | succ skip => exact ih skip hrest

theorem stepInFile_eq_step (hs : s.EndsInMark) (hbehind : ∀ c ∈ behind.head?, c = '\n') :
    m.stepInFile behind s text = m.step s text := by
  rw [Marks.stepInFile, Marks.step]
  cases hquote : s.quote with
  | none => rfl
  | some close => simp only [(hs close hquote).starts_append hbehind]

/-- The induction is on the line, for every state in which an open literal ends in a mark. -/
theorem Marks.Proper.scanInFile_eq_scan (hm : m.Proper) (hs : s.EndsInMark)
    (hbehind : ∀ c ∈ behind.head?, c = '\n') (skip : Nat) :
    m.scanInFile behind skip s text = m.scan skip s text := by
  induction text generalizing skip s with
  | nil => cases skip <;> rfl
  | cons c rest ih =>
      cases skip with
      | succ skip => exact ih hs skip
      | zero =>
          rw [Marks.scanInFile]
          split
          next hspace =>
            have htext : ∀ d ∈ c :: rest, isAsciiSpace d = true := by
              intro d hd
              exact List.all_eq_true.mp hspace d (List.mem_append_left behind hd)
            exact (hm.scan_space hs 0 htext).symm
          next =>
            rw [stepInFile_eq_step hs hbehind, Marks.scan]
            cases hstep : m.step s (c :: rest) with
            | none => rfl
            | some place => exact ih (hm.endsInMark_step hs hstep) _

theorem Marks.Proper.endsInMark_scan (hm : m.Proper) (hs : s.EndsInMark) (skip : Nat) :
    (m.scan skip s text).EndsInMark := by
  induction text generalizing skip s with
  | nil => cases skip <;> exact hs
  | cons c rest ih =>
      cases skip with
      | succ skip => exact ih hs skip
      | zero =>
          rw [Marks.scan]
          cases hstep : m.step s (c :: rest) with
          | none => exact hs
          | some place => exact ih (hm.endsInMark_step hs hstep) _

theorem Marks.Proper.endsInMark_classify (hm : m.Proper) (hs : s.EndsInMark)
    (line : List Char) : (m.classify s line).2.EndsInMark := by
  simp only [Marks.classify]
  split
  · exact hs
  · split
    · exact hs
    · exact hm.endsInMark_scan hs 0

end Proper

/-- The state behind some lines. -/
def Marks.stateBehind (m : Marks) (lines : List (List Char)) : State :=
  lines.foldl (fun s line ↦ (m.classify s line).2) .start

theorem Marks.Proper.endsInMark_stateBehind {m : Marks} (hm : m.Proper)
    (lines : List (List Char)) : (m.stateBehind lines).EndsInMark := by
  have hfold : ∀ s : State, s.EndsInMark →
      (lines.foldl (fun s line ↦ (m.classify s line).2) s).EndsInMark := by
    induction lines with
    | nil => exact fun _ hs ↦ hs
    | cons line lines ih => exact fun s hs ↦ ih _ (hm.endsInMark_classify hs line)
  refine hfold .start ?_
  intro close hclose
  cases hclose

/-- Whatever lines stand in front of a line, and whatever follows it from the next newline on, the
scanner comes to the same state as one that has the file at hand. -/
theorem scanInFile_eq_scan (language : Language) (before : List (List Char)) (line : List Char)
    {behind : List Char} (hbehind : ∀ c ∈ behind.head?, c = '\n') :
    let s := (marks language).stateBehind before
    (marks language).scanInFile behind 0 s line = (marks language).scan 0 s line := by
  have hm := proper_marks language
  exact hm.scanInFile_eq_scan (hm.endsInMark_stateBehind before) hbehind 0

/-- A literal that is open at the end of a line, in front of a line that starts with its end. -/
example : (marks .python).scanInFile "\n\"\"".toList 0 .start "x = \"\"\"\"".toList =
    ⟨some ['"', '"', '"'], false, false⟩ := by
  decide +kernel

end CodeMentor.Source.LineCount
