import CodeMentor.Proofs.Source.Matches

/-!
# Expressions and their ways through a text

An expression can match in several ways, and they are listed in the order of preference: a greedy
repetition prefers more characters and a lazy one fewer, and of two alternatives the first comes
first. With a group inside, an expression captures what the group matches on the first way through
all its parts. Later parts turn a way down by having no way on, so the first that they accept is
what trying one after the other finds. A greedy repetition takes all it can if it gains nothing by
taking less.
-/

namespace CodeMentor.Source

open CodeMentor.Text

/-- A place of a text: the character before it and all that follows it. -/
structure Place where
  before : Option Char
  rest : List Char
deriving DecidableEq, Repr

/-- The line ends here, before a newline or with the text. -/
def Place.endsLine (a : Place) : Bool :=
  a.rest.head?.all (· == '\n')

/-- A place and those behind it, as far as all characters between are of the class. -/
def placesAlong (p : Char → Bool) (before : Option Char) : List Char → List Place
  | [] => [⟨before, []⟩]
  | c :: rest => ⟨before, c :: rest⟩ :: if p c then placesAlong p (some c) rest else []

/-- Expressions in which only single characters of a class are repeated. -/
inductive Expression where
  | lineStart
  | lineEnd
  | keyword (word : String)
  | one (p : Char → Bool)
  | greedy (p : Char → Bool)
  | lazy (p : Char → Bool)
  | seq (first second : Expression)
  | either (first second : Expression)

namespace Expression

/-- The places to which an expression leads from a place, in the order of preference. -/
def ways : Expression → Place → List Place
  | lineStart, a => if lineStarts a.before then [a] else []
  | lineEnd, a => if a.endsLine then [a] else []
  | keyword word, a =>
    ((keyword? word a.rest).map fun rest ↦ ⟨lastOf a.before word.toList, rest⟩).toList
  | one p, a =>
    match a.rest with
    | c :: rest => if p c then [⟨some c, rest⟩] else []
    | [] => []
  | greedy p, a => (placesAlong p a.before a.rest).reverse
  | lazy p, a => placesAlong p a.before a.rest
  | seq e f, a => (e.ways a).flatMap f.ways
  | either e f, a => e.ways a ++ f.ways a

/-- One or more characters of a class, as many as possible first. -/
def oneOrMore (p : Char → Bool) : Expression :=
  seq (one p) (greedy p)

variable {α : Type} (e f : Expression) (k : Place → Option α) (a : Place)

/-- What comes of the first way that can be gone on from. -/
def first : Option α :=
  (e.ways a).findSome? k

theorem first_seq : (seq e f).first k a = e.first (f.first k) a := by
  rw [first, first, ways]
  induction e.ways a with
  | nil => rfl
  | cons b bs ih =>
      rw [List.flatMap_cons, List.findSome?_append, ih, List.findSome?_cons, ← first]
      cases f.first k b with
      | none => rfl
      | some found => rfl

theorem first_either : (either e f).first k a = (e.first k a).or (f.first k a) :=
  List.findSome?_append

theorem first_lineStart : lineStart.first k a = if lineStarts a.before then k a else none := by
  rw [first, ways]
  split
  · exact List.findSome?_singleton
  · rfl

theorem first_lineEnd : lineEnd.first k a = if a.endsLine then k a else none := by
  rw [first, ways]
  split
  · exact List.findSome?_singleton
  · rfl

theorem first_keyword (word : String) :
    (keyword word).first k a =
      (keyword? word a.rest).bind fun rest ↦ k ⟨lastOf a.before word.toList, rest⟩ := by
  rw [first, ways]
  cases keyword? word a.rest with
  | none => rfl
  | some rest => exact List.findSome?_singleton

theorem first_one_cons (p : Char → Bool) (before : Option Char) (c : Char) (rest : List Char) :
    (one p).first k ⟨before, c :: rest⟩ = if p c then k ⟨some c, rest⟩ else none := by
  cases hc : p c <;> simp [first, ways, hc]

/-! ## Repetitions -/

/-- The last place is behind the run; in front of every other there is a character of the class. -/
theorem exists_placesAlong (p : Char → Bool) (before : Option Char) (text : List Char) :
    ∃ inner, placesAlong p before text =
        inner ++ [⟨lastOf before (text.takeWhile p), text.dropWhile p⟩] ∧
      ∀ b ∈ inner, ∃ c rest, p c = true ∧ b.rest = c :: rest := by
  induction text generalizing before with
  | nil => exact ⟨[], rfl, by simp⟩
  | cons c rest ih =>
      cases hc : p c with
      | true =>
          obtain ⟨inner, hplaces, hinner⟩ := ih (some c)
          refine ⟨⟨before, c :: rest⟩ :: inner, ?_, ?_⟩
          · simp [placesAlong, hc, hplaces]
          · intro b hb
            rcases List.mem_cons.mp hb with rfl | hb
            · exact ⟨c, rest, hc, rfl⟩
            · exact hinner b hb
      | false => exact ⟨[], by simp [placesAlong, hc], by simp⟩

/-- There is nothing to gain by taking less of a run: one can go on from every place, or from none
that has a character of the class in front of it. -/
def TakesAll (p : Char → Bool) (k : Place → Option α) : Prop :=
  (∀ b, (k b).isSome = true) ∨ ∀ before c rest, p c = true → k ⟨before, c :: rest⟩ = none

variable {k}

theorem first_greedy {p : Char → Bool} (h : TakesAll p k) :
    (greedy p).first k a = k ⟨lastOf a.before (a.rest.takeWhile p), a.rest.dropWhile p⟩ := by
  obtain ⟨inner, hplaces, hinner⟩ := exists_placesAlong p a.before a.rest
  rw [first, ways, hplaces, List.reverse_append, List.reverse_singleton, List.singleton_append,
    List.findSome?_cons]
  cases hend : k ⟨lastOf a.before (a.rest.takeWhile p), a.rest.dropWhile p⟩ with
  | some found => rfl
  | none =>
      rcases h with hall | hnone
      · simpa [hend] using hall ⟨lastOf a.before (a.rest.takeWhile p), a.rest.dropWhile p⟩
      · refine List.findSome?_eq_none_iff.mpr fun b hb ↦ ?_
        obtain ⟨c, rest, hc, hrest⟩ := hinner b (List.mem_reverse.mp hb)
        have hb := hnone b.before c rest hc
        rwa [← hrest] at hb

theorem first_oneOrMore {p : Char → Bool} (h : TakesAll p k) :
    (oneOrMore p).first k a =
      (some? p a.rest).bind fun rest ↦ k ⟨lastOf a.before (a.rest.takeWhile p), rest⟩ := by
  obtain ⟨before, text⟩ := a
  rw [oneOrMore, first_seq]
  cases text with
  | nil => rfl
  | cons c rest =>
      cases hc : p c with
      | true =>
          rw [first_one_cons, if_pos hc, first_greedy _ h]
          simp [some?, hc]
      | false => simp [first_one_cons, some?, hc]

theorem first_lazy_of_some {p : Char → Bool} {found : α} (h : k a = some found) :
    (lazy p).first k a = some found := by
  obtain ⟨before, text⟩ := a
  cases text with
  | nil => exact List.findSome?_singleton.trans h
  | cons c rest => rw [first, ways, placesAlong, List.findSome?_cons, h]

theorem first_lazy_of_none {p : Char → Bool} {c : Char} (hc : p c = true) {before : Option Char}
    {rest : List Char} (h : k ⟨before, c :: rest⟩ = none) :
    (lazy p).first k ⟨before, c :: rest⟩ = (lazy p).first k ⟨some c, rest⟩ := by
  rw [first, ways, placesAlong, List.findSome?_cons, h, if_pos hc]
  rfl

end Expression

/-! ## Captures -/

/-- An expression in three parts, of which the middle one is captured. -/
structure Capture where
  front : Expression
  group : Expression
  back : Expression

namespace Capture

/-- What the group matches and the text behind the match, for every way through the three parts. -/
def ways (e : Capture) (a : Place) : List (List Char × List Char) :=
  (e.front.ways a).flatMap fun start ↦ (e.group.ways start).flatMap fun stop ↦
    (e.back.ways stop).map fun last ↦ (upTo start.rest stop.rest, last.rest)

/-- The pattern that captures what the group matches on the first way. -/
def pattern (e : Capture) : Pattern (List Char) := fun before text ↦
  (e.ways ⟨before, text⟩).head?

theorem pattern_eq (e : Capture) (before : Option Char) (text : List Char) :
    e.pattern before text =
      e.front.first (fun start ↦ e.group.first (fun stop ↦
        e.back.first (fun last ↦ some (upTo start.rest stop.rest, last.rest)) stop) start)
        ⟨before, text⟩ := by
  have hhead : ∀ (places : List Place) (g : Place → List Char × List Char),
      places.head?.map g = places.findSome? fun last ↦ some (g last) := by
    rintro (_ | ⟨last, places⟩) g <;> rfl
  simp only [pattern, ways, List.head?_flatMap, List.head?_map, hhead, Expression.first]

end Capture

end CodeMentor.Source
