import CodeMentor.Json.Parser
import Mathlib.Data.List.TakeDrop
import Mathlib.Data.List.TakeWhile

/-!
# Lexemes of JSON text

Numerals and strings are read up to the first character that does not belong to them, so each can be
read again in front of other text: a numeral before anything that does not go on with it, a string
before anything at all. For both there is a lemma in each direction, from what is read to its form
and back.
-/

namespace CodeMentor.Json

/-! ## Blanks and first characters -/

def Blanks (s : Units) : Prop :=
  ∀ u ∈ s, u.any isBlank = true

theorem skip_append {bs : Units} (h : Blanks bs) (s : Units) : skip (bs ++ s) = skip s :=
  List.dropWhile_append_of_pos h

theorem exists_blanks (s : Units) : ∃ bs, Blanks bs ∧ s = bs ++ skip s :=
  ⟨s.takeWhile (·.any isBlank), fun _ hu ↦ List.mem_takeWhile_imp hu,
    List.takeWhile_append_dropWhile.symm⟩

theorem skip_cons {u : Option Char} (h : u.any isBlank = false) (s : Units) :
    skip (u :: s) = u :: s := by
  simp [skip, h]

/-- The input does not start with a character of the class. -/
def Avoids (p : Char → Bool) (s : Units) : Prop :=
  ∀ c, s.head? = some (some c) → p c = false

theorem avoids_nil (p : Char → Bool) : Avoids p [] := by
  intro c hc
  cases hc

theorem avoids_cons {p : Char → Bool} {c : Char} (h : p c = false) (s : Units) :
    Avoids p (some c :: s) := by
  intro d hd
  cases hd
  exact h

theorem Avoids.mono {p q : Char → Bool} (hpq : ∀ c, q c = true → p c = true) {s : Units}
    (h : Avoids p s) : Avoids q s := by
  intro c hc
  by_contra hq
  have hp := h c hc
  rw [hpq c (by simpa using hq)] at hp
  cases hp

/-- What is read in front of other things is the first of all that is read. -/
theorem exists_of_map_cons {α : Type} {r : Option (List α × Units)} {a : α} {xs : List α}
    {rest : Units} (h : r.map (fun (ys, rest) ↦ (a :: ys, rest)) = some (xs, rest)) :
    ∃ ys, xs = a :: ys ∧ r = some (ys, rest) := by
  obtain ⟨⟨ys, rest'⟩, hr, heq⟩ := Option.map_eq_some_iff.mp h
  cases heq
  exact ⟨ys, rfl, hr⟩

/-! ## Numerals -/

def IsDigits (ds : List Char) : Prop :=
  ds ≠ [] ∧ ∀ c ∈ ds, c.isDigit = true

/-- Digits without a superfluous zero. -/
def IsInteger (ds : List Char) : Prop :=
  IsDigits ds ∧ (ds.head? = some '0' → ds = ['0'])

def IsFraction (text : List Char) : Prop :=
  text = [] ∨ ∃ ds, text = '.' :: ds ∧ IsDigits ds

def IsPower (text : List Char) : Prop :=
  IsDigits text ∨ ∃ ds, (text = '+' :: ds ∨ text = '-' :: ds) ∧ IsDigits ds

def IsExponent (text : List Char) : Prop :=
  text = [] ∨ ∃ power, (text = 'e' :: power ∨ text = 'E' :: power) ∧ IsPower power

def IsMagnitude (text : List Char) : Prop :=
  ∃ whole fraction exponent, text = whole ++ fraction ++ exponent ∧ IsInteger whole ∧
    IsFraction fraction ∧ IsExponent exponent

def IsNumeral (text : List Char) : Prop :=
  IsMagnitude text ∨ ∃ magnitude, text = '-' :: magnitude ∧ IsMagnitude magnitude

def extendsNumeral (c : Char) : Bool :=
  c.isDigit || c == '.' || c == 'e' || c == 'E'

theorem takeWhile_eq_nil {p : Char → Bool} {s : Units} (h : Avoids p s) :
    s.takeWhile (·.any p) = [] := by
  rcases s with _ | ⟨_ | c, s⟩
  · rfl
  · simp
  · simp [h c rfl]

theorem dropWhile_eq_self {p : Char → Bool} {s : Units} (h : Avoids p s) :
    s.dropWhile (·.any p) = s := by
  rcases s with _ | ⟨_ | c, s⟩
  · rfl
  · simp
  · simp [h c rfl]

theorem readDigits_append {ds : List Char} (h : IsDigits ds) {rest : Units}
    (hrest : Avoids Char.isDigit rest) : readDigits (ds.map some ++ rest) = some (ds, rest) := by
  have hall : ∀ u ∈ ds.map some, u.any Char.isDigit = true := by simpa using h.2
  rw [readDigits, List.span_eq_takeWhile_dropWhile, List.takeWhile_append_of_pos hall,
    List.dropWhile_append_of_pos hall, takeWhile_eq_nil hrest, dropWhile_eq_self hrest]
  obtain ⟨d, ds', rfl⟩ := List.exists_cons_of_ne_nil h.1
  simp

/-- Units that all belong to a class of characters are characters. -/
theorem map_some_filterMap {p : Char → Bool} {s : Units} (h : ∀ u ∈ s, u.any p = true) :
    (s.filterMap id).map some = s := by
  induction s with
  | nil => rfl
  | cons u s ih =>
      obtain ⟨hu, hs⟩ := List.forall_mem_cons.mp h
      cases u with
      | none => simp at hu
      | some c => simpa using ih hs

theorem readDigits_eq_some {s rest : Units} {ds : List Char} (h : readDigits s = some (ds, rest)) :
    s = ds.map some ++ rest ∧ IsDigits ds := by
  have hsplit : s.takeWhile (·.any Char.isDigit) ++ s.dropWhile (·.any Char.isDigit) = s :=
    List.takeWhile_append_dropWhile
  have hall : ∀ u ∈ s.takeWhile (·.any Char.isDigit), u.any Char.isDigit = true :=
    fun _ hu ↦ List.mem_takeWhile_imp hu
  have hmap := map_some_filterMap hall
  rw [readDigits, List.span_eq_takeWhile_dropWhile] at h
  split at h
  · cases h
  next taken left hne heq =>
    obtain ⟨rfl, rfl⟩ := Prod.mk.injEq .. ▸ heq
    obtain ⟨rfl, rfl⟩ := Prod.mk.injEq .. ▸ Option.some.injEq .. ▸ h
    refine ⟨by rw [hmap, hsplit], ?_, ?_⟩
    · intro hnil
      rw [hnil] at hmap
      exact hne (by rw [← hmap]; rfl)
    · intro c hc
      simpa using hall (some c) (by rw [← hmap]; exact List.mem_map_of_mem hc)

theorem IsDigits.exists_cons {ds : List Char} (h : IsDigits ds) :
    ∃ d ds', ds = d :: ds' ∧ d.isDigit = true := by
  obtain ⟨d, ds', rfl⟩ := List.exists_cons_of_ne_nil h.1
  exact ⟨d, ds', rfl, h.2 d (by simp)⟩

theorem readInteger_append {ds : List Char} (h : IsInteger ds) {rest : Units}
    (hrest : Avoids Char.isDigit rest) : readInteger (ds.map some ++ rest) = some (ds, rest) := by
  obtain ⟨d, ds', rfl, hd⟩ := h.1.exists_cons
  by_cases h0 : d = '0'
  · subst h0
    obtain rfl : ds' = [] := by simpa using h.2 rfl
    cases rest with
    | nil => exact readDigits_append h.1 hrest
    | cons u rest =>
        cases u with
        | none => simp [readInteger]
        | some c => simp [readInteger, hrest c rfl]
  · rw [readInteger, readDigits_append h.1 hrest]
    intro c rest' heq
    simp [h0] at heq

theorem readInteger_eq_some {s rest : Units} {ds : List Char}
    (h : readInteger s = some (ds, rest)) : s = ds.map some ++ rest ∧ IsInteger ds := by
  have hzero : IsInteger ['0'] := ⟨⟨by simp, by simp⟩, by simp⟩
  rw [readInteger.eq_def] at h
  split at h
  next c rest' =>
    split at h
    · cases h
    · cases h
      exact ⟨rfl, hzero⟩
  next hnot =>
    obtain ⟨rfl, hds⟩ := readDigits_eq_some h
    refine ⟨rfl, hds, ?_⟩
    intro hhead
    obtain ⟨d, ds', rfl, -⟩ := hds.exists_cons
    obtain rfl : d = '0' := by simpa using hhead
    cases ds' with
    | nil => rfl
    | cons d' ds' => exact absurd rfl (hnot (some d') (ds'.map some ++ rest))

def extendsFraction (c : Char) : Bool :=
  c.isDigit || c == '.'

theorem readFraction_append {text : List Char} (h : IsFraction text) {rest : Units}
    (hrest : Avoids extendsFraction rest) :
    readFraction (text.map some ++ rest) = some (text, rest) := by
  rcases h with rfl | ⟨ds, rfl, hds⟩
  · rw [List.map_nil, List.nil_append, readFraction]
    rintro rest' rfl
    simpa [extendsFraction] using hrest '.' rfl
  · have hdigit : Avoids Char.isDigit rest :=
      hrest.mono fun c hc ↦ by simp [extendsFraction, hc]
    simp [readFraction, readDigits_append hds hdigit]

theorem readFraction_eq_some {s rest : Units} {text : List Char}
    (h : readFraction s = some (text, rest)) :
    s = text.map some ++ rest ∧ IsFraction text := by
  rw [readFraction.eq_def] at h
  split at h
  · obtain ⟨ds, rfl, hds⟩ := exists_of_map_cons h
    obtain ⟨rfl, hdigits⟩ := readDigits_eq_some hds
    exact ⟨rfl, .inr ⟨ds, rfl, hdigits⟩⟩
  · cases h
    exact ⟨rfl, .inl rfl⟩

theorem readPower_append {text : List Char} (h : IsPower text) {rest : Units}
    (hrest : Avoids Char.isDigit rest) :
    readPower (text.map some ++ rest) = some (text, rest) := by
  rcases h with hds | ⟨ds, rfl | rfl, hds⟩
  · obtain ⟨d, ds', rfl, hd⟩ := hds.exists_cons
    rw [readPower, readDigits_append hds hrest]
    · rintro rest' heq
      obtain rfl : d = '+' := by simpa using (List.cons.inj heq).1
      simp at hd
    · rintro rest' heq
      obtain rfl : d = '-' := by simpa using (List.cons.inj heq).1
      simp at hd
  · simp [readPower, readDigits_append hds hrest]
  · simp [readPower, readDigits_append hds hrest]

theorem readPower_eq_some {s rest : Units} {text : List Char}
    (h : readPower s = some (text, rest)) : s = text.map some ++ rest ∧ IsPower text := by
  rw [readPower.eq_def] at h
  split at h
  · obtain ⟨ds, rfl, hds⟩ := exists_of_map_cons h
    obtain ⟨rfl, hdigits⟩ := readDigits_eq_some hds
    exact ⟨rfl, .inr ⟨ds, .inl rfl, hdigits⟩⟩
  · obtain ⟨ds, rfl, hds⟩ := exists_of_map_cons h
    obtain ⟨rfl, hdigits⟩ := readDigits_eq_some hds
    exact ⟨rfl, .inr ⟨ds, .inr rfl, hdigits⟩⟩
  · obtain ⟨rfl, hdigits⟩ := readDigits_eq_some h
    exact ⟨rfl, .inl hdigits⟩

theorem readExponent_append {text : List Char} (h : IsExponent text) {rest : Units}
    (hrest : Avoids extendsNumeral rest) :
    readExponent (text.map some ++ rest) = some (text, rest) := by
  have hdigit : Avoids Char.isDigit rest := hrest.mono fun c hc ↦ by simp [extendsNumeral, hc]
  rcases h with rfl | ⟨power, rfl | rfl, hpower⟩
  · rw [List.map_nil, List.nil_append, readExponent]
    · rintro rest' rfl
      simpa [extendsNumeral] using hrest 'e' rfl
    · rintro rest' rfl
      simpa [extendsNumeral] using hrest 'E' rfl
  · simp [readExponent, readPower_append hpower hdigit]
  · simp [readExponent, readPower_append hpower hdigit]

theorem readExponent_eq_some {s rest : Units} {text : List Char}
    (h : readExponent s = some (text, rest)) :
    s = text.map some ++ rest ∧ IsExponent text := by
  rw [readExponent.eq_def] at h
  split at h
  · obtain ⟨power, rfl, hpower⟩ := exists_of_map_cons h
    obtain ⟨rfl, hp⟩ := readPower_eq_some hpower
    exact ⟨rfl, .inr ⟨power, .inl rfl, hp⟩⟩
  · obtain ⟨power, rfl, hpower⟩ := exists_of_map_cons h
    obtain ⟨rfl, hp⟩ := readPower_eq_some hpower
    exact ⟨rfl, .inr ⟨power, .inr rfl, hp⟩⟩
  · cases h
    exact ⟨rfl, .inl rfl⟩

/-- What follows a part of a numeral is the rest of the numeral, which starts with a mark of its
own, or what follows the numeral. -/
theorem avoids_append {p : Char → Bool} {text : List Char} {rest : Units}
    (htext : ∀ c, text.head? = some c → p c = false) (hrest : Avoids p rest) :
    Avoids p (text.map some ++ rest) := by
  cases text with
  | nil => simpa using hrest
  | cons c text => exact avoids_cons (htext c rfl) _

theorem readMagnitude_append {text : List Char} (h : IsMagnitude text) {rest : Units}
    (hrest : Avoids extendsNumeral rest) :
    readMagnitude (text.map some ++ rest) = some (text, rest) := by
  obtain ⟨whole, fraction, exponent, rfl, hwhole, hfraction, hexponent⟩ := h
  have hmark : ∀ c, exponent.head? = some c → extendsFraction c = false := by
    rintro c hc
    rcases hexponent with rfl | ⟨power, rfl | rfl, -⟩
    · cases hc
    · cases hc
      decide
    · cases hc
      decide
  have hafterFraction : Avoids extendsFraction (exponent.map some ++ rest) :=
    avoids_append hmark (hrest.mono fun c hc ↦ by
      simp only [extendsFraction, Bool.or_eq_true] at hc
      rcases hc with hc | hc <;> simp [extendsNumeral, hc])
  have hpoint : ∀ c, fraction.head? = some c → Char.isDigit c = false := by
    rintro c hc
    rcases hfraction with rfl | ⟨ds, rfl, -⟩
    · cases hc
    · cases hc
      decide
  have hafterWhole : Avoids Char.isDigit (fraction.map some ++ (exponent.map some ++ rest)) :=
    avoids_append hpoint (hafterFraction.mono fun c hc ↦ by simp [extendsFraction, hc])
  simp only [List.map_append, List.append_assoc, readMagnitude,
    readInteger_append hwhole hafterWhole, readFraction_append hfraction hafterFraction, readExponent_append hexponent hrest,
    Option.bind_eq_bind, Option.bind_some, Option.pure_def]

theorem readMagnitude_eq_some {s rest : Units} {text : List Char}
    (h : readMagnitude s = some (text, rest)) :
    s = text.map some ++ rest ∧ IsMagnitude text := by
  simp only [readMagnitude, Option.bind_eq_bind, Option.bind_eq_some_iff, Prod.exists,
    Option.pure_def, Option.some.injEq, Prod.mk.injEq] at h
  obtain ⟨whole, s₁, hwhole, fraction, s₂, hfraction, exponent, s₃, hexponent, rfl, rfl⟩ := h
  obtain ⟨rfl, hw⟩ := readInteger_eq_some hwhole
  obtain ⟨rfl, hf⟩ := readFraction_eq_some hfraction
  obtain ⟨rfl, he⟩ := readExponent_eq_some hexponent
  exact ⟨by simp, whole, fraction, exponent, rfl, hw, hf, he⟩

theorem IsMagnitude.exists_cons {text : List Char} (h : IsMagnitude text) :
    ∃ d text', text = d :: text' ∧ d.isDigit = true := by
  obtain ⟨whole, fraction, exponent, rfl, hwhole, -, -⟩ := h
  obtain ⟨d, ds, rfl, hd⟩ := hwhole.1.exists_cons
  exact ⟨d, ds ++ fraction ++ exponent, rfl, hd⟩

theorem readNumber_append {text : List Char} (h : IsNumeral text) {rest : Units}
    (hrest : Avoids extendsNumeral rest) :
    readNumber (text.map some ++ rest) = some (text, rest) := by
  rcases h with hm | ⟨magnitude, rfl, hm⟩
  · rw [readNumber, readMagnitude_append hm hrest]
    obtain ⟨d, text', rfl, hd⟩ := hm.exists_cons
    rintro rest' heq
    obtain rfl : d = '-' := by simpa using (List.cons.inj heq).1
    simp at hd
  · simp [readNumber, readMagnitude_append hm hrest]

theorem readNumber_eq_some {s rest : Units} {text : List Char}
    (h : readNumber s = some (text, rest)) : s = text.map some ++ rest ∧ IsNumeral text := by
  rw [readNumber.eq_def] at h
  split at h
  · obtain ⟨magnitude, rfl, hread⟩ := exists_of_map_cons h
    obtain ⟨rfl, hm⟩ := readMagnitude_eq_some hread
    exact ⟨rfl, .inr ⟨magnitude, rfl, hm⟩⟩
  · obtain ⟨rfl, hm⟩ := readMagnitude_eq_some h
    exact ⟨rfl, .inl hm⟩

def startsNumeral (c : Char) : Bool :=
  c.isDigit || c == '-'

theorem IsNumeral.exists_cons {text : List Char} (h : IsNumeral text) :
    ∃ c text', text = c :: text' ∧ startsNumeral c = true := by
  rcases h with hm | ⟨magnitude, rfl, -⟩
  · obtain ⟨d, text', rfl, hd⟩ := hm.exists_cons
    exact ⟨d, text', rfl, by simp [startsNumeral, hd]⟩
  · exact ⟨'-', magnitude, rfl, rfl⟩

/-! ## Strings -/

/-- `t` is the inside of a string with its closing quote, and the string holds the units. -/
def SpellsString (units t : Units) : Prop :=
  ∀ rest, readString (t ++ rest) = some (units, rest)

section StringSteps

-- The equations of the reader are made here, once, before the lemmas that open it.
attribute [local simp] readString

variable {units t : Units} {a b c d : Option Char}

theorem spellsString_quote : SpellsString [] [some '"'] := by
  intro rest
  simp

theorem SpellsString.cons (h : SpellsString units t) {u : Option Char} (hquote : u ≠ some '"')
    (hplain : u.any (fun c ↦ c.toNat < 0x20 || c == '\\') = false) :
    SpellsString (u :: units) (u :: t) := by
  intro rest
  have hslash : u ≠ some '\\' := by
    rintro rfl
    simp at hplain
  rw [List.cons_append, readString, h rest, if_neg (by simp [hplain])]
  · rfl
  · exact hquote
  · intro _ _ _ _ _ hu
    exact absurd hu hslash
  · intro _ _ hu
    exact absurd hu hslash

theorem SpellsString.escape (h : SpellsString units t) {e : Option Char} {x : Char}
    (he : e.bind unescape? = some x) :
    SpellsString (some x :: units) (some '\\' :: e :: t) := by
  intro rest
  have hu : e ≠ some 'u' := by
    rintro rfl
    simp [unescape?] at he
  rw [List.cons_append, List.cons_append, readString, he, h rest]
  · rfl
  · intro _ _ _ _ _ heu
    exact absurd heu hu

theorem SpellsString.hex (h : SpellsString units t) {point : Nat}
    (hpoint : hex4? a b c d = some point) (hvalid : point < 0xD800 ∨ 0xDFFF < point) :
    SpellsString (some (Char.ofNat point) :: units)
      (some '\\' :: some 'u' :: a :: b :: c :: d :: t) := by
  intro rest
  simp [hpoint, hvalid, h rest]

theorem SpellsString.low (h : SpellsString units t) {point : Nat}
    (hpoint : hex4? a b c d = some point) (hlow : 0xDC00 ≤ point) (hhigh : point ≤ 0xDFFF) :
    SpellsString (none :: units) (some '\\' :: some 'u' :: a :: b :: c :: d :: t) := by
  intro rest
  have hsurrogate : ¬ (point < 0xD800 ∨ 0xDFFF < point) := by omega
  have hsecond : ¬ point < 0xDC00 := by omega
  simp [hpoint, hsurrogate, hsecond, h rest]

/-- Two escapes of which the first is the first half of a surrogate pair. -/
theorem SpellsString.pair (h : SpellsString units t) {a' b' c' d' : Option Char}
    {point point' : Nat} (hpoint : hex4? a b c d = some point)
    (hfirst : 0xD800 ≤ point ∧ point < 0xDC00) (hpoint' : hex4? a' b' c' d' = some point') :
    SpellsString
      ((if 0xDC00 ≤ point' ∧ point' ≤ 0xDFFF then
          some (Char.ofNat (0x10000 + (point - 0xD800) * 0x400 + (point' - 0xDC00)))
        else none) :: units)
      (some '\\' :: some 'u' :: a :: b :: c :: d ::
        some '\\' :: some 'u' :: a' :: b' :: c' :: d' :: t) := by
  intro rest
  have hsurrogate : ¬ (point < 0xD800 ∨ 0xDFFF < point) := by omega
  simp only [List.cons_append, readString, hpoint, hsurrogate, if_false, hfirst.2, if_true, hpoint',
    h rest, Option.map_some]
  split <;> rfl

/-- The first half of a surrogate pair, with no escape after it. -/
theorem SpellsString.high (h : SpellsString units t) {point : Nat}
    (hpoint : hex4? a b c d = some point) (hfirst : 0xD800 ≤ point ∧ point < 0xDC00)
    (halone : ∀ a' b' c' d' after x,
      t ++ x ≠ some '\\' :: some 'u' :: a' :: b' :: c' :: d' :: after) :
    SpellsString (none :: units) (some '\\' :: some 'u' :: a :: b :: c :: d :: t) := by
  intro rest
  have hsurrogate : ¬ (point < 0xD800 ∨ 0xDFFF < point) := by omega
  simp only [List.cons_append, readString, hpoint, hsurrogate, if_false, hfirst.2, if_true]
  split
  next heq => exact absurd heq (halone _ _ _ _ _ rest)
  next => rw [h rest, Option.map_some]

end StringSteps

/-- An escape that a continuation completes is complete already. -/
theorem escape_of_append {t x after : Units} {a b c d : Option Char} {r : Units × Units}
    (ht : readString t = some r)
    (h : t ++ x = some '\\' :: some 'u' :: a :: b :: c :: d :: after) :
    ∃ after', t = some '\\' :: some 'u' :: a :: b :: c :: d :: after' := by
  rcases t with _ | ⟨t₁, _ | ⟨t₂, _ | ⟨t₃, _ | ⟨t₄, _ | ⟨t₅, _ | ⟨t₆, t⟩⟩⟩⟩⟩⟩ <;>
    simp_all [readString, unescape?]

/-- What is read as a string spells it. The cases are those of the reader that succeed. -/
theorem exists_spellsString {s units rest : Units} (h : readString s = some (units, rest)) :
    ∃ t, s = t ++ rest ∧ SpellsString units t := by
  fun_induction readString s generalizing units rest with
  | case1 => cases h
  | case2 rest' =>
      cases h
      exact ⟨[some '"'], rfl, spellsString_quote⟩
  | case3 => cases h
  | case4 a b c d rest' point hpoint hvalid ih =>
      obtain ⟨units', rfl, hread⟩ := exists_of_map_cons h
      obtain ⟨t, rfl, ht⟩ := ih hread
      exact ⟨_ :: _ :: a :: b :: c :: d :: t, rfl, ht.hex hpoint hvalid⟩
  | case5 => cases h
  | case6 a b c d point hpoint hsurrogate hfirst a' b' c' d' after point' hpoint' hsecond code =>
      rename_i ih
      obtain ⟨units', rfl, hread⟩ := exists_of_map_cons h
      obtain ⟨t, rfl, ht⟩ := ih hread
      have hpair := ht.pair hpoint ⟨by omega, hfirst⟩ hpoint'
      rw [if_pos hsecond] at hpair
      exact ⟨_, rfl, hpair⟩
  | case7 a b c d point hpoint hsurrogate hfirst a' b' c' d' after point' hpoint' hsecond ih =>
      obtain ⟨units', rfl, hread⟩ := exists_of_map_cons h
      obtain ⟨t, rfl, ht⟩ := ih hread
      have hpair := ht.pair hpoint ⟨by omega, hfirst⟩ hpoint'
      rw [if_neg hsecond] at hpair
      exact ⟨_, rfl, hpair⟩
  | case8 a b c d point hpoint hsurrogate hfirst rest' halone ih =>
      obtain ⟨units', rfl, hread⟩ := exists_of_map_cons h
      obtain ⟨t, rfl, ht⟩ := ih hread
      refine ⟨_ :: _ :: a :: b :: c :: d :: t, rfl, ht.high hpoint ⟨by omega, hfirst⟩ ?_⟩
      -- An escape that started in the string and ended behind it would have been refused.
      intro a' b' c' d' after x hx
      have hself : readString t = some (units', []) := by simpa using ht []
      obtain ⟨after', rfl⟩ := escape_of_append hself hx
      exact halone a' b' c' d' (after' ++ rest) rfl
  | case9 a b c d rest' point hpoint hsurrogate hfirst ih =>
      obtain ⟨units', rfl, hread⟩ := exists_of_map_cons h
      obtain ⟨t, rfl, ht⟩ := ih hread
      exact ⟨_ :: _ :: a :: b :: c :: d :: t, rfl, ht.low hpoint (by omega) (by omega)⟩
  | case10 => cases h
  | case11 e rest' hnot x hx ih =>
      obtain ⟨units', rfl, hread⟩ := exists_of_map_cons h
      obtain ⟨t, rfl, ht⟩ := ih hread
      exact ⟨_ :: e :: t, rfl, ht.escape hx⟩
  | case12 => cases h
  | case13 u rest' hquote _ _ hplain ih =>
      obtain ⟨units', rfl, hread⟩ := exists_of_map_cons h
      obtain ⟨t, rfl, ht⟩ := ih hread
      exact ⟨u :: t, rfl, ht.cons hquote (by simpa using hplain)⟩

end CodeMentor.Json
