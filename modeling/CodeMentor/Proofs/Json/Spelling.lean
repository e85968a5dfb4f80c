import CodeMentor.Proofs.Json.Lexemes
import CodeMentor.Proofs.Text.Pieces

/-!
# How JSON values are spelled

The reader of values looks at most one character past what it takes, and only to see where a number
ends. So what it takes off its input stands for the value in every surrounding, with any fuel that
covers its length: it spells the value. The main results are that everything that is read has a
spelling, and that a text read as an object is read as the same object without the blanks around
it.
-/

namespace CodeMentor.Json

/-! ## Values -/

attribute [local simp] readValue readItems readMembers

/-- `t` stands for the value before everything that does not go on with a number. -/
def Spells (v : Json) (t : Units) : Prop :=
  ∀ fuel, t.length ≤ fuel → ∀ rest, Avoids extendsNumeral rest →
    readValue fuel (t ++ rest) = some (v, rest)

/-- `t` stands for the items of an array, with the closing bracket. -/
def SpellsItems (items : List Json) (t : Units) : Prop :=
  ∀ fuel, t.length ≤ fuel → ∀ rest, readItems fuel (t ++ rest) = some (items, rest)

/-- `t` stands for the members of an object, with the closing brace. -/
def SpellsMembers (members : List (Units × Json)) (t : Units) : Prop :=
  ∀ fuel, t.length ≤ fuel → ∀ rest, readMembers fuel (t ++ rest) = some (members, rest)

theorem eq_of_isBlank {c : Char} (h : isBlank c = true) :
    c = ' ' ∨ c = '\n' ∨ c = '\t' ∨ c = '\r' := by
  simpa [isBlank, or_assoc] using h

/-- A value starts neither with a blank nor with a bracket that closes. -/
theorem exists_cons_of_readValue {fuel : Nat} {s : Units} {r : Json × Units}
    (h : readValue fuel s = some r) :
    ∃ c s', s = some c :: s' ∧ isBlank c = false ∧ c ≠ ']' := by
  cases fuel with
  | zero => cases h
  | succ fuel =>
      rw [readValue.eq_def] at h
      simp only at h
      split at h
      -- All values but numbers start with a character of their own.
      any_goals exact ⟨_, _, rfl, rfl, by decide⟩
      · obtain ⟨⟨text, rest⟩, hread, -⟩ := Option.map_eq_some_iff.mp h
        obtain ⟨rfl, htext⟩ := readNumber_eq_some hread
        obtain ⟨c, text', rfl, hc⟩ := htext.exists_cons
        refine ⟨c, text'.map some ++ rest, rfl, ?_, ?_⟩
        · by_contra hblank
          rcases eq_of_isBlank (by simpa using hblank) with rfl | rfl | rfl | rfl <;>
            simp [startsNumeral] at hc
        · rintro rfl
          simp [startsNumeral] at hc

theorem Spells.exists_cons {v : Json} {t : Units} (h : Spells v t) :
    ∃ c t', t = some c :: t' ∧ isBlank c = false ∧ c ≠ ']' := by
  have hself := h t.length le_rfl [] (avoids_nil _)
  rw [List.append_nil] at hself
  exact exists_cons_of_readValue hself

theorem exists_succ_of_cons_le {u : Option Char} {t : Units} {fuel : Nat}
    (h : (u :: t).length ≤ fuel) : ∃ k, fuel = k + 1 ∧ t.length ≤ k := by
  rw [List.length_cons] at h
  exact ⟨fuel - 1, by omega, by omega⟩

theorem spells_string {units t : Units} (h : SpellsString units t) :
    Spells (ofUnits units) (some '"' :: t) := by
  intro fuel hfuel rest _
  obtain ⟨fuel, rfl, -⟩ := exists_succ_of_cons_le hfuel
  simp [h rest]

theorem spells_number {text : List Char} (h : IsNumeral text) :
    Spells (.number text) (text.map some) := by
  intro fuel hfuel rest hrest
  obtain ⟨c, text', rfl, hc⟩ := h.exists_cons
  obtain ⟨fuel, rfl, -⟩ := exists_succ_of_cons_le hfuel
  have hread := readNumber_append h hrest
  rw [List.map_cons, List.cons_append] at hread ⊢
  rw [readValue, hread]
  · rfl
  all_goals
    intro rest' heq
    have hce := Option.some.inj (List.cons.inj heq).1
    subst hce
    simp [startsNumeral] at hc

theorem skip_blanks_cons {bs : Units} (h : Blanks bs) {c : Char} (hc : isBlank c = false)
    (s : Units) : skip (bs ++ some c :: s) = some c :: s := by
  rw [skip_append h, skip_cons (by simpa using hc)]

theorem avoids_blanks_append {bs s : Units} (h : Blanks bs) (hs : Avoids extendsNumeral s) :
    Avoids extendsNumeral (bs ++ s) := by
  cases bs with
  | nil => exact hs
  | cons u bs =>
      have hu := h u (by simp)
      cases u with
      | none => simp at hu
      | some b =>
          apply avoids_cons
          rcases eq_of_isBlank (by simpa using hu) with rfl | rfl | rfl | rfl <;> rfl

theorem avoids_blanks_cons {bs : Units} (h : Blanks bs) {c : Char}
    (hc : extendsNumeral c = false) (s : Units) : Avoids extendsNumeral (bs ++ some c :: s) :=
  avoids_blanks_append h (avoids_cons hc s)

theorem spells_emptyArray {bs : Units} (hbs : Blanks bs) :
    Spells (.array []) (some '[' :: (bs ++ [some ']'])) := by
  intro fuel hfuel rest _
  obtain ⟨fuel, rfl, -⟩ := exists_succ_of_cons_le hfuel
  have hskip := skip_blanks_cons hbs (show isBlank ']' = false by decide) rest
  simp [hskip]

theorem SpellsItems.exists_cons {items : List Json} {t : Units} (h : SpellsItems items t) :
    ∃ c t', t = some c :: t' ∧ isBlank c = false ∧ c ≠ ']' := by
  have hself := h t.length le_rfl []
  rw [List.append_nil] at hself
  cases t with
  | nil => cases hself
  | cons u t =>
      rw [List.length_cons, readItems] at hself
      cases hv : readValue t.length (u :: t) with
      | none => simp [hv] at hself
      | some r => exact exists_cons_of_readValue hv

theorem spells_array {bs t : Units} {items : List Json} (hbs : Blanks bs)
    (h : SpellsItems items t) : Spells (.array items) (some '[' :: (bs ++ t)) := by
  intro fuel hfuel rest _
  obtain ⟨fuel, rfl, hle⟩ := exists_succ_of_cons_le hfuel
  obtain ⟨c, t', ht, hblank, hclose⟩ := h.exists_cons
  have hskip : skip (bs ++ t ++ rest) = t ++ rest := by
    rw [List.append_assoc, ht, List.cons_append]
    exact skip_blanks_cons hbs hblank _
  have hread := h fuel (by simp at hle; omega) rest
  rw [List.cons_append, readValue, hskip, ht]
  simp only [List.cons_append]
  split
  next heq =>
    have hce := Option.some.inj (List.cons.inj heq).1
    exact absurd hce hclose
  next => rw [← List.cons_append, ← ht, hread, Option.map_some]

theorem spells_emptyObject {bs : Units} (hbs : Blanks bs) :
    Spells (.object []) (some '\x7b' :: (bs ++ [some '\x7d'])) := by
  intro fuel hfuel rest _
  obtain ⟨fuel, rfl, -⟩ := exists_succ_of_cons_le hfuel
  have hskip := skip_blanks_cons hbs (show isBlank '\x7d' = false by decide) rest
  simp [hskip]

theorem SpellsMembers.exists_cons {members : List (Units × Json)} {t : Units}
    (h : SpellsMembers members t) : ∃ t', t = some '"' :: t' := by
  have hself := h t.length le_rfl []
  rw [List.append_nil] at hself
  cases t with
  | nil => cases hself
  | cons u t =>
      rw [List.length_cons, readMembers.eq_def] at hself
      simp only at hself
      split at hself
      next rest heq => exact ⟨rest, heq⟩
      next => cases hself

theorem spells_object {bs t : Units} {members : List (Units × Json)} (hbs : Blanks bs)
    (h : SpellsMembers members t) :
    Spells (ofMembers members) (some '\x7b' :: (bs ++ t)) := by
  intro fuel hfuel rest _
  obtain ⟨fuel, rfl, hle⟩ := exists_succ_of_cons_le hfuel
  obtain ⟨t', ht⟩ := h.exists_cons
  have hskip : skip (bs ++ t ++ rest) = t ++ rest := by
    rw [List.append_assoc, ht, List.cons_append]
    exact skip_blanks_cons hbs (by decide) _
  have hread := h fuel (by simp at hle; omega) rest
  rw [ht, List.cons_append] at hread
  rw [List.cons_append, readValue, hskip, ht, List.cons_append]
  change Option.map _ (readMembers fuel (some '"' :: (t' ++ rest))) = _
  rw [hread, Option.map_some]

theorem readItems_value {v : Json} {t bs : Units} (ht : Spells v t) (hbs : Blanks bs) {c : Char}
    (hblank : isBlank c = false) (hnumber : extendsNumeral c = false) {fuel : Nat}
    (hfuel : t.length ≤ fuel) (s : Units) :
    readItems (fuel + 1) (t ++ (bs ++ some c :: s)) =
      match some c :: s with
      | some ']' :: rest => some ([v], rest)
      | some ',' :: rest =>
        (readItems fuel (skip rest)).map fun (items, rest) ↦ (v :: items, rest)
      | _ => none := by
  rw [readItems, ht fuel hfuel _ (avoids_blanks_cons hbs hnumber s)]
  simp only [skip_blanks_cons hbs hblank s]
  rfl

theorem Spells.items {v : Json} {t bs : Units} (ht : Spells v t) (hbs : Blanks bs) :
    SpellsItems [v] (t ++ (bs ++ [some ']'])) := by
  intro fuel hfuel rest
  obtain ⟨k, rfl⟩ : ∃ k, fuel = k + 1 := ⟨fuel - 1, by simp at hfuel; omega⟩
  have hk : t.length ≤ k := by
    simp at hfuel
    omega
  have hread := readItems_value ht hbs (show isBlank ']' = false by decide) (by decide) hk rest
  simpa using hread

theorem SpellsItems.cons {v : Json} {t bs bs' ts : Units} {vs : List Json} (ht : Spells v t)
    (hbs : Blanks bs) (hbs' : Blanks bs') (hts : SpellsItems vs ts) :
    SpellsItems (v :: vs) (t ++ (bs ++ some ',' :: (bs' ++ ts))) := by
  intro fuel hfuel rest
  obtain ⟨k, rfl⟩ : ∃ k, fuel = k + 1 := ⟨fuel - 1, by simp at hfuel; omega⟩
  obtain ⟨c, ts', hc, hblank, -⟩ := hts.exists_cons
  have hskip : skip (bs' ++ ts ++ rest) = ts ++ rest := by
    rw [List.append_assoc, hc, List.cons_append]
    exact skip_blanks_cons hbs' hblank _
  have hk : t.length ≤ k ∧ ts.length ≤ k := by
    simp at hfuel
    omega
  have hread := readItems_value ht hbs (show isBlank ',' = false by decide) (by decide) hk.1
    (bs' ++ ts ++ rest)
  rw [List.append_assoc, List.append_assoc, List.cons_append, hread]
  simp only [hskip, hts k hk.2 rest, Option.map_some]

theorem readMembers_member {v : Json} {name n t b₁ b₂ b₃ : Units} (hn : SpellsString name n)
    (hb₁ : Blanks b₁) (hb₂ : Blanks b₂) (ht : Spells v t) (hb₃ : Blanks b₃) {c : Char}
    (hblank : isBlank c = false) (hnumber : extendsNumeral c = false) {fuel : Nat}
    (hfuel : t.length ≤ fuel) (s : Units) :
    readMembers (fuel + 1)
        (some '"' :: (n ++ (b₁ ++ some ':' :: (b₂ ++ (t ++ (b₃ ++ some c :: s)))))) =
      match some c :: s with
      | some '\x7d' :: rest => some ([(name, v)], rest)
      | some ',' :: rest =>
        (readMembers fuel (skip rest)).map fun (members, rest) ↦ ((name, v) :: members, rest)
      | _ => none := by
  obtain ⟨d, t', hd, hdblank, -⟩ := ht.exists_cons
  have hcolon := skip_blanks_cons hb₁ (show isBlank ':' = false by decide)
    (b₂ ++ (t ++ (b₃ ++ some c :: s)))
  have hvalue : skip (b₂ ++ (t ++ (b₃ ++ some c :: s))) = t ++ (b₃ ++ some c :: s) := by
    rw [hd, List.cons_append]
    exact skip_blanks_cons hb₂ hdblank _
  have hname := hn (b₁ ++ some ':' :: (b₂ ++ (t ++ (b₃ ++ some c :: s))))
  simp only [readMembers, hname, hcolon, hvalue,
    ht fuel hfuel _ (avoids_blanks_cons hb₃ hnumber s), skip_blanks_cons hb₃ hblank s]
  rfl

theorem SpellsString.members {v : Json} {name n t b₁ b₂ b₃ : Units} (hn : SpellsString name n)
    (hb₁ : Blanks b₁) (hb₂ : Blanks b₂) (ht : Spells v t) (hb₃ : Blanks b₃) :
    SpellsMembers [(name, v)]
      (some '"' :: (n ++ (b₁ ++ some ':' :: (b₂ ++ (t ++ (b₃ ++ [some '\x7d'])))))) := by
  intro fuel hfuel rest
  obtain ⟨k, rfl, hk⟩ := exists_succ_of_cons_le hfuel
  have ht' : t.length ≤ k := by
    simp at hk
    omega
  have hread := readMembers_member hn hb₁ hb₂ ht hb₃ (show isBlank '\x7d' = false by decide)
    (by decide) ht' rest
  simpa using hread

theorem SpellsMembers.cons {v : Json} {name n t b₁ b₂ b₃ b₄ ts : Units}
    {members : List (Units × Json)} (hn : SpellsString name n) (hb₁ : Blanks b₁)
    (hb₂ : Blanks b₂) (ht : Spells v t) (hb₃ : Blanks b₃) (hb₄ : Blanks b₄)
    (hts : SpellsMembers members ts) :
    SpellsMembers ((name, v) :: members)
      (some '"' ::
        (n ++ (b₁ ++ some ':' :: (b₂ ++ (t ++ (b₃ ++ some ',' :: (b₄ ++ ts))))))) := by
  intro fuel hfuel rest
  obtain ⟨k, rfl, hk⟩ := exists_succ_of_cons_le hfuel
  obtain ⟨ts', hquote⟩ := hts.exists_cons
  have hskip : skip (b₄ ++ (ts ++ rest)) = ts ++ rest := by
    rw [hquote, List.cons_append]
    exact skip_blanks_cons hb₄ (by decide) _
  have hlength : t.length ≤ k ∧ ts.length ≤ k := by
    simp at hk
    omega
  have hread := readMembers_member hn hb₁ hb₂ ht hb₃ (show isBlank ',' = false by decide)
    (by decide) hlength.1 (b₄ ++ (ts ++ rest))
  simp only [hskip, hts k hlength.2 rest, Option.map_some] at hread
  simpa using hread

/-! ## Everything that is read is spelled -/

theorem spells_null : Spells .null ("null".toList.map some) := by
  intro fuel hfuel rest _
  obtain ⟨fuel, rfl, -⟩ := exists_succ_of_cons_le hfuel
  rfl

theorem spells_true : Spells (.bool true) ("true".toList.map some) := by
  intro fuel hfuel rest _
  obtain ⟨fuel, rfl, -⟩ := exists_succ_of_cons_le hfuel
  rfl

theorem spells_false : Spells (.bool false) ("false".toList.map some) := by
  intro fuel hfuel rest _
  obtain ⟨fuel, rfl, -⟩ := exists_succ_of_cons_le hfuel
  rfl

/-- After an opening bracket: the closing one, or items. -/
theorem exists_of_readValue_bracket {fuel : Nat} {s rest : Units} {v : Json}
    (h : readValue (fuel + 1) (some '[' :: s) = some (v, rest)) :
    ∃ bs, Blanks bs ∧ ((s = bs ++ some ']' :: rest ∧ v = .array []) ∨
      ∃ s' items, s = bs ++ s' ∧ readItems fuel s' = some (items, rest) ∧ v = .array items) := by
  obtain ⟨bs, hbs, hs⟩ := exists_blanks s
  refine ⟨bs, hbs, ?_⟩
  simp only [readValue] at h
  split at h
  next rest' hskip =>
    cases h
    exact .inl ⟨by rw [← hskip, ← hs], rfl⟩
  next =>
    obtain ⟨⟨items, rest'⟩, hread, heq⟩ := Option.map_eq_some_iff.mp h
    cases heq
    exact .inr ⟨skip s, items, hs, hread, rfl⟩

theorem exists_of_readValue_brace {fuel : Nat} {s rest : Units} {v : Json}
    (h : readValue (fuel + 1) (some '\x7b' :: s) = some (v, rest)) :
    ∃ bs, Blanks bs ∧ ((s = bs ++ some '\x7d' :: rest ∧ v = .object []) ∨
      ∃ s' members, s = bs ++ s' ∧ readMembers fuel s' = some (members, rest) ∧
        v = ofMembers members) := by
  obtain ⟨bs, hbs, hs⟩ := exists_blanks s
  refine ⟨bs, hbs, ?_⟩
  simp only [readValue] at h
  split at h
  next rest' hskip =>
    cases h
    exact .inl ⟨by rw [← hskip, ← hs], rfl⟩
  next =>
    obtain ⟨⟨members, rest'⟩, hread, heq⟩ := Option.map_eq_some_iff.mp h
    cases heq
    exact .inr ⟨skip s, members, hs, hread, rfl⟩

theorem exists_of_readItems {fuel : Nat} {s rest : Units} {items : List Json}
    (h : readItems (fuel + 1) s = some (items, rest)) :
    ∃ v s' bs, readValue fuel s = some (v, s') ∧ Blanks bs ∧
      ((s' = bs ++ some ']' :: rest ∧ items = [v]) ∨
        ∃ bs' s'' vs, s' = bs ++ some ',' :: (bs' ++ s'') ∧ Blanks bs' ∧
          readItems fuel s'' = some (vs, rest) ∧ items = v :: vs) := by
  rw [readItems] at h
  split at h
  next => cases h
  next v s' hv =>
    obtain ⟨bs, hbs, hs'⟩ := exists_blanks s'
    refine ⟨v, s', bs, hv, hbs, ?_⟩
    split at h
    next rest' hskip =>
      cases h
      exact .inl ⟨by rw [← hskip, ← hs'], rfl⟩
    next s'' hskip =>
      obtain ⟨vs, rfl, hread⟩ := exists_of_map_cons h
      obtain ⟨bs', hbs', hs''⟩ := exists_blanks s''
      exact .inr ⟨bs', skip s'', vs, by rw [← hs'', ← hskip, ← hs'], hbs', hread, rfl⟩
    next => cases h

theorem exists_of_readMembers {fuel : Nat} {s rest : Units} {members : List (Units × Json)}
    (h : readMembers (fuel + 1) s = some (members, rest)) :
    ∃ s₁ s₂ s₃ name v b₁ b₂ b₃, s = some '"' :: s₁ ∧
      readString s₁ = some (name, b₁ ++ some ':' :: (b₂ ++ s₂)) ∧
      readValue fuel s₂ = some (v, s₃) ∧ Blanks b₁ ∧ Blanks b₂ ∧ Blanks b₃ ∧
      ((s₃ = b₃ ++ some '\x7d' :: rest ∧ members = [(name, v)]) ∨
        ∃ b₄ s₄ more, s₃ = b₃ ++ some ',' :: (b₄ ++ s₄) ∧ Blanks b₄ ∧
          readMembers fuel s₄ = some (more, rest) ∧ members = (name, v) :: more) := by
  rw [readMembers.eq_def] at h
  simp only at h
  split at h
  next s₁ =>
    split at h
    next => cases h
    next name r₁ hname =>
      split at h
      next r₂ hcolon =>
        split at h
        next => cases h
        next v s₃ hv =>
          obtain ⟨b₁, hb₁, hr₁⟩ := exists_blanks r₁
          obtain ⟨b₂, hb₂, hr₂⟩ := exists_blanks r₂
          obtain ⟨b₃, hb₃, hs₃⟩ := exists_blanks s₃
          refine ⟨s₁, skip r₂, s₃, name, v, b₁, b₂, b₃, rfl, ?_, hv, hb₁, hb₂, hb₃, ?_⟩
          · rw [← hr₂, ← hcolon, ← hr₁, hname]
          split at h
          next rest' hskip =>
            cases h
            exact .inl ⟨by rw [← hskip, ← hs₃], rfl⟩
          next r₄ hskip =>
            obtain ⟨more, rfl, hread⟩ := exists_of_map_cons h
            obtain ⟨b₄, hb₄, hr₄⟩ := exists_blanks r₄
            exact .inr ⟨b₄, skip r₄, more, by rw [← hr₄, ← hskip, ← hs₃], hb₄, hread, rfl⟩
          next => cases h
      next => cases h
  next => cases h

/-- With this fuel, what is read as a value is spelled by what was taken off the input. -/
def ValuesSpelled (fuel : Nat) : Prop :=
  ∀ {s rest : Units} {v : Json}, readValue fuel s = some (v, rest) →
    ∃ t, s = t ++ rest ∧ Spells v t

def ItemsSpelled (fuel : Nat) : Prop :=
  ∀ {s rest : Units} {items : List Json}, readItems fuel s = some (items, rest) →
    ∃ t, s = t ++ rest ∧ SpellsItems items t

/-- The same for members; the brace that closes them is the last that was taken. -/
def MembersSpelled (fuel : Nat) : Prop :=
  ∀ {s rest : Units} {members : List (Units × Json)}, readMembers fuel s = some (members, rest) →
    ∃ t, s = t ++ some '\x7d' :: rest ∧ SpellsMembers members (t ++ [some '\x7d'])

theorem valuesSpelled_succ {fuel : Nat} (hitems : ItemsSpelled fuel)
    (hmembers : MembersSpelled fuel) : ValuesSpelled (fuel + 1) := by
  intro s rest v h
  have hread := h
  rw [readValue.eq_def] at h
  simp only at h
  split at h
  · cases h
    exact ⟨_, rfl, spells_null⟩
  · cases h
    exact ⟨_, rfl, spells_true⟩
  · cases h
    exact ⟨_, rfl, spells_false⟩
  · obtain ⟨⟨units, rest'⟩, hstring, heq⟩ := Option.map_eq_some_iff.mp h
    cases heq
    obtain ⟨t, rfl, ht⟩ := exists_spellsString hstring
    exact ⟨_, rfl, spells_string ht⟩
  · obtain ⟨bs, hbs, ⟨rfl, rfl⟩ | ⟨s', items, rfl, hs', rfl⟩⟩ := exists_of_readValue_bracket hread
    · exact ⟨_, by simp, spells_emptyArray hbs⟩
    · obtain ⟨t, rfl, ht⟩ := hitems hs'
      exact ⟨_, by simp, spells_array hbs ht⟩
  · obtain ⟨bs, hbs, ⟨rfl, rfl⟩ | ⟨s', members, rfl, hs', rfl⟩⟩ := exists_of_readValue_brace hread
    · exact ⟨_, by simp, spells_emptyObject hbs⟩
    · obtain ⟨t, rfl, ht⟩ := hmembers hs'
      exact ⟨_, by simp, spells_object hbs ht⟩
  · obtain ⟨⟨text, rest'⟩, hnumber, heq⟩ := Option.map_eq_some_iff.mp h
    cases heq
    obtain ⟨rfl, htext⟩ := readNumber_eq_some hnumber
    exact ⟨_, rfl, spells_number htext⟩

theorem itemsSpelled_succ {fuel : Nat} (hvalues : ValuesSpelled fuel)
    (hitems : ItemsSpelled fuel) : ItemsSpelled (fuel + 1) := by
  intro s rest items h
  obtain ⟨v, s', bs, hv, hbs, hend⟩ := exists_of_readItems h
  obtain ⟨t, rfl, ht⟩ := hvalues hv
  rcases hend with ⟨rfl, rfl⟩ | ⟨bs', s'', vs, rfl, hbs', hs'', rfl⟩
  · exact ⟨_, by simp, ht.items hbs⟩
  · obtain ⟨ts, rfl, hts⟩ := hitems hs''
    exact ⟨_, by simp, SpellsItems.cons ht hbs hbs' hts⟩

theorem membersSpelled_succ {fuel : Nat} (hvalues : ValuesSpelled fuel)
    (hmembers : MembersSpelled fuel) : MembersSpelled (fuel + 1) := by
  intro s rest members h
  obtain ⟨s₁, s₂, s₃, name, v, b₁, b₂, b₃, rfl, hs₁, hs₂, hb₁, hb₂, hb₃, hend⟩ :=
    exists_of_readMembers h
  obtain ⟨n, rfl, hn⟩ := exists_spellsString hs₁
  obtain ⟨t, rfl, ht⟩ := hvalues hs₂
  rcases hend with ⟨rfl, rfl⟩ | ⟨b₄, s₄, more, rfl, hb₄, hs₄, rfl⟩
  · refine ⟨some '"' :: (n ++ (b₁ ++ some ':' :: (b₂ ++ (t ++ b₃)))), by simp, ?_⟩
    simpa using hn.members hb₁ hb₂ ht hb₃
  · obtain ⟨ts, rfl, hts⟩ := hmembers hs₄
    refine ⟨some '"' ::
      (n ++ (b₁ ++ some ':' :: (b₂ ++ (t ++ (b₃ ++ some ',' :: (b₄ ++ ts)))))), by simp, ?_⟩
    simpa using SpellsMembers.cons hn hb₁ hb₂ ht hb₃ hb₄ hts

/-- What is read is spelled. The induction is on the fuel, for values, items and members at once. -/
theorem spelled (fuel : Nat) : ValuesSpelled fuel ∧ ItemsSpelled fuel ∧ MembersSpelled fuel := by
  induction fuel with
  | zero =>
      refine ⟨?_, ?_, ?_⟩
      all_goals
        intro s rest _ h
        cases h
  | succ fuel ih =>
      obtain ⟨hvalues, hitems, hmembers⟩ := ih
      exact ⟨valuesSpelled_succ hitems hmembers, itemsSpelled_succ hvalues hitems,
        membersSpelled_succ hvalues hmembers⟩

/-! ## Objects in a text -/

theorem exists_spelling_of_object {fuel : Nat} {s rest : Units} {members : List (String × Json)}
    (h : readValue fuel s = some (.object members, rest)) :
    ∃ t, s = some '\x7b' :: (t ++ some '\x7d' :: rest) ∧
      Spells (.object members) (some '\x7b' :: (t ++ [some '\x7d'])) := by
  cases fuel with
  | zero => cases h
  | succ fuel =>
      have hread := h
      rw [readValue.eq_def] at h
      simp only at h
      split at h
      · cases h
      · cases h
      · cases h
      · obtain ⟨⟨units, rest'⟩, -, heq⟩ := Option.map_eq_some_iff.mp h
        rw [Prod.mk.injEq, ofUnits] at heq
        split at heq <;> cases heq.1
      · obtain ⟨bs, -, ⟨-, hv⟩ | ⟨s', items, -, -, hv⟩⟩ := exists_of_readValue_bracket hread
        · cases hv
        · cases hv
      · obtain ⟨bs, hbs, ⟨rfl, hv⟩ | ⟨s', members', rfl, hs', hv⟩⟩ :=
          exists_of_readValue_brace hread
        · cases hv
          exact ⟨bs, rfl, spells_emptyObject hbs⟩
        · obtain ⟨t, rfl, ht⟩ := (spelled fuel).2.2 hs'
          refine ⟨bs ++ t, by simp, ?_⟩
          rw [hv, List.append_assoc]
          exact spells_object hbs ht
      · obtain ⟨⟨text, rest'⟩, -, heq⟩ := Option.map_eq_some_iff.mp h
        cases heq

theorem parseUnits?_append_blanks {v : Json} {t bs : Units} (h : Spells v t) (hbs : Blanks bs) :
    parseUnits? (t ++ bs) = some v := by
  obtain ⟨c, t', ht, hblank, -⟩ := h.exists_cons
  have hskip : skip (t ++ bs) = t ++ bs := by
    rw [ht]
    exact skip_cons (by simpa using hblank) (t' ++ bs)
  have hfuel : t.length ≤ 2 * (t ++ bs).length + 2 := by
    rw [List.length_append]
    omega
  have hrest : Avoids extendsNumeral bs := by
    simpa using avoids_blanks_append hbs (avoids_nil _)
  have hend : skip bs = [] := by
    simpa [skip] using skip_append hbs []
  rw [parseUnits?, hskip, h _ hfuel bs hrest]
  simp [hend]

theorem parseUnits?_of_spells {v : Json} {t : Units} (h : Spells v t) : parseUnits? t = some v := by
  have hnil : Blanks [] := by simp [Blanks]
  simpa using parseUnits?_append_blanks h hnil

/-- A text that is read as an object is an object between blanks. -/
theorem exists_spelling_of_parseUnits? {s : Units} {members : List (String × Json)}
    (h : parseUnits? s = some (.object members)) :
    ∃ bs t bs', Blanks bs ∧ Blanks bs' ∧ s = bs ++ some '\x7b' :: (t ++ some '\x7d' :: bs') ∧
      Spells (.object members) (some '\x7b' :: (t ++ [some '\x7d'])) := by
  rw [parseUnits?] at h
  split at h
  next v rest hread =>
    split at h
    next hempty =>
      cases h
      obtain ⟨bs, hbs, hs⟩ := exists_blanks s
      obtain ⟨bs', hbs', hrest⟩ := exists_blanks rest
      obtain ⟨t, ht, hspells⟩ := exists_spelling_of_object hread
      rw [List.isEmpty_iff.mp hempty, List.append_nil] at hrest
      exact ⟨bs, t, bs', hbs, hbs', by rw [← hrest, ← ht, ← hs], hspells⟩
    next => cases h
  next => cases h

theorem isSpace_of_isBlank {c : Char} (h : isBlank c = true) : Text.isSpace c = true := by
  rcases eq_of_isBlank h with rfl | rfl | rfl | rfl <;> decide

/-- A text that is read as an object is read as the same object when it is trimmed, and what is left
of it stands between braces. -/
theorem parse?_trim {text : String} {members : List (String × Json)}
    (h : parse? text = some (.object members)) :
    parse? (trim text) = some (.object members) ∧
      ∃ inside, trim text = String.ofList ('\x7b' :: (inside ++ ['\x7d'])) := by
  obtain ⟨bs, t, bs', hbs, hbs', htext, hspells⟩ := exists_spelling_of_parseUnits? h
  have hspace : ∀ {cs : List Char}, Blanks (cs.map some) → ∀ c ∈ cs, Text.isSpace c = true := by
    intro cs hcs c hc
    exact isSpace_of_isBlank (by simpa using hcs (some c) (List.mem_map_of_mem hc))
  obtain ⟨cs, cs', hsplit, rfl, hcs'⟩ := List.map_eq_append_iff.mp htext
  obtain ⟨c, inner, rfl, hc, hinner⟩ := List.map_eq_cons_iff.mp hcs'
  obtain ⟨inside, tail, rfl, rfl, htail⟩ := List.map_eq_append_iff.mp hinner
  obtain ⟨d, ds, rfl, hd, rfl⟩ := List.map_eq_cons_iff.mp htail
  cases hc
  cases hd
  have htrim : trim text = String.ofList ('\x7b' :: (inside ++ ['\x7d'])) := by
    rw [trim, hsplit, Text.strip_append_cons (hspace hbs) (hspace hbs') (by decide) (by decide)]
  refine ⟨?_, inside, htrim⟩
  rw [htrim, parse?, String.toList_ofList]
  simpa using parseUnits?_of_spells hspells

end CodeMentor.Json
