import CodeMentor.Json.Printer
import CodeMentor.Proofs.Json.Spelling

/-!
# Reading what was printed

The compact layout of a value spells it, so the reader gives the value back in every surrounding.
What stands between the quotes of a string is taken character by character; arrays and objects then
follow from their items and members. The compact layout holds no control character, so it fits on
one line.
-/

namespace CodeMentor.Json

/-! ## Strings -/

theorem hex4?_control : ∀ n < 32,
    hex4? (some '0') (some '0') (some (hexDigit (n / 16))) (some (hexDigit (n % 16))) = some n := by
  decide

theorem spellsString_escape {units t : Units} (h : SpellsString units t) (c : Char) :
    SpellsString (some c :: units) ((escape c).map some ++ t) := by
  fun_cases escape c
  case case8 hcontrol =>
    have hread := h.hex (hex4?_control c.toNat hcontrol) (.inl (by omega))
    rw [Char.ofNat_toNat] at hread
    exact hread
  case case9 hquote hslash _ _ _ _ _ hplain =>
    apply h.cons
    · simpa using hquote
    · simpa [hslash] using hplain
  -- What is left are the characters with an escape of two letters.
  all_goals
    subst_vars
    exact h.escape rfl

theorem spellsString_text (cs : List Char) :
    SpellsString (cs.map some) ((cs.flatMap escape ++ ['"']).map some) := by
  induction cs with
  | nil => exact spellsString_quote
  | cons c cs ih => simpa using spellsString_escape ih c

theorem textOf?_map_some (s : String) : textOf? (s.toList.map some) = some s := by
  have hunits : ∀ cs : List Char, (cs.map some).mapM id = some cs := by
    intro cs
    induction cs with
    | nil => rfl
    | cons c cs ih => simp [ih]
  rw [textOf?, hunits, Option.map_some, String.ofList_toList]

theorem spells_quote (s : String) : Spells (.string s) ((quote s.toList).map some) := by
  have hspells := spells_string (spellsString_text s.toList)
  rwa [ofUnits, textOf?_map_some] at hspells

/-! ## Values -/

/-- A value that has a text: its numbers are numerals and all of it is readable. -/
inductive Writable : Json → Prop
  | null : Writable .null
  | bool (value : Bool) : Writable (.bool value)
  | number {text : List Char} (h : IsNumeral text) : Writable (.number text)
  | string (value : String) : Writable (.string value)
  | array {items : List Json} (h : ∀ item ∈ items, Writable item) : Writable (.array items)
  | object {members : List (String × Json)} (h : ∀ m ∈ members, Writable m.2) :
      Writable (.object members)

theorem blanks_nil : Blanks [] := by
  simp [Blanks]

theorem spellsItems_compact {items : List Json} (hne : items ≠ [])
    (h : ∀ item ∈ items, Spells item (item.compactChars.map some)) :
    SpellsItems items ((compactItems items ++ [']']).map some) := by
  induction items with
  | nil => exact absurd rfl hne
  | cons item rest ih =>
      obtain ⟨hitem, hrest⟩ := List.forall_mem_cons.mp h
      cases rest with
      | nil => simpa [compactItems] using hitem.items blanks_nil
      | cons next rest =>
          have hnext := ih (by simp) hrest
          simpa [compactItems] using SpellsItems.cons hitem blanks_nil blanks_nil hnext

theorem spellsMembers_compact {members : List (String × Json)} (hne : members ≠ [])
    (h : ∀ m ∈ members, Spells m.2 (m.2.compactChars.map some)) :
    SpellsMembers (members.map fun m ↦ (m.1.toList.map some, m.2))
      ((compactMembers members ++ ['\x7d']).map some) := by
  induction members with
  | nil => exact absurd rfl hne
  | cons m rest ih =>
      obtain ⟨name, value⟩ := m
      obtain ⟨hvalue, hrest⟩ := List.forall_mem_cons.mp h
      have hname := spellsString_text name.toList
      cases rest with
      | nil =>
          simpa [compactMembers, quote] using
            hname.members blanks_nil blanks_nil hvalue blanks_nil
      | cons next rest =>
          have hnext := ih (by simp) hrest
          simpa [compactMembers, quote] using
            SpellsMembers.cons hname blanks_nil blanks_nil hvalue blanks_nil blanks_nil hnext

theorem ofMembers_texts (members : List (String × Json)) :
    ofMembers (members.map fun m ↦ (m.1.toList.map some, m.2)) = .object members := by
  have hnames : (members.map fun m ↦ (m.1.toList.map some, m.2)).mapM
      (fun m ↦ (textOf? m.1).map (·, m.2)) = some members := by
    induction members with
    | nil => rfl
    | cons m rest ih => simp [textOf?_map_some, ih]
  rw [ofMembers, hnames]

theorem spells_compact {j : Json} (h : Writable j) : Spells j (j.compactChars.map some) := by
  induction h with
  | null => exact spells_null
  | bool value =>
      cases value with
      | true => exact spells_true
      | false => exact spells_false
  | number htext => exact spells_number htext
  | string s => exact spells_quote s
  | @array items _ ih =>
      cases items with
      | nil => exact spells_emptyArray blanks_nil
      | cons item rest =>
          have hitems := spellsItems_compact (List.cons_ne_nil item rest) ih
          simpa [compactChars] using spells_array blanks_nil hitems
  | @object members _ ih =>
      cases members with
      | nil => exact spells_emptyObject blanks_nil
      | cons m rest =>
          have hmembers := spells_object blanks_nil
            (spellsMembers_compact (List.cons_ne_nil m rest) ih)
          rw [ofMembers_texts] at hmembers
          simpa [compactChars] using hmembers

/-- The compact text of a value is read as that value. -/
theorem parse?_compact {j : Json} (h : Writable j) : parse? j.compact = some j := by
  rw [parse?, compact, String.toList_ofList]
  exact parseUnits?_of_spells (spells_compact h)

/-! ## One line -/

def Visible (cs : List Char) : Prop :=
  ∀ c ∈ cs, 0x20 ≤ c.toNat

@[simp] theorem visible_nil : Visible [] := by
  simp [Visible]

@[simp] theorem visible_cons {c : Char} {cs : List Char} :
    Visible (c :: cs) ↔ 0x20 ≤ c.toNat ∧ Visible cs :=
  List.forall_mem_cons

@[simp] theorem visible_append {cs ds : List Char} :
    Visible (cs ++ ds) ↔ Visible cs ∧ Visible ds :=
  List.forall_mem_append

theorem IsDigits.visible {ds : List Char} (h : IsDigits ds) : Visible ds := by
  intro c hc
  have hdigit := h.2 c hc
  have hlow : 48 ≤ c.toNat := by
    simp only [Char.isDigit, Bool.and_eq_true, decide_eq_true_eq] at hdigit
    exact UInt32.le_iff_toNat_le.mp hdigit.1
  omega

theorem IsMagnitude.visible {text : List Char} (h : IsMagnitude text) : Visible text := by
  obtain ⟨whole, fraction, exponent, rfl, hwhole, hfraction, hexponent⟩ := h
  have hpoint : Visible fraction := by
    rcases hfraction with rfl | ⟨ds, rfl, hds⟩
    · exact visible_nil
    · exact visible_cons.mpr ⟨by decide, hds.visible⟩
  have hpower : ∀ {power}, IsPower power → Visible power := by
    rintro power (hds | ⟨ds, rfl | rfl, hds⟩)
    · exact hds.visible
    · exact visible_cons.mpr ⟨by decide, hds.visible⟩
    · exact visible_cons.mpr ⟨by decide, hds.visible⟩
  have hletter : Visible exponent := by
    rcases hexponent with rfl | ⟨power, rfl | rfl, hp⟩
    · exact visible_nil
    · exact visible_cons.mpr ⟨by decide, hpower hp⟩
    · exact visible_cons.mpr ⟨by decide, hpower hp⟩
  exact visible_append.mpr ⟨visible_append.mpr ⟨hwhole.1.visible, hpoint⟩, hletter⟩

theorem IsNumeral.visible {text : List Char} (h : IsNumeral text) : Visible text := by
  rcases h with hm | ⟨magnitude, rfl, hm⟩
  · exact hm.visible
  · exact visible_cons.mpr ⟨by decide, hm.visible⟩

theorem visible_escape (c : Char) : Visible (escape c) := by
  fun_cases escape c
  case case8 hcontrol =>
    have hdigit : ∀ n < 16, 0x20 ≤ (hexDigit n).toNat := by decide
    simpa using ⟨hdigit (c.toNat / 16) (by omega), hdigit (c.toNat % 16) (by omega)⟩
  case case9 hplain => simpa using hplain
  all_goals simp

theorem visible_quote (cs : List Char) : Visible (quote cs) := by
  have hinside : Visible (cs.flatMap escape) := by
    intro d hd
    obtain ⟨c, -, hc⟩ := List.mem_flatMap.mp hd
    exact visible_escape c d hc
  simpa [quote] using hinside

theorem visible_compactItems {items : List Json} (h : ∀ item ∈ items, Visible item.compactChars) :
    Visible (compactItems items) := by
  induction items with
  | nil => exact visible_nil
  | cons item rest ih =>
      obtain ⟨hitem, hrest⟩ := List.forall_mem_cons.mp h
      cases rest with
      | nil => simpa [compactItems] using hitem
      | cons next rest => simpa [compactItems, hitem] using ih hrest

theorem visible_compactMembers {members : List (String × Json)}
    (h : ∀ m ∈ members, Visible m.2.compactChars) : Visible (compactMembers members) := by
  induction members with
  | nil => exact visible_nil
  | cons m rest ih =>
      obtain ⟨name, value⟩ := m
      obtain ⟨hvalue, hrest⟩ := List.forall_mem_cons.mp h
      have hname := visible_quote name.toList
      cases rest with
      | nil => simpa [compactMembers, hname] using hvalue
      | cons next rest => simpa [compactMembers, hname, hvalue] using ih hrest

/-- The compact text of a value holds no control character, whatever its strings hold. -/
theorem visible_compact {j : Json} (h : Writable j) : Visible j.compactChars := by
  induction h with
  | null => simp [compactChars]
  | bool value => cases value <;> simp [compactChars]
  | number htext => exact htext.visible
  | string s => exact visible_quote s.toList
  | array _ ih => simpa [compactChars] using visible_compactItems ih
  | object _ ih => simpa [compactChars] using visible_compactMembers ih

theorem newline_not_mem_compact {j : Json} (h : Writable j) : '\n' ∉ j.compact.toList := by
  intro hmem
  rw [compact, String.toList_ofList] at hmem
  exact absurd (visible_compact h '\n' hmem) (by decide)

end CodeMentor.Json
