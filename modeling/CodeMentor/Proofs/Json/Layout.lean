import CodeMentor.Proofs.Json.Printing

/-!
# Reading the layout with one item a line

The layout with one item or member a line differs from the compact one in blanks only, which stand
where the reader skips them: before each item, behind the colon of a member and before a closing
bracket. So the reader gives the same value back from either layout.
-/

namespace CodeMentor.Json

theorem blanks_newLine (level : Nat) : Blanks ((newLine level).map some) := by
  intro u hu
  simp only [newLine, List.map_cons, List.map_replicate, List.mem_cons, List.mem_replicate] at hu
  rcases hu with rfl | ⟨-, rfl⟩
  · decide
  · decide

theorem blanks_singleton_space : Blanks [some ' '] := by
  intro u hu
  rw [List.mem_singleton.mp hu]
  decide

/-- Behind the blanks in front of the first item, the lines spell the items, whatever blanks there
are before the closing bracket. -/
theorem exists_prettyItems {level : Nat} {items : List Json} (hne : items ≠ [])
    (h : ∀ item ∈ items, Spells item ((prettyChars level item).map some)) :
    ∃ t, prettyItems level items = newLine level ++ t ∧
      ∀ bs, Blanks bs → SpellsItems items (t.map some ++ (bs ++ [some ']'])) := by
  induction items with
  | nil => exact absurd rfl hne
  | cons item rest ih =>
      obtain ⟨hitem, hrest⟩ := List.forall_mem_cons.mp h
      cases rest with
      | nil => exact ⟨prettyChars level item, rfl, fun bs hbs ↦ hitem.items hbs⟩
      | cons next rest =>
          obtain ⟨t, ht, hspells⟩ := ih (List.cons_ne_nil next rest) hrest
          refine ⟨prettyChars level item ++ ',' :: (newLine level ++ t), ?_, ?_⟩
          · simp [prettyItems, ht]
          · intro bs hbs
            have hcons := SpellsItems.cons hitem blanks_nil (blanks_newLine level) (hspells bs hbs)
            simpa using hcons

theorem exists_prettyMembers {level : Nat} {members : List (String × Json)} (hne : members ≠ [])
    (h : ∀ m ∈ members, Spells m.2 ((prettyChars level m.2).map some)) :
    ∃ t, prettyMembers level members = newLine level ++ t ∧
      ∀ bs, Blanks bs → SpellsMembers (members.map fun m ↦ (m.1.toList.map some, m.2))
        (t.map some ++ (bs ++ [some '\x7d'])) := by
  induction members with
  | nil => exact absurd rfl hne
  | cons m rest ih =>
      obtain ⟨name, value⟩ := m
      obtain ⟨hvalue, hrest⟩ := List.forall_mem_cons.mp h
      have hname := spellsString_text name.toList
      cases rest with
      | nil =>
          refine ⟨quote name.toList ++ ':' :: ' ' :: prettyChars level value, ?_, ?_⟩
          · simp [prettyMembers]
          · intro bs hbs
            have hmember := hname.members blanks_nil blanks_singleton_space hvalue hbs
            simpa [quote] using hmember
      | cons next rest =>
          obtain ⟨t, ht, hspells⟩ := ih (List.cons_ne_nil next rest) hrest
          refine ⟨quote name.toList ++ ':' :: ' ' :: (prettyChars level value ++
            ',' :: (newLine level ++ t)), ?_, ?_⟩
          · simp [prettyMembers, ht]
          · intro bs hbs
            have hcons := SpellsMembers.cons hname blanks_nil blanks_singleton_space hvalue
              blanks_nil (blanks_newLine level) (hspells bs hbs)
            simpa [quote] using hcons

/-- The induction is on the value, at all levels at once: items stand one level deeper. -/
theorem spells_pretty {j : Json} (h : Writable j) :
    ∀ level, Spells j ((prettyChars level j).map some) := by
  induction h with
  | null => exact fun _ ↦ spells_null
  | bool value =>
      cases value with
      | true => exact fun _ ↦ spells_true
      | false => exact fun _ ↦ spells_false
  | number htext => exact fun _ ↦ spells_number htext
  | string s => exact fun _ ↦ spells_quote s
  | @array items _ ih =>
      intro level
      cases items with
      | nil => exact spells_emptyArray blanks_nil
      | cons item rest =>
          obtain ⟨t, ht, hspells⟩ := exists_prettyItems (List.cons_ne_nil item rest)
            fun item hitem ↦ ih item hitem (level + 1)
          have harray := spells_array (blanks_newLine (level + 1))
            (hspells _ (blanks_newLine level))
          simpa [prettyChars, ht] using harray
  | @object members _ ih =>
      intro level
      cases members with
      | nil => exact spells_emptyObject blanks_nil
      | cons m rest =>
          obtain ⟨t, ht, hspells⟩ := exists_prettyMembers (List.cons_ne_nil m rest)
            fun m hm ↦ ih m hm (level + 1)
          have hobject := spells_object (blanks_newLine (level + 1))
            (hspells _ (blanks_newLine level))
          rw [ofMembers_texts] at hobject
          simpa [prettyChars, ht] using hobject

/-- The text with one item or member a line is read as the value that was written. -/
theorem parse?_pretty {j : Json} (h : Writable j) : parse? j.pretty = some j := by
  rw [parse?, pretty, String.toList_ofList]
  exact parseUnits?_of_spells (spells_pretty h 0)

end CodeMentor.Json
