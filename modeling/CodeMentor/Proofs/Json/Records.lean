import CodeMentor.Dictionary
import CodeMentor.Proofs.Json.Layout
import CodeMentor.Proofs.Json.Numerals

/-!
# Reading what a record was written as

Fields, lists, dictionaries and records, each with the law that reading gives back what was written.
A record is read from any object whose names are distinct and among whose members are those of the
record, so it may share an object with other records.
-/

namespace CodeMentor

namespace Json

/-! ## Values -/

/-- Both layouts of the value are read as `v`. -/
def Recovers {α : Type} (read? : Json → Option α) (j : Json) (v : α) : Prop :=
  (parse? j.compact).bind read? = some v ∧ (parse? j.pretty).bind read? = some v

theorem Writable.recovers {α : Type} {read? : Json → Option α} {j : Json} {v : α} (h : Writable j)
    (hread : read? j = some v) : Recovers read? j v := by
  constructor
  · rw [parse?_compact h, Option.bind_some, hread]
  · rw [parse?_pretty h, Option.bind_some, hread]

attribute [simp] Writable.null Writable.bool Writable.string

@[simp] theorem writable_array_iff {items : List Json} :
    Writable (.array items) ↔ ∀ item ∈ items, Writable item :=
  ⟨fun h ↦ by cases h; assumption, .array⟩

@[simp] theorem writable_object_iff {members : List (String × Json)} :
    Writable (.object members) ↔ ∀ m ∈ members, Writable m.2 :=
  ⟨fun h ↦ by cases h; assumption, .object⟩

@[simp] theorem writable_ofNat (n : Nat) : Writable (ofNat n) :=
  .number (isNumeral_toDigits n)

@[simp] theorem writable_ofTexts (texts : List String) : Writable (ofTexts texts) := by
  simp [ofTexts]

@[simp] theorem writable_ofText? (text : Option String) : Writable (ofText? text) := by
  cases text with
  | none => exact .null
  | some s => exact .string s

@[simp] theorem writable_ofBinary64 (x : Number.Binary64) : Writable (ofBinary64 x) := by
  rw [ofBinary64]
  split
  · exact .number (isNumeral_text x)
  · exact .null

/-! ## Fields -/

@[simp] theorem text?_string (s : String) : text? (.string s) = some s := rfl

@[simp] theorem flag?_bool (b : Bool) : flag? (.bool b) = some b := rfl

theorem list?_map {α : Type} {read? : Json → Option α} {toJson : α → Json}
    (h : ∀ v, read? (toJson v) = some v) (vs : List α) :
    list? read? (.array (vs.map toJson)) = some vs := by
  rw [list?]
  induction vs with
  | nil => rfl
  | cons v vs ih => simp [h, ih]

@[simp] theorem list?_ofTexts (texts : List String) :
    list? text? (ofTexts texts) = some texts :=
  list?_map text?_string texts

/-- A value that may be null is read back as long as what is written of it is not null itself. -/
theorem absent?_map {α : Type} {read? : Json → Option α} {toJson : α → Json}
    (h : ∀ v, read? (toJson v) = some v) (hnull : ∀ v, toJson v ≠ .null) (v : Option α) :
    absent? read? (some ((v.map toJson).getD .null)) = some v := by
  cases v with
  | none => rfl
  | some v =>
      have hread : nullable? read? (toJson v) = (read? (toJson v)).map some := by
        rw [nullable?]
        exact hnull v
      simp [absent?, orElse?, hread, h]

@[simp] theorem absent?_ofText? (text : Option String) :
    absent? text? (some (ofText? text)) = some text := by
  cases text with
  | none => rfl
  | some s => rfl

/-! ## Records -/

theorem filter_eq_of_mem {members : List (String × Json)} (hnodup : (members.map (·.1)).Nodup)
    {m : String × Json} (hm : m ∈ members) : members.filter (·.1 == m.1) = [m] := by
  induction members with
  | nil => cases hm
  | cons first rest ih =>
      obtain ⟨hfirst, hrest⟩ := List.nodup_cons.mp hnodup
      rcases List.mem_cons.mp hm with rfl | hm
      · have hnone : rest.filter (·.1 == m.1) = [] := by
          rw [List.filter_eq_nil_iff]
          intro n hn hname
          exact hfirst (List.mem_map.mpr ⟨n, hn, by simpa using hname⟩)
        simp [hnone]
      · have hne : first.1 ≠ m.1 := by
          intro heq
          exact hfirst (List.mem_map.mpr ⟨m, hm, heq.symm⟩)
        simp [hne, ih hrest hm]

/-- The fields of a record in an object that has other members too. -/
theorem fields?_of_subset {schema : Schema} {own members : List (String × Json)}
    (hnames : own.map (·.1) = schema.map (·.1)) (hsub : own ⊆ members)
    (hnodup : (members.map (·.1)).Nodup) :
    fields? schema (.object members) = some (own.map fun m ↦ some m.2) := by
  rw [fields?]
  induction own generalizing schema with
  | nil =>
      obtain rfl : schema = [] := by simpa using hnames.symm
      rfl
  | cons m own ih =>
      obtain ⟨field, schema, rfl⟩ : ∃ field rest, schema = field :: rest := by
        cases schema with
        | nil => simp at hnames
        | cons field schema => exact ⟨field, schema, rfl⟩
      obtain ⟨hname, hnames⟩ : m.1 = field.1 ∧ own.map (·.1) = schema.map (·.1) := by
        simpa using hnames
      obtain ⟨hm, hsub⟩ := List.cons_subset.mp hsub
      have hfield : fieldOf? members field = some (some m.2) := by
        rw [fieldOf?, ← hname, filter_eq_of_mem hnodup hm]
      simp [hfield, ih hnames hsub]

/-- The fields of a record that is written by itself. -/
theorem fields?_of_names {schema : Schema} {own : List (String × Json)}
    (hnames : own.map (·.1) = schema.map (·.1)) (hnodup : (own.map (·.1)).Nodup) :
    fields? schema (.object own) = some (own.map fun m ↦ some m.2) :=
  fields?_of_subset hnames (List.Subset.refl own) hnodup

/-! ## Values that are held -/

theorem meaningfulItems_of_forall {items : List Json} (h : ∀ j ∈ items, j.meaningful = true) :
    meaningfulItems items = true := by
  induction items with
  | nil => rfl
  | cons item rest ih =>
      obtain ⟨hitem, hrest⟩ := List.forall_mem_cons.mp h
      simp [meaningfulItems, hitem, ih hrest]

theorem meaningfulMembers_of_forall {members : List (String × Json)}
    (h : ∀ m ∈ members, m.2.meaningful = true) : meaningfulMembers members = true := by
  induction members with
  | nil => rfl
  | cons m rest ih =>
      obtain ⟨hm, hrest⟩ := List.forall_mem_cons.mp h
      simp [meaningfulMembers, hm, ih hrest]

theorem depthItems_le {items : List Json} {n : Nat} (h : ∀ j ∈ items, j.depth ≤ n) :
    depthItems items ≤ n := by
  induction items with
  | nil => exact Nat.zero_le n
  | cons item rest ih =>
      obtain ⟨hitem, hrest⟩ := List.forall_mem_cons.mp h
      exact max_le hitem (ih hrest)

theorem depthMembers_le {members : List (String × Json)} {n : Nat}
    (h : ∀ m ∈ members, m.2.depth ≤ n) : depthMembers members ≤ n := by
  induction members with
  | nil => exact Nat.zero_le n
  | cons m rest ih =>
      obtain ⟨hm, hrest⟩ := List.forall_mem_cons.mp h
      exact max_le hm (ih hrest)

/-- All of the value has a meaning, and it is at most a list of values that hold no others. -/
structure Plain (j : Json) : Prop where
  meaningful : j.meaningful = true
  depth : j.depth ≤ 1

theorem plain_string (s : String) : Plain (.string s) :=
  ⟨rfl, Nat.zero_le _⟩

theorem plain_ofNat {n : Nat} (h : n < UInt64.size) : Plain (ofNat n) :=
  ⟨isSome_binary64?_ofNat h, Nat.zero_le _⟩

theorem ReadsBack.plain {x : Number.Binary64} (h : ReadsBack x) : Plain (ofBinary64 x) := by
  obtain ⟨hnumber, hvalue⟩ := h.numeral
  rw [hnumber] at hvalue ⊢
  exact ⟨by rw [Json.meaningful, hvalue]; rfl, Nat.zero_le _⟩

theorem plain_ofTexts (texts : List String) : Plain (ofTexts texts) := by
  refine ⟨meaningfulItems_of_forall ?_, Nat.succ_le_succ (depthItems_le ?_)⟩
  all_goals
    intro j hj
    obtain ⟨s, -, rfl⟩ := List.mem_map.mp hj
  · rfl
  · exact le_rfl

theorem isHoldable_of_plain {members : List (String × Json)} (h : ∀ m ∈ members, Plain m.2) :
    (object members).isHoldable = true := by
  have hmeaningful : (object members).meaningful = true :=
    meaningfulMembers_of_forall fun m hm ↦ (h m hm).meaningful
  have hdepth : (object members).depth ≤ 2 :=
    Nat.succ_le_succ (depthMembers_le fun m hm ↦ (h m hm).depth)
  rw [isHoldable, hmeaningful, Bool.true_and, decide_eq_true_iff]
  exact hdepth.trans (by decide)

end Json

/-! ## Dictionaries -/

theorem putEntry_of_lt {α : Type} {entries : List (String × α)} {name : String} (value : α)
    (h : ∀ e ∈ entries, e.1 < name) : putEntry name value entries = entries ++ [(name, value)] := by
  induction entries with
  | nil => rfl
  | cons e rest ih =>
      obtain ⟨he, hrest⟩ := List.forall_mem_cons.mp h
      rw [putEntry, if_neg (String.lt_asymm he),
        if_neg (String.ne_of_lt he).symm, ih hrest]
      rfl

namespace Dictionary

variable {α : Type}

theorem entries_foldl_insert (d : Dictionary α) {entries : List (String × α)}
    (h : Ascending (d.entries ++ entries)) :
    (entries.foldl (fun d e ↦ d.insert e.1 e.2) d).entries = d.entries ++ entries := by
  induction entries generalizing d with
  | nil => simp
  | cons e rest ih =>
      have hlt : ∀ x ∈ d.entries, x.1 < e.1 := fun x hx ↦
        (List.pairwise_append.mp h).2.2 x hx e List.mem_cons_self
      have hentries : (d.insert e.1 e.2).entries = d.entries ++ [e] := putEntry_of_lt e.2 hlt
      rw [List.foldl_cons, ih]
      · simp [hentries]
      · simpa [hentries] using h

theorem eq_of_entries {d d' : Dictionary α} (h : d.entries = d'.entries) : d = d' := by
  cases d
  cases d'
  cases h
  rfl

theorem ofList_entries (d : Dictionary α) : ofList d.entries = d :=
  eq_of_entries (entries_foldl_insert empty d.ascending)

theorem ofJson?_toJson {read? : Json → Option α} {write : α → Json}
    (h : ∀ v, read? (write v) = some v) (d : Dictionary α) :
    ofJson? read? (d.toJson write) = some d := by
  have hentries : (d.entries.map fun e ↦ (e.1, write e.2)).mapM
      (fun e ↦ (read? e.2).map fun v ↦ (e.1, v)) = some d.entries := by
    induction d.entries with
    | nil => rfl
    | cons e rest ih => simp [h, ih]
  rw [toJson, ofJson?, hentries, Option.map_some, ofList_entries]

theorem writable_toJson {write : α → Json} (h : ∀ v, (write v).Writable) (d : Dictionary α) :
    (d.toJson write).Writable := by
  apply Json.Writable.object
  intro m hm
  obtain ⟨e, -, rfl⟩ := List.mem_map.mp hm
  exact h e.2

end Dictionary

end CodeMentor
