import CodeMentor.Json.Record

/-!
# Dictionaries

Finite maps from names to values, kept in ascending order of the names, so that two dictionaries
with the same content are equal and are written in the same way. A later entry for a name replaces
an earlier one.
-/

namespace CodeMentor

/-- Put an entry into ascending entries. -/
def putEntry {α : Type} (name : String) (value : α) : List (String × α) → List (String × α)
  | [] => [(name, value)]
  | (n, v) :: rest =>
    if name < n then (name, value) :: (n, v) :: rest
    else if name = n then (name, value) :: rest
    else (n, v) :: putEntry name value rest

def Ascending {α : Type} (entries : List (String × α)) : Prop :=
  entries.Pairwise fun a b => a.1 < b.1

theorem lt_of_mem_putEntry {α : Type} {low name : String} {value : α}
    {entries : List (String × α)} (hname : low < name) (h : ∀ e ∈ entries, low < e.1) :
    ∀ e ∈ putEntry name value entries, low < e.1 := by
  induction entries with
  | nil => simpa [putEntry] using hname
  | cons e rest ih =>
    obtain ⟨n, v⟩ := e
    simp only [List.mem_cons, forall_eq_or_imp] at h
    simp only [putEntry]
    split
    · simp only [List.mem_cons, forall_eq_or_imp]
      exact ⟨hname, h.1, h.2⟩
    · split
      · simp only [List.mem_cons, forall_eq_or_imp]
        exact ⟨hname, h.2⟩
      · simp only [List.mem_cons, forall_eq_or_imp]
        exact ⟨h.1, ih h.2⟩

theorem Ascending.putEntry {α : Type} (name : String) (value : α) {entries : List (String × α)}
    (h : Ascending entries) : Ascending (putEntry name value entries) := by
  induction entries with
  | nil => simp [CodeMentor.putEntry, Ascending]
  | cons e rest ih =>
    obtain ⟨n, v⟩ := e
    obtain ⟨hn, hrest⟩ := List.pairwise_cons.1 h
    simp only [CodeMentor.putEntry]
    split
    next hlt =>
      refine List.pairwise_cons.2 ⟨?_, h⟩
      simp only [List.mem_cons, forall_eq_or_imp]
      exact ⟨hlt, fun e he => String.lt_trans hlt (hn e he)⟩
    next hlt =>
      split
      next heq =>
        subst heq
        exact List.pairwise_cons.2 ⟨hn, hrest⟩
      next hne =>
        refine List.pairwise_cons.2 ⟨?_, ih hrest⟩
        exact lt_of_mem_putEntry (by grind) hn

/-- A finite map from names to values. -/
structure Dictionary (α : Type) where
  entries : List (String × α)
  ascending : Ascending entries

namespace Dictionary

instance {α : Type} [DecidableEq α] : DecidableEq (Dictionary α) := fun a b =>
  if h : a.entries = b.entries then
    isTrue (by cases a; cases b; simp_all)
  else
    isFalse (by rintro rfl; exact h rfl)

def empty {α : Type} : Dictionary α :=
  ⟨[], List.Pairwise.nil⟩

/-- The dictionary with one more entry; an entry of the same name is replaced. -/
def insert {α : Type} (d : Dictionary α) (name : String) (value : α) : Dictionary α :=
  ⟨putEntry name value d.entries, d.ascending.putEntry name value⟩

/-- The dictionary of a list of entries; the last entry of a name counts. -/
def ofList {α : Type} (entries : List (String × α)) : Dictionary α :=
  entries.foldl (fun d e => d.insert e.1 e.2) empty

def toJson {α : Type} (value : α → Json) (d : Dictionary α) : Json :=
  .object (d.entries.map fun e => (e.1, value e.2))

def ofJson? {α : Type} (value? : Json → Option α) : Json → Option (Dictionary α)
  | .object members =>
    (members.mapM fun e => (value? e.2).map fun v => (e.1, v)).map ofList
  | _ => none

end Dictionary

end CodeMentor
