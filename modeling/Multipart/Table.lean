/-!
# Tables keyed by text

A table maps texts to values. Its entries are kept in ascending order of their keys, so a table is
determined by what can be looked up in it. The main statements say what a lookup finds after an
insertion.
-/

namespace Multipart

/-- Puts `value` at `key` into an ascending list of entries, in place of an entry of that key. -/
def insertEntry {α : Type} (key : String) (value : α) :
    List (String × α) → List (String × α)
  | [] => [(key, value)]
  | entry :: rest =>
      if entry.1 < key then entry :: insertEntry key value rest
      else if entry.1 = key then (key, value) :: rest
      else (key, value) :: entry :: rest

theorem mem_insertEntry {α : Type} {key : String} {value : α} {entries : List (String × α)}
    {entry : String × α} (h : entry ∈ insertEntry key value entries) :
    entry = (key, value) ∨ entry ∈ entries := by
  induction entries with
  | nil => simpa [insertEntry] using h
  | cons first rest ih =>
      simp only [insertEntry] at h
      split at h
      · simp only [List.mem_cons] at h ⊢
        rcases h with h | h
        · exact .inr (.inl h)
        · exact (ih h).imp_right .inr
      · split at h <;> simp only [List.mem_cons] at h ⊢
        · exact h.imp_right .inr
        · exact h

/-- Inserting into ascending entries leaves them ascending. -/
theorem pairwise_insertEntry {α : Type} (key : String) (value : α)
    {entries : List (String × α)} (h : entries.Pairwise (fun a b => a.1 < b.1)) :
    (insertEntry key value entries).Pairwise (fun a b => a.1 < b.1) := by
  induction entries with
  | nil => simp [insertEntry]
  | cons first rest ih =>
      obtain ⟨hfirst, hrest⟩ := List.pairwise_cons.1 h
      simp only [insertEntry]
      split
      · rename_i hlt
        refine List.pairwise_cons.2 ⟨fun entry hmem => ?_, ih hrest⟩
        rcases mem_insertEntry hmem with rfl | hmem
        · exact hlt
        · exact hfirst entry hmem
      · split
        · rename_i heq
          exact List.pairwise_cons.2 ⟨fun entry hmem => heq ▸ hfirst entry hmem, hrest⟩
        · rename_i hle hne
          have hlt : key < first.1 := Decidable.byContradiction fun hnot =>
            hne (String.le_antisymm (String.not_lt.1 hnot) (String.not_lt.1 hle))
          refine List.pairwise_cons.2 ⟨fun entry hmem => ?_, h⟩
          rcases List.mem_cons.1 hmem with rfl | hmem
          · exact hlt
          · exact String.lt_trans hlt (hfirst entry hmem)

/-- A finite map from texts to values, in ascending order of its keys. -/
structure Table (α : Type) where
  entries : List (String × α)
  ascending : entries.Pairwise (fun a b => a.1 < b.1)

namespace Table

variable {α : Type}

def empty : Table α := ⟨[], .nil⟩

instance : Inhabited (Table α) := ⟨empty⟩

def get? (table : Table α) (key : String) : Option α :=
  (table.entries.find? fun entry => entry.1 = key).map Prod.snd

def contains (table : Table α) (key : String) : Bool :=
  (table.get? key).isSome

def size (table : Table α) : Nat :=
  table.entries.length

def insert (table : Table α) (key : String) (value : α) : Table α :=
  ⟨insertEntry key value table.entries, pairwise_insertEntry key value table.ascending⟩

@[simp] theorem get?_empty (key : String) : (empty : Table α).get? key = none := rfl

@[simp] theorem size_empty : (empty : Table α).size = 0 := rfl

theorem find?_insertEntry (key other : String) (value : α) (entries : List (String × α)) :
    ((insertEntry key value entries).find? fun entry => entry.1 = other) =
      if key = other then some (key, value)
      else entries.find? fun entry => entry.1 = other := by
  induction entries with
  | nil => by_cases h : key = other <;> simp [insertEntry, h]
  | cons first rest ih =>
      simp only [insertEntry]
      split
      · rename_i hlt
        by_cases h : first.1 = other
        · have hne : key ≠ other := fun hkey => String.ne_of_lt hlt (h.trans hkey.symm)
          simp [h, hne]
        · simp [h, ih]
      · split
        · rename_i heq
          by_cases h : key = other <;> simp [h, heq]
        · by_cases h : key = other <;> simp [h]

/-- After an insertion its key has the new value and every other key what it had. -/
theorem get?_insert (table : Table α) (key other : String) (value : α) :
    (table.insert key value).get? other = if other = key then some value else table.get? other := by
  by_cases h : key = other
  · simp [get?, insert, find?_insertEntry, h]
  · simp [get?, insert, find?_insertEntry, h, Ne.symm h]

/-- An insertion adds an entry unless it replaces one. -/
theorem length_insertEntry (key : String) (value : α) {entries : List (String × α)}
    (h : entries.Pairwise (fun a b => a.1 < b.1)) :
    (insertEntry key value entries).length =
      if (entries.find? fun entry => entry.1 = key).isSome then entries.length
      else entries.length + 1 := by
  induction entries with
  | nil => rfl
  | cons first rest ih =>
      obtain ⟨hfirst, hrest⟩ := List.pairwise_cons.1 h
      simp only [insertEntry]
      split
      · rename_i hlt
        have hne : first.1 ≠ key := String.ne_of_lt hlt
        rw [List.length_cons, ih hrest, List.find?_cons_of_neg (by simpa using hne)]
        split <;> rfl
      · split
        · rename_i heq
          rw [List.find?_cons_of_pos (by simpa using heq)]
          rfl
        · rename_i hle hne
          have hlater : rest.find? (fun entry => entry.1 = key) = none := by
            simp only [List.find?_eq_none, decide_eq_true_eq]
            rintro entry hmem rfl
            exact hle (hfirst entry hmem)
          rw [List.find?_cons_of_neg (by simpa using hne), hlater]
          rfl

/-- An insertion adds an entry unless its key has one already. -/
theorem size_insert (table : Table α) (key : String) (value : α) :
    (table.insert key value).size =
      if table.contains key then table.size else table.size + 1 := by
  have hlength := length_insertEntry key value table.ascending
  rwa [← Option.isSome_map (f := Prod.snd)] at hlength

end Table

end Multipart
