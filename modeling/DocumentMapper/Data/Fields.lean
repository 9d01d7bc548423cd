/-!
# Named contents in order

A list of named contents in which each name stands once: a new name comes last, and a
name that is there keeps its place and takes the new content.

## Main definitions

* `Fields.insert`: Append or replace.
* `Fields.ofList`: The list that arises from inserting one after another.

## Theorems

* `lookup_insert_self`: An inserted content is found under its name.
* `lookup_insert_of_ne`: Under other names nothing changes.
* `map_fst_insert`: The names after an insertion, in order.
-/

namespace DocumentMapper.Fields

variable {α : Type}

/-- Replaces the content under a name that occurs, or appends it. -/
def insert (name : String) (content : α) : List (String × α) → List (String × α)
  | [] => [(name, content)]
  | (n, c) :: rest => if n = name then (n, content) :: rest else (n, c) :: insert name content rest

/-- The list that arises from inserting contents one after another. -/
def ofList (fields : List (String × α)) : List (String × α) :=
  fields.foldl (fun done field => insert field.1 field.2 done) []

theorem lookup_insert_self (name : String) (content : α) (fields : List (String × α)) :
    (insert name content fields).lookup name = some content := by
  induction fields with
  | nil => simp [insert]
  | cons field rest ih =>
    obtain ⟨n, c⟩ := field
    by_cases h : n = name
    · simp [insert, h]
    · have h' : (name == n) = false := by simpa using Ne.symm h
      rw [insert, if_neg h, List.lookup_cons, h', ih]

theorem lookup_insert_of_ne {name other : String} (h : other ≠ name) (content : α)
    (fields : List (String × α)) :
    (insert name content fields).lookup other = fields.lookup other := by
  have h' : (other == name) = false := by simpa using h
  induction fields with
  | nil => simp only [insert, List.lookup_cons, List.lookup_nil, h']
  | cons field rest ih =>
    obtain ⟨n, c⟩ := field
    by_cases hn : n = name
    · subst hn
      rw [insert, if_pos rfl, List.lookup_cons, List.lookup_cons, h']
    · rw [insert, if_neg hn, List.lookup_cons, List.lookup_cons, ih]

/-- A name that is there keeps its place, and a new one comes last. -/
theorem map_fst_insert (name : String) (content : α) (fields : List (String × α)) :
    (insert name content fields).map Prod.fst =
      if name ∈ fields.map Prod.fst then fields.map Prod.fst
      else fields.map Prod.fst ++ [name] := by
  induction fields with
  | nil => simp [insert]
  | cons field rest ih =>
    by_cases h : field.1 = name
    · simp [insert, h]
    · simp only [insert, h, if_false, List.map_cons, ih, List.mem_cons]
      by_cases hm : name ∈ rest.map Prod.fst
      · simp [hm]
      · simp [hm, Ne.symm h]

end DocumentMapper.Fields
