import DocumentMapper.Proofs.Query.GroupScripts
import DocumentMapper.Proofs.Query.Priority
import DocumentMapper.Proofs.Query.Rebuilding

/-!
# Rows with one emitted key

A grouping emits a key that holds the fields its expressions read, not what the expressions
come to. Rows with the same fields fall together, so the fields must decide what each
expression comes to. The fields are found by a walk over the operands, and the walk misses
none: what an operator comes to depends on its operands, and levels inside an expression do
not look at the row.

But fields are not all that an expression reads. The row itself and the paths of a row field
are hidden from the walk. They do no harm where they lie beneath a field of the key. But rows
that are keys themselves are not told apart by any fields, and neither are row fields that lie
beneath none.

## Main definitions

* `Document.valueAt`: What stands in a row at a path.
* `Expr.Hidden`: What an expression reads beside fields.
* `SameKey`: Rows with the same fields in the key.
* `KeyDetermines`: Keys that decide what the expressions come to.
* `Expr.Covered`: Expressions whose hidden reads lie beneath fields of the key.

## Theorems

* `valueAt_append`: Paths beneath a path.
* `mem_map_fst_keyMembers`: The fields of the key.
* `ReadsSame.evaluate_eq`: Rows with the same in all that is read.
* `keyDetermines_of_covered`: Fields that decide.
* `covered_of_keyDetermines`: Rows that the fields do not tell apart.
* `emittedKey_determines`: The keys that a map function emits.
-/

namespace DocumentMapper

/-! ### Values at paths -/

namespace Document

/-- What stands in a row at a path. What is missing is null, and at the empty path stands the
    row itself. -/
def valueAt (row : Document) (path : List String) : Value :=
  ((Value.document row).inside? path).getD .null

theorem rowValue_eq (row : Document) (path : String) :
    rowValue (some row) path = .ok (row.valueAt (pathNames path)) := by
  unfold valueAt
  rw [inside?_document row (pathNames_ne_nil path)]
  rfl

/-- What stands beneath a path depends on what stands at the path. -/
theorem valueAt_append (row : Document) (path rest : List String) :
    row.valueAt (path ++ rest) = ((row.valueAt path).inside? rest).getD .null := by
  unfold valueAt
  rw [Value.inside?_append]
  cases (Value.document row).inside? path with
  | some v => rfl
  | none =>
      -- Nothing and null have nothing inside.
      cases rest <;> rfl

theorem valueAt_eq_of_isPrefix {row row' : Document} {path longer : List String}
    (hleads : path <+: longer) (h : row.valueAt path = row'.valueAt path) :
    row.valueAt longer = row'.valueAt longer := by
  rcases hleads with ⟨rest, rfl⟩
  rw [valueAt_append, valueAt_append, h]

end Document

namespace Value

theorem inside?_under_self (v : Value) (path : List String) :
    (v.under path).inside? path = some v := by
  induction path with
  | nil => rfl
  | cons name rest ih => rw [inside?_under_cons, if_pos rfl, ih]

/-- Where a path leads to a number, nothing stands but on the way to it. -/
theorem inside?_under_of_not_isPrefix (n : Int32) (path : List String) :
    ∀ other : List String, ¬ other <+: path →
      ((Value.int32 n).under path).inside? other = none := by
  induction path with
  | nil =>
      intro other hother
      cases other with
      | nil => exact absurd List.nil_prefix hother
      | cons first others =>
          -- A number is no document to go on in.
          rfl
  | cons name rest ih =>
      intro other hother
      cases other with
      | nil => exact absurd List.nil_prefix hother
      | cons first others =>
          rw [inside?_under_cons]
          by_cases hfirst : first = name
          · rw [if_pos hfirst]
            refine ih others fun hleads => hother ?_
            rw [hfirst]
            exact List.cons_prefix_cons.mpr ⟨rfl, hleads⟩
          · rw [if_neg hfirst]

end Value

/-! ### What is read of a row -/

namespace Expr

/-- What an expression reads of a row beside fields: the row itself, and the paths of row
    fields. Levels inside an expression are opaque. -/
inductive Hidden : List String → Expr → Prop
  | parameter (name : String) : Hidden [] (.parameter name)
  | rowField (path : String) : Hidden (pathNames path) (.rowField path)
  | operand {path : List String} {e o : Expr} (mem : o ∈ e.operands) (reads : o.Hidden path) :
    Hidden path e

theorem fieldsReadEach_eq (es : List Expr) : fieldsReadEach es = es.flatMap fieldsRead := by
  induction es with
  | nil => rfl
  | cons e es ih => rw [fieldsReadEach, List.flatMap_cons, ih]

theorem fieldsReadNamed_eq (ms : List (String × Expr)) :
    fieldsReadNamed ms = (ms.map Prod.snd).flatMap fieldsRead := by
  induction ms with
  | nil => rfl
  | cons m ms ih => rw [fieldsReadNamed, List.map_cons, List.flatMap_cons, ih]

theorem fieldsReadOption_eq (x : Option Expr) :
    fieldsReadOption x = x.toList.flatMap fieldsRead := by
  cases x with
  | none => rfl
  | some e => exact (List.append_nil _).symm

/-- The fields of an operand are found. -/
theorem fieldsRead_subset_of_mem_operands {e o : Expr} (h : o ∈ e.operands) :
    o.fieldsRead ⊆ e.fieldsRead := by
  have heq : e.fieldsRead = e.operands.flatMap fieldsRead := by
    cases e with
    | member e name | unary op e => exact (List.append_nil _).symm
    | binary op l r =>
        rw [fieldsRead, operands, List.flatMap_cons, List.flatMap_cons, List.flatMap_nil,
          List.append_nil]
    | call method receiver arguments =>
        rw [fieldsRead, operands, List.flatMap_append, fieldsReadOption_eq, fieldsReadEach_eq]
    | object members => rw [fieldsRead, operands, fieldsReadNamed_eq]
    | aggregate kind argument distinct => rw [fieldsRead, operands, fieldsReadOption_eq]
    | _ => cases h
  intro f hf
  rw [heq]
  exact List.mem_flatMap.mpr ⟨o, h, hf⟩

/-- Rows that have the same in all that an expression reads. -/
structure ReadsSame (row row' : Document) (e : Expr) : Prop where
  fields : ∀ f ∈ e.fieldsRead, rowValue (some row) f.path = rowValue (some row') f.path
  hidden : ∀ path, e.Hidden path → row.valueAt path = row'.valueAt path

namespace ReadsSame

variable {row row' : Document} {e : Expr}

theorem operand (h : ReadsSame row row' e) {o : Expr} (ho : o ∈ e.operands) :
    ReadsSame row row' o where
  fields f hf := h.fields f (fieldsRead_subset_of_mem_operands ho hf)
  hidden path hpath := h.hidden path (.operand ho hpath)

/-- Rows with the same in them are the same. -/
theorem eq_of_parameter {name : String} (h : ReadsSame row row' (.parameter name)) :
    row = row' := by
  have hvalue : Value.document row = Value.document row' := h.hidden [] (.parameter name)
  injection hvalue

/-- An expression comes to the same at rows that have the same in all that it reads. -/
theorem evaluate_eq (h : ReadsSame row row' e) :
    e.evaluate (some row) = e.evaluate (some row') := by
  have step : ∀ e : Expr,
      e.Parts (fun o => ReadsSame row row' o → SameOutcome (some row) (some row') o o) →
        ReadsSame row row' e → SameOutcome (some row) (some row') e e := by
    intro e ih h
    cases e with
    | parameter name => rw [h.eq_of_parameter]
    | field f =>
        unfold SameOutcome
        rw [evaluate, evaluate, h.fields f List.mem_cons_self]
    | rowField path =>
        unfold SameOutcome
        rw [evaluate, evaluate, Document.rowValue_eq, Document.rowValue_eq,
          h.hidden _ (.rowField path)]
    | select s | projection s e | subquery s =>
        -- Levels have no value at a row.
        unfold SameOutcome
        rw [evaluate, evaluate]
    -- An operator depends on its operands, and the other forms on nothing.
    | constant v | collection c | member o name | binary op l r | unary op o
    | call method receiver arguments | object members | aggregate kind argument distinct =>
        have hparts := parts_iff.mpr fun o ho => parts_iff.mp ih o ho (h.operand ho)
        exact (Rebuilt.same hparts).evaluate_eq fun hrow => absurd hrow Bool.false_ne_true
  exact e.induct step h

end ReadsSame

end Expr

/-! ### Fields that decide -/

/-- The fields of a key are those that its expressions read. -/
theorem mem_map_fst_keyMembers {keys : List Expr} {path : String} :
    path ∈ (keyMembers keys).map Prod.fst ↔ ∃ e ∈ keys, ∃ f ∈ e.fieldsRead, f.path = path := by
  have hpaths : (keyMembers keys).map Prod.fst =
      ((keys.flatMap Expr.fieldsRead).map FieldRef.path).eraseDups := by
    unfold keyMembers distinctPaths
    rw [List.map_map, ← map_eraseDupsBy]
    rfl
  rw [hpaths, List.mem_eraseDups]
  simp only [List.mem_map, List.mem_flatMap]
  constructor
  · rintro ⟨f, ⟨e, he, hf⟩, hpath⟩
    exact ⟨e, he, f, hf, hpath⟩
  · rintro ⟨e, he, f, hf, hpath⟩
    exact ⟨f, ⟨e, he, hf⟩, hpath⟩

/-- Rows with the same at every field of the key. -/
def SameKey (keys : List Expr) (row row' : Document) : Prop :=
  ∀ member ∈ keyMembers keys, rowValue (some row) member.1 = rowValue (some row') member.1

/-- Rows with the same fields in the key come to the same with each expression. -/
def KeyDetermines (keys : List Expr) : Prop :=
  ∀ row row', SameKey keys row row' →
    ∀ e ∈ keys, e.evaluate (some row) = e.evaluate (some row')

/-- What is hidden from the key lies at a field of it or beneath one. -/
def Expr.Covered (keys : List Expr) (e : Expr) : Prop :=
  ∀ path, e.Hidden path → ∃ member ∈ keyMembers keys, pathNames member.1 <+: path

/-- The fields of the key decide where nothing but what lies beneath them is hidden. -/
theorem keyDetermines_of_covered {keys : List Expr} (h : ∀ e ∈ keys, e.Covered keys) :
    KeyDetermines keys := by
  intro row row' hsame e he
  refine Expr.ReadsSame.evaluate_eq ⟨?_, ?_⟩
  · -- A field that is read is in the key, under its path.
    intro f hf
    have hmem : f.path ∈ (keyMembers keys).map Prod.fst :=
      mem_map_fst_keyMembers.mpr ⟨e, he, f, hf, rfl⟩
    rcases List.mem_map.mp hmem with ⟨member, hmember, hpath⟩
    rw [← hpath]
    exact hsame member hmember
  · -- And what is hidden lies beneath such a field.
    intro path hpath
    rcases h e he path hpath with ⟨member, hmember, hleads⟩
    have hvalue := hsame member hmember
    rw [Document.rowValue_eq, Document.rowValue_eq] at hvalue
    exact Document.valueAt_eq_of_isPrefix hleads (Except.ok.inj hvalue)

/-! ### Rows that are not told apart -/

/-- Only the path of a row field is hidden in it. -/
theorem Expr.Hidden.eq_pathNames {path : List String} {name : String}
    (h : Expr.Hidden path (.rowField name)) : path = pathNames name := by
  cases h with
  | rowField => rfl
  | operand mem reads => cases mem

theorem Document.valueAt_empty {path : List String} (h : path ≠ []) :
    Document.empty.valueAt path = .null := by
  unfold valueAt
  rw [inside?_document _ h, getPath?_empty]
  rfl

theorem valueAt_documentAt_null (name : String) {path : List String} (h : path ≠ []) :
    (documentAt .null [name]).valueAt path = .null := by
  unfold Document.valueAt
  rw [document_documentAt]
  cases path with
  | nil => exact absurd rfl h
  | cons first rest =>
      rw [Value.inside?_under_cons]
      by_cases hfirst : first = name
      · rw [if_pos hfirst]
        cases rest <;> rfl
      · rw [if_neg hfirst]
        rfl

theorem valueAt_rowAt_self (path : String) (n : Int32) :
    (rowAt path n).valueAt (pathNames path) = .int32 n := by
  unfold Document.valueAt rowAt
  rcases List.exists_cons_of_ne_nil (pathNames_ne_nil path) with ⟨name, rest, hpath⟩
  rw [hpath, document_documentAt, Value.inside?_under_self]
  rfl

theorem valueAt_rowAt_of_not_isPrefix (path : String) (n : Int32) {other : List String}
    (h : ¬ other <+: pathNames path) : (rowAt path n).valueAt other = .null := by
  unfold Document.valueAt rowAt
  rcases List.exists_cons_of_ne_nil (pathNames_ne_nil path) with ⟨name, rest, hpath⟩
  rw [hpath] at h ⊢
  rw [document_documentAt, Value.inside?_under_of_not_isPrefix n _ other h]
  rfl

/-- A row with a null in it has the fields of the empty row, and is another row. -/
theorem not_keyDetermines_of_parameter_mem {keys : List Expr} {name : String}
    (h : Expr.parameter name ∈ keys) : ¬ KeyDetermines keys := by
  intro hdetermines
  have hsame : SameKey keys .empty (documentAt .null [name]) := by
    intro member _
    have hne := pathNames_ne_nil member.1
    rw [Document.rowValue_eq, Document.rowValue_eq, Document.valueAt_empty hne,
      valueAt_documentAt_null name hne]
  have hvalue := hdetermines _ _ hsame _ h
  rw [Expr.evaluate, Expr.evaluate] at hvalue
  cases hvalue

/-- A row that has a number at the path of a row field and nothing else has the fields of the
    empty row, if none of them lies on the way to the number. -/
theorem covered_of_rowField_mem {keys : List Expr} {path : String}
    (hdetermines : KeyDetermines keys) (h : Expr.rowField path ∈ keys) :
    (Expr.rowField path).Covered keys := by
  intro names hnames
  rw [hnames.eq_pathNames]
  by_contra hcovers
  -- The number is seen by the row field and by no field of the key.
  have hsame : SameKey keys .empty (rowAt path 1) := by
    intro member hmember
    have hoff : ¬ pathNames member.1 <+: pathNames path :=
      fun hleads => hcovers ⟨member, hmember, hleads⟩
    rw [Document.rowValue_eq, Document.rowValue_eq,
      Document.valueAt_empty (pathNames_ne_nil _), valueAt_rowAt_of_not_isPrefix path 1 hoff]
  have hvalue := hdetermines _ _ hsame _ h
  rw [Expr.evaluate, Expr.evaluate, Document.rowValue_eq, Document.rowValue_eq,
    Document.valueAt_empty (pathNames_ne_nil _), valueAt_rowAt_self] at hvalue
  cases hvalue

/-- A key that is read off the row is decided by the fields only if they cover it. -/
theorem covered_of_keyDetermines {keys : List Expr} (hdetermines : KeyDetermines keys) {e : Expr}
    (he : e ∈ keys) (hrow : e.isFromRow = true) : e.Covered keys := by
  cases e with
  | parameter name => exact absurd hdetermines (not_keyDetermines_of_parameter_mem he)
  | rowField path => exact covered_of_rowField_mem hdetermines he
  | field f =>
      intro path hpath
      cases hpath with
      | operand mem reads => cases mem
  | _ => cases hrow

/-! ### Emitted keys -/

/-- The key that a map function emits has the fields of the grouping in it. They decide what
    the expressions come to if they cover them, and if an expression is read off the row, only
    then. -/
theorem emittedKey_determines {fields : List (String × Expr)} {keys : List Expr} {m : String}
    (hmap : mapFunction fields keys = .ok m) :
    (∃ value, m = Script.mapping (Script.key (keyMembers keys)) value) ∧
      (∀ path, path ∈ (keyMembers keys).map Prod.fst ↔
        ∃ e ∈ keys, ∃ f ∈ e.fieldsRead, f.path = path) ∧
      ((∀ e ∈ keys, e.Covered keys) → KeyDetermines keys) ∧
      (KeyDetermines keys → ∀ e ∈ keys, e.isFromRow = true → e.Covered keys) := by
  rcases mapFunction_eq_ok_iff.mp hmap with ⟨starts, _, rfl⟩
  exact ⟨⟨_, rfl⟩, fun _ => mem_map_fst_keyMembers, keyDetermines_of_covered,
    fun hdetermines e => covered_of_keyDetermines hdetermines⟩

namespace Groupings

/-- Decades of the age, and what a row field has beneath it. -/
def byDecade : List Expr :=
  [.binary .divide (.field ⟨"t0", "Age"⟩) (.constant (.int32 10)), .rowField "Age.Unit"]

theorem byDecade_determined :
    (∃ m, mapFunction census byDecade = .ok m) ∧ KeyDetermines byDecade := by
  have hmap : mapFunction census byDecade =
      .ok "function() \x7b emit(this.Age, \x7b\"Low\": this.Age, \"Count\": 1\x7d); \x7d" := by
    rfl
  have hcovered : ∀ e ∈ byDecade, e.Covered byDecade := by
    intro e he path hpath
    rcases List.mem_cons.mp he with rfl | he
    · -- Nothing is hidden in the quotient of a field and a constant.
      cases hpath with
      | operand mem reads =>
          rcases List.mem_cons.mp mem with rfl | mem
          · cases reads with
            | operand mem _ => cases mem
          · cases List.mem_singleton.mp mem
            cases reads with
            | operand mem _ => cases mem
    · cases List.mem_singleton.mp he
      rw [hpath.eq_pathNames]
      exact ⟨("Age", "this.Age"), List.mem_cons_self, ["Unit"], rfl⟩
  exact ⟨⟨_, hmap⟩, (emittedKey_determines hmap).2.2.1 hcovered⟩

/-- Groups of the rows themselves. -/
def byRow : List Expr :=
  [.parameter "p"]

/-- One key is emitted for all rows, whatever they are. -/
theorem byRow_in_one_group :
    mapFunction [("Count", .aggregate .count none false)] byRow =
        .ok "function() \x7b emit(1, \x7b\"Count\": 1\x7d); \x7d" ∧
      (∀ row row' : Document, SameKey byRow row row') ∧ ¬ KeyDetermines byRow := by
  refine ⟨by rfl, ?_, not_keyDetermines_of_parameter_mem List.mem_cons_self⟩
  intro row row' member h
  -- The key has no fields.
  cases h

end Groupings

end DocumentMapper
