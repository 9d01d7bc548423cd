import DocumentMapper.Proofs.Query.Chain
import DocumentMapper.Proofs.Query.Comparison
import DocumentMapper.Proofs.Query.Levels
import DocumentMapper.Query.Ordering

/-!
# Conjunctions of comparisons

The simplest filters compare fields with constants and ask for all of the comparisons
to be true. How a field is named is left open, so that one notion serves for fields that
are named by chains and for fields whose stored names depend on a class.

Such a filter over chains can be followed through the whole translation: folding leaves
it as it is, binding turns its chains into fields, hoisting passes over it, and its atoms
are placed one after another. Nothing is denied in it, so its condition document means
what it means. And at a row on which it has a truth value at all, that is the truth of
its atoms, also where an operand is left out because the other one is false.

## Main definitions

* `Expr.comparedWith`: A comparison with a constant, which stands on either side.
* `FieldTest`, `Conjunction`: The filters, by what names a field.
* `Conjunction.on`, `Conjunction.bound`: A filter on a row and on the fields of a source.
* `Conjunction.predicate`: The predicate that a filter stands for.
* `Predicate.NotFree`: Predicates in which nothing is denied.

## Theorems

* `NotFree.faithful`: The layout of a predicate without negations means the same.
* `Conjunction.evaluate_on`: A filter evaluates to the truth of its predicate.
* `Conjunction.fold_on`, `Conjunction.bind_on`, `Conjunction.hoist_bound`: The steps that
  come before conditions are placed.
* `Conjunction.addConditions_bound`: A filter places the atoms of its predicate.
-/

namespace DocumentMapper

namespace Predicate

/-- Nothing is denied. -/
def NotFree : Predicate → Prop
  | true => True
  | atom _ => True
  | and p q => p.NotFree ∧ q.NotFree
  | not _ => False

theorem NotFree.depth_eq {p : Predicate} (h : p.NotFree) : ∀ x ∈ p.occurrences, x.1 = 0 := by
  induction p with
  | true =>
      intro x hx
      cases hx
  | atom a =>
      intro x hx
      rw [List.mem_singleton.mp hx]
  | and p q ihp ihq =>
      intro x hx
      rcases List.mem_append.mp hx with hx | hx
      · exact ihp h.1 x hx
      · exact ihq h.2 x hx
  | not p ih => exact h.elim

/-- Without negations all atoms are on one level. -/
theorem NotFree.faithful {p : Predicate} (h : p.NotFree) : p.Faithful := by
  induction p with
  | true => exact trivial
  | atom a => exact trivial
  | and p q ihp ihq =>
      refine ⟨ihp h.1, ihq h.2, ?_⟩
      intro x hx y hy _
      rw [h.1.depth_eq x hx, h.2.depth_eq y hy]
      rfl
  | not p ih => exact h.elim

end Predicate

/-! ### Comparisons with constants -/

/-- The relation of what is compared with a constant to the constant, which stands on either
    side. -/
def BinaryOp.relationTo (op : BinaryOp) (constantFirst : Bool) : Relation :=
  let r := op.relation?.getD .equal
  if constantFirst then r.converse else r

namespace Expr

/-- The comparison of an expression with a constant. -/
def comparedWith (side : Expr) (op : BinaryOp) (v : Value) (constantFirst : Bool) : Expr :=
  if constantFirst then .binary op (.constant v) side else .binary op side (.constant v)

variable {side : Expr} {op : BinaryOp} {v : Value} {constantFirst : Bool}

theorem isConstant_comparedWith : (side.comparedWith op v constantFirst).isConstant = false := by
  unfold comparedWith
  split <;> rfl

theorem fold_comparedWith (hconstant : side.isConstant = false) (hfold : side.fold = pure side) :
    (side.comparedWith op v constantFirst).fold = pure (side.comparedWith op v constantFirst) := by
  have hself : (constant v).fold = pure (.constant v) := by
    rw [fold]
  have hleft : (binary op side (.constant v)).isFoldable = false := by
    rw [isFoldable, hconstant, Bool.false_and]
  have hright : (binary op (.constant v) side).isFoldable = false := by
    rw [isFoldable, hconstant, Bool.and_false]
  unfold comparedWith
  cases constantFirst with
  | true =>
      rw [if_pos rfl, fold, hfold, hself, pure_bind, pure_bind, settle, hright]
      rfl
  | false =>
      rw [if_neg Bool.false_ne_true, fold, hfold, hself, pure_bind, pure_bind, settle, hleft]
      rfl

theorem bind_comparedWith {store : Option Store} {rows : Option Rows} {bound : Expr} :
    (side.comparedWith op v constantFirst).bind store rows = .ok bound ↔
      ∃ side', side.bind store rows = .ok side' ∧
        bound = side'.comparedWith op v constantFirst := by
  have hconstant : (constant v).bind store rows = .ok (.constant v) := by
    rw [Expr.bind]
    rfl
  have hbinary : ∀ left right : Expr,
      (binary op left right).bind store rows =
        (do
          let l ← left.bind store rows
          return .binary op l (← right.bind store rows)) := by
    intro left right
    rw [Expr.bind]
    rfl
  -- On whichever side the constant is, it is bound to itself.
  have hside : (side.comparedWith op v constantFirst).bind store rows =
      (comparedWith · op v constantFirst) <$> side.bind store rows := by
    unfold comparedWith
    cases constantFirst with
    | true => simp only [if_true, hbinary, hconstant, Except.ok_bind, map_eq_pure_bind]
    | false =>
        simp only [Bool.false_eq_true, if_false, hbinary, hconstant, Except.ok_bind,
          map_eq_pure_bind]
  rw [hside, Except.map_eq_ok]
  exact exists_congr fun side' => and_congr_right fun _ => eq_comm

theorem hoist_comparedWith {outermost : Bool} (h : side.hoist outermost = pure side) :
    (side.comparedWith op v constantFirst).hoist outermost =
      pure (side.comparedWith op v constantFirst) := by
  have hconstant : (constant v).hoist outermost = pure (.constant v) := by
    rw [hoist]
  unfold comparedWith
  cases constantFirst with
  | true => rw [if_pos rfl, hoist, hconstant, h, pure_bind, pure_bind]
  | false => rw [if_neg Bool.false_ne_true, hoist, hconstant, h, pure_bind, pure_bind]

/-- The comparison has the truth of its relation, where the side has a value. -/
theorem evaluate_comparedWith (hop : op.isComparison = true) {row : Document} {w : Value}
    (h : (side.comparedWith op v constantFirst).evaluate (some row) = .ok w) :
    ∃ u, side.evaluate (some row) = .ok u ∧
      w = .boolean ((op.relationTo constantFirst).relates u v) := by
  rcases BinaryOp.relation?_of_isComparison hop with ⟨r, hr⟩
  have hconstant : (constant v).evaluate (some row) = .ok v := by
    rw [evaluate]
  unfold comparedWith at h
  unfold BinaryOp.relationTo
  rw [hr, Option.getD_some]
  -- With the constant first the comparison is read backwards, hence by the converse relation.
  cases constantFirst with
  | true =>
      rw [if_pos rfl, evaluate_comparison hop, hconstant, Except.ok_bind] at h
      rcases Except.bind_eq_ok.mp h with ⟨u, hu, hw⟩
      exact ⟨u, hu, BinaryOp.apply_comparison_converse hr hw⟩
  | false =>
      rw [if_neg Bool.false_ne_true, evaluate_comparison hop] at h
      rcases Except.bind_eq_ok.mp h with ⟨u, hu, hw⟩
      rw [hconstant, Except.ok_bind] at hw
      exact ⟨u, hu, BinaryOp.apply_comparison hr hw⟩

/-- A comparison with a field stands for its atom. -/
theorem predicate?_comparedWith (hop : op.isComparison = true) (f : FieldRef) :
    ((field f).comparedWith op v constantFirst).predicate? =
      some (.atom ⟨f.path, op.relationTo constantFirst, v⟩) := by
  rcases BinaryOp.relation?_of_isComparison hop with ⟨r, hr⟩
  have hconjunction : op.isConjunction = false := by
    cases hop' : op <;> first | rfl | (rw [hop'] at hop; cases hop)
  unfold comparedWith BinaryOp.relationTo
  rw [hr, Option.getD_some]
  cases constantFirst with
  | true =>
      rw [if_pos rfl, if_pos rfl, predicate?, hconjunction, comparisonAtom?, hr]
      rfl
  | false =>
      rw [if_neg Bool.false_ne_true, if_neg Bool.false_ne_true, predicate?, hconjunction,
        comparisonAtom?, hr]
      rfl

end Expr

/-- A comparison of a field with a constant, which stands on either side. -/
structure FieldTest (α : Type) where
  field : α
  op : BinaryOp
  constant : Value
  constantFirst : Bool
  isComparison : op.isComparison = true
  plain : constant.asDocument? = none

namespace FieldTest

variable {α : Type}

/-- The comparison of what reads the field. -/
def reading (t : FieldTest α) (read : α → Expr) : Expr :=
  (read t.field).comparedWith t.op t.constant t.constantFirst

/-- The test of what is at a path. -/
def atomAt (t : FieldTest α) (path : String) : Atom :=
  ⟨path, t.op.relationTo t.constantFirst, t.constant⟩

end FieldTest

/-- A conjunction of comparisons. -/
inductive Conjunction (α : Type) where
  | test (t : FieldTest α)
  | both (op : BinaryOp) (isConjunction : op.isConjunction = true) (p q : Conjunction α)

namespace Conjunction

section Reading

variable {α : Type}

/-- The filter whose fields are read in some way. -/
def reading (read : α → Expr) : Conjunction α → Expr
  | test t => t.reading read
  | both op _ p q => .binary op (p.reading read) (q.reading read)

/-- The comparisons in the order of writing. -/
def tests : Conjunction α → List (FieldTest α)
  | test t => [t]
  | both _ _ p q => p.tests ++ q.tests

theorem isConstant_reading (c : Conjunction α) (read : α → Expr) :
    (c.reading read).isConstant = false := by
  cases c with
  | test t => exact Expr.isConstant_comparedWith
  | both op hop p q => rfl

end Reading

/-! ### Fields named by chains -/

/-- The filter on an expression of the row. -/
def on (c : Conjunction FieldChain) (row : Expr) : Expr :=
  c.reading (FieldChain.on · row)

/-- The filter on the fields of a source. -/
def bound (c : Conjunction FieldChain) (source : String) : Expr :=
  c.reading fun k => .field ⟨source, k.path⟩

/-- The predicate that the filter stands for. -/
def predicate : Conjunction FieldChain → Predicate
  | test t => .atom (t.atomAt t.field.path)
  | both _ _ p q => .and p.predicate q.predicate

variable (c : Conjunction FieldChain)

theorem notFree : c.predicate.NotFree := by
  induction c with
  | test t => exact trivial
  | both op hop p q ihp ihq => exact ⟨ihp, ihq⟩

theorem plain : ∀ a ∈ c.predicate.atoms, a.constant.asDocument? = none := by
  induction c with
  | test t =>
      intro a ha
      rw [List.mem_singleton.mp ha]
      exact t.plain
  | both op hop p q ihp ihq =>
      intro a ha
      rcases List.mem_append.mp ha with ha | ha
      · exact ihp a ha
      · exact ihq a ha

/-- At a row on which it has a value, a filter has the truth of its predicate. -/
theorem evaluate_on {label : String} {row : Document} :
    ∀ {v : Value}, (c.on (.parameter label)).evaluate (some row) = .ok v →
      v = .boolean (c.predicate.truth (.ofRow row)) := by
  induction c with
  | test t =>
      intro v h
      rcases Expr.evaluate_comparedWith t.isComparison h with ⟨w, hw, hv⟩
      rw [hv, t.field.evaluate_on hw]
      rfl
  | both op hop p q ihp ihq =>
      intro v h
      rw [on, reading, Expr.evaluate_conjunction hop] at h
      rcases Except.bind_eq_ok.mp h with ⟨x, hx, h⟩
      rw [ihp hx, Value.truth, Except.ok_bind] at h
      -- The right side is only evaluated if the left one holds, and the conjunction of truths
      -- agrees.
      cases hp : p.predicate.truth (.ofRow row) with
      | true =>
          rw [hp, if_pos rfl] at h
          rcases Except.bind_eq_ok.mp h with ⟨y, hy, h⟩
          rw [ihq hy, Value.truth, Except.ok_bind] at h
          rw [← Except.ok.inj h, predicate, Predicate.truth, hp, Bool.true_and]
      | false =>
          rw [hp, if_neg Bool.false_ne_true] at h
          rw [← Except.ok.inj h, predicate, Predicate.truth, hp, Bool.false_and]

@[simp] theorem fold_on (label : String) :
    (c.on (.parameter label)).fold = pure (c.on (.parameter label)) := by
  induction c with
  | test t => exact Expr.fold_comparedWith (t.field.isConstant_on _) (t.field.fold_on label)
  | both op hop p q ihp ihq =>
      unfold on at ihp ihq ⊢
      rw [reading, Expr.fold, ihp, pure_bind, ihq, pure_bind, Expr.settle, Expr.isFoldable,
        isConstant_reading, Bool.false_and]
      rfl

@[simp] theorem bind_on (store : Option Store) (label source : String) :
    (c.on (.parameter label)).bind store (some ⟨source, none⟩) = .ok (c.bound source) := by
  induction c with
  | test t =>
      exact Expr.bind_comparedWith.mpr ⟨_, t.field.bind_on store label source, rfl⟩
  | both op hop p q ihp ihq =>
      unfold on bound at ihp ihq ⊢
      rw [reading, Expr.bind]
      simp only [Expr.parameterChain?, ihp, ihq]
      rfl

@[simp] theorem hoist_bound (outermost : Bool) (source : String) :
    (c.bound source).hoist outermost = pure (c.bound source) := by
  induction c with
  | test t => exact Expr.hoist_comparedWith (by rw [Expr.hoist])
  | both op hop p q ihp ihq =>
      unfold bound at ihp ihq ⊢
      rw [reading, Expr.hoist, ihp, pure_bind, ihq, pure_bind]

theorem predicate?_bound (source : String) :
    (c.bound source).predicate? = some c.predicate := by
  induction c with
  | test t => exact Expr.predicate?_comparedWith t.isComparison _
  | both op hop p q ihp ihq =>
      unfold bound at ihp ihq ⊢
      rw [reading, Expr.predicate?, if_pos hop, ihp, ihq]
      rfl

/-- A filter places the atoms of its predicate. -/
theorem addConditions_bound (source : String) (scopes : List Scope) (d : Document) :
    (c.bound source).addConditions scopes d = c.predicate.place scopes d := by
  have hplaces := (c.bound source).places
  rw [predicate?_bound] at hplaces
  exact hplaces scopes d

end Conjunction

end DocumentMapper
