import DocumentMapper.Proofs.Query.Agreement
import DocumentMapper.Proofs.Query.Comparison
import DocumentMapper.Proofs.Query.LevelFree

/-!
# Expressions that are alike

The label of a field says which source it is read from, and within one level nothing
depends on it. Expressions that differ in the labels of fields only are alike. If it is
allowed they may also differ in the names of parameters and in the sides of comparisons,
which may be exchanged if the operator is; and this within levels, too. Of expressions
that are alike, the one is folded and bound if the other is, and the results are alike.

## Main definitions

* `Expr.Alike`: The relation.

## Theorems

* `Alike.refl`: Every expression is like itself.
* `Alike.fold`: Folding of expressions that are alike.
-/

namespace DocumentMapper

/-- Expressions that differ in the labels of fields, and if that is allowed in the names of
    parameters and in comparisons with their sides exchanged. -/
inductive Expr.Alike (free : Prop) : Expr → Expr → Prop
  | constant (v : Value) : Alike free (.constant v) (.constant v)
  | parameter {name name' : String} (names : free ∨ name = name') :
    Alike free (.parameter name) (.parameter name')
  | field (label label' path : String) : Alike free (.field ⟨label, path⟩) (.field ⟨label', path⟩)
  | rowField (path : String) : Alike free (.rowField path) (.rowField path)
  | collection (c : Collection) : Alike free (.collection c) (.collection c)
  | member {e e' : Expr} (operand : Alike free e e') (name : String) :
    Alike free (.member e name) (.member e' name)
  | unary {e e' : Expr} (op : UnaryOp) (operand : Alike free e e') :
    Alike free (.unary op e) (.unary op e')
  | binary {l l' r r' : Expr} (op : BinaryOp) (left : Alike free l l') (right : Alike free r r') :
    Alike free (.binary op l r) (.binary op l' r')
  | exchanged {op : BinaryOp} {l l' r r' : Expr} (allowed : free)
    (comparison : op.isComparison = true) (left : Alike free l l') (right : Alike free r r') :
    Alike free (.binary op l r) (.binary op.exchanged r' l')
  -- What stands in lists and levels is related by some relation that is at least as strong.
  | call {R : Expr → Expr → Prop} {receiver receiver' : Option Expr}
    {arguments arguments' : List Expr} (method : Method)
    (parts : ∀ e e', R e e' → Alike free e e') (receives : Option.Rel R receiver receiver')
    (takes : List.Forall₂ R arguments arguments') :
    Alike free (.call method receiver arguments) (.call method receiver' arguments')
  | object {R : Expr → Expr → Prop} {members members' : List (String × Expr)}
    (parts : ∀ e e', R e e' → Alike free e e') (contents : NamedRelated R members members') :
    Alike free (.object members) (.object members')
  | aggregate {R : Expr → Expr → Prop} {argument argument' : Option Expr} (kind : AggregateKind)
    (distinct : Bool) (parts : ∀ e e', R e e' → Alike free e e')
    (takes : Option.Rel R argument argument') :
    Alike free (.aggregate kind argument distinct) (.aggregate kind argument' distinct)
  | select {R : Expr → Expr → Prop} {s s' : Select} (parts : ∀ e e', R e e' → Alike free e e')
    (clauses : Select.Related R s s') (levels : free ∨ s = s') :
    Alike free (.select s) (.select s')
  | projection {R : Expr → Expr → Prop} {s s' : Select} {e e' : Expr}
    (parts : ∀ e e', R e e' → Alike free e e') (clauses : Select.Related R s s')
    (shape : Alike free e e') (levels : free ∨ s = s' ∧ e = e') :
    Alike free (.projection s e) (.projection s' e')
  | subquery {R : Expr → Expr → Prop} {s s' : Select} (parts : ∀ e e', R e e' → Alike free e e')
    (clauses : Select.Related R s s') (levels : free ∨ s = s') :
    Alike free (.subquery s) (.subquery s')

namespace Expr

variable {free : Prop}

/-- With parts that are alike expressions of the same form are, if levels may differ. -/
theorem Alike.of_rebuilt {e e' : Expr} (h : Rebuilt (Alike free) e e')
    (levels : e.isQuery = true → free ∨ e = e') : Alike free e e' := by
  have parts : ∀ e e' : Expr, Alike free e e' → Alike free e e' := fun _ _ h => h
  cases h with
  | constant v => exact .constant v
  | parameter name => exact .parameter (.inr rfl)
  | field f => exact .field f.label f.label f.path
  | rowField path => exact .rowField path
  | collection c => exact .collection c
  | member operand name => exact .member operand name
  | unary op operand => exact .unary op operand
  | binary op left right => exact .binary op left right
  | call method receives takes => exact .call method parts receives takes
  | object contents => exact .object parts contents
  | aggregate kind distinct takes => exact .aggregate kind distinct parts takes
  | select clauses => exact .select parts clauses ((levels rfl).imp_right Expr.select.inj)
  | projection clauses shape =>
      exact .projection parts clauses shape ((levels rfl).imp_right Expr.projection.inj)
  | subquery clauses => exact .subquery parts clauses ((levels rfl).imp_right Expr.subquery.inj)

theorem Alike.of_rebuilt_of_not_query {e e' : Expr} (h : Rebuilt (Alike free) e e')
    (hquery : e.isQuery = false) : Alike free e e' := by
  refine .of_rebuilt h fun htrue => ?_
  rw [hquery] at htrue
  cases htrue

/-- Every expression is like itself. -/
theorem Alike.refl (e : Expr) : Alike free e e := by
  induction e using Expr.induct with
  | step e ih => exact .of_rebuilt (.same ih) fun _ => .inr rfl

namespace Alike

variable {e e' : Expr}

/-! ### What they are -/

theorem asConstant?_eq (h : Alike free e e') : e.asConstant? = e'.asConstant? := by
  cases h <;> rfl

theorem asField?_path_eq (h : Alike free e e') :
    e.asField?.map FieldRef.path = e'.asField?.map FieldRef.path := by
  cases h <;> rfl

theorem rowsLabel?_eq (h : Alike free e e') : e.rowsLabel? = e'.rowsLabel? := by
  cases h with
  | select parts clauses levels => exact congrArg some clauses.label
  | _ => rfl

theorem parameterChain?_eq (h : Alike free e e') : e.parameterChain? = e'.parameterChain? := by
  induction h with
  | @member e e' operand name ih =>
      cases operand with
      | parameter names => rfl
      | _ => exact congrArg (·.map (name :: ·)) ih
  | _ => rfl

/-! ### Folding -/

theorem exists_constant (h : e.isConstant = true) : ∃ v, e = .constant v := by
  cases e with
  | constant v => exact ⟨v, rfl⟩
  | _ => cases h

theorem isConstant_eq (h : Alike free e e') : e.isConstant = e'.isConstant :=
  congrArg Option.isSome h.asConstant?_eq

theorem eq_of_isConstant (h : Alike free e e') (hconstant : e.isConstant = true) : e = e' := by
  cases h with
  | constant v => rfl
  | _ => cases hconstant

section

variable {R : Expr → Expr → Prop} (parts : ∀ e e', R e e' → Alike free e e')

include parts

theorem option_isConstant {x x' : Option Expr} (h : Option.Rel R x x') :
    x.all isConstant = x'.all isConstant ∧ (x.all isConstant = true → x = x') := by
  cases h with
  | none => exact ⟨rfl, fun _ => rfl⟩
  | some hR =>
      have halike := parts _ _ hR
      exact ⟨halike.isConstant_eq, fun hall => congrArg some (halike.eq_of_isConstant hall)⟩

theorem each_isConstant {es es' : List Expr} (h : List.Forall₂ R es es') :
    es.all isConstant = es'.all isConstant ∧ (es.all isConstant = true → es = es') := by
  induction h with
  | nil => exact ⟨rfl, fun _ => rfl⟩
  | cons hR _ ih =>
      have halike := parts _ _ hR
      rw [List.all_cons, List.all_cons, halike.isConstant_eq, ih.1]
      refine ⟨rfl, fun hall => ?_⟩
      rw [Bool.and_eq_true, ← halike.isConstant_eq, ← ih.1] at hall
      rw [halike.eq_of_isConstant hall.1, ih.2 hall.2]

theorem named_isConstant {ms ms' : List (String × Expr)} (h : NamedRelated R ms ms') :
    (ms.all fun m => m.2.isConstant) = (ms'.all fun m => m.2.isConstant) ∧
      ((ms.all fun m => m.2.isConstant) = true → ms = ms') := by
  induction h with
  | nil => exact ⟨rfl, fun _ => rfl⟩
  | @cons m m' _ _ hm _ ih =>
      have halike := parts _ _ hm.2
      rw [List.all_cons, List.all_cons, halike.isConstant_eq, ih.1]
      refine ⟨rfl, fun hall => ?_⟩
      rw [Bool.and_eq_true, ← halike.isConstant_eq, ← ih.1] at hall
      rw [Prod.ext hm.1 (halike.eq_of_isConstant hall.1), ih.2 hall.2]

end

theorem isFoldable_eq (h : Alike free e e') : e.isFoldable = e'.isFoldable := by
  cases h with
  | member operand name => exact operand.isConstant_eq
  | unary op operand => exact operand.isConstant_eq
  | binary op left right => exact congrArg₂ and left.isConstant_eq right.isConstant_eq
  | exchanged allowed comparison left right =>
      exact (congrArg₂ and left.isConstant_eq right.isConstant_eq).trans (Bool.and_comm _ _)
  | call method parts receives takes =>
      rw [isFoldable, isFoldable, (option_isConstant parts receives).1,
        (each_isConstant parts takes).1]
  | object parts contents => exact (named_isConstant parts contents).1
  | _ => rfl

/-- Applied to constants, expressions that are alike are the same but for the sides of a
    comparison. -/
theorem evaluate_of_isFoldable (h : Alike free e e') (hfoldable : e.isFoldable = true) :
    Except.Agree Eq (e.evaluate none) (e'.evaluate none) := by
  cases h with
  -- Both operands are constants, so they are the same ones, only the other way round.
  | @exchanged op l l' r r' allowed comparison left right =>
      rw [isFoldable, Bool.and_eq_true] at hfoldable
      have hl := left.eq_of_isConstant hfoldable.1
      have hr := right.eq_of_isConstant hfoldable.2
      subst hl hr
      rcases exists_constant hfoldable.1 with ⟨v, rfl⟩
      rcases exists_constant hfoldable.2 with ⟨w, rfl⟩
      have comparison' : op.exchanged.isComparison = true := by
        rw [BinaryOp.isComparison_exchanged]
        exact comparison
      rw [evaluate_comparison comparison, evaluate_comparison comparison', evaluate, evaluate]
      exact BinaryOp.apply_exchanged comparison v w
  | member operand name =>
      rw [operand.eq_of_isConstant hfoldable]
      exact Except.Agree.refl _
  | unary op operand =>
      rw [operand.eq_of_isConstant hfoldable]
      exact Except.Agree.refl _
  | binary op left right =>
      rw [isFoldable, Bool.and_eq_true] at hfoldable
      rw [left.eq_of_isConstant hfoldable.1, right.eq_of_isConstant hfoldable.2]
      exact Except.Agree.refl _
  | call method parts receives takes =>
      rw [isFoldable, Bool.and_eq_true, Bool.and_eq_true] at hfoldable
      rw [(option_isConstant parts receives).2 hfoldable.1.2,
        (each_isConstant parts takes).2 hfoldable.2]
      exact Except.Agree.refl _
  | object parts contents =>
      rw [(named_isConstant parts contents).2 hfoldable]
      exact Except.Agree.refl _
  | _ => cases hfoldable

theorem settle (h : Alike free e e') : Folding.Agree (Alike free) e.settle e'.settle := by
  intro n m
  have hvalue := h.evaluate_of_isFoldable
  unfold Expr.settle
  rw [← h.isFoldable_eq]
  split
  next hfoldable =>
    -- Which failure it is may differ; that the evaluation fails does not.
    cases hv : e.evaluate none with
    | error err =>
        cases hw : e'.evaluate none with
        | error err' => exact trivial
        | ok w =>
            rw [hv, hw] at hvalue
            exact (hvalue hfoldable).elim
    | ok v =>
        rw [hv] at hvalue
        rcases (hvalue hfoldable).exists_right rfl with ⟨w, hw, rfl⟩
        rw [hw]
        exact .constant v
  next => exact h

/-- With parts that are folded alike expressions of the same form are. -/
theorem fold_of_rebuilt
    (h : Rebuilt (fun p p' => Folding.Agree (Alike True) p.fold p'.fold) e e') :
    Folding.Agree (Alike True) e.fold e'.fold := by
  rw [fold_eq_traverse, fold_eq_traverse]
  exact Folding.relator.bind (Folding.relator.rebuilt (fun _ _ hp => hp) h) fun _ _ hparts =>
    (Alike.of_rebuilt hparts.1 fun _ => .inl trivial).settle

/-- Of expressions that are alike the one is folded if the other is, to expressions that
    are alike. -/
theorem fold (h : Alike True e e') : Folding.Agree (Alike True) e.fold e'.fold := by
  induction h with
  | constant v => exact fold_of_rebuilt (.constant v)
  | parameter names =>
      rw [fold_form, fold_form]
      exact Folding.relator.pure (.parameter names)
  | field label label' path =>
      rw [fold_form, fold_form]
      exact Folding.relator.pure (.field label label' path)
  | rowField path => exact fold_of_rebuilt (.rowField path)
  | collection c => exact fold_of_rebuilt (.collection c)
  | member operand name ih => exact fold_of_rebuilt (.member ih name)
  | unary op operand ih => exact fold_of_rebuilt (.unary op ih)
  | binary op left right ihl ihr => exact fold_of_rebuilt (.binary op ihl ihr)
  | exchanged allowed comparison left right ihl ihr =>
      rw [fold_form, fold_form]
      -- One of them folds the sides in the other order.
      exact ihl.bind_comm ihr fun _ _ hl _ _ hr =>
        (Alike.exchanged allowed comparison hl hr).settle
  | call method _ receives takes ih =>
      exact fold_of_rebuilt ((Rebuilt.call method receives takes).imp ih)
  | object _ contents ih => exact fold_of_rebuilt ((Rebuilt.object contents).imp ih)
  | aggregate kind distinct _ takes ih =>
      exact fold_of_rebuilt ((Rebuilt.aggregate kind distinct takes).imp ih)
  | select _ clauses _ ih => exact fold_of_rebuilt ((Rebuilt.select clauses).imp ih)
  | projection _ clauses shape _ ih ihshape =>
      have hclauses := clauses.imp_of_clauses (Select.clauses_iff.mpr fun p _ => ih p)
      exact fold_of_rebuilt (.projection hclauses ihshape)
  | subquery _ clauses _ ih => exact fold_of_rebuilt ((Rebuilt.subquery clauses).imp ih)

end Alike

end Expr

end DocumentMapper
