import DocumentMapper.Proofs.Data.Except
import DocumentMapper.Proofs.Query.Rebuilding

/-!
# Refinement of expressions

The steps of a translation may give an expression a value where it had none. A constant
operator is gone once it is folded, and a field has a value, if only null, where the chain
of members it stands for fails. They never change a value. So an expression at a row
refines another one at another row if it has every value the other one has
(`Expr.Refines`), and every form of expression respects that: operands that are left out
on one side are left out on the other, since what decides that is the value of an operand
that is there.

## Main definitions

* `Expr.Refines`: An expression at a row has the values of another one at another row.

## Theorems

* `refines_member`, `refines_binary` and so on: One form of expression each.
* `Rebuilt.refines`: All forms at one row.
-/

namespace DocumentMapper

/-- Whatever value the first expression has at a row, the second one has at another. -/
def Expr.Refines (row row' : Document) (e e' : Expr) : Prop :=
  Except.Refines (e.evaluate (some row)) (e'.evaluate (some row'))

/-- A call on a refined receiver. Most methods do not look at it. -/
theorem Method.refines_apply (method : Method) {x x' : Option (Except QueryError Value)}
    (h : Option.Rel Except.Refines x x') (arguments : List Value) :
    Except.Refines (method.apply x arguments) (method.apply x' arguments) := by
  cases h with
  | none => exact Except.Refines.rfl
  | @some x x' h =>
      -- The three searches differ in what is found only.
      have hfind : ∀ piece : Value, Except.Refines
          (do
            let text ← (← x).expectText method
            return Value.boolean (method.finds text (← piece.expectText method)))
          (do
            let text ← (← x').expectText method
            return Value.boolean (method.finds text (← piece.expectText method))) :=
        fun piece => h.bind_left _
      rcases arguments with _ | ⟨piece, _ | ⟨other, rest⟩⟩
      · cases method <;> exact Except.Refines.error _ _
      · cases method with
        | startsWith => exact hfind piece
        | endsWith => exact hfind piece
        | contains => exact hfind piece
        | isMatch => exact Except.Refines.error _ _
        | count => exact Except.Refines.error _ _
        | other name => exact Except.Refines.error _ _
      · cases method <;> exact Except.Refines.error _ _

namespace Expr

variable {row row' : Document}

theorem refines_constant (v : Value) : Refines row row' (.constant v) (.constant v) :=
  Except.Refines.rfl

theorem refines_member {e e' : Expr} (h : Refines row row' e e') (name : String) :
    Refines row row' (.member e name) (.member e' name) :=
  Except.Refines.bind_left _ h

theorem refines_unary {e e' : Expr} (op : UnaryOp) (h : Refines row row' e e') :
    Refines row row' (.unary op e) (.unary op e') :=
  Except.Refines.bind_left _ h

theorem refines_binary (op : BinaryOp) {l l' r r' : Expr} (hl : Refines row row' l l')
    (hr : Refines row row' r r') : Refines row row' (.binary op l r) (.binary op l' r') := by
  have htruth : Except.Refines
      (do return Value.boolean (← (← r.evaluate (some row)).truth))
      (do return Value.boolean (← (← r'.evaluate (some row')).truth)) :=
    Except.Refines.bind_left _ hr
  have happly : Except.Refines
      (do op.apply (← l.evaluate (some row)) (← r.evaluate (some row)))
      (do op.apply (← l'.evaluate (some row')) (← r'.evaluate (some row'))) :=
    hl.bind fun _ => Except.Refines.bind_left _ hr
  -- The lazy operations decide by the left value whether the right side is evaluated.
  cases op with
  | and | andAlso =>
      refine hl.bind fun v => Except.Refines.rfl.bind fun b => ?_
      cases b with
      | true => exact htruth
      | false => exact Except.Refines.rfl
  | or | orElse =>
      refine hl.bind fun v => Except.Refines.rfl.bind fun b => ?_
      cases b with
      | true => exact Except.Refines.rfl
      | false => exact htruth
  | coalesce =>
      refine hl.bind fun v => ?_
      cases v with
      | null => exact hr
      | _ => exact Except.Refines.rfl
  | _ => exact happly

theorem refines_evaluateEach {es es' : List Expr} (h : List.Forall₂ (Refines row row') es es') :
    Except.Refines (evaluateEach (some row) es) (evaluateEach (some row') es') := by
  induction h with
  | nil => exact Except.Refines.rfl
  | cons he _ ih => exact he.bind fun v => ih.bind_left _

theorem refines_evaluateReceiver {e e' : Option Expr} (h : Option.Rel (Refines row row') e e') :
    Option.Rel Except.Refines (evaluateReceiver (some row) e)
      (evaluateReceiver (some row') e') := by
  cases h with
  | none => exact Option.Rel.none
  | some he => exact Option.Rel.some he

theorem refines_call (method : Method) {receiver receiver' : Option Expr}
    {arguments arguments' : List Expr}
    (hreceiver : Option.Rel (Refines row row') receiver receiver')
    (harguments : List.Forall₂ (Refines row row') arguments arguments') :
    Refines row row' (.call method receiver arguments) (.call method receiver' arguments') := by
  refine Except.Refines.bind (refines_evaluateEach harguments) fun vs => ?_
  exact method.refines_apply (refines_evaluateReceiver hreceiver) vs

theorem refines_evaluateMembers {ms ms' : List (String × Expr)}
    (h : NamedRelated (Refines row row') ms ms') :
    Except.Refines (evaluateMembers (some row) ms) (evaluateMembers (some row') ms') := by
  induction h with
  | nil => exact Except.Refines.rfl
  | @cons m m' ms ms' hm _ ih =>
      rcases m with ⟨name, e⟩
      rcases m' with ⟨name', e'⟩
      rcases hm with ⟨rfl, he⟩
      exact he.bind fun v => ih.bind_left _

theorem refines_object {ms ms' : List (String × Expr)}
    (h : NamedRelated (Refines row row') ms ms') :
    Refines row row' (.object ms) (.object ms') :=
  Except.Refines.bind_left _ (refines_evaluateMembers h)

/-- An expression with refined parts refines the expression. Queries and aggregates have no
    value to keep. -/
theorem Rebuilt.refines {e e' : Expr} (h : Rebuilt (Refines row row) e e') :
    Refines row row e e' := by
  cases h with
  | constant v | parameter name | field f | rowField path | collection c =>
      exact Except.Refines.rfl
  | member operand name => exact refines_member operand name
  | unary op operand => exact refines_unary op operand
  | binary op left right => exact refines_binary op left right
  | call method receives takes => exact refines_call method receives takes
  | object contents => exact refines_object contents
  | aggregate kind distinct takes | select clauses | projection clauses shape | subquery clauses =>
      unfold Refines
      rw [evaluate]
      exact Except.Refines.error _ _

end Expr

end DocumentMapper
