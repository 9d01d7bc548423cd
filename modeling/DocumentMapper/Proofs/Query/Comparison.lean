import DocumentMapper.Proofs.Query.Predicate
import DocumentMapper.Proofs.Value.Equality
import DocumentMapper.Query.Expr.Evaluate

/-!
# Comparisons at a row

A row makes every atom true or false: what the field reads in the row stands in the
relation to the constant or it does not, and values without an order stand in none of
the relations of order. Equality and order are those of expressions. They say the same
with their sides exchanged, and do not tell equal constants apart.

## Main definitions

* `Relation.relates`: Whether a value stands in a relation to a constant.
* `Assignment.ofRow`: The truth of every atom at a row.

## Theorems

* `same_comm`, `order?_swap`: Comparisons with their sides exchanged.
* `same_congr`, `order?_congr`: Equal constants are compared in the same way.
* `BinaryOp.apply_comparison`: A comparison with a value says that the relation holds.
* `Expr.evaluate_of_values`: Operators that look at both operands.
* `BinaryOp.apply_exchanged`: A comparison with its sides exchanged.
-/

namespace DocumentMapper

namespace Double

theorem compare?_swap (a b : Double) : a.compare? b = (b.compare? a).map Ordering.swap := by
  unfold compare?
  cases a.isNaN with
  | true => cases b.isNaN <;> rfl
  | false =>
      cases b.isNaN with
      | true => rfl
      | false => exact congrArg some Std.OrientedOrd.eq_swap

theorem compare?_congr {a b : Double} (h : a.equals b = true) (x : Double) :
    x.compare? a = x.compare? b := by
  rcases equals_iff.mp h with ⟨ha, hb, hkey⟩
  unfold compare?
  rw [ha, hb, hkey]

theorem equals_congr {a b : Double} (h : a.equals b = true) (x : Double) :
    x.equals a = x.equals b := by
  unfold equals
  rw [compare?_congr h]

end Double

namespace Value

theorem same_comm (a b : Value) : a.same b = b.same a := by
  unfold same
  cases a.asDouble? with
  | none => cases b.asDouble? <;> exact beq_comm a b
  | some x =>
      cases b.asDouble? with
      | none => exact beq_comm a b
      | some y => exact Double.equals_comm x y

/-- The order of two numbers. -/
def orderNumbers? (a b : Value) : Option Ordering :=
  match a.asInt64?, b.asInt64? with
  | some m, some n => some (compare m.toInt n.toInt)
  | _, _ => do (← a.asDouble?).compare? (← b.asDouble?)

theorem orderNumbers?_swap (a b : Value) :
    a.orderNumbers? b = (b.orderNumbers? a).map Ordering.swap := by
  have hdoubles : (do (← a.asDouble?).compare? (← b.asDouble?)) =
      (do (← b.asDouble?).compare? (← a.asDouble?)).map Ordering.swap := by
    cases a.asDouble? with
    | none => cases b.asDouble? <;> rfl
    | some x =>
        cases b.asDouble? with
        | none => rfl
        | some y => exact Double.compare?_swap x y
  unfold orderNumbers?
  -- Integers are compared as such, and all other numbers as doubles.
  cases a.asInt64? with
  | none => cases b.asInt64? <;> exact hdoubles
  | some m =>
      cases b.asInt64? with
      | none => exact hdoubles
      | some n => exact congrArg some Std.OrientedOrd.eq_swap

/-- The order is that of texts, instants, truth values or numbers. -/
theorem order?_cases (a b : Value) :
    (∃ s t, a = .string s ∧ b = .string t) ∨ (∃ s t, a = .instant s ∧ b = .instant t) ∨
      (∃ s t, a = .boolean s ∧ b = .boolean t) ∨
      (a.order? b = a.orderNumbers? b ∧ b.order? a = b.orderNumbers? a) := by
  cases a with
  | string s =>
      cases b with
      | string t => exact .inl ⟨s, t, rfl, rfl⟩
      | _ => exact .inr (.inr (.inr ⟨rfl, rfl⟩))
  | instant s =>
      cases b with
      | instant t => exact .inr (.inl ⟨s, t, rfl, rfl⟩)
      | _ => exact .inr (.inr (.inr ⟨rfl, rfl⟩))
  | boolean s =>
      cases b with
      | boolean t => exact .inr (.inr (.inl ⟨s, t, rfl, rfl⟩))
      | _ => exact .inr (.inr (.inr ⟨rfl, rfl⟩))
  | _ => cases b <;> exact .inr (.inr (.inr ⟨rfl, rfl⟩))

theorem order_eq_ok_iff {a b : Value} {o : Ordering} : a.order b = .ok o ↔ a.order? b = some o := by
  unfold order
  split
  next o' ho' => rw [ho', Except.ok.injEq, Option.some.injEq]
  next hnone =>
    rw [hnone]
    exact ⟨nofun, nofun⟩

theorem order?_swap (a b : Value) : a.order? b = (b.order? a).map Ordering.swap := by
  rcases order?_cases a b with ⟨s, t, rfl, rfl⟩ | ⟨s, t, rfl, rfl⟩ | ⟨s, t, rfl, rfl⟩ | ⟨hab, hba⟩
  · exact congrArg some Std.OrientedOrd.eq_swap
  · exact congrArg some Std.OrientedOrd.eq_swap
  · exact congrArg some Std.OrientedOrd.eq_swap
  · rw [hab, hba, orderNumbers?_swap]

/-- Values that contain others have no order. -/
theorem order?_of_not_scalar {c : Value} (h : c.isScalar = false) (v : Value) :
    v.order? c = none := by
  cases c with
  | document d => cases v <;> rfl
  | array items => cases v <;> rfl
  | codeWithScope source scope => cases v <;> rfl
  | _ => cases h

theorem asDouble?_of_not_scalar {c : Value} (h : c.isScalar = false) : c.asDouble? = none := by
  cases c <;> first | rfl | cases h

theorem isScalar_eq {v w : Value} (h : (v == w) = true) : v.isScalar = w.isScalar := by
  cases hv : v.isScalar with
  | true =>
      rcases scalar_equals hv h with rfl | ⟨a, b, rfl, rfl, _⟩
      · exact hv.symm
      · rfl
  | false =>
      cases hw : w.isScalar with
      | false => rfl
      | true =>
          rw [beq_comm] at h
          rcases scalar_equals hw h with rfl | ⟨a, b, rfl, rfl, _⟩
          · rw [hw] at hv
            cases hv
          · cases hv

theorem same_congr {c c' : Value} (h : (c == c') = true) (v : Value) : v.same c = v.same c' := by
  cases hc : c.isScalar with
  | true =>
      rcases scalar_equals hc h with rfl | ⟨a, b, rfl, rfl, hab⟩
      · rfl
      · unfold same
        cases v.asDouble? with
        | none => exact beq_congr h v
        -- Equal doubles may be the two zeros, which are the same number for every comparison.
        | some x => exact Double.equals_congr hab x
  | false =>
      have hc' : c'.isScalar = false := (isScalar_eq h).symm.trans hc
      unfold same
      rw [asDouble?_of_not_scalar hc, asDouble?_of_not_scalar hc']
      cases v.asDouble? <;> exact beq_congr h v

theorem order?_congr {c c' : Value} (h : (c == c') = true) (v : Value) :
    v.order? c = v.order? c' := by
  cases hc : c.isScalar with
  | true =>
      -- Equal scalars are one scalar, unless they are doubles.
      rcases scalar_equals hc h with rfl | ⟨a, b, rfl, rfl, hab⟩
      · rfl
      · cases v with
        | double x => exact Double.compare?_congr hab x
        | int32 n => exact Double.compare?_congr hab (.ofInt32 n)
        | int64 n => exact Double.compare?_congr hab (.ofInt64 n)
        | _ => rfl
  | false =>
      rw [order?_of_not_scalar hc, order?_of_not_scalar ((isScalar_eq h).symm.trans hc)]

end Value

namespace Relation

/-- Whether a value stands in a relation to a constant. -/
def relates (r : Relation) (v constant : Value) : Bool :=
  match r with
  | equal => v.same constant
  | notEqual => !v.same constant
  | size => v.asArray?.any fun items => (Value.ofCount items.length).same constant
  | greater | greaterOrEqual | less | lessOrEqual => (v.order? constant).any r.allows

theorem relates_congr {c c' : Value} (h : (c == c') = true) (r : Relation) (v : Value) :
    r.relates v c = r.relates v c' := by
  cases r with
  | equal => exact Value.same_congr h v
  | notEqual => exact congrArg not (Value.same_congr h v)
  | size =>
      unfold relates
      simp only [Value.same_congr h]
  | greater | greaterOrEqual | less | lessOrEqual =>
      unfold relates
      rw [Value.order?_congr h]

end Relation

/-- The truth of every atom at a row. -/
def Assignment.ofRow (row : Document) : Assignment where
  holds a := a.relation.relates ((row.lookupPath? a.field).getD .null) a.constant
  congr _ relation _ _ h := Relation.relates_congr h relation _

/-- A comparison that has a value says whether the relation holds. -/
theorem BinaryOp.apply_comparison {op : BinaryOp} {r : Relation} (hop : op.relation? = some r)
    {v c w : Value} (h : op.apply v c = .ok w) : w = .boolean (r.relates v c) := by
  cases op with
  | equal | notEqual =>
      cases hop
      exact (Except.ok.inj h).symm
  | greater | greaterOrEqual | less | lessOrEqual =>
      cases hop
      rcases Except.bind_eq_ok.mp h with ⟨o, ho, hw⟩
      rw [← Except.ok.inj hw, Relation.relates, Value.order_eq_ok_iff.mp ho]
      rfl
  | _ => cases hop

/-- The operators that may not look at their right operand. -/
def BinaryOp.skipsRight : BinaryOp → Bool
  | and | andAlso | or | orElse | coalesce => true
  | _ => false

/-- The other operators look at both operands. -/
theorem Expr.evaluate_of_not_skipsRight {op : BinaryOp} (hop : op.skipsRight = false)
    {row : Option Document} (l r : Expr) :
    (binary op l r).evaluate row = (do op.apply (← l.evaluate row) (← r.evaluate row)) := by
  cases op with
  | and | andAlso | or | orElse | coalesce => cases hop
  | _ => simp [evaluate]

/-- They are applied to the values of the operands. -/
theorem Expr.evaluate_of_values {op : BinaryOp} (hop : op.skipsRight = false)
    {row : Option Document} {l r : Expr} {a b : Value} (hl : l.evaluate row = .ok a)
    (hr : r.evaluate row = .ok b) : (binary op l r).evaluate row = op.apply a b := by
  rw [evaluate_of_not_skipsRight hop, hl, hr]
  rfl

/-- A comparison evaluates both of its sides. -/
theorem Expr.evaluate_comparison {op : BinaryOp} (hop : op.isComparison = true)
    (row : Option Document) (left right : Expr) :
    (Expr.binary op left right).evaluate row =
      (do op.apply (← left.evaluate row) (← right.evaluate row)) := by
  refine evaluate_of_not_skipsRight ?_ left right
  cases op <;> first | rfl | cases hop

/-- A conjunction evaluates its second operand only where the first one is true. -/
theorem Expr.evaluate_conjunction {op : BinaryOp} (hop : op.isConjunction = true)
    (row : Option Document) (left right : Expr) :
    (Expr.binary op left right).evaluate row =
      (do
        if ← (← left.evaluate row).truth then
          return .boolean (← (← right.evaluate row).truth)
        else return .boolean false) := by
  cases op with
  | and => rw [Expr.evaluate]
  | andAlso => rw [Expr.evaluate]
  | _ => cases hop

/-- With its sides exchanged a comparison fails alike or has the same value. -/
theorem BinaryOp.apply_exchanged {op : BinaryOp} (hop : op.isComparison = true) (v w : Value) :
    Except.Agree Eq (op.apply v w) (op.exchanged.apply w v) := by
  cases op with
  | equal => exact congrArg Value.boolean (Value.same_comm v w)
  | notEqual => exact congrArg (fun b => Value.boolean !b) (Value.same_comm v w)
  | greater | greaterOrEqual | less | lessOrEqual =>
      unfold BinaryOp.exchanged BinaryOp.apply Value.order
      dsimp only
      rw [Value.order?_swap v w]
      -- The ordering of exchanged values is the reverse one, and so is the operation.
      cases w.order? v with
      | none => exact trivial
      | some o => exact congrArg Value.boolean (by cases o <;> rfl)
  | _ => cases hop

/-- With the constant on the left a comparison says whether the converse relation holds. -/
theorem BinaryOp.apply_comparison_converse {op : BinaryOp} {r : Relation}
    (hop : op.relation? = some r) {v c w : Value} (h : op.apply c v = .ok w) :
    w = .boolean (r.converse.relates v c) := by
  rw [apply_comparison hop h]
  cases r with
  | equal => exact congrArg Value.boolean (Value.same_comm c v)
  | notEqual => exact congrArg (fun b => Value.boolean !b) (Value.same_comm c v)
  | size => cases op <;> cases hop
  | greater | greaterOrEqual | less | lessOrEqual =>
      unfold Relation.relates Relation.converse
      rw [Value.order?_swap c v]
      cases v.order? c with
      | none => rfl
      | some o => exact congrArg Value.boolean (by cases o <;> rfl)

end DocumentMapper
