import DocumentMapper.Proofs.Query.Induction
import DocumentMapper.Query.Expr.Constant

/-!
# What stands within an expression

The parts of an expression are the expressions that stand directly in it: its operands,
and of a level its clauses. What stands within an expression at any depth is the
expression itself and what stands within its parts.

An operator is a form that has a value whenever its operands are constants and it does
not fail on them. Nothing is looked at but the operands to see whether folding puts a
value in the place of an operator.

## Main definitions

* `Select.clauses`, `Expr.parts`: What stands directly in a level and in an expression.
* `Expr.Within`: What stands within an expression at any depth.
* `Expr.isLeaf`, `Expr.isQuery`: The forms without parts, and those that hold levels.
* `Expr.isOperator`: The forms that folding can replace.

## Theorems

* `Expr.parts_iff`: A property of the parts.
* `Expr.isFoldable_iff`: Operators on constants.
-/

namespace DocumentMapper

/-- The clauses of a level, in the order in which it is gone through. -/
def Select.clauses (s : Select) : List Expr :=
  s.source.toList ++ (s.filter.toList ++ (s.group.getD [] ++ (s.fields.map Prod.snd ++
    (s.order.map Prod.snd ++ (s.skip.toList ++ s.take.toList)))))

theorem Select.clauses_iff {P : Expr → Prop} {s : Select} :
    s.Clauses P ↔ ∀ c ∈ s.clauses, P c := by
  have hgroup : (∀ keys ∈ s.group, ∀ e ∈ keys, P e) ↔ ∀ e ∈ s.group.getD [], P e := by
    cases s.group <;> simp
  unfold Select.clauses
  simp only [List.forall_mem_append, Option.mem_toList, List.forall_mem_map]
  rw [← hgroup]
  constructor
  · intro h
    exact ⟨h.source, h.filter, h.group, h.fields, h.order, h.skip, h.take⟩
  · rintro ⟨source, filter, group, fields, order, skip, take⟩
    exact ⟨source, filter, group, fields, order, skip, take⟩

namespace Expr

/-- The expressions that stand directly in an expression. -/
def parts : Expr → List Expr
  | select s => s.clauses
  | projection s e => s.clauses ++ [e]
  | subquery s => s.clauses
  | e => e.operands

theorem parts_iff {P : Expr → Prop} {e : Expr} : e.Parts P ↔ ∀ c ∈ e.parts, P c := by
  cases e with
  | constant v | parameter name | field f | rowField path | collection c =>
      exact ⟨fun _ => List.forall_mem_nil _, fun _ => trivial⟩
  | member e name | unary op e =>
      unfold parts operands
      rw [List.forall_mem_singleton]
      exact Iff.rfl
  | binary op l r =>
      unfold parts operands
      rw [List.forall_mem_cons, List.forall_mem_singleton]
      exact Iff.rfl
  | call method receiver arguments =>
      unfold parts operands
      simp only [List.forall_mem_append, Option.mem_toList]
      exact Iff.rfl
  | object members =>
      unfold parts operands
      rw [List.forall_mem_map]
      exact Iff.rfl
  | aggregate kind argument distinct =>
      unfold parts operands
      simp only [Option.mem_toList]
      exact Iff.rfl
  | select s | subquery s => exact Select.clauses_iff
  | projection s e =>
      unfold parts
      rw [List.forall_mem_append, List.forall_mem_singleton, ← Select.clauses_iff]
      exact Iff.rfl

theorem Parts.imp {P Q : Expr → Prop} {e : Expr} (h : e.Parts P) (hPQ : ∀ p, P p → Q p) :
    e.Parts Q :=
  parts_iff.mpr fun p hp => hPQ p (parts_iff.mp h p hp)

/-- An expression stands within another one, at any depth. -/
inductive Within (c : Expr) : Expr → Prop
  | self : Within c c
  | part {e p : Expr} (mem : p ∈ e.parts) (within : Within c p) : Within c e

theorem Within.trans {c d e : Expr} (h : c.Within d) (h' : d.Within e) : c.Within e := by
  induction h' with
  | self => exact h
  | part mem _ ih => exact .part mem ih

/-- The forms without parts. -/
def isLeaf : Expr → Bool
  | constant _ => true
  | parameter _ => true
  | field _ => true
  | rowField _ => true
  | collection _ => true
  | _ => false

/-- The forms that hold levels. -/
def isQuery : Expr → Bool
  | select _ => true
  | projection _ _ => true
  | subquery _ => true
  | _ => false

/-- Members, which binding looks at in a way of its own. -/
def isMember : Expr → Bool
  | member _ _ => true
  | _ => false

/-- The forms that have a value of their own: members, operators, objects and calls of
    methods with a meaning. -/
def isOperator : Expr → Bool
  | member _ _ => true
  | binary _ _ _ => true
  | unary _ _ => true
  | call method _ _ => method.isKnown
  | object _ => true
  | _ => false

/-- Operators on constants are folded. -/
theorem isFoldable_iff {e : Expr} :
    e.isFoldable = true ↔ e.isOperator = true ∧ ∀ o ∈ e.operands, o.isConstant = true := by
  cases e with
  | member e name | unary op e => simp [isFoldable, isOperator, operands]
  | binary op l r => simp [isFoldable, isOperator, operands]
  | call method receiver arguments =>
      cases receiver <;> simp [isFoldable, isOperator, operands, and_assoc]
  | object members =>
      simp only [isFoldable, isOperator, operands, List.all_eq_true, List.forall_mem_map, true_and]
  | _ => simp [isFoldable, isOperator]

/-- The operands of an operator are its parts. -/
theorem parts_of_isOperator {e : Expr} (h : e.isOperator = true) : e.parts = e.operands := by
  cases e with
  | select s | projection s e | subquery s => cases h
  | _ => rfl

end Expr

end DocumentMapper
