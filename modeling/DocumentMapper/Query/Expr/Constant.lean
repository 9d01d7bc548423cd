import DocumentMapper.Query.Expr.Evaluate

/-!
# Folding of constants

An operator that is applied to constants has its value already. Folding goes through an
expression from the inside and puts values in the place of such operators, so that what
is left reads a row or has no value of its own. It counts the operators it replaces.

A method without a meaning of its own has no value, and is left as it is.

## Main definitions

* `Expr.isFoldable`: An operator applied to constants.
* `Expr.fold`, `Select.fold`: Folding of an expression and of a level.
* `Expr.folded`: The result with the number of operators that were replaced.
-/

namespace DocumentMapper

namespace Expr

def isConstant (e : Expr) : Bool :=
  e.asConstant?.isSome

/-- An operator with a value of its own whose operands are constants. -/
def isFoldable : Expr → Bool
  | member e _ => e.isConstant
  | binary _ l r => l.isConstant && r.isConstant
  | unary _ e => e.isConstant
  | call method receiver arguments =>
    method.isKnown && receiver.all isConstant && arguments.all isConstant
  | object members => members.all fun m => m.2.isConstant
  | _ => false

end Expr

/-- Folding counts the operators it replaces, and fails where their evaluation does. -/
abbrev Folding (α : Type) : Type :=
  StateT Nat (Except QueryError) α

/-- Puts its value in the place of an operator applied to constants. -/
def Expr.settle (e : Expr) : Folding Expr :=
  if e.isFoldable then do
    let v ← e.evaluate none
    modify (· + 1)
    return .constant v
  else return e

mutual

/-- Folds the operands of an expression and then the expression itself. -/
def Expr.fold : Expr → Folding Expr
  | .constant v => return .constant v
  | .parameter name => return .parameter name
  | .field f => return .field f
  | .rowField path => return .rowField path
  | .collection c => return .collection c
  -- The parts come first, so that what they are folded to decides whether the whole is constant.
  | .member e name => do (Expr.member (← e.fold) name).settle
  | .binary op l r => do
    let l ← l.fold
    (Expr.binary op l (← r.fold)).settle
  | .unary op e => do (Expr.unary op (← e.fold)).settle
  | .call method receiver arguments => do
    let receiver ← foldOption receiver
    (Expr.call method receiver (← foldEach arguments)).settle
  | .object members => do (Expr.object (← foldNamed members)).settle
  -- What reads the rows of a query is never constant itself.
  | .select s => .select <$> s.fold
  | .projection s p => do
    let s ← s.fold
    return .projection s (← p.fold)
  | .aggregate kind argument distinct => do
    return .aggregate kind (← foldOption argument) distinct
  | .subquery s => .subquery <$> s.fold

/-- Folds the source of a level and then its clauses. -/
def Select.fold : Select → Folding Select
  | ⟨label, fields, source, filter, order, group, distinct, skip, take⟩ => do
    let source ← foldOption source
    let filter ← foldOption filter
    let group ← foldGroup group
    let fields ← foldNamed fields
    let order ← foldOrder order
    let skip ← foldOption skip
    let take ← foldOption take
    return ⟨label, fields, source, filter, order, group, distinct, skip, take⟩

/-- Folds an optional expression. -/
def foldOption : Option Expr → Folding (Option Expr)
  | none => return none
  | some e => some <$> e.fold

/-- Folds a list of expressions. -/
def foldEach : List Expr → Folding (List Expr)
  | [] => return []
  | e :: rest => do
    let e ← e.fold
    return e :: (← foldEach rest)

/-- Folds named expressions. -/
def foldNamed : List (String × Expr) → Folding (List (String × Expr))
  | [] => return []
  | (name, e) :: rest => do
    let e ← e.fold
    return (name, e) :: (← foldNamed rest)

/-- Folds sort keys. -/
def foldOrder : List (Direction × Expr) → Folding (List (Direction × Expr))
  | [] => return []
  | (d, e) :: rest => do
    let e ← e.fold
    return (d, e) :: (← foldOrder rest)

/-- Folds optional group keys. -/
def foldGroup : Option (List Expr) → Folding (Option (List Expr))
  | none => return none
  | some keys => some <$> foldEach keys

end

/-- The folded expression with the number of operators that were replaced. -/
def Expr.folded (e : Expr) : Except QueryError (Expr × Nat) :=
  e.fold.run 0

end DocumentMapper
