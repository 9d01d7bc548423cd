import DocumentMapper.Query.Condition
import DocumentMapper.Query.Expr.Script

/-!
# Filters as conditions

A filter that a condition document can express is a conjunction of comparisons of a
field with a constant, of text tests of a field, and of negations of such filters. Each
comparison becomes a condition on its field; where the field stands on the right, the
operator is the one for exchanged sides. The length of a field can be compared for
equality only.

## Main definitions

* `Operand`, `Expr.asOperand?`: The side of a comparison that reads a field.
* `addComparison`, `addCall`: The conditions of one comparison or call.
* `Expr.addConditions`: The conditions of a filter.
-/

namespace DocumentMapper

/-- The side of a comparison that reads a field. -/
inductive Operand where
  | field (f : FieldRef)
  /-- The number of items of a field. -/
  | size (f : FieldRef)
deriving DecidableEq, Repr

/-- The field that an expression reads, by itself or for its number of items. -/
def Expr.asOperand? : Expr → Option Operand
  | .field f => some (.field f)
  | .member e name => if isLengthMember name then e.asField?.map .size else none
  | .call .count none [source] => source.asField?.map .size
  | _ => none

/-- The condition operator of a comparison; equality has none. -/
def BinaryOp.conditionOperator? : BinaryOp → Option String
  | greater => some "$gt"
  | greaterOrEqual => some "$gte"
  | less => some "$lt"
  | lessOrEqual => some "$lte"
  | notEqual => some "$ne"
  | _ => none

/-- The sides of a comparison: what reads a field, the other side, and the operator as
    it is with the field on the left. -/
def comparisonSides (op : BinaryOp) (left right : Expr) :
    Except QueryError (Operand × Expr × BinaryOp) :=
  match left.asOperand?, right.asOperand? with
  | some operand, none => .ok (operand, right, op)
  | none, some operand => .ok (operand, left, op.exchanged)
  | some _, some _ => .error (.invalid .twoFields)
  | none, none => .error (.invalid .withoutField)

/-- Adds the condition of a comparison. -/
def addComparison (scopes : List Scope) (op : BinaryOp) (left right : Expr) (query : Document) :
    Except QueryError Document := do
  let (operand, other, op) ← comparisonSides op left right
  match other.asConstant? with
  | none => throw (.invalid .fieldWithoutConstant)
  | some v =>
    match operand with
    | .field f =>
      -- Equality has no operator: its constant stands directly under the field.
      let operator := op.conditionOperator?.map Scope.operator
      query.addCondition (scopes ++ .field f.path :: operator.toList) v
    | .size f =>
      if op = .equal then query.addCondition (scopes ++ [.field f.path, .operator "$size"]) v
      else throw (.unsupported (.sizeOperation op))

/-- The text that a call in a condition needs. -/
def conditionText (e : Option Expr) : Except QueryError String :=
  match e.bind Expr.asText? with
  | some s => .ok s
  | none => .error (.invalid .conditionTextRequired)

/-- The field and the regular expression of a text test. -/
def callPattern (method : Method) (receiver : Option Expr) (arguments : List Expr) :
    Except QueryError (FieldRef × String) :=
  match method with
  | .startsWith | .endsWith | .contains => do
    let f ← Script.calledField method receiver
    return (f, method.pattern (← conditionText arguments[0]?))
  | .isMatch => do
    if receiver.isSome then throw (.invalid .matchWithReceiver)
    let f ← Script.calledField .isMatch arguments[0]?
    return (f, ← conditionText arguments[1]?)
  | other => .error (.unsupported (.method other))

/-- Adds the condition of a text test. -/
def addCall (scopes : List Scope) (method : Method) (receiver : Option Expr)
    (arguments : List Expr) (query : Document) : Except QueryError Document := do
  let (f, pattern) ← callPattern method receiver arguments
  query.addCondition (scopes ++ [.field f.path]) (.pattern ⟨pattern, ""⟩)

/-- Adds the conditions of a filter to a condition document. -/
def Expr.addConditions (scopes : List Scope) (e : Expr) (query : Document) :
    Except QueryError Document :=
  match e with
  | .binary op l r =>
    if op.isConjunction then do r.addConditions scopes (← l.addConditions scopes query)
    else if op.isComparison then addComparison scopes op l r query
    else .error (.unsupported (.operation op))
  | .unary .not e => e.addConditions (scopes ++ [.operator "$not"]) query
  | .unary op _ => .error (.unsupported (.unary op))
  | .call method receiver arguments => addCall scopes method receiver arguments query
  | .constant (.boolean true) => .ok query
  | e => .error (.unsupported (.expression e.kind))

end DocumentMapper
