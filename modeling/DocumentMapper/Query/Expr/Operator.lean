/-!
# Operators of expressions

The operators, methods and aggregates that an expression is built with. Each has a
name, which is how messages speak of it.

A comparison says the same with its sides exchanged when its operator is exchanged too;
conjunctions are the operators through which a filter may be taken apart.

## Main definitions

* `BinaryOp`, `UnaryOp`, `Method`, `AggregateKind`, `Direction`: The vocabularies.
* `BinaryOp.isComparison`, `BinaryOp.isConjunction`, `BinaryOp.exchanged`: Their roles.

## Theorems

* `exchanged_exchanged`: Exchanging the sides twice changes nothing.
-/

namespace DocumentMapper

/-- An operator with two operands. -/
inductive BinaryOp where
  | equal | notEqual | greater | greaterOrEqual | less | lessOrEqual
  | and
  /-- A conjunction like `and`. -/
  | andAlso
  | or
  /-- A disjunction like `or`. -/
  | orElse
  | add | subtract | multiply | divide | modulo
  | exclusiveOr | leftShift | rightShift
  /-- The left operand unless it is null. -/
  | coalesce
deriving DecidableEq, Repr, Inhabited

namespace BinaryOp

/-- All operators. -/
def all : List BinaryOp :=
  [equal, notEqual, greater, greaterOrEqual, less, lessOrEqual, and, andAlso, or, orElse, add,
    subtract, multiply, divide, modulo, exclusiveOr, leftShift, rightShift, coalesce]

def name : BinaryOp → String
  | equal => "Equal"
  | notEqual => "NotEqual"
  | greater => "GreaterThan"
  | greaterOrEqual => "GreaterThanOrEqual"
  | less => "LessThan"
  | lessOrEqual => "LessThanOrEqual"
  | and => "And"
  | andAlso => "AndAlso"
  | or => "Or"
  | orElse => "OrElse"
  | add => "Add"
  | subtract => "Subtract"
  | multiply => "Multiply"
  | divide => "Divide"
  | modulo => "Modulo"
  | exclusiveOr => "ExclusiveOr"
  | leftShift => "LeftShift"
  | rightShift => "RightShift"
  | coalesce => "Coalesce"

def isComparison : BinaryOp → Bool
  | equal | notEqual | greater | greaterOrEqual | less | lessOrEqual => true
  | _ => false

def isConjunction : BinaryOp → Bool
  | and | andAlso => true
  | _ => false

/-- The operator that says the same with the operands exchanged. -/
def exchanged : BinaryOp → BinaryOp
  | greater => less
  | greaterOrEqual => lessOrEqual
  | less => greater
  | lessOrEqual => greaterOrEqual
  | other => other

@[simp] theorem exchanged_exchanged (op : BinaryOp) : op.exchanged.exchanged = op := by
  cases op <;> rfl

@[simp] theorem isComparison_exchanged (op : BinaryOp) :
    op.exchanged.isComparison = op.isComparison := by
  cases op <;> rfl

end BinaryOp

/-- An operator with one operand. -/
inductive UnaryOp where
  | not
  | negate
deriving DecidableEq, Repr, Inhabited

namespace UnaryOp

def name : UnaryOp → String
  | not => "Not"
  | negate => "Negate"

end UnaryOp

/-- A method: one of those with a meaning, or any other by its name. -/
inductive Method where
  | startsWith | endsWith | contains
  /-- Called with a text and a regular expression, without a receiver. -/
  | isMatch
  /-- Called with a list, without a receiver. -/
  | count
  | other (name : String)
deriving DecidableEq, Repr

namespace Method

def name : Method → String
  | startsWith => "StartsWith"
  | endsWith => "EndsWith"
  | contains => "Contains"
  | isMatch => "IsMatch"
  | count => "Count"
  | other name => name

/-- The method of a name. -/
def ofName (name : String) : Method :=
  ([startsWith, endsWith, contains, isMatch, count].find? (·.name = name)).getD (other name)

/-- Whether the method has a meaning of its own. -/
def isKnown : Method → Bool
  | other _ => false
  | _ => true

end Method

/-- What is computed over the rows of a group. -/
inductive AggregateKind where
  | count | sum | min | max | average
deriving DecidableEq, Repr, Inhabited

namespace AggregateKind

/-- All aggregates. -/
def all : List AggregateKind :=
  [count, sum, min, max, average]

def name : AggregateKind → String
  | count => "Count"
  | sum => "Sum"
  | min => "Min"
  | max => "Max"
  | average => "Average"

end AggregateKind

/-- The direction of a sort key. -/
inductive Direction where
  | ascending
  | descending
deriving DecidableEq, Repr, Inhabited

/-- The number that stands for a direction in a sort document. -/
def Direction.sign : Direction → Int32
  | ascending => 1
  | descending => -1

end DocumentMapper
