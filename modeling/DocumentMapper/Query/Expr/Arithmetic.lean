import DocumentMapper.Query.Error
import DocumentMapper.Value.Diagnostic

/-!
# Operators on values

What the operators compute from two values. Numbers of different forms meet in the
wider one: two short integers stay short, an integer of 64 bits makes the result one,
and a double makes it a double. Integer results are exact; where the form of the result
does not hold them the operator fails.

Equality looks at numbers as doubles and at everything else as it is stored. The order
is that of two integers, of two numbers, of two texts, of two instants or of two truth
values, and there is no other.

## Main definitions

* `Value.same`, `Value.order?`: Equality and order.
* `Integers.apply`: The operators on integers, on the exact numbers.
* `BinaryOp.apply`, `UnaryOp.apply`: The operators on values.
* `Value.text`: The text of a value in a concatenation.
-/

namespace DocumentMapper

/-- A failure of evaluation as a failure of a query. -/
def evaluationFailure {α : Type} (e : EvaluationError) : Except QueryError α :=
  .error (.evaluation e)

namespace Value

/-- Whether two values are equal in an expression: numbers by their size, also across
    forms. -/
def same (a b : Value) : Bool :=
  match a.asDouble?, b.asDouble? with
  | some x, some y => x.equals y
  | _, _ => a == b

/-- The order of two values in an expression. -/
def order? : Value → Value → Option Ordering
  | string a, string b => some (compare a b)
  | instant a, instant b => some (compare a.millis b.millis)
  | boolean a, boolean b => some (compare a b)
  | a, b =>
    match a.asInt64?, b.asInt64? with
    | some m, some n => some (compare m.toInt n.toInt)
    | _, _ => do (← a.asDouble?).compare? (← b.asDouble?)

/-- The order of two values, or the failure that there is none. -/
def order (a b : Value) : Except QueryError Ordering :=
  match a.order? b with
  | some o => .ok o
  | none => evaluationFailure (.incomparable a.elementType b.elementType)

/-- The truth value that a condition needs. -/
def truth : Value → Except QueryError Bool
  | boolean b => .ok b
  | v => evaluationFailure (.notBoolean v.elementType)

/-- The text of a value in a concatenation. Null adds nothing. -/
def text : Value → String
  | null => ""
  | string s => s
  | int32 n => integerText n.toInt
  | int64 n => integerText n.toInt
  | double d => plainLayout.render d
  | boolean b => if b then "true" else "false"
  | objectId id => id.hex
  | v => v.diagnostic

def isText : Value → Bool
  | string _ => true
  | _ => false

end Value

namespace Integers

/-- Whether an integer has a form of 32 bits. -/
def fits32 (n : Int) : Bool :=
  -2147483648 ≤ n && n ≤ 2147483647

/-- Whether an integer has a form of 64 bits. -/
def fits64 (n : Int) : Bool :=
  -9223372036854775808 ≤ n && n ≤ 9223372036854775807

/-- An amount to shift by: a number of 32 bits without a sign. -/
def shiftAmount (b : Int) : Except QueryError Nat :=
  if 0 ≤ b ∧ b ≤ 4294967295 then .ok b.toNat else evaluationFailure (.invalidShift b)

/-- The exact result of an operator on two integers of 64 bits. A shift to the left
    drops what leaves the 64 bits; a shift by more bits than there are fails. -/
def exact (op : BinaryOp) (a b : Int) : Except QueryError Int :=
  match op with
  | .add => .ok (a + b)
  | .subtract => .ok (a - b)
  | .multiply => .ok (a * b)
  | .divide => if b = 0 then evaluationFailure .divisionByZero else .ok (a.tdiv b)
  | .modulo =>
    if b = 0 then evaluationFailure .divisionByZero
    -- The remainder would be zero, but the division behind it overflows.
    else if a = -9223372036854775808 ∧ b = -1 then evaluationFailure (.overflow op)
    else .ok (a.tmod b)
  | .exclusiveOr => .ok (Int64.ofInt a ^^^ Int64.ofInt b).toInt
  | .leftShift => do
    let amount ← shiftAmount b
    if 64 ≤ amount then evaluationFailure (.overflow op)
    -- Bits that leave the 64 are lost without an error.
    else return (a * Int.pow 2 amount).bmod UInt64.size
  | .rightShift => do
    let amount ← shiftAmount b
    if 64 ≤ amount then evaluationFailure (.overflow op) else return a.fdiv (Int.pow 2 amount)
  | op => .error (.unsupported (.operation op))

/-- The result of an operator on two integers of 64 bits, if 64 bits hold it. -/
def apply (op : BinaryOp) (a b : Int) : Except QueryError Int := do
  let n ← exact op a b
  if fits64 n then return n else evaluationFailure (.overflow op)

end Integers

/-- The result of an operator on two doubles. -/
def Double.apply (op : BinaryOp) (a b : Double) : Except QueryError Double :=
  match op with
  | .add => .ok (a.add b)
  | .subtract => .ok (a.sub b)
  | .multiply => .ok (a.mul b)
  | .divide => .ok (a.div b)
  | .modulo => .ok (a.rem b)
  | op => .error (.unsupported (.operation op))

namespace BinaryOp

/-- The result of an operator on two numbers. -/
def applyNumbers (op : BinaryOp) (a b : Value) : Except QueryError Value :=
  match a, b with
  | .int32 m, .int32 n => do
    let result ← Integers.apply op m.toInt n.toInt
    if Integers.fits32 result then return .int32 (.ofInt result)
    else evaluationFailure (.overflow op)
  -- Two numbers of 32 bits stay of 32 bits; mixed ones are widened.
  | a, b =>
    match a.asInt64?, b.asInt64? with
    | some m, some n => do return .int64 (.ofInt (← Integers.apply op m.toInt n.toInt))
    | _, _ =>
      match a.asDouble?, b.asDouble? with
      | some x, some y => .double <$> x.apply op y
      | _, _ => evaluationFailure (.undefinedBinary op a.elementType b.elementType)

/-- Whether a comparison accepts an order. -/
def accepts : BinaryOp → Ordering → Bool
  | greater, o => o == .gt
  | greaterOrEqual, o => o != .lt
  | less, o => o == .lt
  | lessOrEqual, o => o != .gt
  | _, _ => false

/-- The result of an operator on two values. The operators that may leave out their
    second operand are not among these. -/
def apply (op : BinaryOp) (a b : Value) : Except QueryError Value :=
  match op with
  | equal => .ok (.boolean (a.same b))
  | notEqual => .ok (.boolean (!a.same b))
  | greater | greaterOrEqual | less | lessOrEqual => do
    return .boolean (op.accepts (← a.order b))
  | add => if a.isText || b.isText then .ok (.string (a.text ++ b.text)) else applyNumbers add a b
  | exclusiveOr =>
    match a with
    | .boolean x => do return .boolean (x != (← b.truth))
    | a => applyNumbers exclusiveOr a b
  | op => applyNumbers op a b

end BinaryOp

/-- The result of an operator on one value. -/
def UnaryOp.apply : UnaryOp → Value → Except QueryError Value
  | not, .boolean b => .ok (.boolean !b)
  | negate, .int32 n =>
    if Integers.fits32 (-n.toInt) then .ok (.int32 (.ofInt (-n.toInt)))
    else evaluationFailure .negateOverflow
  | negate, .int64 n =>
    if Integers.fits64 (-n.toInt) then .ok (.int64 (.ofInt (-n.toInt)))
    else evaluationFailure .negateOverflow
  | negate, .double d => .ok (.double d.neg)
  | op, v => evaluationFailure (.undefinedUnary op v.elementType)

end DocumentMapper
