import DocumentMapper.Query.Expr.Arithmetic
import DocumentMapper.Text.Regex.Reading
import DocumentMapper.Text.Regex.Search

/-!
# Evaluation of expressions

An expression has a value at a row, and some have one without a row. Operators that
decide by their left operand alone do not look at the right one; all other operands are
evaluated, from the left, the arguments of a call before its receiver.

## Main definitions

* `Expr.evaluate`: The value of an expression at a row.
* `Value.member`: A member of a value.
* `Method.apply`: The value of a call.
-/

namespace DocumentMapper

namespace Value

/-- A number of items, in the shorter form where that holds it. -/
def ofCount (n : Nat) : Value :=
  if Integers.fits32 n then int32 (.ofNat n) else int64 (.ofNat n)

/-- A member of a value: a field of a document, which may be missing, or the length of
    a text or a list. -/
def member (v : Value) (name : String) : Except QueryError Value :=
  match v with
  | document d => .ok ((d.get? name).getD null)
  | string s =>
    if name == "Length" then .ok (ofCount s.length)
    else evaluationFailure (.noMember .string name)
  | array items =>
    if isLengthMember name then .ok (ofCount items.length)
    else evaluationFailure (.noMember .array name)
  | other => evaluationFailure (.noMember other.elementType name)

/-- The text that a call needs. -/
def expectText (method : Method) : Value → Except QueryError String
  | string s => .ok s
  | _ => evaluationFailure (.textExpected method)

end Value

/-- The value at a path of a row. What is missing is null. -/
def rowValue (row : Option Document) (path : String) : Except QueryError Value :=
  match row with
  | some d => .ok ((d.lookupPath? path).getD .null)
  | none => evaluationFailure (.noRow path)

/-- Whether a list of characters contains another one as a piece. -/
def containsPiece (piece : List Char) : List Char → Bool
  | [] => piece.isEmpty
  | c :: rest => piece.isPrefixOf (c :: rest) || containsPiece piece rest

namespace Method

/-- Whether a text has another one where a method looks for it. -/
def finds (method : Method) (text piece : String) : Bool :=
  match method with
  | startsWith => piece.toList.isPrefixOf text.toList
  | endsWith => piece.toList.isSuffixOf text.toList
  | _ => containsPiece piece.toList text.toList

/-- Whether a text matches a regular expression. -/
def matchText (text pattern : String) : Except QueryError Value :=
  match Regex.ofText pattern with
  | .ok r => .ok (.boolean (r.isMatch text))
  | .error .malformed => evaluationFailure .malformedPattern
  | .error .oversized => evaluationFailure (.oversizedPattern Regex.sizeLimit)

/-- The value of a call. The receiver is evaluated only where the method takes one. -/
def apply (method : Method) (receiver : Option (Except QueryError Value))
    (arguments : List Value) : Except QueryError Value :=
  match method, receiver, arguments with
  | isMatch, none, [text, pattern] => do
    let text ← text.expectText isMatch
    matchText text (← pattern.expectText isMatch)
  | count, none, [.array items] => .ok (.ofCount items.length)
  | startsWith, some receiver, [piece]
  | endsWith, some receiver, [piece]
  | contains, some receiver, [piece] => do
    let text ← (← receiver).expectText method
    return .boolean (method.finds text (← piece.expectText method))
  | _, _, _ => .error (.unsupported (.method method))

end Method

mutual

/-- The value of an expression at a row, or without one. -/
def Expr.evaluate (row : Option Document) : Expr → Except QueryError Value
  | .constant v => .ok v
  | .parameter name =>
    match row with
    | some d => .ok (.document d)
    | none => evaluationFailure (.unboundParameter name)
  | .field f => rowValue row f.path
  | .rowField path => rowValue row path
  | .member e name => do (← e.evaluate row).member name
  | .binary op left right =>
    match op with
    | .and | .andAlso => do
      -- The right operand is evaluated only where the left one leaves the outcome open.
      if ← (← left.evaluate row).truth then return .boolean (← (← right.evaluate row).truth)
      else return .boolean false
    | .or | .orElse => do
      if ← (← left.evaluate row).truth then return .boolean true
      else return .boolean (← (← right.evaluate row).truth)
    | .coalesce => do
      match ← left.evaluate row with
      | .null => right.evaluate row
      | v => return v
    | op => do op.apply (← left.evaluate row) (← right.evaluate row)
  | .unary op e => do op.apply (← e.evaluate row)
  | .call method receiver arguments => do
    method.apply (evaluateReceiver row receiver) (← evaluateEach row arguments)
  | .object members => do return .document (.ofList (← evaluateMembers row members))
  | .collection c => .error (.unsupported (.evaluation (Expr.collection c).kind))
  | .select s => .error (.unsupported (.evaluation (Expr.select s).kind))
  | .projection s p => .error (.unsupported (.evaluation (Expr.projection s p).kind))
  | .aggregate k a d => .error (.unsupported (.evaluation (Expr.aggregate k a d).kind))
  | .subquery s => .error (.unsupported (.evaluation (Expr.subquery s).kind))

/-- The evaluation of a receiver, if there is one. -/
def evaluateReceiver (row : Option Document) : Option Expr → Option (Except QueryError Value)
  | none => none
  | some e => some (e.evaluate row)

/-- The values of a list of expressions. -/
def evaluateEach (row : Option Document) : List Expr → Except QueryError (List Value)
  | [] => .ok []
  | e :: rest => do
    let v ← e.evaluate row
    return v :: (← evaluateEach row rest)

/-- The values of named expressions. -/
def evaluateMembers (row : Option Document) :
    List (String × Expr) → Except QueryError (List (String × Value))
  | [] => .ok []
  | (name, e) :: rest => do
    let v ← e.evaluate row
    return (name, v) :: (← evaluateMembers row rest)

end

end DocumentMapper
