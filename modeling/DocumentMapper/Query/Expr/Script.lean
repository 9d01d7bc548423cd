import DocumentMapper.Json.Basic
import DocumentMapper.Query.Error
import DocumentMapper.Text.Regex.Pattern.Escape
import DocumentMapper.Value.Diagnostic

/-!
# Expressions as script

A script computes an expression from a document that it is run on, and reads a field of
it as `this.name`. Operators are written between their operands in parentheses, and the
text methods as tests of a regular expression literal. The literal ends at the first
slash, so the slashes of the expression itself are written with a backslash.

## Main definitions

* `BinaryOp.symbol`: How an operator is written.
* `Value.literal`: How a constant is written.
* `Method.pattern`: The regular expression that stands for a text method.
* `Expr.script`: The script of an expression.
-/

namespace DocumentMapper

/-- How an operator is written. -/
def BinaryOp.symbol : BinaryOp → String
  | equal => " === "
  | notEqual => " != "
  | greater => " > "
  | greaterOrEqual => " >= "
  | less => " < "
  | lessOrEqual => " <= "
  | modulo => " % "
  | and | andAlso => " && "
  | or | orElse | coalesce => " || "
  | add => " + "
  | subtract => " - "
  | multiply => " * "
  | divide => " / "
  | exclusiveOr => " ^ "
  | leftShift => " << "
  | rightShift => " >> "

/-- How a constant is written. -/
def Value.literal : Value → Except QueryError String
  | null => .ok "null"
  | boolean b => .ok (if b then "true" else "false")
  | int32 n => .ok (integerText n.toInt)
  | int64 n => .ok (integerText n.toInt)
  | double d =>
    if d.isFinite then .ok (plainLayout.render d) else .error (.unsupported (.constant .double))
  | string s => .ok (Json.quote s)
  | v => .error (.unsupported (.constant v.elementType))

namespace Method

/-- The regular expression that finds a text where a method looks for it. -/
def pattern (method : Method) (text : String) : String :=
  match method with
  | startsWith => "^" ++ RegexPattern.escaped text
  | endsWith => RegexPattern.escaped text ++ "$"
  | _ => RegexPattern.escaped text

/-- The failure of a call that is not made on a field. -/
def fieldRequired (method : Method) : QueryError :=
  .invalid (.fieldRequired method)

end Method

namespace Script

/-- A regular expression between slashes. -/
def regexLiteral (pattern : String) : String :=
  "/" ++ String.ofList (pattern.toList.flatMap fun c => if c = '/' then ['\\', '/'] else [c]) ++ "/"

/-- A field of the document that the script is run on. -/
def field (f : FieldRef) : String :=
  "this." ++ f.path

/-- The test of a field by a regular expression. -/
def test (pattern : String) (f : FieldRef) : String :=
  regexLiteral pattern ++ ".test(" ++ field f ++ ")"

/-- The text of a constant, which a call in a script needs. -/
def constantText (e : Option Expr) : Except QueryError String :=
  match e.bind Expr.asText? with
  | some s => .ok s
  | none => .error (.invalid .scriptTextRequired)

/-- The field that a call is made on. -/
def calledField (method : Method) (e : Option Expr) : Except QueryError FieldRef :=
  match e.bind Expr.asField? with
  | some f => .ok f
  | none => .error method.fieldRequired

/-- A text method of a field. -/
def textCall (method : Method) (receiver : Option Expr) (arguments : List Expr) :
    Except QueryError String := do
  let f ← calledField method receiver
  return test (method.pattern (← constantText arguments[0]?)) f

/-- The test of a field by a given regular expression. -/
def matchCall (receiver : Option Expr) (arguments : List Expr) : Except QueryError String := do
  if receiver.isSome then throw (.invalid .matchWithReceiver)
  let f ← calledField .isMatch arguments[0]?
  return test (← constantText arguments[1]?) f

end Script

/-- The script of an expression. -/
def Expr.script : Expr → Except QueryError String
  | .binary op l r => do
    let l ← l.script
    return "(" ++ l ++ op.symbol ++ (← r.script) ++ ")"
  | .constant v => v.literal
  | .field f => .ok (Script.field f)
  | .member e name =>
    if isLengthMember name then do return (← e.script) ++ ".length"
    else .error (.unsupported (.member name))
  | .call .count _ [source] => do return (← source.script) ++ ".length"
  | .call .count _ _ => .error (.unsupported .countedPredicate)
  | .call .isMatch receiver arguments => Script.matchCall receiver arguments
  | .call (.other name) _ _ => .error (.unsupported (.method (.other name)))
  | .call method receiver arguments => Script.textCall method receiver arguments
  | .unary .not e => do return "!(" ++ (← e.script) ++ ")"
  | .unary op _ => .error (.unsupported (.unary op))
  | e => .error (.unsupported (.expression e.kind))

end DocumentMapper
