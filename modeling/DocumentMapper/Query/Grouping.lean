import DocumentMapper.Query.Expr.Placeholder
import DocumentMapper.Query.Expr.Script

/-!
# Grouping by map and reduce

A grouped query runs two scripts. The map function emits a key and a value for every
document: the key holds the fields that the group keys read, and the value starts every
aggregate. The reduce function folds the values of one key into one value of the same
form.

## Main definitions

* `AggregateKind.start`, `AggregateKind.step`: How an aggregate is started and folded.
* `mapFunction`, `reduceFunction`: The two scripts.
-/

namespace DocumentMapper

/-- An aggregate that is computed under a name. -/
structure Aggregate where
  name : String
  kind : AggregateKind
  argument : Option Expr

/-- The aggregates among declared fields. -/
def aggregates (fields : List (String × Expr)) : List Aggregate :=
  fields.filterMap fun
    | (name, .aggregate kind argument _) => some ⟨name, kind, argument⟩
    | _ => none

namespace Aggregate

/-- The script that starts an aggregate on one document. -/
def start (a : Aggregate) : Except QueryError String :=
  match a.kind, a.argument with
  | .count, _ => .ok "1"
  | .sum, some argument | .min, some argument | .max, some argument => argument.script
  | kind, _ => .error (.unsupported (.aggregate kind))

/-- The script that folds a further value into the result. -/
def step (a : Aggregate) : Except QueryError String :=
  let result := "result." ++ a.name
  let value := "values[i]." ++ a.name
  match a.kind with
  | .count | .sum => .ok (result ++ " += " ++ value ++ ";")
  | .min => .ok (result ++ " = Math.min(" ++ result ++ ", " ++ value ++ ");")
  | .max => .ok (result ++ " = Math.max(" ++ result ++ ", " ++ value ++ ");")
  | .average => .error (.unsupported (.aggregate .average))

end Aggregate

namespace Script

/-- A block of statements in braces. -/
def block (body : String) : String :=
  "\x7b " ++ body ++ " \x7d"

/-- An object with named contents. -/
def object (members : List (String × String)) : String :=
  let member (m : String × String) : String := "\"" ++ m.1 ++ "\": " ++ m.2
  "\x7b" ++ commaSeparated (members.map member) ++ "\x7d"

/-- The key of a document: a number where there is nothing to group by, a single field
    bare, and several fields as an object. -/
def key : List (String × String) → String
  | [] => "1"
  | [(_, field)] => field
  | fields => object fields

/-- The value of a document. -/
def value : List (String × String) → String
  | [] => "1"
  | members => object members

end Script

/-- The fields of a key with the scripts that read them. -/
def keyMembers (keys : List Expr) : List (String × String) :=
  (distinctPaths (keys.flatMap Expr.fieldsRead)).map fun f => (f.path, Script.field f)

/-- The map function of a grouping. Of two aggregates with one name the later one is
    started, in the place of the earlier. -/
def mapFunction (fields : List (String × Expr)) (keys : List Expr) : Except QueryError String := do
  let starts ← (aggregates fields).mapM fun a => do return (a.name, ← a.start)
  let emitted := Script.key (keyMembers keys) ++ ", " ++ Script.value (Fields.ofList starts)
  return "function() " ++ Script.block ("emit(" ++ emitted ++ ");")

/-- The reduce function of a grouping. -/
def reduceFunction (fields : List (String × Expr)) : Except QueryError String := do
  let steps ← (aggregates fields).mapM Aggregate.step
  let body :=
    if steps.isEmpty then "return values[0];"
    else
      "var result = values[0]; for (var i = 1; i < values.length; i++) "
        ++ Script.block (String.intercalate " " steps) ++ " return result;"
  return "function(key, values) " ++ Script.block body

end DocumentMapper
