import DocumentMapper.Query.Builder
import Mathlib.Data.List.Basic

/-!
# Operators with any functions

A query is built by operators, each of which is given functions of the row. What holds of
a query whatever its functions do is stated over a list of operators.

## Main definitions

* `Operator`, `Operator.extend`: An operator, and the query after it.
* `operated`: The query that operators build.
-/

namespace DocumentMapper

/-- An operator with the functions it is given. -/
inductive Operator where
  | filter (predicate : Expr → Expr)
  | orderBy (direction : Direction) (key : Expr → Expr)
  | thenBy (direction : Direction) (key : Expr → Expr)
  | skip (count : Int32)
  | take (count : Int32)
  | distinct
  | select (shape : Expr → Expr)

/-- The query after an operator. -/
def Operator.extend (o : Operator) (q : QueryBuilder) : QueryBuilder :=
  match o with
  | filter predicate => q.filter predicate
  | orderBy direction key => q.orderBy direction key
  | thenBy direction key => q.thenBy direction key
  | skip count => q.skip count
  | take count => q.take count
  | distinct => q.distinct
  | select shape => q.select shape

/-- The query that operators build for a collection. -/
def operated (database name : String) (documentType : MemberType) (operators : List Operator) :
    QueryBuilder :=
  operators.foldl (fun q o => o.extend q) (.ofCollection database name documentType)

theorem operated_concat {database name : String} {documentType : MemberType}
    (operators : List Operator) (o : Operator) :
    operated database name documentType (operators ++ [o]) =
      o.extend (operated database name documentType operators) := by
  unfold operated
  rw [List.foldl_concat]

end DocumentMapper
