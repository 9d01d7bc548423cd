import DocumentMapper.Query.Expr.Basic

/-!
# Building queries

A query is built by operators, each of which puts a level around what is there. The
expressions of an operator are given as functions of the row: a parameter at first, and
after a projection the expression that shapes the rows.

## Main definitions

* `QueryBuilder`: A query under construction.
* `QueryBuilder.filter`, `QueryBuilder.orderBy` and so on: The operators.
* `QueryBuilder.toExpr`: The expression that was built.
-/

namespace DocumentMapper

/-- A query under construction: the outermost level, the shape of its rows, and the
    number of the next level. -/
structure QueryBuilder where
  level : Select
  projector : Option Expr
  next : Nat

namespace QueryBuilder

/-- The label of the level with a number. -/
def label (n : Nat) : String :=
  "t" ++ toString n

/-- The query for all documents of a collection. -/
def ofCollection (database name : String) (documentType : MemberType) : QueryBuilder where
  level := .ofSource (label 1) (.collection ⟨label 0, database, name, documentType⟩)
  projector := none
  next := 2

/-- What the functions of an operator receive. -/
def row (q : QueryBuilder) : Expr :=
  q.projector.getD (.parameter q.level.label)

/-- Puts a level around the query. -/
def wrap (q : QueryBuilder) (configure : Select → Select) : QueryBuilder where
  level := configure (.ofSource (label q.next) (.select q.level))
  projector := q.projector
  next := q.next + 1

def filter (q : QueryBuilder) (predicate : Expr → Expr) : QueryBuilder :=
  q.wrap ({ · with filter := some (predicate q.row) })

/-- Sorts by a key, and by what was sorted on before where that is the same. -/
def orderBy (q : QueryBuilder) (direction : Direction) (key : Expr → Expr) : QueryBuilder :=
  q.wrap ({ · with order := [(direction, key q.row)] })

/-- Sorts by a further key where the keys of the outermost level are the same. -/
def thenBy (q : QueryBuilder) (direction : Direction) (key : Expr → Expr) : QueryBuilder :=
  { q with level := { q.level with order := q.level.order ++ [(direction, key q.row)] } }

def skip (q : QueryBuilder) (count : Int32) : QueryBuilder :=
  q.wrap ({ · with skip := some (.constant (.int32 count)) })

def take (q : QueryBuilder) (count : Int32) : QueryBuilder :=
  q.wrap ({ · with take := some (.constant (.int32 count)) })

def distinct (q : QueryBuilder) : QueryBuilder :=
  q.wrap ({ · with distinct := true })

/-- Groups by keys and computes named aggregates. The rows have no other shape then. -/
def groupBy (q : QueryBuilder) (keys : Expr → List Expr)
    (aggregates : Expr → List (String × Expr)) : QueryBuilder :=
  { q with projector := none }.wrap
    ({ · with group := some (keys q.row), fields := aggregates q.row })

/-- Shapes every row. The shape is the row of later operators. -/
def select (q : QueryBuilder) (projector : Expr → Expr) : QueryBuilder :=
  { q with projector := some (projector q.row) }

/-- The expression that was built. -/
def toExpr (q : QueryBuilder) : Expr :=
  match q.projector with
  | some projector => .projection q.level projector
  | none => .select q.level

end QueryBuilder

end DocumentMapper
