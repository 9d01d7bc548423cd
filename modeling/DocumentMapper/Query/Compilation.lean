import DocumentMapper.Query.Binding
import DocumentMapper.Query.Builder
import DocumentMapper.Query.Expr.Constant
import DocumentMapper.Query.Object
import DocumentMapper.Query.Ordering

/-!
# Compiling queries

A query expression is compiled in steps: constants are folded, members bound to
fields, orderings hoisted, and the fields that the shape of the rows needs are declared
on the outermost level. The levels then make up the query object, and a grouping adds
its scripts.

## Main definitions

* `Expr.compile`: The query object of a query expression.
* `QueryBuilder.compile`: The query object of a query that was built.
* `QueryObject.shapeRow`: The result of a query for a row.
-/

namespace DocumentMapper

/-- A level that asks for the fields a projection needs. It asks for whole rows if the
    projection does, and a grouping declares its fields itself. -/
def Select.restrict (s : Select) (p : RowProjection) : Select :=
  if s.group.isNone && !p.usesRow then { s with fields := p.declarations } else s

/-- The outermost level of a query expression, restricted to what its rows are shaped
    from, and the shape over the row of the result. -/
def Expr.outermost : Expr → Except QueryError (Select × Option Expr)
  | .select s => .ok (s, none)
  | .projection source projector =>
    let p := projector.project
    .ok (source.restrict p, some p.projector)
  | e => .error (.invalid (.noQuery e.kind))

/-- Adds the scripts of a grouping. -/
def QueryObject.addGrouping (q : QueryObject) (s : Select) : Except QueryError QueryObject :=
  match s.group with
  | none => .ok q
  | some keys => do
    let map ← mapFunction s.fields keys
    return { q with map := some map, reduce := some (← reduceFunction s.fields) }

/-- The query object of a query expression, with the stored names of a store if there is
    one. -/
def Expr.compile (store : Option Store) (e : Expr) : Except QueryError QueryObject := do
  let (e, _) ← e.folded
  let e ← e.bind store none
  let (s, projector) ← e.hoistOrder.outermost
  let q ← s.queryObject
  { q with projector := projector }.addGrouping s

/-- The query object of a query that was built. -/
def QueryBuilder.compile (store : Option Store) (q : QueryBuilder) :
    Except QueryError QueryObject :=
  q.toExpr.compile store

/-- The result of a query for a row, if the query shapes its rows. -/
def QueryObject.shapeRow (q : QueryObject) (row : Document) : Option (Except QueryError Value) :=
  q.projector.map (·.projectRow row)

end DocumentMapper
