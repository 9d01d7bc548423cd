import DocumentMapper.Query.Filter
import DocumentMapper.Query.Grouping
import DocumentMapper.Query.Window

/-!
# Query objects

A query object is all that is needed to put a query: where to look, the condition
document, the fields to ask for, the sort document, the window of rows, the expression
that shapes each row, and the scripts of a grouping. The levels of a query each add
their clauses to it, from the innermost outward.

## Main definitions

* `QueryObject`: The parts of a query.
* `QueryObject.spec`, `QueryObject.command`: The documents that are sent.
* `Select.queryObject`: The query object of a level.
-/

namespace DocumentMapper

/-- What is needed to put a query. -/
structure QueryObject where
  database : String := ""
  collection : String := ""
  documentType : MemberType := .document
  query : Document := .empty
  /-- The fields to ask for; without any, whole documents are. -/
  fields : Document := .empty
  /-- The sort keys in the order of their weight. -/
  order : Document := .empty
  window : Window := {}
  projector : Option Expr := none
  map : Option String := none
  reduce : Option String := none

namespace QueryObject

/-- The full name of the collection. -/
def fullName (q : QueryObject) : String :=
  q.database ++ "." ++ q.collection

/-- Adds a sort key. A key that is there keeps its place and takes the new direction. -/
def addOrder (q : QueryObject) (path : String) (direction : Int32) : QueryObject :=
  { q with order := q.order.insert path (.int32 direction) }

def isMapReduce (q : QueryObject) : Bool :=
  q.map.isSome

/-- The query document that is sent: the conditions by themselves, or together with the
    sort document if there is one. -/
def spec (q : QueryObject) : Document :=
  if q.order.isEmpty then q.query
  else .ofList [("query", .document q.query), ("orderby", .document q.order)]

/-- The command of a grouped query. -/
def command? (q : QueryObject) : Option Document := do
  let map ← q.map
  let reduce := q.reduce.toList.map fun code => ("reduce", .code code)
  let query := if q.query.isEmpty then [] else [("query", .document q.query)]
  return .ofList ([("mapreduce", .string q.collection), ("map", .code map)] ++ reduce ++ query)

/-- The query object of a whole collection. -/
def ofCollection (c : Collection) : QueryObject :=
  { database := c.database, collection := c.name, documentType := c.documentType }

/-- Asks for the declared fields that are fields of the source. -/
def addFields (q : QueryObject) (fields : List (String × Expr)) : QueryObject :=
  let paths := fields.filterMap fun field => field.2.asField?.map FieldRef.path
  { q with fields := paths.foldl (fun d path => d.insert path (.int32 1)) q.fields }

/-- Adds the sort keys of a level, each of which has to be a field. -/
def addKeys (q : QueryObject) : List (Direction × Expr) → Except QueryError QueryObject
  | [] => .ok q
  | (direction, e) :: rest =>
    match e.asField? with
    | some f => (q.addOrder f.path direction.sign).addKeys rest
    | none => .error (.invalid .computedOrder)

/-- Adds the conditions of an optional filter. -/
def addFilter (q : QueryObject) : Option Expr → Except QueryError QueryObject
  | none => .ok q
  | some filter => do return { q with query := ← filter.addConditions [] q.query }

end QueryObject

namespace Select

/-- Adds the clauses of one level. -/
def addClauses (s : Select) (q : QueryObject) : Except QueryError QueryObject := do
  let q ← q.addFilter s.filter
  let q ← (q.addFields s.fields).addKeys s.order
  return { q with window := ← s.narrow q.window }

/-- The query object of the levels up to this one. Only the outermost may group. -/
def queryObjectWithin (outermost : Bool) (s : Select) : Except QueryError QueryObject :=
  if s.group.isSome && !outermost then .error (.unsupported .innerGrouping)
  else
    match s with
    | ⟨label, fields, some (.collection c), filter, order, group, distinct, skip, take⟩ =>
      addClauses ⟨label, fields, some (.collection c), filter, order, group, distinct, skip, take⟩
        (.ofCollection c)
    | ⟨label, fields, some (.select inner), filter, order, group, distinct, skip, take⟩ => do
      let q ← inner.queryObjectWithin false
      addClauses ⟨label, fields, some (.select inner), filter, order, group, distinct, skip, take⟩ q
    | _ => .error (.invalid .noSource)

/-- The query object of a level as the outermost one. -/
def queryObject (s : Select) : Except QueryError QueryObject :=
  s.queryObjectWithin true

end Select

/-- The query object of an expression that is a level or shapes the rows of one. The
    shape is not part of it yet. -/
def Expr.queryObject : Expr → Except QueryError QueryObject
  | .select s => s.queryObject
  | .projection source _ => source.queryObject
  | e => .error (.invalid (.noLevel e.kind))

end DocumentMapper
