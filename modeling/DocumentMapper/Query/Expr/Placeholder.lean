import DocumentMapper.Query.Expr.Evaluate

/-!
# Fields that a result needs

A result is computed from rows that hold only what was asked for. So the fields that an
expression reads are gathered, each path once, and replaced by placeholders that read
the same path from the row of the result. An expression that reads a parameter needs
the whole row.

Levels inside an expression are opaque: nothing is gathered or replaced in them.

## Main definitions

* `Expr.fieldsRead`: The fields in the order of reading.
* `Expr.readsRow`: Whether the whole row is read.
* `Expr.toRow`: The expression over the row of the result.
* `RowProjection`: All three.
-/

namespace DocumentMapper

mutual

/-- The fields that an expression reads, each as often as it does. -/
def Expr.fieldsRead : Expr → List FieldRef
  | .field f => [f]
  | .member e _ => e.fieldsRead
  | .binary _ l r => l.fieldsRead ++ r.fieldsRead
  | .unary _ e => e.fieldsRead
  | .call _ receiver arguments => fieldsReadOption receiver ++ fieldsReadEach arguments
  | .object members => fieldsReadNamed members
  | .aggregate _ argument _ => fieldsReadOption argument
  | _ => []

/-- The fields that an optional expression reads. -/
def fieldsReadOption : Option Expr → List FieldRef
  | none => []
  | some e => e.fieldsRead

/-- The fields that a list of expressions reads. -/
def fieldsReadEach : List Expr → List FieldRef
  | [] => []
  | e :: rest => e.fieldsRead ++ fieldsReadEach rest

/-- The fields that named expressions read. -/
def fieldsReadNamed : List (String × Expr) → List FieldRef
  | [] => []
  | (_, e) :: rest => e.fieldsRead ++ fieldsReadNamed rest

end

mutual

/-- Whether an expression reads the whole row. -/
def Expr.readsRow : Expr → Bool
  | .parameter _ => true
  | .member e _ => e.readsRow
  | .binary _ l r => l.readsRow || r.readsRow
  | .unary _ e => e.readsRow
  | .call _ receiver arguments => readsRowOption receiver || readsRowEach arguments
  | .object members => readsRowNamed members
  | .aggregate _ argument _ => readsRowOption argument
  | _ => false

/-- Whether an optional expression reads the whole row. -/
def readsRowOption : Option Expr → Bool
  | none => false
  | some e => e.readsRow

/-- Whether one of a list of expressions reads the whole row. -/
def readsRowEach : List Expr → Bool
  | [] => false
  | e :: rest => e.readsRow || readsRowEach rest

/-- Whether one of several named expressions reads the whole row. -/
def readsRowNamed : List (String × Expr) → Bool
  | [] => false
  | (_, e) :: rest => e.readsRow || readsRowNamed rest

end

mutual

/-- The expression with every field replaced by a placeholder of its path. -/
def Expr.toRow : Expr → Expr
  | .field f => .rowField f.path
  | .member e name => .member e.toRow name
  | .binary op l r => .binary op l.toRow r.toRow
  | .unary op e => .unary op e.toRow
  | .call method receiver arguments => .call method (toRowOption receiver) (toRowEach arguments)
  | .object members => .object (toRowNamed members)
  | .aggregate kind argument distinct => .aggregate kind (toRowOption argument) distinct
  | e => e

/-- An optional expression over the row of the result. -/
def toRowOption : Option Expr → Option Expr
  | none => none
  | some e => some e.toRow

/-- A list of expressions over the row of the result. -/
def toRowEach : List Expr → List Expr
  | [] => []
  | e :: rest => e.toRow :: toRowEach rest

/-- Named expressions over the row of the result. -/
def toRowNamed : List (String × Expr) → List (String × Expr)
  | [] => []
  | (name, e) :: rest => (name, e.toRow) :: toRowNamed rest

end

/-- Fields of which each path stands once, in the order of first use. -/
def distinctPaths (fields : List FieldRef) : List FieldRef :=
  fields.eraseDupsBy fun a b => a.path == b.path

/-- What a result needs, and how it is computed from that. -/
structure RowProjection where
  /-- The fields to ask for. -/
  fields : List FieldRef
  projector : Expr
  usesRow : Bool

namespace Expr

/-- The projection of an expression onto the fields it reads. -/
def project (e : Expr) : RowProjection :=
  ⟨distinctPaths e.fieldsRead, e.toRow, e.readsRow⟩

/-- The projection that takes no field out of an expression. -/
def projectWhole (e : Expr) : RowProjection :=
  ⟨[], e, e.readsRow⟩

/-- The result for a row. -/
def projectRow (e : Expr) (row : Document) : Except QueryError Value :=
  e.evaluate (some row)

end Expr

/-- The declarations that ask for the fields. -/
def RowProjection.declarations (p : RowProjection) : List (String × Expr) :=
  p.fields.map fun f => (f.path, .field f)

end DocumentMapper
