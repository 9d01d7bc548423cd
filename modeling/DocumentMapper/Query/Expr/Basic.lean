import DocumentMapper.Mapping.MemberType
import DocumentMapper.Query.Expr.Operator
import DocumentMapper.Value.Document

/-!
# Expressions and query levels

An expression computes a value from a row: constants, the row itself, its members and
fields, operators and calls. A query is made of levels, each a `Select` over a source
that is a collection or another level, and the two types contain each other: the
clauses of a level are expressions, and a level can stand in an expression.

A field is read from the rows of the source that its label names. A row field is read
from whatever row a result is computed from.

## Main definitions

* `Expr`, `Select`: The data.
* `Expr.equals`: Equality of expressions, with constants compared as stored values.
* `Expr.kind`, `Expr.operands`: What an expression is and what it is applied to.
* `Select.sourceLabel?`: The label of the rows that a level reads.
-/

namespace DocumentMapper

/-- A field of the rows of a labelled source: names with dots between. -/
structure FieldRef where
  label : String
  path : String
deriving DecidableEq, Repr, Inhabited

/-- A collection as the source of rows. -/
structure Collection where
  label : String
  database : String
  name : String
  documentType : MemberType
deriving DecidableEq, Repr

mutual

/-- An expression. -/
inductive Expr where
  | constant (v : Value)
  /-- The row that a level or a projection is computed for. -/
  | parameter (name : String)
  | member (e : Expr) (name : String)
  | binary (op : BinaryOp) (left right : Expr)
  | unary (op : UnaryOp) (operand : Expr)
  | call (method : Method) (receiver : Option Expr) (arguments : List Expr)
  /-- An object made of named expressions. -/
  | object (members : List (String × Expr))
  | field (f : FieldRef)
  /-- A path into the row a result is computed from. -/
  | rowField (path : String)
  | collection (c : Collection)
  | select (s : Select)
  /-- The rows of a level, each shaped by an expression. -/
  | projection (source : Select) (projector : Expr)
  | aggregate (kind : AggregateKind) (argument : Option Expr) (distinct : Bool)
  /-- A level as a value. -/
  | subquery (s : Select)

/-- A level of a query. Without declared fields it has the rows of its source. -/
structure Select where
  label : String
  fields : List (String × Expr)
  source : Option Expr
  filter : Option Expr
  order : List (Direction × Expr)
  group : Option (List Expr)
  distinct : Bool
  skip : Option Expr
  take : Option Expr

end

instance : Inhabited Expr := ⟨.constant .null⟩

instance : Inhabited Select := ⟨⟨"", [], none, none, [], none, false, none, none⟩⟩

mutual

/-- Equality of expressions. Constants are compared as stored values, so that an
    expression with a NaN inside differs from itself. -/
def Expr.equals : Expr → Expr → Bool
  | .constant v, .constant w => v == w
  | .parameter n, .parameter m => n = m
  | .member e n, .member f m => e.equals f && n = m
  | .binary op l r, .binary op' l' r' => op = op' && l.equals l' && r.equals r'
  | .unary op e, .unary op' e' => op = op' && e.equals e'
  | .call m r as, .call m' r' as' => m = m' && optionEquals r r' && listEquals as as'
  | .object ms, .object ms' => namedEquals ms ms'
  | .field f, .field f' => f = f'
  | .rowField p, .rowField p' => p = p'
  | .collection c, .collection c' => c = c'
  | .select s, .select s' => s.equals s'
  | .projection s p, .projection s' p' => s.equals s' && p.equals p'
  | .aggregate k a d, .aggregate k' a' d' => k = k' && optionEquals a a' && d = d'
  | .subquery s, .subquery s' => s.equals s'
  | _, _ => false

/-- Equality of levels, clause by clause. -/
def Select.equals : Select → Select → Bool
  | ⟨l, fs, s, f, o, g, d, sk, t⟩, ⟨l', fs', s', f', o', g', d', sk', t'⟩ =>
    l = l' && namedEquals fs fs' && optionEquals s s' && optionEquals f f' && orderEquals o o' &&
      groupEquals g g' && d = d' && optionEquals sk sk' && optionEquals t t'

/-- Equality of optional expressions. -/
def optionEquals : Option Expr → Option Expr → Bool
  | none, none => true
  | some e, some f => e.equals f
  | _, _ => false

/-- Equality of lists of expressions. -/
def listEquals : List Expr → List Expr → Bool
  | [], [] => true
  | e :: es, f :: fs => e.equals f && listEquals es fs
  | _, _ => false

/-- Equality of lists of named expressions. -/
def namedEquals : List (String × Expr) → List (String × Expr) → Bool
  | [], [] => true
  | (n, e) :: es, (m, f) :: fs => n = m && e.equals f && namedEquals es fs
  | _, _ => false

/-- Equality of lists of sort keys. -/
def orderEquals : List (Direction × Expr) → List (Direction × Expr) → Bool
  | [], [] => true
  | (d, e) :: es, (d', f) :: fs => d = d' && e.equals f && orderEquals es fs
  | _, _ => false

/-- Equality of optional lists of group keys. -/
def groupEquals : Option (List Expr) → Option (List Expr) → Bool
  | none, none => true
  | some es, some fs => listEquals es fs
  | _, _ => false

end

instance : BEq Expr := ⟨Expr.equals⟩

instance : BEq Select := ⟨Select.equals⟩

namespace Expr

/-- The name of the form of an expression. -/
def kind : Expr → String
  | constant _ => "Constant"
  | parameter _ => "Parameter"
  | member _ _ => "MemberAccess"
  | binary _ _ _ => "Binary"
  | unary _ _ => "Unary"
  | call _ _ _ => "Call"
  | object _ => "New"
  | field _ => "Field"
  | rowField _ => "RowField"
  | collection _ => "Collection"
  | select _ => "Select"
  | projection _ _ => "Projection"
  | aggregate _ _ _ => "Aggregate"
  | subquery _ => "Subquery"

/-- The expressions that an expression is applied to. Levels are opaque: they and what
    contains them as a source have none. -/
def operands : Expr → List Expr
  | member e _ => [e]
  | binary _ l r => [l, r]
  | unary _ e => [e]
  | call _ receiver arguments => receiver.toList ++ arguments
  | object members => members.map Prod.snd
  | aggregate _ argument _ => argument.toList
  | _ => []

def asConstant? : Expr → Option Value
  | constant v => some v
  | _ => none

def asField? : Expr → Option FieldRef
  | field f => some f
  | _ => none

/-- The text of a constant text. -/
def asText? (e : Expr) : Option String :=
  e.asConstant?.bind Value.asString?

/-- The label of the rows that a source has. -/
def rowsLabel? : Expr → Option String
  | collection c => some c.label
  | select s => some s.label
  | _ => none

end Expr

namespace Select

/-- A level that has the rows of its source. -/
def ofSource (label : String) (source : Expr) : Select where
  label := label
  fields := []
  source := some source
  filter := none
  order := []
  group := none
  distinct := false
  skip := none
  take := none

/-- The label of the rows that a level reads. -/
def sourceLabel? (s : Select) : Option String :=
  s.source.bind Expr.rowsLabel?

end Select

/-- The members that stand for the number of items or characters. -/
def isLengthMember (name : String) : Bool :=
  name == "Length" || name == "Count"

end DocumentMapper
