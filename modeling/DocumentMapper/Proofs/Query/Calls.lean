import DocumentMapper.Proofs.Data.Sort
import DocumentMapper.Proofs.Query.Conjunction
import DocumentMapper.Query.Compilation

/-!
# Calls and what they mean for rows

A query is built by calls, each of which puts an operator on what is there. Two things
can be done with a list of rows. The calls can be applied to it one after another
(`inOrder`), which is what whoever wrote them had in mind. Or the query object that the
calls are translated to can be run on it (`QueryObject.run`): the rows that satisfy the
conditions are kept, then all of them are sorted, and then the window is cut out.

How stored values are ordered is left open. Any comparison will do that is transitive
and says the opposite with its sides exchanged, and all keys are compared by it. A row
that an expression fails on has no place in either reading, so that the two are compared
on rows only on which all filters and keys have values.

## Main definitions

* `SortKey`, `Call`, `built`: Calls, and the query they build.
* `CallKind`: What calls do, without the filters, keys and counts they do it with.
* `Call.EvaluatesAt`: A row on which the expression of a call has a value.
* `QueryObject.run`: A query object on a list of rows.
* `inOrder`: Calls applied to a list of rows one after another.
-/

namespace DocumentMapper

/-- A key to sort by. -/
structure SortKey where
  direction : Direction
  field : FieldChain

/-- What a call does, whatever it does it with. -/
inductive CallKind where
  | filter | orderBy | thenBy | skip | take | distinct
deriving DecidableEq, Repr

/-- A call that puts an operator on a query. -/
inductive Call where
  | filter (c : Conjunction FieldChain)
  | orderBy (k : SortKey)
  | thenBy (k : SortKey)
  | skip (count : Int32)
  | take (count : Int32)
  | distinct

namespace Call

def kind : Call → CallKind
  | filter _ => .filter
  | orderBy _ => .orderBy
  | thenBy _ => .thenBy
  | skip _ => .skip
  | take _ => .take
  | distinct => .distinct

/-- The query after a call. -/
def extend (call : Call) (q : QueryBuilder) : QueryBuilder :=
  match call with
  | filter c => q.filter c.on
  | orderBy k => q.orderBy k.direction k.field.on
  | thenBy k => q.thenBy k.direction k.field.on
  | skip count => q.skip count
  | take count => q.take count
  | distinct => q.distinct

/-- The key that a call sorts by. -/
def key? : Call → Option SortKey
  | orderBy k => some k
  | thenBy k => some k
  | _ => none

end Call

/-- The query that calls build for the documents of a collection. -/
def built (database name : String) (calls : List Call) : QueryBuilder :=
  calls.foldl (fun q call => call.extend q) (.ofCollection database name .document)

/-- The fields that calls sort by. -/
def sortPaths (calls : List Call) : List String :=
  (calls.filterMap Call.key?).map fun k => k.field.path

/-! ### Rows on which expressions have values -/

/-- The row as an expression. -/
def rowParameter : Expr :=
  .parameter "row"

/-- A row on which the expression of a call has a value. -/
def Call.EvaluatesAt (row : Document) : Call → Prop
  | filter c => ∃ v, (c.on rowParameter).evaluate (some row) = .ok v
  | orderBy k => ∃ v, (k.field.on rowParameter).evaluate (some row) = .ok v
  | thenBy k => ∃ v, (k.field.on rowParameter).evaluate (some row) = .ok v
  | _ => True

/-- Rows on which the expressions of all calls have values. -/
def Evaluate (calls : List Call) (rows : List Document) : Prop :=
  ∀ row ∈ rows, ∀ call ∈ calls, call.EvaluatesAt row

/-- Whether a filter keeps a row. -/
def Conjunction.keeps (c : Conjunction FieldChain) (row : Document) : Bool :=
  match (c.on rowParameter).evaluate (some row) with
  | .ok (.boolean b) => b
  | _ => false

/-- What a key reads from a row. -/
def SortKey.read (k : SortKey) (row : Document) : Value :=
  match (k.field.on rowParameter).evaluate (some row) with
  | .ok v => v
  | .error _ => .null

/-! ### Sorting rows -/

/-- The comparison of rows by a value, in a direction. -/
def Direction.compareBy (d : Direction) (order : Value → Value → Ordering)
    (read : Document → Value) (a b : Document) : Ordering :=
  match d with
  | .ascending => order (read a) (read b)
  | .descending => order (read b) (read a)

instance transCmp_compareBy (order : Value → Value → Ordering) [Std.TransCmp order]
    (d : Direction) (read : Document → Value) : Std.TransCmp (d.compareBy order read) := by
  have hswap : ∀ v w, order v w = (order w v).swap := fun v w => Std.OrientedCmp.eq_swap
  have htrans : ∀ {u v w}, (order u v).isLE → (order v w).isLE → (order u w).isLE :=
    Std.TransCmp.isLE_trans
  cases d with
  | ascending => exact { eq_swap := hswap _ _, isLE_trans := htrans }
  | descending => exact { eq_swap := hswap _ _, isLE_trans := fun h h' => htrans h' h }

/-- The comparison of rows by a key. -/
def SortKey.compare (order : Value → Value → Ordering) (k : SortKey) :
    Document → Document → Ordering :=
  k.direction.compareBy order k.read

instance transCmp_sortKey (order : Value → Value → Ordering) [Std.TransCmp order] (k : SortKey) :
    Std.TransCmp (k.compare order) :=
  transCmp_compareBy order k.direction k.read

/-- The comparison of rows by what is at a path. -/
def comparePath (order : Value → Value → Ordering) (key : String × Direction) :
    Document → Document → Ordering :=
  key.2.compareBy order fun row => (row.lookupPath? key.1).getD .null

instance transCmp_comparePath (order : Value → Value → Ordering) [Std.TransCmp order]
    (key : String × Direction) : Std.TransCmp (comparePath order key) :=
  transCmp_compareBy order key.2 _

/-- Rows sorted by keys, of which an earlier one counts more. -/
def sortByKeys (order : Value → Value → Ordering) (keys : List SortKey)
    (rows : List Document) : List Document :=
  sortBy (lexicographic (SortKey.compare order) keys) rows

/-- Rows sorted by what is at paths, of which an earlier one counts more. -/
def sortByPaths (order : Value → Value → Ordering) (keys : List (String × Direction))
    (rows : List Document) : List Document :=
  sortBy (lexicographic (comparePath order) keys) rows

/-! ### Running a query object -/

/-- The rows in a window. -/
def Window.cut {α : Type} (w : Window) (items : List α) : List α :=
  let rest := items.drop w.skip
  if w.limit = 0 then rest else rest.take w.limit

/-- The direction that a number in a sort document stands for. -/
def Direction.ofSign (sign : Value) : Direction :=
  if sign == .int32 (-1) then .descending else .ascending

/-- The paths and directions of a sort document. -/
def QueryObject.sortKeys (q : QueryObject) : List (String × Direction) :=
  q.order.fields.map fun field => (field.1, .ofSign field.2)

/-- The rows that a query object selects from a list of rows, in their order. -/
def QueryObject.run (order : Value → Value → Ordering) (q : QueryObject)
    (rows : List Document) : List Document :=
  q.window.cut (sortByPaths order q.sortKeys (rows.filter fun row => q.query.truth (.ofRow row)))

/-! ### Applying calls one after another -/

/-- What calls have made of a list of rows, with the keys by which it was sorted last. -/
@[ext]
structure Progress where
  rows : List Document
  keys : List SortKey

/-- The rows after a skip or a take. -/
def Call.cut {α : Type} (call : Call) (items : List α) : List α :=
  match call with
  | skip count => items.drop count.toInt.toNat
  | take count => items.take count.toInt.toNat
  | _ => items

/-- Applies one call. A further key refines the keys by which the rows were sorted
    last. -/
def Call.step (order : Value → Value → Ordering) (s : Progress) (call : Call) : Progress :=
  match call with
  | filter c => { s with rows := s.rows.filter c.keeps }
  | orderBy k => ⟨sortByKeys order [k] s.rows, [k]⟩
  | thenBy k => ⟨sortByKeys order (s.keys ++ [k]) s.rows, s.keys ++ [k]⟩
  | distinct => { s with rows := s.rows.eraseDups }
  | window => { s with rows := window.cut s.rows }

/-- Calls applied to a list of rows one after another. -/
def progress (order : Value → Value → Ordering) (calls : List Call) (rows : List Document) :
    Progress :=
  calls.foldl (Call.step order) ⟨rows, []⟩

/-- The rows that are left after calls were applied one after another. -/
def inOrder (order : Value → Value → Ordering) (calls : List Call) (rows : List Document) :
    List Document :=
  (progress order calls rows).rows

/-! ### Rows on which everything has a value -/

theorem Conjunction.keeps_eq {c : Conjunction FieldChain} {row : Document}
    (h : (Call.filter c).EvaluatesAt row) : c.keeps row = c.predicate.truth (.ofRow row) := by
  rcases h with ⟨v, hv⟩
  unfold keeps
  rw [hv, c.evaluate_on hv]

theorem SortKey.read_eq {k : SortKey} {row : Document} {v : Value}
    (h : (k.field.on rowParameter).evaluate (some row) = .ok v) :
    k.read row = (row.lookupPath? k.field.path).getD .null := by
  unfold read
  rw [h]
  exact k.field.evaluate_on h

end DocumentMapper
