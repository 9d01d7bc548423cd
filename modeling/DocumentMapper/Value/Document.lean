import DocumentMapper.Data.Fields
import DocumentMapper.Value.Basic

/-!
# Documents as ordered maps

A name occurs at most once in a document that is built by these operations.
Inserting under a new name appends a field; inserting under a name that is there
replaces the value and keeps the place. Removing keeps the order of the rest.

## Main definitions

* `Document.get?`: The value under a name.
* `Document.insert`: Append or replace.
* `Document.remove`: Drop a name.
* `Document.lookupPath?`: The value at a path of names through nested documents.
* `Document.merge`: Insert every field of another document.
* `Document.ofList`: The document that inserts a list of fields.
-/

namespace DocumentMapper

namespace Document

/-- The document without fields. -/
def empty : Document :=
  ⟨[]⟩

/-- The names in order. -/
def keys (d : Document) : List String :=
  d.fields.map Prod.fst

/-- The values in order. -/
def values (d : Document) : List Value :=
  d.fields.map Prod.snd

def size (d : Document) : Nat :=
  d.fields.length

def isEmpty (d : Document) : Bool :=
  d.fields.isEmpty

/-- The value under a name. -/
def get? (d : Document) (key : String) : Option Value :=
  d.fields.lookup key

def contains (d : Document) (key : String) : Bool :=
  (d.get? key).isSome

/-- The document with a value under a name: in the place of the old value, or last. -/
def insert (d : Document) (key : String) (value : Value) : Document :=
  ⟨Fields.insert key value d.fields⟩

/-- The document without a name. -/
def remove (d : Document) (key : String) : Document :=
  ⟨d.fields.eraseP (fun field => field.1 == key)⟩

/-- Inserts a value unless the name is there already. -/
def insertIfNew (d : Document) (key : String) (value : Value) : Document :=
  if d.contains key then d else d.insert key value

/-- Inserts every field of another document, in its order. -/
def merge (d other : Document) : Document :=
  other.fields.foldl (fun d field => d.insert field.1 field.2) d

/-- The document that arises from inserting fields one after another. -/
def ofList (fields : List (String × Value)) : Document :=
  ⟨Fields.ofList fields⟩

end Document

namespace Value

/-- The document a value is, if it is one. -/
def asDocument? : Value → Option Document
  | .document d => some d
  | _ => none

def asString? : Value → Option String
  | .string s => some s
  | _ => none

def asBool? : Value → Option Bool
  | .boolean b => some b
  | _ => none

def asArray? : Value → Option (List Value)
  | .array items => some items
  | _ => none

def asObjectId? : Value → Option ObjectId
  | .objectId id => some id
  | _ => none

/-- The integer a value is, in 64 bits. -/
def asInt64? : Value → Option Int64
  | .int32 n => some n.toInt64
  | .int64 n => some n
  | _ => none

/-- The integer a value is, if 32 bits hold it. -/
def asInt32? : Value → Option Int32
  | .int32 n => some n
  | .int64 n =>
    if -2147483648 ≤ n.toInt ∧ n.toInt ≤ 2147483647 then some (Int32.ofInt n.toInt) else none
  | _ => none

/-- The number a value is, as a double. -/
def asDouble? : Value → Option Double
  | .int32 n => some (Double.ofInt32 n)
  | .int64 n => some (Double.ofInt64 n)
  | .double d => some d
  | _ => none

def isNull : Value → Bool
  | .null => true
  | _ => false

end Value

namespace Document

/-- The value at a list of names: the first in the document, each further one in the
    nested document found so far. -/
def getPath? (d : Document) : List String → Option Value
  | [] => none
  | [key] => d.get? key
  | key :: next :: rest =>
    match d.get? key with
    | some (.document inner) => inner.getPath? (next :: rest)
    | _ => none

/-- The value at a path of names with dots between. -/
def lookupPath? (d : Document) (path : String) : Option Value :=
  d.getPath? ((path.toList.splitOn '.').map String.ofList)

end Document

end DocumentMapper
