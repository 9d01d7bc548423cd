import DocumentMapper.Mapping.Instance

/-!
# What a field holds

A field of an entity holds values of one kind. Setting it extracts that kind from an
instance, or fails; reading it gives the extracted value back as an instance. A kind
also has the value a new entity starts with.

Entities nest: a field may hold an entity of a class, and a new entity then starts
with a new one of that class. A class whose fields hold itself in this way has no
finite start, so the depth of such a start is bounded by the number of classes.

## Main definitions

* `Scalar`, `FieldKind`: What a field may hold.
* `FieldKind.extract`: The value an instance leaves in a field.
* `RecordType`, `RecordType.create`: A class with its fields, and its new entities.
-/

namespace DocumentMapper

/-- A kind of single value. -/
inductive Scalar where
  | string | int32 | int64 | double | boolean | objectId | uuid | instant | document
  /-- Any stored value. -/
  | stored
deriving DecidableEq, Repr

namespace Scalar

/-- The name of a kind in messages. -/
def name : Scalar → String
  | string => "string"
  | int32 => "int32"
  | int64 => "int64"
  | double => "double"
  | boolean => "boolean"
  | objectId => "ObjectId"
  | uuid => "UUID"
  | instant => "date"
  | document => "document"
  | stored => "BSON value"

/-- The value of this kind that a stored value stands for. Integers widen to longer
    ones and to doubles, and narrow where they fit. -/
def convert? : Scalar → Value → Option Value
  | string, .string s => some (.string s)
  | int32, v => v.asInt32?.map .int32
  | int64, v => v.asInt64?.map .int64
  | double, v => v.asDouble?.map .double
  | boolean, .boolean b => some (.boolean b)
  | objectId, .objectId id => some (.objectId id)
  | uuid, .uuid u => some (.uuid u)
  | instant, .instant t => some (.instant t)
  | document, .document d => some (.document d)
  | stored, v => some v
  | _, _ => none

/-- The value a new entity starts with. -/
def initial : Scalar → Value
  | string => .string ""
  | int32 => .int32 0
  | int64 => .int64 0
  | double => .double .zero
  | boolean => .boolean false
  | objectId => .objectId default
  | uuid => .uuid default
  | instant => .instant .epoch
  | document => .document .empty
  | stored => .null

end Scalar

/-- What a field holds. -/
inductive FieldKind where
  | scalar (s : Scalar)
  /-- The kind, or nothing. -/
  | optional (k : FieldKind)
  | list (k : FieldKind)
  | entity (className : String)
  | optionalEntity (className : String)
  | entityList (className : String)
  /-- Whatever is given. -/
  | anything
deriving DecidableEq, Repr

mutual

/-- The stored value of an instance: a list of instances becomes a list of values,
    and an object has none. -/
def Instance.stored : Instance → Except MappingError Value
  | .null => .ok .null
  | .value v => .ok v
  | .array items => .array <$> storedItems items
  | .entity e => (Instance.entity e).mismatch Scalar.stored.name
  | .sample members => (Instance.sample members).mismatch Scalar.stored.name

/-- The stored values of a list of instances. -/
def storedItems : List Instance → Except MappingError (List Value)
  | [] => .ok []
  | i :: rest => do
    let v ← i.stored
    let vs ← storedItems rest
    return v :: vs

end

namespace Scalar

/-- The value of this kind that an instance holds. -/
def ofInstance (s : Scalar) (i : Instance) : Except MappingError Value :=
  match s with
  | stored => i.stored
  | _ => do
    let v ← match i with
      | .value v => pure v
      | .null => pure .null
      | other => other.mismatch s.name
    match s.convert? v with
    | some converted => return converted
    | none => .error (.typeMismatch s.name v.typeName)

end Scalar

namespace Instance

/-- The instance, if it is an entity of a class. -/
def entityOf (className : String) (i : Instance) : Except MappingError Instance :=
  match i with
  | .entity e => if e.className = className then .ok i else i.mismatch className
  | other => other.mismatch className

end Instance

namespace FieldKind

/-- What an instance leaves in a field of this kind. -/
def extract : FieldKind → Instance → Except MappingError Instance
  | scalar s, i => Instance.ofValue <$> s.ofInstance i
  | optional k, i => if i.isNull then .ok .null else k.extract i
  | list k, i => do
    let items ← i.items
    return .array (← items.mapM k.extract)
  | entity className, i => i.entityOf className
  | optionalEntity className, i => if i.isNull then .ok .null else i.entityOf className
  | entityList className, .array items => .array <$> items.mapM (·.entityOf className)
  | entityList _, _ => .ok (.array [])
  | anything, i => .ok i

end FieldKind

/-- A class with its fields. -/
structure RecordType where
  name : String
  fields : List (String × FieldKind)
deriving DecidableEq, Repr

namespace RecordType

/-- What a field of a new entity starts with, where entities of other classes are
    made by the given function. -/
def initial (create : String → Instance) : FieldKind → Instance
  | .scalar s => .ofValue s.initial
  | .list _ | .entityList _ => .array []
  | .entity className => create className
  | .optional _ | .optionalEntity _ | .anything => .null

/-- A new entity, with nested entities down to a depth. -/
def createWithin (types : List RecordType) : Nat → String → Instance
  | 0, _ => .null
  | depth + 1, name =>
    match types.find? (·.name = name) with
    | none => .null
    | some type =>
      .entity ⟨name, type.fields.map fun field =>
        (field.1, initial (createWithin types depth) field.2)⟩

/-- A new entity of a class. -/
def create (types : List RecordType) (type : RecordType) : Entity where
  className := type.name
  fields := type.fields.map fun field =>
    (field.1, initial (createWithin types types.length) field.2)

end RecordType

end DocumentMapper
