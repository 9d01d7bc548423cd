import DocumentMapper.Mapping.Error

/-!
# Instances

What is stored or has been read: a stored value, a typed entity, a sample that lists
some members by name, or a list of any of these. The absence of a value has two
forms, `null` and the stored null, which count as the same for every question asked
here.

## Main definitions

* `Instance`, `Entity`: The data.
* `Instance.ofValue`: A stored value as an instance.
* `Instance.kind`: The name of an instance in messages.
* `Sample.insert`, `Sample.get?`: The operations of samples.
-/

namespace DocumentMapper

mutual

/-- What is stored or has been read. -/
inductive Instance where
  | null
  | value (v : Value)
  | entity (e : Entity)
  /-- Some members of an object, by name and in order. -/
  | sample (members : List (String × Instance))
  | array (items : List Instance)

/-- A typed object: the class it is made from and what its fields hold. -/
structure Entity where
  className : String
  fields : List (String × Instance)

end

instance : Inhabited Instance := ⟨.null⟩

instance : Inhabited Entity := ⟨⟨"", []⟩⟩

namespace Instance

/-- A stored value as an instance; the stored null becomes the absent one. -/
def ofValue : Value → Instance
  | .null => null
  | v => value v

def isNull : Instance → Bool
  | null => true
  | value v => v.isNull
  | _ => false

/-- Lists, whether of instances or of stored values. -/
def isArray : Instance → Bool
  | array _ | value (.array _) => true
  | _ => false

/-- What has named members: entities, samples and documents. -/
def isObject : Instance → Bool
  | entity _ | sample _ | value (.document _) => true
  | _ => false

/-- The name of an instance in messages. -/
def kind : Instance → String
  | null => "null"
  | value v => v.typeName
  | entity e => e.className
  | sample _ => "example object"
  | array _ => "array"

/-- The failure of an expectation on an instance. -/
def mismatch {α : Type} (i : Instance) (expected : String) : Except MappingError α :=
  .error (.typeMismatch expected i.kind)

/-- The items of a list. -/
def items : Instance → Except MappingError (List Instance)
  | array items => .ok items
  | value (.array items) => .ok (items.map ofValue)
  | other => other.mismatch "array"

end Instance

namespace Entity

/-- What a field holds. -/
def get? (e : Entity) (name : String) : Option Instance :=
  e.fields.lookup name

/-- The entity with a field replaced; a name that is no field changes nothing. -/
def set (e : Entity) (name : String) (content : Instance) : Entity where
  className := e.className
  fields := e.fields.map fun field => if field.1 = name then (name, content) else field

end Entity

namespace Sample

/-- Names a member: in the place of an earlier one of that name, or last. -/
def insert (name : String) (content : Instance) (members : List (String × Instance)) :
    List (String × Instance) :=
  Fields.insert name content members

def get? (name : String) (members : List (String × Instance)) : Option Instance :=
  members.lookup name

/-- The sample that arises from naming members one after another. -/
def ofList (members : List (String × Instance)) : List (String × Instance) :=
  Fields.ofList members

end Sample

end DocumentMapper
