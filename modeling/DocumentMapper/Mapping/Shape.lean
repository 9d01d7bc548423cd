import DocumentMapper.Mapping.Store

/-!
# Shapes of objects

An object that is to be stored is one of four things: a document as it is, a document
whose names are member names of a class, an entity, or a sample. A shape is such an
object together with the class map it is stored through. It answers two questions:
under which names something is stored, in order, and what is stored under a name,
with the type it is declared as.

The contents of an object are a parameter. With instances as contents a shape shows
an object; with the lowerings of its parts as contents it is one layer of a recursion
over the object.

## Main definitions

* `Shape`: An object with its class map.
* `Content`: What is stored under a name.
* `Shape.propertyNames`, `Shape.property`: The two questions.
* `Instance.shape`: The shape of an instance.
-/

namespace DocumentMapper

/-- What is stored under a name: a part of the object, or a value that is stored as it
    is. -/
inductive Content (α : Type) where
  | part (a : α)
  | stored (v : Value)

/-- An object with the class map it is stored through. -/
inductive Shape (α : Type) where
  /-- A document as it is. -/
  | document (fields : List (String × α))
  /-- A document under the member names of a class. -/
  | mapped (c : ClassMap) (fields : List (String × α))
  /-- An entity with its further fields, which may fail to be read. -/
  | entity (c : ClassMap) (className : String) (fields : List (String × α))
    (further : Except MappingError Document)
  | sample (c : Option ClassMap) (members : List (String × α))

/-- The further fields of an entity that are stored beside its members. -/
def ClassMap.further (c : ClassMap) (e : Entity) : Except MappingError Document :=
  match c.extension with
  | none => .ok .empty
  | some extension => do
    match ← extension.get e with
    | .value (.document d) => return d
    | _ => return .empty

namespace Shape

variable {α : Type}

/-- The class map of a shape. -/
def classMap? : Shape α → Option ClassMap
  | document _ => none
  | mapped c _ => some c
  | entity c _ _ _ => some c
  | sample c _ => c

/-- The discriminator that is stored with the object. -/
def discriminator? (s : Shape α) : Option (String × Value) :=
  s.classMap?.bind ClassMap.persistedDiscriminator?

/-- The names that the parts of an object are stored under. -/
def partNames : Shape α → Except MappingError (List String)
  | document fields => .ok (fields.map Prod.fst)
  | mapped c fields => .ok (fields.map fun field => c.storedNameOf field.1)
  | entity c _ _ further => do
    let further ← further
    return c.allMembers.map Member.storedName ++ further.keys
  | sample none members => .ok (members.map Prod.fst)
  | sample (some c) members => .ok (members.map fun member => c.storedNameOf member.1)

/-- The names that something is stored under, in order: the discriminator first. A
    part that would be stored under the discriminator's name is left out. -/
def propertyNames (s : Shape α) : Except MappingError (List String) := do
  let names ← s.partNames
  match s.discriminator? with
  | none => return names
  | some (name, _) => return name :: names.filter (· != name)

/-- A part under a name, or the failure that there is none. -/
def partUnder (owner name : String) (type : MemberType) (fields : List (String × α)) :
    Except MappingError (MemberType × Content α) :=
  match fields.lookup name with
  | some a => .ok (type, .part a)
  | none => .error (.memberNotFound owner name)

/-- What the parts of an object have under a stored name, and as what it is declared. -/
def partProperty (name : String) : Shape α → Except MappingError (MemberType × Content α)
  | document fields => partUnder "document" name .any fields
  | mapped c fields =>
    match c.memberStoredAs? name with
    | some m =>
      match fields.lookup m.name with
      | some a => .ok (m.type, .part a)
      -- A member of the class that the document does not have is stored as null.
      | none => .ok (m.type, .stored .null)
    | none => partUnder c.name name .any fields
  | entity c className fields further =>
    match c.memberStoredAs? name with
    | some m => do
      m.check ⟨className, []⟩
      match fields.lookup m.name with
      | some a => return (m.type, .part a)
      | none => return (m.type, .stored .null)
    | none => do
      match (← further).get? name with
      | some v => return (.any, .stored v)
      | none => throw (.memberNotFound c.name name)
  | sample c members =>
    match c.bind (·.memberStoredAs? name) with
    | some m =>
      match members.lookup m.name with
      | some a => .ok (m.type, .part a)
      -- An example has to have a part for each of its names.
      | none => .error (.memberNotFound "example object" name)
    | none => partUnder "example object" name .any members

/-- What is stored under a name, and as what it is declared. -/
def property (name : String) (s : Shape α) : Except MappingError (MemberType × Content α) :=
  match s.discriminator? with
  | some (tagName, v) => if tagName = name then .ok (.native, .stored v) else s.partProperty name
  | none => s.partProperty name

end Shape

/-- The parts of a document as instances. -/
def Document.parts (d : Document) : List (String × Instance) :=
  d.fields.map fun field => (field.1, .ofValue field.2)

namespace Instance

/-- The instance that is stored under a name. -/
def ofContent : Content Instance → Instance
  | .part i => i
  | .stored v => .ofValue v

/-- The shape of an instance that is declared as a type. An entity is stored through
    the class map of its own class, so that what a subclass adds is stored too. -/
def shape (s : Store) (type : MemberType) : Instance → Except MappingError (Shape Instance)
  | .value (.document d) => do
    match ← s.classMapOf? type with
    | some c => return .mapped c d.parts
    | none => return .document d.parts
  | .entity e => do
    let c ← s.classMap e.className
    return .entity c e.className e.fields (c.further e)
  | .sample members => do return .sample (← s.classMapOf? type) members
  | other => other.mismatch "object"

end Instance

end DocumentMapper
