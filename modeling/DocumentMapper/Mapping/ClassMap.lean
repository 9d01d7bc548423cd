import DocumentMapper.Mapping.Discriminator
import DocumentMapper.Mapping.FieldKind

/-!
# Class maps

A class map says how the entities of a class are stored: under which name each member
goes, which member is the identity, where the rest of a document is kept, and how
documents of the class are told from those of its subclasses.

A member reads and sets a field of the class that declares it. An entity of another
class, even of a subclass, is refused; a subclass that is stored through an inherited
member declares that member again.

## Main definitions

* `Member`: A member with its accessors `Member.get` and `Member.set`.
* `ClassMap`: What is known of a class.
* `ClassMap.abstractType`, `ClassMap.concrete`: What a class map is built up from.
* `ClassMap.allMembers`: The members in the order of storage.
* `IdGenerator`: How an identity that is not set comes about.
-/

namespace DocumentMapper

/-- The stored name of every identity. -/
def identityName : String :=
  "_id"

/-- A stored member of a class. -/
structure Member where
  name : String
  storedName : String
  type : MemberType
  /-- The class whose entities have the field. -/
  owner : String
  kind : FieldKind
deriving DecidableEq, Repr

namespace Member

/-- The member under another stored name. -/
def withStoredName (m : Member) (name : String) : Member :=
  { m with storedName := name }

/-- The member as an identity, which has its own stored name. -/
def asIdentity (m : Member) : Member :=
  m.withStoredName identityName

/-- Only entities of the owner have the field. -/
def check (m : Member) (e : Entity) : Except MappingError Unit :=
  if e.className = m.owner then .ok () else .error (.typeMismatch m.owner e.className)

/-- What the member holds. -/
def get (m : Member) (e : Entity) : Except MappingError Instance := do
  m.check e
  return (e.get? m.name).getD .null

/-- The entity with what an instance leaves in the member. -/
def set (m : Member) (content : Instance) (e : Entity) : Except MappingError Entity := do
  m.check e
  return e.set m.name (← m.kind.extract content)

/-- Sets the member of an entity in place. -/
def assign (m : Member) (content : Instance) : ExceptT MappingError (StateM Entity) Unit := do
  m.check (← getThe Entity)
  let extracted ← m.kind.extract content
  modify (·.set m.name extracted)

end Member

/-- How an identity that is not set comes about. -/
inductive IdGenerator where
  | objectId
  | uuid
  /-- It is left to the caller. -/
  | assigned
deriving DecidableEq, Repr

/-- Identifiers that have not been used, one of each form. -/
structure IdSupply where
  objectId : ObjectId
  uuid : Uuid

namespace IdGenerator

/-- The generator for an identity of a declared type. -/
def ofMemberType : MemberType → IdGenerator
  | .objectId => objectId
  | .uuid => uuid
  | _ => assigned

/-- The identity that a generator takes from a supply. -/
def generate (supply : IdSupply) : IdGenerator → Option Value
  | objectId => some (.objectId supply.objectId)
  | uuid => some (.uuid supply.uuid)
  | assigned => none

end IdGenerator

/-- What is known of a class. -/
structure ClassMap where
  name : String
  base : Option String
  /-- The collection that the class names itself, or has inherited. -/
  ownCollection : Option String
  identity : Option Member
  ownGenerator : Option IdGenerator
  members : List Member
  /-- Where the fields of a document go that are stored under no member's name. -/
  extension : Option Member
  discriminator : Option Discriminator
  ownDiscriminatorName : Option String
  /-- Whether the class has a base or subclasses. -/
  isPolymorphic : Bool
  /-- A new entity; an abstract class has none. -/
  prototype : Option Entity

namespace ClassMap

/-- A class that has no entities, before anything else is said of it. -/
def abstractType (name : String) : ClassMap where
  name := name
  base := none
  ownCollection := none
  identity := none
  ownGenerator := none
  members := []
  extension := none
  discriminator := none
  ownDiscriminatorName := none
  isPolymorphic := false
  prototype := none

/-- A class with the entity that each new one is a copy of. -/
def concrete (name : String) (fresh : Entity) : ClassMap :=
  { abstractType name with prototype := some fresh }

def collectionName (c : ClassMap) : String :=
  c.ownCollection.getD c.name

/-- The generator of identities: the declared one, or that of the identity's type. -/
def generator (c : ClassMap) : IdGenerator :=
  match c.ownGenerator, c.identity with
  | some generator, _ => generator
  | none, some identity => .ofMemberType identity.type
  | none, none => .assigned

/-- The members in the order of storage: the identity first. -/
def allMembers (c : ClassMap) : List Member :=
  c.identity.toList ++ c.members

/-- The member under a stored name. -/
def memberStoredAs? (c : ClassMap) (name : String) : Option Member :=
  c.allMembers.find? (·.storedName = name)

/-- The member of a name. -/
def memberNamed? (c : ClassMap) (name : String) : Option Member :=
  c.allMembers.find? (·.name = name)

/-- The stored name of what is called by a member's name; other names stay. -/
def storedNameOf (c : ClassMap) (name : String) : String :=
  ((c.memberNamed? name).map Member.storedName).getD name

def discriminatorName (c : ClassMap) : String :=
  c.ownDiscriminatorName.getD "_t"

/-- Whether documents of the class carry its discriminator. -/
def persistsDiscriminator (c : ClassMap) : Bool :=
  c.isPolymorphic && c.discriminator.isSome

/-- The name and value of the discriminator that documents of the class carry. -/
def persistedDiscriminator? (c : ClassMap) : Option (String × Value) :=
  if c.isPolymorphic then c.discriminator.map fun d => (c.discriminatorName, d.toValue) else none

def isAbstract (c : ClassMap) : Bool :=
  c.prototype.isNone

/-- A new entity of the class. -/
def create (c : ClassMap) : Except MappingError Entity :=
  match c.prototype with
  | some entity => .ok entity
  | none => .error (.abstractType c.name)

end ClassMap

end DocumentMapper
