import DocumentMapper.Mapping.ClassMap

/-!
# The store of class maps

A store is built from a list of class maps, each of which may name a base. Building
follows every class up to its root, refuses a base that is not in the list and a
class that is its own ancestor, and then completes the maps from the roots down: a
class receives what its base has and it has not declared itself, and every class of a
hierarchy gets a discriminator.

The order of the list does not matter, except that of two maps with one name the later
one counts. The maps are completed in the order of their depth, and by name where the
depth is the same, so of two classes with one tag the later in this order is found.

## Main definitions

* `ancestry`: The classes from the root down to a class.
* `ClassMap.inherit`: A class map with what its base adds.
* `Store.build`: The store of a list of class maps.
* `Store.classMap`, `Store.forDiscriminator`, `Store.isAssignable`: The questions.
-/

namespace DocumentMapper

/-- The class map of a name in a list. -/
def findClass? (maps : List ClassMap) (name : String) : Option ClassMap :=
  maps.find? (·.name = name)

/-- Of maps with one name the last. -/
def latest : List ClassMap → List ClassMap
  | [] => []
  | c :: rest => if (findClass? rest c.name).isSome then latest rest else c :: latest rest

/-- Extends a lineage upwards, the root first: `c` is its first class. Every step adds
    a new name of the list, so its length bounds the number of steps. -/
def ancestryWithin (maps : List ClassMap) :
    Nat → ClassMap → List String → Except MappingError (List String)
  | 0, c, _ => .error (.inheritanceCycle c.name)
  | steps + 1, c, lineage =>
    match c.base with
    | none => .ok lineage
    | some base =>
      if base ∈ lineage then .error (.inheritanceCycle base)
      else
        match findClass? maps base with
        | none => .error (.classNotFound base)
        | some b => ancestryWithin maps steps b (base :: lineage)

/-- The names from the root of the hierarchy down to a class. -/
def ancestry (maps : List ClassMap) (c : ClassMap) : Except MappingError (List String) :=
  ancestryWithin maps (maps.length + 1) c [c.name]

namespace ClassMap

/-- The base's members with those that a class declares again in their places, under
    the base's stored names, and then the class's further members. -/
def inheritMembers (base own : List Member) : List Member :=
  let redeclared := base.map fun b =>
    match own.find? (·.name = b.name) with
    | some m => m.withStoredName b.storedName
    | none => b
  redeclared ++ own.filter fun m => base.all fun b => b.name != m.name

/-- A class map with what its base has and it has not declared itself. An inherited
    identity brings its generator along. -/
def inherit (c base : ClassMap) : ClassMap where
  name := c.name
  base := c.base
  ownCollection := c.ownCollection.orElse fun _ => some base.collectionName
  identity := c.identity.orElse fun _ => base.identity
  ownGenerator :=
    -- The generator comes with the identity: a class with its own identity does not inherit one.
    if c.identity.isNone then c.ownGenerator.orElse fun _ => base.ownGenerator else c.ownGenerator
  members := inheritMembers base.members c.members
  extension := c.extension.orElse fun _ => base.extension
  discriminator := c.discriminator
  ownDiscriminatorName := c.ownDiscriminatorName.orElse fun _ => base.ownDiscriminatorName
  isPolymorphic := c.isPolymorphic
  prototype := c.prototype

/-- The place of a class: whether it belongs to a hierarchy, and the discriminator it
    then has if it declares none. -/
def place (c : ClassMap) (lineage : List String) (isBase : Bool) : ClassMap :=
  let isPolymorphic := lineage.length > 1 || isBase
  { c with
    isPolymorphic := isPolymorphic
    discriminator :=
      if isPolymorphic then
        c.discriminator.orElse fun _ => Discriminator.ofLineage c.isAbstract lineage
      else c.discriminator }

end ClassMap

/-- A class that has a place in a store: its completed map and its root. -/
structure Placed where
  map : ClassMap
  root : String

/-- Class maps with inheritance resolved, in the order they were completed. -/
structure Store where
  classes : List Placed

namespace Store

/-- The store without classes. -/
def empty : Store :=
  ⟨[]⟩

def size (s : Store) : Nat :=
  s.classes.length

def isEmpty (s : Store) : Bool :=
  s.classes.isEmpty

/-- The class of a name with its place. -/
def placed? (s : Store) (name : String) : Option Placed :=
  s.classes.find? (·.map.name = name)

def find? (s : Store) (name : String) : Option ClassMap :=
  (s.placed? name).map Placed.map

/-- The class map of a name. -/
def classMap (s : Store) (name : String) : Except MappingError ClassMap :=
  match s.find? name with
  | some c => .ok c
  | none => .error (.classNotFound name)

/-- The class map of a type, if it is a class. -/
def classMapOf? (s : Store) (type : MemberType) : Except MappingError (Option ClassMap) :=
  match type with
  | .ofClass name => some <$> s.classMap name
  | _ => .ok none

/-- Completes a class whose base is in the store, and adds it. -/
def place (s : Store) (c : ClassMap) (lineage : List String) (isBase : Bool) : Store :=
  let c :=
    match c.base.bind s.find? with
    | some base => c.inherit base
    | none => c
  ⟨s.classes ++ [⟨c.place lineage isBase, lineage.headD c.name⟩]⟩

/-- Shallow classes come first, and classes of one depth by name. -/
def precedes (a b : ClassMap × List String) : Bool :=
  a.2.length < b.2.length || (a.2.length == b.2.length && decide (a.1.name ≤ b.1.name))

/-- The store of a list of class maps. -/
def build (maps : List ClassMap) : Except MappingError Store := do
  let maps := latest maps
  let lineages ← maps.mapM fun c => do return (c, ← ancestry maps c)
  let bases := maps.filterMap ClassMap.base
  return (lineages.mergeSort precedes).foldl
    (fun s entry => s.place entry.1 entry.2 (bases.contains entry.1.name)) empty

/-- A class and its bases upwards, as far as they are in the store. -/
def lineageWithin (s : Store) : Nat → String → List String
  | 0, _ => []
  | steps + 1, name =>
    name :: match (s.find? name).bind ClassMap.base with
      | some base => s.lineageWithin steps base
      | none => []

/-- A class and its bases upwards. -/
def lineage (s : Store) (name : String) : List String :=
  s.lineageWithin (s.size + 1) name

/-- Whether a class is another one or inherits from it. -/
def isAssignable (s : Store) (base derived : String) : Bool :=
  (s.lineage derived).contains base

/-- The class of a hierarchy that a tag names; of two the one completed last. -/
def tagged? (s : Store) (root tag : String) : Option ClassMap :=
  let carries (p : Placed) : Bool :=
    p.root == root && p.map.discriminator.map Discriminator.concreteTag == some tag
  (s.classes.reverse.find? carries).map Placed.map

/-- The class that a tag names, read where a class is expected: that class itself or
    one below it. -/
def forDiscriminator (s : Store) (base tag : String) : Except MappingError ClassMap :=
  let found := (s.placed? base).bind fun p => s.tagged? p.root tag
  match found with
  | some c => if s.isAssignable base c.name then .ok c else .error (.unknownDiscriminator base tag)
  | none => .error (.unknownDiscriminator base tag)

end Store

end DocumentMapper
