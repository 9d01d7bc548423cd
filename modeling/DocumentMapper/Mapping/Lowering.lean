import DocumentMapper.Mapping.Shape

/-!
# Lowering

Lowering turns an instance into the value that is stored for it. The declared type
travels down: a value of a type without a class is stored as it is, everything else is
lowered part by part, each against the type that its name is declared with.

An object is lowered in two steps. Its parts become lowerings that still wait for
their declared types, and the shape of the object, with these as its contents, says
which of them are applied to which type and under which names the results go.

## Main definitions

* `Lowering`: The lowering of a part.
* `Shape.lower`: The document of a shape.
* `Value.lower`, `Instance.lower`: The value that is stored.
* `Instance.toDocument`: The document of an object.
-/

namespace DocumentMapper

/-- The lowering of a part, which depends on its declared type. -/
abbrev Lowering : Type :=
  MemberType → Except MappingError Value

/-- The value of a content that is declared as a type. -/
def Content.lower (type : MemberType) : Content Lowering → Except MappingError Value
  | .part lowering => lowering type
  | .stored v => .ok v

/-- The value under a name. -/
def Shape.lowerProperty (s : Shape Lowering) (name : String) :
    Except MappingError (String × Value) := do
  let (type, content) ← s.property name
  return (name, ← content.lower type)

/-- The document of a shape: every name with its value. -/
def Shape.lower (s : Shape Lowering) : Except MappingError Document := do
  let names ← s.propertyNames
  return .ofList (← names.mapM s.lowerProperty)

/-- The document of a list of parts that is declared as a type. -/
def lowerFields (s : Store) (fields : List (String × Lowering)) (type : MemberType) :
    Except MappingError Document := do
  match ← s.classMapOf? type with
  | some c => (Shape.mapped c fields).lower
  | none => (Shape.document fields).lower

mutual

/-- The value that is stored for a stored value of a declared type. -/
def Value.lower (s : Store) (v : Value) (type : MemberType) : Except MappingError Value :=
  if type.involvesClass then
    match v with
    | .array items => .array <$> lowerValues s items type.elementType
    | .document d => .document <$> d.lower s type
    | other => .ok other
  else .ok v

/-- The document that is stored for a document of a declared type. -/
def Document.lower (s : Store) (d : Document) (type : MemberType) :
    Except MappingError Document :=
  match d with
  | ⟨fields⟩ => lowerFields s (valueLowerings s fields) type

/-- The values that are stored for a list of values. -/
def lowerValues (s : Store) : List Value → MemberType → Except MappingError (List Value)
  | [], _ => .ok []
  | v :: rest, type => do
    let lowered ← v.lower s type
    return lowered :: (← lowerValues s rest type)

/-- The lowerings of the fields of a document. -/
def valueLowerings (s : Store) : List (String × Value) → List (String × Lowering)
  | [] => []
  | (name, v) :: rest => (name, fun type => v.lower s type) :: valueLowerings s rest

end

/-- The document of the members of a sample that is declared as a type. -/
def lowerSample (s : Store) (members : List (String × Lowering)) (type : MemberType) :
    Except MappingError Document := do
  (Shape.sample (← s.classMapOf? type) members).lower

/-- The document of an entity, given the lowerings of its fields. -/
def lowerEntity (s : Store) (e : Entity) (fields : List (String × Lowering)) :
    Except MappingError Document := do
  let c ← s.classMap e.className
  (Shape.entity c e.className fields (c.further e)).lower

mutual

/-- The value that is stored for an instance of a declared type. -/
def Instance.lower (s : Store) (i : Instance) (type : MemberType) : Except MappingError Value :=
  match i with
  | .null => .ok .null
  | .value v => v.lower s type
  | .entity e => .document <$> e.lower s
  | .sample members => .document <$> lowerSample s (instanceLowerings s members) type
  | .array items => .array <$> lowerInstances s items type.elementType

/-- The document that is stored for an entity. -/
def Entity.lower (s : Store) (e : Entity) : Except MappingError Document :=
  match e with
  | ⟨className, fields⟩ => lowerEntity s ⟨className, fields⟩ (instanceLowerings s fields)

/-- The values that are stored for a list of instances. -/
def lowerInstances (s : Store) : List Instance → MemberType → Except MappingError (List Value)
  | [], _ => .ok []
  | i :: rest, type => do
    let lowered ← i.lower s type
    return lowered :: (← lowerInstances s rest type)

/-- The lowerings of named instances. -/
def instanceLowerings (s : Store) : List (String × Instance) → List (String × Lowering)
  | [] => []
  | (name, i) :: rest => (name, fun type => i.lower s type) :: instanceLowerings s rest

end

/-- The document that is stored for an object of a declared type. -/
def Instance.toDocument (s : Store) (i : Instance) (type : MemberType) :
    Except MappingError Document :=
  match i with
  | .value (.document d) => d.lower s type
  | .entity e => e.lower s
  | .sample members => lowerSample s (instanceLowerings s members) type
  | other => other.mismatch "object"

end DocumentMapper
