import DocumentMapper.Mapping.Store

/-!
# Materializing

Materializing turns a stored value of a declared type back into an instance. Where a
class is expected, the document says by its discriminator which class below the
expected one it holds; a new entity of that class receives each field that is stored
under a member's name, and the rest goes where the class keeps it.

## Main definitions

* `Store.resolve`: The class of a document.
* `Value.materialize`, `Document.materialize`: The instance of a stored value.
-/

namespace DocumentMapper

/-- The class of a document, read where a class is expected. -/
def Store.resolve (s : Store) (name : String) (d : Document) : Except MappingError ClassMap := do
  let c ← s.classMap name
  if !c.isPolymorphic then return c
  match d.get? c.discriminatorName with
  | none => return c
  | some stored =>
    match Discriminator.ofValue? stored with
    | none => throw (.unknownDiscriminator name stored.diagnostic)
    | some discriminator =>
      -- The class that was asked for is preferred to another one with the same tag.
      let tag := discriminator.concreteTag
      if c.discriminator.map Discriminator.concreteTag == some tag then return c
      else s.forDiscriminator name tag

namespace ClassMap

/-- Whether a stored name holds the discriminator. -/
def holdsDiscriminator (c : ClassMap) (name : String) : Bool :=
  c.isPolymorphic && name == c.discriminatorName

/-- The entity with the further fields of its document. -/
def setFurther (c : ClassMap) (further : Document) (e : Entity) : Except MappingError Entity :=
  match c.extension with
  | some extension => extension.set (.value (.document further)) e
  | none => .ok e

end ClassMap

mutual

/-- The instance of a stored value of a declared type. -/
def Value.materialize (s : Store) (v : Value) (type : MemberType) :
    Except MappingError Instance :=
  match v with
  | .null => .ok .null
  | .document d => d.materialize s type
  | .array items =>
    if type.involvesClass then .array <$> materializeItems s items type.elementType
    else .ok (.value (.array items))
  | other => .ok (.value other)

/-- The instance of a document of a declared type. -/
def Document.materialize (s : Store) (d : Document) (type : MemberType) :
    Except MappingError Instance :=
  match d with
  | ⟨fields⟩ =>
    match type with
    | .ofClass name => do
      let c ← s.resolve name ⟨fields⟩
      let fresh ← c.create
      let (e, further) ← materializeFields s c fields fresh .empty
      return .entity (← c.setFurther further e)
    | .collection _ => .error (.typeMismatch "array" "document")
    | _ => .ok (.value (.document ⟨fields⟩))

/-- The instances of a list of values. -/
def materializeItems (s : Store) :
    List Value → MemberType → Except MappingError (List Instance)
  | [], _ => .ok []
  | v :: rest, type => do
    let i ← v.materialize s type
    return i :: (← materializeItems s rest type)

/-- Sets the members that fields are stored under, and gathers the fields that are
    stored under no member's name. -/
def materializeFields (s : Store) (c : ClassMap) :
    List (String × Value) → Entity → Document → Except MappingError (Entity × Document)
  | [], e, further => .ok (e, further)
  | (name, v) :: rest, e, further =>
    if c.holdsDiscriminator name then materializeFields s c rest e further
    else
      match c.memberStoredAs? name with
      | some m => do
        let content ← v.materialize s m.type
        materializeFields s c rest (← m.set content e) further
      | none => materializeFields s c rest e (further.insert name v)

end

end DocumentMapper
