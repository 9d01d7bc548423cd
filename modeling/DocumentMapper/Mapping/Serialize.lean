import DocumentMapper.Mapping.Lowering
import DocumentMapper.Mapping.Materialize
import DocumentMapper.Wire.Reader
import DocumentMapper.Wire.Writer

/-!
# Serialization

Lowering followed by writing, and reading followed by materializing. An identity that
is not set is filled before an object is stored for the first time.

## Main definitions

* `Instance.serialize`, `Instance.deserialize`: The bytes of an object and the way back.
* `Store.collectionName`: The collection that objects of a type are kept in.
* `Instance.fillIdentity`: An object is given an identity in place.
* `Instance.ensureId`: An object with its identity filled.
-/

namespace DocumentMapper

/-- A failure of the byte format as a failure of mapping. -/
def ofCodec {α : Type} : Except CodecError α → Except MappingError α
  | .ok a => .ok a
  | .error e => .error (.codec e)

/-- The collection that objects of a type are kept in. Only classes have one. -/
def Store.collectionName (s : Store) : MemberType → Except MappingError String
  | .ofClass name => ClassMap.collectionName <$> s.classMap name
  | other => .error (.noCollection other)

namespace Instance

/-- The bytes of an object of a declared type. -/
def serialize (s : Store) (options : CodecOptions) (i : Instance) (type : MemberType) :
    Except MappingError (List UInt8) := do
  ofCodec ((← i.toDocument s type).encode options)

/-- The object of a declared type that bytes hold. -/
def deserialize (s : Store) (options : CodecOptions) (bytes : List UInt8) (type : MemberType) :
    Except MappingError Instance := do
  let (d, _) ← ofCodec (Document.decode bytes options)
  d.materialize s type

/-- Works on the entity that an object is, in place. -/
def onEntity (e : Entity) (action : ExceptT MappingError (StateM Entity) Unit) :
    ExceptT MappingError (StateM Instance) Unit := do
  let (outcome, after) := action.run.run e
  set (Instance.entity after)
  outcome

/-- Gives an entity an identity in place. One that is not set is taken from the supply,
    unless the class leaves that to the caller. -/
def fillEntity (s : Store) (supply : IdSupply) (e : Entity) :
    ExceptT MappingError (StateM Instance) Unit := do
  let c ← s.classMap e.className
  match c.identity with
  | none => return
  | some identity =>
    if !(← identity.get e).isNull then return
    match c.generator.generate supply with
    | none => return
    | some id => onEntity e (identity.assign (.value id))

/-- Gives an object an identity in place. A document without one receives an identifier as
    its first field. -/
def fillIdentity (s : Store) (supply : IdSupply) : ExceptT MappingError (StateM Instance) Unit := do
  match ← get with
  | .entity e => fillEntity s supply e
  | .value (.document d) =>
    if d.contains identityName then return
    let identified := Document.empty.insert identityName (.objectId supply.objectId)
    -- The fields are moved, which leaves an empty document behind until they are put back.
    set (Instance.value (.document .empty))
    set (Instance.value (.document (identified.merge d)))
  | _ => return

/-- The object after it was given an identity. -/
def ensureId (s : Store) (supply : IdSupply) (i : Instance) : Except MappingError Instance :=
  let (outcome, after) := (fillIdentity s supply).run.run i
  outcome.map fun _ => after

end Instance

end DocumentMapper
