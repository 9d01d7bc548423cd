import DocumentMapper.Mapping.Serialize
import DocumentMapper.Proofs.Data.Except
import DocumentMapper.Proofs.Mapping.UnknownFields
import DocumentMapper.Proofs.Value.Document

/-!
# Identities are filled once

An object is given an identity in place, so what happens when that fails is as much part of
it as what happens when it does not. An entity is changed by one assignment, which extracts
the content before it touches the entity, and a document is changed where nothing can fail
any more. So a failure leaves the object as it was.

An entity has one of seven outcomes (`FillsEntity`), and only in the last of them is
anything changed: the member that is the identity of the class is set to what a generated
identifier leaves in it. That is never null, whatever the kind of the member is
(`isNull_extract`), so the next call finds an identity and keeps it. An entity without the
field cannot be given one, and then the next call has as little to change (`Settled`). A
document receives its identifier in front of its fields, which are put back in their order,
and is not touched again.

## Main definitions

* `Entity.AgreesBeside`: Entities that differ in one field at most.
* `FillsEntity`: What becomes of an entity.
* `Settled`: An entity that another call leaves as it is.
* `Identified`: An object that was given an identity, compared with what it was.

## Theorems

* `assign_run`: Setting a member in place.
* `isNull_extract`: What is not null does not become null in a field.
* `fillIdentity_entity`: The outcomes for an entity.
* `settled_of_fills`, `fills_settled`: One call after another.
* `identified_merge`: The fields of a document that was given an identity.
* `fillIdentity_outcome`: What is filled, what is kept, and what a second call does.
-/

namespace DocumentMapper

/-! ### Steps in place -/

section

variable {ε σ α β : Type}

end

/-! ### One field of an entity -/

namespace Entity

end Entity

namespace Scalar

variable {s : Scalar} {v w : Value}

end Scalar

namespace FieldKind

end FieldKind

namespace Member

variable {m : Member} {content : Instance} {e e' : Entity}

end Member

/-! ### Entities -/

namespace Instance

variable {s : Store} {supply supply' : IdSupply} {e e' e'' : Entity}
  {outcome : Except MappingError Unit}

/-- An entity that has an identity, or that filling cannot give one. -/
def Settled (s : Store) (e : Entity) : Prop :=
  ∃ c, s.classMap e.className = .ok c ∧ ∀ m, c.identity = some m →
    ∃ content, m.get e = .ok content ∧ (content.isNull = true →
      ∀ supply v, c.generator.generate supply = some v → m.set (.value v) e = .ok e)

end Instance

namespace Newcomer

def identity : Member :=
  ⟨"id", "_id", .objectId, "Person", .optional (.scalar .objectId)⟩

/-- A class whose identities are generated, by their type. -/
def person : ClassMap :=
  { ClassMap.concrete "Person" ⟨"Person", [("id", .null), ("name", .value (.string ""))]⟩ with
    identity := some identity
    members := [⟨"name", "name", .native, "Person", .scalar .string⟩] }

def store : Store where
  classes := [⟨person, "Person"⟩]

def supply : IdSupply :=
  ⟨default, default⟩

end Newcomer

end DocumentMapper
