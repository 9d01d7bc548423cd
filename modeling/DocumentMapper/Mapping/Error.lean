import DocumentMapper.Mapping.MemberType
import DocumentMapper.Wire.Error

/-!
# Errors of mapping

Why an instance cannot be lowered to a document, a document not be materialized, or
a list of class maps not be made a store.

## Main definitions

* `MappingError`: The causes.
* `MappingError.message`: Their wording.
-/

namespace DocumentMapper

/-- Why a mapping fails. -/
inductive MappingError where
  | classNotFound (name : String)
  /-- A tag that no class below the expected one carries; the tag is the text that
      was stored, or the diagnostic text of a value that is no tag. -/
  | unknownDiscriminator (base tag : String)
  | memberNotFound (owner name : String)
  | typeMismatch (expected found : String)
  | abstractType (name : String)
  | inheritanceCycle (name : String)
  | noCollection (type : MemberType)
  | codec (cause : CodecError)
deriving DecidableEq, Repr

/-- The wording of a cause. -/
def MappingError.message : MappingError → String
  | classNotFound name => s!"no class map registered for type {name}"
  | unknownDiscriminator base tag =>
    s!"discriminator {Quoted.text tag} does not name {base} or one of its subclasses"
  | memberNotFound owner name => s!"type {owner} has no member {name}"
  | typeMismatch expected found => s!"type mismatch: expected {expected}, found {found}"
  | abstractType name => s!"{name} is abstract and cannot be instantiated"
  | inheritanceCycle name => s!"unsupported value: inheritance cycle through {name}"
  | noCollection type => s!"unsupported value: {type.diagnostic} values have no collection"
  | codec cause => cause.message

end DocumentMapper
