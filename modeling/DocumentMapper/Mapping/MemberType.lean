import DocumentMapper.Text.Quoted
import DocumentMapper.Value.Diagnostic

/-!
# Declared types of members

The type a member is declared with says how far a value stored under it has to be
interpreted. Only a class, or a list of values of a class at some depth, calls for a
class map; a value of any other type is stored as it is.

## Main definitions

* `MemberType`: The declared types.
* `MemberType.elementType`: What the items of a list are declared as.
* `MemberType.involvesClass`: Whether storing a value needs a class map.
-/

namespace DocumentMapper

/-- The declared type of a member. -/
inductive MemberType where
  /-- No expectation. -/
  | any
  /-- A scalar that is stored as it is. -/
  | native
  | objectId
  | uuid
  /-- A document that no class map interprets. -/
  | document
  | ofClass (name : String)
  | collection (element : MemberType)
deriving DecidableEq, Repr, Inhabited

namespace MemberType

/-- The type of the items of a list; without a collection there is no expectation. -/
def elementType : MemberType → MemberType
  | collection element => element
  | _ => any

/-- The class of a type that is one. -/
def className? : MemberType → Option String
  | ofClass name => some name
  | _ => none

/-- The class of the values of a type, also of the items of its lists. -/
def innermostClass? : MemberType → Option String
  | ofClass name => some name
  | collection element => element.innermostClass?
  | _ => none

/-- Whether values of the type are stored through a class map. -/
def involvesClass : MemberType → Bool
  | ofClass _ => true
  | collection element => element.involvesClass
  | _ => false

/-- The text of a type in messages. -/
def diagnostic : MemberType → String
  | any => "Any"
  | native => "Native"
  | objectId => "ObjectId"
  | uuid => "Uuid"
  | document => "Document"
  | ofClass name => formText "Class" (Quoted.text name)
  | collection element => formText "Collection" element.diagnostic

end MemberType

end DocumentMapper
