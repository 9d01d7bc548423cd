import DocumentMapper.Data.Double
import DocumentMapper.Data.Instant

/-!
# Values and documents

A document is an ordered record: named fields whose order is part of its identity.
A value is a scalar, a document or a list of values. The two types are defined
together; everything computed from them is a recursion over both, over lists of
values and over lists of fields.

Equality comes in two strengths. `=` is identity, down to the bits of a double.
The Boolean `==` is what a comparison of stored values means: it is numeric on
doubles, so that the two zeros are equal and a NaN is equal to nothing, and looks
at the order of the fields.

## Main definitions

* `Value`, `Document`: The data.
* `Binary`, `ObjectId`, `Uuid`, `Pattern`: The scalars that are records themselves.
* `BinarySubtype.code`, `BinarySubtype.ofCode`: The byte of a subtype and the way back.
* `Value.equals`, `Document.equals`: Equality of stored values.
-/

namespace DocumentMapper

/-- What the bytes of a binary value are meant to be. Six meanings have a name, and users
    have others, each under a byte of their own choice. -/
inductive BinarySubtype where
  /-- Bytes without a further meaning; written with a second length. -/
  | general
  | function
  | binaryOld
  /-- Identifiers in the older byte order. -/
  | uuidOld
  | uuid
  | md5
  | userDefined (code : UInt8)
deriving DecidableEq, Inhabited

namespace BinarySubtype

/-- The byte that stands for a subtype. Users may have chosen one that has a name. -/
def code : BinarySubtype → UInt8
  | general => 0
  | function => 1
  | binaryOld => 2
  | uuidOld => 3
  | uuid => 4
  | md5 => 5
  | userDefined code => code

/-- The subtype that a byte stands for: the one that is named, or one of the users. -/
def ofCode : UInt8 → BinarySubtype
  | 0 => general
  | 1 => function
  | 2 => binaryOld
  | 3 => uuidOld
  | 4 => uuid
  | 5 => md5
  | code => userDefined code

theorem code_ofCode (code : UInt8) : (ofCode code).code = code := by
  unfold ofCode
  split <;> rfl

theorem ofCode_ne_general {code : UInt8} (h : code ≠ general.code) : ofCode code ≠ general := by
  intro hgeneral
  rw [← code_ofCode code, hgeneral] at h
  exact h rfl

end BinarySubtype

/-- Bytes with a subtype. -/
structure Binary where
  subtype : BinarySubtype
  bytes : List UInt8
deriving DecidableEq, Inhabited

/-- An identifier of twelve bytes: seconds, process and counter. -/
structure ObjectId where
  bytes : Vector UInt8 12
deriving DecidableEq

instance : Inhabited ObjectId := ⟨⟨Vector.replicate 12 0⟩⟩

/-- An identifier of sixteen bytes, in the order of its text. -/
structure Uuid where
  bytes : Vector UInt8 16
deriving DecidableEq

instance : Inhabited Uuid := ⟨⟨Vector.replicate 16 0⟩⟩

/-- A regular expression as it is stored. -/
structure Pattern where
  source : String
  options : String
deriving DecidableEq, Inhabited

mutual

/-- A stored value. -/
inductive Value where
  | double (d : Double)
  | string (s : String)
  | document (d : Document)
  | array (items : List Value)
  | binary (b : Binary)
  | uuid (u : Uuid)
  | objectId (id : ObjectId)
  | boolean (b : Bool)
  | instant (t : Instant)
  | null
  | pattern (p : Pattern)
  | code (source : String)
  | codeWithScope (source : String) (scope : Document)
  | int32 (n : Int32)
  | int64 (n : Int64)
  | minKey
  | maxKey

/-- A document: its fields in order. -/
structure Document where
  fields : List (String × Value)

end

instance : Inhabited Value := ⟨.null⟩

instance : Inhabited Document := ⟨⟨[]⟩⟩

mutual

/-- Equality of stored values: numeric on doubles, and in order on documents. Values
    of two forms are different, also where they stand for one number. -/
def Value.equals : Value → Value → Bool
  | .double a, .double b => a.equals b
  | .string a, .string b => a = b
  | .document a, .document b => a.equals b
  | .array a, .array b => itemsEqual a b
  | .binary a, .binary b => a = b
  | .uuid a, .uuid b => a = b
  | .objectId a, .objectId b => a = b
  | .boolean a, .boolean b => a = b
  | .instant a, .instant b => a = b
  | .null, .null => true
  | .pattern a, .pattern b => a = b
  | .code a, .code b => a = b
  | .codeWithScope a s, .codeWithScope b t => a = b && s.equals t
  | .int32 a, .int32 b => a = b
  | .int64 a, .int64 b => a = b
  | .minKey, .minKey => true
  | .maxKey, .maxKey => true
  | _, _ => false

/-- Equality of documents: the same names with equal values in the same order. -/
def Document.equals : Document → Document → Bool
  | ⟨a⟩, ⟨b⟩ => fieldsEqual a b

/-- Equality of lists of values, item by item. -/
def itemsEqual : List Value → List Value → Bool
  | [], [] => true
  | a :: as, b :: bs => a.equals b && itemsEqual as bs
  | _, _ => false

/-- Equality of lists of fields, field by field. -/
def fieldsEqual : List (String × Value) → List (String × Value) → Bool
  | [], [] => true
  | (k, a) :: as, (l, b) :: bs => k = l && a.equals b && fieldsEqual as bs
  | _, _ => false

end

instance : BEq Value := ⟨Value.equals⟩

instance : BEq Document := ⟨Document.equals⟩

end DocumentMapper
