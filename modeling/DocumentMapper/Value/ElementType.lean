import DocumentMapper.Value.Document

/-!
# Element types

Every stored value is announced by a tag of one signed byte. Seventeen forms have
a tag; one of them, the undefined value, is only read. A sixteen-byte identifier
shares its tag with the other binaries.

## Main definitions

* `ElementType`: The forms with a tag.
* `ElementType.tag`, `ElementType.ofTag?`: The tag and the way back.
* `Value.elementType`: The form of a value.

## Theorems

* `ofTag?_tag`: A form is found by its tag.
-/

namespace DocumentMapper

/-- A form of stored value. -/
inductive ElementType where
  | double | string | document | array | binary | undefined | objectId | boolean | instant | null
  | pattern | code | codeWithScope | int32 | int64 | minKey | maxKey
deriving DecidableEq, Repr

namespace ElementType

/-- The byte that announces a value of this form. -/
def tag : ElementType → Int8
  | double => 1
  | string => 2
  | document => 3
  | array => 4
  | binary => 5
  | undefined => 6
  | objectId => 7
  | boolean => 8
  | instant => 9
  | null => 10
  | pattern => 11
  | code => 13
  | codeWithScope => 15
  | int32 => 16
  | int64 => 18
  | minKey => -1
  | maxKey => 127

/-- All forms, in the order of their tags. -/
def all : List ElementType :=
  [minKey, double, string, document, array, binary, undefined, objectId, boolean, instant, null,
    pattern, code, codeWithScope, int32, int64, maxKey]

/-- The form that a byte announces. -/
def ofTag? (t : Int8) : Option ElementType :=
  all.find? (fun e => e.tag = t)

theorem ofTag?_tag (e : ElementType) : ofTag? e.tag = some e := by
  cases e <;> decide

/-- The name of a form in messages. -/
def name : ElementType → String
  | double => "Double"
  | string => "String"
  | document => "Document"
  | array => "Array"
  | binary => "Binary"
  | undefined => "Undefined"
  | objectId => "ObjectId"
  | boolean => "Boolean"
  | instant => "DateTime"
  | null => "Null"
  | pattern => "RegularExpression"
  | code => "JavaScriptCode"
  | codeWithScope => "JavaScriptCodeWithScope"
  | int32 => "Int32"
  | int64 => "Int64"
  | minKey => "MinKey"
  | maxKey => "MaxKey"

end ElementType

/-- The form of a value. -/
def Value.elementType : Value → ElementType
  | .double _ => .double
  | .string _ => .string
  | .document _ => .document
  | .array _ => .array
  | .binary _ => .binary
  | .uuid _ => .binary
  | .objectId _ => .objectId
  | .boolean _ => .boolean
  | .instant _ => .instant
  | .null => .null
  | .pattern _ => .pattern
  | .code _ => .code
  | .codeWithScope _ _ => .codeWithScope
  | .int32 _ => .int32
  | .int64 _ => .int64
  | .minKey => .minKey
  | .maxKey => .maxKey

/-- The name of the form of a value. -/
def Value.typeName (v : Value) : String :=
  v.elementType.name

end DocumentMapper
