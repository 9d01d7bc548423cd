import DocumentMapper.Value.ElementType

/-!
# Encoded sizes

Every length in the format stands before what it measures, so the size of a value
is computed before its bytes are. The size of a document counts its four-byte
length and its terminator; an array is a document whose names are the decimal
places of its items.

## Main definitions

* `Value.encodedSize`: The size of a value without its tag and name.
* `Document.encodedSize`: The size of a document.
* `decimalLength`: The number of decimal digits.
-/

namespace DocumentMapper

/-- The number of decimal digits of a number. -/
def decimalLength (n : Nat) : Nat :=
  if n < 10 then 1 else decimalLength (n / 10) + 1
termination_by n
decreasing_by omega

/-- The size of a binary: its length, its subtype, and for general bytes a second
    length. -/
def Binary.encodedSize (b : Binary) : Nat :=
  if b.subtype = .general then 4 + 1 + 4 + b.bytes.length else 4 + 1 + b.bytes.length

/-- The size of a text with its length and its terminator. -/
def textSize (s : String) : Nat :=
  4 + s.utf8ByteSize + 1

mutual

/-- The size of a value without its tag and name. -/
def Value.encodedSize : Value → Nat
  | .null => 0
  | .minKey => 0
  | .maxKey => 0
  | .boolean _ => 1
  | .int32 _ => 4
  | .int64 _ => 8
  | .double _ => 8
  | .instant _ => 8
  | .objectId _ => 12
  | .string s => textSize s
  | .code source => textSize source
  | .document d => d.encodedSize
  | .array items => 4 + itemsSize 0 items + 1
  | .pattern p => p.source.utf8ByteSize + 1 + p.options.utf8ByteSize + 1
  | .codeWithScope source scope => 4 + textSize source + scope.encodedSize
  | .uuid _ => 4 + 1 + 16
  | .binary b => b.encodedSize

/-- The size of a document with its length and its terminator. -/
def Document.encodedSize : Document → Nat
  | ⟨fields⟩ => 4 + fieldsSize fields + 1

/-- The size of items that stand at a place and after it, with tags and names. -/
def itemsSize (index : Nat) : List Value → Nat
  | [] => 0
  | v :: rest => 1 + decimalLength index + 1 + v.encodedSize + itemsSize (index + 1) rest

/-- The size of fields with tags and names. -/
def fieldsSize : List (String × Value) → Nat
  | [] => 0
  | (key, v) :: rest => 1 + key.utf8ByteSize + 1 + v.encodedSize + fieldsSize rest

end

end DocumentMapper
