import DocumentMapper.Proofs.Wire.Emission

/-!
# Framed bytes

Every length in the format stands before the bytes it counts, and whoever reads the
format relies on it to find the end of what follows. So what the lengths promise is said
here of the bytes alone, without the values they come from: `DocumentFrame`,
`FieldsFrame` and `ValueFrame` are a grammar of the format in which a length may stand
only where it is the number of the bytes it covers. The grammar does not mention how
sizes are computed beforehand. The tag of a field says which rule its value follows and
a name ends with the first zero byte, so that bytes can be cut in one way only, and every
length in them is one that the grammar speaks of.

Which bytes a length covers depends on the form. That of a document, a list or code with
a scope covers itself as well, that of a text counts the zero byte after it, and general
bytes have two lengths, of which the outer one covers the inner one too.

## Main definitions

* `Announces`: Four bytes that stand for a number of bytes.
* `ElementType.width?`: The forms whose bytes are always as many.
* `TextFrame`, `DocumentFrame`, `FieldsFrame`, `ValueFrame`: The grammar.

## Theorems

* `announces_encode`: A length as it is written.
-/

namespace DocumentMapper

/-- Four bytes that are read as a number of bytes. -/
structure Announces (lead : List UInt8) (count : Nat) : Prop where
  width : lead.length = 4
  value : (LittleEndian.toInt32 lead).toInt = count

theorem announces_encode {n : Nat} (h : n ≤ 2147483647) :
    Announces (LittleEndian.encode 4 n) n where
  width := LittleEndian.length_encode 4 n
  value := LittleEndian.toInt32_encode h

/-- The number of bytes of a value of this form, if all have as many. -/
def ElementType.width? : ElementType → Option Nat
  | .null | .undefined | .minKey | .maxKey => some 0
  | .boolean => some 1
  | .int32 => some 4
  | .int64 | .double | .instant => some 8
  | .objectId => some 12
  | _ => none

/-- The bytes of a text: a length, and as many bytes, the last of them zero. -/
inductive TextFrame : List UInt8 → Prop where
  | mk {lead body : List UInt8} (length : Announces lead (body ++ [0]).length) :
      TextFrame (lead ++ (body ++ [0]))

mutual

/-- The bytes of a document: a length that covers all of them, fields, and a zero byte. -/
inductive DocumentFrame : List UInt8 → Prop where
  | mk {lead body : List UInt8} (length : Announces lead (lead ++ (body ++ [0])).length)
      (fields : FieldsFrame body) : DocumentFrame (lead ++ (body ++ [0]))

/-- The bytes of fields: for each a tag, a name with a zero byte, and a value. -/
inductive FieldsFrame : List UInt8 → Prop where
  | nil : FieldsFrame []
  | cons {type : ElementType} {name value rest : List UInt8} (nulFree : 0 ∉ name)
      (valueFrame : ValueFrame type value) (restFrame : FieldsFrame rest) :
      FieldsFrame (type.tag.toUInt8 :: ((name ++ [0]) ++ (value ++ rest)))

/-- The bytes of a value of some form, without its tag and name. -/
inductive ValueFrame : ElementType → List UInt8 → Prop where
  | fixed {type : ElementType} {bytes : List UInt8} (width : type.width? = some bytes.length) :
      ValueFrame type bytes
  | text {type : ElementType} {bytes : List UInt8} (form : type = .string ∨ type = .code)
      (text : TextFrame bytes) : ValueFrame type bytes
  | pattern {source options : List UInt8} (source_nulFree : 0 ∉ source)
      (options_nulFree : 0 ∉ options) : ValueFrame .pattern ((source ++ [0]) ++ (options ++ [0]))
  | nested {type : ElementType} {bytes : List UInt8} (form : type = .document ∨ type = .array)
      (document : DocumentFrame bytes) : ValueFrame type bytes
  /-- The length covers itself, the code and its scope. -/
  | codeWithScope {lead source scope : List UInt8}
      (length : Announces lead (lead ++ (source ++ scope)).length)
      (sourceFrame : TextFrame source) (scopeFrame : DocumentFrame scope) :
      ValueFrame .codeWithScope (lead ++ (source ++ scope))
  | binary {lead payload : List UInt8} {subtype : UInt8}
      (special : subtype ≠ BinarySubtype.general.code)
      (length : Announces lead payload.length) :
      ValueFrame .binary (lead ++ ([subtype] ++ payload))
  /-- The outer length covers the inner one and the bytes that this one covers. -/
  | generalBinary {outer inner payload : List UInt8}
      (outer_length : Announces outer (inner ++ payload).length)
      (inner_length : Announces inner payload.length) :
      ValueFrame .binary (outer ++ ([BinarySubtype.general.code] ++ (inner ++ payload)))

end

end DocumentMapper
