import DocumentMapper.Text.Utf8
import DocumentMapper.Wire.Error
import DocumentMapper.Wire.LittleEndian
import DocumentMapper.Wire.Options
import DocumentMapper.Wire.Size

/-!
# Writing documents

Writing may fail in the middle, and the bytes written before the failure have left
already. So what writing a value amounts to is an `Emission`: the bytes, and how it
ended. Emissions follow one another like texts, except that nothing follows a
failure.

A document is written by its size, its fields and a zero byte; a field by the tag of
its value, its name up to a zero byte, and the value.

## Main definitions

* `Emission`: Bytes written and how the writing ended.
* `Emission.andThen`: One emission after another.
* `Value.emit`, `Document.emit`: What writing a value or a document emits.
* `Document.write`: Writing a whole document under a size limit.
* `Document.encode`: The bytes of a document, if it can be written.
* `Value.writeTo`, `Document.writeTo`: Writing to a sink that holds bytes already.
-/

namespace DocumentMapper

/-- Bytes that were written, and the failure that ended the writing, if one did. -/
structure Emission where
  bytes : List UInt8
  failure : Option CodecError
deriving DecidableEq

namespace Emission

/-- Writing that emits these bytes. -/
def ofBytes (bytes : List UInt8) : Emission :=
  ⟨bytes, none⟩

/-- Nothing to write. -/
def nothing : Emission :=
  ofBytes []

/-- Writing that fails at once. -/
def fail (e : CodecError) : Emission :=
  ⟨[], some e⟩

/-- One emission after another; after a failure nothing follows. -/
def andThen (first second : Emission) : Emission :=
  match first.failure with
  | some e => ⟨first.bytes, some e⟩
  | none => ⟨first.bytes ++ second.bytes, second.failure⟩

instance : Append Emission := ⟨andThen⟩

end Emission

namespace Emit

/-- A length in four bytes. -/
def length (n : Nat) : Emission :=
  if n ≤ 2147483647 then .ofBytes (LittleEndian.encode 4 n)
  else .fail (.malformed (.lengthOverflow n))

/-- A name or pattern: its bytes and a zero byte. It must not hold one itself. -/
def key (s : String) : Emission :=
  let bytes := Utf8.encode s
  if bytes.contains 0 then .fail (.invalidKey s) else .ofBytes (bytes ++ [0])

/-- A text: its length with the zero byte that follows it, and both. -/
def text (s : String) : Emission :=
  length (s.utf8ByteSize + 1) ++ .ofBytes (Utf8.encode s ++ [0])

/-- The tag of a value. -/
def tag (v : Value) : Emission :=
  .ofBytes [v.elementType.tag.toUInt8]

/-- A binary: its length, its subtype and its bytes. General bytes have their own
    length inside the first one. -/
def binary (b : Binary) : Emission :=
  if b.isStoredUuid then .fail (.malformed .ambiguousUuid)
  else if b.subtype = .general then
    length (b.bytes.length + 4) ++ .ofBytes [b.subtype.code] ++ length b.bytes.length
      ++ .ofBytes b.bytes
  else length b.bytes.length ++ .ofBytes [b.subtype.code] ++ .ofBytes b.bytes

/-- An identifier of sixteen bytes, as a binary in storage order. -/
def uuid (u : Uuid) : Emission :=
  length 16 ++ .ofBytes [BinarySubtype.uuidOld.code] ++ .ofBytes u.storedBytes

end Emit

mutual

/-- What writing a value emits, without its tag and name. -/
def Value.emit : Value → Emission
  | .null => .nothing
  | .minKey => .nothing
  | .maxKey => .nothing
  | .boolean b => .ofBytes [if b then 1 else 0]
  | .int32 n => .ofBytes (LittleEndian.int32 n)
  | .int64 n => .ofBytes (LittleEndian.int64 n)
  | .double d => .ofBytes (LittleEndian.encode 8 d.bits.toNat)
  | .instant t => .ofBytes (LittleEndian.int64 (Int64.ofInt t.millis))
  | .objectId id => .ofBytes id.toList
  | .string s => Emit.text s
  | .code source => Emit.text source
  | .document d => d.emit
  | .array items =>
    Emit.length (4 + itemsSize 0 items + 1) ++ emitItems 0 items ++ .ofBytes [0]
  | .pattern p => Emit.key p.source ++ Emit.key p.options
  | .codeWithScope source scope =>
    Emit.length (4 + textSize source + scope.encodedSize) ++ Emit.text source ++ scope.emit
  | .uuid u => Emit.uuid u
  | .binary b => Emit.binary b

/-- What writing a document emits. -/
def Document.emit : Document → Emission
  | ⟨fields⟩ => Emit.length (4 + fieldsSize fields + 1) ++ emitFields fields ++ .ofBytes [0]

/-- What writing items at a place and after it emits; their names are their places. -/
def emitItems (index : Nat) : List Value → Emission
  | [] => .nothing
  | v :: rest => Emit.tag v ++ Emit.key (Nat.repr index) ++ v.emit ++ emitItems (index + 1) rest

/-- What writing fields emits. -/
def emitFields : List (String × Value) → Emission
  | [] => .nothing
  | (name, v) :: rest => Emit.tag v ++ Emit.key name ++ v.emit ++ emitFields rest

end

namespace Document

/-- What writing a whole document emits. A document above the size limit is refused
    before the first byte. -/
def write (options : CodecOptions) (d : Document) : Emission :=
  if options.maxMessageSize < d.encodedSize then
    .fail (.messageTooLarge d.encodedSize options.maxMessageSize)
  else d.emit

/-- The bytes of a document, or why it cannot be written. -/
def encode (d : Document) (options : CodecOptions) : Except CodecError (List UInt8) :=
  let emission := d.write options
  match emission.failure with
  | some e => .error e
  | none => .ok emission.bytes

end Document

/-- The answer of writing and the sink after it. What was written before a failure stays
    in the sink. -/
def Emission.writeTo {α : Type} (answer : α) (sink : List UInt8) (e : Emission) :
    Except CodecError α × List UInt8 :=
  (match e.failure with
    | some failure => .error failure
    | none => .ok answer, sink ++ e.bytes)

/-- Writes a value to a sink. -/
def Value.writeTo (sink : List UInt8) (v : Value) : Except CodecError Unit × List UInt8 :=
  v.emit.writeTo () sink

/-- Writes a whole document to a sink and answers its size. -/
def Document.writeTo (options : CodecOptions) (sink : List UInt8) (d : Document) :
    Except CodecError Nat × List UInt8 :=
  (d.write options).writeTo d.encodedSize sink

end DocumentMapper
