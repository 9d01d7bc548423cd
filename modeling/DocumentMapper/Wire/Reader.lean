import DocumentMapper.Text.Utf8
import DocumentMapper.Value.ElementType
import DocumentMapper.Wire.Error
import DocumentMapper.Wire.LittleEndian
import DocumentMapper.Wire.Options
import DocumentMapper.Wire.Source

/-!
# Reading documents

A reader takes bytes from a source and counts them, so that every declared size can
be held against the bytes it governs. Texts pass through a carry of bounded size.

A document names its size first. Its fields are read as long as more than the
terminator is missing; then the terminator must be a zero byte and the count must
match the size. Nested documents, arrays and scopes go through the same code, so
the recursion is bounded by a number of steps: every step takes a byte, and so
twice the bytes to come are steps enough.

## Main definitions

* `Cursor`: A source and the count of bytes taken from it.
* `Decoder`: A computation on a cursor that may fail.
* `Decoder.key`, `Decoder.text`: Texts up to a zero byte, and of a given length.
* `Decoder.document`: A document.
* `Decoder.message`: A document at the start of a message.
* `Document.decode`: The document that bytes begin with.
-/

namespace DocumentMapper

/-- A source of bytes and how many of them were taken. -/
structure Cursor where
  source : Source
  position : Nat

/-- A computation that takes bytes and may fail. -/
abbrev Decoder (α : Type) := StateT Cursor (Except CodecError) α

namespace Decoder

/-- The count of bytes taken so far. -/
def position : Decoder Nat := do
  return (← get).position

/-- Exactly `count` bytes. -/
def bytes (count : Nat) : Decoder (List UInt8) := do
  let cursor ← get
  let (bytes, source) := cursor.source.take count
  if bytes.length < count then throw .unexpectedEnd
  set { source := source, position := cursor.position + count : Cursor }
  return bytes

/-- One byte. -/
def byte : Decoder UInt8 := do
  return (← bytes 1).headD 0

def int32 : Decoder Int32 := do
  return LittleEndian.toInt32 (← bytes 4)

def int64 : Decoder Int64 := do
  return LittleEndian.toInt64 (← bytes 8)

/-- The next delivery of at most `count` bytes; the end of the source is a failure. -/
def delivery (count : Nat) : Decoder (List UInt8) := do
  let cursor ← get
  match cursor.source.read count with
  | ([], _) => throw .unexpectedEnd
  | (bytes, source) =>
    set { source := source, position := cursor.position + bytes.length : Cursor }
    return bytes

/-- Commits a fill to a carry. -/
def commit (carry : Carry) (fill : List UInt8) : Decoder Carry.Decoded :=
  match carry.commit? fill with
  | some decoded => return decoded
  | none => throw .invalidUtf8

/-- The text so far, if no character is left incomplete. -/
def finish (carry : Carry) (text : String) : Decoder String :=
  if carry.isEmpty then return text else throw .invalidUtf8

/-- Reads on to a zero byte, with a carry, the fill collected since the last commit,
    and the text decoded so far. A fill is committed when the buffer is full. -/
def keyFrom : Nat → Carry → List UInt8 → String → Decoder String
  | 0, _, _, _ => throw .unexpectedEnd
  | steps + 1, carry, fill, text => do
    let b ← byte
    if b = 0 then
      let decoded ← commit carry fill
      finish decoded.carry (text ++ decoded.text)
    else if fill.length + 1 < carry.room then keyFrom steps carry (fill ++ [b]) text
    else
      let decoded ← commit carry (fill ++ [b])
      keyFrom steps decoded.carry [] (text ++ decoded.text)

/-- A text up to a zero byte. -/
def key (options : CodecOptions) : Decoder String := do
  let cursor ← get
  keyFrom (cursor.source.pending.length + 1) (.ofCapacity options.readBufferSize) [] ""

/-- Reads `missing` more bytes of a text, fill by fill. -/
def textFrom : Nat → Carry → Nat → String → Decoder String
  | 0, _, _, _ => throw .unexpectedEnd
  | steps + 1, carry, missing, text =>
    if missing = 0 then finish carry text
    else do
      let fill ← delivery (min carry.room missing)
      let decoded ← commit carry fill
      textFrom steps decoded.carry (missing - fill.length) (text ++ decoded.text)

/-- A text of a given number of bytes. -/
def textOfLength (options : CodecOptions) (length : Nat) : Decoder String := do
  let cursor ← get
  textFrom (cursor.source.pending.length + 2) (.ofCapacity options.readBufferSize) length ""

/-- A text behind its length, which counts the zero byte after it. -/
def text (options : CodecOptions) : Decoder String := do
  let length ← int32
  if length < 1 then throw (.malformed (.textTooShort length.toInt))
  let s ← textOfLength options (length.toInt - 1).toNat
  let _ ← byte
  return s

/-- The length of a binary. -/
def binaryLength : Decoder Nat := do
  let length ← int32
  if length < 0 then throw (.malformed (.negativeLength length.toInt))
  return length.toInt.toNat

/-- A binary. The second length of general bytes replaces the first. -/
def binary : Decoder Value := do
  let length ← binaryLength
  let subtype := BinarySubtype.ofCode (← byte)
  let length ← if subtype = .general then binaryLength else pure length
  return Value.ofBinary ⟨subtype, ← bytes length⟩

/-- An instant, by its milliseconds. -/
def instant : Decoder Value := do
  let millis ← int64
  match Instant.ofMillis? millis.toInt with
  | some t => return .instant t
  | none => throw (.malformed (.instantOutOfRange millis.toInt))

/-- An object identifier. -/
def objectId : Decoder Value := do
  match vectorOfList? 12 (← bytes 12) with
  | some id => return .objectId ⟨id⟩
  | none => throw .unexpectedEnd

mutual

/-- A document, within a number of steps. -/
def documentWithin (options : CodecOptions) : Nat → Decoder Document
  | 0 => throw .unexpectedEnd
  | steps + 1 => do
    let start ← position
    let size ← int32
    if size < 5 then throw (.malformed (.documentTooShort size.toInt))
    let size := size.toInt.toNat
    -- The limit is on the message itself; a document within it starts later.
    if start = 0 && options.maxMessageSize < size then
      throw (.messageTooLarge size options.maxMessageSize)
    let document ← fieldsWithin options steps start size .empty
    let terminator ← byte
    if terminator ≠ 0 then throw (.malformed .missingTerminator)
    let consumed := (← position) - start
    if consumed ≠ size then throw (.malformed (.sizeMismatch size consumed))
    return document

/-- The fields of a document that began at `start`, inserted into those read so far, as
    long as more than the terminator is missing. -/
def fieldsWithin (options : CodecOptions) : Nat → Nat → Nat → Document → Decoder Document
  | 0, _, _, _ => throw .unexpectedEnd
  | steps + 1, start, size, document => do
    -- The last byte announced is the terminator, which is no element.
    if (← position) - start + 1 < size then
      let tag := (← byte).toInt8
      let name ← key options
      match ElementType.ofTag? tag with
      | none => throw (.unknownType tag)
      | some type =>
        let value ← valueWithin options steps type
        fieldsWithin options steps start size (document.insert name value)
    else return document

/-- A value of a given form. -/
def valueWithin (options : CodecOptions) : Nat → ElementType → Decoder Value
  | 0, _ => throw .unexpectedEnd
  | steps + 1, type =>
    match type with
    | .null => return .null
    | .undefined => return .null
    | .minKey => return .minKey
    | .maxKey => return .maxKey
    | .boolean => return .boolean ((← byte) ≠ 0)
    | .int32 => return .int32 (← int32)
    | .int64 => return .int64 (← int64)
    | .double => return .double ⟨UInt64.ofNat (LittleEndian.decode (← bytes 8))⟩
    | .instant => instant
    | .objectId => objectId
    | .string => return .string (← text options)
    | .code => return .code (← text options)
    | .document => return .document (← documentWithin options steps)
    | .array => return .array (← documentWithin options steps).values
    | .pattern => return .pattern ⟨← key options, ← key options⟩
    | .codeWithScope => do
      let start ← position
      let size ← int32
      let source ← text options
      let scope ← documentWithin options steps
      -- The size counts itself, the source and the scope.
      let consumed := (← position) - start
      if size.toInt ≠ consumed then
        throw (.malformed (.scopeSizeMismatch size.toInt consumed))
      return .codeWithScope source scope
    | .binary => binary

end

/-- A document. -/
def document (options : CodecOptions) : Decoder Document := do
  let cursor ← get
  documentWithin options (2 * cursor.source.pending.length + 3)

/-- A document at the start of a message: the count of bytes begins again. -/
def message (options : CodecOptions) : Decoder Document := do
  modify fun cursor => { cursor with position := 0 }
  document options

end Decoder

namespace Document

/-- The document at the beginning of a source, and the number of its bytes. -/
def read (options : CodecOptions) (source : Source) : Except CodecError (Document × Nat) :=
  match (Decoder.message options).run ⟨source, 0⟩ with
  | .ok (d, cursor) => .ok (d, cursor.position)
  | .error e => .error e

/-- The document that bytes begin with, and the number of its bytes. -/
def decode (bytes : List UInt8) (options : CodecOptions) : Except CodecError (Document × Nat) :=
  read options (Source.ofBytes bytes)

end Document

end DocumentMapper
