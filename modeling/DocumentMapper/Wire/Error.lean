import DocumentMapper.Text.Quoted
import DocumentMapper.Value.ExtendedJson

/-!
# Errors of the byte format

What can go wrong while documents are written or read. The first type lists the
ways in which bytes or values contradict the format, the second adds the failures
that have a kind of their own. Every cause is a constructor; the wording is one
function.

## Main definitions

* `Malformation`: A contradiction to the format.
* `CodecError`: A failure of reading or writing.
* `CodecError.message`: Its text.
-/

namespace DocumentMapper

/-- A way in which bytes or values contradict the format. -/
inductive Malformation where
  | documentTooShort (size : Int)
  | missingTerminator
  | sizeMismatch (declared : Nat) (consumed : Nat)
  | scopeSizeMismatch (declared : Int) (consumed : Nat)
  | negativeLength (length : Int)
  | textTooShort (length : Int)
  | instantOutOfRange (millis : Int)
  | lengthOverflow (length : Nat)
  /-- A binary that would be read back as an identifier. -/
  | ambiguousUuid
  | objectId (cause : ObjectIdError)
deriving DecidableEq, Repr

/-- A failure of reading or writing. -/
inductive CodecError where
  | malformed (cause : Malformation)
  | unexpectedEnd
  | unknownType (tag : Int8)
  | invalidUtf8
  /-- A name with a zero byte inside. -/
  | invalidKey (key : String)
  | messageTooLarge (size limit : Nat)
deriving DecidableEq, Repr

/-- The wording of a digit error. -/
def HexError.message : HexError → String
  | oddLength => "Odd number of digits"
  | invalidDigit byte index =>
    s!"Invalid character {Quoted.char (Char.ofNat byte.toNat)} at position {index}"

/-- The wording of an identifier error. -/
def ObjectIdError.message : ObjectIdError → String
  | digits text cause => s!"invalid ObjectId {Quoted.text text}: {cause.message}"
  | length text => s!"ObjectId {Quoted.text text} must be 12 bytes"

/-- The wording of a contradiction. -/
def Malformation.message : Malformation → String
  | documentTooShort size => s!"document size {integerText size} is below the 5-byte minimum"
  | missingTerminator => "document not null terminated"
  | sizeMismatch declared consumed =>
    s!"should have read {declared} bytes from stream but read {consumed}"
  | scopeSizeMismatch declared consumed =>
    s!"should have read {integerText declared} bytes from stream but read {consumed} in CodeWScope"
  | negativeLength length => s!"negative binary length {integerText length}"
  | textTooShort length => s!"string length {integerText length} does not include its terminator"
  | instantOutOfRange millis => s!"date {integerText millis}ms is out of range"
  | lengthOverflow length => s!"length {length} does not fit in 32 bits"
  | ambiguousUuid =>
    "a 16-byte subtype 3 binary reads back as a UUID; write it as Bson::Uuid"
  | objectId cause => cause.message

/-- The wording of a failure. -/
def CodecError.message : CodecError → String
  | malformed cause => s!"malformed BSON: {cause.message}"
  | unexpectedEnd => "unexpected end of input"
  | unknownType tag => s!"type number {integerText tag.toInt} not recognized"
  | invalidUtf8 => "invalid UTF-8"
  | invalidKey key => s!"invalid key {Quoted.text key}: cstrings must not contain NUL bytes"
  | messageTooLarge size limit =>
    s!"maximum message length exceeded: {size} bytes > {limit} bytes"

end DocumentMapper
