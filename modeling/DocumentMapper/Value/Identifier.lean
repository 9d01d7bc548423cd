import DocumentMapper.Text.Hex
import DocumentMapper.Text.Utf8
import DocumentMapper.Value.Basic

/-!
# Identifiers and binaries

An object identifier is twelve bytes: the seconds of its creation, a number of the
process, and a counter, the most significant byte first. A sixteen-byte identifier
has a text of five groups; in storage its first three groups have their bytes
reversed, and it takes the form of a binary of subtype three.

## Main definitions

* `ObjectId.parse`: The identifier a text stands for, or why there is none.
* `ObjectId.seconds`, `ObjectId.process`, `ObjectId.counter`: Its parts.
* `Uuid.storedBytes`, `Uuid.ofStored`: The bytes in storage order and back.
* `Value.ofBinary`: A binary as the value it is read back as.
-/

namespace DocumentMapper

/-- Why a text is no object identifier. -/
inductive ObjectIdError where
  | digits (text : String) (cause : HexError)
  | length (text : String)
deriving DecidableEq, Repr

/-- The number with these bytes, the most significant one first. -/
def bigEndian (bytes : List UInt8) : Nat :=
  bytes.foldl (fun n b => n * 256 + b.toNat) 0

/-- A list of bytes as a vector, if it has the right length. -/
def vectorOfList? (n : Nat) (bytes : List UInt8) : Option (Vector UInt8 n) :=
  if h : bytes.length = n then some ⟨bytes.toArray, by simp [h]⟩ else none

namespace ObjectId

def toList (id : ObjectId) : List UInt8 :=
  id.bytes.toList

/-- The identifier a text of twenty-four hexadecimal digits stands for. -/
def parse (text : String) : Except ObjectIdError ObjectId :=
  match Hex.decode (Utf8.encode text) with
  | .error cause => .error (.digits text cause)
  | .ok bytes =>
    match vectorOfList? 12 bytes with
    | some bytes => .ok ⟨bytes⟩
    | none => .error (.length text)

/-- The text of an identifier. -/
def hex (id : ObjectId) : String :=
  Hex.encode id.toList

/-- The seconds since 1970 at which the identifier was made. -/
def seconds (id : ObjectId) : Nat :=
  bigEndian (id.toList.take 4)

/-- The time at which the identifier was made. -/
def created (id : ObjectId) : Instant :=
  (Instant.ofMillis? (id.seconds * 1000)).getD Instant.epoch

/-- The bytes that name the process. -/
def process (id : ObjectId) : List UInt8 :=
  (id.toList.drop 4).take 5

/-- The counter within the process. -/
def counter (id : ObjectId) : Nat :=
  bigEndian (id.toList.drop 9)

end ObjectId

namespace Uuid

def toList (u : Uuid) : List UInt8 :=
  u.bytes.toList

/-- Reverses the bytes of the first three groups; doing it twice changes nothing. -/
def swapGroups (bytes : List UInt8) : List UInt8 :=
  (bytes.take 4).reverse ++ ((bytes.drop 4).take 2).reverse ++ ((bytes.drop 6).take 2).reverse
    ++ bytes.drop 8

/-- The bytes in storage order. -/
def storedBytes (u : Uuid) : List UInt8 :=
  swapGroups u.toList

/-- The identifier with these bytes in storage order, if there are sixteen. -/
def ofStored? (bytes : List UInt8) : Option Uuid :=
  (vectorOfList? 16 (swapGroups bytes)).map Uuid.mk

/-- The text of an identifier: five groups of digits with dashes between. -/
def text (u : Uuid) : String :=
  let digits := Hex.encode
  let bytes := u.toList
  String.intercalate "-" [digits (bytes.take 4), digits ((bytes.drop 4).take 2),
    digits ((bytes.drop 6).take 2), digits ((bytes.drop 8).take 2), digits (bytes.drop 10)]

end Uuid

namespace Binary

/-- Sixteen bytes of subtype three are read back as an identifier. -/
def isStoredUuid (b : Binary) : Bool :=
  b.subtype = .uuidOld && b.bytes.length = 16

end Binary

/-- The value a stored binary stands for: an identifier where it has the form of one. -/
def Value.ofBinary (b : Binary) : Value :=
  if b.subtype = .uuidOld then
    match Uuid.ofStored? b.bytes with
    | some u => .uuid u
    | none => .binary b
  else .binary b

end DocumentMapper
