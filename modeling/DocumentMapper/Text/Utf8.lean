/-!
# UTF-8, whole and in pieces

Text reaches a reader as bytes that may be cut anywhere, also inside a character.
A `Carry` is a scratch buffer that holds back the bytes of a character that is
not complete yet. Every fill is committed: the bytes held so far and the new ones
are decoded up to the last complete character, and what follows stays in the
buffer. How far the complete characters reach is read off the lengths that the
leading bytes announce, looking back at most four bytes; whether they are well
formed is decided by the strict decoder alone.

## Main definitions

* `Utf8.encode`, `Utf8.decode?`: Text as bytes and the strict way back.
* `Utf8.sequenceLength`: The length that a leading byte announces.
* `Utf8.lastFullCharStop`: The place just past the last complete character.
* `Carry`: A scratch buffer with its held bytes.
* `Carry.commit?`: Decode what is complete, hold the rest.
* `Carry.isEmpty`: Nothing is held, so a text may end here.
-/

namespace DocumentMapper

namespace Utf8

/-- The bytes of a text. -/
def encode (s : String) : List UInt8 :=
  s.toUTF8.data.toList

/-- The text with exactly these bytes, if they are well formed. -/
def decode? (bytes : List UInt8) : Option String :=
  String.fromUTF8? ⟨bytes.toArray⟩

/-- The number of bytes of the character that a leading byte begins, or zero for a
    byte that begins none. -/
def sequenceLength (lead : UInt8) : Nat :=
  if lead ≤ 0x7f then 1
  else if 0xc2 ≤ lead ∧ lead ≤ 0xdf then 2
  else if 0xe0 ≤ lead ∧ lead ≤ 0xef then 3
  else if 0xf0 ≤ lead ∧ lead ≤ 0xf4 then 4
  else 0

/-- Where the complete characters of `length` bytes end, from the last bytes in
    reverse order: the nearest leading byte decides, standing `back` bytes before
    the end. -/
def stopBefore (length back : Nat) : List UInt8 → Nat
  | [] => length
  | b :: before =>
    let needed := sequenceLength b
    if needed = 0 then stopBefore length (back + 1) before
    else if back < needed then length - back
    else length

/-- The place just past the last complete character. What follows it begins a
    character of which bytes are missing. -/
def lastFullCharStop (bytes : List UInt8) : Nat :=
  stopBefore bytes.length 1 (bytes.reverse.take 4)

end Utf8

/-- A scratch buffer for decoding: its capacity and the bytes it holds back. -/
structure Carry where
  capacity : Nat
  held : List UInt8
deriving DecidableEq, Repr

namespace Carry

/-- No character has more bytes. -/
def minCapacity : Nat :=
  4

/-- An empty buffer. A capacity that cannot take a whole character is raised to one
    that can. -/
def ofCapacity (capacity : Nat) : Carry where
  capacity := max capacity minCapacity
  held := []

/-- How many bytes the next fill may bring. -/
def room (c : Carry) : Nat :=
  c.capacity - c.held.length

/-- Let go of the held bytes. -/
def reset (c : Carry) : Carry :=
  { c with held := [] }

/-- What a fill brought: the text decoded, the number of bytes it took, and the
    buffer with the rest. -/
structure Decoded where
  text : String
  taken : Nat
  carry : Carry

/-- Decodes the held bytes followed by a fill up to the last complete character,
    and holds the rest. Bytes that are no UTF-8 are refused, and so is a rest as
    long as a whole character. -/
def commit? (c : Carry) (fill : List UInt8) : Option Decoded :=
  let bytes := c.held ++ fill
  let stop := Utf8.lastFullCharStop bytes
  match Utf8.decode? (bytes.take stop) with
  | none => none
  | some text =>
    let rest := bytes.drop stop
    if minCapacity ≤ rest.length then none
    else some ⟨text, stop, { c with held := rest }⟩

/-- Nothing is held back, so that a text may end here. -/
def isEmpty (c : Carry) : Bool :=
  c.held.isEmpty

end Carry

end DocumentMapper
