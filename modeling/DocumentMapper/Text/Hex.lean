/-!
# Hexadecimal text of bytes

Every byte becomes two lower-case digits. Reading takes either case, works on the
bytes of the text, and names the first byte that is no digit.

## Main definitions

* `Hex.encode`: Two digits a byte.
* `Hex.decode`: The bytes, or why there are none.
* `Hex.number`: The number that a text of digits writes.
-/

namespace DocumentMapper

/-- Why a text is no hexadecimal text. -/
inductive HexError where
  | oddLength
  /-- The byte at this place is no digit. -/
  | invalidDigit (byte : UInt8) (index : Nat)
deriving DecidableEq, Repr

namespace Hex

/-- The digit of a number below sixteen. -/
def digit (n : Nat) : Char :=
  if n < 10 then Char.ofNat (48 + n) else Char.ofNat (87 + n)

/-- The two digits of a byte. -/
def byteDigits (b : UInt8) : List Char :=
  [digit (b.toNat / 16), digit (b.toNat % 16)]

/-- Two lower-case digits for every byte. -/
def encode (bytes : List UInt8) : String :=
  String.ofList (bytes.flatMap byteDigits)

/-- The number a digit stands for. -/
def value? (b : UInt8) : Option UInt8 :=
  if 48 ≤ b ∧ b ≤ 57 then some (b - 48)
  else if 65 ≤ b ∧ b ≤ 70 then some (b - 55)
  else if 97 ≤ b ∧ b ≤ 102 then some (b - 87)
  else none

/-- The bytes that pairs of digits stand for, the first digit standing at `index`. -/
def decodePairs (index : Nat) : List UInt8 → Except HexError (List UInt8)
  | [] => .ok []
  | [_] => .error .oddLength
  | high :: low :: rest =>
    match value? high with
    | none => .error (.invalidDigit high index)
    | some h =>
      match value? low with
      | none => .error (.invalidDigit low (index + 1))
      | some l => return (h * 16 + l) :: (← decodePairs (index + 2) rest)

/-- The bytes a text stands for. An odd length is reported before any digit is
    looked at. -/
def decode (digits : List UInt8) : Except HexError (List UInt8) :=
  if digits.length % 2 = 1 then .error .oddLength else decodePairs 0 digits

/-- The number that a digit of either case stands for. -/
def digitOf? (c : Char) : Option Nat :=
  if '0' ≤ c ∧ c ≤ '9' then some (c.toNat - '0'.toNat)
  else if 'a' ≤ c ∧ c ≤ 'f' then some (c.toNat - 'a'.toNat + 10)
  else if 'A' ≤ c ∧ c ≤ 'F' then some (c.toNat - 'A'.toNat + 10)
  else none

/-- The number that the digits of a text write. Other characters count as nothing. -/
def number (text : String) : Nat :=
  text.foldl (fun n c => match digitOf? c with
    | some d => n * 16 + d
    | none => n) 0

end Hex

end DocumentMapper
