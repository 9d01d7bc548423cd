/-!
# Little-endian numbers

A number takes a fixed count of bytes, the least significant one first. Signed
numbers are stored by their two's complement.

## Main definitions

* `LittleEndian.encode`, `LittleEndian.decode`: Natural numbers and bytes.
* `LittleEndian.int32`, `LittleEndian.toInt32`: Signed numbers of four bytes.
* `LittleEndian.int64`, `LittleEndian.toInt64`: Signed numbers of eight bytes.

## Theorems

* `length_encode`: A number takes as many bytes as its width.
* `decode_encode`: A number is read back up to its width.
-/

namespace DocumentMapper.LittleEndian

/-- The `width` low bytes of a number. -/
def encode : Nat → Nat → List UInt8
  | 0, _ => []
  | width + 1, n => UInt8.ofNat (n % 256) :: encode width (n / 256)

/-- The number with these bytes. -/
def decode : List UInt8 → Nat
  | [] => 0
  | b :: rest => b.toNat + 256 * decode rest

@[simp] theorem length_encode (width n : Nat) : (encode width n).length = width := by
  induction width generalizing n with
  | zero => rfl
  | succ width ih => simp [encode, ih]

theorem decode_encode (width n : Nat) : decode (encode width n) = n % Nat.pow 256 width := by
  induction width generalizing n with
  | zero => simp [encode, decode, Nat.mod_one]
  | succ width ih =>
    have hb : (UInt8.ofNat (n % 256)).toNat = n % 256 := by simp
    rw [encode, decode, ih, hb, Nat.pow_eq, Nat.pow_eq, Nat.pow_succ', Nat.mod_mul]

def int32 (n : Int32) : List UInt8 :=
  encode 4 n.toUInt32.toNat

def toInt32 (bytes : List UInt8) : Int32 :=
  (UInt32.ofNat (decode bytes)).toInt32

def int64 (n : Int64) : List UInt8 :=
  encode 8 n.toUInt64.toNat

def toInt64 (bytes : List UInt8) : Int64 :=
  (UInt64.ofNat (decode bytes)).toInt64

end DocumentMapper.LittleEndian
