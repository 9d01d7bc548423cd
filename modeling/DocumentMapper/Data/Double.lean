/-!
# Doubles by their bits

Documents carry double-precision numbers that have to survive storage bit for
bit, payloads of NaN included. So a `Double` is its 64 bits, and two doubles are
the same value exactly when their bits agree. The numeric reading is a view on
the bits: order and equality compare a signed magnitude, which is exact, and the
four arithmetic operations go through the machine's doubles. An integer is converted
on the bits, since it is rounded once and by a simple rule.

`rem` has no machine counterpart. The remainder of two finite doubles is again a
double, so it is computed on the integers `m * 2 ^ q` stands for and packed
without rounding.

## Main definitions

* `Double`: A double, as its bits.
* `Double.ofInt64`: The double nearest to an integer.
* `Double.compare?`: The numeric order; NaN compares with nothing.
* `Double.significand`: The `m` and `q` of a finite double `m * 2 ^ q`.
* `Double.pack`: The double with a given sign and exact value.
* `Double.rem`: The remainder of truncating division.
-/

namespace DocumentMapper

/-- A double-precision number, kept as its 64 bits. -/
structure Double where
  bits : UInt64
deriving DecidableEq, Inhabited

namespace Double

/-- The bits of a machine double. -/
def ofFloat (x : Float) : Double :=
  ⟨x.toBits⟩

/-- The machine double with these bits. -/
def toFloat (d : Double) : Float :=
  Float.ofBits d.bits

/-- The bit of the sign, `2 ^ 63`. -/
def signBit : Nat :=
  0x8000000000000000

/-- The bit that a normal fraction has in front, `2 ^ 52`. It is not stored. -/
def hiddenBit : Nat :=
  0x10000000000000

/-- The bits below the sign of the double nearest to a natural number. The number is
    scaled to 53 bits; what is cut off is rounded, a tie to the even neighbour, and a
    carry out of the fraction makes the exponent one larger. -/
def nearestMagnitude (m : Nat) : Nat :=
  if m = 0 then 0
  else
    let step := Nat.pow 2 m.log2
    let scaled := m * hiddenBit / step
    let rest := m * hiddenBit % step
    let up := step < 2 * rest ∨ (2 * rest = step ∧ scaled % 2 = 1)
    (m.log2 + 1022) * hiddenBit + scaled + if up then 1 else 0

/-- The double nearest to an integer, a tie going to the even neighbour, for integers
    that are not too large for a double. -/
def ofInt (n : Int) : Double :=
  ⟨UInt64.ofNat ((if n < 0 then signBit else 0) + nearestMagnitude n.natAbs)⟩

/-- The double nearest to a 64-bit integer. -/
def ofInt64 (n : Int64) : Double :=
  ofInt n.toInt

/-- The double equal to a 32-bit integer. -/
def ofInt32 (n : Int32) : Double :=
  ofInt64 n.toInt64

/-- Whether the sign bit is set. -/
def isNegative (d : Double) : Bool :=
  signBit ≤ d.bits.toNat

/-- The bits below the sign, as a number: it grows with the absolute value. -/
def magnitude (d : Double) : Nat :=
  d.bits.toNat % signBit

/-- The magnitude of the infinities; every larger one is a NaN. -/
def infiniteMagnitude : Nat :=
  0x7ff0000000000000

def isNaN (d : Double) : Bool :=
  infiniteMagnitude < d.magnitude

def isInfinite (d : Double) : Bool :=
  d.magnitude = infiniteMagnitude

def isFinite (d : Double) : Bool :=
  d.magnitude < infiniteMagnitude

def isZero (d : Double) : Bool :=
  d.magnitude = 0

/-- The magnitude with its sign. Both zeros have the key zero, and of two doubles
    that are no NaN the smaller one has the smaller key. -/
def key (d : Double) : Int :=
  if d.isNegative then -(d.magnitude : Int) else d.magnitude

/-- The numeric order of two doubles; a NaN compares with nothing. -/
def compare? (a b : Double) : Option Ordering :=
  if a.isNaN || b.isNaN then none else some (compare a.key b.key)

/-- Numeric equality: the zeros are equal, a NaN equals nothing. -/
def equals (a b : Double) : Bool :=
  a.compare? b == some .eq

/-- The canonical NaN. -/
def nan : Double :=
  ⟨0x7ff8000000000000⟩

def zero : Double :=
  ⟨0⟩

/-- The same magnitude with the other sign. -/
def neg (d : Double) : Double :=
  ⟨d.bits ^^^ 0x8000000000000000⟩

def add (a b : Double) : Double :=
  ofFloat (a.toFloat + b.toFloat)

def sub (a b : Double) : Double :=
  ofFloat (a.toFloat - b.toFloat)

def mul (a b : Double) : Double :=
  ofFloat (a.toFloat * b.toFloat)

def div (a b : Double) : Double :=
  ofFloat (a.toFloat / b.toFloat)

/-- The natural number `m` and the exponent `q` with `m * 2 ^ q` the absolute
    value of a finite double. -/
def significand (d : Double) : Nat × Int :=
  let fraction : Nat := d.magnitude % hiddenBit
  let exponent : Nat := d.magnitude / hiddenBit
  if exponent = 0 then (fraction, -1074)
  else (fraction + hiddenBit, (exponent : Int) - 1075)

/-- The double with the given sign and the absolute value `m * 2 ^ q`, for a value
    that a double can hold: the fraction is moved to 53 bits, or to the smallest
    exponent if that comes first. -/
def pack (negative : Bool) (m : Nat) (q : Int) : Double :=
  let sign : Nat := if negative then signBit else 0
  if m = 0 then ⟨UInt64.ofNat sign⟩
  else
    let target : Int := max ((m.log2 : Int) + 1 + q - 53) (-1074)
    let m := if target ≤ q then m <<< (q - target).toNat else m >>> (target - q).toNat
    let magnitude :=
      if m < hiddenBit then m else (target + 1075).toNat * hiddenBit + (m - hiddenBit)
    ⟨UInt64.ofNat (sign + magnitude)⟩

/-- The remainder of truncating division: it has the sign of the dividend and is
    smaller than the divisor. Dividing an infinity or by zero gives NaN, and an
    infinite divisor leaves the dividend as it is. -/
def rem (a b : Double) : Double :=
  if a.isNaN || b.isNaN || a.isInfinite || b.isZero then nan
  else if b.isInfinite || a.isZero then a
  else
    let (m₁, q₁) := a.significand
    let (m₂, q₂) := b.significand
    let q := min q₁ q₂
    let r := (m₁ <<< (q₁ - q).toNat) % (m₂ <<< (q₂ - q).toNat)
    pack a.isNegative r q

end Double

end DocumentMapper
