import DocumentMapper.Data.Double

/-!
# Shortest decimals of doubles

A double is written with as few digits as still name it: of the decimal grids
`10 ^ k`, the coarsest that has a point among the reals that round to the double.
If two neighbours on that grid do, the nearer one is taken, and of two that are
equally near the even or the upper one. All of it is exact arithmetic on natural
numbers.

How digits and exponent are laid out is the business of each format, so a layout
is a record: where positional notation ends on either side, how an exponent is
written, whether whole numbers keep a fraction, which way a tie goes, and the name
of what has no digits.

## Main definitions

* `Decimal`: A digit count times a power of ten.
* `Decimal.Tie`: The choice between two decimals that are equally near.
* `Decimal.shortest`: The shortest decimal of `m * 2 ^ q`.
* `Decimal.Layout`: The choices of a format.
* `Decimal.Layout.render`: The text of a double.
-/

namespace DocumentMapper

/-- The number `digits * 10 ^ exponent`. -/
structure Decimal where
  digits : Nat
  exponent : Int
deriving DecidableEq, Repr

namespace Decimal

/-- Which of two neighbouring decimals stands for a double halfway between them. -/
inductive Tie where
  | even
  | up
deriving DecidableEq, Repr

/-- The reals that round to a double: around `mid * 2 ^ scale`, from `low` to `high`
    in the same unit, the ends included or not. -/
structure Interval where
  low : Nat
  mid : Nat
  high : Nat
  scale : Int
  closed : Bool

/-- The reals that round to `m * 2 ^ q`, in quarters of the unit. Below a power of
    two the neighbours are closer, and an even `m` attracts the ties. -/
def Interval.ofSignificand (m : Nat) (q : Int) : Interval where
  low := 4 * m - (if m = Double.hiddenBit ∧ -1074 < q then 1 else 2)
  mid := 4 * m
  high := 4 * m + 2
  scale := q - 2
  closed := m % 2 = 0

/-- The nonzero point of the grid `10 ^ k` that lies in the interval, the nearer one
    to its middle if there are two. -/
def Interval.onGrid? (i : Interval) (tie : Tie) (k : Int) : Option Nat :=
  -- Both sides are scaled to whole numbers: the grid by `unit`, the interval by `factor`.
  let unit := Nat.pow 10 k.toNat * Nat.pow 2 (-i.scale).toNat
  let factor := Nat.pow 2 i.scale.toNat * Nat.pow 10 (-k).toNat
  let inside (c : Nat) : Bool :=
    0 < c && (if i.closed then i.low * factor ≤ c * unit && c * unit ≤ i.high * factor
      else i.low * factor < c * unit && c * unit < i.high * factor)
  let middle := i.mid * factor
  let below := middle / unit
  let toBelow := middle - below * unit
  let toAbove := (below + 1) * unit - middle
  -- Of two multiples at the same distance the tie decides.
  let goesBelow := toBelow < toAbove || (toBelow = toAbove && tie = .even && below % 2 = 0)
  let nearest := if goesBelow then below else below + 1
  let other := if nearest = below then below + 1 else below
  if inside nearest then some nearest
  else if inside other then some other
  else none

/-- The first grid with a point in the interval, from `10 ^ k` to finer ones. -/
def Interval.search (i : Interval) (tie : Tie) : Nat → Int → Decimal
  | 0, k => ⟨0, k⟩
  | steps + 1, k =>
    match i.onGrid? tie k with
    | some c => ⟨c, k⟩
    | none => search i tie steps (k - 1)

/-- The shortest decimal that rounds to `m * 2 ^ q`. The search begins above the
    number, and seventeen digits always suffice. -/
def shortest (tie : Tie) (m : Nat) (q : Int) : Decimal :=
  (Interval.ofSignificand m q).search tie 24 ((((m.log2 : Int) + 1 + q) * 30103).fdiv 100000 + 2)

/-- How a format writes doubles. -/
structure Layout where
  /-- Positional notation for numbers from `10 ^ lowest` on. -/
  lowest : Option Int
  /-- Positional notation for numbers below `10 ^ highest`. -/
  highest : Option Int
  /-- What stands in front of a positive exponent. -/
  plus : String
  /-- Whole numbers keep one zero after the point. -/
  keepsFraction : Bool
  tie : Tie
  infinity : String
deriving Repr

namespace Layout

/-- The digits with the point `position` places after the first one begins. -/
def positional (l : Layout) (digits : List Char) (position : Int) : List Char :=
  if position ≤ 0 then '0' :: '.' :: List.replicate (-position).toNat '0' ++ digits
  else
    let whole := position.toNat
    if whole < digits.length then digits.take whole ++ '.' :: digits.drop whole
    else digits ++ List.replicate (whole - digits.length) '0'
      ++ (if l.keepsFraction then ['.', '0'] else [])

/-- One digit before the point, the rest behind it, and the exponent. -/
def scientific (l : Layout) (digits : List Char) (exponent : Int) : List Char :=
  let fraction := match digits.drop 1 with
    | [] => []
    | rest => '.' :: rest
  digits.take 1 ++ fraction ++ 'e' ::
    (if exponent < 0 then '-' :: (Nat.repr exponent.natAbs).toList
      else l.plus.toList ++ (Nat.repr exponent.natAbs).toList)

/-- The text of a number above zero. -/
def renderDecimal (l : Layout) (d : Decimal) : List Char :=
  let digits := (Nat.repr d.digits).toList
  let position := digits.length + d.exponent
  let isPositional := l.lowest.all (fun low => low < position)
    && l.highest.all (fun high => position ≤ high)
  if isPositional then l.positional digits position else l.scientific digits (position - 1)

/-- The text of a double. -/
def render (l : Layout) (d : Double) : String :=
  if d.isNaN then "NaN"
  else
    let sign := if d.isNegative then ['-'] else []
    let absolute :=
      if d.isInfinite then l.infinity.toList
      else if d.isZero then (if l.keepsFraction then ['0', '.', '0'] else ['0'])
      else
        let (m, q) := d.significand
        l.renderDecimal (shortest l.tie m q)
    String.ofList (sign ++ absolute)

end Layout

end Decimal

end DocumentMapper
