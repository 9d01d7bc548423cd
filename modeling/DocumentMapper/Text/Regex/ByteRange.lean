import DocumentMapper.Text.CharSet

/-!
# Characters as bytes

An automaton that reads UTF-8 knows a set of characters by the bytes they are written in.
A set is taken apart into paths: sequences of ranges of bytes, such that the characters of
a path are exactly the choices of one byte from each range. The paths of a set stand in
rising order and are disjoint.

Paths that begin alike share their beginning, and so they make up a tree. A place of the
tree is the list of the ways that go on from there.

## Main definitions

* `BytePath`: Ranges of bytes, one after the other.
* `CharSet.bytePaths`: The paths of a set.
* `BytePath.branches`: The places one range further.
* `BytePath.places`: All places of the tree.
-/

namespace DocumentMapper

/-- Ranges of bytes, one after the other. -/
abbrev BytePath := List (Nat × Nat)

namespace BytePath

/-- The code points that take equally many bytes: what is added to the highest digit for
    the first byte, and the number of the bytes that follow. -/
structure Width where
  low : Nat
  high : Nat
  lead : Nat
  following : Nat

/-- The widths of all characters. There are none between `0xd7ff` and `0xe000`. -/
def widths : List Width :=
  [⟨0, 0x7f, 0, 0⟩, ⟨0x80, 0x7ff, 0xc0, 1⟩, ⟨0x800, 0xd7ff, 0xe0, 2⟩,
    ⟨0xe000, 0xffff, 0xe0, 2⟩, ⟨0x10000, 0x10ffff, 0xf0, 3⟩]

/-- The paths of the numbers from `low` to `high`, digit by digit with 64 as the base. The
    highest digits of the two may leave a part at both ends; all digits between them go on
    with everything. -/
def between (lead : Nat) : Nat → Nat → Nat → List BytePath
  | 0, low, high => [[(lead + low, lead + high)]]
  | digits + 1, low, high =>
    let unit := Nat.pow 64 (digits + 1)
    let first := low / unit
    let last := high / unit
    let under (digit low high : Nat) : List BytePath :=
      (between 0x80 digits low high).map ((lead + digit, lead + digit) :: ·)
    if first = last then under first (low % unit) (high % unit)
    else
      -- A first or last digit whose block is complete joins the run of whole blocks between them.
      let next := if low % unit = 0 then first else first + 1
      let past := if high % unit = unit - 1 then last + 1 else last
      (if next = first then [] else under first (low % unit) (unit - 1)) ++
        (if next < past then
          [(lead + next, lead + past - 1) :: List.replicate (digits + 1) (0x80, 0xbf)]
        else []) ++
        (if past = last then under last 0 (high % unit) else [])

/-- The paths of a range of code points. -/
def ofRange (low high : Nat) : List BytePath :=
  widths.flatMap fun w =>
    if max low w.low ≤ min high w.high then
      between w.lead w.following (max low w.low) (min high w.high)
    else []

/-- The places one range further, for each of the ranges that come next. -/
def branches (paths : List BytePath) : List (List BytePath) :=
  (paths.splitBy fun a b => a.head? = b.head?).map fun alike => alike.map List.tail

/-- A place and the places after it that are at most a number of ranges away. Where the
    paths end is no place. -/
def placesWithin : Nat → List BytePath → List (List BytePath)
  | 0, _ => []
  | steps + 1, paths =>
    if paths.all List.isEmpty then []
    else paths :: (branches paths).flatMap (placesWithin steps)

/-- The places of the tree of some paths, of which none is longer than a character. -/
def places (paths : List BytePath) : List (List BytePath) :=
  placesWithin 4 paths

end BytePath

/-- The paths of a set. -/
def CharSet.bytePaths (s : CharSet) : List BytePath :=
  s.ranges.toList.flatMap fun r => BytePath.ofRange r.1 r.2

end DocumentMapper
