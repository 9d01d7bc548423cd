import DocumentMapper.Text.Hex

/-!
# Sets of characters

A set of characters is kept as ranges of code points that stand in rising order and
neither meet nor overlap. Membership is then a search by halves, and the operations on
sets are walks along two such lists.

The code points between `0xd7ff` and `0xe000` are no characters. What comes after the
first of the two is therefore the second one.

Tables of ranges are written as text: hexadecimal numbers and pairs of them joined by a
dash, separated by blanks and line ends.

## Main definitions

* `CharSet`: A set of characters.
* `CharSet.contains`: Membership.
* `CharSet.union`, `CharSet.intersection`, `CharSet.difference`,
  `CharSet.symmetricDifference`, `CharSet.complement`: The operations.
* `CharSet.ofTable`: The set that a table describes.
-/

namespace DocumentMapper

/-- A set of characters, as ranges of code points in rising order. -/
structure CharSet where
  ranges : Array (Nat × Nat)
deriving DecidableEq, Repr

namespace CharSet

/-- The last code point. -/
def last : Nat :=
  0x10ffff

def empty : CharSet :=
  ⟨#[]⟩

/-- Every character. -/
def all : CharSet :=
  ⟨#[(0, last)]⟩

/-- The characters from one to another. -/
def range (low high : Char) : CharSet :=
  ⟨#[(low.toNat, high.toNat)]⟩

def single (c : Char) : CharSet :=
  range c c

def isEmpty (s : CharSet) : Bool :=
  s.ranges.isEmpty

/-- Whether every member is a character of ASCII. -/
def isAscii (s : CharSet) : Bool :=
  s.ranges.all fun r => r.2 < 128

/-- The only member of a set that has no other. -/
def only? (s : CharSet) : Option Char :=
  match s.ranges.toList with
  | [(low, high)] => if low = high then some (Char.ofNat low) else none
  | _ => none

/-- Whether a code point lies in one of the ranges from `low` up to `high`. -/
def search (ranges : Array (Nat × Nat)) (n low high : Nat) : Bool :=
  if low < high then
    let middle := (low + high) / 2
    match ranges[middle]? with
    | some r =>
      if n < r.1 then search ranges n low middle
      else n ≤ r.2 || search ranges n (middle + 1) high
    | none => false
  else false
termination_by high - low

/-- Whether a code point belongs to a set. -/
def containsCode (s : CharSet) (n : Nat) : Bool :=
  search s.ranges n 0 s.ranges.size

/-- Whether a character belongs to a set. -/
def contains (s : CharSet) (c : Char) : Bool :=
  s.containsCode c.toNat

/-- Joins a range with those after it that it meets or overlaps. -/
def joined (current : Nat × Nat) : List (Nat × Nat) → List (Nat × Nat)
  | [] => [current]
  | next :: rest =>
    if next.1 ≤ current.2 + 1 then joined (current.1, max current.2 next.2) rest
    else current :: joined next rest

/-- The set of ranges whose lower ends rise. -/
def ofRising : List (Nat × Nat) → CharSet
  | [] => empty
  | first :: rest => ⟨(joined first rest).toArray⟩

/-- The set of ranges in any order. -/
def ofRanges (ranges : List (Nat × Nat)) : CharSet :=
  ofRising (ranges.mergeSort fun a b => a.1 ≤ b.1)

/-- What belongs to one of two sets. -/
def union (a b : CharSet) : CharSet :=
  if b.isEmpty then a
  else ofRising (a.ranges.toList.merge b.ranges.toList fun x y => x.1 ≤ y.1)

/-- What belongs to one of many sets. -/
def unionAll (sets : List CharSet) : CharSet :=
  sets.foldl union empty

/-- The code point before one, where surrogates do not count. -/
def before (n : Nat) : Nat :=
  if n = 0xe000 then 0xd7ff else n - 1

/-- The code point after one, where surrogates do not count. -/
def after (n : Nat) : Nat :=
  if n = 0xd7ff then 0xe000 else n + 1

/-- The ranges between those that follow a code point. The two ends of a gap are taken in
    their order. -/
def gaps (n : Nat) : List (Nat × Nat) → List (Nat × Nat)
  | [] => if n < last then [(after n, last)] else []
  | (low, high) :: rest =>
    (min (after n) (before low), max (after n) (before low)) :: gaps high rest

/-- What does not belong to a set. -/
def complement (s : CharSet) : CharSet :=
  match s.ranges.toList with
  | [] => all
  | (low, high) :: rest =>
    ⟨((if 0 < low then [(0, before low)] else []) ++ gaps high rest).toArray⟩

/-- The common parts of two lists of ranges. -/
def overlaps : List (Nat × Nat) → List (Nat × Nat) → List (Nat × Nat)
  | [], _ => []
  | _, [] => []
  | (a, b) :: first, (c, d) :: second =>
    let rest :=
      if b < d then overlaps first ((c, d) :: second) else overlaps ((a, b) :: first) second
    if max a c ≤ min b d then (max a c, min b d) :: rest else rest
termination_by first second => first.length + second.length

/-- What belongs to both of two sets. -/
def intersection (a b : CharSet) : CharSet :=
  ⟨(overlaps a.ranges.toList b.ranges.toList).toArray⟩

/-- The parts of a list of ranges outside of another one. -/
def remainders : List (Nat × Nat) → List (Nat × Nat) → List (Nat × Nat)
  | [], _ => []
  | first, [] => first
  | (a, b) :: first, (c, d) :: second =>
    if d < a then remainders ((a, b) :: first) second
    else if b < c then (a, b) :: remainders first ((c, d) :: second)
    else
      let rest :=
        if d < b then remainders ((after d, b) :: first) second
        else remainders first ((c, d) :: second)
      if a < c then (a, before c) :: rest else rest
termination_by first second => first.length + second.length

/-- What belongs to the first of two sets only. -/
def difference (a b : CharSet) : CharSet :=
  ⟨(remainders a.ranges.toList b.ranges.toList).toArray⟩

/-- What belongs to exactly one of two sets. -/
def symmetricDifference (a b : CharSet) : CharSet :=
  (a.union b).difference (a.intersection b)

/-- The range that an entry of a table names. -/
def rangeOfEntry (entry : String) : Nat × Nat :=
  match entry.splitOn "-" with
  | [low, high] => (Hex.number low, Hex.number high)
  | _ => (Hex.number entry, Hex.number entry)

/-- The entries of a table, between blanks and line ends. -/
def entries (table : String) : List String :=
  ((table.map fun c => if c = '\n' then ' ' else c).splitOn " ").filter fun e => !e.isEmpty

/-- The set that a table of rising ranges describes. -/
def ofTable (table : String) : CharSet :=
  ⟨((entries table).map rangeOfEntry).toArray⟩

end CharSet

end DocumentMapper
