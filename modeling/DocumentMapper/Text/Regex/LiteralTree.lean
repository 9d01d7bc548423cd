/-!
# Trees of literals

Alternatives that are all literal make up a tree: those that begin with the same byte
share that step. The first alternative that fits is to be preferred, so a tree keeps their
order where it matters. An alternative that ends at some place parts the ones before it
from the ones after it, and only within such a part do alternatives share steps.

A place of the tree is the list of what is left of the alternatives that lead there.

## Main definitions

* `LiteralTree.parts`: The parts of a place.
* `LiteralTree.ends`: How many alternatives end at a place.
* `LiteralTree.steps`: The places after a part.
* `LiteralTree.places`: All places where something is left.
-/

namespace DocumentMapper.LiteralTree

/-- What is left of some alternatives, in their order. -/
abbrev Place := List (List UInt8)

/-- The parts between the alternatives that end at a place. -/
def parts (place : Place) : List Place :=
  (place.splitBy fun a b => !a.isEmpty && !b.isEmpty).filter fun part =>
    part.all fun rest => !rest.isEmpty

/-- How many alternatives end at a place. Those before any other alternative are one. -/
def ends (place : Place) : Nat :=
  let leading := place.takeWhile List.isEmpty
  min leading.length 1 + (place.drop leading.length).countP List.isEmpty

/-- The places after a part, one for each byte that comes next. -/
def steps (part : Place) : List Place :=
  (part.filterMap List.head?).eraseDups.map fun b =>
    (part.filter fun rest => rest.head? = some b).map List.tail

/-- A place and the places after it that are less than a number of steps away. A place
    where nothing is left is none of the tree. -/
def placesWithin : Nat → Place → List Place
  | 0, _ => []
  | count + 1, place =>
    if place.all List.isEmpty then []
    else place :: (parts place).flatMap fun part => (steps part).flatMap (placesWithin count)

/-- The places of the tree of some alternatives. -/
def places (alternatives : Place) : List Place :=
  placesWithin ((alternatives.map List.length).foldl max 0 + 1) alternatives

end DocumentMapper.LiteralTree
