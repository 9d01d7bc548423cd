import DocumentMapper.Text.Regex.Basic
import DocumentMapper.Text.Regex.ByteRange
import DocumentMapper.Text.Regex.LiteralTree
import DocumentMapper.Text.Utf8

/-!
# How large an expression is

A short pattern can stand for a huge expression, since repetitions with bounds are copies.
So an expression is measured before it is searched for: by the memory of the automata that
read its pieces byte by byte, one of them forwards and one of them backwards. Neither may
take more than ten mebibytes.

An automaton consists of states. Each of them takes the same memory, and some more for
each step to another state when there can be several. The measure follows the shape of the
expression, so that it is found without building the automata.

## Main definitions

* `ReadingDirection`: How an automaton reads.
* `Regex.footprint`: The memory for an expression.
* `Regex.automatonSize`: The memory of a whole automaton.
* `Regex.isOversized`: Whether an expression takes too much.
-/

namespace DocumentMapper

/-- How an automaton reads a text. -/
inductive ReadingDirection where
  | forward
  | backward
deriving DecidableEq, Repr

namespace Footprint

/-- The sum of some numbers. -/
def total (numbers : List Nat) : Nat :=
  numbers.foldr (· + ·) 0

/-- A state with at most one step. -/
def state : Nat :=
  32

/-- A state with several steps, each of which reads some bytes. -/
def reading (steps : Nat) : Nat :=
  state + 8 * steps

/-- One of several steps that read nothing. -/
def branch : Nat :=
  4

/-- A state with several steps that read nothing. -/
def choosing (steps : Nat) : Nat :=
  state + branch * steps

/-- The memory for one character of a set. Forwards, places of the tree of bytes from which
    the same ways go on are one state. Backwards, each branch of the tree is a state, and
    each path has a step of its own into the tree. Characters of ASCII are single bytes,
    which one state reads. -/
def ofCharacters (d : ReadingDirection) (s : CharSet) : Nat :=
  if s.isAscii then state + reading s.ranges.size
  else
    let paths := s.bytePaths
    let places := BytePath.places paths
    match d with
    | .forward =>
      state + total (places.eraseDups.map fun place => reading (BytePath.branches place).length)
    | .backward =>
      state + choosing paths.length +
        state * total (places.map fun place => (BytePath.branches place).length)

/-- The memory for the steps of a part of a tree of literals. -/
def ofPart (part : LiteralTree.Place) : Nat :=
  match (LiteralTree.steps part).length with
  | 1 => state
  | count => reading count

/-- The memory for one of some literals. -/
def ofLiterals (d : ReadingDirection) (literals : List (List Char)) : Nat :=
  let alternatives := literals.map fun text =>
    match d with
    | .forward => Utf8.encode (String.ofList text)
    | .backward => (Utf8.encode (String.ofList text)).reverse
  state + total ((LiteralTree.places alternatives).map fun place =>
    let parts := LiteralTree.parts place
    choosing (parts.length + LiteralTree.ends place) + total (parts.map ofPart))

/-- The memory for a repetition of something that takes `once`. Every piece up to the
    bounds is a copy; each piece that may be missing has a choice in front of it. -/
def ofRepetition (once : Nat) (canBeEmpty : Bool) (low : Nat) : Option Nat → Nat
  | none =>
    if 0 < low then low * once + choosing 2
    else if canBeEmpty then once + 2 * choosing 2 + state
    else once + choosing 2
  | some high =>
    let needed := if low = 0 && high != 1 then state else low * once
    if low = high then needed else needed + (high - low) * (once + choosing 2) + state

end Footprint

namespace Regex

open Footprint

/-- The text of a literal. -/
def literal? : Regex → Option (List Char)
  | literal text => some text
  | _ => none

/-- Whether an expression is an alternation. -/
def isAlternation : Regex → Bool
  | alt _ _ => true
  | _ => false

/-- The memory for an expression. The rest of an alternation adds no state of its own, as it
    belongs to the same choice, and the last alternative takes one more step of it. Groups
    are remembered by the forward automaton only. -/
def footprintAs (d : ReadingDirection) (isRest : Bool) : Regex → Nat
  | empty => state
  | literal text => state * (Utf8.encode (String.ofList text)).length
  | chars s => ofCharacters d s
  | assertion _ => state
  | repeated r low high _ =>
    ofRepetition (r.footprintAs d false) (r.minLength?.getD 0 = 0) low high
  | group _ r => (if d = .forward then 2 * state else 0) + r.footprintAs d false
  | seq first rest => first.footprintAs d false + rest.footprintAs d false
  -- Branches that are plain texts are stored together; the rest of an alternation is counted with
  -- it.
  | alt first rest =>
    match if isRest then none else (alt first rest).branches.mapM literal? with
    | some literals => ofLiterals d literals
    | none =>
      (if isRest then 0 else state + choosing 0) +
        (branch + first.footprintAs d false) +
        ((if rest.isAlternation then 0 else branch) + rest.footprintAs d true)

/-- The memory for an expression. -/
def footprint (d : ReadingDirection) (r : Regex) : Nat :=
  r.footprintAs d false

/-- The memory of the automaton for an expression. In front of the expression it passes
    over bytes, unless there are none: every piece begins, or seen from behind ends, where
    the text does. The whole piece is remembered like a group, and there is a final state. -/
def automatonSize (d : ReadingDirection) (r : Regex) : Nat :=
  let isBound := match d with
    | .forward => r.beginsText
    | .backward => r.endsText
  (if isBound then state else choosing 2 + state + reading 1) +
    (group 0 r).footprint d + state

/-- The most memory that an automaton may take. -/
def sizeLimit : Nat :=
  10 * 1024 * 1024

/-- Whether an expression takes too much memory. -/
def isOversized (r : Regex) : Bool :=
  sizeLimit < r.automatonSize .forward || sizeLimit < r.automatonSize .backward

end Regex

end DocumentMapper
