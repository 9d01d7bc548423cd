import DocumentMapper.Text.Regex.Program

/-!
# Search

A program is run for all pieces of a text at once: at each place of the text, for those
that begin there and for those that began before and still go on. What matters at a place
is only which instructions come next, so each of them is followed once. That takes a number
of steps which is bounded by the size of the program, and the whole search one which is
bounded by that times the length of the text.

An instruction is marked with the number of the place where it was followed last, counted
from one, so that nothing has to be cleared between the places.

## Main definitions

* `Program.Visit`: What is known at a place.
* `Program.follow`: Follows instructions at a place.
* `Program.search`: Whether a text contains a piece.
* `Regex.isMatch`: Whether a text contains a piece that an expression describes.
-/

namespace DocumentMapper

namespace Program

/-- What is known at a place of a text. -/
structure Visit where
  /-- The places where instructions were followed last. -/
  marks : Array Nat
  /-- The instructions that come next at the next place. -/
  following : List Nat
  /-- Whether a piece ends here. -/
  accepted : Bool
deriving DecidableEq, Repr

/-- Follows the instructions of a list at a place between two characters, either of which
    may be missing. Every step takes one from the list, and adds two at most when it follows
    an instruction for the first time. -/
def follow (p : Program) (place : Nat) (before after : Option Char) :
    Nat → List Nat → Visit → Visit
  | 0, _, v => v
  | _, [], v => v
  | steps + 1, i :: rest, ⟨marks, following, accepted⟩ =>
    -- An instruction is followed once for each place, which bounds the work.
    if marks[i]? = some place then
      follow p place before after steps rest ⟨marks, following, accepted⟩
    else
      let marks := marks.setIfInBounds i place
      match p.instructions[i]? with
      | some (.read s next) =>
        let following := if after.any s.contains then next :: following else following
        follow p place before after steps rest ⟨marks, following, accepted⟩
      | some (.check a next) =>
        let rest := if a.holds before after then next :: rest else rest
        follow p place before after steps rest ⟨marks, following, accepted⟩
      | some (.choose first second) =>
        follow p place before after steps (first :: second :: rest) ⟨marks, following, accepted⟩
      -- What is still to follow has a lower priority than the match that is found.
      | some .accept => ⟨marks, following, true⟩
      | none => follow p place before after steps rest ⟨marks, following, accepted⟩

/-- What is known at a place, where some pieces go on and new ones start. -/
def visit (p : Program) (place : Nat) (before after : Option Char) (marks : Array Nat)
    (instructions : List Nat) : Visit :=
  let steps := instructions.length + 2 * p.instructions.size + 1
  follow p place before after steps (p.start :: instructions) ⟨marks, [], false⟩

/-- Whether a piece ends at a place or later. -/
def searchFrom (p : Program) (place : Nat) (before : Option Char) (marks : Array Nat)
    (instructions : List Nat) : List Char → Bool
  | [] => (p.visit place before none marks instructions).accepted
  | c :: rest =>
    let ⟨marks, following, accepted⟩ := p.visit place before (some c) marks instructions
    accepted || searchFrom p (place + 1) (some c) marks following rest

/-- Whether a text contains a piece. -/
def search (p : Program) (text : String) : Bool :=
  searchFrom p 1 none (Array.replicate p.instructions.size 0) [] text.toList

end Program

/-- Whether a text contains a piece that an expression describes. -/
def Regex.isMatch (r : Regex) (text : String) : Bool :=
  r.program.search text

end DocumentMapper
