import DocumentMapper.Text.Unicode.Property

/-!
# Regular expressions

A regular expression describes pieces of a text. It is built up by functions that keep it
simple: neighbouring literals are one literal, a set of one character is a literal,
alternatives of single characters are a set, and what all alternatives begin with stands
in front of them. Simple expressions are the same for a search, and smaller.

Sequences and alternatives are pairs that go on in their second part.

## Main definitions

* `Assertion`: A condition on a place of a text.
* `Regex`: The expressions.
* `Regex.ofSet`, `Regex.repetition`, `Regex.concat`, `Regex.alternatives`: Building them.
* `Regex.isEmptyOnly`, `Regex.minLength?`: How long the pieces are.
* `Regex.beginsText`, `Regex.endsText`: Where the pieces stand.
-/

namespace DocumentMapper

/-- What is asked of the word characters on both sides of a place. -/
inductive WordEdge where
  | boundary
  | noBoundary
  | start
  | stop
  | startHalf
  | stopHalf
deriving DecidableEq, Repr

/-- A condition on a place of a text. -/
inductive Assertion where
  | textStart
  | textEnd
  | lineStart
  | lineEnd
  /-- The start of a line, where a carriage return ends lines too. -/
  | anyLineStart
  /-- The end of a line, where a carriage return ends lines too. -/
  | anyLineEnd
  /-- An edge of a word, of which the characters are those of ASCII alone or of all
      scripts. -/
  | word (edge : WordEdge) (ascii : Bool)
deriving DecidableEq, Repr

/-- A regular expression. -/
inductive Regex where
  | empty
  | literal (text : List Char)
  | chars (s : CharSet)
  | assertion (a : Assertion)
  /-- At least `low` pieces and, unless there is no bound, at most `high`; as many as
      possible or as few. -/
  | repeated (r : Regex) (low : Nat) (high : Option Nat) (greedy : Bool)
  /-- A group that is remembered, with the place that tells it from others. -/
  | group (place : Nat) (r : Regex)
  | seq (first rest : Regex)
  | alt (first rest : Regex)
deriving DecidableEq, Repr

namespace WordEdge

/-- Whether an edge is between two places, by whether word characters stand there. -/
def holds (before after : Bool) : WordEdge → Bool
  | boundary => before != after
  | noBoundary => before == after
  | start => !before && after
  | stop => before && !after
  | startHalf => !before
  | stopHalf => !after

end WordEdge

namespace Assertion

/-- The characters that words are made of. -/
def wordCharacters : CharSet :=
  Property.wordCharacters

/-- The characters of ASCII that words are made of. -/
def asciiWordCharacters : CharSet :=
  .ofTable "30-39 41-5A 5F 61-7A"

/-- Whether a condition holds between two neighbouring characters, either of which may be
    missing. -/
def holds (before after : Option Char) : Assertion → Bool
  | textStart => before.isNone
  | textEnd => after.isNone
  | lineStart => before.isNone || before == some '\n'
  | lineEnd => after.isNone || after == some '\n'
  -- A carriage return and a line feed after it end one line, so nothing is between them.
  | anyLineStart =>
    before.isNone || before == some '\n' || (before == some '\r' && after != some '\n')
  | anyLineEnd =>
    after.isNone || after == some '\r' || (after == some '\n' && before != some '\r')
  | word edge ascii =>
    let inWord := if ascii then asciiWordCharacters.contains else wordCharacters.contains
    edge.holds (before.any inWord) (after.any inWord)

end Assertion

namespace Regex

/-- The expression that nothing matches. -/
def fail : Regex :=
  chars .empty

/-- One character of a set. -/
def ofSet (s : CharSet) : Regex :=
  match s.only? with
  | some c => literal [c]
  | none => chars s

/-- Whether an expression describes empty pieces only. What nothing matches does not. -/
def isEmptyOnly : Regex → Bool
  | empty => true
  | literal text => text.isEmpty
  | chars _ => false
  | assertion _ => true
  | repeated r _ _ _ => r.isEmptyOnly
  | group _ r => r.isEmptyOnly
  | seq first rest => first.isEmptyOnly && rest.isEmptyOnly
  | alt first rest => first.isEmptyOnly && rest.isEmptyOnly

/-- The length of the shortest piece. There is none if some alternative has none. -/
def minLength? : Regex → Option Nat
  | empty => some 0
  | literal text => some text.length
  | chars s => if s.isEmpty then none else some 1
  | assertion _ => some 0
  | repeated r low _ _ => r.minLength?.map (· * low)
  | group _ r => r.minLength?
  | seq first rest => do return (← first.minLength?) + (← rest.minLength?)
  | alt first rest => do return min (← first.minLength?) (← rest.minLength?)

/-- Whether every piece must begin where the text does. -/
def beginsText : Regex → Bool
  | assertion .textStart => true
  | repeated r low _ _ => 0 < low && r.beginsText
  | group _ r => r.beginsText
  | seq first rest => first.beginsText || first.isEmptyOnly && rest.beginsText
  | alt first rest => first.beginsText && rest.beginsText
  | _ => false

/-- Whether every piece must end where the text does. -/
def endsText : Regex → Bool
  | assertion .textEnd => true
  | repeated r low _ _ => 0 < low && r.endsText
  | group _ r => r.endsText
  | seq first rest => rest.endsText || rest.isEmptyOnly && first.endsText
  | alt first rest => first.endsText && rest.endsText
  | _ => false

/-- The repetition of an expression. One more empty piece changes nothing, no piece at all
    is empty, and one piece is the expression itself. -/
def repetition (r : Regex) (low : Nat) (high : Option Nat) (greedy : Bool) : Regex :=
  let (low, high) :=
    if r.isEmptyOnly then (min low 1, some (min (high.getD 1) 1)) else (low, high)
  if low = 0 && high = some 0 then empty
  else if low = 1 && high = some 1 then r
  else repeated r low high greedy

/-- The parts of a sequence. -/
def parts : Regex → List Regex
  | empty => []
  | seq first rest => first :: rest.parts
  | r => [r]

/-- The sequence of some parts. -/
def ofParts : List Regex → Regex
  | [] => empty
  | [r] => r
  | r :: rest => seq r (ofParts rest)

/-- A part in front of others. Literals are joined. -/
def joinPart : Regex → List Regex → List Regex
  | literal a, literal b :: rest => literal (a ++ b) :: rest
  | r, rest => r :: rest

/-- One expression after another. -/
def concat (rs : List Regex) : Regex :=
  ofParts ((rs.flatMap parts).foldr joinPart [])

/-- The alternatives of an expression. -/
def branches : Regex → List Regex
  | alt first rest => first :: rest.branches
  | r => [r]

/-- The expression with some alternatives. -/
def ofBranches : List Regex → Regex
  | [] => fail
  | [r] => r
  | r :: rest => alt r (ofBranches rest)

/-- The only character of a literal. -/
def character? : Regex → Option (Nat × Nat)
  | literal [c] => some (c.toNat, c.toNat)
  | _ => none

/-- The set of an expression for one character. -/
def set? : Regex → Option CharSet
  | chars s => some s
  | _ => none

/-- The parts of an expression that is a sequence. -/
def sequence? : Regex → Option (List Regex)
  | seq first rest => some (first :: rest.parts)
  | _ => none

/-- What two lists begin with. -/
def commonPrefix : List Regex → List Regex → List Regex
  | a :: first, b :: second => if a = b then a :: commonPrefix first second else []
  | _, _ => []

/-- What all lists begin with. -/
def sharedPrefix : List (List Regex) → List Regex
  | [] => []
  | first :: rest => rest.foldl commonPrefix first

/-- The sets and single characters of alternatives as one set. -/
def mergedSet? (rs : List Regex) : Option CharSet :=
  match rs.mapM character? with
  | some ranges => some (.ofRanges ranges)
  | none => (rs.mapM set?).map CharSet.unionAll

/-- Any one of some expressions. What they begin with in common is taken out, for which
    the bound on the number of steps is their size. -/
def alternativesWithin : Nat → List Regex → Regex
  | 0, rs => ofBranches rs
  | steps + 1, rs =>
    match rs.flatMap branches with
    | [] => fail
    | [r] => r
    | rs =>
      match mergedSet? rs, rs.mapM sequence? with
      | some s, _ => ofSet s
      | none, none => ofBranches rs
      | none, some sequences =>
        match sharedPrefix sequences with
        | [] => ofBranches rs
        | shared =>
          -- What all branches begin with is matched once, before the choice among the ends.
          let ends := sequences.map fun s => concat (s.drop shared.length)
          concat (shared ++ [alternativesWithin steps ends])

/-- The number of parts of an expression. -/
def size : Regex → Nat
  | repeated r _ _ _ => r.size + 1
  | group _ r => r.size + 1
  | seq first rest => first.size + rest.size + 1
  | alt first rest => first.size + rest.size + 1
  | _ => 1

/-- Any one of some expressions. -/
def alternatives (rs : List Regex) : Regex :=
  alternativesWithin ((rs.map size).foldl (· + ·) 1) rs

end Regex

end DocumentMapper
