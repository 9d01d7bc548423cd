import DocumentMapper.Text.Unicode.Named

/-!
# Patterns

A pattern is a regular expression as it is written. Options change what its parts mean,
also those of parts that follow, so a part has no meaning by itself.

Patterns are nested up to a limit. Every part that can hold others counts: brackets,
repetitions, groups, alternations and concatenations, and within brackets the unions and
the operations on sets.

## Main definitions

* `SetPattern`: What stands between brackets.
* `RegexPattern`: The patterns.
* `RegexPattern.depth`: How far a pattern is nested.
* `RegexPattern.names`: The names of its groups.
-/

namespace DocumentMapper

/-- The options of a pattern. -/
inductive Flag where
  | anyCase
  | manyLines
  | dotMatchesAll
  | swapsGreed
  | unicode
  | anyLineEnd
  | verbose
deriving DecidableEq, Repr

/-- Options with what they are set to, in the order in which they are written. -/
abbrev Changes := List (Flag × Bool)

/-- A character as it is written. -/
structure Written where
  char : Char
  /-- Whether it is written as a byte of two digits. -/
  isByte : Bool
deriving DecidableEq, Repr

/-- A place that can be asked for. -/
inductive Anchor where
  | lineStart
  | lineEnd
  | textStart
  | textEnd
  | wordBoundary
  | noWordBoundary
  | wordStart
  | wordEnd
  | wordStartHalf
  | wordEndHalf
deriving DecidableEq, Repr

/-- The sets of characters that one letter after a backslash stands for. -/
inductive Shorthand where
  | digit
  | blank
  | word
deriving DecidableEq, Repr

/-- A set of characters that stands inside or outside of brackets. -/
inductive NamedSet where
  | shorthand (kind : Shorthand) (negated : Bool)
  | unicode (name : UnicodeName) (negated : Bool)
deriving DecidableEq, Repr

/-- The operations on sets. -/
inductive SetOperation where
  | intersection
  | difference
  | symmetricDifference
deriving DecidableEq, Repr

/-- What stands between brackets. -/
inductive SetPattern where
  | empty
  | single (c : Written)
  | range (low high : Written)
  /-- An alphabet of ASCII by its name. -/
  | ascii (name : String) (negated : Bool)
  | named (s : NamedSet)
  | bracketed (negated : Bool) (s : SetPattern)
  | union (items : List SetPattern)
  | operation (op : SetOperation) (left right : SetPattern)

/-- What a pair of parentheses is for. -/
inductive GroupKind where
  /-- A group that is remembered. Groups differ by the place where they begin. -/
  | remembered (place : Nat) (name : Option (List Char))
  | plain (changes : Changes)

/-- A regular expression as it is written. -/
inductive RegexPattern where
  | empty
  /-- Options for what follows. -/
  | options (changes : Changes)
  | literal (c : Written)
  | dot
  | anchor (a : Anchor)
  | named (s : NamedSet)
  | bracketed (negated : Bool) (s : SetPattern)
  /-- At least `low` pieces and, unless there is no bound, at most `high`; as many as
      possible or as few. -/
  | repetition (p : RegexPattern) (low : Nat) (high : Option Nat) (greedy : Bool)
  | group (kind : GroupKind) (p : RegexPattern)
  | alternation (parts : List RegexPattern)
  | concatenation (parts : List RegexPattern)

namespace SetPattern

mutual

/-- How far a set is nested. -/
def depth : SetPattern → Nat
  | bracketed _ s => s.depth + 1
  | union items => depthOfAll items + 1
  | operation _ left right => max left.depth right.depth + 1
  | _ => 0

/-- How far the sets of a list are nested. -/
def depthOfAll : List SetPattern → Nat
  | [] => 0
  | s :: rest => max s.depth (depthOfAll rest)

end

/-- The union of some sets, which is nothing of its own for a single one. -/
def ofItems : List SetPattern → SetPattern
  | [] => empty
  | [item] => item
  | items => union items

end SetPattern

namespace RegexPattern

/-- The deepest nesting that is accepted. -/
def nestLimit : Nat :=
  250

mutual

/-- How far a pattern is nested. -/
def depth : RegexPattern → Nat
  | bracketed _ s => s.depth + 1
  | repetition p _ _ _ => p.depth + 1
  | group _ p => p.depth + 1
  | alternation parts => depthOfAll parts + 1
  | concatenation parts => depthOfAll parts + 1
  | _ => 0

/-- How far the patterns of a list are nested. -/
def depthOfAll : List RegexPattern → Nat
  | [] => 0
  | p :: rest => max p.depth (depthOfAll rest)

end

mutual

/-- The names of the groups of a pattern. -/
def names : RegexPattern → List (List Char)
  | repetition p _ _ _ => p.names
  | group (.remembered _ (some name)) p => name :: p.names
  | group _ p => p.names
  | alternation parts => namesOfAll parts
  | concatenation parts => namesOfAll parts
  | _ => []

/-- The names of the groups of the patterns of a list. -/
def namesOfAll : List RegexPattern → List (List Char)
  | [] => []
  | p :: rest => p.names ++ namesOfAll rest

end

/-- The concatenation of some patterns, which is nothing of its own for a single one. -/
def ofParts : List RegexPattern → RegexPattern
  | [] => empty
  | [part] => part
  | parts => concatenation parts

/-- The alternation of some patterns, which is nothing of its own for a single one. -/
def ofBranches : List RegexPattern → RegexPattern
  | [part] => part
  | parts => alternation parts

/-- Whether a repetition may follow a pattern. -/
def isRepeatable : RegexPattern → Bool
  | empty => false
  | options _ => false
  | _ => true

end RegexPattern

end DocumentMapper
