import DocumentMapper.Text.Regex.Pattern.Escape

/-!
# Sets between brackets

Between brackets stand characters, ranges, named sets and further brackets, joined by
operations on sets that all bind alike. A dash is a character of its own at the beginning,
and before a closing bracket or another dash; so is a closing bracket at the beginning.

## Main definitions

* `SetPattern.bracketed?`: The set after an opening bracket.
-/

namespace DocumentMapper

namespace SetPattern

open RegexPattern (skip isBlank Escape escape?)

/-- The alphabets of ASCII that have a name. -/
def asciiNames : List String :=
  ["alnum", "alpha", "ascii", "blank", "cntrl", "digit", "graph", "lower", "print", "punct",
    "space", "upper", "word", "xdigit"]

/-- An alphabet of ASCII by its name, after its opening bracket. -/
def ascii? : List Char → Option (SetPattern × List Char)
  | ':' :: rest =>
    let (negated, rest) := match rest with
      | '^' :: rest => (true, rest)
      | rest => (false, rest)
    let name := String.ofList (rest.takeWhile (· != ':'))
    match rest.dropWhile (· != ':') with
    | ':' :: ']' :: rest =>
      if asciiNames.contains name then some (ascii name negated, rest) else none
    | _ => none
  | _ => none

/-- The character that follows when blanks are passed over. The first mark of a comment
    counts as a blank, and what the comment says does not. -/
def peekBlanks (inComment : Bool) : List Char → Option Char
  | [] => none
  | c :: rest =>
    if isBlank c then peekBlanks inComment rest
    else if c = '#' && !inComment then peekBlanks true rest
    else some c

/-- The character that follows. -/
def peek (verbose : Bool) (s : List Char) : Option Char :=
  if verbose then peekBlanks false s <|> s.head? else s.head?

/-- A character or a named set between brackets. -/
def item? (verbose : Bool) : List Char → Option (Escape × List Char)
  | [] => none
  | '\\' :: rest => escape? verbose rest
  | c :: rest => some (.ofChar c, rest)

/-- The set that an item stands for. -/
def ofItem? : Escape → Option SetPattern
  | .literal c => some (single c)
  | .named s => some (named s)
  | .anchor _ => none

/-- An item or a range. -/
def range? (verbose : Bool) (s : List Char) : Option (SetPattern × List Char) := do
  let (first, rest) ← item? verbose s
  match skip verbose rest with
  | [] => none
  | '-' :: after =>
    let next := peek verbose after
    -- A minus before the end or before another minus stands for itself, or begins a difference.
    if next = some ']' || next = some '-' then return (← ofItem? first, '-' :: after)
    else
      let (second, rest) ← item? verbose (skip verbose after)
      match first, second with
      | .literal low, .literal high =>
        if low.char ≤ high.char then some (range low high, rest) else none
      | _, _ => none
  | rest => return (← ofItem? first, rest)

/-- The dashes that brackets may begin with, in front of the items read so far. -/
def dashes (verbose : Bool) (items : List SetPattern) (s : List Char) :
    List SetPattern × List Char :=
  match _ : skip verbose s with
  | '-' :: rest => dashes verbose (single ⟨'-', false⟩ :: items) rest
  | rest => (items, rest)
termination_by s.length
decreasing_by exact RegexPattern.length_lt_of_skip (by assumption)

/-- What brackets begin with: whether they are negated, and the characters that would
    mean something else further on, the last one first. -/
def opening (verbose : Bool) (s : List Char) : Bool × List SetPattern × List Char :=
  let (negated, rest) := match skip verbose s with
    | '^' :: rest => (true, rest)
    | rest => (false, rest)
  match dashes verbose [] rest with
  | ([], ']' :: rest) => (negated, [single ⟨']', false⟩], rest)
  | (items, rest) => (negated, items, rest)

/-- The items read so far, the last one first, as the right side of an operation. -/
def close (left : Option (SetOperation × SetPattern)) (items : List SetPattern) : SetPattern :=
  match left with
  | some (op, left) => operation op left (ofItems items.reverse)
  | none => ofItems items.reverse

/-- The rest of a set up to its closing bracket. There are at most `budget` brackets
    around what brackets may still open. -/
def rest? (verbose : Bool) : Nat → Nat → Option (SetOperation × SetPattern) → List SetPattern →
    List Char → Option (SetPattern × List Char)
  | 0, _, _, _, _ => none
  | fuel + 1, budget, left, items, s =>
    match skip verbose s with
    | [] => none
    | ']' :: rest => some (close left items, rest)
    | '&' :: '&' :: rest =>
      rest? verbose fuel budget (some (.intersection, close left items)) [] rest
    | '-' :: '-' :: rest =>
      rest? verbose fuel budget (some (.difference, close left items)) [] rest
    | '~' :: '~' :: rest =>
      rest? verbose fuel budget (some (.symmetricDifference, close left items)) [] rest
    | '[' :: rest =>
      match ascii? rest, budget with
      | some (s, rest), _ => rest? verbose fuel budget left (s :: items) rest
      -- Only here is something nested, so only here is the budget used.
      | none, 0 => none
      | none, budget' + 1 => do
        let (negated, first, rest) := opening verbose rest
        let (s, rest) ← rest? verbose fuel budget' none first rest
        rest? verbose fuel budget left (bracketed negated s :: items) rest
    | other => do
      let (s, rest) ← range? verbose other
      rest? verbose fuel budget left (s :: items) rest

/-- The set after an opening bracket, and whether it is negated. -/
def bracketed? (verbose : Bool) (budget : Nat) (s : List Char) :
    Option (Bool × SetPattern × List Char) := do
  let (negated, first, rest) := opening verbose s
  let (set, rest) ← rest? verbose (s.length + 1) budget none first rest
  return (negated, set, rest)

end SetPattern

end DocumentMapper
