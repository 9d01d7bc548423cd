import DocumentMapper.Text.Regex.Basic
import DocumentMapper.Text.Regex.Pattern
import DocumentMapper.Text.Unicode.Folding

/-!
# What patterns mean

The meaning of a pattern depends on the options in force, and a pattern can change them
for what comes after it. With all cases, sets are widened before they are negated or
combined.

Without Unicode a pattern speaks of bytes. Only those of ASCII are characters, and a set
or a dot that would hold others has no meaning.

## Main definitions

* `Flags`: The options in force.
* `Flags.set?`: The set that stands between brackets.
* `Flags.regex?`: The expression that a pattern means, and the options after it.
-/

namespace DocumentMapper

/-- The options in force. -/
structure Flags where
  anyCase : Bool := false
  manyLines : Bool := false
  dotMatchesAll : Bool := false
  swapsGreed : Bool := false
  unicode : Bool := true
  anyLineEnd : Bool := false
deriving DecidableEq, Repr

namespace Flags

/-- The options with one of them set. Blanks are passed over when a pattern is read. -/
def set (f : Flags) (flag : Flag) (on : Bool) : Flags :=
  match flag with
  | .anyCase => { f with anyCase := on }
  | .manyLines => { f with manyLines := on }
  | .dotMatchesAll => { f with dotMatchesAll := on }
  | .swapsGreed => { f with swapsGreed := on }
  | .unicode => { f with unicode := on }
  | .anyLineEnd => { f with anyLineEnd := on }
  | .verbose => f

/-- The options after some changes. -/
def apply (f : Flags) (changes : Changes) : Flags :=
  changes.foldl (fun f change => f.set change.1 change.2) f

/-- The alphabets of ASCII by name. -/
def asciiTable (name : String) : String :=
  match name with
  | "alnum" => "30-39 41-5A 61-7A"
  | "alpha" => "41-5A 61-7A"
  | "ascii" => "0-7F"
  | "blank" => "9 20"
  | "cntrl" => "0-1F 7F"
  | "digit" => "30-39"
  | "graph" => "21-7E"
  | "lower" => "61-7A"
  | "print" => "20-7E"
  | "punct" => "21-2F 3A-40 5B-60 7B-7E"
  | "space" => "9-D 20"
  | "upper" => "41-5A"
  | "word" => "30-39 41-5A 5F 61-7A"
  | _ => "30-39 41-46 61-66"

/-- The letters of ASCII in a set that are of one case, moved to the other. The cases are
    given by their first letters. -/
def otherCase (s : CharSet) (first image : Char) : CharSet :=
  let letters := s.intersection (.range first (Char.ofNat (first.toNat + 25)))
  ⟨letters.ranges.map fun r =>
    (r.1 + image.toNat - first.toNat, r.2 + image.toNat - first.toNat)⟩

/-- A set with both cases of its letters of ASCII. -/
def asciiFolded (s : CharSet) : CharSet :=
  (s.union (otherCase s 'a' 'A')).union (otherCase s 'A' 'a')

/-- A set with all cases of its members, if the options ask for them. -/
def fold (f : Flags) (s : CharSet) : CharSet :=
  if f.anyCase then if f.unicode then s.folded else asciiFolded s else s

/-- A set or, if it is negated, what it does not hold. Bytes are characters in ASCII
    only. -/
def negate? (f : Flags) (negated : Bool) (s : CharSet) : Option CharSet :=
  let s := if negated then s.complement else s
  if f.unicode || s.isAscii then some s else none

/-- The set that a letter after a backslash stands for. -/
def shorthand (f : Flags) (kind : Shorthand) : CharSet :=
  if f.unicode then
    match kind with
    | .digit => Category.members .decimalNumber
    | .blank => Property.members .whiteSpace
    | .word => Assertion.wordCharacters
  else
    match kind with
    | .digit => .ofTable (asciiTable "digit")
    | .blank => .ofTable (asciiTable "space")
    | .word => Assertion.asciiWordCharacters

/-- A named set. -/
def named? (f : Flags) : NamedSet → Option CharSet
  | .shorthand kind negated => f.negate? negated (f.shorthand kind)
  | .unicode name negated =>
    if f.unicode then do f.negate? negated (f.fold (← name.members?)) else none

/-- The character of a literal between brackets. -/
def member? (f : Flags) (c : Written) : Option Char :=
  if f.unicode || c.char.toNat < 128 then some c.char else none

mutual

/-- The set that stands between brackets. -/
def set? (f : Flags) : SetPattern → Option CharSet
  | .empty => some .empty
  | .single c => (f.member? c).map CharSet.single
  | .range low high => do return .range (← f.member? low) (← f.member? high)
  | .ascii name negated => f.negate? negated (f.fold (.ofTable (asciiTable name)))
  | .named s => f.named? s
  | .bracketed negated s => do f.negate? negated (f.fold (← f.set? s))
  | .union items => do return .unionAll (← f.sets? items)
  | .operation op left right => do
    let left := f.fold (← f.set? left)
    let right := f.fold (← f.set? right)
    match op with
    | .intersection => return left.intersection right
    | .difference => return left.difference right
    | .symmetricDifference => return left.symmetricDifference right

/-- The sets of a list. -/
def sets? (f : Flags) : List SetPattern → Option (List CharSet)
  | [] => some []
  | s :: rest => do return (← f.set? s) :: (← f.sets? rest)

end

/-- The expression of a literal. -/
def literal? (f : Flags) (c : Written) : Option Regex :=
  if f.unicode then
    if f.anyCase && CaseFolding.changes c.char then some (.ofSet (CharSet.single c.char).folded)
    else some (.literal [c.char])
  else if c.isByte && 128 ≤ c.char.toNat then none
  else if f.anyCase && c.char.isAlpha then some (.ofSet (asciiFolded (.single c.char)))
  else some (.literal [c.char])

/-- The expression of a dot. -/
def dot? (f : Flags) : Option Regex :=
  if !f.unicode then none
  else if f.dotMatchesAll then some (.chars .all)
  else if f.anyLineEnd then some (.chars (CharSet.ofTable "A D").complement)
  else some (.chars (CharSet.single '\n').complement)

/-- The condition that is asked of a place. -/
def assertion (f : Flags) : Anchor → Assertion
  | .lineStart =>
    if f.manyLines then if f.anyLineEnd then .anyLineStart else .lineStart else .textStart
  | .lineEnd => if f.manyLines then if f.anyLineEnd then .anyLineEnd else .lineEnd else .textEnd
  | .textStart => .textStart
  | .textEnd => .textEnd
  | .wordBoundary => .word .boundary !f.unicode
  | .noWordBoundary => .word .noBoundary !f.unicode
  | .wordStart => .word .start !f.unicode
  | .wordEnd => .word .stop !f.unicode
  | .wordStartHalf => .word .startHalf !f.unicode
  | .wordEndHalf => .word .stopHalf !f.unicode

mutual

/-- The expression that a pattern means, and the options after it. -/
def regex? (f : Flags) : RegexPattern → Option (Regex × Flags)
  | .empty => some (.empty, f)
  | .options changes => some (.empty, f.apply changes)
  | .literal c => do return (← f.literal? c, f)
  | .dot => do return (← f.dot?, f)
  | .anchor a => some (.assertion (f.assertion a), f)
  | .named s => do return (.ofSet (← f.named? s), f)
  | .bracketed negated s => do return (.ofSet (← f.negate? negated (f.fold (← f.set? s))), f)
  | .repetition p low high greedy => do
    let (r, f) ← f.regex? p
    return (.repetition r low high (greedy != f.swapsGreed), f)
  -- Flags that are changed inside of a group end with it.
  | .group (.remembered place _) p => do
    let (r, _) ← f.regex? p
    return (.group place r, f)
  | .group (.plain changes) p => do
    let (r, _) ← (f.apply changes).regex? p
    return (r, f)
  | .alternation parts => do
    let (rs, f) ← f.regexes? parts
    return (.alternatives rs, f)
  | .concatenation parts => do
    let (rs, f) ← f.regexes? parts
    return (.concat rs, f)

/-- The expressions that patterns mean one after the other, and the options after them. -/
def regexes? (f : Flags) : List RegexPattern → Option (List Regex × Flags)
  | [] => some ([], f)
  | p :: rest => do
    let (r, f) ← f.regex? p
    let (rs, f) ← f.regexes? rest
    return (r :: rs, f)

end

end Flags

end DocumentMapper
