import DocumentMapper.Text.Charset
import DocumentMapper.Text.Regex.Pattern.Brackets

/-!
# Reading patterns

A pattern is read from left to right, one part after the other. Whether blanks and
comments are passed over is an option like others, which a pattern sets for the rest of a
group or for a group alone.

No group may be named twice, and no pattern may be nested deeper than the limit.

## Main definitions

* `RegexPattern.ofText?`: The pattern that a text writes.
-/

namespace DocumentMapper

namespace RegexPattern

/-- The digits of a decimal number. -/
def decimalDigits (verbose : Bool) (s : List Char) : List Char × List Char :=
  match s with
  | [] => ([], [])
  | c :: rest =>
    if c.isDigit then
      let (digits, after) := decimalDigits verbose (skip verbose rest)
      (c :: digits, after)
    else ([], c :: rest)
termination_by s.length
decreasing_by
  have := length_skip_le verbose rest
  simp only [List.length_cons]
  omega

/-- A decimal number of four bytes with blanks around it. -/
def decimal? (verbose : Bool) (s : List Char) : Option Nat × List Char :=
  let (digits, rest) := decimalDigits verbose (s.dropWhile isBlank)
  let n := digits.foldl (fun n d => n * 10 + (d.toNat - '0'.toNat)) 0
  (if digits.isEmpty || 4294967295 < n then none else some n, skip verbose (rest.dropWhile isBlank))

/-- The bounds of a repetition after its opening brace. -/
def bounds? (verbose : Bool) (s : List Char) : Option (Nat × Option Nat × List Char) := do
  let (low, rest) := decimal? verbose (skip verbose s)
  let low ← low
  match rest with
  | '}' :: rest => return (low, some low, rest)
  | ',' :: rest =>
    match skip verbose rest with
    | '}' :: rest => return (low, none, rest)
    | rest =>
      let (high, rest) := decimal? verbose rest
      let high ← high
      match rest with
      | '}' :: rest => if low ≤ high then return (low, some high, rest) else none
      | _ => none
  | _ => none

/-- The option that a letter stands for. -/
def flag? : Char → Option Flag
  | 'i' => some .anyCase
  | 'm' => some .manyLines
  | 's' => some .dotMatchesAll
  | 'U' => some .swapsGreed
  | 'u' => some .unicode
  | 'R' => some .anyLineEnd
  | 'x' => some .verbose
  | _ => none

/-- Options up to the parenthesis or colon that ends them, which is left. No option stands
    twice, and a dash, of which there is one at most, stands before some. -/
def changes? (on dashed : Bool) (changes : Changes) : List Char → Option (Changes × List Char)
  | [] => none
  | c :: rest =>
    if c = ':' || c = ')' then if dashed then none else some (changes.reverse, c :: rest)
    else if c = '-' then if on then changes? false true changes rest else none
    else
      match flag? c with
      | some flag =>
        if changes.any (·.1 = flag) then none else changes? on false ((flag, on) :: changes) rest
      | none => none

/-- Whether a text names a group. -/
def isGroupName : List Char → Bool
  | [] => false
  | c :: rest =>
    (c = '_' || Charset.isAlphabetic c) &&
      rest.all fun c => c = '_' || c = '.' || c = '[' || c = ']' || Charset.isAlphabetic c ||
        Charset.isNumeric c

/-- The name of a group up to the angle bracket that ends it. -/
def groupName? (s : List Char) : Option (List Char × List Char) :=
  let name := s.takeWhile (· != '>')
  match s.dropWhile (· != '>') with
  | _ :: rest => if isGroupName name then some (name, rest) else none
  | [] => none

/-- What an opening parenthesis begins. -/
inductive Opening where
  | group (kind : GroupKind)
  /-- Options for the rest of the group around. -/
  | options (changes : Changes)

/-- What an opening parenthesis begins, and the rest after it. Groups that look around are
    not accepted. -/
def opening? (verbose : Bool) (s : List Char) : Option (Opening × List Char) :=
  match skip verbose s with
  -- No look ahead or behind: a search goes once over the text.
  | '?' :: '=' :: _ | '?' :: '!' :: _ | '?' :: '<' :: '=' :: _ | '?' :: '<' :: '!' :: _ => none
  | '?' :: 'P' :: '<' :: rest | '?' :: '<' :: rest => do
    let (name, rest) ← groupName? rest
    return (.group (.remembered s.length (some name)), rest)
  | '?' :: rest => do
    match ← changes? true false [] rest with
    | (changes, ':' :: rest) => return (.group (.plain changes), rest)
    | ([], _) => none
    | (changes, rest) => return (.options changes, rest.drop 1)
  | rest => some (.group (.remembered s.length none), rest)

/-- Whether blanks are passed over after some changes. -/
def verboseAfter (verbose : Bool) (changes : Changes) : Bool :=
  changes.foldl (fun v change => if change.1 = .verbose then change.2 else v) verbose

/-- What has been read of a group. -/
structure Progress where
  verbose : Bool
  /-- The alternatives before the current one, the last one first. -/
  branches : List RegexPattern
  /-- The parts of the current alternative, the last one first. -/
  parts : List RegexPattern

namespace Progress

/-- The progress at the start of a group. -/
def start (verbose : Bool) : Progress :=
  ⟨verbose, [], []⟩

def push (p : Progress) (part : RegexPattern) : Progress :=
  { p with parts := part :: p.parts }

/-- Begins the next alternative. -/
def branch (p : Progress) : Progress :=
  { p with branches := ofParts p.parts.reverse :: p.branches, parts := [] }

/-- The pattern read so far. -/
def pattern (p : Progress) : RegexPattern :=
  ofBranches p.branch.branches.reverse

/-- Repeats the last part. -/
def repeat? (p : Progress) (low : Nat) (high : Option Nat) (greedy : Bool) : Option Progress :=
  match p.parts with
  | part :: rest =>
    if part.isRepeatable then some { p with parts := .repetition part low high greedy :: rest }
    else none
  | [] => none

end Progress

/-- A question mark asks for as few pieces as possible. -/
def greed : List Char → Bool × List Char
  | '?' :: rest => (false, rest)
  | rest => (true, rest)

/-- The part that an escape stands for. -/
def ofEscape : Escape → RegexPattern
  | .literal c => literal c
  | .anchor a => anchor a
  | .named s => named s

/-- The rest of a group, up to its closing parenthesis or the end of the text. There are
    at most `budget` levels for what it still opens. -/
def group? : Nat → Nat → Progress → List Char → Option (RegexPattern × List Char)
  | 0, _, _, _ => none
  | fuel + 1, budget, p, s =>
    match skip p.verbose s with
    | [] => some (p.pattern, [])
    | ')' :: rest => some (p.pattern, ')' :: rest)
    | '|' :: rest => group? fuel budget p.branch rest
    | '(' :: rest => do
      match ← opening? p.verbose rest, budget with
      | (.options changes, rest), _ =>
        -- Options without a group of their own hold for the rest of the one around.
        let p := { p with verbose := verboseAfter p.verbose changes }
        group? fuel budget (p.push (.options changes)) rest
      -- Groups may be nested as deep as the budget says.
      | (.group _, _), 0 => none
      | (.group kind, rest), budget' + 1 =>
        let verbose := match kind with
          | .plain changes => verboseAfter p.verbose changes
          | .remembered _ _ => p.verbose
        match ← group? fuel budget' (.start verbose) rest with
        | (inner, ')' :: rest) => group? fuel budget (p.push (.group kind inner)) rest
        | _ => none
    | '[' :: rest => do
      let (negated, set, rest) ← SetPattern.bracketed? p.verbose budget rest
      group? fuel budget (p.push (.bracketed negated set)) rest
    | '*' :: rest => do
      let (greedy, rest) := greed rest
      group? fuel budget (← p.repeat? 0 none greedy) rest
    | '+' :: rest => do
      let (greedy, rest) := greed rest
      group? fuel budget (← p.repeat? 1 none greedy) rest
    | '?' :: rest => do
      let (greedy, rest) := greed rest
      group? fuel budget (← p.repeat? 0 (some 1) greedy) rest
    | '{' :: rest => do
      let (low, high, rest) ← bounds? p.verbose rest
      let (greedy, rest) := greed (skip p.verbose rest)
      group? fuel budget (← p.repeat? low high greedy) rest
    | '.' :: rest => group? fuel budget (p.push .dot) rest
    | '^' :: rest => group? fuel budget (p.push (.anchor .lineStart)) rest
    | '$' :: rest => group? fuel budget (p.push (.anchor .lineEnd)) rest
    | '\\' :: rest => do
      let (e, rest) ← escape? p.verbose rest
      group? fuel budget (p.push (ofEscape e)) rest
    | c :: rest => group? fuel budget (p.push (.literal ⟨c, false⟩)) rest

/-- The pattern that a text writes. -/
def ofText? (text : String) : Option RegexPattern :=
  match group? (text.length + 1) nestLimit (.start false) text.toList with
  | some (p, []) => if p.depth ≤ nestLimit && p.names.Nodup then some p else none
  | _ => none

end RegexPattern

end DocumentMapper
