import DocumentMapper.Text.Regex.Pattern

/-!
# Escapes in patterns

A backslash takes the meaning from a character or gives it one. With the option for it,
blanks and comments may stand in a pattern to make it easier to read. They are then passed
over also within an escape, but only between its parts.

## Main definitions

* `RegexPattern.skip`: The text from where something with a meaning stands.
* `RegexPattern.Escape`: What a backslash introduces.
* `RegexPattern.escape?`: The escape at the beginning of a text.
* `RegexPattern.isMeta`: The characters that mean something else than themselves.
* `RegexPattern.escaped`: The pattern of a text as it is.
-/

namespace DocumentMapper

namespace RegexPattern

/-- The characters that are blank. -/
def blanks : CharSet :=
  Property.whiteSpace.members

def isBlank (c : Char) : Bool :=
  blanks.contains c

/-- The text after the blanks and comments before it. A comment reaches to the end of its
    line. -/
def afterBlanks (inComment : Bool) : List Char → List Char
  | [] => []
  | c :: rest =>
    if inComment then afterBlanks (c != '\n') rest
    else if c = '#' then afterBlanks true rest
    else if isBlank c then afterBlanks false rest
    else c :: rest

/-- The text from where something with a meaning stands. -/
def skip (verbose : Bool) (s : List Char) : List Char :=
  if verbose then afterBlanks false s else s

theorem length_afterBlanks_le (inComment : Bool) (s : List Char) :
    (afterBlanks inComment s).length ≤ s.length := by
  fun_induction afterBlanks inComment s <;> simp_all <;> omega

theorem length_skip_le (verbose : Bool) (s : List Char) :
    (skip verbose s).length ≤ s.length := by
  unfold skip
  split
  · exact length_afterBlanks_le false s
  · exact Nat.le_refl _

theorem length_lt_of_skip {verbose : Bool} {s rest : List Char} {c : Char}
    (h : skip verbose s = c :: rest) : rest.length < s.length := by
  have := length_skip_le verbose s
  simp only [h, List.length_cons] at this
  omega

/-- The characters that mean something else than themselves. -/
def isMeta (c : Char) : Bool :=
  "\\.+*?()|[]\x7b\x7d^$#&-~".toList.contains c

/-- The pattern of a text as it is: a backslash stands before every character with a meaning
    of its own. -/
def escaped (text : String) : String :=
  String.ofList (text.toList.flatMap fun c => if isMeta c then ['\\', c] else [c])

/-- What a backslash introduces. -/
inductive Escape where
  | literal (c : Written)
  | anchor (a : Anchor)
  | named (s : NamedSet)

/-- A character that is not written as a byte. -/
def Escape.ofChar (c : Char) : Escape :=
  literal ⟨c, false⟩

/-- The character with a number. -/
def character? (n : Nat) : Option Char :=
  if n.isValidChar then some (Char.ofNat n) else none

/-- A character by a fixed count of hexadecimal digits. -/
def fixedDigits? (verbose : Bool) : Nat → Nat → List Char → Option (Char × List Char)
  | 0, n, s => do return (← character? n, s)
  | count + 1, n, s =>
    match s with
    | [] => none
    | c :: rest => do fixedDigits? verbose count (n * 16 + (← Hex.digitOf? c)) (skip verbose rest)

/-- A character by any count of hexadecimal digits before a closing brace. -/
def bracedDigits? (verbose : Bool) (n : Option Nat) (s : List Char) :
    Option (Char × List Char) :=
  match _ : skip verbose s with
  | [] => none
  | '}' :: rest => do return (← character? (← n), rest)
  | c :: rest => do bracedDigits? verbose (some (n.getD 0 * 16 + (← Hex.digitOf? c))) rest
termination_by s.length
decreasing_by exact length_lt_of_skip (by assumption)

/-- A character by its number, after the letter that announces it. -/
def number? (verbose : Bool) (count : Nat) (s : List Char) : Option (Escape × List Char) :=
  match skip verbose s with
  | '{' :: rest => do
    let (c, rest) ← bracedDigits? verbose none rest
    return (.ofChar c, rest)
  | rest => do
    let (c, rest) ← fixedDigits? verbose count 0 rest
    return (.literal ⟨c, count = 2⟩, rest)

/-- The characters before a closing brace and the rest after it. -/
def braced? (verbose : Bool) (s : List Char) : Option (List Char × List Char) :=
  match _ : skip verbose s with
  | [] => none
  | '}' :: rest => some ([], rest)
  | c :: rest => do
    let (name, rest) ← braced? verbose rest
    return (c :: name, rest)
termination_by s.length
decreasing_by exact length_lt_of_skip (by assumption)

/-- The parts of a text around the first place where a piece stands. -/
def splitAt? (piece : List Char) : List Char → Option (List Char × List Char)
  | [] => none
  | c :: rest =>
    if piece.isPrefixOf (c :: rest) then some ([], (c :: rest).drop piece.length)
    else (splitAt? piece rest).map fun parts => (c :: parts.1, parts.2)

/-- What a text in braces names, and whether the name itself negates it. -/
def nameOf (text : List Char) : UnicodeName × Bool :=
  match splitAt? ['!', '='] text with
  | some (property, value) => (.valued property value, true)
  | none =>
    match splitAt? [':'] text <|> splitAt? ['='] text with
    | some (property, value) => (.valued property value, false)
    | none => (.alone text, false)

/-- A set of characters by its name, after the letter that announces it. -/
def unicode? (verbose negated : Bool) (s : List Char) : Option (Escape × List Char) :=
  match skip verbose s with
  | [] => none
  | '{' :: rest => do
    let (text, rest) ← braced? verbose rest
    let (name, unlike) := nameOf text
    return (.named (.unicode name (negated != unlike)), rest)
  | '\\' :: _ => none
  | c :: rest => some (.named (.unicode (.alone [c]) negated), rest)

/-- The letters and dashes at the beginning of a text. -/
def boundaryName (verbose : Bool) (s : List Char) : List Char × List Char :=
  match _ : skip verbose s with
  | [] => ([], [])
  | c :: rest =>
    if c.isAlpha || c = '-' then
      let (name, after) := boundaryName verbose rest
      (c :: name, after)
    else ([], c :: rest)
termination_by s.length
decreasing_by exact length_lt_of_skip (by assumption)

/-- The kinds of word boundary that have a name. -/
def boundary? (name : List Char) : Option Anchor :=
  match String.ofList name with
  | "start" => some .wordStart
  | "end" => some .wordEnd
  | "start-half" => some .wordStartHalf
  | "end-half" => some .wordEndHalf
  | _ => none

/-- The boundary of a word, which may have a name in braces. Braces in which something
    else stands first are none of its own. -/
def wordBoundary? (verbose : Bool) (s : List Char) : Option (Escape × List Char) :=
  match s with
  | '{' :: rest =>
    match skip verbose rest, boundaryName verbose rest with
    | [], _ => none
    | _, ([], _) => some (.anchor .wordBoundary, s)
    | _, (name, '}' :: rest) => do return (.anchor (← boundary? name), rest)
    | _, _ => none
  | _ => some (.anchor .wordBoundary, s)

/-- What a backslash introduces. -/
def escape? (verbose : Bool) : List Char → Option (Escape × List Char)
  | [] => none
  | 'x' :: rest => number? verbose 2 rest
  | 'u' :: rest => number? verbose 4 rest
  | 'U' :: rest => number? verbose 8 rest
  | 'p' :: rest => unicode? verbose false rest
  | 'P' :: rest => unicode? verbose true rest
  | 'd' :: rest => some (.named (.shorthand .digit false), rest)
  | 'D' :: rest => some (.named (.shorthand .digit true), rest)
  | 's' :: rest => some (.named (.shorthand .blank false), rest)
  | 'S' :: rest => some (.named (.shorthand .blank true), rest)
  | 'w' :: rest => some (.named (.shorthand .word false), rest)
  | 'W' :: rest => some (.named (.shorthand .word true), rest)
  | 'a' :: rest => some (.ofChar '\x07', rest)
  | 'f' :: rest => some (.ofChar '\x0c', rest)
  | 't' :: rest => some (.ofChar '\t', rest)
  | 'n' :: rest => some (.ofChar '\n', rest)
  | 'r' :: rest => some (.ofChar '\r', rest)
  | 'v' :: rest => some (.ofChar '\x0b', rest)
  | 'A' :: rest => some (.anchor .textStart, rest)
  | 'z' :: rest => some (.anchor .textEnd, rest)
  | 'b' :: rest => wordBoundary? verbose rest
  | 'B' :: rest => some (.anchor .noWordBoundary, rest)
  | '<' :: rest => some (.anchor .wordStart, rest)
  | '>' :: rest => some (.anchor .wordEnd, rest)
  | c :: rest =>
    -- A letter or digit without a meaning is refused, so that it may get one later.
    if c.toNat < 128 && !c.isAlphanum then some (.ofChar c, rest) else none

end RegexPattern

end DocumentMapper
