/-!
# Scanning JSON text

Settings are read from JSON text without building a tree. A scanner takes the rest
of a text and gives what it found together with the text after it, or nothing if
the text is not well formed. A value that nobody asks for is skipped: its form is
checked, but neither the size of its numbers nor the meaning of its escapes.

## Main definitions

* `Scan.string?`: A JSON string with its escapes resolved.
* `Scan.natural?`: A number without sign, fraction and exponent.
* `Scan.skip?`: Any value.
-/

namespace DocumentMapper.Scan

/-- A text without the blanks it begins with. -/
def blanks (s : List Char) : List Char :=
  s.dropWhile fun c => c = ' ' || c = '\n' || c = '\t' || c = '\r'

/-- A part of a string: a character, or a code unit given by its number. -/
inductive Piece where
  | char (c : Char)
  | unit (n : Nat)
deriving DecidableEq, Repr

/-- The character a letter after a backslash stands for. -/
def escaped? : Char → Option Char
  | '"' => some '"'
  | '\\' => some '\\'
  | '/' => some '/'
  | 'b' => some '\x08'
  | 'f' => some '\x0c'
  | 'n' => some '\n'
  | 'r' => some '\r'
  | 't' => some '\t'
  | _ => none

/-- The number a hexadecimal digit stands for. -/
def hexValue? (c : Char) : Option Nat :=
  if '0' ≤ c ∧ c ≤ '9' then some (c.toNat - 48)
  else if 'a' ≤ c ∧ c ≤ 'f' then some (c.toNat - 87)
  else if 'A' ≤ c ∧ c ≤ 'F' then some (c.toNat - 55)
  else none

/-- The number of four hexadecimal digits. -/
def codeUnit? (a b c d : Char) : Option Nat := do
  return (((← hexValue? a) * 16 + (← hexValue? b)) * 16 + (← hexValue? c)) * 16 + (← hexValue? d)

/-- The parts of a string up to its closing mark, and the text after it. Control
    characters must be escaped. -/
def pieces? : List Char → Option (List Piece × List Char)
  | [] => none
  | '"' :: rest => some ([], rest)
  | '\\' :: 'u' :: a :: b :: c :: d :: rest => do
    let n ← codeUnit? a b c d
    let (ps, rest) ← pieces? rest
    return (.unit n :: ps, rest)
  | '\\' :: c :: rest => do
    let c ← escaped? c
    let (ps, rest) ← pieces? rest
    return (.char c :: ps, rest)
  | c :: rest =>
    if c.toNat < 32 ∨ c = '\\' then none
    else do
      let (ps, rest) ← pieces? rest
      return (.char c :: ps, rest)

/-- The characters that parts stand for. Units above the basic plane come in pairs. -/
def characters? : List Piece → Option (List Char)
  | [] => some []
  | .char c :: rest => return c :: (← characters? rest)
  -- Two units that follow each other may be one character; a half without its other is none.
  | .unit high :: .unit low :: rest =>
    if 0xd800 ≤ high ∧ high < 0xdc00 then
      if 0xdc00 ≤ low ∧ low < 0xe000 then do
        let c := Char.ofNat (0x10000 + (high - 0xd800) * 1024 + (low - 0xdc00))
        return c :: (← characters? rest)
      else none
    else if 0xdc00 ≤ high ∧ high < 0xe000 then none
    else return Char.ofNat high :: (← characters? (.unit low :: rest))
  | .unit n :: rest =>
    if 0xd800 ≤ n ∧ n < 0xe000 then none else return Char.ofNat n :: (← characters? rest)
termination_by ps => ps.length

/-- A string behind its opening mark. -/
def string? (s : List Char) : Option (String × List Char) := do
  let (ps, rest) ← pieces? s
  return (String.ofList (← characters? ps), rest)

/-- The digits of a whole number: a zero stands alone. -/
def digits? (s : List Char) : Option (List Char × List Char) :=
  match s.span Char.isDigit with
  | ([], _) => none
  | ('0' :: _ :: _, _) => none
  | (digits, rest) => some (digits, rest)

/-- The text after a fraction, if there is one. -/
def fraction? : List Char → Option (List Char)
  | '.' :: rest =>
    match rest.span Char.isDigit with
    | ([], _) => none
    | (_, rest) => some rest
  | rest => some rest

/-- The text after an exponent, if there is one. -/
def exponent? : List Char → Option (List Char)
  | [] => some []
  | c :: rest =>
    if c = 'e' ∨ c = 'E' then
      let unsigned := match rest with
        | '+' :: rest => rest
        | '-' :: rest => rest
        | rest => rest
      -- An exponent needs a digit, and its sign is none.
      match unsigned.span Char.isDigit with
      | ([], _) => none
      | (_, rest) => some rest
    else some (c :: rest)

/-- The text after a number without its sign. -/
def number? (s : List Char) : Option (List Char) := do
  let (_, rest) ← digits? s
  exponent? (← fraction? rest)

/-- A natural number below `2 ^ 64`, written without fraction and exponent. -/
def natural? (s : List Char) : Option (Nat × List Char) := do
  let (digits, rest) ← digits? s
  match rest with
  | '.' :: _ => none
  | 'e' :: _ => none
  | 'E' :: _ => none
  | _ =>
    let n := digits.foldl (fun n c => n * 10 + (c.toNat - 48)) 0
    if n < UInt64.size then some (n, rest) else none

/-- The text after a given word. -/
def word? : List Char → List Char → Option (List Char)
  | [], s => some s
  | _ :: _, [] => none
  | c :: word, d :: s => if c = d then word? word s else none

mutual

/-- The text after a value, within a number of steps. -/
def skipWithin : Nat → List Char → Option (List Char)
  | 0, _ => none
  | steps + 1, s =>
    match blanks s with
    | '"' :: rest => (pieces? rest).map Prod.snd
    | '-' :: rest => number? rest
    | '[' :: rest =>
      match blanks rest with
      | ']' :: rest => some rest
      | rest => skipItems steps rest
    | '\x7b' :: rest =>
      match blanks rest with
      | '\x7d' :: rest => some rest
      | rest => skipMembers steps rest
    | 'n' :: rest => word? ['u', 'l', 'l'] rest
    | 't' :: rest => word? ['r', 'u', 'e'] rest
    | 'f' :: rest => word? ['a', 'l', 's', 'e'] rest
    | rest => number? rest

/-- The text after the items of an array and its bracket. -/
def skipItems : Nat → List Char → Option (List Char)
  | 0, _ => none
  | steps + 1, s => do
    match blanks (← skipWithin steps s) with
    | ',' :: rest => skipItems steps rest
    | ']' :: rest => some rest
    | _ => none

/-- The text after the members of an object and its brace. -/
def skipMembers : Nat → List Char → Option (List Char)
  | 0, _ => none
  | steps + 1, s =>
    match blanks s with
    | '"' :: rest => do
      match blanks (← (pieces? rest).map Prod.snd) with
      | ':' :: rest =>
        match blanks (← skipWithin steps rest) with
        | ',' :: rest => skipMembers steps rest
        | '\x7d' :: rest => some rest
        | _ => none
      | _ => none
    | _ => none

end

/-- The text after a value. Every step takes a character, so twice as many steps as
    there are characters suffice. -/
def skip? (s : List Char) : Option (List Char) :=
  skipWithin (2 * s.length + 2) s

end DocumentMapper.Scan
