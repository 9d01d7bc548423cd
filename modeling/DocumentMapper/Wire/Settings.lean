import DocumentMapper.Json.Basic
import DocumentMapper.Json.Scanner
import DocumentMapper.Wire.Options

/-!
# Codec options as JSON

Options are kept in settings files as an object with two members. A member that is
missing keeps its usual value, one with another name is passed over, and none of
the two may be given twice. A list of up to two numbers is understood as well, in
the order of the members.

## Main definitions

* `CodecOptions.toJson`: The options as a JSON tree.
* `CodecOptions.ofJson?`: The options that a JSON text gives.
-/

namespace DocumentMapper.CodecOptions

/-- The options as a JSON tree. -/
def toJson (o : CodecOptions) : Json :=
  .object [("maxMessageSize", .number (Nat.repr o.maxMessageSize)),
    ("readBufferSize", .number (Nat.repr o.readBufferSize))]

/-- The options given so far. -/
structure Given where
  maxMessageSize : Option Nat
  readBufferSize : Option Nat

/-- The options given, and the usual values of the others. -/
def Given.complete (g : Given) : CodecOptions :=
  let usual : CodecOptions := {}
  ⟨g.maxMessageSize.getD usual.maxMessageSize, g.readBufferSize.getD usual.readBufferSize⟩

/-- The value of the member with the given name, and the text after it. -/
def memberValue? (g : Given) (name : String) (s : List Char) : Option (Given × List Char) :=
  if name = "maxMessageSize" then
    if g.maxMessageSize.isSome then none
    else (Scan.natural? (Scan.blanks s)).map fun (n, rest) =>
      ({ g with maxMessageSize := some n }, rest)
  else if name = "readBufferSize" then
    if g.readBufferSize.isSome then none
    else (Scan.natural? (Scan.blanks s)).map fun (n, rest) =>
      ({ g with readBufferSize := some n }, rest)
  else (Scan.skip? s).map fun rest => (g, rest)

/-- The members of an object up to its brace, within a number of steps. -/
def members? : Nat → Given → List Char → Option (Given × List Char)
  | 0, _, _ => none
  | steps + 1, g, s =>
    match Scan.blanks s with
    | '"' :: rest => do
      let (name, rest) ← Scan.string? rest
      match Scan.blanks rest with
      | ':' :: rest => do
        let (g, rest) ← memberValue? g name rest
        match Scan.blanks rest with
        | ',' :: rest => members? steps g rest
        | '\x7d' :: rest => some (g, rest)
        | _ => none
      | _ => none
    | _ => none

/-- The object behind its opening brace. -/
def object? (s : List Char) : Option (Given × List Char) :=
  match Scan.blanks s with
  | '\x7d' :: rest => some (⟨none, none⟩, rest)
  | rest => members? (rest.length + 1) ⟨none, none⟩ rest

/-- The list behind its opening bracket. -/
def sequence? (s : List Char) : Option (Given × List Char) :=
  match Scan.blanks s with
  | ']' :: rest => some (⟨none, none⟩, rest)
  | rest => do
    let (first, rest) ← Scan.natural? rest
    match Scan.blanks rest with
    | ']' :: rest => some (⟨some first, none⟩, rest)
    | ',' :: rest => do
      let (second, rest) ← Scan.natural? (Scan.blanks rest)
      match Scan.blanks rest with
      | ']' :: rest => some (⟨some first, some second⟩, rest)
      | _ => none
    | _ => none

/-- The options that a JSON text gives, if it is a text of that form and nothing
    follows. -/
def ofJson? (text : String) : Option CodecOptions := do
  let (given, rest) ← match Scan.blanks text.toList with
    | '\x7b' :: rest => object? rest
    | '[' :: rest => sequence? rest
    | _ => none
  if (Scan.blanks rest).isEmpty then some given.complete else none

end DocumentMapper.CodecOptions
