import DocumentMapper.Text.Hex

/-!
# JSON trees and their text

A JSON tree keeps the order of its members. Numbers are held as the text they are
written with, since the formats that produce trees differ in how they write
numbers. There are two printings: a compact one without blanks, and one that gives
every member a line of its own, two blanks deeper than the bracket around it.

## Main definitions

* `Json`: A JSON tree.
* `Json.quote`: A text as a JSON string.
* `Json.compact`, `Json.pretty`: The two printings.
-/

namespace DocumentMapper

/-- A JSON tree. -/
inductive Json where
  | null
  | bool (b : Bool)
  /-- A number, by its text. -/
  | number (text : String)
  | string (s : String)
  | array (items : List Json)
  | object (members : List (String × Json))

namespace Json

/-- A character inside a JSON string. Control characters are escaped, five of them by
    name; all others but the quotation mark and the backslash stand as they are. -/
def escape (c : Char) : List Char :=
  if c = '"' then ['\\', '"']
  else if c = '\\' then ['\\', '\\']
  else if c = '\x08' then ['\\', 'b']
  else if c = '\x0c' then ['\\', 'f']
  else if c = '\n' then ['\\', 'n']
  else if c = '\r' then ['\\', 'r']
  else if c = '\t' then ['\\', 't']
  else if c.toNat < 32 then
    ['\\', 'u', '0', '0', Hex.digit (c.toNat / 16), Hex.digit (c.toNat % 16)]
  else [c]

/-- A text as a JSON string. -/
def quote (s : String) : String :=
  String.ofList ('"' :: s.toList.flatMap escape ++ ['"'])

mutual

/-- The text of a tree without blanks. -/
def compact : Json → String
  | .null => "null"
  | .bool b => if b then "true" else "false"
  | .number text => text
  | .string s => quote s
  | .array items => "[" ++ String.intercalate "," (compactItems items) ++ "]"
  | .object members => "\x7b" ++ String.intercalate "," (compactMembers members) ++ "\x7d"

/-- The texts of the items of an array. -/
def compactItems : List Json → List String
  | [] => []
  | item :: rest => item.compact :: compactItems rest

/-- The texts of the members of an object. -/
def compactMembers : List (String × Json) → List String
  | [] => []
  | (name, item) :: rest => (quote name ++ ":" ++ item.compact) :: compactMembers rest

end

/-- A line end and the blanks of a depth. -/
def newline (depth : Nat) : String :=
  String.ofList ('\n' :: List.replicate (2 * depth) ' ')

/-- Brackets around lines at a depth; without lines nothing stands between them. -/
def block (opening closing : String) (depth : Nat) : List String → String
  | [] => opening ++ closing
  | lines =>
    opening ++ newline (depth + 1) ++ String.intercalate ("," ++ newline (depth + 1)) lines
      ++ newline depth ++ closing

mutual

/-- The text of a tree at a depth, a line for every member. -/
def prettyAt (depth : Nat) : Json → String
  | .array items => block "[" "]" depth (prettyItems (depth + 1) items)
  | .object members => block "\x7b" "\x7d" depth (prettyMembers (depth + 1) members)
  | .null => "null"
  | .bool b => if b then "true" else "false"
  | .number text => text
  | .string s => quote s

/-- The texts of the items of an array. -/
def prettyItems (depth : Nat) : List Json → List String
  | [] => []
  | item :: rest => prettyAt depth item :: prettyItems depth rest

/-- The texts of the members of an object. -/
def prettyMembers (depth : Nat) : List (String × Json) → List String
  | [] => []
  | (name, item) :: rest => (quote name ++ ": " ++ prettyAt depth item) :: prettyMembers depth rest

end

/-- The text of a tree with a line for every member. -/
def pretty (j : Json) : String :=
  prettyAt 0 j

end Json

end DocumentMapper
