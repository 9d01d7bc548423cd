import DocumentMapper.Text.Unicode.Age
import DocumentMapper.Text.Unicode.Boundary
import DocumentMapper.Text.Unicode.Script

/-!
# Sets of characters by name

Names of properties and of their values are compared in a normal form. It has no blanks,
dashes and underscores, no capital letters, no characters outside of ASCII, and no "is" in
front.

A name that stands alone names a property, a general category or a script, in this order.
A name with a value names one of the properties that have several values.

## Main definitions

* `UnicodeName`: What names a set of characters.
* `UnicodeName.members?`: The set.
-/

namespace DocumentMapper

/-- What names a set of characters. -/
inductive UnicodeName where
  | alone (name : List Char)
  | valued (property value : List Char)
deriving DecidableEq, Repr

namespace UnicodeName

/-- A name without the "is" in front, and whether it had one. -/
def withoutIs : List Char → List Char × Bool
  | 'i' :: 's' :: rest | 'I' :: 's' :: rest | 'i' :: 'S' :: rest | 'I' :: 'S' :: rest =>
    (rest, true)
  | name => (name, false)

/-- The normal form of a name. The short name of the class of other characters does not
    follow an "is", since "isc" is a name of its own. -/
def normal (name : List Char) : String :=
  let (rest, is) := withoutIs name
  let kept := rest.filter fun c => c.toNat < 128 && c != ' ' && c != '_' && c != '-'
  let text := String.ofList (kept.map Char.toLower)
  if is && text == "c" then "isc" else text

/-- The set that a category or a wider class in normal form stands for. -/
def category? : String → Option CharSet
  | "any" => some .all
  | "assigned" => some (Category.members .unassigned).complement
  | "ascii" => some (.range '\x00' '\x7f')
  | name => (Category.named? name).map Category.union

/-- The set of a name that stands alone. -/
def alone? (name : String) : Option CharSet :=
  match Property.named? name with
  | some p => some p.members
  | none =>
    match category? name with
    | some s => some s
    | none => (Script.named? name).map Script.members

/-- The set of a property with several values for one of them. -/
def valued? (property value : String) : Option CharSet :=
  match property with
  | "gc" | "generalcategory" => category? value
  | "sc" | "script" => (Script.named? value).map Script.members
  | "scx" | "scriptextensions" => (Script.named? value).map Script.extended
  | "age" => Age.upTo? value
  | "gcb" | "graphemeclusterbreak" => Boundary.grapheme? value
  | "wb" | "wordbreak" => Boundary.word? value
  | "sb" | "sentencebreak" => Boundary.sentence? value
  | _ => none

/-- The set of characters with a name. -/
def members? : UnicodeName → Option CharSet
  | alone name => alone? (normal name)
  | valued property value => valued? (normal property) (normal value)

end UnicodeName

end DocumentMapper
