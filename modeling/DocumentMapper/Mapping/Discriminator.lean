import DocumentMapper.Value.Basic

/-!
# Discriminators

A document that may hold one of several classes says which one by a tag, or by the
tags of all classes on the way down to it. The last tag decides.

## Main definitions

* `Discriminator`: The stored forms.
* `Discriminator.concreteTag`: The tag that decides.
* `Discriminator.toValue`, `Discriminator.ofValue?`: The stored value and the way back.
* `Discriminator.ofLineage`: The discriminator a class gets by its place.
-/

namespace DocumentMapper

/-- How a document names its class. -/
inductive Discriminator where
  | single (tag : String)
  | chain (tags : List String)
deriving DecidableEq, Repr

/-- A value as text. -/
def tagOfValue? : Value → Option String
  | .string tag => some tag
  | _ => none

namespace Discriminator

/-- The tag of the class itself. -/
def concreteTag : Discriminator → String
  | single tag => tag
  | chain tags => tags.getLast?.getD ""

/-- The stored form. -/
def toValue : Discriminator → Value
  | single tag => .string tag
  | chain tags => .array (tags.map .string)

/-- Reads a stored form: a text, or a list of texts that is not empty. -/
def ofValue? : Value → Option Discriminator
  | .string tag => some (single tag)
  | .array items =>
    match items.mapM tagOfValue? with
    | some (tag :: tags) => some (chain (tag :: tags))
    | _ => none
  | _ => none

/-- The discriminator of a class by its lineage, the root first: a root is tagged with
    its own name unless it is abstract, and each other class with the names of the
    classes below the root. -/
def ofLineage (isAbstract : Bool) : List String → Option Discriminator
  | [] => none
  | [root] => if isAbstract then none else some (single root)
  | [_, only] => some (single only)
  | _ :: rest => some (chain rest)

end Discriminator

end DocumentMapper
