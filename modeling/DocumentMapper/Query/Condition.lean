import DocumentMapper.Query.Error

/-!
# Conditions

A condition document holds values under paths of field names and operators. A condition
that is met while going through an expression is placed under the fields and operators
that enclose it, the fields first, so that conditions on one field come together in one
document.

Placing a condition twice changes nothing. Two conditions conflict where they would
place different values under one path, or one value under a path that leads through the
other.

A document under construction is worked on in place. A condition is added by going down
its path and opening what is missing on the way, and work that fails leaves the document
and the scopes as they are then. A scope that is entered for some work is left also where
the work fails.

## Main definitions

* `Scope`, `conditionPath`: What encloses a condition, and the path it spells.
* `Document.place?`: A document with a value at a path, unless that conflicts.
* `Document.putAt`: The same in place.
* `ConditionBuilder`: A condition document under construction.
* `Building`: Work on it, which may fail.
* `ConditionBuilder.add`, `ConditionBuilder.withScope`: Conditions and scopes.
-/

namespace DocumentMapper

/-- What encloses a condition. -/
inductive Scope where
  | field (name : String)
  | operator (name : String)
deriving DecidableEq, Repr

namespace Scope

def fieldName? : Scope → Option String
  | field name => some name
  | operator _ => none

def operatorName? : Scope → Option String
  | field _ => none
  | operator name => some name

end Scope

/-- The path that enclosing scopes spell: the fields, and then the operators. -/
def conditionPath (scopes : List Scope) : List String :=
  scopes.filterMap Scope.fieldName? ++ scopes.filterMap Scope.operatorName?

namespace Document

/-- The document with a value at a path through nested documents. There is none if
    another value is at the path, or if the path leads through a value that is no
    document. -/
def place? (v : Value) : List String → Document → Option Document
  | [], _ => none
  | [key], d =>
    match d.get? key with
    | none => some (d.insert key v)
    -- The same condition may be placed twice; another one at the same place is a conflict.
    | some existing => if existing == v then some d else none
  | key :: next :: rest, d =>
    match d.get? key with
    | none => do return d.insert key (.document (← place? v (next :: rest) .empty))
    | some (.document inner) => do
      return d.insert key (.document (← place? v (next :: rest) inner))
    | some _ => none

/-- Goes down a path through nested documents and puts a value at its end, unless a value is
    there. What is missing on the way is opened as an empty document first. Gives the
    document as it is left, and whether the value is at its place in it. -/
def putAt (v : Value) : List String → Document → Document × Bool
  | [], d => (d, false)
  | [key], d =>
    match d.get? key with
    | some existing => (d, existing == v)
    | none => (d.insert key v, true)
  | key :: next :: rest, d =>
    let opened := d.insertIfNew key (.document .empty)
    match opened.get? key with
    | some (.document inner) =>
      let (inner, placed) := inner.putAt v (next :: rest)
      (opened.insert key (.document inner), placed)
    | _ => (opened, false)

/-- The document with a condition under enclosing scopes. -/
def addCondition (d : Document) (scopes : List Scope) (v : Value) : Except QueryError Document :=
  match conditionPath scopes with
  | [] => .error (.invalid .conditionWithoutField)
  | path =>
    match d.place? v path with
    | some d => .ok d
    | none => .error (.invalid (.conflict path))

end Document

/-- A condition document under construction, with the scopes that enclose the next
    condition. -/
structure ConditionBuilder where
  query : Document := .empty
  scopes : List Scope := []

/-- Work on a builder. If it fails, the builder is left as it is then. -/
abbrev Building (α : Type) : Type :=
  ExceptT QueryError (StateM ConditionBuilder) α

namespace ConditionBuilder

/-- The number of enclosing scopes. -/
def depth (b : ConditionBuilder) : Nat :=
  b.scopes.length

/-- Adds an enclosing scope. -/
def enter (b : ConditionBuilder) (s : Scope) : ConditionBuilder :=
  { b with scopes := b.scopes ++ [s] }

/-- Leaves scopes until a number of them is left. -/
def leave (b : ConditionBuilder) (depth : Nat) : ConditionBuilder :=
  { b with scopes := b.scopes.take depth }

/-- Places a condition under the enclosing scopes. -/
def add (v : Value) : Building Unit := do
  let b ← get
  match conditionPath b.scopes with
  | [] => throw (.invalid .conditionWithoutField)
  | path =>
    let (query, placed) := b.query.putAt v path
    set { b with query := query }
    unless placed do throw (.invalid (.conflict path))

/-- Does some work within a further scope, which is left again even if the work fails. -/
def withScope {α : Type} (s : Scope) (work : Building α) : Building α := do
  let depth := (← get).depth
  modify (·.enter s)
  try work
  finally modify (·.leave depth)

end ConditionBuilder

end DocumentMapper
