import DocumentMapper.Query.Expr.Basic

/-!
# Hoisting of orderings

A query document has one flat list of sort keys, so the keys that are declared on inner
levels have to be gathered outward. Every level puts its own keys in front of the
gathered ones, since they were asked for later, and expresses the list over its own
rows before it hands it on. A field that is sorted on twice keeps the key that was
gathered first.

Grouping and the removal of duplicates let no keys pass. A level that skips or takes
rows keeps the keys gathered so far, because they decide which rows it has, and so does
the outermost level. What happens inside a subquery stays there.

## Main definitions

* `Gathering`: The keys gathered so far.
* `Select.passOutward`: The keys of a level over its own rows.
* `Select.receive`: The keys of one level, given those of the levels inside it.
* `Expr.hoistOrder`: An expression with the keys on the levels that need them.
-/

namespace DocumentMapper

/-- The sort keys gathered so far, if any level had some, and the fields among them. -/
structure Gathering where
  keys : Option (List (Direction × Expr)) := none
  seen : List FieldRef := []

namespace Gathering

/-- Puts a key in front of the others unless its field is there already. -/
def push (key : Direction × Expr) (g : List (Direction × Expr) × List FieldRef) :
    List (Direction × Expr) × List FieldRef :=
  match key.2.asField? with
  | none => (key :: g.1, g.2)
  | some f => if f ∈ g.2 then g else (key :: g.1, f :: g.2)

/-- Puts keys in front of the others, the last of them first. -/
def prepend (g : Gathering) (keys : List (Direction × Expr)) : Gathering :=
  let start := match g.keys with
    | some gathered => (gathered, g.seen)
    | none => ([], [])
  let (gathered, seen) := keys.foldr push start
  ⟨some gathered, seen⟩

end Gathering

/-- Hoisting carries the keys gathered so far. -/
abbrev Hoisting (α : Type) : Type :=
  StateM Gathering α

namespace Select

/-- The name under which declared fields have an expression. -/
def declaredName? (fields : List (String × Expr)) (e : Expr) : Option String :=
  (fields.find? fun field => field.2 == e).map Prod.fst

/-- A key over the rows of a level, with the fields that the level then declares. A
    field of another source has no key there. A level that declares no fields has all
    fields of its source; otherwise a key that is not declared becomes a declared field,
    under the path it has or a name made for it. -/
def passKey (s : Select) (fields : List (String × Expr)) (key : Direction × Expr) :
    List (String × Expr) × Option (Direction × Expr) :=
  let own (name : String) : Direction × Expr := (key.1, .field ⟨s.label, name⟩)
  match key.2.asField? with
  | some f =>
    -- A key over other rows than those of the source cannot be passed on; it is dropped.
    if s.sourceLabel? ≠ some f.label then (fields, none)
    else
      match declaredName? fields key.2 with
      | some name => (fields, some (own name))
      | none =>
        -- Without fields the whole row goes on, and with it the field that the key needs.
        if s.fields.isEmpty then (fields, some (own f.path))
        else (fields ++ [(f.path, key.2)], some (own f.path))
  | none =>
    match declaredName? fields key.2 with
    | some name => (fields, some (own name))
    | none =>
      -- A computed key is declared, so that the next level can order by a field.
      let name := "_$f" ++ toString fields.length
      (fields ++ [(name, key.2)], some (own name))

/-- The keys of a level over its own rows, with the fields that the level declares. -/
def passOutward (s : Select) (keys : List (Direction × Expr)) :
    List (String × Expr) × List (Direction × Expr) :=
  keys.foldl
    (fun passed key =>
      let (fields, key) := s.passKey passed.1 key
      (fields, passed.2 ++ key.toList))
    (s.fields, [])

/-- Gives a level the keys it needs, and hands on those that may pass. -/
def receive (outermost : Bool) (s : Select) : Hoisting Select := do
  let needs := outermost || s.take.isSome || s.skip.isSome
  let stops := s.group.isSome || s.distinct
  -- The keys of this level go before those from inside.
  if !s.order.isEmpty then modify (·.prepend s.order)
  let gathered := (← get).keys
  modify ({ · with keys := none })
  let order :=
    if needs && !stops then gathered.getD []
    else if needs then s.order
    else []
  match gathered with
  | some keys =>
    -- The outermost level hands nothing on, and a grouping or distinct stops the keys.
    if outermost || stops then return { s with order := order }
    else
      let (fields, passed) := s.passOutward keys
      modify (·.prepend passed)
      return { s with order := order, fields := fields }
  | none => return { s with order := order }

end Select

/-- Keeps what is gathered within a subquery apart from what is gathered around it. -/
def apart {α : Type} (inner : Hoisting α) : Hoisting α := do
  let around ← get
  set ({} : Gathering)
  let result ← inner
  set around
  return result

mutual

/-- Hoists the orderings within an expression. -/
def Expr.hoist (outermost : Bool) : Expr → Hoisting Expr
  | .constant v => return .constant v
  | .parameter name => return .parameter name
  | .field f => return .field f
  | .rowField path => return .rowField path
  | .collection c => return .collection c
  | .member e name => return .member (← e.hoist outermost) name
  | .binary op l r => do
    let l ← l.hoist outermost
    return .binary op l (← r.hoist outermost)
  | .unary op e => return .unary op (← e.hoist outermost)
  | .call method receiver arguments => do
    let receiver ← hoistOption outermost receiver
    return .call method receiver (← hoistEach outermost arguments)
  | .object members => return .object (← hoistNamed outermost members)
  | .select s => return .select (← s.hoist outermost)
  | .projection source projector => do
    let source ← source.hoist outermost
    return .projection source (← projector.hoist outermost)
  | .aggregate kind argument distinct => do
    return .aggregate kind (← hoistOption outermost argument) distinct
  | .subquery s => return .subquery (← apart (s.hoist outermost))

/-- Hoists the orderings within a level, from its source to its last clause, and then
    those of the level itself. -/
def Select.hoist (outermost : Bool) : Select → Hoisting Select
  | ⟨label, fields, source, filter, order, group, distinct, skip, take⟩ => do
    let source ← hoistOption false source
    let filter ← hoistOption false filter
    let group ← hoistGroup false group
    let fields ← hoistNamed false fields
    let order ← hoistKeys false order
    let skip ← hoistOption false skip
    let take ← hoistOption false take
    Select.receive outermost ⟨label, fields, source, filter, order, group, distinct, skip, take⟩

/-- Hoists the orderings within an optional expression. -/
def hoistOption (outermost : Bool) : Option Expr → Hoisting (Option Expr)
  | none => return none
  | some e => return some (← e.hoist outermost)

/-- Hoists the orderings within a list of expressions. -/
def hoistEach (outermost : Bool) : List Expr → Hoisting (List Expr)
  | [] => return []
  | e :: rest => do
    let e ← e.hoist outermost
    return e :: (← hoistEach outermost rest)

/-- Hoists the orderings within named expressions. -/
def hoistNamed (outermost : Bool) : List (String × Expr) → Hoisting (List (String × Expr))
  | [] => return []
  | (name, e) :: rest => do
    let e ← e.hoist outermost
    return (name, e) :: (← hoistNamed outermost rest)

/-- Hoists the orderings within sort keys. -/
def hoistKeys (outermost : Bool) : List (Direction × Expr) → Hoisting (List (Direction × Expr))
  | [] => return []
  | (d, e) :: rest => do
    let e ← e.hoist outermost
    return (d, e) :: (← hoistKeys outermost rest)

/-- Hoists the orderings within optional group keys. -/
def hoistGroup (outermost : Bool) : Option (List Expr) → Hoisting (Option (List Expr))
  | none => return none
  | some keys => return some (← hoistEach outermost keys)

end

/-- An expression with the sort keys on the levels that need them. -/
def Expr.hoistOrder (e : Expr) : Expr :=
  ((e.hoist true).run {}).1

end DocumentMapper
