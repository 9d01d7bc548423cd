import DocumentMapper.Mapping.Store
import DocumentMapper.Query.Error

/-!
# Binding of members to fields

Within a level, a parameter stands for a row of its source, and a chain of members on a
parameter names a field of that row. Binding puts the field in the place of the chain.
With a store of class maps it goes along the chain by the declared types and takes the
stored names; where no class is known, or the class has no such member, the name stays.

The last member of a chain may ask for a length instead of a field. A member of an
object that is constructed on the spot is the expression the object has for it.

## Main definitions

* `Rows`: The rows that a parameter stands for.
* `storedPath`: The stored names along a chain of members.
* `Expr.bind`, `Select.bind`: Binding of an expression and of a level.
-/

namespace DocumentMapper

/-- The rows that a parameter stands for: their label, and their class if they have
    one. -/
structure Rows where
  label : String
  documentClass : Option String
deriving DecidableEq, Repr

/-- The members of a chain on a parameter, the last one first. -/
def Expr.parameterChain? : Expr → Option (List String)
  | .member (.parameter _) name => some [name]
  | .member e name => e.parameterChain?.map (name :: ·)
  | _ => none

/-- The stored names along a chain of members that starts at a class. -/
def storedPath (s : Store) : Option String → List String → Except MappingError (List String)
  | _, [] => .ok []
  | none, name :: rest => do return name :: (← storedPath s none rest)
  | some className, name :: rest => do
    let c ← s.classMap className
    match c.memberNamed? name with
    | some m => return m.storedName :: (← storedPath s m.type.innermostClass? rest)
    | none => return name :: (← storedPath s none rest)

/-- A failure of mapping as a failure of a query. -/
def ofMapping {α : Type} : Except MappingError α → Except QueryError α
  | .ok a => .ok a
  | .error e => .error (.mapping e)

/-- The field at the end of a chain of members of a row. -/
def bindPath (store : Option Store) (rows : Option Rows) (chain : List String) :
    Except QueryError Expr :=
  match rows with
  | none => .error (.invalid .parameterOutside)
  | some rows => do
    let path ← match store with
      | none => pure chain
      | some s => ofMapping (storedPath s rows.documentClass chain)
    return .field ⟨rows.label, String.intercalate "." path⟩

/-- What a chain of members, the last one first, stands for: a field, or a length. -/
def bindChain (store : Option Store) (rows : Option Rows) : List String → Except QueryError Expr
  | last :: next :: rest =>
    if isLengthMember last then do return .member (← bindChain store rows (next :: rest)) last
    else bindPath store rows (last :: next :: rest).reverse
  | chain => bindPath store rows chain.reverse

/-- A member of a bound expression. -/
def Expr.bindMember (e : Expr) (name : String) : Except QueryError Expr :=
  match e with
  | .object members =>
    match members.lookup name with
    | some e => .ok e
    | none => .error (.invalid (.noProjectedMember name))
  | .field f =>
    if isLengthMember name then .ok (.member (.field f) name)
    else .ok (.field { f with path := f.path ++ "." ++ name })
  | e => .ok (.member e name)

/-- The class of the documents that a level reads in the end. -/
def Select.documentClass? : Select → Option String
  | ⟨_, _, some (.collection c), _, _, _, _, _, _⟩ => c.documentType.className?
  | ⟨_, _, some (.select s), _, _, _, _, _, _⟩ => s.documentClass?
  | _ => none

/-- The rows that the clauses of a level read. -/
def Select.sourceRows (s : Select) : Rows where
  label := s.sourceLabel?.getD ""
  documentClass := s.documentClass?

/-- The rows of a level. -/
def Select.rows (s : Select) : Rows where
  label := s.label
  documentClass := s.documentClass?

mutual

/-- Binds the members of an expression that is read for some rows. -/
def Expr.bind (store : Option Store) (rows : Option Rows) (e : Expr) : Except QueryError Expr :=
  match e.parameterChain? with
  | some chain => bindChain store rows chain
  | none =>
    match e with
    | .constant v => .ok (.constant v)
    | .parameter name => .ok (.parameter name)
    | .field f => .ok (.field f)
    | .rowField path => .ok (.rowField path)
    | .collection c => .ok (.collection c)
    | .member e name => do (← e.bind store rows).bindMember name
    | .binary op l r => do
      let l ← l.bind store rows
      return .binary op l (← r.bind store rows)
    | .unary op e => do return .unary op (← e.bind store rows)
    | .call method receiver arguments => do
      let receiver ← bindOption store rows receiver
      return .call method receiver (← bindEach store rows arguments)
    | .object members => do return .object (← bindNamed store rows members)
    | .select s => do return .select (← s.bind store)
    | .projection source projector => do
      let source ← source.bind store
      -- The shape reads the rows that its source gives, not those around it.
      return .projection source (← projector.bind store (some source.rows))
    | .aggregate kind argument distinct => do
      return .aggregate kind (← bindOption store rows argument) distinct
    | .subquery s => do return .subquery (← s.bind store)

/-- Binds the source of a level, and then its clauses for the rows of the source. -/
def Select.bind (store : Option Store) (s : Select) : Except QueryError Select :=
  let rows := some s.sourceRows
  -- All clauses of a level, its source included, are read against the rows of the source.
  match s with
  | ⟨label, fields, source, filter, order, group, distinct, skip, take⟩ => do
    let source ← bindOption store rows source
    let filter ← bindOption store rows filter
    let group ← bindGroup store rows group
    let fields ← bindNamed store rows fields
    let order ← bindOrder store rows order
    let skip ← bindOption store rows skip
    let take ← bindOption store rows take
    return ⟨label, fields, source, filter, order, group, distinct, skip, take⟩

/-- Binds an optional expression. -/
def bindOption (store : Option Store) (rows : Option Rows) :
    Option Expr → Except QueryError (Option Expr)
  | none => .ok none
  | some e => do return some (← e.bind store rows)

/-- Binds a list of expressions. -/
def bindEach (store : Option Store) (rows : Option Rows) :
    List Expr → Except QueryError (List Expr)
  | [] => .ok []
  | e :: rest => do
    let e ← e.bind store rows
    return e :: (← bindEach store rows rest)

/-- Binds named expressions. -/
def bindNamed (store : Option Store) (rows : Option Rows) :
    List (String × Expr) → Except QueryError (List (String × Expr))
  | [] => .ok []
  | (name, e) :: rest => do
    let e ← e.bind store rows
    return (name, e) :: (← bindNamed store rows rest)

/-- Binds sort keys. -/
def bindOrder (store : Option Store) (rows : Option Rows) :
    List (Direction × Expr) → Except QueryError (List (Direction × Expr))
  | [] => .ok []
  | (d, e) :: rest => do
    let e ← e.bind store rows
    return (d, e) :: (← bindOrder store rows rest)

/-- Binds optional group keys. -/
def bindGroup (store : Option Store) (rows : Option Rows) :
    Option (List Expr) → Except QueryError (Option (List Expr))
  | none => .ok none
  | some keys => do return some (← bindEach store rows keys)

end

end DocumentMapper
