import DocumentMapper.Proofs.Query.Plan

/-!
# The expression that calls build

Every call but a further key puts a level around the query. The expression it ends up
with holds no constants that could be folded, so folding leaves it as it is. Binding goes
from the inside outward and turns the chains of every level into fields of the level
inside it, which carries the label of its number: the parameter of a chain is of no
consequence, since a level has only one source. The documents of the collection have no
class, so that members keep their names.

A further key changes the outermost level and leaves what is inside alone. So `Builds`
says what folding and binding make of the outermost level with any keys, and of the keys
it has.

## Main definitions

* `Level.unbound`, `Level.bound`: The expression of a level before and after binding.
* `boundSource`: The expression of the levels inside a level.
* `Builds`: What folding and binding do to a query.

## Theorems

* `Builds.wrap`, `Builds.refine`: A level more, and a key more.
* `builds`: The query that calls build.
-/

namespace DocumentMapper

open QueryBuilder (label)

/-- A key on the parameter of a row. -/
def SortKey.unbound (k : SortKey) (parameter : String) : Direction × Expr :=
  (k.direction, k.field.on (.parameter parameter))

/-- A key on a field of a source. -/
def SortKey.bound (k : SortKey) (source : String) : Direction × Expr :=
  (k.direction, .field ⟨source, k.field.path⟩)

/-- A count in a clause. -/
def countClause (count : Int32) : Expr :=
  .constant (.int32 count)

/-- The level with clauses over a source. -/
def Level.configure (l : Level) (parameter : String) (s : Select) : Select :=
  { s with
    filter := l.filter.map fun c => c.on (.parameter parameter)
    order := l.keys.map (·.unbound parameter)
    distinct := l.distinct
    skip := l.skip.map countClause
    take := l.take.map countClause }

/-- A level with other keys. -/
def Select.withOrder (s : Select) (order : List (Direction × Expr)) : Select :=
  { s with order := order }

theorem Select.withOrder_self (s : Select) : s.withOrder s.order = s := by
  cases s
  rfl

/-- The bound level that is put around a number of levels. -/
def Level.bound (l : Level) (number : Nat) (source : Expr) : Select where
  label := label (number + 1)
  fields := []
  source := some source
  filter := l.filter.map (·.bound (label number))
  order := l.keys.map (·.bound (label number))
  group := none
  distinct := l.distinct
  skip := l.skip.map countClause
  take := l.take.map countClause

/-- The bound expression of levels. -/
def boundSource (c : Collection) : List Level → Expr
  | [] => .collection c
  | l :: rest => .select (l.bound rest.length (boundSource c rest))

/-! ### Folding and binding of a level -/

theorem foldOrder_unbound (parameter : String) (keys : List SortKey) :
    foldOrder (keys.map (·.unbound parameter)) = pure (keys.map (·.unbound parameter)) := by
  induction keys with
  | nil => rw [List.map_nil, foldOrder]
  | cons k keys ih =>
      rw [List.map_cons, SortKey.unbound, foldOrder, FieldChain.fold_on, pure_bind, ih, pure_bind]

theorem bindOrder_unbound (store : Option Store) (parameter source : String)
    (keys : List SortKey) :
    bindOrder store (some ⟨source, none⟩) (keys.map (·.unbound parameter)) =
      .ok (keys.map (·.bound source)) := by
  induction keys with
  | nil => rw [List.map_nil, bindOrder]; rfl
  | cons k keys ih =>
      rw [List.map_cons, SortKey.unbound, bindOrder, FieldChain.bind_on, Except.ok_bind, ih]
      rfl

theorem foldOrder_append (keys keys' : List (Direction × Expr)) :
    foldOrder (keys ++ keys') =
      (do
        let keys ← foldOrder keys
        return keys ++ (← foldOrder keys')) := by
  induction keys with
  | nil => simp [foldOrder]
  | cons key keys ih =>
      rcases key with ⟨d, e⟩
      simp [foldOrder, ih]

theorem bindOrder_append (store : Option Store) (rows : Option Rows)
    (keys keys' : List (Direction × Expr)) :
    bindOrder store rows (keys ++ keys') =
      (do
        let keys ← bindOrder store rows keys
        return keys ++ (← bindOrder store rows keys')) := by
  induction keys with
  | nil =>
      rw [List.nil_append, bindOrder, Except.ok_bind]
      exact (bind_pure _).symm
  | cons key keys ih =>
      rcases key with ⟨d, e⟩
      simp [bindOrder, ih]

theorem foldOption_count (count : Option Int32) :
    foldOption (count.map countClause) = pure (count.map countClause) := by
  cases count with
  | none => rw [Option.map_none, foldOption]
  | some n => rw [Option.map_some, foldOption, countClause, Expr.fold, map_pure]

theorem bindOption_count (store : Option Store) (rows : Option Rows) (count : Option Int32) :
    bindOption store rows (count.map countClause) = .ok (count.map countClause) := by
  cases count with
  | none => rw [Option.map_none, bindOption]
  | some n =>
      rw [Option.map_some, bindOption, countClause, Expr.bind]
      rfl

theorem foldOption_filter (parameter : String) (filter : Option (Conjunction FieldChain)) :
    foldOption (filter.map fun c => c.on (.parameter parameter)) =
      pure (filter.map fun c => c.on (.parameter parameter)) := by
  cases filter with
  | none => rw [Option.map_none, foldOption]
  | some c => rw [Option.map_some, foldOption, Conjunction.fold_on, map_pure]

theorem bindOption_filter (store : Option Store) (parameter source : String)
    (filter : Option (Conjunction FieldChain)) :
    bindOption store (some ⟨source, none⟩) (filter.map fun c => c.on (.parameter parameter)) =
      .ok (filter.map (·.bound source)) := by
  cases filter with
  | none => rw [Option.map_none, bindOption]; rfl
  | some c =>
      rw [Option.map_some, bindOption, Conjunction.bind_on]
      rfl

/-- Folding leaves a level as it is if it does so with the source. -/
theorem fold_configure (l : Level) (parameter name : String) {source : Expr}
    (hsource : source.fold = pure source) {order : List (Direction × Expr)}
    (horder : foldOrder order = pure order) :
    ((l.configure parameter (.ofSource name source)).withOrder order).fold =
      pure ((l.configure parameter (.ofSource name source)).withOrder order) := by
  unfold Select.withOrder Level.configure Select.ofSource Select.fold
  simp only [foldOption, hsource, foldOption_filter, foldGroup, foldNamed, horder,
    foldOption_count, map_pure, pure_bind]

/-- The class of the documents depends on the source alone. -/
theorem documentClass?_eq {s s' : Select} (h : s.source = s'.source) :
    s.documentClass? = s'.documentClass? := by
  rcases s with ⟨_, _, source, _, _, _, _, _, _⟩
  rcases s' with ⟨_, _, source', _, _, _, _, _, _⟩
  have hsource : source = source' := h
  rw [hsource]
  cases source' with
  | none => rfl
  | some e => cases e <;> rfl

theorem sourceRows_eq {s : Select} {source : Expr} {name number : String}
    (hs : s.source = some source) (hlabel : source.rowsLabel? = some number)
    (hclass : (Select.ofSource name source).documentClass? = none) :
    s.sourceRows = ⟨number, none⟩ := by
  have hnone : s.documentClass? = none := (documentClass?_eq hs).trans hclass
  rw [Select.sourceRows, Select.sourceLabel?, hs, Option.bind_some, hlabel, hnone]
  rfl

/-- Binding a level turns its chains into fields of the source. -/
theorem bind_configure (store : Option Store) (l : Level) (parameter : String) (number : Nat)
    {source source' : Expr} (hlabel : source.rowsLabel? = some (label number))
    (hclass : (Select.ofSource (label (number + 1)) source).documentClass? = none)
    (hsource : source.bind store (some ⟨label number, none⟩) = .ok source')
    {order order' : List (Direction × Expr)}
    (horder : bindOrder store (some ⟨label number, none⟩) order = .ok order') :
    ((l.configure parameter (.ofSource (label (number + 1)) source)).withOrder order).bind store =
      .ok ((l.bound number source').withOrder order') := by
  -- No class is known for the rows of a collection of documents, so paths are taken as they are.
  have hrows : ((l.configure parameter (.ofSource (label (number + 1)) source)).withOrder
      order).sourceRows = ⟨label number, none⟩ := sourceRows_eq rfl hlabel hclass
  unfold Select.bind
  rw [hrows]
  unfold Select.withOrder Level.configure Select.ofSource
  simp only [bindOption, hsource, bindOption_filter, bindGroup, bindNamed, horder,
    bindOption_count, Except.ok_bind]
  rfl

/-! ### The query that calls build -/

/-- A query whose levels are given: what folding and binding make of its outermost level
    with any keys, and of the keys it has. -/
structure Builds (store : Option Store) (c : Collection) (q : QueryBuilder) (ls : Levels) :
    Prop where
  projector : q.projector = none
  next : q.next = ls.inner.length + 2
  label_eq : q.level.label = label (ls.inner.length + 1)
  documentClass : q.level.documentClass? = none
  fold_order : foldOrder q.level.order = pure q.level.order
  bind_order : bindOrder store (some ⟨label ls.inner.length, none⟩) q.level.order =
    .ok (ls.outermost.keys.map (·.bound (label ls.inner.length)))
  fold_level : ∀ order, foldOrder order = pure order →
    (q.level.withOrder order).fold = pure (q.level.withOrder order)
  bind_level : ∀ order order',
    bindOrder store (some ⟨label ls.inner.length, none⟩) order = .ok order' →
    (q.level.withOrder order).bind store =
      .ok ((ls.outermost.bound ls.inner.length (boundSource c ls.inner)).withOrder order')

namespace Builds

variable {store : Option Store} {c : Collection} {q : QueryBuilder} {ls : Levels}

theorem fold_eq (h : Builds store c q ls) : q.level.fold = pure q.level := by
  have hlevel := h.fold_level q.level.order h.fold_order
  rw [Select.withOrder_self] at hlevel
  exact hlevel

theorem bind_eq (h : Builds store c q ls) :
    q.level.bind store = .ok (ls.outermost.bound ls.inner.length (boundSource c ls.inner)) := by
  have hlevel := h.bind_level q.level.order _ h.bind_order
  rw [Select.withOrder_self] at hlevel
  exact hlevel

/-- The outermost level is configured over a source of which all is known. -/
theorem of_configure (source : Expr) (parameter : String) (hprojector : q.projector = none)
    (hnext : q.next = ls.inner.length + 2)
    (hlevel : q.level =
      ls.outermost.configure parameter (.ofSource (label (ls.inner.length + 1)) source))
    (hfold : source.fold = pure source) (hlabel : source.rowsLabel? = some (label ls.inner.length))
    (hclass : (Select.ofSource (label (ls.inner.length + 1)) source).documentClass? = none)
    (hbind : source.bind store (some ⟨label ls.inner.length, none⟩) =
      .ok (boundSource c ls.inner)) : Builds store c q ls where
  projector := hprojector
  next := hnext
  label_eq := by
    rw [hlevel]
    rfl
  documentClass := by
    rw [hlevel, ← hclass]
    exact documentClass?_eq rfl
  fold_order := by
    rw [hlevel]
    exact foldOrder_unbound parameter ls.outermost.keys
  bind_order := by
    rw [hlevel]
    exact bindOrder_unbound store parameter (label ls.inner.length) ls.outermost.keys
  fold_level order horder := by
    rw [hlevel]
    exact fold_configure ls.outermost parameter _ hfold horder
  bind_level order order' horder := by
    rw [hlevel]
    exact bind_configure store ls.outermost parameter ls.inner.length hlabel hclass hbind horder

theorem start (store : Option Store) (database name : String) :
    Builds store ⟨label 0, database, name, .document⟩ (.ofCollection database name .document)
      ⟨{}, []⟩ := by
  refine of_configure _ "" rfl rfl rfl ?_ rfl rfl ?_
  · rw [Expr.fold]
  · rw [Expr.bind]
    rfl

/-- A level more: its chains are on rows of the level that was the outermost one. -/
theorem wrap (h : Builds store c q ls) (l : Level) :
    Builds store c (q.wrap (l.configure q.level.label)) (ls.push l) := by
  refine of_configure (.select q.level) q.level.label h.projector ?_ ?_ ?_ ?_ ?_ ?_
  · rw [QueryBuilder.wrap, h.next]
    rfl
  · rw [QueryBuilder.wrap, h.next]
    rfl
  · rw [Expr.fold, h.fold_eq, map_pure]
  · exact congrArg some h.label_eq
  · exact h.documentClass
  · rw [Expr.bind]
    simp only [Expr.parameterChain?, h.bind_eq, Except.ok_bind]
    rfl

theorem row_eq (h : Builds store c q ls) : q.row = .parameter q.level.label := by
  rw [QueryBuilder.row, h.projector, Option.getD_none]

/-- A key more on the outermost level. -/
theorem refine (h : Builds store c q ls) (k : SortKey) :
    Builds store c (q.thenBy k.direction k.field.on) (Call.onLevels ls (.thenBy k)) where
  projector := h.projector
  next := h.next
  label_eq := h.label_eq
  documentClass := by
    rw [← h.documentClass]
    exact documentClass?_eq rfl
  fold_order := by
    have hkey := foldOrder_unbound q.level.label [k]
    unfold QueryBuilder.thenBy
    rw [h.row_eq, foldOrder_append, h.fold_order, pure_bind]
    exact congrArg (· >>= _) hkey
  bind_order := by
    have hkey := bindOrder_unbound store q.level.label (label ls.inner.length) [k]
    -- A further key is appended to the order, and keys are bound one after another.
    have hkeys := bindOrder_append store (some ⟨label ls.inner.length, none⟩) q.level.order
      ([k].map (·.unbound q.level.label))
    rw [h.bind_order, hkey] at hkeys
    unfold QueryBuilder.thenBy
    rw [h.row_eq]
    refine hkeys.trans ?_
    rw [Except.ok_bind, Except.ok_bind, ← List.map_append]
    rfl
  fold_level order horder := h.fold_level order horder
  bind_level order order' horder := h.bind_level order order' horder

end Builds

/-- The query that calls build has their levels. -/
theorem builds (store : Option Store) (database name : String) (calls : List Call) :
    Builds store ⟨label 0, database, name, .document⟩ (built database name calls)
      (levels calls) := by
  induction calls using List.reverseRecOn with
  | nil => exact Builds.start store database name
  | append_singleton calls call ih =>
      have hbuilt : built database name (calls ++ [call]) =
          call.extend (built database name calls) := by
        unfold built
        rw [List.foldl_concat]
      rw [hbuilt, levels_concat]
      -- A further key goes to the outermost level; every other call puts a level around it.
      cases call with
      | thenBy k => exact ih.refine k
      | filter c =>
          have hwrap := ih.wrap { filter := some c }
          rw [Call.extend, QueryBuilder.filter, ih.row_eq]
          exact hwrap
      | orderBy k =>
          have hwrap := ih.wrap { keys := [k] }
          rw [Call.extend, QueryBuilder.orderBy, ih.row_eq]
          exact hwrap
      | skip count => exact ih.wrap { skip := some count }
      | take count => exact ih.wrap { take := some count }
      | distinct => exact ih.wrap { distinct := true }

end DocumentMapper
