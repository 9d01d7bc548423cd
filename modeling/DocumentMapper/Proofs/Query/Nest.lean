import DocumentMapper.Proofs.Query.Clauses
import DocumentMapper.Proofs.Query.Operators
import DocumentMapper.Query.Compilation
import Mathlib.Data.List.Induction

/-!
# Levels inside one another

The levels of a query stand inside one another around a collection. A step of the
translation goes through all of them, and what it makes of a level depends on little
more than the level: so a property of every level is carried through the nest by a
lemma about one level (`Nest.step`). At the end every level adds its clauses to the
query object, and each kind of clause changes a part of the object of its own.

## Main definitions

* `Nest`: Levels around a collection, each with a property.
* `KeepsSource`: Steps that go through the levels.
* `Select.hoistClauses`: Hoisting in the clauses of a level.

## Theorems

* `Nest.step`: A step that keeps a property of levels.
* `nest_of_operators`: A property of all levels that operators build.
* `keepsSource_folds`, `keepsSource_binds`: Folding and binding are steps.
* `Select.hoist_run`: Hoisting of a level after its clauses.
* `queryObjectWithin_eq_ok`, `addClauses_eq_ok`: What a level adds to the query object.
-/

namespace DocumentMapper

/-- Levels inside one another around a collection. Each of them is related to an item of
    a list, the outermost one to the first. -/
inductive Nest {κ : Type} (c : Collection) (P : κ → Select → Prop) : List κ → Select → Prop
  | innermost {k : κ} {s : Select} (source : s.source = some (.collection c)) (level : P k s) :
    Nest c P [k] s
  | around {k : κ} {ks : List κ} {inner s : Select} (source : s.source = some (.select inner))
    (inside : Nest c P ks inner) (level : P k s) : Nest c P (k :: ks) s

/-- A step on levels that goes through their sources and keeps their labels. -/
structure KeepsSource (T : Select → Select → Prop) : Prop where
  label : ∀ {s s'}, T s s' → s'.label = s.label
  collection : ∀ {s s' c}, T s s' → s.source = some (.collection c) →
    s'.source = some (.collection c)
  select : ∀ {s s' inner}, T s s' → s.source = some (.select inner) →
    ∃ inner', s'.source = some (.select inner') ∧ T inner inner'

namespace Nest

variable {κ κ' : Type} {c : Collection} {P : κ → Select → Prop} {Q : κ' → Select → Prop}
  {R : κ → κ' → Prop} {ks : List κ} {s s' : Select}

/-- The documents that a nest reads in the end are those of the collection. -/
theorem documentClass?_eq (h : Nest c P ks s) :
    s.documentClass? = c.documentType.className? := by
  induction h with
  | @innermost k s source level =>
      rcases s with ⟨label, fields, from?, filter, order, group, distinct, skip, take⟩
      cases source
      rw [Select.documentClass?]
  | @around k ks inner s source inside level ih =>
      rcases s with ⟨label, fields, from?, filter, order, group, distinct, skip, take⟩
      cases source
      rw [Select.documentClass?]
      exact ih

/-- A step that makes levels with one property of levels with another. -/
theorem step {T : Select → Select → Prop} (hT : KeepsSource T)
    (hlevel : ∀ {k s s'}, P k s → T s s' → s'.sourceLabel? = s.sourceLabel? →
      s.documentClass? = c.documentType.className? → ∃ k', R k k' ∧ Q k' s')
    (h : Nest c P ks s) :
    ∀ {s' : Select}, T s s' → ∃ ks', List.Forall₂ R ks ks' ∧ Nest c Q ks' s' := by
  induction h with
  | @innermost k s source level =>
      intro s' hs
      have source' := hT.collection hs source
      -- The source of a level keeps its label, be it the collection or the level inside.
      have hlabel : s'.sourceLabel? = s.sourceLabel? := by
        rw [Select.sourceLabel?, Select.sourceLabel?, source, source']
      have hclass := (Nest.innermost source level).documentClass?_eq
      rcases hlevel level hs hlabel hclass with ⟨k', hk, level'⟩
      exact ⟨[k'], .cons hk .nil, .innermost source' level'⟩
  | @around k ks inner s source inside level ih =>
      intro s' hs
      rcases hT.select hs source with ⟨inner', source', hinner⟩
      have hlabel : s'.sourceLabel? = s.sourceLabel? := by
        rw [Select.sourceLabel?, Select.sourceLabel?, source, source', Option.bind_some,
          Option.bind_some, Expr.rowsLabel?, Expr.rowsLabel?, hT.label hinner]
      have hclass := (Nest.around source inside level).documentClass?_eq
      rcases hlevel level hs hlabel hclass with ⟨k', hk, level'⟩
      rcases ih hinner with ⟨ks', hks, inside'⟩
      exact ⟨k' :: ks', .cons hk hks, .around source' inside' level'⟩

/-- The outermost level can be changed in what is not its source. -/
theorem change {ks : List κ} {k k' : κ} (h : Nest c P (k :: ks) s)
    (hsource : s'.source = s.source) (hlevel : P k s → P k' s') : Nest c P (k' :: ks) s' := by
  cases h with
  | innermost source level => exact .innermost (hsource.trans source) (hlevel level)
  | around source inside level => exact .around (hsource.trans source) inside (hlevel level)

theorem ne_nil (h : Nest c P ks s) : ks ≠ [] := by
  cases h with
  | innermost source level => exact List.cons_ne_nil _ _
  | around source inside level => exact List.cons_ne_nil _ _

theorem outermost (h : Nest c P ks s) : ∃ k, P k s := by
  cases h with
  | innermost source level => exact ⟨_, level⟩
  | around source inside level => exact ⟨_, level⟩

end Nest

/-- What holds of every level that only has a source, and of the outermost level after each
    operator if it did before, holds of all levels that operators build. -/
theorem nest_of_operators {P : Select → Prop} {database name : String} {documentType : MemberType}
    (hsource : ∀ label source, P (.ofSource label source)) (operators : List Operator)
    (hextend : ∀ o ∈ operators, ∀ q : QueryBuilder, P q.level → P (o.extend q).level) :
    ∃ levels : List Unit, Nest ⟨QueryBuilder.label 0, database, name, documentType⟩ (fun _ => P)
      levels (operated database name documentType operators).level := by
  induction operators using List.reverseRecOn with
  | nil => exact ⟨[()], .innermost rfl (hsource _ _)⟩
  | append_singleton operators o ih =>
      rcases ih fun o ho => hextend o (List.mem_append_left _ ho) with ⟨levels, hnest⟩
      rcases hnest.outermost with ⟨_, hlevel⟩
      have hnext := hextend o (List.mem_append_right _ List.mem_cons_self) _ hlevel
      rw [operated_concat]
      -- A shape adds no level, a further key changes the outermost one, and the others are put
      -- around.
      cases o with
      | select shape => exact ⟨levels, hnest⟩
      | thenBy direction key =>
          rcases List.exists_cons_of_ne_nil hnest.ne_nil with ⟨outermost, inner, rfl⟩
          exact ⟨outermost :: inner, hnest.change rfl fun _ => hnext⟩
      | _ => exact ⟨() :: levels, .around rfl hnest hnext⟩

/-! ### Steps -/

theorem keepsSource_folds : KeepsSource Select.FoldsTo where
  label h := h.related.label.symm
  collection := by
    intro s s' c h hsource
    have hrel := h.related.source
    rw [hsource] at hrel
    generalize s'.source = source' at hrel
    cases hrel with
    | some hfolds => rw [hfolds.eq_of_isLeaf rfl]
  select := by
    intro s s' inner h hsource
    have hrel := h.related.source
    rw [hsource] at hrel
    generalize s'.source = source' at hrel
    cases hrel with
    | some hfolds =>
        rcases Expr.foldsTo_select hfolds with ⟨inner', rfl, hinner⟩
        exact ⟨inner', rfl, hinner⟩

theorem keepsSource_binds (store : Option Store) : KeepsSource (Select.BindsTo store) where
  label h := h.related.label.symm
  collection := by
    intro s s' c h hsource
    have hrel := h.related.source
    rw [hsource] at hrel
    generalize s'.source = source' at hrel
    cases hrel with
    | some hbinds => rw [hbinds.eq_of_isLeaf rfl]
  select := by
    intro s s' inner h hsource
    have hrel := h.related.source
    rw [hsource] at hrel
    generalize s'.source = source' at hrel
    cases hrel with
    | some hbinds =>
        rcases Expr.bindsTo_select hbinds with ⟨inner', rfl, hinner⟩
        exact ⟨inner', rfl, hinner⟩

/-- Hoisting in the clauses of a level, the source first. -/
def Select.hoistClauses (s : Select) : Hoisting Select := do
  let source ← hoistOption false s.source
  let filter ← hoistOption false s.filter
  let group ← hoistGroup false s.group
  let fields ← hoistNamed false s.fields
  let order ← hoistKeys false s.order
  let skip ← hoistOption false s.skip
  let take ← hoistOption false s.take
  return ⟨s.label, fields, source, filter, order, group, s.distinct, skip, take⟩

/-- Once its clauses are through, a level gets its keys. -/
theorem Select.hoist_run (outermost : Bool) (s : Select) (g : Gathering) :
    (s.hoist outermost).run g =
      ((s.hoistClauses.run g).1.receive outermost).run (s.hoistClauses.run g).2 := by
  rcases s with ⟨label, fields, source, filter, order, group, distinct, skip, take⟩
  rw [Select.hoist]
  rfl

theorem Select.hoistClauses_source (s : Select) (g : Gathering) :
    (s.hoistClauses.run g).1.source = ((hoistOption false s.source).run g).1 := by
  rfl

theorem hoistOption_collection (c : Collection) (g : Gathering) :
    (hoistOption false (some (.collection c))).run g = (some (.collection c), g) := by
  rw [hoistOption, Expr.hoist]
  rfl

theorem hoistOption_select (s : Select) (g : Gathering) :
    (hoistOption false (some (.select s))).run g =
      (some (.select ((s.hoist false).run g).1), ((s.hoist false).run g).2) := by
  rw [hoistOption, Expr.hoist]
  rfl

/-! ### Query objects -/

section

variable {q q' : QueryObject}

theorem addFilter_eq_ok {filter : Option Expr} (h : q.addFilter filter = .ok q') :
    q' = { q with query := q'.query } := by
  cases filter with
  | none => rw [← Except.ok.inj h]
  | some e =>
      rw [QueryObject.addFilter] at h
      rcases Except.bind_eq_ok.mp h with ⟨d, _, h⟩
      rw [← Except.ok.inj h]

theorem addKeys_eq_ok (keys : List (Direction × Expr)) :
    ∀ {q q' : QueryObject}, q.addKeys keys = .ok q' → q' = { q with order := q'.order } := by
  induction keys with
  | nil =>
      intro q q' h
      rw [QueryObject.addKeys] at h
      rw [← Except.ok.inj h]
  | cons key keys ih =>
      intro q q' h
      rcases key with ⟨d, e⟩
      rw [QueryObject.addKeys] at h
      cases hfield : e.asField? with
      | none =>
          rw [hfield] at h
          cases h
      | some f =>
          rw [hfield] at h
          have hrest := ih (q := q.addOrder f.path d.sign) h
          exact hrest

/-- A level adds its filter, its declared fields, its keys and its window. -/
theorem addClauses_eq_ok {s : Select} (h : s.addClauses q = .ok q') :
    q'.fields = (q.addFields s.fields).fields ∧
      ∃ q₁ : QueryObject, q₁.order = q.order ∧
        q₁.addKeys s.order = .ok { q₁ with order := q'.order } := by
  unfold Select.addClauses at h
  rcases Except.bind_eq_ok.mp h with ⟨q₁, hfilter, h⟩
  rcases Except.bind_eq_ok.mp h with ⟨q₂, hkeys, h⟩
  rcases Except.bind_eq_ok.mp h with ⟨w, _, h⟩
  have hkeys' := addKeys_eq_ok _ hkeys
  have hfilter' := addFilter_eq_ok hfilter
  -- A filter leaves fields and keys alone, and keys leave the fields alone.
  rw [← Except.ok.inj h]
  constructor
  · rw [hkeys', hfilter']
    rfl
  · refine ⟨q₁.addFields s.fields, ?_, ?_⟩
    · rw [hfilter']
      rfl
    · rw [hkeys]
      exact congrArg Except.ok hkeys'

/-- A level adds its clauses to the query object of what is inside. -/
theorem queryObjectWithin_eq_ok {outermost : Bool} {s : Select}
    (h : s.queryObjectWithin outermost = .ok q') :
    (∃ c, s.source = some (.collection c) ∧ s.addClauses (.ofCollection c) = .ok q') ∨
      ∃ inner q, s.source = some (.select inner) ∧ inner.queryObjectWithin false = .ok q ∧
        s.addClauses q = .ok q' := by
  rcases s with ⟨label, fields, source, filter, order, group, distinct, skip, take⟩
  unfold Select.queryObjectWithin at h
  split at h
  · cases h
  · cases source with
    | none => cases h
    | some e =>
        cases e with
        | collection c => exact .inl ⟨c, rfl, h⟩
        | select inner =>
            rcases Except.bind_eq_ok.mp h with ⟨q, hq, h⟩
            exact .inr ⟨inner, q, rfl, hq, h⟩
        | _ => cases h

theorem exists_addClauses {outermost : Bool} {s : Select}
    (h : s.queryObjectWithin outermost = .ok q') : ∃ q, s.addClauses q = .ok q' := by
  rcases queryObjectWithin_eq_ok h with ⟨c, _, hadd⟩ | ⟨inner, q, _, _, hadd⟩
  · exact ⟨_, hadd⟩
  · exact ⟨_, hadd⟩

/-- What levels keep on the way outward holds of the query object of a nest. -/
theorem Nest.queryObject_kept {κ : Type} {c : Collection} {P : κ → Select → Prop} {ks : List κ}
    {s : Select} {I : QueryObject → Prop} (hcollection : I (.ofCollection c))
    (hlevel : ∀ {k s q q'}, P k s → I q → s.addClauses q = .ok q' → I q') (h : Nest c P ks s) :
    ∀ {outermost : Bool} {q : QueryObject}, s.queryObjectWithin outermost = .ok q → I q := by
  induction h with
  | innermost source level =>
      intro outermost q hq
      rcases queryObjectWithin_eq_ok hq with ⟨c', hc, hadd⟩ | ⟨inner, _, hinner, _⟩
      · rw [source] at hc
        cases hc
        exact hlevel level hcollection hadd
      · rw [source] at hinner
        cases hinner
  | around source inside level ih =>
      intro outermost q hq
      rcases queryObjectWithin_eq_ok hq with ⟨c', hc, _⟩ | ⟨inner, q₁, hinner, hq₁, hadd⟩
      · rw [source] at hc
        cases hc
      · rw [source] at hinner
        cases hinner
        exact hlevel level (ih hq₁) hadd

/-- The outermost level adds its clauses to a query object of which that holds, also if it
    is not like the others. -/
theorem Nest.queryObject_outermost {κ : Type} {c : Collection} {P : κ → Select → Prop}
    {ks : List κ} {s s' : Select} {I : QueryObject → Prop} (hcollection : I (.ofCollection c))
    (hlevel : ∀ {k s q q'}, P k s → I q → s.addClauses q = .ok q' → I q') (h : Nest c P ks s)
    (hsource : s'.source = s.source) {q : QueryObject} (hq : s'.queryObject = .ok q) :
    ∃ q₁ : QueryObject, I q₁ ∧ s'.addClauses q₁ = .ok q := by
  rcases queryObjectWithin_eq_ok hq with ⟨c', hc, hadd⟩ | ⟨inner, q₁, hinner, hq₁, hadd⟩
  · rw [hsource] at hc
    cases h with
    | innermost source level =>
        rw [source] at hc
        cases hc
        exact ⟨_, hcollection, hadd⟩
    | around source inside level =>
        rw [source] at hc
        cases hc
  · rw [hsource] at hinner
    cases h with
    | innermost source level =>
        rw [source] at hinner
        cases hinner
    | around source inside level =>
        rw [source] at hinner
        cases hinner
        exact ⟨q₁, inside.queryObject_kept hcollection hlevel hq₁, hadd⟩

end

end DocumentMapper
