import DocumentMapper.Proofs.Query.FlatQuery
import DocumentMapper.Proofs.Query.HoistedLevels
import DocumentMapper.Proofs.Query.SortCalls
import DocumentMapper.Proofs.Query.Stages

/-!
# The sort document of calls

The keys of a call are chains of members on the row. Folding leaves them alone, and binding
makes each of them a field of the level inside, under the names the members are stored by
(`SortKey.entry?`). Hoisting then gathers the fields from the inside outward, past filters
of any kind, and the outermost level gets the last use of every field. Levels inside it
keep no keys, since they cut out no window. So the sort document has the last uses of the
fields, in the order in which the levels have their keys.

## Main definitions

* `SortKey.entry?`: The stored path and the direction of a key.
* `SortLevel`: A level that filters and sorts.

## Theorems

* `nest_sorted`: The levels that calls build.
* `SortLevel.folds`, `SortLevel.binds`: Folding and binding of a level.
* `exists_order_hoist`, `nest_hoist_sorted`: The keys of the levels after hoisting.
* `compile_sorted`: The sort document of calls.
-/

namespace DocumentMapper

open QueryBuilder (label)

/-- The path under which the field of a key is stored, and the direction. -/
def SortKey.entry? (store : Option Store) (documentClass : Option String) (k : SortKey) :
    Except QueryError (String × Direction) := do
  return (String.intercalate "." (← storedNames? store documentClass k.field.names), k.direction)

/-- Without a class, or without a store, members keep their names. -/
theorem SortKey.entry?_eq {store : Option Store} {documentClass : Option String}
    (h : store = none ∨ documentClass = none) (k : SortKey) :
    k.entry? store documentClass = .ok k.entry := by
  rw [SortKey.entry?, storedNames?_of_none h]
  rfl

/-- A level that lets all keys pass: its rows are those of its source or some of them, in
    their order and whatever their number. -/
structure Select.Passes (s : Select) : Prop where
  fields : s.fields = []
  group : s.group = none
  distinct : s.distinct = false
  skip : s.skip = none
  take : s.take = none

theorem Select.Passes.isOpen {s : Select} (h : s.Passes) : s.Open where
  fields := h.fields
  group := h.group
  distinct := h.distinct
  skip e he := by
    rw [h.skip] at he
    cases he
  take e he := by
    rw [h.take] at he
    cases he

/-- Whether keys pass is no matter of the source, the filter and the keys of a level. -/
theorem Select.Passes.change {s : Select} (h : s.Passes) (source filter : Option Expr)
    (order : List (Direction × Expr)) :
    Select.Passes { s with source := source, filter := filter, order := order } :=
  ⟨h.fields, h.group, h.distinct, h.skip, h.take⟩

/-- A level that filters and sorts. Its keys are related to items of a list, by a relation
    that may depend on the rows it reads. -/
structure SortLevel {κ : Type} (R : String → κ → Direction × Expr → Prop) (keys : List κ)
    (s : Select) : Prop where
  order : ∃ source, s.sourceLabel? = some source ∧ List.Forall₂ (R source) keys s.order
  filter : ∀ e ∈ s.filter, e.LevelFree
  passes : s.Passes

theorem levelFree_none : ∀ e ∈ (none : Option Expr), e.LevelFree := by
  intro e he
  cases he

/-- A key on some parameter. -/
def KeyOn (_ : String) (k : SortKey) (key : Direction × Expr) : Prop :=
  ∃ parameter, key = k.unbound parameter

/-- A key on a field of the source. -/
def KeyOver (source : String) (entry : String × Direction) (key : Direction × Expr) : Prop :=
  key = boundKey source entry

/-! ### The levels that calls build -/

/-- The query that calls build for a collection. -/
def sorted (database name : String) (documentType : MemberType) (calls : List SortCall) :
    QueryBuilder :=
  operated database name documentType (calls.map SortCall.operator)

theorem sorted_concat {database name : String} {documentType : MemberType} (calls : List SortCall)
    (call : SortCall) :
    sorted database name documentType (calls ++ [call]) =
      call.operator.extend (sorted database name documentType calls) := by
  unfold sorted
  rw [List.map_append, List.map_cons, List.map_nil, operated_concat]

/-- Every filter and every first key has a level, and further keys go to the outermost. -/
theorem nest_sorted (database name : String) (documentType : MemberType) (calls : List SortCall) :
    (sorted database name documentType calls).projector = none ∧
      Nest ⟨label 0, database, name, documentType⟩ (SortLevel KeyOn) (levelKeys calls)
        (sorted database name documentType calls).level := by
  induction calls using List.reverseRecOn with
  | nil => exact ⟨rfl, .innermost rfl ⟨⟨_, rfl, .nil⟩, levelFree_none, ⟨rfl, rfl, rfl, rfl, rfl⟩⟩⟩
  | append_singleton calls call ih =>
      rcases ih with ⟨hprojector, hnest⟩
      -- The functions of a call are given a parameter.
      have hrow : ∃ parameter,
          (sorted database name documentType calls).row = .parameter parameter := by
        rw [QueryBuilder.row, hprojector]
        exact ⟨_, rfl⟩
      rcases hrow with ⟨parameter, hrow⟩
      rw [sorted_concat, levelKeys_concat]
      cases call with
      | filter p =>
          refine ⟨hprojector, .around rfl hnest ⟨⟨_, rfl, .nil⟩, ?_, ⟨rfl, rfl, rfl, rfl, rfl⟩⟩⟩
          intro e he
          cases he
          rw [hrow]
          exact p.levelFree parameter
      | orderBy k =>
          have hkey : KeyOn (sorted database name documentType calls).level.label k
              (k.direction, k.field.on (sorted database name documentType calls).row) :=
            ⟨parameter, by rw [hrow]; rfl⟩
          exact ⟨hprojector, .around rfl hnest
            ⟨⟨_, rfl, .cons hkey .nil⟩, levelFree_none, ⟨rfl, rfl, rfl, rfl, rfl⟩⟩⟩
      | thenBy k =>
          refine ⟨hprojector, ?_⟩
          rcases List.exists_cons_of_ne_nil hnest.ne_nil with ⟨keys, inner, hlevels⟩
          rw [hlevels] at hnest ⊢
          refine hnest.change rfl fun hlevel => ?_
          rcases hlevel.order with ⟨source, hsource, horder⟩
          have hkey : KeyOn source k
              (k.direction, k.field.on (sorted database name documentType calls).row) :=
            ⟨parameter, by rw [hrow]; rfl⟩
          exact ⟨⟨source, hsource, List.rel_append horder (.cons hkey .nil)⟩, hlevel.filter,
            hlevel.passes.change _ _ _⟩

/-! ### Folding and binding -/

section

variable {κ κ' : Type} {R : String → κ → Direction × Expr → Prop}
  {R' : String → κ' → Direction × Expr → Prop} {T : Expr → Expr → Prop} {S : κ → κ' → Prop}
  {keys : List κ} {s s' : Select}

/-- Clauses that a level has none of are not replaced either. -/
theorem Select.Passes.of_related (h : s.Passes) (hrel : Select.Related T s s') : s'.Passes where
  fields := hrel.fields_eq_nil h.fields
  group := eq_none_of_rel hrel.group h.group
  distinct := hrel.distinct.symm.trans h.distinct
  skip := eq_none_of_rel hrel.skip h.skip
  take := eq_none_of_rel hrel.take h.take

/-- A step on the clauses of a level is a step on its keys. -/
theorem SortLevel.step (h : SortLevel R keys s) (hrel : Select.Related T s s')
    (hlabel : s'.sourceLabel? = s.sourceLabel?)
    (hfilter : ∀ {e e'}, Expr.LevelFree e → T e e' → Expr.LevelFree e')
    (hkey : ∀ {source k key key'}, s.sourceLabel? = some source → R source k key →
      key.1 = key'.1 → T key.2 key'.2 → ∃ k', S k k' ∧ R' source k' key') :
    ∃ keys', List.Forall₂ S keys keys' ∧ SortLevel R' keys' s' := by
  rcases h.order with ⟨source, hsource, horder⟩
  have hkeys : ∃ keys', List.Forall₂ S keys keys' ∧ List.Forall₂ (R' source) keys' s'.order :=
    exists_forall₂_of_square (fun hk hstep => hkey hsource hk hstep.1 hstep.2) horder hrel.order
  rcases hkeys with ⟨keys', hS, horder'⟩
  exact ⟨keys', hS, {
    order := ⟨source, hlabel.trans hsource, horder'⟩
    filter := forall_of_rel hrel.filter fun e he _ hstep => hfilter (h.filter e he) hstep
    passes := h.passes.of_related hrel }⟩

/-- Folding leaves chains of members alone. -/
theorem SortLevel.folds {keys : List SortKey} (h : SortLevel KeyOn keys s) (hfolds : s.FoldsTo s')
    (hlabel : s'.sourceLabel? = s.sourceLabel?) : SortLevel KeyOn keys s' := by
  have hstep : ∃ keys', List.Forall₂ (· = ·) keys keys' ∧ SortLevel KeyOn keys' s' := by
    refine h.step hfolds.related hlabel (fun he hfold => he.fold hfold) ?_
    intro source k key key' _ hkey hdirection hfold
    rcases hkey with ⟨parameter, rfl⟩
    rcases hfold with ⟨n, m, hfold⟩
    rw [SortKey.unbound, FieldChain.fold_on] at hfold
    refine ⟨k, rfl, parameter, ?_⟩
    exact Prod.ext hdirection.symm (Folding.pure_eq_ok.mp hfold).1.symm
  rcases hstep with ⟨keys', hkeys, hlevel⟩
  rw [List.forall₂_eq_eq_eq] at hkeys
  subst hkeys
  exact hlevel

/-- Binding makes fields of chains of members. -/
theorem SortLevel.binds {store : Option Store} {keys : List SortKey} (h : SortLevel KeyOn keys s)
    (hbinds : s.BindsTo store s') (hlabel : s'.sourceLabel? = s.sourceLabel?) :
    ∃ entries, List.Forall₂ (fun k entry => k.entry? store s.documentClass? = .ok entry)
      keys entries ∧ SortLevel KeyOver entries s' := by
  refine h.step hbinds.related hlabel (fun he hbind => he.bind hbind) ?_
  intro source k key key' hsource hkey hdirection hbind
  rcases hkey with ⟨parameter, rfl⟩
  unfold Expr.BindsTo SortKey.unbound at hbind
  rw [FieldChain.bind_on_eq, bindPath_eq_ok] at hbind
  rcases hbind with ⟨path, hpath, hfield⟩
  have hclass : s.sourceRows.documentClass = s.documentClass? := rfl
  -- A key is bound against the rows that its level reads.
  have hrows : s.sourceRows.label = source := by rw [Select.sourceRows, hsource, Option.getD_some]
  rw [hclass] at hpath
  rw [hrows] at hfield
  refine ⟨(String.intercalate "." path, k.direction), ?_, ?_⟩
  · rw [SortKey.entry?, hpath]
    rfl
  · exact Prod.ext hdirection.symm hfield

end

/-! ### Hoisting -/

section

variable {entries : List (String × Direction)} {s : Select}

theorem SortLevel.order_eq (h : SortLevel KeyOver entries s) {source : String}
    (hsource : s.sourceLabel? = some source) : s.order = entries.map (boundKey source) := by
  rcases h.order with ⟨source', hsource', horder⟩
  rw [hsource] at hsource'
  cases hsource'
  have hmap :=
    map_eq_map_of_forall₂ (f := boundKey source) (g := id) horder fun _ _ hkey => hkey.symm
  rw [hmap, List.map_id]

/-- Keys pass through a level that filters and sorts, and it has the keys it is related to. -/
theorem SortLevel.sorts (h : SortLevel KeyOver entries s) : s.Sorts ∧ s.entries = entries := by
  rcases h.order with ⟨source, hsource, _⟩
  have horder := h.order_eq hsource
  have hlabel : s.sourceRows.label = source := by
    rw [Select.sourceRows, hsource, Option.getD_some]
  refine ⟨⟨h.passes.isOpen, ?_, h.filter⟩, ?_⟩
  · intro key hkey
    rw [horder] at hkey
    rcases List.mem_map.mp hkey with ⟨entry, _, rfl⟩
    rw [hlabel]
    rfl
  · unfold Select.entries
    rw [horder, List.filterMap_map]
    exact List.filterMap_some

variable {c : Collection} {levels : List (List (String × Direction))}

theorem nest_sorts (h : Nest c (SortLevel KeyOver) levels s) :
    Nest c (fun _ => Select.Sorts) levels s ∧
      s.levels.flatMap Select.entries = levels.flatten := by
  induction h with
  | @innermost entries s source level =>
      refine ⟨.innermost source level.sorts.1, ?_⟩
      rw [Select.levels, Select.inside_of_collection source, List.flatMap_singleton, level.sorts.2,
        List.flatten_singleton]
  | @around entries levels inner s source inside level ih =>
      refine ⟨.around source ih.1 level.sorts.1, ?_⟩
      rw [Select.levels, Select.inside_of_select source, List.flatMap_cons, level.sorts.2, ih.2,
        List.flatten_cons]

/-- The outermost level gets the last use of every field. -/
theorem exists_order_hoist (h : Nest c (SortLevel KeyOver) levels s) :
    ∃ source, ((s.hoist true).run {}).1.order =
      (keepLast Prod.fst levels.flatten).map (boundKey source) := by
  rcases nest_sorts h with ⟨hsorts, hentries⟩
  refine ⟨s.sourceRows.label, ?_⟩
  rw [(hoisted_nest hsorts true).1.outermost.order, Select.askedKeys, hentries, Bool.true_or,
    Bool.true_or, if_pos rfl]

/-- After hoisting the levels inside others have no keys. -/
theorem nest_hoist_sorted (h : Nest c (SortLevel KeyOver) levels s) :
    Nest c (fun _ s => s.order = []) levels ((s.hoist false).run {}).1 := by
  have hinner : ∀ {entries levels} {s : Select}, SortLevel KeyOver entries s →
      Nest c (SortLevel KeyOver) levels s → ((s.hoist false).run {}).1.order = [] := by
    intro entries levels s hlevel h
    rw [(hoisted_nest (nest_sorts h).1 false).1.outermost.order, Select.askedKeys,
      hlevel.passes.take, hlevel.passes.skip]
    rfl
  have hsource := (Select.hoist_source_label false s {}).1
  induction h with
  | innermost source level =>
      refine .innermost ?_ (hinner level (.innermost source level))
      rw [hsource, source, hoistOption_collection]
  | @around entries levels inner s source inside level ih =>
      refine .around ?_ (ih (Select.hoist_source_label false inner {}).1)
        (hinner level (.around source inside level))
      rw [hsource, source, hoistOption_select]

end

/-! ### The translation -/

theorem addGrouping_order {q q' : QueryObject} {s : Select} (h : q.addGrouping s = .ok q') :
    q'.order = q.order := by
  unfold QueryObject.addGrouping at h
  split at h
  · rw [← Except.ok.inj h]
  · rcases Except.bind_eq_ok.mp h with ⟨map, _, h⟩
    rcases Except.bind_eq_ok.mp h with ⟨reduce, _, h⟩
    rw [← Except.ok.inj h]

/-- The sort document of hoisted levels has the last use of every field. -/
theorem order_hoist_sorted {c : Collection} {levels : List (List (String × Direction))}
    {s : Select} (h : Nest c (SortLevel KeyOver) levels s) {q : QueryObject}
    (hq : ((s.hoist true).run {}).1.queryObject = .ok q) :
    q.order = ⟨(keepLast Prod.fst levels.flatten).map sortField⟩ := by
  -- Levels without keys leave the sort document as it is.
  have hlevel : ∀ {s : Select} {q q' : QueryObject}, s.order = [] → q.order = .empty →
      s.addClauses q = .ok q' → q'.order = .empty := by
    intro s q q' hs hq hadd
    rcases (addClauses_eq_ok hadd).2 with ⟨q₁, horder, hkeys⟩
    rw [hs, QueryObject.addKeys, Except.ok.injEq] at hkeys
    have hsame := congrArg QueryObject.order hkeys
    rw [← hq, ← horder, hsame]
  have hsource : ((s.hoist true).run {}).1.source = ((s.hoist false).run {}).1.source :=
    (Select.hoist_source_label true s {}).1.trans (Select.hoist_source_label false s {}).1.symm
  rcases (nest_hoist_sorted h).queryObject_outermost (I := fun q => q.order = .empty) rfl hlevel
    hsource hq with ⟨q₁, hempty, hadd⟩
  rcases (addClauses_eq_ok hadd).2 with ⟨q₂, horder, hkeys⟩
  rcases exists_order_hoist h with ⟨source, hkeep⟩
  -- So the outermost level adds its keys to an empty one, each of them once.
  have hnone : q₂.order.fields = ([] : List (String × Direction)).map sortField := by
    rw [horder, hempty]
    rfl
  rw [hkeep, addKeys_boundKey source _ q₂ hnone] at hkeys
  have hnodup : ((keepLast Prod.fst levels.flatten).map Prod.fst).Nodup := nodup_keepLast _
  have hinsert := Fields.ofList_of_nodup hnodup
  rw [Fields.ofList] at hinsert
  rw [hinsert] at hkeys
  exact (congrArg QueryObject.order (Except.ok.inj hkeys)).symm

/-- The sort document of accepted calls has the last use of every field, in the order in
    which the levels have their keys. -/
theorem compile_sorted {database name : String} {documentType : MemberType}
    {calls : List SortCall} {store : Option Store} {q : QueryObject}
    (h : (sorted database name documentType calls).compile store = .ok q) :
    ∃ entries, List.Forall₂ (fun k entry => k.entry? store documentType.className? = .ok entry)
        (levelKeys calls).flatten entries ∧
      q.order = ⟨(keepLast Prod.fst entries).map sortField⟩ := by
  rcases nest_sorted database name documentType calls with ⟨hprojector, hbuilt⟩
  have hexpr : (sorted database name documentType calls).toExpr =
      .select (sorted database name documentType calls).level := by
    rw [QueryBuilder.toExpr, hprojector]
  rw [QueryBuilder.compile, hexpr] at h
  rcases compile_select_eq_ok.mp h with ⟨s₁, s₂, q₁, hfolds, hbinds, hq₁, hq⟩
  rcases hbuilt.step (R := fun keys keys' => keys = keys') (Q := SortLevel KeyOn) keepsSource_folds
    (fun hs hstep hlabel _ => ⟨_, rfl, hs.folds hstep hlabel⟩) hfolds with ⟨levels, hsame, hfolded⟩
  rw [List.forall₂_eq_eq_eq] at hsame
  -- Folding leaves the keys as they are; binding makes an entry of each.
  subst hsame
  rcases hfolded.step (R := List.Forall₂ fun k entry =>
      k.entry? store documentType.className? = .ok entry) (Q := SortLevel KeyOver)
    (keepsSource_binds store)
    (fun hs hstep hlabel hclass => by
      have hbound := hs.binds hstep hlabel
      rw [hclass] at hbound
      exact hbound) hbinds with ⟨levels, hentries, hbound⟩
  refine ⟨levels.flatten, List.rel_flatten hentries, ?_⟩
  rw [addGrouping_order hq, ← order_hoist_sorted hbound hq₁]

end DocumentMapper
