import DocumentMapper.Proofs.Query.Subqueries

/-!
# The keys of every level

A query that is built by filters, keys, windows and shapes has levels through which keys may
pass. Hoisting then has a closed form: the outermost level and every level that cuts out a
window get the last use of every field in the list of the keys of the level and of all
levels inside it, in this order, as fields of their own source. All other levels get no
keys, and nothing else is changed but the insides of subqueries.

## Main definitions

* `Select.levels`, `Expr.levels`: The levels inside one another.
* `Select.Open`: A level through which keys pass.
* `Select.askedKeys`: The keys that a level gets.
* `Select.Rekeyed`: A level with other keys.

## Theorems

* `Open.handOn`: What an open level takes and hands on.
* `hoisted_nest`: Hoisting through a nest of levels.
* `QueryBuilder.hoistOrder_levels`: The keys of every level of a query.
-/

namespace DocumentMapper

open QueryBuilder (label)
open DocumentMapper.Expr (SameAround)

/-- A step that leaves leaves alone leaves constants alone. -/
theorem Expr.eq_of_isConstant {T : Expr → Expr → Prop}
    (hT : ∀ {e e'}, T e e' → e.isLeaf = true → e' = e) {e e' : Expr}
    (he : e.isConstant = true) (hstep : T e e') : e' = e := by
  cases e with
  | constant v => exact hT hstep rfl
  | _ => cases he

/-! ### The levels of a query -/

namespace Select

/-- The levels inside a level, from the outermost of them on. -/
def inside : Select → List Select
  | ⟨_, _, some (.select inner), _, _, _, _, _, _⟩ => inner :: inner.inside
  | _ => []

/-- A level and the levels inside it. -/
def levels (s : Select) : List Select :=
  s :: s.inside

theorem inside_of_select {s inner : Select} (h : s.source = some (.select inner)) :
    s.inside = inner.levels := by
  rcases s with ⟨label, fields, source, filter, order, group, distinct, skip, take⟩
  cases h
  rw [inside, levels]

theorem inside_of_collection {s : Select} {c : Collection} (h : s.source = some (.collection c)) :
    s.inside = [] := by
  rcases s with ⟨label, fields, source, filter, order, group, distinct, skip, take⟩
  cases h
  rw [inside]
  rintro _ _ _ _ _ _ _ _ _ ⟨⟩

/-- The paths and the directions of the keys on fields. -/
def entries (s : Select) : List (String × Direction) :=
  s.order.filterMap fun key => key.2.asField?.map fun f => (f.path, key.1)

/-- The keys of a level are fields of its source. -/
def KeysOfSource (s : Select) : Prop :=
  ∀ key ∈ s.order, key.2.asField?.map FieldRef.label = some s.sourceRows.label

theorem KeysOfSource.order_eq {s : Select} (h : s.KeysOfSource) :
    s.order = s.entries.map (boundKey s.sourceRows.label) := by
  -- For any list of keys, as the induction is on the list and not on the level.
  have hkeys : ∀ keys : List (Direction × Expr),
      (∀ key ∈ keys, key.2.asField?.map FieldRef.label = some s.sourceRows.label) →
      keys = (keys.filterMap fun key => key.2.asField?.map fun f => (f.path, key.1)).map
        (boundKey s.sourceRows.label) := by
    intro keys
    induction keys with
    | nil => exact fun _ => rfl
    | cons key keys ih =>
        intro h
        have hfield := h key List.mem_cons_self
        have hrest := ih fun key hkey => h key (List.mem_cons_of_mem _ hkey)
        rcases key with ⟨direction, e⟩
        cases e with
        | field f =>
            rcases f with ⟨source, path⟩
            have hsource : source = s.sourceRows.label := Option.some.inj hfield
            subst hsource
            exact congrArg ((direction, _) :: ·) hrest
        | _ => cases hfield
  exact hkeys s.order h

/-! ### Levels through which keys pass -/

/-- A level through which keys pass: its rows are rows of its source, in their order. -/
structure Open (s : Select) : Prop where
  fields : s.fields = []
  group : s.group = none
  distinct : s.distinct = false
  skip : ∀ e ∈ s.skip, e.isConstant = true
  take : ∀ e ∈ s.take, e.isConstant = true

/-- Whether a level is open is no matter of its source, its filter and its keys. -/
theorem Open.change {s : Select} (h : s.Open) (source filter : Option Expr)
    (order : List (Direction × Expr)) :
    Select.Open { s with source := source, filter := filter, order := order } :=
  ⟨h.fields, h.group, h.distinct, h.skip, h.take⟩

/-- A step that leaves constants alone leaves a level open. -/
theorem Open.of_related {T : Expr → Expr → Prop} {s s' : Select} (h : s.Open)
    (hT : ∀ {e e'}, e.isConstant = true → T e e' → e' = e) (hrel : Select.Related T s s') :
    s'.Open where
  fields := hrel.fields_eq_nil h.fields
  group := eq_none_of_rel hrel.group h.group
  distinct := hrel.distinct.symm.trans h.distinct
  skip := forall_of_rel hrel.skip fun e he _ hstep => hT (h.skip e he) hstep ▸ h.skip e he
  take := forall_of_rel hrel.take fun e he _ hstep => hT (h.take e he) hstep ▸ h.take e he

/-- The keys that a level gets, of all those on some levels. -/
def askedKeys (outermost : Bool) (s : Select) (levels : List Select) : List (Direction × Expr) :=
  if outermost || s.take.isSome || s.skip.isSome then
    (keepLast Prod.fst (levels.flatMap entries)).map (boundKey s.sourceRows.label)
  else []

section

variable {s : Select} {source : String} {inside : List (String × Direction)} {g : Gathering}

/-- An open level takes the keys that are gathered if it is asked for them, and hands all of
    them on as fields of its own. -/
theorem Open.handOn (h : s.Open) (hsource : s.sourceLabel? = some source)
    (hg : Carried g source (keepLast Prod.fst inside)) (outermost : Bool) :
    (s.handOn outermost g).1 = s.withOrder (if outermost || s.take.isSome || s.skip.isSome then
        (keepLast Prod.fst inside).map (boundKey source) else []) ∧
      (outermost = false →
        Carried (s.handOn outermost g).2 s.label (keepLast Prod.fst inside)) := by
  have hkeys := hg.keys_eq
  have horder (needs : Bool) : (if needs && !false then g.keys.getD [] else if needs then s.order
      else []) = if needs then (keepLast Prod.fst inside).map (boundKey source) else [] := by
    rw [hg.getD_keys]
    cases needs <;> rfl
  have hfields : ∀ order,
      ({ s.withOrder order with fields := [] } : Select) = s.withOrder order := by
    intro order
    rw [← h.fields]
    rfl
  unfold Select.handOn
  simp only [h.group, h.distinct, Option.isSome_none, Bool.or_false, horder]
  by_cases hnil : keepLast Prod.fst inside = []
  · -- No keys were gathered at all, which is not the same as an empty list of them.
    rw [if_pos hnil] at hkeys
    rw [hkeys, hnil]
    exact ⟨rfl, fun _ => carried_nil g s.label⟩
  · -- The list is started anew over the rows of the level, and no field is dropped again.
    rw [if_neg hnil] at hkeys
    have hstart : Carried { g with keys := none } s.label (keepLast Prod.fst []) :=
      carried_nil g s.label
    have hpassed := hstart.prepend hnil
    rw [List.append_nil, keepLast_of_nodup (nodup_keepLast inside)] at hpassed
    rw [hkeys]
    cases outermost with
    | true => exact ⟨rfl, Bool.noConfusion⟩
    | false =>
        simp only [passOutward_boundKey rfl hsource h.fields, Bool.false_eq_true, if_false, hfields]
        exact ⟨trivial, fun _ => hpassed⟩

end

/-- An open level whose keys are fields of its source, and in whose filter levels stand
    within subqueries only. -/
structure Sorts (s : Select) : Prop where
  isOpen : s.Open
  keys : s.KeysOfSource
  filter : ∀ e ∈ s.filter, e.LevelFree

/-- A level that is as it was but for its keys, for what stands in subqueries in its filter,
    and for what happens to the level inside it. -/
structure Rekeyed (s s' : Select) (order : List (Direction × Expr)) : Prop where
  order : s'.order = order
  label : s'.label = s.label
  fields : s'.fields = s.fields
  source : s'.source = s.source ∨ ∃ inner inner', s.source = some (.select inner) ∧
    s'.source = some (.select inner') ∧ inner'.label = inner.label
  filter : Option.Rel (SameAround Eq) s.filter s'.filter
  group : s'.group = s.group
  distinct : s'.distinct = s.distinct
  skip : s'.skip = s.skip
  take : s'.take = s.take

/-! ### Hoisting of one level -/

theorem hoistOption_of_isConstant {x : Option Expr} (h : ∀ e ∈ x, e.isConstant = true) :
    hoistOption false x = pure x := by
  cases x with
  | none => rw [hoistOption]
  | some e =>
      have hconstant := h e rfl
      cases e with
      | constant v => rw [hoistOption, Expr.hoist, pure_bind]
      | _ => cases hconstant

/-- Nothing is gathered in the clauses of a level but in its source, if its keys are fields
    and it declares nothing. -/
theorem hoistClauses_run_of_fields {s : Select} (hfields : s.fields = []) (hgroup : s.group = none)
    (hskip : ∀ e ∈ s.skip, e.isConstant = true) (htake : ∀ e ∈ s.take, e.isConstant = true)
    (hkeys : ∀ key ∈ s.order, ∃ f, key.2.asField? = some f)
    (hlevelFree : ∀ e ∈ s.filter, e.LevelFree) (g : Gathering) :
    ∃ filter, Option.Rel (SameAround Eq) s.filter filter ∧
      s.hoistClauses.run g =
        ({ s with source := ((hoistOption false s.source).run g).1, filter := filter },
          ((hoistOption false s.source).run g).2) := by
  rcases exists_hoistOption false hlevelFree with ⟨filter, hfilter, haround⟩
  refine ⟨filter, haround, ?_⟩
  unfold Select.hoistClauses
  simp only [hfilter, hgroup, hoistGroup, hfields, hoistNamed, hoistKeys_of_fields hkeys,
    hoistOption_of_isConstant hskip, hoistOption_of_isConstant htake, pure_bind]
  rfl

theorem Sorts.hoistClauses_run {s : Select} (h : s.Sorts) (g : Gathering) :
    ∃ filter, Option.Rel (SameAround Eq) s.filter filter ∧
      s.hoistClauses.run g =
        ({ s with source := ((hoistOption false s.source).run g).1, filter := filter },
          ((hoistOption false s.source).run g).2) := by
  have hopen := h.isOpen
  have hkeys : ∀ key ∈ s.order, ∃ f, key.2.asField? = some f := by
    intro key hkey
    rcases Option.map_eq_some_iff.mp (h.keys key hkey) with ⟨f, hf, _⟩
    exact ⟨f, hf⟩
  exact hoistClauses_run_of_fields hopen.fields hopen.group hopen.skip hopen.take hkeys h.filter g

/-- Hoisting in a level: in its source first, and then its own keys go in front of those from
    inside. -/
theorem Sorts.hoist_run {s : Select} (h : s.Sorts) {source : Option Expr} {g : Gathering}
    (hrun : (hoistOption false s.source).run {} = (source, g))
    (hlabel : source.bind Expr.rowsLabel? = some s.sourceRows.label)
    (hkept : source = s.source ∨ ∃ inner inner', s.source = some (.select inner) ∧
      source = some (.select inner') ∧ inner'.label = inner.label)
    {levels : List Select}
    (hg : Carried g s.sourceRows.label (keepLast Prod.fst (levels.flatMap entries)))
    (outermost : Bool) :
    s.Rekeyed ((s.hoist outermost).run {}).1 (s.askedKeys outermost (s :: levels)) ∧
      ((s.hoist outermost).run {}).1.source = source ∧
      (outermost = false → Carried ((s.hoist outermost).run {}).2 s.label
        (keepLast Prod.fst ((s :: levels).flatMap entries))) := by
  rcases h.hoistClauses_run {} with ⟨filter, haround, hclauses⟩
  have hgather := hg.gather s.entries
  rw [← h.keys.order_eq] at hgather
  rw [hrun] at hclauses
  rw [Select.hoist_run, hclauses, receive_run, List.flatMap_cons]
  rcases (h.isOpen.change source filter s.order).handOn hlabel hgather outermost with
    ⟨hlevel, hcarried⟩
  rw [hlevel]
  exact ⟨⟨rfl, rfl, rfl, hkept, haround, rfl, rfl, rfl, rfl⟩, rfl, hcarried⟩

end Select

/-! ### Hoisting of all levels -/

/-- Levels before and after hoisting: each of them gets the keys it asks for of its own and
    of those inside it. -/
inductive KeysHoisted : Bool → List Select → List Select → Prop
  | nil (outermost : Bool) : KeysHoisted outermost [] []
  | cons {outermost : Bool} {s s' : Select} {levels levels' : List Select}
    (level : s.Rekeyed s' (s.askedKeys outermost (s :: levels)))
    (inside : KeysHoisted false levels levels') :
    KeysHoisted outermost (s :: levels) (s' :: levels')

/-- Hoisting through a nest of levels. -/
theorem hoisted_nest {κ : Type} {c : Collection} {ks : List κ} {s : Select}
    (h : Nest c (fun _ => Select.Sorts) ks s) : ∀ outermost,
    KeysHoisted outermost s.levels ((s.hoist outermost).run {}).1.levels ∧
      (outermost = false → Carried ((s.hoist outermost).run {}).2 s.label
        (keepLast Prod.fst (s.levels.flatMap Select.entries))) := by
  induction h with
  | @innermost k s source level =>
      intro outermost
      have hlabel : s.sourceRows.label = c.label := by
        rw [Select.sourceRows, Select.sourceLabel?, source]
        rfl
      have hrun := hoistOption_collection c {}
      rw [← source] at hrun
      -- Nothing is gathered in a collection.
      have hnil : Carried {} s.sourceRows.label (keepLast Prod.fst ([].flatMap Select.entries)) :=
        carried_nil {} _
      rcases level.hoist_run hrun (by rw [hlabel, source]; rfl) (.inl rfl) hnil outermost with
        ⟨hlevel, hsource, hcarried⟩
      rw [Select.levels, Select.levels, Select.inside_of_collection source,
        Select.inside_of_collection (hsource.trans source)]
      exact ⟨.cons hlevel (.nil false), hcarried⟩
  | @around k ks inner s source inside level ih =>
      intro outermost
      have hlabel : s.sourceRows.label = inner.label := by
        rw [Select.sourceRows, Select.sourceLabel?, source]
        rfl
      have hinner := (Select.hoist_source_label false inner {}).2
      have hrun := hoistOption_select inner {}
      rw [← source] at hrun
      rcases ih false with ⟨hinside, hgathered⟩
      have hg := hgathered rfl
      rw [← hlabel] at hg
      rcases level.hoist_run hrun (by rw [hlabel, ← hinner]; rfl)
        (.inr ⟨inner, _, source, rfl, hinner⟩) hg outermost with ⟨hlevel, hsource, hcarried⟩
      rw [Select.levels, Select.levels, Select.inside_of_select source,
        Select.inside_of_select hsource]
      exact ⟨.cons hlevel hinside, hcarried⟩

theorem KeysHoisted.outermost {outermost : Bool} {s s' : Select}
    (h : KeysHoisted outermost s.levels s'.levels) :
    s.Rekeyed s' (s.askedKeys outermost s.levels) := by
  cases h with
  | cons level inside => exact level

/-- The keys of every level by its place. -/
theorem KeysHoisted.getElem? {outermost : Bool} {levels levels' : List Select}
    (h : KeysHoisted outermost levels levels') :
    levels'.length = levels.length ∧ ∀ (i : Nat) (s : Select), levels[i]? = some s →
      ∃ s', levels'[i]? = some s' ∧
        s.Rekeyed s' (s.askedKeys (outermost && i == 0) (levels.drop i)) := by
  induction h with
  | nil outermost =>
      refine ⟨rfl, fun i s hs => ?_⟩
      rw [List.getElem?_nil] at hs
      cases hs
  | @cons outermost s s' levels levels' level inside ih =>
      refine ⟨congrArg (· + 1) ih.1, fun i t ht => ?_⟩
      -- Only the first level can be the outermost one.
      cases i with
      | zero =>
          cases ht
          refine ⟨s', rfl, ?_⟩
          rw [List.drop_zero, beq_self_eq_true, Bool.and_true]
          exact level
      | succ i =>
          rcases ih.2 i t ht with ⟨t', ht', hrekeyed⟩
          exact ⟨t', ht', (Bool.and_false outermost).symm ▸ hrekeyed⟩

/-! ### The levels of an expression -/

/-- The levels of an expression that is one, from the outermost of them on. -/
def Expr.levels (e : Expr) : List Select :=
  match e.level? with
  | some s => s.levels
  | none => []

theorem Expr.levels_eq {e : Expr} {s : Select} (h : e.level? = some s) : e.levels = s.levels := by
  rw [Expr.levels, h]

theorem Expr.level?_hoistOrder {e : Expr} {s : Select} (h : e.level? = some s) :
    e.hoistOrder.level? = some ((s.hoist true).run {}).1 := by
  cases e with
  | select s' | projection s' e =>
      cases h
      rw [Expr.hoistOrder, Expr.hoist]
      rfl
  | _ => cases h

theorem Expr.level?_foldsTo {e e' : Expr} {s : Select} (h : e.level? = some s)
    (hfolds : e.FoldsTo e') : ∃ s', e'.level? = some s' ∧ s.FoldsTo s' := by
  cases e with
  | select s =>
      cases h
      rcases foldsTo_select hfolds with ⟨s', rfl, hs⟩
      exact ⟨s', rfl, hs⟩
  | projection s e =>
      cases h
      rcases foldsTo_projection hfolds with ⟨s', e', rfl, hs, _⟩
      exact ⟨s', rfl, hs⟩
  | _ => cases h

theorem Expr.level?_bindsTo {store : Option Store} {rows : Option Rows} {e e' : Expr} {s : Select}
    (h : e.level? = some s) (hbinds : e.BindsTo store rows e') :
    ∃ s', e'.level? = some s' ∧ s.BindsTo store s' := by
  cases e with
  | select s =>
      cases h
      rcases bindsTo_select hbinds with ⟨s', rfl, hs⟩
      exact ⟨s', rfl, hs⟩
  | projection s e =>
      cases h
      rcases bindsTo_projection hbinds with ⟨s', e', rfl, hs, _⟩
      exact ⟨s', rfl, hs⟩
  | _ => cases h

/-- What is known of all levels of a nest adds to what they have. -/
theorem Nest.imp_of_levels {κ : Type} {c : Collection} {P Q : κ → Select → Prop} {ks : List κ}
    {s : Select} (h : Nest c P ks s) (himp : ∀ l ∈ s.levels, ∀ k, P k l → Q k l) :
    Nest c Q ks s := by
  induction h with
  | innermost source level => exact .innermost source (himp _ List.mem_cons_self _ level)
  | around source inside level ih =>
      refine .around source (ih fun l hl => himp l (List.mem_cons_of_mem _ ?_))
        (himp _ List.mem_cons_self _ level)
      rw [Select.inside_of_select source]
      exact hl

/-! ### Queries -/

section

variable {database name : String} {documentType : MemberType} {operators : List Operator}

/-- Without the removal of duplicates all levels that operators build are open. -/
theorem nest_operated_open (database name : String) (documentType : MemberType)
    (h : ∀ o ∈ operators, o ≠ .distinct) :
    ∃ levels : List Unit, Nest ⟨label 0, database, name, documentType⟩ (fun _ => Select.Open)
      levels (operated database name documentType operators).level := by
  have hnone : ∀ e ∈ (none : Option Expr), e.isConstant = true := by
    intro e he
    cases he
  have hcount (n : Int32) : ∀ e ∈ some (Expr.constant (.int32 n)), e.isConstant = true :=
    fun e he => Option.some.inj he ▸ rfl
  refine nest_of_operators (fun _ _ => ⟨rfl, rfl, rfl, hnone, hnone⟩) operators
    fun o ho q hlevel => ?_
  cases o with
  | filter predicate | orderBy direction key => exact ⟨rfl, rfl, rfl, hnone, hnone⟩
  | thenBy direction key => exact hlevel.change _ _ _
  | skip count => exact ⟨rfl, rfl, rfl, hcount count, hnone⟩
  | take count => exact ⟨rfl, rfl, rfl, hnone, hcount count⟩
  | select shape => exact hlevel
  | distinct => exact absurd rfl (h _ ho)

/-- Folding, if it takes place, and binding leave all levels open. -/
theorem nest_bound_open (h : ∀ o ∈ operators, o ≠ .distinct) {store : Option Store} {e₀ e : Expr}
    (hfold : e₀ = (operated database name documentType operators).toExpr ∨
      (operated database name documentType operators).toExpr.FoldsTo e₀)
    (hbind : e₀.BindsTo store none e) :
    ∃ (levels : List Unit) (s : Select), e.level? = some s ∧
      Nest ⟨label 0, database, name, documentType⟩ (fun _ => Select.Open) levels s := by
  rcases nest_operated_open database name documentType h with ⟨levels, hbuilt⟩
  have hexpr : (operated database name documentType operators).toExpr.level? =
      some (operated database name documentType operators).level := by
    unfold QueryBuilder.toExpr
    cases (operated database name documentType operators).projector <;> rfl
  -- Whether it has been folded or not: both steps keep the nest of levels.
  have hfolded : ∃ (levels : List Unit) (s : Select), e₀.level? = some s ∧
      Nest ⟨label 0, database, name, documentType⟩ (fun _ => Select.Open) levels s := by
    rcases hfold with rfl | hfold
    · exact ⟨levels, _, hexpr, hbuilt⟩
    · rcases Expr.level?_foldsTo hexpr hfold with ⟨s, hs, hfolds⟩
      rcases hbuilt.step (R := fun _ _ => True) (Q := fun (_ : Unit) => Select.Open)
        keepsSource_folds
        (fun hopen hfolds _ _ =>
          ⟨(), trivial,
            hopen.of_related (Expr.eq_of_isConstant Expr.FoldsTo.eq_of_isLeaf) hfolds.related⟩)
        hfolds with ⟨levels, _, hnest⟩
      exact ⟨levels, s, hs, hnest⟩
  rcases hfolded with ⟨levels, s, hs, hnest⟩
  rcases Expr.level?_bindsTo hs hbind with ⟨s', hs', hbinds⟩
  rcases hnest.step (R := fun _ _ => True) (Q := fun (_ : Unit) => Select.Open)
    (keepsSource_binds store)
    (fun hopen hbinds _ _ =>
      ⟨(), trivial,
        hopen.of_related (Expr.eq_of_isConstant Expr.BindsTo.eq_of_isLeaf) hbinds.related⟩)
    hbinds with ⟨levels, _, hnest⟩
  exact ⟨levels, s', hs', hnest⟩

/-- Of the levels of a query the outermost one and those that cut out a window get the last
    uses of the fields of their own keys and of those inside, own keys first, over the rows
    of their source. All other levels get none. Otherwise the levels stay as they are, but
    for the insides of subqueries in their filters. -/
theorem QueryBuilder.hoistOrder_levels (hoperators : ∀ o ∈ operators, o ≠ .distinct)
    {store : Option Store} {e₀ e : Expr}
    (hfold : e₀ = (operated database name documentType operators).toExpr ∨
      (operated database name documentType operators).toExpr.FoldsTo e₀)
    (hbind : e₀.BindsTo store none e) (hkeys : ∀ s ∈ e.levels, s.KeysOfSource)
    (hfilters : ∀ s ∈ e.levels, ∀ f ∈ s.filter, f.LevelFree) :
    e.hoistOrder.levels.length = e.levels.length ∧
      ∀ (i : Nat) (s : Select), e.levels[i]? = some s → ∃ s', e.hoistOrder.levels[i]? = some s' ∧
        s.Rekeyed s' (s.askedKeys (i == 0) (e.levels.drop i)) := by
  rcases nest_bound_open hoperators hfold hbind with ⟨levels, s, hs, hnest⟩
  rw [Expr.levels_eq hs] at hkeys hfilters
  have hsorts : Nest ⟨label 0, database, name, documentType⟩ (fun _ => Select.Sorts) levels s :=
    hnest.imp_of_levels fun l hl _ hopen => ⟨hopen, hkeys l hl, hfilters l hl⟩
  have hhoisted := (hoisted_nest hsorts true).1.getElem?
  rw [Expr.levels_eq (Expr.level?_hoistOrder hs), Expr.levels_eq hs]
  simpa only [Bool.true_and] using hhoisted

end

namespace Roster

/-- Players from the eleventh by score on, sorted by name and then by score once more. -/
def pages : List Operator :=
  [.orderBy .ascending fun row => .member row "Score",
    .skip 10,
    .filter fun row => .binary .greater (.member row "Age") (.constant (.int32 17)),
    .orderBy .descending fun row => .member row "Name",
    .thenBy .descending fun row => .member row "Score"]

/-- A level around another one. -/
def level (number : Nat) (inner : Select) : Select :=
  .ofSource (label number) (.select inner)

/-- All players. -/
def players : Select :=
  .ofSource "t1" (.collection ⟨"t0", "db", "players", .document⟩)

/-- The bound levels, from the first one on. -/
def byScore : Select :=
  { level 2 players with order := [(.ascending, .field ⟨"t1", "Score"⟩)] }

def fromEleventh : Select :=
  { level 3 byScore with skip := some (.constant (.int32 10)) }

def adults : Select :=
  { level 4 fromEleventh with
    filter := some (.binary .greater (.field ⟨"t3", "Age"⟩) (.constant (.int32 17))) }

def byName : Select :=
  { level 5 adults with
    order := [(.descending, .field ⟨"t4", "Name"⟩), (.descending, .field ⟨"t4", "Score"⟩)] }

/-- What is skipped is decided by the score. The result is sorted by name, and then by the
    score as it was the first time. -/
theorem pages_keys :
    ∃ s s', (Expr.select byName).hoistOrder.levels[0]? = some s ∧
      (Expr.select byName).hoistOrder.levels[2]? = some s' ∧
      s.order = [(.descending, .field ⟨"t4", "Name"⟩), (.ascending, .field ⟨"t4", "Score"⟩)] ∧
      s'.order = [(.ascending, .field ⟨"t2", "Score"⟩)] := by
  have hbind : (operated "db" "players" .document pages).toExpr.BindsTo none none
      (.select byName) := rfl
  have hlevels : (Expr.select byName).levels =
      [byName, adults, fromEleventh, byScore, players] := rfl
  have hplain : ∀ o ∈ pages, o ≠ .distinct := by
    simp [pages]
  have hkeys : ∀ s ∈ (Expr.select byName).levels, s.KeysOfSource := by
    rw [hlevels]
    unfold Select.KeysOfSource
    decide
  have hfilters : ∀ s ∈ (Expr.select byName).levels, ∀ f ∈ s.filter, f.LevelFree := by
    rw [hlevels]
    intro s hs f hf
    simp only [List.mem_cons, List.not_mem_nil, or_false] at hs
    rcases hs with rfl | rfl | rfl | rfl | rfl
    case inr.inl =>
      cases hf
      exact .binary _ (.field _) (.constant _)
    all_goals cases hf
  have hall := (QueryBuilder.hoistOrder_levels hplain (.inl rfl) hbind hkeys hfilters).2
  rcases hall 0 byName rfl with ⟨s, hs, hrekeyed⟩
  rcases hall 2 fromEleventh rfl with ⟨s', hs', hrekeyed'⟩
  refine ⟨s, s', hs, hs', hrekeyed.order.trans ?_, hrekeyed'.order.trans ?_⟩
  · rfl
  · rfl

/-- Teams by name, which is nothing that is bound to the players. -/
def teams : Select :=
  { Select.ofSource "c1" (.collection ⟨"c0", "db", "teams", .document⟩) with
    order := [(.ascending, .field ⟨"c0", "Name"⟩)] }

/-- A filter is changed if there are keys in a subquery in it. A key on a field of other rows
    is not over the source of its level, and lost on the way outward. A level in a filter that
    is no subquery adds its keys to those of the query. -/
theorem strange_keys :
    (∃ e, (operated "db" "players" .document [.filter fun _ => .subquery teams]).toExpr.BindsTo
          none none e ∧
        e.levels.map Select.filter = [some (.subquery teams), none] ∧
        e.hoistOrder.levels.map Select.filter =
          [some (.subquery { teams with order := [] }), none]) ∧
      (∃ e, (operated "db" "players" .document
            [.orderBy .ascending fun _ => .field ⟨"c0", "Name"⟩, .skip 10]).toExpr.BindsTo
          none none e ∧
        e.levels.map Select.order = [[], [(.ascending, .field ⟨"c0", "Name"⟩)], []] ∧
        e.hoistOrder.levels.map Select.order = [[], [], []]) ∧
      ∃ e, (operated "db" "players" .document [.filter fun _ => .select teams]).toExpr.BindsTo
          none none e ∧
        e.levels.map Select.order = [[], []] ∧
        e.hoistOrder.levels.map Select.order = [[(.ascending, .field ⟨"c1", "Name"⟩)], []] := by
  refine ⟨⟨_, rfl, ?_, ?_⟩, ⟨_, rfl, ?_, ?_⟩, ⟨_, rfl, ?_, ?_⟩⟩
  all_goals rfl

end Roster

end DocumentMapper
