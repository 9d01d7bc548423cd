import DocumentMapper.Proofs.Query.Projection
import DocumentMapper.Proofs.Query.Rebinding

/-!
# Shapes that are alike

The shape of the rows is computed from the row of the result, in which paths are read and no
labels. So of shapes that differ in the labels of fields only the same is left: the paths that
are asked for, whether the whole row is, and the expression over the row of the result.

## Main definitions

* `Expr.SameOverRow`: Shapes of which the same is left.
* `ShapesTo`: What is left of the shape of the rows.

## Theorems

* `Alike.hoist`: Hoisting of shapes that are alike.
* `Alike.sameOverRow`: The same is left of shapes that are alike.
* `ShapesTo.relabel`: The label of the rows does not matter.
* `compile_eq_ok_of_undeclaring`: The translation of levels with a shape or without one.
-/

namespace DocumentMapper

namespace Expr.Alike

variable {e e' : Expr}

/-- With parts that are hoisted alike expressions of the same form are, but for queries. -/
theorem hoist_of_rebuilt {outermost : Bool} (hquery : e.isQuery = false)
    (h : Rebuilt (fun p p' => ∀ outermost,
      Hoisting.Agree (Alike False) (p.hoist outermost) (p'.hoist outermost)) e e') :
    Hoisting.Agree (Alike False) (e.hoist outermost) (e'.hoist outermost) := by
  rw [hoist_eq_traverse outermost hquery, hoist_eq_traverse outermost (h.isQuery_eq ▸ hquery)]
  have hparts := Hoisting.relator.rebuilt (fun _ _ hp => hp outermost) h
  exact Hoisting.relator.mono hparts fun _ _ hp =>
    .of_rebuilt_of_not_query hp.1 (hp.2.trans hquery)

/-- Levels in expressions that are alike are the same, and they are hoisted in the same way. -/
theorem hoist (h : Alike False e e') :
    ∀ outermost, Hoisting.Agree (Alike False) (e.hoist outermost) (e'.hoist outermost) := by
  -- Levels are not free to differ, so both sides hoist the same one.
  have same : ∀ e : Expr, ∀ outermost,
      Hoisting.Agree (Alike False) (e.hoist outermost) (e.hoist outermost) := by
    intro e outermost
    refine Hoisting.relator.mono (e.hoist_agree outermost) ?_
    rintro e _ rfl
    exact refl e
  induction h with
  | constant v | rowField path | collection c => exact same _
  | parameter names =>
      rcases names with hfalse | rfl
      · exact hfalse.elim
      · exact same _
  | field label label' path =>
      intro outermost
      rw [Expr.hoist, Expr.hoist]
      exact Hoisting.relator.pure (.field label label' path)
  | member operand name ih => exact fun _ => hoist_of_rebuilt rfl (.member ih name)
  | unary op operand ih => exact fun _ => hoist_of_rebuilt rfl (.unary op ih)
  | binary op left right ihl ihr => exact fun _ => hoist_of_rebuilt rfl (.binary op ihl ihr)
  | exchanged allowed comparison left right => exact allowed.elim
  | call method _ receives takes ih =>
      exact fun _ => hoist_of_rebuilt rfl ((Rebuilt.call method receives takes).imp ih)
  | object _ contents ih => exact fun _ => hoist_of_rebuilt rfl ((Rebuilt.object contents).imp ih)
  | aggregate kind distinct _ takes ih =>
      exact fun _ => hoist_of_rebuilt rfl ((Rebuilt.aggregate kind distinct takes).imp ih)
  | select _ clauses levels _ =>
      rcases levels with hfalse | rfl
      · exact hfalse.elim
      · exact same _
  | projection _ clauses shape levels _ _ =>
      rcases levels with hfalse | ⟨rfl, rfl⟩
      · exact hfalse.elim
      · exact same _
  | subquery _ clauses levels _ =>
      rcases levels with hfalse | rfl
      · exact hfalse.elim
      · exact same _

end Expr.Alike

/-! ### Over the row of the result -/

namespace Expr

/-- Shapes that are the same over the row of the result and read the same of it. -/
structure SameOverRow (e e' : Expr) : Prop where
  toRow : e.toRow = e'.toRow
  paths : e.fieldsRead.map FieldRef.path = e'.fieldsRead.map FieldRef.path
  readsRow : e.readsRow = e'.readsRow

theorem sameOverRow_option {x x' : Option Expr} (h : Option.Rel SameOverRow x x') :
    toRowOption x = toRowOption x' ∧
      (fieldsReadOption x).map FieldRef.path = (fieldsReadOption x').map FieldRef.path ∧
      readsRowOption x = readsRowOption x' := by
  cases h with
  | none => exact ⟨rfl, rfl, rfl⟩
  | some he => exact ⟨congrArg some he.toRow, he.paths, he.readsRow⟩

theorem sameOverRow_each {es es' : List Expr} (h : List.Forall₂ SameOverRow es es') :
    toRowEach es = toRowEach es' ∧
      (fieldsReadEach es).map FieldRef.path = (fieldsReadEach es').map FieldRef.path ∧
      readsRowEach es = readsRowEach es' := by
  induction h with
  | nil => exact ⟨rfl, rfl, rfl⟩
  | cons he _ ih =>
      rw [toRowEach, toRowEach, fieldsReadEach, fieldsReadEach, readsRowEach, readsRowEach,
        List.map_append, List.map_append, he.toRow, he.paths, he.readsRow, ih.1, ih.2.1, ih.2.2]
      exact ⟨rfl, rfl, rfl⟩

theorem sameOverRow_named {ms ms' : List (String × Expr)} (h : NamedRelated SameOverRow ms ms') :
    toRowNamed ms = toRowNamed ms' ∧
      (fieldsReadNamed ms).map FieldRef.path = (fieldsReadNamed ms').map FieldRef.path ∧
      readsRowNamed ms = readsRowNamed ms' := by
  induction h with
  | nil => exact ⟨rfl, rfl, rfl⟩
  | @cons m m' _ _ hm _ ih =>
      rcases m with ⟨name, e⟩
      rcases m' with ⟨_, e'⟩
      rcases hm with ⟨rfl, he⟩
      rw [toRowNamed, toRowNamed, fieldsReadNamed, fieldsReadNamed, readsRowNamed, readsRowNamed,
        List.map_append, List.map_append, he.toRow, he.paths, he.readsRow, ih.1, ih.2.1, ih.2.2]
      exact ⟨rfl, rfl, rfl⟩

/-- The same is left of shapes that are alike. -/
theorem Alike.sameOverRow {e e' : Expr} (h : Alike False e e') : SameOverRow e e' := by
  induction h with
  | constant v => exact ⟨rfl, rfl, rfl⟩
  | parameter names =>
      rcases names with hfalse | rfl
      · exact hfalse.elim
      · exact ⟨rfl, rfl, rfl⟩
  | field label label' path => exact ⟨rfl, rfl, rfl⟩
  | rowField path => exact ⟨rfl, rfl, rfl⟩
  | collection c => exact ⟨rfl, rfl, rfl⟩
  | member operand name ih => exact ⟨congrArg (Expr.member · name) ih.toRow, ih.paths, ih.readsRow⟩
  | unary op operand ih => exact ⟨congrArg (Expr.unary op) ih.toRow, ih.paths, ih.readsRow⟩
  | binary op left right ihl ihr =>
      refine ⟨congrArg₂ (Expr.binary op) ihl.toRow ihr.toRow, ?_,
        congrArg₂ or ihl.readsRow ihr.readsRow⟩
      rw [fieldsRead, fieldsRead, List.map_append, List.map_append, ihl.paths, ihr.paths]
  | exchanged allowed comparison left right => exact allowed.elim
  | call method parts receives takes ih =>
      have hreceiver := sameOverRow_option (rel_imp_of_mem receives fun _ _ _ hR => ih _ _ hR)
      have harguments := sameOverRow_each (takes.imp ih)
      refine ⟨congrArg₂ (Expr.call method) hreceiver.1 harguments.1, ?_,
        congrArg₂ or hreceiver.2.2 harguments.2.2⟩
      rw [fieldsRead, fieldsRead, List.map_append, List.map_append, hreceiver.2.1, harguments.2.1]
  | object parts contents ih =>
      have hmembers := sameOverRow_named (contents.imp fun _ _ hm => ⟨hm.1, ih _ _ hm.2⟩)
      exact ⟨congrArg Expr.object hmembers.1, hmembers.2.1, hmembers.2.2⟩
  | aggregate kind distinct parts takes ih =>
      have hargument := sameOverRow_option (rel_imp_of_mem takes fun _ _ _ hR => ih _ _ hR)
      exact ⟨congrArg (Expr.aggregate kind · distinct) hargument.1, hargument.2.1, hargument.2.2⟩
  | select parts clauses levels _ =>
      rcases levels with hfalse | rfl
      · exact hfalse.elim
      · exact ⟨rfl, rfl, rfl⟩
  | projection parts clauses shape levels _ _ =>
      rcases levels with hfalse | ⟨rfl, rfl⟩
      · exact hfalse.elim
      · exact ⟨rfl, rfl, rfl⟩
  | subquery parts clauses levels _ =>
      rcases levels with hfalse | rfl
      · exact hfalse.elim
      · exact ⟨rfl, rfl, rfl⟩

/-- The projections ask for the same and compute the same. -/
theorem SameOverRow.project {e e' : Expr} (h : SameOverRow e e') :
    e.project.fields.map FieldRef.path = e'.project.fields.map FieldRef.path ∧
      e.project.projector = e'.project.projector ∧ e.project.usesRow = e'.project.usesRow := by
  refine ⟨?_, h.toRow, h.readsRow⟩
  unfold Expr.project distinctPaths
  rw [map_eraseDupsBy, map_eraseDupsBy, h.paths]

end Expr

/-! ### What is left of the shape of the rows -/

section

variable {store : Option Store}

/-- What is left of the shape of rows: the fields that are asked for, none if whole rows are,
    and the expression over the row of the result. -/
def ShapesTo (store : Option Store) (rows : Rows) :
    Option Expr → List (String × Expr) → Option Expr → Prop
  | none, fields, projector => fields = [] ∧ projector = none
  | some e, fields, projector => ∃ e₁ e₂, e.FoldsTo e₁ ∧ e₁.BindsTo store (some rows) e₂ ∧
      let p := ((e₂.hoist true).run {}).1.project
      fields = (if p.usesRow then [] else p.declarations) ∧ projector = some p.projector

/-- Under another label of the rows the same is left, but for the labels of the fields. -/
theorem ShapesTo.relabel {label documentClass e fields projector}
    (h : ShapesTo store ⟨label, documentClass⟩ e fields projector) (label' : String) :
    ∃ fields', ShapesTo store ⟨label', documentClass⟩ e fields' projector ∧
      declaredPaths fields = declaredPaths fields' := by
  cases e with
  | none => exact ⟨fields, h, rfl⟩
  | some e =>
      rcases h with ⟨e₁, e₂, hfold, hbind, rfl, rfl⟩
      -- Another label makes the fields of the bound shape differ in it, and in nothing else.
      have hbound : Except.Agree (Expr.Alike False) (e₁.bind store (some ⟨label, documentClass⟩))
          (e₁.bind store (some ⟨label', documentClass⟩)) := (Expr.Alike.refl e₁).bind rfl
      rcases hbound.exists_right hbind with ⟨e₂', hbind', halike⟩
      have hhoisted := (halike.hoist true {} {} (Gathering.Same.refl _)).1
      rcases hhoisted.sameOverRow.project with ⟨hfields, hleft, hrow⟩
      refine ⟨_, ⟨e₁, e₂', hfold, hbind', rfl, congrArg some hleft⟩, ?_⟩
      rw [hrow]
      split
      · rfl
      · rw [declaredPaths_declarations, declaredPaths_declarations, hfields]

/-- A level that declares nothing has nothing to group by. -/
theorem Select.Undeclaring.addGrouping_eq_ok {s : Select} (hs : s.Undeclaring)
    {fields : List (String × Expr)} {x r : QueryObject} :
    x.addGrouping { s with fields := fields } = .ok r ↔ r = x := by
  have hok : x.addGrouping { s with fields := fields } = .ok x := by
    rw [QueryObject.addGrouping, hs.2]
  rw [hok, Except.ok.injEq]
  exact eq_comm

theorem Select.Undeclaring.eq_without_fields {s : Select} (hs : s.Undeclaring) :
    s = { s with fields := [] } := by
  rcases s with ⟨label, fields, source, filter, order, group, distinct, skip, take⟩
  rcases hs with ⟨rfl, _⟩
  rfl

/-- After an outermost level the shape is hoisted as if nothing were gathered. -/
theorem Expr.hoist_after_outermost (s : Select) (e : Expr) :
    ((e.hoist true).run ((s.hoist true).run {}).2).1 = ((e.hoist true).run {}).1 := by
  have hkeys : ((s.hoist true).run {}).2.keys = none := s.hoist_keys_outermost {}
  exact (e.hoist_agree true _ {} ⟨hkeys, fun hne => absurd hkeys hne⟩).1

/-- The translation of levels the outermost of which declares nothing, with a shape or without
    one. -/
theorem compile_eq_ok_of_undeclaring {q : QueryBuilder} {r : QueryObject}
    (h : ∀ {s₁ s₂ : Select}, q.level.FoldsTo s₁ → s₁.BindsTo store s₂ → s₂.Undeclaring) :
    q.compile store = .ok r ↔
      ∃ s₁ s₂ fields projector q₁, q.level.FoldsTo s₁ ∧ s₁.BindsTo store s₂ ∧
        ShapesTo store s₂.rows q.projector fields projector ∧
        { ((s₂.hoist true).run {}).1 with fields := fields }.queryObject = .ok q₁ ∧
        r = { q₁ with projector := projector } := by
  rcases q with ⟨s, _ | e, n⟩
  · refine compile_select_eq_ok.trans ?_
    constructor
    · rintro ⟨s₁, s₂, q₁, hs₁, hs₂, hq₁, hr⟩
      have hundeclaring := undeclaring_hoist (h hs₁ hs₂) {}
      rw [hundeclaring.eq_without_fields] at hq₁ hr
      exact ⟨s₁, s₂, [], none, q₁, hs₁, hs₂, ⟨rfl, rfl⟩, hq₁, hundeclaring.addGrouping_eq_ok.mp hr⟩
    · rintro ⟨s₁, s₂, fields, projector, q₁, hs₁, hs₂, ⟨rfl, rfl⟩, hq₁, hr⟩
      have hundeclaring := undeclaring_hoist (h hs₁ hs₂) {}
      refine ⟨s₁, s₂, q₁, hs₁, hs₂, ?_, ?_⟩
      · rw [hundeclaring.eq_without_fields]
        exact hq₁
      · rw [hundeclaring.eq_without_fields]
        exact hundeclaring.addGrouping_eq_ok.mpr hr
  · refine compile_projection_eq_ok.trans ?_
    constructor
    · rintro ⟨s₁, s₂, e₁, e₂, q₁, hs₁, hs₂, he₁, he₂, hq₁, hr⟩
      have hundeclaring := undeclaring_hoist (h hs₁ hs₂) {}
      rw [Expr.hoist_after_outermost, restrict_of_undeclaring hundeclaring] at hq₁ hr
      exact ⟨s₁, s₂, _, _, q₁, hs₁, hs₂, ⟨e₁, e₂, he₁, he₂, rfl, rfl⟩, hq₁,
        hundeclaring.addGrouping_eq_ok.mp hr⟩
    · rintro ⟨s₁, s₂, fields, projector, q₁, hs₁, hs₂, ⟨e₁, e₂, he₁, he₂, rfl, rfl⟩, hq₁, hr⟩
      have hundeclaring := undeclaring_hoist (h hs₁ hs₂) {}
      refine ⟨s₁, s₂, e₁, e₂, q₁, hs₁, hs₂, he₁, he₂, ?_⟩
      dsimp only
      rw [Expr.hoist_after_outermost, restrict_of_undeclaring hundeclaring]
      exact ⟨hq₁, hundeclaring.addGrouping_eq_ok.mpr hr⟩

end

end DocumentMapper
