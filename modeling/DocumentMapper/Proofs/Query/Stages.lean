import DocumentMapper.Proofs.Query.Agreement

/-!
# The stages of a translation

A query expression is folded, bound and hoisted, and then its levels are put together. Each
stage goes on from what the stage before has made of the level and of the shape of its rows,
and the translation succeeds exactly if every stage does.

## Main definitions

* `declaredPaths`: The fields that a level asks for.

## Theorems

* `compile_select_eq_ok`: The translation of a level.
* `compile_projection_eq_ok`: The translation of a level with a shape.
* `declaredPaths_declarations`: What a shape asks for.
-/

namespace DocumentMapper

variable {store : Option Store} {s : Select} {q : QueryObject}

/-- The stages of the translation of a level. -/
theorem compile_select_eq_ok :
    (Expr.select s).compile store = .ok q ↔
      ∃ s₁ s₂ q₁, s.FoldsTo s₁ ∧ s₁.BindsTo store s₂ ∧
        ((s₂.hoist true).run {}).1.queryObject = .ok q₁ ∧
        { q₁ with projector := none }.addGrouping ((s₂.hoist true).run {}).1 = .ok q := by
  have hhoist : ∀ s₂ : Select,
      (Expr.select s₂).hoistOrder = .select ((s₂.hoist true).run {}).1 := by
    intro s₂
    rw [Expr.hoistOrder, Expr.hoist]
    rfl
  rw [Expr.compile]
  constructor
  · intro h
    rcases Except.bind_eq_ok.mp h with ⟨⟨folded, count⟩, hfolded, h⟩
    -- Each stage keeps the form of the expression, so its result is a query again.
    rcases Expr.foldsTo_select ⟨0, count, hfolded⟩ with ⟨s₁, rfl, hs₁⟩
    rcases Except.bind_eq_ok.mp h with ⟨bound, hbound, h⟩
    rcases Expr.bindsTo_select hbound with ⟨s₂, rfl, hs₂⟩
    rw [hhoist, Expr.outermost, Except.ok_bind] at h
    rcases Except.bind_eq_ok.mp h with ⟨q₁, hq₁, h⟩
    exact ⟨s₁, s₂, q₁, hs₁, hs₂, hq₁, h⟩
  · rintro ⟨s₁, s₂, q₁, hs₁, hs₂, hq₁, h⟩
    rcases Select.foldsTo_iff.mp hs₁ 0 with ⟨count, hfold⟩
    have hfolded : (Expr.select s).folded = .ok (.select s₁, count) := by
      rw [Expr.folded, Expr.fold_form]
      exact Folding.map_eq_ok.mpr ⟨s₁, hfold, rfl⟩
    have hbound : (Expr.select s₁).bind store none = .ok (.select s₂) := by
      rw [Expr.bind_form rfl]
      exact Except.bind_eq_ok.mpr ⟨s₂, hs₂, rfl⟩
    rw [hfolded, Except.ok_bind]
    dsimp only
    rw [hbound, Except.ok_bind, hhoist, Expr.outermost, Except.ok_bind]
    exact Except.bind_eq_ok.mpr ⟨q₁, hq₁, h⟩

/-- The stages of the translation of a level with a shape, which is read for the rows of the
    bound level. -/
theorem compile_projection_eq_ok {e : Expr} :
    (Expr.projection s e).compile store = .ok q ↔
      ∃ s₁ s₂ e₁ e₂ q₁, s.FoldsTo s₁ ∧ s₁.BindsTo store s₂ ∧ e.FoldsTo e₁ ∧
        e₁.BindsTo store (some s₂.rows) e₂ ∧
        let hoisted := (s₂.hoist true).run {}
        let p := ((e₂.hoist true).run hoisted.2).1.project
        (hoisted.1.restrict p).queryObject = .ok q₁ ∧
        { q₁ with projector := some p.projector }.addGrouping (hoisted.1.restrict p) = .ok q := by
  -- The shape is hoisted after the level, with what is gathered there.
  have hhoist : ∀ (s₂ : Select) (e₂ : Expr), (Expr.projection s₂ e₂).hoistOrder =
      .projection ((s₂.hoist true).run {}).1
        ((e₂.hoist true).run ((s₂.hoist true).run {}).2).1 := by
    intro s₂ e₂
    rw [Expr.hoistOrder, Expr.hoist]
    rfl
  rw [Expr.compile]
  constructor
  · intro h
    rcases Except.bind_eq_ok.mp h with ⟨⟨folded, count⟩, hfolded, h⟩
    rcases Expr.foldsTo_projection ⟨0, count, hfolded⟩ with ⟨s₁, e₁, rfl, hs₁, he₁⟩
    rcases Except.bind_eq_ok.mp h with ⟨bound, hbound, h⟩
    rcases Expr.bindsTo_projection hbound with ⟨s₂, e₂, rfl, hs₂, he₂⟩
    rw [hhoist, Expr.outermost, Except.ok_bind] at h
    rcases Except.bind_eq_ok.mp h with ⟨q₁, hq₁, h⟩
    exact ⟨s₁, s₂, e₁, e₂, q₁, hs₁, hs₂, he₁, he₂, hq₁, h⟩
  · rintro ⟨s₁, s₂, e₁, e₂, q₁, hs₁, hs₂, he₁, he₂, hq₁, h⟩
    rcases Select.foldsTo_iff.mp hs₁ 0 with ⟨k, hs⟩
    rcases Expr.foldsTo_iff.mp he₁ k with ⟨count, he⟩
    have hfolded : (Expr.projection s e).folded = .ok (.projection s₁ e₁, count) := by
      rw [Expr.folded, Expr.fold_form]
      exact Folding.bind_eq_ok.mpr ⟨s₁, k, hs, Folding.bind_eq_ok.mpr ⟨e₁, count, he, rfl⟩⟩
    have hbound : (Expr.projection s₁ e₁).bind store none = .ok (.projection s₂ e₂) := by
      rw [Expr.bind_form rfl]
      exact Except.bind_eq_ok.mpr ⟨s₂, hs₂, Except.bind_eq_ok.mpr ⟨e₂, he₂, rfl⟩⟩
    rw [hfolded, Except.ok_bind]
    dsimp only
    rw [hbound, Except.ok_bind, hhoist, Expr.outermost, Except.ok_bind]
    exact Except.bind_eq_ok.mpr ⟨q₁, hq₁, h⟩

/-! ### What is asked for -/

/-- The paths of the fields among declarations. -/
def declaredPaths (fields : List (String × Expr)) : List String :=
  fields.filterMap fun field => field.2.asField?.map FieldRef.path

theorem addFields_eq (q : QueryObject) (fields : List (String × Expr)) :
    q.addFields fields = { q with
      fields := (declaredPaths fields).foldl (fun d path => d.insert path (.int32 1))
        q.fields } := by
  rfl

/-- The declarations of a projection ask for its paths. -/
theorem declaredPaths_declarations (p : RowProjection) :
    declaredPaths p.declarations = p.fields.map FieldRef.path := by
  unfold declaredPaths RowProjection.declarations
  rw [List.filterMap_map]
  exact List.filterMap_eq_map_iff_forall_eq_some.mpr fun _ _ => rfl

end DocumentMapper
