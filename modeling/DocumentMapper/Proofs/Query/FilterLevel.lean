import DocumentMapper.Proofs.Query.Conditions
import DocumentMapper.Proofs.Query.Projection
import DocumentMapper.Proofs.Query.Relabelling
import DocumentMapper.Proofs.Query.Tidy

/-!
# Levels that filter

A filter puts a level around a query, whatever the query is made of. The level adds its
conditions to what the query inside gives it and hands everything on: the query object so
far, the keys that are gathered, and the class of the rows. Its label plays no part in that.

## Main definitions

* `Select.filtered`: The level that a filter puts around another one.
* `Given`, `Select.Gives`: What a level gives to the one around it.
* `Given.deliver`: The query object of what is given.

## Theorems

* `exists_boundKeys`: The keys that a level hands on are fields of it, each once.
* `gives_filtered`: What a level that filters gives.
* `compile_filtered`: The query object of a query that ends with a filter.
-/

namespace DocumentMapper

namespace Select

/-- The level that a filter puts around another one. -/
def filtered (label : String) (inner : Select) (f : Expr) : Select :=
  { ofSource label (.select inner) with filter := some f }

/-! ### The steps -/

theorem fold_filtered (label : String) (inner : Select) (f : Expr) :
    (filtered label inner f).fold = do
      let inner ← inner.fold
      let f ← f.fold
      return filtered label inner f := by
  unfold filtered ofSource
  rw [Select.fold]
  simp only [foldOption, foldNamed, foldOrder, foldGroup, Expr.fold_form (.select inner),
    pure_bind, bind_map_left]

theorem bind_filtered (store : Option Store) (label : String) (inner : Select) (f : Expr) :
    (filtered label inner f).bind store = do
      let bound ← inner.bind store
      let f ← f.bind store (some inner.rows)
      return filtered label bound f := by
  have hrows : (filtered label inner f).sourceRows = inner.rows := by
    rw [sourceRows, Expr.documentClass?_eq_bind]
    rfl
  rw [Select.bind.eq_def, hrows]
  simp only [filtered, ofSource, bindOption, bindNamed, bindOrder, bindGroup,
    Expr.bind_form (e := .select inner) rfl, Expr.bindOperands, Except.ok_bind, bind_assoc,
    pure_bind]

/-- Hoisting goes through what is inside and the filter, and then the level hands on what is
    gathered. -/
theorem hoist_filtered (outermost : Bool) (label : String) (inner : Select) (f : Expr)
    (g : Gathering) :
    ((filtered label inner f).hoist outermost).run g =
      let (inner', g₁) := (inner.hoist false).run g
      let (f', g₂) := (f.hoist false).run g₁
      (filtered label inner' f').handOn outermost g₂ := by
  rw [hoist_run, receive_run]
  simp only [hoistClauses, filtered, ofSource, hoistOption, hoistNamed, hoistKeys, hoistGroup,
    Expr.hoist]
  rfl

theorem foldsTo_filtered {label : String} {inner s : Select} {f : Expr} :
    (filtered label inner f).FoldsTo s ↔
      ∃ inner' f', inner.FoldsTo inner' ∧ f.FoldsTo f' ∧ s = filtered label inner' f' := by
  constructor
  · rintro ⟨n, m, h⟩
    rw [fold_filtered] at h
    rcases Folding.bind_eq_ok.mp h with ⟨inner', k, hinner, h⟩
    rcases Folding.bind_eq_ok.mp h with ⟨f', l, hf, h⟩
    exact ⟨inner', f', ⟨n, k, hinner⟩, ⟨k, l, hf⟩, (Folding.pure_eq_ok.mp h).1.symm⟩
  · rintro ⟨inner', f', hinner, hf, rfl⟩
    rcases Select.foldsTo_iff.mp hinner 0 with ⟨k, hinner⟩
    rcases Expr.foldsTo_iff.mp hf k with ⟨l, hf⟩
    refine ⟨0, l, ?_⟩
    rw [fold_filtered]
    exact Folding.bind_eq_ok.mpr ⟨inner', k, hinner, Folding.bind_eq_ok.mpr ⟨f', l, hf, rfl⟩⟩

theorem bindsTo_filtered {store : Option Store} {label : String} {inner s : Select} {f : Expr} :
    (filtered label inner f).BindsTo store s ↔
      ∃ inner' f', inner.BindsTo store inner' ∧ f.BindsTo store (some inner.rows) f' ∧
        s = filtered label inner' f' := by
  unfold Select.BindsTo Expr.BindsTo
  rw [bind_filtered, Except.bind_eq_ok]
  refine exists_congr fun inner' => ?_
  rw [Except.bind_eq_ok]
  constructor
  · rintro ⟨hinner, f', hf, h⟩
    exact ⟨f', hinner, hf, (Except.ok.inj h).symm⟩
  · rintro ⟨f', hinner, hf, rfl⟩
    exact ⟨hinner, f', hf, rfl⟩

end Select

/-! ### The keys that are handed on -/

namespace Select

/-- The keys that a level hands on are fields of it, each of them once. -/
theorem exists_boundKeys (s : Select) (g : Gathering) :
    ∃ entries : List (String × Direction), (entries.map Prod.fst).Nodup ∧
      ((s.hoist false).run g).2.keys.getD [] = entries.map (boundKey s.label) := by
  rw [hoist_run, receive_run]
  exact exists_boundKeys_handOn _ _

variable {inner : Select} {g : Gathering} {entries : List (String × Direction)}

/-- A level inside another one hands on what it is given, as fields of its own. -/
theorem handOn_filtered (label : String) (f : Expr)
    (hg : g.keys.getD [] = entries.map (boundKey inner.label))
    (hnodup : (entries.map Prod.fst).Nodup) :
    ((filtered label inner f).handOn false g).1 = filtered label inner f ∧
      ((filtered label inner f).handOn false g).2.keys.getD [] = entries.map (boundKey label) := by
  unfold handOn
  cases hkeys : g.keys with
  | none =>
      rw [hkeys] at hg
      rw [List.map_eq_nil_iff.mp hg.symm]
      exact ⟨rfl, rfl⟩
  | some keys =>
      rw [hkeys, Option.getD_some] at hg
      -- All keys are fields of the rows inside, so nothing has to be computed on the way out.
      have hpass : (filtered label inner f).passOutward keys =
          ([], entries.map (boundKey label)) := by
        rw [hg]
        exact passOutward_boundKey (s := filtered label inner f) rfl rfl rfl entries
      have hfold := foldr_push_boundKey label [] entries
      rw [List.append_nil, keepLast_of_nodup hnodup] at hfold
      dsimp only
      rw [hpass]
      exact ⟨rfl, congrArg Prod.fst hfold⟩

/-- The outermost level takes the keys that it is given. -/
theorem handOn_outermost_filtered (label : String) (f : Expr)
    (hg : g.keys.getD [] = entries.map (boundKey inner.label)) :
    ((filtered label inner f).handOn true g).1 =
      (filtered label inner f).withOrder (entries.map (boundKey inner.label)) := by
  unfold handOn
  rw [hg]
  cases g.keys <;> rfl

end Select

/-- Adds sort keys by their paths. -/
def QueryObject.addEntries (q : QueryObject) (entries : List (String × Direction)) : QueryObject :=
  entries.foldl (fun q entry => q.addOrder entry.1 entry.2.sign) q

theorem addKeys_eq_addEntries (source : String) (entries : List (String × Direction)) :
    ∀ q : QueryObject, q.addKeys (entries.map (boundKey source)) = .ok (q.addEntries entries) := by
  induction entries with
  | nil => exact fun _ => rfl
  | cons entry entries ih => exact fun q => ih (q.addOrder entry.1 entry.2.sign)

theorem addClauses_filtered {label source : String} {inner : Select} {f : Expr}
    {fields : List (String × Expr)} {entries : List (String × Direction)} {x y : QueryObject} :
    { Select.filtered label inner f with
        fields := fields, order := entries.map (boundKey source) }.addClauses x = .ok y ↔
      ∃ d, f.addConditions [] x.query = .ok d ∧
        y = ({ x with query := d }.addFields fields).addEntries entries := by
  have hclauses : ∀ s : Select, s.filter = some f → s.fields = fields →
      s.order = entries.map (boundKey source) → s.skip = none → s.take = none →
      s.addClauses x = do
        let d ← f.addConditions [] x.query
        return ({ x with query := d }.addFields fields).addEntries entries := by
    intro s hfilter hfields horder hskip htake
    have hnarrow : ∀ w, s.narrow w = .ok w := by
      intro w
      unfold Select.narrow
      rw [hskip, htake]
      rfl
    unfold Select.addClauses
    rw [hfilter, hfields, horder, QueryObject.addFilter, bind_assoc]
    refine bind_congr fun d => ?_
    rw [pure_bind, addKeys_eq_addEntries, Except.ok_bind, hnarrow]
    rfl
  rw [hclauses _ rfl rfl rfl rfl rfl, Except.bind_eq_ok]
  refine exists_congr fun d => and_congr_right fun _ => ?_
  constructor
  · intro h
    exact (Except.ok.inj h).symm
  · rintro rfl
    rfl

/-- The query object of a level that filters, asks for fields and sorts. -/
theorem queryObjectWithin_filtered {outermost : Bool} {label source : String} {inner : Select}
    {f : Expr} {fields : List (String × Expr)} {entries : List (String × Direction)}
    {y : QueryObject} :
    { Select.filtered label inner f with
        fields := fields, order := entries.map (boundKey source) }.queryObjectWithin outermost =
          .ok y ↔
      ∃ x d, inner.queryObjectWithin false = .ok x ∧ f.addConditions [] x.query = .ok d ∧
        y = ({ x with query := d }.addFields fields).addEntries entries := by
  have hobject : { Select.filtered label inner f with
      fields := fields, order := entries.map (boundKey source) }.queryObjectWithin outermost =
        (inner.queryObjectWithin false >>= fun x => { Select.filtered label inner f with
          fields := fields, order := entries.map (boundKey source) }.addClauses x) := by
    rw [Select.queryObjectWithin.eq_def]
    rfl
  rw [hobject, Except.bind_eq_ok]
  simp only [addClauses_filtered]
  constructor
  · rintro ⟨x, hx, d, hd, rfl⟩
    exact ⟨x, d, hx, hd, rfl⟩
  · rintro ⟨x, d, hx, hd, rfl⟩
    exact ⟨x, hx, d, hd, rfl⟩

/-- The filter of a level that has a query object is accepted. -/
theorem exists_addConditions {outermost : Bool} {s : Select} {f : Expr}
    (hfilter : s.filter = some f) {y : QueryObject} (h : s.queryObjectWithin outermost = .ok y) :
    ∃ d d', f.addConditions [] d = .ok d' := by
  rcases exists_addClauses h with ⟨x, hadd⟩
  unfold Select.addClauses at hadd
  rw [hfilter] at hadd
  rcases Except.bind_eq_ok.mp hadd with ⟨x₁, hx₁, _⟩
  rcases Except.bind_eq_ok.mp hx₁ with ⟨d, hd, _⟩
  exact ⟨_, d, hd⟩

/-! ### What a level gives -/

/-- What a level gives to the one around it: the query object so far, the keys by paths and
    directions, and the class of its rows, for filters and for the shape of the rows. -/
structure Given where
  object : QueryObject
  entries : List (String × Direction)
  filterClass : Option String
  shapeClass : Option String

/-- What is given, with other conditions. -/
def Given.withQuery (given : Given) (d : Document) : Given :=
  { given with object := { given.object with query := d } }

namespace Select

/-- What a level gives to the one around it. -/
structure GivesAs (store : Option Store) (s s₁ s₂ : Select) (given : Given) : Prop where
  folds : s.FoldsTo s₁
  binds : s₁.BindsTo store s₂
  object : ((s₂.hoist false).run {}).1.queryObjectWithin false = .ok given.object
  keys : ((s₂.hoist false).run {}).2.keys.getD [] = given.entries.map (boundKey s.label)
  nodup : (given.entries.map Prod.fst).Nodup
  filterClass : s₁.documentClass? = given.filterClass
  shapeClass : s₂.documentClass? = given.shapeClass

/-- What a level gives to the one around it, by the steps of the translation. -/
def Gives (store : Option Store) (s : Select) (given : Given) : Prop :=
  ∃ s₁ s₂, GivesAs store s s₁ s₂ given

/-- The filter that is left after hoisting stands for what the filter stood for. -/
theorem filter_hoist_filtered (outermost : Bool) (label : String) (inner : Select) (f : Expr)
    (g : Gathering) :
    ∃ f', f.HoistsTo false f' ∧
      (((filtered label inner f).hoist outermost).run g).1.filter = some f' := by
  have hfilter : ∀ (s : Select) (g : Gathering), (s.handOn outermost g).1.filter = s.filter := by
    intro s g
    unfold handOn
    cases g.keys with
    | none => rfl
    | some keys =>
        dsimp only
        split <;> rfl
  rw [hoist_filtered]
  exact ⟨_, ⟨_, rfl⟩, hfilter _ _⟩

/-- A tidy filter that is accepted has no levels. -/
theorem levelFree_of_accepted {outermost : Bool} {s : Select} {f f' : Expr} {y : QueryObject}
    (htidy : f.Tidy) (hhoist : f.HoistsTo false f') (hfilter : s.filter = some f')
    (h : s.queryObjectWithin outermost = .ok y) : f.LevelFree := by
  rcases exists_addConditions hfilter h with ⟨d, d', hd⟩
  rcases Expr.addConditions_eq_ok.mp hd with ⟨p, hp, _⟩
  rw [Expr.HoistsTo.predicate?_eq f hhoist] at hp
  exact htidy.levelFree hp

/-- Around a filter without levels hoisting gathers what is gathered inside. -/
theorem hoist_filtered_of_levelFree (label : String) {inner : Select} {f : Expr} {g : Gathering}
    {entries : List (String × Direction)} (hf : f.LevelFree)
    (hkeys : ((inner.hoist false).run g).2.keys.getD [] = entries.map (boundKey inner.label))
    (hnodup : (entries.map Prod.fst).Nodup) :
    ∃ f', (∀ d d', f'.addConditions [] d = .ok d' ↔ f.addConditions [] d = .ok d') ∧
      (((filtered label inner f).hoist false).run g).1 =
        filtered label ((inner.hoist false).run g).1 f' ∧
      (((filtered label inner f).hoist false).run g).2.keys.getD [] =
        entries.map (boundKey label) ∧
      (((filtered label inner f).hoist true).run g).1 =
        (filtered label ((inner.hoist false).run g).1 f').withOrder
          (entries.map (boundKey inner.label)) := by
  rcases hf.hoist false with ⟨f', hpure, _⟩
  have hlabel : ((inner.hoist false).run g).1.label = inner.label :=
    (hoist_source_label false inner g).2
  -- Nothing is gathered from the filter, and the level has no keys of its own.
  have hrun : ∀ outermost, ((filtered label inner f).hoist outermost).run g =
      (filtered label ((inner.hoist false).run g).1 f').handOn outermost
        ((inner.hoist false).run g).2 := by
    intro outermost
    rw [hoist_filtered, hpure]
    rfl
  rw [← hlabel] at hkeys
  have hinner := handOn_filtered label f' hkeys hnodup
  refine ⟨f', ?_, ?_, ?_, ?_⟩
  · intro d d'
    have hsame : f'.predicate? = f.predicate? :=
      Expr.HoistsTo.predicate?_eq f ⟨g, by rw [hpure]; rfl⟩
    rw [Expr.addConditions_eq_ok, Expr.addConditions_eq_ok, hsame]
  · rw [hrun]
    exact hinner.1
  · rw [hrun]
    exact hinner.2
  · rw [hrun, handOn_outermost_filtered label f' hkeys, hlabel]

/-- Around a filter without levels the query object is what it is inside, with the conditions
    of the filter. -/
theorem queryObjectWithin_of_levelFree (label : String) (inner : Select) {f : Expr}
    (hf : f.LevelFree) {y : QueryObject} :
    (((filtered label inner f).hoist false).run {}).1.queryObjectWithin false = .ok y ↔
      ∃ x d, ((inner.hoist false).run {}).1.queryObjectWithin false = .ok x ∧
        f.addConditions [] x.query = .ok d ∧ y = { x with query := d } := by
  rcases exists_boundKeys inner {} with ⟨entries, hnodup, hkeys⟩
  rcases hoist_filtered_of_levelFree label hf hkeys hnodup with ⟨f', hconditions, hlevel, _, _⟩
  rw [hlevel]
  have hobject :=
    @queryObjectWithin_filtered false label "" ((inner.hoist false).run {}).1 f' [] [] y
  simp only [hconditions] at hobject
  exact hobject

theorem label_eq_of_foldsTo {s s' : Select} (h : s.FoldsTo s') : s'.label = s.label :=
  h.related.label.symm

theorem label_eq_of_bindsTo {store : Option Store} {s s' : Select} (h : s.BindsTo store s') :
    s'.label = s.label :=
  h.related.label.symm

theorem documentClass?_filtered (label : String) (inner : Select) (f : Expr) :
    (filtered label inner f).documentClass? = inner.documentClass? := by
  rw [Expr.documentClass?_eq_bind]
  rfl

theorem boundKey_injective (source : String) : Function.Injective (boundKey source) := by
  rintro ⟨path, direction⟩ ⟨path', direction'⟩ h
  rcases Prod.mk.inj h with ⟨rfl, hfield⟩
  cases hfield
  rfl

/-- What a level that filters gives, after the steps on what is inside and on the filter. -/
theorem givesAs_filtered {store : Option Store} (label : String) {inner inner₁ inner₂ : Select}
    {f f₁ f₂ : Expr} {given : Given} (hinner₁ : inner.FoldsTo inner₁)
    (hinner₂ : inner₁.BindsTo store inner₂) (hf₁ : f.FoldsTo f₁)
    (hf₂ : f₁.BindsTo store (some inner₁.rows) f₂) (hfree : f₂.LevelFree) :
    GivesAs store (filtered label inner f) (filtered label inner₁ f₁) (filtered label inner₂ f₂)
        given ↔
      ∃ given' d, GivesAs store inner inner₁ inner₂ given' ∧
        f₂.addConditions [] given'.object.query = .ok d ∧
        given = given'.withQuery d := by
  have hlabel : inner₂.label = inner.label :=
    (label_eq_of_bindsTo hinner₂).trans (label_eq_of_foldsTo hinner₁)
  rcases exists_boundKeys inner₂ {} with ⟨entries, hnodup, hkeys⟩
  rcases hoist_filtered_of_levelFree label hfree hkeys hnodup with ⟨_, _, _, hgathered, _⟩
  -- Keys over one source are the same if their paths and directions are.
  have hentries : ∀ {name : String} {entries' : List (String × Direction)},
      entries.map (boundKey name) = entries'.map (boundKey name) → entries = entries' :=
    fun h => List.map_injective_iff.mpr (boundKey_injective _) h
  constructor
  · intro h
    rcases (queryObjectWithin_of_levelFree label inner₂ hfree).mp h.object with ⟨x, d, hx, hd, hy⟩
    have hsame : entries = given.entries := hentries (hgathered.symm.trans h.keys)
    refine ⟨⟨x, entries, inner₁.documentClass?, inner₂.documentClass?⟩, d, ?_, hd, ?_⟩
    · rw [hlabel] at hkeys
      exact ⟨hinner₁, hinner₂, hx, hkeys, hnodup, rfl, rfl⟩
    · -- What is given is what the steps leave.
      rcases given with ⟨y, entries', filterClass, shapeClass⟩
      have hfilterClass := h.filterClass
      have hshapeClass := h.shapeClass
      rw [documentClass?_filtered] at hfilterClass hshapeClass
      dsimp only at hy hsame hfilterClass hshapeClass
      rw [hy, ← hsame, ← hfilterClass, ← hshapeClass]
      rfl
  · rintro ⟨given', d, h, hd, rfl⟩
    have hsame : entries = given'.entries := by
      refine hentries (hkeys.symm.trans ?_)
      rw [hlabel]
      exact h.keys
    refine ⟨foldsTo_filtered.mpr ⟨_, _, hinner₁, hf₁, rfl⟩,
      bindsTo_filtered.mpr ⟨_, _, hinner₂, hf₂, rfl⟩, ?_, ?_, h.nodup, ?_, ?_⟩
    · exact (queryObjectWithin_of_levelFree label inner₂ hfree).mpr
        ⟨given'.object, d, h.object, hd, rfl⟩
    · rw [hgathered, hsame]
      rfl
    · exact (documentClass?_filtered label inner₁ f₁).trans h.filterClass
    · exact (documentClass?_filtered label inner₂ f₂).trans h.shapeClass

/-- A level that filters adds its conditions to what it is given. -/
theorem gives_filtered {store : Option Store} {label : String} {inner : Select} {f : Expr}
    (htidy : f.Tidy) {given : Given} :
    (filtered label inner f).Gives store given ↔
      ∃ given' d, inner.Gives store given' ∧
        f.Adds store ⟨inner.label, given'.filterClass⟩ given'.object.query d ∧
        given = given'.withQuery d := by
  constructor
  · rintro ⟨s₁, s₂, hgives⟩
    rcases foldsTo_filtered.mp hgives.folds with ⟨inner₁, f₁, hinner₁, hf₁, rfl⟩
    rcases bindsTo_filtered.mp hgives.binds with ⟨inner₂, f₂, hinner₂, hf₂, rfl⟩
    -- What is accepted has been looked at, and there are no levels where it is looked at.
    have hfree : f₂.LevelFree := by
      rcases filter_hoist_filtered false label inner₂ f₂ {} with ⟨f₃, hhoist, hfilter⟩
      exact levelFree_of_accepted ((htidy.fold hf₁).bind hf₂) hhoist hfilter hgives.object
    rcases (givesAs_filtered label hinner₁ hinner₂ hf₁ hf₂ hfree).mp hgives with
      ⟨given', d, hgiven', hd, rfl⟩
    rcases Expr.addConditions_eq_ok.mp hd with ⟨p, hp, hplace⟩
    refine ⟨given', d, ⟨inner₁, inner₂, hgiven'⟩, ⟨p, ⟨f₁, f₂, hf₁, ?_, hp⟩, hplace⟩, rfl⟩
    rw [← label_eq_of_foldsTo hinner₁, ← hgiven'.filterClass]
    exact hf₂
  · rintro ⟨given', d, ⟨inner₁, inner₂, hgiven'⟩, ⟨p, ⟨f₁, f₂, hf₁, hf₂, hp⟩, hplace⟩, rfl⟩
    rw [← label_eq_of_foldsTo hgiven'.folds, ← hgiven'.filterClass] at hf₂
    have hfree : f₂.LevelFree := ((htidy.fold hf₁).bind hf₂).levelFree hp
    exact ⟨_, _, (givesAs_filtered label hgiven'.folds hgiven'.binds hf₁ hf₂ hfree).mpr
      ⟨given', d, hgiven', Expr.addConditions_eq_ok.mpr ⟨p, hp, hplace⟩, rfl⟩⟩

end Select

/-! ### The query object -/

section

variable {store : Option Store} {label : String} {inner : Select} {f : Expr}

/-- The outermost level asks for the fields and adds the keys to what it would give. -/
theorem queryObject_of_levelFree (label : String) (inner : Select) (hf : f.LevelFree)
    {fields : List (String × Expr)} {y : QueryObject} :
    { (((Select.filtered label inner f).hoist true).run {}).1 with fields := fields }.queryObject =
        .ok y ↔
      ∃ x entries,
        (((Select.filtered label inner f).hoist false).run {}).1.queryObjectWithin false = .ok x ∧
        (((Select.filtered label inner f).hoist false).run {}).2.keys.getD [] =
          entries.map (boundKey label) ∧
        (entries.map Prod.fst).Nodup ∧ y = (x.addFields fields).addEntries entries := by
  rcases Select.exists_boundKeys inner {} with ⟨entries, hnodup, hkeys⟩
  rcases Select.hoist_filtered_of_levelFree label hf hkeys hnodup with
    ⟨f', hconditions, _, hgathered, houtermost⟩
  rw [houtermost, hgathered]
  have hobject := @queryObjectWithin_filtered true label inner.label
    ((inner.hoist false).run {}).1 f' fields entries y
  simp only [hconditions] at hobject
  refine hobject.trans ?_
  have hwithin := fun x => @Select.queryObjectWithin_of_levelFree label inner f hf x
  constructor
  · rintro ⟨w, d, hw, hd, rfl⟩
    exact ⟨_, entries, (hwithin _).mpr ⟨w, d, hw, hd, rfl⟩, rfl, hnodup, rfl⟩
  · rintro ⟨x, entries', hx, hsame, _, rfl⟩
    rcases (hwithin x).mp hx with ⟨w, d, hw, hd, rfl⟩
    rw [← List.map_injective_iff.mpr (Select.boundKey_injective label) hsame]
    exact ⟨w, d, hw, hd, rfl⟩

/-- The outermost level delivers what it would give to a level around it. -/
theorem queryObject_filtered (htidy : f.Tidy) {s₁ s₂ : Select}
    (hfold : (Select.filtered label inner f).FoldsTo s₁) (hbind : s₁.BindsTo store s₂)
    {fields : List (String × Expr)} {y : QueryObject} :
    { ((s₂.hoist true).run {}).1 with fields := fields }.queryObject = .ok y ↔
      ∃ given, (Select.filtered label inner f).GivesAs store s₁ s₂ given ∧
        y = (given.object.addFields fields).addEntries given.entries := by
  have hfolded := hfold
  have hbound := hbind
  rcases Select.foldsTo_filtered.mp hfold with ⟨inner₁, f₁, _, hf₁, rfl⟩
  rcases Select.bindsTo_filtered.mp hbind with ⟨inner₂, f₂, _, hf₂, rfl⟩
  -- Neither folding nor binding makes a tidy filter untidy, and a tidy one is read without a level.
  have htidy₂ : f₂.Tidy := (htidy.fold hf₁).bind hf₂
  constructor
  · intro hy
    rcases Select.filter_hoist_filtered true label inner₂ f₂ {} with ⟨f₃, hhoist, hfilter⟩
    have hfree : f₂.LevelFree := @Select.levelFree_of_accepted true
      { (((Select.filtered label inner₂ f₂).hoist true).run {}).1 with fields := fields } f₂ f₃ y
      htidy₂ hhoist hfilter hy
    rcases (queryObject_of_levelFree label inner₂ hfree).mp hy with
      ⟨x, entries, hx, hkeys, hnodup, rfl⟩
    exact ⟨⟨x, entries, _, _⟩, ⟨hfolded, hbound, hx, hkeys, hnodup, rfl, rfl⟩, rfl⟩
  · rintro ⟨given, hgiven, rfl⟩
    rcases Select.filter_hoist_filtered false label inner₂ f₂ {} with ⟨f₃, hhoist, hfilter⟩
    have hfree : f₂.LevelFree := Select.levelFree_of_accepted htidy₂ hhoist hfilter hgiven.object
    exact (queryObject_of_levelFree label inner₂ hfree).mpr
      ⟨given.object, given.entries, hgiven.object, hgiven.keys, hgiven.nodup, rfl⟩

theorem undeclaring_filtered {s₁ s₂ : Select} (hfold : (Select.filtered label inner f).FoldsTo s₁)
    (hbind : s₁.BindsTo store s₂) : s₂.Undeclaring := by
  rcases Select.foldsTo_filtered.mp hfold with ⟨inner₁, f₁, _, _, rfl⟩
  rcases Select.bindsTo_filtered.mp hbind with ⟨inner₂, f₂, _, _, rfl⟩
  exact ⟨rfl, rfl⟩

/-- The query object of what is given, with the fields that are asked for and the expression
    over the row of the result. -/
def Given.deliver (given : Given) (fields : List (String × Expr)) (projector : Option Expr) :
    QueryObject :=
  { (given.object.addFields fields).addEntries given.entries with projector := projector }

/-- Of the fields only their paths matter. -/
theorem Given.deliver_congr (given : Given) {fields fields' : List (String × Expr)}
    (h : declaredPaths fields = declaredPaths fields') (projector : Option Expr) :
    given.deliver fields projector = given.deliver fields' projector := by
  unfold deliver
  rw [addFields_eq, addFields_eq, h]

/-- The translation of a query that ends with a filter. -/
theorem compile_filtered (htidy : f.Tidy) {shape : Option Expr} {n : Nat} {r : QueryObject} :
    (QueryBuilder.mk (.filtered label inner f) shape n).compile store = .ok r ↔
      ∃ given fields projector, (Select.filtered label inner f).Gives store given ∧
        ShapesTo store ⟨label, given.shapeClass⟩ shape fields projector ∧
        r = given.deliver fields projector := by
  -- Folding and binding keep the label, so the shape reads the rows of this level.
  have hrows : ∀ {s₁ s₂ : Select} {given : Given},
      (Select.filtered label inner f).GivesAs store s₁ s₂ given →
        s₂.rows = ⟨label, given.shapeClass⟩ := by
    intro s₁ s₂ given h
    rw [← h.shapeClass]
    exact congrArg (Rows.mk · s₂.documentClass?)
      ((Select.label_eq_of_bindsTo h.binds).trans (Select.label_eq_of_foldsTo h.folds))
  refine (compile_eq_ok_of_undeclaring undeclaring_filtered).trans ?_
  constructor
  · rintro ⟨s₁, s₂, fields, projector, q₁, hs₁, hs₂, hshape, hq₁, rfl⟩
    rcases (queryObject_filtered htidy hs₁ hs₂).mp hq₁ with ⟨given, hgiven, rfl⟩
    rw [hrows hgiven] at hshape
    exact ⟨given, fields, projector, ⟨s₁, s₂, hgiven⟩, hshape, rfl⟩
  · rintro ⟨given, fields, projector, ⟨s₁, s₂, hgiven⟩, hshape, rfl⟩
    rw [← hrows hgiven] at hshape
    exact ⟨s₁, s₂, fields, projector, _, hgiven.folds, hgiven.binds, hshape,
      (queryObject_filtered htidy hgiven.folds hgiven.binds).mpr ⟨given, hgiven, rfl⟩, rfl⟩

end

end DocumentMapper
