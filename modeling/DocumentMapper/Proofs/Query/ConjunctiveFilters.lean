import DocumentMapper.Proofs.Query.Conjunction
import DocumentMapper.Proofs.Query.FilterLevel
import DocumentMapper.Proofs.Query.MergedAtoms

/-!
# Filters that are conjunctions

Filters that only compare fields with constants, in conjunctions that are nested in any way,
are translated exactly. Every comparison becomes an atom, or the class of the rows has no
stored names for its members and the query is not accepted. From there on the filters are
not different from the list of their atoms: a conjunction adds the atoms of its operands
one after the other, and so do filters, from the innermost one outward. What the list of
atoms comes to was said of merged atoms.

## Main definitions

* `MemberField`: A field that members of the row lead to.
* `FieldTest.atom?`: The atom of a comparison, by the stored names of a class.
* `Conjunction.onRow`: A filter over such fields as an expression of the row.
* `filteredBy`: The query of some filters.

## Theorems

* `Conjunction.adds_iff`: What a filter adds is what its atoms place.
* `gives_filteredBy`: What filters give to a level around them.
* `QueryBuilder.conjunctive_filters_compile`: The translation of filters that are conjunctions.
-/

namespace DocumentMapper

open QueryBuilder (label)

/-- A field that members of the row lead to. -/
structure MemberField where
  names : List String
  isField : EndsAtField names

namespace MemberField

variable (k : MemberField)

/-- The members on an expression of the row. -/
def on (row : Expr) : Expr :=
  k.names.foldl Expr.member row

/-- The path of the field in stored rows of a class. -/
def path? (store : Option Store) (documentClass : Option String) : Option String :=
  (storedNames? store documentClass k.names).toOption.map (String.intercalate ".")

/-- Without stored names the path of a field is made of its names. -/
theorem path?_of_none {store : Option Store} {documentClass : Option String}
    (h : store = none ∨ documentClass = none) :
    k.path? store documentClass = some (String.intercalate "." k.names) := by
  rw [path?, storedNames?_of_none h]
  rfl

/-- The members of the row are bound to the field at the path. -/
theorem bind_on {store : Option Store} {rows : Rows} {name : String} {bound : Expr} :
    (k.on (.parameter name)).bind store (some rows) = .ok bound ↔
      ∃ path, k.path? store rows.documentClass = some path ∧ bound = .field ⟨rows.label, path⟩ := by
  rw [on, FieldChain.bind_of_endsAtField store (some rows) name k.isField, bindPath_eq_ok, path?]
  cases storedNames? store rows.documentClass k.names with
  | error e =>
      constructor
      · rintro ⟨_, hnames, _⟩
        cases hnames
      · rintro ⟨_, hpath, _⟩
        cases hpath
  | ok names =>
      constructor
      · rintro ⟨_, hnames, rfl⟩
        rw [← Except.ok.inj hnames]
        exact ⟨_, rfl, rfl⟩
      · rintro ⟨_, hpath, rfl⟩
        rw [← Option.some.inj hpath]
        exact ⟨_, rfl, rfl⟩

end MemberField

namespace FieldTest

/-- The test of the stored field. -/
def atom? (store : Option Store) (documentClass : Option String) (t : FieldTest MemberField) :
    Option Atom :=
  (t.field.path? store documentClass).map t.atomAt

variable (t : FieldTest MemberField)

theorem plain_of_atom? {store : Option Store} {documentClass : Option String} {a : Atom}
    (h : t.atom? store documentClass = some a) : a.constant.asDocument? = none := by
  rcases Option.map_eq_some_iff.mp h with ⟨path, _, rfl⟩
  exact t.plain

theorem plain_of_mapM {store : Option Store} {documentClass : Option String}
    {tests : List (FieldTest MemberField)} :
    ∀ {atoms : List Atom}, tests.mapM (atom? store documentClass) = some atoms →
      ∀ a ∈ atoms, a.constant.asDocument? = none := by
  induction tests with
  | nil =>
      intro atoms h
      rw [← Option.some.inj h]
      exact List.forall_mem_nil _
  | cons t rest ih =>
      intro atoms h
      rw [List.mapM_cons] at h
      rcases Option.bind_eq_some_iff.mp h with ⟨a, ha, h⟩
      rcases Option.bind_eq_some_iff.mp h with ⟨more, hmore, h⟩
      rw [← Option.some.inj h]
      exact List.forall_mem_cons.mpr ⟨t.plain_of_atom? ha, ih hmore⟩

theorem tidy_reading (name : String) : (t.reading (MemberField.on · (.parameter name))).Tidy := by
  have hchain : ∀ (names : List String) (e : Expr), e.Tidy → (names.foldl Expr.member e).Tidy := by
    intro names
    induction names with
    | nil => exact fun _ h => h
    | cons first rest ih => exact fun e h => ih _ (.member h first)
  have hside := hchain t.field.names _ (.parameter name)
  unfold reading Expr.comparedWith
  split
  · exact .binary t.op (.constant t.constant) hside
  · exact .binary t.op hside (.constant t.constant)

/-- A comparison stands for its atom. -/
theorem standsFor_iff {store : Option Store} {rows : Rows} {name : String} {p : Predicate} :
    (t.reading (MemberField.on · (.parameter name))).StandsFor store rows p ↔
      ∃ a, t.atom? store rows.documentClass = some a ∧ p = .atom a := by
  have hfold : (t.reading (MemberField.on · (.parameter name))).fold =
      pure (t.reading (MemberField.on · (.parameter name))) :=
    Expr.fold_comparedWith (FieldChain.fold_members name t.field.names).1
      (FieldChain.fold_members name t.field.names).2
  have hbind : ∀ {e : Expr},
      (t.reading (MemberField.on · (.parameter name))).BindsTo store (some rows) e ↔
        ∃ path, t.field.path? store rows.documentClass = some path ∧
          e = (Expr.field ⟨rows.label, path⟩).comparedWith t.op t.constant t.constantFirst := by
    intro e
    refine Expr.bind_comparedWith.trans ?_
    simp only [t.field.bind_on]
    constructor
    · rintro ⟨_, ⟨path, hpath, rfl⟩, rfl⟩
      exact ⟨path, hpath, rfl⟩
    · rintro ⟨path, hpath, rfl⟩
      exact ⟨_, ⟨path, hpath, rfl⟩, rfl⟩
  constructor
  · -- Folding leaves the comparison alone, and what it is bound to is an atom.
    rintro ⟨e₁, e₂, hfolds, hbinds, hp⟩
    rcases hfolds with ⟨n, m, hrun⟩
    rw [hfold] at hrun
    have hsame : t.reading (MemberField.on · (.parameter name)) = e₁ :=
      congrArg Prod.fst (Except.ok.inj hrun)
    rw [← hsame] at hbinds
    rcases hbind.mp hbinds with ⟨path, hpath, rfl⟩
    rw [Expr.predicate?_comparedWith t.isComparison] at hp
    refine ⟨_, ?_, (Option.some.inj hp).symm⟩
    rw [atom?, hpath]
    rfl
  · rintro ⟨a, ha, rfl⟩
    rcases Option.map_eq_some_iff.mp ha with ⟨path, hpath, rfl⟩
    refine ⟨_, _, ⟨0, 0, ?_⟩, hbind.mpr ⟨path, hpath, rfl⟩, ?_⟩
    · rw [hfold]
      rfl
    · exact Expr.predicate?_comparedWith t.isComparison _

end FieldTest

namespace Conjunction

/-- The filter as an expression over the row. -/
def onRow (c : Conjunction MemberField) (row : Expr) : Expr :=
  c.reading (MemberField.on · row)

theorem tidy_onRow (c : Conjunction MemberField) (name : String) :
    (c.onRow (.parameter name)).Tidy := by
  induction c with
  | test t => exact t.tidy_reading name
  | both op hop p q ihp ihq => exact .binary op ihp ihq

/-- A filter adds what the atoms of its comparisons place. -/
theorem adds_iff {store : Option Store} {rows : Rows} {name : String}
    (c : Conjunction MemberField) :
    ∀ {d d' : Document}, (c.onRow (.parameter name)).Adds store rows d d' ↔
      ∃ atoms, c.tests.mapM (FieldTest.atom? store rows.documentClass) = some atoms ∧
        placeAll atoms d = .ok d' := by
  induction c with
  | test t =>
      intro d d'
      -- A single comparison places a single atom.
      have hone : [t].mapM (FieldTest.atom? store rows.documentClass) =
          (t.atom? store rows.documentClass).map fun a => [a] := by
        rw [List.mapM_cons]
        cases t.atom? store rows.documentClass <;> rfl
      rw [tests, hone]
      constructor
      · rintro ⟨p, hstands, hplace⟩
        rcases t.standsFor_iff.mp hstands with ⟨a, ha, rfl⟩
        rw [ha]
        exact ⟨[a], rfl, (placeAll_singleton a d).trans hplace⟩
      · rintro ⟨atoms, hatoms, hplace⟩
        rcases Option.map_eq_some_iff.mp hatoms with ⟨a, ha, rfl⟩
        refine ⟨.atom a, t.standsFor_iff.mpr ⟨a, ha, rfl⟩, ?_⟩
        exact (placeAll_singleton a d).symm.trans hplace
  | both op hop p q ihp ihq =>
      intro d d'
      rw [onRow, reading, Expr.adds_of_isConjunction hop, tests, List.mapM_append]
      unfold onRow at ihp ihq
      simp only [ihp, ihq, Option.bind_eq_bind, Option.bind_eq_some_iff, Option.pure_def,
        Option.some.injEq]
      constructor
      · rintro ⟨_, ⟨atoms, hatoms, hfirst⟩, more, hmore, hsecond⟩
        refine ⟨atoms ++ more, ⟨atoms, hatoms, more, hmore, rfl⟩, ?_⟩
        rw [placeAll_append]
        exact Except.bind_eq_ok.mpr ⟨_, hfirst, hsecond⟩
      · rintro ⟨_, ⟨atoms, hatoms, more, hmore, rfl⟩, hplace⟩
        rw [placeAll_append] at hplace
        rcases Except.bind_eq_ok.mp hplace with ⟨d₁, hfirst, hsecond⟩
        exact ⟨d₁, ⟨atoms, hatoms, hfirst⟩, more, hmore, hsecond⟩

end Conjunction

/-! ### Filters around a collection -/

/-- The query of some filters, the innermost one first. -/
def filteredBy (database name : String) (documentType : MemberType)
    (filters : List (Conjunction MemberField)) : QueryBuilder :=
  filters.foldl (fun q f => q.filter fun row => f.onRow row)
    (.ofCollection database name documentType)

section

variable {store : Option Store} {database name : String} {documentType : MemberType}

theorem filteredBy_concat (filters : List (Conjunction MemberField)) (f : Conjunction MemberField) :
    filteredBy database name documentType (filters ++ [f]) =
      (filteredBy database name documentType filters).filter fun row => f.onRow row := by
  rw [filteredBy, List.foldl_append]
  rfl

theorem projector_filteredBy (filters : List (Conjunction MemberField)) :
    (filteredBy database name documentType filters).projector = none := by
  induction filters using List.reverseRecOn with
  | nil => rfl
  | append_singleton filters f ih =>
      rw [filteredBy_concat]
      exact ih

/-- The rows of filters are read through a parameter. -/
theorem row_filteredBy (filters : List (Conjunction MemberField)) :
    (filteredBy database name documentType filters).row =
      .parameter (filteredBy database name documentType filters).level.label := by
  rw [QueryBuilder.row, projector_filteredBy]
  rfl

/-- A collection gives its rows as they are. -/
theorem gives_collection {given : Given} :
    (QueryBuilder.ofCollection database name documentType).level.Gives store given ↔
      given = ⟨.ofCollection ⟨label 0, database, name, documentType⟩, [], documentType.className?,
        documentType.className?⟩ := by
  constructor
  · rintro ⟨s₁, s₂, ⟨n, m, hfolds⟩, hbinds, hobject, hkeys, _, hfilter, hshape⟩
    -- No step changes a level around a collection.
    have hs₁ : (QueryBuilder.ofCollection database name documentType).level = s₁ :=
      congrArg Prod.fst (Except.ok.inj hfolds)
    subst hs₁
    have hs₂ : (QueryBuilder.ofCollection database name documentType).level = s₂ :=
      Except.ok.inj hbinds
    subst hs₂
    rcases given with ⟨object, entries, filterClass, shapeClass⟩
    have hentries : entries = [] := List.map_eq_nil_iff.mp hkeys.symm
    have hobject' : QueryObject.ofCollection ⟨label 0, database, name, documentType⟩ = object :=
      Except.ok.inj hobject
    have hclasses : documentType.className? = filterClass ∧ documentType.className? = shapeClass :=
      ⟨hfilter, hshape⟩
    rw [hentries, ← hobject', ← hclasses.1, ← hclasses.2]
  · rintro rfl
    exact ⟨_, _, ⟨0, 0, rfl⟩, rfl, rfl, rfl, List.nodup_nil, rfl, rfl⟩

/-- Filters give the rows of the collection with the atoms of all of their comparisons. -/
theorem gives_filteredBy (filters : List (Conjunction MemberField)) :
    ∀ {given : Given}, (filteredBy database name documentType filters).level.Gives store given ↔
      ∃ atoms d, (filters.flatMap Conjunction.tests).mapM
          (FieldTest.atom? store documentType.className?) = some atoms ∧
        placeAll atoms .empty = .ok d ∧
        given = Given.withQuery ⟨.ofCollection ⟨label 0, database, name, documentType⟩, [],
          documentType.className?, documentType.className?⟩ d := by
  -- From the innermost filter outward, each of which adds its atoms to what is inside.
  induction filters using List.reverseRecOn with
  | nil =>
      intro given
      refine gives_collection.trans ?_
      constructor
      · rintro rfl
        exact ⟨[], .empty, rfl, rfl, rfl⟩
      · rintro ⟨atoms, d, hatoms, hplace, rfl⟩
        rw [← Option.some.inj hatoms] at hplace
        rw [← Except.ok.inj hplace]
        rfl
  | append_singleton filters f ih =>
      intro given
      have htidy : (f.onRow (filteredBy database name documentType filters).row).Tidy := by
        rw [row_filteredBy]
        exact f.tidy_onRow _
      rw [filteredBy_concat]
      refine (Select.gives_filtered htidy).trans ?_
      rw [row_filteredBy, List.flatMap_append, List.flatMap_singleton, List.mapM_append]
      simp only [ih, f.adds_iff, Option.bind_eq_bind, Option.bind_eq_some_iff, Option.pure_def,
        Option.some.injEq]
      constructor
      · rintro ⟨_, d', ⟨atoms, d, hatoms, hplace, rfl⟩, ⟨more, hmore, hadd⟩, rfl⟩
        refine ⟨atoms ++ more, d', ⟨atoms, hatoms, more, hmore, rfl⟩, ?_, rfl⟩
        rw [placeAll_append]
        exact Except.bind_eq_ok.mpr ⟨d, hplace, hadd⟩
      · rintro ⟨_, d', ⟨atoms, hatoms, more, hmore, rfl⟩, hplace, rfl⟩
        rw [placeAll_append] at hplace
        rcases Except.bind_eq_ok.mp hplace with ⟨d, hfirst, hadd⟩
        exact ⟨_, d', ⟨atoms, d, hatoms, hfirst, rfl⟩, ⟨more, hmore, hadd⟩, rfl⟩

/-- A query of filters delivers what the filters give. -/
theorem compile_filteredBy (filters : List (Conjunction MemberField)) {r : QueryObject} :
    (filteredBy database name documentType filters).compile store = .ok r ↔
      ∃ given, (filteredBy database name documentType filters).level.Gives store given ∧
        r = given.deliver [] none := by
  induction filters using List.reverseRecOn with
  | nil =>
      have hcompile : (filteredBy database name documentType []).compile store =
          .ok (.ofCollection ⟨label 0, database, name, documentType⟩) := rfl
      have hgives : ∀ given : Given,
          (filteredBy database name documentType []).level.Gives store given ↔ given = _ :=
        fun _ => gives_collection
      simp only [hcompile, hgives, exists_eq_left, Except.ok.injEq]
      exact eq_comm
  | append_singleton filters f _ =>
      have htidy : (f.onRow (filteredBy database name documentType filters).row).Tidy := by
        rw [row_filteredBy]
        exact f.tidy_onRow _
      -- A filter puts a level around all that is built so far, so one step is one level.
      have hlevel :
          (filteredBy database name documentType filters).filter (fun row => f.onRow row) =
          ⟨.filtered (label (filteredBy database name documentType filters).next)
            (filteredBy database name documentType filters).level
            (f.onRow (filteredBy database name documentType filters).row), none,
            (filteredBy database name documentType filters).next + 1⟩ := by
        rw [QueryBuilder.filter, QueryBuilder.wrap, projector_filteredBy]
        rfl
      rw [filteredBy_concat, hlevel]
      refine (compile_filtered htidy).trans ?_
      constructor
      · rintro ⟨given, fields, projector, hgives, ⟨rfl, rfl⟩, hr⟩
        exact ⟨given, hgives, hr⟩
      · rintro ⟨given, hgives, hr⟩
        exact ⟨given, [], none, hgives, ⟨rfl, rfl⟩, hr⟩

end

/-- Conjunctions of comparisons are translated exactly. The query is accepted if the class of
    its rows has a path for every field and no two of its tests are in each other's way, and in
    no other case. Then all that it adds to the query of the collection is the condition
    document of its tests, in the order of writing from the innermost filter outward. Without a
    store and for rows without a class, the path of a field is made of its names. -/
theorem QueryBuilder.conjunctive_filters_compile (store : Option Store) (database name : String)
    (documentType : MemberType) (filters : List (Conjunction MemberField)) :
    (∀ r, (filteredBy database name documentType filters).compile store = .ok r ↔
      ∃ atoms, (filters.flatMap Conjunction.tests).mapM
          (FieldTest.atom? store documentType.className?) = some atoms ∧
        atoms.Pairwise Atom.Compatible ∧
        r = { QueryObject.ofCollection ⟨label 0, database, name, documentType⟩ with
          query := conditionsOf atoms }) ∧
      (store = none ∨ documentType.className? = none →
        (filters.flatMap Conjunction.tests).mapM
            (FieldTest.atom? store documentType.className?) =
          some ((filters.flatMap Conjunction.tests).map fun t =>
            t.atomAt (String.intercalate "." t.field.names))) := by
  refine ⟨?_, ?_⟩
  · intro r
    rw [compile_filteredBy]
    simp only [gives_filteredBy]
    constructor
    · rintro ⟨_, ⟨atoms, d, hatoms, hplace, rfl⟩, rfl⟩
      rcases (placeAll_eq_ok (FieldTest.plain_of_mapM hatoms)).mp hplace with ⟨hpairs, rfl⟩
      exact ⟨atoms, hatoms, hpairs, rfl⟩
    · rintro ⟨atoms, hatoms, hpairs, rfl⟩
      have hplace := (placeAll_eq_ok (FieldTest.plain_of_mapM hatoms)).mpr ⟨hpairs, rfl⟩
      exact ⟨_, ⟨atoms, _, hatoms, hplace, rfl⟩, rfl⟩
  · intro hplain
    have hatom : FieldTest.atom? store documentType.className? = fun t => pure
        (t.atomAt (String.intercalate "." t.field.names)) := by
      funext t
      rw [FieldTest.atom?, t.field.path?_of_none hplain]
      rfl
    rw [hatom, List.mapM_pure]
    rfl

namespace Merging

/-- The age is more than a number, which is written first. -/
def olderThan (years : Int32) : Conjunction MemberField :=
  .test ⟨⟨["Age"], endsAtField_single _⟩, .less, .int32 years, true, rfl, rfl⟩

/-- The age is less than a number. -/
def youngerThan (years : Int32) : Conjunction MemberField :=
  .test ⟨⟨["Age"], endsAtField_single _⟩, .less, .int32 years, false, rfl, rfl⟩

theorem isComparison_equal : BinaryOp.equal.isComparison = true :=
  rfl

/-- The age is a number. -/
def aged (years : Int32) : Conjunction MemberField :=
  .test ⟨⟨["Age"], endsAtField_single _⟩, .equal, .int32 years, false, isComparison_equal, rfl⟩

/-- The first name is a text. -/
def called (first : String) : Conjunction MemberField :=
  .test ⟨⟨["Name", "First"], ["Name"], "First", rfl, fun _ => rfl⟩, .equal, .string first, false,
    isComparison_equal, rfl⟩

/-- Filters of one field come together. With an equality on the field added, the query is not
    accepted. -/
theorem ages_merged :
    (filteredBy "db" "people" .document
        [.both .andAlso rfl (olderThan 21) (called "Ada"), youngerThan 42]).compile none =
      .ok { database := "db", collection := "people", query := .ofList [("Age", .document
        (.ofList [("$gt", .int32 21), ("$lt", .int32 42)])), ("Name.First", .string "Ada")] } ∧
    ∀ r, (filteredBy "db" "people" .document
        [.both .andAlso rfl (olderThan 21) (called "Ada"), aged 30]).compile none ≠ .ok r := by
  have hmerged := QueryBuilder.conjunctive_filters_compile none "db" "people" .document
    [.both .andAlso rfl (olderThan 21) (called "Ada"), youngerThan 42]
  have hrefused := QueryBuilder.conjunctive_filters_compile none "db" "people" .document
    [.both .andAlso rfl (olderThan 21) (called "Ada"), aged 30]
  refine ⟨(hmerged.1 _).mpr ⟨_, hmerged.2 (.inl rfl), ?_, rfl⟩, ?_⟩
  · decide +kernel
  · intro r hr
    rcases (hrefused.1 r).mp hr with ⟨atoms, hatoms, hpairs, _⟩
    rw [hrefused.2 (.inl rfl)] at hatoms
    rw [← Option.some.inj hatoms] at hpairs
    revert hpairs
    decide +kernel

end Merging

end DocumentMapper
