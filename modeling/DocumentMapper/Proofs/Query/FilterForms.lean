import DocumentMapper.Proofs.Query.FilterLevel

/-!
# Forms of filters

A filter can be written as one conjunction or as several calls, its conjunctions can be
grouped in one way or another, and the sides of a comparison can be exchanged if the operator
is mirrored. None of this makes a difference. A filter adds to a condition document what its
predicate places there, so a conjunction adds what two filters one after the other add, and
comparisons with their sides exchanged stand for the same predicate.

This holds of filters that are looked at as a whole. A level among the arguments of a text
test that are not looked at has its keys gathered, and then it matters where in a filter it
stands.

## Theorems

* `compile_filter_eq_ok`: The translation of a query that ends with a filter.
* `filters_agree`: Filters translate the same however they are written.
* `Unseen.ordered_differs`: Filters with a level that is not looked at.
-/

namespace DocumentMapper

namespace QueryBuilder

variable {store : Option Store} {q : QueryBuilder} {a b : Expr → Expr}

/-- A query that ends with a filter adds the conditions of the filter to what it would give
    without it. -/
theorem compile_filter_eq_ok (ha : (a q.row).Tidy) {r : QueryObject} :
    (q.filter a).compile store = .ok r ↔
      ∃ given d fields projector, q.level.Gives store given ∧
        (a q.row).Adds store ⟨q.level.label, given.filterClass⟩ given.object.query d ∧
        ShapesTo store ⟨label q.next, given.shapeClass⟩ q.projector fields projector ∧
        r = (given.withQuery d).deliver fields projector := by
  refine (compile_filtered ha).trans ?_
  constructor
  · rintro ⟨given, fields, projector, hgives, hshape, rfl⟩
    rcases (Select.gives_filtered ha).mp hgives with ⟨given', d, hgives', hadds, rfl⟩
    exact ⟨given', d, fields, projector, hgives', hadds, hshape, rfl⟩
  · rintro ⟨given, d, fields, projector, hgives, hadds, hshape, rfl⟩
    exact ⟨given.withQuery d, fields, projector,
      (Select.gives_filtered ha).mpr ⟨given, d, hgives, hadds, rfl⟩, hshape, rfl⟩

/-- Filters that add the same translate the same. -/
theorem filter_agree (ha : (a q.row).Tidy) (hb : (b q.row).Tidy)
    (h : ∀ rows d d', (a q.row).Adds store rows d d' ↔ (b q.row).Adds store rows d d') :
    Except.Agree Eq ((q.filter a).compile store) ((q.filter b).compile store) := by
  refine Except.agree_of_eq_ok_iff fun r => ?_
  rw [compile_filter_eq_ok ha, compile_filter_eq_ok hb]
  simp only [h]

/-- Two filters one after the other translate as one with the conjunction. The second one may
    be written with another name for the rows. -/
theorem filter_filter_agree (ha : (a q.row).Tidy) (hb : (b q.row).Tidy)
    (hrow : Expr.Alike True (b q.row) (b (q.filter a).row)) :
    Except.Agree Eq (((q.filter a).filter b).compile store)
      ((q.filter fun row => .binary .andAlso (a row) (b row)).compile store) := by
  have hsecond : (b (q.filter a).row).Tidy := hrow.tidy hb
  have hboth : (Expr.binary .andAlso (a q.row) (b q.row)).Tidy := .binary .andAlso ha hb
  -- Neither the second filter nor the shape depends on the label of the rows.
  have hadds : ∀ {given : Given} {d d' : Document},
      (b (q.filter a).row).Adds store ⟨label q.next, given.filterClass⟩ d d' ↔
        (b q.row).Adds store ⟨q.level.label, given.filterClass⟩ d d' :=
    fun {_ _ _} => Iff.symm (hrow.adds_iff rfl)
  refine Except.agree_of_eq_ok_iff fun r => ?_
  rw [compile_filter_eq_ok hsecond,
    compile_filter_eq_ok (a := fun row => .binary .andAlso (a row) (b row)) hboth]
  constructor
  · rintro ⟨given', d, fields, projector, hgives', hsecond, hshape, rfl⟩
    rcases (Select.gives_filtered ha).mp hgives' with ⟨given, d', hgives, hfirst, rfl⟩
    rcases hshape.relabel (label q.next) with ⟨fields', hshape', hpaths⟩
    refine ⟨given, d, fields', projector, hgives, ?_, hshape', ?_⟩
    · exact Expr.adds_conjunction.mpr ⟨d', hfirst, hadds.mp hsecond⟩
    · exact ((given.withQuery d').withQuery d).deliver_congr hpaths projector
  · rintro ⟨given, d, fields, projector, hgives, hadds', hshape, rfl⟩
    rcases Expr.adds_conjunction.mp hadds' with ⟨d', hfirst, hsecond⟩
    rcases hshape.relabel (label (q.next + 1)) with ⟨fields', hshape', hpaths⟩
    refine ⟨given.withQuery d', d, fields', projector, ?_, hadds.mpr hsecond, hshape', ?_⟩
    · exact (Select.gives_filtered ha).mpr ⟨given, d', hgives, hfirst, rfl⟩
    · exact (given.withQuery d).deliver_congr hpaths projector

/-- It does not matter how filters are written: as several calls or as one conjunction, how
    its conjunctions are grouped, and on which side of a comparison its operands stand. This
    holds of tidy filters, whatever they are put around. -/
theorem filters_agree (store : Option Store) (q : QueryBuilder) :
    (∀ a b : Expr → Expr, (a q.row).Tidy → (b q.row).Tidy →
      Expr.Alike True (b q.row) (b (q.filter a).row) →
        Except.Agree Eq (((q.filter a).filter b).compile store)
          ((q.filter fun row => .binary .andAlso (a row) (b row)).compile store)) ∧
      (∀ a b c : Expr → Expr, (a q.row).Tidy → (b q.row).Tidy → (c q.row).Tidy →
        Except.Agree Eq
          ((q.filter fun row =>
            .binary .andAlso (.binary .andAlso (a row) (b row)) (c row)).compile store)
          ((q.filter fun row =>
            .binary .andAlso (a row) (.binary .andAlso (b row) (c row))).compile store)) ∧
      ∀ a a' : Expr → Expr, (a q.row).Tidy → Expr.Alike True (a q.row) (a' q.row) →
        Except.Agree Eq ((q.filter a).compile store) ((q.filter a').compile store) := by
  refine ⟨?_, ?_, ?_⟩
  · intro a b ha hb hrow
    exact filter_filter_agree ha hb hrow
  · intro a b c ha hb hc
    refine filter_agree (.binary .andAlso (.binary .andAlso ha hb) hc)
      (.binary .andAlso ha (.binary .andAlso hb hc)) ?_
    intro rows d d'
    simp only [Expr.adds_conjunction]
    constructor
    · rintro ⟨d₂, ⟨d₁, hfirst, hsecond⟩, hthird⟩
      exact ⟨d₁, hfirst, d₂, hsecond, hthird⟩
    · rintro ⟨d₁, hfirst, d₂, hsecond, hthird⟩
      exact ⟨d₂, ⟨d₁, hfirst, hsecond⟩, hthird⟩
  · intro a a' ha halike
    exact filter_agree ha (halike.tidy ha) fun rows d d' => halike.adds_iff rfl

end QueryBuilder

namespace Unseen

/-- All people. -/
def people : QueryBuilder :=
  .ofCollection "db" "people" .document

/-- A test for an age. -/
def adult (row : Expr) : Expr :=
  .binary .greater (.member row "Age") (.constant (.int32 17))

/-- The same test with its sides exchanged. -/
def adultMirrored (row : Expr) : Expr :=
  .binary .less (.constant (.int32 17)) (.member row "Age")

/-- A test for the start of a name, with further arguments. -/
def named (further : List Expr) (row : Expr) : Expr :=
  .call .startsWith (some (.member row "Name")) (.constant (.string "x") :: further)

/-- A test for a flag. -/
def active (row : Expr) : Expr :=
  .binary .equal (.member row "Active") (.constant (.boolean true))

theorem tidy_active (name : String) : (active (.parameter name)).Tidy :=
  .binary _ (.member (.parameter name) _) (.constant _)

theorem tidy_adult (name : String) : (adult (.parameter name)).Tidy :=
  .binary _ (.member (.parameter name) _) (.constant _)

theorem tidy_named (name : String) : (named [] (.parameter name)).Tidy := by
  refine .call _ ?_ ?_ ?_
  · rintro e ⟨⟩
    exact .member (.parameter name) _
  · intro e he
    rw [List.mem_singleton.mp he]
    exact .constant _
  · exact List.forall_mem_nil _

/-- Tests with different names for their rows. -/
theorem named_alike (name name' : String) :
    Expr.Alike True (named [] (.parameter name)) (named [] (.parameter name')) :=
  .call _ (fun _ _ h => h) (.some (.member (.parameter (.inl trivial)) _))
    (.cons (.constant _) .nil)

theorem adult_alike (row : Expr) : Expr.Alike True (adult row) (adultMirrored row) :=
  .exchanged trivial rfl (Expr.Alike.refl _) (Expr.Alike.refl _)

/-- The forms of a filter for grown people with a name, all of them accepted. -/
theorem people_forms :
    (∃ r, ((people.filter adult).filter (named [])).compile none = .ok r ∧
      (people.filter fun row => .binary .andAlso (adult row) (named [] row)).compile none =
        .ok r) ∧
      (∃ r, (people.filter fun row => .binary .andAlso
          (.binary .andAlso (adult row) (named [] row)) (active row)).compile none = .ok r ∧
        (people.filter fun row => .binary .andAlso (adult row)
          (.binary .andAlso (named [] row) (active row))).compile none = .ok r) ∧
      ∃ r, (people.filter adult).compile none = .ok r ∧
        (people.filter adultMirrored).compile none = .ok r := by
  have hadult : (adult people.row).Tidy := tidy_adult _
  have hnamed : (named [] people.row).Tidy := tidy_named _
  -- What agrees with a query that is accepted is accepted, with the same result.
  have haccepted : ∀ {x y : Except QueryError QueryObject}, x.toBool = true →
      Except.Agree Eq x y → ∃ r, x = .ok r ∧ y = .ok r := by
    intro x y hx hagree
    cases x with
    | error e => cases hx
    | ok r =>
        rcases hagree.exists_right rfl with ⟨_, hy, rfl⟩
        exact ⟨r, rfl, hy⟩
  rcases QueryBuilder.filters_agree none people with ⟨hcalls, hgroups, hsides⟩
  have hcalls := hcalls adult (named []) hadult hnamed (named_alike _ _)
  have hgroups := hgroups adult (named []) active hadult hnamed (tidy_active _)
  have hsides := hsides adult adultMirrored hadult (adult_alike _)
  exact ⟨haccepted (by decide +kernel) hcalls, haccepted (by decide +kernel) hgroups,
    haccepted (by decide +kernel) hsides⟩

/-- A level that sorts a collection of its own. -/
def ordered : Expr :=
  .select { Select.ofSource "s1" (.collection ⟨"s0", "db", "c", .document⟩) with
    order := [(.ascending, .member (.parameter "s0") "A")] }

/-- With a level among the further arguments of a test, the rows are sorted by its key if the
    test stands in a conjunction, and are not sorted if it is a filter of its own. -/
theorem ordered_differs :
    ∃ r r', ((people.filter (named [ordered])).filter adult).compile none = .ok r ∧
      (people.filter fun row => .binary .andAlso (named [ordered] row) (adult row)).compile none =
        .ok r' ∧
      r.order = .empty ∧ r'.order = ⟨[("A", .int32 1)]⟩ := by
  have hcalls : QueryObject.order <$>
      ((people.filter (named [ordered])).filter adult).compile none = .ok .empty := rfl
  have hconjunction : QueryObject.order <$> (people.filter fun row =>
      .binary .andAlso (named [ordered] row) (adult row)).compile none =
        .ok ⟨[("A", .int32 1)]⟩ := rfl
  rcases Except.map_eq_ok.mp hcalls with ⟨r, hr, horder⟩
  rcases Except.map_eq_ok.mp hconjunction with ⟨r', hr', horder'⟩
  exact ⟨r, r', hr, hr', horder, horder'⟩

end Unseen

end DocumentMapper
