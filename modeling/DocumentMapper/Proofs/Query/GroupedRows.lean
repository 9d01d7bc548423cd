import DocumentMapper.Proofs.Query.Calls
import DocumentMapper.Proofs.Query.Stages

/-!
# The rows of a grouped query

A grouping puts a level around a query, and the levels inside give the same conditions and
the same window to the query object as they do without it. The command that is sent for a
grouping has the conditions in it, but neither the window nor the sort document. So what
the map function gets are all rows that satisfy the conditions, and these are the rows of
the query without the grouping only where its window leaves none of them out.

## Main definitions

* `Select.SameRows`: Levels that choose rows in the same way.
* `mappedObject`, `mappedRows`: The rows that a command maps.
* `Window.Keeps`: A window that leaves none of a number of rows out.

## Theorems

* `queryObjectWithin_sameRows`: Conditions and windows of such levels.
* `compile_groupBy`: A grouping keeps conditions and window.
* `command?_eq`: The command of a grouping.
* `mapped_rows`: The rows that are mapped.
-/

namespace DocumentMapper

/-! ### Levels that choose the same rows -/

/-- Levels that choose rows in the same way, whatever they sort by and ask for. -/
structure Select.SameRows (s s' : Select) : Prop where
  source : s.source = s'.source
  filter : s.filter = s'.filter
  skip : s.skip = s'.skip
  take : s.take = s'.take

namespace Select

variable {s s' s'' : Select} {q q' r r' : QueryObject}

theorem SameRows.trans (h : SameRows s s') (h' : SameRows s' s'') : SameRows s s'' :=
  ⟨h.source.trans h'.source, h.filter.trans h'.filter, h.skip.trans h'.skip, h.take.trans h'.take⟩

theorem SameRows.symm (h : SameRows s s') : SameRows s' s :=
  ⟨h.source.symm, h.filter.symm, h.skip.symm, h.take.symm⟩

/-- The conditions and the window after a level. -/
theorem query_window_of_addClauses (h : s.addClauses q = .ok q') :
    (∃ d : QueryObject, q.addFilter s.filter = .ok d ∧ q'.query = d.query) ∧
      s.narrow q.window = .ok q'.window := by
  unfold addClauses at h
  rcases Except.bind_eq_ok.mp h with ⟨q₁, hfilter, h⟩
  rcases Except.bind_eq_ok.mp h with ⟨q₂, hkeys, h⟩
  rcases Except.bind_eq_ok.mp h with ⟨w, hwindow, h⟩
  -- Keys and fields change neither the filter nor the window.
  have hkeys' := addKeys_eq_ok _ hkeys
  have hfilter' := addFilter_eq_ok hfilter
  rw [← Except.ok.inj h]
  constructor
  · refine ⟨q₁, hfilter, ?_⟩
    rw [hkeys']
    rfl
  · rw [hkeys', addFields_eq, hfilter'] at hwindow
    exact hwindow

theorem SameRows.narrow_eq (h : SameRows s s') (w : Window) : s.narrow w = s'.narrow w := by
  unfold narrow
  rw [h.skip, h.take]

theorem SameRows.addClauses (h : SameRows s s') (hr : s.addClauses q = .ok r)
    (hr' : s'.addClauses q = .ok r') : r.query = r'.query ∧ r.window = r'.window := by
  rcases query_window_of_addClauses hr with ⟨⟨d, hd, hquery⟩, hwindow⟩
  rcases query_window_of_addClauses hr' with ⟨⟨d', hd', hquery'⟩, hwindow'⟩
  rw [h.filter, hd'] at hd
  rw [h.narrow_eq, hwindow'] at hwindow
  exact ⟨by rw [hquery, hquery', Except.ok.inj hd], (Except.ok.inj hwindow).symm⟩

/-- Levels that choose the same rows have the same conditions and window, be they the
    outermost or not. -/
theorem queryObjectWithin_sameRows (h : SameRows s s') {outermost outermost' : Bool}
    (hr : s.queryObjectWithin outermost = .ok r)
    (hr' : s'.queryObjectWithin outermost' = .ok r') :
    r.query = r'.query ∧ r.window = r'.window := by
  -- Both levels have one source, a collection or a level inside, so the mixed cases do not occur.
  rcases queryObjectWithin_eq_ok hr with ⟨c, hc, hadd⟩ | ⟨inner, q, hinner, hq, hadd⟩ <;>
    rcases queryObjectWithin_eq_ok hr' with ⟨c', hc', hadd'⟩ | ⟨inner', q', hinner', hq', hadd'⟩
  · rw [h.source, hc'] at hc
    cases hc
    exact h.addClauses hadd hadd'
  · rw [h.source, hinner'] at hc
    cases hc
  · rw [h.source, hc'] at hinner
    cases hinner
  · rw [h.source, hinner'] at hinner
    cases hinner
    rw [hq'] at hq
    cases hq
    exact h.addClauses hadd hadd'

/-! ### Hoisting -/

theorem handOn_sameRows (outermost : Bool) (s : Select) (g : Gathering) :
    SameRows (s.handOn outermost g).1 s ∧ (s.handOn outermost g).1.group = s.group := by
  unfold handOn
  cases g.keys with
  | none => exact ⟨⟨rfl, rfl, rfl, rfl⟩, rfl⟩
  | some keys =>
      dsimp only
      split <;> exact ⟨⟨rfl, rfl, rfl, rfl⟩, rfl⟩

theorem hoistClauses_run (s : Select) (g : Gathering) :
    ∃ g₁ g₂ g₃ g₄,
      (s.hoistClauses.run g).1.filter = ((hoistOption false s.filter).run g₁).1 ∧
      (s.hoistClauses.run g).1.group = ((hoistGroup false s.group).run g₂).1 ∧
      (s.hoistClauses.run g).1.skip = ((hoistOption false s.skip).run g₃).1 ∧
      (s.hoistClauses.run g).1.take = ((hoistOption false s.take).run g₄).1 :=
  ⟨_, _, _, _, rfl, rfl, rfl, rfl⟩

/-- Once its clauses are through, a level keeps what chooses its rows. -/
theorem hoist_sameRows (outermost : Bool) (s : Select) (g : Gathering) :
    SameRows ((s.hoist outermost).run g).1 (s.hoistClauses.run g).1 ∧
      ((s.hoist outermost).run g).1.group = (s.hoistClauses.run g).1.group := by
  rw [hoist_run, receive_run]
  exact handOn_sameRows outermost _ _

theorem restrict_sameRows (s : Select) (p : RowProjection) : SameRows (s.restrict p) s := by
  unfold restrict
  split <;> exact ⟨rfl, rfl, rfl, rfl⟩

theorem eq_of_foldsTo (h : s.FoldsTo s') (h' : s.FoldsTo s'') : s' = s'' := by
  rcases foldsTo_iff.mp h 0 with ⟨n, h⟩
  rcases foldsTo_iff.mp h' 0 with ⟨n', h'⟩
  exact (Prod.mk.inj (Except.ok.inj (h.symm.trans h'))).1

/-! ### A level that groups -/

/-- A level that groups the rows of another one and chooses none of them. -/
structure Groups (inner s : Select) : Prop where
  source : s.source = some (.select inner)
  filter : s.filter = none
  skip : s.skip = none
  take : s.take = none
  group : s.group.isSome = true

namespace Groups

variable {inner : Select}

theorem of_related {R : Expr → Expr → Prop} (h : Groups inner s) {inner' : Select}
    (hrelated : Select.Related R s s') (hsource : s'.source = some (.select inner')) :
    Groups inner' s' where
  source := hsource
  filter := eq_none_of_rel hrelated.filter h.filter
  skip := eq_none_of_rel hrelated.skip h.skip
  take := eq_none_of_rel hrelated.take h.take
  group := (isSome_eq_of_rel hrelated.group).symm.trans h.group

theorem of_foldsTo (h : Groups inner s) (hfold : s.FoldsTo s') :
    ∃ inner', inner.FoldsTo inner' ∧ Groups inner' s' := by
  rcases keepsSource_folds.select hfold h.source with ⟨inner', hsource, hinner⟩
  exact ⟨inner', hinner, h.of_related hfold.related hsource⟩

theorem of_bindsTo {store : Option Store} (h : Groups inner s) (hbind : s.BindsTo store s') :
    ∃ inner', inner.BindsTo store inner' ∧ Groups inner' s' := by
  rcases (keepsSource_binds store).select hbind h.source with ⟨inner', hsource, hinner⟩
  exact ⟨inner', hinner, h.of_related hbind.related hsource⟩

theorem of_hoist (h : Groups inner s) :
    Groups ((inner.hoist false).run {}).1 ((s.hoist true).run {}).1 := by
  have hnone : ∀ g, ((hoistOption false none).run g).1 = none := by
    intro g
    rw [hoistOption]
    rfl
  have hsome : ∀ keys g, ((hoistGroup false (some keys)).run g).1.isSome = true := by
    intro keys g
    rw [hoistGroup]
    rfl
  rcases hoist_sameRows true s {} with ⟨hrows, hgroup⟩
  rcases s.hoistClauses_run {} with ⟨g₁, g₂, g₃, g₄, hfilter, hgroup', hskip, htake⟩
  rcases Option.isSome_iff_exists.mp h.group with ⟨keys, hkeys⟩
  rw [h.filter, hnone] at hfilter
  rw [h.skip, hnone] at hskip
  rw [h.take, hnone] at htake
  rw [hgroup', hkeys] at hgroup
  refine ⟨hrows.source.trans ?_, hrows.filter.trans hfilter, hrows.skip.trans hskip,
    hrows.take.trans htake, hgroup ▸ hsome keys g₂⟩
  rw [hoistClauses_source, h.source, hoistOption_select]

/-- A level that groups gives the conditions and the window of the level inside. -/
theorem queryObject (h : Groups inner s) (hr : s.queryObject = .ok r) :
    ∃ x, inner.queryObjectWithin false = .ok x ∧ r.query = x.query ∧ r.window = x.window := by
  rcases queryObjectWithin_eq_ok hr with ⟨c, hc, _⟩ | ⟨inner', x, hinner, hx, hadd⟩
  · rw [h.source] at hc
    cases hc
  · rw [h.source] at hinner
    cases hinner
    rcases query_window_of_addClauses hadd with ⟨⟨d, hd, hquery⟩, hwindow⟩
    rw [h.filter] at hd
    unfold narrow at hwindow
    rw [h.skip, h.take] at hwindow
    exact ⟨x, hx, hquery.trans (Except.ok.inj hd ▸ rfl), (Except.ok.inj hwindow).symm⟩

end Groups

end Select

/-! ### The query object of a grouping -/

namespace QueryBuilder

variable {store : Option Store} {q : QueryBuilder} {r g : QueryObject}

theorem addGrouping_eq_ok {s : Select} {q : QueryObject} (h : q.addGrouping s = .ok r) :
    r.query = q.query ∧ r.window = q.window ∧ (s.group.isSome = true → r.isMapReduce = true) := by
  unfold QueryObject.addGrouping at h
  cases hgroup : s.group with
  | none =>
      rw [hgroup] at h
      rw [← Except.ok.inj h]
      exact ⟨rfl, rfl, fun hsome => by cases hsome⟩
  | some keys =>
      rw [hgroup] at h
      rcases Except.bind_eq_ok.mp h with ⟨map, _, h⟩
      rcases Except.bind_eq_ok.mp h with ⟨reduce, _, h⟩
      rw [← Except.ok.inj h]
      exact ⟨rfl, rfl, fun _ => rfl⟩

/-- The query object of a query with a shape or without one chooses rows as the outermost
    level does. -/
theorem compile_rows (h : q.compile store = .ok r) :
    ∃ s₁ s₂ t q₁, q.level.FoldsTo s₁ ∧ s₁.BindsTo store s₂ ∧
      Select.SameRows t ((s₂.hoist true).run {}).1 ∧ t.queryObject = .ok q₁ ∧
      r.query = q₁.query ∧ r.window = q₁.window := by
  unfold QueryBuilder.compile QueryBuilder.toExpr at h
  cases hprojector : q.projector with
  | none =>
      rw [hprojector] at h
      rcases compile_select_eq_ok.mp h with ⟨s₁, s₂, q₁, hs₁, hs₂, hq₁, hr⟩
      rcases addGrouping_eq_ok hr with ⟨hquery, hwindow, _⟩
      exact ⟨s₁, s₂, _, q₁, hs₁, hs₂, ⟨rfl, rfl, rfl, rfl⟩, hq₁, hquery, hwindow⟩
  | some projector =>
      rw [hprojector] at h
      rcases compile_projection_eq_ok.mp h with ⟨s₁, s₂, _, _, q₁, hs₁, hs₂, _, _, hq₁, hr⟩
      rcases addGrouping_eq_ok hr with ⟨hquery, hwindow, _⟩
      exact ⟨s₁, s₂, _, q₁, hs₁, hs₂, Select.restrict_sameRows _ _, hq₁, hquery, hwindow⟩

/-- A grouping keeps the conditions and the window of the query that it groups. -/
theorem compile_groupBy {keys : Expr → List Expr} {aggregates : Expr → List (String × Expr)}
    (hr : q.compile store = .ok r) (hg : (q.groupBy keys aggregates).compile store = .ok g) :
    g.query = r.query ∧ g.window = r.window ∧ g.isMapReduce = true := by
  have hgroups : Select.Groups q.level (q.groupBy keys aggregates).level :=
    ⟨rfl, rfl, rfl, rfl, rfl⟩
  rcases compile_rows hr with ⟨s₁, s₂, t, r₁, hs₁, hs₂, hrows, hr₁, hquery, hwindow⟩
  rcases compile_select_eq_ok.mp hg with ⟨g₁, g₂, x, hg₁, hg₂, hx, hgrouping⟩
  rcases addGrouping_eq_ok hgrouping with ⟨hquery', hwindow', hscripts⟩
  -- The level inside goes through the same steps as without the grouping.
  rcases hgroups.of_foldsTo hg₁ with ⟨s₁', hs₁', hgroups₁⟩
  rw [Select.eq_of_foldsTo hs₁' hs₁] at hgroups₁
  rcases hgroups₁.of_bindsTo hg₂ with ⟨s₂', hs₂', hgroups₂⟩
  rw [Except.ok.inj (hs₂'.symm.trans hs₂)] at hgroups₂
  have hgroups₃ := hgroups₂.of_hoist
  rcases hgroups₃.queryObject hx with ⟨y, hy, hqueryx, hwindowx⟩
  have hinner : Select.SameRows ((s₂.hoist false).run {}).1 t :=
    (Select.hoist_sameRows false s₂ {}).1.trans
      ((Select.hoist_sameRows true s₂ {}).1.symm.trans hrows.symm)
  rcases Select.queryObjectWithin_sameRows hinner hy hr₁ with ⟨hqueryy, hwindowy⟩
  refine ⟨?_, ?_, hscripts hgroups₃.group⟩
  · exact hquery'.trans (hqueryx.trans (hqueryy.trans hquery.symm))
  · exact hwindow'.trans (hwindowx.trans (hwindowy.trans hwindow.symm))

end QueryBuilder

/-! ### The command -/

/-- The parts of a map-reduce command that choose the rows: conditions, and if the command
    has them a sort document and a limit. There is no part for skipping rows. -/
def mappedObject (command : Document) : QueryObject where
  query := ((command.get? "query").bind Value.asDocument?).getD .empty
  order := ((command.get? "sort").bind Value.asDocument?).getD .empty
  window := { limit := ((command.get? "limit").bind Value.asInt32?).elim 0 (·.toInt.toNat) }

/-- The rows that the map function gets. -/
def mappedRows (order : Value → Value → Ordering) (command : Document) (rows : List Document) :
    List Document :=
  (mappedObject command).run order rows

/-- The command of a grouping has the conditions and nothing else that chooses rows. -/
theorem command?_eq {g : QueryObject} (h : g.isMapReduce = true) :
    ∃ command, g.command? = some command ∧ mappedObject command = { query := g.query } := by
  rcases Option.isSome_iff_exists.mp h with ⟨map, hmap⟩
  unfold QueryObject.command?
  rw [hmap]
  refine ⟨_, rfl, ?_⟩
  have hquery : ∀ d : Document, d.isEmpty = true → d = .empty := by
    rintro ⟨fields⟩ hempty
    exact congrArg Document.mk (List.isEmpty_iff.mp hempty)
  cases hempty : g.query.isEmpty with
  | true =>
      rw [hquery _ hempty]
      cases g.reduce <;> rfl
  | false => cases g.reduce <;> rfl

/-- Without a sort document the rows that satisfy the conditions are cut as they come. -/
theorem run_of_unsorted {q : QueryObject} (h : q.sortKeys = []) (order : Value → Value → Ordering)
    (rows : List Document) :
    q.run order rows = q.window.cut (rows.filter fun row => q.query.truth (.ofRow row)) := by
  unfold QueryObject.run
  rw [h]
  exact congrArg q.window.cut (sortBy_nil _)

/-! ### Windows that leave nothing out -/

/-- A window that leaves none of a number of rows out. -/
def Window.Keeps (w : Window) (n : Nat) : Prop :=
  (w.skip = 0 ∨ n = 0) ∧ (w.limit = 0 ∨ n ≤ w.limit)

theorem Window.length_cut_eq_iff {α : Type} {w : Window} {items : List α} :
    (w.cut items).length = items.length ↔ w.Keeps items.length := by
  unfold Window.cut Window.Keeps
  split
  · rw [List.length_drop]
    omega
  · rw [List.length_take, List.length_drop]
    omega

theorem Window.cut_eq_of_keeps {α : Type} {w : Window} {items : List α}
    (h : w.Keeps items.length) : w.cut items = items := by
  have hsublist : (w.cut items).Sublist items := by
    unfold Window.cut
    split
    · exact List.drop_sublist _ _
    · exact (List.take_sublist _ _).trans (List.drop_sublist _ _)
  exact hsublist.eq_of_length (Window.length_cut_eq_iff.mpr h)

/-- All rows that satisfy the conditions are the rows of a query exactly if its window
    leaves none of them out. -/
theorem perm_run_iff {order : Value → Value → Ordering} {r : QueryObject} {rows : List Document} :
    (rows.filter fun row => r.query.truth (.ofRow row)).Perm (r.run order rows) ↔
      r.window.Keeps (rows.countP fun row => r.query.truth (.ofRow row)) := by
  unfold QueryObject.run
  rw [List.countP_eq_length_filter]
  generalize (rows.filter fun row => r.query.truth (.ofRow row)) = items
  -- Sorting loses no row, so the lengths decide.
  have hperm : (sortByPaths order r.sortKeys items).Perm items := List.mergeSort_perm _ _
  constructor
  · intro h
    have hlength := h.length_eq
    rw [← hperm.length_eq] at hlength ⊢
    exact Window.length_cut_eq_iff.mp hlength.symm
  · intro h
    rw [← hperm.length_eq] at h
    rw [Window.cut_eq_of_keeps h]
    exact hperm.symm

theorem keeps_all_iff {w : Window} {p : Document → Bool} :
    (∀ rows : List Document, w.Keeps (rows.countP p)) ↔ w = {} ∨ ∀ row, p row = false := by
  constructor
  · intro h
    by_cases hnone : ∀ row, p row = false
    · exact .inr hnone
    · rcases not_forall.mp hnone with ⟨row, hrow⟩
      -- One row more than the limit, all of them counted: a window that keeps them does nothing.
      have hcount := h (List.replicate (w.limit + 1) row)
      rw [List.countP_replicate, if_pos (Bool.not_eq_false _ ▸ hrow)] at hcount
      rcases w with ⟨skip, limit⟩
      rcases hcount with ⟨hskip, hlimit⟩
      dsimp only at hskip hlimit
      have hskip : skip = 0 := by omega
      have hlimit : limit = 0 := by omega
      rw [hskip, hlimit]
      exact .inl rfl
  · rintro (rfl | hnone) rows
    · exact ⟨.inl rfl, .inl rfl⟩
    · rw [List.countP_eq_zero.mpr fun row _ => by rw [hnone row]; exact Bool.false_ne_true]
      exact ⟨.inr rfl, .inr (Nat.zero_le _)⟩

/-! ### The rows that are mapped -/

/-- The command of a grouping maps all rows that satisfy the conditions of the query that it
    groups. These are the rows of that query exactly if its window leaves none of them out,
    and for all collections exactly if there is no window or nothing satisfies the
    conditions. -/
theorem QueryBuilder.mapped_rows {store : Option Store} {q : QueryBuilder} {r g : QueryObject}
    {keys : Expr → List Expr} {aggregates : Expr → List (String × Expr)}
    (hr : q.compile store = .ok r) (hg : (q.groupBy keys aggregates).compile store = .ok g) :
    ∃ command, g.command? = some command ∧ g.query = r.query ∧ g.window = r.window ∧
      (∀ order rows, mappedRows order command rows =
        rows.filter fun row => r.query.truth (.ofRow row)) ∧
      (∀ order rows, (mappedRows order command rows).Perm (r.run order rows) ↔
        r.window.Keeps (rows.countP fun row => r.query.truth (.ofRow row))) ∧
      ((∀ order rows, (mappedRows order command rows).Perm (r.run order rows)) ↔
        r.window = {} ∨ ∀ row, r.query.truth (.ofRow row) = false) := by
  rcases compile_groupBy hr hg with ⟨hquery, hwindow, hmap⟩
  rcases command?_eq hmap with ⟨command, hcommand, hobject⟩
  have hmapped : ∀ order rows, mappedRows order command rows =
      rows.filter fun row => r.query.truth (.ofRow row) := by
    intro order rows
    rw [mappedRows, hobject, run_of_unsorted rfl, hquery]
    rfl
  have hkeeps : ∀ order rows, (mappedRows order command rows).Perm (r.run order rows) ↔
      r.window.Keeps (rows.countP fun row => r.query.truth (.ofRow row)) := by
    intro order rows
    rw [hmapped]
    exact perm_run_iff
  refine ⟨command, hcommand, hquery, hwindow, hmapped, hkeeps, ?_⟩
  rw [← keeps_all_iff]
  exact ⟨fun h rows => (hkeeps (fun _ _ => .eq) rows).mp (h _ rows),
    fun h order rows => (hkeeps order rows).mpr (h rows)⟩

namespace Census

/-- All people. -/
def people : QueryBuilder :=
  .ofCollection "db" "people" .document

/-- The number of people for each age. -/
def counted (q : QueryBuilder) : QueryBuilder :=
  q.groupBy (fun row => [.member row "Age"]) fun _ => [("Count", .aggregate .count none false)]

/-- People above an age. -/
def adults : QueryBuilder :=
  people.filter fun row => .binary .greater (.member row "Age") (.constant (.int32 17))

def person (age : Int32) : Document :=
  .ofList [("Age", .int32 age)]

/-- All people above an age are counted, and only they. -/
theorem adults_mapped :
    ∃ r g command, adults.compile none = .ok r ∧ (counted adults).compile none = .ok g ∧
      g.command? = some command ∧
      ∀ order rows, (mappedRows order command rows).Perm (r.run order rows) := by
  have hr : ∃ r, adults.compile none = .ok r ∧ r.window = {} := ⟨_, rfl, rfl⟩
  have hg : ∃ g, (counted adults).compile none = .ok g := ⟨_, rfl⟩
  rcases hr with ⟨r, hr, hwindow⟩
  rcases hg with ⟨g, hg⟩
  rcases QueryBuilder.mapped_rows hr hg with ⟨command, hcommand, _, _, _, _, hall⟩
  exact ⟨r, g, command, hr, hg, hcommand, hall.mpr (.inl hwindow)⟩

/-- Of two people one is taken, and both are counted. -/
theorem taken_not_mapped :
    ∃ r g command, (people.take 1).compile none = .ok r ∧
      (counted (people.take 1)).compile none = .ok g ∧ g.command? = some command ∧
      (∀ order, r.run order [person 30, person 31] = [person 30]) ∧
      ∀ order, mappedRows order command [person 30, person 31] = [person 30, person 31] := by
  refine ⟨_, _, _, rfl, rfl, rfl, ?_, ?_⟩
  · exact fun order => (run_of_unsorted rfl order _).trans rfl
  · exact fun order => (run_of_unsorted rfl order _).trans rfl

end Census

end DocumentMapper
