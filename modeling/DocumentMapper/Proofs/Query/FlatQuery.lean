import DocumentMapper.Proofs.Query.Filter
import DocumentMapper.Proofs.Query.Hoisting

/-!
# The query object of calls

The levels of a query add their clauses to the query object from the inside outward.
Filters are placed into one condition document, so that it means their conjunction. Keys
are inserted into one sort document. Skips and takes narrow one window, and whenever a
window can be narrowed, what it cuts out of a list of rows is what the clauses cut out
one after another. So if a query is accepted at all, running its query object is doing
everything at once (`run_eq_allAtOnce`). It is accepted if no two filters conflict and
the window can be narrowed, and the order of filters, keys and windows plays no part in
that (`exists_compile_iff`).

## Main definitions

* `conditions`, `narrowLevels`: The filters and the window of levels.
* `cutLevels`: What the windows of levels keep one after another.
* `Summary`: What the query object of levels holds.

## Theorems

* `Window.cut_skipRows`, `Window.cut_takeRows`: A narrowed window cuts twice.
* `addClauses_bound`: What one level adds.
* `summary`, `exists_queryObject`: The query object of all levels, and when there is one.
* `exists_compile_iff`: Which calls are accepted.
* `run_eq_allAtOnce`: Running the query object of calls.
-/

namespace DocumentMapper

open QueryBuilder (label)

/-! ### Windows -/

namespace Window

variable {α : Type} {w w' : Window} {count : Nat}

theorem cut_skipRows (h : w.skipRows count = .ok w') (items : List α) :
    w'.cut items = (w.cut items).drop count := by
  unfold skipRows at h
  split at h
  · cases h
  next hlimit =>
    split at h
    · cases h
    · rw [← Except.ok.inj h]
      unfold cut
      by_cases hzero : w.limit = 0
      · simp only [hzero, Nat.zero_sub, if_true, List.drop_drop]
      · -- Some of the rows that are taken are left.
        have hleft : w.limit - count ≠ 0 := by omega
        simp only [hzero, hleft, if_false, List.drop_take, List.drop_drop]

theorem cut_takeRows (h : w.takeRows count = .ok w') (items : List α) :
    w'.cut items = (w.cut items).take count := by
  unfold takeRows at h
  split at h
  · cases h
  next hcount =>
    rw [← Except.ok.inj h]
    unfold cut
    by_cases hzero : w.limit = 0
    · simp only [hzero, hcount, if_true, if_false]
    · have hmin : min w.limit count ≠ 0 := by omega
      simp only [hzero, hmin, if_false, List.take_take, Nat.min_comm count]

end Window

/-- The rows that a level keeps by their number. -/
def Level.cut {α : Type} (l : Level) (items : List α) : List α :=
  let rest := l.skip.elim items fun count => items.drop count.toInt.toNat
  l.take.elim rest fun count => rest.take count.toInt.toNat

/-- The rows that levels keep by their number, from the innermost outward. -/
def cutLevels {α : Type} : List Level → List α → List α
  | [], items => items
  | l :: rest, items => l.cut (cutLevels rest items)

/-- The window after the clauses of a level, which is the same over any source. -/
def Level.narrow (l : Level) (w : Window) : Except QueryError Window :=
  (l.bound 0 (.object [])).narrow w

/-- The window of levels, from the innermost outward. -/
def narrowLevels : List Level → Except QueryError Window
  | [] => .ok {}
  | l :: rest => do l.narrow (← narrowLevels rest)

theorem clauseCount?_eq_ok {clause : String} {count : Option Int32} {n : Option Nat}
    (h : clauseCount? clause (count.map countClause) = .ok n) :
    n = count.map fun count => count.toInt.toNat := by
  cases count with
  | none => exact (Except.ok.inj h).symm
  | some count =>
      rcases Except.map_eq_ok.mp h with ⟨m, hm, hn⟩
      have hcount : clauseCount clause (countClause count) =
          if 0 ≤ count.toInt then .ok count.toInt.toNat
          else .error (.invalid (.countRequired clause)) := rfl
      rw [hcount] at hm
      split at hm
      · rw [← hn, ← Except.ok.inj hm]
        rfl
      · cases hm

/-- A narrowed window keeps the rows that the clauses keep of its own. -/
theorem cut_narrow {l : Level} {w w' : Window} (h : l.narrow w = .ok w') {α : Type}
    (items : List α) : w'.cut items = l.cut (w.cut items) := by
  unfold Level.narrow Level.bound Select.narrow at h
  rcases Except.bind_eq_ok.mp h with ⟨take, htake, h⟩
  rcases Except.bind_eq_ok.mp h with ⟨skip, hskip, h⟩
  rw [clauseCount?_eq_ok htake, clauseCount?_eq_ok hskip] at h
  unfold Level.cut
  cases hs : l.skip with
  | none =>
      rw [hs] at h
      cases ht : l.take with
      | none =>
          rw [ht] at h
          rw [← Except.ok.inj h]
          rfl
      | some count =>
          rw [ht] at h
          exact Window.cut_takeRows h items
  | some skipped =>
      rw [hs] at h
      rcases Except.bind_eq_ok.mp h with ⟨w₁, hw₁, h⟩
      -- Rows are skipped before they are taken, in the level as in the window.
      have hcut := Window.cut_skipRows hw₁ items
      cases ht : l.take with
      | none =>
          rw [ht] at h
          rw [← Except.ok.inj h]
          exact hcut
      | some count =>
          rw [ht] at h
          rw [Window.cut_takeRows h items, hcut]
          rfl

theorem cut_narrowLevels {α : Type} (items : List α) (ls : List Level) :
    ∀ {w : Window}, narrowLevels ls = .ok w → w.cut items = cutLevels ls items := by
  induction ls with
  | nil =>
      intro w h
      rw [← Except.ok.inj h]
      rfl
  | cons l rest ih =>
      intro w h
      rcases Except.bind_eq_ok.mp h with ⟨w₁, hw₁, h⟩
      rw [cut_narrow h, ih hw₁, cutLevels]

/-! ### Conditions -/

/-- The filters of levels, from the innermost outward. -/
def conditions : List Level → Predicate
  | [] => .true
  | l :: rest => l.filter.elim (conditions rest) fun c => .and (conditions rest) c.predicate

theorem notFree_conditions (ls : List Level) : (conditions ls).NotFree := by
  induction ls with
  | nil => exact trivial
  | cons l rest ih =>
      rw [conditions]
      cases l.filter with
      | none => exact ih
      | some c => exact ⟨ih, c.notFree⟩

theorem plain_conditions (ls : List Level) : (conditions ls).Plain := by
  induction ls with
  | nil => exact nofun
  | cons l rest ih =>
      rw [conditions]
      cases l.filter with
      | none => exact ih
      | some c =>
          intro a ha
          rcases List.mem_append.mp ha with ha | ha
          · exact ih a ha
          · exact c.plain a ha

/-! ### Sort documents -/

/-- A key as it stands in a sort document. -/
def sortField (key : String × Direction) : String × Value :=
  (key.1, .int32 key.2.sign)

theorem insert_sortField (path : String) (d : Direction) (fields : List (String × Direction)) :
    Fields.insert path (.int32 d.sign) (fields.map sortField) =
      (Fields.insert path d fields).map sortField := by
  induction fields with
  | nil => rfl
  | cons field rest ih =>
      have hname : (sortField field).1 = field.1 := rfl
      rw [List.map_cons, Fields.insert, Fields.insert, hname]
      by_cases h : field.1 = path
      · rw [if_pos h, if_pos h]
        rfl
      · rw [if_neg h, if_neg h, List.map_cons, ← ih]
        rfl

/-- Keys are added to a sort document by their paths, one after another. -/
theorem addKeys_boundKey (source : String) (entries : List (String × Direction)) :
    ∀ (q : QueryObject) {fields : List (String × Direction)},
      q.order.fields = fields.map sortField →
      q.addKeys (entries.map (boundKey source)) =
        .ok { q with
          order := ⟨(entries.foldl (fun fields entry => Fields.insert entry.1 entry.2 fields)
            fields).map sortField⟩ } := by
  induction entries with
  | nil =>
      intro q fields h
      have horder : q.order = ⟨fields.map sortField⟩ := by
        cases horder : q.order
        rw [horder] at h
        exact congrArg Document.mk h
      rw [List.map_nil, QueryObject.addKeys, List.foldl_nil, ← horder]
  | cons entry entries ih =>
      intro q fields h
      -- A key that is there already keeps its place, in the list of keys as in the document.
      have hadded : (q.addOrder entry.1 entry.2.sign).order.fields =
          (Fields.insert entry.1 entry.2 fields).map sortField := by
        rw [← insert_sortField, ← h]
        rfl
      have hkey : (boundKey source entry).2.asField? = some ⟨source, entry.1⟩ := rfl
      rw [List.map_cons, QueryObject.addKeys, hkey]
      exact ih _ hadded

theorem addKeys_bound (source : String) (keys : List SortKey) (q : QueryObject)
    {fields : List (String × Direction)} (h : q.order.fields = fields.map sortField) :
    q.addKeys (keys.map (·.bound source)) =
      .ok { q with order := ⟨(insertKeys fields keys).map sortField⟩ } := by
  rw [← map_boundKey_entry, addKeys_boundKey source _ q h, List.foldl_map]
  rfl

theorem ofSign_sign (d : Direction) : Direction.ofSign (.int32 d.sign) = d := by
  unfold Direction.ofSign
  simp only [BEq.beq, Value.equals]
  cases d <;> decide

/-! ### The query object of levels -/

/-- The conditions after the filter of a level. -/
def Level.addFilter (l : Level) (d : Document) : Except QueryError Document :=
  l.filter.elim (.ok d) fun c => c.predicate.place [] d

theorem place_conditions (l : Level) (rest : List Level) :
    (conditions (l :: rest)).place [] .empty =
      (do l.addFilter (← (conditions rest).place [] .empty)) := by
  rw [conditions]
  unfold Level.addFilter
  cases l.filter with
  | none => exact (bind_pure _).symm
  | some c => rfl

-- Each clause of a level changes a part of the query object of its own.
theorem addClauses_bound (l : Level) (number : Nat) (source : Expr) (keys : List SortKey)
    {q : QueryObject} {fields : List (String × Direction)}
    (hfields : q.order.fields = fields.map sortField) :
    ((l.bound number source).withOrder (keys.map (·.bound (label number)))).addClauses q =
      (do
        let d ← l.addFilter q.query
        let w ← l.narrow q.window
        return { q with
          query := d, order := ⟨(insertKeys fields keys).map sortField⟩, window := w }) := by
  have hfilter : q.addFilter (l.filter.map (·.bound (label number))) =
      (fun d => { q with query := d }) <$> l.addFilter q.query := by
    unfold Level.addFilter
    cases l.filter with
    | none => rfl
    | some c =>
        rw [Option.map_some, QueryObject.addFilter, c.addConditions_bound]
        rfl
  have hkeys : ∀ d, (QueryObject.addFields { q with query := d } []).addKeys
      (keys.map fun k => k.bound (label number)) =
        .ok { q with query := d, order := ⟨(insertKeys fields keys).map sortField⟩ } :=
    fun d => addKeys_bound (label number) keys _ hfields
  -- A level without fields and a group adds its filter, its keys and its window, in this order.
  have hclauses : ((l.bound number source).withOrder
      (keys.map (·.bound (label number)))).addClauses q =
        (do
          let q ← q.addFilter (l.filter.map (·.bound (label number)))
          let q ← (q.addFields []).addKeys (keys.map fun k => k.bound (label number))
          return { q with window := ← l.narrow q.window }) := rfl
  rw [hclauses, hfilter, bind_map_left]
  refine congrArg (l.addFilter q.query >>= ·) ?_
  funext d
  rw [hkeys d, Except.ok_bind]

/-- What the query object of levels holds: their filters, their keys and their windows. -/
structure Summary (q : QueryObject) (outermost : Bool) (ls : List Level) : Prop where
  query : (conditions ls).place [] .empty = .ok q.query
  order : q.order.fields = (flatKeys outermost ls).map sortField
  window : narrowLevels ls = .ok q.window

theorem Summary.ofCollection (c : Collection) (outermost : Bool) :
    Summary (.ofCollection c) outermost [] where
  query := rfl
  order := rfl
  window := rfl

/-- The outermost of levels with the keys it asks for. -/
def hoistedLevel (c : Collection) (outermost : Bool) (l : Level) (rest : List Level) : Select :=
  (l.bound rest.length (hoistedSource c rest)).withOrder
    ((l.asked outermost rest).map (·.bound (label rest.length)))

section

variable {c : Collection} {q : QueryObject} {l : Level} {rest : List Level} {outermost : Bool}

/-- A level adds its clauses. -/
theorem Summary.add {q' : QueryObject} (h : Summary q false rest)
    (hadd : (hoistedLevel c outermost l rest).addClauses q = .ok q') :
    Summary q' outermost (l :: rest) := by
  unfold hoistedLevel at hadd
  rw [addClauses_bound l rest.length _ _ h.order] at hadd
  rcases Except.bind_eq_ok.mp hadd with ⟨d, hd, hadd⟩
  rcases Except.bind_eq_ok.mp hadd with ⟨w, hw, hadd⟩
  rw [← Except.ok.inj hadd]
  refine ⟨?_, rfl, ?_⟩
  · rw [place_conditions, h.query]
    exact hd
  · rw [narrowLevels, h.window]
    exact hw

/-- A level can add its clauses if its filter can be placed and its window narrowed. -/
theorem Summary.exists_add (h : Summary q false rest) {d : Document} {w : Window}
    (hd : (conditions (l :: rest)).place [] .empty = .ok d)
    (hw : narrowLevels (l :: rest) = .ok w) :
    ∃ q', (hoistedLevel c outermost l rest).addClauses q = .ok q' := by
  rw [place_conditions, h.query] at hd
  rw [narrowLevels, h.window] at hw
  have hd : l.addFilter q.query = .ok d := hd
  have hw : l.narrow q.window = .ok w := hw
  unfold hoistedLevel
  rw [addClauses_bound l rest.length _ _ h.order, hd, hw]
  exact ⟨_, rfl⟩

end

/-- The query object of levels, inside others or not. -/
theorem summary (c : Collection) (rest : List Level) :
    ∀ (outermost : Bool) (l : Level) {q : QueryObject},
      (hoistedLevel c outermost l rest).queryObjectWithin outermost = .ok q →
      Summary q outermost (l :: rest) := by
  induction rest with
  | nil =>
      intro outermost l q h
      exact (Summary.ofCollection c false).add h
  | cons inner rest ih =>
      intro outermost l q h
      unfold Select.queryObjectWithin at h
      rcases Except.bind_eq_ok.mp h with ⟨q₁, hq₁, hadd⟩
      exact (ih false inner hq₁).add hadd

/-- Levels are accepted if their filters can be placed and their windows narrowed. -/
theorem exists_queryObject (c : Collection) (rest : List Level) :
    ∀ (outermost : Bool) (l : Level) {d : Document} {w : Window},
      (conditions (l :: rest)).place [] .empty = .ok d → narrowLevels (l :: rest) = .ok w →
      ∃ q, (hoistedLevel c outermost l rest).queryObjectWithin outermost = .ok q := by
  induction rest with
  | nil =>
      intro outermost l d w hd hw
      exact (Summary.ofCollection c false).exists_add hd hw
  | cons inner rest ih =>
      intro outermost l d w hd hw
      have hd' := hd
      rw [place_conditions] at hd'
      rcases Except.bind_eq_ok.mp hd' with ⟨d₁, hd₁, _⟩
      rcases Except.bind_eq_ok.mp hw with ⟨w₁, hw₁, _⟩
      -- The levels inside have a query object, and what is left can be added to it.
      rcases ih false inner hd₁ hw₁ with ⟨q₁, hq₁⟩
      rcases (summary c rest false inner hq₁).exists_add hd hw with ⟨q, hq⟩
      refine ⟨q, ?_⟩
      unfold Select.queryObjectWithin
      exact Except.bind_eq_ok.mpr ⟨q₁, hq₁, hq⟩

/-- A query with given levels is compiled to the query object of its hoisted levels. -/
theorem compile_eq {store : Option Store} {c : Collection} {q : QueryBuilder} {ls : Levels}
    (hbuilds : Builds store c q ls) (hc : c.label = label 0)
    (hpaths : ((ls.all.flatMap Level.keys).map fun k => k.field.path).Nodup) :
    q.compile store = (fun result => { result with projector := none }) <$>
      (hoistedLevel c true ls.outermost ls.inner).queryObjectWithin true := by
  have hexpr : q.toExpr = .select q.level := by
    rw [QueryBuilder.toExpr, hbuilds.projector]
  have hfolded : (Expr.select q.level).folded = .ok (.select q.level, 0) := by
    rw [Expr.folded, Expr.fold, hbuilds.fold_eq]
    rfl
  have hbound : (Expr.select q.level).bind store none =
      .ok (.select (ls.outermost.bound ls.inner.length (boundSource c ls.inner))) := by
    rw [Expr.bind]
    simp only [Expr.parameterChain?, hbuilds.bind_eq, Except.ok_bind]
    rfl
  rw [QueryBuilder.compile, hexpr, Expr.compile]
  simp only [hfolded, hbound, hoistOrder_bound hc ls hpaths, Expr.outermost, Except.ok_bind]
  -- Nothing is grouped.
  rfl

/-! ### Accepted calls -/

/-- The window after a call. -/
def Call.narrow (w : Window) : Call → Except QueryError Window
  | skip count => do w.skipRows (← clauseCount "skip" (countClause count))
  | take count => do w.takeRows (← clauseCount "take" (countClause count))
  | _ => .ok w

theorem narrowLevels_levels (calls : List Call) :
    narrowLevels (levels calls).all = calls.foldlM Call.narrow {} := by
  induction calls using List.reverseRecOn with
  | nil => rfl
  | append_singleton calls call ih =>
      have hpush : ∀ l : Level, (∀ w, l.narrow w = Call.narrow w call) →
          narrowLevels ((levels calls).push l).all =
            (do Call.narrow (← narrowLevels (levels calls).all) call) :=
        fun l hl => congrArg (narrowLevels (levels calls).all >>= ·) (funext hl)
      -- Only a skip and a take touch the window; another call adds a level that leaves it alone.
      have hcall : narrowLevels (call.onLevels (levels calls)).all =
          (do Call.narrow (← narrowLevels (levels calls).all) call) := by
        cases call with
        | thenBy k => exact (bind_pure (narrowLevels (levels calls).all)).symm
        | filter c => exact hpush _ fun _ => rfl
        | orderBy k => exact hpush _ fun _ => rfl
        | distinct => exact hpush _ fun _ => rfl
        | skip count =>
            refine hpush _ fun w => ?_
            simp only [Call.narrow, Level.narrow, Level.bound, Select.narrow, clauseCount?,
              Option.map_some, Option.map_none, Except.ok_bind, bind_map_left, bind_pure]
        | take count =>
            refine hpush _ fun w => ?_
            simp only [Call.narrow, Level.narrow, Level.bound, Select.narrow, clauseCount?,
              Option.map_some, Option.map_none, Except.ok_bind, bind_map_left, pure_bind]
      rw [levels_concat, List.foldlM_append, ← ih, hcall]
      refine congrArg (narrowLevels (levels calls).all >>= ·) ?_
      funext w
      exact (bind_pure _).symm

/-- Calls are accepted exactly if their filters can be placed into one condition document
    and their skips and takes narrow one window. -/
theorem exists_compile_iff {store : Option Store} {database name : String} {calls : List Call}
    (hpaths : (sortPaths calls).Nodup) :
    (∃ q, (built database name calls).compile store = .ok q) ↔
      (∃ d, (conditions (levels calls).all).place [] .empty = .ok d) ∧
      ∃ w, calls.foldlM Call.narrow {} = .ok w := by
  have hkeys : (((levels calls).all.flatMap Level.keys).map fun k => k.field.path).Nodup :=
    ((perm_sortKeys calls).map _).nodup_iff.mpr hpaths
  rw [compile_eq (builds store database name calls) rfl hkeys, ← narrowLevels_levels]
  constructor
  · rintro ⟨q, hq⟩
    rcases Except.map_eq_ok.mp hq with ⟨q₁, hq₁, _⟩
    have hsummary := summary _ _ _ _ hq₁
    exact ⟨⟨_, hsummary.query⟩, ⟨_, hsummary.window⟩⟩
  · rintro ⟨⟨d, hd⟩, ⟨w, hw⟩⟩
    rcases exists_queryObject _ _ true _ hd hw with ⟨q, hq⟩
    exact ⟨_, Except.map_eq_ok.mpr ⟨q, hq, rfl⟩⟩

/-! ### Running the query object -/

theorem sortKeys_of_order {q : QueryObject} {entries : List (String × Direction)}
    (h : q.order.fields = entries.map sortField) : q.sortKeys = entries := by
  have hkey : ∀ key : String × Direction,
      ((sortField key).1, Direction.ofSign (sortField key).2) = key := by
    intro key
    exact congrArg (Prod.mk key.1) (ofSign_sign key.2)
  unfold QueryObject.sortKeys
  rw [h, List.map_map]
  exact List.map_id'' hkey _

theorem sortKeys_eq {q : QueryObject} {outermost : Bool} {ls : List Level}
    (h : Summary q outermost ls) : q.sortKeys = flatKeys outermost ls :=
  sortKeys_of_order h.order

/-- The condition document means the conjunction of all filters. -/
theorem Summary.truth_eq {q : QueryObject} {outermost : Bool} {ls : List Level}
    (h : Summary q outermost ls) (t : Assignment) : q.query.truth t = (conditions ls).truth t := by
  rw [Document.truth_eq_fieldwise (plain_conditions ls) h.query,
    (notFree_conditions ls).faithful.fieldwise_eq]

theorem truth_conditions {row : Document} (calls : List Call) :
    (∀ call ∈ calls, call.EvaluatesAt row) →
      (conditions (levels calls).all).truth (.ofRow row) = calls.all (·.keeps row) := by
  induction calls using List.reverseRecOn with
  | nil => exact fun _ => rfl
  | append_singleton calls call ih =>
      intro hrow
      have hcalls := ih fun call hcall => hrow call (List.mem_append_left _ hcall)
      have hcall := hrow call (List.mem_append_right _ List.mem_cons_self)
      rw [List.all_append, ← hcalls, levels_concat]
      cases call with
      | filter c =>
          rw [List.all_cons, List.all_nil, Bool.and_true, Call.keeps, c.keeps_eq hcall]
          rfl
      | _ => exact (Bool.and_true _).symm

theorem cutLevels_levels {α : Type} (calls : List Call) (items : List α) :
    cutLevels (levels calls).all items = cutAll calls items := by
  induction calls using List.reverseRecOn with
  | nil => rfl
  | append_singleton calls call ih =>
      unfold cutAll at ih ⊢
      rw [levels_concat, List.foldl_concat, ← ih]
      cases call <;> rfl

/-- Running the query object of calls is doing everything at once. -/
theorem run_eq_allAtOnce {order : Value → Value → Ordering} {store : Option Store}
    {database name : String} {calls : List Call} {q : QueryObject}
    (hpaths : (sortPaths calls).Nodup) (h : (built database name calls).compile store = .ok q)
    {rows : List Document} (hrows : Evaluate calls rows) :
    q.run order rows = allAtOnce order calls rows := by
  have hkeys : (((levels calls).all.flatMap Level.keys).map fun k => k.field.path).Nodup :=
    ((perm_sortKeys calls).map _).nodup_iff.mpr hpaths
  -- The query object sums all levels up: one filter, one order and one window.
  have hsummary : Summary q true (levels calls).all := by
    rw [compile_eq (builds store database name calls) rfl hkeys] at h
    rcases Except.map_eq_ok.mp h with ⟨q₁, hq₁, hq⟩
    have hsummary := summary _ _ _ _ hq₁
    rw [← hq]
    exact ⟨hsummary.query, hsummary.order, hsummary.window⟩
  have hkept : rows.filter (fun row => q.query.truth (.ofRow row)) = kept calls rows := by
    refine List.filter_congr ?_
    intro row hrow
    rw [hsummary.truth_eq, truth_conditions calls (hrows row hrow)]
  unfold QueryObject.run allAtOnce
  rw [hkept, sortKeys_eq hsummary, cut_narrowLevels _ _ hsummary.window, cutLevels_levels]

end DocumentMapper
