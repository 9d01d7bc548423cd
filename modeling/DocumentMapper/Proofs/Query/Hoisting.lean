import DocumentMapper.Proofs.Query.Gathering

/-!
# Hoisting of keys through levels

Hoisting goes through the levels from the inside outward and carries the keys that are
passed on, over the rows of the level they come from. At every level it puts the keys of
the level in front, hands the level those that it asks for, and passes all of them on
over the rows of the level, unless the level removes duplicates. No field is sorted on
twice, so that no key is dropped for being there already (`Carries.prepend`).

## Main definitions

* `Carries`: What is gathered after a level.
* `hoistedSource`: The expression of levels with the keys they ask for.

## Theorems

* `carries_iff`, `passOutward_bound`: Keys by their paths and directions.
* `receive_bound`: One level.
* `hoist_boundSource`, `hoistOrder_bound`: All levels.
-/

namespace DocumentMapper

open QueryBuilder (label)

/-- The field of a key in the rows of a source. -/
def SortKey.ref (k : SortKey) (source : String) : FieldRef :=
  ⟨source, k.field.path⟩

/-- The keys carried outward from a source. If there are none, none were gathered. -/
structure Carries (g : Gathering) (source : String) (keys : List SortKey) : Prop where
  keys_eq : g.keys = if keys = [] then none else some (keys.map (·.bound source))
  seen_eq : keys ≠ [] → g.seen = keys.map (·.ref source)

/-- The bound expression of levels with the keys they ask for. -/
def hoistedSource (c : Collection) : List Level → Expr
  | [] => .collection c
  | l :: rest =>
    .select ((l.bound rest.length (hoistedSource c rest)).withOrder
      ((l.asked false rest).map (·.bound (label rest.length))))

theorem rowsLabel?_hoistedSource {c : Collection} (hc : c.label = label 0) (ls : List Level) :
    (hoistedSource c ls).rowsLabel? = some (label ls.length) := by
  cases ls with
  | nil => exact congrArg some hc
  | cons l rest => rfl

theorem map_boundKey_entry (source : String) (keys : List SortKey) :
    (keys.map SortKey.entry).map (boundKey source) = keys.map (·.bound source) :=
  List.map_map

/-- Keys are carried as their entries are. -/
theorem carries_iff {g : Gathering} {source : String} {keys : List SortKey} :
    Carries g source keys ↔ Carried g source (keys.map SortKey.entry) := by
  have hseen : (keys.map SortKey.entry).map (fun entry => (⟨source, entry.1⟩ : FieldRef)) =
      keys.map (·.ref source) := List.map_map
  constructor
  · intro h
    refine ⟨?_, ?_⟩
    · rw [map_boundKey_entry, h.keys_eq]
      simp only [List.map_eq_nil_iff]
    · rw [hseen, ne_eq, List.map_eq_nil_iff]
      exact h.seen_eq
  · intro h
    have hkeys := h.keys_eq
    have hfields := h.seen_eq
    rw [map_boundKey_entry] at hkeys
    rw [hseen, ne_eq, List.map_eq_nil_iff] at hfields
    refine ⟨?_, hfields⟩
    rw [hkeys]
    simp only [List.map_eq_nil_iff]

/-- Of keys of different fields none is dropped. -/
theorem keepLast_entries {keys : List SortKey} (h : (keys.map fun k => k.field.path).Nodup) :
    keepLast Prod.fst (keys.map SortKey.entry) = keys.map SortKey.entry := by
  refine keepLast_of_nodup ?_
  rw [List.map_map]
  exact h

/-- Keys of different fields are the last uses of their fields. -/
theorem Carries.carried_keepLast {g : Gathering} {source : String} {keys own : List SortKey}
    (h : Carries g source keys) (hpaths : ((own ++ keys).map fun k => k.field.path).Nodup) :
    Carried g source (keepLast Prod.fst (keys.map SortKey.entry)) := by
  rw [List.map_append] at hpaths
  rw [keepLast_entries hpaths.of_append_right]
  exact carries_iff.mp h

theorem Carries.prepend {g : Gathering} {source : String} {keys own : List SortKey}
    (h : Carries g source keys) (hown : own ≠ [])
    (hpaths : ((own ++ keys).map fun k => k.field.path).Nodup) :
    Carries (g.prepend (own.map (·.bound source))) source (own ++ keys) := by
  have hentries : own.map SortKey.entry ≠ [] := mt List.map_eq_nil_iff.mp hown
  have hprepend := (h.carried_keepLast hpaths).prepend hentries
  rw [map_boundKey_entry, ← List.map_append, keepLast_entries hpaths] at hprepend
  exact carries_iff.mpr hprepend

/-- Keys over the rows of a source become keys over the rows of the level. -/
theorem passOutward_bound {s : Select} {source name : String} (hlabel : s.label = name)
    (hsource : s.sourceLabel? = some source) (hfields : s.fields = []) (keys : List SortKey) :
    s.passOutward (keys.map (·.bound source)) = ([], keys.map (·.bound name)) := by
  rw [← map_boundKey_entry, ← map_boundKey_entry]
  exact passOutward_boundKey hlabel hsource hfields _

/-- What a level gathers before it hands keys on: its own keys in front of the others. -/
theorem gather_bound {l : Level} {number : Nat} (source : Expr) {keys : List SortKey}
    {g : Gathering} (hg : Carries g (label number) keys)
    (hpaths : ((l.keys ++ keys).map fun k => k.field.path).Nodup) :
    Carries (if (l.bound number source).order.isEmpty then g
      else g.prepend (l.bound number source).order) (label number) (l.keys ++ keys) := by
  have horder : (l.bound number source).order =
      (l.keys.map SortKey.entry).map (boundKey (label number)) :=
    (map_boundKey_entry _ _).symm
  have hgather := (hg.carried_keepLast hpaths).gather (l.keys.map SortKey.entry)
  rw [← List.map_append, keepLast_entries hpaths, ← horder] at hgather
  exact carries_iff.mpr hgather

theorem Carries.getD_keys {g : Gathering} {source : String} {keys : List SortKey}
    (h : Carries g source keys) : g.keys.getD [] = keys.map (·.bound source) := by
  rw [(carries_iff.mp h).getD_keys, map_boundKey_entry]

/-- Nothing is carried once the keys are taken. -/
theorem carries_nil (g : Gathering) (source : String) : Carries { g with keys := none } source [] :=
  carries_iff.mpr (carried_nil g source)

/-- What a level keeps: all keys at hand if it needs an order, but its own ones only if
    rows that are the same are merged. -/
theorem order_asked (l : Level) (number : Nat) (source : Expr) (outermost : Bool)
    (rest : List Level) :
    (if (outermost || l.isWindow) && !l.distinct then
        (l.keys ++ passed rest).map (·.bound (label number))
      else if outermost || l.isWindow then (l.bound number source).order else []) =
      (l.asked outermost rest).map (·.bound (label number)) := by
  unfold Level.asked
  cases outermost || l.isWindow with
  | true => cases l.distinct <;> rfl
  | false => rfl

/-- A level gets the keys it asks for, and hands on what it may. -/
theorem receive_bound {l : Level} {number : Nat} {source : Expr} (outermost : Bool)
    (hsource : source.rowsLabel? = some (label number)) {rest : List Level} {g : Gathering}
    (hg : Carries g (label number) (passed rest))
    (hpaths : ((l.keys ++ passed rest).map fun k => k.field.path).Nodup) :
    ∃ g', ((l.bound number source).receive outermost).run g =
        ((l.bound number source).withOrder ((l.asked outermost rest).map (·.bound (label number))),
          g') ∧
      (outermost = false → Carries g' (label (number + 1)) (passed (l :: rest))) := by
  have hgathered := gather_bound source hg hpaths
  rw [receive_run]
  generalize (if (l.bound number source).order.isEmpty then g
    else g.prepend (l.bound number source).order) = g₁ at hgathered ⊢
  have hneeds : (outermost || (l.bound number source).take.isSome ||
      (l.bound number source).skip.isSome) = (outermost || l.isWindow) := by
    simp only [Level.bound, Level.isWindow, Option.isSome_map, Bool.or_assoc]
  have hstops : ((l.bound number source).group.isSome || (l.bound number source).distinct) =
      l.distinct := rfl
  have hasked := order_asked l number source outermost rest
  unfold Select.handOn
  simp only [hneeds, hstops, hgathered.getD_keys, hasked]
  -- Without any key nothing is gathered, and so nothing is handed on either.
  by_cases hkeys : l.keys ++ passed rest = []
  · have hnone := hgathered.keys_eq
    rw [if_pos hkeys] at hnone
    have hpassed : passed (l :: rest) = [] := by
      rw [passed, hkeys]
      split <;> rfl
    simp only [hnone, hpassed]
    exact ⟨_, rfl, fun _ => carries_nil g₁ _⟩
  · have hsome := hgathered.keys_eq
    rw [if_neg hkeys] at hsome
    simp only [hsome]
    -- A level that merges rows stops its keys; another one passes them on under its own label.
    cases hdistinct : l.distinct with
    | true =>
        rw [Bool.or_true, if_pos rfl, passed, hdistinct, if_pos rfl]
        exact ⟨_, rfl, fun _ => carries_nil g₁ _⟩
    | false =>
        cases outermost with
        | true => exact ⟨_, rfl, fun h => absurd h Bool.noConfusion⟩
        | false =>
            have hcarried := (carries_nil g₁ (label (number + 1))).prepend hkeys
              (by rw [List.append_nil]; exact hpaths)
            rw [List.append_nil] at hcarried
            rw [Bool.or_false, if_neg Bool.false_ne_true, passed, hdistinct,
              if_neg Bool.false_ne_true,
              passOutward_bound rfl
                (show (l.bound number source).sourceLabel? = _ from hsource) rfl]
            exact ⟨_, rfl, fun _ => hcarried⟩

/-! ### Hoisting through all levels -/

theorem hoistKeys_bound (source : String) (keys : List SortKey) :
    hoistKeys false (keys.map (·.bound source)) = pure (keys.map (·.bound source)) := by
  rw [← map_boundKey_entry]
  exact hoistKeys_boundKey source _

theorem hoistOption_filter (source : String) (filter : Option (Conjunction FieldChain)) :
    hoistOption false (filter.map (·.bound source)) = pure (filter.map (·.bound source)) := by
  cases filter with
  | none => rw [Option.map_none, hoistOption]
  | some c => rw [Option.map_some, hoistOption, Conjunction.hoist_bound, pure_bind]

theorem hoistOption_count (count : Option Int32) :
    hoistOption false (count.map countClause) = pure (count.map countClause) := by
  cases count with
  | none => rw [Option.map_none, hoistOption]
  | some n => rw [Option.map_some, hoistOption, countClause, Expr.hoist, pure_bind]

/-- The clauses of a level hold no keys of their own, so that hoisting is hoisting in the
    source and then the step of the level. -/
theorem hoist_level (outermost : Bool) (l : Level) (number : Nat) {source source' : Expr}
    {g g' : Gathering} (hsource : (source.hoist false).run g = (source', g')) :
    ((l.bound number source).hoist outermost).run g =
      ((l.bound number source').receive outermost).run g' := by
  unfold Level.bound Select.hoist
  simp only [hoistOption, hoistOption_filter, hoistGroup, hoistNamed, hoistKeys_bound,
    hoistOption_count, pure_bind, bind_assoc, StateT.run_bind, hsource]
  rfl

/-- After levels their keys are carried, over the rows of the outermost of them. -/
theorem hoist_boundSource {c : Collection} (hc : c.label = label 0) (ls : List Level)
    (hpaths : ((ls.flatMap Level.keys).map fun k => k.field.path).Nodup) :
    ∃ g, ((boundSource c ls).hoist false).run {} = (hoistedSource c ls, g) ∧
      Carries g (label ls.length) (passed ls) := by
  induction ls with
  | nil =>
      refine ⟨{}, ?_, carries_nil {} _⟩
      rw [boundSource, Expr.hoist]
      rfl
  | cons l rest ih =>
      rw [List.flatMap_cons, List.map_append] at hpaths
      rcases ih hpaths.of_append_right with ⟨g, hg, hcarries⟩
      -- The keys that are passed are some of those of the levels inside, so they differ as well.
      have hown : ((l.keys ++ passed rest).map fun k => k.field.path).Nodup := by
        rw [List.map_append]
        exact hpaths.sublist ((List.Sublist.refl _).append ((passed_sublist rest).map _))
      rcases receive_bound false (rowsLabel?_hoistedSource hc rest) hcarries hown with
        ⟨g', hreceive, hpassed⟩
      refine ⟨g', ?_, hpassed rfl⟩
      rw [boundSource, Expr.hoist, StateT.run_bind, hoist_level false l rest.length hg, hreceive]
      rfl

/-- Hoisting gives every level the keys it asks for. -/
theorem hoistOrder_bound {c : Collection} (hc : c.label = label 0) (ls : Levels)
    (hpaths : ((ls.all.flatMap Level.keys).map fun k => k.field.path).Nodup) :
    (Expr.select (ls.outermost.bound ls.inner.length (boundSource c ls.inner))).hoistOrder =
      .select ((ls.outermost.bound ls.inner.length (hoistedSource c ls.inner)).withOrder
        ((ls.outermost.asked true ls.inner).map (·.bound (label ls.inner.length)))) := by
  rw [Levels.all, List.flatMap_cons, List.map_append] at hpaths
  rcases hoist_boundSource hc ls.inner hpaths.of_append_right with ⟨g, hg, hcarries⟩
  have hown : ((ls.outermost.keys ++ passed ls.inner).map fun k => k.field.path).Nodup := by
    rw [List.map_append]
    exact hpaths.sublist ((List.Sublist.refl _).append ((passed_sublist ls.inner).map _))
  rcases receive_bound true (rowsLabel?_hoistedSource hc ls.inner) hcarries hown with
    ⟨g', hreceive, _⟩
  rw [Expr.hoistOrder, Expr.hoist, StateT.run_bind,
    hoist_level true ls.outermost ls.inner.length hg, hreceive]
  rfl

end DocumentMapper
