import DocumentMapper.Proofs.Query.Plan

/-!
# Calls in a suitable order

Applying calls one after another is filtering first, sorting then, and taking and
dropping rows last only if the calls come in a suitable order. `Phase` goes through the
calls and keeps apart what a further call may be. Rows can be filtered and sorted until
the first skip or take. A further key belongs right after the key that it refines, since
it goes to the outermost level and counts more there than the keys inside. Duplicates are
not removed by a flat query, and so they cannot be asked to be.

Calls that come so are `WellOrdered`, and nothing is lost in their translation. The
reason is in what sorting commutes with: filters can be exchanged with it, and a sort
after another one puts its keys in front (`Follows.next`).

## Main definitions

* `Phase`, `Phase.next?`: What came before a call, and which calls may come next.
* `WellOrdered`: Calls each of which may come where it comes.
* `Follows`: What holds of well-ordered calls after each of them.

## Theorems

* `sortByKeys_sortByKeys`, `sortByKeys_refine`: Sorting sorted rows.
* `Follows.next`: One call.
* `follows`: All calls.
* `inOrder_eq_allAtOnce`: Well-ordered calls can be applied all at once.
-/

namespace DocumentMapper

/-- What the calls so far allow to come next. -/
inductive Phase where
  /-- Nothing was sorted yet. -/
  | unordered
  /-- The last call sorted the rows. -/
  | ordering
  /-- The rows were sorted, and filtered since then. -/
  | ordered
  /-- Rows were taken or dropped by their number. -/
  | windowed
deriving DecidableEq, Repr

/-- The phase after a call, if a call of this kind may come in this one. -/
def Phase.next? : Phase → CallKind → Option Phase
  | _, .distinct => none
  | _, .skip => some windowed
  | _, .take => some windowed
  | windowed, _ => none
  | unordered, .filter => some unordered
  | _, .filter => some ordered
  | _, .orderBy => some ordering
  | ordered, .thenBy => none
  | _, .thenBy => some ordering

/-- The phase after calls, if each of them may come where it comes. -/
def phase? (kinds : List CallKind) : Option Phase :=
  kinds.foldl (fun phase kind => phase.bind (·.next? kind)) (some .unordered)

/-- All filters and sorts come before all skips and takes, further keys right after the
    keys they refine, and no duplicates are removed. -/
def WellOrdered (kinds : List CallKind) : Prop :=
  (phase? kinds).isSome = true

instance (kinds : List CallKind) : Decidable (WellOrdered kinds) :=
  inferInstanceAs (Decidable ((phase? kinds).isSome = true))

section Sorting

variable {order : Value → Value → Ordering} [Std.TransCmp order]

theorem filter_sortByKeys (p : Document → Bool) (keys : List SortKey) (rows : List Document) :
    (sortByKeys order keys rows).filter p = sortByKeys order keys (rows.filter p) :=
  filter_sortBy p rows

/-- Sorting sorted rows is sorting by all keys, the later ones first. -/
theorem sortByKeys_sortByKeys (keys keys' : List SortKey) (rows : List Document) :
    sortByKeys order keys' (sortByKeys order keys rows) =
      sortByKeys order (keys' ++ keys) rows := by
  unfold sortByKeys
  rw [sortBy_sortBy, lexicographic_append]

/-- Keys that are there already need not be repeated when they are refined. -/
theorem sortByKeys_refine (keys inner : List SortKey) (k : SortKey) (rows : List Document) :
    sortByKeys order (keys ++ [k]) (sortByKeys order (keys ++ inner) rows) =
      sortByKeys order ((keys ++ [k]) ++ inner) rows := by
  have hrepeated : ∀ cmp cmp' cmp'' : Document → Document → Ordering,
      compareLex (compareLex cmp cmp') (compareLex cmp cmp'') =
        compareLex (compareLex cmp cmp') cmp'' := by
    intro cmp cmp' cmp''
    funext a b
    unfold compareLex
    cases cmp a b <;> rfl
  unfold sortByKeys
  rw [sortBy_sortBy, lexicographic_append keys inner, lexicographic_append _ inner,
    lexicographic_append keys [k], hrepeated]

end Sorting

/-! ### One more call -/

theorem phase?_concat (kinds : List CallKind) (kind : CallKind) :
    phase? (kinds ++ [kind]) = (phase? kinds).bind (·.next? kind) := by
  unfold phase?
  rw [List.foldl_concat]

theorem progress_concat (order : Value → Value → Ordering) (calls : List Call) (call : Call)
    (rows : List Document) :
    progress order (calls ++ [call]) rows = call.step order (progress order calls rows) := by
  unfold progress
  rw [List.foldl_concat]

theorem cutAll_concat {α : Type} (calls : List Call) (call : Call) (items : List α) :
    cutAll (calls ++ [call]) items = call.cut (cutAll calls items) := by
  unfold cutAll
  rw [List.foldl_concat]

theorem kept_concat (calls : List Call) (call : Call) (rows : List Document) :
    kept (calls ++ [call]) rows = (kept calls rows).filter (call.keeps ·) := by
  unfold kept
  rw [List.filter_filter]
  refine List.filter_congr ?_
  intro row _
  rw [List.all_append, List.all_cons, List.all_nil, Bool.and_true, Bool.and_comm]

theorem kept_concat_of_keeps (calls : List Call) {call : Call} (h : ∀ row, call.keeps row = true)
    (rows : List Document) : kept (calls ++ [call]) rows = kept calls rows := by
  rw [kept_concat, List.filter_eq_self]
  exact fun row _ => h row

/-- What holds after well-ordered calls in some phase: the rows are those that are left
    if all was done at once, and a further key refines the keys of the outermost level. -/
structure Follows (order : Value → Value → Ordering) (rows : List Document) (calls : List Call)
    (phase : Phase) : Prop where
  rows_eq : (progress order calls rows).rows =
    cutAll calls (sortByKeys order (passed (levels calls).all) (kept calls rows))
  settled : Settled (passed (levels calls).all) (levels calls).all
  noWindow : phase ≠ .windowed → (levels calls).all.any Level.isWindow = false
  cut_eq : phase ≠ .windowed → ∀ items : List Document, cutAll calls items = items
  keys_eq : phase = .unordered ∨ phase = .ordering →
    (progress order calls rows).keys = (levels calls).outermost.keys
  passed_nil : phase = .unordered → passed (levels calls).all = []

namespace Follows

variable {order : Value → Value → Ordering} {rows : List Document} {calls : List Call}
  {phase phase' : Phase}

theorem start : Follows order rows [] .unordered where
  rows_eq := by
    have hkept : kept [] rows = rows := List.filter_eq_self.mpr fun _ _ => rfl
    rw [hkept]
    exact (sortBy_nil rows).symm
  settled := ⟨rfl, fun _ => .inl rfl, trivial⟩
  noWindow _ := rfl
  cut_eq _ _ := rfl
  keys_eq _ := rfl
  passed_nil _ := rfl

theorem passed_eq (h : Follows order rows calls phase) :
    passed (levels calls).all = (levels calls).outermost.keys ++ passed (levels calls).inner := by
  have hdistinct : (levels calls).outermost.distinct = false := h.settled.1
  rw [Levels.all, passed, hdistinct]
  rfl

/-- Before the first skip or take no level asks for keys. -/
theorem settled_of_phase (h : Follows order rows calls phase) (hphase : phase ≠ .windowed)
    (keys : List SortKey) : Settled keys (levels calls).all :=
  h.settled.of_no_window (h.noWindow hphase)

/-- A level without keys passes on what is inside. -/
theorem passed_push {call : Call} {l : Level}
    (hlevels : call.onLevels (levels calls) = (levels calls).push l) (hkeys : l.keys = [])
    (hdistinct : l.distinct = false) :
    passed (levels (calls ++ [call])).all = passed (levels calls).all := by
  rw [levels_concat, hlevels, Levels.push, Levels.all, passed, hdistinct, hkeys]
  rfl

-- Taking and dropping rows comes last in both readings.
theorem window (h : Follows order rows calls phase) {call : Call} {l : Level}
    (hlevels : call.onLevels (levels calls) = (levels calls).push l) (hkeys : l.keys = [])
    (hdistinct : l.distinct = false) (hkeeps : ∀ row, call.keeps row = true)
    (hstep : ∀ s, (call.step order s).rows = call.cut s.rows) :
    Follows order rows (calls ++ [call]) .windowed where
  rows_eq := by
    -- A window neither sorts nor merges rows, so the keys from inside go on as they are.
    have hpassed := passed_push hlevels hkeys hdistinct
    rw [progress_concat, cutAll_concat, kept_concat_of_keeps calls hkeeps, hpassed, hstep,
      h.rows_eq]
  settled := by
    have hpassed := passed_push hlevels hkeys hdistinct
    have hsettled := h.settled
    rw [← hpassed] at hsettled
    rw [levels_concat, hlevels] at hsettled ⊢
    exact ⟨hdistinct, fun _ => .inr rfl, hsettled⟩
  noWindow hphase := absurd rfl hphase
  cut_eq hphase := absurd rfl hphase
  keys_eq hphase := by rcases hphase with hphase | hphase <;> cases hphase
  passed_nil hphase := by cases hphase

variable [Std.TransCmp order]

-- Sorted rows stay sorted if some are left out.
theorem filter (h : Follows order rows calls phase) (c : Conjunction FieldChain)
    (hphase : phase ≠ .windowed)
    (hunordered : phase' = .unordered → phase = .unordered) (hordering : phase' ≠ .ordering) :
    Follows order rows (calls ++ [.filter c]) phase' where
  rows_eq := by
    rw [progress_concat, cutAll_concat, kept_concat, ← filter_sortByKeys, levels_concat]
    simp only [Call.step, Call.cut, h.rows_eq, h.cut_eq hphase]
    rfl
  settled := by
    rw [levels_concat]
    exact ⟨rfl, nofun, h.settled⟩
  noWindow _ := by
    rw [levels_concat]
    exact h.noWindow hphase
  cut_eq _ items := by
    rw [cutAll_concat, h.cut_eq hphase]
    rfl
  keys_eq hphase' := by
    have hnil := h.passed_nil (hunordered (hphase'.resolve_right hordering))
    have hkeys := h.keys_eq (.inl (hunordered (hphase'.resolve_right hordering)))
    rw [h.passed_eq, List.append_eq_nil_iff] at hnil
    rw [progress_concat, levels_concat]
    exact hkeys.trans hnil.1
  passed_nil hphase' := by
    rw [levels_concat]
    exact h.passed_nil (hunordered hphase')

-- The new key comes in front of all others.
theorem orderBy (h : Follows order rows calls phase) (k : SortKey) (hphase : phase ≠ .windowed) :
    Follows order rows (calls ++ [.orderBy k]) .ordering where
  rows_eq := by
    rw [progress_concat, cutAll_concat, kept_concat_of_keeps calls fun _ => rfl, levels_concat]
    simp only [Call.step, Call.cut, h.rows_eq, h.cut_eq hphase, sortByKeys_sortByKeys]
    rfl
  settled := by
    rw [levels_concat]
    exact ⟨rfl, nofun, h.settled_of_phase hphase _⟩
  noWindow _ := by
    rw [levels_concat]
    exact h.noWindow hphase
  cut_eq _ items := by
    rw [cutAll_concat, h.cut_eq hphase]
    rfl
  keys_eq _ := by
    rw [progress_concat, levels_concat]
    rfl
  passed_nil hphase' := by cases hphase'

-- The keys that are refined are those of the outermost level, which come first.
theorem thenBy (h : Follows order rows calls phase) (k : SortKey) (hphase : phase ≠ .windowed)
    (hkeys : phase = .unordered ∨ phase = .ordering) :
    Follows order rows (calls ++ [.thenBy k]) .ordering where
  rows_eq := by
    -- The further key is behind those of its own level and before those passed from inside.
    have hpassed : passed (levels (calls ++ [.thenBy k])).all =
        ((levels calls).outermost.keys ++ [k]) ++ passed (levels calls).inner := by
      have hdistinct : (levels calls).outermost.distinct = false := h.settled.1
      rw [levels_concat, Call.onLevels, Levels.all, passed, hdistinct]
      rfl
    rw [progress_concat, cutAll_concat, kept_concat_of_keeps calls fun _ => rfl, hpassed]
    simp only [Call.step, Call.cut, h.rows_eq, h.cut_eq hphase, h.keys_eq hkeys, h.passed_eq,
      sortByKeys_refine]
  settled := by
    have hwindow := h.noWindow hphase
    rw [Levels.all, List.any_cons, Bool.or_eq_false_iff] at hwindow
    rw [levels_concat]
    refine ⟨h.settled.1, ?_, (h.settled_of_phase hphase _).2.2⟩
    intro hl
    exact absurd (hwindow.1.symm.trans hl) Bool.false_ne_true
  noWindow _ := by
    rw [levels_concat]
    exact h.noWindow hphase
  cut_eq _ items := by
    rw [cutAll_concat, h.cut_eq hphase]
    rfl
  keys_eq _ := by
    rw [progress_concat, levels_concat, Call.step, h.keys_eq hkeys]
    rfl
  passed_nil hphase' := by cases hphase'

/-- One more call that may come next. -/
theorem next (h : Follows order rows calls phase) {call : Call}
    (hnext : phase.next? call.kind = some phase') :
    Follows order rows (calls ++ [call]) phase' := by
  cases call with
  | skip count =>
      have hphase : phase' = .windowed := by cases phase <;> exact (Option.some.inj hnext).symm
      rw [hphase]
      exact h.window rfl rfl rfl (fun _ => rfl) fun _ => rfl
  | take count =>
      have hphase : phase' = .windowed := by cases phase <;> exact (Option.some.inj hnext).symm
      rw [hphase]
      exact h.window rfl rfl rfl (fun _ => rfl) fun _ => rfl
  | distinct => cases phase <;> cases hnext
  | filter c =>
      -- In the last phase only windows may follow, and the other phases differ in what keys may be
      -- added.
      cases phase with
      | unordered => cases hnext; exact h.filter c nofun (fun _ => rfl) nofun
      | ordering => cases hnext; exact h.filter c nofun nofun nofun
      | ordered => cases hnext; exact h.filter c nofun nofun nofun
      | windowed => cases hnext
  | orderBy k =>
      cases phase with
      | unordered => cases hnext; exact h.orderBy k nofun
      | ordering => cases hnext; exact h.orderBy k nofun
      | ordered => cases hnext; exact h.orderBy k nofun
      | windowed => cases hnext
  | thenBy k =>
      cases phase with
      | unordered => cases hnext; exact h.thenBy k nofun (.inl rfl)
      | ordering => cases hnext; exact h.thenBy k nofun (.inr rfl)
      | ordered => cases hnext
      | windowed => cases hnext

end Follows

/-- What holds after well-ordered calls. -/
theorem follows {order : Value → Value → Ordering} [Std.TransCmp order] (rows : List Document)
    (calls : List Call) :
    ∀ {phase}, phase? (calls.map Call.kind) = some phase → Follows order rows calls phase := by
  induction calls using List.reverseRecOn with
  | nil =>
      intro phase h
      rw [← Option.some.inj h]
      exact Follows.start
  | append_singleton calls call ih =>
      intro phase h
      rw [List.map_append, List.map_cons, List.map_nil, phase?_concat] at h
      rcases Option.bind_eq_some_iff.mp h with ⟨before, hbefore, hnext⟩
      exact (ih hbefore).next hnext

/-- Rows on which all keys have values are compared by what is at their paths. -/
theorem lexicographic_entries {order : Value → Value → Ordering} {keys : List SortKey}
    {a b : Document}
    (h : ∀ row ∈ [a, b], ∀ k ∈ keys, ∃ v, (k.field.on rowParameter).evaluate (some row) = .ok v) :
    lexicographic (comparePath order) (keys.map SortKey.entry) a b =
      lexicographic (SortKey.compare order) keys a b := by
  refine lexicographic_congr ?_
  rw [List.forall₂_map_left_iff, List.forall₂_same]
  intro k hk
  rcases h a (by simp) k hk with ⟨v, hv⟩
  rcases h b (by simp) k hk with ⟨w, hw⟩
  unfold SortKey.entry comparePath SortKey.compare Direction.compareBy
  rw [k.read_eq hv, k.read_eq hw]

/-- On rows on which all keys have values, sorting by keys is sorting by their paths. -/
theorem sortByPaths_entries {order : Value → Value → Ordering} [Std.TransCmp order]
    {keys : List SortKey} {rows : List Document}
    (h : ∀ row ∈ rows, ∀ k ∈ keys, ∃ v, (k.field.on rowParameter).evaluate (some row) = .ok v) :
    sortByPaths order (keys.map SortKey.entry) rows = sortByKeys order keys rows := by
  refine sortBy_congr ?_
  intro a ha b hb
  refine lexicographic_entries ?_
  intro row hrow
  rcases List.mem_pair.mp hrow with rfl | rfl
  · exact h _ ha
  · exact h _ hb

/-- Applying well-ordered calls one after another is doing all of it at once. -/
theorem WellOrdered.inOrder_eq {order : Value → Value → Ordering} [Std.TransCmp order]
    {calls : List Call} (h : WellOrdered (calls.map Call.kind)) (hpaths : (sortPaths calls).Nodup)
    {rows : List Document} (hrows : Evaluate calls rows) :
    inOrder order calls rows = allAtOnce order calls rows := by
  rcases Option.isSome_iff_exists.mp h with ⟨phase, hphase⟩
  have hfollows : Follows order rows calls phase := follows rows calls hphase
  have hkeys := hfollows.settled.flatKeys_eq (nodup_passed hpaths)
  unfold inOrder allAtOnce
  rw [hfollows.rows_eq, hkeys, sortByPaths_entries]
  intro row hrow k hk
  -- A key that is passed is that of a call, and the calls can be evaluated on every row.
  rcases mem_calls_of_mem_passed hk with ⟨call, hcall, hkey⟩
  have hvalue := hrows row (List.mem_filter.mp hrow).1 call hcall
  cases call with
  | orderBy k' =>
      rw [← Option.some.inj hkey]
      exact hvalue
  | thenBy k' =>
      rw [← Option.some.inj hkey]
      exact hvalue
  | _ => cases hkey

end DocumentMapper
