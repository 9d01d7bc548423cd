import DocumentMapper.Proofs.Query.LevelFree
import DocumentMapper.Proofs.Query.SubqueryFree

/-!
# What subqueries tell

What is gathered within a subquery is kept apart from what is gathered around it. So two
expressions that differ within subqueries only are hoisted to expressions that differ
within subqueries only: outside of them every level gets the same keys and declares fields
of the same names.

One thing has to be taken care of. A level that declares its fields gives a key the name of
the field that has the same expression, and compares whole expressions for that, the
insides of subqueries too. If there is a subquery in a key then what is in the subqueries
of the fields decides whether the key has a name. This does not come up in a level whose
keys hold no subqueries, nor in one whose fields do not differ (`Select.KeysSettled`).

## Main definitions

* `Select.KeysSettled`: The keys of a level are compared with its fields in the same way.
* `Select.Around`: Levels that differ within subqueries only.

## Theorems

* `declaredName?_around`: A key has the same name among fields that differ in subqueries.
* `Around.passOutward`, `Around.receive`, `Select.hoist_around`: One level.
* `SameAround.hoist_around`, `hoistOrder_around`: All levels.
* `ranked_by_friends`: A subquery that names a key.
-/

namespace DocumentMapper

/-! ### Expressions that differ within subqueries -/

namespace Expr.SameAround

variable {levels : Select → Select → Prop} {e e' : Expr}

theorem refl (h : ∀ s, levels s s) (e : Expr) : SameAround levels e e := by
  induction e using Expr.induct with
  | step e ih => exact .rebuilt (fun _ _ hp => hp) (.same ih) (rel_same fun s _ => h s)

theorem rowsLabel?_eq (h : SameAround levels e e') : e.rowsLabel? = e'.rowsLabel? := by
  cases h with
  | subquery s s' => rfl
  | rebuilt parts form level =>
      cases form with
      | select clauses => exact congrArg some clauses.label
      | _ => rfl

/-- Expressions without subqueries do not differ. -/
theorem eq_of_free (h : SameAround levels e e') (hfree : e.SubqueryFree) : e = e' := by
  induction h with
  | subquery s s' => exact absurd .self (hfree s)
  | rebuilt _ form _ ih =>
      have hparts := (subqueryFree_iff.mp hfree).2
      exact (form.imp_of_parts (parts_iff.mpr fun p hp q hR => ih p q hR (hparts p hp))).eq

theorem free_of_free (h : SameAround levels e e') (hfree : e'.SubqueryFree) : e.SubqueryFree := by
  induction h with
  | subquery s s' => exact absurd .self (hfree s')
  | rebuilt _ form _ ih =>
      rcases subqueryFree_iff.mp hfree with ⟨hform, hparts⟩
      refine subqueryFree_iff.mpr ⟨form.isSubquery_eq.trans hform, fun p hp => ?_⟩
      rcases exists_right_of_forall₂ form.parts hp with ⟨q, hq, hR⟩
      exact ih p q hR (hparts q hq)

/-- An expression without subqueries equals both of them or neither. -/
theorem equals_free (h : SameAround levels e e') {k : Expr} (hk : k.SubqueryFree) :
    (e == k) = (e' == k) := by
  have hsame : Equal e k ∨ Equal e' k → e = e' := by
    rintro (hequal | hequal)
    · exact h.eq_of_free (hk.of_equals hequal)
    · exact h.eq_of_free (h.free_of_free (hk.of_equals hequal))
  rw [Bool.eq_iff_iff]
  constructor
  · intro hequal
    rw [← hsame (.inl hequal)]
    exact hequal
  · intro hequal
    rw [hsame (.inr hequal)]
    exact hequal

end Expr.SameAround

/-! ### One level -/

open DocumentMapper.Expr (SameAround)
open Hoisting (around)

section

variable {levels : Select → Select → Prop}

/-- Fields that differ within subqueries give the same name to a key without any. -/
theorem declaredName?_around {fields fields' : List (String × Expr)}
    (h : NamedRelated (SameAround levels) fields fields') {k : Expr}
    (hk : k.SubqueryFree ∨ fields = fields') :
    Select.declaredName? fields k = Select.declaredName? fields' k := by
  rcases hk with hk | rfl
  · unfold Select.declaredName?
    induction h with
    | nil => rfl
    | @cons field field' _ _ hfield _ ih =>
        rw [List.find?_cons, List.find?_cons, hfield.2.equals_free hk]
        cases field'.2 == k with
        | true => exact congrArg some hfield.1
        | false => exact ih
  · rfl

end

namespace Select

/-- Levels with the same keys. -/
def SameKeys (s s' : Select) : Prop :=
  s.order = s'.order

/-- The keys of a level are compared in the same way with the fields it declares: there are
    no subqueries in them, or the fields are the same. -/
def KeysSettled (s s' : Select) : Prop :=
  (∀ key ∈ s.order, key.2.SubqueryFree) ∨ s.fields = s'.fields

/-- Levels whose clauses differ within subqueries only, and whose keys are the same. -/
structure Around (s s' : Select) : Prop where
  clauses : Select.Related (SameAround SameKeys) s s'
  keys : SameKeys s s'

/-- Fields that two levels have declared so far: they differ within subqueries only, and
    not at all if those that the levels came with do not. -/
structure Declared (s s' : Select) (fields fields' : List (String × Expr)) : Prop where
  around : NamedRelated (SameAround SameKeys) fields fields'
  same : s.fields = s'.fields → fields = fields'

variable {s s' : Select}

theorem sameAround_refl (e : Expr) : SameAround SameKeys e e :=
  SameAround.refl (fun s => (rfl : s.order = s.order)) e

theorem Declared.append {fields fields' : List (String × Expr)} (h : Declared s s' fields fields')
    (name : String) (e : Expr) :
    Declared s s' (fields ++ [(name, e)]) (fields' ++ [(name, e)]) where
  around := List.rel_append h.around (.cons ⟨rfl, sameAround_refl e⟩ .nil)
  same hfields := congrArg (· ++ [(name, e)]) (h.same hfields)

namespace Around

/-- Levels stay alike with other keys that are the same and other fields that differ within
    subqueries only. -/
theorem change (h : s.Around s') (order : List (Direction × Expr))
    {fields fields' : List (String × Expr)}
    (hfields : NamedRelated (SameAround SameKeys) fields fields') :
    Select.Around { s.withOrder order with fields := fields }
      { s'.withOrder order with fields := fields' } where
  clauses :=
    { h.clauses with
      fields := hfields
      order := namedRelated_same fun key _ => sameAround_refl key.2 }
  keys := rfl

theorem sourceLabel?_eq (h : s.Around s') : s.sourceLabel? = s'.sourceLabel? :=
  bind_eq_of_rel h.clauses.source fun _ _ hsource => hsource.rowsLabel?_eq

/-- A key becomes the same key over the rows of either level. -/
theorem passKey (h : s.Around s') {fields fields' : List (String × Expr)}
    (hfields : Declared s s' fields fields') {key : Direction × Expr}
    (hkey : key.2.SubqueryFree ∨ s.fields = s'.fields) :
    Declared s s' (s.passKey fields key).1 (s'.passKey fields' key).1 ∧
      (s.passKey fields key).2 = (s'.passKey fields' key).2 := by
  have hdeclared := declaredName?_around hfields.around (hkey.imp_right hfields.same)
  -- Both levels have as many fields, so they take the same branches.
  have hempty : s.fields.isEmpty = s'.fields.isEmpty := by
    rw [Bool.eq_iff_iff, List.isEmpty_iff_length_eq_zero, List.isEmpty_iff_length_eq_zero,
      h.clauses.fields.length_eq]
  unfold Select.passKey
  rw [hdeclared, h.sourceLabel?_eq, h.clauses.label, hempty, hfields.around.length_eq]
  dsimp only
  cases key.2.asField? with
  | some f =>
      dsimp only
      split
      next => exact ⟨hfields, rfl⟩
      next =>
        split
        next => exact ⟨hfields, rfl⟩
        next =>
          split
          next => exact ⟨hfields, rfl⟩
          next => exact ⟨hfields.append _ _, rfl⟩
  | none =>
      dsimp only
      split
      next => exact ⟨hfields, rfl⟩
      next => exact ⟨hfields.append _ _, rfl⟩

/-- So do all keys, and the levels declare fields of the same names for them. -/
theorem passOutward (h : s.Around s') {keys : List (Direction × Expr)}
    (hkeys : ∀ key ∈ keys, key.2.SubqueryFree ∨ s.fields = s'.fields) :
    NamedRelated (SameAround SameKeys) (s.passOutward keys).1 (s'.passOutward keys).1 ∧
      (s.passOutward keys).2 = (s'.passOutward keys).2 := by
  have hpass := List.foldl_rel (f := s.passStep) (g := s'.passStep)
    (r := fun passed passed' => Declared s s' passed.1 passed'.1 ∧ passed.2 = passed'.2)
    (a := (s.fields, [])) (b := (s'.fields, [])) (l := keys) ⟨⟨h.clauses.fields, id⟩, rfl⟩ ?_
  · exact ⟨hpass.1.around, hpass.2⟩
  · rintro key hkey ⟨fields, done⟩ ⟨fields', _⟩ ⟨hfields, rfl⟩
    rcases h.passKey hfields (hkeys key hkey) with ⟨hnext, hsame⟩
    exact ⟨hnext, congrArg (fun passed : Option (Direction × Expr) => done ++ passed.toList) hsame⟩

/-- Both levels take and hand on the same keys. -/
theorem handOn (h : s.Around s') (outermost : Bool) {g : Gathering}
    (hg : ∀ keys ∈ g.keys, ∀ key ∈ keys, key.2.SubqueryFree ∨ s.fields = s'.fields) :
    Select.Around (s.handOn outermost g).1 (s'.handOn outermost g).1 ∧
      (s.handOn outermost g).2 = (s'.handOn outermost g).2 := by
  have hkeys : s.order = s'.order := h.keys
  have hgroup := isSome_eq_of_rel h.clauses.group
  have hskip := isSome_eq_of_rel h.clauses.skip
  have htake := isSome_eq_of_rel h.clauses.take
  unfold Select.handOn
  rw [hkeys, hgroup, hskip, htake, h.clauses.distinct]
  dsimp only
  split
  next keys hgathered =>
    split
    next => exact ⟨h.change _ h.clauses.fields, rfl⟩
    next =>
      rcases h.passOutward (hg keys hgathered) with ⟨hfields, hpassed⟩
      rw [hpassed]
      exact ⟨h.change _ hfields, rfl⟩
  next => exact ⟨h.change _ h.clauses.fields, rfl⟩

theorem receive (h : s.Around s') (hsettled : KeysSettled s s') (outermost : Bool) :
    around.rel Select.Around (s.receive outermost) (s'.receive outermost) := by
  intro g hg
  have hkeys : s.order = s'.order := h.keys
  have hgathered : ∀ keys ∈ (if s.order.isEmpty then g else g.prepend s.order).keys,
      ∀ key ∈ keys, key.2.SubqueryFree ∨ s.fields = s'.fields := by
    intro keys hkeys key hkey
    rcases mem_gathered hg keys hkeys key hkey with hown | hfield
    · exact hsettled.imp_left fun hfree => hfree key hown
    · exact .inl (Expr.subqueryFree_of_asField? hfield)
  have hover := receive_isOverFields outermost s g
  rcases h.handOn outermost hgathered with ⟨hlevel, hsame⟩
  rw [receive_run] at hover
  rw [receive_run, receive_run, ← hkeys]
  exact ⟨hlevel, hsame, hover⟩

end Around

/-- Whether two expressions are hoisted to expressions that differ within subqueries only. -/
abbrev HoistsAround (e e' : Expr) : Prop :=
  ∀ outermost, around.rel (SameAround SameKeys) (e.hoist outermost) (e'.hoist outermost)

/-- The fields of two levels, which are hoisted to the same fields if they are the same. -/
theorem fields_around {fields fields' : List (String × Expr)}
    (h : NamedRelated HoistsAround fields fields') :
    around.rel (fun ms ms' => NamedRelated (SameAround SameKeys) ms ms' ∧
        (fields = fields' → ms = ms'))
      (fields.mapM (traverseNamed (Expr.hoist false)))
      (fields'.mapM (traverseNamed (Expr.hoist false))) := by
  by_cases hsame : fields = fields'
  · subst hsame
    have hfields : NamedRelated (fun e e' => around.rel Eq (e.hoist false) (e'.hoist false))
        fields fields :=
      namedRelated_same fun field _ => around.mono (field.2.hoist_free false) fun _ _ h => h.1
    refine around.mono (around.named (fun _ _ he => he) hfields) fun ms ms' hms => ?_
    have heq := namedRelated_eq hms
    subst heq
    exact ⟨namedRelated_same fun field _ => sameAround_refl field.2, fun _ => rfl⟩
  · exact around.mono (around.named (fun _ _ he => he false) h) fun _ _ hms =>
      ⟨hms, fun heq => absurd heq hsame⟩

/-- The keys of a level are hoisted to the same keys, without subqueries if they had none. -/
theorem keys_around (keys : List (Direction × Expr)) :
    around.rel (fun ks ks' => ks = ks' ∧ ((∀ key ∈ keys, key.2.SubqueryFree) →
        ∀ key ∈ ks, key.2.SubqueryFree))
      (keys.mapM (traverseNamed (Expr.hoist false)))
      (keys.mapM (traverseNamed (Expr.hoist false))) := by
  have hkeys : NamedRelated (fun e e' => around.rel
      (Expr.SameFree (∀ key ∈ keys, key.2.SubqueryFree)) (e.hoist false) (e'.hoist false))
      keys keys :=
    namedRelated_same fun key hkey => key.2.hoist_free.of_free (fun hfree => hfree key hkey) false
  refine around.mono (around.named (fun _ _ he => he) hkeys) fun ks ks' hks =>
    ⟨namedRelated_eq ?_, fun hfree key hkey => ?_⟩
  · exact hks.imp fun _ _ hk => ⟨hk.1, hk.2.1⟩
  · rcases exists_right_of_forall₂ hks hkey with ⟨_, _, hk⟩
    exact hk.2.2 hfree

/-- Hoisting in the clauses of levels that differ within subqueries only. -/
theorem traverse_around (clauses : Select.Related HoistsAround s s') (keys : SameKeys s s')
    (hsettled : KeysSettled s s') :
    around.rel (fun t t' => t.Around t' ∧ KeysSettled t t')
      (s.traverse (Expr.hoist false)) (s'.traverse (Expr.hoist false)) := by
  have step : ∀ e e', HoistsAround e e' →
      around.rel (SameAround SameKeys) (e.hoist false) (e'.hoist false) := fun _ _ he => he false
  have group_step : ∀ es es', List.Forall₂ HoistsAround es es' →
      around.rel (List.Forall₂ (SameAround SameKeys)) (es.mapM (Expr.hoist false))
        (es'.mapM (Expr.hoist false)) := fun _ _ => around.each step
  -- The keys are the same on both sides, and only what they compute has to be followed.
  have hkeys : s.order = s'.order := keys
  unfold Select.traverse
  rw [← hkeys]
  refine around.bind (around.option step clauses.source) fun _ _ source => ?_
  refine around.bind (around.option step clauses.filter) fun _ _ filter => ?_
  refine around.bind (around.option group_step clauses.group) fun _ _ group => ?_
  refine around.bind (fields_around clauses.fields) fun _ _ fields => ?_
  refine around.bind (keys_around s.order) ?_
  rintro order _ ⟨rfl, hfree⟩
  refine around.bind (around.option step clauses.skip) fun _ _ skip => ?_
  refine around.bind (around.option step clauses.take) fun _ _ take => ?_
  refine around.pure ⟨⟨⟨clauses.label, fields.1, source, filter, ?_, group, clauses.distinct, skip,
    take⟩, rfl⟩, ?_⟩
  · exact namedRelated_same fun key _ => sameAround_refl key.2
  · exact hsettled.imp hfree fields.2

/-- Hoisting of levels that differ within subqueries only. -/
theorem hoist_around (clauses : Select.Related HoistsAround s s') (keys : SameKeys s s')
    (hsettled : KeysSettled s s') (outermost : Bool) :
    around.rel Select.Around (s.hoist outermost) (s'.hoist outermost) := by
  rw [Select.hoist_eq_traverse, Select.hoist_eq_traverse]
  exact around.bind (traverse_around clauses keys hsettled) fun _ _ h => h.1.receive h.2 outermost

end Select

/-! ### All levels -/

open Select (SameKeys KeysSettled HoistsAround)

theorem Select.Around.select {s s' : Select} (h : s.Around s') :
    SameAround SameKeys (.select s) (.select s') :=
  .rebuilt (fun _ _ hp => hp) (.select h.clauses) (.some h.keys)

theorem Expr.SameAround.order_eq {e e' : Expr} (h : e.SameAround SameKeys e') :
    e.level?.map Select.order = e'.level?.map Select.order := by
  cases h with
  | subquery s s' => rfl
  | rebuilt parts form level =>
      revert level
      generalize e.level? = x
      generalize e'.level? = x'
      intro level
      cases level with
      | none => rfl
      | some hkeys => exact congrArg some hkeys

/-- Hoisting of expressions that differ within subqueries only. -/
theorem Expr.SameAround.hoist_around {e e' : Expr}
    (h : e.SameAround (fun s s' => SameKeys s s' ∧ KeysSettled s s') e') : HoistsAround e e' := by
  induction h with
  | subquery s s' =>
      intro outermost
      rw [Expr.hoist, Expr.hoist]
      exact around.bind (Hoisting.around_apart _ _) fun s s' _ => around.pure (.subquery s s')
  | @rebuilt R e e' parts form level ih =>
      intro outermost
      -- A query is a level with clauses of its own; all else is rebuilt from its parts.
      cases hquery : e.isQuery with
      | false =>
          rw [hoist_eq_traverse outermost hquery,
            hoist_eq_traverse outermost (form.isQuery_eq ▸ hquery)]
          have hparts := around.rebuilt (fun p p' hR => ih p p' hR outermost) form
          refine around.mono hparts fun a a' ha => ?_
          have hform := ha.2.trans hquery
          refine .rebuilt (fun _ _ hp => hp) ha.1 ?_
          rw [level?_of_not_query hform, level?_of_not_query (ha.1.isQuery_eq ▸ hform)]
          exact .none
      | true =>
          cases form with
          | @select s s' clauses =>
              cases level with
              | some hlevel =>
                  rw [Expr.hoist, Expr.hoist]
                  refine around.bind (Select.hoist_around
                    (clauses.imp_of_clauses (Select.clauses_iff.mpr fun p _ => ih p))
                    hlevel.1 hlevel.2 outermost) fun t t' ht => ?_
                  exact around.pure ht.select
          | @projection s s' e e' clauses shape =>
              cases level with
              | some hlevel =>
                  rw [Expr.hoist, Expr.hoist]
                  refine around.bind (Select.hoist_around
                    (clauses.imp_of_clauses (Select.clauses_iff.mpr fun p _ => ih p))
                    hlevel.1 hlevel.2 outermost) fun t t' ht => ?_
                  refine around.bind (ih e e' shape outermost) fun a a' ha => around.pure ?_
                  exact .rebuilt (fun _ _ hp => hp) (.projection ht.clauses ha) (.some ht.keys)
          | @subquery s s' clauses =>
              rw [Expr.hoist, Expr.hoist]
              exact around.bind (Hoisting.around_apart _ _) fun s s' _ =>
                around.pure (.subquery s s')
          | _ => cases hquery

/-- Expressions that differ within subqueries only are hoisted to expressions that differ
    within subqueries only: outside of them the levels have the same keys, and declare
    fields of the same names. So no key from within a subquery is found outside of it. -/
theorem Expr.hoistOrder_around {e e' : Expr}
    (h : e.SameAround (fun s s' => SameKeys s s' ∧ KeysSettled s s') e') :
    e.hoistOrder.SameAround SameKeys e'.hoistOrder :=
  (h.hoist_around true {} (Gathering.isOverFields_of_none rfl)).1

namespace Ranking

/-- The rows of a collection by their names, as a value. -/
def rows (collection : String) : Expr :=
  .subquery { Select.ofSource "c1" (.collection ⟨"c0", "db", collection, .document⟩) with
    order := [(.ascending, .field ⟨"c0", "Name"⟩)] }

/-- People with something that is found for them, sorted by a key. -/
def found (something key : Expr) : Select :=
  { Select.ofSource "t1" (.collection ⟨"t0", "db", "people", .document⟩) with
    fields := [("Found", something)]
    order := [(.descending, key)] }

/-- A level around them. -/
def ranked (something key : Expr) : Select :=
  .ofSource "t2" (.select (found something key))

/-- What is found for people may be in different collections. -/
theorem ranked_around {levels : Select → Select → Prop} (h : ∀ s, levels s s) {key : Expr}
    {collection collection' : String}
    (hfound : levels (found (rows collection) key) (found (rows collection') key))
    (hranked : levels (ranked (rows collection) key) (ranked (rows collection') key)) :
    (Expr.select (ranked (rows collection) key)).SameAround levels
      (.select (ranked (rows collection') key)) := by
  have hclauses : Select.Related (SameAround levels) (found (rows collection) key)
      (found (rows collection') key) :=
    { label := rfl
      fields := .cons ⟨rfl, .subquery _ _⟩ .nil
      source := .some (SameAround.refl h _)
      filter := .none
      order := namedRelated_same fun key _ => SameAround.refl h key.2
      group := .none
      distinct := rfl
      skip := .none
      take := .none }
  have hinside : SameAround levels (.select (found (rows collection) key))
      (.select (found (rows collection') key)) :=
    .rebuilt (fun _ _ hp => hp) (.select hclauses) (.some hfound)
  refine .rebuilt (fun _ _ hp => hp) (.select ?_) (.some hranked)
  exact
    { label := rfl
      fields := .nil
      source := .some hinside
      filter := .none
      order := .nil
      group := .none
      distinct := rfl
      skip := .none
      take := .none }

/-- Sorted by age, all of them are sorted by age. -/
theorem ranked_by_age :
    (Expr.select (ranked (rows "friends") (.field ⟨"t0", "Age"⟩))).hoistOrder.SameAround SameKeys
      (Expr.select (ranked (rows "cities") (.field ⟨"t0", "Age"⟩))).hoistOrder := by
  refine Expr.hoistOrder_around (ranked_around ?_ ⟨rfl, .inl ?_⟩ ⟨rfl, .inr rfl⟩)
  · exact fun s => ⟨rfl, .inr rfl⟩
  · intro key hkey
    rw [List.mem_singleton.mp hkey]
    exact Expr.subqueryFree_of_isLeaf rfl

/-- Sorted by friends, what is found has the name of the key if it is friends, and the key
    gets a name of its own if not. -/
theorem ranked_by_friends :
    (Expr.select (ranked (rows "friends") (rows "friends"))).SameAround SameKeys
        (.select (ranked (rows "cities") (rows "friends"))) ∧
      ¬ (Expr.select (ranked (rows "friends") (rows "friends"))).hoistOrder.SameAround SameKeys
        (Expr.select (ranked (rows "cities") (rows "friends"))).hoistOrder := by
  have hrefl : ∀ s, SameKeys s s := fun s => (rfl : s.order = s.order)
  have hfriends : (Expr.select (ranked (rows "friends") (rows "friends"))).hoistOrder.level?.map
      Select.order = some [(.descending, .field ⟨"t1", "Found"⟩)] := by
    with_unfolding_all rfl
  have hcities : (Expr.select (ranked (rows "cities") (rows "friends"))).hoistOrder.level?.map
      Select.order = some [(.descending, .field ⟨"t1", "_$f1"⟩)] := by
    with_unfolding_all rfl
  refine ⟨ranked_around hrefl rfl rfl, fun h => ?_⟩
  have hsame := h.order_eq
  rw [hfriends, hcities] at hsame
  simp at hsame

end Ranking

end DocumentMapper
