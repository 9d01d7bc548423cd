import DocumentMapper.Proofs.Query.Agreement

/-!
# Expressions without subqueries

An expression in which no subquery stands at any depth equals only expressions without
subqueries, and hoisting leaves it so: the keys that a level takes are its own, and fields
that come from the levels inside it.

## Main definitions

* `Expr.SubqueryFree`: There is no subquery in an expression.
* `Gathering.IsOverFields`: Only fields are gathered.
* `Hoisting.around`: Hoisting that gathers the same, and only fields.

## Theorems

* `equals_parts`: Equal expressions have equal parts.
* `SubqueryFree.of_equals`: What equals an expression without subqueries has none.
* `Expr.hoist_free`: Hoisting puts no subqueries into an expression.
-/

namespace DocumentMapper

namespace Expr

/-- Levels as values. -/
def isSubquery : Expr → Bool
  | subquery _ => true
  | _ => false

/-- There is no subquery in an expression, at any depth. -/
def SubqueryFree (e : Expr) : Prop :=
  ∀ s, ¬ (Expr.subquery s).Within e

theorem subqueryFree_iff {e : Expr} :
    e.SubqueryFree ↔ e.isSubquery = false ∧ ∀ p ∈ e.parts, p.SubqueryFree := by
  constructor
  · intro h
    refine ⟨?_, fun p hp s hs => h s (.part hp hs)⟩
    cases e with
    | subquery s => exact absurd .self (h s)
    | _ => rfl
  · rintro ⟨hform, hparts⟩ s hs
    cases hs with
    | self => cases hform
    | part mem within => exact hparts _ mem s within

theorem subqueryFree_of_isLeaf {e : Expr} (h : e.isLeaf = true) : e.SubqueryFree := by
  refine subqueryFree_iff.mpr ?_
  cases e with
  | constant v | parameter name | field f | rowField path | collection c =>
      exact ⟨rfl, List.forall_mem_nil _⟩
  | _ => cases h

/-- Fields have nothing in them. -/
theorem subqueryFree_of_asField? {e : Expr} (h : e.asField?.isSome = true) : e.SubqueryFree := by
  cases e with
  | field f => exact subqueryFree_of_isLeaf rfl
  | _ => cases h

theorem Rebuilt.isSubquery_eq {R : Expr → Expr → Prop} {e e' : Expr} (h : Rebuilt R e e') :
    e.isSubquery = e'.isSubquery := by
  cases h <;> rfl

/-! ### What equals an expression -/

/-- Equality of expressions as a relation. -/
abbrev Equal (e e' : Expr) : Prop :=
  e.equals e' = true

end Expr

section

open DocumentMapper.Expr (Equal)

theorem forall₂_of_optionEquals {x y : Option Expr} (h : optionEquals x y = true) :
    List.Forall₂ Equal x.toList y.toList := by
  cases x <;> cases y <;> simp only [optionEquals, Bool.false_eq_true] at h
  · exact .nil
  · exact .cons h .nil

/-- A test that compares lists item by item. -/
theorem forall₂_of_test {α : Type} {test : List α → List α → Bool} {R : α → α → Prop}
    (nil_cons : ∀ b bs, test [] (b :: bs) = false) (cons_nil : ∀ a as, test (a :: as) [] = false)
    (cons_cons : ∀ a as b bs, test (a :: as) (b :: bs) = true → R a b ∧ test as bs = true)
    {as : List α} : ∀ {bs : List α}, test as bs = true → List.Forall₂ R as bs := by
  induction as with
  | nil =>
      intro bs h
      cases bs with
      | nil => exact .nil
      | cons b bs => exact absurd ((nil_cons b bs).symm.trans h) Bool.false_ne_true
  | cons a as ih =>
      intro bs h
      cases bs with
      | nil => exact absurd ((cons_nil a as).symm.trans h) Bool.false_ne_true
      | cons b bs =>
          rcases cons_cons a as b bs h with ⟨hab, hrest⟩
          exact .cons hab (ih hrest)

theorem forall₂_of_listEquals {es fs : List Expr} (h : listEquals es fs = true) :
    List.Forall₂ Equal es fs := by
  refine forall₂_of_test (fun _ _ => by simp [listEquals]) (fun _ _ => by simp [listEquals]) ?_ h
  intro a as b bs hcons
  rwa [listEquals, Bool.and_eq_true] at hcons

theorem forall₂_of_namedEquals {ms ns : List (String × Expr)} (h : namedEquals ms ns = true) :
    List.Forall₂ Equal (ms.map Prod.snd) (ns.map Prod.snd) := by
  refine forall₂_map_snd (forall₂_of_test (fun _ _ => by simp [namedEquals])
    (fun _ _ => by simp [namedEquals]) ?_ h)
  intro a as b bs hcons
  rwa [namedEquals, Bool.and_eq_true, Bool.and_eq_true, decide_eq_true_eq] at hcons

theorem forall₂_of_orderEquals {ks ls : List (Direction × Expr)} (h : orderEquals ks ls = true) :
    List.Forall₂ Equal (ks.map Prod.snd) (ls.map Prod.snd) := by
  refine forall₂_map_snd (forall₂_of_test (fun _ _ => by simp [orderEquals])
    (fun _ _ => by simp [orderEquals]) ?_ h)
  intro a as b bs hcons
  rwa [orderEquals, Bool.and_eq_true, Bool.and_eq_true, decide_eq_true_eq] at hcons

theorem forall₂_of_groupEquals {x y : Option (List Expr)} (h : groupEquals x y = true) :
    List.Forall₂ Equal (x.getD []) (y.getD []) := by
  cases x <;> cases y <;> simp only [groupEquals, Bool.false_eq_true] at h
  · exact .nil
  · exact forall₂_of_listEquals h

/-- Equal levels have equal clauses. -/
theorem Select.equals_clauses {s s' : Select} (h : s.equals s' = true) :
    List.Forall₂ Equal s.clauses s'.clauses := by
  rcases s with ⟨label, fields, source, filter, order, group, distinct, skip, take⟩
  rcases s' with ⟨label', fields', source', filter', order', group', distinct', skip', take'⟩
  simp only [Select.equals, Bool.and_eq_true] at h
  rcases h with ⟨⟨⟨⟨⟨⟨⟨⟨_, hfields⟩, hsource⟩, hfilter⟩, horder⟩, hgroup⟩, _⟩, hskip⟩, htake⟩
  unfold Select.clauses
  refine List.rel_append (forall₂_of_optionEquals hsource) ?_
  refine List.rel_append (forall₂_of_optionEquals hfilter) ?_
  refine List.rel_append (forall₂_of_groupEquals hgroup) ?_
  refine List.rel_append (forall₂_of_namedEquals hfields) ?_
  refine List.rel_append (forall₂_of_orderEquals horder) ?_
  exact List.rel_append (forall₂_of_optionEquals hskip) (forall₂_of_optionEquals htake)

end

namespace Expr

/-- Equal expressions have equal parts. -/
theorem equals_parts {e k : Expr} (h : Equal e k) :
    e.isSubquery = k.isSubquery ∧ List.Forall₂ Equal e.parts k.parts := by
  unfold Equal at h
  cases e with
  | constant v | parameter name | field f | rowField path | collection c =>
      cases k <;> first | exact ⟨rfl, .nil⟩ | simp [equals] at h
  | member e name =>
      cases k <;> simp [equals] at h
      exact ⟨rfl, .cons h.1 .nil⟩
  | unary op e =>
      cases k <;> simp [equals] at h
      exact ⟨rfl, .cons h.2 .nil⟩
  | binary op l r =>
      cases k <;> simp [equals] at h
      exact ⟨rfl, .cons h.1.2 (.cons h.2 .nil)⟩
  | call method receiver arguments =>
      cases k <;> simp [equals] at h
      exact ⟨rfl, List.rel_append (forall₂_of_optionEquals h.1.2) (forall₂_of_listEquals h.2)⟩
  | object members =>
      cases k <;> simp [equals] at h
      exact ⟨rfl, forall₂_of_namedEquals h⟩
  | aggregate kind argument distinct =>
      cases k <;> simp [equals] at h
      exact ⟨rfl, forall₂_of_optionEquals h.1.2⟩
  | select s =>
      cases k <;> simp [equals] at h
      exact ⟨rfl, Select.equals_clauses h⟩
  | subquery s =>
      cases k <;> simp [equals] at h
      exact ⟨rfl, Select.equals_clauses h⟩
  | projection s e =>
      cases k <;> simp [equals] at h
      exact ⟨rfl, List.rel_append (Select.equals_clauses h.1) (.cons h.2 .nil)⟩

/-- What equals an expression without subqueries has none either. -/
theorem SubqueryFree.of_equals {e : Expr} :
    ∀ {k : Expr}, k.SubqueryFree → Equal e k → e.SubqueryFree := by
  induction e using Expr.induct with
  | step e ih =>
      intro k hk h
      rcases equals_parts h with ⟨hform, hparts⟩
      rcases subqueryFree_iff.mp hk with ⟨hk, hkparts⟩
      refine subqueryFree_iff.mpr ⟨hform.trans hk, fun p hp => ?_⟩
      rcases exists_right_of_forall₂ hparts hp with ⟨q, hq, hequal⟩
      exact parts_iff.mp ih p hp (hkparts q hq) hequal

end Expr

/-! ### Hoisting that gathers the same -/

/-- All keys that are gathered are fields. -/
def Gathering.IsOverFields (g : Gathering) : Prop :=
  ∀ keys ∈ g.keys, ∀ key ∈ keys, key.2.asField?.isSome = true

theorem Gathering.isOverFields_of_none {g : Gathering} (h : g.keys = none) : g.IsOverFields := by
  intro keys hkeys
  rw [h] at hkeys
  cases hkeys

theorem Gathering.isOverFields_of_boundKey {g : Gathering} {source : String}
    {entries : List (String × Direction)} (h : g.keys.getD [] = entries.map (boundKey source)) :
    g.IsOverFields := by
  intro keys hkeys key hkey
  rw [Option.mem_def.mp hkeys, Option.getD_some] at h
  rw [h] at hkey
  rcases List.mem_map.mp hkey with ⟨entry, _, rfl⟩
  rfl

/-- Hoisting with related results that gathers the same, from any fields. -/
def Hoisting.around : Relator Hoisting where
  rel R x y := ∀ g : Gathering, g.IsOverFields →
    R (x.run g).1 (y.run g).1 ∧ (x.run g).2 = (y.run g).2 ∧ (x.run g).2.IsOverFields
  pure h _ hg := ⟨h, rfl, hg⟩
  bind := by
    intro α β γ δ R S x y f k h hfk g hg
    rcases h g hg with ⟨hR, hsame, hover⟩
    have hright : (y >>= k).run g = (k (y.run g).1).run (x.run g).2 := by
      rw [hsame]
      rfl
    rw [hright]
    exact hfk _ _ hR _ hover

/-- What is hoisted apart leaves what is gathered around it. -/
theorem Hoisting.around_apart {α β : Type} (x : Hoisting α) (y : Hoisting β) :
    Hoisting.around.rel (fun _ _ => True) (apart x) (apart y) :=
  fun _ hg => ⟨trivial, rfl, hg⟩

/-! ### Expressions without subqueries -/

namespace Select

/-- What is gathered at a level are keys of the level and fields. -/
theorem mem_gathered {s : Select} {g : Gathering} (hg : g.IsOverFields) :
    ∀ keys ∈ (if s.order.isEmpty then g else g.prepend s.order).keys, ∀ key ∈ keys,
      key ∈ s.order ∨ key.2.asField?.isSome = true := by
  intro keys hkeys key hkey
  split at hkeys
  next => exact .inr (hg keys hkeys key hkey)
  next =>
    unfold Gathering.prepend at hkeys
    rw [← Option.some.inj hkeys] at hkey
    -- A key at hand is one of the level itself, or it was gathered inside.
    rcases mem_foldr_push hkey with hown | hstart
    · exact .inl hown
    · right
      cases hgathered : g.keys with
      | none =>
          rw [hgathered] at hstart
          cases hstart
      | some gathered =>
          rw [hgathered] at hstart
          exact hg gathered hgathered key hstart

/-- What a level hands on are fields. -/
theorem receive_isOverFields (outermost : Bool) (s : Select) (g : Gathering) :
    ((s.receive outermost).run g).2.IsOverFields := by
  rw [receive_run]
  cases outermost with
  | true => exact Gathering.isOverFields_of_none (keys_handOn_outermost _ _)
  | false =>
      rcases exists_boundKeys_handOn s (if s.order.isEmpty then g else g.prepend s.order) with
        ⟨entries, _, hentries⟩
      exact Gathering.isOverFields_of_boundKey hentries

/-- A level without subqueries stays one when it gets its keys. -/
theorem Clauses.receive_free {s : Select} (h : s.Clauses Expr.SubqueryFree) (outermost : Bool)
    {g : Gathering} (hg : g.IsOverFields) :
    ((s.receive outermost).run g).1.Clauses Expr.SubqueryFree := by
  rw [receive_run]
  refine h.handOn fun keys hkeys key hkey => ?_
  rcases mem_gathered hg keys hkeys key hkey with hown | hfield
  · exact h.order key hown
  · exact Expr.subqueryFree_of_asField? hfield

end Select

/-- The same expression, which has no subqueries if that is known of another thing. -/
def Expr.SameFree (free : Prop) (e e' : Expr) : Prop :=
  e = e' ∧ (free → e.SubqueryFree)

section

open Hoisting (around)

/-- What hoisting makes of an expression has no subqueries if the expression had none. -/
def Expr.HoistsFree (e : Expr) : Prop :=
  ∀ outermost, around.rel (Expr.SameFree e.SubqueryFree) (e.hoist outermost) (e.hoist outermost)

theorem Expr.HoistsFree.of_free {e : Expr} (h : e.HoistsFree) {free : Prop}
    (hfree : free → e.SubqueryFree) (outermost : Bool) :
    around.rel (Expr.SameFree free) (e.hoist outermost) (e.hoist outermost) :=
  around.mono (h outermost) fun _ _ hsame => ⟨hsame.1, fun hf => hsame.2 (hfree hf)⟩

/-- A level without subqueries is hoisted to one. -/
theorem Select.hoist_free {s : Select} (h : s.Clauses Expr.HoistsFree) (outermost : Bool) :
    around.rel
      (fun a b => a = b ∧ (s.Clauses Expr.SubqueryFree → a.Clauses Expr.SubqueryFree))
      (s.hoist outermost) (s.hoist outermost) := by
  have hclauses : Select.Related (fun p p' => around.rel
      (Expr.SameFree (s.Clauses Expr.SubqueryFree)) (p.hoist false) (p'.hoist false)) s s := by
    refine Select.Clauses.related (Select.clauses_iff.mpr fun p hp => ?_)
    exact (Select.clauses_iff.mp h p hp).of_free
      (fun hfree => Select.clauses_iff.mp hfree p hp) false
  rw [Select.hoist_eq_traverse]
  refine around.bind (around.traverse (fun _ _ hp => hp) hclauses) ?_
  intro a b hrel
  have hsame : a = b := (hrel.imp_of_clauses (Select.clauses_iff.mpr fun _ _ _ hp => hp.1)).eq
  subst hsame
  -- Hoisting a level hoists its clauses, and none of them gains a subquery.
  have hfree : s.Clauses Expr.SubqueryFree → a.Clauses Expr.SubqueryFree := by
    intro hs
    refine Select.clauses_iff.mpr fun c hc => ?_
    rcases exists_right_of_forall₂ hrel.clauses hc with ⟨_, _, hp⟩
    exact hp.2 hs
  exact fun g hg =>
    ⟨⟨rfl, fun hs => (hfree hs).receive_free outermost hg⟩, rfl, receive_isOverFields _ _ _⟩

/-- Hoisting puts no subqueries into an expression. -/
theorem Expr.hoist_free (e : Expr) : e.HoistsFree := by
  induction e using Expr.induct with
  | step e ih =>
      intro outermost
      cases hquery : e.isQuery with
      | false =>
          have hparts : Rebuilt (fun p p' => around.rel (SameFree e.SubqueryFree)
              (p.hoist outermost) (p'.hoist outermost)) e e := by
            refine .same (parts_iff.mpr fun p hp => ?_)
            exact (parts_iff.mp ih p hp).of_free
              (fun hfree => (subqueryFree_iff.mp hfree).2 p hp) outermost
          rw [hoist_eq_traverse outermost hquery]
          refine around.mono (around.rebuilt (fun _ _ hp => hp) hparts) ?_
          rintro a b ⟨hrebuilt, hform⟩
          refine ⟨(hrebuilt.imp fun _ _ hp => hp.1).eq, fun hfree => ?_⟩
          refine subqueryFree_iff.mpr ⟨?_, fun p hp => ?_⟩
          · cases a with
            | subquery s => rw [hquery] at hform; cases hform
            | _ => rfl
          · rcases exists_right_of_forall₂ hrebuilt.parts hp with ⟨_, _, hq⟩
            exact hq.2 hfree
      | true =>
          cases e with
          | select s =>
              rw [hoist]
              refine around.bind (Select.hoist_free ih outermost) ?_
              rintro a _ ⟨rfl, ha⟩
              refine around.pure ⟨rfl, fun hfree => subqueryFree_iff.mpr ⟨rfl, ?_⟩⟩
              exact Select.clauses_iff.mp
                (ha (Select.clauses_iff.mpr (subqueryFree_iff.mp hfree).2))
          | projection s e =>
              rw [hoist]
              refine around.bind (Select.hoist_free ih.1 outermost) ?_
              rintro a _ ⟨rfl, ha⟩
              refine around.bind (ih.2 outermost) ?_
              rintro b _ ⟨rfl, hb⟩
              refine around.pure ⟨rfl, fun hfree => subqueryFree_iff.mpr ⟨rfl, ?_⟩⟩
              have hparts := (subqueryFree_iff.mp hfree).2
              rw [parts, List.forall_mem_append, List.forall_mem_singleton] at hparts ⊢
              rw [← Select.clauses_iff] at hparts ⊢
              exact ⟨ha hparts.1, hb hparts.2⟩
          | subquery s =>
              rw [hoist]
              intro g hg
              refine ⟨⟨rfl, fun hfree => absurd .self (hfree s)⟩, rfl, hg⟩
          | _ => cases hquery

end

end DocumentMapper
