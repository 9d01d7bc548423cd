import DocumentMapper.Proofs.Query.Gathering
import DocumentMapper.Proofs.Query.Induction
import DocumentMapper.Proofs.Query.Nest

/-!
# Runs that agree

What folding makes of an expression does not depend on the number of operators that were
replaced before, and what hoisting makes of it depends only on the keys that are gathered:
the fields that were seen play no part once there are no keys. Both are said of two runs
that agree, and so are the relations of what is made of two expressions.

## Main definitions

* `Folding.Agree`: Two runs of folding, wherever their counts begin.
* `Hoisting.Agree`: Two runs of hoisting with the same keys.

## Theorems

* `Expr.fold_agree`, `Select.fold_agree`: Folding whatever the count.
* `Expr.foldsTo_iff`: What folding makes of an expression, at every count.
* `Expr.hoist_agree`: Hoisting whatever was seen.
* `Select.hoist_source_label`, `Select.hoist_keys_outermost`: What hoisting leaves.
-/

namespace DocumentMapper

/-! ### Relations of results -/

/-- Binding steps that agree. -/
def Relator.except (ε : Type) : Relator (Except ε) where
  rel := Except.Agree
  pure h := h
  bind h hfg := h.bind hfg

namespace Folding

variable {α β γ δ : Type} {R : α → β → Prop} {S : γ → δ → Prop}

/-- Two runs of folding both fail or have related results, wherever their counts begin. -/
def Agree (R : α → β → Prop) (x : Folding α) (y : Folding β) : Prop :=
  ∀ n m, Except.Agree (fun a b => R a.1 b.1) (x.run n) (y.run m)

theorem Agree.bind {x : Folding α} {y : Folding β} {f : α → Folding γ} {g : β → Folding δ}
    (h : Agree R x y) (hfg : ∀ a b, R a b → Agree S (f a) (g b)) :
    Agree S (x >>= f) (y >>= g) := by
  intro n m
  rw [StateT.run_bind, StateT.run_bind]
  exact (h n m).bind fun a b hab => hfg a.1 b.1 hab a.2 b.2

/-- Folding steps that agree. -/
def relator : Relator Folding where
  rel := Agree
  pure h _ _ := h
  bind := Agree.bind

/-- Of two steps neither of which needs the other it does not matter which is the first. -/
theorem Agree.bind_comm {κ κ' : Type} {T : κ → κ' → Prop} {x : Folding α} {x' : Folding β}
    {y : Folding γ} {y' : Folding δ} {f : α → γ → Folding κ} {g : β → δ → Folding κ'}
    (hx : Agree R x x') (hy : Agree S y y')
    (hfg : ∀ a b, R a b → ∀ c d, S c d → Agree T (f a c) (g b d)) :
    Agree T (do let a ← x; let c ← y; f a c) (do let d ← y'; let b ← x'; g b d) := by
  intro n m
  simp only [StateT.run_bind]
  cases hxn : x.run n with
  | error e =>
      -- The first step fails at any count, and so the other run fails at its second step.
      cases hyn : y'.run m with
      | error e' => exact trivial
      | ok d =>
          have hfails := hx n d.2
          rw [hxn] at hfails
          cases hxk : x'.run d.2 with
          | error e' =>
              rw [Except.ok_bind, hxk]
              exact trivial
          | ok b =>
              rw [hxk] at hfails
              exact hfails.elim
  | ok a =>
      rw [Except.ok_bind]
      have hagree := hy a.2 m
      cases hyn : y.run a.2 with
      | error e =>
          rw [hyn] at hagree
          cases hym : y'.run m with
          | error e' => exact trivial
          | ok d =>
              rw [hym] at hagree
              exact hagree.elim
      | ok c =>
          rw [hyn] at hagree
          rcases hagree.exists_right rfl with ⟨d, hd, hcd⟩
          have hagree' := hx n d.2
          rw [hxn] at hagree'
          rcases hagree'.exists_right rfl with ⟨b, hb, hab⟩
          rw [Except.ok_bind, hd, Except.ok_bind, hb, Except.ok_bind]
          exact hfg a.1 b.1 hab c.1 d.1 hcd c.2 b.2

end Folding

/-! ### Folding whatever the count -/

theorem Expr.settle_agree (e : Expr) : Folding.Agree Eq e.settle e.settle := by
  intro n m
  unfold Expr.settle
  split
  · cases e.evaluate none with
    | error err => exact trivial
    | ok v => exact rfl
  · exact rfl

/-- What folding makes of an expression does not depend on where the count begins. -/
theorem Expr.fold_agree (e : Expr) : Folding.Agree Eq e.fold e.fold := by
  induction e using Expr.induct with
  | step e ih =>
      rw [Expr.fold_eq_traverse]
      exact Folding.relator.bind_eq (Folding.relator.rebuilt_eq ih) Expr.settle_agree

/-- What folding makes of an expression, at every count. -/
theorem Expr.foldsTo_iff {e e' : Expr} :
    e.FoldsTo e' ↔ ∀ n, ∃ m, e.fold.run n = .ok (e', m) := by
  constructor
  · rintro ⟨n, m, h⟩ k
    rcases (e.fold_agree n k).exists_right h with ⟨⟨_, l⟩, hk, rfl⟩
    exact ⟨l, hk⟩
  · intro h
    rcases h 0 with ⟨m, h⟩
    exact ⟨0, m, h⟩

theorem Select.fold_agree (s : Select) : Folding.Agree Eq s.fold s.fold := by
  rw [Select.fold_eq_traverse]
  exact Folding.relator.traverse_eq (s.clauses_induct fun e _ => e.fold_agree)

theorem Select.foldsTo_iff {s s' : Select} :
    s.FoldsTo s' ↔ ∀ n, ∃ m, s.fold.run n = .ok (s', m) := by
  constructor
  · rintro ⟨n, m, h⟩ k
    rcases (s.fold_agree n k).exists_right h with ⟨⟨_, l⟩, hk, rfl⟩
    exact ⟨l, hk⟩
  · intro h
    rcases h 0 with ⟨m, h⟩
    exact ⟨0, m, h⟩

theorem Expr.SettlesTo.run {e e' : Expr} (h : e.SettlesTo e') (n : Nat) :
    ∃ m, e.settle.run n = .ok (e', m) := by
  unfold Expr.settle
  rcases h with ⟨hfoldable, rfl⟩ | ⟨v, hfoldable, hv, rfl⟩
  · rw [hfoldable]
    exact ⟨n, rfl⟩
  · rw [if_pos hfoldable, hv]
    exact ⟨n + 1, rfl⟩

/-! ### Hoisting whatever was seen -/

/-- The same keys are gathered. Which fields were seen matters only if there are any. -/
structure Gathering.Same (g g' : Gathering) : Prop where
  keys : g.keys = g'.keys
  seen : g.keys ≠ none → g.seen = g'.seen

namespace Gathering.Same

variable {g g' : Gathering}

theorem refl (g : Gathering) : g.Same g :=
  ⟨rfl, fun _ => rfl⟩

/-- Once the keys are taken it does not matter what was seen. -/
theorem taken (g g' : Gathering) : Same { g with keys := none } { g' with keys := none } :=
  ⟨rfl, fun h => absurd rfl h⟩

theorem prepend_eq (h : g.Same g') (keys : List (Direction × Expr)) :
    g.prepend keys = g'.prepend keys := by
  have hkeys := h.keys
  have hseen := h.seen
  unfold Gathering.prepend
  rw [← hkeys]
  cases hgathered : g.keys with
  | none => rfl
  | some gathered =>
      rw [hgathered] at hseen
      simp only [hseen (Option.some_ne_none gathered)]

end Gathering.Same

namespace Hoisting

variable {α β γ δ : Type} {R : α → β → Prop} {S : γ → δ → Prop}

/-- Two runs of hoisting have related results and gather the same keys. -/
def Agree (R : α → β → Prop) (x : Hoisting α) (y : Hoisting β) : Prop :=
  ∀ g g' : Gathering, g.Same g' →
    R (x.run g).1 (y.run g').1 ∧ (x.run g).2.Same (y.run g').2

theorem Agree.bind {x : Hoisting α} {y : Hoisting β} {f : α → Hoisting γ} {g : β → Hoisting δ}
    (h : Agree R x y) (hfg : ∀ a b, R a b → Agree S (f a) (g b)) :
    Agree S (x >>= f) (y >>= g) := by
  intro k k' hk
  rcases h k k' hk with ⟨hR, hsame⟩
  exact hfg _ _ hR _ _ hsame

/-- Hoisting steps that agree. -/
def relator : Relator Hoisting where
  rel := Agree
  pure h _ _ hg := ⟨h, hg⟩
  bind := Agree.bind

/-- What is hoisted apart does not look at what is gathered around it. -/
theorem Agree.apart {x : Hoisting α} {y : Hoisting β} (h : Agree R x y) :
    Agree R (apart x) (apart y) :=
  fun _ _ hg => ⟨(h {} {} (Gathering.Same.refl _)).1, hg⟩

end Hoisting

theorem Select.handOn_agree (outermost : Bool) (s : Select) {g g' : Gathering}
    (h : g.Same g') :
    (s.handOn outermost g).1 = (s.handOn outermost g').1 ∧
      (s.handOn outermost g).2.Same (s.handOn outermost g').2 := by
  have hkeys := h.keys
  unfold Select.handOn
  rw [← hkeys]
  cases g.keys with
  | none => exact ⟨rfl, Gathering.Same.taken g g'⟩
  | some keys =>
      dsimp only
      split
      next => exact ⟨rfl, Gathering.Same.taken g g'⟩
      next =>
        rw [(Gathering.Same.taken g g').prepend_eq]
        exact ⟨rfl, Gathering.Same.refl _⟩

theorem Select.receive_agree (outermost : Bool) (s : Select) :
    Hoisting.Agree Eq (s.receive outermost) (s.receive outermost) := by
  intro g g' h
  rw [receive_run, receive_run]
  split
  next => exact s.handOn_agree outermost h
  next =>
    rw [h.prepend_eq]
    exact s.handOn_agree outermost (Gathering.Same.refl _)

/-- Whether what hoisting makes of an expression depends on what was seen. -/
def Expr.HoistsUniformly (e : Expr) : Prop :=
  ∀ outermost, Hoisting.Agree Eq (e.hoist outermost) (e.hoist outermost)

theorem Select.hoist_agree_of_clauses (outermost : Bool) {s : Select}
    (h : s.Clauses Expr.HoistsUniformly) :
    Hoisting.Agree Eq (s.hoist outermost) (s.hoist outermost) := by
  rw [Select.hoist_eq_traverse]
  have hclauses := Hoisting.relator.traverse_eq (h.imp fun e he => he false)
  exact Hoisting.relator.bind_eq hclauses (receive_agree outermost)

/-- What hoisting makes of an expression does not depend on what was seen. -/
theorem Expr.hoist_agree (e : Expr) : e.HoistsUniformly := by
  induction e using Expr.induct with
  | step e ih =>
      intro outermost
      -- What is no query is traversed, and hoisting passes through it; a query is a level of its
      -- own.
      cases hquery : e.isQuery with
      | false =>
          rw [Expr.hoist_eq_traverse outermost hquery]
          exact Hoisting.relator.rebuilt_eq (ih.imp fun _ hp => hp outermost)
      | true =>
          cases e with
          | select s =>
              have hlevel := Select.hoist_agree_of_clauses outermost ih
              rw [Expr.hoist]
              exact Hoisting.relator.bind_eq hlevel fun _ => Hoisting.relator.pure rfl
          | projection s e =>
              have hlevel := Select.hoist_agree_of_clauses outermost ih.1
              rw [Expr.hoist]
              exact Hoisting.relator.bind_eq hlevel fun _ =>
                Hoisting.relator.bind_eq (ih.2 outermost) fun _ => Hoisting.relator.pure rfl
          | subquery s =>
              have hlevel := (Select.hoist_agree_of_clauses outermost ih).apart
              rw [Expr.hoist]
              exact Hoisting.relator.bind_eq hlevel fun _ => Hoisting.relator.pure rfl
          | _ => cases hquery

/-! ### What hoisting leaves -/

namespace Select

/-- Hoisting leaves the label of a level, and goes on in its source. -/
theorem hoist_source_label (outermost : Bool) (s : Select) (g : Gathering) :
    ((s.hoist outermost).run g).1.source = ((hoistOption false s.source).run g).1 ∧
      ((s.hoist outermost).run g).1.label = s.label := by
  rw [hoist_run, receive_run]
  exact handOn_source_label _ _ _

/-- The outermost level leaves no keys. -/
theorem hoist_keys_outermost (s : Select) (g : Gathering) :
    ((s.hoist true).run g).2.keys = none := by
  rw [hoist_run, receive_run]
  exact keys_handOn_outermost _ _

end Select

end DocumentMapper
